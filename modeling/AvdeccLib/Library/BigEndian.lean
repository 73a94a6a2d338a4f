import Mathlib.Data.Nat.ModEq
import Mathlib.Data.List.Basic
import Mathlib.Tactic.Ring

namespace BigEndian
set_option autoImplicit true

abbrev Byte := BitVec 8

/-- The low `w` bytes of a number, most significant byte first. -/
def bytes : Nat → Nat → List Byte
  | 0, _ => []
  | w + 1, v => BitVec.ofNat 8 (v >>> (8 * w)) :: bytes w v

def value : List Byte → Nat
  | [] => 0
  | b :: bs => b.toNat * 256 ^ bs.length + value bs

@[simp] theorem bytes_length (w v : Nat) : (bytes w v).length = w := by
  induction w with
  | zero => rfl
  | succ w ih => rw [bytes, List.length_cons, ih]

theorem value_bytes (w v : Nat) : value (bytes w v) = v % 256 ^ w := by
  induction w with
  | zero => rw [bytes, value, pow_zero, Nat.mod_one]
  | succ w ih =>
    have hb : (BitVec.ofNat 8 (v >>> (8 * w))).toNat = v / 256 ^ w % 256 := by
      rw [BitVec.toNat_ofNat, Nat.shiftRight_eq_div_pow, Nat.pow_mul]
    rw [bytes, value, bytes_length, ih, hb, Nat.mod_pow_succ]
    ring

/-- A field of a message: its width in bytes and its value. -/
structure Field where
  width : Nat
  val : BitVec (8 * width)
  deriving DecidableEq

def Field.write (f : Field) : List Byte := bytes f.width f.val.toNat

def Field.read (w : Nat) (bs : List Byte) : Option (Field × List Byte) :=
  if w ≤ bs.length then
    some (⟨w, BitVec.ofNat (8 * w) (value (bs.take w))⟩, bs.drop w)
  else none

def writeFields (fs : List Field) : List Byte := fs.flatMap Field.write

def readFields : List Nat → List Byte → Option (List Field × List Byte)
  | [], bs => some ([], bs)
  | w :: ws, bs =>
    (Field.read w bs).bind fun r => (readFields ws r.2).map fun s => (r.1 :: s.1, s.2)

@[simp] theorem Field.write_length (f : Field) : f.write.length = f.width := bytes_length _ _

theorem Field.read_write (f : Field) (rest : List Byte) :
    Field.read f.width (f.write ++ rest) = some (f, rest) := by
  have hlen : f.width ≤ (f.write ++ rest).length := by
    rw [List.length_append, f.write_length]
    exact Nat.le_add_right _ _
  have hval : BitVec.ofNat (8 * f.width) (value f.write) = f.val := by
    apply BitVec.eq_of_toNat_eq
    have h : f.val.toNat < 256 ^ f.width := by
      have h := f.val.isLt
      rwa [Nat.pow_mul] at h
    rw [Field.write, value_bytes, Nat.mod_eq_of_lt h, BitVec.toNat_ofNat,
      Nat.mod_eq_of_lt f.val.isLt]
  rw [Field.read, if_pos hlen, List.take_left' f.write_length, List.drop_left' f.write_length,
    hval]

theorem writeFields_cons (f : Field) (fs : List Field) :
    writeFields (f :: fs) = f.write ++ writeFields fs := List.flatMap_cons

theorem writeFields_append (fs gs : List Field) :
    writeFields (fs ++ gs) = writeFields fs ++ writeFields gs := List.flatMap_append

theorem writeFields_length (fs : List Field) :
    (writeFields fs).length = (fs.map Field.width).sum := by
  induction fs with
  | nil => rfl
  | cons f fs ih =>
    rw [writeFields_cons, List.length_append, f.write_length, ih, List.map_cons, List.sum_cons]

/-- What was written is read back, and what follows it is left alone. -/
theorem readFields_writeFields (fs : List Field) (rest : List Byte) :
    readFields (fs.map Field.width) (writeFields fs ++ rest) = some (fs, rest) := by
  induction fs with
  | nil => rfl
  | cons f fs ih =>
    rw [writeFields_cons, List.append_assoc, List.map_cons, readFields, f.read_write,
      Option.bind_some, ih, Option.map_some]

theorem length_of_readFields (h : readFields ws bs = some (fs, rest)) :
    bs.length = ws.sum + rest.length := by
  induction ws generalizing bs fs with
  | nil =>
    cases h
    rw [List.sum_nil, Nat.zero_add]
  | cons w ws ih =>
    obtain ⟨r, hr, h⟩ := Option.bind_eq_some_iff.1 h
    obtain ⟨s, hs, h⟩ := Option.map_eq_some_iff.1 h
    cases h
    unfold Field.read at hr
    split at hr
    · next hle =>
      cases hr
      have := ih hs
      rw [List.length_drop] at this
      rw [List.sum_cons]
      omega
    · cases hr

/-- Writing past the end of the buffer is refused. -/
def writeAt (pos : Nat) (bs buf : List Byte) : Option (List Byte) :=
  if pos + bs.length ≤ buf.length then
    some (buf.take pos ++ bs ++ buf.drop (pos + bs.length))
  else none

theorem writeAt_eq_some (h : writeAt pos bs buf = some buf') :
    pos + bs.length ≤ buf.length ∧ buf' = buf.take pos ++ bs ++ buf.drop (pos + bs.length) := by
  unfold writeAt at h
  split at h
  · next hle =>
    cases h
    exact ⟨hle, rfl⟩
  · cases h

/-- A buffer that starts with the bytes. -/
def StartsWith (bs buf : List Byte) : Prop := ∃ rest, buf = bs ++ rest

theorem startsWith_of_writeAt (h : writeAt 0 bs buf = some buf') : StartsWith bs buf' := by
  obtain ⟨-, rfl⟩ := writeAt_eq_some h
  exact ⟨_, rfl⟩

theorem StartsWith.writeAt_end (hs : StartsWith as buf)
    (h : writeAt as.length bs buf = some buf') :
    StartsWith (as ++ bs) buf' := by
  obtain ⟨rest, rfl⟩ := hs
  obtain ⟨-, rfl⟩ := writeAt_eq_some h
  rw [List.take_left]
  exact ⟨_, rfl⟩

theorem StartsWith.writeAt_over (hs : StartsWith (as ++ (bs ++ cs)) buf)
    (hl : bs'.length = bs.length) (h : writeAt as.length bs' buf = some buf') :
    StartsWith (as ++ (bs' ++ cs)) buf' := by
  obtain ⟨rest, rfl⟩ := hs
  obtain ⟨-, rfl⟩ := writeAt_eq_some h
  have hdrop : (as ++ (bs ++ cs) ++ rest).drop (as.length + bs'.length) = cs ++ rest := by
    rw [hl, ← List.length_append, ← List.append_assoc as bs cs, List.append_assoc,
      List.drop_left]
  refine ⟨rest, ?_⟩
  rw [hdrop, List.append_assoc as _ rest, List.take_left]
  simp only [List.append_assoc]

theorem StartsWith.take (hs : StartsWith bs buf) (hn : n ≤ bs.length) :
    buf.take n = bs.take n := by
  obtain ⟨rest, rfl⟩ := hs
  exact List.take_append_of_le_length hn

/-- The field of `w` bytes at a position. -/
def get (w pos : Nat) (bs : List Byte) : BitVec (8 * w) :=
  BitVec.ofNat (8 * w) (value ((bs.drop pos).take w))

theorem get_append (as bs : List Byte) (w n : Nat) :
    get w (as.length + n) (as ++ bs) = get w n bs := by
  rw [get, get, List.drop_length_add_append]

theorem get_write (f : Field) (rest : List Byte) : get f.width 0 (f.write ++ rest) = f.val := by
  have h := f.read_write rest
  unfold Field.read at h
  split at h
  · exact eq_of_heq (Field.mk.inj (Prod.mk.inj (Option.some.inj h)).1).2
  · cases h

theorem get_writeFields (fs : List Field) (f : Field) (gs : List Field) (rest : List Byte) :
    get f.width (fs.map Field.width).sum (writeFields (fs ++ f :: gs) ++ rest) = f.val := by
  have h := get_append (writeFields fs) (f.write ++ (writeFields gs ++ rest)) f.width 0
  rw [Nat.add_zero, writeFields_length, get_write] at h
  rwa [writeFields_append, writeFields_cons, List.append_assoc, List.append_assoc]

theorem get_take_append {w q n : Nat} (hq : q + w ≤ n) (hn : n ≤ buf.length)
    (rest : List Byte) :
    get w q (buf.take n ++ rest) = get w q buf := by
  have hlen : (buf.take n).length = n := List.length_take_of_le hn
  have htake : ((buf.take n ++ rest).drop q).take w = (buf.drop q).take w := by
    rw [List.drop_append_of_le_length (by omega),
      List.take_append_of_le_length (by rw [List.length_drop]; omega), List.drop_take,
      List.take_take, Nat.min_eq_left (by omega)]
  rw [get, get, htake]

theorem get_append_front {w q : Nat} (hq : q + w ≤ buf.length) (rest : List Byte) :
    get w q (buf ++ rest) = get w q buf := by
  have h := get_take_append hq le_rfl rest
  rwa [List.take_length] at h

theorem get_writeAt_front {w q : Nat} (h : writeAt pos bs buf = some buf') (hq : q + w ≤ pos) :
    get w q buf' = get w q buf := by
  obtain ⟨hle, rfl⟩ := writeAt_eq_some h
  rw [List.append_assoc]
  exact get_take_append hq (by omega) _

theorem get_writeAt_behind {w q : Nat} (h : writeAt pos bs buf = some buf')
    (hq : pos + bs.length ≤ q) : get w q buf' = get w q buf := by
  obtain ⟨hle, rfl⟩ := writeAt_eq_some h
  have hlen : (buf.take pos ++ bs).length = pos + bs.length := by
    rw [List.length_append, List.length_take_of_le (by omega)]
  obtain ⟨n, rfl⟩ := Nat.exists_eq_add_of_le hq
  have hget := get_append (buf.take pos ++ bs) (buf.drop (pos + bs.length)) w n
  rw [hlen] at hget
  rw [hget, get, get, List.drop_drop]

theorem get_writeAt (fs : List Field) (f : Field) {gs : List Field}
    (h : writeAt pos (writeFields (fs ++ f :: gs)) buf = some buf') :
    get f.width (pos + (fs.map Field.width).sum) buf' = f.val := by
  obtain ⟨hle, rfl⟩ := writeAt_eq_some h
  have hlen : (buf.take pos).length = pos := List.length_take_of_le (by omega)
  have hget := get_append (buf.take pos)
    (writeFields (fs ++ f :: gs) ++ buf.drop (pos + (writeFields (fs ++ f :: gs)).length))
    f.width (fs.map Field.width).sum
  rw [hlen, get_writeFields] at hget
  rw [List.append_assoc, hget]

theorem bytes_add (a b v : Nat) : bytes (a + b) v = bytes a (v >>> (8 * b)) ++ bytes b v := by
  induction a with
  | zero => rw [Nat.zero_add, bytes, List.nil_append]
  | succ a ih =>
    have hshift : v >>> (8 * (a + b)) = v >>> (8 * b) >>> (8 * a) := by
      rw [← Nat.shiftRight_add, Nat.mul_add, Nat.add_comm]
    rw [Nat.succ_add, bytes, ih, bytes, hshift, List.cons_append]

theorem get_two {pos : Nat} (h : pos + 2 ≤ buf.length) :
    get 2 pos buf = get 1 pos buf ++ get 1 (pos + 1) buf := by
  obtain ⟨a, b, rest, hdrop⟩ : ∃ a b rest, buf.drop pos = a :: b :: rest := by
    have hlen : 2 ≤ (buf.drop pos).length := by
      rw [List.length_drop]
      omega
    cases hd : buf.drop pos with
    | nil => simp [hd] at hlen
    | cons a bs =>
      cases bs with
      | nil => simp [hd] at hlen
      | cons b rest => exact ⟨a, b, rest, rfl⟩
  have hnext : buf.drop (pos + 1) = b :: rest := by
    rw [← List.drop_drop, hdrop]
    rfl
  apply BitVec.eq_of_toNat_eq
  have ha := a.isLt
  have hb := b.isLt
  have hone : ∀ (c : Byte) (bs : List Byte), value ((c :: bs).take 1) = c.toNat := by
    intro c bs
    rw [List.take_succ_cons, List.take_zero, value, value]
    exact Nat.mul_one _
  have htwo : value ((a :: b :: rest).take 2) = a.toNat * 256 + b.toNat := by
    rw [List.take_succ_cons, List.take_succ_cons, List.take_zero, value, value, value]
    exact congrArg (a.toNat * 256 + ·) (Nat.mul_one _)
  rw [BitVec.toNat_append]
  simp only [get, hdrop, hnext, hone, htwo, BitVec.toNat_ofNat]
  rw [← Nat.shiftLeft_add_eq_or_of_lt (Nat.mod_lt _ (by decide)), Nat.shiftLeft_eq]
  omega

theorem get_bytes (w v : Nat) (rest : List Byte) :
    get w 0 (bytes w v ++ rest) = BitVec.ofNat (8 * w) v := by
  apply BitVec.eq_of_toNat_eq
  rw [get, List.drop_zero, List.take_left' (bytes_length w v), value_bytes, BitVec.toNat_ofNat,
    BitVec.toNat_ofNat, Nat.pow_mul, Nat.mod_mod]

theorem get_part (a b c : Nat) (v : BitVec (8 * (a + b + c))) (fs : List Field)
    (rest : List Byte) :
    get b a (writeFields (⟨a + b + c, v⟩ :: fs) ++ rest) = v.extractLsb' (8 * c) (8 * b) := by
  have hbytes : Field.write ⟨a + b + c, v⟩ = bytes a (v.toNat >>> (8 * c) >>> (8 * b)) ++
      bytes b (v.toNat >>> (8 * c)) ++ bytes c v.toNat := by
    rw [Field.write, bytes_add, bytes_add]
  have h := get_append (bytes a (v.toNat >>> (8 * c) >>> (8 * b)))
    (bytes b (v.toNat >>> (8 * c)) ++ (bytes c v.toNat ++ (writeFields fs ++ rest))) b 0
  rw [bytes_length, Nat.add_zero, get_bytes] at h
  rw [writeFields_cons, hbytes, List.append_assoc, List.append_assoc, List.append_assoc, h]
  rfl

end BigEndian
