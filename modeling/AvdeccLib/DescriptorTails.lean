import AvdeccLib.Library.Fetch
import AvdeccLib.Descriptors

namespace AvdeccLib
set_option autoImplicit true

open Fetch

/-- What ends the constructor of a descriptor. -/
inductive ConstructorFault where
  | readDescriptorError
  | assertion
  deriving DecidableEq

/-- The two words of a descriptor's fixed part that say where its variable part is and how many
elements it has. -/
structure TailDesc where
  offset : BitVec 16
  count : BitVec 16
  deriving DecidableEq

/-- A `jdksavdecc_descriptor_*_read`, of a frame from a position on with the length of the
frame. `none` is a negative result. -/
abbrev DescriptorRead := Memory → Nat → Nat → Option TailDesc

def assert (b : Bool) : Except ConstructorFault Unit := if b then pure () else throw .assertion

namespace TailDesc

/-- An accessor of the number of elements that asserts a bound of it. -/
def countUpTo (max : BitVec 16) (d : TailDesc) : Except ConstructorFault (BitVec 16) := do
  assert (d.count ≤ max)
  pure d.count

/-- An accessor of the offset that asserts its value. -/
def offsetAt (value : BitVec 16) (d : TailDesc) : Except ConstructorFault (BitVec 16) := do
  assert (d.offset == value)
  pure d.offset

end TailDesc

/-- A loop that pushes a word in each turn and moves a 16-bit offset on. The offset of the
variable part is only asked for if there is a turn, and what the two accessors assert does not
change from one turn to the next. -/
def wordsInit (frame : Memory) (pos : Nat)
    (count tailOffset : Except ConstructorFault (BitVec 16))
    (start step : BitVec 16) : Except ConstructorFault (Fetched (List (BitVec 16))) := do
  let count ← count
  if count = 0 then pure ([], [])
  else
    let tailOffset ← tailOffset
    let word (offset : BitVec 16) := uint16Get frame (tailOffset.toNat + pos + offset.toNat)
    pure (fetchLoop word (· + step) count.toNat start)

structure AudioMapMapping where
  streamIndex : BitVec 16
  streamChannel : BitVec 16
  clusterOffset : BitVec 16
  clusterChannel : BitVec 16

namespace AudioMapDescriptorImp

def mappingsOffset : TailDesc → Except ConstructorFault (BitVec 16) := TailDesc.offsetAt 8

def numberOfMappings (d : TailDesc) : BitVec 16 := d.count

def map (frame : Memory) (offset : Nat) : Fetched AudioMapMapping :=
  let streamIndex := uint16Get frame offset
  let streamChannel := uint16Get frame (offset + 2)
  let clusterOffset := uint16Get frame (offset + 4)
  let clusterChannel := uint16Get frame (offset + 6)
  (⟨streamIndex.1, streamChannel.1, clusterOffset.1, clusterChannel.1⟩,
    streamIndex.2 ++ streamChannel.2 ++ clusterOffset.2 ++ clusterChannel.2)

/-- The constructor: the `maps` and the positions of the bytes that it read behind the fixed
part. -/
def new (read : DescriptorRead) (frame : Memory) (pos frameLen : Nat) :
    Except ConstructorFault (Fetched (List AudioMapMapping)) :=
  match read frame pos frameLen with
  | none => throw .readDescriptorError
  | some d => do
    let offset := pos + (← mappingsOffset d).toNat
    pure (fetchLoop (map frame) (· + 8) (numberOfMappings d).toNat offset)

end AudioMapDescriptorImp

namespace AudioUnitDescriptorImp

variable (readDescOffset : Nat)

/-- `readDescOffset` stands for `ETHER_HDR_SIZE +
JDKSAVDECC_AEM_COMMAND_READ_DESCRIPTOR_RESPONSE_LEN`. -/
def samplingRatesInit (frame : Memory) (d : TailDesc) : Fetched (List (BitVec 32)) :=
  let samplingRate (offset : BitVec 16) :=
    uint32Get frame (readDescOffset + d.offset.toNat + offset.toNat)
  fetchLoop samplingRate (· + 4) d.count.toNat 0

def new (read : DescriptorRead) (frame : Memory) (pos frameLen : Nat) :
    Except ConstructorFault (Fetched (List (BitVec 32))) :=
  match read frame pos frameLen with
  | none => throw .readDescriptorError
  | some d => pure (samplingRatesInit readDescOffset frame d)

end AudioUnitDescriptorImp

namespace ClockDomainDescriptorImp

def clockSourcesOffset : TailDesc → Except ConstructorFault (BitVec 16) := TailDesc.offsetAt 76

def clockSourcesCount : TailDesc → Except ConstructorFault (BitVec 16) := TailDesc.countUpTo 249

def storeClockSources (frame : Memory) (pos : Nat) (d : TailDesc) :
    Except ConstructorFault (Fetched (List (BitVec 16))) :=
  wordsInit frame pos (clockSourcesCount d) (clockSourcesOffset d) 0 2

def new (read : DescriptorRead) (frame : Memory) (pos frameLen : Nat) :
    Except ConstructorFault (Fetched (List (BitVec 16))) :=
  match read frame pos frameLen with
  | none => throw .readDescriptorError
  | some d => storeClockSources frame pos d

end ClockDomainDescriptorImp

namespace ConfigurationDescriptorImp

def descriptorCountsCount : TailDesc → Except ConstructorFault (BitVec 16) :=
  TailDesc.countUpTo 108

def descriptorCountsOffset : TailDesc → Except ConstructorFault (BitVec 16) :=
  TailDesc.offsetAt 74

def descTypeVecInit (frame : Memory) (pos : Nat) (d : TailDesc) :
    Except ConstructorFault (Fetched (List (BitVec 16))) :=
  wordsInit frame pos (descriptorCountsCount d) (descriptorCountsOffset d) 0 4

def descCountVecInit (frame : Memory) (pos : Nat) (d : TailDesc) :
    Except ConstructorFault (Fetched (List (BitVec 16))) :=
  wordsInit frame pos (descriptorCountsCount d) (descriptorCountsOffset d) 2 4

/-- The reader of this constructor is asserted to succeed. -/
def new (read : DescriptorRead) (frame : Memory) (pos frameLen : Nat) :
    Except ConstructorFault (Fetched (List (BitVec 16) × List (BitVec 16))) :=
  match read frame pos frameLen with
  | none => throw .assertion
  | some d => do
    let types ← descTypeVecInit frame pos d
    let counts ← descCountVecInit frame pos d
    pure ((types.1, counts.1), types.2 ++ counts.2)

end ConfigurationDescriptorImp

/-- The descriptors whose constructors read a variable part. -/
inductive TailKind where
  | audioMap
  | audioUnit
  | clockDomain
  | configuration
  deriving DecidableEq

/-- The positions of the bytes that the constructor reads behind the fixed part. -/
def TailKind.positions (k : TailKind) (readDescOffset : Nat) (read : DescriptorRead)
    (frame : Memory) (pos frameLen : Nat) : Except ConstructorFault (List Nat) :=
  match k with
  | audioMap => Prod.snd <$> AudioMapDescriptorImp.new read frame pos frameLen
  | audioUnit => Prod.snd <$> AudioUnitDescriptorImp.new readDescOffset read frame pos frameLen
  | clockDomain => Prod.snd <$> ClockDomainDescriptorImp.new read frame pos frameLen
  | configuration => Prod.snd <$> ConfigurationDescriptorImp.new read frame pos frameLen

/-- A constructor that does not throw reads only what was received. -/
def StaysWithin (frameLen : Nat) (r : Except ConstructorFault (List Nat)) : Prop :=
  ∀ ps, r = .ok ps → ∀ p ∈ ps, p < frameLen

/-- Either an assert of the constructor stops the program, or there are no elements, or the last
one ends in the frame. The offset of the sampling rates has 16 bits and is back at the first one
after 16384 of them. -/
def TailKind.Fits (k : TailKind) (readDescOffset pos frameLen : Nat) (d : TailDesc) : Prop :=
  match k with
  | audioMap => d.offset ≠ 8 ∨ d.count = 0 ∨ pos + 8 + 8 * d.count.toNat ≤ frameLen
  | audioUnit => d.count = 0 ∨
      readDescOffset + d.offset.toNat + 4 * min d.count.toNat 16384 ≤ frameLen
  | clockDomain => 249 < d.count ∨ d.offset ≠ 76 ∨ d.count = 0 ∨
      pos + 76 + 2 * d.count.toNat ≤ frameLen
  | configuration => 108 < d.count ∨ d.offset ≠ 74 ∨ d.count = 0 ∨
      pos + 74 + 4 * d.count.toNat ≤ frameLen

theorem staysWithin_ok {frameLen : Nat} {ps : List Nat} :
    StaysWithin frameLen (.ok ps) ↔ ∀ p ∈ ps, p < frameLen := by
  constructor
  · intro h
    exact h ps rfl
  · intro h ps' hps
    cases hps
    exact h

theorem staysWithin_error {frameLen : Nat} (f : ConstructorFault) :
    StaysWithin frameLen (.error f) := by
  intro ps h
  cases h

theorem mem_uint16Get {frame : Memory} {pos p : Nat} :
    p ∈ (uint16Get frame pos).2 ↔ pos ≤ p ∧ p < pos + 2 := by
  simp only [uint16Get, List.mem_cons, List.not_mem_nil, or_false]
  omega

theorem mem_uint32Get {frame : Memory} {pos p : Nat} :
    p ∈ (uint32Get frame pos).2 ↔ pos ≤ p ∧ p < pos + 4 := by
  simp only [uint32Get, List.mem_cons, List.not_mem_nil, or_false]
  omega

theorem count_eq_zero_iff {d : TailDesc} : d.count = 0 ↔ d.count.toNat = 0 := by
  constructor
  · intro h
    rw [h]
    rfl
  · intro h
    exact BitVec.eq_of_toNat_eq h

section
variable {read : DescriptorRead} {frame : Memory} {pos frameLen readDescOffset : Nat}
  {d : TailDesc}

theorem AudioMapDescriptorImp.within_iff (h : read frame pos frameLen = some d) :
    StaysWithin frameLen (TailKind.audioMap.positions readDescOffset read frame pos frameLen) ↔
      TailKind.audioMap.Fits readDescOffset pos frameLen d := by
  simp only [TailKind.positions, TailKind.Fits, new, h, mappingsOffset,
    TailDesc.offsetAt, assert, numberOfMappings]
  by_cases ho : d.offset = 8
  · simp only [ho, beq_self_eq_true, if_true, ne_eq, not_true, false_or]
    show StaysWithin frameLen (.ok _) ↔ _
    rw [staysWithin_ok, count_eq_zero_iff, fetchLoop_within_iff (pos + 8) 8 8
      (by decide)]
    · omega
    · intro i _ p
      rw [iterate_add]
      simp only [map, List.mem_append, mem_uint16Get]
      have h8 : (8 : BitVec 16).toNat = 8 := rfl
      omega
  · simp only [ho, beq_iff_eq, if_false, ne_eq, not_false_iff, true_or, iff_true]
    exact staysWithin_error _

theorem AudioUnitDescriptorImp.within_iff (h : read frame pos frameLen = some d) :
    StaysWithin frameLen (TailKind.audioUnit.positions readDescOffset read frame pos frameLen) ↔
      TailKind.audioUnit.Fits readDescOffset pos frameLen d := by
  simp only [TailKind.positions, TailKind.Fits, new, h, samplingRatesInit]
  show StaysWithin frameLen (.ok _) ↔ _
  have hback : Function.IsPeriodicPt (fun x : BitVec 16 => x + 4) 16384 0 := by
    apply BitVec.eq_of_toNat_eq
    rw [iterate_add_toNat]
    rfl
  rw [staysWithin_ok, count_eq_zero_iff, fetchLoop_within_min (by decide) hback,
    fetchLoop_within_iff (readDescOffset + d.offset.toNat) 4 4 (by decide)]
  · omega
  · intro i hi p
    rw [mem_uint32Get, iterate_add_toNat]
    show _ + _ + (0 + 4 * i) % 65536 ≤ _ ∧ _ < _ + _ + (0 + 4 * i) % 65536 + _ ↔ _
    omega

theorem wordsInit_eq (frame : Memory) (pos : Nat) (d : TailDesc)
    (max value start step : BitVec 16) :
    wordsInit frame pos (d.countUpTo max) (d.offsetAt value) start step =
      if max < d.count then .error .assertion
      else if d.count = 0 then .ok ([], [])
      else if d.offset = value then
        .ok (fetchLoop
          (fun offset : BitVec 16 => uint16Get frame (value.toNat + pos + offset.toNat))
          (· + step) d.count.toNat start)
      else .error .assertion := by
  rw [wordsInit, TailDesc.countUpTo, TailDesc.offsetAt, assert, assert]
  by_cases hmax : max < d.count
  · rw [if_pos hmax, decide_eq_false (BitVec.not_le.2 hmax)]
    rfl
  · rw [if_neg hmax, decide_eq_true (BitVec.not_lt.1 hmax)]
    by_cases hcount : d.count = 0
    · simp only [hcount, if_true, pure_bind]
      rfl
    · by_cases ho : d.offset = value
      · simp only [hcount, ho, if_false, if_true, beq_self_eq_true, pure_bind]
        rfl
      · simp only [hcount, ho, if_false, if_true, beq_iff_eq, pure_bind]
        rfl

/-- The running offset of the words does not come back to 0 where the count is bounded. -/
theorem words_within_iff {max start step : BitVec 16} {base : Nat}
    (hbound : start.toNat + step.toNat * max.toNat < 65536) (hmax : d.count ≤ max)
    (hcount : d.count ≠ 0) :
    (∀ p ∈ (fetchLoop (fun offset : BitVec 16 => uint16Get frame (base + offset.toNat))
        (· + step) d.count.toNat start).2, p < frameLen) ↔
      base + start.toNat + step.toNat * (d.count.toNat - 1) + 2 ≤ frameLen := by
  rw [fetchLoop_within_iff (base + start.toNat) step.toNat 2 (by decide),
    or_iff_right fun h => hcount (count_eq_zero_iff.2 h)]
  intro i hi p
  have hle : step.toNat * i ≤ step.toNat * max.toNat :=
    Nat.mul_le_mul_left _ (hi.le.trans (BitVec.le_def.1 hmax))
  rw [mem_uint16Get, iterate_add_toNat, Nat.mod_eq_of_lt (by omega)]
  omega

theorem ClockDomainDescriptorImp.within_iff (h : read frame pos frameLen = some d) :
    StaysWithin frameLen
        (TailKind.clockDomain.positions readDescOffset read frame pos frameLen) ↔
      TailKind.clockDomain.Fits readDescOffset pos frameLen d := by
  simp only [TailKind.positions, TailKind.Fits, new, h, storeClockSources, clockSourcesCount,
    clockSourcesOffset, wordsInit_eq]
  by_cases hmax : 249 < d.count
  · simp only [hmax, if_true, true_or, iff_true]
    exact staysWithin_error _
  · by_cases hcount : d.count = 0
    · simp only [hcount, if_true, true_or, or_true, iff_true]
      show StaysWithin frameLen (.ok [])
      exact staysWithin_ok.2 (List.forall_mem_nil _)
    · by_cases ho : d.offset = 76
      · simp only [hmax, hcount, ho, if_false, if_true, ne_eq, not_true, false_or]
        show StaysWithin frameLen (.ok _) ↔ _
        rw [staysWithin_ok, words_within_iff (by decide) (BitVec.not_lt.1 hmax) hcount]
        rw [count_eq_zero_iff] at hcount
        show 76 + pos + 0 + 2 * (d.count.toNat - 1) + 2 ≤ frameLen ↔ _
        omega
      · simp only [hmax, hcount, ho, if_false, ne_eq, not_false_iff, true_or, or_true, iff_true]
        exact staysWithin_error _

theorem ConfigurationDescriptorImp.within_iff (h : read frame pos frameLen = some d) :
    StaysWithin frameLen
        (TailKind.configuration.positions readDescOffset read frame pos frameLen) ↔
      TailKind.configuration.Fits readDescOffset pos frameLen d := by
  simp only [TailKind.positions, TailKind.Fits, new, h, descTypeVecInit, descCountVecInit,
    descriptorCountsCount, descriptorCountsOffset, wordsInit_eq]
  by_cases hmax : 108 < d.count
  · simp only [hmax, if_true, true_or, iff_true]
    exact staysWithin_error _
  · by_cases hcount : d.count = 0
    · simp only [hcount, if_true, true_or, or_true, iff_true]
      show StaysWithin frameLen (.ok [])
      exact staysWithin_ok.2 (List.forall_mem_nil _)
    · by_cases ho : d.offset = 74
      · simp only [hmax, hcount, ho, if_false, if_true, ne_eq, not_true, false_or]
        show StaysWithin frameLen (.ok (_ ++ _)) ↔ _
        rw [staysWithin_ok, List.forall_mem_append,
          words_within_iff (by decide) (BitVec.not_lt.1 hmax) hcount,
          words_within_iff (by decide) (BitVec.not_lt.1 hmax) hcount]
        rw [count_eq_zero_iff] at hcount
        show 74 + pos + 0 + 4 * (d.count.toNat - 1) + 2 ≤ frameLen ∧
          74 + pos + 2 + 4 * (d.count.toNat - 1) + 2 ≤ frameLen ↔ _
        omega
      · simp only [hmax, hcount, ho, if_false, ne_eq, not_false_iff, true_or, or_true, iff_true]
        exact staysWithin_error _

/-- With a fixed part that its reader accepts, the constructor reads only what was received
exactly if its elements fit into the frame or an assert stops it. -/
theorem tail_within_iff (k : TailKind) (h : read frame pos frameLen = some d) :
    StaysWithin frameLen (k.positions readDescOffset read frame pos frameLen) ↔
      k.Fits readDescOffset pos frameLen d := by
  cases k with
  | audioMap => exact AudioMapDescriptorImp.within_iff h
  | audioUnit => exact AudioUnitDescriptorImp.within_iff h
  | clockDomain => exact ClockDomainDescriptorImp.within_iff h
  | configuration => exact ConfigurationDescriptorImp.within_iff h

end

/-- A reader as it is documented: it wants the fixed part to be in the frame and decodes it. -/
def fixedPartRead (len offsetAt countAt : Nat) : DescriptorRead := fun frame pos frameLen =>
  if frameLen < pos + len then none
  else some ⟨(uint16Get frame (pos + offsetAt)).1, (uint16Get frame (pos + countAt)).1⟩

def TailKind.read : TailKind → DescriptorRead
  | audioMap => fixedPartRead 8 4 6
  | audioUnit => fixedPartRead 144 140 142
  | clockDomain => fixedPartRead 76 72 74
  | configuration => fixedPartRead 74 72 70

/-- An AUDIO_MAP at the position 42 with one mapping. -/
def oneMapping : Memory := fun p => if p = 47 then 8 else if p = 49 then 1 else 0

theorem tail_within_iff_oneMapping :
    StaysWithin 58 (TailKind.audioMap.positions 42 TailKind.audioMap.read oneMapping 42 58) :=
  (tail_within_iff .audioMap (d := ⟨8, 1⟩) rfl).2 (.inr (.inr (Nat.le_refl 58)))

/-- The frame ends with the fixed part, and the mapping is read from behind it. -/
theorem tail_read_behind_frame :
    ¬ ∀ (k : TailKind) (readDescOffset : Nat) (frame : Memory) (pos frameLen : Nat)
        (d : TailDesc),
      k.read frame pos frameLen = some d →
      StaysWithin frameLen (k.positions readDescOffset k.read frame pos frameLen) := by
  intro h
  have hpos := h .audioMap 42 oneMapping 42 50 ⟨8, 1⟩ rfl _ rfl
  exact absurd (hpos 50 List.mem_cons_self) (Nat.lt_irrefl 50)

/-- What the asserts of the accessors ask for. -/
def TailKind.layoutOk (k : TailKind) (d : TailDesc) : Bool :=
  match k with
  | audioMap => d.offset == 8
  | audioUnit => true
  | clockDomain => d.count ≤ 249 && (d.count == 0 || d.offset == 76)
  | configuration => d.count ≤ 108 && (d.count == 0 || d.offset == 74)

section
variable {read : DescriptorRead} {frame : Memory} {pos frameLen readDescOffset : Nat}
  {d : TailDesc}

theorem wordsInit_layout (frame : Memory) (pos : Nat) (d : TailDesc)
    (max value start step : BitVec 16) :
    if d.count ≤ max && (d.count == 0 || d.offset == value) then
      ∃ v, wordsInit frame pos (d.countUpTo max) (d.offsetAt value) start step = .ok v
    else wordsInit frame pos (d.countUpTo max) (d.offsetAt value) start step =
      .error .assertion := by
  rw [wordsInit_eq]
  by_cases hmax : max < d.count
  · rw [if_pos hmax, decide_eq_false (BitVec.not_le.2 hmax), Bool.false_and,
      if_neg Bool.false_ne_true]
  · rw [if_neg hmax, decide_eq_true (BitVec.not_lt.1 hmax), Bool.true_and]
    by_cases hcount : d.count = 0
    · rw [if_pos hcount, beq_iff_eq.2 hcount, Bool.true_or, if_pos rfl]
      exact ⟨_, rfl⟩
    · rw [if_neg hcount, beq_eq_false_iff_ne.2 hcount, Bool.false_or]
      by_cases ho : d.offset = value
      · rw [if_pos ho, beq_iff_eq.2 ho, if_pos rfl]
        exact ⟨_, rfl⟩
      · rw [if_neg ho, beq_eq_false_iff_ne.2 ho, if_neg Bool.false_ne_true]

theorem TailKind.positions_layout (k : TailKind) (readDescOffset : Nat)
    (h : read frame pos frameLen = some d) :
    if k.layoutOk d then ∃ ps, k.positions readDescOffset read frame pos frameLen = .ok ps
    else k.positions readDescOffset read frame pos frameLen = .error .assertion := by
  cases k with
  | audioMap =>
    simp only [layoutOk, positions, AudioMapDescriptorImp.new, h,
      AudioMapDescriptorImp.mappingsOffset, TailDesc.offsetAt, assert]
    cases d.offset == 8 with
    | false => rfl
    | true => exact ⟨_, rfl⟩
  | audioUnit =>
    simp only [layoutOk, if_true, positions, AudioUnitDescriptorImp.new, h]
    exact ⟨_, rfl⟩
  | clockDomain =>
    have hw := wordsInit_layout frame pos d 249 76 0 2
    simp only [layoutOk, positions, ClockDomainDescriptorImp.new, h,
      ClockDomainDescriptorImp.storeClockSources, ClockDomainDescriptorImp.clockSourcesCount,
      ClockDomainDescriptorImp.clockSourcesOffset]
    split at hw
    · next hl =>
      obtain ⟨v, hv⟩ := hw
      rw [if_pos hl, hv]
      exact ⟨_, rfl⟩
    · next hl =>
      rw [if_neg hl, hw]
      rfl
  | configuration =>
    have hw := wordsInit_layout frame pos d 108 74
    simp only [layoutOk, positions, ConfigurationDescriptorImp.new, h,
      ConfigurationDescriptorImp.descTypeVecInit, ConfigurationDescriptorImp.descCountVecInit,
      ConfigurationDescriptorImp.descriptorCountsCount,
      ConfigurationDescriptorImp.descriptorCountsOffset]
    have h₀ := hw 0 4
    have h₂ := hw 2 4
    split at h₀
    · next hl =>
      rw [if_pos hl] at h₂ ⊢
      obtain ⟨v₀, h₀⟩ := h₀
      obtain ⟨v₂, h₂⟩ := h₂
      rw [h₀, h₂]
      exact ⟨_, rfl⟩
    · next hl =>
      rw [if_neg hl, h₀]
      rfl

def TailKind.descType : TailKind → DescType
  | audioMap => .audioMap
  | audioUnit => .audioUnit
  | clockDomain => .clockDomain
  | configuration => .configuration

theorem newDesc_of_positions {k : TailKind} {x : AemDesc} (hk : k ≠ .configuration)
    (ht : x.descriptorType = k.descType) (hr : x.readOk = (read frame pos frameLen).isSome)
    (hl : ∀ d, read frame pos frameLen = some d → x.layoutOk = k.layoutOk d) :
    newDesc x =
      match k.positions readDescOffset read frame pos frameLen with
      | .ok _ => .ok (some x)
      | .error .readDescriptorError => .ok none
      | .error .assertion => .error .assertion := by
  cases h : read frame pos frameLen with
  | none =>
    have hthrow : k.positions readDescOffset read frame pos frameLen =
        .error .readDescriptorError := by
      cases k with
      | configuration => exact absurd rfl hk
      | audioMap => simp only [TailKind.positions, AudioMapDescriptorImp.new, h]; rfl
      | audioUnit => simp only [TailKind.positions, AudioUnitDescriptorImp.new, h]; rfl
      | clockDomain => simp only [TailKind.positions, ClockDomainDescriptorImp.new, h]; rfl
    rw [hthrow, newDesc, hr, h]
    rfl
  | some d =>
    have hlayout := k.positions_layout readDescOffset h
    rw [newDesc, hr, h, ht]
    cases hd : k.layoutOk d with
    | true =>
      rw [hd, if_pos rfl] at hlayout
      obtain ⟨ps, hps⟩ := hlayout
      rw [hps, hl d h, hd]
      cases k <;> rfl
    | false =>
      rw [hd, if_neg Bool.false_ne_true] at hlayout
      rw [hlayout, hl d h, hd]
      cases k with
      | audioUnit => cases hd
      | configuration => exact absurd rfl hk
      | audioMap => rfl
      | clockDomain => rfl

end
end AvdeccLib
