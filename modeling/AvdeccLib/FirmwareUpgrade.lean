import AvdeccLib.ConnectRx
import AvdeccLib.WellFormedCommands
import AvdeccLib.Library.Chunks

namespace AvdeccLib
set_option autoImplicit true
open BigEndian Chunks
open EndStation (deref)

/-- A `std::istream` that is read from its beginning: what is left of it, whether neither
`eofbit` nor `failbit` is set, and `gcount()`. -/
structure IStream where
  rest : List Byte
  good : Bool := true
  gcount : Nat := 0

/-- `read(buffer, n)`, with the buffer as it is after it. A stream that ends before `n` bytes
gives those it has and is no longer good. -/
def IStream.read (is : IStream) (buffer : List Byte) (n : Nat) : IStream × List Byte :=
  if is.good then
    let bs := is.rest.take n
    (⟨is.rest.drop n, bs.length = n, bs.length⟩, bs ++ buffer.drop bs.length)
  else ({ is with gcount := 0 }, buffer)

/-- The arguments of `send_aecp_address_access_cmd`. -/
structure AddressAccessCall where
  mode : BitVec 32
  length : BitVec 32
  address : BitVec 64
  memoryData : List Byte

namespace AddressAccessCall

def cmd (call : AddressAccessCall) : SendCmd :=
  .addressAccess call.mode call.length call.address call.memoryData

def data (call : AddressAccessCall) : List Byte := call.memoryData.take call.length.toNat

/-- What the call writes, and where. -/
def chunk (call : AddressAccessCall) : Nat × List Byte := (call.address.toNat, call.data)

end AddressAccessCall

theorem IStream.read_lt (is : IStream) (buffer : List Byte) (h : is.gcount ≠ 0) :
    (is.read buffer 256).1.rest.length + (if (is.read buffer 256).1.gcount = 0 then 0 else 1) <
      is.rest.length + (if is.gcount = 0 then 0 else 1) := by
  rw [if_neg h]
  unfold read
  split
  · simp only [List.length_drop, List.length_take]
    split <;> omega
  · exact Nat.lt_succ_self _

theorem IStream.gcount_read_le (is : IStream) (buffer : List Byte) :
    (is.read buffer 256).1.gcount ≤ 256 := by
  rw [IStream.read]
  split
  · exact List.length_take_le 256 is.rest
  · exact Nat.zero_le 256

theorem IStream.length_read (is : IStream) {buffer : List Byte}
    (h : buffer.length = 256) : (is.read buffer 256).2.length = 256 := by
  rw [IStream.read]
  split
  · simp only [List.length_append, List.length_drop, List.length_take, h]
    omega
  · exact h

/-- The loop of `cmd_firmware_upgrade`: the calls it makes, when write `k` and those behind it
report the statuses. `current` is converted to an `int` and from there to the address. -/
def transfer (writeStatus : Nat → BitVec 32) (k : Nat) (current : BitVec 64) (is : IStream)
    (buffer : List Byte) : List AddressAccessCall :=
  if is.gcount = 0 then []
  else
    ⟨1, BitVec.ofNat 32 is.gcount, (current.setWidth 32).signExtend 64, buffer⟩ ::
      if writeStatus k ≠ 0 then []
      else
        transfer writeStatus (k + 1) (current + 256)
          (is.read buffer 256).1 (is.read buffer 256).2
termination_by is.rest.length + (if is.gcount = 0 then 0 else 1)
decreasing_by exact is.read_lt buffer ‹_›

/-- The first read, and the loop. The buffer is a local variable that was not assigned. -/
def transferImage (writeStatus : Nat → BitVec 32) (image : List Byte)
    (buffer : Vector Byte 256) :
    List AddressAccessCall :=
  let r := IStream.read ⟨image, true, 0⟩ buffer.toList 256
  transfer writeStatus 0 0 r.1 r.2

/-- `cmd_firmware_upgrade`, up to the question whether to reboot: what it sends to the current
end station. `image` is `none` if the file can not be opened. -/
def CmdLine.cmdFirmwareUpgrade (c : CmdLine) (currentEndStation : BitVec 32)
    (image : Option (List Byte)) (buffer : Vector Byte 256) (eraseStatus : BitVec 32)
    (writeStatus : Nat → BitVec 32) : Except Fault (List SendCmd) :=
  match image, c.getCurrentConfigDesc currentEndStation with
  | some image, some configuration => do
    let memoryObject ← deref (configuration.getDescByIndex .memoryObject 0)
    pure (.startOperation memoryObject 3 ::
      if eraseStatus ≠ 0 then []
      else (transferImage writeStatus image buffer).map AddressAccessCall.cmd)
  | _, _ => pure []

section
variable {a k : Nat} {l : List Byte} {current : BitVec 64} {is : IStream} {buffer : List Byte}
  {writeStatus : Nat → BitVec 32} {call : AddressAccessCall}

/-- The head of the loop, with `l` of the image still to be written from address `a` on: the
next chunk of it is in the buffer. -/
structure Loaded (a : Nat) (l : List Byte) (current : BitVec 64) (is : IStream)
    (buffer : List Byte) : Prop where
  gcount : is.gcount = min 256 l.length
  rest : is.rest = l.drop 256
  good : is.good = decide (256 ≤ l.length)
  size : buffer.length = 256
  data : buffer.take is.gcount = l.take 256
  current : current.toNat = a

theorem loaded_read (hrest : is.rest = l) (hgood : is.good = true) (hsize : buffer.length = 256)
    (hcurrent : current.toNat = a) :
    Loaded a l current (is.read buffer 256).1 (is.read buffer 256).2 := by
  subst hrest
  have hlen : (is.rest.take 256).length = min 256 is.rest.length := List.length_take
  unfold IStream.read
  rw [if_pos hgood]
  constructor
  case gcount => exact hlen
  case rest => rfl
  case good =>
    simp only [hlen, decide_eq_decide]
    omega
  case size =>
    simp only [List.length_append, List.length_drop, hlen]
    omega
  case data => exact List.take_left
  case current => exact hcurrent

theorem Loaded.read (h : Loaded a l current is buffer) (ha : a + 256 < 2 ^ 64) :
    Loaded (a + 256) (l.drop 256) (current + 256) (is.read buffer 256).1
      (is.read buffer 256).2 := by
  have hcurrent : (current + 256).toNat = a + 256 := by
    have hc := h.current
    rw [BitVec.toNat_add, hc]
    exact Nat.mod_eq_of_lt ha
  by_cases hl : 256 ≤ l.length
  · have hgood : is.good = true := h.good.trans (decide_eq_true hl)
    exact loaded_read h.rest hgood h.size hcurrent
  · have hgood : is.good = false := h.good.trans (decide_eq_false hl)
    have hnil : l.drop 256 = [] := List.drop_of_length_le (Nat.le_of_not_le hl)
    have hread : is.read buffer 256 = ({ is with gcount := 0 }, buffer) := by
      rw [IStream.read, hgood]
      rfl
    rw [hread, hnil]
    exact ⟨rfl, h.rest.trans hnil, hgood, h.size, rfl, hcurrent⟩

/-- The call that the loop makes at its head. -/
def headCall (current : BitVec 64) (is : IStream) (buffer : List Byte) : AddressAccessCall :=
  ⟨1, BitVec.ofNat 32 is.gcount, (current.setWidth 32).signExtend 64, buffer⟩

/-- A call that a frame has room for, with as much data as it tells. -/
structure AddressAccessCall.Fits (call : AddressAccessCall) : Prop where
  mode : call.mode = 1
  length : call.length.toNat ≤ 256
  data : call.length.toNat ≤ call.memoryData.length

theorem Loaded.toNat_length (h : Loaded a l current is buffer) :
    (headCall current is buffer).length.toNat = min 256 l.length := by
  have hg := h.gcount
  rw [headCall, BitVec.toNat_ofNat, hg]
  apply Nat.mod_eq_of_lt
  omega

theorem Loaded.fits (h : Loaded a l current is buffer) : (headCall current is buffer).Fits where
  mode := rfl
  length := by
    rw [h.toNat_length]
    exact Nat.min_le_left _ _
  data := by
    rw [h.toNat_length]
    exact (Nat.min_le_left _ _).trans h.size.ge

/-- The conversions of the position keep an address below 2 GiB. -/
theorem Loaded.chunk (h : Loaded a l current is buffer) (ha : a < 2 ^ 31) :
    (headCall current is buffer).chunk = (a, l.take 256) := by
  have hc := h.current
  have haddress : (headCall current is buffer).address.toNat = a := by
    have hset : (current.setWidth 32).toNat = a := by
      rw [BitVec.toNat_setWidth, hc]
      apply Nat.mod_eq_of_lt
      omega
    have hmsb : (current.setWidth 32).msb = false := by
      rw [BitVec.msb_eq_false_iff_two_mul_lt, hset]
      omega
    rw [headCall, BitVec.signExtend_eq_setWidth_of_msb_false hmsb,
      BitVec.toNat_setWidth_of_le (by decide), hset]
  have hdata : (headCall current is buffer).data = l.take 256 := by
    rw [AddressAccessCall.data, h.toNat_length, ← h.gcount]
    exact h.data
  rw [AddressAccessCall.chunk, haddress, hdata]

theorem transfer_chunked (hok : ∀ k, writeStatus k = 0) (h : Loaded a l current is buffer)
    (ha : l ≠ [] → a + l.length < 2 ^ 31) :
    Chunked 256 a l ((transfer writeStatus k current is buffer).map AddressAccessCall.chunk) ∧
      ∀ call ∈ transfer writeStatus k current is buffer, call.Fits := by
  fun_induction transfer writeStatus k current is buffer generalizing a l with
  | case1 k current is buffer hzero =>
    have hg := h.gcount
    have hnil : l = [] := List.length_eq_zero_iff.1 (by omega)
    subst hnil
    exact ⟨.nil, List.forall_mem_nil _⟩
  | case2 k current is buffer hzero ih =>
    have hg := h.gcount
    have hne : l ≠ [] := by
      rintro rfl
      exact hzero hg
    have hlt := ha hne
    have hread : Loaded (a + 256) (l.drop 256) (current + 256) _ _ := h.read (by omega)
    have hrest : l.drop 256 ≠ [] → a + 256 + (l.drop 256).length < 2 ^ 31 := by
      intro hne
      have hpos := List.length_pos_iff.2 hne
      rw [List.length_drop] at hpos ⊢
      omega
    obtain ⟨hchunked, hfits⟩ := ih hread hrest
    rw [if_neg (not_not.2 (hok k)), ← headCall]
    constructor
    · have hpos := List.length_pos_iff.2 hne
      rw [List.map_cons, h.chunk (by omega)]
      apply hchunked.cons_take hne (by decide)
    · exact List.forall_mem_cons.2 ⟨h.fits, hfits⟩

theorem transfer_of_gcount (writeStatus : Nat → BitVec 32) (k : Nat) (h : is.gcount ≠ 0) :
    transfer writeStatus k current is buffer = headCall current is buffer ::
      if writeStatus k ≠ 0 then []
      else transfer writeStatus (k + 1) (current + 256) (is.read buffer 256).1
        (is.read buffer 256).2 := by
  rw [transfer, if_neg h]
  rfl

/-- A failed write ends the transfer, and nothing before it depends on the statuses. -/
theorem transfer_eq_upToFirst (writeStatus : Nat → BitVec 32) (k : Nat) (current : BitVec 64)
    (is : IStream) (buffer : List Byte) :
    transfer writeStatus k current is buffer =
      upToFirst (fun k => writeStatus k ≠ 0) k (transfer (fun _ => 0) k current is buffer) := by
  fun_induction transfer writeStatus k current is buffer with
  | case1 k current is buffer hzero =>
    rw [transfer, if_pos hzero]
    rfl
  | case2 k current is buffer hzero ih =>
    have hok : ¬ (0 : BitVec 32) ≠ 0 := not_not.2 rfl
    rw [ih, transfer_of_gcount (fun _ => 0) k hzero, if_neg hok, upToFirst]
    simp only [decide_eq_true_eq]
    rfl

theorem transferImage_eq_upToFirst (writeStatus : Nat → BitVec 32) (image : List Byte)
    (buffer : Vector Byte 256) :
    transferImage writeStatus image buffer =
      upToFirst (fun k => writeStatus k ≠ 0) 0 (transferImage (fun _ => 0) image buffer) :=
  transfer_eq_upToFirst writeStatus 0 0 _ _

theorem transferImage_partition {image : List Byte} (himage : image.length < 2 ^ 31)
    (buffer : Vector Byte 256) :
    Partition 256 image
      ((transferImage (fun _ => 0) image buffer).map AddressAccessCall.chunk) ∧
      ∀ call ∈ transferImage (fun _ => 0) image buffer, call.Fits := by
  have hloaded : Loaded 0 image 0 (IStream.read ⟨image, true, 0⟩ buffer.toList 256).1 _ :=
    loaded_read rfl rfl buffer.length_toList rfl
  obtain ⟨hchunked, hfits⟩ := transfer_chunked (fun _ => rfl) hloaded fun _ => by omega
  exact ⟨hchunked.partition, hfits⟩

end

section
variable {macAddr : Mac} {locals : Locals} {es : EndStation} {nid : Ptr}
  {call : AddressAccessCall}

theorem exists_writeOr (stop : SendStop) {pos w : Nat} {bs : List Byte} {f : CmdFrame}
    (hw : bs.length = w) (h : pos + w ≤ f.payload.length) :
    ∃ f', writeOr stop pos bs f = .ok f' ∧ f'.payload.length = f.payload.length ∧
      f'.length = f.length := by
  subst hw
  refine ⟨⟨f.length, f.payload.take pos ++ bs ++ f.payload.drop (pos + bs.length)⟩, ?_, ?_, rfl⟩
  · rw [writeOr, writeAt, if_pos h]
    rfl
  · simp only [List.length_append, List.length_take, List.length_drop]
    omega

theorem AddressAccessCall.Fits.sends (h : call.Fits)
    (hpayload : 48 + call.length.toNat ≤ locals.payload.length) :
    ∃ q, call.cmd.send macAddr locals es nid = .ok q := by
  have hlen := h.length
  have hdata : ¬ call.memoryData.length < call.length.toNat := Nat.not_lt.2 h.data
  have htake : (call.memoryData.take call.length.toNat).length = call.length.toNat :=
    List.length_take_of_le h.data
  obtain ⟨f₁, h₁, hp₁, hl₁⟩ : ∃ f', etherFrameInit macAddr locals es.mac
        (etherHdrSize + aecpduAaLen + aecpduAaTlvLen + call.length.toNat) = .ok f' ∧
      f'.payload.length = locals.payload.length ∧ f'.length = _ :=
    exists_writeOr (w := 14) .outOfBounds (EtherHdr.fields_length _) (by dsimp only; omega)
  have hroom₂ : etherHdrSize + 24 ≤ f₁.payload.length := by
    rw [hp₁, etherHdrSize]
    omega
  obtain ⟨f₂, h₂, hp₂, hl₂⟩ := exists_writeOr .returned
    (EndStation.aaHeader macAddr).write_length hroom₂
  have hroom₃ : etherHdrSize + aecpduAaLen + 10 ≤ f₂.payload.length := by
    rw [hp₂, hp₁, etherHdrSize, aecpduAaLen]
    omega
  obtain ⟨f₃, h₃, hp₃, hl₃⟩ := exists_writeOr .returned
    (writeFields_length (EndStation.aaTlv call.mode call.length call.address)) hroom₃
  have hroom₄ : etherHdrSize + aecpduAaLen + aecpduAaTlvLen + call.length.toNat ≤
      f₃.payload.length := by
    rw [hp₃, hp₂, hp₁]
    exact hpayload
  obtain ⟨f₄, h₄, hp₄, hl₄⟩ := exists_writeOr .outOfBounds htake hroom₄
  obtain ⟨f₅, h₅, hp₅, hl₅⟩ : ∃ f', commonHdrInit .addressAccessCommand f₄ es.entityId
      (aecpduAaLen + aecpduAaTlvLen + call.length.toNat - commonControlHeaderLen) = .ok f' ∧
      f'.payload.length = f₄.payload.length ∧ f'.length = f₄.length :=
    exists_writeOr (w := 12) _ (CommonControlHeader.fields_length _)
      (by rw [hp₄, hp₃, hp₂, hp₁, etherHdrSize]; omega)
  have hl : f₅.length.toNat ≤ f₅.payload.length := by
    rw [hl₅, hl₄, hl₃, hl₂, hl₁, hp₅, hp₄, hp₃, hp₂, hp₁]
    exact (Nat.mod_le _ _).trans hpayload
  refine ⟨⟨nid, .cmdWithNotification, f₅.payload.take f₅.length.toNat⟩, ?_⟩
  apply Outcome.bind_eq_ok.2 ⟨f₁, h₁, _⟩
  apply Outcome.bind_eq_ok.2 ⟨f₂, h₂, _⟩
  apply Outcome.bind_eq_ok.2 ⟨f₃, h₃, _⟩
  rw [if_neg hdata]
  apply Outcome.bind_eq_ok.2 ⟨f₄, h₄, _⟩
  apply Outcome.bind_eq_ok.2 ⟨f₅, h₅, _⟩
  rw [systemQueueTx, if_pos hl]
  rfl

theorem AddressAccessCall.Fits.length_data (h : call.Fits) :
    call.data.length = call.length.toNat := List.length_take_of_le h.data

theorem AddressAccessCall.Fits.carried (h : call.Fits)
    (hsend : call.cmd.send macAddr locals es nid = .ok q) :
    (Meaning.addressAccess ⟨1, call.length, call.address⟩ call.data).Carried macAddr es
      q.frame := by
  have hlen := h.length
  have hmode : call.mode.toNat < 16 := by
    rw [h.mode]
    decide
  have hcarried := (addressAccess_carried_iff hsend).2 ⟨hmode, by omega⟩
  rwa [h.mode] at hcarried

theorem cmdFirmwareUpgrade_eq {c : CmdLine} {currentEndStation : BitVec 32}
    {configuration : ConfigurationDescriptor} {memoryObject : AemDesc}
    (hconfig : c.getCurrentConfigDesc currentEndStation = some configuration)
    (hobject : configuration.getDescByIndex .memoryObject 0 = some memoryObject)
    (image : List Byte) (buffer : Vector Byte 256) (writeStatus : Nat → BitVec 32) :
    c.cmdFirmwareUpgrade currentEndStation (some image) buffer 0 writeStatus =
      .ok (.startOperation memoryObject 3 ::
        (transferImage writeStatus image buffer).map AddressAccessCall.cmd) := by
  simp only [CmdLine.cmdFirmwareUpgrade, hconfig, hobject]
  rfl

/-- The calls write the image in consecutive chunks, each queues a frame that decodes to it, and
a write that fails is the last one. The frame of a sender has room for a full chunk. -/
theorem firmware_image_transfer {c : CmdLine} {currentEndStation : BitVec 32}
    {configuration : ConfigurationDescriptor} {memoryObject : AemDesc} {image : List Byte}
    (hconfig : c.getCurrentConfigDesc currentEndStation = some configuration)
    (hobject : configuration.getDescByIndex .memoryObject 0 = some memoryObject)
    (himage : image.length < 2 ^ 31) (buffer : Vector Byte 256) :
    ∃ calls : List AddressAccessCall,
      Partition 256 image (calls.map AddressAccessCall.chunk) ∧
      (∀ call ∈ calls, call.mode = 1 ∧ call.data.length = call.length.toNat ∧
        ∀ macAddr es nid (locals : Locals), 304 ≤ locals.payload.length →
          ∃ q, call.cmd.send macAddr locals es nid = .ok q ∧
            (Meaning.addressAccess ⟨1, call.length, call.address⟩ call.data).Carried macAddr es
              q.frame) ∧
      ∀ writeStatus, ∃ issued,
        c.cmdFirmwareUpgrade currentEndStation (some image) buffer 0 writeStatus =
          .ok (.startOperation memoryObject 3 :: issued.map AddressAccessCall.cmd) ∧
        ((∀ k < calls.length, writeStatus k = 0) → issued = calls) ∧
        ∀ k < calls.length, (∀ j < k, writeStatus j = 0) → writeStatus k ≠ 0 →
          issued = calls.take (k + 1) := by
  obtain ⟨hpartition, hfits⟩ := transferImage_partition himage buffer
  refine ⟨transferImage (fun _ => 0) image buffer, hpartition, ?_, ?_⟩
  · intro call hcall
    have h := hfits call hcall
    refine ⟨h.mode, h.length_data, ?_⟩
    intro macAddr es nid locals hpayload
    have hlen := h.length
    obtain ⟨q, hq⟩ : ∃ q, call.cmd.send macAddr locals es nid = .ok q := h.sends (by omega)
    exact ⟨q, hq, h.carried hq⟩
  · intro writeStatus
    refine ⟨transferImage writeStatus image buffer,
      cmdFirmwareUpgrade_eq hconfig hobject image buffer writeStatus, ?_, ?_⟩
    · intro hok
      rw [transferImage_eq_upToFirst]
      apply upToFirst_eq_self
      intro k hk
      rw [Nat.zero_add, hok k hk]
      rfl
    · intro k _ hok hfail
      rw [transferImage_eq_upToFirst]
      apply upToFirst_eq_take
      · intro j hj
        rw [Nat.zero_add, hok j hj]
        rfl
      · rw [Nat.zero_add]
        exact decide_eq_true hfail

end

/-- An end station with a memory object, which is selected. -/
def memoryObjectStation : CmdLine where
  controller :=
    { Controller.new 0 with
      endStationVec :=
        [{ unreadStation with
          entityDescVec :=
            [⟨{ descriptorType := .entity, descriptorIndex := 0 },
              [⟨{ descriptorType := .configuration, descriptorIndex := 0 }, fun _ =>
                [{ descriptorType := .memoryObject, descriptorIndex := 0 }]⟩]⟩] }] }
  selection _ := {}
  testMode := false

/-- An image of one full chunk and 44 bytes. -/
theorem firmware_image_transfer_two :
    ∃ calls : List AddressAccessCall,
      Partition 256 (List.replicate 300 5) (calls.map AddressAccessCall.chunk) ∧
      (∀ call ∈ calls, ∃ q, call.cmd.send 7 ⟨List.replicate 304 0, .zero, 0⟩ unreadStation 1 =
        .ok q) ∧
      ∃ issued, memoryObjectStation.cmdFirmwareUpgrade 0 (some (List.replicate 300 5))
          (Vector.replicate 256 0) 0 (fun _ => 0) =
        .ok (.startOperation { descriptorType := .memoryObject, descriptorIndex := 0 } 3 ::
          issued.map AddressAccessCall.cmd) ∧ issued = calls := by
  have hconfig : memoryObjectStation.getCurrentConfigDesc 0 = some _ := rfl
  have himage : (List.replicate 300 (5 : Byte)).length < 2 ^ 31 := by
    rw [List.length_replicate]
    decide
  obtain ⟨calls, hpartition, hcalls, hrun⟩ :=
    firmware_image_transfer hconfig rfl himage (Vector.replicate 256 0)
  refine ⟨calls, hpartition, ?_, ?_⟩
  · intro call hcall
    obtain ⟨-, -, hsend⟩ := hcalls call hcall
    obtain ⟨q, hq, -⟩ := hsend 7 unreadStation 1 ⟨List.replicate 304 0, .zero, 0⟩
      (List.length_replicate).ge
    exact ⟨q, hq⟩
  · obtain ⟨issued, hissued, hall, -⟩ := hrun fun _ => 0
    exact ⟨issued, hissued, hall fun _ _ => rfl⟩

end AvdeccLib
