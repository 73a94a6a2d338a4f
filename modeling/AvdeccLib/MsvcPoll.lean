import AvdeccLib.AdpTracking

namespace AvdeccLib
set_option autoImplicit true

open Runs Outcome

/-- `system_message_queue`: the entries that can be popped, and the counts of its semaphores. -/
structure SystemMessageQueue (α : Type) where
  entries : List α
  spaceAvail : Nat
  dataAvail : Nat

namespace SystemMessageQueue

def new (entryCount : Nat) : SystemMessageQueue α := ⟨[], entryCount, 0⟩

/-- The wait for `space_avail` in `queue_push`. -/
def takeSpace (q : SystemMessageQueue α) : SystemMessageQueue α :=
  { q with spaceAvail := q.spaceAvail - 1 }

/-- What `queue_push` does behind the wait. -/
def store (d : α) (q : SystemMessageQueue α) : SystemMessageQueue α :=
  { q with entries := q.entries ++ [d], dataAvail := q.dataAvail + 1 }

/-- `queue_pop_nowait`, behind a wait that has taken one of `data_avail`. -/
def pop (rest : List α) (q : SystemMessageQueue α) : SystemMessageQueue α :=
  { entries := rest, spaceAvail := q.spaceAvail + 1, dataAvail := q.dataAvail - 1 }

end SystemMessageQueue

/-- Where the poll thread is in `poll_single`: in `WaitForMultipleObjects`, or with these frames
left to push, in front of or behind the tick. -/
inductive PollPc where
  | waitForEvents
  | queuePush (frames : List TxData) (ticked : Bool)
  deriving DecidableEq

def PollPc.frames : PollPc → List TxData
  | .waitForEvents => []
  | .queuePush frames _ => frames

/-- The Windows `system_layer2_multithreaded_callback`: the controller that the poll thread
runs, `tx_queue`, and the frames of the app threads that have taken their space in it. -/
structure MsvcSystem where
  controller : Controller
  txQueue : SystemMessageQueue TxData
  storing : List TxData
  poll : PollPc

namespace EndStation

/-- How many reads `background_read_submit_pending` sends. -/
def submits (es : EndStation) : Nat :=
  match es.backgroundReadInflight, es.backgroundReadPending with
  | [], b :: rest => (batch b rest).length
  | _, _ => 0

/-- How many it sends behind a READ_DESCRIPTOR response. -/
def submitsFor (es : EndStation) (status : BitVec 5) (d : AemDesc) : Nat :=
  match es.storeAndDeduce status d with
  | .ok es => (es.backgroundReadUpdateInflight d).submits
  | .error _ => 0

end EndStation

namespace Controller

/-- How many frames an ADP frame makes the library send: the ENTITY read of a station that is
new or enumerated again. -/
def adpFrames (c : Controller) (frame : AdpFrame) : Nat :=
  let adpdu := frame.adpdu.getD zeroAdpdu
  if adpdu.generalControllerIgnore || adpdu.entityNotReady then 0
  else if adpdu.entityId = 0 then 0
  else
    match c.lastEndStation adpdu.entityId with
    | none => 1
    | some (es, _) => if reenumerates es adpdu then 1 else 0

def aecpFrames (c : Controller) (f : AecpFrame) : Nat :=
  match c.findInEndStation f.targetEntityId f.controllerEntityId with
  | some (es, _) =>
    if f.destMac = c.globals.macAddr ∧ f.messageType = .aemResponse ∧
      f.commandType = .readDescriptor ∧ f.respReadOk = true then
      es.submitsFor f.status f.descriptor
    else 0
  | none => 0

def rxFrames (c : Controller) (frame : RxFrame) : Nat :=
  if c.accepts frame.destMac then
    match frame with
    | .adp f => c.adpFrames f
    | .aecp f => c.aecpFrames f
    | .acmp _ | .other _ => 0
  else 0

/-- How many frames a tick makes the library send: the next batch of each station. -/
def tickFrames (c : Controller) (now : Timestamp) : Nat :=
  (c.endStationVec.map fun es => (es.backgroundReadUpdateTimeouts now).submits).sum

end Controller

/-- A handler that queues no frame. -/
def KeepsPipe (handler : RespHandler φ) : Prop :=
  ∀ frame g out g' out', handler frame g out = .ok (g', out') → g'.txPipe = g.txPipe

theorem aside_txPipe : Aside Globals.txPipe := ⟨fun _ _ _ _ _ => rfl, fun _ _ => rfl⟩

theorem keepsPipe_procStartOperationResp : KeepsPipe procStartOperationResp := by
  intro frame g out g' out' h
  rw [procStartOperationResp] at h
  split at h
  · cases h
    rfl
  · dsimp only at h
    split at h
    · cases h
      rfl
    · cases h
      rfl

theorem keepsPipe_procOperationStatusResp : KeepsPipe procOperationStatusResp := by
  intro frame g out g' out' h
  rw [procOperationStatusResp] at h
  split at h
  · cases h
    rfl
  · cases h
    rfl

namespace EndStation

theorem keepsPipe_aemRespHandler (es : EndStation) (frame : AecpFrame) :
    KeepsPipe (es.aemRespHandler frame) :=
  keeps_aemRespHandler aside_txPipe (fun _ => keepsPipe_procStartOperationResp)
    fun _ => keepsPipe_procOperationStatusResp

theorem keepsPipe_procRcvdAcmpResp (es : EndStation) : KeepsPipe es.procRcvdAcmpResp :=
  keeps_procRcvdAcmpResp (fun _ _ => rfl) fun _ _ => rfl

theorem submitPending_length {es es' : EndStation} {mac : Mac} {now : Timestamp}
    {tx : List TxData} (h : es.backgroundReadSubmitPending mac now = .ok (es', tx)) :
    tx.length = es.submits := by
  cases hi : es.backgroundReadInflight with
  | cons r l =>
    simp only [backgroundReadSubmitPending, hi] at h
    cases h
    simp only [submits, hi, List.length_nil]
  | nil =>
    cases hp : es.backgroundReadPending with
    | nil =>
      simp only [backgroundReadSubmitPending, hi, hp] at h
      cases h
      simp only [submits, hi, hp, List.length_nil]
    | cons b rest =>
      simp only [backgroundReadSubmitPending, hi, hp] at h
      obtain ⟨tx', htx, h⟩ := bind_eq_ok.1 h
      cases h
      have hmap := mapM_map (k := fun _ => ()) (g := fun _ => ()) htx fun _ _ _ => rfl
      have hlen := congrArg List.length hmap
      rw [List.length_map, List.length_map] at hlen
      simp only [submits, hi, hp]
      exact hlen

theorem rcvdDescriptor_length {es es' : EndStation} {mac : Mac} {now : Timestamp}
    {status : BitVec 5} {d : AemDesc} {tx : List TxData} {posts : List Notification}
    (h : es.rcvdDescriptor mac now status d = .ok (es', tx, posts)) :
    tx.length = es.submitsFor status d := by
  obtain ⟨es₁, h₁, h⟩ := bind_eq_ok.1 h
  obtain ⟨⟨es₂, tx₂⟩, h₂, h⟩ := bind_eq_ok.1 h
  cases h
  rw [submitsFor, h₁]
  exact submitPending_length h₂

theorem procRcvdAemResp_length {es es' : EndStation} {now : Timestamp} {frame : AecpFrame}
    {g g' : Globals} {out out' : RxOut}
    (h : es.procRcvdAemResp now frame g out = .ok (g', es', out')) :
    g'.txPipe.length = g.txPipe.length +
      if frame.commandType = .readDescriptor ∧ frame.respReadOk = true then
        es.submitsFor frame.status frame.descriptor else 0 := by
  rw [procRcvdAemResp] at h
  split at h
  · next hc =>
    rw [procReadDescResp] at h
    cases hr : frame.respReadOk with
    | false =>
      rw [hr] at h
      cases h
      rw [if_neg fun hn => Bool.false_ne_true hn.2]
      rfl
    | true =>
      simp only [hr, Bool.not_true, Bool.false_eq_true, if_false] at h
      obtain ⟨⟨es₁, tx, posts⟩, hrcvd, h⟩ := bind_eq_ok.1 h
      cases h
      rw [if_pos ⟨hc, rfl⟩, ← rcvdDescriptor_length hrcvd]
      exact List.length_append
  · next hc =>
    obtain ⟨⟨g₁, out₁⟩, hh, h⟩ := bind_eq_ok.1 h
    cases h
    rw [if_neg fun hn => hc hn.1, es.keepsPipe_aemRespHandler frame frame g out _ _ hh]
    rfl

end EndStation

namespace Controller

theorem endStationInit_length {es es' : EndStation} {mac : Mac} {tx : List TxData}
    (h : es.endStationInit mac = .ok (es', tx)) : tx.length = 1 := by
  obtain ⟨d, -, h⟩ := bind_eq_ok.1 h
  cases h
  rfl

theorem systemQueueTx_length (c : Controller) (tx : List TxData) :
    (c.systemQueueTx tx).globals.txPipe.length = c.globals.txPipe.length + tx.length :=
  List.length_append

theorem rxAdp_length {c c' : Controller} {now : Timestamp} {frame : AdpFrame}
    (h : c.rxAdp now frame = .ok c') :
    c'.globals.txPipe.length = c.globals.txPipe.length + c.adpFrames frame := by
  unfold rxAdp at h
  unfold adpFrames
  dsimp only at h ⊢
  split at h
  · next hig =>
    cases h
    rw [if_pos hig]
    rfl
  · next hig =>
    rw [if_neg hig]
    split at h
    · next hz =>
      cases h
      rw [if_pos hz]
      rfl
    · next hz =>
      rw [if_neg hz]
      cases hl : c.lastEndStation (frame.adpdu.getD zeroAdpdu).entityId with
      | none =>
        rw [hl] at h
        obtain ⟨⟨es, tx⟩, hnew, h⟩ := bind_eq_ok.1 h
        cases h
        rw [EndStation.new] at hnew
        split at hnew
        · rw [systemQueueTx_length, endStationInit_length hnew]
        · cases hnew
      | some p =>
        rw [hl] at h
        obtain ⟨⟨es₁, tx⟩, h₁, h⟩ := bind_eq_ok.1 h
        cases h
        rw [systemQueueTx_length]
        dsimp only
        split at h₁
        · rw [endStationInit_length h₁, if_pos ‹_›]
        · cases h₁
          rw [if_neg ‹_›]
          rfl

theorem rxAecp_length {c c' : Controller} {now : Timestamp} {f : AecpFrame} {out out' : RxOut}
    (h : c.rxAecp now f out = .ok (c', out')) :
    c'.globals.txPipe.length = c.globals.txPipe.length + c.aecpFrames f := by
  unfold rxAecp at h
  unfold aecpFrames
  dsimp only at h
  split at h
  · next es i hm hf =>
    rw [hf]
    dsimp only
    split at h
    · next ht =>
      split at h
      · next hc =>
        obtain ⟨⟨g, out₁⟩, hh, h⟩ := bind_eq_ok.1 h
        cases h
        have hno : ¬ (f.destMac = c.globals.macAddr ∧ f.messageType = .aemResponse ∧
            f.commandType = .readDescriptor ∧ f.respReadOk = true) := by
          rintro ⟨-, -, hr, -⟩
          rw [hc] at hr
          cases hr
        rw [if_neg hno, aside_txPipe.procAemResp true f c.globals out _ _ hh]
        rfl
      · obtain ⟨⟨g, es', out₁⟩, hh, h⟩ := bind_eq_ok.1 h
        cases h
        have hlen := EndStation.procRcvdAemResp_length hh
        simp only [ht, eq_of_beq hm, true_and]
        exact hlen
    · next ht =>
      obtain ⟨⟨g, out₁⟩, hh, h⟩ := bind_eq_ok.1 h
      cases h
      have hno : ¬ (f.destMac = c.globals.macAddr ∧ f.messageType = .aemResponse ∧
          f.commandType = .readDescriptor ∧ f.respReadOk = true) := by
        rintro ⟨-, hr, -⟩
        rw [ht] at hr
        cases hr
      rw [if_neg hno, aside_txPipe.procRcvdAecpAaResp f c.globals out _ _ hh]
      rfl
    · next ht _ =>
      cases h
      rw [if_neg fun hn => ht hn.2.1]
      rfl
  · next hno =>
    cases h
    split
    · next es i hf =>
      rw [if_neg, Nat.add_zero]
      rintro ⟨hm, -⟩
      exact hno es i (beq_iff_eq.2 hm) hf
    · rfl

theorem rxAcmp_length {c c' : Controller} {uninit : EntityId} {f : AcmpFrame} {out out' : RxOut}
    (h : c.rxAcmp uninit f out = .ok (c', out')) :
    c'.globals.txPipe.length = c.globals.txPipe.length := by
  rw [rxAcmp] at h
  split at h
  · obtain ⟨⟨g, out₁⟩, hh, h⟩ := bind_eq_ok.1 h
    cases h
    exact congrArg List.length (EndStation.keepsPipe_procRcvdAcmpResp _ f c.globals out _ _ hh)
  · cases h
    rfl

theorem rxPacketEvent_length {c c' : Controller} {now : Timestamp} {uninit : EntityId}
    {frame : RxFrame} {out out' : RxOut}
    (h : c.rxPacketEvent now uninit frame out = .ok (c', out')) :
    c'.globals.txPipe.length = c.globals.txPipe.length + c.rxFrames frame := by
  unfold rxPacketEvent at h
  unfold rxFrames
  dsimp only at h
  split at h
  · next ha =>
    rw [if_pos ha]
    cases frame with
    | adp f =>
      obtain ⟨c₁, hc, h⟩ := bind_eq_ok.1 h
      cases h
      exact rxAdp_length hc
    | aecp f => exact rxAecp_length h
    | acmp f => exact rxAcmp_length h
    | other mac =>
      cases h
      rfl
  · next ha =>
    cases h
    rw [if_neg ha]
    rfl

theorem adpTick_tickFrames (c : Controller) (now : Timestamp) :
    (c.adpTick now).tickFrames now = c.tickFrames now := by
  unfold adpTick
  dsimp only
  split
  · next i _ =>
    show ((c.endStationVec.modify i _).map _).sum = (c.endStationVec.map _).sum
    congr 1
    apply List.ext_getElem?
    intro j
    rw [List.getElem?_map, List.getElem?_map, List.getElem?_modify]
    split
    · cases c.endStationVec[j]? <;> rfl
    · cases c.endStationVec[j]? <;> rfl
  · rfl

theorem timeTickEvent_length {c c' : Controller} {now : Timestamp}
    (h : c.timeTickEvent now = .ok c') :
    c'.globals.txPipe.length = c.globals.txPipe.length + c.tickFrames now := by
  obtain ⟨rounds, hr, rfl⟩ := timeTickEvent_ok h
  have hmap := mapM_map (k := fun p => p.2.length)
    (g := fun es => (es.backgroundReadUpdateTimeouts now).submits) hr
    fun es p hp => EndStation.submitPending_length hp
  have hticked : (c.ticked now).tickFrames now = c.tickFrames now := adpTick_tickFrames _ now
  have hpipe : (c.ticked now).globals.txPipe = c.globals.txPipe := by
    rw [ticked, adpTick_globals]
  rw [systemQueueTx_length, List.length_flatMap, hmap, ← hticked]
  exact congrArg (· + _) (congrArg List.length hpipe)

end Controller

namespace MsvcSystem

def new (macAddr : Mac) : MsvcSystem := ⟨.new macAddr, .new 256, [], .waitForEvents⟩

/-- The frames that a handler has queued are pushed one by one. `queue_tx_frame` does not wait
for the completion of any: they are sent without notification. -/
def handled (s : MsvcSystem) (c : Controller) (ticked : Bool) : MsvcSystem :=
  { s with
    controller := { c with globals := { c.globals with txPipe := [] } }
    poll := .queuePush c.globals.txPipe ticked }

inductive Action where
  | waitSpace (d : TxData)
  | storeFrame (i : Nat)
  | timeout
  | rxPacket (now : Timestamp) (id : Ptr) (uninit : EntityId) (frame : RxFrame)
  | txPacket (now : Timestamp)
  | queuePush
  | timeTick (now : Timestamp)
  | endPoll

/-- `WaitForMultipleObjects` may report any event that is there, and the tick timer may have run
out or not. The first two steps are those of an app thread in `queue_push`. -/
inductive Step (s : MsvcSystem) : Action → MsvcSystem → Prop where
  | waitSpace {d : TxData} (hs : 0 < s.txQueue.spaceAvail) :
      Step s (.waitSpace d)
        { s with txQueue := s.txQueue.takeSpace, storing := s.storing ++ [d] }
  | storeFrame {d : TxData} {i : Nat} (hd : s.storing[i]? = some d) :
      Step s (.storeFrame i)
        { s with txQueue := s.txQueue.store d, storing := s.storing.eraseIdx i }
  | timeout (h : s.poll = .waitForEvents) :
      Step s .timeout { s with poll := .queuePush [] false }
  | rxPacket {now : Timestamp} {id : Ptr} {uninit : EntityId} {frame : RxFrame} {c : Controller}
      {out : RxOut} (h : s.poll = .waitForEvents)
      (hc : s.controller.rxPacketEvent now uninit frame { notificationId := id } =
        .ok (c, out)) :
      Step s (.rxPacket now id uninit frame) (s.handled c false)
  | txPacket {now : Timestamp} {d : TxData} {rest : List TxData} (h : s.poll = .waitForEvents)
      (ha : 0 < s.txQueue.dataAvail) (he : s.txQueue.entries = d :: rest) :
      Step s (.txPacket now)
        { s with
          controller := s.controller.txPacketEvent now d
          txQueue := s.txQueue.pop rest
          poll := .queuePush [] false }
  | queuePush {d : TxData} {rest : List TxData} {ticked : Bool}
      (h : s.poll = .queuePush (d :: rest) ticked) (hs : 0 < s.txQueue.spaceAvail) :
      Step s .queuePush
        { s with txQueue := s.txQueue.takeSpace.store d, poll := .queuePush rest ticked }
  | timeTick {now : Timestamp} {c : Controller} (h : s.poll = .queuePush [] false)
      (hc : s.controller.timeTickEvent now = .ok c) :
      Step s (.timeTick now) (s.handled c true)
  | endPoll {ticked : Bool} (h : s.poll = .queuePush [] ticked) :
      Step s .endPoll { s with poll := .waitForEvents }

/-- The steps as a function of the action. One that is not enabled is an error as well. -/
def exec (s : MsvcSystem) : Action → Except Fault MsvcSystem
  | .waitSpace d =>
    if 0 < s.txQueue.spaceAvail then
      pure { s with txQueue := s.txQueue.takeSpace, storing := s.storing ++ [d] }
    else throw .assertion
  | .storeFrame i =>
    match s.storing[i]? with
    | some d =>
      pure { s with txQueue := s.txQueue.store d, storing := s.storing.eraseIdx i }
    | none => throw .assertion
  | .timeout =>
    if s.poll = .waitForEvents then pure { s with poll := .queuePush [] false }
    else throw .assertion
  | .rxPacket now id uninit frame =>
    if s.poll = .waitForEvents then do
      let (c, _) ← s.controller.rxPacketEvent now uninit frame { notificationId := id }
      pure (s.handled c false)
    else throw .assertion
  | .txPacket now =>
    match s.txQueue.entries with
    | d :: rest =>
      if s.poll = .waitForEvents ∧ 0 < s.txQueue.dataAvail then
        pure { s with
          controller := s.controller.txPacketEvent now d
          txQueue := s.txQueue.pop rest
          poll := .queuePush [] false }
      else throw .assertion
    | [] => throw .assertion
  | .queuePush =>
    match s.poll with
    | .queuePush (d :: rest) ticked =>
      if 0 < s.txQueue.spaceAvail then
        pure { s with txQueue := s.txQueue.takeSpace.store d, poll := .queuePush rest ticked }
      else throw .assertion
    | _ => throw .assertion
  | .timeTick now =>
    if s.poll = .queuePush [] false then do
      let c ← s.controller.timeTickEvent now
      pure (s.handled c true)
    else throw .assertion
  | .endPoll =>
    match s.poll with
    | .queuePush [] _ => pure { s with poll := .waitForEvents }
    | _ => throw .assertion

theorem exec_step {s s' : MsvcSystem} {a : Action} (h : s.exec a = .ok s') : Step s a s' := by
  cases a with
  | waitSpace d =>
    simp only [exec] at h
    split at h
    · next hs =>
      cases h
      exact .waitSpace hs
    · cases h
  | storeFrame i =>
    simp only [exec] at h
    split at h
    · next d hd =>
      cases h
      exact .storeFrame hd
    · cases h
  | timeout =>
    simp only [exec] at h
    split at h
    · next hp =>
      cases h
      exact .timeout hp
    · cases h
  | rxPacket now id uninit frame =>
    simp only [exec] at h
    split at h
    · next hp =>
      obtain ⟨⟨c, out⟩, hc, h⟩ := bind_eq_ok.1 h
      cases h
      exact .rxPacket hp hc
    · cases h
  | txPacket now =>
    simp only [exec] at h
    split at h
    · next d rest he =>
      split at h
      · next hp =>
        cases h
        exact .txPacket hp.1 hp.2 he
      · cases h
    · cases h
  | queuePush =>
    simp only [exec] at h
    split at h
    · next d rest ticked hp =>
      split at h
      · next hs =>
        cases h
        exact .queuePush hp hs
      · cases h
    · cases h
  | timeTick now =>
    simp only [exec] at h
    split at h
    · next hp =>
      obtain ⟨c, hc, h⟩ := bind_eq_ok.1 h
      cases h
      exact .timeTick hp hc
    · cases h
  | endPoll =>
    simp only [exec] at h
    split at h
    · next ticked hp =>
      cases h
      exact .endPoll hp
    · cases h

/-- A push of the poll thread finds space. -/
def PushReturns (s : MsvcSystem) : Prop :=
  ∀ d rest ticked, s.poll = .queuePush (d :: rest) ticked → 0 < s.txQueue.spaceAvail

/-- There is space for all the frames that a received frame or a tick makes the poll thread
push, and no app thread takes a space that is needed for one of them. -/
def LeavesSpace (s : MsvcSystem) : Action → Prop
  | .waitSpace _ => s.poll.frames.length < s.txQueue.spaceAvail
  | .rxPacket _ _ _ frame => s.controller.rxFrames frame ≤ s.txQueue.spaceAvail
  | .timeTick now => s.controller.tickFrames now ≤ s.txQueue.spaceAvail
  | _ => True

/-- The frames that are left to push have their space, and between the handlers there are
none. -/
structure Fits (s : MsvcSystem) : Prop where
  pipe : s.controller.globals.txPipe = []
  space : s.poll.frames.length ≤ s.txQueue.spaceAvail

theorem Fits.new (macAddr : Mac) : Fits (new macAddr) := ⟨rfl, Nat.zero_le _⟩

theorem txPacketEvent_txPipe (c : Controller) (now : Timestamp) (d : TxData) :
    (c.txPacketEvent now d).globals.txPipe = c.globals.txPipe := by
  rw [Controller.txPacketEvent]
  split <;> rfl

theorem Fits.step {s s' : MsvcSystem} {a : Action} (h : Fits s) (hl : LeavesSpace s a)
    (hs : Step s a s') : Fits s' := by
  have hspace := h.space
  cases hs with
  | waitSpace =>
    refine ⟨h.pipe, ?_⟩
    have hl : s.poll.frames.length < s.txQueue.spaceAvail := hl
    show s.poll.frames.length ≤ s.txQueue.spaceAvail - 1
    omega
  | storeFrame => exact ⟨h.pipe, hspace⟩
  | timeout => exact ⟨h.pipe, Nat.zero_le _⟩
  | rxPacket _ hc =>
    refine ⟨rfl, ?_⟩
    have hlen := Controller.rxPacketEvent_length hc
    rw [h.pipe, List.length_nil, Nat.zero_add] at hlen
    exact hlen.trans_le hl
  | txPacket => exact ⟨(txPacketEvent_txPipe _ _ _).trans h.pipe, Nat.zero_le _⟩
  | @queuePush d rest ticked hp hs =>
    refine ⟨h.pipe, ?_⟩
    rw [hp] at hspace
    have hspace : rest.length + 1 ≤ s.txQueue.spaceAvail := hspace
    show rest.length ≤ s.txQueue.spaceAvail - 1
    omega
  | timeTick _ hc =>
    refine ⟨rfl, ?_⟩
    have hlen := Controller.timeTickEvent_length hc
    rw [h.pipe, List.length_nil, Nat.zero_add] at hlen
    exact hlen.trans_le hl
  | endPoll => exact ⟨h.pipe, Nat.zero_le _⟩

/-- As long as there is space for what each event makes the poll thread push, none of its pushes
waits. -/
theorem push_returns {macAddr : Mac} {tr : List (MsvcSystem × Action)} {s : MsvcSystem}
    (h : Run Step (new macAddr) tr s) (hl : Along LeavesSpace tr) : PushReturns s := by
  have hfits : Fits s :=
    h.invariant_along hl (Fits.new macAddr) fun _ _ _ hf hg hst => hf.step hg hst
  intro d rest ticked hp
  have hspace := hfits.space
  rw [hp] at hspace
  exact (Nat.succ_pos _).trans_le hspace

/-- The poll thread waits for space in the queue. -/
def Blocked (s : MsvcSystem) : Prop :=
  (∃ d rest ticked, s.poll = .queuePush (d :: rest) ticked) ∧ s.txQueue.spaceAvail = 0

theorem Blocked.not_pushReturns {s : MsvcSystem} (h : Blocked s) : ¬ PushReturns s := by
  obtain ⟨⟨d, rest, ticked, hp⟩, hz⟩ := h
  intro hr
  have hpos := hr d rest ticked hp
  omega

/-- Nothing but the poll thread makes space in the queue. -/
theorem Blocked.step {s s' : MsvcSystem} {a : Action} (h : Blocked s) (hs : Step s a s') :
    Blocked s' := by
  obtain ⟨⟨d, rest, ticked, hp⟩, hz⟩ := h
  cases hs with
  | waitSpace hspace =>
    rw [hz] at hspace
    exact absurd hspace (Nat.lt_irrefl 0)
  | storeFrame => exact ⟨⟨d, rest, ticked, hp⟩, hz⟩
  | timeout h | rxPacket h | txPacket h =>
    rw [hp] at h
    cases h
  | queuePush _ hspace =>
    rw [hz] at hspace
    exact absurd hspace (Nat.lt_irrefl 0)
  | timeTick h | endPoll h =>
    rw [hp] at h
    cases h

theorem exists_blocked {s : MsvcSystem} {frames : List TxData} {ticked : Bool}
    (hp : s.poll = .queuePush frames ticked) (hlt : s.txQueue.spaceAvail < frames.length) :
    ∃ tr s', Run Step s tr s' ∧ Blocked s' := by
  generalize hn : s.txQueue.spaceAvail = n at hlt
  induction n generalizing s frames with
  | zero =>
    cases frames with
    | nil => exact absurd hlt (Nat.lt_irrefl 0)
    | cons d rest => exact ⟨[], s, .nil, ⟨d, rest, ticked, hp⟩, hn⟩
  | succ n ih =>
    cases frames with
    | nil => exact absurd hlt (Nat.not_lt_zero _)
    | cons d rest =>
      have hpush := Step.queuePush hp (by omega)
      have hlt' : n < rest.length := Nat.lt_of_succ_lt_succ hlt
      have hspace : (s.txQueue.takeSpace.store d).spaceAvail = n := by
        show s.txQueue.spaceAvail - 1 = n
        omega
      obtain ⟨tr, s', hrun, hb⟩ := ih
        (s := { s with
          txQueue := s.txQueue.takeSpace.store d, poll := .queuePush rest ticked })
        rfl hspace hlt'
      exact ⟨_, s', (Run.nil.snoc hpush).append hrun, hb⟩

def readResponse (d : AemDesc) : Action :=
  .rxPacket 0 0 0 (.aecp
    { destMac := 1
      messageType := .aemResponse
      targetEntityId := 3
      controllerEntityId := getControllerEntityId 1
      commandType := .readDescriptor
      descriptor := d })

/-- A station is enumerated up to its CONFIGURATION, which counts this many JACK_INPUTs. -/
def jackInputs (count : BitVec 16) : List Action :=
  let sent := [.queuePush, .endPoll, .txPacket 0, .endPoll]
  .rxPacket 0 0 0 (.adp (Controller.advertisement 3 0)) :: sent ++
    readResponse { descriptorType := .entity, descriptorIndex := 0 } :: sent ++
    [readResponse
      { descriptorType := .configuration, descriptorIndex := 0
        descriptorCounts := [(.jackInput, count)] }]

def leavesSpace (s : MsvcSystem) : Action → Bool
  | .waitSpace _ => s.poll.frames.length < s.txQueue.spaceAvail
  | .rxPacket _ _ _ frame => s.controller.rxFrames frame ≤ s.txQueue.spaceAvail
  | .timeTick now => s.controller.tickFrames now ≤ s.txQueue.spaceAvail
  | _ => true

theorem leavesSpace_iff {s : MsvcSystem} {a : Action} :
    leavesSpace s a = true ↔ LeavesSpace s a := by
  cases a <;> simp [leavesSpace, LeavesSpace]

theorem push_returns_two : ∃ tr s, Run Step (new 1) tr s ∧ s.poll.frames.length = 2 ∧
    PushReturns s := by
  have htrial : trial exec leavesSpace (fun s => s.poll.frames.length == 2) (new 1)
      (jackInputs 2) = true := by decide
  obtain ⟨tr, s, hrun, ha, hend⟩ := exists_run_of_trial (fun s a s' => exec_step) htrial
  have hl : Along LeavesSpace tr := fun p hp => leavesSpace_iff.1 (ha p hp)
  exact ⟨tr, s, hrun, eq_of_beq hend, push_returns hrun hl⟩

set_option maxRecDepth 4000 in
/-- With 257 JACK_INPUTs the queue is full before all reads are in it, and stays so. -/
theorem push_blocks : ∃ tr s, Run Step (new 1) tr s ∧ ¬ PushReturns s ∧
    ∀ tr' s', Run Step s tr' s' → ¬ PushReturns s' := by
  have htrial : trial exec (fun _ _ => true)
      (fun s => match s.poll with
        | .queuePush frames _ => s.txQueue.spaceAvail < frames.length
        | .waitForEvents => false) (new 1) (jackInputs 257) = true := by decide +kernel
  obtain ⟨tr, s, hrun, -, hend⟩ := exists_run_of_trial (fun s a s' => exec_step) htrial
  split at hend
  · next frames ticked hp =>
    obtain ⟨tr', s', hrun', hb⟩ := exists_blocked hp (of_decide_eq_true hend)
    refine ⟨_, s', hrun.append hrun', hb.not_pushReturns, ?_⟩
    intro tr'' s'' hrun''
    exact (hrun''.invariant hb fun _ _ _ h hs => h.step hs).not_pushReturns
  · cases hend

end MsvcSystem
end AvdeccLib
