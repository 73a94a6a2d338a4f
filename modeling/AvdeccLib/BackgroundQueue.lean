import AvdeccLib.BackgroundRead
import AvdeccLib.AdpTracking
import AvdeccLib.Responses
import AvdeccLib.Library.Runs

namespace AvdeccLib
set_option autoImplicit true

open Runs Outcome

def BackgroundReadRequest.key (b : BackgroundReadRequest) : DescType × BitVec 16 :=
  (b.type, b.index)

/-- What a READ_DESCRIPTOR command asks for. -/
def TxData.readKey (d : TxData) : Option (DescType × BitVec 16) :=
  match d.frame with
  | .aecp f =>
    if f.commandType = .readDescriptor then some (f.descriptorType, f.descriptorIndex) else none
  | _ => none

namespace EndStation

/-- What `queue_background_read_request` is called for in `proc_read_desc_resp`. -/
def queuedBy (es : EndStation) (frame : AecpFrame) :
    Except Fault (List BackgroundReadRequest) :=
  if frame.respReadOk && es.storeDescriptor frame.status frame.descriptor.descriptorType then do
    let es ← es.storeDesc frame.descriptor
    es.backgroundReadDeduceNext es.currentConfig frame.descriptor
  else pure []

/-- What the next `background_read_submit_pending` issues. -/
def nextBatch (es : EndStation) : List BackgroundReadRequest :=
  match es.backgroundReadInflight, es.backgroundReadPending with
  | [], b :: rest => batch b rest
  | _, _ => []

/-- One call of `background_read_submit_pending`: the batch goes from the front of the pending
list to the end of the inflight list and on the wire. -/
structure Submitted (now : Timestamp) (es es' : EndStation) (tx : List TxData) : Prop where
  pending : es.nextBatch ++ es'.backgroundReadPending = es.backgroundReadPending
  inflight : es'.backgroundReadInflight = es.backgroundReadInflight ++
    es.nextBatch.map fun b => { b with timer := .start now backgroundReadTimeoutMs }
  commands : tx.map TxData.readKey = es.nextBatch.map fun b => some b.key
  drained : es'.backgroundReadInflight = [] → es'.backgroundReadPending = []

theorem readKey_of_readDescInit {es : EndStation} {mac : Mac} {t : DescType} {i : BitVec 16}
    {d : TxData} (h : es.readDescInit mac t i = .ok d) : d.readKey = some (t, i) := by
  rw [readDescInit, sendReadDescCmdWithFlag] at h
  split at h
  · cases h
    rfl
  · obtain ⟨c, -, h⟩ := bind_eq_ok.1 h
    cases h
    rfl

theorem submitted_of_submitPending {es es' : EndStation} {mac : Mac} {now : Timestamp}
    {tx : List TxData} (h : es.backgroundReadSubmitPending mac now = .ok (es', tx)) :
    Submitted now es es' tx := by
  cases hi : es.backgroundReadInflight with
  | cons r l =>
    simp only [backgroundReadSubmitPending, hi] at h
    cases h
    have hnext : es.nextBatch = [] := by simp only [nextBatch, hi]
    refine ⟨by rw [hnext]; rfl, by rw [hnext]; exact (List.append_nil _).symm,
      by rw [hnext]; rfl, ?_⟩
    rw [hi]
    exact fun h => absurd h (List.cons_ne_nil r l)
  | nil =>
    cases hp : es.backgroundReadPending with
    | nil =>
      simp only [backgroundReadSubmitPending, hi, hp] at h
      cases h
      have hnext : es.nextBatch = [] := by simp only [nextBatch, hi, hp]
      exact ⟨by rw [hnext]; rfl, by rw [hnext, hi]; rfl, by rw [hnext]; rfl, fun _ => hp⟩
    | cons b rest =>
      simp only [backgroundReadSubmitPending, hi, hp] at h
      obtain ⟨tx', htx, h⟩ := bind_eq_ok.1 h
      cases h
      have hnext : es.nextBatch = batch b rest := by simp only [nextBatch, hi, hp]
      refine ⟨?_, ?_, ?_, ?_⟩
      · rw [hnext, hp]
        exact batch_append b rest
      · rw [hnext, hi]
        rfl
      · rw [hnext]
        exact mapM_map htx fun r d hd => readKey_of_readDescInit hd
      · exact fun h => absurd h (List.cons_ne_nil _ _)

theorem nextBatch_type {es : EndStation} {b c : BackgroundReadRequest} (hb : b ∈ es.nextBatch)
    (hc : c ∈ es.nextBatch) : b.type = c.type := by
  unfold nextBatch at hb hc
  cases hi : es.backgroundReadInflight with
  | cons r l =>
    simp only [hi] at hb
    cases hb
  | nil =>
    cases hp : es.backgroundReadPending with
    | nil =>
      simp only [hi, hp] at hb
      cases hb
    | cons a rest =>
      simp only [hi, hp] at hb hc
      rw [batch_type hb, batch_type hc]

theorem inflight_of_nextBatch {es : EndStation} (h : es.nextBatch ≠ []) :
    es.backgroundReadInflight = [] := by
  cases hi : es.backgroundReadInflight with
  | nil => rfl
  | cons r l =>
    simp only [nextBatch, hi] at h
    exact absurd rfl h

/-- One call of `proc_read_desc_resp`: what it queues is pending when the response is looked up
in the inflight list and the next batch is submitted. -/
theorem procReadDescResp_cases {es es' : EndStation} {now : Timestamp} {frame : AecpFrame}
    {g g' : Globals} {out out' : RxOut} {next : List BackgroundReadRequest}
    (hq : es.queuedBy frame = .ok next)
    (h : es.procReadDescResp now frame g out = .ok (g', es', out')) :
    (frame.respReadOk = false ∧ es' = es ∧ g'.txPipe = g.txPipe ∧ next = []) ∨
    ∃ (es₁ : EndStation) (tx : List TxData), frame.respReadOk = true ∧
      es₁.backgroundReadPending = es.backgroundReadPending ++ next ∧
      es₁.backgroundReadInflight = es.backgroundReadInflight ∧
      Submitted now (es₁.backgroundReadUpdateInflight frame.descriptor) es' tx ∧
      g'.txPipe = g.txPipe ++ tx := by
  rw [procReadDescResp] at h
  cases hr : frame.respReadOk with
  | false =>
    rw [hr] at h
    rw [queuedBy, hr] at hq
    cases h
    cases hq
    exact .inl ⟨rfl, rfl, rfl, rfl⟩
  | true =>
    simp only [hr, Bool.not_true, Bool.false_eq_true, if_false] at h
    obtain ⟨⟨es₂, tx, posts⟩, hrcvd, h⟩ := bind_eq_ok.1 h
    cases h
    obtain ⟨es₁, h₁, hrcvd⟩ := bind_eq_ok.1 hrcvd
    obtain ⟨⟨es₃, tx₃⟩, hs, hrcvd⟩ := bind_eq_ok.1 hrcvd
    cases hrcvd
    refine .inr ⟨es₁, tx, rfl, ?_, ?_, submitted_of_submitPending hs, rfl⟩
    · rw [queuedBy, hr] at hq
      rcases storeAndDeduce_cases h₁ with ⟨hstore, rfl⟩ | ⟨es₄, next', hstore, h₄, hn, rfl⟩
      · rw [hstore] at hq
        cases hq
        exact (List.append_nil _).symm
      · rw [hstore] at hq
        obtain ⟨es₅, h₅, hq⟩ := bind_eq_ok.1 hq
        cases h₄.symm.trans h₅
        cases hn.symm.trans hq
        exact congrArg (· ++ next) (storeDesc_sameWork h₄).pending
    · exact storeAndDeduce_inflight h₁

end EndStation

/-- The calls that make up the background read of an end station. -/
inductive ReadCall where
  | procReadDescResp (frame : AecpFrame) (g : Globals) (out : RxOut)
  | updateTimeouts
  | submitPending (macAddr : Mac)

namespace ReadCall

/-- The READ_DESCRIPTOR response is for the request. The index of the ENTITY is 0. -/
def Answers (b : BackgroundReadRequest) : ReadCall → Prop
  | procReadDescResp frame _ _ => frame.respReadOk = true ∧
      frame.descriptor.descriptorType = b.type ∧
        descIndexFromFrame frame.descriptor = some b.index
  | updateTimeouts | submitPending _ => False

/-- The READ_DESCRIPTOR response carries the type and the index of the request. -/
def Carries (b : BackgroundReadRequest) : ReadCall → Prop
  | procReadDescResp frame _ _ => frame.respReadOk = true ∧
      frame.descriptor.descriptorType = b.type ∧ frame.descriptor.descriptorIndex = b.index
  | updateTimeouts | submitPending _ => False

/-- The call ends with `background_read_submit_pending`. -/
def Submits : ReadCall → Prop
  | procReadDescResp frame _ _ => frame.respReadOk = true
  | updateTimeouts => False
  | submitPending _ => True

end ReadCall

/-- An end station, a clock that counts milliseconds without wrapping around, the requests that
were queued so far, and the commands that `background_read_submit_pending` issued, with the time
of each call that issued some. -/
structure Reading where
  station : EndStation
  clock : Nat
  queued : List BackgroundReadRequest
  issues : List (Nat × List TxData)

namespace Reading

def commands (s : Reading) : List TxData := s.issues.flatMap Prod.snd

def issue (clock : Nat) (tx : List TxData) (issues : List (Nat × List TxData)) :
    List (Nat × List TxData) :=
  if tx = [] then issues else issues ++ [(clock, tx)]

/-- One call, at the given time. The code sees 32 bits of it. -/
def call (s : Reading) (clock : Nat) : ReadCall → Except Fault Reading
  | .procReadDescResp frame g out => do
    let next ← s.station.queuedBy frame
    let (g', station, _) ← s.station.procReadDescResp (.ofNat 32 clock) frame g out
    pure ⟨station, clock, s.queued ++ next,
      issue clock (g'.txPipe.drop g.txPipe.length) s.issues⟩
  | .updateTimeouts =>
    pure ⟨s.station.backgroundReadUpdateTimeouts (.ofNat 32 clock), clock, s.queued, s.issues⟩
  | .submitPending macAddr => do
    let (station, tx) ← s.station.backgroundReadSubmitPending macAddr (.ofNat 32 clock)
    pure ⟨station, clock, s.queued, issue clock tx s.issues⟩

/-- A call that does not throw, after some time. -/
structure Step (s : Reading) (c : ReadCall) (s' : Reading) : Prop where
  clock : s.clock ≤ s'.clock
  call : s.call s'.clock c = .ok s'

/-- The call that issued the request was the last one that issued any, at the time `t`. -/
def IssuedAt (s : Reading) (b : BackgroundReadRequest) (t : Nat) : Prop :=
  ∃ tx, s.issues.getLast? = some (t, tx) ∧ some b.key ∈ tx.map TxData.readKey

/-- Nothing was lost, doubled or reordered on the way from the queue to the wire. -/
def InOrder (s : Reading) : Prop :=
  s.commands.map TxData.readKey ++ s.station.backgroundReadPending.map (fun b => some b.key) =
    s.queued.map fun b => some b.key

def OneType (s : Reading) : Prop :=
  ∀ b ∈ s.station.backgroundReadInflight, ∀ c ∈ s.station.backgroundReadInflight,
    b.type = c.type

/-- The call takes a request out of the inflight list only if it answers it or comes more than
750 ms after it was issued, and puts in what it issues. -/
def Leaves (answers : BackgroundReadRequest → ReadCall → Prop) (s : Reading) (c : ReadCall)
    (s' : Reading) : Prop :=
  ∃ keep new, s'.station.backgroundReadInflight =
      s.station.backgroundReadInflight.filter keep ++ new ∧
    s'.commands.map TxData.readKey =
      s.commands.map TxData.readKey ++ new.map (fun b => some b.key) ∧
    ∀ b ∈ s.station.backgroundReadInflight, keep b = false →
      answers b c ∨ ∃ t, s.IssuedAt b t ∧ t + 750 < s'.clock

structure Consistent (s : Reading) : Prop where
  order : s.InOrder
  oneType : s.OneType
  since : ∀ b ∈ s.station.backgroundReadInflight, ∃ t, s.IssuedAt b t ∧ t ≤ s.clock ∧
    b.timer = .start (.ofNat 32 t) backgroundReadTimeoutMs

section
variable {s s' : Reading} {c : ReadCall} {es es' : EndStation} {clock : Nat}
  {queued next : List BackgroundReadRequest} {issues : List (Nat × List TxData)}
  {tx : List TxData}

theorem commands_issue : (Reading.mk es clock queued (issue clock tx issues)).commands =
    (Reading.mk es clock queued issues).commands ++ tx := by
  unfold commands issue
  split
  · next h => rw [h, List.append_nil]
  · rw [List.flatMap_append, List.flatMap_singleton]

theorem Consistent.queue (hs : s.Consistent) (hc : s.clock ≤ clock)
    (hp : es.backgroundReadPending = s.station.backgroundReadPending ++ next)
    (hi : es.backgroundReadInflight ⊆ s.station.backgroundReadInflight) :
    Consistent ⟨es, clock, s.queued ++ next, s.issues⟩ := by
  refine ⟨?_, ?_, ?_⟩
  · show s.commands.map _ ++ es.backgroundReadPending.map _ = (s.queued ++ next).map _
    rw [hp, List.map_append, List.map_append, ← List.append_assoc, hs.order]
  · intro b hb b' hb'
    exact hs.oneType b (hi hb) b' (hi hb')
  · intro b hb
    obtain ⟨t, ht, hle, htimer⟩ := hs.since b (hi hb)
    exact ⟨t, ht, hle.trans hc, htimer⟩

theorem Consistent.submit (hs : Consistent ⟨es, clock, queued, issues⟩)
    (h : EndStation.Submitted (.ofNat 32 clock) es es' tx) :
    Consistent ⟨es', clock, queued, issue clock tx issues⟩ := by
  have horder : InOrder ⟨es', clock, queued, issue clock tx issues⟩ := by
    have hs' : List.map _ _ ++ es.backgroundReadPending.map _ = queued.map _ := hs.order
    show List.map _ _ ++ es'.backgroundReadPending.map _ = queued.map _
    rw [commands_issue, List.map_append, h.commands, List.append_assoc, ← List.map_append,
      h.pending, ← hs']
    rfl
  by_cases hn : es.nextBatch = []
  · have htx : tx = [] := by
      have hc := h.commands
      rw [hn] at hc
      exact List.map_eq_nil_iff.1 hc
    have hi : es'.backgroundReadInflight = es.backgroundReadInflight := by
      rw [h.inflight, hn]
      exact List.append_nil _
    have hissue : issue clock tx issues = issues := if_pos htx
    refine ⟨horder, ?_, ?_⟩
    · intro b hb b' hb'
      exact hs.oneType b (hi ▸ hb) b' (hi ▸ hb')
    · intro b hb
      rw [hissue]
      exact hs.since b (hi ▸ hb)
  · have htx : tx ≠ [] := by
      rintro rfl
      exact hn (List.map_eq_nil_iff.1 h.commands.symm)
    have hissue : issue clock tx issues = issues ++ [(clock, tx)] := if_neg htx
    have hmem : ∀ b ∈ es'.backgroundReadInflight, ∃ r ∈ es.nextBatch,
        b = { r with timer := .start (.ofNat 32 clock) backgroundReadTimeoutMs } := by
      intro b hb
      rw [h.inflight, EndStation.inflight_of_nextBatch hn, List.nil_append] at hb
      obtain ⟨r, hr, rfl⟩ := List.mem_map.1 hb
      exact ⟨r, hr, rfl⟩
    refine ⟨horder, ?_, ?_⟩
    · intro b hb b' hb'
      obtain ⟨r, hr, rfl⟩ := hmem b hb
      obtain ⟨r', hr', rfl⟩ := hmem b' hb'
      have htype : r.type = r'.type := EndStation.nextBatch_type hr hr'
      exact htype
    · intro b hb
      obtain ⟨r, hr, rfl⟩ := hmem b hb
      refine ⟨clock, ⟨tx, ?_, ?_⟩, Nat.le_refl _, rfl⟩
      · rw [hissue, List.getLast?_concat]
      · rw [h.commands]
        have hkey := List.mem_map_of_mem (f := fun b : BackgroundReadRequest => some b.key) hr
        exact hkey

/-- A timer of a request runs out only when more than 750 ms have passed. -/
theorem Consistent.expired {b : BackgroundReadRequest} (hs : s.Consistent)
    (hb : b ∈ s.station.backgroundReadInflight) (hc : s.clock ≤ clock)
    (hto : b.timer.timeout (.ofNat 32 clock) = true) :
    ∃ t, s.IssuedAt b t ∧ t + 750 < clock := by
  obtain ⟨t, ht, hle, htimer⟩ := hs.since b hb
  rw [htimer, Timer.start_timeout_iff, BitVec.lt_def] at hto
  have h750 : backgroundReadTimeoutMs.toNat = 750 := rfl
  have hpast := Timer.elapsedMs_le (hle.trans hc)
  refine ⟨t, ht, ?_⟩
  omega

theorem issue_nil : issue clock [] issues = issues := if_pos rfl

theorem leaves_of_submitted {answers : BackgroundReadRequest → ReadCall → Prop}
    {now : Timestamp}
    {keep : BackgroundReadRequest → Bool} (h : EndStation.Submitted now es es' tx)
    (hi : es.backgroundReadInflight = s.station.backgroundReadInflight.filter keep)
    (hk : ∀ b ∈ s.station.backgroundReadInflight, keep b = false → answers b c) :
    Leaves answers s c ⟨es', clock, queued, issue clock tx s.issues⟩ := by
  refine ⟨keep, _, h.inflight.trans (congrArg (· ++ _) hi), ?_, fun b hb hkeep =>
    .inl (hk b hb hkeep)⟩
  rw [commands_issue, List.map_append, h.commands, List.map_map]
  rfl

theorem leaves_of_filter {answers : BackgroundReadRequest → ReadCall → Prop}
    {keep : BackgroundReadRequest → Bool}
    (hi : es.backgroundReadInflight = s.station.backgroundReadInflight.filter keep)
    (hk : ∀ b ∈ s.station.backgroundReadInflight, keep b = false →
      answers b c ∨ ∃ t, s.IssuedAt b t ∧ t + 750 < clock) :
    Leaves answers s c ⟨es, clock, queued, s.issues⟩ :=
  ⟨keep, [], hi.trans (List.append_nil _).symm, (List.append_nil _).symm, hk⟩

theorem filter_keep (l : List BackgroundReadRequest) : l = l.filter fun _ => true :=
  (List.filter_eq_self.2 fun _ _ => rfl).symm

theorem call_cases (hs : s.Consistent) (hc : s.clock ≤ clock) (h : s.call clock c = .ok s') :
    s'.Consistent ∧ s.Leaves ReadCall.Answers c s' ∧
      (c.Submits → s'.station.backgroundReadInflight = [] →
        s'.station.backgroundReadPending = []) := by
  cases c with
  | procReadDescResp frame g out =>
    obtain ⟨next, hq, h⟩ := bind_eq_ok.1 h
    obtain ⟨⟨g', es', out'⟩, hp, h⟩ := bind_eq_ok.1 h
    cases h
    rcases EndStation.procReadDescResp_cases hq hp with ⟨hr, rfl, htx, rfl⟩ |
      ⟨es₁, tx, hr, hpending, hinflight, hsub, htx⟩
    · rw [htx, List.drop_length, issue_nil]
      refine ⟨hs.queue hc (List.append_nil _).symm (List.Subset.refl _), ?_, ?_⟩
      · apply leaves_of_filter (filter_keep _)
        intro b hb hkeep
        cases hkeep
      · intro hsubmits
        exact absurd (hr.symm.trans hsubmits) Bool.false_ne_true
    · rw [htx, List.drop_left]
      have hfilter :
        (es₁.backgroundReadUpdateInflight frame.descriptor).backgroundReadInflight =
          s.station.backgroundReadInflight.filter _ := congrArg (List.filter _) hinflight
      have hq' : Consistent ⟨es₁.backgroundReadUpdateInflight frame.descriptor, clock,
          s.queued ++ next, s.issues⟩ :=
        hs.queue hc hpending (hfilter ▸ List.filter_subset_self _)
      refine ⟨hq'.submit hsub, leaves_of_submitted hsub hfilter ?_, fun _ => hsub.drained⟩
      intro b hb hkeep
      rw [Bool.not_eq_false', Bool.and_eq_true] at hkeep
      exact ⟨hr, (eq_of_beq hkeep.1).symm, eq_of_beq hkeep.2⟩
  | updateTimeouts =>
    cases h
    have hq : Consistent ⟨s.station.backgroundReadUpdateTimeouts (.ofNat 32 clock), clock,
        s.queued ++ [], s.issues⟩ :=
      hs.queue hc (List.append_nil _).symm (List.filter_subset_self _)
    rw [List.append_nil] at hq
    refine ⟨hq, leaves_of_filter rfl ?_, fun h => h.elim⟩
    intro b hb hkeep
    rw [Bool.not_eq_false'] at hkeep
    exact .inr (hs.expired hb hc hkeep)
  | submitPending macAddr =>
    obtain ⟨⟨es', tx⟩, hsub, h⟩ := bind_eq_ok.1 h
    cases h
    have hsub' := EndStation.submitted_of_submitPending hsub
    have hq : Consistent ⟨s.station, clock, s.queued ++ [], s.issues⟩ :=
      hs.queue hc (List.append_nil _).symm (List.Subset.refl _)
    rw [List.append_nil] at hq
    refine ⟨hq.submit hsub', leaves_of_submitted hsub' (filter_keep _) ?_, fun _ =>
      hsub'.drained⟩
    intro b hb hkeep
    cases hkeep

theorem consistent_of_run {mac : Mac} {frame : AdpFrame} {tx₀ : List TxData}
    {tr : List (Reading × ReadCall)} (hnew : EndStation.new mac frame = .ok (es, tx₀))
    (h : Run Step ⟨es, clock, [], []⟩ tr s) : s.Consistent := by
  obtain ⟨-, hpending, hinflight, -⟩ := EndStation.new_ok hnew
  apply h.invariant
  · refine ⟨?_, ?_, ?_⟩
    · show [] ++ es.backgroundReadPending.map _ = []
      rw [hpending]
      rfl
    · intro b hb
      rw [hinflight] at hb
      cases hb
    · intro b hb
      rw [hinflight] at hb
      cases hb
  · intro t c u ht hst
    exact (call_cases ht hst.clock hst.call).1

/-- The background read queue of an end station from its construction on, whatever responses
come in and whenever its calls are made: what was issued and what is pending is what was queued,
in order; what is inflight has one type; a request leaves it by a response to it or after 750
ms; and the next batch is issued as soon as it is empty. -/
theorem background_read_queue {mac : Mac} {frame : AdpFrame} {tx₀ : List TxData}
    {tr : List (Reading × ReadCall)} (hnew : EndStation.new mac frame = .ok (es, tx₀))
    (h : Run Step ⟨es, clock, [], []⟩ tr s) :
    s.InOrder ∧ s.OneType ∧ ∀ c s', s.Step c s' → s.Leaves ReadCall.Answers c s' ∧
      (c.Submits → s'.station.backgroundReadInflight = [] →
        s'.station.backgroundReadPending = []) := by
  have hs := consistent_of_run hnew h
  refine ⟨hs.order, hs.oneType, ?_⟩
  intro c s' hst
  exact (call_cases hs hst.clock hst.call).2

theorem call_clock (h : s.call clock c = .ok s') : s'.clock = clock := by
  cases c with
  | procReadDescResp frame g out =>
    obtain ⟨next, -, h⟩ := bind_eq_ok.1 h
    obtain ⟨p, -, h⟩ := bind_eq_ok.1 h
    cases h
    rfl
  | updateTimeouts =>
    cases h
    rfl
  | submitPending macAddr =>
    obtain ⟨p, -, h⟩ := bind_eq_ok.1 h
    cases h
    rfl

/-- The call comes after some milliseconds. -/
def callAfter (d : Nat) (s : Reading) (c : ReadCall) : Except Fault Reading :=
  s.call (s.clock + d) c

theorem step_of_call {d : Nat} (h : callAfter d s c = .ok s') : s.Step c s' := by
  have hc := call_clock h
  exact ⟨hc ▸ Nat.le_add_right s.clock d, hc ▸ h⟩

/-- A station that was just found. -/
def found : EndStation where
  entityId := 3
  mac := 2
  connectionStatus := .unset
  currentConfigDesc := 0
  backgroundReadPending := []
  backgroundReadInflight := []
  adp := ⟨3, 7, 0, false, false⟩
  entityDescVec := []
  generation := 0
  issued := []

def response (d : AemDesc) : ReadCall :=
  .procReadDescResp
    { messageType := .aemResponse
      targetEntityId := 3
      controllerEntityId := 0
      commandType := .readDescriptor
      descriptor := d }
    (Controller.new 0).globals {}

def entityResponse (descriptorIndex : BitVec 16) : ReadCall :=
  response { descriptorType := .entity, descriptorIndex }

def configurationResponse (counts : List (DescType × BitVec 16)) : ReadCall :=
  response
    { descriptorType := .configuration, descriptorIndex := 0, descriptorCounts := counts }

/-- The CONFIGURATION is asked for and answered, and of what it counts the two AUDIO_UNITs are
waited for longer than 750 ms. -/
theorem background_read_queue_unanswered :
    ∃ tr s, Run Step ⟨found, 0, [], []⟩ tr s ∧ s.InOrder ∧ s.OneType ∧
      s.commands.map TxData.readKey =
        [some (.configuration, 0), some (.audioUnit, 0), some (.audioUnit, 1),
          some (.locale, 0)] := by
  have htrial : trial (callAfter 400) (fun _ _ => true)
      (fun s => s.commands.map TxData.readKey == [some (.configuration, 0),
        some (.audioUnit, 0),
        some (.audioUnit, 1), some (.locale, 0)])
      ⟨found, 0, [], []⟩ [entityResponse 0,
        configurationResponse [(.audioUnit, 2), (.locale, 1)],
        .updateTimeouts, .updateTimeouts, .submitPending 0] = true := by decide
  obtain ⟨tr, s, hrun, -, hs⟩ := exists_run_of_trial (fun _ _ _ => step_of_call) htrial
  have hnew : EndStation.new 0 (Controller.advertisement 3 0) = .ok (found, _) := rfl
  obtain ⟨horder, htype, -⟩ := background_read_queue hnew hrun
  exact ⟨tr, s, hrun, horder, htype, eq_of_beq hs⟩

/-- The read of the ENTITY is taken out of the inflight list without an answer that carries its
index. -/
def leftByIndex (b : BackgroundReadRequest) (i : BitVec 16) (s : Reading) : Bool :=
  s.station.backgroundReadInflight.contains b && s.clock == 0 &&
    match s.call s.clock (entityResponse i) with
    | .ok s' => !s'.station.backgroundReadInflight.contains b
    | .error _ => false

/-- A CONFIGURATION that counts an ENTITY makes it asked for, and the answer of an ENTITY with
index 5 is taken as the one for index 0. -/
theorem left_by_index :
    ¬ ∀ (mac : Mac) (frame : AdpFrame) (es : EndStation) (tx₀ : List TxData) (clock : Nat)
      (tr : List (Reading × ReadCall)) (s : Reading), EndStation.new mac frame = .ok (es, tx₀) →
      Run Step ⟨es, clock, [], []⟩ tr s →
      ∀ c s', s.Step c s' → s.Leaves ReadCall.Carries c s' := by
  intro h
  have htrial : trial (callAfter 0) (fun _ _ => true)
      (leftByIndex ⟨.entity, 0, .start 0 750, 0⟩ 5) ⟨found, 0, [], []⟩
      [entityResponse 0, configurationResponse [(.entity, 1)]] = true := by decide
  obtain ⟨tr, s, hrun, -, hs⟩ := exists_run_of_trial (fun _ _ _ => step_of_call) htrial
  simp only [leftByIndex, Bool.and_eq_true, beq_iff_eq, List.contains_iff_mem] at hs
  obtain ⟨⟨hinflight, hclock⟩, hs⟩ := hs
  cases hcall : s.call s.clock (entityResponse 5) with
  | error e =>
    rw [hcall] at hs
    cases hs
  | ok s' =>
    rw [hcall, Bool.not_eq_true', Bool.eq_false_iff, Ne, List.contains_iff_mem] at hs
    have hst : s.Step (entityResponse 5) s' := step_of_call (d := 0) hcall
    have hnew : EndStation.new 0 (Controller.advertisement 3 0) = .ok (found, _) := rfl
    obtain ⟨keep, new, hkept, -, hleft⟩ := h 0 _ _ _ 0 tr s hnew hrun _ s' hst
    have hgone : keep ⟨.entity, 0, .start 0 750, 0⟩ = false := by
      rw [← Bool.not_eq_true]
      intro hk
      apply hs
      rw [hkept]
      exact List.mem_append_left _ (List.mem_filter.2 ⟨hinflight, hk⟩)
    rcases hleft _ hinflight hgone with ⟨-, -, hindex⟩ | ⟨t, -, hlate⟩
    · cases hindex
    · rw [call_clock hcall, hclock] at hlate
      omega

end

end Reading

end AvdeccLib
