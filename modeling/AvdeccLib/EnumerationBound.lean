import AvdeccLib.ReadCompleted

namespace AvdeccLib
set_option autoImplicit true

open Runs Outcome

/-- An end station that enumerates itself with the types of the responses that may still come:
each READ_DESCRIPTOR is answered by a fixed number of responses at most, which carry the
descriptor type that was asked for. -/
structure Exchange where
  station : EndStation
  owed : List DescType

namespace Exchange

def answers (r : Nat) (es es' : EndStation) : List DescType :=
  (es'.issued.drop es.issued.length).flatMap fun p => List.replicate r p.1.type

inductive Step (r : Nat) (mac : Mac) (s : Exchange) : StationEvent → Exchange → Prop where
  | rcvdDescriptor {now : Timestamp} {status : BitVec 5} {d : AemDesc} {es : EndStation}
      {tx : List TxData} {posts : List Notification} (ho : d.descriptorType ∈ s.owed)
      (h : s.station.rcvdDescriptor mac now status d = .ok (es, tx, posts)) :
      Step r mac s (.rcvdDescriptor now status d)
        ⟨es, s.owed.erase d.descriptorType ++ answers r s.station es⟩
  | timeTick {now : Timestamp} {es : EndStation} {tx : List TxData}
      (h : s.station.timeTick mac now = .ok (es, tx)) :
      Step r mac s (.timeTick now) ⟨es, s.owed ++ answers r s.station es⟩

/-- A new end station has asked for its ENTITY descriptor. -/
def start (r : Nat) (es : EndStation) : Exchange := ⟨es, List.replicate r .entity⟩

end Exchange

def maxCount : Nat := 65535

/-- What one read of a leaf type and its responses can cost, one for queuing it included. -/
def leafCost (r : Nat) : Nat := 3 + r

def portWeight (r : Nat) : Nat := 1 + 3 * (maxCount * leafCost r)

def portCost (r : Nat) : Nat := 3 + r * portWeight r

def audioUnitWeight (r : Nat) : Nat :=
  1 + 2 * (maxCount * portCost r) + 3 * (maxCount * leafCost r)

def respWeight (r : Nat) : DescType → Nat
  | .entity => 1 + leafCost r
  | .audioUnit => audioUnitWeight r
  | .locale => 1 + maxCount * leafCost r
  | .streamPortInput | .streamPortOutput => portWeight r
  | _ => 1

def readCost (r : Nat) (t : DescType) : Nat := 3 + r * respWeight r t

/-- What the one configuration that is ever stored can cost: its types are arbitrary. -/
def configCost (r : Nat) : Nat := 108 * (maxCount * (3 + r * audioUnitWeight r))

theorem respWeight_pos (r : Nat) (t : DescType) : 1 ≤ respWeight r t := by
  cases t <;> simp only [respWeight, audioUnitWeight, portWeight] <;> omega

theorem respWeight_le (r : Nat) (t : DescType) : respWeight r t ≤ audioUnitWeight r := by
  have hm : leafCost r ≤ maxCount * leafCost r := Nat.le_mul_of_pos_left _ (by decide)
  have ha : audioUnitWeight r = 1 + 2 * (maxCount * portCost r) + 3 * (maxCount * leafCost r) :=
    rfl
  have hp : portWeight r = 1 + 3 * (maxCount * leafCost r) := rfl
  have hl : 3 ≤ leafCost r := by simp only [leafCost]; omega
  cases t <;> simp only [respWeight] <;> omega

theorem readCost_le (r : Nat) (t : DescType) : readCost r t ≤ 3 + r * audioUnitWeight r :=
  Nat.add_le_add_left (Nat.mul_le_mul_left r (respWeight_le r t)) 3

def readsCost (r : Nat) (l : List BackgroundReadRequest) : Nat :=
  (l.map fun b => readCost r b.type).sum

@[simp] theorem readsCost_append (r : Nat) (l l' : List BackgroundReadRequest) :
    readsCost r (l ++ l') = readsCost r l + readsCost r l' := by
  simp only [readsCost, List.map_append, List.sum_append]

theorem readsCost_queue (r : Nat) (es : EndStation) (t : DescType) (base count : BitVec 16) :
    readsCost r (es.queueBackgroundReadRequest t base count) = count.toNat * readCost r t := by
  simp only [readsCost, EndStation.queueBackgroundReadRequest, List.map_map, Function.comp_def,
    List.map_const', List.length_range, List.sum_replicate_nat]

theorem readsCost_queue_le (r : Nat) (es : EndStation) (t : DescType) (base count : BitVec 16) :
    readsCost r (es.queueBackgroundReadRequest t base count) ≤ maxCount * readCost r t := by
  rw [readsCost_queue]
  exact Nat.mul_le_mul_right _ (Nat.le_of_lt_succ count.isLt)

namespace EndStation

/-- Outside of the CONFIGURATION case, the reads that a descriptor calls for are paid for by the
response that carries it. -/
theorem deduceFromConfig_cost {es : EndStation} {cd : ConfigurationDescriptor} {d : AemDesc}
    {next : List BackgroundReadRequest} (r : Nat) (h : es.deduceFromConfig cd d = .ok next)
    (hd : d.descriptorType ≠ .configuration) :
    readsCost r next + 1 ≤ respWeight r d.descriptorType := by
  have hq := readsCost_queue_le r es
  have hleaf : ∀ t, respWeight r t = 1 → readCost r t = leafCost r := by
    intro t ht
    rw [readCost, ht, leafCost, Nat.mul_one]
  rw [deduceFromConfig] at h
  cases ht : d.descriptorType with
  | configuration => exact absurd ht hd
  | locale =>
    simp only [ht] at h
    obtain ⟨l, -, h⟩ := bind_eq_ok.1 h
    cases h
    have := hq .strings 0 l.strings.number
    rw [hleaf .strings rfl] at this
    simp only [respWeight]
    omega
  | audioUnit =>
    simp only [ht] at h
    obtain ⟨aud, -, h⟩ := bind_eq_ok.1 h
    cases h
    have h₁ := hq .streamPortInput aud.streamInputPorts.base aud.streamInputPorts.number
    have h₂ := hq .streamPortOutput aud.streamOutputPorts.base aud.streamOutputPorts.number
    have h₃ := hq .externalPortInput aud.externalInputPorts.base aud.externalInputPorts.number
    have h₄ := hq .externalPortOutput aud.externalOutputPorts.base
      aud.externalOutputPorts.number
    have h₅ := hq .control aud.controlBlocks.base aud.controlBlocks.number
    have hp : readCost r .streamPortInput = portCost r := rfl
    have hp' : readCost r .streamPortOutput = portCost r := rfl
    rw [hp] at h₁
    rw [hp'] at h₂
    rw [hleaf _ rfl] at h₃ h₄ h₅
    simp only [readsCost_append, respWeight, audioUnitWeight]
    omega
  | streamPortInput =>
    simp only [ht] at h
    obtain ⟨spid, -, h⟩ := bind_eq_ok.1 h
    cases h
    have h₁ := hq .control spid.controls.base spid.controls.number
    have h₂ := hq .audioCluster spid.clusters.base spid.clusters.number
    have h₃ := hq .audioMap spid.maps.base spid.maps.number
    rw [hleaf _ rfl] at h₁ h₂ h₃
    simp only [readsCost_append, respWeight, portWeight]
    omega
  | streamPortOutput =>
    simp only [ht] at h
    obtain ⟨spod, -, h⟩ := bind_eq_ok.1 h
    cases h
    have h₁ := hq .control spod.controls.base spod.controls.number
    have h₂ := hq .audioCluster spod.clusters.base spod.clusters.number
    have h₃ := hq .audioMap spod.maps.base spod.maps.number
    rw [hleaf _ rfl] at h₁ h₂ h₃
    simp only [readsCost_append, respWeight, portWeight]
    omega
  | _ =>
    simp only [ht] at h
    cases h
    exact respWeight_pos r _

theorem deduceFromConfig_configuration {es : EndStation} {cd : ConfigurationDescriptor}
    {d : AemDesc} {next : List BackgroundReadRequest} (r : Nat)
    (h : es.deduceFromConfig cd d = .ok next) (hd : d.descriptorType = .configuration)
    (hn : cd.desc.descriptorCounts.length ≤ 108) : readsCost r next ≤ configCost r := by
  simp only [deduceFromConfig, hd] at h
  cases h
  have hall : ∀ l : List (DescType × BitVec 16),
      readsCost r (l.flatMap fun c => es.queueBackgroundReadRequest c.1 0 c.2) ≤
        l.length * (maxCount * (3 + r * audioUnitWeight r)) := by
    intro l
    induction l with
    | nil => exact Nat.zero_le _
    | cons c l ih =>
      have hc := readsCost_queue_le r es c.1 0 c.2
      have hle := Nat.mul_le_mul_left maxCount (readCost_le r c.1)
      rw [List.flatMap_cons, readsCost_append, List.length_cons, Nat.succ_mul]
      omega
  exact Nat.le_trans (hall _) (Nat.mul_le_mul_right _ hn)

/-- What the configuration that may still be stored can cost. -/
def configBudget (r : Nat) (es : EndStation) : Nat :=
  if es.hasConfig then 0 else configCost r

theorem configBudget_le {es es' : EndStation} (r : Nat)
    (h : es.hasConfig = true → es'.hasConfig = true) :
    configBudget r es' ≤ configBudget r es := by
  simp only [configBudget]
  cases hc : es.hasConfig with
  | true => rw [h hc]
  | false =>
    simp only [Bool.false_eq_true, if_false]
    split
    · exact Nat.zero_le _
    · exact Nat.le_refl _

theorem hasConfig_eq_false {es : EndStation} {e : EntityDescriptor}
    (hv : es.entityDescVec = [e]) (hc : e.configDescVec = []) : es.hasConfig = false := by
  rw [hasConfig, hv]
  simp [hc]

/-- A stored descriptor is paid for by its response, the CONFIGURATION by the budget for it. -/
theorem storeDesc_cost {es es₁ : EndStation} {status : BitVec 5} {d : AemDesc}
    {next : List BackgroundReadRequest} (r : Nat)
    (hs : es.storeDescriptor status d.descriptorType = true) (h₁ : es.storeDesc d = .ok es₁)
    (hn : es₁.backgroundReadDeduceNext es₁.currentConfig d = .ok next) :
    readsCost r next + configBudget r es₁ + 1 ≤
      configBudget r es + respWeight r d.descriptorType := by
  by_cases hd : d.descriptorType = .configuration
  · rw [hd] at hs
    obtain ⟨e, hv, hc⟩ := storeDescriptor_configuration hs
    have h : es.storeConfiguration d = .ok es₁ := by
      simpa only [storeDesc, hd] using h₁
    obtain ⟨hle, rfl⟩ := storeConfiguration_of_nil hv hc h
    have hb : configBudget r es = configCost r := by
      rw [configBudget, hasConfig_eq_false hv hc]
      rfl
    have hnext : readsCost r next ≤ configCost r := by
      simp only [backgroundReadDeduceNext] at hn
      rw [if_neg (by rw [hd]; decide)] at hn
      cases hcur : currentConfig _ with
      | none =>
        rw [hcur] at hn
        cases hn
        exact Nat.zero_le _
      | some cd =>
        rw [hcur] at hn
        apply deduceFromConfig_configuration r hn hd
        have hget :
            [(⟨d, fun _ => []⟩ : ConfigurationDescriptor)][es.currentConfigDesc.toNat]? =
              some cd := hcur
        rw [List.mem_singleton.1 (List.mem_of_getElem? hget)]
        exact hle
    have hpos := respWeight_pos r d.descriptorType
    rw [hb]
    show readsCost r next + 0 + 1 ≤ _
    omega
  · have hmono := configBudget_le r (storeDesc_hasConfig h₁)
    suffices hnext : readsCost r next + 1 ≤ respWeight r d.descriptorType by omega
    simp only [backgroundReadDeduceNext] at hn
    by_cases he : d.descriptorType = .entity
    · rw [if_pos he] at hn
      cases hn
      have hone : (1 : BitVec 16).toNat = 1 := rfl
      rw [readsCost_queue, he, hone]
      simp only [readCost, respWeight, leafCost]
      omega
    · rw [if_neg he] at hn
      cases hcur : es₁.currentConfig with
      | none =>
        rw [hcur] at hn
        cases hn
        exact respWeight_pos r _
      | some cd =>
        rw [hcur] at hn
        exact deduceFromConfig_cost r hn hd

/-- What an end station can still do: what it has submitted, what is inflight and what its
queued reads and its configuration can cost. -/
def potential (r : Nat) (es : EndStation) : Nat :=
  es.issued.length + es.backgroundReadInflight.length + readsCost r es.backgroundReadPending +
    configBudget r es

theorem storeAndDeduce_cost {es es' : EndStation} {status : BitVec 5} {d : AemDesc} (r : Nat)
    (h : es.storeAndDeduce status d = .ok es') :
    es'.potential r + 1 ≤ es.potential r + respWeight r d.descriptorType := by
  rcases storeAndDeduce_cases h with ⟨-, rfl⟩ | ⟨es₁, next, hs, h₁, hn, rfl⟩
  · exact Nat.add_le_add_left (respWeight_pos r _) _
  · have hcost := storeDesc_cost r hs h₁ hn
    have hw := storeDesc_sameWork h₁
    have hb : configBudget r { es₁ with
        backgroundReadPending := es₁.backgroundReadPending ++ next } = configBudget r es₁ := rfl
    rw [potential, hb]
    simp only [potential, hw.pending, hw.inflight, hw.issued, readsCost_append]
    omega

def owedCost (r : Nat) (l : List DescType) : Nat := (l.map (respWeight r)).sum

end EndStation

namespace Exchange
open EndStation

theorem readsCost_of_type {t : DescType} {l : List BackgroundReadRequest} (r : Nat)
    (h : ∀ b ∈ l, b.type = t) : readsCost r l = l.length * readCost r t := by
  have hl : l.map (fun b => readCost r b.type) = List.replicate l.length (readCost r t) := by
    rw [← List.map_const']
    exact List.map_congr_left fun b hb => congrArg (readCost r) (h b hb)
  rw [readsCost, hl, List.sum_replicate_nat]

theorem owedCost_batch {t : DescType} {l : List BackgroundReadRequest} (r g : Nat)
    (h : ∀ b ∈ l, b.type = t) :
    owedCost r ((l.map fun b => (b, g)).flatMap fun p => List.replicate r p.1.type) =
      l.length * (r * respWeight r t) := by
  induction l with
  | nil => simp [owedCost]
  | cons b l ih =>
    have ht := h b List.mem_cons_self
    have hl := ih fun b' hb' => h b' (List.mem_cons_of_mem b hb')
    simp only [owedCost] at hl
    simp only [owedCost, List.map_cons, List.flatMap_cons, List.map_append, List.sum_append,
      List.map_replicate, List.sum_replicate_nat, List.length_cons, ht, hl]
    rw [Nat.succ_mul, Nat.add_comm]

theorem submit_cost {es es' : EndStation} {now : Timestamp} {tx : List TxData} (r : Nat)
    (h : Submit now es es' tx) :
    es'.potential r + owedCost r (answers r es es') ≤ es.potential r := by
  cases h with
  | idle =>
    have hnil : answers r es es = [] := by
      rw [answers, List.drop_length]
      rfl
    rw [hnil]
    exact Nat.le_refl _
  | sent hi hp =>
    rename_i b rest _ _
    have hans : answers r es (submitted now es b rest) =
        ((batch b rest).map fun b => (b, es.generation)).flatMap fun p =>
          List.replicate r p.1.type := by
      rw [answers, submitted, List.drop_left]
    have hbatch := readsCost_of_type r (fun b' hb' => batch_type hb')
      (l := batch b rest) (t := b.type)
    have hsplit : readsCost r es.backgroundReadPending = readsCost r (batch b rest) +
        readsCost r (rest.dropWhile fun r => r.type == b.type) := by
      rw [hp, ← readsCost_append, batch_append]
    have hb : configBudget r (submitted now es b rest) = configBudget r es := rfl
    rw [hans, owedCost_batch r es.generation (t := b.type) fun b' hb' => batch_type hb']
    rw [potential, potential, hb, hsplit, hbatch, readCost, Nat.mul_add, hi]
    simp only [submitted, List.length_append, List.length_map, List.length_nil]
    omega

theorem owedCost_append (r : Nat) (l l' : List DescType) :
    owedCost r (l ++ l') = owedCost r l + owedCost r l' := by
  simp only [owedCost, List.map_append, List.sum_append]

theorem storeAndDeduce_issued {es es' : EndStation} {status : BitVec 5} {d : AemDesc}
    (h : es.storeAndDeduce status d = .ok es') : es'.issued = es.issued := by
  rcases storeAndDeduce_cases h with ⟨-, rfl⟩ | ⟨es₁, next, -, h₁, -, rfl⟩
  · rfl
  · exact (storeDesc_sameWork h₁).issued

theorem updateInflight_potential (r : Nat) (es : EndStation) (d : AemDesc) :
    (es.backgroundReadUpdateInflight d).potential r ≤ es.potential r := by
  have hf : (es.backgroundReadUpdateInflight d).backgroundReadInflight.length ≤
      es.backgroundReadInflight.length := List.length_filter_le _ _
  have hb : configBudget r (es.backgroundReadUpdateInflight d) = configBudget r es := rfl
  rw [potential, potential, hb]
  simp only [backgroundReadUpdateInflight] at hf ⊢
  omega

def expired (es : EndStation) (now : Timestamp) : Nat :=
  es.backgroundReadInflight.countP fun b => b.timer.timeout now

theorem updateTimeouts_potential (r : Nat) (es : EndStation) (now : Timestamp) :
    (es.backgroundReadUpdateTimeouts now).potential r + expired es now = es.potential r := by
  have hf := List.length_eq_countP_add_countP (fun b : BackgroundReadRequest =>
    b.timer.timeout now)
    (l := es.backgroundReadInflight)
  have hb : configBudget r (es.backgroundReadUpdateTimeouts now) = configBudget r es := rfl
  have hlen : (es.backgroundReadUpdateTimeouts now).backgroundReadInflight.length =
      es.backgroundReadInflight.countP fun b => !b.timer.timeout now :=
    (List.countP_eq_length_filter ..).symm
  simp only [Bool.not_eq_true, Bool.decide_eq_false] at hf
  rw [potential, potential, hb, hlen, expired]
  simp only [backgroundReadUpdateTimeouts]
  omega

def activity (s : Exchange) : StationEvent → Nat
  | .rcvdDescriptor _ _ _ => 1
  | .timeTick now => expired s.station now

def queued (s : Exchange) : Nat :=
  s.station.issued.length + s.station.backgroundReadPending.length

def Drained (s : Exchange) : Prop :=
  s.station.backgroundReadPending = [] ∧ s.station.backgroundReadInflight = []

/-- A bound on what can still happen, for the reads that are still to be answered as well. -/
def potential (r : Nat) (s : Exchange) : Nat := s.station.potential r + owedCost r s.owed

theorem queued_le_potential (r : Nat) (s : Exchange) : s.queued ≤ s.potential r := by
  have hlen : ∀ l : List BackgroundReadRequest, l.length ≤ readsCost r l := by
    intro l
    induction l with
    | nil => exact Nat.zero_le _
    | cons b l ih =>
      simp only [readsCost, List.map_cons, List.sum_cons, List.length_cons, readCost] at ih ⊢
      omega
  have := hlen s.station.backgroundReadPending
  rw [queued, potential, EndStation.potential]
  omega

theorem step_cost {r : Nat} {mac : Mac} {s t : Exchange} {e : StationEvent}
    (h : Step r mac s e t) : s.activity e + t.potential r ≤ s.potential r := by
  cases h with
  | rcvdDescriptor ho h =>
    rename_i now status d es tx posts
    obtain ⟨es₁, h₁, hs, -⟩ := rcvdDescriptor_submit h
    have hstore := storeAndDeduce_cost r h₁
    have hupd := updateInflight_potential r es₁ d
    have hsub := submit_cost r hs
    have hans : answers r (es₁.backgroundReadUpdateInflight d) es = answers r s.station es := by
      simp only [answers, backgroundReadUpdateInflight, storeAndDeduce_issued h₁]
    have herase : respWeight r d.descriptorType + owedCost r (s.owed.erase d.descriptorType) =
        owedCost r s.owed := List.sum_map_erase (respWeight r) ho
    rw [hans] at hsub
    simp only [potential, activity, owedCost_append]
    omega
  | timeTick h =>
    rename_i now es tx
    have hupd := updateTimeouts_potential r s.station now
    have hsub := submit_cost r (timeTick_submit h)
    have hans : answers r (s.station.backgroundReadUpdateTimeouts now) es =
        answers r s.station es := rfl
    rw [hans] at hsub
    simp only [potential, activity, owedCost_append]
    omega

/-- An infinite run whose inflight reads run out at some later tick when they are not
answered. -/
structure FairRun (r : Nat) (mac : Mac) (s : Nat → Exchange) (e : Nat → StationEvent) :
    Prop where
  step : ∀ n, Step r mac (s n) (e n) (s (n + 1))
  expires : ∀ n, ∀ b ∈ (s n).station.backgroundReadInflight,
    ∃ m, n ≤ m ∧ ∃ now, e m = .timeTick now ∧ b.timer.timeout now = true

theorem step_inflight {r : Nat} {mac : Mac} {s t : Exchange} {e : StationEvent}
    (h : Step r mac s e t) (ha : s.activity e = 0)
    (hi : s.station.backgroundReadInflight ≠ []) :
    t.station.backgroundReadInflight = s.station.backgroundReadInflight := by
  cases h with
  | rcvdDescriptor ho h => cases ha
  | timeTick h =>
    rename_i now es tx
    have hkeep : s.station.backgroundReadUpdateTimeouts now = s.station := by
      have hall := List.countP_eq_zero.1 ha
      have hf : (s.station.backgroundReadInflight.filter fun b => !b.timer.timeout now) =
          s.station.backgroundReadInflight := by
        apply List.filter_eq_self.2
        intro b hb
        simpa using hall b hb
      rw [backgroundReadUpdateTimeouts, hf]
    have hs := timeTick_submit h
    rw [hkeep] at hs
    cases hs with
    | idle => rfl
    | sent hnil => exact absurd hnil hi

theorem step_submits {r : Nat} {mac : Mac} {s t : Exchange} {e : StationEvent}
    (h : Step r mac s e t) (ha : s.activity e = 0) (hi : s.station.backgroundReadInflight = [])
    (hp : s.station.backgroundReadPending ≠ []) : t.station.backgroundReadInflight ≠ [] := by
  cases h with
  | rcvdDescriptor ho h => cases ha
  | timeTick h =>
    rename_i now es tx
    cases timeTick_submit h with
    | idle hor =>
      rcases hor with hne | hnil
      · exact absurd (by simp only [backgroundReadUpdateTimeouts, hi, List.filter_nil]) hne
      · exact absurd hnil hp
    | sent => exact List.cons_ne_nil _ _

/-- In every run only so many background reads are queued, responses received and reads
expired, and when the reads that are not answered expire, both lists stay empty from some
moment on. -/
theorem enumeration_terminates (r : Nat) (mac : Mac) (s₀ : Exchange) :
    (∀ tr s, Run (Step r mac) s₀ tr s → s.queued ≤ s₀.potential r ∧
      (tr.map fun p => p.1.activity p.2).sum ≤ s₀.potential r) ∧
    ∀ s e, s 0 = s₀ → FairRun r mac s e → ∃ k, ∀ n, k ≤ n → (s n).Drained := by
  constructor
  · intro tr s hrun
    have hcost : (tr.map fun p => p.1.activity p.2).sum + s.potential r ≤ s₀.potential r :=
      hrun.cost_le (I := fun _ => True) trivial (fun _ _ _ _ _ => trivial)
        fun _ _ _ _ hst => step_cost hst
    have hq := queued_le_potential r s
    omega
  · intro s e _ hfair
    have hanti : ∀ n, (s (n + 1)).potential r ≤ (s n).potential r := by
      intro n
      have := step_cost (hfair.step n)
      omega
    obtain ⟨k, hk⟩ := eventually_constant (fun n => (s n).potential r) hanti
    have hquiet : ∀ n, k ≤ n → (s n).activity (e n) = 0 := by
      intro n hn
      have hpay := step_cost (hfair.step n)
      have h₁ : (s n).potential r = (s k).potential r := hk n hn
      have h₂ : (s (n + 1)).potential r = (s k).potential r := hk (n + 1) (by omega)
      omega
    -- A read that is inflight after `k` would stay there until a tick at which it runs out.
    have hinflight : ∀ n, k ≤ n → (s n).station.backgroundReadInflight = [] := by
      intro n hn
      by_contra hne
      obtain ⟨b, hb⟩ := List.exists_mem_of_ne_nil _ hne
      obtain ⟨m, hm, now, he, hto⟩ := hfair.expires n b hb
      have hstay : ∀ j, n ≤ j → (s j).station.backgroundReadInflight =
          (s n).station.backgroundReadInflight := by
        intro j hj
        induction j, hj using Nat.le_induction with
        | base => rfl
        | succ j hj ih =>
          rw [← ih]
          exact step_inflight (hfair.step j) (hquiet j (by omega)) (by rw [ih]; exact hne)
      have hq := hquiet m (by omega)
      rw [he] at hq
      exact List.countP_eq_zero.1 hq b (by rw [hstay m hm]; exact hb) hto
    refine ⟨k, fun n hn => ⟨?_, hinflight n hn⟩⟩
    by_contra hp
    exact step_submits (hfair.step n) (hquiet n hn) (hinflight n hn) hp
      (hinflight (n + 1) (by omega))

/-- The ENTITY response comes in and the CONFIGURATION that it calls for is never answered. -/
def unansweredConfiguration : Nat → Exchange
  | 0 => ⟨Enumeration.newStation, [.entity]⟩
  | n + 1 =>
    let asked := { Enumeration.newStation with
      entityDescVec := [⟨{ descriptorType := .entity, descriptorIndex := 0 }, []⟩]
      issued := [(⟨.configuration, 0, .new, 0⟩, 0)] }
    if n = 0 then
      ⟨{ asked with backgroundReadInflight :=
          [⟨.configuration, 0, .start 0 backgroundReadTimeoutMs, 0⟩] }, [.configuration]⟩
    else ⟨asked, [.configuration]⟩

theorem enumeration_terminates_lost :
    ∃ k, ∀ n, k ≤ n → (unansweredConfiguration n).Drained := by
  let e : Nat → StationEvent
    | 0 => Enumeration.entityResponse
    | _ + 1 => .timeTick 751
  refine (enumeration_terminates 1 0 _).2 unansweredConfiguration e rfl ⟨?_, ?_⟩
  · intro n
    match n with
    | 0 => exact .rcvdDescriptor List.mem_cons_self rfl
    | 1 => exact .timeTick rfl
    | n + 2 => exact .timeTick rfl
  · intro n b hb
    match n with
    | 0 => cases hb
    | 1 =>
      cases List.mem_singleton.1 hb
      exact ⟨1, Nat.le_refl 1, 751, rfl, rfl⟩
    | n + 2 => cases hb

/-- For a new end station the bound depends on the number of responses only, not on the
device. -/
theorem start_potential {r : Nat} {mac : Mac} {frame : AdpFrame} {es : EndStation}
    {tx : List TxData} (h : EndStation.new mac frame = .ok (es, tx)) :
    (start r es).potential r = configCost r + r * respWeight r .entity := by
  rw [EndStation.new] at h
  split at h
  · obtain ⟨d, -, h⟩ := bind_eq_ok.1 h
    cases h
    have hone : ∀ n : Nat, owedCost r (List.replicate n .entity) =
      n * respWeight r .entity := by
      intro n
      rw [owedCost, List.map_replicate, List.sum_replicate_nat]
    rw [potential, start, hone]
    simp [EndStation.potential, configBudget, hasConfig, readsCost]
  · cases h

end Exchange
end AvdeccLib
