import AvdeccLib.Responses

namespace AvdeccLib
set_option autoImplicit true

open Outcome

/-- A handler that leaves a part of the globals as it was. -/
def Keeps (r : Globals → α) (handler : RespHandler φ) : Prop :=
  ∀ frame g out g' out', handler frame g out = .ok (g', out') → r g' = r g

/-- A part of the globals that neither the inflight table nor the posts belong to. -/
structure Aside (r : Globals → α) : Prop where
  inflight : ∀ t u frame g out, r (updateInflight t u frame g out).1 = r g
  posts : ∀ g posts, r { g with posts } = r g

variable {r : Globals → α}

theorem keeps_pure {f : φ → Globals → RxOut → Globals × RxOut}
    (hf : ∀ frame g out, r (f frame g out).1 = r g) :
    Keeps r fun frame g out => pure (f frame g out) := by
  intro frame g out g' out' h
  have hr := hf frame g out
  rw [Except.ok.inj h] at hr
  exact hr

theorem Keeps.implementedBy {handler : RespHandler AecpFrame} (h : Keeps r handler)
    (t : DescType) : Keeps r (implementedBy t handler) := by
  intro frame g out g' out' hok
  rw [AvdeccLib.implementedBy] at hok
  split at hok
  · exact h frame g out g' out' hok
  · cases hok
    rfl

namespace Aside

theorem procAemResp (h : Aside r) (asserts : Bool) : Keeps r (procAemResp asserts) := by
  intro frame g out g' out' hok
  rw [AvdeccLib.procAemResp] at hok
  split at hok
  · split at hok
    · cases hok
    · cases hok
      rfl
  · cases hok
    exact h.inflight _ _ _ _ _

theorem procSetControlResp (h : Aside r) : Keeps r procSetControlResp :=
  keeps_pure fun _ _ _ => h.inflight _ _ _ _ _

theorem procRcvdAecpAaResp (h : Aside r) : Keeps r procRcvdAecpAaResp := by
  apply keeps_pure
  intro frame g out
  rw [h.inflight]
  split
  · exact h.posts g _
  · rfl

end Aside

theorem keeps_procAcmpResp (h : ∀ g acmp, r { g with acmp } = r g) : Keeps r procAcmpResp := by
  intro frame g out g' out' hok
  rw [procAcmpResp] at hok
  split at hok
  · cases hok
  · cases hok
    exact h g _

namespace EndStation

variable {es : EndStation}

theorem onObject_cases {t : DescType} {i : BitVec 16} {handler : RespHandler φ} {frame : φ}
    {g g' : Globals} {out out' : RxOut}
    (h : es.onObject t i handler frame g out = .ok (g', out')) :
    g' = g ∧ out' = out ∨
      (∃ d, es.findObject t i = .ok (some d)) ∧ handler frame g out = .ok (g', out') := by
  obtain ⟨o, ho, h⟩ := bind_eq_ok.1 h
  cases o with
  | none =>
    cases h
    exact .inl ⟨rfl, rfl⟩
  | some d => exact .inr ⟨⟨d, ho⟩, h⟩

theorem onTypes_cases {types : List DescType} {handler : RespHandler AecpFrame}
    {frame : AecpFrame} {g g' : Globals} {out out' : RxOut}
    (h : es.onTypes types handler frame g out = .ok (g', out')) :
    g' = g ∧ out' = out ∨ frame.descriptorType ∈ types ∧
      (∃ d, es.findObject frame.descriptorType frame.descriptorIndex = .ok (some d)) ∧
        handler frame g out = .ok (g', out') := by
  rw [onTypes] at h
  split at h
  · next ht =>
    rcases onObject_cases h with hsame | ⟨hd, h⟩
    · exact .inl hsame
    · exact .inr ⟨ht, hd, h⟩
  · cases h
    exact .inl ⟨rfl, rfl⟩

theorem keeps_onObject {handler : RespHandler φ} (h : Keeps r handler) (t : DescType)
    (i : BitVec 16) : Keeps r (es.onObject t i handler) := by
  intro frame g out g' out' hok
  rcases onObject_cases hok with ⟨rfl, -⟩ | ⟨-, hok⟩
  · rfl
  · exact h frame g out g' out' hok

theorem keeps_onTypes {handler : RespHandler AecpFrame} (h : Keeps r handler)
    (types : List DescType) : Keeps r (es.onTypes types handler) := by
  intro frame g out g' out' hok
  rcases onTypes_cases hok with ⟨rfl, -⟩ | ⟨-, -, hok⟩
  · rfl
  · exact h frame g out g' out' hok

/-- Of the commands only the two that deal with operations can change such a part. -/
theorem keeps_aemRespHandler (h : Aside r) {frame : AecpFrame}
    (hstart : frame.commandType = .startOperation → Keeps r procStartOperationResp)
    (hstatus : frame.commandType = .operationStatus → Keeps r procOperationStatusResp) :
    Keeps r (es.aemRespHandler frame) := by
  have haem := h.procAemResp
  rw [aemRespHandler]
  cases hc : frame.commandType with
  | setStreamFormat | getStreamFormat | getStreamInfo | startStreaming | stopStreaming
  | setSamplingRate | getSamplingRate => exact keeps_onTypes (haem true) _
  | acquireEntity | lockEntity | setStreamInfo =>
    exact keeps_onTypes ((haem true).implementedBy _) _
  | reboot => exact keeps_onTypes (haem false) _
  | setClockSource | getClockSource => exact keeps_onObject (haem true) _ _
  | entityAvailable => exact haem false
  | setName | getName => exact keeps_pure fun _ _ _ => rfl
  | setControl => exact h.procSetControlResp
  | startOperation => exact keeps_onTypes (hstart hc) _
  | operationStatus => exact keeps_onTypes (hstatus hc) _
  | readDescriptor | controllerAvailable | other => exact keeps_pure fun _ g _ => h.posts g _

theorem keeps_procRcvdAcmpResp (hacmp : ∀ g acmp, r { g with acmp } = r g)
    (hposts : ∀ g posts, r { g with posts } = r g) : Keeps r es.procRcvdAcmpResp := by
  have hobject := fun t i => es.keeps_onObject (keeps_procAcmpResp hacmp) t i
  intro frame g out g' out' h
  rw [procRcvdAcmpResp] at h
  split at h
  · exact hobject _ _ frame g out g' out' h
  · exact hobject _ _ frame g out g' out' h
  · exact hobject _ _ frame g out g' out' h
  · exact hobject _ _ frame g out g' out' h
  · exact hobject _ _ frame g out g' out' h
  · cases h
    exact hposts g _

end EndStation
end AvdeccLib
