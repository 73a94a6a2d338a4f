import AvdeccLib.EventRing

namespace AvdeccLib
set_option autoImplicit true

open Ring FirstMatch Runs

namespace EventRing

/-- One while the dispatch thread has taken an entry that the callback is not called with. -/
def inHand : Dispatch α → Nat
  | .woken | .reading _ _ => 1
  | _ => 0

structure Claimed (p : RingSpec α) (s : EventRing α) (x : α) (n : Nat) (index : BitVec 32)
    (k : Nat) : Prop where
  pending : s.called.length ≤ n
  accepted : s.accepted[n]? = some x
  index : index = BitVec.ofNat 32 n
  written : ∃ d, s.buf (n % p.bufCount) = p.fields.copied k x d

/-- The dispatch thread has read the first `k` fields of the next entry, which is written. -/
structure Reading (p : RingSpec α) (s : EventRing α) (k : Nat) (args : α) : Prop where
  written : s.called.length ∉ s.claims
  args : ∃ x d, s.accepted[s.called.length]? = some x ∧ args = p.fields.copied k x d

/-- Every entry between the two indices is in its own slot, or its post is writing it there. -/
structure Consistent (p : RingSpec α) (s : EventRing α) : Prop where
  fits : ∀ x ∈ s.posts, p.fields.fits x
  decided : s.posts.Perm (s.missed ++ s.accepted ++ s.undecided)
  missedEventCnt : s.missedEventCnt = BitVec.ofNat 32 s.missed.length
  writeIndex : s.writeIndex = BitVec.ofNat 32 s.accepted.length
  readIndex : s.readIndex + BitVec.ofNat 32 (inCallback s.dispatch) =
    BitVec.ofNat 32 s.called.length
  room : s.accepted.length + inCallback s.dispatch ≤ s.called.length + p.bufCount
  claims : s.claims.Nodup
  claimed : ∀ x n index k, .claimed x n index k ∈ s.postings → Claimed p s x n index k
  kept : ∀ n x, s.called.length ≤ n + inCallback s.dispatch → n ∉ s.claims →
    s.accepted[n]? = some x → s.buf (n % p.bufCount) = x
  sem : s.sem + s.called.length + inHand s.dispatch + s.claims.length = s.accepted.length
  reading : ∀ k args, s.dispatch = .reading k args → Reading p s k args
  serving : s.dispatch ≠ .stopped

theorem consistent_new (p : RingSpec α) (buf : Nat → α) : Consistent p (.new buf) := by
  refine ⟨?_, .nil, rfl, rfl, rfl, Nat.zero_le _, .nil, ?_, ?_, rfl, ?_, ?_⟩
  · intro x hx
    cases hx
  · intro x n index k h
    cases h
  · intro n x _ _ h
    cases h
  · intro k args h
    cases h
  · intro h
    cases h

theorem claims_erase {s : EventRing α} {i : Nat} {q : Posting α} (h : s.postings[i]? = some q) :
    s.claims.Perm (q.number.toList ++ (s.postings.eraseIdx i).filterMap Posting.number) := by
  have hperm := (perm_eraseIdx h).filterMap Posting.number
  rw [List.filterMap_cons] at hperm
  cases hq : q.number with
  | none =>
    rw [hq] at hperm
    exact hperm
  | some n =>
    rw [hq] at hperm
    exact hperm

theorem undecided_erase {s : EventRing α} {i : Nat} {q : Posting α}
    (h : s.postings[i]? = some q) :
    s.undecided.Perm (q.undecided.toList ++
      (s.postings.eraseIdx i).filterMap Posting.undecided) := by
  have hperm := (perm_eraseIdx h).filterMap Posting.undecided
  rw [List.filterMap_cons] at hperm
  cases hq : q.undecided with
  | none =>
    rw [hq] at hperm
    exact hperm
  | some x =>
    rw [hq] at hperm
    exact hperm

theorem number_mem_claims {s : EventRing α} {x : α} {n : Nat} {index : BitVec 32} {k : Nat}
    (h : .claimed x n index k ∈ s.postings) : n ∈ s.claims :=
  List.mem_filterMap.2 ⟨_, h, rfl⟩

theorem lt_of_getElem? {l : List α} {n : Nat} {x : α} (h : l[n]? = some x) : n < l.length :=
  (List.getElem?_eq_some_iff.1 h).1

section
variable {p : RingSpec α} {s : EventRing α}

theorem Consistent.called_le (h : Consistent p s) : s.called.length ≤ s.accepted.length := by
  have hsem := h.sem
  omega

theorem Consistent.slot_eq (h : Consistent p s) {x : α} {n : Nat} {index : BitVec 32} {k : Nat}
    (hq : .claimed x n index k ∈ s.postings) : slot p index = n % p.bufCount := by
  rw [slot, (h.claimed x n index k hq).index]
  exact slot_of_wrapped p.bufCount_dvd n

theorem Consistent.slot_ne (h : Consistent p s) {m n : Nat}
    (hm : s.called.length ≤ m + inCallback s.dispatch) (hm' : m < s.accepted.length)
    (hn : s.called.length ≤ n + inCallback s.dispatch) (hn' : n < s.accepted.length)
    (hne : m ≠ n) : m % p.bufCount ≠ n % p.bufCount := by
  have hroom := h.room
  intro he
  apply hne
  apply slot_injective (s.called.length - inCallback s.dispatch) _ _ _ _ he
  · omega
  · omega
  · omega
  · omega

theorem Consistent.distance (h : Consistent p s) :
    (s.writeIndex - s.readIndex).toNat + s.called.length =
      s.accepted.length + inCallback s.dispatch := by
  have hle := h.called_le
  have hroom := h.room
  have hlt := p.bufCount_lt
  have hcancel : ∀ a b c : BitVec 32, a + c - (b + c) = a - b := by
    intro a b c
    bv_omega
  have hsub : s.writeIndex - s.readIndex =
      BitVec.ofNat 32 (s.accepted.length + inCallback s.dispatch) -
        BitVec.ofNat 32 s.called.length := by
    rw [h.writeIndex, ← h.readIndex, BitVec.ofNat_add, hcancel]
  rw [hsub, distance_of_wrapped (by omega) (by omega)]
  omega

theorem Consistent.fits_accepted (h : Consistent p s) {n : Nat} {x : α}
    (hx : s.accepted[n]? = some x) : p.fields.fits x := by
  apply h.fits
  apply h.decided.mem_iff.2
  exact List.mem_append_left _ (List.mem_append_right _ (List.mem_of_getElem? hx))

theorem Consistent.readIndex_eq (h : Consistent p s) (hd : inCallback s.dispatch = 0) :
    s.readIndex = BitVec.ofNat 32 s.called.length := by
  have hread := h.readIndex
  rw [hd] at hread
  exact (BitVec.add_zero _).symm.trans hread

theorem Consistent.outstanding (h : Consistent p s) (hw : s.dispatch = .woken) :
    s.writeIndex - s.readIndex ≠ 0 := by
  intro hzero
  have hsem := h.sem
  have hdist := h.distance
  rw [hw] at hsem hdist
  rw [hzero] at hdist
  have hz : (0 : BitVec 32).toNat = 0 := rfl
  simp only [inHand, inCallback] at hsem hdist
  omega

theorem Consistent.of_undecided (h : Consistent p s) {posts missed : List α} {cnt : BitVec 32}
    {postings : List (Posting α)} (hfits : ∀ x ∈ posts, p.fields.fits x)
    (hdecided : posts.Perm (missed ++ s.accepted ++ postings.filterMap Posting.undecided))
    (hcnt : cnt = BitVec.ofNat 32 missed.length)
    (hclaims : s.claims.Perm (postings.filterMap Posting.number))
    (hmem : ∀ x n index k, .claimed x n index k ∈ postings →
      .claimed x n index k ∈ s.postings) :
    Consistent p { s with posts, missed, postings, missedEventCnt := cnt } := by
  refine ⟨hfits, hdecided, hcnt, h.writeIndex, h.readIndex, h.room,
    hclaims.nodup_iff.1 h.claims, ?_, ?_,
    ?_, ?_, h.serving⟩
  · intro x n index k hq
    obtain ⟨hpending, haccepted, hindex, hwritten⟩ := h.claimed x n index k (hmem _ _ _ _ hq)
    exact ⟨hpending, haccepted, hindex, hwritten⟩
  · intro n x hn hclaim hx
    exact h.kept n x hn (fun hc => hclaim (hclaims.mem_iff.1 hc)) hx
  · have hsem := h.sem
    rw [hclaims.length_eq] at hsem
    exact hsem
  · intro k args hd
    obtain ⟨hwritten, hargs⟩ := h.reading k args hd
    exact ⟨fun hc => hwritten (hclaims.mem_iff.2 hc), hargs⟩

theorem Consistent.post (h : Consistent p s) {q : Posting α} {x : α} (hu : q.undecided = some x)
    (hn : q.number = none) (hx : p.fields.fits x) :
    Consistent p { s with posts := s.posts ++ [x], postings := q :: s.postings } := by
  apply h.of_undecided _ _ h.missedEventCnt
  · rw [List.filterMap_cons_none hn]
    exact .refl _
  · intro y n index k hq
    rcases List.mem_cons.1 hq with hq | hq
    · rw [← hq] at hn
      cases hn
    · exact hq
  · exact List.forall_mem_append.2 ⟨h.fits, List.forall_mem_singleton.2 hx⟩
  · apply (h.decided.append_right [x]).trans
    rw [List.append_assoc, List.filterMap_cons_some hu]
    exact (List.Perm.refl _).append (List.perm_append_singleton x s.undecided)

theorem Consistent.claim (h : Consistent p s) {i : Nat} {x : α}
    (hi : s.postings[i]? = some (.tested x))
    (hroom : (s.writeIndex - s.readIndex).toNat < p.bufCount) :
    Consistent p { s with
      writeIndex := s.writeIndex + 1
      postings := s.goOn i (.claimed x s.accepted.length s.writeIndex 0)
      accepted := s.accepted ++ [x] } := by
  have hclaims := claims_erase hi
  have hundecided : s.undecided.Perm
      (x :: (s.postings.eraseIdx i).filterMap Posting.undecided) := undecided_erase hi
  have hsem := h.sem
  have hdist := h.distance
  have hold : ∀ n, n < s.accepted.length → (s.accepted ++ [x])[n]? = s.accepted[n]? :=
    fun n hn => List.getElem?_append_left hn
  have hmem : ∀ n, n ∈ s.accepted.length :: (s.postings.eraseIdx i).filterMap Posting.number →
      n = s.accepted.length ∨ n ∈ s.claims := by
    intro n hn
    rcases List.mem_cons.1 hn with hn | hn
    · exact .inl hn
    · exact .inr (hclaims.mem_iff.2 hn)
  have hfresh : s.accepted.length ∉ s.claims := by
    intro hc
    obtain ⟨q, hq, hnum⟩ := List.mem_filterMap.1 hc
    cases q with
    | tested => cases hnum
    | missed => cases hnum
    | claimed x' n index k =>
      cases hnum
      exact absurd (lt_of_getElem? (h.claimed _ _ _ _ hq).accepted) (Nat.lt_irrefl _)
  refine ⟨h.fits, ?_, h.missedEventCnt, ?_, h.readIndex, ?_, ?_, ?_, ?_, ?_, ?_, h.serving⟩
  · have hperm := h.decided.trans ((List.Perm.refl (s.missed ++ s.accepted)).append hundecided)
    simp only [List.append_assoc] at hperm ⊢
    exact hperm
  · rw [h.writeIndex, List.length_append, List.length_singleton, BitVec.ofNat_add]
    rfl
  · show (s.accepted ++ [x]).length + inCallback s.dispatch ≤ s.called.length + p.bufCount
    rw [List.length_append, List.length_singleton]
    omega
  · refine List.nodup_cons.2 ⟨?_, hclaims.nodup_iff.1 h.claims⟩
    intro hc
    exact hfresh (hclaims.mem_iff.2 hc)
  · intro x' n index k hq
    rcases List.mem_cons.1 hq with hq | hq
    · cases hq
      refine ⟨h.called_le, List.getElem?_concat_length, h.writeIndex, ?_⟩
      exact ⟨s.buf (s.accepted.length % p.bufCount), rfl⟩
    · obtain ⟨hpending, haccepted, hindex, hwritten⟩ :=
        h.claimed x' n index k (List.mem_of_mem_eraseIdx hq)
      refine ⟨hpending, ?_, hindex, hwritten⟩
      show (s.accepted ++ [x])[n]? = some x'
      rw [hold n (lt_of_getElem? haccepted)]
      exact haccepted
  · intro n y hn hc hy
    have hlt := lt_of_getElem? hy
    rw [List.length_append, List.length_singleton] at hlt
    have hne : n ≠ s.accepted.length := fun he => hc (he ▸ List.mem_cons_self)
    have hy : (s.accepted ++ [x])[n]? = some y := hy
    rw [hold n (by omega)] at hy
    apply h.kept n y hn _ hy
    intro hc'
    exact hc (List.mem_cons_of_mem _ (hclaims.mem_iff.1 hc'))
  · have hlen := hclaims.length_eq
    show _ + (s.accepted.length :: _).length = (s.accepted ++ [x]).length
    rw [List.length_append, List.length_singleton, List.length_cons]
    have hnone : (Posting.tested x).number.toList = [] := rfl
    rw [hnone, List.nil_append] at hlen
    show s.sem + s.called.length + inHand s.dispatch + _ = _
    omega
  · intro k args hd
    obtain ⟨hwritten, y, d, hy, hargs⟩ := h.reading k args hd
    have hlt := lt_of_getElem? hy
    refine ⟨?_, y, d, ?_, hargs⟩
    · intro hc
      rcases hmem _ hc with he | hc
      · have he : s.called.length = s.accepted.length := he
        omega
      · exact hwritten hc
    · show (s.accepted ++ [x])[s.called.length]? = some y
      rw [hold _ hlt]
      exact hy

theorem Consistent.write (h : Consistent p s) {i : Nat} {x : α} {n : Nat} {index : BitVec 32}
    {k : Nat} (hi : s.postings[i]? = some (.claimed x n index k)) :
    Consistent p { s with
      buf := Function.update s.buf (slot p index) (p.fields.copy k x (s.buf (slot p index)))
      postings := s.goOn i (.claimed x n index (k + 1)) } := by
  have hq := List.mem_of_getElem? hi
  have hclaims : s.claims.Perm (n :: (s.postings.eraseIdx i).filterMap Posting.number) :=
    claims_erase hi
  obtain ⟨hpending, haccepted, hindex, d, hwritten⟩ := h.claimed x n index k hq
  have hlt := lt_of_getElem? haccepted
  rw [h.slot_eq hq]
  have hpending' := Nat.le_trans hpending (Nat.le_add_right n (inCallback s.dispatch))
  have hother : ∀ m, s.called.length ≤ m + inCallback s.dispatch →
      m < s.accepted.length → m ≠ n →
      Function.update s.buf (n % p.bufCount) (p.fields.copy k x (s.buf (n % p.bufCount)))
        (m % p.bufCount) = s.buf (m % p.bufCount) := by
    intro m hm hm' hne
    exact Function.update_of_ne (h.slot_ne hm hm' hpending' hlt hne) _ _
  have hnodup := hclaims.nodup_iff.1 h.claims
  refine ⟨h.fits, ?_, h.missedEventCnt, h.writeIndex, h.readIndex, h.room, hnodup,
    ?_, ?_, ?_, ?_,
    h.serving⟩
  · exact h.decided.trans ((List.Perm.refl (s.missed ++ s.accepted)).append
      (undecided_erase hi))
  · intro x' m index' k' hm
    rcases List.mem_cons.1 hm with hm | hm
    · cases hm
      refine ⟨hpending, haccepted, hindex, d, ?_⟩
      rw [Fields.copied_succ, ← hwritten]
      exact Function.update_self _ _ _
    · obtain ⟨hp', ha', hi', d', hw'⟩ :=
        h.claimed x' m index' k' (List.mem_of_mem_eraseIdx hm)
      refine ⟨hp', ha', hi', d', ?_⟩
      have hne : m ≠ n := by
        intro he
        have hmem : m ∈ (s.postings.eraseIdx i).filterMap Posting.number :=
          List.mem_filterMap.2 ⟨_, hm, rfl⟩
        exact (List.nodup_cons.1 hnodup).1 (he ▸ hmem)
      exact (hother m (Nat.le_trans hp' (Nat.le_add_right _ _))
        (lt_of_getElem? ha') hne).trans hw'
  · intro m y hm hc hy
    have hne : m ≠ n := fun he => hc (he ▸ List.mem_cons_self)
    have hkept := h.kept m y hm (fun hc' => hc (hclaims.mem_iff.1 hc')) hy
    exact (hother m hm (lt_of_getElem? hy) hne).trans hkept
  · have hsem := h.sem
    rw [hclaims.length_eq] at hsem
    exact hsem
  · intro k' args hd
    obtain ⟨hw', hargs⟩ := h.reading k' args hd
    exact ⟨fun hc => hw' (hclaims.mem_iff.2 hc), hargs⟩

theorem Consistent.signal (h : Consistent p s) {i : Nat} {x : α} {n : Nat} {index : BitVec 32}
    (hi : s.postings[i]? = some (.claimed x n index p.fields.count)) :
    Consistent p { s with sem := s.sem + 1, postings := s.postings.eraseIdx i } := by
  have hclaims : s.claims.Perm (n :: (s.postings.eraseIdx i).filterMap Posting.number) :=
    claims_erase hi
  obtain ⟨-, haccepted, -, d, hwritten⟩ :=
    h.claimed x n index p.fields.count (List.mem_of_getElem? hi)
  have hnodup := List.nodup_cons.1 (hclaims.nodup_iff.1 h.claims)
  refine ⟨h.fits, ?_, h.missedEventCnt, h.writeIndex, h.readIndex, h.room, hnodup.2,
    ?_, ?_, ?_, ?_,
    h.serving⟩
  · exact h.decided.trans ((List.Perm.refl (s.missed ++ s.accepted)).append
      (undecided_erase hi))
  · intro x' m index' k' hm
    obtain ⟨hp', ha', hi', hw'⟩ := h.claimed x' m index' k' (List.mem_of_mem_eraseIdx hm)
    exact ⟨hp', ha', hi', hw'⟩
  · intro m y hm hc hy
    by_cases he : m = n
    · subst he
      have hy : s.accepted[m]? = some y := hy
      rw [haccepted] at hy
      cases hy
      rw [Fields.copied_count _ (h.fits_accepted haccepted)] at hwritten
      exact hwritten
    · apply h.kept m y hm _ hy
      intro hc'
      rcases List.mem_cons.1 (hclaims.mem_iff.1 hc') with hc' | hc'
      · exact he hc'
      · exact hc hc'
  · have hsem := h.sem
    rw [hclaims.length_eq, List.length_cons] at hsem
    show s.sem + 1 + s.called.length + inHand s.dispatch +
      ((s.postings.eraseIdx i).filterMap Posting.number).length = s.accepted.length
    omega
  · intro k' args hd
    obtain ⟨hw', hargs⟩ := h.reading k' args hd
    exact ⟨fun hc => hw' (hclaims.mem_iff.2 (List.mem_cons_of_mem _ hc)), hargs⟩

theorem Consistent.of_dispatch (h : Consistent p s) {n : Nat} {d : Dispatch α}
    (hcallback : inCallback d = inCallback s.dispatch)
    (hsem : n + inHand d = s.sem + inHand s.dispatch)
    (hreading : ∀ k args, d = .reading k args → Reading p s k args) (hserving : d ≠ .stopped) :
    Consistent p { s with sem := n, dispatch := d } := by
  have hread := h.readIndex
  have hroom := h.room
  have hkept := h.kept
  rw [← hcallback] at hread hroom
  simp only [← hcallback] at hkept
  refine ⟨h.fits, h.decided, h.missedEventCnt, h.writeIndex, hread, hroom, h.claims,
    ?_, hkept, ?_,
    ?_, hserving⟩
  · intro x m index k hm
    obtain ⟨hp', ha', hi', hw'⟩ := h.claimed x m index k hm
    exact ⟨hp', ha', hi', hw'⟩
  · have hbefore := h.sem
    show n + s.called.length + inHand d + s.claims.length = s.accepted.length
    omega
  · intro k args hd
    obtain ⟨hw', hargs⟩ := hreading k args hd
    exact ⟨hw', hargs⟩

theorem Consistent.read (h : Consistent p s) {k : Nat} {args : α}
    (hd : s.dispatch = .reading k args) :
    Reading p s (k + 1) (p.fields.copy k (s.buf (slot p s.readIndex)) args) := by
  obtain ⟨hwritten, x, d, hx, hargs⟩ := h.reading k args hd
  refine ⟨hwritten, x, d, hx, ?_⟩
  have hslot : slot p s.readIndex = s.called.length % p.bufCount := by
    rw [slot, h.readIndex_eq (by rw [hd]; rfl)]
    exact slot_of_wrapped p.bufCount_dvd _
  rw [hslot, h.kept _ x (Nat.le_add_right _ _) hwritten hx, Fields.copied_succ, ← hargs]

theorem Consistent.args (h : Consistent p s) {args : α}
    (hd : s.dispatch = .reading p.fields.count args) :
    s.accepted[s.called.length]? = some args := by
  obtain ⟨-, x, d, hx, hargs⟩ := h.reading _ args hd
  rw [Fields.copied_count _ (h.fits_accepted hx)] at hargs
  rw [hargs]
  exact hx

theorem Consistent.call (h : Consistent p s) {args : α}
    (hd : s.dispatch = .reading p.fields.count args) :
    Consistent p { s with dispatch := .calling, called := s.called ++ [args] } := by
  have hread := h.readIndex_eq (by rw [hd]; rfl)
  have hlen : (s.called ++ [args]).length = s.called.length + 1 := by
    rw [List.length_append, List.length_singleton]
  have hroom := h.room
  have hsem := h.sem
  rw [hd] at hsem hroom
  simp only [inHand, inCallback] at hsem hroom
  refine ⟨h.fits, h.decided, h.missedEventCnt, h.writeIndex, ?_, ?_, h.claims, ?_,
    ?_, ?_, ?_, ?_⟩
  · show s.readIndex + BitVec.ofNat 32 1 = BitVec.ofNat 32 (s.called ++ [args]).length
    rw [hread, hlen, BitVec.ofNat_add]
  · show s.accepted.length + 1 ≤ (s.called ++ [args]).length + p.bufCount
    omega
  · intro x n index k hq
    obtain ⟨hpending, haccepted, hindex, hwritten⟩ := h.claimed x n index k hq
    refine ⟨?_, haccepted, hindex, hwritten⟩
    have hne : n ≠ s.called.length :=
      fun he => (h.reading _ _ hd).written (he ▸ number_mem_claims hq)
    show (s.called ++ [args]).length ≤ n
    omega
  · intro n x hn hc hx
    have hn : (s.called ++ [args]).length ≤ n + 1 := hn
    exact h.kept n x (by omega) hc hx
  · show s.sem + (s.called ++ [args]).length + 0 + s.claims.length = s.accepted.length
    omega
  · intro k args' hr
    cases hr
  · intro hs
    cases hs

theorem Consistent.next (h : Consistent p s) (hd : s.dispatch = .calling) :
    Consistent p { s with readIndex := s.readIndex + 1, dispatch := .waiting } := by
  have hread := h.readIndex
  have hroom := h.room
  have hsem := h.sem
  rw [hd] at hread hroom hsem
  refine ⟨h.fits, h.decided, h.missedEventCnt, h.writeIndex, ?_,
    Nat.le_of_succ_le hroom, h.claims,
    ?_, ?_, hsem, ?_, ?_⟩
  · exact (BitVec.add_zero _).trans hread
  · intro x m index k hm
    obtain ⟨hp', ha', hi', hw'⟩ := h.claimed x m index k hm
    exact ⟨hp', ha', hi', hw'⟩
  · intro n x hn hc hx
    exact h.kept n x (Nat.le_trans hn (Nat.le_add_right _ _)) hc hx
  · intro k args hr
    cases hr
  · intro hs
    cases hs

end
section
variable {p : RingSpec α} {s s' : EventRing α} {a : RingAction α}

def queue (s : EventRing α) : Queue α := ⟨s.accepted, s.called⟩

theorem Consistent.step (h : Consistent p s) (hk : ∀ x, p.known x = true) (hg : Orderly p s a)
    (hs : Step p s a s') : Consistent p s' := by
  cases hs with
  | full hfull => exact h.post rfl rfl hg
  | pass hpass _ => exact h.post rfl rfl hg
  | ignore _ hu =>
    rw [hk] at hu
    cases hu
  | count hi =>
    rename_i i cnt x
    have hcnt : cnt = s.missedEventCnt := by
      simp only [Orderly, hi] at hg
      exact hg
    have hundecided : s.undecided.Perm
        (x :: (s.postings.eraseIdx i).filterMap Posting.undecided) := undecided_erase hi
    apply h.of_undecided h.fits _ _ (claims_erase hi)
      fun _ _ _ _ hq => List.mem_of_mem_eraseIdx hq
    · have hperm :=
        h.decided.trans ((List.Perm.refl (s.missed ++ s.accepted)).append hundecided)
      apply hperm.trans
      simp only [List.append_assoc, List.singleton_append]
      exact (List.Perm.refl s.missed).append List.perm_middle
    · rw [hcnt, h.missedEventCnt, List.length_append, List.length_singleton, BitVec.ofNat_add]
      rfl
  | claim hi =>
    apply h.claim hi
    simp only [Orderly, hi] at hg
    exact hg
  | write hi _ => exact h.write hi
  | signal hi => exact h.signal hi
  | semWait hd hsem =>
    apply h.of_dispatch
    · rw [hd]
      rfl
    · rw [hd]
      show s.sem - 1 + 1 = s.sem + 0
      omega
    · intro k args hr
      cases hr
    · intro hr
      cases hr
  | take hd hne =>
    rename_i uninit
    have hsem := h.sem
    rw [hd, inHand] at hsem
    have hlt : s.called.length < s.accepted.length := by omega
    apply h.of_dispatch (n := s.sem)
    · rw [hd]
      rfl
    · rw [hd]
      rfl
    · intro k args hr
      cases hr
      exact ⟨hg, s.accepted[s.called.length], uninit, List.getElem?_eq_getElem hlt, rfl⟩
    · intro hr
      cases hr
  | stop hd hz => exact absurd hz (h.outstanding hd)
  | read hd _ =>
    have hread := h.read hd
    apply h.of_dispatch (n := s.sem)
    · rw [hd]
      rfl
    · rw [hd]
      rfl
    · intro k args hr
      cases hr
      exact hread
    · intro hr
      cases hr
  | call hd => exact h.call hd
  | next hd => exact h.next hd

theorem Consistent.queue_step (h : Consistent p s) (hs : Step p s a s') :
    ∃ c, Queue.Step s.queue c s'.queue := by
  cases hs with
  | claim _ => exact ⟨_, .accept⟩
  | call hd => exact ⟨_, .deliver (h.args hd)⟩
  | full _ => exact ⟨_, .keep⟩
  | pass _ _ => exact ⟨_, .keep⟩
  | ignore _ _ => exact ⟨_, .keep⟩
  | count _ => exact ⟨_, .keep⟩
  | write _ _ => exact ⟨_, .keep⟩
  | signal _ => exact ⟨_, .keep⟩
  | semWait _ _ => exact ⟨_, .keep⟩
  | take _ _ => exact ⟨_, .keep⟩
  | stop _ _ => exact ⟨_, .keep⟩
  | read _ _ => exact ⟨_, .keep⟩
  | next _ => exact ⟨_, .keep⟩

/-- A ring whose steps are orderly delivers. -/
theorem delivers {buf : Nat → α} {tr : List (EventRing α × RingAction α)}
    (hk : ∀ x, p.known x = true) (h : Run (Step p) (.new buf) tr s)
    (hg : Along (Orderly p) tr) : Delivers p s := by
  have hinv : Consistent p s ∧ Reachable Queue.Step Queue.empty s.queue := by
    apply h.invariant_along (I := fun s => Consistent p s ∧
      Reachable Queue.Step Queue.empty s.queue) hg
    · exact ⟨consistent_new p buf, .refl⟩
    · intro s a s' ⟨hc, hq⟩ hg hs
      obtain ⟨c, hstep⟩ := hc.queue_step hs
      exact ⟨hc.step hk hg hs, hq.snoc hstep⟩
  obtain ⟨hc, hq⟩ := hinv
  have hprefix : s.called <+: s.accepted := Queue.delivered_prefix hq
  refine ⟨hc.decided, hc.missedEventCnt, hprefix, ?_, hc.kept, hc.serving⟩
  intro hd hsem hclaims
  have hcount := hc.sem
  rw [hd, hsem, hclaims] at hcount
  simp only [inHand, List.length_nil] at hcount
  exact hprefix.eq_of_length (by omega)

end
/-- The posts do not overlap, and none gets an index while as many as the ring is long are
outstanding. -/
def Alone (p : RingSpec α) (s : EventRing α) : RingAction α → Prop
  | .post x => p.fields.fits x ∧ s.postings = []
  | .advance i =>
    match s.postings[i]? with
    | some (.tested _) => (s.writeIndex - s.readIndex).toNat < p.bufCount
    | _ => True
  | _ => True

def Undisturbed (s : EventRing α) : Posting α → Prop
  | .tested _ => True
  | .missed _ count => count = s.missedEventCnt
  | .claimed _ n _ _ => n + 1 = s.accepted.length

structure Solo (s : EventRing α) : Prop where
  length : s.postings.length ≤ 1
  undisturbed : ∀ q ∈ s.postings, Undisturbed s q

theorem eq_singleton {l : List α} {i : Nat} {x : α} (hl : l.length ≤ 1) (h : l[i]? = some x) :
    l = [x] ∧ i = 0 := by
  have hi := lt_of_getElem? h
  have hz : i = 0 := by omega
  subst hz
  obtain ⟨y, rfl⟩ := List.length_eq_one_iff.1 (Nat.le_antisymm hl hi)
  cases h
  exact ⟨rfl, rfl⟩

theorem Solo.of_nil {s : EventRing α} (h : s.postings = []) : Solo s := by
  constructor
  · rw [h]
    exact Nat.zero_le 1
  · intro q hq
    rw [h] at hq
    cases hq

theorem Solo.of_singleton {s : EventRing α} {q : Posting α} (h : s.postings = [q])
    (hq : Undisturbed s q) : Solo s := by
  constructor
  · rw [h]
    exact Nat.le_refl 1
  · intro q' hq'
    rw [h] at hq'
    cases List.mem_singleton.1 hq'
    exact hq

section
variable {p : RingSpec α} {s s' : EventRing α} {a : RingAction α}

theorem Solo.erase (h : Solo s) {i : Nat} {q : Posting α} (hi : s.postings[i]? = some q) :
    s.postings.eraseIdx i = [] := by
  obtain ⟨hl, rfl⟩ := eq_singleton h.length hi
  rw [hl]
  rfl

theorem Solo.goOn (h : Solo s) {i : Nat} {q q' : Posting α} (hi : s.postings[i]? = some q) :
    s.goOn i q' = [q'] := by
  rw [EventRing.goOn, h.erase hi]

theorem Solo.step (h : Solo s) (hg : Alone p s a) (hs : Step p s a s') : Solo s' := by
  cases hs with
  | full _ =>
    apply Solo.of_singleton
    · show Posting.missed _ _ :: s.postings = _
      rw [hg.2]
    · rfl
  | pass _ _ =>
    apply Solo.of_singleton
    · show Posting.tested _ :: s.postings = _
      rw [hg.2]
    · trivial
  | ignore _ _ => exact .of_nil hg.2
  | count hi => exact .of_nil (h.erase hi)
  | claim hi =>
    apply Solo.of_singleton (h.goOn hi)
    show _ + 1 = (s.accepted ++ [_]).length
    rw [List.length_append, List.length_singleton]
  | write hi _ =>
    apply Solo.of_singleton (h.goOn hi)
    exact h.undisturbed _ (List.mem_of_getElem? hi)
  | signal hi => exact .of_nil (h.erase hi)
  | semWait _ _ => exact ⟨h.length, h.undisturbed⟩
  | take _ _ => exact ⟨h.length, h.undisturbed⟩
  | stop _ _ => exact ⟨h.length, h.undisturbed⟩
  | read _ _ => exact ⟨h.length, h.undisturbed⟩
  | call _ => exact ⟨h.length, h.undisturbed⟩
  | next _ => exact ⟨h.length, h.undisturbed⟩

/-- The entry that the dispatch thread is woken for is written: only the last one accepted can
be under way, and it has not posted the semaphore. -/
theorem Solo.written (h : Solo s) (hc : Consistent p s) (hd : s.dispatch = .woken) :
    s.called.length ∉ s.claims := by
  intro hm
  obtain ⟨q, hq, hnum⟩ := List.mem_filterMap.1 hm
  have hund := h.undisturbed q hq
  cases q with
  | tested => cases hnum
  | missed => cases hnum
  | claimed x n index k =>
    cases hnum
    have hsem := hc.sem
    have hpos := List.length_pos_of_mem hm
    have hlast : s.called.length + 1 = s.accepted.length := hund
    rw [hd, inHand] at hsem
    omega

theorem Solo.orderly (h : Solo s) (hc : Consistent p s) (hg : Alone p s a)
    (hs : Step p s a s') :
    Orderly p s a := by
  cases a with
  | post x => exact hg.1
  | advance i =>
    cases hi : s.postings[i]? with
    | none =>
      simp only [Orderly, hi]
    | some q =>
      cases q with
      | tested x =>
        simp only [Alone, hi] at hg
        simp only [Orderly, hi]
        exact hg
      | missed x count =>
        simp only [Orderly, hi]
        exact h.undisturbed _ (List.mem_of_getElem? hi)
      | claimed x n index k => simp only [Orderly, hi]
  | test uninit =>
    cases hs with
    | take hd _ => exact h.written hc hd
    | stop hd _ => exact h.written hc hd
  | semWait => trivial
  | read => trivial
  | call => trivial
  | next => trivial

/-- When the posts do not overlap, it is enough that none is accepted by a full ring. -/
theorem orderly_of_alone {buf : Nat → α} {tr : List (EventRing α × RingAction α)}
    (hk : ∀ x, p.known x = true) (h : Run (Step p) (.new buf) tr s) (hg : Along (Alone p) tr) :
    Along (Orderly p) tr := by
  suffices hall : Along (Orderly p) tr ∧ Consistent p s ∧ Solo s from hall.1
  induction h with
  | nil => exact ⟨along_nil _, consistent_new p buf, .of_nil rfl⟩
  | snoc _ hs ih =>
    rw [along_snoc] at hg
    obtain ⟨hord, hc, hsolo⟩ := ih hg.1
    have ho := hsolo.orderly hc hg.2 hs
    exact ⟨along_snoc.2 ⟨hord, ho⟩, hc.step hk ho hs, hsolo.step hg.2 hs⟩

end

section
variable {p : RingSpec α} {s : EventRing α}

def posted (p : RingSpec α) (s : EventRing α) (x : α) : EventRing α :=
  { s with
    writeIndex := s.writeIndex + 1
    buf := Function.update s.buf (slot p s.writeIndex) x
    sem := s.sem + 1
    posts := s.posts ++ [x]
    accepted := s.accepted ++ [x] }

def dispatched (p : RingSpec α) (s : EventRing α) : EventRing α :=
  { s with
    readIndex := s.readIndex + 1
    sem := s.sem - 1
    dispatch := .waiting
    called := s.called ++ [s.buf (slot p s.readIndex)] }

theorem write_run (s : EventRing α) (x : α) (n : Nat) (index : BitVec 32)
    (postings : List (Posting α)) (k : Nat) (hk : k ≤ p.fields.count) :
    ∃ tr, Run (Step p) { s with postings := .claimed x n index 0 :: postings } tr
      { s with
        buf := Function.update s.buf (slot p index) (p.fields.copied k x (s.buf (slot p index)))
        postings := .claimed x n index k :: postings } ∧ Along (Orderly p) tr := by
  induction k with
  | zero =>
    refine ⟨[], ?_, along_nil _⟩
    rw [Fields.copied_zero, Function.update_eq_self]
    exact .nil
  | succ k ih =>
    obtain ⟨tr, hrun, hord⟩ := ih (Nat.le_of_succ_le hk)
    have hstep := hrun.snoc (.write (i := 0) rfl (Nat.lt_of_succ_le hk))
    simp only [Function.update_self, Function.update_idem] at hstep
    rw [Fields.copied_succ]
    exact ⟨_, hstep, along_snoc.2 ⟨hord, trivial⟩⟩

theorem post_run {x : α} (hroom : ¬ s.full p) (hk : p.known x = true) (hx : p.fields.fits x) :
    ∃ tr, Run (Step p) s tr (s.posted p x) ∧
      ((s.writeIndex - s.readIndex).toNat < p.bufCount → Along (Orderly p) tr) := by
  have hclaimed := (Run.nil.snoc (Step.pass (p := p) hroom hk)).snoc (.claim (i := 0) rfl)
  obtain ⟨tr, hwritten, hord⟩ := write_run (p := p) { s with
    writeIndex := s.writeIndex + 1, posts := s.posts ++ [x], accepted := s.accepted ++ [x] }
    x s.accepted.length s.writeIndex s.postings p.fields.count (Nat.le_refl _)
  have hrun := (hclaimed.append hwritten).snoc (.signal (i := 0) rfl)
  rw [Fields.copied_count _ hx] at hrun
  refine ⟨_, hrun, ?_⟩
  intro hfree
  rw [along_snoc, along_append, along_snoc, along_snoc]
  exact ⟨⟨⟨⟨along_nil _, hx⟩, hfree⟩, hord⟩, trivial⟩

theorem read_run (s : EventRing α) (uninit : α) (k : Nat) (hk : k ≤ p.fields.count) :
    ∃ tr, Run (Step p) { s with dispatch := .reading 0 uninit } tr
      { s with
        dispatch := .reading k (p.fields.copied k (s.buf (slot p s.readIndex)) uninit) } ∧
      Along (Orderly p) tr := by
  induction k with
  | zero => exact ⟨[], .nil, along_nil _⟩
  | succ k ih =>
    obtain ⟨tr, hrun, hord⟩ := ih (Nat.le_of_succ_le hk)
    rw [Fields.copied_succ]
    exact ⟨_, hrun.snoc (.read rfl (Nat.lt_of_succ_le hk)), along_snoc.2 ⟨hord, trivial⟩⟩

theorem dispatch_run (hd : s.dispatch = .waiting) (hsem : 0 < s.sem)
    (hne : s.writeIndex - s.readIndex ≠ 0) (hx : p.fields.fits (s.buf (slot p s.readIndex))) :
    ∃ tr, Run (Step p) s tr (s.dispatched p) ∧
      (s.called.length ∉ s.claims → Along (Orderly p) tr) := by
  have hwoken := Run.nil.snoc (Step.semWait (p := p) hd hsem)
  have htake : Step p { s with sem := s.sem - 1, dispatch := .woken } (.test (s.buf 0))
      { s with sem := s.sem - 1, dispatch := .reading 0 (s.buf 0) } := .take rfl hne
  have htaken := hwoken.snoc htake
  obtain ⟨tr, hread, hord⟩ := read_run (p := p) { s with sem := s.sem - 1 } (s.buf 0)
    p.fields.count (Nat.le_refl _)
  have hrun := ((htaken.append hread).snoc (.call rfl)).snoc (.next rfl)
  rw [Fields.copied_count _ hx] at hrun
  refine ⟨_, hrun, ?_⟩
  intro hwritten
  rw [along_snoc, along_snoc, along_append, along_snoc, along_snoc]
  exact ⟨⟨⟨⟨⟨along_nil _, trivial⟩, hwritten⟩, hord⟩, trivial⟩, trivial⟩

theorem posts_run (xs : List α) (hk : ∀ x, p.known x = true) (hx : ∀ x ∈ xs, p.fields.fits x)
    (hread : s.readIndex = 0) {n : Nat} (hwrite : s.writeIndex = BitVec.ofNat 32 n)
    (hn : n + xs.length ≤ p.bufCount + 1) :
    ∃ tr, Run (Step p) s tr (xs.foldl (posted p) s) := by
  induction xs generalizing s n with
  | nil => exact ⟨[], .nil⟩
  | cons x xs ih =>
    have hlt := p.bufCount_lt
    rw [List.length_cons] at hn
    have hroom : ¬ s.full p := by
      have hzero : BitVec.ofNat 32 n - 0 = BitVec.ofNat 32 n := BitVec.sub_zero _
      rw [full, hread, hwrite, hzero, BitVec.toNat_ofNat, Nat.mod_eq_of_lt (by omega)]
      omega
    obtain ⟨tr, hpost, -⟩ := post_run hroom (hk x) (hx x List.mem_cons_self)
    have hwrite' : (s.posted p x).writeIndex = BitVec.ofNat 32 (n + 1) := by
      rw [posted, hwrite, BitVec.ofNat_add]
      rfl
    obtain ⟨tr', hrest⟩ := ih (s := s.posted p x)
      (fun y hy => hx y (List.mem_cons_of_mem x hy)) hread hwrite' (by omega)
    exact ⟨tr ++ tr', hpost.append hrest⟩

end
end EventRing
end AvdeccLib
