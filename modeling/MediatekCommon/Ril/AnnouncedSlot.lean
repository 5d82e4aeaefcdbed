/-
  Ril/AnnouncedSlot.lean --- one setup at a time: where its cid is stored.

  `setupDataCall` announces the number of the first free entry, and the reply fills
  the entry that is the first free one then.  With a single unanswered setup only
  `deactivateDataCall` can come in between.  Freeing an entry above the announced
  one does no harm; freeing a lower one moves the first free entry, and the cid is
  stored there.
-/
import MediatekCommon.Ril.DataCallRuns

set_option autoImplicit false

namespace MediatekCommon.Ril

open MediatekCommon.Foundation

variable {β : Type}

namespace DataCalls

/-- The events of a sequential use: a call is set up while none is unanswered, and
replies answer the pending setup. -/
def Sequential (s : DataCalls) : DataCallEvent β → Prop
  | .setup .. => s.pending = []
  | .reply r => ∃ rr ∈ s.pending, rr.mSerial = r.serial
  | .deactivate .. => True

/-- A successful reply to a setup that was announced under the number of an entry
stores its cid in that entry. -/
def RecordsAnnounced (S : Superclass β) (P : Platform) (s : DataCalls) :
    DataCallEvent β → Prop
  | .reply r => ∀ rr ∈ s.pending, rr.mSerial = r.serial →
      ∀ k, rr.interfaceId = some (interfaceText k) → ∀ cid ∈ successCid S r, 0 ≤ cid →
        (step S P s (.reply r)).ril.dataCallCids k.castSucc = cid
  | _ => True

/-- No entry below an announced one is freed. -/
def FreesNoLower (s : DataCalls) : DataCallEvent β → Prop
  | .deactivate cid _ _ => ∀ rr ∈ s.pending, ∀ k, rr.interfaceId = some (interfaceText k) →
      ∀ i < k, s.ril.dataCallCids i.castSucc ≠ cid
  | _ => True

instance decidableSequential (s : DataCalls) :
    ∀ e : DataCallEvent β, Decidable (s.Sequential e)
  | .setup .. => inferInstanceAs (Decidable (_ = _))
  | .reply _ => inferInstanceAs (Decidable (∃ rr ∈ s.pending, _))
  | .deactivate .. => inferInstanceAs (Decidable True)

instance decidableFreesNoLower (s : DataCalls) :
    ∀ e : DataCallEvent β, Decidable (s.FreesNoLower e)
  | .setup .. => inferInstanceAs (Decidable True)
  | .reply _ => inferInstanceAs (Decidable True)
  | .deactivate .. => inferInstanceAs (Decidable (∀ rr ∈ s.pending, ∀ _, _ → ∀ _, _))

/-! ## The announced entry stays the first free one -/

/-- An announced entry is the first free one. -/
def AnnouncedFree (s : DataCalls) : Prop :=
  ∀ rr ∈ s.pending, ∀ k, rr.interfaceId = some (interfaceText k) →
    firstFreeSlot s.ril.dataCallCids = some k

/-- At most one setup is unanswered, and it can be answered. -/
structure OnePending (s : DataCalls) : Prop where
  answerable : s.AllAnswerable
  single : s.pending.length ≤ 1

theorem firstFreeSlot_eq_some_iff {cids : Fin 5 → Int} {k : Fin 4} :
    firstFreeSlot cids = some k ↔
      cids k.castSucc < 0 ∧ ∀ i < k, 0 ≤ cids i.castSucc := by
  simp [firstFreeSlot]

/-- Freeing a cid leaves the first free entry what it is exactly if no lower entry
holds the cid. -/
theorem firstFreeSlot_clearCid_iff {cids : Fin 5 → Int} {k : Fin 4}
    (hk : firstFreeSlot cids = some k) (cid : Int) :
    firstFreeSlot (clearCid cids cid) = some k ↔ ∀ i < k, cids i.castSucc ≠ cid := by
  obtain ⟨hfree, hlower⟩ := firstFreeSlot_eq_some_iff.mp hk
  unfold clearCid
  cases hfind : slotHolding cids cid with
  | none =>
      have hnowhere : ∀ i : Fin 4, cids i.castSucc ≠ cid := by
        simpa [slotHolding] using hfind
      exact iff_of_true hk fun i _ => hnowhere i
  | some j =>
      have hj : cids j.castSucc = cid := by simpa using (Fin.find?_eq_some_iff.mp hfind).1
      have hfirst : ∀ i < j, cids i.castSucc ≠ cid := by
        simpa using (Fin.find?_eq_some_iff.mp hfind).2
      dsimp only
      rw [firstFreeSlot_eq_some_iff]
      constructor
      · intro h i hi hcid
        -- The entry that is freed is at most `i`, so it is a lower free entry now.
        have hji : j ≤ i := by
          by_contra hlt
          exact hfirst i (by omega) hcid
        have hbelow := h.2 j (by omega)
        simp at hbelow
      · intro h
        have hnotlower : ¬ j < k := fun hjk => h j hjk hj
        refine ⟨?_, ?_⟩
        · by_cases hkj : k = j
          · simp [hkj]
          · have hne : k.castSucc ≠ j.castSucc := by simpa using hkj
            rw [Function.update_of_ne hne]
            exact hfree
        · intro i hi
          have hne : i.castSucc ≠ j.castSucc := by
            intro heq
            obtain rfl := Fin.castSucc_injective 4 heq
            exact hnotlower hi
          rw [Function.update_of_ne hne]
          exact hlower i hi

/-- An id names the entry it was taken from. -/
theorem firstFreeSlot_of_interfaceIdFor {cids : Fin 5 → Int} {k : Fin 4}
    (h : integerToString (interfaceIdFor cids) = interfaceText k) :
    firstFreeSlot cids = some k := by
  cases hfree : firstFreeSlot cids with
  | none =>
      -- Without a free entry the id is 0, which names none.
      have hzero : ∀ k, integerToString 0 ≠ interfaceText k := by decide
      simp only [interfaceIdFor, hfree] at h
      exact absurd h (hzero k)
  | some i =>
      rw [interfaceIdFor_of_firstFree hfree] at h
      rw [interfaceText_injective h]

theorem OnePending.step {S : Superclass β} (hS : S.CompletesRequests) {P : Platform}
    {s : DataCalls} (h : s.OnePending) {e : DataCallEvent β} (hseq : s.Sequential e) :
    (step S P s e).OnePending where
  answerable := by
    apply h.answerable.step hS
    rintro r rfl
    exact hseq
  single := by
    cases e with
    | setup radioTechnology profile apn user password authType protocol result =>
        obtain ⟨new, -, -, -, -, hsent⟩ := sentSince_setupDataCall s.ril
          radioTechnology profile apn user password authType protocol result
        have hnone : s.pending = [] := hseq
        simp [DataCalls.step, hsent, hnone]
    | reply r => exact (List.length_filter_le _ _).trans h.single
    | deactivate cid reason result => exact h.single

/-- After the answer to the only pending setup nothing is pending. -/
theorem OnePending.pending_reply {S : Superclass β} {P : Platform} {s : DataCalls}
    (h : s.OnePending) {r : SolicitedReply β} (hpending : ∃ rr ∈ s.pending, rr.mSerial = r.serial) :
    (DataCalls.step S P s (.reply r)).pending = [] := by
  obtain ⟨rr, hrr, hserial⟩ := hpending
  obtain ⟨a, ha⟩ := List.length_eq_one_iff.mp
    (le_antisymm h.single (List.length_pos_of_mem hrr))
  rw [ha] at hrr
  obtain rfl := List.mem_singleton.mp hrr
  simp [DataCalls.step, settle, ha, hserial]

/-- An event keeps the announced entry the first free one exactly if it frees no entry
below it. -/
theorem AnnouncedFree.step_iff {S : Superclass β} {P : Platform} {s : DataCalls}
    (hone : s.OnePending) (h : s.AnnouncedFree) {e : DataCallEvent β} (hseq : s.Sequential e) :
    (step S P s e).AnnouncedFree ↔ s.FreesNoLower e := by
  cases e with
  | setup radioTechnology profile apn user password authType protocol result =>
      refine iff_of_true ?_ trivial
      obtain ⟨new, -, -, hid, -, hsent⟩ := sentSince_setupDataCall s.ril
        radioTechnology profile apn user password authType protocol result
      have hnone : s.pending = [] := hseq
      intro rr hrr k hk
      simp only [step, hsent, hnone, List.nil_append, List.mem_singleton] at hrr
      subst hrr
      exact firstFreeSlot_of_interfaceIdFor (Option.some.inj (hid.symm.trans hk))
  | reply r =>
      refine iff_of_true ?_ trivial
      intro rr hrr
      rw [hone.pending_reply hseq] at hrr
      cases hrr
  | deactivate cid reason result =>
      refine forall₄_congr fun rr hrr k hk => ?_
      exact firstFreeSlot_clearCid_iff (h rr hrr k hk) cid

/-- While the announced entry is the first free one, a success is stored there. -/
theorem AnnouncedFree.recordsAnnounced {S : Superclass β} (hS : S.CompletesRequests)
    {P : Platform} {s : DataCalls} (hone : s.OnePending) (h : s.AnnouncedFree)
    (e : DataCallEvent β) : s.RecordsAnnounced S P e := by
  cases e with
  | setup => trivial
  | deactivate => trivial
  | reply r =>
      intro rr hrr hserial k hk cid hsuccess hcid
      obtain ⟨-, -, -, -, hcids, -⟩ := reply_effect hS P hone.answerable ⟨rr, hrr, hserial⟩
      rw [hcids, carriedCid_of_successCid hsuccess hcid, Option.elim_some, storeCid,
        h rr hrr k hk]
      exact Function.update_self _ _ _

/-! ## Sequential runs -/

theorem onePending_start (ril : MediaTekRIL) : (start ril).OnePending :=
  ⟨allAnswerable_start ril, Nat.zero_le 1⟩

theorem along_onePending {S : Superclass β} (hS : S.CompletesRequests) (P : Platform)
    (ril : MediaTekRIL) {es : List (DataCallEvent β)}
    (hseq : Along (step S P) Sequential (.start ril) es) :
    Along (step S P) (fun s e => s.OnePending ∧ s.Sequential e) (.start ril) es := by
  apply along_of_step _ _ (onePending_start ril) hseq
  · intro s e hone he
    exact hone.step hS he
  · intro s e hone he
    exact ⟨hone, he⟩

/-- In a sequential run the announced entry is the first free one in every state if and
only if no entry below an announced one is freed. -/
theorem always_announcedFree_iff {S : Superclass β} (hS : S.CompletesRequests) (P : Platform)
    (ril : MediaTekRIL) {es : List (DataCallEvent β)}
    (hseq : Along (step S P) Sequential (.start ril) es) :
    Always (step S P) AnnouncedFree (.start ril) es ↔
      Along (step S P) FreesNoLower (.start ril) es := by
  apply always_iff_along _ (along_onePending hS P ril hseq)
  · intro rr hrr
    cases hrr
  · intro s e hs h
    exact h.step_iff hs.1 hs.2

/-- In every sequential run that frees no entry below an announced one, each success is
stored in the entry it was announced under. -/
theorem recordsAnnounced_of_freesNoLower {S : Superclass β} (hS : S.CompletesRequests)
    (P : Platform) (ril : MediaTekRIL) {es : List (DataCallEvent β)}
    (hseq : Along (step S P) Sequential (.start ril) es)
    (hlower : Along (step S P) FreesNoLower (.start ril) es) :
    Along (step S P) (RecordsAnnounced S P) (.start ril) es := by
  have hfirst := (always_announcedFree_iff hS P ril hseq).mpr hlower
  apply along_of_always _ hfirst (along_onePending hS P ril hseq)
  intro s e h hs
  exact h.recordsAnnounced hS hs.1 e

end DataCalls

/-- A call is deactivated while another is set up, and the entry freed is above the
announced one: the cid is stored as announced. -/
theorem recordsAnnounced_higher_freed :
    Along (DataCalls.step .reference .reference) (DataCalls.RecordsAnnounced .reference .reference)
      (.start (.start ⟨eccTable, ∅⟩ (propertiesOfLists [] [] [])))
      [setupInternet, establish 0 5, setupInternet, establish 1 6, .deactivate 5 0 none,
        setupInternet, .deactivate 6 0 none, establish 2 7] :=
  DataCalls.recordsAnnounced_of_freesNoLower Superclass.reference_completesRequests .reference _
    (by decide) (by decide)

/-- The call in the first entry is deactivated while a second one, announced under
interface id 2, is set up: its cid is stored in the first entry. -/
theorem setupDataCall_lower_freed :
    let calls := DataCalls.start (.start ⟨eccTable, ∅⟩ (propertiesOfLists [] [] []))
    let es := [setupInternet, establish 0 5, setupInternet, .deactivate 5 0 none, establish 1 6]
    let s := run (DataCalls.step .reference .reference) calls es
    Along (DataCalls.step .reference .reference) DataCalls.Sequential calls es ∧
      s.established.map (fun call => (call.1, call.2.interfaceId)) = [(6, some "2".toList)] ∧
      s.ril.dataCallCids 0 = 6 ∧ s.ril.dataCallCids 1 = -1 ∧
      ¬ Along (DataCalls.step .reference .reference)
        (DataCalls.RecordsAnnounced .reference .reference) calls es := by
  intro calls es s
  have hfirst : s.ril.dataCallCids 0 = 6 := by rfl
  have hsecond : s.ril.dataCallCids 1 = -1 := by rfl
  refine ⟨by decide, by decide, hfirst, hsecond, ?_⟩
  intro h
  obtain ⟨-, -, -, -, hreply, -⟩ := h
  have hstored := hreply _ (List.mem_singleton_self _) rfl 1 rfl 6 rfl (by decide)
  exact absurd (hsecond.symm.trans hstored) (by decide)

end MediatekCommon.Ril
