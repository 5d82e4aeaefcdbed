/-
  Ril/CidTable.lean --- what `dataCallCids` records.

  The table is meant to hold the established calls: a reply stores the cid it
  carries in the first free entry, and `deactivateDataCall` frees the entry.  Two
  questions are settled here.

      failed replies     a reply that reports a failure leaves the table alone exactly
                         if it carries no cid or finds no free entry
      which entries      the table is the set of established calls exactly as long as
                         every failed reply leaves it alone

  `fetchCidFromDataCall` looks at the cid only, neither at the error code of the
  reply nor at the status inside it.
-/
import MediatekCommon.Ril.DataCallRuns

set_option autoImplicit false

namespace MediatekCommon.Ril

open MediatekCommon.Foundation

variable {β : Type}

/-! ## Failed replies -/

/-- The reply reports a failure: in its error code, or in the status of the parsed
response. -/
def ReportsFailure (S : Superclass β) (r : SolicitedReply β) : Prop :=
  r.error ≠ 0 ∨
    ∃ response, S.responseSetupDataCall r.payload = .ok response ∧ response.status ≠ 0

/-- The payload is parsed here and has a cid of at least 0. -/
def CarriesCid (S : Superclass β) (r : SolicitedReply β) : Prop :=
  Active S r ∧ ∃ response, S.responseSetupDataCall r.payload = .ok response ∧ 0 ≤ response.cid

/-- One of the four entries is free. -/
def HasFreeEntry (dataCallCids : Fin 5 → Int) : Prop :=
  ∃ i : Fin 4, dataCallCids i.castSucc < 0

instance decidableReportsFailure (S : Superclass β) (r : SolicitedReply β) :
    Decidable (ReportsFailure S r) :=
  match h : S.responseSetupDataCall r.payload with
  | .ok response =>
      decidable_of_iff (r.error ≠ 0 ∨ response.status ≠ 0) (by simp [ReportsFailure, h])
  | .error _ => decidable_of_iff (r.error ≠ 0) (by simp [ReportsFailure, h])

instance decidableCarriesCid (S : Superclass β) (r : SolicitedReply β) :
    Decidable (CarriesCid S r) :=
  match h : S.responseSetupDataCall r.payload with
  | .ok response => decidable_of_iff (Active S r ∧ 0 ≤ response.cid) (by simp [CarriesCid, h])
  | .error _ => isFalse (by simp [CarriesCid, h])

instance decidableHasFreeEntry (dataCallCids : Fin 5 → Int) :
    Decidable (HasFreeEntry dataCallCids) :=
  inferInstanceAs (Decidable (∃ _, _))

/-- If the reply reports a failure, it leaves the table as it was. -/
def KeepsTableOnFailure (S : Superclass β) (P : Platform) (s : MediaTekRIL)
    (r : SolicitedReply β) : Prop :=
  ReportsFailure S r → (processSolicited S P s r).2.dataCallCids = s.dataCallCids

theorem carriedCid_ne_none_iff {S : Superclass β} {r : SolicitedReply β} :
    carriedCid S r ≠ none ↔ CarriesCid S r := by
  unfold carriedCid CarriesCid
  by_cases hactive : Active S r
  · cases hparse : S.responseSetupDataCall r.payload with
    | error t => simp
    | ok response => simp [hactive]
  · simp [hactive]

theorem firstFreeSlot_eq_none_iff {cids : Fin 5 → Int} :
    firstFreeSlot cids = none ↔ ¬ HasFreeEntry cids := by
  simp [firstFreeSlot, HasFreeEntry]

/-- Storing a cid changes the table whenever an entry is free. -/
theorem storeCid_eq_self_iff {cids : Fin 5 → Int} {cid : Int} (hcid : 0 ≤ cid) :
    storeCid cids cid = cids ↔ ¬ HasFreeEntry cids := by
  rw [← firstFreeSlot_eq_none_iff, ← firstFree_slotsOf]
  constructor
  · intro hsame
    have hslots := slotsOf_storeCid cids hcid
    rw [hsame] at hslots
    cases hfree : (slotsOf cids).firstFree with
    | none => rfl
    | some i =>
        have hi : slotsOf cids i = none := (Slots.firstFree_eq_some_iff.mp hfree).1
        rw [hslots, Slots.store_eq_none_iff hfree] at hi
        exact absurd rfl hi.1
  · intro hfull
    rw [firstFree_slotsOf] at hfull
    simp only [storeCid, hfull]

/-- A failed reply to a `SETUP_DATA_CALL` leaves the table as it was if and only if it
carries no cid or no entry is free. -/
theorem keepsTableOnFailure_iff {S : Superclass β} (hS : S.FindsRequests) (P : Platform)
    {s : MediaTekRIL} {r : SolicitedReply β} {rr : RILRequest}
    (hget : s.mRequestList.get r.serial = some rr) (hsetup : rr.mRequest = .setupDataCall) :
    KeepsTableOnFailure S P s r ↔
      ¬ (ReportsFailure S r ∧ CarriesCid S r ∧ HasFreeEntry s.dataCallCids) := by
  unfold KeepsTableOnFailure
  rw [dataCallCids_processSolicited hS P hget hsetup, not_and]
  refine imp_congr_right fun _ => ?_
  cases hcarried : carriedCid S r with
  | none =>
      have hnot : ¬ CarriesCid S r := fun h => carriedCid_ne_none_iff.mpr h hcarried
      simp [hnot]
  | some cid =>
      have hcarries : CarriesCid S r := carriedCid_ne_none_iff.mp (by simp [hcarried])
      rw [Option.elim_some, storeCid_eq_self_iff (DataCalls.carriedCid_nonneg hcarried)]
      simp [hcarries]

/-- An error reply without a payload is forwarded, and the table is left alone. -/
theorem keepsTableOnFailure_empty_error :
    let s := (MediaTekRIL.start ⟨eccTable, ∅⟩ (propertiesOfLists [] [] [])).setupDataCall
      14 0 none none none 0 none none
    KeepsTableOnFailure .reference .reference s ⟨0, 2, []⟩ := by
  intro s
  apply (keepsTableOnFailure_iff Superclass.reference_findsRequests .reference (s := s)
    (r := ⟨0, 2, []⟩) rfl rfl).mpr
  decide

/-- The setup fails with status 33 in a reply without an error code, and the reply
carries cid 5: the cid is stored. -/
theorem fetchCidFromDataCall_stores_failure :
    let s := (MediaTekRIL.start ⟨eccTable, ∅⟩ (propertiesOfLists [] [] [])).setupDataCall
      14 0 none none none 0 none none
    let r : SolicitedReply (List ParcelItem) :=
      ⟨0, 0, [.int 11, .int 1, .int 33, .int 0, .int 5]⟩
    s.dataCallCids 0 = -1 ∧ (processSolicited .reference .reference s r).2.dataCallCids 0 = 5 ∧
      ¬ KeepsTableOnFailure .reference .reference s r := by
  intro s r
  have hbefore : s.dataCallCids 0 = -1 := rfl
  have hafter : (processSolicited .reference .reference s r).2.dataCallCids 0 = 5 := by rfl
  refine ⟨hbefore, hafter, ?_⟩
  intro h
  have hsame := congrFun (h (.inr ⟨⟨33, 5⟩, rfl, by decide⟩)) 0
  rw [hbefore, hafter] at hsame
  cases hsame

/-! ## The set of established calls -/

/-- An entry below zero is -1, and the fifth entry always is. -/
structure Sentinels (dataCallCids : Fin 5 → Int) : Prop where
  free : ∀ i : Fin 4, dataCallCids i.castSucc < 0 → dataCallCids i.castSucc = -1
  fifth : dataCallCids (Fin.last 4) = -1

theorem Sentinels.update {cids : Fin 5 → Int} (h : Sentinels cids) (i : Fin 4) {value : Int}
    (hvalue : value < 0 → value = -1) : Sentinels (Function.update cids i.castSucc value) where
  free := by
    intro j hj
    by_cases hij : j = i
    · subst hij
      simp only [Function.update_self] at hj ⊢
      exact hvalue hj
    · have hne : j.castSucc ≠ i.castSucc := by simpa using hij
      simp only [Function.update_of_ne hne] at hj ⊢
      exact h.free j hj
  fifth := by
    rw [Function.update_of_ne (Fin.castSucc_ne_last i).symm]
    exact h.fifth

theorem Sentinels.storeCid {cids : Fin 5 → Int} (h : Sentinels cids) {cid : Int}
    (hcid : 0 ≤ cid) : Sentinels (storeCid cids cid) := by
  unfold Ril.storeCid
  cases firstFreeSlot cids with
  | none => exact h
  | some i => exact h.update i (by omega)

theorem Sentinels.clearCid {cids : Fin 5 → Int} (h : Sentinels cids) (cid : Int) :
    Sentinels (clearCid cids cid) := by
  unfold Ril.clearCid
  cases slotHolding cids cid with
  | none => exact h
  | some i => exact h.update i (by omega)

/-- Freeing a cid that no entry holds changes nothing.  A cid below zero is found in a
free entry and written over with what is there. -/
theorem clearCid_eq_self {cids : Fin 5 → Int} (h : Sentinels cids) {cid : Int}
    (hcid : ∀ i, slotsOf cids i ≠ some cid) : clearCid cids cid = cids := by
  unfold clearCid
  cases hfind : slotHolding cids cid with
  | none => rfl
  | some i =>
      have hi : cids i.castSucc = cid := by simpa using (Fin.find?_eq_some_iff.mp hfind).1
      have hneg : cids i.castSucc < 0 := by
        by_contra hnot
        exact hcid i (slotsOf_eq_some_iff.mpr ⟨by omega, hi⟩)
      exact Function.update_eq_self_iff.mpr (h.free i hneg).symm

namespace DataCalls

/-- The cids of the established calls. -/
def establishedCids (s : DataCalls) : List Int := s.established.map Prod.fst

/-- The entries of the table that are not negative are the cids of the established
calls, each once; the fifth entry is -1; and a cid that is not established can be
deactivated without effect on the table. -/
structure TableIsEstablished (s : DataCalls) : Prop where
  entries : ∀ cid, 0 ≤ cid →
    ((∃ i : Fin 4, s.ril.dataCallCids i.castSucc = cid) ↔ cid ∈ s.establishedCids)
  once : ∀ i j : Fin 4, 0 ≤ s.ril.dataCallCids i.castSucc →
    s.ril.dataCallCids i.castSucc = s.ril.dataCallCids j.castSucc → i = j
  fifth : s.ril.dataCallCids (Fin.last 4) = -1
  quiet : ∀ cid, cid ∉ s.establishedCids → ∀ reason result,
    (s.ril.deactivateDataCall cid reason result).dataCallCids = s.ril.dataCallCids

/-- The events that can happen: replies to pending requests, and a success carries a
cid of at least 0 that is not established while fewer than four calls are. -/
def AdmissibleReplies (S : Superclass β) (s : DataCalls) : DataCallEvent β → Prop
  | .setup .. => True
  | .reply r =>
      (∃ rr ∈ s.pending, rr.mSerial = r.serial) ∧
        ∀ cid ∈ successCid S r, 0 ≤ cid ∧ cid ∉ s.establishedCids ∧ s.established.length < 4
  | .deactivate .. => True

instance decidableAdmissibleReplies (S : Superclass β) (s : DataCalls) :
    ∀ e : DataCallEvent β, Decidable (s.AdmissibleReplies S e)
  | .setup .. => inferInstanceAs (Decidable True)
  | .reply _ => inferInstanceAs (Decidable (_ ∧ _))
  | .deactivate .. => inferInstanceAs (Decidable True)

/-- A reply that reports a failure carries no cid while an entry is free. -/
def NoStrayCid (S : Superclass β) (s : DataCalls) : DataCallEvent β → Prop
  | .reply r => ¬ (ReportsFailure S r ∧ CarriesCid S r ∧ HasFreeEntry s.ril.dataCallCids)
  | _ => True

instance decidableNoStrayCid (S : Superclass β) (s : DataCalls) :
    ∀ e : DataCallEvent β, Decidable (s.NoStrayCid S e)
  | .setup .. => inferInstanceAs (Decidable True)
  | .reply _ => inferInstanceAs (Decidable (¬ _))
  | .deactivate .. => inferInstanceAs (Decidable True)

/-- What holds in every state of an admissible run, stray cids or not. -/
structure Regular (s : DataCalls) : Prop where
  answerable : s.AllAnswerable
  sentinels : Sentinels s.ril.dataCallCids

/-- Seen as slots, the table holds the set of established cids. -/
def HoldsEstablished (s : DataCalls) : Prop :=
  (slotsOf s.ril.dataCallCids).Holds { cid | 0 ≤ cid ∧ cid ∈ s.establishedCids }

theorem tableIsEstablished_iff {s : DataCalls} (h : s.Regular) :
    s.TableIsEstablished ↔ s.HoldsEstablished := by
  constructor
  · intro htable
    refine ⟨?_, ?_⟩
    · intro i j cid hi hj
      obtain ⟨hcid, hi⟩ := slotsOf_eq_some_iff.mp hi
      obtain ⟨-, hj⟩ := slotsOf_eq_some_iff.mp hj
      exact htable.once i j (by omega) (hi.trans hj.symm)
    · intro cid
      simp only [slotsOf_eq_some_iff, exists_and_left, Set.mem_ofPred_eq]
      exact and_congr_right fun hcid => htable.entries cid hcid
  · intro hholds
    refine ⟨?_, ?_, h.sentinels.fifth, ?_⟩
    · intro cid hcid
      have hmem := hholds.mem_iff cid
      simpa [hcid] using hmem
    · intro i j hi hij
      exact hholds.injective i j _ (slotsOf_eq_some_iff.mpr ⟨hi, rfl⟩)
        (slotsOf_eq_some_iff.mpr ⟨hi, hij.symm⟩)
    · intro cid hcid reason result
      exact clearCid_eq_self h.sentinels (hholds.not_mem fun hmem => hcid hmem.2)

theorem regular_start {ril : MediaTekRIL} (hfree : ril.dataCallCids = fun _ => -1) :
    (start ril).Regular where
  answerable := allAnswerable_start ril
  sentinels := ⟨fun i _ => congrFun hfree i.castSucc, congrFun hfree (Fin.last 4)⟩

theorem holdsEstablished_start {ril : MediaTekRIL} (hfree : ril.dataCallCids = fun _ => -1) :
    (start ril).HoldsEstablished where
  injective := by
    intro i j cid hi
    simp [start, hfree] at hi
    omega
  mem_iff := by
    intro cid
    simp only [start, hfree, slotsOf_eq_some_iff, establishedCids, Set.mem_ofPred_eq,
      List.map_nil, List.not_mem_nil, and_false, iff_false, not_exists]
    omega

theorem Regular.step {S : Superclass β} (hS : S.CompletesRequests) {P : Platform}
    {s : DataCalls} (h : s.Regular) {e : DataCallEvent β} (hadm : s.AdmissibleReplies S e) :
    (step S P s e).Regular where
  answerable := by
    apply h.answerable.step hS
    rintro r rfl
    exact hadm.1
  sentinels := by
    cases e with
    | setup => exact h.sentinels
    | reply r =>
        obtain ⟨-, -, -, -, hcids, -⟩ := reply_effect hS P h.answerable hadm.1
        rw [hcids]
        cases hcarried : carriedCid S r with
        | none => exact h.sentinels
        | some cid => exact h.sentinels.storeCid (carriedCid_nonneg hcarried)
    | deactivate cid reason result => exact h.sentinels.clearCid cid

/-- Failure and success of a reply whose payload is parsed. -/
theorem reportsFailure_iff_of_carriedCid {S : Superclass β} {r : SolicitedReply β} {cid : Int}
    (hcarried : carriedCid S r = some cid) : ReportsFailure S r ↔ successCid S r = none := by
  have hcarries : CarriesCid S r := carriedCid_ne_none_iff.mp (by simp [hcarried])
  obtain ⟨-, response, hparse, -⟩ := hcarries
  simp only [ReportsFailure, successCid, hparse, Except.ok.injEq, exists_eq_left',
    ite_eq_right_iff, reduceCtorEq, imp_false]
  omega

/-- With fewer than four calls established an entry is free. -/
theorem HoldsEstablished.exists_firstFree {s : DataCalls} (h : s.HoldsEstablished)
    (hlt : s.established.length < 4) : ∃ i, (slotsOf s.ril.dataCallCids).firstFree = some i := by
  rw [← Option.ne_none_iff_exists']
  intro hfull
  have hlen := Slots.length_le_of_full h.injective hfull
    (fun i a hi => ((h.mem_iff a).mp ⟨i, hi⟩).2)
  simp only [establishedCids, List.length_map] at hlen
  omega

theorem nonneg_concat {cid : Int} (hcid : 0 ≤ cid) (cids : List Int) :
    { a | 0 ≤ a ∧ a ∈ cids ++ [cid] } = insert cid { a | 0 ≤ a ∧ a ∈ cids } := by
  ext a
  simp only [List.mem_append, List.mem_singleton, Set.mem_ofPred_eq, Set.mem_insert_iff]
  constructor
  · rintro ⟨ha, hold | rfl⟩
    · exact .inr ⟨ha, hold⟩
    · exact .inl rfl
  · rintro (rfl | ⟨ha, hold⟩)
    · exact ⟨hcid, .inr rfl⟩
    · exact ⟨ha, .inl hold⟩

/-- A reply to a pending request keeps the table in step with the established calls
exactly if it does not carry a stray cid. -/
theorem HoldsEstablished.reply_iff {S : Superclass β} (hS : S.CompletesRequests) {P : Platform}
    {s : DataCalls} (hs : s.Regular) (h : s.HoldsEstablished) {r : SolicitedReply β}
    (hadm : s.AdmissibleReplies S (.reply r)) :
    (DataCalls.step S P s (.reply r)).HoldsEstablished ↔ s.NoStrayCid S (.reply r) := by
  obtain ⟨hpending, hfresh⟩ := hadm
  obtain ⟨rr, -, -, -, hcids, hestablished⟩ := reply_effect hS P hs.answerable hpending
  have hlist : (DataCalls.step S P s (.reply r)).establishedCids =
      s.establishedCids ++ (successCid S r).toList := by
    simp [establishedCids, hestablished, Function.comp_def]
  rw [HoldsEstablished, hcids, hlist, NoStrayCid]
  cases hcarried : carriedCid S r with
  | none =>
      -- Nothing is stored and nothing is established.
      have hsuccess : successCid S r = none :=
        successCid_eq_none_of_carriedCid hcarried fun cid hcid => (hfresh cid hcid).1
      have hnot : ¬ CarriesCid S r := fun hc => carriedCid_ne_none_iff.mpr hc hcarried
      rw [hsuccess, Option.toList_none, List.append_nil]
      exact iff_of_true h fun hstray => hnot hstray.2.1
  | some cid =>
      have hcid : 0 ≤ cid := carriedCid_nonneg hcarried
      have hcarries : CarriesCid S r := carriedCid_ne_none_iff.mp (by simp [hcarried])
      rw [Option.elim_some, slotsOf_storeCid _ hcid, reportsFailure_iff_of_carriedCid hcarried]
      cases hsuccess : successCid S r with
      | none =>
          rw [Option.toList_none, List.append_nil]
          cases hfree : (slotsOf s.ril.dataCallCids).firstFree with
          | none =>
              have hfull : ¬ HasFreeEntry s.ril.dataCallCids :=
                firstFreeSlot_eq_none_iff.mp ((firstFree_slotsOf _).symm.trans hfree)
              have hsame : (slotsOf s.ril.dataCallCids).store cid = slotsOf s.ril.dataCallCids := by
                simp only [Slots.store, hfree]
              rw [hsame]
              exact iff_of_true h fun hstray => hfull hstray.2.2
          | some i =>
              have hroom : HasFreeEntry s.ril.dataCallCids :=
                ⟨i, slotsOf_eq_none_iff.mp (Slots.firstFree_eq_some_iff.mp hfree).1⟩
              refine iff_of_false (h.not_store hfree cid) ?_
              exact not_not_intro ⟨rfl, hcarries, hroom⟩
      | some cid' =>
          obtain rfl := successCid_eq_of_carriedCid hcarried hsuccess
          obtain ⟨-, hnew, hlt⟩ := hfresh cid' hsuccess
          obtain ⟨i, hfree⟩ := h.exists_firstFree hlt
          rw [Option.toList_some, nonneg_concat hcid s.establishedCids]
          exact iff_of_true (h.store hfree fun hmem => hnew hmem.2) fun hstray => by
            cases hstray.1

/-- An admissible event keeps the table in step with the established calls exactly if
it does not carry a stray cid. -/
theorem HoldsEstablished.step_iff {S : Superclass β} (hS : S.CompletesRequests) {P : Platform}
    {s : DataCalls} (hs : s.Regular) (h : s.HoldsEstablished) {e : DataCallEvent β}
    (hadm : s.AdmissibleReplies S e) :
    (DataCalls.step S P s e).HoldsEstablished ↔ s.NoStrayCid S e := by
  cases e with
  | setup => exact iff_of_true h trivial
  | reply r => exact h.reply_iff hS hs hadm
  | deactivate cid reason result =>
      refine iff_of_true ?_ trivial
      have hslots : slotsOf (s.ril.deactivateDataCall cid reason result).dataCallCids =
          (slotsOf s.ril.dataCallCids).release cid := slotsOf_clearCid _ _
      have hset : { a | 0 ≤ a ∧ a ∈ (DataCalls.step S P s
          (.deactivate cid reason result)).establishedCids } =
          { a | 0 ≤ a ∧ a ∈ s.establishedCids } \ {cid} := by
        ext a
        simp only [DataCalls.step, establishedCids, Set.mem_ofPred_eq, Set.mem_sdiff,
          Set.mem_singleton_iff, List.mem_map, List.mem_filter, decide_eq_true_eq]
        constructor
        · rintro ⟨ha, call, ⟨hcall, hne⟩, rfl⟩
          exact ⟨⟨ha, call, hcall, rfl⟩, hne⟩
        · rintro ⟨⟨ha, call, hcall, rfl⟩, hne⟩
          exact ⟨ha, call, ⟨hcall, hne⟩, rfl⟩
      rw [HoldsEstablished, hset, DataCalls.step, hslots]
      exact h.release cid

/-- In every admissible run from the initial table, the table is the set of established
calls after every step if and only if no reply carries a stray cid. -/
theorem always_tableIsEstablished_iff {S : Superclass β} (hS : S.CompletesRequests)
    (P : Platform) {ril : MediaTekRIL} (hfree : ril.dataCallCids = fun _ => -1)
    {es : List (DataCallEvent β)}
    (hadm : Along (DataCalls.step S P) (AdmissibleReplies S) (.start ril) es) :
    Always (DataCalls.step S P) TableIsEstablished (.start ril) es ↔
      Along (DataCalls.step S P) (NoStrayCid S) (.start ril) es := by
  have hregular : Along (DataCalls.step S P)
      (fun s e => s.Regular ∧ s.AdmissibleReplies S e) (.start ril) es := by
    apply along_of_step _ _ (regular_start hfree) hadm
    · intro s e hs he
      exact hs.step hS he
    · intro s e hs he
      exact ⟨hs, he⟩
  apply always_iff_along _ hregular
  · exact (tableIsEstablished_iff (regular_start hfree)).mpr (holdsEstablished_start hfree)
  · intro s e hs htable
    obtain ⟨hs, he⟩ := hs
    rw [tableIsEstablished_iff (hs.step hS he)]
    exact ((tableIsEstablished_iff hs).mp htable).step_iff hS hs he

end DataCalls

/-- The reply that reports a failed setup, with a status and a cid. -/
def failSetup (serial status cid : Int) : DataCallEvent (List ParcelItem) :=
  .reply ⟨serial, 0, [.int 11, .int 1, .int status, .int 0, .int cid]⟩

/-- Calls come and go, and a setup fails without a cid: the table follows. -/
theorem tableIsEstablished_come_and_go :
    let calls := DataCalls.start (.start ⟨eccTable, ∅⟩ (propertiesOfLists [] [] []))
    Always (DataCalls.step .reference .reference) DataCalls.TableIsEstablished calls
      [setupInternet, establish 0 5, setupInternet, failSetup 1 33 (-1), .deactivate 5 0 none] :=
  (DataCalls.always_tableIsEstablished_iff Superclass.reference_completesRequests .reference
    rfl (by decide)).mpr (by decide)

/-- A setup fails and its reply carries cid 5: the table holds a call that is not
established. -/
theorem tableIsEstablished_stray_cid :
    let calls := DataCalls.start (.start ⟨eccTable, ∅⟩ (propertiesOfLists [] [] []))
    let es := [setupInternet, failSetup 0 33 5]
    Along (DataCalls.step .reference .reference) (DataCalls.AdmissibleReplies .reference) calls es ∧
      (run (DataCalls.step .reference .reference) calls es).ril.dataCallCids 0 = 5 ∧
      (run (DataCalls.step .reference .reference) calls es).establishedCids = [] ∧
      ¬ Always (DataCalls.step .reference .reference) DataCalls.TableIsEstablished calls es := by
  intro calls es
  have hheld : (run (DataCalls.step .reference .reference) calls es).ril.dataCallCids 0 = 5 := by
    rfl
  have hnone : (run (DataCalls.step .reference .reference) calls es).establishedCids = [] := by
    rfl
  refine ⟨by decide, hheld, hnone, ?_⟩
  intro h
  have hlast := (always_iff_forall_isPrefix.mp h) es (List.prefix_refl es)
  have hmem := (hlast.entries 5 (by decide)).mp ⟨0, hheld⟩
  rw [hnone] at hmem
  cases hmem

end MediatekCommon.Ril
