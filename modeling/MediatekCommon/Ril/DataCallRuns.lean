/-
  Ril/DataCallRuns.lean --- data calls over whole runs.

  A run sets up data calls, processes replies to them and deactivates calls, in
  any order.  Next to the `MediaTekRIL` it remembers which requests are still
  unanswered and which calls are established, each with the request that set it
  up; the interface id of a call is read from that request's parcel.

  The class picks the id when it sends the request and fills the table when the
  reply arrives, so the two only belong together while the entry found by the
  reply is the one that was announced.  `InStep` says that of one event.  Under it
  the table holds exactly the established calls, each under its own id
  (`InTable`), and no id is in use twice.
-/
import MediatekCommon.Foundation.Runs
import MediatekCommon.Ril.Solicited

set_option autoImplicit false

namespace MediatekCommon.Ril

open MediatekCommon.Foundation

variable {β : Type}

/-! ## Runs of data calls -/

/-- A `MediaTekRIL` with the data calls it is responsible for. -/
structure DataCalls where
  ril : MediaTekRIL
  /-- The requests without a reply, oldest first. -/
  pending : List RILRequest
  /-- The cids of the established calls with the requests that set them up. -/
  established : List (Int × RILRequest)

/-- What happens to data calls. -/
inductive DataCallEvent (β : Type) where
  | setup (radioTechnology profile : Int) (apn user password : Option JavaString)
      (authType : Int) (protocol : Option JavaString) (result : Option Message)
  | reply (r : SolicitedReply β)
  | deactivate (cid reason : Int) (result : Option Message)

/-- The cid of a call that a reply reports as established. -/
def successCid (S : Superclass β) (r : SolicitedReply β) : Option Int :=
  match S.responseSetupDataCall r.payload with
  | .ok response => if r.error = 0 ∧ response.status = 0 then some response.cid else none
  | .error _ => none

namespace DataCalls

/-- The calls of a `MediaTekRIL` that has not set up any. -/
def start (ril : MediaTekRIL) : DataCalls := ⟨ril, [], []⟩

/-- The calls after a reply: the request it answers is no longer pending, and a
success makes it an established call. -/
def settle (S : Superclass β) (s : DataCalls) (r : SolicitedReply β) (ril : MediaTekRIL) :
    DataCalls where
  ril := ril
  pending := s.pending.filter fun rr => decide (rr.mSerial ≠ r.serial)
  established :=
    match s.pending.find? (fun rr => decide (rr.mSerial = r.serial)), successCid S r with
    | some rr, some cid => s.established ++ [(cid, rr)]
    | _, _ => s.established

/-- One event. -/
def step (S : Superclass β) (P : Platform) (s : DataCalls) : DataCallEvent β → DataCalls
  | .setup radioTechnology profile apn user password authType protocol result =>
      let ril := s.ril.setupDataCall radioTechnology profile apn user password authType
        protocol result
      { s with ril := ril, pending := s.pending ++ sentSince s.ril ril }
  | .reply r => s.settle S r (processSolicited S P s.ril r).2
  | .deactivate cid reason result =>
      { s with
        ril := s.ril.deactivateDataCall cid reason result
        established := s.established.filter fun call => decide (call.1 ≠ cid) }

/-- The interface ids of all calls, as they were sent. -/
def interfaceIds (s : DataCalls) : List (Option JavaString) :=
  s.pending.map RILRequest.interfaceId ++
    s.established.map fun call => call.2.interfaceId

/-- No two calls share an interface id, and every id is one of 1 to 4. -/
def InterfaceIdsDistinct (s : DataCalls) : Prop :=
  s.interfaceIds.Nodup ∧
    ∀ id ∈ s.interfaceIds, id ∈ ["1", "2", "3", "4"].map fun text => some text.toList

/-- The events that can happen: at most four calls at a time, replies to pending
requests only, and a fresh cid of at least 0 for every call that is established. -/
def Admissible (S : Superclass β) (s : DataCalls) : DataCallEvent β → Prop
  | .setup .. => s.pending.length + s.established.length < 4
  | .reply r =>
      (∃ rr ∈ s.pending, rr.mSerial = r.serial) ∧
        ∀ cid ∈ successCid S r, 0 ≤ cid ∧ ∀ call ∈ s.established, call.1 ≠ cid
  | .deactivate .. => True

instance decidableInterfaceIdsDistinct (s : DataCalls) : Decidable s.InterfaceIdsDistinct :=
  inferInstanceAs (Decidable (_ ∧ _))

instance decidableAdmissible (S : Superclass β) (s : DataCalls) :
    ∀ e : DataCallEvent β, Decidable (s.Admissible S e)
  | .setup .. => inferInstanceAs (Decidable (_ < _))
  | .reply _ => inferInstanceAs (Decidable (_ ∧ _))
  | .deactivate .. => inferInstanceAs (Decidable True)

end DataCalls

/-- The cid `fetchCidFromDataCall` stores for a reply. -/
def carriedCid (S : Superclass β) (r : SolicitedReply β) : Option Int :=
  if Active S r then
    match S.responseSetupDataCall r.payload with
    | .ok response => if 0 ≤ response.cid then some response.cid else none
    | .error _ => none
  else none

namespace DataCalls

/-- The request was announced under the first free entry of the table. -/
def AnnouncedFirstFree (s : DataCalls) (rr : RILRequest) : Prop :=
  ∃ i, firstFreeSlot s.ril.dataCallCids = some i ∧ rr.interfaceId = some (interfaceText i)

/-- Announcing and filling stay in step: a call is set up while no unanswered
request was announced under the first free entry, and a reply whose cid is stored
reports success to the request that was. -/
def InStep (S : Superclass β) (s : DataCalls) : DataCallEvent β → Prop
  | .setup .. => ∀ rr ∈ s.pending, ¬ s.AnnouncedFirstFree rr
  | .reply r => ∀ cid ∈ carriedCid S r, successCid S r = some cid ∧
      ∀ rr ∈ s.pending, rr.mSerial = r.serial → s.AnnouncedFirstFree rr
  | .deactivate .. => True

instance decidableAnnouncedFirstFree (s : DataCalls) (rr : RILRequest) :
    Decidable (s.AnnouncedFirstFree rr) :=
  inferInstanceAs (Decidable (∃ _, _))

instance decidableInStep (S : Superclass β) (s : DataCalls) :
    ∀ e : DataCallEvent β, Decidable (s.InStep S e)
  | .setup .. => inferInstanceAs (Decidable (∀ rr ∈ s.pending, ¬ s.AnnouncedFirstFree rr))
  | .reply r => inferInstanceAs (Decidable (∀ cid ∈ carriedCid S r, _ ∧ _))
  | .deactivate .. => inferInstanceAs (Decidable True)

end DataCalls

/-! ## What one event does -/

theorem sentSince_setupDataCall (s : MediaTekRIL) (radioTechnology profile : Int)
    (apn user password : Option JavaString) (authType : Int) (protocol : Option JavaString)
    (result : Option Message) :
    ∃ rr, rr.mSerial = s.nextSerial ∧ rr.mRequest = .setupDataCall ∧
      rr.interfaceId = some (integerToString (interfaceIdFor s.dataCallCids)) ∧
      (s.setupDataCall radioTechnology profile apn user password authType protocol
        result).mRequestList = s.mRequestList.add rr ∧
      sentSince s (s.setupDataCall radioTechnology profile apn user password authType protocol
        result) = [rr] := by
  refine ⟨_, rfl, rfl, rfl, rfl, ?_⟩
  exact sentSince_of_outgoing (MediaTekRIL.outgoing_sendNew _ _ _ _)

/-- A reply to a pending `SETUP_DATA_CALL` is handled here if it is active, and by the
superclass if it is not. -/
theorem processSolicited_route_setupDataCall (S : Superclass β) (P : Platform) {s : MediaTekRIL}
    {r : SolicitedReply β} {rr : RILRequest} (hget : s.mRequestList.get r.serial = some rr)
    (hsetup : rr.mRequest = .setupDataCall) :
    processSolicited S P s r = if Active S r then handle S s r else forward S s r := by
  have hserial : rr.mSerial = r.serial := s.mRequestList.serial_eq _ _ hget
  have hlocal : RequestCode.setupDataCall.handledLocally = true := rfl
  by_cases hactive : Active S r <;>
    simp [processSolicited, processBehind, prePass, prePassWith, hget, hserial, hactive, hsetup,
      hlocal]

/-- Such a reply stores the cid it carries. -/
theorem dataCallCids_processSolicited {S : Superclass β} (hS : S.FindsRequests)
    (P : Platform) {s : MediaTekRIL} {r : SolicitedReply β} {rr : RILRequest}
    (hget : s.mRequestList.get r.serial = some rr) (hsetup : rr.mRequest = .setupDataCall) :
    (processSolicited S P s r).2.dataCallCids =
      (carriedCid S r).elim s.dataCallCids (storeCid s.dataCallCids) := by
  rw [processSolicited_route_setupDataCall S P hget hsetup]
  by_cases hactive : Active S r
  · simp only [if_pos hactive, handle, hS.findAndRemove, hget, hsetup, localResponse,
      MediaTekRIL.fetchCidFromDataCall, carriedCid]
    cases S.responseSetupDataCall r.payload with
    | error t => rfl
    | ok response =>
        by_cases hcid : 0 ≤ response.cid <;> cases rr.mResult <;>
          simp [hcid, MediaTekRIL.deliverTo, MediaTekRIL.deliver]
  · simp [hactive, forward, carriedCid]

/-- Such a reply removes its request. -/
theorem processSolicited_setupDataCall {S : Superclass β} (hS : S.CompletesRequests)
    (P : Platform) {s : MediaTekRIL} {r : SolicitedReply β} {rr : RILRequest}
    (hget : s.mRequestList.get r.serial = some rr) (hsetup : rr.mRequest = .setupDataCall) :
    (processSolicited S P s r).2.mRequestList = s.mRequestList.remove r.serial ∧
      (processSolicited S P s r).2.nextSerial = s.nextSerial := by
  rw [processSolicited_route_setupDataCall S P hget hsetup]
  by_cases hactive : Active S r
  · simp only [if_pos hactive, handle, hS.findAndRemove, hget, hsetup, localResponse,
      MediaTekRIL.fetchCidFromDataCall]
    cases S.responseSetupDataCall r.payload with
    | error t => exact ⟨rfl, rfl⟩
    | ok response =>
        by_cases hcid : 0 ≤ response.cid <;> cases rr.mResult <;>
          simp [hcid, MediaTekRIL.deliverTo, MediaTekRIL.deliver]
  · simp [hactive, forward, hS.removes]

/-! ## The pending requests -/

namespace DataCalls

/-- A request whose reply will be found by its serial and handled as a data call. -/
structure Answerable (s : DataCalls) (rr : RILRequest) : Prop where
  pending : s.ril.mRequestList.get rr.mSerial = some rr
  setup : rr.mRequest = .setupDataCall
  serial : rr.mSerial < s.ril.nextSerial

/-- Every call that waits for its reply can be answered. -/
def AllAnswerable (s : DataCalls) : Prop := ∀ rr ∈ s.pending, s.Answerable rr

theorem allAnswerable_start (ril : MediaTekRIL) : (start ril).AllAnswerable := by
  intro rr hrr
  cases hrr

/-- What a reply does to the calls: it answers one of the pending requests and leaves
the others; the table takes the cid the reply carries; a success makes the answered
request an established call. -/
theorem reply_effect {S : Superclass β} (hS : S.CompletesRequests) (P : Platform)
    {s : DataCalls} (h : s.AllAnswerable) {r : SolicitedReply β}
    (hpending : ∃ rr ∈ s.pending, rr.mSerial = r.serial) :
    ∃ rr ∈ s.pending, rr.mSerial = r.serial ∧
      (∀ rr' ∈ (step S P s (.reply r)).pending, rr' ∈ s.pending ∧ rr'.mSerial ≠ r.serial ∧
        (step S P s (.reply r)).Answerable rr') ∧
      (step S P s (.reply r)).ril.dataCallCids =
        (carriedCid S r).elim s.ril.dataCallCids (storeCid s.ril.dataCallCids) ∧
      (step S P s (.reply r)).established =
        s.established ++ (successCid S r).toList.map fun cid => (cid, rr) := by
  obtain ⟨rr₀, hrr₀, hserial₀⟩ := hpending
  cases hfind : s.pending.find? (fun rr => decide (rr.mSerial = r.serial)) with
  | none =>
      have hnot := List.find?_eq_none.mp hfind rr₀ hrr₀
      simp [hserial₀] at hnot
  | some rr =>
      have hrr : rr ∈ s.pending := List.mem_of_find?_eq_some hfind
      have hserial : rr.mSerial = r.serial := by simpa using List.find?_some hfind
      have hget : s.ril.mRequestList.get r.serial = some rr := hserial ▸ (h rr hrr).pending
      obtain ⟨hlist, hnext⟩ := processSolicited_setupDataCall hS P hget (h rr hrr).setup
      have hcids := dataCallCids_processSolicited hS.toFindsRequests P hget (h rr hrr).setup
      refine ⟨rr, hrr, hserial, ?_, hcids, ?_⟩
      · intro rr' hrr'
        obtain ⟨hold, hne⟩ := List.mem_filter.mp hrr'
        have hne : rr'.mSerial ≠ r.serial := of_decide_eq_true hne
        refine ⟨hold, hne, ?_, (h rr' hold).setup, ?_⟩
        · simp only [step, settle, hlist]
          rw [RequestList.get_remove_of_ne _ hne, (h rr' hold).pending]
        · simp only [step, settle, hnext]
          exact (h rr' hold).serial
      · cases hsuccess : successCid S r <;> simp [step, settle, hfind, hsuccess]

/-- A new request is answerable, and the older ones stay so. -/
theorem AllAnswerable.setup {S : Superclass β} {P : Platform} {s : DataCalls}
    (h : s.AllAnswerable) (radioTechnology profile : Int) (apn user password : Option JavaString)
    (authType : Int) (protocol : Option JavaString) (result : Option Message) :
    (step S P s (.setup radioTechnology profile apn user password authType protocol
      result)).AllAnswerable := by
  obtain ⟨new, hserial, hsetup, -, hlist, hsent⟩ := sentSince_setupDataCall s.ril
    radioTechnology profile apn user password authType protocol result
  have hnext : (s.ril.setupDataCall radioTechnology profile apn user password authType protocol
      result).nextSerial = s.ril.nextSerial + 1 := rfl
  intro rr hrr
  simp only [step, hsent] at hrr
  rcases List.mem_append.mp hrr with hold | hnew
  · obtain ⟨hget, hreq, hlt⟩ := h rr hold
    refine ⟨?_, hreq, ?_⟩
    · have hne : rr.mSerial ≠ new.mSerial := by omega
      simp only [step, hlist]
      rw [RequestList.get_add_of_ne _ hne, hget]
    · simp only [step, hnext]
      omega
  · obtain rfl := List.mem_singleton.mp hnew
    refine ⟨?_, hsetup, ?_⟩
    · simp only [step, hlist, RequestList.get_add_self]
    · simp only [step, hnext]
      omega

/-- Every event keeps the pending requests answerable, if the replies answer pending
requests. -/
theorem AllAnswerable.step {S : Superclass β} (hS : S.CompletesRequests) {P : Platform}
    {s : DataCalls} (h : s.AllAnswerable) {e : DataCallEvent β}
    (hreply : ∀ r, e = .reply r → ∃ rr ∈ s.pending, rr.mSerial = r.serial) :
    (step S P s e).AllAnswerable := by
  cases e with
  | setup => exact h.setup _ _ _ _ _ _ _ _
  | reply r =>
      obtain ⟨-, -, -, hothers, -, -⟩ := reply_effect hS P h (hreply r rfl)
      exact fun rr hrr => (hothers rr hrr).2.2
  | deactivate cid reason result =>
      exact fun rr hrr => ⟨(h rr hrr).pending, (h rr hrr).setup, (h rr hrr).serial⟩

end DataCalls

/-! ## The invariant -/

namespace DataCalls

/-- A request that waits for its reply, announced under an entry that is free. -/
structure Waiting (s : DataCalls) (rr : RILRequest) : Prop where
  pending : s.ril.mRequestList.get rr.mSerial = some rr
  setup : rr.mRequest = .setupDataCall
  serial : rr.mSerial < s.ril.nextSerial
  slot : ∃ i, rr.interfaceId = some (interfaceText i) ∧ slotsOf s.ril.dataCallCids i = none

/-- The table holds the established calls, each under the id it was announced
with, and leaves the ids of the pending ones free. -/
structure InTable (s : DataCalls) : Prop where
  waiting : ∀ rr ∈ s.pending, s.Waiting rr
  announced : (s.pending.map RILRequest.interfaceId).Nodup
  held : ∀ call ∈ s.established, ∃ i,
    call.2.interfaceId = some (interfaceText i) ∧ slotsOf s.ril.dataCallCids i = some call.1
  listed : ∀ i cid, slotsOf s.ril.dataCallCids i = some cid →
    cid ∈ s.established.map Prod.fst
  cids : (s.established.map Prod.fst).Nodup
  injective : (slotsOf s.ril.dataCallCids).Injective

theorem InTable.allAnswerable {s : DataCalls} (h : s.InTable) : s.AllAnswerable :=
  fun rr hrr => ⟨(h.waiting rr hrr).pending, (h.waiting rr hrr).setup, (h.waiting rr hrr).serial⟩

/-- The invariant gives the property: an id is a slot, and a slot is free or holds
one call. -/
theorem InTable.interfaceIdsDistinct {s : DataCalls} (h : s.InTable) :
    s.InterfaceIdsDistinct := by
  have hestablished : (s.established.map fun call => call.2.interfaceId).Nodup := by
    refine List.pairwise_map.mpr ((List.pairwise_map.mp h.cids).imp_of_mem ?_)
    intro a b ha hb hne hid
    obtain ⟨i, hi, hslot⟩ := h.held a ha
    obtain ⟨j, hj, hslot'⟩ := h.held b hb
    rw [hi, hj] at hid
    have hij : i = j := interfaceText_injective (Option.some.inj hid)
    exact hne (Option.some.inj ((hij ▸ hslot).symm.trans hslot'))
  refine ⟨List.nodup_append'.mpr ⟨h.announced, hestablished, ?_⟩, ?_⟩
  · intro id hpending hheld
    obtain ⟨rr, hrr, rfl⟩ := List.mem_map.mp hpending
    obtain ⟨call, hcall, hid⟩ := List.mem_map.mp hheld
    obtain ⟨i, hi, hfree⟩ := (h.waiting rr hrr).slot
    obtain ⟨j, hj, hslot⟩ := h.held call hcall
    rw [hi, hj] at hid
    have hij : j = i := interfaceText_injective (Option.some.inj hid)
    simp [← hij, hslot] at hfree
  · have hvalid : ∀ i : Fin 4, some (interfaceText i) ∈
        ["1", "2", "3", "4"].map fun text => some text.toList := by decide
    intro id hid
    rcases List.mem_append.mp hid with hpending | hheld
    · obtain ⟨rr, hrr, rfl⟩ := List.mem_map.mp hpending
      obtain ⟨i, hi, -⟩ := (h.waiting rr hrr).slot
      exact hi ▸ hvalid i
    · obtain ⟨call, hcall, rfl⟩ := List.mem_map.mp hheld
      obtain ⟨i, hi, -⟩ := h.held call hcall
      exact hi ▸ hvalid i

theorem inTable_start {ril : MediaTekRIL} (hfree : ril.dataCallCids = fun _ => -1) :
    (start ril).InTable := by
  have hslots : ∀ i, slotsOf ril.dataCallCids i = none := by simp [hfree]
  exact {
    waiting := by simp [start]
    announced := List.nodup_nil
    held := by simp [start]
    listed := by
      intro i cid hi
      simp only [start, hslots] at hi
      cases hi
    cids := List.nodup_nil
    injective := by
      intro i j cid hi
      simp only [start, hslots] at hi
      cases hi }

theorem InTable.setup {S : Superclass β} {P : Platform} {s : DataCalls} (h : s.InTable)
    {radioTechnology profile : Int} {apn user password : Option JavaString} {authType : Int}
    {protocol : Option JavaString} {result : Option Message}
    (hroom : s.pending.length + s.established.length < 4)
    (hin : ∀ rr ∈ s.pending, ¬ s.AnnouncedFirstFree rr) :
    (step S P s (.setup radioTechnology profile apn user password authType protocol
      result)).InTable := by
  obtain ⟨new, -, -, hid, -, hsent⟩ := sentSince_setupDataCall s.ril
    radioTechnology profile apn user password authType protocol result
  -- Fewer than four calls leave an entry free.
  obtain ⟨i, hi⟩ : ∃ i, firstFreeSlot s.ril.dataCallCids = some i := by
    rw [← firstFree_slotsOf, ← Option.ne_none_iff_exists']
    intro hfull
    have hlen := Slots.length_le_of_full h.injective hfull h.listed
    simp only [List.length_map] at hlen
    omega
  have hfree : slotsOf s.ril.dataCallCids i = none :=
    (Slots.firstFree_eq_some_iff.mp ((firstFree_slotsOf _).trans hi)).1
  rw [interfaceIdFor_of_firstFree hi] at hid
  have hcids : (s.ril.setupDataCall radioTechnology profile apn user password authType protocol
      result).dataCallCids = s.ril.dataCallCids := rfl
  exact {
    waiting := by
      intro rr hrr
      obtain ⟨hget, hreq, hlt⟩ := h.allAnswerable.setup (S := S) (P := P) _ _ _ _ _ _ _ _ rr hrr
      refine ⟨hget, hreq, hlt, ?_⟩
      simp only [step, hsent] at hrr
      rcases List.mem_append.mp hrr with hold | hnew
      · simpa only [step, hcids] using (h.waiting rr hold).slot
      · obtain rfl := List.mem_singleton.mp hnew
        exact ⟨i, hid, by simpa only [step, hcids] using hfree⟩
    announced := by
      simp only [step, hsent, List.map_append, List.map_cons, List.map_nil]
      refine List.nodup_append'.mpr ⟨h.announced, List.nodup_singleton _, ?_⟩
      intro id hpending hnew
      obtain ⟨rr, hrr, rfl⟩ := List.mem_map.mp hpending
      exact hin rr hrr ⟨i, hi, (List.mem_singleton.mp hnew).trans hid⟩
    held := h.held
    listed := h.listed
    cids := h.cids
    injective := h.injective }

theorem InTable.deactivate {S : Superclass β} {P : Platform} {s : DataCalls}
    (h : s.InTable) (cid reason : Int) (result : Option Message) :
    (step S P s (.deactivate cid reason result)).InTable := by
  have hslots : slotsOf (s.ril.deactivateDataCall cid reason result).dataCallCids =
      (slotsOf s.ril.dataCallCids).release cid := slotsOf_clearCid _ _
  exact {
    waiting := by
      intro rr hrr
      obtain ⟨hget, hreq, hlt, i, hid, hfree⟩ := h.waiting rr hrr
      refine ⟨hget, hreq, hlt, i, hid, ?_⟩
      simp only [step, hslots]
      exact Slots.release_eq_none h.injective hfree
    announced := h.announced
    held := by
      intro call hcall
      obtain ⟨hold, hne⟩ := List.mem_filter.mp hcall
      obtain ⟨i, hid, hslot⟩ := h.held call hold
      refine ⟨i, hid, ?_⟩
      simp only [step, hslots]
      exact (Slots.release_eq_some_iff h.injective).mpr ⟨hslot, of_decide_eq_true hne⟩
    listed := by
      intro i cid' hslot
      simp only [step, hslots] at hslot ⊢
      obtain ⟨hheld, hne⟩ := (Slots.release_eq_some_iff h.injective).mp hslot
      obtain ⟨call, hcall, rfl⟩ := List.mem_map.mp (h.listed i cid' hheld)
      exact List.mem_map.mpr ⟨call, List.mem_filter.mpr ⟨hcall, decide_eq_true hne⟩, rfl⟩
    cids := h.cids.sublist (List.filter_sublist.map _)
    injective := by
      simp only [step, hslots]
      exact h.injective.release cid }

theorem carriedCid_of_successCid {S : Superclass β} {r : SolicitedReply β} {cid : Int}
    (h : successCid S r = some cid) (hcid : 0 ≤ cid) : carriedCid S r = some cid := by
  unfold successCid at h
  split at h
  · rename_i response hparse
    split at h
    · rename_i hsuccess
      obtain rfl := Option.some.inj h
      have hactive : Active S r := .inl hsuccess.1
      simp [carriedCid, hactive, hparse, hcid]
    · cases h
  · cases h

/-- The cid of an established call is the one the reply carries. -/
theorem successCid_eq_of_carriedCid {S : Superclass β} {r : SolicitedReply β} {cid cid' : Int}
    (hcarried : carriedCid S r = some cid) (hsuccess : successCid S r = some cid') :
    cid' = cid := by
  unfold carriedCid at hcarried
  unfold successCid at hsuccess
  cases hparse : S.responseSetupDataCall r.payload with
  | error t => simp [hparse] at hsuccess
  | ok response =>
      simp only [hparse, Option.ite_none_right_eq_some] at hcarried hsuccess
      exact (Option.some.inj hsuccess.2).symm.trans (Option.some.inj hcarried.2.2)

/-- Where no cid is stored none is established. -/
theorem successCid_eq_none_of_carriedCid {S : Superclass β} {r : SolicitedReply β}
    (hcarried : carriedCid S r = none) (hfresh : ∀ cid ∈ successCid S r, 0 ≤ cid) :
    successCid S r = none := by
  rw [Option.eq_none_iff_forall_ne_some]
  intro cid hcid
  have hstored := carriedCid_of_successCid hcid (hfresh cid hcid)
  simp [hcarried] at hstored

theorem carriedCid_nonneg {S : Superclass β} {r : SolicitedReply β} {cid : Int}
    (h : carriedCid S r = some cid) : 0 ≤ cid := by
  unfold carriedCid at h
  split at h
  · split at h
    · split at h
      · obtain rfl := Option.some.inj h
        assumption
      · cases h
    · cases h
  · cases h

/-- A reply whose cid is not stored reports a failure and leaves the table as it
is. -/
theorem InTable.reply_unstored {S : Superclass β} (hS : S.CompletesRequests) {P : Platform}
    {s : DataCalls} (h : s.InTable) {r : SolicitedReply β}
    (hpending : ∃ rr ∈ s.pending, rr.mSerial = r.serial) (hcarried : carriedCid S r = none)
    (hfail : successCid S r = none) : (step S P s (.reply r)).InTable := by
  obtain ⟨rr, -, -, hothers, hcids, hestablished⟩ := reply_effect hS P h.allAnswerable hpending
  simp only [hcarried, Option.elim_none] at hcids
  simp only [hfail, Option.toList_none, List.map_nil, List.append_nil] at hestablished
  exact {
    waiting := by
      intro rr' hrr'
      obtain ⟨hold, -, hget, hreq, hlt⟩ := hothers rr' hrr'
      refine ⟨hget, hreq, hlt, ?_⟩
      rw [hcids]
      exact (h.waiting rr' hold).slot
    announced := h.announced.sublist (List.filter_sublist.map _)
    held := by
      rw [hcids, hestablished]
      exact h.held
    listed := by
      rw [hcids, hestablished]
      exact h.listed
    cids := hestablished ▸ h.cids
    injective := hcids ▸ h.injective }

/-- The cid a reply carries goes into the first free entry. -/
theorem InTable.slotsOf_reply {S : Superclass β} (hS : S.CompletesRequests) (P : Platform)
    {s : DataCalls} (h : s.InTable) {r : SolicitedReply β} {cid : Int}
    (hpending : ∃ rr ∈ s.pending, rr.mSerial = r.serial) (hcarried : carriedCid S r = some cid) :
    slotsOf (step S P s (.reply r)).ril.dataCallCids =
      (slotsOf s.ril.dataCallCids).store cid := by
  obtain ⟨rr, -, -, -, hcids, -⟩ := reply_effect hS P h.allAnswerable hpending
  rw [hcids, hcarried, Option.elim_some, slotsOf_storeCid _ (carriedCid_nonneg hcarried)]

/-- A success whose cid goes into the entry it was announced under. -/
theorem InTable.reply_stored {S : Superclass β} (hS : S.CompletesRequests) {P : Platform}
    {s : DataCalls} (h : s.InTable) {r : SolicitedReply β} {cid : Int}
    (hpending : ∃ rr ∈ s.pending, rr.mSerial = r.serial)
    (hcarried : carriedCid S r = some cid) (hsuccess : successCid S r = some cid)
    (hnew : ∀ call ∈ s.established, call.1 ≠ cid)
    (hfirst : ∀ rr ∈ s.pending, rr.mSerial = r.serial → s.AnnouncedFirstFree rr) :
    (step S P s (.reply r)).InTable := by
  obtain ⟨rr, hrr, hserial, hothers, -, hestablished⟩ :=
    reply_effect hS P h.allAnswerable hpending
  have hslots := h.slotsOf_reply hS P hpending hcarried
  simp only [hsuccess, Option.toList_some, List.map_cons, List.map_nil] at hestablished
  obtain ⟨i, hi, hid⟩ := hfirst rr hrr hserial
  have hfree : (slotsOf s.ril.dataCallCids).firstFree = some i :=
    (firstFree_slotsOf _).trans hi
  have hunheld : ∀ j, slotsOf s.ril.dataCallCids j ≠ some cid := by
    intro j hj
    obtain ⟨call, hcall, hcid⟩ := List.mem_map.mp (h.listed j cid hj)
    exact hnew call hcall hcid
  exact {
    waiting := by
      intro rr' hrr'
      obtain ⟨hold, hne, hget, hreq, hlt⟩ := hothers rr' hrr'
      obtain ⟨j, hj, hslot⟩ := (h.waiting rr' hold).slot
      refine ⟨hget, hreq, hlt, j, hj, ?_⟩
      rw [hslots, Slots.store_eq_none_iff hfree]
      refine ⟨?_, hslot⟩
      -- Sharing the slot would mean sharing the id with the answered request.
      intro hji
      have hsame : rr' = rr := List.inj_on_of_nodup_map h.announced hold hrr
        (hj.trans (hji ▸ hid.symm))
      exact hne (hsame ▸ hserial)
    announced := h.announced.sublist (List.filter_sublist.map _)
    held := by
      rw [hestablished, hslots]
      intro call hcall
      rcases List.mem_append.mp hcall with hold | hlast
      · obtain ⟨j, hj, hslot⟩ := h.held call hold
        exact ⟨j, hj, (Slots.store_eq_some_iff hfree).mpr (.inr hslot)⟩
      · obtain rfl := List.mem_singleton.mp hlast
        exact ⟨i, hid, (Slots.store_eq_some_iff hfree).mpr (.inl ⟨rfl, rfl⟩)⟩
    listed := by
      rw [hestablished, hslots]
      intro j cid' hslot
      rw [List.map_append, List.mem_append]
      rcases (Slots.store_eq_some_iff hfree).mp hslot with ⟨-, rfl⟩ | hold
      · exact .inr (List.mem_singleton.mpr rfl)
      · exact .inl (h.listed j cid' hold)
    cids := by
      rw [hestablished, List.map_append]
      refine List.nodup_append'.mpr ⟨h.cids, List.nodup_singleton _, ?_⟩
      intro cid' hold hlast
      obtain ⟨call, hcall, rfl⟩ := List.mem_map.mp hold
      exact hnew call hcall (List.mem_singleton.mp hlast)
    injective := by
      rw [hslots]
      exact h.injective.store hunheld }

theorem InTable.reply {S : Superclass β} (hS : S.CompletesRequests) {P : Platform}
    {s : DataCalls} (h : s.InTable) {r : SolicitedReply β}
    (hadm : s.Admissible S (.reply r)) (hin : s.InStep S (.reply r)) :
    (step S P s (.reply r)).InTable := by
  obtain ⟨hpending, hfresh⟩ := hadm
  cases hcarried : carriedCid S r with
  | none =>
      apply h.reply_unstored hS hpending hcarried
      exact successCid_eq_none_of_carriedCid hcarried fun cid hcid => (hfresh cid hcid).1
  | some cid =>
      obtain ⟨hsuccess, hfirst⟩ := hin cid hcarried
      exact h.reply_stored hS hpending hcarried hsuccess (hfresh cid hsuccess).2 hfirst

/-- A setup that keeps the invariant was announced under an id no pending request
has. -/
theorem InTable.inStep_setup {S : Superclass β} {P : Platform} {s : DataCalls}
    {radioTechnology profile : Int} {apn user password : Option JavaString} {authType : Int}
    {protocol : Option JavaString} {result : Option Message}
    (hnext : (step S P s (.setup radioTechnology profile apn user password authType protocol
      result)).InTable) :
    ∀ rr ∈ s.pending, ¬ s.AnnouncedFirstFree rr := by
  obtain ⟨new, -, -, hid, -, hsent⟩ := sentSince_setupDataCall s.ril radioTechnology profile
    apn user password authType protocol result
  intro rr hrr hfirst
  obtain ⟨i, hi, hrrid⟩ := hfirst
  rw [interfaceIdFor_of_firstFree hi] at hid
  have hnodup := hnext.announced
  simp only [step, hsent, List.map_append, List.map_cons, List.map_nil] at hnodup
  have hdisjoint := (List.nodup_append'.mp hnodup).2.2
  apply hdisjoint (List.mem_map_of_mem hrr)
  rw [hrrid, hid]
  exact List.mem_singleton_self _

/-- A reply that keeps the invariant stored its cid for the request it answers, in
the entry that request was announced under. -/
theorem InTable.inStep_reply {S : Superclass β} (hS : S.CompletesRequests) {P : Platform}
    {s : DataCalls} (h : s.InTable) {r : SolicitedReply β}
    (hpending : ∃ rr ∈ s.pending, rr.mSerial = r.serial)
    (hnext : (step S P s (.reply r)).InTable) : s.InStep S (.reply r) := by
  intro cid hmem
  have hcarried : carriedCid S r = some cid := hmem
  obtain ⟨rr, hrr, hserial, -, -, hestablished⟩ := reply_effect hS P h.allAnswerable hpending
  have hslots := h.slotsOf_reply hS P hpending hcarried
  -- The answered request leaves an entry free, so the cid is stored in the first.
  obtain ⟨k, -, hk⟩ := (h.waiting rr hrr).slot
  obtain ⟨i, hi⟩ : ∃ i, firstFreeSlot s.ril.dataCallCids = some i := by
    rw [← firstFree_slotsOf, ← Option.ne_none_iff_exists']
    intro hfull
    exact Slots.firstFree_eq_none_iff.mp hfull k hk
  have hfree : (slotsOf s.ril.dataCallCids).firstFree = some i :=
    (firstFree_slotsOf _).trans hi
  have hstored : slotsOf (step S P s (.reply r)).ril.dataCallCids i = some cid := by
    rw [hslots]
    exact (Slots.store_eq_some_iff hfree).mpr (.inl ⟨rfl, rfl⟩)
  have hempty : slotsOf s.ril.dataCallCids i = none := (Slots.firstFree_eq_some_iff.mp hfree).1
  -- An older call with this cid would hold a second entry.
  have hnew : cid ∉ s.established.map Prod.fst := by
    intro hmem
    obtain ⟨call, hcall, rfl⟩ := List.mem_map.mp hmem
    obtain ⟨j, -, hj⟩ := h.held call hcall
    have hheld : slotsOf (step S P s (.reply r)).ril.dataCallCids j = some call.1 := by
      rw [hslots]
      exact (Slots.store_eq_some_iff hfree).mpr (.inr hj)
    obtain rfl := hnext.injective _ _ _ hstored hheld
    simp [hempty] at hj
  have hsuccess : successCid S r = some cid := by
    have hlisted := hnext.listed i cid hstored
    cases hcid : successCid S r with
    | none =>
        rw [hestablished, hcid] at hlisted
        exact absurd (by simpa using hlisted) hnew
    | some cid' => rw [successCid_eq_of_carriedCid hcarried hcid]
  refine ⟨hsuccess, ?_⟩
  intro rr' hrr' hserial'
  -- A serial belongs to one pending request.
  have hsame : rr' = rr := by
    have hget := (h.waiting rr' hrr').pending
    rw [hserial', ← hserial, (h.waiting rr hrr).pending] at hget
    exact (Option.some.inj hget).symm
  subst hsame
  have hcall : (cid, rr') ∈ (step S P s (.reply r)).established := by
    simp [hestablished, hsuccess]
  obtain ⟨j, hid, hj⟩ := hnext.held _ hcall
  obtain rfl := hnext.injective _ _ _ hj hstored
  exact ⟨j, hi, hid⟩

/-- An admissible event keeps the invariant if and only if it stays in step. -/
theorem InTable.step_iff {S : Superclass β} (hS : S.CompletesRequests) {P : Platform}
    {s : DataCalls} (h : s.InTable) {e : DataCallEvent β} (hadm : s.Admissible S e) :
    (step S P s e).InTable ↔ s.InStep S e := by
  cases e with
  | setup => exact ⟨InTable.inStep_setup, h.setup hadm⟩
  | reply r => exact ⟨h.inStep_reply hS hadm.1, h.reply hS hadm⟩
  | deactivate cid reason result => exact iff_of_true (h.deactivate cid reason result) trivial

end DataCalls

/-! ## Interface ids over a run -/

/-- The table holds exactly the established calls, each under its own id, in every
state of an admissible run if and only if each of its events is in step. -/
theorem always_inTable_iff {S : Superclass β} (hS : S.CompletesRequests) (P : Platform)
    {ril : MediaTekRIL} (hfree : ril.dataCallCids = fun _ => -1)
    {es : List (DataCallEvent β)}
    (hadm : Along (DataCalls.step S P) (DataCalls.Admissible S) (.start ril) es) :
    Always (DataCalls.step S P) DataCalls.InTable (.start ril) es ↔
      Along (DataCalls.step S P) (DataCalls.InStep S) (.start ril) es := by
  apply always_iff_along _ hadm (DataCalls.inTable_start hfree)
  intro s e hadm hs
  exact hs.step_iff hS hadm

/-- In every run whose events are admissible and in step, no two calls ever share
an interface id, and every id is one of 1 to 4. -/
theorem interfaceIdsDistinct_of_inStep {S : Superclass β} (hS : S.CompletesRequests)
    (P : Platform) {ril : MediaTekRIL} (hfree : ril.dataCallCids = fun _ => -1)
    {es : List (DataCallEvent β)}
    (hadm : Along (DataCalls.step S P) (DataCalls.Admissible S) (.start ril) es)
    (hin : Along (DataCalls.step S P) (DataCalls.InStep S) (.start ril) es) :
    Always (DataCalls.step S P) DataCalls.InterfaceIdsDistinct (.start ril) es := by
  have hall := (always_inTable_iff hS P hfree hadm).mpr hin
  exact hall.imp fun s hs => hs.interfaceIdsDistinct

/-- A call to the internet access point, as an event. -/
def setupInternet : DataCallEvent (List ParcelItem) :=
  .setup 14 0 (some "internet".toList) none none 0 (some "IP".toList) none

/-- The reply that establishes the call of this request under a cid. -/
def establish (serial cid : Int) : DataCallEvent (List ParcelItem) :=
  .reply ⟨serial, 0, [.int 11, .int 1, .int 0, .int 0, .int cid]⟩

/-- A run that is in step although two requests are unanswered at once: the first
call ends while the second is pending, and the third takes its id. -/
theorem interfaceIdsDistinct_two_pending :
    let calls := DataCalls.start (.start ⟨eccTable, ∅⟩ (propertiesOfLists [] [] []))
    Always (DataCalls.step .reference .reference) DataCalls.InterfaceIdsDistinct calls
      [setupInternet, establish 0 5, setupInternet, .deactivate 5 0 none, setupInternet,
        establish 2 6, establish 1 7] :=
  interfaceIdsDistinct_of_inStep Superclass.reference_completesRequests .reference rfl
    (by decide) (by decide)

/-- Two calls set up one after the other, before the first is answered, are both
announced under interface id 1. -/
theorem setupDataCall_twice :
    let calls := DataCalls.start (.start ⟨eccTable, ∅⟩ (propertiesOfLists [] [] []))
    let es := [setupInternet, setupInternet]
    Along (DataCalls.step .reference .reference) (DataCalls.Admissible .reference) calls es ∧
      (run (DataCalls.step .reference .reference) calls es).interfaceIds =
        [some "1".toList, some "1".toList] ∧
      ¬ Always (DataCalls.step .reference .reference) DataCalls.InterfaceIdsDistinct calls es := by
  decide

end MediatekCommon.Ril
