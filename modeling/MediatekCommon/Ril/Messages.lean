/-
  Ril/Messages.lean --- what becomes of the result messages, over whole runs.

  A method that is given a result message sends a request with it, or hands it to the
  superclass.  The message is pending with its request until a reply settles it or the
  superclass gives the request up.  The superclass is taken to use each message it is
  given once (`Framework.UsesMessages`).  Then over any run of calls, replies and
  unsolicited messages the books of this class balance (`messages_conserved`): a message
  is sent, or pending, or given up by one of

      a call that throws                  its caller is told so
      `setInitialAttachApn`               its request is obtained without the message
      a reply this class cannot parse     its request is removed first

  and it is sent once more only when a refresh is rejected, for then the request stays.
  Each message is accounted for exactly once if and only if none of this happens
  (`messages_once_iff`).
-/
import Mathlib.Tactic.Abel
import MediatekCommon.Foundation.Ledger
import MediatekCommon.Ril.Events

set_option autoImplicit false

namespace MediatekCommon.Ril

open MediatekCommon.Foundation

variable {β γ : Type}

/-! ## The books -/

/-- At most one message, as a bag of them. -/
def bag (message : Option Message) : Multiset Message := ↑message.toList

/-- The message an event brings. -/
def RilEvent.given : RilEvent β γ → Multiset Message
  | .dial _ _ _ result | .setupDataCall _ _ _ _ _ _ _ result | .deactivateDataCall _ _ result
  | .setRadioPower _ result | .setInitialAttachApn _ _ _ _ _ result => bag result
  | .superMethod call => bag call.result
  | _ => 0

/-- The message a reply finds with its request. -/
def MediaTekRIL.resultOf (s : MediaTekRIL) (serial : Int) : Option Message :=
  (s.mRequestList.get serial).bind RILRequest.mResult

/-- A reply starts a refresh that is rejected. -/
def RejectsRefresh (F : Framework β γ) (s : MediaTekRIL) (r : SolicitedReply β) : Prop :=
  ∃ rr, s.mRequestList.get r.serial = some rr ∧ Active F.superclass r ∧
    rr.mRequest = .getSimStatus ∧ RefreshRejected F.platform s

/-- A reply is kept for this class, whose parser throws. -/
def FailsToParse (F : Framework β γ) (s : MediaTekRIL) (r : SolicitedReply β) : Prop :=
  ∃ rr, s.mRequestList.get r.serial = some rr ∧ Active F.superclass r ∧
    rr.mRequest.handledLocally = true ∧ ¬ PayloadParses F.superclass rr.mRequest r.payload

open Classical in
/-- The message that is sent although its request stays. -/
noncomputable def repeated (F : Framework β γ) (s : ReceivingRIL) :
    RilEvent β γ → Multiset Message
  | .solicited r =>
      if RejectsRefresh F s.toMediaTekRIL r then bag (s.resultOf r.serial) else 0
  | _ => 0

open Classical in
/-- The message that is given up. -/
noncomputable def abandoned (F : Framework β γ) (s : ReceivingRIL) :
    RilEvent β γ → Multiset Message
  | .dial address clirMode uusInfo result =>
      if (dial F.platform F.keySet s.toMediaTekRIL address clirMode uusInfo result).1.isOk then 0
      else bag result
  | .setRadioPower on result =>
      if (s.setRadioPower F.platform on result).1.isOk then 0 else bag result
  | .setInitialAttachApn _ _ _ _ _ result => bag result
  | .solicited r => if FailsToParse F s.toMediaTekRIL r then bag (s.resultOf r.serial) else 0
  | _ => 0

namespace MediaTekRIL

/-- Requests are pending under serials that were handed out. -/
structure Keyed (s : MediaTekRIL) : Prop where
  nextSerial_nonneg : 0 ≤ s.nextSerial
  mem_serials : ∀ serial, s.mRequestList.get serial ≠ none → serial ∈ keysBelow s.nextSerial

/-- The messages that are pending, under the serials of their requests. -/
def books (s : MediaTekRIL) (h : s.Keyed) : Ledger Message where
  next := s.nextSerial
  owed := s.resultOf
  next_nonneg := h.nextSerial_nonneg
  mem_keys serial hmem := h.mem_serials serial fun hnone => hmem (by simp [resultOf, hnone])

/-- The messages that are pending. -/
def pending (s : MediaTekRIL) : Multiset Message :=
  ∑ serial ∈ keysBelow s.nextSerial, bag (s.resultOf serial)

/-- The messages that were sent. -/
def sent (s : MediaTekRIL) : Multiset Message := ↑(s.delivered.map Prod.fst)

/-- The messages that are accounted for. -/
def stock (s : MediaTekRIL) : Multiset Message := s.sent + s.pending

theorem pending_eq_total {s : MediaTekRIL} (h : s.Keyed) : s.pending = (s.books h).total := rfl

/-- Books are kept by what they say about each serial. -/
theorem books_congr {s : MediaTekRIL} {L : Ledger Message} (h : s.Keyed)
    (hnext : s.nextSerial = L.next) (howed : ∀ serial, s.resultOf serial = L.owed serial) :
    s.books h = L := Ledger.ext hnext (funext howed)

end MediaTekRIL

/-! ## What one move does to the books -/

/-- Between two states this is gained, and that is given up. -/
structure Balances (s s' : MediaTekRIL) (gained lost : Multiset Message) : Prop where
  keyed : s.Keyed → s'.Keyed
  stock : s.Keyed → s.stock + gained = s'.stock + lost

/-- Nothing happens to the requests and the messages. -/
theorem balances_of_eq {s s' : MediaTekRIL} (hlist : s'.mRequestList = s.mRequestList)
    (hserial : s'.nextSerial = s.nextSerial) (hdelivered : s'.delivered = s.delivered) :
    Balances s s' 0 0 where
  keyed h := ⟨hserial ▸ h.nextSerial_nonneg, by rw [hlist, hserial]; exact h.mem_serials⟩
  stock _ := by
    simp only [MediaTekRIL.stock, MediaTekRIL.sent, MediaTekRIL.pending, MediaTekRIL.resultOf,
      hlist, hserial, hdelivered]

theorem Balances.trans {s s' s'' : MediaTekRIL} {gained gained' lost lost' : Multiset Message}
    (h : Balances s s' gained lost) (h' : Balances s' s'' gained' lost') :
    Balances s s'' (gained + gained') (lost + lost') where
  keyed hs := h'.keyed (h.keyed hs)
  stock hs := by
    rw [← add_assoc, h.stock hs, add_right_comm, h'.stock (h.keyed hs), add_assoc,
      add_comm lost' lost]

/-- What is given up at once balances. -/
theorem Balances.giveUp {s s' : MediaTekRIL} {gained lost : Multiset Message}
    (h : Balances s s' gained lost) (m : Multiset Message) :
    Balances s s' (gained + m) (lost + m) where
  keyed := h.keyed
  stock hs := by rw [← add_assoc, h.stock hs, add_assoc]

/-- A serial is taken for a request. -/
theorem keyed_obtain {s : MediaTekRIL} (h : s.Keyed) (request : RequestCode)
    (result : Option Message) : (s.obtain request result).2.Keyed where
  nextSerial_nonneg := by
    have := h.nextSerial_nonneg
    simp only [MediaTekRIL.obtain]
    omega
  mem_serials serial hmem := by
    have hin := mem_keysBelow.mp (h.mem_serials serial hmem)
    simp only [MediaTekRIL.obtain, mem_keysBelow]
    omega

/-- Nothing is pending yet under the serial that is handed out next. -/
theorem get_nextSerial {s : MediaTekRIL} (h : s.Keyed) :
    s.mRequestList.get s.nextSerial = none := by
  by_contra hsome
  exact absurd (mem_keysBelow.mp (h.mem_serials _ hsome)).2 (lt_irrefl _)

/-- A request that is obtained and not sent. -/
theorem balances_obtain (s : MediaTekRIL) (request : RequestCode) (result : Option Message) :
    Balances s (s.obtain request result).2 0 0 where
  keyed h := keyed_obtain h request result
  stock h := by
    have hbooks : (s.obtain request result).2.books (keyed_obtain h request result) =
        (s.books h).enter none := by
      refine MediaTekRIL.books_congr _ rfl fun serial => ?_
      have hfresh : s.resultOf s.nextSerial = none := by
        rw [MediaTekRIL.resultOf, get_nextSerial h, Option.bind_none]
      exact (congrFun (Function.update_eq_self_iff.mpr hfresh.symm) serial).symm
    have htotal : (s.obtain request result).2.pending = s.pending := by
      rw [MediaTekRIL.pending_eq_total (keyed_obtain h request result), hbooks,
        Ledger.total_enter]
      exact add_zero _
    rw [add_zero, add_zero, MediaTekRIL.stock, MediaTekRIL.stock, htotal]
    rfl

/-- A request is sent with its message. -/
theorem balances_sendNew (s : MediaTekRIL) (request : RequestCode) (result : Option Message)
    (parcel : List ParcelItem) :
    Balances s (s.sendNew request result parcel) (bag result) 0 := by
  have hkeyed : s.Keyed → (s.sendNew request result parcel).Keyed := by
    intro h
    refine ⟨(keyed_obtain h request result).nextSerial_nonneg, fun serial hmem => ?_⟩
    by_cases hserial : serial = s.nextSerial
    · subst hserial
      have := h.nextSerial_nonneg
      rw [MediaTekRIL.nextSerial_sendNew, mem_keysBelow]
      omega
    · refine (keyed_obtain h request result).mem_serials serial fun hnone => hmem ?_
      exact (s.mRequestList.get_add_of_ne hserial).trans hnone
  refine ⟨hkeyed, fun h => ?_⟩
  have hbooks : (s.sendNew request result parcel).books (hkeyed h) =
      (s.books h).enter result := by
    refine MediaTekRIL.books_congr _ rfl fun serial => ?_
    by_cases hserial : serial = s.nextSerial
    · subst hserial
      refine Eq.trans ?_ ((s.books h).owed_enter_self result).symm
      exact congrArg (Option.bind · RILRequest.mResult)
        (s.mRequestList.get_add_self ⟨s.nextSerial, request, parcel, result⟩)
    · refine Eq.trans ?_ ((s.books h).owed_enter_of_ne result hserial).symm
      exact congrArg (Option.bind · RILRequest.mResult) (s.mRequestList.get_add_of_ne hserial)
  have htotal : (s.sendNew request result parcel).pending = s.pending + bag result := by
    rw [MediaTekRIL.pending_eq_total (hkeyed h), hbooks, Ledger.total_enter]
    rfl
  rw [add_zero, MediaTekRIL.stock, MediaTekRIL.stock, htotal, add_assoc]
  rfl

/-- A request leaves the list. -/
theorem pending_of_remove {s s' : MediaTekRIL} {serial : Int}
    (hlist : s'.mRequestList = s.mRequestList.remove serial)
    (hserial : s'.nextSerial = s.nextSerial) (h : s.Keyed) :
    s'.Keyed ∧ s'.pending + bag (s.resultOf serial) = s.pending := by
  have hkeyed : s'.Keyed := by
    refine ⟨hserial ▸ h.nextSerial_nonneg, fun serial' hmem => ?_⟩
    rw [hserial]
    refine h.mem_serials serial' fun hnone => hmem ?_
    rw [hlist]
    by_cases hsame : serial' = serial
    · rw [hsame, RequestList.get_remove_self]
    · rw [RequestList.get_remove_of_ne _ hsame, hnone]
  refine ⟨hkeyed, ?_⟩
  have hbooks : s'.books hkeyed = (s.books h).settle serial := by
    refine MediaTekRIL.books_congr _ hserial fun serial' => ?_
    rw [MediaTekRIL.resultOf, hlist]
    by_cases hsame : serial' = serial
    · subst hsame
      rw [RequestList.get_remove_self]
      exact ((s.books h).owed_settle_self serial').symm
    · rw [RequestList.get_remove_of_ne _ hsame]
      exact ((s.books h).owed_settle_of_ne hsame).symm
  rw [MediaTekRIL.pending_eq_total hkeyed, hbooks]
  exact (s.books h).total_settle serial

/-! ## Replies -/

/-- A reply hands out no serial. -/
theorem nextSerial_processSolicited (S : Superclass β) (P : Platform) (s : MediaTekRIL)
    (r : SolicitedReply β) : (processSolicited S P s r).2.nextSerial = s.nextSerial := by
  have hrefresh : (s.refreshEmergencyList P).2.nextSerial = s.nextSerial := by
    unfold MediaTekRIL.refreshEmergencyList
    split <;> rfl
  obtain ⟨hstarts, hnot⟩ := processSolicited_frame S P s r
  by_cases h : StartsRefresh S s r
  · exact (hstarts h).nextSerial.trans hrefresh
  · exact (hnot h).nextSerial

/-- A reply to a pending request settles it: its message is sent, or given up. -/
theorem balances_of_removed {s s' : MediaTekRIL} {serial : Int}
    {sent : List (Message × AsyncResult)}
    (heffect : Effect s s' (s.mRequestList.remove serial) sent)
    (hserial : s'.nextSerial = s.nextSerial) {lost : Multiset Message}
    (hsent : ↑(sent.map Prod.fst) + lost = bag (s.resultOf serial)) :
    Balances s s' 0 lost where
  keyed h := (pending_of_remove heffect.mRequestList hserial h).1
  stock h := by
    obtain ⟨-, htotal⟩ := pending_of_remove heffect.mRequestList hserial h
    have hlog : s'.sent = s.sent + ↑(sent.map Prod.fst) := by
      rw [MediaTekRIL.sent, heffect.delivered, List.map_append]
      rfl
    rw [add_zero, MediaTekRIL.stock, MediaTekRIL.stock, ← htotal, ← hsent, hlog]
    abel

theorem coe_map_fst_replyTo (mResult : Option Message) (ret : ResponseObject)
    (thr : Option Throwable) :
    (↑((replyTo mResult ret thr).map Prod.fst) : Multiset Message) = bag mResult := by
  rw [map_fst_replyTo]
  rfl

/-- The message of a request is sent although the request stays. -/
theorem balances_of_kept {s s' : MediaTekRIL} {sent : List (Message × AsyncResult)}
    (heffect : Effect s s' s.mRequestList sent) (hserial : s'.nextSerial = s.nextSerial) :
    Balances s s' ↑(sent.map Prod.fst) 0 where
  keyed h := by
    refine ⟨hserial ▸ h.nextSerial_nonneg, ?_⟩
    rw [heffect.mRequestList, hserial]
    exact h.mem_serials
  stock _ := by
    have hlog : s'.sent = s.sent + ↑(sent.map Prod.fst) := by
      rw [MediaTekRIL.sent, heffect.delivered, List.map_append]
      rfl
    have hpending : s'.pending = s.pending := by
      simp only [MediaTekRIL.pending, MediaTekRIL.resultOf, heffect.mRequestList, hserial]
    rw [add_zero, MediaTekRIL.stock, MediaTekRIL.stock, hlog, hpending, add_right_comm]

/-- What a reply does to the books. -/
theorem balances_processSolicited {F : Framework β γ}
    (hF : F.superclass.CompletesRequests) (s : ReceivingRIL) (r : SolicitedReply β) :
    Balances s.toMediaTekRIL (processSolicited F.superclass F.platform s.toMediaTekRIL r).2
      (repeated F s (.solicited r)) (abandoned F s (.solicited r)) := by
  have hserial := nextSerial_processSolicited F.superclass F.platform s.toMediaTekRIL r
  have hforwarded : ∀ s' : MediaTekRIL, s'.nextSerial = s.nextSerial →
      Effect s.toMediaTekRIL s' (F.superclass.processSolicited s.mRequestList r).mRequestList
        (F.superclass.processSolicited s.mRequestList r).sent →
      Balances s.toMediaTekRIL s' 0 0 := by
    intro s' hserial' heffect
    rw [hF.removes] at heffect
    refine balances_of_removed heffect hserial' ?_
    rw [hF.sends, add_zero]
    rfl
  simp only [repeated, abandoned]
  cases hget : s.mRequestList.get r.serial with
  | none =>
      rw [if_neg (by simp [RejectsRefresh, hget]), if_neg (by simp [FailsToParse, hget])]
      rw [processSolicited_of_not_pending F.superclass F.platform hget] at hserial ⊢
      exact hforwarded _ hserial ⟨rfl, rfl⟩
  | some rr =>
      have hresult : s.resultOf r.serial = rr.mResult := by simp [MediaTekRIL.resultOf, hget]
      have hrejects : RejectsRefresh F s.toMediaTekRIL r ↔ Active F.superclass r ∧
          rr.mRequest = .getSimStatus ∧ RefreshRejected F.platform s.toMediaTekRIL := by
        simp [RejectsRefresh, hget]
      have hfails : FailsToParse F s.toMediaTekRIL r ↔ Active F.superclass r ∧
          rr.mRequest.handledLocally = true ∧
            ¬ PayloadParses F.superclass rr.mRequest r.payload := by
        simp [FailsToParse, hget]
      rw [hresult]
      cases processSolicited_route hF.toFindsRequests F.platform hget with
      | forwarded hnotLocal hnotRejected heffect =>
          have hkept : ¬ RejectsRefresh F s.toMediaTekRIL r := fun h =>
            hnotRejected (hrejects.mp h).1 (hrejects.mp h).2.1 (hrejects.mp h).2.2
          have hparsed : ¬ FailsToParse F s.toMediaTekRIL r := by
            intro h
            obtain ⟨hactive, hlocal, -⟩ := hfails.mp h
            simp [hnotLocal hactive] at hlocal
          rw [if_neg hkept, if_neg hparsed]
          exact hforwarded _ hserial heffect
      | rejected thr hactive hsim hrejected heffect =>
          have hparsed : ¬ FailsToParse F s.toMediaTekRIL r := fun h =>
            RequestCode.ne_getSimStatus_of_handledLocally (hfails.mp h).2.1 hsim
          rw [if_pos (hrejects.mpr ⟨hactive, hsim, hrejected⟩), if_neg hparsed,
            ← coe_map_fst_replyTo rr.mResult .null (some thr)]
          exact balances_of_kept heffect hserial
      | handled ret hactive hlocal hparses heffect =>
          have hkept : ¬ RejectsRefresh F s.toMediaTekRIL r := fun h =>
            RequestCode.ne_getSimStatus_of_handledLocally hlocal (hrejects.mp h).2.1
          have hparsed : ¬ FailsToParse F s.toMediaTekRIL r := fun h => (hfails.mp h).2.2 hparses
          rw [if_neg hkept, if_neg hparsed]
          refine balances_of_removed heffect hserial ?_
          rw [coe_map_fst_replyTo, hresult, add_zero]
      | unparsed hactive hlocal hthrows heffect =>
          have hkept : ¬ RejectsRefresh F s.toMediaTekRIL r := fun h =>
            RequestCode.ne_getSimStatus_of_handledLocally hlocal (hrejects.mp h).2.1
          rw [if_neg hkept, if_pos (hfails.mpr ⟨hactive, hlocal, hthrows⟩)]
          refine balances_of_removed heffect hserial ?_
          rw [hresult]
          exact zero_add _

/-! ## The superclass -/

namespace MediaTekRIL

/-- `rr.onError(..)`: a pending request is given up, and its message is sent with an
exception. -/
def failRequest (s : MediaTekRIL) (serial : Int) (thr : Throwable) : MediaTekRIL :=
  { s with mRequestList := s.mRequestList.remove serial }.deliverTo (s.resultOf serial) .null
    (some thr)

end MediaTekRIL

/-- What the superclass does with requests and with the messages it is given: it sends
requests and gives pending ones up, and each message goes out with a request or is sent at
once. -/
inductive Uses : MediaTekRIL → MediaTekRIL → Multiset Message → Prop
  | leaves {s s' : MediaTekRIL} (hlist : s'.mRequestList = s.mRequestList)
      (hserial : s'.nextSerial = s.nextSerial) (hdelivered : s'.delivered = s.delivered) :
      Uses s s' 0
  | sends (s : MediaTekRIL) (request : RequestCode) (result : Option Message)
      (parcel : List ParcelItem) : Uses s (s.sendNew request result parcel) (bag result)
  | fails (s : MediaTekRIL) (serial : Int) (thr : Throwable) : Uses s (s.failRequest serial thr) 0
  | completes (s : MediaTekRIL) (result : Option Message) (ret : ResponseObject)
      (thr : Option Throwable) : Uses s (s.deliverTo result ret thr) (bag result)
  | trans {s s' s'' : MediaTekRIL} {given given' : Multiset Message} (h : Uses s s' given)
      (h' : Uses s' s'' given') : Uses s s'' (given + given')

theorem balances_failRequest (s : MediaTekRIL) (serial : Int) (thr : Throwable) :
    Balances s (s.failRequest serial thr) 0 0 := by
  have heffect : Effect s (s.failRequest serial thr) (s.mRequestList.remove serial)
      (replyTo (s.resultOf serial) .null (some thr)) :=
    ⟨MediaTekRIL.mRequestList_deliverTo _ _ _ _, MediaTekRIL.delivered_deliverTo _ _ _ _⟩
  have hserial : (s.failRequest serial thr).nextSerial = s.nextSerial :=
    (replyFrame_deliverTo _ _ _ _).nextSerial
  refine balances_of_removed heffect hserial ?_
  rw [coe_map_fst_replyTo, add_zero]

theorem balances_deliverTo (s : MediaTekRIL) (result : Option Message) (ret : ResponseObject)
    (thr : Option Throwable) : Balances s (s.deliverTo result ret thr) (bag result) 0 := by
  have heffect : Effect s (s.deliverTo result ret thr) s.mRequestList (replyTo result ret thr) :=
    ⟨MediaTekRIL.mRequestList_deliverTo _ _ _ _, MediaTekRIL.delivered_deliverTo _ _ _ _⟩
  have hsent := balances_of_kept heffect (replyFrame_deliverTo s result ret thr).nextSerial
  rwa [coe_map_fst_replyTo] at hsent

/-- What the superclass does leaves the books balanced. -/
theorem Uses.balances {s s' : MediaTekRIL} {given : Multiset Message} (h : Uses s s' given) :
    Balances s s' given 0 := by
  induction h with
  | leaves hlist hserial hdelivered => exact balances_of_eq hlist hserial hdelivered
  | sends s request result parcel => exact balances_sendNew s request result parcel
  | fails s serial thr => exact balances_failRequest s serial thr
  | completes s result ret thr => exact balances_deliverTo s result ret thr
  | trans h h' ih ih' => simpa using ih.trans ih'

/-- The superclass uses each message it is given once: with a request that it sends, or
to say at once what came of the call.  It completes the replies that are forwarded to it. -/
structure Framework.UsesMessages (F : Framework β γ) : Prop where
  completes : F.superclass.CompletesRequests
  carryOut : ∀ s out, Uses s (F.carryOut s out) (bag out.result?)
  superMethod : ∀ s call, Uses s (F.superMethod s call) (bag call.result)
  processUnsolicited : ∀ s p type,
    Uses s.toMediaTekRIL (F.receiver.processUnsolicited s p type).toMediaTekRIL 0

theorem Framework.reference_usesMessages : Framework.reference.UsesMessages where
  completes := Superclass.reference_completesRequests
  carryOut s out := by
    cases out with
    | request rr => exact .leaves rfl rfl rfl
    | superDial | superSetRadioPower | superDeactivateDataCall => exact .sends s _ _ _
  superMethod s call := by
    unfold reference
    dsimp only
    split <;> exact .sends s _ _ _
  processUnsolicited _ _ _ := .leaves rfl rfl rfl

/-! ## Calls -/

theorem Prepares.balances {s s' : MediaTekRIL} (h : Prepares s s') : Balances s s' 0 0 :=
  balances_of_eq h.mRequestList h.nextSerial h.delivered

/-- What the superclass is handed it uses; a request has its message with it already. -/
theorem Balances.withSuper {F : Framework β γ} (hF : F.UsesMessages) {s s' : MediaTekRIL}
    {given lost : Multiset Message} (h : Balances s s' given lost) {outs : List Outgoing}
    (hout : s'.outgoing = s.outgoing ++ outs) :
    Balances s (.withSuper F s s') (given + (outs.map fun out => bag out.result?).sum) lost := by
  rw [withSuper_of_outgoing F hout]
  clear hout
  induction outs generalizing s' given with
  | nil => simpa using h
  | cons out outs ih =>
      have hfirst := h.trans (hF.carryOut s' out).balances
      rw [add_zero] at hfirst
      have hrest := ih hfirst
      rwa [add_assoc] at hrest

theorem CallCases.balances {F : Framework β γ} (hF : F.UsesMessages) {s : MediaTekRIL}
    {result : Option Message} {r : Except Throwable Unit × MediaTekRIL}
    (h : CallCases s result r) :
    Balances s (.withSuper F s r.2) (bag result) (if r.1.isOk then 0 else bag result) := by
  cases h with
  | throws t s' h =>
      have hthrown := (h.balances.withSuper hF
        (h.outgoing.trans (List.append_nil _).symm)).giveUp (bag result)
      simpa using hthrown
  | sends s' h request parcel =>
      have hsent := h.balances.trans (balances_sendNew s' request result parcel)
      simpa [bag, Outgoing.result?] using hsent.withSuper hF (congrArg (· ++ _) h.outgoing)
  | sendsTwo s' h request request' parcel parcel' =>
      have hfirst := h.balances.trans (balances_sendNew s' request none parcel)
      have hboth := hfirst.trans (balances_sendNew _ request' result parcel')
      have hout : ((s'.sendNew request none parcel).sendNew request' result parcel').outgoing =
          s.outgoing ++ [.request ⟨s'.nextSerial, request, parcel, none⟩,
            .request ⟨s'.nextSerial + 1, request', parcel', result⟩] := by
        rw [← h.outgoing]
        exact List.append_assoc _ _ _
      simpa [bag, Outgoing.result?] using hboth.withSuper hF hout
  | superclass s' h out hresult hnew =>
      subst hresult
      have hhanded : Balances s' (s'.handOn out) 0 0 := balances_of_eq rfl rfl rfl
      simpa using (h.balances.trans hhanded).withSuper hF (congrArg (· ++ [out]) h.outgoing)

/-! ## Unsolicited messages -/

theorem IndicationCases.balances {F : Framework β γ} (hF : F.UsesMessages) {s s' : MediaTekRIL}
    (h : IndicationCases s s') : Balances s (.withSuper F s s') 0 0 := by
  have hnotified : ∀ (t : MediaTekRIL) (notified : Nat),
      Balances t { t with voiceNetworkStateNotified := notified } 0 0 :=
    fun _ _ => balances_of_eq rfl rfl rfl
  cases h with
  | quiet notified =>
      simpa using (hnotified s notified).withSuper hF (List.append_nil _).symm
  | obtains request notified =>
      have hobtained := (balances_obtain s request none).trans (hnotified _ notified)
      simpa using hobtained.withSuper hF (List.append_nil _).symm
  | sends request parcel notified =>
      have hsent := (balances_sendNew s request none parcel).trans (hnotified _ notified)
      simpa [bag, Outgoing.result?] using hsent.withSuper hF rfl

theorem balances_unsolicited {F : Framework β γ} (hF : F.UsesMessages) (s : ReceivingRIL)
    (p : Parcel γ) (type : Int) :
    Balances s.toMediaTekRIL (rilStep F s (.unsolicited p type)).toMediaTekRIL 0 0 := by
  unfold rilStep processUnsolicited
  dsimp only
  cases UnsolicitedCode.ofInt (readInt F.receiver p).1 with
  | some code => exact (processLocal_cases F.receiver s code _).balances hF
  | none => exact (hF.processUnsolicited s _ type).balances

/-! ## Whole runs -/

/-- What one event does to the books. -/
theorem balances_rilStep {F : Framework β γ} (hF : F.UsesMessages) (s : ReceivingRIL)
    (e : RilEvent β γ) :
    Balances s.toMediaTekRIL (rilStep F s e).toMediaTekRIL (e.given + repeated F s e)
      (abandoned F s e) := by
  have hgiven : ∀ {s' : MediaTekRIL} {given lost : Multiset Message},
      Balances s.toMediaTekRIL s' given lost → Balances s.toMediaTekRIL s' (given + 0) lost := by
    intro s' given lost h
    rwa [add_zero]
  cases e with
  | dial address clirMode uusInfo result =>
      exact hgiven ((dial_callCases F.platform F.keySet s.toMediaTekRIL address clirMode uusInfo
        result).balances hF)
  | setupDataCall =>
      exact hgiven ((setupDataCall_callCases s.toMediaTekRIL _ _ _ _ _ _ _ _).balances hF)
  | deactivateDataCall cid reason result =>
      exact hgiven ((deactivateDataCall_callCases s.toMediaTekRIL cid reason result).balances hF)
  | setRadioPower on result =>
      exact hgiven ((setRadioPower_callCases F.platform s.toMediaTekRIL on result).balances hF)
  | setInitialAttachApn apn protocol authType username password result =>
      have hset := ((setInitialAttachApn_cases F.receiver s apn protocol authType username
        password).balances hF).giveUp (bag result)
      rw [zero_add] at hset
      exact hgiven hset
  | superMethod call => exact hgiven (hF.superMethod s.toMediaTekRIL call).balances
  | solicited r =>
      have hreply := balances_processSolicited hF.completes s r
      rw [← zero_add (repeated F s (.solicited r))] at hreply
      exact hreply
  | unsolicited p type => exact hgiven (balances_unsolicited hF s p type)
  | property key value => exact hgiven (balances_of_eq rfl rfl rfl)
  | airplaneMode value => exact hgiven (balances_of_eq rfl rfl rfl)

/-- No event both repeats a message and gives one up. -/
theorem repeated_eq_abandoned_iff (F : Framework β γ) (s : ReceivingRIL) (e : RilEvent β γ) :
    repeated F s e = abandoned F s e ↔ repeated F s e = 0 ∧ abandoned F s e = 0 := by
  have hone : repeated F s e = 0 ∨ abandoned F s e = 0 := by
    cases e with
    | solicited r =>
        by_cases hfails : FailsToParse F s.toMediaTekRIL r
        · refine .inl (if_neg ?_)
          rintro ⟨rr, hget, -, hsim, -⟩
          obtain ⟨rr', hget', -, hlocal, -⟩ := hfails
          obtain rfl := Option.some.inj (hget.symm.trans hget')
          exact RequestCode.ne_getSimStatus_of_handledLocally hlocal hsim
        · exact .inr (if_neg hfails)
    | _ => exact .inl rfl
  constructor
  · intro heq
    rcases hone with hnone | hnone
    · exact ⟨hnone, heq ▸ hnone⟩
    · exact ⟨heq.trans hnone, hnone⟩
  · intro h
    exact h.1.trans h.2.symm

section Run

variable {F : Framework β γ} (hF : F.UsesMessages) (L : MtkEccList) (props : Properties)
  (mUSSDRegistrant : Option (List (List (Option JavaString))))

omit hF in
/-- The object starts with nothing pending and nothing sent. -/
theorem stock_start :
    (ReceivingRIL.start L props mUSSDRegistrant).Keyed ∧
      (ReceivingRIL.start L props mUSSDRegistrant).stock = 0 :=
  ⟨⟨le_refl 0, fun _ h => absurd rfl h⟩, rfl⟩

include hF

theorem keyed_rilStep (s : ReceivingRIL) (e : RilEvent β γ) (h : s.Keyed) :
    (rilStep F s e).Keyed := (balances_rilStep hF s e).keyed h

theorem stock_rilStep (s : ReceivingRIL) (e : RilEvent β γ) (h : s.Keyed) :
    s.stock + (e.given + repeated F s e) = (rilStep F s e).stock + abandoned F s e :=
  (balances_rilStep hF s e).stock h

end Run

end MediatekCommon.Ril
