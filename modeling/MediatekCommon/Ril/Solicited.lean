/-
  Ril/Solicited.lean --- `MediaTekRIL.processSolicited`: what becomes of a reply.

  A reply takes one of four routes.  The pre-pass looks at the pending request
  without removing it: five request types are kept for this class, a
  `GET_SIM_STATUS` refreshes the emergency lists first, and everything else is
  forwarded.  A refresh that throws ends the reply in the pre-pass.  A reply that
  was kept is removed, parsed here, and its message is sent; a parser that throws
  ends it between the removal and the sending.

      forwarded      the superclass removes the request and sends the message
      refreshed      the same, after new values of the two list properties
      rejected       the message is sent, the request stays
      handled        the request is removed, the message is sent if parsing ends

  The superclass is not part of this repository.  It is a parameter, and the
  results name what they use of it.
-/
import MediatekCommon.Ril.DataCall
import MediatekCommon.Ril.EccRefresh

set_option autoImplicit false

namespace MediatekCommon.Ril

open MediatekCommon.Foundation
open MediatekCommon.Foundation.JavaString

variable {β : Type}

/-! ## Messages -/

/-- What sending a request's message amounts to: one message if it has one. -/
def replyTo (mResult : Option Message) (ret : ResponseObject) (thr : Option Throwable) :
    List (Message × AsyncResult) :=
  mResult.toList.map fun message => (message, ⟨ret, thr⟩)

@[simp] theorem replyTo_none (ret : ResponseObject) (thr : Option Throwable) :
    replyTo none ret thr = [] := rfl

@[simp] theorem replyTo_some (message : Message) (ret : ResponseObject)
    (thr : Option Throwable) : replyTo (some message) ret thr = [(message, ⟨ret, thr⟩)] := rfl

@[simp] theorem map_fst_replyTo (mResult : Option Message) (ret : ResponseObject)
    (thr : Option Throwable) : (replyTo mResult ret thr).map Prod.fst = mResult.toList := by
  cases mResult <;> rfl

theorem exception_of_mem_replyTo {mResult : Option Message} {ret : ResponseObject}
    {thr : Option Throwable} {d : Message × AsyncResult} (hd : d ∈ replyTo mResult ret thr) :
    d.2.exception = thr := by
  obtain ⟨message, -, rfl⟩ := List.mem_map.mp hd
  rfl

/-! ## The superclass -/

/-- What `super.processSolicited` returns, leaves pending and sends. -/
structure SuperOutcome where
  returned : Option RILRequest
  mRequestList : RequestList
  sent : List (Message × AsyncResult)

/-- The members of `RIL` and `Parcel` that the replies go through, for payloads
of type `β`. -/
structure Superclass (β : Type) where
  /-- `p.dataAvail()` behind the two leading integers. -/
  dataAvail : β → Nat
  responseVoid : β → Except Throwable ResponseObject
  /-- `p.readStringArray()`; the array, like each of its elements, may be null. -/
  readStringArray : β → Except Throwable (Option (List (Option JavaString)))
  responseSetupDataCall : β → Except Throwable DataCallResponse
  findAndRemoveRequestFromList : RequestList → Int → Option RILRequest × RequestList
  processSolicited : RequestList → SolicitedReply β → SuperOutcome
  /-- Whether the superclass parses this payload as a reply to this request. -/
  parses : RequestCode → β → Bool

/-- `findAndRemoveRequestFromList` removes and returns the matching request. -/
structure Superclass.FindsRequests (S : Superclass β) : Prop where
  findAndRemove : ∀ l serial,
    S.findAndRemoveRequestFromList l serial = (l.get serial, l.remove serial)

/-- The superclass completes what is forwarded to it: it removes the matching
request and sends its message, if it has one, exactly once. -/
structure Superclass.CompletesRequests (S : Superclass β) : Prop extends S.FindsRequests where
  removes : ∀ l r, (S.processSolicited l r).mRequestList = l.remove r.serial
  sends : ∀ l r, (S.processSolicited l r).sent.map Prod.fst =
    ((l.get r.serial).bind RILRequest.mResult).toList

/-- The superclass reports errors as errors and success as success. -/
structure Superclass.ReportsErrors (S : Superclass β) : Prop extends S.FindsRequests where
  error : ∀ l r, r.error ≠ 0 → ∀ d ∈ (S.processSolicited l r).sent, d.2.exception ≠ none
  success : ∀ l r rr, r.error = 0 → l.get r.serial = some rr →
    S.parses rr.mRequest r.payload = true → ∀ message ∈ rr.mResult,
      ∃ ret, (S.processSolicited l r).sent = [(message, ⟨ret, none⟩)]

/-- A superclass to run the model on.  A payload is the list of its items. -/
def Superclass.reference : Superclass (List ParcelItem) where
  dataAvail := List.length
  responseVoid := fun _ => .ok .null
  readStringArray := fun p =>
    match p with
    | .int length :: items =>
        if length < 0 then .ok none
        else .ok (some ((items.take length.toNat).map fun item =>
          match item with
          | .string value => value
          | _ => none))
    | _ => .ok (some [])
  responseSetupDataCall := fun p =>
    match p with
    | .int version :: .int num :: .int status :: .int _ :: .int cid :: _ =>
        if 5 ≤ version ∧ num = 1 then .ok ⟨status, cid⟩ else .error .runtimeException
    | _ => .error .runtimeException
  findAndRemoveRequestFromList := fun l serial => (l.get serial, l.remove serial)
  processSolicited := fun l r =>
    ⟨l.get r.serial, l.remove r.serial,
      replyTo ((l.get r.serial).bind RILRequest.mResult) .null
        (if r.error = 0 then none else some (.framework r.error.toNat))⟩
  parses := fun _ _ => true

theorem Superclass.reference_findsRequests : Superclass.reference.FindsRequests where
  findAndRemove := fun _ _ => rfl

theorem Superclass.reference_completesRequests : Superclass.reference.CompletesRequests where
  toFindsRequests := Superclass.reference_findsRequests
  removes := fun _ _ => rfl
  sends := fun _ _ => map_fst_replyTo _ _ _

theorem Superclass.reference_reportsErrors : Superclass.reference.ReportsErrors where
  toFindsRequests := Superclass.reference_findsRequests
  error := by
    intro l r herror d hd
    rw [exception_of_mem_replyTo hd, if_neg herror]
    exact Option.some_ne_none _
  success := by
    intro l r rr herror hget _ message hmessage
    refine ⟨.null, ?_⟩
    simp [reference, hget, Option.mem_def.mp hmessage, herror]

/-! ## The methods -/

/-- `fixupPSBearerDataRegistration(p)`. -/
def fixupPSBearerDataRegistration (S : Superclass β) (p : β) :
    Except Throwable ResponseObject := do
  let some response ← S.readStringArray p | throw .nullPointerException
  match response[3]? with
  | some (some technology) =>
      let some value := parseInt technology | throw .numberFormatException
      if 128 ≤ value then
        -- extended values >= RIL_RADIO_TECHNOLOGY_MTK (128) == HSPAP (15)
        return .strings (response.set 3 (some "15".toList))
      else return .strings response
  | _ => return .strings response

namespace MediaTekRIL

/-- `fetchCidFromDataCall(p)`. -/
def fetchCidFromDataCall (S : Superclass β) (s : MediaTekRIL) (p : β) :
    Except Throwable ResponseObject × MediaTekRIL :=
  match S.responseSetupDataCall p with
  | .error t => (.error t, s)
  | .ok ret =>
      (.ok (.dataCall ret),
        if 0 ≤ ret.cid then { s with dataCallCids := storeCid s.dataCallCids ret.cid } else s)

/-- `refreshEmergencyList()`. -/
def refreshEmergencyList (P : Platform) (s : MediaTekRIL) :
    Except Throwable Unit × MediaTekRIL :=
  if s.mEccListAssigned then
    let (res, props) :=
      updateEmergencyNumbersProperty P s.mEccList.mCustomizedEccList s.properties
    (res, { s with properties := props })
  else (.ok (), s)

/-- Send a request's message if it has one. -/
def deliverTo (s : MediaTekRIL) (mResult : Option Message) (ret : ResponseObject)
    (thr : Option Throwable) : MediaTekRIL :=
  match mResult with
  | some message => s.deliver message ret thr
  | none => s

@[simp] theorem mRequestList_deliverTo (s : MediaTekRIL) (mResult : Option Message)
    (ret : ResponseObject) (thr : Option Throwable) :
    (s.deliverTo mResult ret thr).mRequestList = s.mRequestList := by
  cases mResult <;> rfl

@[simp] theorem delivered_deliverTo (s : MediaTekRIL) (mResult : Option Message)
    (ret : ResponseObject) (thr : Option Throwable) :
    (s.deliverTo mResult ret thr).delivered = s.delivered ++ replyTo mResult ret thr := by
  cases mResult <;> simp [deliverTo, deliver]

end MediaTekRIL

/-- The request types the pre-pass keeps for this class. -/
def RequestCode.handledLocally : RequestCode → Bool
  | .emergencyDial | .setEccServiceCategory | .dataRegistrationState | .setupDataCall
  | .allowData => true
  | _ => false

/-- The reply that refreshes the lists is not one of them. -/
theorem RequestCode.ne_getSimStatus_of_handledLocally {code : RequestCode}
    (h : code.handledLocally = true) : code ≠ .getSimStatus := by
  rintro rfl
  cases h

/-- `error == 0 || p.dataAvail() > 0`. -/
def Active (S : Superclass β) (r : SolicitedReply β) : Prop :=
  r.error = 0 ∨ 0 < S.dataAvail r.payload

instance decidableActive (S : Superclass β) (r : SolicitedReply β) : Decidable (Active S r) :=
  inferInstanceAs (Decidable (_ ∨ _))

/-- Where the pre-pass sends a reply. -/
inductive PrePass where
  | forward
  | handle
  | failed (tr : RILRequest) (thr : Throwable)

/-- The pre-processing of a reply, before its request is removed, with the refresh it may
start. -/
def prePassWith (S : Superclass β) (refresh : MediaTekRIL → Except Throwable Unit × MediaTekRIL)
    (s : MediaTekRIL) (r : SolicitedReply β) : PrePass × MediaTekRIL :=
  match s.mRequestList.get r.serial with
  | none => (.forward, s)
  | some tr =>
      if tr.mSerial = r.serial ∧ Active S r then
        if tr.mRequest.handledLocally then (.handle, s)
        else if tr.mRequest = .getSimStatus then
          match refresh s with
          | (.error thr, s) => (.failed tr thr, s)
          | (.ok (), s) => (.forward, s)
        else (.forward, s)
      else (.forward, s)

/-- The pre-processing of a reply. -/
def prePass (S : Superclass β) (P : Platform) (s : MediaTekRIL) (r : SolicitedReply β) :
    PrePass × MediaTekRIL :=
  prePassWith S (MediaTekRIL.refreshEmergencyList P) s r

/-- The second `switch`: the parsers of this class. -/
def localResponse (S : Superclass β) (s : MediaTekRIL) (request : RequestCode) (p : β) :
    Except Throwable ResponseObject × MediaTekRIL :=
  match request with
  | .emergencyDial => (S.responseVoid p, s)
  | .setEccServiceCategory => (S.responseVoid p, s)
  | .dataRegistrationState => (fixupPSBearerDataRegistration S p, s)
  | .setupDataCall => s.fetchCidFromDataCall S p
  | .allowData =>
      match S.responseVoid p with
      | .error t => (.error t, s)
      | .ok ret =>
          (.ok ret, { s with voiceNetworkStateNotified := s.voiceNetworkStateNotified + 1 })
  | _ => (.error .runtimeException, s)

/-- `super.processSolicited(p, type)` on the state of this object. -/
def forward (S : Superclass β) (s : MediaTekRIL) (r : SolicitedReply β) :
    Except Throwable (Option RILRequest) × MediaTekRIL :=
  let sup := S.processSolicited s.mRequestList r
  (.ok sup.returned,
    { s with mRequestList := sup.mRequestList, delivered := s.delivered ++ sup.sent })

/-- What follows the pre-pass for a reply that was kept. -/
def handle (S : Superclass β) (s : MediaTekRIL) (r : SolicitedReply β) :
    Except Throwable (Option RILRequest) × MediaTekRIL :=
  match S.findAndRemoveRequestFromList s.mRequestList r.serial with
  | (none, list) => (.ok none, { s with mRequestList := list })
  | (some rr, list) =>
      let s := { s with mRequestList := list }
      let (response, s) :=
        if Active S r then localResponse S s rr.mRequest r.payload else (.ok .null, s)
      match response with
      | .error t => (.error t, s)
      | .ok ret => (.ok (some rr), s.deliverTo rr.mResult ret none)

/-- What follows the pre-pass. -/
def processBehind (S : Superclass β) (r : SolicitedReply β) :
    PrePass × MediaTekRIL → Except Throwable (Option RILRequest) × MediaTekRIL
  | (.failed tr thr, s) => (.ok (some tr), s.deliverTo tr.mResult .null (some thr))
  | (.forward, s) => forward S s r
  | (.handle, s) => handle S s r

/-- `processSolicited(p, type)`. -/
def processSolicited (S : Superclass β) (P : Platform) (s : MediaTekRIL)
    (r : SolicitedReply β) : Except Throwable (Option RILRequest) × MediaTekRIL :=
  processBehind S r (prePass S P s r)

/-! ## What the helpers do -/

/-- Whether the parser for this request, of this class or of the superclass,
accepts the payload. -/
def PayloadParses (S : Superclass β) (request : RequestCode) (p : β) : Prop :=
  match request with
  | .emergencyDial | .setEccServiceCategory | .allowData => (S.responseVoid p).isOk
  | .dataRegistrationState => (fixupPSBearerDataRegistration S p).isOk
  | .setupDataCall => (S.responseSetupDataCall p).isOk
  | request => S.parses request p

/-- A property write of the refresh is rejected: the first of the two values, or
the second. -/
def RefreshRejected (P : Platform) (s : MediaTekRIL) : Prop :=
  let written := fun key =>
    join ',' (refreshedList s.mEccList.mCustomizedEccList (s.properties key))
  s.mEccListAssigned = true ∧
    (P.acceptsValue .rilEcclist (written .rilEcclist) = false ∨
      P.acceptsValue .rilEcclist1 (written .rilEcclist1) = false)

theorem mRequestList_refreshEmergencyList (P : Platform) (s : MediaTekRIL) :
    (s.refreshEmergencyList P).2.mRequestList = s.mRequestList := by
  unfold MediaTekRIL.refreshEmergencyList
  split <;> rfl

theorem delivered_refreshEmergencyList (P : Platform) (s : MediaTekRIL) :
    (s.refreshEmergencyList P).2.delivered = s.delivered := by
  unfold MediaTekRIL.refreshEmergencyList
  split <;> rfl

/-- The refresh throws exactly if a write is rejected. -/
theorem refreshEmergencyList_ok_iff (P : Platform) (s : MediaTekRIL) :
    (s.refreshEmergencyList P).1 = .ok () ↔ ¬ RefreshRejected P s := by
  unfold MediaTekRIL.refreshEmergencyList RefreshRejected
  split
  · rename_i hassigned
    have hother : PropKey.rilEcclist1 ≠ .rilEcclist := by decide
    simp only [updateEmergencyNumbersProperty, refreshSlot, Properties.set, hassigned, true_and,
      not_or, Bool.not_eq_false]
    by_cases hfirst : P.acceptsValue .rilEcclist (join ',' (refreshedList
        s.mEccList.mCustomizedEccList (s.properties .rilEcclist))) = true
    · simp only [hfirst, if_true, Function.update_of_ne hother, true_and]
      split <;> simp_all
    · simp [hfirst]
  · rename_i hunassigned
    simp [hunassigned]

/-- The parsers of this class change neither the pending requests nor the
messages, and return a value exactly if the payload parses. -/
theorem localResponse_spec (S : Superclass β) (s : MediaTekRIL) {request : RequestCode}
    (hlocal : request.handledLocally = true) (p : β) :
    (localResponse S s request p).2.mRequestList = s.mRequestList ∧
      (localResponse S s request p).2.delivered = s.delivered ∧
      ((localResponse S s request p).1.isOk = true ↔ PayloadParses S request p) := by
  cases request with
  | emergencyDial | setEccServiceCategory | dataRegistrationState =>
      exact ⟨rfl, rfl, Iff.rfl⟩
  | setupDataCall =>
      simp only [localResponse, MediaTekRIL.fetchCidFromDataCall, PayloadParses]
      cases S.responseSetupDataCall p with
      | error t => exact ⟨rfl, rfl, Iff.rfl⟩
      | ok ret => refine ⟨?_, ?_, Iff.rfl⟩ <;> dsimp only <;> split <;> rfl
  | allowData =>
      simp only [localResponse, PayloadParses]
      cases S.responseVoid p <;> exact ⟨rfl, rfl, Iff.rfl⟩
  | _ => cases hlocal

/-! ## The four routes -/

/-- What a reply leaves pending and which messages it sends. -/
structure Effect (s s' : MediaTekRIL) (list : RequestList)
    (sent : List (Message × AsyncResult)) : Prop where
  mRequestList : s'.mRequestList = list
  delivered : s'.delivered = s.delivered ++ sent

/-- The route a reply to the pending request `rr` takes, with its effect. -/
inductive Route (S : Superclass β) (P : Platform) (s : MediaTekRIL) (r : SolicitedReply β)
    (rr : RILRequest) (s' : MediaTekRIL) : Prop where
  | forwarded
      (hnotLocal : Active S r → rr.mRequest.handledLocally = false)
      (hnotRejected : Active S r → rr.mRequest = .getSimStatus → ¬ RefreshRejected P s)
      (heffect : Effect s s' (S.processSolicited s.mRequestList r).mRequestList
        (S.processSolicited s.mRequestList r).sent)
  | rejected (thr : Throwable) (hactive : Active S r) (hsim : rr.mRequest = .getSimStatus)
      (hrejected : RefreshRejected P s)
      (heffect : Effect s s' s.mRequestList (replyTo rr.mResult .null (some thr)))
  | handled (ret : ResponseObject) (hactive : Active S r)
      (hlocal : rr.mRequest.handledLocally = true)
      (hparses : PayloadParses S rr.mRequest r.payload)
      (heffect : Effect s s' (s.mRequestList.remove r.serial) (replyTo rr.mResult ret none))
  | unparsed (hactive : Active S r) (hlocal : rr.mRequest.handledLocally = true)
      (hthrows : ¬ PayloadParses S rr.mRequest r.payload)
      (heffect : Effect s s' (s.mRequestList.remove r.serial) [])

/-- A reply to nothing pending is forwarded. -/
theorem processSolicited_of_not_pending (S : Superclass β) (P : Platform) {s : MediaTekRIL}
    {r : SolicitedReply β} (h : s.mRequestList.get r.serial = none) :
    processSolicited S P s r = forward S s r := by
  simp only [processSolicited, processBehind, prePass, prePassWith, h]

/-- The effect of what follows the pre-pass for a reply that was kept. -/
theorem route_of_handle {S : Superclass β} (hS : S.FindsRequests) (P : Platform)
    {s : MediaTekRIL} {r : SolicitedReply β} {rr : RILRequest}
    (hget : s.mRequestList.get r.serial = some rr) (hactive : Active S r)
    (hlocal : rr.mRequest.handledLocally = true) :
    Route S P s r rr (handle S s r).2 := by
  have hspec := localResponse_spec S
    { s with mRequestList := s.mRequestList.remove r.serial } hlocal r.payload
  simp only [handle, hS.findAndRemove, hget, if_pos hactive]
  generalize localResponse S { s with mRequestList := s.mRequestList.remove r.serial }
    rr.mRequest r.payload = response at hspec ⊢
  obtain ⟨res, s'⟩ := response
  obtain ⟨hlist, hsent, hparses⟩ := hspec
  cases res with
  | error t =>
      refine .unparsed hactive hlocal ?_ ⟨hlist, by simpa using hsent⟩
      intro hp
      exact absurd (hparses.mpr hp) Bool.false_ne_true
  | ok ret =>
      refine .handled ret hactive hlocal (hparses.mp rfl) ⟨?_, ?_⟩
      · simpa using hlist
      · simpa using hsent

/-- The effect of a reply to `GET_SIM_STATUS` that starts a refresh. -/
theorem route_of_refresh (S : Superclass β) (P : Platform) {s : MediaTekRIL}
    {r : SolicitedReply β} {rr : RILRequest} (hget : s.mRequestList.get r.serial = some rr)
    (hactive : Active S r) (hsim : rr.mRequest = .getSimStatus) :
    Route S P s r rr (processSolicited S P s r).2 := by
  have hserial : rr.mSerial = r.serial := s.mRequestList.serial_eq _ _ hget
  have hlocal : RequestCode.getSimStatus.handledLocally = false := rfl
  have hlist := mRequestList_refreshEmergencyList P s
  have hsent := delivered_refreshEmergencyList P s
  have hok := refreshEmergencyList_ok_iff P s
  cases hrefresh : s.refreshEmergencyList P with
  | mk res s' =>
      rw [hrefresh] at hlist hsent hok
      dsimp only at hlist hsent hok
      cases res with
      | ok u =>
          have heq : processSolicited S P s r = forward S s' r := by
            simp [processSolicited, processBehind, prePass, prePassWith, hget, hserial, hactive,
              hlocal, hsim, hrefresh]
          rw [heq]
          refine .forwarded (fun _ => hsim ▸ hlocal) (fun _ _ => hok.mp rfl) ⟨?_, ?_⟩
          · simp [forward, hlist]
          · simp [forward, hlist, hsent]
      | error thr =>
          have heq : (processSolicited S P s r).2 = s'.deliverTo rr.mResult .null (some thr) := by
            simp [processSolicited, processBehind, prePass, prePassWith, hget, hserial, hactive,
              hlocal, hsim, hrefresh]
          have hrejected : RefreshRejected P s := by
            by_contra hnot
            simpa using hok.mpr hnot
          rw [heq]
          refine .rejected thr hactive hsim hrejected ⟨?_, ?_⟩
          · simpa using hlist
          · simpa using hsent

/-- Every reply to a pending request takes one of the four routes. -/
theorem processSolicited_route {S : Superclass β} (hS : S.FindsRequests) (P : Platform)
    {s : MediaTekRIL} {r : SolicitedReply β} {rr : RILRequest}
    (hget : s.mRequestList.get r.serial = some rr) :
    Route S P s r rr (processSolicited S P s r).2 := by
  have hserial : rr.mSerial = r.serial := s.mRequestList.serial_eq _ _ hget
  by_cases hactive : Active S r
  · by_cases hlocal : rr.mRequest.handledLocally = true
    · have heq : processSolicited S P s r = handle S s r := by
        simp [processSolicited, processBehind, prePass, prePassWith, hget, hserial, hactive, hlocal]
      rw [heq]
      exact route_of_handle hS P hget hactive hlocal
    · by_cases hsim : rr.mRequest = .getSimStatus
      · exact route_of_refresh S P hget hactive hsim
      · have heq : processSolicited S P s r = forward S s r := by
          simp [processSolicited, processBehind, prePass, prePassWith, hget, hserial, hactive,
            hlocal, hsim]
        rw [heq]
        refine .forwarded (fun _ => ?_) (fun _ h => absurd h hsim) ⟨rfl, rfl⟩
        simpa using hlocal
  · have heq : processSolicited S P s r = forward S s r := by
      simp [processSolicited, processBehind, prePass, prePassWith, hget, hactive]
    rw [heq]
    exact .forwarded (fun h => absurd h hactive) (fun h => absurd h hactive) ⟨rfl, rfl⟩

/-! ## Every reply completes its request -/

/-- The request with this serial is no longer pending, every other one is as it
was, and the only message sent is that request's, once, if it has one. -/
structure Completes (s s' : MediaTekRIL) (serial : Int) : Prop where
  removed : s'.mRequestList = s.mRequestList.remove serial
  sent : ∃ sent, s'.delivered = s.delivered ++ sent ∧
    sent.map Prod.fst = ((s.mRequestList.get serial).bind RILRequest.mResult).toList

/-- Given the effect, a reply completes its request exactly if the effect does. -/
theorem completes_iff_of_effect {s s' : MediaTekRIL} {serial : Int} {list : RequestList}
    {sent : List (Message × AsyncResult)} (h : Effect s s' list sent) :
    Completes s s' serial ↔
      list = s.mRequestList.remove serial ∧
        sent.map Prod.fst = ((s.mRequestList.get serial).bind RILRequest.mResult).toList := by
  constructor
  · intro hc
    obtain ⟨hlist, sent', hdelivered, hmap⟩ := hc
    have hsent : sent' = sent := List.append_cancel_left (hdelivered.symm.trans h.delivered)
    exact ⟨h.mRequestList.symm.trans hlist, hsent ▸ hmap⟩
  · intro hc
    exact ⟨h.mRequestList.trans hc.1, sent, h.delivered, hc.2⟩

/-- A reply completes its request exactly once if and only if it does not start a
refresh that is rejected, and a parser of this class that throws has no message
to send. -/
theorem processSolicited_completes_iff {S : Superclass β} (hS : S.CompletesRequests)
    (P : Platform) (s : MediaTekRIL) (r : SolicitedReply β) :
    Completes s (processSolicited S P s r).2 r.serial ↔
      ∀ rr, s.mRequestList.get r.serial = some rr → Active S r →
        (rr.mRequest = .getSimStatus → ¬ RefreshRejected P s) ∧
        (rr.mRequest.handledLocally = true → rr.mResult ≠ none →
          PayloadParses S rr.mRequest r.payload) := by
  cases hget : s.mRequestList.get r.serial with
  | none =>
      refine iff_of_true ?_ (by simp)
      rw [processSolicited_of_not_pending S P hget]
      exact ⟨hS.removes _ _, _, rfl, hS.sends _ _⟩
  | some rr =>
      simp only [Option.some.injEq, forall_eq']
      cases processSolicited_route hS.toFindsRequests P hget with
      | forwarded hnotLocal hnotRejected heffect =>
          rw [completes_iff_of_effect heffect]
          refine iff_of_true ⟨hS.removes _ _, hS.sends _ _⟩ fun hactive => ⟨?_, ?_⟩
          · exact hnotRejected hactive
          · intro hlocal
            exact absurd hlocal (by simp [hnotLocal hactive])
      | rejected thr hactive hsim hrejected heffect =>
          rw [completes_iff_of_effect heffect]
          refine iff_of_false ?_ ?_
          · intro hc
            have hremoved := congrArg (fun l => l.get r.serial) hc.1
            simp [hget] at hremoved
          · intro h
            exact (h hactive).1 hsim hrejected
      | handled ret hactive hlocal hparses heffect =>
          rw [completes_iff_of_effect heffect]
          refine iff_of_true ⟨rfl, by simp [hget]⟩ fun _ => ⟨?_, fun _ _ => hparses⟩
          intro hsim
          exact absurd hsim (RequestCode.ne_getSimStatus_of_handledLocally hlocal)
      | unparsed hactive hlocal hthrows heffect =>
          rw [completes_iff_of_effect heffect]
          have hsim : rr.mRequest ≠ .getSimStatus :=
            RequestCode.ne_getSimStatus_of_handledLocally hlocal
          simp only [hget, Option.bind_some, List.map_nil, true_and, hactive, hsim, hlocal,
            hthrows, false_imp_iff, true_imp_iff]
          cases rr.mResult <;> simp

/-- A registration reply with an extended radio technology completes its request:
none of the conditions fails. -/
theorem processSolicited_completes_registration :
    let s : MediaTekRIL :=
      (MediaTekRIL.start ⟨eccTable, ∅⟩ (propertiesOfLists [] [] [])).sendNew
        .dataRegistrationState (some 7) []
    let r : SolicitedReply (List ParcelItem) :=
      ⟨0, 0, [.int 4, .string (some "1".toList), .string none, .string none,
        .string (some "139".toList)]⟩
    Completes s (processSolicited .reference .reference s r).2 0 := by
  intro s r
  apply (processSolicited_completes_iff Superclass.reference_completesRequests
    .reference s r).mpr
  intro rr hget _
  have hrr : ⟨0, .dataRegistrationState, [], some 7⟩ = rr := Option.some.inj hget
  subst hrr
  refine ⟨fun hsim => ?_, fun _ _ => ?_⟩
  · cases hsim
  · rfl

/-- A `GET_SIM_STATUS` while the SIM has filled its list: the refresh adds the
customised numbers, the property cannot hold them, and the request stays pending
although its message has been sent. -/
theorem processSolicited_rejected_refresh :
    let numbers := join ',' ((List.range 22).map fun i => integerToString (960 + i))
    let s : MediaTekRIL :=
      (MediaTekRIL.start ⟨eccTable, ∅⟩ (propertiesOfLists numbers [] [])).sendNew
        .getSimStatus (some 7) []
    let s' := (processSolicited .reference .reference s ⟨0, 0, []⟩).2
    numbers.length = 87 ∧
      s'.delivered = [(7, ⟨.null, some .illegalArgumentException⟩)] ∧
      s'.mRequestList.get 0 = some ⟨0, .getSimStatus, [], some 7⟩ ∧
      ¬ Completes s s' 0 := by
  intro numbers s s'
  have hget : s'.mRequestList.get 0 = some ⟨0, .getSimStatus, [], some 7⟩ := by rfl
  refine ⟨by rfl, by rfl, hget, ?_⟩
  intro hc
  have hremoved := congrArg (fun l => l.get 0) hc.removed
  simp [hget] at hremoved

/-! ## Errors are reported as errors -/

/-- The messages sent for a reply to `rr` agree with its error code: every one
carries an exception when the code is not 0, and when it is 0 and the payload
parses the request's message is sent without one. -/
def ReportsOutcome (S : Superclass β) (s s' : MediaTekRIL) (r : SolicitedReply β)
    (rr : RILRequest) : Prop :=
  ∃ sent, s'.delivered = s.delivered ++ sent ∧
    (r.error ≠ 0 → ∀ d ∈ sent, d.2.exception ≠ none) ∧
    (r.error = 0 → PayloadParses S rr.mRequest r.payload → ∀ message ∈ rr.mResult,
      ∃ ret, sent = [(message, ⟨ret, none⟩)])

theorem reportsOutcome_iff_of_effect {S : Superclass β} {s s' : MediaTekRIL}
    {r : SolicitedReply β} {rr : RILRequest} {list : RequestList}
    {sent : List (Message × AsyncResult)} (h : Effect s s' list sent) :
    ReportsOutcome S s s' r rr ↔
      (r.error ≠ 0 → ∀ d ∈ sent, d.2.exception ≠ none) ∧
      (r.error = 0 → PayloadParses S rr.mRequest r.payload → ∀ message ∈ rr.mResult,
        ∃ ret, sent = [(message, ⟨ret, none⟩)]) := by
  constructor
  · intro hr
    obtain ⟨sent', hdelivered, hreports⟩ := hr
    have hsent : sent' = sent := List.append_cancel_left (hdelivered.symm.trans h.delivered)
    exact hsent ▸ hreports
  · intro hr
    exact ⟨sent, h.delivered, hr⟩

/-- Requests this class does not handle are parsed by the superclass. -/
theorem payloadParses_of_not_local {S : Superclass β} {request : RequestCode} {p : β}
    (h : request.handledLocally = false) : PayloadParses S request p ↔ S.parses request p := by
  cases request <;> first | exact Iff.rfl | cases h

/-- The messages of a reply agree with its error code if and only if the request
has no message, or neither an error reply is parsed by this class nor a refresh is
rejected during a reply that reports success. -/
theorem processSolicited_reports_iff {S : Superclass β} (hS : S.ReportsErrors)
    (P : Platform) (s : MediaTekRIL) (r : SolicitedReply β) {rr : RILRequest}
    (hget : s.mRequestList.get r.serial = some rr) :
    ReportsOutcome S s (processSolicited S P s r).2 r rr ↔
      rr.mResult = none ∨
        ¬ (r.error ≠ 0 ∧ 0 < S.dataAvail r.payload ∧ rr.mRequest.handledLocally = true ∧
            PayloadParses S rr.mRequest r.payload) ∧
        ¬ (r.error = 0 ∧ rr.mRequest = .getSimStatus ∧ RefreshRejected P s ∧
            PayloadParses S rr.mRequest r.payload) := by
  cases processSolicited_route hS.toFindsRequests P hget with
  | forwarded hnotLocal hnotRejected heffect =>
      rw [reportsOutcome_iff_of_effect heffect]
      refine iff_of_true ⟨hS.error _ r, ?_⟩ (.inr ⟨?_, ?_⟩)
      · intro herror hparses
        rw [payloadParses_of_not_local (hnotLocal (.inl herror))] at hparses
        exact hS.success _ r rr herror hget hparses
      · intro h
        have hlocal := hnotLocal (.inr h.2.1)
        simp [h.2.2.1] at hlocal
      · intro h
        exact hnotRejected (.inl h.1) h.2.1 h.2.2.1
  | rejected thr hactive hsim hrejected heffect =>
      have hlocal : RequestCode.getSimStatus.handledLocally = false := rfl
      rw [reportsOutcome_iff_of_effect heffect]
      cases hresult : rr.mResult with
      | none => simp
      | some message =>
          simp [hlocal, hsim, hrejected]
  | handled ret hactive hlocal hparses heffect =>
      have hsim : rr.mRequest ≠ .getSimStatus :=
        RequestCode.ne_getSimStatus_of_handledLocally hlocal
      rw [reportsOutcome_iff_of_effect heffect]
      cases hresult : rr.mResult with
      | none => simp
      | some message =>
          -- What is left is whether the error code is 0 or bytes remain.
          simp only [Active] at hactive
          simp [hlocal, hparses, hsim]
          omega
  | unparsed hactive hlocal hthrows heffect =>
      rw [reportsOutcome_iff_of_effect heffect]
      simp [hthrows]

/-- An error reply without a payload goes to the superclass, which reports it. -/
theorem processSolicited_reports_empty_error :
    let s : MediaTekRIL :=
      (MediaTekRIL.start ⟨eccTable, ∅⟩ (propertiesOfLists [] [] [])).sendNew
        .emergencyDial (some 7) []
    let r : SolicitedReply (List ParcelItem) := ⟨0, 2, []⟩
    ReportsOutcome .reference s (processSolicited .reference .reference s r).2 r
      ⟨0, .emergencyDial, [], some 7⟩ := by
  intro s r
  apply (processSolicited_reports_iff Superclass.reference_reportsErrors .reference s r
    rfl).mpr
  refine .inr ⟨?_, ?_⟩
  · intro h
    exact absurd h.2.1 (by decide)
  · intro h
    exact absurd h.1 (by decide)

/-- The modem refuses an emergency call and adds a payload: the caller's message is
sent without an exception. -/
theorem processSolicited_error_as_success :
    let s : MediaTekRIL :=
      (MediaTekRIL.start ⟨eccTable, ∅⟩ (propertiesOfLists [] [] [])).sendNew
        .emergencyDial (some 7) []
    let r : SolicitedReply (List ParcelItem) := ⟨0, 2, [.int 0]⟩
    let s' := (processSolicited .reference .reference s r).2
    s.mRequestList.get 0 = some ⟨0, .emergencyDial, [], some 7⟩ ∧
      s'.delivered = [(7, ⟨.null, none⟩)] ∧
      ¬ ReportsOutcome .reference s s' r ⟨0, .emergencyDial, [], some 7⟩ := by
  intro s r s'
  have hdelivered : s'.delivered = [(7, ⟨.null, none⟩)] := by rfl
  refine ⟨by rfl, hdelivered, ?_⟩
  intro hr
  obtain ⟨sent, hsent, herror, -⟩ := hr
  have hall : sent = [(7, ⟨.null, none⟩)] := hsent.symm.trans hdelivered
  exact herror (by decide) (7, ⟨.null, none⟩) (by simp [hall]) rfl

end MediatekCommon.Ril
