/-
  Ril/Events.lean --- everything that happens to a `MediaTekRIL`, as one step function.

  Calls of its methods, replies, unsolicited messages, and what others do to the state it
  reads.  What each of them can do is said once here, and the invariants of whole runs are
  read off it:

      CallCases          `dial` and `setRadioPower`
      IndicationCases    an unsolicited message this class handles
      ReplyFrame         what a reply leaves alone

  The superclass is a parameter, as in `Ril/Solicited.lean` and `Ril/Unsolicited.lean`: so
  are what becomes of a request that is sent, the methods this class passes calls on to,
  those it does not override, and what else goes on in the superclass meanwhile.
-/
import MediatekCommon.Ril.DataCall
import MediatekCommon.Ril.Dial
import MediatekCommon.Ril.RadioPower
import MediatekCommon.Ril.Solicited
import MediatekCommon.Ril.Unsolicited

set_option autoImplicit false

namespace MediatekCommon.Ril

open MediatekCommon.Foundation

variable {β γ : Type}

/-! ## The superclass methods -/

/-- The message that goes along with a call of the superclass. -/
def Outgoing.result? : Outgoing → Option Message
  | .request _ => none
  | .superDial _ _ _ result => result
  | .superSetRadioPower _ result => result
  | .superDeactivateDataCall _ _ result => result

/-- Something that goes on in the superclass alone: a method that is not overridden is
called, or it gives pending requests up because the connection is lost. -/
structure SuperCall where
  method : JavaString
  arguments : List ParcelItem
  result : Option Message
  deriving DecidableEq, Repr

/-- The framework around a `MediaTekRIL`, for replies with payloads of type `β` and
unsolicited messages of type `γ`. -/
structure Framework (β γ : Type) where
  superclass : Superclass β
  receiver : Receiver γ
  platform : Platform
  keySet : KeySet
  /-- What it makes of what it is handed: it may give up a request that was sent, and carries
  out a call of a method that this class overrides. -/
  carryOut : MediaTekRIL → Outgoing → MediaTekRIL
  superMethod : MediaTekRIL → SuperCall → MediaTekRIL

/-- The framework to run the model on: every request that was sent stays pending, and every
method of the superclass sends one. -/
def Framework.reference : Framework (List ParcelItem) (List ParcelItem) where
  superclass := .reference
  receiver := .reference
  platform := .reference
  keySet := .reference
  carryOut s out :=
    match out with
    | .request _ => s
    | .superDial .. => s.sendNew (.other 10) out.result? []
    | .superSetRadioPower .. => s.sendNew (.other 23) out.result? []
    | _ => s.sendNew (.other 41) out.result? []
  superMethod s call :=
    if call.method = "getIccCardStatus".toList then s.sendNew .getSimStatus call.result []
    else s.sendNew (.other 0) call.result call.arguments

namespace MediaTekRIL

/-- What a method leads to, together with what the superclass makes of what it was handed. -/
def withSuper (F : Framework β γ) (s s' : MediaTekRIL) : MediaTekRIL :=
  (s'.outgoing.drop s.outgoing.length).foldl F.carryOut s'

end MediaTekRIL

/-! ## Runs -/

/-- What happens to a `MediaTekRIL`. -/
inductive RilEvent (β γ : Type) where
  | dial (address : Option JavaString) (clirMode : Int) (uusInfo : Option UUSInfo)
      (result : Option Message)
  | setupDataCall (radioTechnology profile : Int) (apn user password : Option JavaString)
      (authType : Int) (protocol : Option JavaString) (result : Option Message)
  | deactivateDataCall (cid reason : Int) (result : Option Message)
  | setRadioPower (on : Bool) (result : Option Message)
  | setInitialAttachApn (apn protocol : Option JavaString) (authType : Int)
      (username password : Option JavaString) (result : Option Message)
  | superMethod (call : SuperCall)
  | solicited (r : SolicitedReply β)
  | unsolicited (p : Parcel γ) (type : Int)
  /-- A system property is set outside this class. -/
  | property (key : PropKey) (value : JavaString)
  /-- The user switches airplane mode. -/
  | airplaneMode (value : Option Int)

/-- A method of this class on the object with its registrants. -/
def ReceivingRIL.withRIL (s : ReceivingRIL) (ril : MediaTekRIL) : ReceivingRIL :=
  { s with toMediaTekRIL := ril }

/-- What a method of the object with its registrants leads to. -/
def ReceivingRIL.received (F : Framework β γ) (s s' : ReceivingRIL) : ReceivingRIL :=
  s'.withRIL (.withSuper F s.toMediaTekRIL s'.toMediaTekRIL)

/-- One event. -/
def rilStep (F : Framework β γ) (s : ReceivingRIL) : RilEvent β γ → ReceivingRIL
  | .dial address clirMode uusInfo result =>
      s.withRIL <| .withSuper F s.toMediaTekRIL
        (dial F.platform F.keySet s.toMediaTekRIL address clirMode uusInfo result).2
  | .setupDataCall radioTechnology profile apn user password authType protocol result =>
      s.withRIL <| .withSuper F s.toMediaTekRIL <|
        s.setupDataCall radioTechnology profile apn user password authType protocol result
  | .deactivateDataCall cid reason result =>
      s.withRIL <| .withSuper F s.toMediaTekRIL (s.deactivateDataCall cid reason result)
  | .setRadioPower on result =>
      s.withRIL <| .withSuper F s.toMediaTekRIL (s.setRadioPower F.platform on result).2
  -- the method does not use its `result`
  | .setInitialAttachApn apn protocol authType username password _ =>
      s.received F (s.setInitialAttachApn F.receiver apn protocol authType username password).2
  | .superMethod call => s.withRIL <| F.superMethod s.toMediaTekRIL call
  | .solicited r =>
      s.withRIL (processSolicited F.superclass F.platform s.toMediaTekRIL r).2
  | .unsolicited p type =>
      match UnsolicitedCode.ofInt (readInt F.receiver p).1 with
      | some _ => s.received F (processUnsolicited F.receiver s p type).2
      -- the superclass processes it
      | none => (processUnsolicited F.receiver s p type).2
  | .property key value =>
      s.withRIL { s.toMediaTekRIL with properties := Function.update s.properties key value }
  | .airplaneMode value => s.withRIL { s.toMediaTekRIL with airplaneModeOn := value }

/-- The object after its constructor. -/
def ReceivingRIL.start (L : MtkEccList) (props : Properties)
    (mUSSDRegistrant : Option (List (List (Option JavaString)))) : ReceivingRIL :=
  { MediaTekRIL.start L props with callStateNotified := 0, mUSSDRegistrant := mUSSDRegistrant }

/-! ## What a call can do -/

/-- The SIM lists and the customised one are the same. -/
structure SameLists (s s' : MediaTekRIL) : Prop where
  properties : ∀ key, IsSimKey key → s'.properties key = s.properties key
  custom : s'.mEccList.mCustomizedEccList = s.mEccList.mCustomizedEccList
  assigned : s'.mEccListAssigned = s.mEccListAssigned

theorem SameLists.refl (s : MediaTekRIL) : SameLists s s := ⟨fun _ _ => rfl, rfl, rfl⟩

theorem SameLists.trans {s s' s'' : MediaTekRIL} (h : SameLists s s') (h' : SameLists s' s'') :
    SameLists s s'' where
  properties key hkey := (h'.properties key hkey).trans (h.properties key hkey)
  custom := h'.custom.trans h.custom
  assigned := h'.assigned.trans h.assigned

theorem sameLists_sendNew (s : MediaTekRIL) (request : RequestCode) (result : Option Message)
    (parcel : List ParcelItem) : SameLists s (s.sendNew request result parcel) :=
  ⟨fun _ _ => rfl, rfl, rfl⟩

/-- A method has sent nothing yet and left the lists alone. -/
structure Prepares (s s' : MediaTekRIL) : Prop where
  mRequestList : s'.mRequestList = s.mRequestList
  nextSerial : s'.nextSerial = s.nextSerial
  delivered : s'.delivered = s.delivered
  outgoing : s'.outgoing = s.outgoing
  lists : SameLists s s'

/-- `RIL_REQUEST_RESUME_REGISTRATION` and `RIL_REQUEST_SET_CALL_INDICATION`, which are sent
for a message of the modem. -/
def RequestCode.answersModem (request : RequestCode) : Bool :=
  request = .other 2065 ∨ request = .other 2086

/-- What a call that is given a message can do: throw before it sends anything, send a
request with the message, possibly behind one without, or pass it to the superclass. -/
inductive CallCases (s : MediaTekRIL) (result : Option Message) :
    Except Throwable Unit × MediaTekRIL → Prop
  | throws (t : Throwable) (s' : MediaTekRIL) (h : Prepares s s') :
      CallCases s result (.error t, s')
  | sends (s' : MediaTekRIL) (h : Prepares s s') (request : RequestCode)
      (parcel : List ParcelItem) (hanswer : request.answersModem = false) :
      CallCases s result (.ok (), s'.sendNew request result parcel)
  | sendsTwo (s' : MediaTekRIL) (h : Prepares s s') (request request' : RequestCode)
      (parcel parcel' : List ParcelItem) (hanswer : request.answersModem = false)
      (hanswer' : request'.answersModem = false) :
      CallCases s result
        (.ok (), (s'.sendNew request none parcel).sendNew request' result parcel')
  | superclass (s' : MediaTekRIL) (h : Prepares s s') (out : Outgoing)
      (hresult : out.result? = result) (hnew : out.request? = none) :
      CallCases s result (.ok (), s'.handOn out)

theorem dial_callCases (P : Platform) (K : KeySet) (s : MediaTekRIL)
    (address : Option JavaString) (clirMode : Int) (uusInfo : Option UUSInfo)
    (result : Option Message) :
    CallCases s result (dial P K s address clirMode uusInfo result) := by
  have hcustom := isEmergencyNumberExt_custom P K s.properties s.mEccList address
  unfold dial
  generalize isEmergencyNumberExt P K s.properties s.mEccList address = classified at hcustom ⊢
  obtain ⟨res, L⟩ := classified
  have hlisted : Prepares s { s with mEccList := L } :=
    ⟨rfl, rfl, rfl, rfl, fun _ _ => rfl, hcustom, rfl⟩
  cases res with
  | error t => exact .throws t _ hlisted
  | ok emergency =>
      cases emergency with
      | false => exact .superclass _ hlisted (.superDial address clirMode uusInfo result) rfl rfl
      | true =>
          dsimp only
          cases getServiceCategoryFromEcc K L address with
          | error t => exact .throws t _ hlisted
          | ok serviceCategory => exact .sendsTwo _ hlisted _ _ _ _ rfl rfl

theorem Properties.set_of_ne (P : Platform) (props : Properties) {key key' : PropKey}
    (h : key' ≠ key) (value : JavaString) : (props.set P key value).2 key' = props key' := by
  unfold Properties.set
  split
  · exact Function.update_of_ne h _ _
  · rfl

/-- A property that is not a SIM list is set, or not. -/
theorem setProperty_prepares (P : Platform) (s : MediaTekRIL) {key : PropKey}
    (hkey : ¬ IsSimKey key) (value : JavaString) :
    ∃ res s', s.setProperty P key value = (res, s') ∧ Prepares s s' := by
  refine ⟨(s.setProperty P key value).1, (s.setProperty P key value).2, rfl, rfl, rfl, rfl, rfl,
    fun key' hkey' => Properties.set_of_ne P s.properties ?_ value, rfl, rfl⟩
  rintro rfl
  exact hkey hkey'

theorem Prepares.trans {s s' s'' : MediaTekRIL} (h : Prepares s s') (h' : Prepares s' s'') :
    Prepares s s'' where
  mRequestList := h'.mRequestList.trans h.mRequestList
  nextSerial := h'.nextSerial.trans h.nextSerial
  delivered := h'.delivered.trans h.delivered
  outgoing := h'.outgoing.trans h.outgoing
  lists := h.lists.trans h'.lists

/-- The two branches of `setRadioPower` that send a request set a property first. -/
theorem setEboot_callCases (P : Platform) {s s' : MediaTekRIL} (h : Prepares s s')
    (value : JavaString) {request : RequestCode} (hanswer : request.answersModem = false)
    (result : Option Message) :
    CallCases s result
      (match s'.setProperty P .gsmRilEboot value with
      | (.error t, s) => (.error t, s)
      | (.ok (), s) => (.ok (), s.sendNew request result [])) := by
  have heboot : ¬ IsSimKey .gsmRilEboot := by
    rintro (h | h) <;> cases h
  obtain ⟨res, s'', heq, h'⟩ := setProperty_prepares P s' heboot value
  rw [heq]
  cases res with
  | error t => exact .throws t s'' (h.trans h')
  | ok u => exact .sends s'' (h.trans h') request [] hanswer

theorem prepares_clearCid (s : MediaTekRIL) (cid : Int) :
    Prepares s { s with dataCallCids := clearCid s.dataCallCids cid } :=
  ⟨rfl, rfl, rfl, rfl, fun _ _ => rfl, rfl, rfl⟩

theorem setupDataCall_callCases (s : MediaTekRIL) (radioTechnology profile : Int)
    (apn user password : Option JavaString) (authType : Int) (protocol : Option JavaString)
    (result : Option Message) :
    CallCases s result
      (.ok (), s.setupDataCall radioTechnology profile apn user password authType protocol
        result) :=
  .sends s ⟨rfl, rfl, rfl, rfl, .refl s⟩ _ _ rfl

/-- A call whose entry is freed is passed on. -/
theorem deactivateDataCall_callCases (s : MediaTekRIL) (cid reason : Int)
    (result : Option Message) :
    CallCases s result (.ok (), s.deactivateDataCall cid reason result) :=
  .superclass _ (prepares_clearCid s cid) (.superDeactivateDataCall cid reason result) rfl rfl

theorem setRadioPower_callCases (P : Platform) (s : MediaTekRIL) (on : Bool)
    (result : Option Message) : CallCases s result (s.setRadioPower P on result) := by
  have hflag : ¬ IsSimKey .persistRadioAirplaneModeOn := by
    rintro (h | h) <;> cases h
  unfold MediaTekRIL.setRadioPower
  dsimp only
  obtain ⟨res, s', heq, h⟩ := setProperty_prepares P s hflag (MediaTekRIL.booleanText s.isInApm)
  rw [heq]
  cases res with
  | error t => exact .throws t s' h
  | ok u =>
      dsimp only
      split
      · exact setEboot_callCases P h _ rfl result
      · split
        · exact setEboot_callCases P h _ rfl result
        · exact .superclass s' h (.superSetRadioPower on result) rfl rfl

theorem withSuper_of_outgoing (F : Framework β γ) {s s' : MediaTekRIL} {outs : List Outgoing}
    (hout : s'.outgoing = s.outgoing ++ outs) :
    MediaTekRIL.withSuper F s s' = outs.foldl F.carryOut s' := by
  rw [MediaTekRIL.withSuper, hout, List.drop_left]

/-! ## What an unsolicited message can do -/

/-- A message this class handles changes nothing, obtains a request that is not sent, or
sends one without a message; and it may notify the registrants of the network state. -/
inductive IndicationCases (s : MediaTekRIL) : MediaTekRIL → Prop
  | quiet (notified : Nat) : IndicationCases s { s with voiceNetworkStateNotified := notified }
  | obtains (request : RequestCode) (notified : Nat) :
      IndicationCases s
        { (s.obtain request none).2 with voiceNetworkStateNotified := notified }
  | sends (request : RequestCode) (parcel : List ParcelItem) (notified : Nat) :
      IndicationCases s
        { s.sendNew request none parcel with voiceNetworkStateNotified := notified }

theorem fillAndSend_cases (s : ReceivingRIL) (request : RequestCode) (ret : IndicationObject)
    (parcel : Except Throwable (List ParcelItem)) :
    IndicationCases s.toMediaTekRIL
      ((s.obtain request).2.fillAndSend (s.obtain request).1 ret parcel).2.toMediaTekRIL := by
  cases parcel with
  | error t => exact .obtains request s.voiceNetworkStateNotified
  | ok parcel => exact .sends request parcel s.voiceNetworkStateNotified

theorem setInitialAttachApn_cases (R : Receiver γ) (s : ReceivingRIL)
    (apn protocol : Option JavaString) (authType : Int) (username password : Option JavaString) :
    IndicationCases s.toMediaTekRIL
      (s.setInitialAttachApn R apn protocol authType username password).2.toMediaTekRIL :=
  fillAndSend_cases s _ _ _

theorem handleIndication_cases (R : Receiver γ) (s : ReceivingRIL) (p : Parcel γ)
    (code : UnsolicitedCode) :
    IndicationCases s.toMediaTekRIL (s.handleIndication R p code).2.toMediaTekRIL := by
  have hquiet : IndicationCases s.toMediaTekRIL s.toMediaTekRIL :=
    .quiet s.voiceNetworkStateNotified
  cases code with
  | responseRegistrationSuspended =>
      simp only [ReceivingRIL.handleIndication, ReceivingRIL.responseRegSuspended]
      cases readIntArray R p with
      | error t => exact hquiet
      | ok response => exact fillAndSend_cases s _ _ _
  | incomingCallIndication =>
      simp only [ReceivingRIL.handleIndication, ReceivingRIL.responseIncomingCallIndication]
      cases readStringArray R p with
      | error t => exact hquiet
      | ok array => exact fillAndSend_cases s _ _ _
  | setAttachApn => exact setInitialAttachApn_cases R s _ _ _ _ _
  | callInfoIndication | onUssd | responsePsNetworkStateChanged => exact hquiet

theorem notify_eq (s : ReceivingRIL) (code : UnsolicitedCode) (ret : IndicationObject) :
    ∃ notified, (s.notify code ret).2.toMediaTekRIL =
      { s.toMediaTekRIL with voiceNetworkStateNotified := notified } := by
  unfold ReceivingRIL.notify
  split
  · exact ⟨_, rfl⟩
  · exact ⟨_, rfl⟩
  · split <;> exact ⟨_, rfl⟩
  · exact ⟨_, rfl⟩
  · split
    · exact ⟨_, rfl⟩
    · dsimp only
      split <;> exact ⟨_, rfl⟩
  · exact ⟨_, rfl⟩
  · exact ⟨_, rfl⟩

theorem processLocal_cases (R : Receiver γ) (s : ReceivingRIL) (code : UnsolicitedCode)
    (p : Parcel γ) :
    IndicationCases s.toMediaTekRIL (processLocal R s code p).2.toMediaTekRIL := by
  have hhandled := handleIndication_cases R s p code
  unfold processLocal
  generalize s.handleIndication R p code = handled at hhandled ⊢
  obtain ⟨res, s'⟩ := handled
  cases res with
  | error t => exact hhandled
  | ok ret =>
      obtain ⟨notified, hnotified⟩ := notify_eq s' code ret
      dsimp only at hhandled ⊢
      rw [hnotified]
      generalize s'.toMediaTekRIL = t at hhandled ⊢
      cases hhandled with
      | quiet => exact .quiet notified
      | obtains request => exact .obtains request notified
      | sends request parcel => exact .sends request parcel notified

/-! ## What a reply leaves alone -/

/-- A reply starts a refresh. -/
def StartsRefresh (S : Superclass β) (s : MediaTekRIL) (r : SolicitedReply β) : Prop :=
  ∃ rr, s.mRequestList.get r.serial = some rr ∧ Active S r ∧ rr.mRequest = .getSimStatus

/-- No serial is handed out, nothing is sent, and the lists are the same. -/
structure ReplyFrame (s s' : MediaTekRIL) : Prop where
  nextSerial : s'.nextSerial = s.nextSerial
  outgoing : s'.outgoing = s.outgoing
  lists : SameLists s s'

theorem ReplyFrame.refl (s : MediaTekRIL) : ReplyFrame s s := ⟨rfl, rfl, .refl s⟩

theorem ReplyFrame.trans {s s' s'' : MediaTekRIL} (h : ReplyFrame s s')
    (h' : ReplyFrame s' s'') : ReplyFrame s s'' :=
  ⟨h'.nextSerial.trans h.nextSerial, h'.outgoing.trans h.outgoing, h.lists.trans h'.lists⟩

theorem replyFrame_localResponse (S : Superclass β) (s : MediaTekRIL) (request : RequestCode)
    (p : β) : ReplyFrame s (localResponse S s request p).2 := by
  cases request with
  | setupDataCall =>
      simp only [localResponse, MediaTekRIL.fetchCidFromDataCall]
      cases S.responseSetupDataCall p with
      | error t => exact .refl s
      | ok ret =>
          dsimp only
          split
          · exact ⟨rfl, rfl, fun _ _ => rfl, rfl, rfl⟩
          · exact .refl s
  | allowData =>
      simp only [localResponse]
      cases S.responseVoid p <;> exact ⟨rfl, rfl, fun _ _ => rfl, rfl, rfl⟩
  | _ => exact .refl s

theorem replyFrame_deliverTo (s : MediaTekRIL) (mResult : Option Message) (ret : ResponseObject)
    (thr : Option Throwable) : ReplyFrame s (s.deliverTo mResult ret thr) := by
  cases mResult <;> exact ⟨rfl, rfl, fun _ _ => rfl, rfl, rfl⟩

theorem replyFrame_handle (S : Superclass β) (s : MediaTekRIL) (r : SolicitedReply β) :
    ReplyFrame s (handle S s r).2 := by
  unfold handle
  generalize S.findAndRemoveRequestFromList s.mRequestList r.serial = found
  obtain ⟨rr, list⟩ := found
  have hremoved : ReplyFrame s { s with mRequestList := list } :=
    ⟨rfl, rfl, fun _ _ => rfl, rfl, rfl⟩
  cases rr with
  | none => exact hremoved
  | some rr =>
      dsimp only
      by_cases hactive : Active S r
      · have hlocal := replyFrame_localResponse S { s with mRequestList := list } rr.mRequest
          r.payload
        rw [if_pos hactive]
        generalize localResponse S { s with mRequestList := list } rr.mRequest r.payload = response
          at hlocal ⊢
        obtain ⟨res, s'⟩ := response
        cases res with
        | error t => exact hremoved.trans hlocal
        | ok ret => exact (hremoved.trans hlocal).trans (replyFrame_deliverTo s' _ _ _)
      · rw [if_neg hactive]
        exact hremoved.trans (replyFrame_deliverTo _ _ _ _)

theorem replyFrame_processBehind (S : Superclass β) (r : SolicitedReply β)
    (pre : PrePass × MediaTekRIL) : ReplyFrame pre.2 (processBehind S r pre).2 := by
  obtain ⟨route, s⟩ := pre
  cases route with
  | forward => exact ⟨rfl, rfl, fun _ _ => rfl, rfl, rfl⟩
  | handle => exact replyFrame_handle S s r
  | failed tr thr => exact replyFrame_deliverTo s _ _ _

/-- The state a reply goes on from: that behind the refresh if it starts one. -/
theorem prePassWith_state (S : Superclass β)
    (refresh : MediaTekRIL → Except Throwable Unit × MediaTekRIL) (s : MediaTekRIL)
    (r : SolicitedReply β) :
    (StartsRefresh S s r → (prePassWith S refresh s r).2 = (refresh s).2) ∧
      (¬ StartsRefresh S s r → (prePassWith S refresh s r).2 = s) := by
  unfold prePassWith
  cases hget : s.mRequestList.get r.serial with
  | none => exact ⟨fun ⟨rr, hsome, _⟩ => by simp [hget] at hsome, fun _ => rfl⟩
  | some rr =>
      have hserial : rr.mSerial = r.serial := s.mRequestList.serial_eq _ _ hget
      have hstarts : StartsRefresh S s r ↔ Active S r ∧ rr.mRequest = .getSimStatus := by
        simp [StartsRefresh, hget]
      dsimp only
      by_cases hactive : Active S r
      · rw [if_pos ⟨hserial, hactive⟩]
        by_cases hsim : rr.mRequest = .getSimStatus
        · have hlocal : rr.mRequest.handledLocally = false := by
            rw [hsim]
            rfl
          rw [if_neg (by simp [hlocal]), if_pos hsim]
          refine ⟨fun _ => ?_, fun h => absurd (hstarts.mpr ⟨hactive, hsim⟩) h⟩
          generalize refresh s = refreshed
          obtain ⟨res, s'⟩ := refreshed
          cases res <;> rfl
        · refine ⟨fun h => absurd (hstarts.mp h).2 hsim, fun _ => ?_⟩
          rw [if_neg hsim]
          split <;> rfl
      · rw [if_neg fun h => hactive h.2]
        exact ⟨fun h => absurd (hstarts.mp h).1 hactive, fun _ => rfl⟩

/-- A reply changes the lists only by the refresh it starts. -/
theorem processWith_frame (S : Superclass β)
    (refresh : MediaTekRIL → Except Throwable Unit × MediaTekRIL) (s : MediaTekRIL)
    (r : SolicitedReply β) :
    let s' := (processBehind S r (prePassWith S refresh s r)).2
    (StartsRefresh S s r → ReplyFrame (refresh s).2 s') ∧
      (¬ StartsRefresh S s r → ReplyFrame s s') := by
  intro s'
  have hpre := prePassWith_state S refresh s r
  have hrest : ReplyFrame (prePassWith S refresh s r).2 s' := replyFrame_processBehind S r _
  constructor
  · intro h
    rw [← hpre.1 h]
    exact hrest
  · intro h
    rwa [hpre.2 h] at hrest

theorem processSolicited_frame (S : Superclass β) (P : Platform) (s : MediaTekRIL)
    (r : SolicitedReply β) :
    (StartsRefresh S s r →
        ReplyFrame (s.refreshEmergencyList P).2 (processSolicited S P s r).2) ∧
      (¬ StartsRefresh S s r → ReplyFrame s (processSolicited S P s r).2) :=
  processWith_frame S (MediaTekRIL.refreshEmergencyList P) s r

end MediatekCommon.Ril
