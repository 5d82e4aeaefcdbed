/-
  Ril/Answers.lean --- what the modem is answered, over whole runs.

  Two messages of the modem call for an answer: a suspended registration waits to be
  resumed under its session, and an incoming call to be indicated under its number.  Each
  of them that can be read is answered once, with its own numbers, and nothing else sends
  such an answer: behind any run the answers sent are those to the messages received, in
  their order (`answers_run`), whatever calls, replies and other messages came between.

  A message that cannot be read is not answered, though a request may be obtained for it.
-/
import MediatekCommon.Ril.Events

set_option autoImplicit false

namespace MediatekCommon.Ril

open MediatekCommon.Foundation

variable {β γ : Type}

/-! ## Answers -/

/-- The answers that were sent, oldest first, with what is in their parcels. -/
def MediaTekRIL.answers (s : MediaTekRIL) : List (RequestCode × List ParcelItem) :=
  (s.outgoing.filterMap Outgoing.request?).filterMap fun rr =>
    if rr.mRequest.answersModem then some (rr.mRequest, rr.mParcel) else none

/-- The answer to a message with this code, if its body can be read. -/
def answerTo (R : Receiver γ) (body : Parcel γ) :
    UnsolicitedCode → Option (RequestCode × List ParcelItem)
  | .responseRegistrationSuspended =>
      match readIntArray R body with
      | .ok (sessionId :: _) => some (.other 2065, [.int 1, .int sessionId])
      | _ => none
  | .incomingCallIndication =>
      match readStringArray R body with
      | .ok (some response) =>
          match parseIntAt response 3, parseIntAt response 0, parseIntAt response 4 with
          | .ok value3, .ok value0, .ok value4 =>
              some (.other 2086, [.int 3, .int value3, .int value0, .int value4])
          | _, _, _ => none
      | _ => none
  | _ => none

/-- The answer to an event. -/
def RilEvent.answer? (R : Receiver γ) :
    RilEvent β γ → Option (RequestCode × List ParcelItem)
  | .unsolicited p _ =>
      let (response, body) := readInt R p
      (UnsolicitedCode.ofInt response).bind (answerTo R body)
  | _ => none

/-! ## What a method answers -/

theorem answers_congr {s s' : MediaTekRIL} (h : s'.outgoing = s.outgoing) :
    s'.answers = s.answers := by
  rw [MediaTekRIL.answers, MediaTekRIL.answers, h]

theorem answers_handOn (s : MediaTekRIL) {out : Outgoing} (hnew : out.request? = none) :
    (s.handOn out).answers = s.answers := by
  simp [MediaTekRIL.answers, hnew]

/-- A request that is sent is an answer, or the answers stay as they are. -/
theorem answers_sendNew (s : MediaTekRIL) (request : RequestCode) (result : Option Message)
    (parcel : List ParcelItem) :
    (s.sendNew request result parcel).answers =
      s.answers ++ if request.answersModem then [(request, parcel)] else [] := by
  simp only [MediaTekRIL.answers, MediaTekRIL.outgoing_sendNew, List.filterMap_append]
  congr 1
  cases hanswer : request.answersModem <;> simp [Outgoing.request?, hanswer]

theorem answers_sendNew_of_not (s : MediaTekRIL) {request : RequestCode}
    (hanswer : request.answersModem = false) (result : Option Message)
    (parcel : List ParcelItem) : (s.sendNew request result parcel).answers = s.answers := by
  rw [answers_sendNew, hanswer]
  exact List.append_nil _

/-- The superclass answers none of these messages. -/
structure Framework.LeavesAnswers (F : Framework β γ) : Prop where
  carryOut : ∀ s out, (F.carryOut s out).answers = s.answers
  superMethod : ∀ s call, (F.superMethod s call).answers = s.answers
  processUnsolicited : ∀ s p type,
    (F.receiver.processUnsolicited s p type).answers = s.answers

theorem Framework.reference_leavesAnswers : Framework.reference.LeavesAnswers where
  carryOut s out := by
    cases out with
    | request rr => rfl
    | superDial | superSetRadioPower | superDeactivateDataCall =>
        exact answers_sendNew_of_not s rfl _ _
  superMethod s call := by
    unfold reference
    dsimp only
    split <;> exact answers_sendNew_of_not s rfl _ _
  processUnsolicited _ _ _ := rfl

/-- The superclass answers nothing when it takes over what it is handed. -/
theorem answers_withSuper {F : Framework β γ} (hF : F.LeavesAnswers) (s s' : MediaTekRIL) :
    (MediaTekRIL.withSuper F s s').answers = s'.answers := by
  unfold MediaTekRIL.withSuper
  generalize s'.outgoing.drop s.outgoing.length = outs
  induction outs generalizing s' with
  | nil => rfl
  | cons out outs ih => exact (ih (F.carryOut s' out)).trans (hF.carryOut s' out)

theorem CallCases.answers {s : MediaTekRIL} {result : Option Message}
    {r : Except Throwable Unit × MediaTekRIL} (h : CallCases s result r) :
    r.2.answers = s.answers := by
  cases h with
  | throws t s' h => exact answers_congr h.outgoing
  | sends s' h request parcel hanswer =>
      rw [answers_sendNew_of_not s' hanswer, answers_congr h.outgoing]
  | sendsTwo s' h request request' parcel parcel' hanswer hanswer' =>
      rw [answers_sendNew_of_not _ hanswer', answers_sendNew_of_not s' hanswer,
        answers_congr h.outgoing]
  | superclass s' h out hresult hnew => rw [answers_handOn s' hnew, answers_congr h.outgoing]

/-! ## What a message is answered -/

/-- A request that is filled and sent is an answer. -/
theorem answers_fillAndSend (s : ReceivingRIL) (request : RequestCode) (ret : IndicationObject)
    (parcel : Except Throwable (List ParcelItem)) :
    ((s.obtain request).2.fillAndSend (s.obtain request).1 ret parcel).2.answers =
      s.answers ++
        if request.answersModem then (parcel.toOption.map (request, ·)).toList else [] := by
  cases parcel with
  | error t =>
      have hsame : ((s.obtain request).2).answers = s.answers := answers_congr rfl
      simpa [ReceivingRIL.fillAndSend, Except.toOption] using hsame
  | ok parcel => exact answers_sendNew s.toMediaTekRIL request none parcel

theorem answers_handleIndication (R : Receiver γ) (s : ReceivingRIL) (body : Parcel γ)
    (code : UnsolicitedCode) :
    (s.handleIndication R body code).2.answers =
      s.answers ++ (answerTo R body code).toList := by
  have hquiet : s.answers = s.answers ++ [] := (List.append_nil _).symm
  cases code with
  | responseRegistrationSuspended =>
      simp only [ReceivingRIL.handleIndication, ReceivingRIL.responseRegSuspended, answerTo]
      cases readIntArray R body with
      | error t => exact hquiet
      | ok response =>
          dsimp only
          rw [answers_fillAndSend]
          cases response <;> rfl
  | incomingCallIndication =>
      simp only [ReceivingRIL.handleIndication, ReceivingRIL.responseIncomingCallIndication,
        answerTo]
      cases readStringArray R body with
      | error t => exact hquiet
      | ok array =>
          dsimp only
          rw [answers_fillAndSend]
          cases array with
          | none => rfl
          | some response =>
              dsimp only
              cases parseIntAt response 3 with
              | error t => rfl
              | ok value3 =>
                  cases parseIntAt response 0 with
                  | error t => rfl
                  | ok value0 => cases parseIntAt response 4 <;> rfl
  | setAttachApn => exact answers_fillAndSend s _ _ _
  | callInfoIndication | onUssd | responsePsNetworkStateChanged => exact hquiet

theorem answers_processLocal (R : Receiver γ) (s : ReceivingRIL) (code : UnsolicitedCode)
    (body : Parcel γ) :
    (processLocal R s code body).2.answers = s.answers ++ (answerTo R body code).toList := by
  have hhandled := answers_handleIndication R s body code
  unfold processLocal
  generalize s.handleIndication R body code = handled at hhandled ⊢
  obtain ⟨res, s'⟩ := handled
  cases res with
  | error t => exact hhandled
  | ok ret =>
      obtain ⟨notified, hnotified⟩ := notify_eq s' code ret
      have houtgoing : (s'.notify code ret).2.outgoing = s'.outgoing := by
        rw [hnotified]
      exact (answers_congr houtgoing).trans hhandled

/-! ## Whole runs -/

/-- A reply sends nothing. -/
theorem outgoing_processSolicited (S : Superclass β) (P : Platform) (s : MediaTekRIL)
    (r : SolicitedReply β) : (processSolicited S P s r).2.outgoing = s.outgoing := by
  obtain ⟨hrefreshed, hsame⟩ := processSolicited_frame S P s r
  by_cases hstarts : StartsRefresh S s r
  · have hrefresh : (s.refreshEmergencyList P).2.outgoing = s.outgoing := by
      unfold MediaTekRIL.refreshEmergencyList
      split <;> rfl
    exact (hrefreshed hstarts).outgoing.trans hrefresh
  · exact (hsame hstarts).outgoing

/-- An event is answered, and answered once. -/
theorem answers_rilStep {F : Framework β γ} (hF : F.LeavesAnswers) (e : RilEvent β γ)
    (s : ReceivingRIL) :
    (rilStep F s e).answers = s.answers ++ (e.answer? F.receiver).toList := by
  have hquiet : ∀ {s' : MediaTekRIL}, s'.answers = s.answers →
      s'.answers = s.answers ++ [] := fun h => h.trans (List.append_nil _).symm
  have hsuper : ∀ {s' : MediaTekRIL} {answers : List (RequestCode × List ParcelItem)},
      s'.answers = s.answers ++ answers →
        (MediaTekRIL.withSuper F s.toMediaTekRIL s').answers = s.answers ++ answers :=
    fun h => (answers_withSuper hF _ _).trans h
  cases e with
  | dial address clirMode uusInfo result =>
      exact hsuper (hquiet (dial_callCases F.platform F.keySet s.toMediaTekRIL address clirMode
        uusInfo result).answers)
  | setupDataCall =>
      exact hsuper (hquiet
        (setupDataCall_callCases s.toMediaTekRIL _ _ _ _ _ _ _ _).answers)
  | deactivateDataCall cid reason result =>
      exact hsuper (hquiet
        (deactivateDataCall_callCases s.toMediaTekRIL cid reason result).answers)
  | setRadioPower on result =>
      exact hsuper (hquiet
        (setRadioPower_callCases F.platform s.toMediaTekRIL on result).answers)
  | setInitialAttachApn => exact hsuper (answers_fillAndSend s _ _ _)
  | superMethod call => exact hquiet (hF.superMethod s.toMediaTekRIL call)
  | solicited r =>
      exact hquiet (answers_congr (outgoing_processSolicited F.superclass F.platform
        s.toMediaTekRIL r))
  | unsolicited p type =>
      simp only [rilStep, processUnsolicited, RilEvent.answer?]
      cases UnsolicitedCode.ofInt (readInt F.receiver p).1 with
      | some code => exact hsuper (answers_processLocal F.receiver s code _)
      | none => exact hquiet (hF.processUnsolicited _ _ _)
  | property | airplaneMode => exact hquiet (answers_congr rfl)

/-- Behind any run the answers sent to the modem are those to the messages received, each of
them once and in their order. -/
theorem answers_run {F : Framework β γ} (hF : F.LeavesAnswers) (s : ReceivingRIL)
    (es : List (RilEvent β γ)) :
    (run (rilStep F) s es).answers = s.answers ++ es.filterMap (RilEvent.answer? F.receiver) :=
  log_run (fun s : ReceivingRIL => s.answers) (fun e _ s => answers_rilStep hF e s) s

/-- A call comes in, one is dialled, and the registration of session 7 is suspended. -/
def indicationRun : List (RilEvent (List ParcelItem) (List ParcelItem)) :=
  [.unsolicited ⟨[.int 3042, .int 5, .string (some "1".toList), .string none, .string none,
      .string (some "0".toList), .string (some "12".toList)], 0⟩ 1,
    .dial (some "112".toList) 0 none (some 7),
    .unsolicited ⟨[.int 3024, .int 1, .int 7], 0⟩ 1]

theorem answers_run_indications :
    let s₀ := ReceivingRIL.start ⟨eccTable, ∅⟩ (propertiesOfLists [] [] []) none
    (run (rilStep .reference) s₀ indicationRun).answers =
      [(.other 2086, [.int 3, .int 0, .int 1, .int 12]), (.other 2065, [.int 1, .int 7])] := by
  intro s₀
  rw [answers_run Framework.reference_leavesAnswers s₀ indicationRun]
  decide +kernel

end MediatekCommon.Ril
