/-
  Ril/Unsolicited.lean --- `MediaTekRIL.processUnsolicited`: messages nobody asked
  for.

  Six response codes are handled by this class; every other message is handed to
  the superclass with the parcel as it came.  A handler reads the body of the
  message, and two of them answer it with a request of their own:

      registration suspended   resume registration for the first session
      incoming call            accept the indication

  The bodies are indexed and parsed as they come.  Nothing here catches what a
  short or malformed body makes them throw, and a request that was obtained by then
  is never sent.

  Two bodies are read by methods of the superclass, `responseInts` and
  `responseStrings`, and the array of a third has the length the modem announces,
  for which there may be no memory: these are fields of `Receiver`.
-/
import MediatekCommon.Ril.MediaTekRIL

set_option autoImplicit false

namespace MediatekCommon.Ril

open MediatekCommon.Foundation
open MediatekCommon.Foundation.JavaString

variable {β : Type}

/-! ## Messages -/

/-- A `Parcel` with data of type `β`. -/
structure Parcel (β : Type) where
  data : β
  dataPosition : Nat

/-- `p.setDataPosition(pos)`. -/
def Parcel.setDataPosition (p : Parcel β) (pos : Nat) : Parcel β := { p with dataPosition := pos }

/-- The unsolicited responses this class handles. -/
inductive UnsolicitedCode where
  /-- `RIL_UNSOL_RESPONSE_REGISTRATION_SUSPENDED`, 3024 -/
  | responseRegistrationSuspended
  /-- `RIL_UNSOL_INCOMING_CALL_INDICATION`, 3042 -/
  | incomingCallIndication
  /-- `RIL_UNSOL_CALL_INFO_INDICATION`, 3049 -/
  | callInfoIndication
  /-- `RIL_UNSOL_SET_ATTACH_APN`, 3073 -/
  | setAttachApn
  /-- `RIL_UNSOL_ON_USSD`, 1006 -/
  | onUssd
  /-- `RIL_UNSOL_RESPONSE_PS_NETWORK_STATE_CHANGED`, 3015 -/
  | responsePsNetworkStateChanged
  deriving DecidableEq, Repr

/-- The first `switch` of `processUnsolicited`; `none` is its default case. -/
def UnsolicitedCode.ofInt (response : Int) : Option UnsolicitedCode :=
  if response = 3024 then some .responseRegistrationSuspended
  else if response = 3042 then some .incomingCallIndication
  else if response = 3049 then some .callInfoIndication
  else if response = 3073 then some .setAttachApn
  else if response = 1006 then some .onUssd
  else if response = 3015 then some .responsePsNetworkStateChanged
  else none

/-- What a handler returns. -/
inductive IndicationObject where
  | null
  | ints (values : List Int)
  | strings (values : List (Option JavaString))
  deriving DecidableEq, Repr

/-- A `MediaTekRIL` with the registrants that unsolicited messages notify. -/
structure ReceivingRIL extends MediaTekRIL where
  /-- How often `mCallStateRegistrants` were notified. -/
  callStateNotified : Nat
  /-- What `mUSSDRegistrant` was notified of, if there is one. -/
  mUSSDRegistrant : Option (List (List (Option JavaString)))

/-- The members of `RIL`, `Parcel` and `TelephonyManager` that the messages go
through, for parcels of type `β`. -/
structure Receiver (β : Type) where
  /-- `p.readInt()` at a position: the value and the new position. -/
  readInt : β → Nat → Int × Nat
  /-- `p.readStringArray()`; the array, like each of its elements, may be null. -/
  readStringArray : β → Nat → Except Throwable (Option (List (Option JavaString)))
  /-- Whether there is memory for `new int[length]`; otherwise it throws an
  `OutOfMemoryError`. -/
  canAllocate : Nat → Bool
  /-- `responseInts(p)` of the superclass at a position; the array may be null. -/
  responseInts : β → Nat → Except Throwable (Option (List Int))
  /-- `responseStrings(p)` of the superclass at a position; the array may be null. -/
  responseStrings : β → Nat → Except Throwable (Option (List (Option JavaString)))
  /-- `mTelephonyManager.getSimOperatorNumericForPhone(mInstanceId)`, which needs both
  of these. -/
  getSimOperatorNumericForPhone : Except Throwable (Option JavaString)
  processUnsolicited : ReceivingRIL → Parcel β → Int → ReceivingRIL

/-- The integer at a place of a parcel that is the list of its items; past its end an
integer reads as 0. -/
def intAt (data : List ParcelItem) (pos : Nat) : Int :=
  match data[pos]? with
  | some (.int value) => value
  | _ => 0

/-- The string at a place of such a parcel. -/
def stringAt (data : List ParcelItem) (pos : Nat) : Option JavaString :=
  match data[pos]? with
  | some (.string value) => value
  | _ => none

/-- A length and then as many items; the array of a negative length is null. -/
def arrayAt {α : Type} (itemAt : List ParcelItem → Nat → α) (data : List ParcelItem)
    (pos : Nat) : Option (List α) :=
  if intAt data pos < 0 then none
  else some ((List.range (intAt data pos).toNat).map fun i => itemAt data (pos + 1 + i))

/-- A receiver to run the model on.  A parcel is the list of its items, and there is
memory for a million integers. -/
def Receiver.reference : Receiver (List ParcelItem) where
  readInt data pos := (intAt data pos, pos + 1)
  readStringArray data pos := .ok (arrayAt stringAt data pos)
  canAllocate length := length ≤ 1000000
  responseInts data pos :=
    match arrayAt intAt data pos with
    | none => .error .negativeArraySize
    | array => .ok array
  responseStrings data pos := .ok (arrayAt stringAt data pos)
  getSimOperatorNumericForPhone := .ok none
  processUnsolicited s _ _ := s

/-! ## Reading a body -/

/-- `p.readInt()`. -/
def readInt (F : Receiver β) (p : Parcel β) : Int × Parcel β :=
  let (value, pos) := F.readInt p.data p.dataPosition
  (value, p.setDataPosition pos)

/-- The loop that reads a given number of integers. -/
def readInts (F : Receiver β) (p : Parcel β) : Nat → List Int
  | 0 => []
  | n + 1 =>
      let (value, p) := readInt F p
      value :: readInts F p n

/-- A number of integers and then the integers, as `responseRegSuspended` reads
them into an array. -/
def readIntArray (F : Receiver β) (p : Parcel β) : Except Throwable (List Int) :=
  let (numInts, p) := readInt F p
  if numInts < 0 then .error .negativeArraySize
  else if F.canAllocate numInts.toNat then .ok (readInts F p numInts.toNat)
  else .error .outOfMemory

/-- `p.readStringArray()`. -/
def readStringArray (F : Receiver β) (p : Parcel β) :
    Except Throwable (Option (List (Option JavaString))) :=
  F.readStringArray p.data p.dataPosition

/-- `Integer.parseInt(response[i])`. -/
def parseIntAt (response : List (Option JavaString)) (i : Nat) : Except Throwable Int :=
  match response[i]? with
  | none => .error .arrayIndexOutOfBounds
  | some none => .error .numberFormatException
  | some (some text) =>
      match parseInt text with
      | none => .error .numberFormatException
      | some value => .ok value

/-! ## The handlers -/

namespace ReceivingRIL

/-- `RILRequest.obtain(request, null)`. -/
def obtain (s : ReceivingRIL) (request : RequestCode) : RILRequest × ReceivingRIL :=
  let (rr, ril) := s.toMediaTekRIL.obtain request none
  (rr, { s with toMediaTekRIL := ril })

/-- `send(rr)`. -/
def send (s : ReceivingRIL) (rr : RILRequest) : ReceivingRIL :=
  { s with toMediaTekRIL := s.toMediaTekRIL.send rr }

/-- Fill the parcel of a request that was obtained, and send it; while the parcel is
filled an exception may be thrown. -/
def fillAndSend (s : ReceivingRIL) (rr : RILRequest) (ret : IndicationObject) :
    Except Throwable (List ParcelItem) → Except Throwable IndicationObject × ReceivingRIL
  | .error t => (.error t, s)
  | .ok parcel => (.ok ret, s.send { rr with mParcel := parcel })

def responseRegSuspended (F : Receiver β) (s : ReceivingRIL) (p : Parcel β) :
    Except Throwable IndicationObject × ReceivingRIL :=
  match readIntArray F p with
  | .error t => (.error t, s)
  | .ok response =>
      -- RIL_REQUEST_RESUME_REGISTRATION
      let (rr, s) := s.obtain (.other 2065)
      s.fillAndSend rr (.ints response) <|
        match response[0]? with
        | none => .error .arrayIndexOutOfBounds
        | some sessionId => .ok [.int 1, .int sessionId]

def responseIncomingCallIndication (F : Receiver β) (s : ReceivingRIL) (p : Parcel β) :
    Except Throwable IndicationObject × ReceivingRIL :=
  match readStringArray F p with
  | .error t => (.error t, s)
  | .ok array =>
      -- RIL_REQUEST_SET_CALL_INDICATION
      let (rr, s) := s.obtain (.other 2086)
      s.fillAndSend rr (array.elim .null .strings) do
        let some response := array | throw .nullPointerException
        let value3 ← parseIntAt response 3
        let value0 ← parseIntAt response 0
        let value4 ← parseIntAt response 4
        return [.int 3, .int value3, .int value0, .int value4]

def responseCallProgress (F : Receiver β) (p : Parcel β) : Except Throwable IndicationObject := do
  let some response ← readStringArray F p | throw .nullPointerException
  match response[1]? with
  | none => return .strings response
  | some none => throw .nullPointerException
  | some (some text) =>
      -- Call termination
      if text = "129".toList then return .null else return .strings response

def setInitialAttachApn (F : Receiver β) (s : ReceivingRIL) (apn protocol : Option JavaString)
    (authType : Int) (username password : Option JavaString) :
    Except Throwable IndicationObject × ReceivingRIL :=
  -- RIL_REQUEST_SET_INITIAL_ATTACH_APN
  let (rr, s) := s.obtain (.other 111)
  s.fillAndSend rr .null do
    let operatorNumber ← F.getSimOperatorNumericForPhone
    return [.string apn, .string protocol, .int authType, .string username, .string password,
      .string operatorNumber, .int 1, .int (-1)]

/-- The stack refuses to attach to LTE unless an attach APN was set: set an empty
one. -/
def responseSetAttachApn (F : Receiver β) (s : ReceivingRIL) :
    Except Throwable IndicationObject × ReceivingRIL :=
  s.setInitialAttachApn F (some []) (some []) 0 (some []) (some [])

/-- `responseInts(p)`, which this class does not override. -/
def responseInts (F : Receiver β) (p : Parcel β) : Except Throwable IndicationObject := do
  let array ← F.responseInts p.data p.dataPosition
  return array.elim .null .ints

/-- `responseStrings(p)`, which this class does not override. -/
def responseStrings (F : Receiver β) (p : Parcel β) : Except Throwable IndicationObject := do
  let array ← F.responseStrings p.data p.dataPosition
  return array.elim .null .strings

/-- The handler of each code. -/
def handleIndication (F : Receiver β) (s : ReceivingRIL) (p : Parcel β) :
    UnsolicitedCode → Except Throwable IndicationObject × ReceivingRIL
  | .responseRegistrationSuspended => s.responseRegSuspended F p
  | .incomingCallIndication => s.responseIncomingCallIndication F p
  | .callInfoIndication => (responseCallProgress F p, s)
  | .setAttachApn => s.responseSetAttachApn F
  | .onUssd => (responseStrings F p, s)
  | .responsePsNetworkStateChanged => (responseInts F p, s)

/-- The strings the USSD registrant is notified of: at least two, with the codes that
are normal finishes replaced by 0. -/
def ussdResponse (ret : List (Option JavaString)) : Except Throwable (List (Option JavaString)) :=
  let resp :=
    match ret with
    | [] => none
    | [first] => some [first, none]
    | ret => some ret
  match resp with
  | none => .error .arrayIndexOutOfBounds
  | some resp =>
      match resp[0]? with
      | some (some text) =>
          match parseInt text with
          | none => .error .numberFormatException
          | some value =>
              -- USSD_SESSION_END and USSD_HANDLED_BY_STK count as normal finishes
              .ok (if 2 ≤ value ∧ value ≤ 5 then resp.set 0 (some "0".toList) else resp)
      | _ => .ok resp

/-- The second `switch` of `processUnsolicited`. -/
def notify (s : ReceivingRIL) : UnsolicitedCode → IndicationObject →
    Except Throwable Unit × ReceivingRIL
  | .incomingCallIndication, _ => (.ok (), { s with callStateNotified := s.callStateNotified + 1 })
  | .callInfoIndication, .null =>
      (.ok (), { s with callStateNotified := s.callStateNotified + 1 })
  | .onUssd, .strings ret =>
      match ussdResponse ret with
      | .error t => (.error t, s)
      | .ok resp =>
          (.ok (), { s with mUSSDRegistrant := s.mUSSDRegistrant.map fun seen => seen ++ [resp] })
  | .onUssd, _ => (.error .nullPointerException, s)
  | .responsePsNetworkStateChanged, .ints ret =>
      match ret[0]? with
      | none => (.error .arrayIndexOutOfBounds, s)
      | some state =>
          (.ok (), if state ≠ 4 then
            { s with voiceNetworkStateNotified := s.voiceNetworkStateNotified + 1 } else s)
  | .responsePsNetworkStateChanged, _ => (.error .nullPointerException, s)
  | _, _ => (.ok (), s)

end ReceivingRIL

/-- What becomes of a message with a code this class handles. -/
def processLocal (F : Receiver β) (s : ReceivingRIL) (code : UnsolicitedCode) (p : Parcel β) :
    Except Throwable Unit × ReceivingRIL :=
  match s.handleIndication F p code with
  | (.error t, s) => (.error t, s)
  | (.ok ret, s) => s.notify code ret

/-- `processUnsolicited(p, type)`. -/
def processUnsolicited (F : Receiver β) (s : ReceivingRIL) (p : Parcel β) (type : Int) :
    Except Throwable Unit × ReceivingRIL :=
  let dataPosition := p.dataPosition
  let (response, p) := readInt F p
  match UnsolicitedCode.ofInt response with
  | some code => processLocal F s code p
  | none => (.ok (), F.processUnsolicited s (p.setDataPosition dataPosition) type)

/-! ## Well-formed bodies -/

/-- The string array has an element at this index, and it is a number. -/
def NumericAt (response : List (Option JavaString)) (i : Nat) : Prop :=
  ∃ text, response[i]? = some (some text) ∧ (parseInt text).isSome

/-- The body has what the handler of its code indexes and parses, as far as a method of
the superclass reads it for the handler, and there is memory for the array whose length it
announces; for `setAttachApn`, which reads none of it, the operator number can be looked
up. -/
def WellFormedBody (F : Receiver β) (p : Parcel β) : UnsolicitedCode → Prop
  | .responseRegistrationSuspended =>
      0 < (readInt F p).1 ∧ F.canAllocate (readInt F p).1.toNat = true
  | .responsePsNetworkStateChanged =>
      ∃ response, F.responseInts p.data p.dataPosition = .ok (some response) ∧ response ≠ []
  | .incomingCallIndication => ∃ response, readStringArray F p = .ok (some response) ∧
      NumericAt response 3 ∧ NumericAt response 0 ∧ NumericAt response 4
  | .callInfoIndication => ∃ response, readStringArray F p = .ok (some response) ∧
      response[1]? ≠ some none
  | .setAttachApn => F.getSimOperatorNumericForPhone.isOk
  | .onUssd => ∃ response first, F.responseStrings p.data p.dataPosition = .ok (some response) ∧
      response[0]? = some first ∧ ∀ text ∈ first, (parseInt text).isSome

section IsOk

variable {ε α γ : Type}

@[simp] theorem isOk_ok (a : α) : (Except.ok a : Except ε α).isOk = true := rfl

@[simp] theorem isOk_error (t : ε) : (Except.error t : Except ε α).isOk = false := rfl

@[simp] theorem isOk_pure (a : α) : (pure a : Except ε α).isOk = true := rfl

@[simp] theorem isOk_throw (t : ε) : (throw t : Except ε α).isOk = false := rfl

@[simp] theorem isOk_bind_ok (a : α) (f : α → Except ε γ) :
    (Except.ok a >>= f).isOk = (f a).isOk := rfl

@[simp] theorem isOk_bind_error (t : ε) (f : α → Except ε γ) :
    (Except.error t >>= f).isOk = false := rfl

end IsOk

theorem parseIntAt_isOk_iff {response : List (Option JavaString)} {i : Nat} :
    (parseIntAt response i).isOk ↔ NumericAt response i := by
  unfold parseIntAt NumericAt
  cases response[i]? with
  | none => simp
  | some element =>
      cases element with
      | none => simp
      | some text => cases hparse : parseInt text <;> simp [hparse]

theorem length_readInts (F : Receiver β) (p : Parcel β) (n : Nat) :
    (readInts F p n).length = n := by
  induction n generalizing p with
  | zero => rfl
  | succ n ih => simp [readInts, ih]

/-- A first integer is there to be indexed exactly if the body announces one and there is
memory for the array. -/
theorem readIntArray_first_iff (F : Receiver β) (p : Parcel β) :
    (∃ response first, readIntArray F p = .ok response ∧ response[0]? = some first) ↔
      0 < (readInt F p).1 ∧ F.canAllocate (readInt F p).1.toNat = true := by
  unfold readIntArray
  dsimp only
  constructor
  · rintro ⟨response, first, hread, hfirst⟩
    split at hread
    · cases hread
    · split at hread
      · rename_i hmemory
        obtain rfl := Except.ok.inj hread
        obtain ⟨hlength, -⟩ := List.getElem?_eq_some_iff.mp hfirst
        rw [length_readInts] at hlength
        exact ⟨by omega, hmemory⟩
      · cases hread
  · rintro ⟨hpos, hmemory⟩
    have hlength := length_readInts F (readInt F p).2 (readInt F p).1.toNat
    rw [if_neg (by omega), if_pos hmemory]
    exact ⟨_, _, rfl, List.getElem?_eq_getElem (by omega)⟩

theorem ussdResponse_isOk_iff {response : List (Option JavaString)} :
    (ReceivingRIL.ussdResponse response).isOk ↔
      ∃ first, response[0]? = some first ∧ ∀ text ∈ first, (parseInt text).isSome := by
  have hresp : ∀ (first : Option JavaString) (rest : List (Option JavaString)),
      (ReceivingRIL.ussdResponse (first :: rest)).isOk ↔
        ∀ text ∈ first, (parseInt text).isSome := by
    intro first rest
    cases first with
    | none => cases rest <;> simp [ReceivingRIL.ussdResponse]
    | some text =>
        cases rest <;> cases hparse : parseInt text <;>
          simp [ReceivingRIL.ussdResponse, hparse]
  cases response with
  | nil => simp [ReceivingRIL.ussdResponse]
  | cons first rest => simpa using hresp first rest

/-! ## Every message is handled -/

/-- Every request obtained between two states was sent. -/
def AllSent (s s' : ReceivingRIL) : Prop :=
  ∀ serial, s.nextSerial ≤ serial → serial < s'.nextSerial →
    ∃ rr ∈ sentSince s.toMediaTekRIL s'.toMediaTekRIL, rr.mSerial = serial

/-- The message is processed without an exception; if its code is handled here, every
request obtained on the way is sent, and if not, the superclass gets the parcel as it
came. -/
def HandledSafely (F : Receiver β) (s : ReceivingRIL) (p : Parcel β) (type : Int) : Prop :=
  let out := processUnsolicited F s p type
  out.1 = .ok () ∧
    match UnsolicitedCode.ofInt (readInt F p).1 with
    | some _ => AllSent s out.2
    | none => out.2 = F.processUnsolicited s p type

theorem AllSent.refl (s : ReceivingRIL) : AllSent s s := by
  intro serial hge hlt
  omega

/-- A processed message: it ends without an exception and with every request sent if
`wellFormed` holds, and with an exception if not. -/
def Outcome {α : Type} (s : ReceivingRIL) (out : Except Throwable α × ReceivingRIL)
    (wellFormed : Prop) : Prop :=
  (out.1.isOk ∧ AllSent s out.2 ∧ wellFormed) ∨ (¬ out.1.isOk ∧ ¬ wellFormed)

theorem AllSent.sendNew (s : ReceivingRIL) (request : RequestCode) (parcel : List ParcelItem) :
    AllSent s { s with toMediaTekRIL := s.toMediaTekRIL.sendNew request none parcel } := by
  intro serial hge hlt
  have hsent := sentSince_of_outgoing
    (MediaTekRIL.outgoing_sendNew s.toMediaTekRIL request none parcel)
  rw [MediaTekRIL.nextSerial_sendNew] at hlt
  refine ⟨⟨s.nextSerial, request, parcel, none⟩, ?_, by dsimp only; omega⟩
  rw [hsent]
  exact List.mem_singleton_self _

/-- A handler that obtains a request sends it unless filling it throws. -/
theorem outcome_fillAndSend (s : ReceivingRIL) (request : RequestCode) (ret : IndicationObject)
    (parcel : Except Throwable (List ParcelItem)) :
    Outcome s ((s.obtain request).2.fillAndSend (s.obtain request).1 ret parcel) parcel.isOk := by
  cases parcel with
  | error t => exact .inr ⟨Bool.false_ne_true, Bool.false_ne_true⟩
  | ok items => exact .inl ⟨rfl, AllSent.sendNew s request items, rfl⟩

/-- A handler without requests. -/
theorem outcome_read {α : Type} (s : ReceivingRIL) (result : Except Throwable α) :
    Outcome s (result, s) result.isOk := by
  cases result with
  | error t => exact .inr ⟨Bool.false_ne_true, Bool.false_ne_true⟩
  | ok ret => exact .inl ⟨rfl, AllSent.refl s, rfl⟩

theorem Outcome.congr {α : Type} {s : ReceivingRIL} {out : Except Throwable α × ReceivingRIL}
    {P Q : Prop} (h : Outcome s out P) (hPQ : P ↔ Q) : Outcome s out Q := by
  simpa only [Outcome, hPQ] using h

theorem Outcome.error {α : Type} (s s' : ReceivingRIL) (t : Throwable) {P : Prop} (hP : ¬ P) :
    Outcome s ((.error t : Except Throwable α), s') P :=
  .inr ⟨Bool.false_ne_true, hP⟩

theorem outcome_responseRegSuspended (F : Receiver β) (s : ReceivingRIL) (p : Parcel β) :
    Outcome s (s.responseRegSuspended F p)
      (WellFormedBody F p .responseRegistrationSuspended) := by
  have hfirst : WellFormedBody F p .responseRegistrationSuspended ↔
      ∃ response first, readIntArray F p = .ok response ∧ response[0]? = some first :=
    (readIntArray_first_iff F p).symm
  unfold ReceivingRIL.responseRegSuspended
  cases hread : readIntArray F p with
  | error t =>
      apply Outcome.error
      simp [hfirst, hread]
  | ok response =>
      apply (outcome_fillAndSend s _ _ _).congr
      rw [hfirst, hread]
      cases hindex : response[0]? <;> simp [hindex]

/-- The null check and the three parses happen after the request is obtained. -/
theorem outcome_responseIncomingCallIndication (F : Receiver β) (s : ReceivingRIL)
    (p : Parcel β) :
    Outcome s (s.responseIncomingCallIndication F p)
      (WellFormedBody F p .incomingCallIndication) := by
  unfold ReceivingRIL.responseIncomingCallIndication WellFormedBody
  cases hread : readStringArray F p with
  | error t =>
      apply Outcome.error
      simp
  | ok array =>
      apply (outcome_fillAndSend s _ _ _).congr
      cases array with
      | none => simp
      | some response =>
          simp only [Except.ok.injEq, Option.some.injEq, exists_eq_left', ← parseIntAt_isOk_iff]
          cases parseIntAt response 3 <;> cases parseIntAt response 0 <;>
            cases parseIntAt response 4 <;> simp

/-- The notifications change neither the requests sent nor the next serial. -/
theorem notify_frame (s : ReceivingRIL) (code : UnsolicitedCode) (ret : IndicationObject) :
    (s.notify code ret).2.nextSerial = s.nextSerial ∧
      (s.notify code ret).2.outgoing = s.outgoing := by
  unfold ReceivingRIL.notify
  split
  · exact ⟨rfl, rfl⟩
  · exact ⟨rfl, rfl⟩
  · split <;> exact ⟨rfl, rfl⟩
  · exact ⟨rfl, rfl⟩
  · split
    · exact ⟨rfl, rfl⟩
    · dsimp only
      split <;> exact ⟨rfl, rfl⟩
  · exact ⟨rfl, rfl⟩
  · exact ⟨rfl, rfl⟩

/-- The notifications of most codes throw nothing. -/
theorem Outcome.notify {F : Receiver β} {s : ReceivingRIL} {code : UnsolicitedCode}
    {p : Parcel β} {P : Prop} (h : Outcome s (s.handleIndication F p code) P)
    (hnotify : ∀ u ret, (ReceivingRIL.notify u code ret).1 = .ok ()) :
    Outcome s (processLocal F s code p) P := by
  unfold processLocal
  cases hhandle : s.handleIndication F p code with
  | mk result u =>
      rw [hhandle] at h
      cases result with
      | error t =>
          rcases h with ⟨hok, -⟩ | ⟨-, hP⟩
          · cases hok
          · exact Outcome.error s u t hP
      | ok ret =>
          obtain ⟨hnext, hout⟩ := notify_frame u code ret
          rcases h with ⟨-, hsent, hP⟩ | ⟨hnot, -⟩
          · refine .inl ⟨by rw [hnotify u ret]; rfl, ?_, hP⟩
            intro serial hge hlt
            dsimp only at hlt ⊢
            rw [hnext] at hlt
            simpa only [sentSince, hout] using hsent serial hge hlt
          · exact absurd rfl hnot

theorem responseCallProgress_isOk_iff (F : Receiver β) (p : Parcel β) :
    (ReceivingRIL.responseCallProgress F p).isOk ↔ WellFormedBody F p .callInfoIndication := by
  unfold ReceivingRIL.responseCallProgress WellFormedBody
  cases hread : readStringArray F p with
  | error t => simp
  | ok array =>
      cases array with
      | none => simp
      | some response =>
          simp only [isOk_bind_ok, Except.ok.injEq, Option.some.injEq, exists_eq_left']
          cases response[1]? with
          | none => simp
          | some element =>
              cases element with
              | none => simp
              | some text =>
                  dsimp only
                  split <;> simp

theorem outcome_processLocal (F : Receiver β) (s : ReceivingRIL) (code : UnsolicitedCode)
    (p : Parcel β) : Outcome s (processLocal F s code p) (WellFormedBody F p code) := by
  cases code with
  | responseRegistrationSuspended =>
      exact (outcome_responseRegSuspended F s p).notify fun u ret => rfl
  | incomingCallIndication =>
      exact (outcome_responseIncomingCallIndication F s p).notify fun u ret => rfl
  | callInfoIndication =>
      have hread := (outcome_read s (ReceivingRIL.responseCallProgress F p)).congr
        (responseCallProgress_isOk_iff F p)
      exact hread.notify fun u ret => by cases ret <;> rfl
  | setAttachApn =>
      have hsent := outcome_fillAndSend s (.other 111) .null (do
        let operatorNumber ← F.getSimOperatorNumericForPhone
        return [.string (some []), .string (some []), .int 0, .string (some []),
          .string (some []), .string operatorNumber, .int 1, .int (-1)])
      refine (hsent.congr ?_).notify fun u ret => rfl
      unfold WellFormedBody
      cases F.getSimOperatorNumericForPhone <;>
        simp
  | onUssd =>
      unfold processLocal ReceivingRIL.handleIndication ReceivingRIL.responseStrings WellFormedBody
      cases hread : F.responseStrings p.data p.dataPosition with
      | error t => exact Outcome.error s s t (by simp)
      | ok array =>
          cases array with
          | none => exact Outcome.error s s .nullPointerException (by simp)
          | some response =>
              have hiff : (ReceivingRIL.ussdResponse response).isOk ↔ _ := ussdResponse_isOk_iff
              simp only [bind, Except.bind, pure, Except.pure, Option.elim, ReceivingRIL.notify,
                Except.ok.injEq, Option.some.injEq, exists_and_left, exists_eq_left']
              rw [← hiff]
              cases ReceivingRIL.ussdResponse response with
              | error t => exact Outcome.error s s t Bool.false_ne_true
              | ok resp => exact .inl ⟨rfl, AllSent.refl s, rfl⟩
  | responsePsNetworkStateChanged =>
      unfold processLocal ReceivingRIL.handleIndication ReceivingRIL.responseInts WellFormedBody
      cases hread : F.responseInts p.data p.dataPosition with
      | error t => exact Outcome.error s s t (by simp)
      | ok array =>
          cases array with
          | none => exact Outcome.error s s .nullPointerException (by simp)
          | some response =>
              cases response with
              | nil => exact Outcome.error s s .arrayIndexOutOfBounds (by simp)
              | cons state rest =>
                  refine .inl ⟨rfl, ?_, by simp⟩
                  simp only [bind, Except.bind, pure, Except.pure, Option.elim,
                    ReceivingRIL.notify, List.getElem?_cons_zero]
                  split <;> exact AllSent.refl s

/-- No unsolicited message throws, or leaves a request unsent, exactly if the bodies of
the codes handled here are well formed. -/
theorem handledSafely_iff (F : Receiver β) (s : ReceivingRIL) (p : Parcel β) (type : Int) :
    HandledSafely F s p type ↔
      ∀ code, UnsolicitedCode.ofInt (readInt F p).1 = some code →
        WellFormedBody F (readInt F p).2 code := by
  unfold HandledSafely processUnsolicited
  dsimp only
  cases hcode : UnsolicitedCode.ofInt (readInt F p).1 with
  | none =>
      have hrewind : (readInt F p).2.setDataPosition p.dataPosition = p := rfl
      simp [hrewind]
  | some code =>
      have hout := outcome_processLocal F s code (readInt F p).2
      simp only [Option.some.injEq, forall_eq']
      rcases hout with ⟨hok, hsent, hbody⟩ | ⟨hthrow, hbody⟩
      · have hreturns : (processLocal F s code (readInt F p).2).1 = .ok () := by
          cases hresult : (processLocal F s code (readInt F p).2).1 with
          | error t => simp [hresult] at hok
          | ok => rfl
        exact ⟨fun _ => hbody, fun _ => ⟨hreturns, hsent⟩⟩
      · refine ⟨fun ⟨hreturns, _⟩ => absurd ?_ hthrow, fun h => absurd h hbody⟩
        rw [hreturns]
        rfl

/-- A suspended registration that names no session: the request is obtained, and
`response[0]` throws before it is sent. -/
theorem responseRegSuspended_no_session :
    let s : ReceivingRIL := ⟨.start ⟨eccTable, ∅⟩ (propertiesOfLists [] [] []), 0, none⟩
    let p : Parcel (List ParcelItem) := ⟨[.int 3024, .int 0], 0⟩
    let out := processUnsolicited .reference s p 1
    out.1 = .error .arrayIndexOutOfBounds ∧ out.2.nextSerial = s.nextSerial + 1 ∧
      out.2.outgoing = s.outgoing ∧ ¬ HandledSafely .reference s p 1 := by
  intro s p out
  have hthrows : out.1 = .error .arrayIndexOutOfBounds := rfl
  refine ⟨hthrows, rfl, rfl, ?_⟩
  rintro ⟨hreturns, -⟩
  exact absurd (hreturns.symm.trans hthrows) (by simp)

end MediatekCommon.Ril
