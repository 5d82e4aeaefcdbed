/-
  Ril/MediaTekRIL.lean --- the state of one `MediaTekRIL` and how requests leave it.

  The record holds the fields of the class together with the state its methods
  reach through the framework: the pending requests, the system properties, the
  airplane-mode setting, and logs of what was sent, what was delivered and which
  registrants were notified.  Every method of the class is a function on this
  record; the log fields only grow.

  `RILRequest.obtain` and `RIL.send` are not part of this repository.  Here they are only
  recorded: a request gets the serial behind the last one, and is handed on as pending.
  Whether it stays so is up to the superclass, which may give it up at once, where it cannot
  be sent, or later, when the connection is lost; in the runs of the whole class this is a
  parameter (`Framework.carryOut`, `Framework.superMethod`).
-/
import MediatekCommon.Ril.EccList

set_option autoImplicit false

namespace MediatekCommon.Ril

open MediatekCommon.Foundation

/-- `UUSInfo`. -/
structure UUSInfo where
  uusType : Int
  uusDcs : Int
  uusData : Option (List UInt8)
  deriving DecidableEq, Repr

/-- What a method hands on: a request it sends itself, or the call of the
superclass method it overrides. -/
inductive Outgoing where
  /-- `send(rr)` -/
  | request (rr : RILRequest)
  /-- `super.dial(address, clirMode, uusInfo, result)` -/
  | superDial (address : Option JavaString) (clirMode : Int) (uusInfo : Option UUSInfo)
      (result : Option Message)
  /-- `super.setRadioPower(on, result)` -/
  | superSetRadioPower (on : Bool) (result : Option Message)
  /-- `super.deactivateDataCall(cid, reason, result)` -/
  | superDeactivateDataCall (cid reason : Int) (result : Option Message)
  deriving DecidableEq, Repr

/-- The request that is sent, if it is one this class sends. -/
def Outgoing.request? : Outgoing → Option RILRequest
  | .request rr => some rr
  | _ => none

/-- A `MediaTekRIL` and the framework state its methods use. -/
structure MediaTekRIL where
  /-- The pending requests. -/
  mRequestList : RequestList
  /-- The serial `RILRequest.obtain` hands out next. -/
  nextSerial : Int
  dataCallCids : Fin 5 → Int
  /-- Whether `mEccList` is assigned; the receiver thread may run before the
  constructor gets there. -/
  mEccListAssigned : Bool
  /-- The static fields of `MtkEccList`. -/
  mEccList : MtkEccList
  properties : Properties
  /-- `Settings.Global.AIRPLANE_MODE_ON`, if set. -/
  airplaneModeOn : Option Int
  /-- What was handed on, oldest first. -/
  outgoing : List Outgoing
  /-- The messages sent to their targets, oldest first. -/
  delivered : List (Message × AsyncResult)
  /-- How often `mVoiceNetworkStateRegistrants` were notified. -/
  voiceNetworkStateNotified : Nat

namespace MediaTekRIL

/-- The state after the constructor, with nothing pending. -/
def start (L : MtkEccList) (props : Properties) : MediaTekRIL where
  mRequestList := .empty
  nextSerial := 0
  dataCallCids := fun _ => -1
  mEccListAssigned := true
  mEccList := L
  properties := props
  airplaneModeOn := none
  outgoing := []
  delivered := []
  voiceNetworkStateNotified := 0

/-- Hand something on. -/
def handOn (s : MediaTekRIL) (out : Outgoing) : MediaTekRIL :=
  { s with outgoing := s.outgoing ++ [out] }

/-- `RILRequest.obtain(request, result)`: a request with the next serial and an
empty parcel. -/
def obtain (s : MediaTekRIL) (request : RequestCode) (result : Option Message) :
    RILRequest × MediaTekRIL :=
  (⟨s.nextSerial, request, [], result⟩, { s with nextSerial := s.nextSerial + 1 })

/-- `send(rr)`: the request is handed on, pending. -/
def send (s : MediaTekRIL) (rr : RILRequest) : MediaTekRIL :=
  { s.handOn (.request rr) with mRequestList := s.mRequestList.add rr }

/-- Obtain a request, fill its parcel and send it. -/
def sendNew (s : MediaTekRIL) (request : RequestCode) (result : Option Message)
    (parcel : List ParcelItem) : MediaTekRIL :=
  let (rr, s) := s.obtain request result
  s.send { rr with mParcel := parcel }

/-- `AsyncResult.forMessage(message, ret, thr)` and `message.sendToTarget()`. -/
def deliver (s : MediaTekRIL) (message : Message) (ret : ResponseObject)
    (thr : Option Throwable) : MediaTekRIL :=
  { s with delivered := s.delivered ++ [(message, ⟨ret, thr⟩)] }

@[simp] theorem outgoing_sendNew (s : MediaTekRIL) (request : RequestCode)
    (result : Option Message) (parcel : List ParcelItem) :
    (s.sendNew request result parcel).outgoing =
      s.outgoing ++ [.request ⟨s.nextSerial, request, parcel, result⟩] := rfl

@[simp] theorem nextSerial_sendNew (s : MediaTekRIL) (request : RequestCode)
    (result : Option Message) (parcel : List ParcelItem) :
    (s.sendNew request result parcel).nextSerial = s.nextSerial + 1 := rfl

@[simp] theorem mEccList_sendNew (s : MediaTekRIL) (request : RequestCode)
    (result : Option Message) (parcel : List ParcelItem) :
    (s.sendNew request result parcel).mEccList = s.mEccList := rfl

@[simp] theorem properties_sendNew (s : MediaTekRIL) (request : RequestCode)
    (result : Option Message) (parcel : List ParcelItem) :
    (s.sendNew request result parcel).properties = s.properties := rfl

@[simp] theorem properties_handOn (s : MediaTekRIL) (out : Outgoing) :
    (s.handOn out).properties = s.properties := rfl

@[simp] theorem outgoing_handOn (s : MediaTekRIL) (out : Outgoing) :
    (s.handOn out).outgoing = s.outgoing ++ [out] := rfl

@[simp] theorem mEccList_handOn (s : MediaTekRIL) (out : Outgoing) :
    (s.handOn out).mEccList = s.mEccList := rfl

end MediaTekRIL

/-- The requests handed on between two states. -/
def sentSince (s s' : MediaTekRIL) : List RILRequest :=
  (s'.outgoing.drop s.outgoing.length).filterMap Outgoing.request?

theorem sentSince_of_outgoing {s s' : MediaTekRIL} {outs : List Outgoing}
    (h : s'.outgoing = s.outgoing ++ outs) :
    sentSince s s' = outs.filterMap Outgoing.request? := by
  simp [sentSince, h]

end MediatekCommon.Ril
