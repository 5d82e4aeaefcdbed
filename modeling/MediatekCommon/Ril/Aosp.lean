/-
  Ril/Aosp.lean --- what the telephony classes take from the Android framework.

  `MediaTekRIL` extends `RIL` and `MtkEccList` extends `PhoneNumberUtils`; those
  classes, `SystemProperties` and `Parcel` are not part of this repository.  The
  data that crosses the border is fixed here: the exceptions that can come back,
  the system properties, the requests and the table of pending ones.  Behaviour
  that the repository cannot decide is a field, of `Platform` here and of `Superclass`,
  `Receiver` and `Framework` further on.
-/
import Mathlib.Logic.Function.Basic
import MediatekCommon.Foundation.JavaText

set_option autoImplicit false

namespace MediatekCommon.Ril

open MediatekCommon.Foundation

/-! ## Exceptions and system properties -/

/-- The Java exceptions the modelled code throws itself, and one constructor for
whatever framework code may throw. -/
inductive Throwable where
  | numberFormatException
  | nullPointerException
  | illegalArgumentException
  | runtimeException
  | arrayIndexOutOfBounds
  | negativeArraySize
  /-- `OutOfMemoryError` -/
  | outOfMemory
  | framework (code : Nat)
  deriving DecidableEq, Repr

/-- The system properties the telephony classes read and write. -/
inductive PropKey where
  /-- `ril.ecclist` -/
  | rilEcclist
  /-- `ril.ecclist1` -/
  | rilEcclist1
  /-- `ril.ecc.service.category.list` -/
  | rilEccServiceCategoryList
  /-- `persist.radio.airplane.mode.on` -/
  | persistRadioAirplaneModeOn
  /-- `gsm.ril.eboot` -/
  | gsmRilEboot
  deriving DecidableEq, Repr

/-- `SystemProperties.get`: the empty string when the property is unset. -/
abbrev Properties : Type := PropKey → JavaString

/-- The framework behaviour the telephony classes rely on. -/
structure Platform where
  /-- `PhoneNumberUtils.extractNetworkPortionAlt` on a non-null number. -/
  extractNetworkPortionAlt : JavaString → JavaString
  /-- Whether `SystemProperties.set` stores this value; otherwise it throws an
  `IllegalArgumentException`. -/
  acceptsValue : PropKey → JavaString → Bool

/-- A property takes every value of at most 91 characters. -/
def Platform.AcceptsShortValues (P : Platform) : Prop :=
  ∀ key value, value.length ≤ 91 → P.acceptsValue key value = true

/-- A platform to run the model on: separators are dropped from a number, and a
property holds at most 91 characters. -/
def Platform.reference : Platform where
  extractNetworkPortionAlt := fun number => number.filter ("0123456789*#+N".toList.contains ·)
  acceptsValue := fun _ value => value.length ≤ 91

theorem Platform.reference_acceptsShortValues : Platform.reference.AcceptsShortValues := by
  intro key value h
  simpa [reference] using h

/-- The network portion of a number has neither of the characters that separate the entries
and the fields of the category list: both end the portion. -/
def Platform.StopsAtPostDial (P : Platform) : Prop :=
  ∀ number, ',' ∉ P.extractNetworkPortionAlt number ∧ ';' ∉ P.extractNetworkPortionAlt number

theorem Platform.reference_stopsAtPostDial : Platform.reference.StopsAtPostDial := by
  intro number
  simp only [reference, List.mem_filter]
  exact ⟨fun h => absurd h.2 (by decide), fun h => absurd h.2 (by decide)⟩

/-- `SystemProperties.set(key, value)`. -/
def Properties.set (P : Platform) (props : Properties) (key : PropKey)
    (value : JavaString) : Except Throwable Unit × Properties :=
  if P.acceptsValue key value then (.ok (), Function.update props key value)
  else (.error .illegalArgumentException, props)

/-! ## Requests -/

/-- A `Message` to be sent when a request completes, by its identity. -/
abbrev Message : Type := Nat

/-- The request types the modelled code distinguishes; `other` is every further
request number of `RILConstants`. -/
inductive RequestCode where
  /-- `RIL_REQUEST_GET_SIM_STATUS` -/
  | getSimStatus
  /-- `RIL_REQUEST_DATA_REGISTRATION_STATE` -/
  | dataRegistrationState
  /-- `RIL_REQUEST_SETUP_DATA_CALL` -/
  | setupDataCall
  /-- `RIL_REQUEST_ALLOW_DATA` -/
  | allowData
  /-- `RIL_REQUEST_MODEM_POWEROFF`, 2010 -/
  | modemPowerOff
  /-- `RIL_REQUEST_MODEM_POWERON`, 2028 -/
  | modemPowerOn
  /-- `RIL_REQUEST_EMERGENCY_DIAL`, 2087 -/
  | emergencyDial
  /-- `RIL_REQUEST_SET_ECC_SERVICE_CATEGORY`, 2088 -/
  | setEccServiceCategory
  | other (code : Int)
  deriving DecidableEq, Repr

/-- One item written to a `Parcel`. -/
inductive ParcelItem where
  | int (value : Int)
  | string (value : Option JavaString)
  | byteArray (value : Option (List UInt8))
  deriving DecidableEq, Repr

/-- A `RILRequest`: its serial, its type, what has been written to its parcel
after the header, and the message it completes. -/
structure RILRequest where
  mSerial : Int
  mRequest : RequestCode
  mParcel : List ParcelItem
  mResult : Option Message
  deriving DecidableEq, Repr

/-- `mRequestList`: the pending requests, each stored under its own serial. -/
structure RequestList where
  get : Int → Option RILRequest
  serial_eq : ∀ serial rr, get serial = some rr → rr.mSerial = serial

namespace RequestList

@[ext] theorem ext {l l' : RequestList} (h : ∀ serial, l.get serial = l'.get serial) :
    l = l' := by
  cases l
  cases l'
  simp only [mk.injEq]
  exact funext h

/-- The list of a freshly started `RIL`. -/
def empty : RequestList := ⟨fun _ => none, by simp⟩

/-- Add a request under its serial. -/
def add (l : RequestList) (rr : RILRequest) : RequestList where
  get := Function.update l.get rr.mSerial (some rr)
  serial_eq := by
    intro serial rr' h
    by_cases hs : serial = rr.mSerial
    · subst hs
      simp only [Function.update_self, Option.some.injEq] at h
      exact congrArg RILRequest.mSerial h.symm
    · rw [Function.update_of_ne hs] at h
      exact l.serial_eq serial rr' h

/-- Take the request with this serial out of the list. -/
def remove (l : RequestList) (serial : Int) : RequestList where
  get := Function.update l.get serial none
  serial_eq := by
    intro serial' rr h
    by_cases hs : serial' = serial
    · subst hs
      simp at h
    · rw [Function.update_of_ne hs] at h
      exact l.serial_eq serial' rr h

@[simp] theorem get_add_self (l : RequestList) (rr : RILRequest) :
    (l.add rr).get rr.mSerial = some rr := by
  simp [add]

theorem get_add_of_ne (l : RequestList) {rr : RILRequest} {serial : Int}
    (h : serial ≠ rr.mSerial) : (l.add rr).get serial = l.get serial := by
  simp [add, h]

@[simp] theorem get_remove_self (l : RequestList) (serial : Int) :
    (l.remove serial).get serial = none := by
  simp [remove]

theorem get_remove_of_ne (l : RequestList) {serial serial' : Int} (h : serial' ≠ serial) :
    (l.remove serial).get serial' = l.get serial' := by
  simp [remove, h]

end RequestList

/-! ## Replies -/

/-- The fields of a parsed `DataCallResponse` that decide what becomes of a data
call. -/
structure DataCallResponse where
  status : Int
  cid : Int
  deriving DecidableEq, Repr

/-- What a parser returns. -/
inductive ResponseObject where
  | null
  | strings (values : List (Option JavaString))
  | dataCall (response : DataCallResponse)
  | framework (code : Nat)
  deriving DecidableEq, Repr

/-- `AsyncResult`, as attached by `AsyncResult.forMessage`. -/
structure AsyncResult where
  result : ResponseObject
  exception : Option Throwable
  deriving DecidableEq, Repr

/-- A solicited reply: the two integers at its head and what follows them in the
parcel. -/
structure SolicitedReply (β : Type) where
  serial : Int
  error : Int
  payload : β

end MediatekCommon.Ril
