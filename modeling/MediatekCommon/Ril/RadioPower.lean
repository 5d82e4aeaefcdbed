/-
  Ril/RadioPower.lean --- `MediaTekRIL.setRadioPower`: powering the modem.

  The method decides between `RIL_REQUEST_MODEM_POWERON`,
  `RIL_REQUEST_MODEM_POWEROFF` and the superclass from the airplane-mode setting
  and from a property that each call overwrites with that setting.  The modem
  follows the two requests only.

  The property stands for "the modem is off" (`FlagTracks`) as long as no call
  overwrites it without sending the request that goes with it.  The two calls that
  do are `setRadioPower(true)` in airplane mode with the modem on and
  `setRadioPower(false)` outside it with the modem off; every other call keeps the
  two together, and after either of these two a later call is wrong.
-/
import MediatekCommon.Foundation.Runs
import MediatekCommon.Ril.MediaTekRIL

set_option autoImplicit false

namespace MediatekCommon.Ril

open MediatekCommon.Foundation

/-! ## The method -/

namespace MediaTekRIL

/-- `b ? "true" : "false"`. -/
def booleanText (b : Bool) : JavaString := if b then "true".toList else "false".toList

/-- `Settings.Global.getInt(resolver, AIRPLANE_MODE_ON, 0) == 1`. -/
def isInApm (s : MediaTekRIL) : Bool := s.airplaneModeOn.getD 0 == 1

/-- `SystemProperties.get("persist.radio.airplane.mode.on").equals("true")`. -/
def wasInApm (s : MediaTekRIL) : Bool :=
  s.properties .persistRadioAirplaneModeOn == booleanText true

/-- `SystemProperties.set`. -/
def setProperty (P : Platform) (s : MediaTekRIL) (key : PropKey) (value : JavaString) :
    Except Throwable Unit × MediaTekRIL :=
  let (res, props) := s.properties.set P key value
  (res, { s with properties := props })

/-- `setRadioPower(on, result)`. -/
def setRadioPower (P : Platform) (s : MediaTekRIL) (on : Bool) (result : Option Message) :
    Except Throwable Unit × MediaTekRIL :=
  let isInApm := s.isInApm
  let wasInApm := s.wasInApm
  match s.setProperty P .persistRadioAirplaneModeOn (booleanText isInApm) with
  | (.error t, s) => (.error t, s)
  | (.ok (), s) =>
      if on && wasInApm && !isInApm then
        match s.setProperty P .gsmRilEboot "0".toList with
        | (.error t, s) => (.error t, s)
        | (.ok (), s) => (.ok (), s.sendNew .modemPowerOn result [])
      else if !on && isInApm then
        match s.setProperty P .gsmRilEboot "1".toList with
        | (.error t, s) => (.error t, s)
        | (.ok (), s) => (.ok (), s.sendNew .modemPowerOff result [])
      else (.ok (), s.handOn (.superSetRadioPower on result))

@[simp] theorem booleanText_beq_true (b : Bool) :
    (booleanText b == booleanText true) = b := by
  cases b <;> decide

theorem setProperty_of_short {P : Platform} (hP : P.AcceptsShortValues) (s : MediaTekRIL)
    (key : PropKey) {value : JavaString} (hvalue : value.length ≤ 91) :
    s.setProperty P key value =
      (.ok (), { s with properties := Function.update s.properties key value }) := by
  simp [setProperty, Properties.set, hP key value hvalue]

end MediaTekRIL

/-! ## Runs -/

/-- What happens to the radio. -/
inductive RadioEvent where
  /-- The user switches airplane mode. -/
  | airplaneMode (on : Bool)
  | setRadioPower (on : Bool) (result : Option Message)
  deriving DecidableEq

/-- One event. -/
def radioStep (P : Platform) (s : MediaTekRIL) : RadioEvent → MediaTekRIL
  | .airplaneMode on => { s with airplaneModeOn := some (if on then 1 else 0) }
  | .setRadioPower on result => (s.setRadioPower P on result).2

/-- The modem after a further request. -/
def modemAfter (on : Bool) : Outgoing → Bool
  | .request rr =>
      match rr.mRequest with
      | .modemPowerOff => false
      | .modemPowerOn => true
      | _ => on
  | _ => on

/-- Whether the modem is on, given everything that was handed on: it is on until
the first power request. -/
def MediaTekRIL.modemOn (s : MediaTekRIL) : Bool := s.outgoing.foldl modemAfter true

/-- `MODEM_POWERON` is among the requests sent between two states. -/
def SendsPowerOn (s s' : MediaTekRIL) : Prop :=
  ∃ rr ∈ sentSince s s', rr.mRequest = .modemPowerOn

/-- A call outside airplane mode sends `MODEM_POWERON` if and only if it is to
switch the radio on and the modem is off. -/
def PowersAsNeeded (P : Platform) (s : MediaTekRIL) : RadioEvent → Prop
  | .airplaneMode _ => True
  | .setRadioPower on result => s.isInApm = false →
      (SendsPowerOn s (radioStep P s (.setRadioPower on result)) ↔
        on = true ∧ s.modemOn = false)

/-- The call does not overwrite the property against the modem: in airplane mode
the radio is switched on only while the modem is off, outside it the radio is
switched off only while the modem is on. -/
def KeepsFlag (s : MediaTekRIL) : RadioEvent → Prop
  | .airplaneMode _ => True
  | .setRadioPower true _ => s.isInApm = true → s.modemOn = false
  | .setRadioPower false _ => s.isInApm = false → s.modemOn = true

instance decidableKeepsFlag (s : MediaTekRIL) : ∀ e, Decidable (KeepsFlag s e)
  | .airplaneMode _ => inferInstanceAs (Decidable True)
  | .setRadioPower true _ => inferInstanceAs (Decidable (s.isInApm = true → s.modemOn = false))
  | .setRadioPower false _ => inferInstanceAs (Decidable (s.isInApm = false → s.modemOn = true))

/-- The property says that the modem is off. -/
def FlagTracks (s : MediaTekRIL) : Prop := s.wasInApm = !s.modemOn

/-! ## What a call does -/

/-- What a call hands on. -/
def radioCommand (s : MediaTekRIL) (on : Bool) (result : Option Message) : Outgoing :=
  if on && s.wasInApm && !s.isInApm then .request ⟨s.nextSerial, .modemPowerOn, [], result⟩
  else if !on && s.isInApm then .request ⟨s.nextSerial, .modemPowerOff, [], result⟩
  else .superSetRadioPower on result

/-- A call hands on one command and leaves the airplane-mode setting in the
property. -/
theorem setRadioPower_spec {P : Platform} (hP : P.AcceptsShortValues) (s : MediaTekRIL)
    (on : Bool) (result : Option Message) :
    (s.setRadioPower P on result).1 = .ok () ∧
      (s.setRadioPower P on result).2.outgoing =
        s.outgoing ++ [radioCommand s on result] ∧
      (s.setRadioPower P on result).2.airplaneModeOn = s.airplaneModeOn ∧
      (s.setRadioPower P on result).2.wasInApm = s.isInApm := by
  have hflag : (MediaTekRIL.booleanText s.isInApm).length ≤ 91 := by
    cases s.isInApm <;> decide
  have hboot : "0".toList.length ≤ 91 ∧ "1".toList.length ≤ 91 := by decide
  have hkey : PropKey.persistRadioAirplaneModeOn ≠ .gsmRilEboot := by decide
  simp only [MediaTekRIL.setRadioPower, MediaTekRIL.setProperty_of_short hP _ _ hflag,
    MediaTekRIL.setProperty_of_short hP _ _ hboot.1,
    MediaTekRIL.setProperty_of_short hP _ _ hboot.2, radioCommand]
  split
  · exact ⟨rfl, rfl, rfl, by simp [MediaTekRIL.wasInApm, hkey]⟩
  · split
    · exact ⟨rfl, rfl, rfl, by simp [MediaTekRIL.wasInApm, hkey]⟩
    · exact ⟨rfl, rfl, rfl, by simp [MediaTekRIL.wasInApm]⟩

/-- The modem after a call. -/
theorem modemOn_setRadioPower {P : Platform} (hP : P.AcceptsShortValues) (s : MediaTekRIL)
    (on : Bool) (result : Option Message) :
    (s.setRadioPower P on result).2.modemOn =
      if on && s.wasInApm && !s.isInApm then true
      else if !on && s.isInApm then false
      else s.modemOn := by
  have hout := (setRadioPower_spec hP s on result).2.1
  simp only [MediaTekRIL.modemOn, hout, List.foldl_append, List.foldl_cons, List.foldl_nil,
    radioCommand]
  split
  · rfl
  · split <;> rfl

theorem sendsPowerOn_iff {P : Platform} (hP : P.AcceptsShortValues) (s : MediaTekRIL)
    (on : Bool) (result : Option Message) :
    SendsPowerOn s (s.setRadioPower P on result).2 ↔
      on = true ∧ s.wasInApm = true ∧ s.isInApm = false := by
  have hout := (setRadioPower_spec hP s on result).2.1
  simp only [SendsPowerOn, sentSince_of_outgoing hout, radioCommand]
  cases on <;> cases s.wasInApm <;> cases s.isInApm <;> simp [Outgoing.request?]

/-! ## The property and the modem -/

/-- A step from a state in which the property tells the modem keeps it so exactly
if it does not overwrite it against the modem. -/
theorem flagTracks_step_iff {P : Platform} (hP : P.AcceptsShortValues) {s : MediaTekRIL}
    (hs : FlagTracks s) (e : RadioEvent) : FlagTracks (radioStep P s e) ↔ KeepsFlag s e := by
  cases e with
  | airplaneMode on => exact iff_of_true hs trivial
  | setRadioPower on result =>
      have hflag := (setRadioPower_spec hP s on result).2.2.2
      have hmodem := modemOn_setRadioPower hP s on result
      simp only [FlagTracks] at hs
      simp only [FlagTracks, radioStep, hflag, hmodem, hs]
      cases on <;> cases hin : s.isInApm <;> cases hon : s.modemOn <;>
        simp [KeepsFlag, hin, hon]

/-- While the property tells the modem, every call is right. -/
theorem powersAsNeeded_of_flagTracks {P : Platform} (hP : P.AcceptsShortValues)
    {s : MediaTekRIL} (hs : FlagTracks s) (e : RadioEvent) : PowersAsNeeded P s e := by
  cases e with
  | airplaneMode on => trivial
  | setRadioPower on result =>
      intro houtside
      simp only [FlagTracks] at hs
      simp only [radioStep, sendsPowerOn_iff hP, hs, houtside]
      simp

/-- Ending airplane mode and switching the radio on shows whether the property
tells the modem. -/
theorem powersAsNeeded_probe_iff {P : Platform} (hP : P.AcceptsShortValues)
    (s : MediaTekRIL) :
    Along (radioStep P) (PowersAsNeeded P) s
      [.airplaneMode false, .setRadioPower true none] ↔ FlagTracks s := by
  have hmodem : (radioStep P s (.airplaneMode false)).modemOn = s.modemOn := rfl
  have hflag : (radioStep P s (.airplaneMode false)).wasInApm = s.wasInApm := rfl
  have hin : (radioStep P s (.airplaneMode false)).isInApm = false := rfl
  simp only [along_cons, along_nil, PowersAsNeeded, radioStep, sendsPowerOn_iff hP, FlagTracks]
  simp only [radioStep] at hmodem hflag hin
  rw [hmodem, hflag, hin]
  cases s.wasInApm <;> cases s.modemOn <;> decide

/-! ## Runs of calls -/

section Runs

variable {P : Platform} {s : MediaTekRIL}

/-- Airplane mode off, the property unset, the modem on. -/
theorem flagTracks_of_unset (hunset : s.properties .persistRadioAirplaneModeOn = [])
    (hon : s.modemOn = true) : FlagTracks s := by
  simp only [FlagTracks, MediaTekRIL.wasInApm, hunset, hon]
  decide

/-- In every run whose calls do not overwrite the property against the modem, each
call outside airplane mode sends `MODEM_POWERON` if and only if it is to switch the
radio on and the modem is off. -/
theorem powersAsNeeded_of_keepsFlag (hP : P.AcceptsShortValues)
    (hunset : s.properties .persistRadioAirplaneModeOn = []) (hon : s.modemOn = true)
    {es : List RadioEvent}
    (hkeeps : Along (radioStep P) KeepsFlag s es) :
    Along (radioStep P) (PowersAsNeeded P) s es := by
  apply along_of_step _ _ (flagTracks_of_unset hunset hon) hkeeps
  · intro s e hs he
    exact (flagTracks_step_iff hP hs e).mpr he
  · intro s e hs _
    exact powersAsNeeded_of_flagTracks hP hs e

/-- The condition cannot be weakened: a run meets it exactly if, after each of its
prefixes, all calls were right and the first `setRadioPower(true)` after airplane
mode ends is too. -/
theorem keepsFlag_iff_powersAsNeeded (hP : P.AcceptsShortValues)
    (hunset : s.properties .persistRadioAirplaneModeOn = []) (hon : s.modemOn = true)
    (es : List RadioEvent) :
    Along (radioStep P) KeepsFlag s es ↔
      ∀ fs, fs <+: es → Along (radioStep P) (PowersAsNeeded P) s
        (fs ++ [.airplaneMode false, .setRadioPower true none]) := by
  have hs := flagTracks_of_unset hunset hon
  have hruns : Always (radioStep P) FlagTracks s es ↔ Along (radioStep P) KeepsFlag s es := by
    have hall : Along (radioStep P) (fun _ _ => True) s es :=
      along_of_invariant (fun _ _ _ => trivial) trivial es
    exact always_iff_along (fun s e _ hs => flagTracks_step_iff hP hs e) hall hs
  simp only [along_append, powersAsNeeded_probe_iff hP]
  constructor
  · intro hkeeps fs hfs
    obtain ⟨gs, rfl⟩ := hfs
    have hprefix := (along_append.mp hkeeps).1
    refine ⟨powersAsNeeded_of_keepsFlag hP hunset hon hprefix, ?_⟩
    exact always_iff_forall_isPrefix.mp (hruns.mpr hkeeps) fs (List.prefix_append fs gs)
  · intro h
    exact hruns.mp (always_iff_forall_isPrefix.mpr fun fs hfs => (h fs hfs).2)

/-- Airplane mode on, the radio switched off and on again there, airplane mode off,
the radio on: the modem goes off and comes back. -/
theorem powersAsNeeded_airplane_cycle :
    Along (radioStep .reference) (PowersAsNeeded .reference)
      (.start ⟨eccTable, ∅⟩ (propertiesOfLists [] [] []))
      [.airplaneMode true, .setRadioPower false none, .setRadioPower true none,
        .airplaneMode false, .setRadioPower true none] :=
  powersAsNeeded_of_keepsFlag Platform.reference_acceptsShortValues rfl rfl (by decide)

/-- A second `setRadioPower(false)` after airplane mode has ended: the modem was
powered off, and the following `setRadioPower(true)` does not power it on. -/
theorem setRadioPower_stays_off :
    let s := run (radioStep .reference) (.start ⟨eccTable, ∅⟩ (propertiesOfLists [] [] []))
      [.airplaneMode true, .setRadioPower false none, .airplaneMode false,
        .setRadioPower false none]
    s.isInApm = false ∧ s.modemOn = false ∧
      sentSince s (radioStep .reference s (.setRadioPower true none)) = [] ∧
      ¬ PowersAsNeeded .reference s (.setRadioPower true none) := by
  intro s
  have hsent : sentSince s (radioStep .reference s (.setRadioPower true none)) = [] := rfl
  have hoff : s.modemOn = false := rfl
  refine ⟨rfl, hoff, hsent, ?_⟩
  intro h
  obtain ⟨rr, hrr, -⟩ := (h rfl).mpr ⟨rfl, hoff⟩
  rw [hsent] at hrr
  cases hrr

end Runs

end MediatekCommon.Ril
