/-
  Lights/Arbitration.lean --- the battery state, the notification state and the two
  LEDs they share.

  `set_speaker_light_locked` leaves the statuses its own state asks for, whatever they
  were before.  So the remembered statuses are always those of the state that was
  applied last, and red and green are lit together only by orange.

  `handle_speaker_battery_locked` picks that state by `is_lit`, which looks at the 24
  colour bits, while `set_speaker_light_locked` needs alpha and ignores blue.  A battery
  state that is lit for the one and dark for the other hides every notification.
-/
import MediatekCommon.Lights.SpeakerLight

set_option autoImplicit false

namespace MediatekCommon.Lights

open MediatekCommon.Foundation

/-! ## The states that are applied -/

/-- `nowStatus` of `blink_red` or `blink_green` for a light state. -/
def LightState.status (state : LightState) (led : Led) : LedStatus :=
  nowStatus (state.level led) state.onMS state.offMS

/-- Red and green are both asked for only by orange, and then alike. -/
theorem LightState.orange_of_status {state : LightState} (hred : state.status .red ≠ .off)
    (hgreen : state.status .green ≠ .off) :
    state.color = orange ∧ state.status .red = state.status .green := by
  unfold status at hred hgreen ⊢
  have hlevel : state.red ≠ 0 := by
    intro hzero
    simp [level, hzero, nowStatus] at hred
  by_cases hcolor : state.color = orange
  · refine ⟨hcolor, ?_⟩
    simp only [level, if_pos hlevel, if_pos hcolor]
  · simp [level, hlevel, hcolor, nowStatus] at hgreen

/-- The statuses left are those of the state that is applied. -/
theorem preStatus_setSpeakerLightLocked (s : LightsModule) (state : LightState) (led : Led) :
    (s.setSpeakerLightLocked state).preStatus led = state.status led := by
  unfold LightsModule.setSpeakerLightLocked LightState.status
  dsimp only [LightsModule.blinkRed, LightsModule.blinkGreen]
  split
  · rename_i hred
    split
    · rename_i hcolor
      cases led <;> simp [preStatus_blink, LightState.level, hred, hcolor]
    · rename_i hcolor
      cases led <;> simp [preStatus_blink, LightState.level, hred, hcolor, nowStatus]
  · rename_i hred
    have hred : state.red = 0 := by omega
    split
    · cases led <;> simp [preStatus_blink, LightState.level, hred, nowStatus]
    · rename_i hgreen
      have hgreen : state.green = 0 := by omega
      cases led <;> simp [preStatus_blink, LightState.level, hred, hgreen, nowStatus]

/-- The states `handle_speaker_battery_locked` applies. -/
def LightsModule.selectedStates (s : LightsModule) : List LightState :=
  if s.gBattery.isLit ≠ 0 then [s.gBattery] else [s.gBattery, s.gNotification]

/-- The states a call passes to `set_speaker_light_locked`, in this order. -/
def appliedStates (s : LightsModule) (call : LightCall) : List LightState :=
  match call.id with
  | .battery =>
      (if s.gHaveTrackballLight then [call.state] else []) ++
        { s with gBattery := call.state }.selectedStates
  | .notifications => { s with gNotification := call.state }.selectedStates
  | _ => []

/-- The states a sequence of calls passes to `set_speaker_light_locked`. -/
def applied : LightsModule → List LightCall → List LightState
  | _, [] => []
  | s, call :: calls => appliedStates s call ++ applied (setLight s call) calls

theorem handleSpeakerBatteryLocked_eq_foldl (s : LightsModule) :
    s.handleSpeakerBatteryLocked =
      s.selectedStates.foldl LightsModule.setSpeakerLightLocked s := by
  unfold LightsModule.handleSpeakerBatteryLocked LightsModule.selectedStates
  split <;> rfl

theorem preStatus_foldl (states : List LightState) (s : LightsModule) (led : Led) :
    (states.foldl LightsModule.setSpeakerLightLocked s).preStatus led =
      (states.getLast?.map fun state => state.status led).getD (s.preStatus led) := by
  induction states generalizing s with
  | nil => rfl
  | cons state states ih =>
      rw [List.foldl_cons, ih, preStatus_setSpeakerLightLocked, List.getLast?_cons]
      cases states.getLast? <;> rfl

/-- The trackball light changes the log of writes only. -/
theorem trackball_eq (s : LightsModule) :
    ∃ writes, (if s.gHaveTrackballLight then s.handleTrackballLightLocked else s) =
      { s with writes := writes } := by
  unfold LightsModule.handleTrackballLightLocked
  dsimp only
  generalize (if s.gAttention = 7 ∧ s.gBacklight ≠ 0 then 0 else s.gAttention) = mode
  split
  · split <;> exact ⟨_, rfl⟩
  · exact ⟨_, rfl⟩

/-- A call stores its state, perhaps writes other files, and then applies its states. -/
theorem setLight_eq_foldl (s : LightsModule) (call : LightCall) :
    ∃ t : LightsModule, t.preStatus = s.preStatus ∧
      setLight s call = (appliedStates s call).foldl LightsModule.setSpeakerLightLocked t := by
  have htrackball : ∀ t : LightsModule,
      (if t.gHaveTrackballLight then t.handleTrackballLightLocked else t).preStatus =
        t.preStatus := by
    intro t
    obtain ⟨_, hsame⟩ := trackball_eq t
    rw [hsame]
  obtain ⟨id, state⟩ := call
  cases id with
  | backlight => exact ⟨setLight s ⟨.backlight, state⟩, htrackball _, rfl⟩
  | keyboard => exact ⟨setLight s ⟨.keyboard, state⟩, rfl, rfl⟩
  | buttons => exact ⟨setLight s ⟨.buttons, state⟩, rfl, rfl⟩
  | battery =>
      refine ⟨{ s with gBattery := state }, rfl, ?_⟩
      simp only [setLight, LightsModule.setLightBattery, appliedStates, List.foldl_append,
        handleSpeakerBatteryLocked_eq_foldl]
      split
      · have hframe := onlyLeds_setSpeakerLightLocked { s with gBattery := state } state
        obtain ⟨_, _, hsame⟩ := hframe
        simp only [List.foldl_cons, List.foldl_nil, hsame]
        rfl
      · rfl
  | notifications =>
      refine ⟨_, htrackball { s with gNotification := state }, ?_⟩
      obtain ⟨_, hsame⟩ := trackball_eq { s with gNotification := state }
      simp only [setLight, LightsModule.setLightNotifications, appliedStates,
        handleSpeakerBatteryLocked_eq_foldl]
      rw [hsame]
      rfl
  | attention =>
      refine ⟨setLight s ⟨.attention, state⟩, (htrackball _).trans ?_, rfl⟩
      cases state.flashMode <;> rfl

/-- The statuses behind a sequence of calls are those of the state applied last. -/
theorem preStatus_run (s : LightsModule) (calls : List LightCall) (led : Led) :
    (run setLight s calls).preStatus led =
      ((applied s calls).getLast?.map fun state => state.status led).getD (s.preStatus led) := by
  induction calls generalizing s with
  | nil => rfl
  | cons call calls ih =>
      obtain ⟨t, hstatus, hcall⟩ := setLight_eq_foldl s call
      have hone : (setLight s call).preStatus led =
          ((appliedStates s call).getLast?.map fun state => state.status led).getD
            (s.preStatus led) := by
        rw [hcall, preStatus_foldl, hstatus]
      rw [run_cons, ih, hone, applied, List.getLast?_append]
      cases (applied (setLight s call) calls).getLast? <;> rfl

/-- After any calls, if red and green are both on, the colour applied last was orange,
and both have the same status. -/
theorem orange_of_both_on (haveTrackballLight : Bool) (calls : List LightCall)
    (hred : (run setLight (.start haveTrackballLight) calls).preStatus .red ≠ .off)
    (hgreen : (run setLight (.start haveTrackballLight) calls).preStatus .green ≠ .off) :
    (∃ state, (applied (.start haveTrackballLight) calls).getLast? = some state ∧
        state.color = 0xFFFF6200#32) ∧
      (run setLight (.start haveTrackballLight) calls).preStatus .red =
        (run setLight (.start haveTrackballLight) calls).preStatus .green := by
  rw [preStatus_run] at hred hgreen
  rw [preStatus_run, preStatus_run]
  cases hlast : (applied (.start haveTrackballLight) calls).getLast? with
  | none =>
      rw [hlast] at hred
      exact absurd rfl hred
  | some state =>
      rw [hlast] at hred hgreen
      obtain ⟨hcolor, hsame⟩ := LightState.orange_of_status hred hgreen
      exact ⟨⟨state, rfl, hcolor⟩, hsame⟩

/-- An orange notification, with a battery state that lights nothing. -/
theorem orange_of_both_on_notification :
    let calls : List LightCall := [⟨.notifications, ⟨0xFFFF6200#32, .timed, 500, 500⟩⟩]
    (∃ state, (applied (.start false) calls).getLast? = some state ∧
        state.color = 0xFFFF6200#32) ∧
      (run setLight (.start false) calls).preStatus .red =
        (run setLight (.start false) calls).preStatus .green :=
  orange_of_both_on false _ (by decide) (by decide)

/-! ## Battery before notification -/

/-- Alpha is not 0, and red or green is not. -/
def LightState.DrivesLed (state : LightState) : Prop :=
  state.channel 24 ≠ 0 ∧ (state.channel 16 ≠ 0 ∨ state.channel 8 ≠ 0)

instance decidableDrivesLed (state : LightState) : Decidable state.DrivesLed :=
  inferInstanceAs (Decidable (_ ∧ _))

/-- The LED was last written to be on. -/
def LightsModule.IsOn (s : LightsModule) (led : Led) : Prop := s.ledCommand led ≠ .off

/-- `set_speaker_light_locked` lights the LED for this state. -/
def LightState.LightsUp (state : LightState) (led : Led) : Prop :=
  ((LightsModule.start false).setSpeakerLightLocked state).IsOn led

theorem isOn_iff {s : LightsModule} (hs : Tracks s) (led : Led) :
    s.IsOn led ↔ s.preStatus led ≠ .off := by
  unfold LightsModule.IsOn
  rw [hs led]
  refine not_congr ⟨fun hoff => ?_, LedCommand.eq_off_of_status⟩
  rw [hoff]
  rfl

theorem isOn_setSpeakerLightLocked {s : LightsModule} (hs : Tracks s) (state : LightState)
    (led : Led) :
    (s.setSpeakerLightLocked state).IsOn led ↔ state.status led ≠ .off := by
  rw [isOn_iff (setSpeakerLightLocked_spec hs state).1, preStatus_setSpeakerLightLocked]

/-- Which LEDs a state lights does not depend on what they showed. -/
theorem lightsUp_iff (state : LightState) (led : Led) :
    state.LightsUp led ↔ state.status led ≠ .off :=
  isOn_setSpeakerLightLocked (tracks_start false) state led

theorem status_eq_off_iff (state : LightState) (led : Led) :
    state.status led = .off ↔ state.level led = 0 := by
  unfold LightState.status nowStatus
  split
  · rename_i hzero
    exact iff_of_true rfl hzero
  · rename_i hlevel
    refine iff_of_false ?_ hlevel
    split <;> simp

theorem exists_lightsUp_iff (state : LightState) :
    (∃ led, state.LightsUp led) ↔ state.DrivesLed := by
  simp only [lightsUp_iff, ne_eq, status_eq_off_iff]
  unfold LightState.DrivesLed
  constructor
  · intro h
    obtain ⟨led, hlevel⟩ := h
    cases led with
    | red =>
        by_cases halpha : state.channel 24 = 0
        · simp [LightState.level, LightState.red, halpha] at hlevel
        · refine ⟨halpha, .inl ?_⟩
          simpa [LightState.level, LightState.red, halpha] using hlevel
    | green =>
        by_cases halpha : state.channel 24 = 0
        · simp [LightState.level, LightState.red, LightState.green, halpha] at hlevel
        · refine ⟨halpha, ?_⟩
          by_cases hred : state.channel 16 = 0
          · right
            simpa [LightState.level, LightState.red, LightState.green, halpha, hred] using hlevel
          · exact .inl hred
  · intro h
    obtain ⟨halpha, hcolor⟩ := h
    by_cases hred : state.channel 16 = 0
    · refine ⟨.green, ?_⟩
      have hgreen : state.channel 8 ≠ 0 := hcolor.resolve_left (fun hne => hne hred)
      simpa [LightState.level, LightState.red, LightState.green, halpha, hred] using hgreen
    · refine ⟨.red, ?_⟩
      simpa [LightState.level, LightState.red, halpha] using hred

/-- A state that drives an LED is lit. -/
theorem isLit_of_drivesLed {state : LightState} (h : state.DrivesLed) : state.isLit ≠ 0 := by
  intro hunlit
  rcases h.2 with hred | hgreen
  · exact hred (channel_eq_zero_of_isLit hunlit (by decide))
  · exact hgreen (channel_eq_zero_of_isLit hunlit (by decide))

/-- If the battery state lights an LED, the LEDs that are on are those it lights, else
they are those the notification state lights. -/
def ArbitratedByLight (s : LightsModule) : Prop :=
  ((∃ led, s.gBattery.LightsUp led) → ∀ led, s.IsOn led ↔ s.gBattery.LightsUp led) ∧
    ((¬ ∃ led, s.gBattery.LightsUp led) → ∀ led, s.IsOn led ↔ s.gNotification.LightsUp led)

/-- The battery state has a colour but drives no LED, and the notification state drives
one. -/
def HidesNotification (s : LightsModule) : Prop :=
  s.gBattery.isLit ≠ 0 ∧ ¬ s.gBattery.DrivesLed ∧ s.gNotification.DrivesLed

/-- The remembered statuses are those of the selected state, whatever the files hold. -/
def RemembersSelected (s : LightsModule) : Prop := ∀ led, s.preStatus led = s.selected.status led

theorem remembersSelected_start (haveTrackballLight : Bool) :
    RemembersSelected (.start haveTrackballLight) := by
  have hselected : (LightsModule.start haveTrackballLight).selected = .zero := ite_self _
  intro led
  rw [hselected]
  cases led <;> rfl

theorem getLast?_selectedStates (s : LightsModule) :
    s.selectedStates.getLast? = some s.selected := by
  unfold LightsModule.selectedStates LightsModule.selected
  split <;> rfl

theorem selected_foldl (states : List LightState) (s : LightsModule) :
    (states.foldl LightsModule.setSpeakerLightLocked s).selected = s.selected := by
  induction states generalizing s with
  | nil => rfl
  | cons state states ih =>
      rw [List.foldl_cons, ih, (onlyLeds_setSpeakerLightLocked s state).selected]

theorem remembersSelected_handleSpeakerBatteryLocked (s : LightsModule) :
    RemembersSelected s.handleSpeakerBatteryLocked := by
  intro led
  rw [handleSpeakerBatteryLocked_eq_foldl, preStatus_foldl, selected_foldl,
    getLast?_selectedStates]
  rfl

/-- Every call leaves the statuses of the selected state. -/
theorem RemembersSelected.setLight {s : LightsModule} (hs : RemembersSelected s)
    (call : LightCall) : RemembersSelected (setLight s call) := by
  have htrackball : ∀ t : LightsModule, RemembersSelected t →
      RemembersSelected (if t.gHaveTrackballLight then t.handleTrackballLightLocked else t) := by
    intro t ht
    obtain ⟨_, hsame⟩ := trackball_eq t
    rw [hsame]
    exact ht
  obtain ⟨id, state⟩ := call
  cases id with
  | backlight => exact htrackball _ hs
  | keyboard | buttons => exact hs
  | battery | notifications => exact remembersSelected_handleSpeakerBatteryLocked _
  | attention =>
      apply htrackball
      cases state.flashMode <;> exact hs

theorem remembersSelected_run (haveTrackballLight : Bool) (calls : List LightCall) :
    RemembersSelected (run setLight (.start haveTrackballLight) calls) := by
  have hstep : ∀ s call, RemembersSelected s → RemembersSelected (Lights.setLight s call) :=
    fun _ call hs => hs.setLight call
  exact run_of_invariant hstep (remembersSelected_start haveTrackballLight) calls

/-- The LEDs are arbitrated by what the battery state lights, whatever calls came before,
if and only if the battery state does not have a colour that drives no LED while the
notification state drives one. -/
theorem arbitratedByLight_iff (haveTrackballLight : Bool) (calls : List LightCall) :
    ArbitratedByLight (run setLight (.start haveTrackballLight) calls) ↔
      ¬ HidesNotification (run setLight (.start haveTrackballLight) calls) := by
  have htracks := tracks_run haveTrackballLight calls
  have hremembers := remembersSelected_run haveTrackballLight calls
  generalize run setLight (.start haveTrackballLight) calls = s at htracks hremembers ⊢
  have hon : ∀ led, s.IsOn led ↔ s.selected.LightsUp led := by
    intro led
    rw [isOn_iff htracks, hremembers led, lightsUp_iff]
  have hdark : ∀ state : LightState, ¬ state.DrivesLed → ∀ led, ¬ state.LightsUp led := by
    intro state hnot led hled
    exact hnot ((exists_lightsUp_iff state).mp ⟨led, hled⟩)
  unfold ArbitratedByLight HidesNotification
  simp only [hon, exists_lightsUp_iff]
  unfold LightsModule.selected
  by_cases hlit : s.gBattery.isLit ≠ 0
  · rw [if_pos hlit]
    constructor
    · intro h
      rintro ⟨-, hbattery, hnotification⟩
      obtain ⟨led, hled⟩ := (exists_lightsUp_iff s.gNotification).mpr hnotification
      exact hdark _ hbattery led ((h.2 hbattery led).mpr hled)
    · intro h
      refine ⟨fun _ led => Iff.rfl, fun hbattery led => ?_⟩
      have hnotification : ¬ s.gNotification.DrivesLed := fun hdrives =>
        h ⟨hlit, hbattery, hdrives⟩
      exact iff_of_false (hdark _ hbattery led) (hdark _ hnotification led)
  · rw [if_neg hlit]
    refine iff_of_true ⟨fun hbattery => ?_, fun _ led => Iff.rfl⟩ fun h => hlit h.1
    exact absurd (isLit_of_drivesLed hbattery) hlit

/-- A blue battery state and a green notification: both LEDs stay dark. -/
theorem setLightBattery_blue :
    let calls : List LightCall :=
      [⟨.notifications, ⟨0xFF00FF00#32, .none, 0, 0⟩⟩, ⟨.battery, ⟨0xFF0000FF#32, .none, 0, 0⟩⟩]
    let s := run setLight (.start false) calls
    s.gNotification.LightsUp .green ∧ ¬ s.IsOn .red ∧ ¬ s.IsOn .green ∧
      ¬ ArbitratedByLight s := by
  intro calls s
  have hgreen : s.gNotification.LightsUp .green := by
    rw [lightsUp_iff]
    decide
  have hbattery : ¬ ∃ led, s.gBattery.LightsUp led := by
    rw [exists_lightsUp_iff]
    decide
  have hdark : ∀ led, ¬ s.IsOn led := by
    intro led
    rw [isOn_iff (tracks_run false calls)]
    cases led <;> decide
  refine ⟨hgreen, hdark .red, hdark .green, ?_⟩
  intro h
  exact hdark .green ((h.2 hbattery .green).mpr hgreen)

end MediatekCommon.Lights
