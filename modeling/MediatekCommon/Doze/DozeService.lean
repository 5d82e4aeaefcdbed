/-
  Doze/DozeService.lean --- `DozeService`: the sensors follow the display.

  With the display off the service registers the listener of each sensor whose gesture
  is enabled; with the display on it unregisters those whose gesture is enabled then.  A
  gesture that is switched off in between leaves its listener registered.  Destroying the
  service unregisters both.

  The device has both sensors, so a listener that is registered stays so until it is
  unregistered.
-/
import MediatekCommon.Doze.ProximitySensor
import MediatekCommon.Doze.TiltSensor

set_option autoImplicit false

namespace MediatekCommon.Doze

open MediatekCommon.Foundation

/-- `ACTION_SCREEN_ON` or `ACTION_SCREEN_OFF`. -/
inductive ScreenState where
  | on
  | off
  deriving DecidableEq, Repr

/-- A `DozeService` and the device it runs on. -/
structure DozeService (ρ : Type) where
  /-- The context, with the preferences of the gestures. -/
  device : Device
  mProximitySensor : ProximitySensor ρ
  mTiltSensor : TiltSensor
  /-- Whether `mScreenStateReceiver` is registered. -/
  receiving : Bool
  /-- The screen broadcast handled last. -/
  lastScreen : Option ScreenState
  destroyed : Bool

/-- What happens to the service. -/
inductive ServiceEvent where
  | screenOn
  /-- The screen goes off, at this time. -/
  | screenOff (now : Int64)
  /-- The preference of a gesture is stored. -/
  | setGesture (gesture : Gesture) (value : Bool)
  | destroy
  deriving DecidableEq, Repr

namespace DozeService

variable {ρ : Type}

/-- `onCreate()`. -/
def onCreate (device : Device) (maximumRange : ρ) : DozeService ρ where
  device := device
  mProximitySensor := .create maximumRange
  mTiltSensor := .create
  receiving := true
  lastScreen := none
  destroyed := false

/-- Some gesture of the proximity sensor is enabled. -/
def proximityEnabled (s : DozeService ρ) : Bool :=
  s.device.handwaveGestureEnabled || s.device.pocketGestureEnabled

def onDisplayOn (s : DozeService ρ) : DozeService ρ :=
  let s :=
    if s.device.pickUpEnabled then { s with mTiltSensor := s.mTiltSensor.disable } else s
  if s.proximityEnabled then { s with mProximitySensor := s.mProximitySensor.disable } else s

def onDisplayOff (s : DozeService ρ) (now : Int64) : DozeService ρ :=
  let s :=
    if s.device.pickUpEnabled then { s with mTiltSensor := s.mTiltSensor.enable now } else s
  if s.proximityEnabled then { s with mProximitySensor := s.mProximitySensor.enable } else s

def onDestroy (s : DozeService ρ) : DozeService ρ :=
  { s with
    receiving := false
    mProximitySensor := s.mProximitySensor.disable
    mTiltSensor := s.mTiltSensor.disable
    destroyed := true }

/-- One event; broadcasts reach a registered receiver only, and a service is destroyed
once. -/
def step (s : DozeService ρ) : ServiceEvent → DozeService ρ
  | .screenOn => if s.receiving then { s.onDisplayOn with lastScreen := some .on } else s
  | .screenOff now =>
      if s.receiving then { s.onDisplayOff now with lastScreen := some .off } else s
  | .setGesture gesture value =>
      { s with device := { s.device with
          gestures := Function.update s.device.gestures gesture (some value) } }
  | .destroy => if s.destroyed then s else s.onDestroy

/-- With the display on, or the service destroyed, no listener is registered. -/
def NoListener (s : DozeService ρ) : Prop :=
  s.lastScreen = some .on ∨ s.destroyed = true →
    s.mTiltSensor.registered = false ∧ s.mProximitySensor.registered = false

/-- When the screen goes on, the gesture of every registered listener is still enabled. -/
def StillEnabled (s : DozeService ρ) : ServiceEvent → Prop
  | .screenOn => s.receiving = true →
      (s.mTiltSensor.registered = true → s.device.pickUpEnabled = true) ∧
        (s.mProximitySensor.registered = true → s.proximityEnabled = true)
  | _ => True

/-! ## What each event leaves registered -/

theorem registered_onDisplayOn (s : DozeService ρ) :
    s.onDisplayOn.mTiltSensor.registered =
        (s.mTiltSensor.registered && !s.device.pickUpEnabled) ∧
      s.onDisplayOn.mProximitySensor.registered =
        (s.mProximitySensor.registered && !s.proximityEnabled) := by
  have hframe : ∀ tilt : TiltSensor,
      ({ s with mTiltSensor := tilt } : DozeService ρ).proximityEnabled = s.proximityEnabled :=
    fun _ => rfl
  unfold onDisplayOn
  cases hpick : s.device.pickUpEnabled <;> cases hproximity : s.proximityEnabled <;>
    simp [hframe, hproximity, TiltSensor.disable, ProximitySensor.disable]

/-- A destroyed service receives nothing more and has nothing registered, and a service
that still exists receives the broadcasts. -/
structure Lifecycle (s : DozeService ρ) : Prop where
  receiving : s.receiving = !s.destroyed
  destroyed : s.destroyed = true →
    s.mTiltSensor.registered = false ∧ s.mProximitySensor.registered = false

theorem lifecycle_onCreate (device : Device) (maximumRange : ρ) :
    Lifecycle (onCreate device maximumRange) :=
  ⟨rfl, fun h => absurd h Bool.false_ne_true⟩

theorem Lifecycle.not_destroyed {s : DozeService ρ} (hs : Lifecycle s)
    (hreceiving : s.receiving = true) : s.destroyed = false := by
  simpa [hreceiving] using hs.receiving

/-- Handling a broadcast changes nothing but the sensors and the broadcast remembered. -/
theorem Lifecycle.handle {s t : DozeService ρ} (hs : Lifecycle s) (hreceiving : s.receiving = true)
    (hframe : t.destroyed = s.destroyed ∧ t.receiving = s.receiving) (screen : ScreenState) :
    Lifecycle { t with lastScreen := some screen } := by
  refine ⟨?_, fun hdestroyed => ?_⟩
  · simpa only [hframe.1, hframe.2] using hs.receiving
  · have hgone : t.destroyed = true := hdestroyed
    rw [hframe.1, hs.not_destroyed hreceiving] at hgone
    cases hgone

theorem frame_onDisplayOn (s : DozeService ρ) :
    s.onDisplayOn.destroyed = s.destroyed ∧ s.onDisplayOn.receiving = s.receiving := by
  unfold onDisplayOn
  dsimp only
  split <;> split <;> exact ⟨rfl, rfl⟩

theorem frame_onDisplayOff (s : DozeService ρ) (now : Int64) :
    (s.onDisplayOff now).destroyed = s.destroyed ∧
      (s.onDisplayOff now).receiving = s.receiving := by
  unfold onDisplayOff
  dsimp only
  split <;> split <;> exact ⟨rfl, rfl⟩

theorem Lifecycle.step {s : DozeService ρ} (hs : Lifecycle s) (e : ServiceEvent) :
    Lifecycle (s.step e) := by
  cases e with
  | screenOn =>
      unfold DozeService.step
      dsimp only
      split
      · rename_i hreceiving
        exact hs.handle hreceiving (frame_onDisplayOn s) .on
      · exact hs
  | screenOff now =>
      unfold DozeService.step
      dsimp only
      split
      · rename_i hreceiving
        exact hs.handle hreceiving (frame_onDisplayOff s now) .off
      · exact hs
  | setGesture gesture value => exact ⟨hs.receiving, hs.destroyed⟩
  | destroy =>
      unfold DozeService.step
      dsimp only
      split
      · exact hs
      · exact ⟨rfl, fun _ => ⟨rfl, rfl⟩⟩

/-! ## When nothing stays registered -/

/-- From a state without a stray listener, a step ends in such a state exactly if the
screen does not go on while a listener is registered whose gesture was switched off. -/
theorem noListener_step_iff {s : DozeService ρ} (hs : Lifecycle s) (hquiet : NoListener s)
    (e : ServiceEvent) : NoListener (s.step e) ↔ StillEnabled s e := by
  cases e with
  | screenOn =>
      unfold DozeService.step StillEnabled
      dsimp only
      split
      · rename_i hreceiving
        obtain ⟨htilt, hproximity⟩ := registered_onDisplayOn s
        simp only [NoListener, htilt, hproximity, hreceiving, true_or, true_imp_iff,
          Bool.and_eq_false_imp, Bool.not_eq_false']
      · rename_i hreceiving
        exact iff_of_true hquiet fun h => absurd h hreceiving
  | screenOff now =>
      refine iff_of_true ?_ trivial
      unfold DozeService.step
      dsimp only
      split
      · rename_i hreceiving
        intro h
        rcases h with hscreen | hdestroyed
        · cases hscreen
        · have hgone : (s.onDisplayOff now).destroyed = true := hdestroyed
          rw [(frame_onDisplayOff s now).1, hs.not_destroyed hreceiving] at hgone
          cases hgone
      · exact hquiet
  | setGesture gesture value => exact iff_of_true hquiet trivial
  | destroy =>
      refine iff_of_true ?_ trivial
      unfold DozeService.step
      dsimp only
      split
      · exact hquiet
      · exact fun _ => ⟨rfl, rfl⟩

/-- However broadcasts, changes of the preferences and the destruction of the service
interleave, no listener is registered while the display is on or after the service is
destroyed, if and only if the screen never goes on while a listener is registered whose
gesture has been switched off. -/
theorem always_noListener_iff (device : Device) (maximumRange : ρ) (es : List ServiceEvent) :
    Always step NoListener (onCreate device maximumRange) es ↔
      Along step StillEnabled (onCreate device maximumRange) es := by
  have hstep : ∀ (s : DozeService ρ) e, Lifecycle s → Lifecycle (s.step e) :=
    fun _ e hs => hs.step e
  have hall := along_of_invariant hstep (lifecycle_onCreate device maximumRange) es
  apply always_iff_along _ hall
  · exact fun _ => ⟨rfl, rfl⟩
  · intro s e hs hquiet
    exact noListener_step_iff hs hquiet e

/-- Pick-up is switched off while the display is off: the tilt listener stays registered
when the display goes on. -/
theorem onDisplayOn_pickUp_off :
    let es : List ServiceEvent := [.screenOff 0, .setGesture .pickUp false, .screenOn]
    let start : DozeService Nat := onCreate (.start none fun _ => some true) 5
    let s := run step start es
    s.lastScreen = some .on ∧ s.mTiltSensor.registered = true ∧
      ¬ Always step NoListener start es := by
  intro es start s
  have hregistered : s.mTiltSensor.registered = true := by decide
  refine ⟨by decide, hregistered, ?_⟩
  intro h
  have hlast : NoListener s := (always_iff_forall_isPrefix.mp h) es (List.prefix_refl _)
  rw [(hlast (.inl (by decide))).1] at hregistered
  cases hregistered

end DozeService

end MediatekCommon.Doze
