/-
  Doze/Settings.lean --- the doze settings and the service they start.

  Three entry points decide whether `DozeService` runs.  `BootCompletedReceiver`
  starts it when doze and a gesture are enabled; the master switch of
  `DozeSettingsFragment` starts or stops it by doze alone; the change listener of
  the fragment does the same for a gesture switch, but it is registered on none of
  them, so a gesture switch only stores its value.

  The invariant (`Consistent`) says that the open settings show what is stored and
  that the service is stopped while doze is disabled.  From a consistent state only
  a gesture that is switched on while the service is stopped can leave it stopped
  although it is needed, and such a step always does.
-/
import MediatekCommon.Foundation.Runs
import Mathlib.Logic.Function.Basic

set_option autoImplicit false

namespace MediatekCommon.Doze

open MediatekCommon.Foundation

/-! ## The device -/

/-- The gestures with a switch of their own: `gesture_pick_up`,
`gesture_hand_wave` and `gesture_pocket`. -/
inductive Gesture where
  | pickUp
  | handWave
  | pocket
  deriving DecidableEq, Repr

/-- A `SwitchPreference`. -/
structure SwitchPreference where
  checked : Bool
  enabled : Bool
  /-- Whether the fragment was registered with `setOnPreferenceChangeListener`. -/
  listening : Bool
  deriving DecidableEq, Repr

/-- The views of an open `DozeSettingsFragment`. -/
structure DozeSettingsFragment where
  /-- `switchWidget`, checked or not. -/
  switchWidget : Bool
  /-- Whether `mTextView` reads `switch_bar_on`. -/
  mTextView : Bool
  /-- `mPickUpPreference`, `mHandwavePreference` and `mPocketPreference`. -/
  preference : Gesture → SwitchPreference

/-- The stored settings, the service and the settings screen. -/
structure Device where
  /-- `Settings.Secure.DOZE_ENABLED`, if stored. -/
  dozeEnabled : Option Int
  /-- The shared preference of each gesture, if stored. -/
  gestures : Gesture → Option Bool
  serviceStarted : Bool
  /-- The settings screen, once it is open. -/
  fragment : Option DozeSettingsFragment
  /-- Whether `BOOT_COMPLETED` has been received. -/
  bootCompleted : Bool
  /-- The position the master switch was last toggled to. -/
  lastMaster : Option Bool

namespace Device

/-- A device that has just started, with these stored settings. -/
def start (dozeEnabled : Option Int) (gestures : Gesture → Option Bool) : Device where
  dozeEnabled := dozeEnabled
  gestures := gestures
  serviceStarted := false
  fragment := none
  bootCompleted := false
  lastMaster := none

/-! ## `Utils` -/

def startService (s : Device) : Device := { s with serviceStarted := true }

def stopService (s : Device) : Device := { s with serviceStarted := false }

def isDozeEnabled (s : Device) : Bool := s.dozeEnabled.getD 1 != 0

def enableDoze (s : Device) (enable : Bool) : Device :=
  { s with dozeEnabled := some (if enable then 1 else 0) }

def checkDozeService (s : Device) : Device :=
  if s.isDozeEnabled then s.startService else s.stopService

/-- The stored value of a gesture, false by default. -/
def gestureEnabled (s : Device) (g : Gesture) : Bool := (s.gestures g).getD false

def pickUpEnabled (s : Device) : Bool := s.gestureEnabled .pickUp

def handwaveGestureEnabled (s : Device) : Bool := s.gestureEnabled .handWave

def pocketGestureEnabled (s : Device) : Bool := s.gestureEnabled .pocket

def sensorsEnabled (s : Device) : Bool :=
  s.pickUpEnabled || s.handwaveGestureEnabled || s.pocketGestureEnabled

/-! ## `BootCompletedReceiver` and `DozeSettingsFragment` -/

/-- `BootCompletedReceiver.onReceive`. -/
def onReceive (s : Device) : Device :=
  if s.isDozeEnabled && s.sensorsEnabled then s.startService else s

/-- `onCreatePreferences`: the three preferences, with the stored values.  No change
listener is set on any of them. -/
def onCreatePreferences (s : Device) : Gesture → SwitchPreference := fun g =>
  { checked := s.gestureEnabled g, enabled := s.isDozeEnabled, listening := false }

/-- `onCreatePreferences` and `onViewCreated`. -/
def onViewCreated (s : Device) : DozeSettingsFragment where
  switchWidget := s.isDozeEnabled
  mTextView := s.isDozeEnabled
  preference := s.onCreatePreferences

/-- `onPreferenceChange`: whether the new value is accepted. -/
def onPreferenceChange (s : Device) : Bool × Device := (true, s.checkDozeService)

/-- `onCheckedChanged(compoundButton, b)`. -/
def onCheckedChanged (s : Device) (fragment : DozeSettingsFragment) (b : Bool) : Device :=
  let s := (s.enableDoze b).checkDozeService
  { s with
    fragment := some { fragment with
      mTextView := b
      preference := fun g => { fragment.preference g with enabled := b } } }

/-- The user toggles the master switch. -/
def toggleMaster (s : Device) : Device :=
  match s.fragment with
  | none => s
  | some fragment =>
      let b := !fragment.switchWidget
      { s.onCheckedChanged { fragment with switchWidget := b } b with lastMaster := some b }

/-- The user toggles a gesture switch.  A disabled preference ignores the click; an
enabled one asks its listener, if it has one, and then stores the new value. -/
def toggleGesture (s : Device) (g : Gesture) : Device :=
  match s.fragment with
  | none => s
  | some fragment =>
      let preference := fragment.preference g
      if preference.enabled then
        let newValue := !preference.checked
        let (accepted, s) := if preference.listening then s.onPreferenceChange else (true, s)
        if accepted then
          { s with
            gestures := Function.update s.gestures g (some newValue)
            fragment := some { fragment with
              preference := Function.update fragment.preference g
                { preference with checked := newValue } } }
        else s
      else s

end Device

/-! ## Runs -/

/-- What happens to the device. -/
inductive DozeEvent where
  | bootCompleted
  /-- The settings screen is opened. -/
  | openSettings
  | toggleMaster
  | toggleGesture (g : Gesture)
  deriving DecidableEq, Repr

/-- One event. -/
def step (s : Device) : DozeEvent → Device
  | .bootCompleted => { s.onReceive with bootCompleted := true }
  | .openSettings => { s with fragment := some s.onViewCreated }
  | .toggleMaster => s.toggleMaster
  | .toggleGesture g => s.toggleGesture g

/-- After the boot, the service is started while doze and a gesture are enabled, and
stopped if the master switch was last toggled off. -/
def ServiceRuns (s : Device) : Prop :=
  s.bootCompleted = true →
    (s.isDozeEnabled = true → s.sensorsEnabled = true → s.serviceStarted = true) ∧
      (s.lastMaster = some false → s.serviceStarted = false)

/-- No gesture is switched on in the open settings while, after the boot, doze is
enabled and the service is stopped. -/
def NotSilent (s : Device) : DozeEvent → Prop
  | .toggleGesture g => s.fragment.isSome = true → s.gestureEnabled g = false →
      s.bootCompleted = true → s.isDozeEnabled = true → s.serviceStarted = true
  | _ => True

/-! ## The invariant -/

/-- The open settings show what is stored, doze is where the master switch was last
toggled to, and the service is stopped while doze is disabled. -/
structure Consistent (s : Device) : Prop where
  fragment : ∀ f, s.fragment = some f → f = s.onViewCreated
  master : ∀ b, s.lastMaster = some b → s.isDozeEnabled = b
  stopped : s.isDozeEnabled = false → s.serviceStarted = false

theorem consistent_start (dozeEnabled : Option Int) (gestures : Gesture → Option Bool) :
    Consistent (.start dozeEnabled gestures) where
  fragment := by simp [Device.start]
  master := by simp [Device.start]
  stopped := fun _ => rfl

@[simp] theorem isDozeEnabled_enableDoze (s : Device) (b : Bool) :
    (s.enableDoze b).isDozeEnabled = b := by
  cases b <;> rfl

/-- The master switch flips doze and has the service follow it; the screen shows what
it would show if it were opened anew. -/
theorem toggleMaster_of_open {s : Device} {f : DozeSettingsFragment} (hs : Consistent s)
    (hf : s.fragment = some f) :
    s.toggleMaster = step { s with
      dozeEnabled := some (if !s.isDozeEnabled then 1 else 0)
      serviceStarted := !s.isDozeEnabled
      lastMaster := some (!s.isDozeEnabled) } .openSettings := by
  obtain rfl := hs.fragment f hf
  simp only [Device.toggleMaster, hf, Device.onCheckedChanged, Device.checkDozeService,
    isDozeEnabled_enableDoze, Device.onViewCreated]
  cases s.isDozeEnabled <;> rfl

/-- The screen after one value has been stored. -/
theorem onViewCreated_update (s : Device) (g : Gesture) (value : Bool) :
    Device.onViewCreated { s with gestures := Function.update s.gestures g (some value) } =
      { s.onViewCreated with
        preference := Function.update s.onCreatePreferences g
          { checked := value, enabled := s.isDozeEnabled, listening := false } } := by
  simp only [Device.onViewCreated, DozeSettingsFragment.mk.injEq]
  refine ⟨rfl, rfl, ?_⟩
  funext g'
  by_cases hg : g' = g
  · subst hg
    simp [Device.onCreatePreferences, Device.gestureEnabled, Device.isDozeEnabled]
  · simp [Device.onCreatePreferences, Device.gestureEnabled, Device.isDozeEnabled, hg]

/-- A gesture switch stores its new value while doze is enabled, and does nothing
else. -/
theorem toggleGesture_of_open {s : Device} {f : DozeSettingsFragment} (hs : Consistent s)
    (hf : s.fragment = some f) (g : Gesture) :
    s.toggleGesture g =
      if s.isDozeEnabled then
        step { s with gestures := Function.update s.gestures g (some (!s.gestureEnabled g)) }
          .openSettings
      else s := by
  obtain rfl := hs.fragment f hf
  have hpreference : s.onViewCreated.preference g =
      ⟨s.gestureEnabled g, s.isDozeEnabled, false⟩ := rfl
  simp only [step, onViewCreated_update]
  simp only [Device.toggleGesture, hf, hpreference, Bool.false_eq_true, if_false, if_true]
  split <;> rfl

theorem consistent_openSettings {s : Device} (hmaster : ∀ b, s.lastMaster = some b →
    s.isDozeEnabled = b) (hstopped : s.isDozeEnabled = false → s.serviceStarted = false) :
    Consistent (step s .openSettings) where
  fragment := by
    intro f hf
    exact (Option.some.inj hf).symm
  master := hmaster
  stopped := hstopped

/-- Every event keeps the device consistent. -/
theorem Consistent.step {s : Device} (hs : Consistent s) (e : DozeEvent) :
    Consistent (step s e) := by
  cases e with
  | bootCompleted =>
      simp only [Doze.step, Device.onReceive]
      split
      · rename_i hstart
        rw [Bool.and_eq_true] at hstart
        refine ⟨hs.fragment, hs.master, ?_⟩
        intro hdisabled
        have hold : s.isDozeEnabled = false := hdisabled
        simp [hstart.1] at hold
      · exact ⟨hs.fragment, hs.master, hs.stopped⟩
  | openSettings => exact consistent_openSettings hs.master hs.stopped
  | toggleMaster =>
      cases hf : s.fragment with
      | none => simpa only [Doze.step, Device.toggleMaster, hf] using hs
      | some f =>
          rw [Doze.step, toggleMaster_of_open hs hf]
          apply consistent_openSettings
          · intro b hb
            cases hold : s.isDozeEnabled <;> simp_all [Device.isDozeEnabled]
          · cases hold : s.isDozeEnabled <;> simp_all [Device.isDozeEnabled]
  | toggleGesture g =>
      cases hf : s.fragment with
      | none => simpa only [Doze.step, Device.toggleGesture, hf] using hs
      | some f =>
          rw [Doze.step, toggleGesture_of_open hs hf]
          split
          · exact consistent_openSettings hs.master hs.stopped
          · exact hs

/-! ## When the service runs -/

theorem sensorsEnabled_iff (s : Device) :
    s.sensorsEnabled = true ↔ ∃ g, s.gestureEnabled g = true := by
  simp only [Device.sensorsEnabled, Device.pickUpEnabled, Device.handwaveGestureEnabled,
    Device.pocketGestureEnabled, Bool.or_eq_true]
  constructor
  · intro h
    rcases h with (h | h) | h
    · exact ⟨.pickUp, h⟩
    · exact ⟨.handWave, h⟩
    · exact ⟨.pocket, h⟩
  · intro h
    obtain ⟨g, hg⟩ := h
    cases g with
    | pickUp => exact .inl (.inl hg)
    | handWave => exact .inl (.inr hg)
    | pocket => exact .inr hg

/-- In a consistent state only a missing service is at stake: one that was switched
off is stopped. -/
theorem serviceRuns_iff {s : Device} (hs : Consistent s) :
    ServiceRuns s ↔ (s.bootCompleted = true → s.isDozeEnabled = true →
      s.sensorsEnabled = true → s.serviceStarted = true) := by
  refine forall_congr' fun _ => ?_
  exact and_iff_left fun hoff => hs.stopped (hs.master false hoff)

/-- From a consistent state in which the service runs as needed, a step ends in such
a state exactly if no gesture is switched on while the service is stopped. -/
theorem serviceRuns_step_iff {s : Device} (hs : Consistent s) (hruns : ServiceRuns s)
    (e : DozeEvent) : ServiceRuns (step s e) ↔ NotSilent s e := by
  have hneeded := (serviceRuns_iff hs).mp hruns
  rw [serviceRuns_iff (hs.step e)]
  cases e with
  | bootCompleted =>
      refine iff_of_true ?_ trivial
      intro _ henabled hsensors
      simp only [step, Device.onReceive] at henabled hsensors ⊢
      split
      · rfl
      · rename_i hstart
        simp only [hstart, Bool.false_eq_true, if_false] at henabled hsensors
        exact absurd (Bool.and_eq_true _ _ ▸ ⟨henabled, hsensors⟩) hstart
  | openSettings => exact iff_of_true hneeded trivial
  | toggleMaster =>
      refine iff_of_true ?_ trivial
      cases hf : s.fragment with
      | none => simpa only [step, Device.toggleMaster, hf] using hneeded
      | some f =>
          rw [step, toggleMaster_of_open hs hf]
          intro _ henabled _
          cases hold : s.isDozeEnabled <;> simp_all [step, Device.isDozeEnabled]
  | toggleGesture g =>
      cases hf : s.fragment with
      | none =>
          simp only [step, Device.toggleGesture, hf]
          exact iff_of_true hneeded (by simp [NotSilent, hf])
      | some f =>
          rw [step, toggleGesture_of_open hs hf]
          split
          · rename_i henabled
            constructor
            · intro h _ hoff hboot _
              refine h hboot henabled ((sensorsEnabled_iff _).mpr ⟨g, ?_⟩)
              simpa [step, Device.gestureEnabled] using hoff
            · intro h hboot _ _
              cases hg : s.gestureEnabled g with
              | false => exact h (by simp [hf]) hg hboot henabled
              | true => exact hneeded hboot henabled ((sensorsEnabled_iff s).mpr ⟨g, hg⟩)
          · rename_i hdisabled
            refine iff_of_true hneeded ?_
            intro _ _ _ henabled
            exact absurd henabled hdisabled

/-- After the boot, in every state of a run, the service is started while it is
needed and stopped once doze was switched off, if and only if no step of the run
switches a gesture on while doze is enabled and the service is stopped. -/
theorem always_serviceRuns_iff (dozeEnabled : Option Int) (gestures : Gesture → Option Bool)
    (es : List DozeEvent) :
    Always step ServiceRuns (.start dozeEnabled gestures) es ↔
      Along step NotSilent (.start dozeEnabled gestures) es := by
  have hstep : ∀ s e, Consistent s → Consistent (step s e) := fun s e hs => hs.step e
  have hall := along_of_invariant hstep (consistent_start dozeEnabled gestures) es
  apply always_iff_along _ hall
  · intro hboot
    cases hboot
  · intro s e hs hruns
    exact serviceRuns_step_iff hs hruns e

/-- Nothing stored, the boot, and pick-up switched on in the settings: doze and a
gesture are enabled and the service is stopped. -/
theorem pickUp_after_boot :
    let es := [.bootCompleted, .openSettings, .toggleGesture .pickUp]
    let s := run step (.start none fun _ => none) es
    s.bootCompleted = true ∧ s.isDozeEnabled = true ∧ s.pickUpEnabled = true ∧
      s.serviceStarted = false ∧ ¬ Always step ServiceRuns (.start none fun _ => none) es := by
  refine ⟨rfl, rfl, rfl, rfl, ?_⟩
  intro h
  have hlast := (always_iff_forall_isPrefix.mp h) _ (List.prefix_refl _)
  exact absurd ((hlast rfl).1 rfl rfl) (by decide)

end MediatekCommon.Doze
