/-
  Doze/Phone.lean --- the settings, the service and its sensors on one phone.

  The settings start and stop `DozeService`; the system creates an instance for a started
  service that has none, destroys the instance of a stopped one and, because the service
  is sticky, creates a new one when the process is started again.  The screen broadcasts
  reach the receiver of an instance, sensor events its registered listeners.

  The invariant (`Settled`) says that a started service has one instance, a stopped one
  none, and that a destroyed instance has nothing registered.  So a sensor event launches
  one pulse at most, and none while doze is disabled: the sensors never ask for that
  themselves.

  The life of a service is up to the system.  What is assumed of it is written down in
  `settle` and `restart`: starting a service without an instance creates one, stopping the
  service destroys its instance, both before the next event; a process that dies takes its
  instances and their listeners along, and when it is started again a sticky service that
  was not stopped gets a new instance.
-/
import MediatekCommon.Doze.DozeService

set_option autoImplicit false

namespace MediatekCommon.Doze

open MediatekCommon.Foundation

/-! ## The sensors -/

/-- The sensors whose listener the service registers. -/
inductive GestureSensor where
  | tilt
  | proximity
  deriving DecidableEq, Repr

/-- Some gesture of the sensor is enabled. -/
def Device.wants (s : Device) : GestureSensor → Bool
  | .tilt => s.pickUpEnabled
  | .proximity => s.handwaveGestureEnabled || s.pocketGestureEnabled

namespace DozeService

variable {ρ : Type}

/-- Whether the listener of the sensor is registered. -/
def listens (s : DozeService ρ) : GestureSensor → Bool
  | .tilt => s.mTiltSensor.registered
  | .proximity => s.mProximitySensor.registered

/-- A proximity event: whether a pulse is launched, and the instance after it.  Only a
registered listener is called. -/
def onProximity [LT ρ] [DecidableLT ρ] (s : DozeService ρ) (event : SensorEvent ρ) :
    Bool × DozeService ρ :=
  if s.mProximitySensor.registered then
    let (pulse, sensor) := s.mProximitySensor.onSensorChanged s.device event
    (pulse, { s with mProximitySensor := sensor })
  else (false, s)

/-- A tilt event, with what the clock reads first and then. -/
def onTilt [BEq ρ] [OfNat ρ 1] (s : DozeService ρ) (first second : Int64) (value : ρ) :
    Bool × DozeService ρ :=
  if s.mTiltSensor.registered then
    match s.mTiltSensor.onSensorChanged first second value with
    | none => (false, s)
    | some (pulse, sensor) => (pulse, { s with mTiltSensor := sensor })
  else (false, s)

/-- The second state is the first but for what the sensors remember. -/
structure SameListeners (s t : DozeService ρ) : Prop where
  device : t.device = s.device
  receiving : t.receiving = s.receiving
  destroyed : t.destroyed = s.destroyed
  listens : ∀ k, t.listens k = s.listens k

theorem SameListeners.refl (s : DozeService ρ) : SameListeners s s := ⟨rfl, rfl, rfl, fun _ => rfl⟩

theorem Lifecycle.listens {s : DozeService ρ} (hs : Lifecycle s) (hdestroyed : s.destroyed = true)
    (k : GestureSensor) : s.listens k = false := by
  cases k with
  | tilt => exact (hs.destroyed hdestroyed).1
  | proximity => exact (hs.destroyed hdestroyed).2

theorem SameListeners.lifecycle {s t : DozeService ρ} (h : SameListeners s t)
    (hs : Lifecycle s) : Lifecycle t where
  receiving := by rw [h.receiving, h.destroyed, hs.receiving]
  destroyed := by
    intro hdestroyed
    rw [h.destroyed] at hdestroyed
    exact ⟨(h.listens .tilt).trans (hs.listens hdestroyed .tilt),
      (h.listens .proximity).trans (hs.listens hdestroyed .proximity)⟩

theorem onProximity_spec [LT ρ] [DecidableLT ρ] (s : DozeService ρ) (event : SensorEvent ρ) :
    SameListeners s (s.onProximity event).2 ∧
      ((s.onProximity event).1 = true →
        s.listens .proximity = true ∧ s.device.wants .proximity = true) := by
  unfold onProximity
  split
  · rename_i hregistered
    obtain ⟨time, hafter, -⟩ := s.mProximitySensor.onSensorChanged_spec s.device event
    refine ⟨⟨rfl, rfl, rfl, ?_⟩, fun hpulse => ⟨hregistered, ?_⟩⟩
    · intro k
      cases k with
      | tilt => rfl
      | proximity => simp only [listens, hafter]
    · obtain ⟨-, -, hshould⟩ :=
        (ProximitySensor.onSensorChanged_pulses_iff s.mProximitySensor s.device event).mp hpulse
      rw [ProximityRun.shouldPulse_iff] at hshould
      rw [Device.wants, Bool.or_eq_true]
      rcases hshould with hboth | hwave | hpocket
      · exact .inl hboth.1
      · exact .inl hwave.1
      · exact .inr hpocket.2.1
  · exact ⟨.refl s, fun h => absurd h Bool.false_ne_true⟩

theorem onTilt_spec [BEq ρ] [OfNat ρ 1] (s : DozeService ρ) (first second : Int64) (value : ρ) :
    SameListeners s (s.onTilt first second value).2 ∧
      ((s.onTilt first second value).1 = true → s.listens .tilt = true) := by
  unfold onTilt
  split
  · rename_i hregistered
    refine ⟨?_, fun _ => hregistered⟩
    unfold TiltSensor.onSensorChanged
    dsimp only
    split
    · exact .refl s
    · rename_i hsome
      split at hsome
      · cases hsome
      · obtain ⟨-, rfl⟩ := Prod.mk.inj (Option.some.inj hsome)
        refine ⟨rfl, rfl, rfl, ?_⟩
        intro k
        cases k <;> rfl
  · exact ⟨.refl s, fun h => absurd h Bool.false_ne_true⟩

/-! ## What an event leaves registered -/

theorem listens_screenOn {s : DozeService ρ} (hs : Lifecycle s) (k : GestureSensor) :
    (s.step .screenOn).listens k = (s.listens k && !s.device.wants k) := by
  unfold step
  dsimp only
  split
  · obtain ⟨htilt, hproximity⟩ := registered_onDisplayOn s
    cases k with
    | tilt => exact htilt
    | proximity => exact hproximity
  · rename_i hreceiving
    have hdestroyed : s.destroyed = true := by simpa [hreceiving] using hs.receiving
    rw [hs.listens hdestroyed k, Bool.false_and]

theorem registered_onDisplayOff (s : DozeService ρ) (now : Int64) :
    (s.onDisplayOff now).mTiltSensor.registered =
        (s.mTiltSensor.registered || s.device.pickUpEnabled) ∧
      (s.onDisplayOff now).mProximitySensor.registered =
        (s.mProximitySensor.registered || s.proximityEnabled) := by
  have hframe : ∀ tilt : TiltSensor,
      ({ s with mTiltSensor := tilt } : DozeService ρ).proximityEnabled = s.proximityEnabled :=
    fun _ => rfl
  unfold onDisplayOff
  cases hpick : s.device.pickUpEnabled <;> cases hproximity : s.proximityEnabled <;>
    simp [hframe, hproximity, TiltSensor.enable, ProximitySensor.enable]

theorem listens_screenOff {s : DozeService ρ} (hs : Lifecycle s) (now : Int64)
    (k : GestureSensor) :
    (s.step (.screenOff now)).listens k =
      (s.listens k || (!s.destroyed && s.device.wants k)) := by
  unfold step
  dsimp only
  rw [hs.receiving]
  cases hdestroyed : s.destroyed with
  | true => simp
  | false =>
      rw [if_pos (by rfl), Bool.not_false, Bool.true_and]
      obtain ⟨htilt, hproximity⟩ := registered_onDisplayOff s now
      cases k with
      | tilt => exact htilt
      | proximity => exact hproximity

/-- The screen broadcasts reach the context and the life of an instance no further. -/
theorem frame_screen (s : DozeService ρ) (now : Int64) :
    ((s.step .screenOn).device = s.device ∧ (s.step .screenOn).destroyed = s.destroyed) ∧
      (s.step (.screenOff now)).device = s.device ∧
      (s.step (.screenOff now)).destroyed = s.destroyed := by
  unfold step onDisplayOn onDisplayOff
  dsimp only
  refine ⟨?_, ?_⟩
  · split
    · split <;> split <;> exact ⟨rfl, rfl⟩
    · exact ⟨rfl, rfl⟩
  · split
    · split <;> split <;> exact ⟨rfl, rfl⟩
    · exact ⟨rfl, rfl⟩

theorem destroyed_destroy (s : DozeService ρ) : (s.step .destroy).destroyed = true := by
  unfold step
  dsimp only
  split
  · assumption
  · rfl

theorem device_destroy (s : DozeService ρ) : (s.step .destroy).device = s.device := by
  unfold step
  dsimp only
  split <;> rfl

end DozeService

/-! ## The phone -/

/-- The settings, and every instance of the service that the process has created. -/
structure Phone (ρ : Type) where
  device : Device
  /-- Newest first; an instance that was destroyed stays in the list. -/
  services : List (DozeService ρ)
  /-- The maximum range of the proximity sensor. -/
  maximumRange : ρ
  /-- The screen broadcast sent last. -/
  screen : Option ScreenState

/-- What happens to the phone. -/
inductive PhoneEvent (ρ : Type) where
  | settings (e : DozeEvent)
  | screenOn
  | screenOff (now : Int64)
  | proximity (event : SensorEvent ρ)
  /-- A tilt event, with what the clock reads first and then. -/
  | tilt (first second : Int64) (value : ρ)
  /-- The process dies, and is started again. -/
  | processRestarted

namespace Phone

variable {ρ : Type}

/-- A phone that has just started, with these stored settings. -/
def start (maximumRange : ρ) (dozeEnabled : Option Int) (gestures : Gesture → Option Bool) :
    Phone ρ where
  device := .start dozeEnabled gestures
  services := []
  maximumRange := maximumRange
  screen := none

/-- The settings are those of `device`, for every context that reads them. -/
def setDevice (p : Phone ρ) (device : Device) : Phone ρ :=
  { p with device := device, services := p.services.map fun s => { s with device := device } }

/-- The system follows `startService` and `stopService`: there is one instance of a started
service, and the instance of a stopped one is destroyed. -/
def settle (p : Phone ρ) : Phone ρ :=
  if p.device.serviceStarted then
    if p.services.any fun s => !s.destroyed then p
    else { p with services := .onCreate p.device p.maximumRange :: p.services }
  else { p with services := p.services.map fun s => s.step .destroy }

/-- `onStartCommand` returns `START_STICKY`: a new process gets the started service back,
and none of the listeners of the old one. -/
def restart (p : Phone ρ) : Phone ρ :=
  settle { p with device := { p.device with fragment := none }, services := [] }

variable [LT ρ] [DecidableLT ρ] [BEq ρ] [OfNat ρ 1]

/-- One event. -/
def step (p : Phone ρ) : PhoneEvent ρ → Phone ρ
  | .settings e => (p.setDevice (Doze.step p.device e)).settle
  | .screenOn =>
      { p with screen := some .on, services := p.services.map fun s => s.step .screenOn }
  | .screenOff now =>
      { p with screen := some .off, services := p.services.map fun s => s.step (.screenOff now) }
  | .proximity event => { p with services := p.services.map fun s => (s.onProximity event).2 }
  | .tilt first second value =>
      { p with services := p.services.map fun s => (s.onTilt first second value).2 }
  | .processRestarted => p.restart

/-- How many pulses an event launches. -/
def pulses (p : Phone ρ) : PhoneEvent ρ → Nat
  | .proximity event => p.services.countP fun s => (s.onProximity event).1
  | .tilt first second value => p.services.countP fun s => (s.onTilt first second value).1
  | _ => 0

/-! ## One instance for a started service -/

section Settled

omit [LT ρ] [DecidableLT ρ] [BEq ρ] [OfNat ρ 1]

/-- The settings are consistent, the instances keep their invariant and read these settings,
and there is one that is not destroyed exactly while the service is started. -/
structure Settled (p : Phone ρ) : Prop where
  consistent : Consistent p.device
  lifecycle : ∀ s ∈ p.services, s.Lifecycle
  context : ∀ s ∈ p.services, s.device = p.device
  instances : p.services.countP (fun s => !s.destroyed) =
    if p.device.serviceStarted then 1 else 0

theorem settled_start (maximumRange : ρ) (dozeEnabled : Option Int)
    (gestures : Gesture → Option Bool) : Settled (start maximumRange dozeEnabled gestures) where
  consistent := consistent_start dozeEnabled gestures
  lifecycle := by simp [start]
  context := by simp [start]
  instances := rfl

/-- A change of the instances that none of them ends with. -/
theorem Settled.map {p : Phone ρ} (hp : Settled p) (screen : Option ScreenState)
    {f : DozeService ρ → DozeService ρ}
    (hlife : ∀ s : DozeService ρ, s.Lifecycle → (f s).Lifecycle)
    (hframe : ∀ s, (f s).device = s.device ∧ (f s).destroyed = s.destroyed) :
    Settled { p with screen := screen, services := p.services.map f } where
  consistent := hp.consistent
  lifecycle := by
    intro t ht
    obtain ⟨s, hs, rfl⟩ := List.mem_map.mp ht
    exact hlife s (hp.lifecycle s hs)
  context := by
    intro t ht
    obtain ⟨s, hs, rfl⟩ := List.mem_map.mp ht
    exact (hframe s).1.trans (hp.context s hs)
  instances := by
    rw [← hp.instances, List.countP_map]
    apply List.countP_congr
    intro s _
    simp only [Function.comp_apply, (hframe s).2]

/-- The system restores the count, whether the service was started, stopped or neither. -/
theorem settled_settle {p : Phone ρ} (hconsistent : Consistent p.device)
    (hlife : ∀ s ∈ p.services, s.Lifecycle) (hcontext : ∀ s ∈ p.services, s.device = p.device)
    (hatMost : p.services.countP (fun s => !s.destroyed) ≤ 1) : Settled p.settle := by
  unfold settle
  split
  · rename_i hstarted
    split
    · rename_i hany
      refine ⟨hconsistent, hlife, hcontext, ?_⟩
      have hpos : 0 < p.services.countP fun s => !s.destroyed :=
        List.countP_pos_iff.mpr (List.any_eq_true.mp hany)
      rw [if_pos hstarted]
      omega
    · rename_i hnone
      have hzero : p.services.countP (fun s => !s.destroyed) = 0 := by
        rw [List.countP_eq_zero]
        intro s hs hs'
        exact hnone (List.any_eq_true.mpr ⟨s, hs, hs'⟩)
      refine ⟨hconsistent, ?_, ?_, ?_⟩
      · exact List.forall_mem_cons.mpr ⟨DozeService.lifecycle_onCreate _ _, hlife⟩
      · exact List.forall_mem_cons.mpr ⟨rfl, hcontext⟩
      · rw [if_pos hstarted, List.countP_cons_of_pos (by rfl), hzero]
  · rename_i hstopped
    refine ⟨hconsistent, ?_, ?_, ?_⟩
    · intro t ht
      obtain ⟨s, hs, rfl⟩ := List.mem_map.mp ht
      exact (hlife s hs).step .destroy
    · intro t ht
      obtain ⟨s, hs, rfl⟩ := List.mem_map.mp ht
      exact (DozeService.device_destroy s).trans (hcontext s hs)
    · rw [if_neg hstopped, List.countP_eq_zero]
      intro t ht
      obtain ⟨s, hs, rfl⟩ := List.mem_map.mp ht
      simp [DozeService.destroyed_destroy s]

end Settled

theorem Settled.step {p : Phone ρ} (hp : Settled p) (e : PhoneEvent ρ) : Settled (p.step e) := by
  cases e with
  | settings e =>
      apply settled_settle (hp.consistent.step e)
      · intro t ht
        obtain ⟨s, hs, rfl⟩ := List.mem_map.mp ht
        exact ⟨(hp.lifecycle s hs).receiving, (hp.lifecycle s hs).destroyed⟩
      · intro t ht
        obtain ⟨s, -, rfl⟩ := List.mem_map.mp ht
        rfl
      · have hcount := hp.instances
        simp only [setDevice, List.countP_map]
        have hle : (if p.device.serviceStarted = true then 1 else 0) ≤ 1 := by split <;> omega
        exact hcount.trans_le hle
  | screenOn =>
      exact hp.map _ (fun _ hs => hs.step .screenOn) fun s => (s.frame_screen 0).1
  | screenOff now =>
      exact hp.map _ (fun _ hs => hs.step (.screenOff now)) fun s => (s.frame_screen now).2
  | proximity event =>
      refine hp.map _ (fun s hs => (s.onProximity_spec event).1.lifecycle hs) fun s => ?_
      exact ⟨(s.onProximity_spec event).1.device, (s.onProximity_spec event).1.destroyed⟩
  | tilt first second value =>
      refine hp.map _ (fun s hs => (s.onTilt_spec first second value).1.lifecycle hs) fun s => ?_
      exact ⟨(s.onTilt_spec first second value).1.device,
        (s.onTilt_spec first second value).1.destroyed⟩
  | processRestarted =>
      have hconsistent : Consistent { p.device with fragment := none } := by
        refine ⟨?_, hp.consistent.master, hp.consistent.stopped⟩
        intro f hf
        cases hf
      exact settled_settle hconsistent (by simp) (by simp) (by simp)

/-! ## What is registered -/

section Listening

omit [LT ρ] [DecidableLT ρ] [BEq ρ] [OfNat ρ 1]

/-- Some instance has a listener registered with the sensor. -/
def Listening (p : Phone ρ) (k : GestureSensor) : Prop :=
  ∃ s ∈ p.services, s.listens k = true

/-- The screen goes off while the service is started and a gesture of the sensor enabled. -/
def Registers (k : GestureSensor) (p : Phone ρ) : PhoneEvent ρ → Prop
  | .screenOff _ => p.device.serviceStarted = true ∧ p.device.wants k = true
  | _ => False

/-- The process and the service go on, and the screen does not go on while a gesture of the
sensor is enabled. -/
def Keeps (k : GestureSensor) (p : Phone ρ) : PhoneEvent ρ → Prop
  | .settings e => (Doze.step p.device e).serviceStarted = true
  | .screenOn => p.device.wants k = false
  | .processRestarted => False
  | _ => True

/-- A change of the instances shows in what they listen to. -/
theorem listening_map {p q : Phone ρ} {f : DozeService ρ → DozeService ρ}
    (hq : q.services = p.services.map f) (k : GestureSensor) :
    Listening q k ↔ ∃ s ∈ p.services, (f s).listens k = true := by
  simp only [Listening, hq, List.mem_map, exists_exists_and_eq_and]

/-- A new instance has nothing registered, and a destroyed one nothing any more. -/
theorem listening_settle {p : Phone ρ} (hlife : ∀ s ∈ p.services, s.Lifecycle)
    (k : GestureSensor) :
    Listening p.settle k ↔ Listening p k ∧ p.device.serviceStarted = true := by
  unfold settle
  split
  · rename_i hstarted
    rw [and_iff_left hstarted]
    split
    · rfl
    · have hnew : (DozeService.onCreate p.device p.maximumRange).listens k = false := by
        cases k <;> rfl
      simp [Listening, hnew]
  · rename_i hstopped
    refine iff_of_false ?_ fun h => hstopped h.2
    rintro ⟨t, ht, hlistens⟩
    obtain ⟨s, hs, rfl⟩ := List.mem_map.mp ht
    have hgone := (hlife s hs).step .destroy
    rw [hgone.listens (DozeService.destroyed_destroy s) k] at hlistens
    cases hlistens

theorem Settled.live {p : Phone ρ} (hp : Settled p) :
    p.device.serviceStarted = true ↔ ∃ s ∈ p.services, s.destroyed = false := by
  have hcount := hp.instances
  constructor
  · intro hstarted
    rw [if_pos hstarted] at hcount
    have hpos : 0 < p.services.countP fun s => !s.destroyed := by omega
    simpa using List.countP_pos_iff.mp hpos
  · intro hlive
    have hpos : 0 < p.services.countP fun s => !s.destroyed :=
      List.countP_pos_iff.mpr (by simpa using hlive)
    by_contra hstopped
    rw [if_neg hstopped] at hcount
    omega

/-- An instance that listens is not destroyed. -/
theorem Settled.not_destroyed {p : Phone ρ} (hp : Settled p) {s : DozeService ρ}
    (hs : s ∈ p.services) {k : GestureSensor} (hlistens : s.listens k = true) :
    s.destroyed = false := by
  by_contra hdestroyed
  rw [(hp.lifecycle s hs).listens (by simpa using hdestroyed) k] at hlistens
  cases hlistens

end Listening

theorem listening_step_iff {p : Phone ρ} (hp : Settled p) (k : GestureSensor)
    (e : PhoneEvent ρ) :
    Listening (p.step e) k ↔ Registers k p e ∨ Listening p k ∧ Keeps k p e := by
  cases e with
  | settings e =>
      have hlife : ∀ s ∈ (p.setDevice (Doze.step p.device e)).services, s.Lifecycle := by
        intro t ht
        obtain ⟨s, hs, rfl⟩ := List.mem_map.mp ht
        exact ⟨(hp.lifecycle s hs).receiving, (hp.lifecycle s hs).destroyed⟩
      have hsame : Listening (p.setDevice (Doze.step p.device e)) k ↔ Listening p k := by
        rw [listening_map rfl]
        cases k <;> rfl
      simp only [step, listening_settle hlife, hsame, Registers, Keeps, false_or]
      rfl
  | screenOn =>
      rw [step, listening_map rfl]
      simp only [Registers, Keeps, false_or, Listening]
      constructor
      · rintro ⟨s, hs, hlistens⟩
        rw [DozeService.listens_screenOn (hp.lifecycle s hs), hp.context s hs] at hlistens
        simp only [Bool.and_eq_true, Bool.not_eq_true'] at hlistens
        exact ⟨⟨s, hs, hlistens.1⟩, hlistens.2⟩
      · rintro ⟨⟨s, hs, hlistens⟩, hwants⟩
        refine ⟨s, hs, ?_⟩
        rw [DozeService.listens_screenOn (hp.lifecycle s hs), hp.context s hs, hlistens, hwants]
        rfl
  | screenOff now =>
      rw [step, listening_map rfl]
      simp only [Registers, Keeps, and_true, hp.live, Listening]
      constructor
      · rintro ⟨s, hs, hlistens⟩
        rw [DozeService.listens_screenOff (hp.lifecycle s hs), hp.context s hs] at hlistens
        simp only [Bool.or_eq_true, Bool.and_eq_true, Bool.not_eq_true'] at hlistens
        rcases hlistens with hold | ⟨hlive, hwants⟩
        · exact .inr ⟨s, hs, hold⟩
        · exact .inl ⟨⟨s, hs, hlive⟩, hwants⟩
      · rintro (⟨⟨s, hs, hlive⟩, hwants⟩ | ⟨s, hs, hold⟩)
        · refine ⟨s, hs, ?_⟩
          rw [DozeService.listens_screenOff (hp.lifecycle s hs), hp.context s hs, hlive, hwants]
          simp
        · refine ⟨s, hs, ?_⟩
          rw [DozeService.listens_screenOff (hp.lifecycle s hs), hold, Bool.true_or]
  | proximity event =>
      rw [step, listening_map rfl]
      simp only [Registers, Keeps, false_or, and_true, Listening,
        (DozeService.onProximity_spec _ event).1.listens]
  | tilt first second value =>
      rw [step, listening_map rfl]
      simp only [Registers, Keeps, false_or, and_true, Listening,
        (DozeService.onTilt_spec _ first second value).1.listens]
  | processRestarted =>
      rw [step, restart, listening_settle (by simp)]
      simp [Registers, Keeps, Listening]

theorem run_settled {p : Phone ρ} (hp : Settled p) (es : List (PhoneEvent ρ)) :
    Settled (run step p es) :=
  run_of_invariant (fun _ e hp => hp.step e) hp es

/-- From a state without a listener, one is registered exactly if it was since. -/
theorem listening_iff_since {p : Phone ρ} (hp : Settled p) {k : GestureSensor}
    (hnone : ¬ Listening p k) (es : List (PhoneEvent ρ)) :
    Listening (run step p es) k ↔ Since step (Registers k) (Keeps k) p es := by
  have hstep : ∀ (p : Phone ρ) e, Settled p → Settled (p.step e) := fun _ e hp => hp.step e
  have hexact : ∀ (p : Phone ρ) e, Settled p → (Listening (p.step e) k ↔
      Registers k p e ∨ Listening p k ∧ Keeps k p e) := fun _ e hp => listening_step_iff hp k e
  have hsince := since_run (Q := fun p => Listening p k) hstep hexact hp es
  exact hsince.trans (or_iff_left fun h => hnone h.1)

omit [LT ρ] [DecidableLT ρ] [BEq ρ] [OfNat ρ 1] in
theorem not_listening_start (maximumRange : ρ) (dozeEnabled : Option Int)
    (gestures : Gesture → Option Bool) (k : GestureSensor) :
    ¬ Listening (start maximumRange dozeEnabled gestures) k := by
  rintro ⟨s, hs, -⟩
  cases hs

/-- In every run a listener is registered with a sensor exactly if the screen went off while
the service was started and a gesture of the sensor enabled, and since then the process and
the service went on and the screen did not go on with such a gesture enabled. -/
theorem listening_run (maximumRange : ρ) (dozeEnabled : Option Int)
    (gestures : Gesture → Option Bool) (k : GestureSensor) (es : List (PhoneEvent ρ)) :
    Listening (run step (start maximumRange dozeEnabled gestures) es) k ↔
      Since step (Registers k) (Keeps k) (start maximumRange dozeEnabled gestures) es :=
  listening_iff_since (settled_start maximumRange dozeEnabled gestures)
    (not_listening_start maximumRange dozeEnabled gestures k) es

/-! ## Pulses -/

end Phone

/-- The sensor whose event it is. -/
def PhoneEvent.sensor {ρ : Type} : PhoneEvent ρ → Option GestureSensor
  | .proximity _ => some .proximity
  | .tilt _ _ _ => some .tilt
  | _ => none

namespace Phone

variable {ρ : Type} [LT ρ] [DecidableLT ρ] [BEq ρ] [OfNat ρ 1]

omit [LT ρ] [DecidableLT ρ] [BEq ρ] [OfNat ρ 1] in
/-- One instance at most has a listener, and it needs a started service and so doze. -/
theorem Settled.countP_le {p : Phone ρ} (hp : Settled p) {k : GestureSensor}
    {f : DozeService ρ → Bool} (hf : ∀ s, f s = true → s.listens k = true) :
    p.services.countP f ≤ 1 ∧
      (p.services.countP f = 1 → p.device.isDozeEnabled = true ∧ Listening p k) := by
  have hlive : ∀ s ∈ p.services, f s = true → (!s.destroyed) = true := by
    intro s hs hpulse
    rw [hp.not_destroyed hs (hf s hpulse)]
    rfl
  have hle := List.countP_mono_left hlive
  rw [hp.instances] at hle
  refine ⟨hle.trans (by split <;> omega), fun hone => ⟨?_, ?_⟩⟩
  · by_contra hdisabled
    have hstopped := hp.consistent.stopped (by simpa using hdisabled)
    rw [hone, hstopped] at hle
    exact absurd hle (by decide)
  · obtain ⟨s, hs, hpulse⟩ := List.countP_pos_iff.mp (hone ▸ Nat.one_pos)
    exact ⟨s, hs, hf s hpulse⟩

theorem pulses_step {p : Phone ρ} (hp : Settled p) (e : PhoneEvent ρ) :
    p.pulses e ≤ 1 ∧
      (p.pulses e = 1 → p.device.isDozeEnabled = true ∧ ∃ k, e.sensor = some k ∧
        Listening p k ∧ (k = .proximity → p.device.wants k = true)) := by
  cases e with
  | settings | screenOn | screenOff | processRestarted => simp [pulses]
  | proximity event =>
      have hspec := fun s : DozeService ρ => (s.onProximity_spec event).2
      obtain ⟨hle, hone⟩ := hp.countP_le fun s h => (hspec s h).1
      refine ⟨hle, fun hpulse => ⟨(hone hpulse).1, .proximity, rfl, (hone hpulse).2, ?_⟩⟩
      intro _
      obtain ⟨s, hs, hlaunched⟩ := List.countP_pos_iff.mp (hpulse ▸ Nat.one_pos)
      rw [← hp.context s hs]
      exact (hspec s hlaunched).2
  | tilt first second value =>
      have hspec := fun s : DozeService ρ => (s.onTilt_spec first second value).2
      obtain ⟨hle, hone⟩ := hp.countP_le hspec
      refine ⟨hle, fun hpulse => ⟨(hone hpulse).1, .tilt, rfl, (hone hpulse).2, ?_⟩⟩
      intro htilt
      cases htilt

end Phone

end MediatekCommon.Doze
