/-
  Doze/ProximitySensor.lean --- `ProximitySensor`: pulses when the sensor is uncovered.

  A far event that follows a near one may launch a pulse; the time the sensor was
  covered decides which gesture it was.  Two fields carry this from event to event.
  `mSawNear` says whether the event before was near.  `mInPocketTime` is the time of the
  near event before, and a sensor that reports near twice in a row moves it, so a long
  cover can look short.

  Neither field is touched by `enable` and `disable`.  What was near when the sensor was
  disabled is still near when it is enabled again.
-/
import Mathlib.Data.List.DropRight
import MediatekCommon.Doze.Settings
import MediatekCommon.Foundation.JavaLong

set_option autoImplicit false

namespace MediatekCommon.Doze

open MediatekCommon.Foundation

/-! ## The sensor -/

/-- `SensorEvent`: `values[0]` and the timestamp in nanoseconds. -/
structure SensorEvent (ρ : Type) where
  value : ρ
  timestamp : Int64
  deriving DecidableEq, Repr

/-- A `ProximitySensor`. -/
structure ProximitySensor (ρ : Type) where
  /-- `mSensor.getMaximumRange()` -/
  maximumRange : ρ
  mSawNear : Bool
  mInPocketTime : Int64
  /-- Whether the `SensorManager` has this listener registered. -/
  registered : Bool

/-- `HANDWAVE_MAX_DELTA_NS` -/
def handwaveMaxDeltaNs : Int64 := 1000 * 1000 * 1000

/-- `POCKET_MIN_DELTA_NS` -/
def pocketMinDeltaNs : Int64 := 2000 * 1000 * 1000

namespace ProximitySensor

variable {ρ : Type} [LT ρ] [DecidableLT ρ]

/-- A new sensor. -/
def create (maximumRange : ρ) : ProximitySensor ρ := ⟨maximumRange, false, 0, false⟩

def enable (s : ProximitySensor ρ) : ProximitySensor ρ := { s with registered := true }

def disable (s : ProximitySensor ρ) : ProximitySensor ρ := { s with registered := false }

/-- `isNear` for an event. -/
def isNear (s : ProximitySensor ρ) (event : SensorEvent ρ) : Bool :=
  event.value < s.maximumRange

/-- `shouldPulse(timestamp)`, with the preferences the context holds. -/
def shouldPulse (s : ProximitySensor ρ) (context : Device) (timestamp : Int64) : Bool :=
  let delta := timestamp - s.mInPocketTime
  if context.handwaveGestureEnabled && context.pocketGestureEnabled then true
  else if context.handwaveGestureEnabled then delta < handwaveMaxDeltaNs
  else if context.pocketGestureEnabled then pocketMinDeltaNs ≤ delta
  else false

/-- `onSensorChanged(event)`: whether it launches a pulse, and the sensor it leaves. -/
def onSensorChanged (s : ProximitySensor ρ) (context : Device) (event : SensorEvent ρ) :
    Bool × ProximitySensor ρ :=
  let isNear := s.isNear event
  if s.mSawNear && !isNear then
    (s.shouldPulse context event.timestamp, { s with mSawNear := isNear })
  else (false, { s with mInPocketTime := event.timestamp, mSawNear := isNear })

end ProximitySensor

/-- A device on which these two gestures are enabled or not. -/
def deviceWith (handWave pocket : Bool) : Device :=
  .start none fun
    | .pickUp => none
    | .handWave => some handWave
    | .pocket => some pocket

/-! ## Runs -/

/-- What happens to a sensor. -/
inductive ProximityEvent (ρ : Type) where
  | enable
  | disable
  /-- The sensor reports an event while the preferences are those of `context`. -/
  | sensorChanged (context : Device) (event : SensorEvent ρ)

/-- A sensor, and the events delivered to it since it was last enabled, oldest first. -/
structure ProximityRun (ρ : Type) where
  sensor : ProximitySensor ρ
  sinceEnable : List (SensorEvent ρ)

namespace ProximityRun

variable {ρ : Type} [LT ρ] [DecidableLT ρ]

/-- A new sensor, not enabled yet. -/
def start (maximumRange : ρ) : ProximityRun ρ := ⟨.create maximumRange, []⟩

/-- One event; a sensor event is delivered only to a registered listener. -/
def step (r : ProximityRun ρ) : ProximityEvent ρ → ProximityRun ρ
  | .enable => ⟨r.sensor.enable, []⟩
  | .disable => { r with sensor := r.sensor.disable }
  | .sensorChanged context event =>
      if r.sensor.registered then
        ⟨(r.sensor.onSensorChanged context event).2, r.sinceEnable ++ [event]⟩
      else r

/-- Whether the event launches a pulse. -/
def pulses (r : ProximityRun ρ) : ProximityEvent ρ → Bool
  | .sensorChanged context event =>
      r.sensor.registered && (r.sensor.onSensorChanged context event).1
  | _ => false

/-! ## What the fields remember -/

/-- The fields describe the last event since the sensor was enabled. -/
structure Remembers (r : ProximityRun ρ) : Prop where
  sawNear : ∀ last, r.sinceEnable.getLast? = some last →
    r.sensor.mSawNear = r.sensor.isNear last
  nearTime : ∀ last, r.sinceEnable.getLast? = some last → r.sensor.isNear last = true →
    r.sensor.mInPocketTime = last.timestamp

theorem remembers_start (maximumRange : ρ) : Remembers (.start maximumRange) where
  sawNear := by simp [start]
  nearTime := by simp [start]

end ProximityRun

namespace ProximitySensor

variable {ρ : Type} [LT ρ] [DecidableLT ρ]

/-- An event is remembered as what it was, and a near one with its time; the sensor
itself stays. -/
theorem onSensorChanged_spec (s : ProximitySensor ρ) (context : Device)
    (event : SensorEvent ρ) :
    ∃ time, (s.onSensorChanged context event).2 =
        { s with mInPocketTime := time, mSawNear := s.isNear event } ∧
      (s.isNear event = true → time = event.timestamp) := by
  unfold onSensorChanged
  dsimp only
  split
  · rename_i hfar
    refine ⟨s.mInPocketTime, rfl, fun hnear => ?_⟩
    simp [hnear] at hfar
  · exact ⟨event.timestamp, rfl, fun _ => rfl⟩

/-- A pulse needs a near event before, a far one now, and the preferences. -/
theorem onSensorChanged_pulses_iff (s : ProximitySensor ρ) (context : Device)
    (event : SensorEvent ρ) :
    (s.onSensorChanged context event).1 = true ↔
      s.mSawNear = true ∧ s.isNear event = false ∧
        s.shouldPulse context event.timestamp = true := by
  unfold onSensorChanged
  dsimp only
  split
  · rename_i hfar
    rw [Bool.and_eq_true, Bool.not_eq_true'] at hfar
    simp [hfar]
  · rename_i hnot
    refine iff_of_false Bool.false_ne_true fun h => hnot ?_
    simp [h.1, h.2.1]

end ProximitySensor

namespace ProximityRun

variable {ρ : Type} [LT ρ] [DecidableLT ρ]

theorem Remembers.step {r : ProximityRun ρ} (hr : Remembers r) (e : ProximityEvent ρ) :
    Remembers (r.step e) := by
  cases e with
  | enable =>
      constructor
      · simp [ProximityRun.step]
      · simp [ProximityRun.step]
  | disable => exact ⟨hr.sawNear, hr.nearTime⟩
  | sensorChanged context event =>
      unfold ProximityRun.step
      dsimp only
      split
      · obtain ⟨time, hafter, htime⟩ := r.sensor.onSensorChanged_spec context event
        rw [hafter]
        constructor
        · intro last hlast
          obtain rfl : event = last := by simpa using hlast
          rfl
        · intro last hlast hnear
          obtain rfl : event = last := by simpa using hlast
          exact htime hnear
      · exact hr

/-! ## Pulses and the last enabling -/

/-- A pulse comes from a far event behind a near one since the sensor was enabled. -/
def FreshPulse (r : ProximityRun ρ) (e : ProximityEvent ρ) : Prop :=
  r.pulses e = true → ∃ context event, e = .sensorChanged context event ∧
    r.sensor.isNear event = false ∧ ∃ near ∈ r.sinceEnable, r.sensor.isNear near = true

/-- A far event is the first one since the sensor was enabled, the one before the
enabling was near, and the preferences allow a pulse. -/
def StaleNear (r : ProximityRun ρ) : ProximityEvent ρ → Prop
  | .sensorChanged context event =>
      r.sensor.registered = true ∧ r.sinceEnable = [] ∧ r.sensor.mSawNear = true ∧
        r.sensor.isNear event = false ∧ r.sensor.shouldPulse context event.timestamp = true
  | _ => False

theorem freshPulse_iff {r : ProximityRun ρ} (hr : Remembers r) (e : ProximityEvent ρ) :
    r.FreshPulse e ↔ ¬ r.StaleNear e := by
  cases e with
  | enable | disable => exact iff_of_true (fun h => absurd h Bool.false_ne_true) id
  | sensorChanged context event =>
      simp only [FreshPulse, StaleNear, pulses, Bool.and_eq_true,
        ProximitySensor.onSensorChanged_pulses_iff]
      constructor
      · intro hfresh hstale
        obtain ⟨hregistered, hfirst, hsaw, hfar, hshould⟩ := hstale
        obtain ⟨_, _, -, -, near, hmem, -⟩ := hfresh ⟨hregistered, hsaw, hfar, hshould⟩
        rw [hfirst] at hmem
        cases hmem
      · intro hnot hpulse
        obtain ⟨hregistered, hsaw, hfar, hshould⟩ := hpulse
        refine ⟨context, event, rfl, hfar, ?_⟩
        cases hlast : r.sinceEnable.getLast? with
        | none =>
            have hfirst : r.sinceEnable = [] := List.getLast?_eq_none_iff.mp hlast
            exact absurd ⟨hregistered, hfirst, hsaw, hfar, hshould⟩ hnot
        | some last =>
            exact ⟨last, List.mem_of_getLast? hlast, (hr.sawNear last hlast).symm.trans hsaw⟩

/-- However enabling, disabling and events interleave, every pulse comes from a far event
behind a near one since the sensor was enabled, if and only if no far event that may
pulse is the first since then with a near event left from before. -/
theorem freshPulses_iff (maximumRange : ρ) (es : List (ProximityEvent ρ)) :
    Along step FreshPulse (.start maximumRange) es ↔
      Along step (fun r e => ¬ StaleNear r e) (.start maximumRange) es := by
  have hstep : ∀ (r : ProximityRun ρ) e, Remembers r → Remembers (r.step e) :=
    fun _ e hr => hr.step e
  have hall := along_of_invariant hstep (remembers_start maximumRange) es
  exact along_congr (fun _ e hr => freshPulse_iff hr e) hall

/-- The sensor is disabled while covered and uncovered after it is enabled again: the
first event then launches a pulse. -/
theorem freshPulses_left_near :
    let context := deviceWith true true
    let es : List (ProximityEvent Nat) :=
      [.enable, .sensorChanged context ⟨0, 1⟩, .disable, .enable]
    let far : ProximityEvent Nat := .sensorChanged context ⟨5, 2⟩
    let r := run step (.start 5) es
    r.sinceEnable = [] ∧ r.pulses far = true ∧
      ¬ Along step FreshPulse (.start 5) (es ++ [far]) := by
  intro context es far r
  have hpulse : r.pulses far = true := by decide
  refine ⟨rfl, hpulse, ?_⟩
  intro h
  obtain ⟨-, hfresh, -⟩ := along_append.mp h
  obtain ⟨_, _, -, -, near, hmem, -⟩ := hfresh hpulse
  exact List.not_mem_nil hmem

/-! ## How long the sensor was covered -/

/-- The near events just before, back to the last far one. -/
def coverRun (r : ProximityRun ρ) : List (SensorEvent ρ) :=
  r.sinceEnable.rtakeWhile r.sensor.isNear

/-- The enabled gestures launch a pulse for a cover of this many nanoseconds. -/
def CoverPulses (context : Device) (d : Int) : Prop :=
  (context.handwaveGestureEnabled = true ∧ context.pocketGestureEnabled = true) ∨
    (context.handwaveGestureEnabled = true ∧ context.pocketGestureEnabled = false ∧
      d < 10 ^ 9) ∨
    (context.handwaveGestureEnabled = false ∧ context.pocketGestureEnabled = true ∧
      2 * 10 ^ 9 ≤ d)

/-- Deliver an event while the preferences are those of `context`. -/
def deliver (context : Device) (r : ProximityRun ρ) (event : SensorEvent ρ) :
    ProximityRun ρ :=
  r.step (.sensorChanged context event)

/-- The event launches a pulse exactly if it is far, the one before was near, and the
gestures accept the time since the first of those near events. -/
def PulsesByCover (context : Device) (r : ProximityRun ρ) (event : SensorEvent ρ) : Prop :=
  r.pulses (.sensorChanged context event) = true ↔
    r.sensor.isNear event = false ∧ ∃ first, r.coverRun.head? = some first ∧
      CoverPulses context (event.timestamp.toInt - first.timestamp.toInt)

/-- The length of a cover at which the answer changes, if the gestures look at it. -/
def coverThreshold (context : Device) : Option Int :=
  match context.handwaveGestureEnabled, context.pocketGestureEnabled with
  | true, false => some (10 ^ 9)
  | false, true => some (2 * 10 ^ 9)
  | _, _ => none

/-- A far event that comes the threshold or more after the first near event before it
comes as long after the last one too, and less than 2^63 nanoseconds. -/
def CoverMeasured (context : Device) (r : ProximityRun ρ) (event : SensorEvent ρ) : Prop :=
  ∀ bound first last, coverThreshold context = some bound →
    r.coverRun.head? = some first → r.coverRun.getLast? = some last →
    r.sensor.isNear event = false →
    bound ≤ event.timestamp.toInt - first.timestamp.toInt →
    bound ≤ event.timestamp.toInt - last.timestamp.toInt ∧
      event.timestamp.toInt - last.timestamp.toInt < 2 ^ 63

omit [LT ρ] [DecidableLT ρ] in
theorem shouldPulse_iff (s : ProximitySensor ρ) (context : Device) (timestamp : Int64) :
    s.shouldPulse context timestamp = true ↔
      CoverPulses context (timestamp - s.mInPocketTime).toInt := by
  have hhandwave : handwaveMaxDeltaNs.toInt = 10 ^ 9 := rfl
  have hpocket : pocketMinDeltaNs.toInt = 2 * 10 ^ 9 := rfl
  unfold ProximitySensor.shouldPulse CoverPulses
  cases context.handwaveGestureEnabled <;> cases context.pocketGestureEnabled <;>
    simp [Int64.lt_iff_toInt_lt, Int64.le_iff_toInt_le, hhandwave, hpocket]

/-- The time since the last near event gives the same answer as the time since the first
one exactly if both are on one side of the threshold. -/
theorem coverPulses_iff (context : Device) {first last now : Int64} (hlast : last ≤ now)
    (hfirst : first ≤ last) :
    (CoverPulses context (now - last).toInt ↔
        CoverPulses context (now.toInt - first.toInt)) ↔
      ∀ bound, coverThreshold context = some bound → bound ≤ now.toInt - first.toInt →
        bound ≤ now.toInt - last.toInt ∧ now.toInt - last.toInt < 2 ^ 63 := by
  have hle := Int64.le_iff_toInt_le.mp hlast
  have hle' := Int64.le_iff_toInt_le.mp hfirst
  have hnow := now.toInt_lt
  have hlow := first.le_toInt
  rw [toInt_sub_of_le hlast]
  unfold CoverPulses coverThreshold
  cases context.handwaveGestureEnabled <;> cases context.pocketGestureEnabled
  · simp
  · simp only [Bool.false_eq_true, Bool.true_eq_false, false_and, true_and, false_or,
      Option.some.injEq, forall_eq']
    omega
  · simp only [Bool.false_eq_true, Bool.true_eq_false, false_and, true_and, false_or, or_false,
      Option.some.injEq, forall_eq', and_false]
    omega
  · simp

/-- A sensor that was enabled when it was new and has been since. -/
structure Covering (r : ProximityRun ρ) : Prop extends Remembers r where
  registered : r.sensor.registered = true
  unseen : r.sinceEnable = [] → r.sensor.mSawNear = false

theorem covering_start (maximumRange : ρ) : Covering ((start maximumRange).step .enable) where
  toRemembers := (remembers_start maximumRange).step .enable
  registered := rfl
  unseen := fun _ => rfl

theorem sinceEnable_deliver {r : ProximityRun ρ} (hr : Covering r) (context : Device)
    (event : SensorEvent ρ) : (r.deliver context event).sinceEnable = r.sinceEnable ++ [event] := by
  unfold deliver step
  simp only [hr.registered, if_true]

theorem Covering.deliver {r : ProximityRun ρ} (hr : Covering r) (context : Device)
    (event : SensorEvent ρ) : Covering (r.deliver context event) where
  toRemembers := hr.toRemembers.step _
  registered := by
    obtain ⟨_, hafter, -⟩ := r.sensor.onSensorChanged_spec context event
    simp only [ProximityRun.deliver, ProximityRun.step, hr.registered, if_true, hafter]
  unseen := by
    rw [sinceEnable_deliver hr]
    intro h
    simp at h

/-- The last near event of a cover is the last event. -/
theorem getLast?_coverRun (r : ProximityRun ρ) :
    r.coverRun.getLast? = r.sinceEnable.getLast?.filter r.sensor.isNear := by
  rw [coverRun, List.rtakeWhile, List.getLast?_reverse, List.head?_takeWhile, List.head?_reverse]

/-- While the sensor is covered, both fields tell so. -/
theorem Covering.of_getLast? {r : ProximityRun ρ} (hr : Covering r) {last : SensorEvent ρ}
    (hlast : r.coverRun.getLast? = some last) :
    r.sensor.mSawNear = true ∧ r.sensor.mInPocketTime = last.timestamp := by
  rw [getLast?_coverRun, Option.filter_eq_some_iff] at hlast
  obtain ⟨hmem, hnear⟩ := hlast
  exact ⟨(hr.sawNear last hmem).trans hnear, hr.nearTime last hmem hnear⟩

theorem Covering.of_coverRun_nil {r : ProximityRun ρ} (hr : Covering r)
    (hnone : r.coverRun = []) : r.sensor.mSawNear = false := by
  have hlast : r.sinceEnable.getLast?.filter r.sensor.isNear = none := by
    rw [← getLast?_coverRun, hnone]
    rfl
  cases hseen : r.sinceEnable.getLast? with
  | none => exact hr.unseen (List.getLast?_eq_none_iff.mp hseen)
  | some last =>
      rw [hseen, Option.filter_some] at hlast
      rw [hr.sawNear last hseen]
      by_contra hnear
      rw [if_pos (by simpa using hnear)] at hlast
      cases hlast

/-- Timestamps that do not go back order the first and the last near event. -/
theorem first_le_last {r : ProximityRun ρ} {event first last : SensorEvent ρ}
    (hclock : (r.sinceEnable ++ [event]).Pairwise fun a b => a.timestamp ≤ b.timestamp)
    (hfirst : r.coverRun.head? = some first) (hlast : r.coverRun.getLast? = some last) :
    first.timestamp ≤ last.timestamp ∧ last.timestamp ≤ event.timestamp := by
  obtain ⟨hseen, -, hevent⟩ := List.pairwise_append.mp hclock
  have hsuffix : r.coverRun <:+ r.sinceEnable := List.rtakeWhile_suffix _ _
  have hmem : last ∈ r.coverRun := List.mem_of_getLast? hlast
  refine ⟨?_, hevent last (hsuffix.subset hmem) event List.mem_cons_self⟩
  obtain ⟨rest, hcons⟩ := List.head?_eq_some_iff.mp hfirst
  have hrun := hseen.sublist hsuffix.sublist
  rw [hcons] at hrun hmem
  rcases List.mem_cons.mp hmem with rfl | hrest
  · exact Int64.le_refl _
  · exact (List.pairwise_cons.mp hrun).1 last hrest

theorem pulsesByCover_iff {r : ProximityRun ρ} (hr : Covering r) (context : Device)
    {event : SensorEvent ρ}
    (hclock : (r.sinceEnable ++ [event]).Pairwise fun a b => a.timestamp ≤ b.timestamp) :
    r.PulsesByCover context event ↔ r.CoverMeasured context event := by
  have hpulse : r.pulses (.sensorChanged context event) = true ↔
      r.sensor.mSawNear = true ∧ r.sensor.isNear event = false ∧
        CoverPulses context (event.timestamp - r.sensor.mInPocketTime).toInt := by
    simp only [pulses, hr.registered, Bool.true_and, ProximitySensor.onSensorChanged_pulses_iff,
      shouldPulse_iff]
  unfold PulsesByCover CoverMeasured
  rw [hpulse]
  cases hfirst : r.coverRun.head? with
  | none =>
      have hnone : r.coverRun = [] := List.head?_eq_none_iff.mp hfirst
      simp [hr.of_coverRun_nil hnone]
  | some first =>
      obtain ⟨last, hlast⟩ : ∃ last, r.coverRun.getLast? = some last := by
        obtain ⟨rest, hcons⟩ := List.head?_eq_some_iff.mp hfirst
        rw [hcons, List.getLast?_cons]
        exact ⟨_, rfl⟩
      obtain ⟨hsaw, htime⟩ := hr.of_getLast? hlast
      obtain ⟨hle, hle'⟩ := first_le_last hclock hfirst hlast
      have hmeasured := coverPulses_iff context hle' hle
      rw [hsaw, htime, hlast]
      cases hnear : r.sensor.isNear event with
      | true => simp
      | false => simpa using hmeasured

/-- For events with timestamps that do not go back, delivered to a new sensor that stays
enabled, every pulse and every missing one reflects how long the sensor was covered if and
only if every cover is as long from its last near event on as the gestures ask of it. -/
theorem alongPulsesByCover_iff (maximumRange : ρ) (context : Device)
    {events : List (SensorEvent ρ)}
    (hclock : events.Pairwise fun a b => a.timestamp ≤ b.timestamp) :
    Along (deliver context) (PulsesByCover context) ((start maximumRange).step .enable) events ↔
      Along (deliver context) (CoverMeasured context) ((start maximumRange).step .enable)
        events := by
  have hstart := covering_start maximumRange
  have hinv : ∀ (r : ProximityRun ρ) event, Covering r → Covering (r.deliver context event) :=
    fun _ event hr => hr.deliver context event
  have hordered : Along (deliver context)
      (fun r event => (r.sinceEnable ++ [event]).Pairwise fun a b => a.timestamp ≤ b.timestamp)
      ((start maximumRange).step .enable) events := by
    apply along_of_pairwise hinv _ hstart hclock
    intro r event hr
    exact sinceEnable_deliver hr context event
  have hall := along_and (along_of_invariant hinv hstart events) hordered
  exact along_congr (fun _ _ h => pulsesByCover_iff h.1 context h.2) hall

/-- Three seconds in the pocket, with one near event. -/
theorem alongPulsesByCover_pocket :
    Along (deliver (deviceWith false true))
      (PulsesByCover (deviceWith false true))
      ((start (5 : Nat)).step .enable) [⟨0, 0⟩, ⟨5, 3000000000⟩] := by
  apply (alongPulsesByCover_iff 5 (deviceWith false true) (by simp)).mpr
  refine ⟨?_, ?_, trivial⟩
  · intro bound first last _ hfirst
    cases hfirst
  · intro bound first last hbound hfirst hlast _ _
    obtain rfl : 2 * 10 ^ 9 = bound := Option.some.inj hbound
    obtain rfl : ⟨0, 0⟩ = last := Option.some.inj hlast
    decide

/-- Three seconds in the pocket, with a second near event half a second before the end: no
pulse. -/
theorem onSensorChanged_near_again :
    let context := deviceWith false true
    let events : List (SensorEvent Nat) := [⟨0, 0⟩, ⟨1, 2500000000⟩]
    let far : SensorEvent Nat := ⟨5, 3000000000⟩
    let r := run (deliver context) ((start (5 : Nat)).step .enable) events
    r.coverRun = events ∧ r.pulses (.sensorChanged context far) = false ∧
      ¬ Along (deliver context) (PulsesByCover context)
        ((start 5).step .enable) (events ++ [far]) := by
  intro context events far r
  have hcover : r.coverRun = events := rfl
  have hpulse : r.pulses (.sensorChanged context far) = false := by decide
  refine ⟨hcover, hpulse, ?_⟩
  intro h
  obtain ⟨-, hreflects, -⟩ := along_append.mp h
  have hexpected : r.pulses (.sensorChanged context far) = true :=
    hreflects.mpr ⟨by decide, ⟨0, 0⟩, rfl, .inr (.inr (by decide))⟩
  rw [hpulse] at hexpected
  cases hexpected

end ProximityRun

end MediatekCommon.Doze
