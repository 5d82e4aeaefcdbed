/-
  Doze/TiltSensor.lean --- `TiltSensor`: pulses when the device is picked up.

  The sensor accepts an event only `MIN_PULSE_INTERVAL_MS` after `mEntryTimestamp`, which
  is set by every event it accepts and whenever it is enabled.  The clock is read once to
  decide and once more to set the timestamp; it is modelled by the sequence of its
  readings, which do not go back.

  The invariant (`Limited`) says that the timestamp is the latest reading on record, so an
  accepted event comes the interval after everything recorded before it.
-/
import MediatekCommon.Foundation.JavaLong
import MediatekCommon.Foundation.Runs

set_option autoImplicit false

namespace MediatekCommon.Doze

open MediatekCommon.Foundation

/-! ## The sensor -/

/-- A `TiltSensor`. -/
structure TiltSensor where
  mEntryTimestamp : Int64
  /-- Whether the `SensorManager` has this listener registered. -/
  registered : Bool
  deriving DecidableEq, Repr

/-- `MIN_PULSE_INTERVAL_MS` -/
def minPulseIntervalMs : Int64 := 2500

namespace TiltSensor

/-- A new sensor. -/
def create : TiltSensor := ⟨0, false⟩

/-- `enable()`, with what the clock reads. -/
def enable (s : TiltSensor) (now : Int64) : TiltSensor :=
  { s with registered := true, mEntryTimestamp := now }

def disable (s : TiltSensor) : TiltSensor := { s with registered := false }

/-- `onSensorChanged(event)` for `event.values[0]`, with what the clock reads first and
then: `none` if it returns early, else whether it launches a pulse and the sensor it
leaves. -/
def onSensorChanged {ρ : Type} [BEq ρ] [OfNat ρ 1] (s : TiltSensor) (first second : Int64)
    (value : ρ) : Option (Bool × TiltSensor) :=
  let delta := first - s.mEntryTimestamp
  if delta < minPulseIntervalMs then none
  else some (value == 1, { s with mEntryTimestamp := second })

end TiltSensor

/-! ## Runs -/

/-- What happens to a sensor. -/
inductive TiltEvent (ρ : Type) where
  | enable
  | disable
  /-- The sensor reports `values[0]`. -/
  | sensorChanged (value : ρ)

/-- A use of the clock that set the timestamp: by `enable`, or by an event that was
accepted, with both readings. -/
inductive TiltRecord where
  | enabled (sample : Int64)
  | accepted (first last : Int64) (pulse : Bool)
  deriving DecidableEq, Repr

namespace TiltRecord

/-- The reading the timestamp was set to. -/
def lastSample : TiltRecord → Int64
  | enabled sample => sample
  | accepted _ last _ => last

/-- The reading of an enabling. -/
def enabledAt : TiltRecord → Option Int64
  | enabled sample => some sample
  | accepted _ _ _ => none

/-- The last reading of an accepted event. -/
def acceptedAt : TiltRecord → Option Int64
  | enabled _ => none
  | accepted _ last _ => some last

/-- The readings of an event that launched a pulse. -/
def pulseSpan : TiltRecord → Option (Int64 × Int64)
  | accepted first last true => some (first, last)
  | _ => none

theorem lastSample_of_acceptedAt (record : TiltRecord) (sample : Int64)
    (h : record.acceptedAt = some sample) : record.lastSample = sample := by
  cases record with
  | enabled => cases h
  | accepted => exact Option.some.inj h

theorem lastSample_of_enabledAt (record : TiltRecord) (sample : Int64)
    (h : record.enabledAt = some sample) : record.lastSample = sample := by
  cases record with
  | enabled => exact Option.some.inj h
  | accepted => cases h

theorem eq_of_pulseSpan {record : TiltRecord} {span : Int64 × Int64}
    (h : record.pulseSpan = some span) : record = accepted span.1 span.2 true := by
  cases record with
  | enabled => cases h
  | accepted first last pulse =>
      cases pulse with
      | false => cases h
      | true =>
          obtain rfl := Option.some.inj h
          rfl

end TiltRecord

/-- A sensor, how often the clock was read, and the records so far, oldest first. -/
structure TiltRun where
  sensor : TiltSensor
  calls : Nat
  log : List TiltRecord
  deriving DecidableEq, Repr

namespace TiltRun

/-- A new sensor, not enabled yet. -/
def start : TiltRun := ⟨.create, 0, []⟩

variable {ρ : Type} [BEq ρ] [OfNat ρ 1]

/-- One event, for a clock that reads `clock k` at its `k`-th call; a sensor event is
delivered only to a registered listener. -/
def step (clock : Nat → Int64) (r : TiltRun) : TiltEvent ρ → TiltRun
  | .enable =>
      let now := clock r.calls
      ⟨r.sensor.enable now, r.calls + 1, r.log ++ [.enabled now]⟩
  | .disable => { r with sensor := r.sensor.disable }
  | .sensorChanged value =>
      if r.sensor.registered then
        let first := clock r.calls
        let second := clock (r.calls + 1)
        match r.sensor.onSensorChanged first second value with
        | none => { r with calls := r.calls + 1 }
        | some (pulse, sensor) => ⟨sensor, r.calls + 2, r.log ++ [.accepted first second pulse]⟩
      else r

/-! ## The rate limit -/

/-- The last reading of the latest accepted event. -/
def lastAccepted (log : List TiltRecord) : Option Int64 :=
  (log.filterMap TiltRecord.acceptedAt).getLast?

/-- The reading of the latest enabling. -/
def lastEnabled (log : List TiltRecord) : Option Int64 :=
  (log.filterMap TiltRecord.enabledAt).getLast?

/-- Every event that launched a pulse came 2500 ms or more after the event accepted before
it and after the latest enabling, and any two such events came 2500 ms apart. -/
structure RateLimited (log : List TiltRecord) : Prop where
  afterAccepted : ∀ older first last newer, log = older ++ .accepted first last true :: newer →
    ∀ sample, lastAccepted older = some sample → sample.toInt + 2500 ≤ first.toInt
  afterEnabled : ∀ older first last newer, log = older ++ .accepted first last true :: newer →
    ∃ sample, lastEnabled older = some sample ∧ sample.toInt + 2500 ≤ first.toInt
  apart : (log.filterMap TiltRecord.pulseSpan).Pairwise fun earlier later =>
    earlier.2.toInt + 2500 ≤ later.1.toInt

/-- The second record, if it is of an accepted event, begins the interval after the first
one. -/
def Spaced (earlier later : TiltRecord) : Prop :=
  ∀ first last pulse, later = .accepted first last pulse →
    earlier.lastSample.toInt + 2500 ≤ first.toInt

/-- The timestamp is the latest reading on record and not ahead of the clock, a registered
sensor was enabled, and the records are spaced. -/
structure Limited (clock : Nat → Int64) (r : TiltRun) : Prop where
  latest : ∀ record ∈ r.log, record.lastSample ≤ r.sensor.mEntryTimestamp
  behindClock : r.log ≠ [] → r.sensor.mEntryTimestamp ≤ clock r.calls
  wasEnabled : r.sensor.registered = true → ∃ sample, .enabled sample ∈ r.log
  spaced : r.log.Pairwise Spaced
  enabledBefore : ∀ older first last pulse newer,
    r.log = older ++ .accepted first last pulse :: newer → ∃ sample, .enabled sample ∈ older

theorem limited_start (clock : Nat → Int64) : Limited clock start where
  latest := by simp [start]
  behindClock := by simp [start]
  wasEnabled := fun h => absurd h Bool.false_ne_true
  spaced := List.Pairwise.nil
  enabledBefore := by simp [start]

/-- The records behind a step that adds one. -/
theorem Limited.append {clock : Nat → Int64} {r : TiltRun} (hr : Limited clock r)
    {sensor : TiltSensor} {calls : Nat} {record : TiltRecord}
    (hset : sensor.mEntryTimestamp = record.lastSample)
    (hlater : r.log ≠ [] → r.sensor.mEntryTimestamp ≤ record.lastSample)
    (hclock : record.lastSample ≤ clock calls) (hspaced : ∀ earlier ∈ r.log, Spaced earlier record)
    (hregistered : ∃ sample, .enabled sample ∈ r.log ++ [record])
    (hbefore : ∀ first last pulse, record = .accepted first last pulse →
      ∃ sample, .enabled sample ∈ r.log) :
    Limited clock ⟨sensor, calls, r.log ++ [record]⟩ where
  latest := by
    intro earlier hmem
    rw [hset]
    rcases List.mem_append.mp hmem with hold | hnew
    · exact Int64.le_trans (hr.latest earlier hold) (hlater (List.ne_nil_of_mem hold))
    · obtain rfl := List.mem_singleton.mp hnew
      exact Int64.le_refl _
  behindClock := fun _ => hset ▸ hclock
  wasEnabled := fun _ => hregistered
  spaced := by
    refine List.pairwise_append.mpr ⟨hr.spaced, List.pairwise_singleton _ _, ?_⟩
    intro earlier hmem later hlater'
    obtain rfl := List.mem_singleton.mp hlater'
    exact hspaced earlier hmem
  enabledBefore := by
    intro older first last pulse newer hsplit
    rcases List.eq_nil_or_concat newer with rfl | ⟨newer, final, rfl⟩
    · obtain ⟨rfl, hrecord⟩ := List.append_inj' hsplit rfl
      exact hbefore first last pulse (List.cons.inj hrecord).1
    · rw [List.concat_eq_append, ← List.cons_append, ← List.append_assoc] at hsplit
      exact hr.enabledBefore older first last pulse newer (List.append_inj' hsplit rfl).1

theorem Limited.step {clock : Nat → Int64} (hclock : ∀ k l, k ≤ l → clock k ≤ clock l)
    {r : TiltRun} (hr : Limited clock r) (e : TiltEvent ρ) : Limited clock (r.step clock e) := by
  cases e with
  | enable =>
      show Limited clock ⟨r.sensor.enable (clock r.calls), r.calls + 1,
        r.log ++ [.enabled (clock r.calls)]⟩
      refine hr.append rfl hr.behindClock (hclock _ _ (Nat.le_succ _)) ?_ ?_ ?_
      · intro earlier _ first last pulse hrecord
        cases hrecord
      · exact ⟨_, List.mem_append_right _ (List.mem_singleton_self _)⟩
      · intro first last pulse hrecord
        cases hrecord
  | disable =>
      exact ⟨hr.latest, hr.behindClock, fun h => absurd h Bool.false_ne_true, hr.spaced,
        hr.enabledBefore⟩
  | sensorChanged value =>
      unfold TiltRun.step TiltSensor.onSensorChanged
      dsimp only
      by_cases hregistered : r.sensor.registered = true
      · rw [if_pos hregistered]
        obtain ⟨sample, henabled⟩ := hr.wasEnabled hregistered
        have hbehind := hr.behindClock (List.ne_nil_of_mem henabled)
        have hnext := hclock r.calls (r.calls + 1) (Nat.le_succ _)
        split
        · -- rejected: the clock was read once
          rename_i hnone
          exact ⟨hr.latest, fun _ => Int64.le_trans hbehind hnext, hr.wasEnabled, hr.spaced,
            hr.enabledBefore⟩
        · rename_i pulse sensor hsome
          split at hsome
          · cases hsome
          · rename_i hdelta
            obtain ⟨rfl, rfl⟩ := Prod.mk.inj (Option.some.inj hsome)
            have hwaited : r.sensor.mEntryTimestamp.toInt + 2500 ≤ (clock r.calls).toInt := by
              apply add_le_of_le_sub hbehind
              exact Int64.le_iff_toInt_le.mp (Int64.not_lt.mp hdelta)
            refine hr.append rfl (fun _ => Int64.le_trans hbehind hnext)
              (hclock _ _ (Nat.le_succ _)) ?_ ?_ ?_
            · intro earlier hmem first last pulse hrecord
              obtain ⟨rfl, -, -⟩ := TiltRecord.accepted.inj hrecord
              have hlatest := Int64.le_iff_toInt_le.mp (hr.latest earlier hmem)
              omega
            · exact ⟨sample, List.mem_append_left _ henabled⟩
            · exact fun _ _ _ _ => ⟨sample, henabled⟩
      · rw [if_neg hregistered]
        exact hr

/-- The latest of the readings that set the timestamp in some way is on record. -/
theorem exists_lastSample {f : TiltRecord → Option Int64}
    (hf : ∀ record sample, f record = some sample → record.lastSample = sample)
    {log : List TiltRecord} {sample : Int64} (h : (log.filterMap f).getLast? = some sample) :
    ∃ record ∈ log, record.lastSample = sample := by
  obtain ⟨record, hmem, hrecord⟩ := List.mem_filterMap.mp (List.mem_of_getLast? h)
  exact ⟨record, hmem, hf record sample hrecord⟩

theorem exists_lastEnabled {log : List TiltRecord} {sample : Int64}
    (h : .enabled sample ∈ log) : ∃ latest, lastEnabled log = some latest := by
  have hmem : sample ∈ log.filterMap TiltRecord.enabledAt :=
    List.mem_filterMap.mpr ⟨_, h, rfl⟩
  exact ⟨_, List.getLast?_eq_some_getLast (List.ne_nil_of_mem hmem)⟩

theorem Limited.rateLimited {clock : Nat → Int64} {r : TiltRun} (hr : Limited clock r) :
    RateLimited r.log := by
  have hwaited : ∀ older first last newer, r.log = older ++ .accepted first last true :: newer →
      ∀ earlier ∈ older, earlier.lastSample.toInt + 2500 ≤ first.toInt := by
    intro older first last newer hsplit earlier hmem
    have hspaced := hr.spaced
    rw [hsplit] at hspaced
    exact (List.pairwise_append.mp hspaced).2.2 earlier hmem _ List.mem_cons_self _ _ _ rfl
  constructor
  · intro older first last newer hsplit sample hsample
    obtain ⟨earlier, hmem, rfl⟩ := exists_lastSample TiltRecord.lastSample_of_acceptedAt hsample
    exact hwaited older first last newer hsplit earlier hmem
  · intro older first last newer hsplit
    obtain ⟨_, henabled⟩ := hr.enabledBefore older first last true newer hsplit
    obtain ⟨sample, hsample⟩ := exists_lastEnabled henabled
    obtain ⟨earlier, hmem, rfl⟩ := exists_lastSample TiltRecord.lastSample_of_enabledAt hsample
    exact ⟨_, hsample, hwaited older first last newer hsplit earlier hmem⟩
  · refine List.pairwise_filterMap.mpr (hr.spaced.imp ?_)
    intro earlier later hspaced span hspan span' hspan'
    obtain rfl := TiltRecord.eq_of_pulseSpan hspan
    exact hspaced _ _ _ (TiltRecord.eq_of_pulseSpan hspan')

/-- However enabling, disabling and events interleave, and for every clock that does not
go back, the pulses of a new sensor are rate-limited. -/
theorem rateLimited_run {clock : Nat → Int64} (hclock : ∀ k l, k ≤ l → clock k ≤ clock l)
    (es : List (TiltEvent ρ)) : RateLimited (run (step clock) start es).log := by
  have hstep : ∀ r (e : TiltEvent ρ), Limited clock r → Limited clock (r.step clock e) :=
    fun _ e hr => hr.step hclock e
  exact (run_of_invariant hstep (limited_start clock) es).rateLimited

/-- A clock that moves on by two seconds from call to call. -/
def slowClock (k : Nat) : Int64 := .ofNat (min (2000 * k) 1000000)

/-- Two pulses, each behind an event that is too early. -/
theorem rateLimited_slowClock :
    RateLimited (run (step slowClock) start
      [.enable, .sensorChanged 1, .sensorChanged 1, .sensorChanged (1 : Nat),
        .sensorChanged 1]).log := by
  apply rateLimited_run
  intro k l hkl
  unfold slowClock
  rw [Int64.le_iff_toInt_le, Int64.toInt_ofNat_of_lt (by omega),
    Int64.toInt_ofNat_of_lt (by omega)]
  omega

end TiltRun

end MediatekCommon.Doze
