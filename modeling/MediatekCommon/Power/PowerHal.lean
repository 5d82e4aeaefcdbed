/-
  Power/PowerHal.lean --- `power_hint`: the performance profile of the power HAL.

  A hint for a profile writes `sys.perf.profile`, unless the profile is the one
  requested last.  The profile remembered at the start of the process is the balanced
  one, for which nothing has been written: a run that starts with requests for it does
  not write the property until another profile is requested (`followsHints_start_iff`).
  Profiles that are not supported are remembered too, but this does no harm.

  The property outlives the process.  A process that is started again remembers the
  balanced profile while the property may hold another one, and so over all restarts a
  request is lost exactly when it is for the balanced profile, in a process that
  remembers it and a property that does not hold it (`holdsLast_iff`).
-/
import MediatekCommon.Foundation.CachedSetter
import MediatekCommon.Foundation.CText

set_option autoImplicit false

namespace MediatekCommon.Power

open MediatekCommon.Foundation

/-! ## `power.c` -/

/-- `PROFILE_POWER_SAVE` -/
def profilePowerSave : Int32 := 0

/-- `PROFILE_BALANCED` -/
def profileBalanced : Int32 := 1

/-- `PROFILE_HIGH_PERFORMANCE` -/
def profileHighPerformance : Int32 := 2

/-- `PROFILE_BIAS_POWER` -/
def profileBiasPower : Int32 := 3

/-- `POWER_NR_OF_SUPPORTED_PROFILES` -/
def powerNrOfSupportedProfiles : Int32 := 4

/-- `POWER_SAVE_PROP` -/
def powerSaveProp : List UInt8 := ascii "0"

/-- `BALANCED_PROP` -/
def balancedProp : List UInt8 := ascii "1"

/-- `HIGH_PERFORMANCE_PROP` -/
def highPerformanceProp : List UInt8 := ascii "2"

/-- `BIAS_POWER_PROP` -/
def biasPowerProp : List UInt8 := ascii "3"

/-- `current_power_profile`, and the property `sys.perf.profile`, if it is set. -/
structure PowerHal where
  currentPowerProfile : Int32
  sysPerfProfile : Option (List UInt8)
  deriving DecidableEq, Repr

/-- The start of the process. -/
def PowerHal.start : PowerHal := ⟨profileBalanced, none⟩

/-- `property_set(POWER_PROFILE_PROPERTY, value)`. -/
def PowerHal.propertySet (s : PowerHal) (value : List UInt8) : PowerHal :=
  { s with sysPerfProfile := some value }

/-- `set_power_profile(profile)`. -/
def setPowerProfile (s : PowerHal) (profile : Int32) : PowerHal :=
  if profile = s.currentPowerProfile then s
  else
    let s :=
      if profile = profilePowerSave then s.propertySet powerSaveProp
      else if profile = profileBalanced then s.propertySet balancedProp
      else if profile = profileHighPerformance then s.propertySet highPerformanceProp
      else if profile = profileBiasPower then s.propertySet biasPowerProp
      else s
    { s with currentPowerProfile := profile }

/-- `power_hint_t`: `POWER_HINT_SET_PROFILE`, or another hint. -/
inductive PowerHint where
  | setProfile
  | other (hint : Int32)
  deriving DecidableEq, Repr

/-- A hint, and the number `data` points to. -/
structure HintCall where
  hint : PowerHint
  data : Int32
  deriving DecidableEq, Repr

/-- `power_hint(module, hint, data)`. -/
def powerHint (s : PowerHal) (call : HintCall) : PowerHal :=
  match call.hint with
  | .setProfile => setPowerProfile s call.data
  | .other _ => s

/-! ## What the property should hold -/

/-- The profile a call requests, if it does. -/
def HintCall.requested (call : HintCall) : Option Int32 :=
  match call.hint with
  | .setProfile => some call.data
  | .other _ => none

/-- The profiles requested, in their order. -/
def requests (calls : List HintCall) : List Int32 := calls.filterMap HintCall.requested

/-- One of the supported profiles. -/
def Supported (profile : Int32) : Prop := 0 ≤ profile ∧ profile < powerNrOfSupportedProfiles

instance (profile : Int32) : Decidable (Supported profile) := inferInstanceAs (Decidable (_ ∧ _))

/-- A profile in decimal. -/
def profileText (profile : Int32) : List UInt8 := decimal profile.toInt.toNat

/-- The supported profiles requested. -/
def supportedRequests (calls : List HintCall) : List Int32 := (requests calls).filter Supported

/-- Behind the calls the property holds the last supported profile they requested, and no
call for another profile, or for none, has changed it. -/
def FollowsHints (s : PowerHal) (calls : List HintCall) : Prop :=
  (∀ last, (supportedRequests calls).getLast? = some last →
    (run powerHint s calls).sysPerfProfile = some (profileText last)) ∧
  ∀ front call, front ++ [call] <+: calls →
    (∀ profile, call.requested = some profile → ¬ Supported profile) →
      (run powerHint s (front ++ [call])).sysPerfProfile =
        (run powerHint s front).sysPerfProfile

/-! ## The HAL is a setter with a cache -/

/-- What a profile makes of the property. -/
def writtenText (profile : Int32) : Option (List UInt8) :=
  if Supported profile then some (profileText profile) else none

/-- The remembered profile and the property. -/
def PowerHal.cached (s : PowerHal) : CachedOutput Int32 (List UInt8) :=
  ⟨s.currentPowerProfile, s.sysPerfProfile⟩

theorem supported_iff (profile : Int32) :
    Supported profile ↔ profile = profilePowerSave ∨ profile = profileBalanced ∨
      profile = profileHighPerformance ∨ profile = profileBiasPower := by
  simp only [Supported, Int32.le_iff_toInt_le, Int32.lt_iff_toInt_lt, ← Int32.toInt_inj]
  have hvalues : (0 : Int32).toInt = 0 ∧ powerNrOfSupportedProfiles.toInt = 4 ∧
      profilePowerSave.toInt = 0 ∧ profileBalanced.toInt = 1 ∧
      profileHighPerformance.toInt = 2 ∧ profileBiasPower.toInt = 3 := by decide
  omega

/-- The `switch` writes the supported profiles in decimal, and nothing for the others. -/
theorem cached_setPowerProfile (s : PowerHal) (profile : Int32) :
    (setPowerProfile s profile).cached = s.cached.set writtenText profile := by
  by_cases hsame : profile = s.currentPowerProfile
  · rw [setPowerProfile, if_pos hsame, CachedOutput.set_of_eq writtenText hsame]
  · rw [setPowerProfile, if_neg hsame, CachedOutput.set_of_ne writtenText hsame]
    by_cases hsupported : Supported profile
    · rcases (supported_iff profile).mp hsupported with rfl | rfl | rfl | rfl <;> rfl
    · rw [writtenText, if_neg hsupported, Option.none_or]
      rw [supported_iff, not_or, not_or, not_or] at hsupported
      obtain ⟨hsave, hbalanced, hhigh, hbias⟩ := hsupported
      simp only [if_neg hsave, if_neg hbalanced, if_neg hhigh, if_neg hbias]
      rfl

/-- Only the requests count. -/
theorem cached_run (s : PowerHal) (calls : List HintCall) :
    (run powerHint s calls).cached = run (CachedOutput.set writtenText) s.cached (requests calls) := by
  induction calls generalizing s with
  | nil => rfl
  | cons call rest ih =>
      obtain ⟨hint, data⟩ := call
      rw [run_cons, ih]
      cases hint with
      | setProfile => exact congrArg (run _ · (requests rest)) (cached_setPowerProfile s data)
      | other hint => rfl

theorem filterMap_writtenText (profiles : List Int32) :
    profiles.filterMap writtenText = (profiles.filter Supported).map profileText := by
  induction profiles with
  | nil => rfl
  | cons profile rest ih =>
      by_cases h : Supported profile <;> simp [writtenText, h, ih]

/-- A call that requests no supported profile leaves the property. -/
theorem sysPerfProfile_powerHint_of_unsupported {call : HintCall}
    (h : ∀ profile, call.requested = some profile → ¬ Supported profile) (s : PowerHal) :
    (powerHint s call).sysPerfProfile = s.sysPerfProfile := by
  obtain ⟨hint, data⟩ := call
  cases hint with
  | setProfile =>
      have hnone : writtenText data = none := if_neg (h data rfl)
      have hcached := cached_setPowerProfile s data
      exact (congrArg CachedOutput.output hcached).trans
        (CachedOutput.output_set_of_none hnone s.cached)
  | other hint => rfl

theorem followsHints_iff_follows (s : PowerHal) (calls : List HintCall) :
    FollowsHints s calls ↔ s.cached.Follows writtenText (requests calls) := by
  have houtput : (run powerHint s calls).sysPerfProfile =
      (run (CachedOutput.set writtenText) s.cached (requests calls)).output :=
    congrArg CachedOutput.output (cached_run s calls)
  have hlast : ((requests calls).filterMap writtenText).getLast? =
      (supportedRequests calls).getLast?.map profileText := by
    rw [filterMap_writtenText, List.getLast?_map]
    rfl
  unfold FollowsHints CachedOutput.Follows
  rw [hlast, ← houtput]
  constructor
  · rintro ⟨hfollows, -⟩ text htext
    obtain ⟨last, hsome, rfl⟩ := Option.map_eq_some_iff.mp htext
    exact hfollows last hsome
  · intro hfollows
    refine ⟨fun last hsome => hfollows _ (by rw [hsome, Option.map_some]), ?_⟩
    rintro front call - hunsupported
    rw [run_concat]
    exact sysPerfProfile_powerHint_of_unsupported hunsupported _

/-! ## When the property follows -/

/-- Once the property holds the profile that is remembered, it follows all further hints. -/
theorem followsHints_of_written {s : PowerHal}
    (h : s.sysPerfProfile = writtenText s.currentPowerProfile) (calls : List HintCall) :
    FollowsHints s calls :=
  (followsHints_iff_follows s calls).mpr (CachedOutput.output_follows_of_written h _)

/-- From the start of the process the property follows the hints exactly if the first
profile requested is not the balanced one, or a supported profile is requested behind the
requests for it. -/
theorem followsHints_start_iff (calls : List HintCall) :
    FollowsHints .start calls ↔
      (requests calls).head? ≠ some profileBalanced ∨
        ∃ profile ∈ (requests calls).dropWhile (· = profileBalanced), Supported profile := by
  have hsome : ∀ profile, (writtenText profile).isSome ↔ Supported profile := by
    intro profile
    by_cases h : Supported profile <;> simp [writtenText, h]
  rw [followsHints_iff_follows,
    CachedOutput.output_follows_iff rfl ((hsome profileBalanced).mpr (by decide))]
  simp only [hsome]
  rfl

/-- One request, for the balanced profile. -/
theorem followsHints_balanced_first : ¬ ∀ calls : List HintCall, FollowsHints .start calls := by
  intro h
  have hproperty := (h [⟨.setProfile, profileBalanced⟩]).1 profileBalanced (by decide)
  exact absurd hproperty (by decide)

/-! ## Over restarts of the process -/

/-- The HAL, and the supported profile requested last, by whatever process. -/
structure PowerRun where
  hal : PowerHal
  lastSupported : Option Int32
  deriving DecidableEq, Repr

/-- What happens to the HAL. -/
inductive PowerEvent where
  | hint (call : HintCall)
  /-- The process dies and is started again; properties stay. -/
  | processRestarted
  deriving DecidableEq, Repr

/-- The supported profile a call requests, if it does. -/
def HintCall.supportedRequest (call : HintCall) : Option Int32 := call.requested.filter Supported

namespace PowerRun

/-- The device has just started. -/
def start : PowerRun := ⟨.start, none⟩

def step (r : PowerRun) : PowerEvent → PowerRun
  | .hint call => ⟨powerHint r.hal call, call.supportedRequest.or r.lastSupported⟩
  | .processRestarted => { r with hal := { PowerHal.start with
      sysPerfProfile := r.hal.sysPerfProfile } }

/-- The property holds the supported profile requested last. -/
def HoldsLast (r : PowerRun) : Prop :=
  ∀ profile, r.lastSupported = some profile → r.hal.sysPerfProfile = some (profileText profile)

/-- A request for the balanced profile finds another one remembered, or itself in the
property. -/
def NotSkipped (r : PowerRun) : PowerEvent → Prop
  | .hint call => call.requested = some profileBalanced →
      r.hal.currentPowerProfile = profileBalanced → r.hal.sysPerfProfile = some balancedProp
  | .processRestarted => True

/-- A remembered profile other than the balanced one has been written. -/
def Written (r : PowerRun) : Prop := r.hal.cached.Written writtenText profileBalanced

theorem Written.step {r : PowerRun} (hr : Written r) (e : PowerEvent) : Written (r.step e) := by
  cases e with
  | hint call =>
      obtain ⟨hint, data⟩ := call
      cases hint with
      | setProfile =>
          have hset := CachedOutput.Written.set hr data
          rwa [← cached_setPowerProfile] at hset
      | other hint => exact hr
  | processRestarted => exact fun h => absurd rfl h

theorem holdsLast_iff_shows (hal : PowerHal) (last : Option Int32) :
    HoldsLast ⟨hal, last⟩ ↔ hal.cached.Shows (last.map profileText) := by
  constructor
  · intro h text htext
    obtain ⟨profile, hlast, rfl⟩ := Option.map_eq_some_iff.mp htext
    exact h profile hlast
  · intro h profile hlast
    exact h _ (Option.map_eq_some_iff.mpr ⟨profile, hlast, rfl⟩)

/-- What a request writes is what it adds to the supported requests. -/
theorem map_supportedRequest (profile : Int32) (last : Option Int32) :
    (((some profile).filter Supported).or last).map profileText =
      (writtenText profile).or (last.map profileText) := by
  rw [Option.filter_some, writtenText]
  by_cases h : Supported profile <;> simp [h]

theorem holdsLast_step_iff {r : PowerRun} (hr : Written r) (hholds : HoldsLast r)
    (e : PowerEvent) : HoldsLast (r.step e) ↔ NotSkipped r e := by
  cases e with
  | processRestarted => exact iff_of_true hholds trivial
  | hint call =>
      obtain ⟨hint, data⟩ := call
      cases hint with
      | other hint => exact iff_of_true hholds fun h => absurd h (by simp [HintCall.requested])
      | setProfile =>
          have hshows := (holdsLast_iff_shows r.hal r.lastSupported).mp hholds
          have hset := CachedOutput.shows_set_iff (a := data) hr hshows
          have hbalanced : writtenText profileBalanced = some balancedProp := by decide
          have hstep : HoldsLast (r.step (.hint ⟨.setProfile, data⟩)) ↔
              (setPowerProfile r.hal data).cached.Shows
                ((((some data).filter Supported).or r.lastSupported).map profileText) :=
            holdsLast_iff_shows _ _
          rw [hstep, cached_setPowerProfile, map_supportedRequest, hset]
          constructor
          · intro h hrequested hcache
            obtain rfl : data = profileBalanced := Option.some.inj hrequested
            exact h rfl hcache _ hbalanced
          · rintro h rfl hcache b hb
            rw [hbalanced] at hb
            obtain rfl := Option.some.inj hb
            exact h rfl hcache

/-- Over any hints and any restarts of the process, the property always holds the supported
profile requested last, by whatever process, if and only if no request for the balanced
profile comes to a process that remembers it while the property does not hold it. -/
theorem holdsLast_iff (es : List PowerEvent) :
    Always step HoldsLast start es ↔ Along step NotSkipped start es := by
  have hstep : ∀ r e, Written r → Written (r.step e) := fun _ e hr => hr.step e
  have hstart : Written start := fun h => absurd rfl h
  apply always_iff_along _ (along_of_invariant hstep hstart es)
  · intro profile hlast
    cases hlast
  · intro r e hr hholds
    exact holdsLast_step_iff hr hholds e

/-- High performance is requested, the process is started again, and a request for the
balanced profile is lost. -/
example : ¬ Along step NotSkipped start
    [.hint ⟨.setProfile, profileHighPerformance⟩, .processRestarted,
      .hint ⟨.setProfile, profileBalanced⟩] := by
  intro h
  exact absurd (h.2.2.1 rfl rfl) (by decide)

end PowerRun

end MediatekCommon.Power
