/-
  Lights/LedWrites.lean --- what is written to the files of an LED, over whole runs.

  An LED is written when the status asked of it changes, and then the writes are those of
  the state that changed it (`ledWrites_run`).  A write that fails is therefore not made
  up for: behind a failure the LED shows the remembered status again exactly when it is
  asked for another one (`tracksLed_iff_changed`).
-/
import MediatekCommon.Foundation.ChangeLog
import MediatekCommon.Lights.Arbitration
import MediatekCommon.Lights.Sysfs

set_option autoImplicit false

namespace MediatekCommon.Lights

open MediatekCommon.Foundation

/-! ## The writes to one LED -/

/-- A write to a file of this LED. -/
def ledWrite? (led : Led) (w : SysfsFile × SysfsValue) : Option (LedFile × SysfsValue) :=
  match w.1 with
  | .led led' file => if led' = led then some (file, w.2) else none
  | _ => none

/-- The writes to the files of an LED, oldest first. -/
def LightsModule.ledWrites (s : LightsModule) (led : Led) : List (LedFile × SysfsValue) :=
  s.writes.filterMap (ledWrite? led)

/-- The writes that give an LED a status. -/
def statusWrites (onMS offMS : Int) : LedStatus → List (LedFile × SysfsValue)
  | .off => [(.brightness, .int 0)]
  | .blink => [(.trigger, .timer), (.delayOff, .int offMS), (.delayOn, .int onMS)]
  | .noBlink => [(.trigger, .none), (.brightness, .int 255)]

/-- The writes that show a state on an LED. -/
def LightState.ledWrites (state : LightState) (led : Led) : List (LedFile × SysfsValue) :=
  statusWrites state.onMS state.offMS (state.status led)

namespace LightsModule

/-- The remembered status of an LED and the writes to its files. -/
def ledLog (s : LightsModule) (led : Led) : LedStatus × List (LedFile × SysfsValue) :=
  (s.preStatus led, s.ledWrites led)

theorem ledWrites_write (s : LightsModule) (led : Led) (path : SysfsFile) (value : SysfsValue) :
    (s.write path value).ledWrites led =
      s.ledWrites led ++ (ledWrite? led (path, value)).toList := by
  unfold ledWrites write
  rw [List.filterMap_append]
  cases h : ledWrite? led (path, value) <;> simp [h]

/-- A request to an LED is written if it changes the status. -/
theorem ledLog_blink (s : LightsModule) (led : Led) (level onMS offMS : Int) :
    (s.blink led level onMS offMS).ledLog led =
      if s.preStatus led = nowStatus level onMS offMS then s.ledLog led
      else (nowStatus level onMS offMS,
        s.ledWrites led ++ statusWrites onMS offMS (nowStatus level onMS offMS)) := by
  have hframe : ∀ (t : LightsModule) (status : Led → LedStatus),
      ledWrites { t with preStatus := status } led = t.ledWrites led := fun _ _ => rfl
  unfold ledLog
  rw [preStatus_blink, Function.update_self]
  unfold blink
  dsimp only
  split
  · rename_i hsame
    rw [hsame]
  · rw [hframe]
    cases nowStatus level onMS offMS <;> simp [ledWrites_write, ledWrite?, statusWrites]

theorem ledLog_blink_of_ne {led led' : Led} (hne : led' ≠ led) (s : LightsModule)
    (level onMS offMS : Int) : (s.blink led' level onMS offMS).ledLog led = s.ledLog led := by
  have hframe : ∀ (t : LightsModule) (status : Led → LedStatus),
      ledWrites { t with preStatus := status } led = t.ledWrites led := fun _ _ => rfl
  unfold ledLog
  rw [preStatus_blink, Function.update_of_ne hne.symm]
  unfold blink
  dsimp only
  split
  · rfl
  · rw [hframe]
    cases nowStatus level onMS offMS <;> simp [ledWrites_write, ledWrite?, hne]

/-- The one request a state makes to an LED. -/
theorem ledLog_blink_level (s : LightsModule) {state : LightState} {led : Led}
    {level onMS offMS : Int} (hlevel : level = state.level led)
    (hintervals : level ≠ 0 → onMS = state.onMS ∧ offMS = state.offMS) :
    (s.blink led level onMS offMS).ledLog led =
      writeChange (LightState.status · led) (LightState.ledWrites · led) (s.ledLog led) state := by
  have hstatus : nowStatus level onMS offMS = state.status led ∧
      statusWrites onMS offMS (state.status led) = state.ledWrites led := by
    unfold LightState.ledWrites LightState.status
    rw [← hlevel]
    by_cases hzero : level = 0
    · simp [hzero, nowStatus, statusWrites]
    · obtain ⟨rfl, rfl⟩ := hintervals hzero
      exact ⟨rfl, rfl⟩
  rw [ledLog_blink, hstatus.1, hstatus.2]
  rfl

/-- A state that is applied is written to an LED if it changes its status. -/
theorem ledLog_setSpeakerLightLocked (s : LightsModule) (state : LightState) (led : Led) :
    (s.setSpeakerLightLocked state).ledLog led =
      writeChange (LightState.status · led) (LightState.ledWrites · led) (s.ledLog led) state := by
  have hgr : Led.green ≠ .red := by decide
  have hoff : (0 : Int) ≠ 0 → (0 : Int) = state.onMS ∧ (0 : Int) = state.offMS :=
    fun h => absurd rfl h
  unfold setSpeakerLightLocked
  dsimp only [blinkRed, blinkGreen]
  split
  · rename_i hred
    have hlevel : state.level .red = state.red := rfl
    split
    · rename_i horange
      cases led with
      | red =>
          rw [ledLog_blink_level _ hlevel.symm fun _ => ⟨rfl, rfl⟩, ledLog_blink_of_ne hgr]
      | green =>
          have hgreen : state.red = state.level .green := by
            simp [LightState.level, hred, horange]
          rw [ledLog_blink_of_ne hgr.symm, ledLog_blink_level _ hgreen fun _ => ⟨rfl, rfl⟩]
    · rename_i horange
      cases led with
      | red =>
          rw [ledLog_blink_level _ hlevel.symm fun _ => ⟨rfl, rfl⟩, ledLog_blink_of_ne hgr]
      | green =>
          have hgreen : 0 = state.level .green := by simp [LightState.level, hred, horange]
          rw [ledLog_blink_of_ne hgr.symm, ledLog_blink_level _ hgreen hoff]
  · rename_i hred
    have hred : 0 = state.level .red := by
      have hzero : state.red = 0 := by omega
      exact hzero.symm
    have hlevel : state.level .green = state.green := by
      unfold LightState.level at hred ⊢
      simp [← hred]
    split
    · cases led with
      | red => rw [ledLog_blink_of_ne hgr, ledLog_blink_level _ hred hoff]
      | green =>
          rw [ledLog_blink_level _ hlevel.symm fun _ => ⟨rfl, rfl⟩, ledLog_blink_of_ne hgr.symm]
    · rename_i hgreen
      have hgreen : 0 = state.level .green := by
        rw [hlevel]
        omega
      cases led with
      | red => rw [ledLog_blink_of_ne hgr, ledLog_blink_level _ hred hoff]
      | green => rw [ledLog_blink_level _ hgreen hoff, ledLog_blink_of_ne hgr.symm]

theorem ledLog_foldl (states : List LightState) (s : LightsModule) (led : Led) :
    (states.foldl setSpeakerLightLocked s).ledLog led =
      states.foldl (writeChange (LightState.status · led) (LightState.ledWrites · led))
        (s.ledLog led) := by
  induction states generalizing s with
  | nil => rfl
  | cons state states ih => rw [List.foldl_cons, List.foldl_cons, ih, ledLog_setSpeakerLightLocked]

/-- The trackball light writes to no LED. -/
theorem ledLog_trackball (s : LightsModule) (led : Led) :
    (if s.gHaveTrackballLight then s.handleTrackballLightLocked else s).ledLog led =
      s.ledLog led := by
  unfold handleTrackballLightLocked
  generalize (if s.gAttention = 7 ∧ s.gBacklight ≠ 0 then 0 else s.gAttention) = mode
  dsimp only
  split
  · split
    · rfl
    · exact congrArg (s.preStatus led, ·) (ledWrites_write s led .trackball (.int mode) |>.trans
        (List.append_nil _))
  · rfl

end LightsModule

/-- A write to a file that is no LED's. -/
theorem LightsModule.ledLog_write (s : LightsModule) {path : SysfsFile}
    (hpath : ∀ led file, path ≠ .led led file) (value : SysfsValue) (led : Led) :
    (s.write path value).ledLog led = s.ledLog led := by
  have hnone : ledWrite? led (path, value) = none := by
    cases path with
    | led led' file => exact absurd rfl (hpath led' file)
    | _ => rfl
  unfold ledLog
  rw [ledWrites_write, hnone, Option.toList_none, List.append_nil]
  rfl

theorem selectedStates_setSpeakerLightLocked (s : LightsModule) (state : LightState) :
    (s.setSpeakerLightLocked state).selectedStates = s.selectedStates := by
  obtain ⟨_, _, hsame⟩ := onlyLeds_setSpeakerLightLocked s state
  rw [hsame]
  rfl

theorem selectedStates_trackball (s : LightsModule) :
    (if s.gHaveTrackballLight then s.handleTrackballLightLocked else s).selectedStates =
      s.selectedStates := by
  obtain ⟨_, hsame⟩ := trackball_eq s
  rw [hsame]
  rfl

theorem ledLog_handleSpeakerBatteryLocked (s : LightsModule) (led : Led) :
    s.handleSpeakerBatteryLocked.ledLog led =
      s.selectedStates.foldl
        (writeChange (LightState.status · led) (LightState.ledWrites · led)) (s.ledLog led) := by
  rw [handleSpeakerBatteryLocked_eq_foldl, LightsModule.ledLog_foldl]

/-- A call writes to an LED the states it applies, as far as they change the status. -/
theorem ledLog_setLight (s : LightsModule) (call : LightCall) (led : Led) :
    (setLight s call).ledLog led =
      (appliedStates s call).foldl
        (writeChange (LightState.status · led) (LightState.ledWrites · led)) (s.ledLog led) := by
  obtain ⟨id, state⟩ := call
  cases id with
  | backlight =>
      refine (LightsModule.ledLog_trackball _ led).trans ?_
      exact LightsModule.ledLog_write _ (by intro _ _ h; cases h) _ led
  | keyboard => exact LightsModule.ledLog_write s (by intro _ _ h; cases h) _ led
  | buttons => exact LightsModule.ledLog_write _ (by intro _ _ h; cases h) _ led
  | battery =>
      refine (ledLog_handleSpeakerBatteryLocked _ led).trans ?_
      simp only [appliedStates, List.foldl_append]
      by_cases htrackball : s.gHaveTrackballLight
      · simp only [htrackball, if_true, selectedStates_setSpeakerLightLocked,
          LightsModule.ledLog_setSpeakerLightLocked, List.foldl_cons, List.foldl_nil]
        rfl
      · simp only [htrackball, Bool.false_eq_true, if_false, List.foldl_nil]
        rfl
  | notifications =>
      refine (ledLog_handleSpeakerBatteryLocked _ led).trans ?_
      rw [selectedStates_trackball, LightsModule.ledLog_trackball]
      rfl
  | attention =>
      refine (LightsModule.ledLog_trackball _ led).trans ?_
      cases state.flashMode <;> rfl

theorem ledLog_run (s : LightsModule) (calls : List LightCall) (led : Led) :
    (run setLight s calls).ledLog led =
      (applied s calls).foldl
        (writeChange (LightState.status · led) (LightState.ledWrites · led)) (s.ledLog led) := by
  induction calls generalizing s with
  | nil => rfl
  | cons call calls ih => rw [run_cons, ih, ledLog_setLight, applied, List.foldl_append]

/-- The states that change the status of an LED, from one with the status remembered at
the start. -/
def statusChanges (led : Led) (states : List LightState) : List LightState :=
  changes (LightState.status · led) .zero states

/-- Over any calls from the start, what is asked to be written to the files of an LED are
the writes of the states that change its status, in their order, and nothing else. -/
theorem ledWrites_run (haveTrackballLight : Bool) (calls : List LightCall) (led : Led) :
    (run setLight (.start haveTrackballLight) calls).ledWrites led =
      (statusChanges led (applied (.start haveTrackballLight) calls)).flatMap
        (LightState.ledWrites · led) := by
  have hzero : (LightsModule.start haveTrackballLight).ledLog led =
      (LightState.zero.status led, []) := by cases led <;> rfl
  have hlog := ledLog_run (.start haveTrackballLight) calls led
  rw [hzero, foldl_writeChange, List.nil_append] at hlog
  exact congrArg Prod.snd hlog

/-! ## Failing writes -/

/-- What an LED was last told by the writes that reached its files. -/
def LightsProcess.shownCommand (s : LightsProcess) (led : Led) : LedCommand :=
  s.accepted.foldl (commandStep led) .off

/-- The LED has the status the module remembers. -/
def TracksLed (s : LightsProcess) (led : Led) : Prop :=
  (s.shownCommand led).status = s.lights.preStatus led

/-- The process behind a sequence of calls, one after the other. -/
def runLocked (k : SysfsKernel) : LightsProcess → List LightCall → LightsProcess :=
  run fun s call => ((setLightLocked k call).exec s).2

/-- Every write the call asks for is accepted. -/
def AllAccepted (k : SysfsKernel) (s : LightsProcess) (call : LightCall) : Prop :=
  ∃ asked, (((setLightLocked k call).exec s).2).lights.writes = s.lights.writes ++ asked ∧
    (((setLightLocked k call).exec s).2).accepted = s.accepted ++ asked

variable {k : SysfsKernel}

/-- The module behind the calls, and the writes they asked for. -/
theorem lights_runLocked (s : LightsProcess) (calls : List LightCall) :
    (runLocked k s calls).lights = run setLight s.lights calls := by
  induction calls generalizing s with
  | nil => rfl
  | cons call calls ih =>
      rw [run_cons, ← lights_setLightLocked k call s, ← ih]
      rfl

/-- What all calls of a run ask for is accepted. -/
theorem exists_asked {s : LightsProcess} {calls : List LightCall}
    (h : Along (fun s call => ((setLightLocked k call).exec s).2) (AllAccepted k) s calls) :
    ∃ asked, (runLocked k s calls).lights.writes = s.lights.writes ++ asked ∧
      (runLocked k s calls).accepted = s.accepted ++ asked := by
  induction calls generalizing s with
  | nil => exact ⟨[], by simp [runLocked]⟩
  | cons call calls ih =>
      obtain ⟨⟨asked, hasked, haccepted⟩, hrest⟩ := h
      obtain ⟨asked', hasked', haccepted'⟩ := ih hrest
      refine ⟨asked ++ asked', ?_, ?_⟩
      · rw [← List.append_assoc, ← hasked]
        exact hasked'
      · rw [← List.append_assoc, ← haccepted]
        exact haccepted'

/-- Only the writes to its own files count for an LED. -/
theorem foldl_commandStep (led : Led) (c : LedCommand) (ws : List (SysfsFile × SysfsValue)) :
    ws.foldl (commandStep led) c =
      (ws.filterMap (ledWrite? led)).foldl (fun c w => c.afterWrite w.1 w.2) c := by
  rw [List.foldl_filterMap]
  congr 1
  funext c w
  obtain ⟨path, value⟩ := w
  cases path with
  | led led' file =>
      by_cases hled : led' = led <;> simp [commandStep, ledWrite?, hled]
  | _ => rfl

/-- The writes of a status give the LED this status, whatever it showed. -/
theorem status_foldl_statusWrites (c : LedCommand) (onMS offMS : Int) (status : LedStatus) :
    ((statusWrites onMS offMS status).foldl (fun c w => c.afterWrite w.1 w.2) c).status =
      status := by
  cases status <;> rfl

/-- The remembered status is that of the state applied last, or of an unlit one. -/
theorem preStatus_eq_getLastD (haveTrackballLight : Bool) (calls : List LightCall) (led : Led) :
    (run setLight (.start haveTrackballLight) calls).preStatus led =
      ((applied (.start haveTrackballLight) calls).getLastD .zero).status led := by
  rw [preStatus_run, List.getLastD_eq_getLast?]
  cases (applied (.start haveTrackballLight) calls).getLast? with
  | none => cases led <;> rfl
  | some state => rfl

/-- What an LED shows behind accepted writes: what it showed before, changed by the states
that change its status. -/
theorem shownCommand_of_accepted {s : LightsProcess} {calls : List LightCall}
    (h : Along (fun s call => ((setLightLocked k call).exec s).2) (AllAccepted k) s calls)
    {led : Led} {first : LightState} (hfirst : s.lights.preStatus led = first.status led) :
    (runLocked k s calls).shownCommand led =
      ((changes (LightState.status · led) first (applied s.lights calls)).flatMap
        (LightState.ledWrites · led)).foldl (fun c w => c.afterWrite w.1 w.2)
          (s.shownCommand led) := by
  obtain ⟨asked, hasked, haccepted⟩ := exists_asked h
  have hled : asked.filterMap (ledWrite? led) =
      (changes (LightState.status · led) first (applied s.lights calls)).flatMap
        (LightState.ledWrites · led) := by
    have hlog := congrArg Prod.snd (ledLog_run s.lights calls led)
    unfold LightsModule.ledLog at hlog
    rw [hfirst, foldl_writeChange] at hlog
    unfold LightsModule.ledWrites at hlog
    rw [← lights_runLocked, hasked, List.filterMap_append] at hlog
    exact List.append_cancel_left hlog
  rw [LightsProcess.shownCommand, haccepted, List.foldl_append, foldl_commandStep led _ asked, hled]
  rfl

/-- Behind any calls, whatever became of their writes: while everything asked for is
accepted, an LED has the remembered status afterwards if and only if it had it before or a
state that is applied asks for another one. -/
theorem tracksLed_iff_changed (haveTrackballLight : Bool) (p : Posix.Process)
    (front back : List LightCall) (led : Led)
    (hback : Along (fun s call => ((setLightLocked k call).exec s).2) (AllAccepted k)
      (runLocked k ⟨.start haveTrackballLight, p, []⟩ front) back) :
    let s := runLocked k ⟨.start haveTrackballLight, p, []⟩ front
    TracksLed (runLocked k s back) led ↔
      TracksLed s led ∨
        ∃ state ∈ applied s.lights back, state.status led ≠ s.lights.preStatus led := by
  intro s
  let first := (applied (.start haveTrackballLight) front).getLastD .zero
  have hfirst : s.lights.preStatus led = first.status led := by
    rw [lights_runLocked]
    exact preStatus_eq_getLastD haveTrackballLight front led
  have hshown := shownCommand_of_accepted hback hfirst
  have hremembered : (runLocked k s back).lights.preStatus led =
      ((changes (LightState.status · led) first (applied s.lights back)).getLastD first).status
        led := by
    have hlog := congrArg Prod.fst (ledLog_run s.lights back led)
    unfold LightsModule.ledLog at hlog
    rw [hfirst, foldl_writeChange] at hlog
    rw [lights_runLocked]
    exact hlog.trans (kind_getLastD_changes (LightState.status · led) _ _).symm
  unfold TracksLed
  rw [hshown, hremembered]
  rcases List.eq_nil_or_concat (changes (LightState.status · led) first (applied s.lights back))
    with hnone | ⟨front', last, hsome⟩
  · -- the status is never changed: nothing is written to the LED
    have hsame := changes_eq_nil_iff.mp hnone
    rw [hnone, List.flatMap_nil, List.foldl_nil, List.getLastD_nil, ← hfirst]
    refine (or_iff_left ?_).symm
    rintro ⟨state, hmem, hne⟩
    exact hne ((hsame state hmem).trans hfirst.symm)
  · have hchanged : ∃ state ∈ applied s.lights back, state.status led ≠ s.lights.preStatus led := by
      by_contra hnone
      have hempty : changes (LightState.status · led) first (applied s.lights back) = [] := by
        refine changes_eq_nil_iff.mpr fun state hmem => ?_
        by_contra hne
        exact hnone ⟨state, hmem, fun heq => hne (heq.trans hfirst)⟩
      simp [hempty] at hsome
    refine iff_of_true ?_ (.inr hchanged)
    rw [List.concat_eq_append] at hsome
    rw [hsome, List.flatMap_append, List.foldl_append, List.getLastD_concat, List.flatMap_singleton]
    exact status_foldl_statusWrites _ _ _ _

/-- A green notification whose writes fail and that is taken back: the LED has the
remembered status again. -/
theorem tracksLed_recovers :
    let k := SysfsKernel.openingFrom 2
    let s := runLocked k ⟨.start false, ⟨∅, 0⟩, []⟩
      [⟨.notifications, ⟨0xFF00FF00#32, .none, 0, 0⟩⟩]
    TracksLed (runLocked k s [⟨.notifications, .zero⟩]) .green ↔
      TracksLed s .green ∨ ∃ state ∈ applied s.lights [⟨.notifications, .zero⟩],
        state.status .green ≠ s.lights.preStatus .green :=
  tracksLed_iff_changed false ⟨∅, 0⟩ [⟨.notifications, ⟨0xFF00FF00#32, .none, 0, 0⟩⟩]
    [⟨.notifications, .zero⟩] .green
    ⟨⟨[(.led .green .brightness, .int 0)], by decide, by decide⟩, trivial⟩

end MediatekCommon.Lights
