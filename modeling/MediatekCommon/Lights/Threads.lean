/-
  Lights/Threads.lean --- the lights module under several threads.

  Every `set_light` function takes `g_lock`, does all its work and releases it.  So any
  number of threads, scheduled in any way and answered by the kernel in any way, leave the
  module as the calls leave it that are made one after the other in the order the lock was
  taken (`threads_serve_in_order`).  While it holds the lock a thread may wait for a file
  to appear; if no such wait is ended by more than a given number of signals, no thread
  keeps the lock for more than a fixed number of its own steps (`lock_released`).
-/
import MediatekCommon.Lights.Arbitration
import MediatekCommon.Lights.Sysfs

set_option autoImplicit false

namespace MediatekCommon.Lights

open MediatekCommon.Foundation MediatekCommon.Foundation.Posix

variable {ι : Type} [DecidableEq ι] (k : SysfsKernel)

/-! ## Threads that call `set_light` -/

/-- Threads that make calls of `set_light`. -/
abbrev LightsThreads (ι : Type) : Type := Threads ι LightCall LightsProcess Int

/-- The threads behind a schedule, if each has these calls to make and the process starts
like this. -/
def runThreads (haveTrackballLight : Bool) (p : Process) (todo : ι → List LightCall)
    (schedule : List ι) : LightsThreads ι :=
  run (Threads.step (setLightLocked k)) (.start ⟨.start haveTrackballLight, p, []⟩ todo) schedule

/-- The calls served, in the order they took `g_lock`. -/
def callsServed (t : LightsThreads ι) : List LightCall := t.served.map Served.request

omit [DecidableEq ι] in
/-- What the calls do to the module, one after the other. -/
theorem lights_run_serve (served : List (Served ι LightCall Int)) (s : LightsProcess) :
    (run (Threads.serve (setLightLocked k)) s served).lights =
      run setLight s.lights (served.map Served.request) := by
  induction served generalizing s with
  | nil => rfl
  | cons e rest ih =>
      rw [run_cons, ih, Threads.serve, lights_setLightLocked]
      rfl

omit [DecidableEq ι] in
theorem proceeds_run_serve (served : List (Served ι LightCall Int)) (s : LightsProcess) :
    Proceeds s (run (Threads.serve (setLightLocked k)) s served) := by
  have hstep : ∀ t e, Proceeds s t → Proceeds s (Threads.serve (setLightLocked k) t e) :=
    fun t e h => Trans.trans h (keeps_setLightLocked k (e : Served ι LightCall Int).request t)
  exact run_of_invariant hstep (Std.Refl.refl s) served

/-- Whatever the schedule and the kernel, the threads are served as if they made their
calls one after the other, each in its own order: the results are those of such a run,
and whenever `g_lock` is free the module is in the state of it and remembers the statuses
of the state it selects, what has reached the files is a part of what was asked for, and
the descriptors are closed again. -/
theorem threads_serve_in_order (haveTrackballLight : Bool) (p : Process)
    (todo : ι → List LightCall) (schedule : List ι) :
    let t := runThreads k haveTrackballLight p todo schedule
    (∀ i, Threads.requestsOf i t.served ++ t.current i ++ t.todo i = todo i) ∧
      Along (Threads.serve (setLightLocked k)) (Threads.Answered (setLightLocked k))
        ⟨.start haveTrackballLight, p, []⟩ t.served ∧
      (t.holder = none →
        t.shared.lights = run setLight (.start haveTrackballLight) (callsServed t) ∧
          RemembersSelected t.shared.lights ∧ t.shared.process.fds = p.fds ∧
          t.shared.accepted.Sublist t.shared.lights.writes) := by
  intro t
  have hserial : Threads.Serial (setLightLocked k) ⟨.start haveTrackballLight, p, []⟩ todo t :=
    Threads.serial_run _ _ _ schedule
  refine ⟨hserial.order, hserial.answered, fun hfree => ?_⟩
  have hproceeds := proceeds_run_serve k t.served ⟨.start haveTrackballLight, p, []⟩
  have hlights : t.shared.lights = run setLight (.start haveTrackballLight) (callsServed t) := by
    rw [hserial.free hfree]
    exact lights_run_serve k t.served _
  rw [← hserial.free hfree] at hproceeds
  refine ⟨hlights, ?_, hproceeds.fds, ?_⟩
  · rw [hlights]
    exact remembersSelected_run _ _
  · obtain ⟨asked, taken, hasked, htaken, hsub⟩ := hproceeds.writes
    rw [hasked, htaken]
    exact hsub

/-! ## How long the lock is kept -/

theorem within_writeFile (mode : OpenMode) (path : SysfsFile) (value : SysfsValue) :
    (writeFile k mode path value).Within 3 := by
  refine Section.Within.bind (m := 1) (n := 2) (Section.within_act _) fun opened => ?_
  cases opened with
  | error errno => trivial
  | ok fd =>
      refine Section.Within.bind (m := 1) (n := 1) (Section.within_act _) fun amt => ?_
      refine Section.Within.bind (m := 1) (n := 0) (Section.within_act _) fun closed => ?_
      cases amt <;> trivial

theorem within_delayOffMissing (led : Led) : (delayOffMissing k led).Within 2 := by
  refine Section.Within.bind (m := 1) (n := 1) (Section.within_act _) fun found => ?_
  refine .ite ?_ trivial
  exact (Section.within_act _).bind fun _ => Section.within_pure _ 0

theorem within_sleepOn (ret : Sleep) : (sleepOn ret).Within ret.signals := by
  induction ret with
  | elapsed => trivial
  | failed errno => trivial
  | interrupted again ih => exact fun _ => ih

section Signals

variable {k} {n : Nat} (hk : k.InterruptsAtMost n)

include hk

/-- One call, and one more for each signal. -/
theorem within_ledWaitDelay : (ledWaitDelay k).Within (n + 1) :=
  Section.Within.act_bind _ fun s => (within_sleepOn _).mono (hk s.process)

/-- Each round looks at the file and sleeps; the last one only looks. -/
theorem within_awaitDelayOff (led : Led) (rounds : Nat) :
    (awaitDelayOff k led rounds).Within (rounds * (n + 3) + 2) := by
  induction rounds with
  | zero =>
      rw [Nat.zero_mul]
      exact Section.Within.bind (m := 2) (n := 0) (within_delayOffMissing k led) fun _ => trivial
  | succ rounds ih =>
      have hround : (awaitDelayOff k led (rounds + 1)).Within
          (2 + ((n + 1) + (rounds * (n + 3) + 2))) := by
        refine (within_delayOffMissing k led).bind fun missing => .ite ?_ trivial
        exact (within_ledWaitDelay hk).bind fun _ => ih
      refine hround.mono ?_
      rw [Nat.succ_mul]
      omega

theorem within_blinkLed (led : Led) (level onMS offMS : Int) :
    (blinkLed k led level onMS offMS).Within (10 * n + 43) := by
  have hremember : ∀ status : LedStatus, (do
      assign fun m => { m with preStatus := Function.update m.preStatus led status }
      return (0 : Int) : Locked Int).Within 1 :=
    fun _ => (Section.within_act _).bind fun _ => Section.within_pure _ 0
  have hread : (blinkLed k led level onMS offMS).Within (1 + (10 * n + 42)) := by
    unfold blinkLed
    refine (Section.within_act _).bind fun _ => .ite trivial ?_
    cases nowStatus level onMS offMS with
    | off =>
        have hoff := (within_writeFile k .rdwr (.led led .brightness) (.int 0)).bind
          fun _ => hremember .off
        exact hoff.mono (by omega)
    | blink =>
        -- the trigger, the wait, the two intervals and the status
        have hblink := (within_writeFile k .wronly (.led led .trigger) .timer).bind fun _ =>
          (within_awaitDelayOff hk led 10).bind fun _ =>
            (within_writeFile k .rdwr (.led led .delayOff) (.int offMS)).bind fun _ =>
              (within_writeFile k .rdwr (.led led .delayOn) (.int onMS)).bind fun _ =>
                hremember .blink
        exact hblink.mono (by omega)
    | noBlink =>
        have hsteady := (within_writeFile k .wronly (.led led .trigger) .none).bind fun _ =>
          (within_writeFile k .rdwr (.led led .brightness) (.int 255)).bind fun _ =>
            hremember .noBlink
        exact hsteady.mono (by omega)
  exact hread.mono (by omega)

theorem within_setSpeakerLightLocked (state : LightState) :
    (setSpeakerLightLocked k state).Within (20 * n + 86) := by
  have htwo : ∀ led led' l onMS offMS l' onMS' offMS', (do
      let _ ← blinkLed k led l onMS offMS
      let _ ← blinkLed k led' l' onMS' offMS' : Locked Unit).Within (20 * n + 86) := by
    intro led led' l onMS offMS l' onMS' offMS'
    have hboth := (within_blinkLed hk led l onMS offMS).bind fun _ =>
      (within_blinkLed hk led' l' onMS' offMS').bind fun _ => Section.within_pure () 0
    exact hboth.mono (by omega)
  exact .ite (.ite (htwo _ _ _ _ _ _ _ _) (htwo _ _ _ _ _ _ _ _))
    (.ite (htwo _ _ _ _ _ _ _ _) (htwo _ _ _ _ _ _ _ _))

theorem within_handleSpeakerBatteryLocked :
    (handleSpeakerBatteryLocked k).Within (40 * n + 174) := by
  have hread : (handleSpeakerBatteryLocked k).Within (1 + (40 * n + 173)) := by
    refine (Section.within_act _).bind fun gBattery => .ite ?_ ?_
    · exact (within_setSpeakerLightLocked hk gBattery).mono (by omega)
    · refine Section.Within.mono (m := (20 * n + 86) + (1 + (20 * n + 86))) ?_ (by omega)
      refine (within_setSpeakerLightLocked hk gBattery).bind fun _ => ?_
      exact (Section.within_act _).bind fun _ => within_setSpeakerLightLocked hk _
  exact hread.mono (by omega)

end Signals

theorem within_handleTrackballLightLocked : (handleTrackballLightLocked k).Within 6 := by
  refine Section.Within.bind (m := 1) (n := 5) (Section.within_act _) fun _ => ?_
  refine Section.Within.bind (m := 1) (n := 4) (Section.within_act _) fun _ => ?_
  refine Section.Within.bind (m := 1) (n := 3) (Section.within_act _) fun _ => .ite trivial ?_
  exact within_writeFile k _ _ _

theorem within_ifTrackball {x : Locked Unit} {n : Nat} (hx : x.Within n) :
    (ifTrackball x).Within (1 + n) :=
  (Section.within_act _).bind fun _ => .ite hx trivial

theorem within_trackball :
    (ifTrackball do let _ ← handleTrackballLightLocked k).Within 7 :=
  within_ifTrackball ((within_handleTrackballLightLocked k).bind fun _ => Section.within_pure () 0)

/-- How many accesses a call makes at most, if no wait is interrupted by more than `n`
signals. -/
def maxAccesses (n : Nat) : Nat := 60 * n + 262

theorem within_setLightLocked {n : Nat} (hk : k.InterruptsAtMost n) (call : LightCall) :
    (setLightLocked k call).Within (maxAccesses n) := by
  have hmax : maxAccesses n = 60 * n + 262 := rfl
  obtain ⟨id, state⟩ := call
  cases id with
  | backlight =>
      have hcall : (setLightBacklight k state).Within (1 + (3 + (7 + 0))) :=
        (Section.within_act _).bind fun _ => (within_writeFile k _ _ _).bind fun _ =>
          (within_trackball k).bind fun _ => trivial
      exact hcall.mono (by omega)
  | keyboard => exact (within_writeFile k _ _ _).mono (by omega)
  | buttons =>
      have hcall : (setLightButtons k state).Within (1 + 3) :=
        (Section.within_act _).bind fun _ => within_writeFile k _ _ _
      exact hcall.mono (by omega)
  | battery =>
      have hcall : (setLightBattery k state).Within
          (1 + ((1 + (20 * n + 86)) + ((40 * n + 174) + 0))) :=
        (Section.within_act _).bind fun _ =>
          (within_ifTrackball (within_setSpeakerLightLocked hk state)).bind fun _ =>
            (within_handleSpeakerBatteryLocked hk).bind fun _ => trivial
      exact hcall.mono (by omega)
  | notifications =>
      have hcall : (setLightNotifications k state).Within (1 + (7 + ((40 * n + 174) + 0))) :=
        (Section.within_act _).bind fun _ => (within_trackball k).bind fun _ =>
          (within_handleSpeakerBatteryLocked hk).bind fun _ => trivial
      exact hcall.mono (by omega)
  | attention =>
      have hrest : (do
          ifTrackball do let _ ← handleTrackballLightLocked k
          return (0 : Int) : Locked Int).Within (7 + 0) :=
        (within_trackball k).bind fun _ => trivial
      have hcall : (setLightAttention k state).Within (1 + (7 + 0)) := by
        unfold setLightAttention
        cases state.flashMode with
        | hardware | none => exact (Section.within_act _).bind fun _ => hrest
        | timed | other => exact hrest.mono (by decide)
      exact hcall.mono (by omega)

/-- If no wait for a file is interrupted by more than `n` signals, a thread that holds
`g_lock` has released it, its call served, once it has made `maxAccesses n + 1` further
steps, whatever the other threads and the kernel do. -/
theorem lock_released {n : Nat} (hk : k.InterruptsAtMost n) (haveTrackballLight : Bool)
    (p : Process) (todo : ι → List LightCall) (schedule later : List ι)
    {h : Holder ι LightCall LightsProcess Int}
    (hheld : (runThreads k haveTrackballLight p todo schedule).holder = some h)
    (hcount : maxAccesses n < later.count h.thread) :
    ∃ front, front <+: later ∧
      let t := runThreads k haveTrackballLight p todo (schedule ++ front)
      t.holder = none ∧ ∃ ret, t.served =
        (runThreads k haveTrackballLight p todo schedule).served ++
          [⟨h.thread, h.request, ret⟩] := by
  have hwithin : h.rest.Within (maxAccesses n) :=
    Threads.holderWithin_run (within_setLightLocked k hk) _ todo schedule h hheld
  obtain ⟨front, hfront, hfree, hserved⟩ := Threads.holder_released hheld hwithin hcount
  refine ⟨front, hfront, ?_⟩
  unfold runThreads at hfree hserved ⊢
  rw [run_append]
  exact ⟨hfree, hserved⟩

/-- One of two threads lights the keyboard; the other one waits meanwhile. -/
theorem lock_released_keyboard :
    let k := SysfsKernel.openingFrom 1
    let call : LightCall := ⟨.keyboard, ⟨0xFFFFFFFF#32, .none, 0, 0⟩⟩
    let todo : Bool → List LightCall := fun _ => [call]
    let later := false :: List.replicate (maxAccesses 0 + 1) true
    ∃ front, front <+: later ∧
      let t := runThreads k false ⟨∅, 0⟩ todo ([true] ++ front)
      t.holder = none ∧
        ∃ ret, t.served = (runThreads k false ⟨∅, 0⟩ todo [true]).served ++ [⟨true, call, ret⟩] :=
  lock_released (.openingFrom 1) (n := 0) (fun _ => le_refl 0) false ⟨∅, 0⟩
    (fun _ => [⟨.keyboard, ⟨0xFFFFFFFF#32, .none, 0, 0⟩⟩]) [true] _
    (h := ⟨true, ⟨.keyboard, ⟨0xFFFFFFFF#32, .none, 0, 0⟩⟩, setLightLocked (.openingFrom 1) _⟩)
    rfl (by simp)

end MediatekCommon.Lights
