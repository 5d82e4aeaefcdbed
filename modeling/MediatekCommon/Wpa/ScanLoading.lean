/-
  Wpa/ScanLoading.lean --- the scan loading timeout, over runs of the event loop.

  `set_scan_loading` cancels the timeout of its driver and registers it anew; once it is
  due, the event loop runs `wpa_driver_nl80211_scan_loading_timeout`, which announces a
  changed channel list.  No other command touches the timeout.  So whatever commands come
  in, the timeout's announcement follows the last `set_scan_loading` of its driver by ten
  seconds, and none is lost (`scanLoading_run`).

  The event loop is a parameter, assumed to do as documented.  Only what the timeout
  announces is counted: `COUNTRY` announces a changed channel list too.
-/
import MediatekCommon.Foundation.Runs
import MediatekCommon.Foundation.Timeouts
import MediatekCommon.Wpa.PrivateCommand
import MediatekCommon.Wpa.Sink

set_option autoImplicit false

namespace MediatekCommon.Wpa

open MediatekCommon.Foundation
open MediatekCommon.Foundation.Faulting

variable {σ κ : Type} (E : EventLoop σ κ)

/-! ## The process -/

/-- The delay of the timeout, ten seconds in microseconds. -/
def scanLoadingDelay : Nat := 10 * 1000000

/-- The process.  A timeout of `wpa_driver_nl80211_scan_loading_timeout` has for its key the
address of the driver it is registered with; the `ctx` that goes with it never changes. -/
structure WpaProcess (σ κ : Type) where
  driver : DriverState
  loop : σ
  /-- What the timeout announced, oldest first: for which driver, and when. -/
  announced : List (κ × Nat)

/-- What may happen. -/
inductive WpaEvent (κ : Type) where
  /-- A command arrives; its driver is at this address. -/
  | command (r : Request) (drv : κ)
  /-- Time passes. -/
  | pass (d : Nat)
  /-- The loop gets to its timeouts. -/
  | fire

/-- What an effect of a command does to the timeouts. -/
def registers (drv : κ) (l : σ) : Effect → σ
  | .scanLoadingTimeout => E.register scanLoadingDelay drv (E.cancel drv l)
  | _ => l

/-- `wpa_driver_nl80211_scan_loading_timeout`, run for this driver. -/
def WpaProcess.scanLoadingTimeout (s : WpaProcess σ κ) (drv : κ) : WpaProcess σ κ :=
  { s with announced := s.announced ++ [(drv, E.now s.loop)] }

/-- One event; a command that faults leaves nothing defined. -/
def wpaStep (s : WpaProcess σ κ) : WpaEvent κ → WpaProcess σ κ
  | .command r drv =>
      match r.carryOut.run s.driver with
      | (.ok _, driver) =>
          let new := driver.effects.drop s.driver.effects.length
          { s with driver, loop := new.foldl (registers E drv) s.loop }
      | (.error _, _) => s
  | .pass d => { s with loop := E.pass d s.loop }
  | .fire =>
      match E.fire s.loop with
      | (none, loop) => { s with loop }
      | (some drv, loop) => WpaProcess.scanLoadingTimeout E { s with loop } drv

/-- The event is no command that faults. -/
def NoFault (s : WpaProcess σ κ) : WpaEvent κ → Prop
  | .command r _ => ∃ ret, (r.carryOut.run s.driver).1 = .ok ret
  | _ => True

/-! ## The requests for an announcement -/

/-- The command enters the branch `set_scan_loading`. -/
def Request.setsScanLoading (r : Request) : Bool :=
  match openBss r.bss, dispatch r.host.config r.cmd with
  | .ok (some _), some .setScanLoading => true
  | _, _ => false

/-- The drivers for which `set_scan_loading` comes in, each with the time. -/
def scanLoadings : Nat → List (WpaEvent κ) → List (κ × Nat)
  | _, [] => []
  | now, .command r drv :: es =>
      if r.setsScanLoading then (drv, now) :: scanLoadings now es else scanLoadings now es
  | now, .pass d :: es => scanLoadings (now + d) es
  | now, .fire :: es => scanLoadings now es

/-! ## What a command registers -/

/-- The registrations in a log. -/
def registrations (effects : List Effect) : List Effect :=
  effects.filter fun effect => effect = .scanLoadingTimeout

theorem foldl_registers (drv : κ) (l : σ) (effects : List Effect) :
    effects.foldl (registers E drv) l = (registrations effects).foldl (registers E drv) l := by
  induction effects generalizing l with
  | nil => rfl
  | cons effect effects ih =>
      rw [List.foldl_cons, ih, registrations, registrations, List.filter_cons]
      cases effect with
      | scanLoadingTimeout => rfl
      | _ => rfl

theorem registrations_append (effects new : List Effect) :
    registrations (effects ++ new) = registrations effects ++ registrations new :=
  List.filter_append _ _

theorem registrations_eq_nil {new : List Effect} {b : Branch} (hb : b ≠ .setScanLoading)
    (hnew : ∀ effect ∈ new, effect.AskedBy b) : registrations new = [] := by
  refine List.filter_eq_nil_iff.mpr fun effect hmem heq => ?_
  obtain rfl : effect = .scanLoadingTimeout := of_decide_eq_true heq
  exact hb (hnew _ hmem)

/-- The log of a command, and the registrations in it. -/
def AddsRegistrations (s : DriverState) (n : List Effect) (s' : DriverState) : Prop :=
  ∃ new, s'.effects = s.effects ++ new ∧ registrations new = n

theorem addsRegistrations_runBranch {r : Request} {drv : Drv} {wpaS : Option WpaSupplicant}
    {b : Branch} {result : Int × Bool} {s s' : DriverState} (hb : b ≠ .setScanLoading)
    (hrun : (runBranch r.host r.bufLen drv wpaS b).run (r.memory s) = (.ok result, s')) :
    AddsRegistrations s [] s' := by
  obtain ⟨-, new, hnew, hallowed⟩ := effects_runBranch hrun
  exact ⟨new, hnew, registrations_eq_nil hb hallowed⟩

theorem AddsRegistrations.privateCommand {r : Request} {s between s' : DriverState} {ret : Int}
    {n : List Effect} (h : AddsRegistrations s n between)
    (hrun : (privateCommand r.host r.bss r.bufLen).run between = (.ok ret, s')) :
    AddsRegistrations s n s' := by
  obtain ⟨new, hnew, hregistrations⟩ := h
  have heffects := effects_privateCommand r.host r.bss r.bufLen between
  rw [hrun] at heffects
  dsimp only at heffects
  split at heffects
  · exact ⟨new, heffects.trans hnew, hregistrations⟩
  · refine ⟨_, heffects.trans (by rw [hnew, List.append_assoc]), ?_⟩
    rw [registrations_append, hregistrations]
    exact List.append_nil _

/-- A command registers a timeout if and only if it is `set_scan_loading`. -/
theorem Request.Went.addsRegistrations {r : Request} {s s' : DriverState} {ret : Int}
    (h : r.Went s ret s') :
    AddsRegistrations s (if r.setsScanLoading then [.scanLoadingTimeout] else []) s' := by
  have hother : ∀ {drv : Drv} {wpaS : Option WpaSupplicant} {b : Branch},
      openBss r.bss = .ok (some (drv, wpaS)) → dispatch r.host.config r.cmd = some b →
      b ≠ .setScanLoading → r.setsScanLoading = false := by
    intro drv wpaS b hopen hdispatch hb
    unfold Request.setsScanLoading
    rw [hopen, hdispatch]
    cases b with
    | setScanLoading => exact absurd rfl hb
    | _ => rfl
  cases h with
  | refused hopen =>
      have hsets : r.setsScanLoading = false := by rw [Request.setsScanLoading, hopen]
      rw [hsets]
      exact ⟨[], (List.append_nil _).symm, rfl⟩
  | @handled drv wpaS b ret _ hopen hdispatch hb hrun =>
      by_cases hset : b = .setScanLoading
      · subst hset
        have hsets : r.setsScanLoading = true := by
          rw [Request.setsScanLoading, hopen, hdispatch]
        rw [hsets]
        cases hrun
        exact ⟨_, List.append_assoc _ _ _, rfl⟩
      · rw [hother hopen hdispatch hset]
        exact addsRegistrations_runBranch hset hrun
  | @handedOn drv wpaS b _ _ _ _ hopen hdispatch hb hrun hpriv =>
      have hset : b ≠ .setScanLoading := by
        rintro rfl
        cases hb
      rw [hother hopen hdispatch hset]
      exact (addsRegistrations_runBranch hset hrun).privateCommand hpriv
  | unknown hopen hdispatch hrun hpriv =>
      have hsets : r.setsScanLoading = false := by
        rw [Request.setsScanLoading, hopen, hdispatch]
      rw [hsets]
      cases hrun
      exact AddsRegistrations.privateCommand ⟨[_], rfl, rfl⟩ hpriv

/-! ## Runs -/

variable {E} {s : WpaProcess σ κ}

theorem loop_command {r : Request} {drv : κ} (h : NoFault s (.command r drv)) :
    (wpaStep E s (.command r drv)).loop =
        (if r.setsScanLoading then E.register scanLoadingDelay drv (E.cancel drv s.loop)
          else s.loop) ∧
      (wpaStep E s (.command r drv)).announced = s.announced := by
  obtain ⟨ret, hret⟩ := h
  unfold wpaStep
  cases hrun : r.carryOut.run s.driver with
  | mk result driver =>
      rw [hrun] at hret
      obtain rfl : result = .ok ret := hret
      obtain ⟨new, hnew, hregistrations⟩ := (Request.went hrun).addsRegistrations
      dsimp only
      rw [hrun]
      dsimp only
      rw [hnew, List.drop_left, foldl_registers, hregistrations]
      refine ⟨?_, rfl⟩
      split
      · rfl
      · rfl

theorem loop_fire : (wpaStep E s .fire).loop = (E.fire s.loop).2 := by
  unfold wpaStep
  cases E.fire s.loop with
  | mk fired loop =>
      cases fired with
      | none => rfl
      | some drv => rfl

variable [DecidableEq κ]

/-- The timeout of a driver announces when the loop runs it. -/
theorem announced_fire (hE : E.Documented) :
    (wpaStep E s .fire).announced =
      s.announced ++ ((E.fire s.loop).1.map fun drv => (drv, E.now s.loop)).toList := by
  have hnow := hE.now_fire s.loop
  unfold wpaStep
  cases hfire : E.fire s.loop with
  | mk fired loop =>
      rw [hfire] at hnow
      cases fired with
      | none => exact (List.append_nil _).symm
      | some drv => exact congrArg (fun now => s.announced ++ [(drv, now)]) hnow

/-- The requests for an announcement so far have been answered as they should. -/
def Announces (E : EventLoop σ κ) (asked : List (κ × Nat)) (s : WpaProcess σ κ) : Prop :=
  Debounced scanLoadingDelay asked (E.now s.loop) (E.timeouts s.loop) s.announced

/-- From a process that has answered the requests so far. -/
theorem announces_run (hE : E.Documented) {asked : List (κ × Nat)} {es : List (WpaEvent κ)}
    (h : Announces E asked s) (hrun : Along (wpaStep E) NoFault s es) :
    Announces E (asked ++ scanLoadings (E.now s.loop) es) (run (wpaStep E) s es) := by
  induction es generalizing s asked with
  | nil => rwa [scanLoadings, List.append_nil]
  | cons e es ih =>
      obtain ⟨hstep, hrest⟩ := hrun
      cases e with
      | command r drv =>
          obtain ⟨hloop, hannounced⟩ := loop_command hstep
          rw [run_cons, scanLoadings]
          cases hsets : r.setsScanLoading with
          | true =>
              rw [hsets, if_pos rfl] at hloop
              have hrearmed := hE.debounced_rearm h drv
              rw [← hloop, ← hannounced] at hrearmed
              have hnow : E.now (wpaStep E s (.command r drv)).loop = E.now s.loop := by
                rw [hloop, hE.now_register, hE.now_cancel]
              have hnext := ih hrearmed hrest
              rwa [hnow, List.append_assoc] at hnext
          | false =>
              rw [hsets, if_neg Bool.false_ne_true] at hloop
              have hsame : Announces E asked (wpaStep E s (.command r drv)) := by
                unfold Announces
                rw [hloop, hannounced]
                exact h
              have hnext := ih hsame hrest
              rwa [hloop] at hnext
      | pass d =>
          have hnext := ih (s := wpaStep E s (.pass d)) (hE.debounced_pass h d) hrest
          rwa [show E.now (wpaStep E s (.pass d)).loop = E.now s.loop + d from hE.now_pass d _]
            at hnext
      | fire =>
          have hfired := hE.debounced_fire h
          rw [← announced_fire hE, ← loop_fire] at hfired
          have hnext := ih hfired hrest
          rwa [loop_fire, hE.now_fire] at hnext

/-- With an event loop that does as documented, in any run without a fault, of commands on
any interfaces of any drivers: each driver has one timeout at most, what the timeout
announces comes ten seconds behind the last `set_scan_loading` before it and lies ten
seconds apart; and once no timeout is overdue, no last `set_scan_loading` that is ten
seconds old is unanswered. -/
theorem scanLoading_run (hE : E.Documented) (driver : DriverState) {l : σ}
    (hl : E.timeouts l = []) {es : List (WpaEvent κ)}
    (hrun : Along (wpaStep E) NoFault ⟨driver, l, []⟩ es) :
    let asked := scanLoadings (E.now l) es
    let s := run (wpaStep E) ⟨driver, l, []⟩ es
    Debounced scanLoadingDelay asked (E.now s.loop) (E.timeouts s.loop) s.announced ∧
      ((∀ t ∈ E.timeouts s.loop, E.now s.loop < t.due) → ∀ drv since,
        lastAsked asked drv = some since → since + scanLoadingDelay ≤ E.now s.loop →
          ∃ time, (drv, time) ∈ s.announced ∧ since + scanLoadingDelay ≤ time) := by
  intro asked s
  have hstart : Announces E [] ⟨driver, l, []⟩ := by
    unfold Announces
    rw [hl]
    exact .start _ _
  have hannounces : Announces E asked s := announces_run hE hstart hrun
  exact ⟨hannounces, fun hdue drv since hlast hold =>
    Debounced.answered_of_none_overdue hannounces hdue hlast hold⟩

/-- Two requests of one driver, five seconds apart, and a command between them. -/
def scanLoadingRun : List (WpaEvent Nat) :=
  let request (cmd : CString) : Request := ⟨.reference, .wlan0, cmd, [], 64⟩
  [.command (request (.literal "set_scan_loading")) 1, .pass 5000000,
    .command (request (.literal "smt-test-on")) 1,
    .command (request (.literal "set_scan_loading")) 1, .pass 6000000, .fire,
    .pass 4000000, .fire]

theorem scanLoadingRun_noFault :
    Along (wpaStep .queue) NoFault ⟨socialStart, ⟨0, []⟩, []⟩ scanLoadingRun := by
  refine ⟨⟨0, ?_⟩, trivial, ⟨0, ?_⟩, ⟨0, ?_⟩, trivial, trivial, trivial, trivial, trivial⟩ <;>
    decide +kernel

theorem scanLoading_run_twice :
    let s := run (wpaStep .queue) ⟨socialStart, ⟨0, []⟩, []⟩ scanLoadingRun
    Debounced scanLoadingDelay [(1, 0), (1, 5000000)] s.loop.now s.loop.timeouts s.announced ∧
      s.announced = [(1, 15000000)] := by
  have hasked : scanLoadings 0 scanLoadingRun = [(1, 0), (1, 5000000)] := by decide +kernel
  have hdebounced :=
    (scanLoading_run EventLoop.queue_documented socialStart (l := ⟨0, []⟩) rfl
      scanLoadingRun_noFault).1
  have hnow : EventLoop.queue.now (⟨0, []⟩ : TimeoutQueue Nat) = 0 := rfl
  rw [hnow, hasked] at hdebounced
  exact ⟨hdebounced, by decide +kernel⟩

end MediatekCommon.Wpa
