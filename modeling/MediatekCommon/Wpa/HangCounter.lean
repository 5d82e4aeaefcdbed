/-
  Wpa/HangCounter.lean --- what a run of commands asks of the private ioctl, and what
  `drv_errors` counts.

  Whether a command comes to the private ioctl, and with which text, is decided by its
  own text alone (`Request.privCall`).  A failed call is one error more, a call that
  succeeds sets the count back, and past `DRV_NUMBER_SEQUENTIAL_ERRORS` it starts anew.
  So the count is the number of failed calls since the last that succeeded, modulo one
  more than that constant.
-/
import MediatekCommon.Foundation.Runs
import MediatekCommon.Wpa.PrivateCommand
import MediatekCommon.Wpa.Sink

set_option autoImplicit false

namespace MediatekCommon.Wpa

open MediatekCommon.Foundation
open MediatekCommon.Foundation.Faulting

/-! ## Failures in a row -/

/-- One more attempt: a failure counts, but past `limit` the count starts anew, as it does
at a success. -/
def countFailure (limit count : Int) (failed : Bool) : Int :=
  if failed then if limit < count + 1 then 0 else count + 1 else 0

/-- How many of these attempts have failed since the last success. -/
def failuresInRow (attempts : List Bool) : Nat := (attempts.reverse.takeWhile id).length

theorem failuresInRow_concat (attempts : List Bool) (failed : Bool) :
    failuresInRow (attempts ++ [failed]) = if failed then failuresInRow attempts + 1 else 0 := by
  unfold failuresInRow
  rw [List.reverse_append, List.reverse_singleton, List.singleton_append]
  cases failed with
  | true => rfl
  | false => rfl

theorem succ_mod_succ (n limit : Nat) :
    (n + 1) % (limit + 1) = if limit < n % (limit + 1) + 1 then 0 else n % (limit + 1) + 1 := by
  have hlt : n % (limit + 1) < limit + 1 := Nat.mod_lt n (Nat.succ_pos limit)
  rw [← Nat.mod_add_mod]
  split
  · have hfull : n % (limit + 1) + 1 = limit + 1 := by omega
    rw [hfull, Nat.mod_self]
  · exact Nat.mod_eq_of_lt (by omega)

/-- The count behind attempts that start at 0. -/
theorem foldl_countFailure (limit : Nat) (attempts : List Bool) :
    attempts.foldl (countFailure limit) 0 = (failuresInRow attempts % (limit + 1) : Nat) := by
  induction attempts using List.reverseRecOn with
  | nil => rfl
  | append_singleton attempts failed ih =>
      rw [List.foldl_append, ih, List.foldl_cons, List.foldl_nil, failuresInRow_concat]
      cases failed with
      | false => rfl
      | true =>
          rw [if_pos rfl, succ_mod_succ, countFailure, if_pos rfl]
          split
          · rw [if_pos (by omega)]
            rfl
          · rw [if_neg (by omega)]
            push_cast
            rfl

/-! ## The private ioctl of a command -/

/-- The command the private ioctl gets: MIRACAST 2 loses its frequency. -/
def Request.handedCmd (r : Request) : CString :=
  if dispatch r.host.config r.cmd = some .miracast ∧ miracastValue r.host r.cmd = 2 ∧
      (strstr (ascii " freq=") r.cmd.bytes).isSome then miracast2
  else r.cmd

/-- The call of the private ioctl a command comes to, if it comes to one. -/
def Request.privCall (r : Request) : Option PrivIoctl :=
  match openBss r.bss, dispatch r.host.config r.cmd with
  | .ok (some _), none => some (privRequest r.bss.ifname r.handedCmd (privCmdLen r.handedCmd))
  | .ok (some _), some b =>
      if b.handsOn then some (privRequest r.bss.ifname r.handedCmd (privCmdLen r.handedCmd))
      else none
  | _, _ => none

/-- Whether the call of a command fails, if it comes to one. -/
def Request.privFails (r : Request) : Option Bool :=
  r.privCall.map fun call => decide (r.host.privIoctl call < 0)

/-- The calls of the private ioctl in a log. -/
def privCalls (effects : List Effect) : List PrivIoctl :=
  effects.filterMap fun
    | .privIoctl call => some call
    | _ => none

theorem privCalls_append (effects new : List Effect) :
    privCalls (effects ++ new) = privCalls effects ++ privCalls new :=
  List.filterMap_append

theorem privCalls_eq_nil {new : List Effect} {b : Branch}
    (hnew : ∀ effect ∈ new, effect.AskedBy b) : privCalls new = [] := by
  refine List.filterMap_eq_nil_iff.mpr fun effect hmem => ?_
  cases effect with
  | privIoctl call => exact (hnew _ hmem).elim
  | _ => rfl

/-- What a branch leaves for the private ioctl: no call, no count, and the command handed on. -/
theorem runBranch_leaves {r : Request} {drv : Drv} {wpaS : Option WpaSupplicant} {b : Branch}
    {result : Int × Bool} {s s' : DriverState} (hdispatch : dispatch r.host.config r.cmd = some b)
    (hrun : (runBranch r.host r.bufLen drv wpaS b).run (r.memory s) = (.ok result, s')) :
    privCalls s'.effects = privCalls s.effects ∧ s'.drvErrors = s.drvErrors ∧
      s'.cmd = r.handedCmd := by
  have hchain : (runCommand r.host r.bufLen drv wpaS).run (r.memory s) = (.ok result, s') := by
    have henters : (runCommand r.host r.bufLen drv wpaS).run (r.memory s) =
        (runBranch r.host r.bufLen drv wpaS b).run (r.memory s) := runCommand_of_dispatch hdispatch
    exact henters.trans hrun
  have hcmd : s'.cmd = r.handedCmd := by
    rcases cmd_runCommand hchain with ⟨hrebuilds, hcmd⟩ | ⟨hkeeps, hcmd⟩
    · exact hcmd.trans (if_pos hrebuilds).symm
    · exact hcmd.trans (if_neg hkeeps).symm
  obtain ⟨hcount, new, hnew, hallowed⟩ := effects_runBranch hrun
  refine ⟨?_, hcount, hcmd⟩
  rw [hnew, privCalls_append, privCalls_eq_nil hallowed, List.append_nil]
  rfl

theorem transparentCommand_leaves {r : Request} {result : Int × Bool} {s s' : DriverState}
    (hdispatch : dispatch r.host.config r.cmd = none)
    (hrun : (transparentCommand r.host).run (r.memory s) = (.ok result, s')) :
    privCalls s'.effects = privCalls s.effects ∧ s'.drvErrors = s.drvErrors ∧
      s'.cmd = r.handedCmd := by
  have hcmd : r.handedCmd = r.cmd := by simp [Request.handedCmd, hdispatch]
  cases hrun
  exact ⟨by rw [privCalls_append]; exact List.append_nil _, rfl, hcmd.symm⟩

theorem drvErrors_issuePrivIoctl (h : Host) (bufLen : Nat) (call : PrivIoctl) (s : DriverState) :
    ((issuePrivIoctl h bufLen call).run s).2.drvErrors =
      countFailure h.sequentialErrors s.drvErrors (decide (h.privIoctl call < 0)) := by
  unfold issuePrivIoctl countFailure
  rw [run_bind_of_ok (run_emit _ s)]
  split
  · rename_i hfails
    rw [if_pos (decide_eq_true hfails)]
    rfl
  · rename_i hsucceeds
    rw [if_neg fun hfails => hsucceeds (of_decide_eq_true hfails)]
    rfl

/-- What the private ioctl adds. -/
theorem privateCommand_adds {h : Host} {bss : Bss} {bufLen : Nat} {s s' : DriverState} {ret : Int}
    (hrun : (privateCommand h bss bufLen).run s = (.ok ret, s')) :
    let call := privRequest bss.ifname s.cmd (privCmdLen s.cmd)
    privCalls s'.effects = privCalls s.effects ++ [call] ∧
      s'.drvErrors =
        countFailure h.sequentialErrors s.drvErrors (decide (h.privIoctl call < 0)) := by
  have heffects := effects_privateCommand h bss bufLen s
  rw [hrun] at heffects
  unfold privateCommand at hrun
  rw [run_bind_of_ok (run_get s), run_bind_of_ok (run_setBuf _ s)] at hrun
  split at hrun
  · cases hrun
  · rename_i hcopies
    rw [if_neg hcopies] at heffects
    have hcount := drvErrors_issuePrivIoctl h bufLen
      (privRequest bss.ifname s.cmd (privCmdLen s.cmd))
      { s with buf := if bufLen = 0 then s.buf else [] }
    rw [hrun] at hcount
    exact ⟨by rw [heffects, privCalls_append]; rfl, hcount⟩

/-- What a command adds to the calls and does to the count. -/
theorem Request.Went.addsPrivCall {r : Request} {s s' : DriverState} {ret : Int}
    (h : r.Went s ret s') :
    privCalls s'.effects = privCalls s.effects ++ r.privCall.toList ∧
      s'.drvErrors =
        r.privFails.toList.foldl (countFailure r.host.sequentialErrors) s.drvErrors := by
  -- What is left for the private ioctl, and what it makes of that.
  have hcalls : ∀ {between : DriverState} {ret : Int},
      (privCalls between.effects = privCalls s.effects ∧ between.drvErrors = s.drvErrors ∧
        between.cmd = r.handedCmd) →
      (privateCommand r.host r.bss r.bufLen).run between = (.ok ret, s') →
      r.privCall = some (privRequest r.bss.ifname r.handedCmd (privCmdLen r.handedCmd)) →
      privCalls s'.effects = privCalls s.effects ++ r.privCall.toList ∧
        s'.drvErrors =
          r.privFails.toList.foldl (countFailure r.host.sequentialErrors) s.drvErrors := by
    rintro between ret ⟨hlog, hcount, hcmd⟩ hpriv hcall
    obtain ⟨hlog', hcount'⟩ := privateCommand_adds hpriv
    rw [hcmd] at hlog' hcount'
    rw [Request.privFails, hcall, hlog', hcount', hlog, hcount]
    exact ⟨rfl, rfl⟩
  cases h with
  | refused hopen =>
      have hcall : r.privCall = none := by rw [Request.privCall, hopen]
      rw [Request.privFails, hcall]
      exact ⟨(List.append_nil _).symm, rfl⟩
  | handled hopen hdispatch hb hrun =>
      have hcall : r.privCall = none := by
        rw [Request.privCall, hopen, hdispatch]
        exact if_neg (by simp [hb])
      obtain ⟨hlog, hcount, -⟩ := runBranch_leaves hdispatch hrun
      rw [Request.privFails, hcall, hlog, hcount]
      exact ⟨(List.append_nil _).symm, rfl⟩
  | handedOn hopen hdispatch hb hrun hpriv =>
      refine hcalls (runBranch_leaves hdispatch hrun) hpriv ?_
      rw [Request.privCall, hopen, hdispatch]
      exact if_pos hb
  | unknown hopen hdispatch hrun hpriv =>
      refine hcalls (transparentCommand_leaves hdispatch hrun) hpriv ?_
      rw [Request.privCall, hopen, hdispatch]

/-- A run without a fault calls the private ioctl once for each command that comes to it,
in their order, and counts the calls that have failed since the last that succeeded. -/
theorem privCalls_run {requests : List Request} {limit : Nat}
    (hlimit : ∀ r ∈ requests, r.host.sequentialErrors = limit) {s s' : DriverState}
    (hstart : s.drvErrors = 0) (hrun : (carryOutAll requests).run s = (.ok (), s')) :
    privCalls s'.effects = privCalls s.effects ++ requests.filterMap Request.privCall ∧
      s'.drvErrors =
        (failuresInRow (requests.filterMap Request.privFails) % (limit + 1) : Nat) := by
  rw [← foldl_countFailure, ← hstart]
  refine carryOutAll_rule (R := fun requests s s' =>
    (∀ r ∈ requests, r.host.sequentialErrors = limit) →
    privCalls s'.effects = privCalls s.effects ++ requests.filterMap Request.privCall ∧
      s'.drvErrors =
        (requests.filterMap Request.privFails).foldl (countFailure limit) s.drvErrors)
    ?_ ?_ hrun hlimit
  · rintro s -
    exact ⟨(List.append_nil _).symm, rfl⟩
  · intro r rest s ret between s' hwent hrest hlimit
    obtain ⟨hfirst, hlimits⟩ := List.forall_mem_cons.mp hlimit
    obtain ⟨hlog, hcount⟩ := hwent.addsPrivCall
    obtain ⟨hlogs, hcounts⟩ := hrest hlimits
    rw [hfirst] at hcount
    rw [hlogs, hlog, hcounts, hcount, List.filterMap_cons, List.filterMap_cons]
    constructor
    · cases r.privCall <;> simp
    · cases r.privFails <;> rfl

/-- A command on "wlan0" whose private ioctl returns this. -/
def Request.returning (ret : Int) (cmd : CString) : Request where
  host := { Host.reference with privIoctl := fun _ => ret }
  bss := .wlan0
  cmd := cmd
  buf := []
  bufLen := 64

/-- A success, then two failures with a command between that its branch handles. -/
def failingRun : List Request :=
  [.returning 0 (.literal "SETSUSPENDMODE 1"),
    .returning (-1) (.literal "WLS_BATCHING GET"),
    .returning (-1) (.literal "smt-test-on"),
    .returning (-1) (.literal "MIRACAST 2 freq=5180")]

theorem failingRun_ok : ((carryOutAll failingRun).run socialStart).1 = .ok () := by
  decide +kernel

theorem failuresInRow_failingRun :
    failuresInRow (failingRun.filterMap Request.privFails) % (4 + 1) = 2 := by
  decide +kernel

theorem privCalls_run_failing :
    privCalls ((carryOutAll failingRun).run socialStart).2.effects =
        privCalls socialStart.effects ++ failingRun.filterMap Request.privCall ∧
      ((carryOutAll failingRun).run socialStart).2.drvErrors = (2 : Nat) := by
  have hlimit : ∀ r ∈ failingRun, r.host.sequentialErrors = (4 : Nat) := by
    simp [failingRun, Request.returning, Host.reference, Host.answering]
  have hstart : socialStart.drvErrors = 0 := rfl
  have hcounts := privCalls_run hlimit hstart (run_eq_of_fst failingRun_ok)
  rwa [failuresInRow_failingRun] at hcounts

end MediatekCommon.Wpa
