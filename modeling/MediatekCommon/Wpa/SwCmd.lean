/-
  Wpa/SwCmd.lean --- firmware commands and what is reported of them.

  `wpa_driver_nl80211_driver_sw_cmd` drops the result of the exchange, and the
  branches that call it set `ret` to 0 whatever it returns.  A firmware command is
  therefore reported as done whether it was delivered or not.
-/
import MediatekCommon.Wpa.DriverCmd

set_option autoImplicit false

namespace MediatekCommon.Wpa

open MediatekCommon.Foundation
open MediatekCommon.Foundation.Faulting

/-- The branches rxfilter-*, smt-*, set_band_* and set_scan_loading. -/
def Branch.isFirmware : Branch → Bool
  | .rxfilterAdd | .rxfilterRemove | .rxfilterStop | .rxfilterStart
  | .smtRate | .smtTestOn | .smtTestOff
  | .smtTestScanOn | .smtTestScanOff | .smtTestRoamOn | .smtTestRoamOff
  | .smtTestCamOn | .smtTestCamOff | .smtTestBcnOn | .smtTestBcnOff
  | .smtTestPowerOn | .smtTestPowerOff | .smtTestFifoOn | .smtTestFifoOff
  | .setBandDual | .setBand2g4 | .setBand5g | .setScanLoading => true
  | _ => false

/-- The result of the function says how the exchange went: negative if it failed, else
0. -/
def DeliveryReported (outcome : Int) (result : Except Fault Int) : Prop :=
  ∃ ret, result = .ok ret ∧ (outcome < 0 → ret < 0) ∧ (0 ≤ outcome → ret = 0)

theorem deliveryReported_zero_iff (outcome : Int) :
    DeliveryReported outcome (.ok 0) ↔ 0 ≤ outcome := by
  constructor
  · rintro ⟨ret, hret, hfailed, -⟩
    obtain rfl := Except.ok.inj hret
    omega
  · intro hdelivered
    exact ⟨0, rfl, by omega, fun _ => rfl⟩

variable {h : Host} {bss : Bss} {drv : Drv} {wpaS : Option WpaSupplicant} {bufLen : Nat}

/-- A numbered command without a number does nothing; any other is done. -/
theorem run_sendNumberedSwCmd (h : Host) (n : Nat) (swCmd offset : UInt32) (s : DriverState) :
    (sendNumberedSwCmd h n swCmd offset).run s = (.ok (-1, true), s) ∨
      ∃ s', (sendNumberedSwCmd h n swCmd offset).run s = (.ok (0, true), s') := by
  unfold sendNumberedSwCmd
  rw [run_bind_of_ok (run_get s)]
  dsimp only
  split
  · exact .inr ⟨_, rfl⟩
  · exact .inl rfl

/-- A firmware branch does nothing or reports success. -/
theorem run_firmware {b : Branch} (hb : b.isFirmware = true) (s : DriverState) :
    (runBranch h bufLen drv wpaS b).run s = (.ok (-1, true), s) ∨
      ∃ s', (runBranch h bufLen drv wpaS b).run s = (.ok (0, true), s') := by
  cases b with
  | rxfilterAdd | rxfilterRemove | smtRate => exact run_sendNumberedSwCmd h _ _ _ s
  | rxfilterStop | rxfilterStart | smtTestOn | smtTestOff | smtTestScanOn | smtTestScanOff
  | smtTestRoamOn | smtTestRoamOff | smtTestCamOn | smtTestCamOff | smtTestBcnOn
  | smtTestBcnOff | smtTestPowerOn | smtTestPowerOff | smtTestFifoOn | smtTestFifoOff
  | setBandDual | setBand2g4 | setBand5g | setScanLoading => exact .inr ⟨_, rfl⟩
  | _ => cases hb

/-- A firmware command that is sent is reported as it went exactly if it was delivered. -/
theorem deliveryReported_iff (hopen : openBss bss = .ok (some (drv, wpaS))) {s : DriverState}
    {b : Branch} (hdispatch : dispatch h.config s.cmd = some b) (hb : b.isFirmware = true)
    {call : TestmodeCall}
    (hcall : .testmode call ∈ ((wpaDriverNl80211DriverCmd h bss bufLen).run s).2.effects.drop
      s.effects.length) :
    DeliveryReported (h.testmode call).ret
        ((wpaDriverNl80211DriverCmd h bss bufLen).run s).1 ↔
      0 ≤ (h.testmode call).ret := by
  have hchain : (runCommand h bufLen drv wpaS).run s = (runBranch h bufLen drv wpaS b).run s :=
    runCommand_of_dispatch hdispatch
  have hbranch : (runBranch h bufLen drv wpaS b).run s = _ ∨ _ := run_firmware hb s
  rcases hbranch with hrun | ⟨s', hrun⟩
  · rw [driverCmd_of_handled hopen (hchain.trans hrun)] at hcall
    simp at hcall
  · rw [driverCmd_of_handled hopen (hchain.trans hrun)]
    exact deliveryReported_zero_iff _

/-- The message of the command that turns the test mode of the firmware on. -/
def smtTestOnCall : TestmodeCall := ⟨testmodeIndex 1, 20, .swCmd 1 0xFFFF1234 0, 20⟩

/-- The command line `smt-test-on`. -/
def smtTestOnState : DriverState := .start ⟨ascii "smt-test-on", by decide⟩

theorem dispatch_smt_test_on : dispatch .full smtTestOnState.cmd = some .smtTestOn := by
  decide +kernel

theorem run_smt_test_on (testmode : TestmodeCall → Exchange) :
    (wpaDriverNl80211DriverCmd (.answering testmode) .wlan0 64).run smtTestOnState =
      (.ok 0, { smtTestOnState with effects := [.testmode smtTestOnCall] }) := by
  apply driverCmd_of_handled openBss_wlan0
  rw [runCommand_of_dispatch (h := .answering testmode) dispatch_smt_test_on]
  rfl

/-- A firmware command that is delivered. -/
theorem deliveryReported_smt_test_on :
    DeliveryReported (Host.reference.testmode smtTestOnCall).ret
      ((wpaDriverNl80211DriverCmd .reference .wlan0 64).run smtTestOnState).1 := by
  have hrun : (wpaDriverNl80211DriverCmd .reference .wlan0 64).run smtTestOnState = (.ok 0, _) :=
    run_smt_test_on fun _ => .exchanged 0
  have hcall : .testmode smtTestOnCall ∈
      ((wpaDriverNl80211DriverCmd .reference .wlan0 64).run smtTestOnState).2.effects.drop
        smtTestOnState.effects.length := by
    rw [hrun]
    exact List.mem_singleton_self _
  exact (deliveryReported_iff openBss_wlan0 dispatch_smt_test_on rfl hcall).mpr (by decide)

/-- The message cannot be allocated, and the command returns 0. -/
theorem smt_test_on_alloc_fails :
    let h : Host := .answering fun _ => .allocFailed
    let out := (wpaDriverNl80211DriverCmd h .wlan0 64).run smtTestOnState
    .testmode smtTestOnCall ∈ out.2.effects ∧ (h.testmode smtTestOnCall).ret = -1 ∧
      out.1 = .ok 0 ∧ ¬ DeliveryReported (h.testmode smtTestOnCall).ret out.1 := by
  intro h out
  have hrun : out = (.ok 0, _) := run_smt_test_on fun _ => .allocFailed
  rw [hrun]
  refine ⟨List.mem_singleton_self _, rfl, rfl, ?_⟩
  rw [deliveryReported_zero_iff]
  decide

end MediatekCommon.Wpa
