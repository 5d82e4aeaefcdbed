/-
  Wpa/ApInterface.lean --- driver commands on the access point interface.

  On "ap0" `drv->ctx` is a hostapd and the local `wpa_s` stays unassigned, but no
  branch is closed to such an interface.  Eight of them use `wpa_s`: five at once, and
  three on some of their paths only.
-/
import MediatekCommon.Wpa.Branches

set_option autoImplicit false

namespace MediatekCommon.Wpa

open MediatekCommon.Foundation
open MediatekCommon.Foundation.Faulting

/-- `wpa_driver_mediatek_set_country` succeeds. -/
def CountryIsSet (h : Host) (drv : Drv) (alpha2 : CString) : Prop :=
  0 ≤ h.socket ∧ 0 ≤ h.countryIoctl (countryIfrName h drv) (ascii "COUNTRY " ++ alpha2.bytes)

/-- The branch uses `wpa_s` for this command. -/
def NeedsWpaS (h : Host) (drv : Drv) (cmd : CString) : Branch → Prop
  | .getStaStatistics | .macaddr | .p2pGetCap | .p2pSetCap | .p2pUseMcc => True
  | .miracast => miracastValue h cmd ≤ 2
  | .country => cmd.strlen = "COUNTRY".length + 3 ∧ CountryIsSet h drv (cmd.advance 8)
  | .stop => drv.associated
  | _ => False

/-- The command does not read `wpa_s` unassigned. -/
def NotUnassigned (_ : DriverState) (f : Option Fault) (_ : DriverState) : Prop :=
  f ≠ some .unassignedWpaS

instance : Harmless NotUnassigned where
  refl _ := Option.some_ne_none _ |>.symm
  trans _ _ _ _ _ hsecond := hsecond
  emit _ _ := Option.some_ne_none _ |>.symm
  setBuf _ _ := Option.some_ne_none _ |>.symm
  setP2p _ _ := Option.some_ne_none _ |>.symm
  nullP2p _ := by simp [NotUnassigned]

theorem ne_of_keeps {α : Type} {x : DriverM α} (hx : Keeps NotUnassigned x) (s : DriverState) :
    (x.run s).1 ≠ .error .unassignedWpaS := by
  intro hrun
  have hkept := hx s
  rw [hrun] at hkept
  exact hkept rfl

/-- Nothing behind a read of `wpa_s` is reached. -/
theorem run_readWpaS_none_bind {α : Type} (f : WpaSupplicant → DriverM α) (s : DriverState) :
    (readWpaS none >>= f).run s = (.error .unassignedWpaS, s) := rfl

variable (h : Host) (bufLen : Nat) (drv : Drv) (s : DriverState)

theorem run_setCountry (alpha2 : CString) :
    ∃ ret s', (wpaDriverMediatekSetCountry h drv alpha2).run s = (.ok ret, s') ∧
      (ret = 0 ↔ CountryIsSet h drv alpha2) := by
  unfold wpaDriverMediatekSetCountry CountryIsSet
  split
  · exact ⟨-1, s, rfl, by omega⟩
  · refine ⟨_, _, rfl, ?_⟩
    split <;> omega

theorem countryBranch_reads_iff :
    ((countryBranch h drv none).run s).1 = .error .unassignedWpaS ↔
      NeedsWpaS h drv s.cmd .country := by
  unfold countryBranch NeedsWpaS
  rw [run_bind_of_ok (run_get s)]
  split
  · rename_i hlen
    exact iff_of_false (ne_of_keeps (keeps_pure _) s) fun hneeds => hlen hneeds.1
  · rename_i hlen
    obtain ⟨ret, s', hset, hzero⟩ := run_setCountry h drv s (s.cmd.advance 8)
    rw [run_bind_of_ok hset]
    split
    · rename_i hret
      rw [run_readWpaS_none_bind]
      exact iff_of_true rfl ⟨not_not.mp hlen, hzero.mp hret⟩
    · rename_i hret
      exact iff_of_false (ne_of_keeps (keeps_pure _) s') fun hneeds => hret (hzero.mpr hneeds.2)

theorem stopBranch_reads_iff :
    ((stopBranch h drv none).run s).1 = .error .unassignedWpaS ↔
      NeedsWpaS h drv s.cmd .stop := by
  unfold stopBranch NeedsWpaS
  split
  · rename_i hassociated
    rw [run_readWpaS_none_bind]
    exact iff_of_true rfl hassociated
  · rename_i hidle
    exact iff_of_false (ne_of_keeps (keeps_setIfaceState h drv false) s) hidle

theorem followStation_reads (positive : Int → Bool) (f : Unit → DriverM (Int × Bool)) :
    (followStation h none positive >>= f).run s = (.error .unassignedWpaS, s) := rfl

theorem miracastBranch_reads_iff :
    ((miracastBranch h none).run s).1 = .error .unassignedWpaS ↔
      NeedsWpaS h drv s.cmd .miracast := by
  have hsmall : NeedsWpaS h drv s.cmd .miracast ↔ miracastValue h s.cmd = 0 ∨
      miracastValue h s.cmd = 1 ∨ miracastValue h s.cmd = 2 := by
    simp only [NeedsWpaS, UInt8.le_iff_toNat_le, ← UInt8.toNat_inj, UInt8.reduceToNat]
    omega
  unfold miracastBranch
  rw [hsmall, run_bind_of_ok (run_get s)]
  dsimp only
  split
  · rename_i hvalue
    rw [followStation_reads]
    exact iff_of_true rfl (hvalue.imp_right .inl)
  · split
    · rename_i hvalue
      refine iff_of_true ?_ (.inr (.inr hvalue))
      split
      · rfl
      · rfl
    · rename_i hnot htwo
      refine iff_of_false (ne_of_keeps (keeps_pure _) s) ?_
      rintro (hvalue | hvalue | hvalue)
      · exact hnot (.inl hvalue)
      · exact hnot (.inr hvalue)
      · exact htwo hvalue

/-- A branch reads `wpa_s` unassigned exactly if it uses it. -/
theorem runBranch_reads_iff (b : Branch) :
    ((runBranch h bufLen drv none b).run s).1 = .error .unassignedWpaS ↔
      NeedsWpaS h drv s.cmd b := by
  cases b with
  | country => exact countryBranch_reads_iff h drv s
  | stop => exact stopBranch_reads_iff h drv s
  | miracast => exact miracastBranch_reads_iff h drv s
  | getStaStatistics | macaddr | p2pGetCap | p2pSetCap | p2pUseMcc =>
      exact iff_of_true rfl trivial
  | _ =>
      exact iff_of_false (ne_of_keeps (keeps_runBranch_of_not_usesWpaS h bufLen drv none rfl) s)
        id

theorem privateCommand_reads_not (bss : Bss) :
    ((privateCommand h bss bufLen).run s).1 ≠ .error .unassignedWpaS := by
  unfold privateCommand
  rw [run_bind_of_ok (run_get s), run_bind_of_ok (run_setBuf _ s)]
  split
  · rw [run_fault]
    simp
  · unfold issuePrivIoctl
    rw [run_bind_of_ok (run_emit _ _)]
    split <;> exact fun hfault => by cases hfault

variable {bss : Bss}

/-- What the function does on "ap0" once there is a driver with a context. -/
theorem openBss_of_ap0 (hap : bss.ifname.bytes = ascii "ap0") :
    openBss bss = .ok none ∧ (∀ drv ∈ bss.drv, drv.ctx = none) ∨
      ∃ drv ∈ bss.drv, drv.ctx.isSome ∧ openBss bss = .ok (some (drv, none)) := by
  unfold openBss
  cases bss.drv with
  | none => exact .inl ⟨rfl, by simp⟩
  | some drv =>
      cases hctx : drv.ctx with
      | none => exact .inl ⟨by simp [hctx], by simp [hctx]⟩
      | some ctx => exact .inr ⟨drv, rfl, by simp [hctx], by simp [hctx, hap]⟩

/-- Behind the chain of branches `wpa_s` is not used. -/
theorem driverCmd_reads_iff {wpaS : Option WpaSupplicant}
    (hopen : openBss bss = .ok (some (drv, wpaS))) :
    ((wpaDriverNl80211DriverCmd h bss bufLen).run s).1 = .error .unassignedWpaS ↔
      ((runCommand h bufLen drv wpaS).run s).1 = .error .unassignedWpaS := by
  cases hrun : (runCommand h bufLen drv wpaS).run s with
  | mk result s' =>
      match result, hrun with
      | .error f, hrun =>
          rw [driverCmd_of_fault hopen hrun]
          simp
      | .ok (ret, true), hrun =>
          rw [driverCmd_of_handled hopen hrun]
          simp
      | .ok (ret, false), hrun =>
          rw [driverCmd_of_not_handled hopen hrun]
          exact iff_of_false (privateCommand_reads_not h bufLen s' bss) (by simp)

theorem runCommand_reads_iff :
    ((runCommand h bufLen drv none).run s).1 = .error .unassignedWpaS ↔
      ∃ b ∈ dispatch h.config s.cmd, NeedsWpaS h drv s.cmd b := by
  cases hdispatch : dispatch h.config s.cmd with
  | none =>
      rw [runCommand_of_not_dispatch hdispatch]
      exact iff_of_false (ne_of_keeps (keeps_transparentCommand h) s) (by simp)
  | some b =>
      rw [runCommand_of_dispatch hdispatch, runBranch_reads_iff]
      simp

/-- A command on "ap0" never reads `wpa_s` exactly if the branch it enters does not use
it. -/
theorem never_reads_wpaS_iff (hap : bss.ifname.bytes = ascii "ap0") :
    ((wpaDriverNl80211DriverCmd h bss bufLen).run s).1 ≠ .error .unassignedWpaS ↔
      ∀ drv ∈ bss.drv, drv.ctx.isSome → ∀ b ∈ dispatch h.config s.cmd,
        ¬ NeedsWpaS h drv s.cmd b := by
  rcases openBss_of_ap0 hap with ⟨hopen, hctx⟩ | ⟨drv, hdrv, hctx, hopen⟩
  · refine iff_of_true ?_ fun drv hdrv hsome => ?_
    · rw [wpaDriverNl80211DriverCmd, hopen]
      exact fun hfault => by cases hfault
    · rw [hctx drv hdrv] at hsome
      cases hsome
  · rw [ne_eq, driverCmd_reads_iff h bufLen drv s hopen, runCommand_reads_iff]
    constructor
    · rintro hnone drv' hdrv' - b hb hneeds
      obtain rfl := Option.mem_unique hdrv hdrv'
      exact hnone ⟨b, hb, hneeds⟩
    · rintro hnone ⟨b, hb, hneeds⟩
      exact hnone drv hdrv hctx b hb hneeds

/-- A command of the firmware does not need the station. -/
theorem never_reads_wpaS_smt_test_on :
    let s : DriverState := .start ⟨ascii "smt-test-on", by decide⟩
    ((wpaDriverNl80211DriverCmd .reference .ap0 64).run s).1 ≠ .error .unassignedWpaS := by
  intro s
  have hdispatch : dispatch Host.reference.config s.cmd = some .smtTestOn := by decide +kernel
  apply (never_reads_wpaS_iff .reference 64 s rfl).mpr
  rintro drv - - b hb hneeds
  rw [hdispatch] at hb
  obtain rfl := Option.some.inj hb
  exact hneeds

/-- `MACADDR` on "ap0" reads the address of a supplicant that is not there. -/
theorem macaddr_reads_wpaS :
    let s : DriverState := .start ⟨ascii "MACADDR", by decide⟩
    ((wpaDriverNl80211DriverCmd .reference .ap0 64).run s).1 = .error .unassignedWpaS := by
  intro s
  have hdispatch : dispatch Host.reference.config s.cmd = some .macaddr := by decide +kernel
  rw [driverCmd_reads_iff _ _ _ _ openBss_ap0, runCommand_reads_iff]
  exact ⟨.macaddr, hdispatch, trivial⟩

end MediatekCommon.Wpa
