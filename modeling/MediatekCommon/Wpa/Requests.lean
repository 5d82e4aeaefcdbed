/-
  Wpa/Requests.lean --- commands in a row.

  Commands arrive one after the other, each with its own interface, buffer and answers of
  the kernel; what they hand on is the P2P configuration, the error count and the log of
  what was asked of the kernel.  A command that is carried out without a fault goes one
  of four ways (`Request.Went`): it is refused, it is handled by its branch, it is handed
  on to the private ioctl by its branch, or no branch knows it.  Results about runs are
  proved for these ways (`carryOutAll_rule`).
-/
import MediatekCommon.Wpa.Asks

set_option autoImplicit false

namespace MediatekCommon.Wpa

open MediatekCommon.Foundation
open MediatekCommon.Foundation.Faulting

/-- A command as it arrives, and the world while it is carried out. -/
structure Request where
  host : Host
  bss : Bss
  cmd : CString
  buf : List UInt8
  bufLen : Nat

/-- The memory a command finds. -/
def Request.memory (r : Request) (s : DriverState) : DriverState :=
  { s with cmd := r.cmd, buf := r.buf }

/-- Carry out one command in its own memory. -/
def Request.carryOut (r : Request) : DriverM Int := do
  Faulting.modify r.memory
  wpaDriverNl80211DriverCmd r.host r.bss r.bufLen

/-- Carry out commands, until one faults. -/
def carryOutAll : List Request → DriverM Unit
  | [] => return ()
  | r :: rest => do
      let _ ← r.carryOut
      carryOutAll rest

/-! ## The ways a command goes -/

/-- The branches that hand a command on to the private ioctl. -/
def Branch.handsOn : Branch → Bool
  | .miracast | .setSuspendMode => true
  | _ => false

/-- How a command goes from one state to another without a fault, and what it returns. -/
inductive Request.Went (r : Request) (s : DriverState) : Int → DriverState → Prop where
  | refused (hopen : openBss r.bss = .ok none) : r.Went s (-1) (r.memory s)
  | handled {drv : Drv} {wpaS : Option WpaSupplicant} {b : Branch} {ret : Int} {s' : DriverState}
      (hopen : openBss r.bss = .ok (some (drv, wpaS)))
      (hdispatch : dispatch r.host.config r.cmd = some b) (hb : b.handsOn = false)
      (hrun : (runBranch r.host r.bufLen drv wpaS b).run (r.memory s) = (.ok (ret, true), s')) :
      r.Went s ret s'
  | handedOn {drv : Drv} {wpaS : Option WpaSupplicant} {b : Branch} {ret ret' : Int}
      {between s' : DriverState} (hopen : openBss r.bss = .ok (some (drv, wpaS)))
      (hdispatch : dispatch r.host.config r.cmd = some b) (hb : b.handsOn = true)
      (hrun : (runBranch r.host r.bufLen drv wpaS b).run (r.memory s) = (.ok (ret, false), between))
      (hpriv : (privateCommand r.host r.bss r.bufLen).run between = (.ok ret', s')) :
      r.Went s ret' s'
  | unknown {drv : Drv} {wpaS : Option WpaSupplicant} {ret ret' : Int} {between s' : DriverState}
      (hopen : openBss r.bss = .ok (some (drv, wpaS)))
      (hdispatch : dispatch r.host.config r.cmd = none)
      (hrun : (transparentCommand r.host).run (r.memory s) = (.ok (ret, false), between))
      (hpriv : (privateCommand r.host r.bss r.bufLen).run between = (.ok ret', s')) :
      r.Went s ret' s'

/-! ## What a branch leaves in `handled` -/

/-- The result has this `handled`. -/
def Handled (handled : Bool) (result : Int × Bool) : Prop := result.2 = handled

theorem handled_sendSwCmd (h : Host) (swCmd idx : UInt32) :
    Returns (Handled true) (sendSwCmd h swCmd idx) :=
  Returns.bind fun _ => returns_pure rfl

theorem handled_setIfaceState (h : Host) (drv : Drv) (devUp : Bool) :
    Returns (Handled true) (setIfaceState h drv devUp) :=
  Returns.bind fun _ => Returns.ite (returns_pure rfl) (Returns.bind fun _ => returns_pure rfl)

theorem handled_sendNumberedSwCmd (h : Host) (n : Nat) (swCmd offset : UInt32) :
    Returns (Handled true) (sendNumberedSwCmd h n swCmd offset) :=
  Returns.bind fun _ => (handled_sendSwCmd h _ _).ite (returns_pure rfl)

theorem handled_capBranch (wpaS : Option WpaSupplicant) (name : String)
    (act : P2pData → CString → DriverM Int) :
    Returns (Handled true) (capBranch wpaS name act) := by
  refine Returns.bind fun _ => Returns.bind fun s => ?_
  cases s.p2p with
  | none => exact returns_pure rfl
  | some p2p => exact Returns.bind fun _ => returns_pure rfl

theorem handled_miracastBranch (h : Host) (wpaS : Option WpaSupplicant) :
    Returns (Handled false) (miracastBranch h wpaS) := by
  refine Returns.bind fun s => Returns.ite (Returns.bind fun _ => returns_pure rfl) ?_
  refine Returns.ite ?_ (returns_pure rfl)
  cases strstr (ascii " freq=") s.cmd.bytes with
  | none => exact Returns.bind fun _ => returns_pure rfl
  | some pos =>
      exact Returns.bind fun _ => Returns.bind fun _ => Returns.bind fun _ => returns_pure rfl

theorem handled_p2pUseMccBranch (h : Host) (wpaS : Option WpaSupplicant) :
    Returns (Handled true) (p2pUseMccBranch h wpaS) := by
  refine Returns.bind fun s => Returns.bind fun _ => ?_
  cases s.p2p with
  | none => exact returns_fault
  | some p2p =>
      refine Returns.bind fun _ => Returns.ite ?_ ?_
      · exact Returns.bind fun _ => returns_pure rfl
      · exact Returns.bind fun _ => returns_pure rfl

/-- A branch is done with its command, unless it hands it on. -/
theorem handled_runBranch (h : Host) (bufLen : Nat) (drv : Drv) (wpaS : Option WpaSupplicant)
    (b : Branch) : Returns (Handled (!b.handsOn)) (runBranch h bufLen drv wpaS b) := by
  cases b with
  | powermode | getpower | getRtsThreshold | setRtsThreshold | btcoexscanStart
  | btcoexscanStop | btcoexmode => exact returns_pure rfl
  | getStaStatistics | macaddr =>
      exact Returns.bind fun _ => Returns.bind fun _ => Returns.bind fun _ => returns_pure rfl
  | country =>
      refine Returns.bind fun s => Returns.ite (returns_pure rfl) (Returns.bind fun ret => ?_)
      exact Returns.ite (Returns.bind fun _ => Returns.bind fun _ => returns_pure rfl)
        (returns_pure rfl)
  | start => exact handled_setIfaceState h drv true
  | stop =>
      refine Returns.ite ?_ (handled_setIfaceState h drv false)
      exact Returns.bind fun _ => Returns.bind fun _ => handled_setIfaceState h drv false
  | rxfilterAdd | rxfilterRemove | smtRate => exact handled_sendNumberedSwCmd h _ _ _
  | staBlock | staUnblock | setScanLoading | setSuspendMode =>
      exact Returns.bind fun _ => Returns.bind fun _ => returns_pure rfl
  | p2pGetCap | p2pSetCap =>
      unfold runBranch
      exact handled_capBranch wpaS _ _
  | miracast => exact handled_miracastBranch h wpaS
  | p2pUseMcc => exact handled_p2pUseMccBranch h wpaS
  | mtkRxPacketFilter =>
      refine Returns.bind fun _ => Returns.ite (returns_pure rfl) ?_
      exact Returns.bind fun _ => returns_pure rfl
  | _ => exact handled_sendSwCmd h _ _

/-! ## Every command goes one of these ways -/

theorem Request.went {r : Request} {s s' : DriverState} {ret : Int}
    (hrun : r.carryOut.run s = (.ok ret, s')) : r.Went s ret s' := by
  unfold Request.carryOut at hrun
  rw [run_bind_of_ok (run_modify _ s)] at hrun
  cases hopen : openBss r.bss with
  | error f =>
      rw [wpaDriverNl80211DriverCmd, hopen] at hrun
      cases hrun
  | ok opened =>
      cases opened with
      | none =>
          rw [wpaDriverNl80211DriverCmd, hopen] at hrun
          cases hrun
          exact .refused hopen
      | some opened =>
          obtain ⟨drv, wpaS⟩ := opened
          cases hchain : (runCommand r.host r.bufLen drv wpaS).run (r.memory s) with
          | mk result between =>
              cases result with
              | error f =>
                  rw [driverCmd_of_fault hopen hchain] at hrun
                  cases hrun
              | ok result =>
                  obtain ⟨value, handled⟩ := result
                  have hnext : handled = false →
                      (privateCommand r.host r.bss r.bufLen).run between = (.ok ret, s') := by
                    rintro rfl
                    exact (driverCmd_of_not_handled hopen hchain).symm.trans hrun
                  have hdone : handled = true → value = ret ∧ between = s' := by
                    rintro rfl
                    rw [driverCmd_of_handled hopen hchain] at hrun
                    cases hrun
                    exact ⟨rfl, rfl⟩
                  cases hdispatch : dispatch r.host.config r.cmd with
                  | none =>
                      have hlast := hchain
                      rw [runCommand_of_not_dispatch hdispatch] at hlast
                      obtain rfl : handled = false := by
                        cases hlast
                        rfl
                      exact .unknown hopen hdispatch hlast (hnext rfl)
                  | some b =>
                      have hbranch := hchain
                      rw [runCommand_of_dispatch hdispatch] at hbranch
                      have hhandled : handled = !b.handsOn :=
                        handled_runBranch r.host r.bufLen drv wpaS b _ _ _ hbranch
                      cases hb : b.handsOn with
                      | true =>
                          rw [hb] at hhandled
                          subst hhandled
                          exact .handedOn hopen hdispatch hb hbranch (hnext rfl)
                      | false =>
                          rw [hb] at hhandled
                          subst hhandled
                          obtain ⟨rfl, rfl⟩ := hdone rfl
                          exact .handled hopen hdispatch hb hbranch

/-- A run without a fault, one command after the other. -/
theorem carryOutAll_rule {R : List Request → DriverState → DriverState → Prop}
    (hnil : ∀ s, R [] s s)
    (hcons : ∀ (r : Request) rest s ret between s', r.Went s ret between → R rest between s' →
      R (r :: rest) s s')
    {requests : List Request} {s s' : DriverState}
    (hrun : (carryOutAll requests).run s = (.ok (), s')) : R requests s s' := by
  induction requests generalizing s with
  | nil =>
      obtain rfl := (Prod.mk.inj hrun).2
      exact hnil s
  | cons r rest ih =>
      rw [carryOutAll, run_bind] at hrun
      cases hfirst : r.carryOut.run s with
      | mk result between =>
          rw [hfirst] at hrun
          cases result with
          | error f => cases hrun
          | ok ret => exact hcons r rest s ret between s' (Request.went hfirst) (ih hrun)

end MediatekCommon.Wpa
