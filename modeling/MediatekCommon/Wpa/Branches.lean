/-
  Wpa/Branches.lean --- what every branch of the driver commands keeps.

  The branches are gone through once, for any relation that composes and that the
  single steps keep: a logged request, a new string in `buf`, a new P2P
  configuration, and the null check that p2p_use_mcc lacks.  Branches that use
  `wpa_s` need the relation to allow for the fault of reading it unassigned; the
  others do without.
-/
import MediatekCommon.Wpa.DriverCmd

set_option autoImplicit false

namespace MediatekCommon.Wpa

open MediatekCommon.Foundation
open MediatekCommon.Foundation.Faulting

/-- A relation that the single steps of the branches keep. -/
class Harmless (Q : DriverState → Option Fault → DriverState → Prop) : Prop
    extends Composes Q where
  emit : ∀ s effect, Q s none { s with effects := s.effects ++ [effect] }
  setBuf : ∀ s buf, Q s none { s with buf := buf }
  setP2p : ∀ s p2p, Q s none { s with p2p := p2p }
  nullP2p : ∀ s, Q s (some .nullP2p) s

/-- The branches that use `wpa_s`. -/
def Branch.usesWpaS : Branch → Bool
  | .getStaStatistics | .macaddr | .country | .stop | .p2pGetCap | .p2pSetCap | .miracast
  | .p2pUseMcc => true
  | _ => false

variable {Q : DriverState → Option Fault → DriverState → Prop} [Harmless Q]

/-! ## The steps -/

theorem keeps_emit (effect : Effect) : Keeps Q (emit effect) :=
  keeps_modify fun s => Harmless.emit s effect

theorem keeps_setBuf (text : List UInt8) : Keeps Q (setBuf text) :=
  keeps_modify fun s => Harmless.setBuf s text

theorem keeps_testmode (h : Host) (call : TestmodeCall) : Keeps Q (wpaDriverNl80211Testmode h call) :=
  (keeps_emit _).bind fun _ => keeps_pure _

theorem keeps_sendSwCmd (h : Host) (swCmd idx : UInt32) : Keeps Q (sendSwCmd h swCmd idx) := by
  have hsend : Keeps Q (wpaDriverNl80211DriverSwCmd h true swCmd idx) :=
    (keeps_testmode h _).bind fun _ => keeps_pure _
  exact hsend.bind fun _ => keeps_pure _

theorem keeps_sendNumberedSwCmd (h : Host) (n : Nat) (swCmd offset : UInt32) :
    Keeps Q (sendNumberedSwCmd h n swCmd offset) := by
  refine keeps_get.bind fun s => ?_
  exact (keeps_sendSwCmd h _ _).ite (keeps_pure _)

theorem keeps_staBlock (h : Host) (cmd : CString) (blocked : UInt8) :
    Keeps Q (wpaDriverStaBlock h cmd blocked) := by
  unfold wpaDriverStaBlock
  cases h.hwaddrAton cmd with
  | none => exact keeps_pure _
  | some bssid => exact keeps_testmode h _

theorem keeps_getStaStatistics (h : Host) (addr : CString) (bufLen : Nat) :
    Keeps Q (wpaDriverGetStaStatistics h addr bufLen) := by
  unfold wpaDriverGetStaStatistics
  cases h.hwaddrAton addr with
  | none => exact keeps_pure _
  | some staAddr =>
      refine (keeps_testmode h _).bind fun ret => ?_
      refine (keeps_pure _).ite ?_
      refine keeps_get.bind fun s => ?_
      exact (keeps_setBuf _).bind fun _ => keeps_pure _

theorem keeps_setCountry (h : Host) (drv : Drv) (alpha2Arg : CString) :
    Keeps Q (wpaDriverMediatekSetCountry h drv alpha2Arg) := by
  refine (keeps_pure _).ite ?_
  exact (keeps_emit _).bind fun _ => keeps_pure _

theorem keeps_notifyCountryChange (cmd : CString) : Keeps Q (wpaDriverNotifyCountryChange cmd) :=
  (keeps_emit _).ite (keeps_pure _)

theorem keeps_setIfaceState (h : Host) (drv : Drv) (devUp : Bool) : Keeps Q (setIfaceState h drv devUp) := by
  refine (keeps_emit _).bind fun _ => ?_
  refine (keeps_pure _).ite ?_
  exact (keeps_emit _).bind fun _ => keeps_pure _

theorem keeps_configScc (h : Host) (wpaS : WpaSupplicant) (scc : Bool) (operFreq : UInt32) :
    Keeps Q (configScc h wpaS scc operFreq) :=
  keeps_modify fun s => Harmless.setP2p s _

theorem keeps_transparentCommand (h : Host) : Keeps Q (transparentCommand h) := by
  refine keeps_get.bind fun s => ?_
  exact (keeps_testmode h _).bind fun _ => keeps_pure _

/-! ## The branches -/

/-- The branches that do not use `wpa_s`. -/
theorem keeps_runBranch_of_not_usesWpaS (h : Host) (bufLen : Nat) (drv : Drv)
    (wpaS : Option WpaSupplicant) {b : Branch} (hb : b.usesWpaS = false) :
    Keeps Q (runBranch h bufLen drv wpaS b) := by
  cases b with
  | getStaStatistics | macaddr | country | stop | p2pGetCap | p2pSetCap | miracast
  | p2pUseMcc => cases hb
  | start => exact keeps_setIfaceState h drv true
  | rxfilterAdd | rxfilterRemove | smtRate => exact keeps_sendNumberedSwCmd h _ _ _
  | staBlock | staUnblock =>
      refine keeps_get.bind fun s => ?_
      exact (keeps_staBlock h _ _).bind fun _ => keeps_pure _
  | setScanLoading =>
      refine Keeps.bind ?_ fun _ => (keeps_emit _).bind fun _ => keeps_pure _
      exact (keeps_testmode h _).bind fun _ => keeps_pure _
  | setSuspendMode =>
      refine keeps_get.bind fun s => ?_
      exact (keeps_testmode h _).bind fun _ => keeps_pure _
  | mtkRxPacketFilter =>
      refine keeps_get.bind fun s => (keeps_pure _).ite ?_
      exact (keeps_testmode h _).bind fun _ => keeps_pure _
  | powermode | getpower | getRtsThreshold | setRtsThreshold | btcoexscanStart
  | btcoexscanStop | btcoexmode => exact keeps_pure _
  | _ => exact keeps_sendSwCmd h _ _

section ReadingWpaS

variable (hread : ∀ s, Q s (some .unassignedWpaS) s)

include hread

theorem keeps_readWpaS (wpaS : Option WpaSupplicant) : Keeps Q (readWpaS wpaS) := by
  cases wpaS with
  | none => exact keeps_fault hread
  | some wpaS => exact keeps_pure wpaS

theorem keeps_followStation (h : Host) (wpaS : Option WpaSupplicant) (positive : Int → Bool) :
    Keeps Q (followStation h wpaS positive) := by
  refine (keeps_readWpaS hread wpaS).bind fun wpaS => ?_
  exact (keeps_configScc h wpaS _ _).ite (keeps_configScc h wpaS _ _)

theorem keeps_countryBranch (h : Host) (drv : Drv) (wpaS : Option WpaSupplicant) :
    Keeps Q (countryBranch h drv wpaS) := by
  refine keeps_get.bind fun s => (keeps_pure _).ite ?_
  refine (keeps_setCountry h drv _).bind fun ret => Keeps.ite ?_ (keeps_pure _)
  refine (keeps_readWpaS hread wpaS).bind fun _ => ?_
  exact (keeps_notifyCountryChange _).bind fun _ => keeps_pure _

theorem keeps_stopBranch (h : Host) (drv : Drv) (wpaS : Option WpaSupplicant) :
    Keeps Q (stopBranch h drv wpaS) := by
  refine Keeps.ite ?_ (keeps_setIfaceState h drv false)
  refine (keeps_readWpaS hread wpaS).bind fun _ => ?_
  exact (keeps_emit _).bind fun _ => keeps_setIfaceState h drv false

theorem keeps_capBranch (wpaS : Option WpaSupplicant) (name : String)
    {act : P2pData → CString → DriverM Int} (hact : ∀ p2p cmd, Keeps Q (act p2p cmd)) :
    Keeps Q (capBranch wpaS name act) := by
  refine (keeps_readWpaS hread wpaS).bind fun _ => keeps_get.bind fun s => ?_
  cases s.p2p with
  | none => exact keeps_pure _
  | some p2p => exact (hact p2p _).bind fun _ => keeps_pure _

theorem keeps_p2pUseMccBranch (h : Host) (wpaS : Option WpaSupplicant) :
    Keeps Q (p2pUseMccBranch h wpaS) := by
  refine keeps_get.bind fun s => (keeps_readWpaS hread wpaS).bind fun station => ?_
  cases s.p2p with
  | none => exact keeps_fault Harmless.nullP2p
  | some p2p =>
      refine (keeps_modify fun s => Harmless.setP2p s _).bind fun _ => ?_
      refine Keeps.ite ?_ ?_
      · exact (keeps_configScc h station _ _).bind fun _ => keeps_pure _
      · exact (keeps_followStation hread h wpaS _).bind fun _ => keeps_pure _

/-- Every branch but MIRACAST, which rewrites the command. -/
theorem keeps_runBranch (h : Host) (bufLen : Nat) (drv : Drv) (wpaS : Option WpaSupplicant)
    {b : Branch} (hb : b ≠ .miracast) : Keeps Q (runBranch h bufLen drv wpaS b) := by
  cases b with
  | miracast => exact absurd rfl hb
  | getStaStatistics =>
      refine (keeps_readWpaS hread wpaS).bind fun _ => keeps_get.bind fun s => ?_
      exact (keeps_getStaStatistics h _ bufLen).bind fun _ => keeps_pure _
  | macaddr =>
      refine (keeps_readWpaS hread wpaS).bind fun _ => keeps_get.bind fun s => ?_
      exact (keeps_setBuf _).bind fun _ => keeps_pure _
  | country => exact keeps_countryBranch hread h drv wpaS
  | stop => exact keeps_stopBranch hread h drv wpaS
  | p2pGetCap =>
      refine keeps_capBranch hread wpaS _ fun p2p cmd => keeps_get.bind fun s => ?_
      exact (keeps_setBuf _).bind fun _ => keeps_pure _
  | p2pSetCap =>
      refine keeps_capBranch hread wpaS _ fun p2p cmd => ?_
      exact (keeps_modify fun s => Harmless.setP2p s _).bind fun _ => keeps_pure _
  | p2pUseMcc => exact keeps_p2pUseMccBranch hread h wpaS
  | _ => exact keeps_runBranch_of_not_usesWpaS h bufLen drv wpaS rfl

end ReadingWpaS

end MediatekCommon.Wpa
