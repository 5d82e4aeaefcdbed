/-
  Wpa/Asks.lean --- what each branch of the driver commands asks of the kernel.

  Three branches change the P2P configuration.  Every other branch leaves it, the command
  and the error count as they are, and each thing it asks for is asked for by few branches
  (`Effect.AskedBy`).
-/
import MediatekCommon.Wpa.DriverCmd

set_option autoImplicit false

namespace MediatekCommon.Wpa

open MediatekCommon.Foundation
open MediatekCommon.Foundation.Faulting

/-- The branches that may ask for this. -/
def Effect.AskedBy : Effect → Branch → Prop
  | .testmode _, _ => True
  | .privIoctl _, _ => False
  | .countryIoctl .., b | .channelListChanged _, b => b = .country
  | .setIfaceFlags _ devUp, b | .driverState devUp, b => b = if devUp then .start else .stop
  | .deauthenticate _, b => b = .stop
  | .scanLoadingTimeout, b => b = .setScanLoading

/-- The branches that change the P2P configuration. -/
def Branch.setsP2p : Branch → Bool
  | .p2pSetCap | .miracast | .p2pUseMcc => true
  | _ => false

/-- Only `buf` changes, and everything that is asked for is allowed. -/
structure Asks (allowed : Effect → Prop) (s : DriverState) (f : Option Fault) (s' : DriverState) :
    Prop where
  p2p : s'.p2p = s.p2p
  cmd : s'.cmd = s.cmd
  drvErrors : s'.drvErrors = s.drvErrors
  effects : ∃ new, s'.effects = s.effects ++ new ∧ ∀ effect ∈ new, allowed effect

theorem Asks.refl (allowed : Effect → Prop) (s : DriverState) (f : Option Fault) :
    Asks allowed s f s := ⟨rfl, rfl, rfl, [], (List.append_nil _).symm, by simp⟩

instance (allowed : Effect → Prop) : Composes (Asks allowed) where
  refl s := .refl allowed s none
  trans s s' s'' f h h' := by
    obtain ⟨new, hnew, hallowed⟩ := h.effects
    obtain ⟨new', hnew', hallowed'⟩ := h'.effects
    refine ⟨h'.p2p.trans h.p2p, h'.cmd.trans h.cmd, h'.drvErrors.trans h.drvErrors, new ++ new', ?_,
      fun effect hmem => ?_⟩
    · rw [hnew', hnew, List.append_assoc]
    · exact (List.mem_append.mp hmem).elim (hallowed effect) (hallowed' effect)

variable {allowed : Effect → Prop}

/-! ## The steps -/

theorem asks_emit {effect : Effect} (heffect : allowed effect) :
    Keeps (Asks allowed) (emit effect) :=
  keeps_modify fun _ => ⟨rfl, rfl, rfl, [effect], rfl, by simpa using heffect⟩

theorem asks_setBuf (text : List UInt8) : Keeps (Asks allowed) (setBuf text) :=
  keeps_modify fun _ => ⟨rfl, rfl, rfl, [], (List.append_nil _).symm, by simp⟩

theorem asks_readWpaS (wpaS : Option WpaSupplicant) : Keeps (Asks allowed) (readWpaS wpaS) := by
  cases wpaS with
  | none => exact keeps_fault fun s => .refl allowed s _
  | some wpaS => exact keeps_pure wpaS

section Testmode

variable (hallowed : ∀ call, allowed (.testmode call))

include hallowed

theorem asks_testmode (h : Host) (call : TestmodeCall) :
    Keeps (Asks allowed) (wpaDriverNl80211Testmode h call) :=
  (asks_emit (hallowed call)).bind fun _ => keeps_pure _

theorem asks_swCmd (h : Host) (swCmd idx : UInt32) :
    Keeps (Asks allowed) (wpaDriverNl80211DriverSwCmd h true swCmd idx) :=
  (asks_testmode hallowed h _).bind fun _ => keeps_pure _

theorem asks_sendSwCmd (h : Host) (swCmd idx : UInt32) :
    Keeps (Asks allowed) (sendSwCmd h swCmd idx) :=
  (asks_swCmd hallowed h swCmd idx).bind fun _ => keeps_pure _

theorem asks_sendNumberedSwCmd (h : Host) (n : Nat) (swCmd offset : UInt32) :
    Keeps (Asks allowed) (sendNumberedSwCmd h n swCmd offset) :=
  keeps_get.bind fun _ => (asks_sendSwCmd hallowed h _ _).ite (keeps_pure _)

theorem asks_staBlock (h : Host) (cmd : CString) (blocked : UInt8) :
    Keeps (Asks allowed) (wpaDriverStaBlock h cmd blocked) := by
  unfold wpaDriverStaBlock
  cases h.hwaddrAton cmd with
  | none => exact keeps_pure _
  | some bssid => exact asks_testmode hallowed h _

theorem asks_getStaStatistics (h : Host) (addr : CString) (bufLen : Nat) :
    Keeps (Asks allowed) (wpaDriverGetStaStatistics h addr bufLen) := by
  unfold wpaDriverGetStaStatistics
  cases h.hwaddrAton addr with
  | none => exact keeps_pure _
  | some staAddr =>
      refine (asks_testmode hallowed h _).bind fun ret => (keeps_pure _).ite ?_
      exact keeps_get.bind fun s => (asks_setBuf _).bind fun _ => keeps_pure _

theorem asks_transparentCommand (h : Host) : Keeps (Asks allowed) (transparentCommand h) :=
  keeps_get.bind fun _ => (asks_testmode hallowed h _).bind fun _ => keeps_pure _

end Testmode

theorem asks_setCountry (h : Host) (drv : Drv) (alpha2Arg : CString)
    (hallowed : ∀ ifrName text, allowed (.countryIoctl ifrName text)) :
    Keeps (Asks allowed) (wpaDriverMediatekSetCountry h drv alpha2Arg) := by
  refine (keeps_pure _).ite ?_
  exact (asks_emit (hallowed _ _)).bind fun _ => keeps_pure _

theorem asks_notifyCountryChange (cmd : CString) :
    Keeps (Asks (Effect.AskedBy · .country)) (wpaDriverNotifyCountryChange cmd) := by
  have hallowed : ∀ alpha2, Effect.AskedBy (.channelListChanged alpha2) .country := fun _ => rfl
  exact (asks_emit (hallowed _)).ite (keeps_pure _)

theorem asks_countryBranch (h : Host) (drv : Drv) (wpaS : Option WpaSupplicant) :
    Keeps (Asks (Effect.AskedBy · .country)) (countryBranch h drv wpaS) := by
  refine keeps_get.bind fun s => (keeps_pure _).ite ?_
  refine (asks_setCountry h drv _ fun _ _ => rfl).bind fun ret => Keeps.ite ?_ (keeps_pure _)
  refine (asks_readWpaS wpaS).bind fun _ => ?_
  exact (asks_notifyCountryChange _).bind fun _ => keeps_pure _

theorem asks_setIfaceState (h : Host) (drv : Drv) {devUp : Bool}
    (hflags : allowed (.setIfaceFlags drv.firstBssIfname devUp))
    (hstate : allowed (.driverState devUp)) :
    Keeps (Asks allowed) (setIfaceState h drv devUp) := by
  refine (asks_emit hflags).bind fun _ => (keeps_pure _).ite ?_
  exact (asks_emit hstate).bind fun _ => keeps_pure _

theorem asks_stopBranch (h : Host) (drv : Drv) (wpaS : Option WpaSupplicant) :
    Keeps (Asks (Effect.AskedBy · .stop)) (stopBranch h drv wpaS) := by
  have hdown : Keeps (Asks (Effect.AskedBy · .stop)) (setIfaceState h drv false) :=
    asks_setIfaceState h drv rfl rfl
  have hdeauth : Effect.AskedBy (.deauthenticate drv.bssid) .stop := rfl
  refine Keeps.ite ?_ hdown
  exact (asks_readWpaS wpaS).bind fun _ => (asks_emit hdeauth).bind fun _ => hdown

/-! ## The branches -/

/-- A branch that does not change the P2P configuration asks for what it may ask for. -/
theorem asks_runBranch (h : Host) (bufLen : Nat) (drv : Drv) (wpaS : Option WpaSupplicant)
    {b : Branch} (hb : b.setsP2p = false) :
    Keeps (Asks (Effect.AskedBy · b)) (runBranch h bufLen drv wpaS b) := by
  have htestmode : ∀ call, Effect.AskedBy (.testmode call) b := fun _ => trivial
  cases b with
  | p2pSetCap | miracast | p2pUseMcc => cases hb
  | powermode | getpower | getRtsThreshold | setRtsThreshold | btcoexscanStart
  | btcoexscanStop | btcoexmode => exact keeps_pure _
  | getStaStatistics =>
      refine (asks_readWpaS wpaS).bind fun _ => keeps_get.bind fun s => ?_
      exact (asks_getStaStatistics htestmode h _ bufLen).bind fun _ => keeps_pure _
  | macaddr =>
      refine (asks_readWpaS wpaS).bind fun wpaS => keeps_get.bind fun s => ?_
      exact (asks_setBuf _).bind fun _ => keeps_pure _
  | country => exact asks_countryBranch h drv wpaS
  | start => exact asks_setIfaceState h drv rfl rfl
  | stop => exact asks_stopBranch h drv wpaS
  | rxfilterAdd | rxfilterRemove | smtRate => exact asks_sendNumberedSwCmd htestmode h _ _ _
  | staBlock | staUnblock =>
      exact keeps_get.bind fun s => (asks_staBlock htestmode h _ _).bind fun _ => keeps_pure _
  | p2pGetCap =>
      refine (asks_readWpaS wpaS).bind fun _ => keeps_get.bind fun s => ?_
      cases s.p2p with
      | none => exact keeps_pure _
      | some p2p =>
          refine Keeps.bind ?_ fun _ => keeps_pure _
          exact keeps_get.bind fun s => (asks_setBuf _).bind fun _ => keeps_pure _
  | setScanLoading =>
      have htimeout : Effect.AskedBy .scanLoadingTimeout .setScanLoading := rfl
      refine (asks_swCmd htestmode h _ _).bind fun _ => ?_
      exact (asks_emit htimeout).bind fun _ => keeps_pure _
  | setSuspendMode =>
      exact keeps_get.bind fun s => (asks_testmode htestmode h _).bind fun _ => keeps_pure _
  | mtkRxPacketFilter =>
      refine keeps_get.bind fun s => (keeps_pure _).ite ?_
      exact (asks_testmode htestmode h _).bind fun _ => keeps_pure _
  | _ => exact asks_sendSwCmd htestmode h _ _

end MediatekCommon.Wpa
