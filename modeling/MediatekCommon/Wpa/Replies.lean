/-
  Wpa/Replies.lean --- the value of a driver command, as the length of its reply.

  The caller takes a positive value for the length of the string in the buffer.  Two
  branches and the private ioctl print into the buffer by `snprintf`, whose value is the
  length the whole text would have; the report of the station statistics returns 0 where it
  does not fit; every other branch returns 0 or an error.  `Replied` says this way by way,
  and every command replies so (`carryOut_replied`).  The longest text that may be cut is
  the address of the interface: in a buffer of more than 28 bytes a positive value is the
  length of the string.
-/
import MediatekCommon.Wpa.Requests
import MediatekCommon.Wpa.StaCommand

set_option autoImplicit false

namespace MediatekCommon.Wpa

open MediatekCommon.Foundation
open MediatekCommon.Foundation.Faulting

/-! ## Replies -/

/-- A text printed by `snprintf`: the value is its length, and the buffer has what fits. -/
def Printed (bufLen : Nat) (text : List UInt8) (ret : Int) (s : DriverState) : Prop :=
  ret = text.length ∧ s.buf = text.take (bufLen - 1)

/-- The line with the address of the interface. -/
def macaddrText (addr : List UInt8) : List UInt8 :=
  ascii "Macaddr = " ++ [58].intercalate (addr.map hexByte) ++ ascii "\n"

/-- The line with the device capabilities. -/
def devCapText (capab : UInt8) : List UInt8 :=
  ascii "p2p_dev_capa=" ++ decimal capab.toNat ++ ascii "\n"

/-- What a command may return, by the branch it enters if it enters one, and what is in the
buffer then. -/
inductive Replied (h : Host) (bufLen : Nat) (wpaS : Option WpaSupplicant) (ret : Int)
    (s : DriverState) : Option Branch → Prop where
  /-- 0 or an error -/
  | noLength {b : Branch} (hb : b ≠ .macaddr) (hdone : b.handsOn = false) (hret : ret ≤ 0) :
      Replied h bufLen wpaS ret s (some b)
  | report {record : StaStatistics} (hbuf : s.buf = staReport h.formatRate record)
      (hret : ret = s.buf.length) (hroom : ret < bufLen) :
      Replied h bufLen wpaS ret s (some .getStaStatistics)
  | macaddr {wpa : WpaSupplicant} (hwpa : wpaS = some wpa)
      (hprinted : Printed bufLen (macaddrText wpa.ownAddr) ret s) :
      Replied h bufLen wpaS ret s (some .macaddr)
  | p2pGetCap {p2p : P2pData} (hp2p : s.p2p = some p2p)
      (hprinted : Printed bufLen (devCapText p2p.devCapab) ret s) :
      Replied h bufLen wpaS ret s (some .p2pGetCap)
  /-- the private ioctl fails -/
  | failed {way : Option Branch} (hway : ∀ b ∈ way, b.handsOn = true)
      (hprinted : Printed bufLen (ascii "FAIL\n") ret s) : Replied h bufLen wpaS ret s way
  /-- it does not; for "WLS_BATCHING" the length of the string is returned -/
  | succeeded {way : Option Branch} (hway : ∀ b ∈ way, b.handsOn = true)
      (hbuf : s.buf = (ascii "OK\n").take (bufLen - 1))
      (hret : ret = if strncasecmp s.cmd.bytes (ascii "WLS_BATCHING") 12 then s.buf.length
        else (ascii "OK\n").length) : Replied h bufLen wpaS ret s way

/-- The longest text that `snprintf` may cut: the line with the address. -/
def longestCut : Nat := 28

/-- In a buffer that is long enough for every text that may be cut, a positive value is the
length of the string. -/
def Framed (bufLen : Nat) (ret : Int) (s : DriverState) : Prop :=
  longestCut < bufLen → 0 < ret → ret = s.buf.length ∧ ret < bufLen

/-- What the world outside returns is 0 or an error, and a rate is printed as a string. -/
structure Host.Regular (h : Host) : Prop where
  testmode : ∀ call, (h.testmode call).ret ≤ 0
  setIfaceFlags : ∀ ifname devUp, h.setIfaceFlags ifname devUp ≤ 0
  formatRate : ∀ rate, 0 ∉ h.formatRate rate

/-! ## Values that are not lengths -/

/-- The value is 0 or an error. -/
def NotLength (result : Int × Bool) : Prop := result.1 ≤ 0

theorem notLength_of_nonpos {ret : Int} (h : ret ≤ 0) (handled : Bool) :
    NotLength (ret, handled) := h

theorem notLength_zero (handled : Bool) : NotLength (0, handled) := Int.le_rfl

theorem notLength_error (handled : Bool) : NotLength (-1, handled) :=
  notLength_of_nonpos (by decide) handled

/-- The branches that print into the buffer. -/
def Branch.prints : Branch → Bool
  | .getStaStatistics | .macaddr | .p2pGetCap => true
  | _ => false

theorem notLength_sendSwCmd (h : Host) (swCmd idx : UInt32) :
    Returns NotLength (sendSwCmd h swCmd idx) :=
  Returns.bind fun _ => returns_pure (notLength_zero true)

theorem notLength_sendNumberedSwCmd (h : Host) (n : Nat) (swCmd offset : UInt32) :
    Returns NotLength (sendNumberedSwCmd h n swCmd offset) :=
  Returns.bind fun _ =>
    (notLength_sendSwCmd h _ _).ite (returns_pure (notLength_error true))

/-- A test mode message gives what becomes of its exchange. -/
theorem nonpos_testmode {h : Host} (hh : h.Regular) (call : TestmodeCall) :
    Returns (· ≤ 0) (wpaDriverNl80211Testmode h call) :=
  Returns.bind fun _ => returns_pure (hh.testmode call)

theorem notLength_setIfaceState {h : Host} (hh : h.Regular) (drv : Drv) (devUp : Bool) :
    Returns NotLength (setIfaceState h drv devUp) := by
  have hret := notLength_of_nonpos (hh.setIfaceFlags drv.firstBssIfname devUp) true
  exact Returns.bind fun _ => (returns_pure hret).ite (Returns.bind fun _ => returns_pure hret)

theorem notLength_countryBranch (h : Host) (drv : Drv) (wpaS : Option WpaSupplicant) :
    Returns NotLength (countryBranch h drv wpaS) := by
  refine Returns.bind fun s => (returns_pure (notLength_zero true)).ite ?_
  have hset : Returns (· ≤ 0) (wpaDriverMediatekSetCountry h drv (s.cmd.advance 8)) := by
    refine Returns.ite (returns_pure (by decide)) (Returns.bind fun _ => returns_pure ?_)
    split
    · omega
    · exact Int.le_rfl
  refine hset.bind_of fun ret hret => ?_
  have hvalue := notLength_of_nonpos hret true
  refine Returns.ite ?_ (returns_pure hvalue)
  exact Returns.bind fun _ => Returns.bind fun _ => returns_pure hvalue

theorem notLength_miracastBranch (h : Host) (wpaS : Option WpaSupplicant) :
    Returns NotLength (miracastBranch h wpaS) := by
  refine Returns.bind fun s => Returns.ite ?_ ?_
  · exact Returns.bind fun _ => returns_pure (notLength_error _)
  refine Returns.ite ?_ (returns_pure (notLength_error _))
  cases strstr (ascii " freq=") s.cmd.bytes with
  | none => exact Returns.bind fun _ => returns_pure (notLength_error _)
  | some pos =>
      exact Returns.bind fun _ => Returns.bind fun _ => Returns.bind fun _ =>
        returns_pure (notLength_error _)

theorem notLength_p2pUseMccBranch (h : Host) (wpaS : Option WpaSupplicant) :
    Returns NotLength (p2pUseMccBranch h wpaS) := by
  refine Returns.bind fun s => Returns.bind fun _ => ?_
  cases s.p2p with
  | none => exact returns_fault
  | some p2p =>
      refine Returns.bind fun _ => Returns.ite ?_ ?_
      · exact Returns.bind fun _ => returns_pure (notLength_error true)
      · exact Returns.bind fun _ => returns_pure (notLength_error true)

theorem notLength_p2pSetCap (h : Host) (bufLen : Nat) (drv : Drv) (wpaS : Option WpaSupplicant) :
    Returns NotLength (runBranch h bufLen drv wpaS .p2pSetCap) := by
  have hset : ∀ p2p cmd, (p2pSetCapability h.longBits p2p cmd).1 ≤ 0 := by
    intro p2p cmd
    unfold p2pSetCapability
    split
    · exact Int.le_rfl
    · split
      · exact (by decide : (-1 : Int) ≤ 0)
      · exact Int.le_rfl
  unfold runBranch capBranch
  refine Returns.bind fun _ => Returns.bind fun s => ?_
  cases s.p2p with
  | none => exact returns_pure (notLength_error true)
  | some p2p =>
      refine Returns.bind_of (R := (· ≤ 0)) ?_ fun ret hret =>
        returns_pure (notLength_of_nonpos hret true)
      exact Returns.bind fun _ => returns_pure (hset p2p _)

/-- A branch that does not print into the buffer does not return a length. -/
theorem notLength_runBranch {h : Host} (hh : h.Regular) (bufLen : Nat) (drv : Drv)
    (wpaS : Option WpaSupplicant) {b : Branch} (hb : b.prints = false) :
    Returns NotLength (runBranch h bufLen drv wpaS b) := by
  cases b with
  | getStaStatistics | macaddr | p2pGetCap => cases hb
  | powermode | getpower | getRtsThreshold | setRtsThreshold =>
      exact returns_pure (notLength_error _)
  | btcoexscanStart | btcoexscanStop | btcoexmode => exact returns_pure (notLength_zero _)
  | country => exact notLength_countryBranch h drv wpaS
  | start => exact notLength_setIfaceState hh drv true
  | stop =>
      refine Returns.ite ?_ (notLength_setIfaceState hh drv false)
      exact Returns.bind fun _ => Returns.bind fun _ => notLength_setIfaceState hh drv false
  | rxfilterAdd | rxfilterRemove | smtRate => exact notLength_sendNumberedSwCmd h _ _ _
  | staBlock | staUnblock =>
      refine Returns.bind fun _ => Returns.bind fun ret => returns_pure ?_
      apply notLength_of_nonpos
      split <;> decide
  | p2pSetCap => exact notLength_p2pSetCap h bufLen drv wpaS
  | miracast => exact notLength_miracastBranch h wpaS
  | p2pUseMcc => exact notLength_p2pUseMccBranch h wpaS
  | setScanLoading =>
      exact Returns.bind fun _ => Returns.bind fun _ => returns_pure (notLength_zero _)
  | setSuspendMode =>
      exact Returns.bind fun _ => Returns.bind fun _ => returns_pure (notLength_error _)
  | mtkRxPacketFilter =>
      refine Returns.bind fun _ => Returns.ite (returns_pure (notLength_error _)) ?_
      exact (nonpos_testmode hh _).bind_of fun ret hret =>
        returns_pure (notLength_of_nonpos hret true)
  | _ => exact notLength_sendSwCmd h _ _

/-! ## Values that are lengths -/

/-- The value is that of a complete report, or no length. -/
def Reports (h : Host) (bufLen : Nat) (ret : Int) (s : DriverState) : Prop :=
  ret ≤ 0 ∨ ∃ record, s.buf = staReport h.formatRate record ∧ ret = s.buf.length ∧ ret < bufLen

theorem reports_getStaStatistics {h : Host} (hh : h.Regular) (addr : CString) (bufLen : Nat) :
    Ends (Reports h bufLen) (wpaDriverGetStaStatistics h addr bufLen) := by
  intro s ret s' hrun
  cases haddr : h.hwaddrAton addr with
  | none =>
      rw [run_getStaStatistics_of_none haddr] at hrun
      cases hrun
      exact .inl (notLength_error true)
  | some staAddr =>
      rcases Int.lt_or_le (h.testmode (staStatisticsCall h staAddr)).ret 0 with hfailed | hanswered
      · rw [run_getStaStatistics_of_failed haddr hfailed] at hrun
        cases hrun
        exact .inl (notLength_error true)
      · obtain ⟨hfits, hsmall⟩ :=
          printedReport_eq h.formatRate hh.formatRate (h.staStatistics staAddr) bufLen s.buf
        rcases Nat.lt_or_ge (staReport h.formatRate (h.staStatistics staAddr)).length bufLen with
          hroom | hroom
        · rw [run_getStaStatistics_of_answered haddr hanswered (hfits hroom)] at hrun
          cases hrun
          exact .inr ⟨_, rfl, rfl, Int.ofNat_lt.mpr hroom⟩
        · obtain ⟨text, hprinted⟩ := hsmall hroom
          rw [run_getStaStatistics_of_answered haddr hanswered hprinted] at hrun
          cases hrun
          exact .inl Int.le_rfl

theorem reports_runBranch {h : Host} (hh : h.Regular) (bufLen : Nat) (drv : Drv)
    (wpaS : Option WpaSupplicant) :
    Ends (fun result s => Reports h bufLen result.1 s)
      (runBranch h bufLen drv wpaS .getStaStatistics) := by
  refine ends_bind fun _ => ends_bind fun s => ?_
  refine (reports_getStaStatistics hh (s.cmd.advance 19) bufLen).bind ?_
  intro ret s result s' hreply hrun
  cases hrun
  exact hreply

/-- The capabilities are printed for `p2p_dev_capa`. -/
theorem p2pGetCapability_cases {bufLen : Nat} (hbuf : 0 < bufLen) (p2p : P2pData) (cmd : CString)
    (buf : List UInt8) :
    (p2pGetCapability p2p cmd buf bufLen).1 ≤ 0 ∨
      ((p2pGetCapability p2p cmd buf bufLen).1 = (devCapText p2p.devCapab).length ∧
        (p2pGetCapability p2p cmd buf bufLen).2 =
          (devCapText p2p.devCapab).take (bufLen - 1)) := by
  unfold p2pGetCapability
  split
  · exact .inr ⟨rfl, if_neg (Nat.ne_of_gt hbuf)⟩
  · split
    · exact .inl (notLength_error true)
    · exact .inl Int.le_rfl

theorem ends_p2pGetCap {bufLen : Nat} (hbuf : 0 < bufLen) (h : Host) (drv : Drv)
    (wpaS : Option WpaSupplicant) :
    Ends (fun result s => result.1 ≤ 0 ∨ ∃ p2p, s.p2p = some p2p ∧
      Printed bufLen (devCapText p2p.devCapab) result.1 s)
      (runBranch h bufLen drv wpaS .p2pGetCap) := by
  intro s result s' hrun
  cases wpaS with
  | none => cases hrun
  | some wpa =>
      rw [runBranch, capBranch, run_bind_of_ok (rfl : (readWpaS (some wpa)).run s = (.ok wpa, s)),
        run_bind_of_ok (run_get s)] at hrun
      cases hp2p : s.p2p with
      | none =>
          rw [hp2p] at hrun
          cases hrun
          exact .inl (notLength_error true)
      | some p2p =>
          have hreply := p2pGetCapability_cases hbuf p2p (s.cmd.advance "p2p_get_cap ".length) s.buf
          let printed := p2pGetCapability p2p (s.cmd.advance "p2p_get_cap ".length) s.buf bufLen
          rw [hp2p] at hrun
          replace hrun : (Except.ok (printed.1, true), { s with buf := printed.2 }) =
            ((Except.ok result, s') : Except Fault (Int × Bool) × DriverState) := hrun
          cases hrun
          exact hreply.imp_right fun hprinted => ⟨p2p, hp2p, hprinted⟩

/-- A branch that is done with its command replies. -/
theorem replied_runBranch {h : Host} (hh : h.Regular) {bufLen : Nat} (hbuf : 0 < bufLen)
    {drv : Drv} {wpaS : Option WpaSupplicant} {b : Branch} (hb : b.handsOn = false)
    {s s' : DriverState} {ret : Int}
    (hrun : (runBranch h bufLen drv wpaS b).run s = (.ok (ret, true), s')) :
    Replied h bufLen wpaS ret s' (some b) := by
  cases hprints : b.prints with
  | false =>
      have hret : ret ≤ 0 := notLength_runBranch hh bufLen drv wpaS hprints _ _ _ hrun
      refine .noLength ?_ hb hret
      rintro rfl
      cases hprints
  | true =>
      cases b with
      | getStaStatistics =>
          rcases reports_runBranch hh bufLen drv wpaS _ _ _ hrun with
            hret | ⟨record, htext, hret, hroom⟩
          · exact .noLength Branch.noConfusion rfl hret
          · exact .report htext hret hroom
      | macaddr =>
          cases wpaS with
          | none => cases hrun
          | some wpa =>
              cases hrun
              exact .macaddr rfl ⟨rfl, if_neg (Nat.ne_of_gt hbuf)⟩
      | p2pGetCap =>
          rcases ends_p2pGetCap hbuf h drv wpaS _ _ _ hrun with hret | ⟨p2p, hp2p, hprinted⟩
          · exact .noLength Branch.noConfusion rfl hret
          · exact .p2pGetCap hp2p hprinted
      | _ => cases hprints

/-- The private ioctl replies with "OK" or "FAIL". -/
theorem replied_privateCommand {h : Host} {bss : Bss} {bufLen : Nat} (hbuf : 0 < bufLen)
    {wpaS : Option WpaSupplicant} {way : Option Branch} (hway : ∀ b ∈ way, b.handsOn = true) :
    Ends (fun ret s => Replied h bufLen wpaS ret s way) (privateCommand h bss bufLen) := by
  have hne : bufLen ≠ 0 := Nat.ne_of_gt hbuf
  refine ends_bind fun s => ends_bind fun _ => ?_
  split
  · exact fun _ _ _ hrun => nomatch hrun
  · unfold issuePrivIoctl
    refine ends_bind fun _ => ?_
    split
    · refine ends_bind fun _ => ?_
      intro s ret s' hrun
      cases hrun
      exact .failed hway ⟨rfl, if_neg hne⟩
    · refine ends_bind fun _ => ?_
      intro s ret s' hrun
      cases hrun
      refine .succeeded hway (if_neg hne) ?_
      split
      · rfl
      · rfl

/-! ## Every command replies -/

/-- A command is refused, or replies as the way it goes does. -/
theorem Request.Went.replied {r : Request} (hh : r.host.Regular) (hbuf : 0 < r.bufLen)
    {s s' : DriverState} {ret : Int} (h : r.Went s ret s') :
    (openBss r.bss = .ok none ∧ ret = -1) ∨
      ∃ drv wpaS, openBss r.bss = .ok (some (drv, wpaS)) ∧
        Replied r.host r.bufLen wpaS ret s' (dispatch r.host.config r.cmd) := by
  cases h with
  | refused hopen => exact .inl ⟨hopen, rfl⟩
  | @handled drv wpaS _ _ _ hopen hdispatch hb hrun =>
      exact .inr ⟨drv, wpaS, hopen, hdispatch ▸ replied_runBranch hh hbuf hb hrun⟩
  | @handedOn drv wpaS _ _ _ _ _ hopen hdispatch hb _ hpriv =>
      have hway : ∀ b ∈ dispatch r.host.config r.cmd, b.handsOn = true := by
        intro b hmem
        rw [hdispatch] at hmem
        cases hmem
        exact hb
      exact .inr ⟨drv, wpaS, hopen, replied_privateCommand hbuf hway _ _ _ hpriv⟩
  | @unknown drv wpaS _ _ _ _ hopen hdispatch _ hpriv =>
      have hway : ∀ b ∈ dispatch r.host.config r.cmd, b.handsOn = true := by
        intro b hmem
        rw [hdispatch] at hmem
        cases hmem
      exact .inr ⟨drv, wpaS, hopen, replied_privateCommand hbuf hway _ _ _ hpriv⟩

theorem length_macaddrText {addr : List UInt8} (haddr : addr.length = 6) :
    (macaddrText addr).length = longestCut := by
  match addr, haddr with
  | [b0, b1, b2, b3, b4, b5], _ => rfl

theorem length_devCapText (capab : UInt8) : (devCapText capab).length ≤ longestCut := by
  have hdecimal : ∀ n < 256, (decimal n).length ≤ 3 := by decide +kernel
  have hcapab := hdecimal capab.toNat capab.toNat_lt
  rw [devCapText, List.length_append, List.length_append]
  have hlabel : (ascii "p2p_dev_capa=").length = 13 := rfl
  have hend : (ascii "\n").length = 1 := rfl
  unfold longestCut
  omega

theorem Printed.framed {bufLen : Nat} {text : List UInt8} {ret : Int} {s : DriverState}
    (h : Printed bufLen text ret s) (htext : text.length ≤ longestCut) : Framed bufLen ret s := by
  rintro hlong -
  obtain ⟨rfl, hbuf⟩ := h
  rw [hbuf, List.take_of_length_le (by omega)]
  exact ⟨rfl, Int.ofNat_lt.mpr (by omega)⟩

/-- For an interface with an address of six bytes. -/
theorem Replied.framed {h : Host} {bufLen : Nat} {wpaS : Option WpaSupplicant}
    (haddr : ∀ wpa, wpaS = some wpa → wpa.ownAddr.length = 6) {ret : Int} {s : DriverState}
    {way : Option Branch} (hreply : Replied h bufLen wpaS ret s way) : Framed bufLen ret s := by
  cases hreply with
  | noLength _ _ hret => exact fun _ hpos => absurd hpos (Int.not_lt.mpr hret)
  | report _ hret hroom => exact fun _ _ => ⟨hret, hroom⟩
  | macaddr hwpa hprinted =>
      exact hprinted.framed (Nat.le_of_eq (length_macaddrText (haddr _ hwpa)))
  | p2pGetCap _ hprinted => exact hprinted.framed (length_devCapText _)
  | failed _ hprinted => exact hprinted.framed (by decide)
  | succeeded _ hbuf hret =>
      have hsame : (ascii "OK\n").length = 3 := rfl
      rintro hlong -
      have hwhole : s.buf = ascii "OK\n" :=
        hbuf.trans (List.take_of_length_le (by unfold longestCut at hlong; omega))
      rw [hwhole, ite_self] at hret
      rw [hret, hwhole]
      exact ⟨rfl, Int.ofNat_lt.mpr (by unfold longestCut at hlong; omega)⟩

/-- The reference host answers every request with 0. -/
theorem regular_reference : Host.reference.Regular :=
  ⟨fun _ => Int.le_rfl, fun _ _ => Int.le_rfl, fun _ => (by decide : 0 ∉ ascii "0.0")⟩

/-- "MACADDR" with a buffer of this length. -/
def macaddrRequest (bufLen : Nat) : Request :=
  ⟨.reference, .wlan0, .literal "MACADDR", [], bufLen⟩

end MediatekCommon.Wpa
