/-
  Wpa/Commands.lean --- the chain of `if`s in `wpa_driver_nl80211_driver_cmd` that
  tells the driver commands apart.

  A branch is entered if the command passes its guard and no guard before it.  There
  are three kinds of guard, each written with the text and the length the source
  gives; some branches exist only in builds with an option.  A command that passes
  no guard goes to the last `else`.
-/
import MediatekCommon.Foundation.CText

set_option autoImplicit false

namespace MediatekCommon.Wpa

open MediatekCommon.Foundation

/-- The build options the driver library is compiled with. -/
structure Config where
  /-- `CONFIG_HOTSPOT_MGR_SUPPORT` -/
  hotspotMgrSupport : Bool
  /-- `CONFIG_MTK_WFD_SINK` -/
  mtkWfdSink : Bool
  /-- `CONFIG_MTK_SCC_MCC` -/
  mtkSccMcc : Bool
  /-- `CONFIG_MTK_STAGE_SCAN` -/
  mtkStageScan : Bool
  /-- `MTK_TC1_FEATURE` -/
  mtkTc1Feature : Bool
  deriving DecidableEq, Repr

/-- The build with all `CONFIG_` options on. -/
def Config.full : Config := ⟨true, true, true, true, false⟩

/-- The branches of the chain, in the order of the source. -/
inductive Branch where
  | powermode | getStaStatistics | macaddr | country | start | stop
  | getpower | getRtsThreshold | setRtsThreshold
  | rxfilterAdd | rxfilterRemove | rxfilterStop | rxfilterStart
  | btcoexscanStart | btcoexscanStop | btcoexmode
  | smtRate | smtTestOn | smtTestOff
  | smtTestScanOn | smtTestScanOff | smtTestRoamOn | smtTestRoamOff
  | smtTestCamOn | smtTestCamOff | smtTestBcnOn | smtTestBcnOff
  | smtTestPowerOn | smtTestPowerOff | smtTestFifoOn | smtTestFifoOff
  | staBlock | staUnblock
  | p2pGetCap | p2pSetCap | miracast
  | p2pUseMcc
  | setBandDual | setBand2g4 | setBand5g | setScanLoading
  | setSuspendMode | mtkRxPacketFilter
  deriving DecidableEq, Repr

/-- A test on the command. -/
inductive Guard where
  /-- `os_strncasecmp(cmd, text, n) == 0` -/
  | strncasecmp (text : String) (n : Nat)
  /-- `os_strncmp(cmd, text, n) == 0` -/
  | strncmp (text : String) (n : Nat)
  /-- `os_strcasecmp(cmd, text) == 0` -/
  | strcasecmp (text : String)
  deriving DecidableEq, Repr

/-- Whether the command passes. -/
def Guard.passes (cmd : CString) : Guard → Bool
  | .strncasecmp text n => Foundation.strncasecmp cmd.bytes (ascii text) n
  | .strncmp text n => Foundation.strncmp cmd.bytes (ascii text) n
  | .strcasecmp text => Foundation.strcasecmp cmd.bytes (ascii text)

namespace Branch

def guard : Branch → Guard
  | powermode => .strncasecmp "POWERMODE " 10
  | getStaStatistics => .strncasecmp "GET_STA_STATISTICS " 19
  | macaddr => .strncmp "MACADDR" "MACADDR".length
  | country => .strncasecmp "COUNTRY" "COUNTRY".length
  | start => .strcasecmp "start"
  | stop => .strcasecmp "stop"
  | getpower => .strncasecmp "getpower" 8
  | getRtsThreshold => .strncasecmp "get-rts-threshold" 17
  | setRtsThreshold => .strncasecmp "set-rts-threshold" 17
  | rxfilterAdd => .strncasecmp "rxfilter-add" 12
  | rxfilterRemove => .strncasecmp "rxfilter-remove" 15
  | rxfilterStop => .strncasecmp "rxfilter-stop" 13
  | rxfilterStart => .strncasecmp "rxfilter-start" 14
  | btcoexscanStart => .strcasecmp "btcoexscan-start"
  | btcoexscanStop => .strcasecmp "btcoexscan-stop"
  | btcoexmode => .strncasecmp "btcoexmode" 10
  | smtRate => .strncasecmp "smt-rate" 8
  | smtTestOn => .strncasecmp "smt-test-on" 11
  | smtTestOff => .strncasecmp "smt-test-off" 12
  | smtTestScanOn => .strncasecmp "smt-test-scan-on" 16
  | smtTestScanOff => .strncasecmp "smt-test-scan-off" 17
  | smtTestRoamOn => .strncasecmp "smt-test-roam-on" 16
  | smtTestRoamOff => .strncasecmp "smt-test-roam-off" 17
  | smtTestCamOn => .strncasecmp "smt-test-cam-on" 15
  | smtTestCamOff => .strncasecmp "smt-test-cam-off" 16
  | smtTestBcnOn => .strncasecmp "smt-test-bcn-on" 15
  | smtTestBcnOff => .strncasecmp "smt-test-bcn-off" 16
  | smtTestPowerOn => .strncasecmp "smt-test-power-on" 17
  | smtTestPowerOff => .strncasecmp "smt-test-power-off" 18
  | smtTestFifoOn => .strncasecmp "smt-test-fifo-on" 16
  | smtTestFifoOff => .strncasecmp "smt-test-fifo-off" 17
  | staBlock => .strncmp "STA-BLOCK " 10
  | staUnblock => .strncmp "STA-UNBLOCK " 12
  | p2pGetCap => .strncmp "p2p_get_cap " "p2p_get_cap ".length
  | p2pSetCap => .strncmp "p2p_set_cap " "p2p_set_cap ".length
  | miracast => .strncmp "MIRACAST " "MIRACAST ".length
  | p2pUseMcc => .strncasecmp "p2p_use_mcc=" "p2p_use_mcc=".length
  | setBandDual => .strncasecmp "set_band_dual" 13
  | setBand2g4 => .strncasecmp "set_band_2g4" 12
  | setBand5g => .strncasecmp "set_band_5g" 11
  | setScanLoading => .strncasecmp "set_scan_loading" 16
  | setSuspendMode => .strncasecmp "SETSUSPENDMODE " 15
  | mtkRxPacketFilter => .strncasecmp "mtk_rx_packet_filter " 21

/-- Whether a build has the branch. -/
def compiled (c : Config) : Branch → Bool
  | staBlock | staUnblock => c.hotspotMgrSupport
  | p2pGetCap | p2pSetCap | miracast => c.mtkWfdSink
  | p2pUseMcc => c.mtkSccMcc
  | setBandDual | setBand2g4 | setBand5g | setScanLoading => c.mtkStageScan
  | _ => true

/-- Every branch, in the order of the source. -/
def chain : List Branch :=
  [powermode, getStaStatistics, macaddr, country, start, stop,
    getpower, getRtsThreshold, setRtsThreshold,
    rxfilterAdd, rxfilterRemove, rxfilterStop, rxfilterStart,
    btcoexscanStart, btcoexscanStop, btcoexmode,
    smtRate, smtTestOn, smtTestOff,
    smtTestScanOn, smtTestScanOff, smtTestRoamOn, smtTestRoamOff,
    smtTestCamOn, smtTestCamOff, smtTestBcnOn, smtTestBcnOff,
    smtTestPowerOn, smtTestPowerOff, smtTestFifoOn, smtTestFifoOff,
    staBlock, staUnblock,
    p2pGetCap, p2pSetCap, miracast,
    p2pUseMcc,
    setBandDual, setBand2g4, setBand5g, setScanLoading,
    setSuspendMode, mtkRxPacketFilter]

end Branch

/-- The branch a command enters, or `none` for the last `else`. -/
def dispatch (c : Config) (cmd : CString) : Option Branch :=
  Branch.chain.find? fun b => b.compiled c && b.guard.passes cmd

/-! ## The first byte -/

/-- The first byte of the command fails the guard already. -/
def Guard.rejects (b : UInt8) : Guard → Bool
  | .strncasecmp text n => 0 < n && tolower b != tolower ((ascii text).headD 0)
  | .strncmp text n => 0 < n && b != (ascii text).headD 0
  | .strcasecmp text => tolower b != tolower ((ascii text).headD 0)

theorem not_passes_of_rejects {cmd : CString} {b : UInt8} {rest : List UInt8} {g : Guard}
    (hcmd : cmd.bytes = b :: rest) (hrejects : g.rejects b = true) : g.passes cmd = false := by
  cases g with
  | strncasecmp text n =>
      simp only [Guard.rejects, Bool.and_eq_true, decide_eq_true_eq, bne_iff_ne] at hrejects
      rw [Guard.passes, hcmd]
      exact sameUpTo_of_head_ne hrejects.1 hrejects.2
  | strncmp text n =>
      simp only [Guard.rejects, Bool.and_eq_true, decide_eq_true_eq, bne_iff_ne] at hrejects
      rw [Guard.passes, hcmd]
      exact sameUpTo_of_head_ne hrejects.1 hrejects.2
  | strcasecmp text =>
      simp only [Guard.rejects, bne_iff_ne] at hrejects
      rw [Guard.passes, hcmd]
      refine beq_false_of_ne fun hsame => hrejects ?_
      cases htext : ascii text with
      | nil =>
          rw [htext] at hsame
          cases hsame
      | cons c t =>
          rw [htext] at hsame
          exact (List.cons.inj hsame).1

/-- A command whose first byte fails these guards enters none of the branches. -/
theorem find?_of_rejects (c : Config) {cmd : CString} {b : UInt8} {rest : List UInt8}
    (hcmd : cmd.bytes = b :: rest) {branches : List Branch}
    (hrejects : ∀ branch ∈ branches, branch.guard.rejects b = true) :
    branches.find? (fun branch => branch.compiled c && branch.guard.passes cmd) = none := by
  refine List.find?_eq_none.mpr fun branch hbranch => ?_
  rw [not_passes_of_rejects hcmd (hrejects branch hbranch), Bool.and_false]
  exact Bool.false_ne_true

/-- It goes to the last `else` if its first byte fails all of them. -/
theorem dispatch_of_rejects (c : Config) {cmd : CString} {b : UInt8} {rest : List UInt8}
    (hcmd : cmd.bytes = b :: rest)
    (hrejects : ∀ branch ∈ Branch.chain, branch.guard.rejects b = true) :
    dispatch c cmd = none :=
  find?_of_rejects c hcmd hrejects

/-! ## The order of the branches -/

/-- What a command that passes starts with, but for the case of its letters. -/
def Guard.head : Guard → List UInt8
  | .strncasecmp text n => ((ascii text).take n).map tolower
  | .strncmp text n => ((ascii text).take n).map tolower
  | .strcasecmp text => (ascii text).map tolower

theorem take_prefix_of_sameUpTo {fold : UInt8 → UInt8} {n : Nat} {s t : List UInt8}
    (h : sameUpTo fold n s t = true) : (t.take n).map fold <+: s.map fold := by
  induction n generalizing s t with
  | zero => simp
  | succ n ih =>
      cases s with
      | nil =>
          cases t with
          | nil => exact List.prefix_refl _
          | cons c t => cases h
      | cons b s =>
          cases t with
          | nil => simp
          | cons c t =>
              rw [sameUpTo, Bool.and_eq_true, beq_iff_eq] at h
              rw [List.take_succ_cons, List.map_cons, List.map_cons, h.1]
              exact List.cons_prefix_cons.mpr ⟨rfl, ih h.2⟩

theorem head_prefix_of_passes {cmd : CString} {g : Guard} (h : g.passes cmd = true) :
    g.head <+: cmd.bytes.map tolower := by
  cases g with
  | strncasecmp text n => exact take_prefix_of_sameUpTo h
  | strncmp text n =>
      have hsame : sameUpTo id n cmd.bytes (ascii text) = true := h
      have hstart := take_prefix_of_sameUpTo hsame
      rw [List.map_id, List.map_id] at hstart
      exact hstart.map tolower
  | strcasecmp text =>
      have hsame : cmd.bytes.map tolower = (ascii text).map tolower := beq_iff_eq.mp h
      rw [hsame]
      exact List.prefix_refl _

/-- No branch asks for the beginning of what another one asks for. -/
theorem head_prefix_free : ∀ b ∈ Branch.chain, ∀ b' ∈ Branch.chain,
    b.guard.head.isPrefixOf b'.guard.head = true → b = b' := by
  decide +kernel

theorem Branch.mem_chain (b : Branch) : b ∈ chain := by cases b <;> decide

/-- A command passes one guard at most: of two heads it starts with, one starts with the
other. -/
theorem branch_eq_of_passes {cmd : CString} {b b' : Branch} (h : b.guard.passes cmd = true)
    (h' : b'.guard.passes cmd = true) : b = b' := by
  rcases List.prefix_or_prefix_of_prefix (head_prefix_of_passes h) (head_prefix_of_passes h') with
    hstart | hstart
  · exact head_prefix_free b b.mem_chain b' b'.mem_chain (List.isPrefixOf_iff_prefix.mpr hstart)
  · exact (head_prefix_free b' b'.mem_chain b b.mem_chain
      (List.isPrefixOf_iff_prefix.mpr hstart)).symm

/-- A command enters the branch whose guard it passes. -/
theorem dispatch_of_passes {c : Config} {cmd : CString} {b : Branch}
    (hcompiled : b.compiled c = true) (h : b.guard.passes cmd = true) :
    dispatch c cmd = some b := by
  unfold dispatch
  cases hfound : Branch.chain.find? fun b => b.compiled c && b.guard.passes cmd with
  | none =>
      have hfails := List.find?_eq_none.mp hfound b b.mem_chain
      rw [hcompiled, h] at hfails
      exact absurd rfl hfails
  | some b' =>
      have hpasses := List.find?_some hfound
      rw [Bool.and_eq_true] at hpasses
      rw [branch_eq_of_passes hpasses.2 h]

/-- A search for what occurs once finds it in any order. -/
theorem find?_eq_of_perm {α : Type} {l l' : List α} {p : α → Bool} (hperm : l.Perm l')
    (hunique : ∀ a b, p a = true → p b = true → a = b) : l.find? p = l'.find? p := by
  cases h : l'.find? p with
  | none =>
      rw [List.find?_eq_none] at h ⊢
      exact fun a ha => h a (hperm.mem_iff.mp ha)
  | some a =>
      have ha : a ∈ l := hperm.mem_iff.mpr (List.mem_of_find?_eq_some h)
      have hpa : p a = true := List.find?_some h
      cases h' : l.find? p with
      | none => exact absurd hpa (List.find?_eq_none.mp h' a ha)
      | some b => rw [hunique b a (List.find?_some h') hpa]

/-- No command passes the guards of two branches, so each goes to the same branch in
whatever order they are tried. -/
theorem dispatch_order_independent (c : Config) (cmd : CString) :
    (∀ b b' : Branch, b.guard.passes cmd = true → b'.guard.passes cmd = true → b = b') ∧
      ∀ branches : List Branch, branches.Perm Branch.chain →
        branches.find? (fun b => b.compiled c && b.guard.passes cmd) = dispatch c cmd := by
  refine ⟨fun b b' h h' => branch_eq_of_passes h h', fun branches hperm => ?_⟩
  refine find?_eq_of_perm hperm fun b b' h h' => ?_
  simp only [Bool.and_eq_true] at h h'
  exact branch_eq_of_passes h.2 h'.2

/-- "Rxfilter-Start" enters its branch also where the chain is tried from its end. -/
theorem dispatch_order_independent_reversed :
    let cmd : CString := ⟨ascii "Rxfilter-Start", by decide⟩
    Branch.chain.reverse.find? (fun b => b.compiled .full && b.guard.passes cmd) =
        dispatch .full cmd ∧ dispatch .full cmd = some .rxfilterStart :=
  ⟨(dispatch_order_independent .full _).2 _ (List.reverse_perm _), by decide⟩

end MediatekCommon.Wpa
