/-
  Wpa/Sink.lean --- the P2P configuration over a run of commands.

  Three branches change the configuration.  What a command asks of it,
  `Request.p2pRequests`, is read off the text of the command and the state of the radio,
  and a run without a fault does just what its commands ask (`p2p_carryOutAll`).  So what
  is offered behind a run is decided by the last command that speaks of the sink: one
  channel, or all that are configured (`asAsked_run`).  For a frequency that
  `priv_p2p_freq_to_channel` does not know what the locals held at first is installed, and
  nothing is promised.
-/
import MediatekCommon.Foundation.Runs
import MediatekCommon.Wpa.Requests
import MediatekCommon.Wpa.SharedFreqs

set_option autoImplicit false

namespace MediatekCommon.Wpa

open MediatekCommon.Foundation
open MediatekCommon.Foundation.Faulting

/-! ## What commands ask of the configuration -/

/-- What may be asked of the P2P configuration. -/
inductive P2pRequest where
  /-- Have these device capabilities. -/
  | devCapab (value : UInt8)
  /-- Remember whether to use MCC. -/
  | useMcc (value : UInt8)
  /-- Work on the channel of this frequency only; the locals hold this at first. -/
  | scc (operFreq : UInt32) (uninit : UInt8 × UInt8)
  /-- Get back to MCC. -/
  | mcc (conf : WpaConfig) (r : UInt32)

/-- Do what is asked. -/
def P2pData.apply (p2p : P2pData) : P2pRequest → P2pData
  | .devCapab value => { p2p with devCapab := value }
  | .useMcc value => { p2p with p2pUseMcc := value }
  | .scc operFreq uninit =>
      let (_, opClass, chan) := privP2pFreqToChannel operFreq uninit.1 uninit.2
      p2p.installChannel opClass chan
  | .mcc conf r => p2p.configMcc conf r

/-- What `p2p_wfd_sink_config_scc` is called for. -/
def sinkRequest (h : Host) (wpaS : WpaSupplicant) (scc : Bool) (operFreq : UInt32) : P2pRequest :=
  if scc ∧ operFreq ≠ 0 then .scc operFreq h.uninit else .mcc wpaS.conf h.random

/-- The frequency of the first interface that operates on one. -/
def stationFreq (h : Host) (wpaS : WpaSupplicant) : Option Int :=
  if h.callocFails then none else (operatingFreqs wpaS.radioIfaces).head?

/-- What following the station comes to. -/
def followRequest (h : Host) (wpaS : WpaSupplicant) (positive : Int → Bool) : P2pRequest :=
  match stationFreq h wpaS with
  | some freq => sinkRequest h wpaS (positive freq) (UInt32.ofInt freq)
  | none => sinkRequest h wpaS false 0

/-- What `p2p_set_cap` asks for with the text behind it. -/
def setCapRequests (longBits : Nat) (cmd : CString) : List P2pRequest :=
  if strncmp cmd.bytes (ascii "p2p_dev_capa ") "p2p_dev_capa ".length then
    [.devCapab (UInt8.ofInt (atoi longBits (cmd.advance "p2p_dev_capa ".length).bytes))]
  else []

/-- What `MIRACAST` asks for. -/
def miracastRequests (h : Host) (wpaS : WpaSupplicant) (cmd : CString) : List P2pRequest :=
  let follow := followRequest h wpaS fun freq => decide (0 < UInt32.ofInt freq)
  if miracastValue h cmd = 0 ∨ miracastValue h cmd = 1 then [follow]
  else if miracastValue h cmd = 2 then
    match strstr (ascii " freq=") cmd.bytes with
    | some pos => [sinkRequest h wpaS true (UInt32.ofInt (atoi h.longBits (pos.drop 6)))]
    | none => [follow]
  else []

/-- What `p2p_use_mcc=` asks for. -/
def useMccRequests (h : Host) (wpaS : WpaSupplicant) (cmd : CString) : List P2pRequest :=
  let useMcc := UInt8.ofInt (atoi h.longBits (cmd.advance "p2p_use_mcc=".length).bytes)
  [.useMcc useMcc,
    if useMcc ≠ 0 then sinkRequest h wpaS false 0
    else followRequest h wpaS fun freq => decide (0 < freq)]

/-- What a branch asks for with this command; without `wpa_s` nothing. -/
def Branch.p2pRequests (h : Host) (wpaS : Option WpaSupplicant) (cmd : CString) (b : Branch) :
    List P2pRequest :=
  match wpaS with
  | none => []
  | some wpaS =>
      match b with
      | .p2pSetCap => setCapRequests h.longBits (cmd.advance "p2p_set_cap ".length)
      | .miracast => miracastRequests h wpaS cmd
      | .p2pUseMcc => useMccRequests h wpaS cmd
      | _ => []

/-- What a command asks for. -/
def Request.p2pRequests (r : Request) : List P2pRequest :=
  match openBss r.bss, dispatch r.host.config r.cmd with
  | .ok (some (_, wpaS)), some b => b.p2pRequests r.host wpaS r.cmd
  | _, _ => []

/-! ## The three branches -/

/-- The state once these requests are met. -/
def DriverState.meets (s : DriverState) (requests : List P2pRequest) : DriverState :=
  { s with p2p := s.p2p.map fun p2p => requests.foldl P2pData.apply p2p }

theorem p2pWfdSinkConfigScc_eq (h : Host) (wpaS : WpaSupplicant) (p2p : Option P2pData)
    (scc : Bool) (operFreq : UInt32) :
    p2pWfdSinkConfigScc wpaS.conf h.uninit h.random p2p scc operFreq =
      p2p.map fun p2p => p2p.apply (sinkRequest h wpaS scc operFreq) := by
  unfold p2pWfdSinkConfigScc sinkRequest
  split
  · rfl
  · rfl

theorem run_configScc (h : Host) (wpaS : WpaSupplicant) (scc : Bool) (operFreq : UInt32)
    (s : DriverState) :
    (configScc h wpaS scc operFreq).run s =
      (.ok (), s.meets [sinkRequest h wpaS scc operFreq]) := by
  unfold configScc
  rw [run_modify, p2pWfdSinkConfigScc_eq]
  rfl

/-- A scan for one frequency finds that of the station. -/
theorem mtkGetSharedRadioFreqs_one (h : Host) (wpaS : WpaSupplicant) :
    let found := mtkGetSharedRadioFreqs h.usedBy h.callocFails wpaS.radioIfaces 1
    match stationFreq h wpaS with
    | some freq => 0 < found.1 ∧ found.2.headD 0 = freq
    | none => ¬ 0 < found.1 := by
  obtain ⟨front, hscanned, hdata⟩ := exists_scanned_all h.usedBy 1 wpaS.radioIfaces
  have hfreqs : (mtkGetSharedRadioFreqsData h.usedBy 1 wpaS.radioIfaces []).map UsedFreq.freq =
      (operatingFreqs wpaS.radioIfaces).take 1 := by
    rw [hdata, map_freq_entriesOf, hscanned.operatingFreqs_eq]
  have hlength := congrArg List.length hfreqs
  rw [List.length_map] at hlength
  unfold stationFreq mtkGetSharedRadioFreqs
  cases h.callocFails with
  | true => simp
  | false =>
      simp only [Bool.false_eq_true, if_false, hfreqs, hlength]
      cases operatingFreqs wpaS.radioIfaces with
      | nil => simp
      | cons freq freqs => simp

theorem run_followStation (h : Host) (wpaS : WpaSupplicant) (positive : Int → Bool)
    (s : DriverState) :
    (followStation h (some wpaS) positive).run s =
      (.ok (), s.meets [followRequest h wpaS positive]) := by
  have hfound := mtkGetSharedRadioFreqs_one h wpaS
  unfold followStation followRequest
  rw [readWpaS, run_bind_of_ok (run_pure _ s)]
  dsimp only at hfound ⊢
  cases hfreq : stationFreq h wpaS with
  | none =>
      rw [hfreq] at hfound
      rw [if_neg fun hboth => hfound hboth.1, run_configScc]
  | some freq =>
      rw [hfreq] at hfound
      dsimp only at hfound ⊢
      rw [hfound.2]
      cases hpositive : positive freq with
      | true => rw [if_pos ⟨hfound.1, rfl⟩, run_configScc]
      | false =>
          have hsame : sinkRequest h wpaS false (UInt32.ofInt freq) =
              sinkRequest h wpaS false 0 := by
            simp [sinkRequest]
          rw [if_neg fun hboth => Bool.false_ne_true hboth.2, run_configScc, hsame]

theorem meets_nil (s : DriverState) : s.meets [] = s := by simp [DriverState.meets]

theorem p2p_meets_append (s : DriverState) (requests requests' : List P2pRequest) :
    (s.meets (requests ++ requests')).p2p = ((s.meets requests).meets requests').p2p := by
  simp [DriverState.meets, Function.comp_def]

theorem p2p_meets_nil (s : DriverState) : (s.meets []).p2p = s.p2p := by rw [meets_nil]

theorem p2p_meets_congr {s s' : DriverState} (h : s.p2p = s'.p2p) (requests : List P2pRequest) :
    (s.meets requests).p2p = (s'.meets requests).p2p := by
  simp only [DriverState.meets, h]

theorem run_miracastBranch (h : Host) (wpaS : WpaSupplicant) (s : DriverState) :
    ∃ cmd, (miracastBranch h (some wpaS)).run s =
      (.ok (-1, false), { s.meets (miracastRequests h wpaS s.cmd) with cmd := cmd }) := by
  unfold miracastBranch miracastRequests
  rw [run_bind_of_ok (run_get s)]
  dsimp only
  split
  · refine ⟨s.cmd, ?_⟩
    rw [run_bind_of_ok (run_followStation h wpaS _ s), run_pure]
    rfl
  · split
    · cases strstr (ascii " freq=") s.cmd.bytes with
      | none =>
          refine ⟨s.cmd, ?_⟩
          dsimp only
          rw [run_bind_of_ok (run_followStation h wpaS _ s), run_pure]
          rfl
      | some pos =>
          refine ⟨miracast2, ?_⟩
          dsimp only
          rw [readWpaS, run_bind_of_ok (run_pure _ s), run_bind_of_ok (run_configScc h wpaS _ _ s)]
          rfl
    · exact ⟨s.cmd, by rw [meets_nil, run_pure]⟩

theorem run_p2pUseMccBranch {h : Host} {wpaS : WpaSupplicant} {s s' : DriverState}
    {r : Int × Bool} (hrun : (p2pUseMccBranch h (some wpaS)).run s = (.ok r, s')) :
    s' = s.meets (useMccRequests h wpaS s.cmd) := by
  unfold p2pUseMccBranch at hrun
  rw [run_bind_of_ok (run_get s), readWpaS, run_bind_of_ok (run_pure _ s)] at hrun
  cases hp2p : s.p2p with
  | none =>
      rw [hp2p] at hrun
      cases hrun
  | some p2p =>
      rw [hp2p] at hrun
      dsimp only at hrun
      rw [run_bind_of_ok (run_modify _ s)] at hrun
      unfold useMccRequests DriverState.meets
      rw [hp2p]
      dsimp only
      split at hrun
      · rename_i huse
        rw [run_bind_of_ok (run_configScc h wpaS _ _ _), run_pure] at hrun
        rw [← (Prod.mk.inj hrun).2, if_pos huse]
        rfl
      · rename_i huse
        rw [run_bind_of_ok (run_followStation h wpaS _ _), run_pure] at hrun
        rw [← (Prod.mk.inj hrun).2, if_neg huse]
        rfl

theorem run_setCapBranch {h : Host} {bufLen : Nat} {drv : Drv} {wpaS : WpaSupplicant}
    {s s' : DriverState} {r : Int × Bool}
    (hrun : (runBranch h bufLen drv (some wpaS) .p2pSetCap).run s = (.ok r, s')) :
    s' = s.meets (setCapRequests h.longBits (s.cmd.advance "p2p_set_cap ".length)) := by
  unfold runBranch capBranch at hrun
  rw [readWpaS, run_bind_of_ok (run_pure _ s), run_bind_of_ok (run_get s)] at hrun
  cases hp2p : s.p2p with
  | none =>
      rw [hp2p, run_pure] at hrun
      rw [← (Prod.mk.inj hrun).2, DriverState.meets, hp2p, Option.map_none, ← hp2p]
  | some p2p =>
      rw [hp2p] at hrun
      have hset : s' = { s with p2p := some (p2pSetCapability h.longBits p2p
          (s.cmd.advance "p2p_set_cap ".length)).2 } := (Prod.mk.inj hrun).2.symm
      rw [hset, DriverState.meets, hp2p]
      unfold p2pSetCapability setCapRequests
      split
      · rfl
      · split
        · rfl
        · rfl

/-- Without `wpa_s` the three branches fault, or do nothing. -/
theorem run_of_setsP2p_none {h : Host} {bufLen : Nat} {drv : Drv} {s s' : DriverState}
    {r : Int × Bool} {b : Branch} (hb : b.setsP2p = true)
    (hrun : (runBranch h bufLen drv none b).run s = (.ok r, s')) : s' = s := by
  have hfault : ∀ {α : Type} (f : WpaSupplicant → DriverM α) (s : DriverState),
      (readWpaS none >>= f).run s = (.error .unassignedWpaS, s) := fun f s => rfl
  cases b with
  | p2pSetCap =>
      unfold runBranch capBranch at hrun
      rw [hfault] at hrun
      cases hrun
  | p2pUseMcc =>
      unfold runBranch p2pUseMccBranch at hrun
      rw [run_bind_of_ok (run_get s), hfault] at hrun
      cases hrun
  | miracast =>
      unfold runBranch miracastBranch followStation at hrun
      rw [run_bind_of_ok (run_get s)] at hrun
      dsimp only at hrun
      split at hrun
      · rw [run_bind_of_error (hfault _ s)] at hrun
        cases hrun
      · split at hrun
        · split at hrun
          · rw [hfault] at hrun
            cases hrun
          · rw [run_bind_of_error (hfault _ s)] at hrun
            cases hrun
        · exact (Prod.mk.inj hrun).2.symm
  | _ => cases hb

/-- The three branches do what they ask for and change nothing else but the command. -/
theorem run_of_setsP2p {h : Host} {bufLen : Nat} {drv : Drv} {wpaS : Option WpaSupplicant}
    {s s' : DriverState} {r : Int × Bool} {b : Branch} (hb : b.setsP2p = true)
    (hrun : (runBranch h bufLen drv wpaS b).run s = (.ok r, s')) :
    ∃ cmd, s' = { s.meets (b.p2pRequests h wpaS s.cmd) with cmd := cmd } := by
  cases wpaS with
  | none =>
      have hnil : b.p2pRequests h none s.cmd = [] := rfl
      exact ⟨s.cmd, by rw [run_of_setsP2p_none hb hrun, hnil, meets_nil]⟩
  | some wpaS =>
      cases b with
      | p2pSetCap => exact ⟨s.cmd, run_setCapBranch hrun⟩
      | miracast =>
          obtain ⟨cmd, hmiracast⟩ := run_miracastBranch h wpaS s
          exact ⟨cmd, (Prod.mk.inj (hmiracast.symm.trans hrun)).2.symm⟩
      | p2pUseMcc => exact ⟨s.cmd, run_p2pUseMccBranch hrun⟩
      | _ => cases hb

/-- What a branch that does not fault asks of the kernel. -/
theorem effects_runBranch {h : Host} {bufLen : Nat} {drv : Drv} {wpaS : Option WpaSupplicant}
    {s s' : DriverState} {r : Int × Bool} {b : Branch}
    (hrun : (runBranch h bufLen drv wpaS b).run s = (.ok r, s')) :
    s'.drvErrors = s.drvErrors ∧
      ∃ new, s'.effects = s.effects ++ new ∧ ∀ effect ∈ new, effect.AskedBy b := by
  cases hb : b.setsP2p with
  | false =>
      have hasks := asks_runBranch h bufLen drv wpaS hb s
      rw [hrun] at hasks
      exact ⟨hasks.drvErrors, hasks.effects⟩
  | true =>
      obtain ⟨cmd, rfl⟩ := run_of_setsP2p hb hrun
      exact ⟨rfl, [], (List.append_nil _).symm, by simp⟩

/-! ## A command -/

/-- A branch does what it asks for. -/
theorem p2p_runBranch {h : Host} {bufLen : Nat} {drv : Drv} {wpaS : Option WpaSupplicant}
    {s s' : DriverState} {r : Int × Bool} (b : Branch)
    (hrun : (runBranch h bufLen drv wpaS b).run s = (.ok r, s')) :
    s'.p2p = (s.meets (b.p2pRequests h wpaS s.cmd)).p2p := by
  cases hb : b.setsP2p with
  | false =>
      have hasks := asks_runBranch h bufLen drv wpaS hb s
      rw [hrun] at hasks
      have hnil : b.p2pRequests h wpaS s.cmd = [] := by
        cases wpaS with
        | none => rfl
        | some wpaS =>
            cases b with
            | p2pSetCap | miracast | p2pUseMcc => cases hb
            | _ => rfl
      rw [hnil, meets_nil]
      exact hasks.p2p
  | true =>
      obtain ⟨cmd, heq⟩ := run_of_setsP2p hb hrun
      rw [heq]

theorem p2p_issuePrivIoctl (h : Host) (bufLen : Nat) (call : PrivIoctl) (s : DriverState) :
    ((issuePrivIoctl h bufLen call).run s).2.p2p = s.p2p := by
  unfold issuePrivIoctl
  rw [run_bind_of_ok (run_emit _ s)]
  split <;> rfl

theorem p2p_privateCommand {h : Host} {bss : Bss} {bufLen : Nat} {s s' : DriverState} {ret : Int}
    (hrun : (privateCommand h bss bufLen).run s = (.ok ret, s')) : s'.p2p = s.p2p := by
  unfold privateCommand at hrun
  rw [run_bind_of_ok (run_get s), run_bind_of_ok (run_setBuf _ s)] at hrun
  split at hrun
  · cases hrun
  · have hkept := p2p_issuePrivIoctl h bufLen (privRequest bss.ifname s.cmd (privCmdLen s.cmd))
      { s with buf := if bufLen = 0 then s.buf else [] }
    rwa [hrun] at hkept

/-- A command does to the configuration what it asks for. -/
theorem Request.Went.p2p {r : Request} {s s' : DriverState} {ret : Int}
    (h : r.Went s ret s') :
    s'.p2p = (s.meets r.p2pRequests).p2p := by
  have hbranch : ∀ {drv : Drv} {wpaS : Option WpaSupplicant} {b : Branch} {result : Int × Bool}
      {between : DriverState}, openBss r.bss = .ok (some (drv, wpaS)) →
      dispatch r.host.config r.cmd = some b →
      (runBranch r.host r.bufLen drv wpaS b).run (r.memory s) = (.ok result, between) →
      between.p2p = (s.meets r.p2pRequests).p2p := by
    intro drv wpaS b result between hopen hdispatch hrun
    have hb := p2p_runBranch b hrun
    rw [hb, Request.p2pRequests, hopen, hdispatch]
    rfl
  cases h with
  | refused hopen =>
      rw [Request.p2pRequests, hopen]
      exact (p2p_meets_nil s).symm
  | handled hopen hdispatch hb hrun => exact hbranch hopen hdispatch hrun
  | handedOn hopen hdispatch hb hrun hpriv =>
      exact (p2p_privateCommand hpriv).trans (hbranch hopen hdispatch hrun)
  | unknown hopen hdispatch hrun hpriv =>
      have hquiet : Keeps (Asks fun _ => True) (transparentCommand r.host) :=
        asks_transparentCommand (fun _ => trivial) r.host
      have hasks := hquiet (r.memory s)
      rw [hrun] at hasks
      rw [p2p_privateCommand hpriv, hasks.p2p, Request.p2pRequests, hopen, hdispatch]
      exact (p2p_meets_nil s).symm

/-- A run without a fault does what its commands ask for, in their order. -/
theorem p2p_carryOutAll {requests : List Request} {s s' : DriverState}
    (hrun : (carryOutAll requests).run s = (.ok (), s')) :
    s'.p2p = (s.meets (requests.flatMap Request.p2pRequests)).p2p := by
  refine carryOutAll_rule (R := fun requests s s' =>
    s'.p2p = (s.meets (requests.flatMap Request.p2pRequests)).p2p) ?_ ?_ hrun
  · intro s
    rw [List.flatMap_nil, meets_nil]
  · intro r rest s ret between s' hwent hrest
    rw [hrest, List.flatMap_cons, p2p_meets_append]
    exact p2p_meets_congr hwent.p2p _

/-! ## What is offered -/

/-- The channels offered: the operating classes in use, each with its channels in use. -/
def P2pChannels.offered (channels : P2pChannels) : List (UInt8 × List UInt8) :=
  (List.range channels.regClasses).map fun i =>
    let entry := channels.regClass i
    (entry.regClass, (List.range entry.channels).map entry.channel)

/-- What a peer learns of the channels. -/
structure Sink where
  /-- The operating class and channel. -/
  operates : UInt8 × UInt8
  offers : List (UInt8 × List UInt8)
  deriving DecidableEq, Repr

def P2pData.sink (p2p : P2pData) : Sink := ⟨(p2p.opRegClass, p2p.opChannel), p2p.channels.offered⟩

/-- The channel to operate on in MCC: the configured one, or a random social one. -/
def WpaConfig.mccChannel (conf : WpaConfig) (r : UInt32) : UInt8 × UInt8 :=
  if conf.p2pOperRegClass ≠ 0 ∧ conf.p2pOperChannel ≠ 0 then
    (UInt8.ofInt conf.p2pOperRegClass, UInt8.ofInt conf.p2pOperChannel)
  else (81, (1 + r % 3 * 5).toUInt8)

/-- What the code installs for a request, where these channels are configured; for a frequency
it does not know that is what the locals held. -/
def P2pRequest.installs (configured : List (UInt8 × List UInt8)) : P2pRequest → Option Sink
  | .devCapab _ | .useMcc _ => none
  | .scc operFreq uninit =>
      let (_, opClass, chan) := privP2pFreqToChannel operFreq uninit.1 uninit.2
      some ⟨(opClass, chan), [(opClass, [chan])]⟩
  | .mcc conf r => some ⟨conf.mccChannel r, configured⟩

def P2pRequest.devCapab? : P2pRequest → Option UInt8
  | .devCapab value => some value
  | _ => none

def P2pRequest.useMcc? : P2pRequest → Option UInt8
  | .useMcc value => some value
  | _ => none

/-- The configuration that is left when these requests have been met, each part of it by
the last that speaks of it. -/
structure Settled (p2p : P2pData) (asked : List P2pRequest) (p2p' : P2pData) : Prop where
  sink : p2p'.sink =
    (asked.filterMap (P2pRequest.installs p2p.cfgChannels.offered)).getLastD p2p.sink
  devCapab : p2p'.devCapab = (asked.filterMap P2pRequest.devCapab?).getLastD p2p.devCapab
  useMcc : p2p'.p2pUseMcc = (asked.filterMap P2pRequest.useMcc?).getLastD p2p.p2pUseMcc
  /-- What is configured is never lost. -/
  configured : p2p'.cfgChannels = p2p.cfgChannels

/-- MCC changes the sink and `cfg_op_channel` only. -/
theorem configMcc_eq (p2p : P2pData) (conf : WpaConfig) (r : UInt32) :
    ∃ opClass chan cfgOpChannel, p2p.configMcc conf r =
      { p2p with
        opRegClass := opClass
        opChannel := chan
        cfgOpChannel := cfgOpChannel
        channels := p2p.cfgChannels } ∧ (opClass, chan) = conf.mccChannel r := by
  unfold P2pData.configMcc WpaConfig.mccChannel
  split
  · exact ⟨_, _, _, rfl, rfl⟩
  · exact ⟨_, _, _, rfl, rfl⟩

theorem cfgChannels_apply (p2p : P2pData) (request : P2pRequest) :
    (p2p.apply request).cfgChannels = p2p.cfgChannels := by
  cases request with
  | devCapab value | useMcc value | scc operFreq uninit => rfl
  | mcc conf r =>
      obtain ⟨opClass, chan, cfgOpChannel, heq, -⟩ := configMcc_eq p2p conf r
      rw [P2pData.apply, heq]

theorem sink_apply (p2p : P2pData) (request : P2pRequest) :
    (p2p.apply request).sink = (request.installs p2p.cfgChannels.offered).getD p2p.sink := by
  cases request with
  | devCapab value | useMcc value => rfl
  | scc operFreq uninit =>
      simp [P2pData.apply, P2pData.sink, P2pRequest.installs, P2pData.installChannel,
        P2pChannels.offered]
  | mcc conf r =>
      obtain ⟨opClass, chan, cfgOpChannel, heq, hchannel⟩ := configMcc_eq p2p conf r
      rw [P2pData.apply, heq, P2pRequest.installs, ← hchannel]
      rfl

theorem devCapab_apply (p2p : P2pData) (request : P2pRequest) :
    (p2p.apply request).devCapab = request.devCapab?.getD p2p.devCapab := by
  cases request with
  | devCapab value | useMcc value | scc operFreq uninit => rfl
  | mcc conf r =>
      obtain ⟨opClass, chan, cfgOpChannel, heq, -⟩ := configMcc_eq p2p conf r
      rw [P2pData.apply, heq]
      rfl

theorem useMcc_apply (p2p : P2pData) (request : P2pRequest) :
    (p2p.apply request).p2pUseMcc = request.useMcc?.getD p2p.p2pUseMcc := by
  cases request with
  | devCapab value | useMcc value | scc operFreq uninit => rfl
  | mcc conf r =>
      obtain ⟨opClass, chan, cfgOpChannel, heq, -⟩ := configMcc_eq p2p conf r
      rw [P2pData.apply, heq]
      rfl

theorem settled_foldl (p2p : P2pData) (asked : List P2pRequest) :
    Settled p2p asked (asked.foldl P2pData.apply p2p) := by
  have hstep : ∀ (p : P2pData) request, p.cfgChannels = p2p.cfgChannels →
      (p.apply request).cfgChannels = p2p.cfgChannels :=
    fun p request h => (cfgChannels_apply p request).trans h
  have hsink : ∀ (p : P2pData) (request : P2pRequest), p.cfgChannels = p2p.cfgChannels →
      (p.apply request).sink = (request.installs p2p.cfgChannels.offered).getD p.sink :=
    fun p request h => h ▸ sink_apply p request
  exact {
    sink := view_run hstep hsink rfl asked
    devCapab := view_run hstep (fun p request _ => devCapab_apply p request) rfl asked
    useMcc := view_run hstep (fun p request _ => useMcc_apply p request) rfl asked
    configured := run_of_invariant hstep rfl asked }

/-! ## The channel of a frequency -/

/-- The centre frequency of a channel of the operating classes 81, 82, 115 and 124. -/
def centreFreq (opClass chan : UInt8) : Nat :=
  if opClass = 82 then 2484
  else if opClass = 81 then 2407 + 5 * chan.toNat
  else 5000 + 5 * chan.toNat

theorem toNat_sub_div_five {freq k : UInt32} (hk : k.toNat ≤ freq.toNat)
    (hlt : freq.toNat - k.toNat < 5 * 256) :
    ((freq - k) / 5).toUInt8.toNat = (freq.toNat - k.toNat) / 5 := by
  rw [UInt32.toNat_toUInt8, UInt32.toNat_div, UInt32.toNat_sub_of_le _ _ hk]
  exact Nat.mod_eq_of_lt (Nat.div_lt_of_lt_mul hlt)

/-- The channel computed for a known frequency lies on it. -/
theorem centreFreq_privP2pFreqToChannel {freq : UInt32} (hknown : FreqKnown freq)
    (opClass chan : UInt8) :
    centreFreq (privP2pFreqToChannel freq opClass chan).2.1
      (privP2pFreqToChannel freq opClass chan).2.2 = freq.toNat := by
  have hmod2407 : 2407 ≤ freq.toNat → ((freq - 2407) % 5).toNat = (freq.toNat - 2407) % 5 :=
    toNat_sub_mod_five (k := 2407)
  have hmod5000 : 5000 ≤ freq.toNat → ((freq - 5000) % 5).toNat = (freq.toNat - 5000) % 5 :=
    toNat_sub_mod_five (k := 5000)
  have hdiv2407 : 2407 ≤ freq.toNat → freq.toNat - 2407 < 5 * 256 →
      ((freq - 2407) / 5).toUInt8.toNat = (freq.toNat - 2407) / 5 :=
    toNat_sub_div_five (k := 2407)
  have hdiv5000 : 5000 ≤ freq.toNat → freq.toNat - 5000 < 5 * 256 →
      ((freq - 5000) / 5).toUInt8.toNat = (freq.toNat - 5000) / 5 :=
    toNat_sub_div_five (k := 5000)
  unfold FreqKnown at hknown
  unfold privP2pFreqToChannel
  simp only [ne_eq, UInt32.le_iff_toNat_le, ← UInt32.toNat_inj, UInt32.reduceToNat]
  split_ifs
  · show 2407 + 5 * ((freq - 2407) / 5).toUInt8.toNat = freq.toNat
    omega
  · omega
  · show 2484 = freq.toNat
    omega
  · show 5000 + 5 * ((freq - 5000) / 5).toUInt8.toNat = freq.toNat
    omega
  · omega
  · show 5000 + 5 * ((freq - 5000) / 5).toUInt8.toNat = freq.toNat
    omega
  · omega
  · rcases hknown with h | h | h | h <;> omega

/-! ## The last command decides -/

/-- The request is about the channels. -/
def P2pRequest.speaksOfSink : P2pRequest → Bool
  | .devCapab _ | .useMcc _ => false
  | .scc .. | .mcc .. => true

/-- A request about the channels is met: P2P works on a channel centred at the frequency, if
that is a known one, and offers only this channel, or works on the channel for MCC and offers
what is configured. -/
def P2pRequest.Met (configured : List (UInt8 × List UInt8)) (sink : Sink) : P2pRequest → Prop
  | .devCapab _ | .useMcc _ => True
  | .scc operFreq _ => FreqKnown operFreq → ∃ opClass chan,
      centreFreq opClass chan = operFreq.toNat ∧ sink = ⟨(opClass, chan), [(opClass, [chan])]⟩
  | .mcc conf r => sink = ⟨conf.mccChannel r, configured⟩

/-- The sink is as the last request about the channels has it, or as it was. -/
def SinkAsAsked (p2p : P2pData) (asked : List P2pRequest) (p2p' : P2pData) : Prop :=
  match (asked.filter P2pRequest.speaksOfSink).getLast? with
  | none => p2p'.sink = p2p.sink
  | some request => request.Met p2p.cfgChannels.offered p2p'.sink

/-- Each part of the configuration is as the last request that speaks of it has it. -/
structure AsAsked (p2p : P2pData) (asked : List P2pRequest) (p2p' : P2pData) : Prop where
  sink : SinkAsAsked p2p asked p2p'
  devCapab : p2p'.devCapab = (asked.filterMap P2pRequest.devCapab?).getLastD p2p.devCapab
  useMcc : p2p'.p2pUseMcc = (asked.filterMap P2pRequest.useMcc?).getLastD p2p.p2pUseMcc
  configured : p2p'.cfgChannels = p2p.cfgChannels

/-- A request about the channels is met by what it makes of the sink. -/
theorem met_of_sink {configured : List (UInt8 × List UInt8)} {sink : Sink} {request : P2pRequest}
    (h : request.installs configured = some sink) : request.Met configured sink := by
  cases request with
  | devCapab value | useMcc value => trivial
  | scc operFreq uninit =>
      obtain rfl := Option.some.inj h
      exact fun hknown => ⟨_, _, centreFreq_privP2pFreqToChannel hknown _ _, rfl⟩
  | mcc conf r => exact (Option.some.inj h).symm

theorem sink_eq_none_iff {configured : List (UInt8 × List UInt8)} {request : P2pRequest} :
    request.installs configured = none ↔ request.speaksOfSink = false := by
  cases request <;> simp [P2pRequest.installs, P2pRequest.speaksOfSink]

/-- The last of the requests is about the channels and met, or it is about something else. -/
theorem sinkAsAsked_foldl (p2p : P2pData) (asked : List P2pRequest) :
    SinkAsAsked p2p asked (asked.foldl P2pData.apply p2p) := by
  induction asked using List.reverseRecOn with
  | nil => rfl
  | append_singleton asked request ih =>
      have hconfigured := (settled_foldl p2p asked).configured
      rw [List.foldl_concat]
      generalize asked.foldl P2pData.apply p2p = between at ih hconfigured ⊢
      have happly := sink_apply between request
      rw [hconfigured] at happly
      unfold SinkAsAsked at ih ⊢
      rw [List.filter_append]
      cases hsink : request.installs p2p.cfgChannels.offered with
      | none =>
          rw [List.filter_singleton, sink_eq_none_iff.mp hsink]
          rw [hsink, Option.getD_none] at happly
          simpa [happly] using ih
      | some sink =>
          have hspeaks : request.speaksOfSink = true := by
            by_contra hnot
            have hnone : request.installs p2p.cfgChannels.offered = none :=
              sink_eq_none_iff.mpr (Bool.not_eq_true _ ▸ hnot)
            rw [hnone] at hsink
            cases hsink
          rw [hsink, Option.getD_some] at happly
          rw [List.filter_singleton, hspeaks]
          simpa [happly] using met_of_sink hsink

/-- Behind a run of commands on any interfaces, with any answers, the configuration is as the
last commands that speak of its parts have it. -/
theorem asAsked_run {requests : List Request} {s s' : DriverState} {p2p : P2pData}
    (hp2p : s.p2p = some p2p) (hrun : (carryOutAll requests).run s = (.ok (), s')) :
    ∃ p2p', s'.p2p = some p2p' ∧ AsAsked p2p (requests.flatMap Request.p2pRequests) p2p' := by
  have hmeets := p2p_carryOutAll hrun
  rw [DriverState.meets, hp2p] at hmeets
  obtain ⟨-, hdevCapab, huseMcc, hconfigured⟩ :=
    settled_foldl p2p (requests.flatMap Request.p2pRequests)
  exact ⟨_, hmeets, sinkAsAsked_foldl p2p _, hdevCapab, huseMcc, hconfigured⟩

/-! ## Following the station -/

/-- The command makes the sink follow the station. -/
def Request.FollowsStation (r : Request) : Prop :=
  let value := miracastValue r.host r.cmd
  let useMcc :=
    UInt8.ofInt (atoi r.host.longBits (r.cmd.advance "p2p_use_mcc=".length).bytes)
  (dispatch r.host.config r.cmd = some .miracast ∧ (value = 0 ∨ value = 1 ∨
      value = 2 ∧ strstr (ascii " freq=") r.cmd.bytes = none)) ∨
    (dispatch r.host.config r.cmd = some .p2pUseMcc ∧ useMcc = 0)

/-- The command says nothing of the sink. -/
def Request.SparesSink (r : Request) : Prop :=
  dispatch r.host.config r.cmd ≠ some .miracast ∧ dispatch r.host.config r.cmd ≠ some .p2pUseMcc

theorem sink_setCapRequests (longBits : Nat) (cmd : CString)
    (configured : List (UInt8 × List UInt8)) :
    (setCapRequests longBits cmd).filterMap (P2pRequest.installs configured) = [] := by
  unfold setCapRequests
  split
  · rfl
  · rfl

theorem sink_of_sparesSink {r : Request} (hspares : r.SparesSink)
    (configured : List (UInt8 × List UInt8)) :
    r.p2pRequests.filterMap (P2pRequest.installs configured) = [] := by
  unfold Request.p2pRequests
  split
  · rename_i wpaS b hopen hdispatch
    rw [Request.SparesSink, hdispatch] at hspares
    cases wpaS with
    | none => rfl
    | some wpaS =>
        cases b with
        | miracast => exact absurd rfl hspares.1
        | p2pUseMcc => exact absurd rfl hspares.2
        | p2pSetCap => exact sink_setCapRequests _ _ _
        | _ => rfl
  · rfl

theorem followRequest_of_stationFreq {h : Host} {wpaS : WpaSupplicant} {positive : Int → Bool}
    {freq : Int} (hstation : stationFreq h wpaS = some freq) (hpositive : positive freq = true)
    (hfreq : UInt32.ofInt freq ≠ 0) :
    followRequest h wpaS positive = .scc (UInt32.ofInt freq) h.uninit := by
  unfold followRequest
  rw [hstation]
  exact if_pos ⟨hpositive, hfreq⟩

/-- A command that follows a station on a known frequency asks for that frequency last. -/
theorem p2pRequests_of_followsStation {r : Request} (hfollows : r.FollowsStation) {drv : Drv}
    {wpaS : WpaSupplicant} (hopen : openBss r.bss = .ok (some (drv, some wpaS))) {freq : UInt32}
    (hstation : stationFreq r.host wpaS = some (freq.toNat : Int)) (hknown : FreqKnown freq) :
    ∃ before, r.p2pRequests = before ++ [.scc freq r.host.uninit] := by
  have hofInt : UInt32.ofInt (freq.toNat : Int) = freq := by
    have hlt : (freq.toNat : Int) < 2 ^ 32 := by
      have := freq.toNat_lt
      omega
    rw [UInt32.ofInt, Int.emod_eq_of_lt (Int.natCast_nonneg _) hlt, Int.toNat_natCast,
      UInt32.ofNat_toNat]
  have hpos : 0 < freq.toNat := by
    unfold FreqKnown at hknown
    omega
  have hne : freq ≠ 0 := by
    rintro rfl
    exact absurd hpos (by decide)
  have hfollow : ∀ positive : Int → Bool, positive freq.toNat = true →
      followRequest r.host wpaS positive = .scc freq r.host.uninit := by
    intro positive hpositive
    have hscc := followRequest_of_stationFreq hstation hpositive
    rw [hofInt] at hscc
    exact hscc hne
  have hunsigned : decide (0 < UInt32.ofInt (freq.toNat : Int)) = true := by
    rw [hofInt]
    exact decide_eq_true (UInt32.pos_iff_ne_zero.mpr hne)
  have hsigned : decide (0 < (freq.toNat : Int)) = true := decide_eq_true (Int.natCast_pos.mpr hpos)
  unfold Request.p2pRequests
  rw [hopen]
  rcases hfollows with ⟨hdispatch, hvalue⟩ | ⟨hdispatch, hvalue⟩
  · rw [hdispatch]
    show ∃ before, miracastRequests r.host wpaS r.cmd = before ++ _
    unfold miracastRequests
    refine ⟨[], ?_⟩
    rw [hfollow _ hunsigned]
    rcases hvalue with hvalue | hvalue | ⟨hvalue, hpos⟩
    · rw [hvalue]
      rfl
    · rw [hvalue]
      rfl
    · rw [hvalue, hpos]
      rfl
  · rw [hdispatch]
    show ∃ before, useMccRequests r.host wpaS r.cmd = before ++ _
    unfold useMccRequests
    rw [hvalue, hfollow _ hsigned]
    exact ⟨[.useMcc 0], rfl⟩

/-- Behind a command that follows a station on a known frequency, whatever ran before and
whatever runs after it that spares the sink, P2P operates on that frequency and offers
nothing else. -/
theorem sharesStationFreq_run {before after : List Request} {r : Request}
    (hfollows : r.FollowsStation) (hspares : ∀ r ∈ after, r.SparesSink) {drv : Drv}
    {wpaS : WpaSupplicant} (hopen : openBss r.bss = .ok (some (drv, some wpaS))) {freq : UInt32}
    (hstation : stationFreq r.host wpaS = some (freq.toNat : Int)) (hknown : FreqKnown freq)
    {s s' : DriverState} {p2p : P2pData} (hp2p : s.p2p = some p2p)
    (hrun : (carryOutAll (before ++ r :: after)).run s = (.ok (), s')) :
    ∃ p2p' opClass chan, s'.p2p = some p2p' ∧
      p2p'.sink = ⟨(opClass, chan), [(opClass, [chan])]⟩ ∧
      centreFreq opClass chan = freq.toNat := by
  obtain ⟨asked, hasked⟩ := p2pRequests_of_followsStation hfollows hopen hstation hknown
  have hmeets := p2p_carryOutAll hrun
  rw [DriverState.meets, hp2p] at hmeets
  have hsink := (settled_foldl p2p ((before ++ r :: after).flatMap Request.p2pRequests)).sink
  have hlater : after.flatMap (fun r => r.p2pRequests.filterMap
      (P2pRequest.installs p2p.cfgChannels.offered)) = [] :=
    List.flatMap_eq_nil_iff.mpr fun r hr => sink_of_sparesSink (hspares r hr) _
  refine ⟨_, _, _, hmeets, ?_, centreFreq_privP2pFreqToChannel hknown
    r.host.uninit.1 r.host.uninit.2⟩
  rw [hsink]
  simp only [List.flatMap_append, List.flatMap_cons, List.filterMap_append, List.filterMap_flatMap,
    hlater, hasked, List.append_nil]
  simp [P2pRequest.installs]

/-- A command on "wlan0", whose station is connected on this frequency. -/
def Request.ofStation (freq : Int) (cmd : CString) : Request where
  host := .reference
  bss := ⟨.literal "wlan0",
    some (.idle (.supplicant { WpaSupplicant.idle with radioIfaces := [.connected freq false] }))⟩
  cmd := cmd
  buf := []
  bufLen := 64

/-- MCC, then the channel of the station, then a new capability and a test command. -/
def stationRun : List Request :=
  [.ofStation 5180 (.literal "p2p_use_mcc=1"),
    .ofStation 5180 (.literal "p2p_use_mcc=0"),
    .ofStation 5180 (.literal "p2p_set_cap p2p_dev_capa 37"),
    .ofStation 5180 (.literal "smt-test-on")]

/-- The memory before a run, P2P on its social channel. -/
def socialStart : DriverState := { DriverState.start ⟨[], by decide⟩ with p2p := some .social }

theorem stationRun_ok : ((carryOutAll stationRun).run socialStart).1 = .ok () := by
  decide +kernel

theorem asAsked_run_station :
    ∃ p2p', ((carryOutAll stationRun).run socialStart).2.p2p = some p2p' ∧
      AsAsked .social (stationRun.flatMap Request.p2pRequests) p2p' :=
  asAsked_run rfl (run_eq_of_fst stationRun_ok)

theorem sharesStationFreq_run_5180 :
    ∃ p2p' opClass chan, ((carryOutAll stationRun).run socialStart).2.p2p = some p2p' ∧
      p2p'.sink = ⟨(opClass, chan), [(opClass, [chan])]⟩ ∧ centreFreq opClass chan = 5180 := by
  have hfollows : (Request.ofStation 5180 (.literal "p2p_use_mcc=0")).FollowsStation :=
    .inr (by decide +kernel)
  have hcap : (Request.ofStation 5180 (.literal "p2p_set_cap p2p_dev_capa 37")).SparesSink := by
    unfold Request.SparesSink
    decide +kernel
  have htest : (Request.ofStation 5180 (.literal "smt-test-on")).SparesSink := by
    unfold Request.SparesSink
    decide +kernel
  have hspares : ∀ r ∈ stationRun.drop 2, r.SparesSink :=
    List.forall_mem_cons.mpr ⟨hcap, List.forall_mem_singleton.mpr htest⟩
  have hknown : FreqKnown 5180 := .inr (.inr (.inl (by decide)))
  have hrun : (carryOutAll (stationRun.take 1 ++
      .ofStation 5180 (.literal "p2p_use_mcc=0") :: stationRun.drop 2)).run socialStart =
        (.ok (), _) := run_eq_of_fst stationRun_ok
  exact sharesStationFreq_run hfollows hspares rfl rfl hknown rfl hrun

end MediatekCommon.Wpa
