/-
  Wpa/P2p.lean --- the P2P configuration behind the driver commands: capabilities,
  the frequencies the interfaces of a radio operate on, and the channel that a
  Wi-Fi display sink negotiates.

  `priv_p2p_freq_to_channel` says by its result whether it knows a frequency, and
  writes its outputs only if it does.  `p2p_wfd_sink_config_scc` ignores the result
  and installs whatever its two locals hold; what they hold before is a parameter of
  the model.
-/
import MediatekCommon.Foundation.CText

set_option autoImplicit false

namespace MediatekCommon.Wpa

open MediatekCommon.Foundation

/-! ## State -/

/-- `struct p2p_reg_class`: the channels of one operating class. -/
structure P2pRegClass where
  regClass : UInt8
  channel : Nat → UInt8
  /-- How many entries of `channel` are in use. -/
  channels : Nat

/-- `struct p2p_channels`. -/
structure P2pChannels where
  /-- How many entries of `regClass` are in use. -/
  regClasses : Nat
  regClass : Nat → P2pRegClass

/-- The part of `struct p2p_data`, and of the `p2p_config` it points to, that the
driver commands use. -/
structure P2pData where
  devCapab : UInt8
  opRegClass : UInt8
  opChannel : UInt8
  channels : P2pChannels
  /-- `cfg->cfg_op_channel` -/
  cfgOpChannel : UInt8
  /-- `cfg->channels` -/
  cfgChannels : P2pChannels
  p2pUseMcc : UInt8

/-- The part of `struct wpa_config` the driver commands use. -/
structure WpaConfig where
  p2pOperRegClass : Int
  p2pOperChannel : Int

/-! ## Capabilities -/

/-- `p2p_get_capability(wpa_s, cmd, buf, buflen)`, with `p2p` present. -/
def p2pGetCapability (p2p : P2pData) (cmd : CString) (buf : List UInt8) (bufLen : Nat) :
    Int × List UInt8 :=
  if strncmp cmd.bytes (ascii "p2p_dev_capa") "p2p_dev_capa".length then
    snprintf bufLen (ascii "p2p_dev_capa=" ++ decimal p2p.devCapab.toNat ++ ascii "\n") buf
  else if strncmp cmd.bytes (ascii "p2p_group_capa") "p2p_group_capa".length then (-1, buf)
  else (0, buf)

/-- `p2p_set_capability(wpa_s, cmd, buf, buflen)`, with `p2p` present. -/
def p2pSetCapability (longBits : Nat) (p2p : P2pData) (cmd : CString) : Int × P2pData :=
  if strncmp cmd.bytes (ascii "p2p_dev_capa ") "p2p_dev_capa ".length then
    let devCap := atoi longBits (cmd.advance "p2p_dev_capa ".length).bytes
    (0, { p2p with devCapab := UInt8.ofInt devCap })
  else if strncmp cmd.bytes (ascii "p2p_group_capa ") "p2p_group_capa ".length then (-1, p2p)
  else (0, p2p)

/-! ## The frequencies in use -/

/-- `enum wpas_mode`, as far as the code tells the modes apart. -/
inductive WpasMode where
  | infra
  | ap
  | p2pGo
  | other
  deriving DecidableEq, Repr

/-- The part of `struct wpa_ssid` the scan uses. -/
structure WpaSsid where
  mode : WpasMode
  frequency : Int
  p2pGroup : Bool
  deriving DecidableEq, Repr

/-- An interface on the radio: the part of its `struct wpa_supplicant` the scan uses. -/
structure RadioIface where
  currentSsid : Option WpaSsid
  assocFreq : Int
  /-- Whether `wpa_drv_get_bssid` succeeds. -/
  hasBssid : Bool
  deriving DecidableEq, Repr

/-- `struct wpa_used_freq_data`. -/
structure UsedFreq where
  freq : Int
  flags : UInt32
  deriving DecidableEq, Repr

/-- `WPA_FREQ_USED_BY_INFRA_STATION` and `WPA_FREQ_USED_BY_P2P_CLIENT`. -/
structure UsedByFlags where
  infraStation : UInt32
  p2pClient : UInt32
  deriving DecidableEq, Repr

/-- Enter one frequency: only distinct ones are held. -/
def enterFreq (F : UsedByFlags) (ssid : WpaSsid) (freq : Int) (data : List UsedFreq) :
    List UsedFreq :=
  let i := data.findIdx fun used => used.freq = freq
  let data := if i = data.length then data ++ [⟨freq, 0⟩] else data
  if ssid.mode = .infra then
    data.modify i fun used =>
      { used with flags := if ssid.p2pGroup then F.p2pClient else F.infraStation }
  else data

/-- One pass of the loop over the interfaces, short of the early stop. -/
def visitIface (F : UsedByFlags) (ifs : RadioIface) (data : List UsedFreq) : List UsedFreq :=
  match ifs.currentSsid with
  | none => data
  | some ssid =>
      if ifs.assocFreq = 0 then data
      else if ssid.mode = .ap ∨ ssid.mode = .p2pGo then enterFreq F ssid ssid.frequency data
      else if ifs.hasBssid then enterFreq F ssid ifs.assocFreq data
      else data

/-- `mtk_get_shared_radio_freqs_data`: the entries of `freqs_data` in use, whose number
is the result. -/
def mtkGetSharedRadioFreqsData (F : UsedByFlags) (len : Nat) :
    List RadioIface → List UsedFreq → List UsedFreq
  | [], data => data
  | ifs :: rest, data =>
      if data.length = len then data
      else mtkGetSharedRadioFreqsData F len rest (visitIface F ifs data)

/-- `mtk_get_shared_radio_freqs(wpa_s, freq_array, len)`: the result and the array. -/
def mtkGetSharedRadioFreqs (F : UsedByFlags) (callocFails : Bool) (ifaces : List RadioIface)
    (len : Nat) : Int × List Int :=
  if callocFails then (-1, List.replicate len 0)
  else
    let freqsData := mtkGetSharedRadioFreqsData F len ifaces []
    (freqsData.length,
      freqsData.map UsedFreq.freq ++ List.replicate (len - freqsData.length) 0)

/-! ## The channel of a sink -/

/-- `priv_p2p_freq_to_channel(freq, op_class, channel)`: the result, and what the two
outputs hold then, given what they held before. -/
def privP2pFreqToChannel (freq : UInt32) (opClass channel : UInt8) : Int × UInt8 × UInt8 :=
  if 2412 ≤ freq ∧ freq ≤ 2472 then
    if (freq - 2407) % 5 ≠ 0 then (-1, opClass, channel)
    else (0, 81, ((freq - 2407) / 5).toUInt8)
  else if freq = 2484 then (0, 82, 14)
  else if 5180 ≤ freq ∧ freq ≤ 5240 then
    if (freq - 5000) % 5 ≠ 0 then (-1, opClass, channel)
    else (0, 115, ((freq - 5000) / 5).toUInt8)
  else if 5745 ≤ freq ∧ freq ≤ 5805 then
    if (freq - 5000) % 5 ≠ 0 then (-1, opClass, channel)
    else (0, 124, ((freq - 5000) / 5).toUInt8)
  else (-1, opClass, channel)

/-- Install one channel of one operating class. -/
def P2pData.installChannel (p2p : P2pData) (opRegClass opChannel : UInt8) : P2pData :=
  let entry : P2pRegClass :=
    { p2p.channels.regClass 0 with
      regClass := opRegClass
      channel := fun i => if i = 0 then opChannel else (p2p.channels.regClass 0).channel i
      channels := 1 }
  { p2p with
    opChannel := opChannel
    opRegClass := opRegClass
    channels :=
      { regClasses := 1
        regClass := fun i => if i = 0 then entry else p2p.channels.regClass i } }

/-- Get back to MCC: the configured channel, or a random social one. -/
def P2pData.configMcc (p2p : P2pData) (conf : WpaConfig) (r : UInt32) : P2pData :=
  if conf.p2pOperRegClass ≠ 0 ∧ conf.p2pOperChannel ≠ 0 then
    { p2p with
      opRegClass := UInt8.ofInt conf.p2pOperRegClass
      opChannel := UInt8.ofInt conf.p2pOperChannel
      cfgOpChannel := 1
      channels := p2p.cfgChannels }
  else
    { p2p with
      opRegClass := 81
      opChannel := (1 + r % 3 * 5).toUInt8
      cfgOpChannel := 0
      channels := p2p.cfgChannels }

/-- `p2p_wfd_sink_config_scc(wpa_s, scc, oper_freq)`, which returns 0 either way.
`uninit` is what its locals `op_reg_class` and `op_channel` hold at first, and `r` what
`os_get_random` gives. -/
def p2pWfdSinkConfigScc (conf : WpaConfig) (uninit : UInt8 × UInt8) (r : UInt32)
    (p2p : Option P2pData) (scc : Bool) (operFreq : UInt32) : Option P2pData :=
  p2p.map fun p2p =>
    if scc ∧ operFreq ≠ 0 then
      let (_, opRegClass, opChannel) := privP2pFreqToChannel operFreq uninit.1 uninit.2
      p2p.installChannel opRegClass opChannel
    else p2p.configMcc conf r

/-! ## What is installed -/

/-- The operating channel, and the only channel offered, is this one. -/
structure P2pData.Operates (p2p : P2pData) (opClass chan : UInt8) : Prop where
  opRegClass : p2p.opRegClass = opClass
  opChannel : p2p.opChannel = chan
  regClasses : p2p.channels.regClasses = 1
  channels : (p2p.channels.regClass 0).channels = 1
  regClass : (p2p.channels.regClass 0).regClass = opClass
  channel : (p2p.channels.regClass 0).channel 0 = chan

/-- What a switch to this frequency is to do: install the channel computed for it, or
leave everything as it was when none is. -/
def InstallsComputed (operFreq : UInt32) (uninit : UInt8 × UInt8) (p2p p2p' : P2pData) : Prop :=
  let (ret, opClass, chan) := privP2pFreqToChannel operFreq uninit.1 uninit.2
  if ret = 0 then p2p'.Operates opClass chan else p2p' = p2p

/-- The frequencies of the operating classes 81, 82, 115 and 124. -/
def FreqKnown (freq : UInt32) : Prop :=
  (2412 ≤ freq.toNat ∧ freq.toNat ≤ 2472 ∧ freq.toNat % 5 = 2) ∨ freq.toNat = 2484 ∨
    (5180 ≤ freq.toNat ∧ freq.toNat ≤ 5240 ∧ freq.toNat % 5 = 0) ∨
    (5745 ≤ freq.toNat ∧ freq.toNat ≤ 5805 ∧ freq.toNat % 5 = 0)

theorem P2pData.operates_installChannel (p2p : P2pData) (opClass chan : UInt8) :
    (p2p.installChannel opClass chan).Operates opClass chan :=
  ⟨rfl, rfl, rfl, rfl, rfl, rfl⟩

theorem toNat_sub_mod_five {freq k : UInt32} (hk : k.toNat ≤ freq.toNat) :
    ((freq - k) % 5).toNat = (freq.toNat - k.toNat) % 5 := by
  rw [UInt32.toNat_mod, UInt32.toNat_sub_of_le _ _ hk]
  rfl

/-- The outputs are written exactly for the known frequencies. -/
theorem privP2pFreqToChannel_cases (freq : UInt32) (opClass chan : UInt8) :
    (FreqKnown freq ∧ (privP2pFreqToChannel freq opClass chan).1 = 0) ∨
      (¬ FreqKnown freq ∧ privP2pFreqToChannel freq opClass chan = (-1, opClass, chan)) := by
  have h2407 : 2407 ≤ freq.toNat → ((freq - 2407) % 5).toNat = (freq.toNat - 2407) % 5 :=
    toNat_sub_mod_five (k := 2407)
  have h5000 : 5000 ≤ freq.toNat → ((freq - 5000) % 5).toNat = (freq.toNat - 5000) % 5 :=
    toNat_sub_mod_five (k := 5000)
  unfold privP2pFreqToChannel FreqKnown
  simp only [ne_eq, UInt32.le_iff_toNat_le, ← UInt32.toNat_inj, UInt32.reduceToNat]
  split_ifs
  · exact .inl ⟨by omega, rfl⟩
  · exact .inr ⟨by omega, rfl⟩
  · exact .inl ⟨by omega, rfl⟩
  · exact .inl ⟨by omega, rfl⟩
  · exact .inr ⟨by omega, rfl⟩
  · exact .inl ⟨by omega, rfl⟩
  · exact .inr ⟨by omega, rfl⟩
  · exact .inr ⟨by omega, rfl⟩

/-- A switch installs the computed channel, whatever the locals hold, exactly for the
known frequencies. -/
theorem installsComputed_iff (conf : WpaConfig) (r : UInt32) (p2p : P2pData)
    {operFreq : UInt32} (hfreq : operFreq ≠ 0) :
    (∀ uninit, ∀ p2p' ∈ p2pWfdSinkConfigScc conf uninit r (some p2p) true operFreq,
        InstallsComputed operFreq uninit p2p p2p') ↔ FreqKnown operFreq := by
  have hscc : ∀ uninit : UInt8 × UInt8, p2pWfdSinkConfigScc conf uninit r (some p2p) true operFreq =
      some (p2p.installChannel (privP2pFreqToChannel operFreq uninit.1 uninit.2).2.1
        (privP2pFreqToChannel operFreq uninit.1 uninit.2).2.2) := by
    intro uninit
    simp [p2pWfdSinkConfigScc, hfreq]
  simp only [hscc, Option.mem_some_iff, forall_eq', InstallsComputed]
  constructor
  · intro h
    by_contra hunknown
    -- a local that differs from the installed channel gives the write away
    obtain ⟨hknown, -⟩ | ⟨-, heq⟩ :=
      privP2pFreqToChannel_cases operFreq 0 (p2p.opChannel + 1)
    · exact hunknown hknown
    · have hkept := h (0, p2p.opChannel + 1)
      rw [heq, if_neg (by omega)] at hkept
      have hchannel : p2p.opChannel + 1 = p2p.opChannel := congrArg P2pData.opChannel hkept
      simp at hchannel
  · intro hknown uninit
    obtain ⟨-, hret⟩ | ⟨hunknown, -⟩ :=
      privP2pFreqToChannel_cases operFreq uninit.1 uninit.2
    · rw [if_pos hret]
      exact P2pData.operates_installChannel _ _ _
    · exact absurd hknown hunknown

/-- A state whose only operating class is 81 with channel 1. -/
def P2pData.social : P2pData :=
  let channels : P2pChannels := ⟨1, fun _ => ⟨81, fun _ => 1, 1⟩⟩
  ⟨0, 81, 1, channels, 0, channels, 0⟩

/-- Channel 36 is installed from its frequency, although the locals hold 7 and 9. -/
theorem installsComputed_5180 :
    ∃ p2p', p2pWfdSinkConfigScc ⟨0, 0⟩ (7, 9) 0 (some .social) true 5180 = some p2p' ∧
      InstallsComputed 5180 (7, 9) .social p2p' := by
  have hknown : FreqKnown 5180 := .inr (.inr (.inl (by decide)))
  have hinstalls := (installsComputed_iff ⟨0, 0⟩ 0 .social (by decide)).mpr hknown
  exact ⟨_, rfl, hinstalls (7, 9) _ rfl⟩

/-- Channel 100 is not known; the locals happen to hold 7 and 9, and those are
installed. -/
theorem p2pWfdSinkConfigScc_5500 :
    (privP2pFreqToChannel 5500 7 9).1 = -1 ∧
      (p2pWfdSinkConfigScc ⟨0, 0⟩ (7, 9) 0 (some .social) true 5500).map P2pData.opChannel =
        some 9 ∧
      ¬ ∀ p2p' ∈ p2pWfdSinkConfigScc ⟨0, 0⟩ (7, 9) 0 (some .social) true 5500,
        InstallsComputed 5500 (7, 9) .social p2p' := by
  refine ⟨rfl, rfl, fun h => ?_⟩
  have hkept := h _ rfl
  exact absurd (congrArg P2pData.opChannel hkept) (by decide)

end MediatekCommon.Wpa
