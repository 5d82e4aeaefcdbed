/-
  Wpa/DriverCmd.lean --- `wpa_driver_nl80211_driver_cmd`: a text command from the
  control socket, carried out.

  The function resolves the interface, runs the branch the command enters, and if
  that branch leaves `handled` at 0 hands the command to the private ioctl of the
  driver.  It is modelled as a state transformer: the state holds the memory at `cmd`
  and `buf`, the P2P configuration and `drv_errors`, and logs what is asked of the
  kernel.  What the kernel answers, and what locals hold before they are assigned, is
  given by a `Host`.

  On the interface "ap0" the local `wpa_s` is not assigned.  Reading it is a fault,
  like the three other accesses of `Fault`.

  Three more accesses that C leaves undefined are no faults here, so that a run "without a
  fault" is one in which they do no harm: `mtk_rx_packet_filter` has `strtol` store a
  pointer into `errChar`, which has one byte; the test mode message of the last `else` is
  longer than its buffer for a long command (`transparentCall` has both lengths); and the
  report of the station statistics reads one byte behind `reserved` (the log of
  `printStaStatistics` has this read).
-/
import MediatekCommon.Foundation.Faulting
import MediatekCommon.Wpa.Commands
import MediatekCommon.Wpa.P2p
import MediatekCommon.Wpa.StaReport

set_option autoImplicit false

namespace MediatekCommon.Wpa

open MediatekCommon.Foundation

/-! ## Interfaces -/

/-- The part of `struct wpa_supplicant` the commands use, its `conf` not null. -/
structure WpaSupplicant where
  conf : WpaConfig
  ownAddr : List UInt8
  /-- `radio->ifaces` -/
  radioIfaces : List RadioIface

/-- What `drv->ctx` points to. -/
inductive DrvCtx where
  /-- a `struct hostapd_data` -/
  | hapd
  /-- a `struct wpa_supplicant` whose `conf` is null -/
  | unconfigured
  | supplicant (wpaS : WpaSupplicant)

/-- The part of `struct wpa_driver_nl80211_data` the commands use. -/
structure Drv where
  ctx : Option DrvCtx
  associated : Bool
  bssid : List UInt8
  /-- `first_bss->ifname` -/
  firstBssIfname : CString

/-- `struct i802_bss`. -/
structure Bss where
  ifname : CString
  drv : Option Drv

/-! ## What is asked of the kernel -/

/-- What follows the header in the parameters of a test mode message. -/
inductive TestmodePayload where
  /-- `struct wpa_driver_sw_cmd_params` -/
  | swCmd (set : UInt8) (adr data : UInt32)
  /-- `struct wpa_driver_suspendmode_params` -/
  | suspendmode (suspend : UInt8)
  /-- `struct wpa_driver_rx_filter_params` -/
  | rxFilter (ipv4FilterHigh ipv4FilterLow ipv6FilterHigh ipv6FilterLow snapFilterHigh
      snapFilterLow : UInt32)
  /-- `struct wpa_driver_hotspot_params` -/
  | hotspot (blocked : UInt8) (bssid : List UInt8)
  /-- `struct wpa_driver_get_sta_statistics_params` -/
  | staStatistics (addr : List UInt8)
  /-- the rest of a buffer -/
  | text (bytes : List UInt8)
  deriving DecidableEq, Repr

/-- The arguments of `wpa_driver_nl80211_testmode`: the `hdr` at `data`, what follows
it, and `data_len`. -/
structure TestmodeCall where
  index : UInt32
  buflen : UInt32
  payload : TestmodePayload
  dataLen : Nat
  deriving DecidableEq, Repr

/-- What becomes of a test mode message. -/
inductive Exchange where
  /-- `nlmsg_alloc` fails. -/
  | allocFailed
  /-- An attribute does not fit. -/
  | putFailed
  /-- `send_and_recv_msgs` returns this. -/
  | exchanged (ret : Int)
  deriving DecidableEq, Repr

/-- `ENOBUFS` -/
def enobufs : Int := 105

/-- What `wpa_driver_nl80211_testmode` returns. -/
def Exchange.ret : Exchange → Int
  | .allocFailed => -1
  | .putFailed => -enobufs
  | .exchanged ret => ret

/-- The `ifreq` of the private ioctl, and the `android_wifi_priv_cmd` it points to. -/
structure PrivIoctl where
  ifrName : List UInt8
  buf : List UInt8
  usedLen : Int
  totalLen : Int
  deriving DecidableEq, Repr

/-- What a command does outside its own memory. -/
inductive Effect where
  /-- `wpa_driver_nl80211_testmode` is called. -/
  | testmode (call : TestmodeCall)
  /-- `ioctl(drv->global->ioctl_sock, SIOCDEVPRIVATE + 1, &ifr)` -/
  | privIoctl (call : PrivIoctl)
  /-- `ioctl(ioctl_sock, 0x8B0C, &iwr)`, with the name and the text of `iwr` -/
  | countryIoctl (ifrName text : List UInt8)
  /-- `linux_set_iface_flags(sock, ifname, dev_up)` -/
  | setIfaceFlags (ifname : CString) (devUp : Bool)
  /-- `wpa_drv_deauthenticate(wpa_s, bssid, WLAN_REASON_DEAUTH_LEAVING)` -/
  | deauthenticate (bssid : List UInt8)
  /-- `EVENT_CHANNEL_LIST_CHANGED` with this `alpha2` -/
  | channelListChanged (alpha2 : Option (UInt8 × UInt8))
  /-- `wpa_msg(..., "CTRL-EVENT-DRIVER-STATE STARTED")`, or `STOPPED` -/
  | driverState (started : Bool)
  /-- The scan loading timeout is cancelled and registered anew. -/
  | scanLoadingTimeout
  deriving DecidableEq

/-- The build, and what the world outside this code answers. -/
structure Host where
  config : Config
  /-- The width of `long`. -/
  longBits : Nat
  usedBy : UsedByFlags
  /-- `DRV_NUMBER_SEQUENTIAL_ERRORS` -/
  sequentialErrors : Int
  testmode : TestmodeCall → Exchange
  privIoctl : PrivIoctl → Int
  /-- `socket(PF_INET, SOCK_DGRAM, 0)` -/
  socket : Int
  countryIoctl : List UInt8 → List UInt8 → Int
  setIfaceFlags : CString → Bool → Int
  /-- `hwaddr_aton`: the address, unless the text is none. -/
  hwaddrAton : CString → Option (List UInt8)
  libnl : Libnl
  /-- The attributes of each message of the answer that reaches
  `testmode_sta_statistics_handler`, as libnl parses them. -/
  staMessages : TestmodeCall → List (Option StaSinfo)
  /-- `%.1f` -/
  formatRate : Float → List UInt8
  /-- Whether `os_calloc` returns null. -/
  callocFails : Bool
  /-- `os_get_random` -/
  random : UInt32
  /-- What the locals of `p2p_wfd_sink_config_scc` hold at first. -/
  uninit : UInt8 × UInt8

/-! ## Running -/

/-- An access that C leaves undefined. -/
inductive Fault where
  /-- `wpa_s` is read without having been assigned. -/
  | unassignedWpaS
  /-- `drv->ctx` is read as a `wpa_supplicant`, which it is not. -/
  | notSupplicant
  /-- `wpa_s->global->p2p` is null, and dereferenced. -/
  | nullP2p
  /-- More bytes are copied to `priv_cmd.buf` than it has. -/
  | bufferOverrun
  deriving DecidableEq, Repr

/-- The memory a command works on. -/
structure DriverState where
  /-- The string at `cmd`. -/
  cmd : CString
  /-- The string at `buf`. -/
  buf : List UInt8
  /-- `wpa_s->global->p2p` -/
  p2p : Option P2pData
  drvErrors : Int
  /-- What was asked of the kernel, oldest first. -/
  effects : List Effect

/-- A computation on this memory. -/
abbrev DriverM : Type → Type := Faulting DriverState Fault

/-- Log what is asked of the kernel. -/
def emit (effect : Effect) : DriverM Unit :=
  Faulting.modify fun s => { s with effects := s.effects ++ [effect] }

@[simp] theorem run_emit (effect : Effect) (s : DriverState) :
    (emit effect).run s = (.ok (), { s with effects := s.effects ++ [effect] }) := rfl

/-- Leave this string in `buf`. -/
def setBuf (text : List UInt8) : DriverM Unit := Faulting.modify fun s => { s with buf := text }

@[simp] theorem run_setBuf (text : List UInt8) (s : DriverState) :
    (setBuf text).run s = (.ok (), { s with buf := text }) := rfl

/-- Read the local `wpa_s`. -/
def readWpaS : Option WpaSupplicant → DriverM WpaSupplicant
  | some wpaS => pure wpaS
  | none => Faulting.fault .unassignedWpaS

/-! ## Test mode messages -/

/-- The index of a message: its id and version 1. -/
def testmodeIndex (id : UInt32) : UInt32 := id ||| 0x01000000

/-- `wpa_driver_nl80211_testmode(priv, data, data_len)`. -/
def wpaDriverNl80211Testmode (h : Host) (call : TestmodeCall) : DriverM Int := do
  emit (.testmode call)
  return (h.testmode call).ret

/-- `wpa_driver_nl80211_driver_sw_cmd(priv, set, adr, dat)`. -/
def wpaDriverNl80211DriverSwCmd (h : Host) (set : Bool) (adr dat : UInt32) : DriverM Int := do
  -- NL80211_TESTMODE_SW_CMD; the parameters take 20 bytes
  let _ ← wpaDriverNl80211Testmode h
    ⟨testmodeIndex 1, 20, .swCmd (if set then 1 else 0) adr dat, 20⟩
  return 0

/-- `wpa_driver_hotspot_block_list_update(priv, bssid, blocked)`. -/
def wpaDriverHotspotBlockListUpdate (h : Host) (bssid : List UInt8) (blocked : UInt8) :
    DriverM Int :=
  -- NL80211_TESTMODE_HS20; the parameters take 16 bytes
  wpaDriverNl80211Testmode h ⟨testmodeIndex 3, 16, .hotspot blocked bssid, 16⟩

/-- `wpa_driver_sta_block(priv, cmd)` with 1, `wpa_driver_sta_unblock(priv, cmd)` with
0. -/
def wpaDriverStaBlock (h : Host) (cmd : CString) (blocked : UInt8) : DriverM Int :=
  match h.hwaddrAton cmd with
  | none => return -1
  | some bssid => wpaDriverHotspotBlockListUpdate h bssid blocked

/-- The request for the statistics of a station. -/
def staStatisticsCall (h : Host) (staAddr : List UInt8) : TestmodeCall :=
  -- NL80211_TESTMODE_STATISTICS; the parameters end with a pointer
  let size := 24 + h.longBits / 8
  ⟨testmodeIndex 0x10, UInt32.ofNat size, .staStatistics staAddr, size⟩

/-- `sta_statistics` behind the exchange: zero at first, and handed to the handler for each
message of the answer. -/
def Host.staStatistics (h : Host) (staAddr : List UInt8) : StaStatistics :=
  handleMessages h.libnl (h.staMessages (staStatisticsCall h staAddr)) .zero

/-- `wpas_get_sta_statistics(wpa_s, sta_addr, buf)`, but for what it stores. -/
def wpasGetStaStatistics (h : Host) (staAddr : List UInt8) : DriverM Int :=
  wpaDriverNl80211Testmode h (staStatisticsCall h staAddr)

/-- `wpa_driver_get_sta_statistics(wpa_s, addr, buf, buflen)`; `wpas_p2p_get_sta_mac`
always returns null. -/
def wpaDriverGetStaStatistics (h : Host) (addr : CString) (bufLen : Nat) : DriverM Int :=
  match h.hwaddrAton addr with
  | none => return -1
  | some staAddr => do
      let ret ← wpasGetStaStatistics h staAddr
      if ret < 0 then return -1
      let s ← Faulting.get
      let (len, text) := printedReport h.formatRate (h.staStatistics staAddr) bufLen s.buf
      setBuf text
      return len

/-! ## The country -/

/-- The name in the request of `wpa_driver_mediatek_set_country`. -/
def countryIfrName (h : Host) (drv : Drv) : List UInt8 :=
  if h.config.mtkTc1Feature ∧ strncmp drv.firstBssIfname.bytes (ascii "p2p0") "p2p0".length then
    ascii "wlan0"
  else drv.firstBssIfname.bytes.take 15

/-- `wpa_driver_mediatek_set_country(priv, alpha2_arg)`. -/
def wpaDriverMediatekSetCountry (h : Host) (drv : Drv) (alpha2Arg : CString) : DriverM Int :=
  if h.socket < 0 then return -1
  else do
    let text := ascii "COUNTRY " ++ alpha2Arg.bytes
    emit (.countryIoctl (countryIfrName h drv) text)
    let ret := h.countryIoctl (countryIfrName h drv) text
    return if ret < 0 then ret else 0

/-- `wpa_driver_notify_country_change(ctx, cmd)`. -/
def wpaDriverNotifyCountryChange (cmd : CString) : DriverM Unit :=
  if strncasecmp cmd.bytes (ascii "COUNTRY") 7 then
    emit (.channelListChanged (if 9 < cmd.strlen then some (cmd.read 8, cmd.read 9) else none))
  else return ()

/-! ## The sink and the station -/

/-- `p2p_wfd_sink_config_scc(wpa_s, scc, oper_freq)`. -/
def configScc (h : Host) (wpaS : WpaSupplicant) (scc : Bool) (operFreq : UInt32) :
    DriverM Unit :=
  Faulting.modify fun s =>
    { s with p2p := p2pWfdSinkConfigScc wpaS.conf h.uninit h.random s.p2p scc operFreq }

/-- Follow the frequency the station operates on, if there is one and `positive` accepts
it, else get back to MCC. -/
def followStation (h : Host) (wpaS : Option WpaSupplicant) (positive : Int → Bool) :
    DriverM Unit := do
  let wpaS ← readWpaS wpaS
  let (num, freqs) := mtkGetSharedRadioFreqs h.usedBy h.callocFails wpaS.radioIfaces 1
  let freq := freqs.headD 0
  if 0 < num ∧ positive freq then configScc h wpaS true (UInt32.ofInt freq)
  else configScc h wpaS false 0

/-! ## The branches

A branch gives the value of `ret`, which is -1 before it, and whether `handled` is
still 1 behind it. -/

/-- Send one firmware command; its result is not looked at. -/
def sendSwCmd (h : Host) (swCmd idx : UInt32) : DriverM (Int × Bool) := do
  let _ ← wpaDriverNl80211DriverSwCmd h true swCmd idx
  return (0, true)

/-- Send a firmware command for the number behind the first `n` bytes, if there is one. -/
def sendNumberedSwCmd (h : Host) (n : Nat) (swCmd offset : UInt32) : DriverM (Int × Bool) := do
  let s ← Faulting.get
  let cp := s.cmd.advance n
  let (number, endOffset) := strtol h.longBits 0 cp.bytes
  if cp.read 0 ≠ 0 ∧ endOffset ≠ 0 then sendSwCmd h swCmd (UInt32.ofInt number + offset)
  else return (-1, true)

/-- The branch `COUNTRY`. -/
def countryBranch (h : Host) (drv : Drv) (wpaS : Option WpaSupplicant) :
    DriverM (Int × Bool) := do
  let s ← Faulting.get
  if s.cmd.strlen ≠ "COUNTRY".length + 3 then return (0, true)
  else do
    let ret ← wpaDriverMediatekSetCountry h drv (s.cmd.advance 8)
    if ret = 0 then do
      let _ ← readWpaS wpaS
      wpaDriverNotifyCountryChange s.cmd
      return (ret, true)
    else return (ret, true)

/-- Set the interface up or down, the second half of `start` and `stop`. -/
def setIfaceState (h : Host) (drv : Drv) (devUp : Bool) : DriverM (Int × Bool) := do
  emit (.setIfaceFlags drv.firstBssIfname devUp)
  let ret := h.setIfaceFlags drv.firstBssIfname devUp
  if ret ≠ 0 then return (ret, true)
  else do
    emit (.driverState devUp)
    return (ret, true)

/-- The branch `stop`. -/
def stopBranch (h : Host) (drv : Drv) (wpaS : Option WpaSupplicant) : DriverM (Int × Bool) :=
  if drv.associated then do
    let _ ← readWpaS wpaS
    -- the result goes to `ret`, which is assigned anew below
    emit (.deauthenticate drv.bssid)
    setIfaceState h drv false
  else setIfaceState h drv false

/-- The branches `p2p_get_cap` and `p2p_set_cap`: what they do with `p2p` and the text
behind their name. -/
def capBranch (wpaS : Option WpaSupplicant) (name : String)
    (act : P2pData → CString → DriverM Int) : DriverM (Int × Bool) := do
  let _ ← readWpaS wpaS
  let s ← Faulting.get
  match s.p2p with
  | none => return (-1, true)
  | some p2p =>
      let ret ← act p2p (s.cmd.advance name.length)
      return (ret, true)

/-- The command `MIRACAST 2` without its frequency. -/
def miracast2 : CString := ⟨ascii "MIRACAST 2", by decide⟩

/-- The number behind `MIRACAST `, an `unsigned char`. -/
def miracastValue (h : Host) (cmd : CString) : UInt8 :=
  UInt8.ofInt (atoi h.longBits (cmd.advance "MIRACAST ".length).bytes)

/-- The branch `MIRACAST`; every case of its `switch` sets `handled` to 0. -/
def miracastBranch (h : Host) (wpaS : Option WpaSupplicant) : DriverM (Int × Bool) := do
  let s ← Faulting.get
  let miracast := miracastValue h s.cmd
  -- `freq` is unsigned here
  let positive := fun freq => decide (0 < UInt32.ofInt freq)
  if miracast = 0 ∨ miracast = 1 then
    followStation h wpaS positive
    return (-1, false)
  else if miracast = 2 then
    match strstr (ascii " freq=") s.cmd.bytes with
    | some pos =>
        let wpaS ← readWpaS wpaS
        configScc h wpaS true (UInt32.ofInt (atoi h.longBits (pos.drop 6)))
        Faulting.modify fun s => { s with cmd := miracast2 }
        return (-1, false)
    | none =>
        followStation h wpaS positive
        return (-1, false)
  else return (-1, false)

/-- The branch `p2p_use_mcc=`. -/
def p2pUseMccBranch (h : Host) (wpaS : Option WpaSupplicant) : DriverM (Int × Bool) := do
  let s ← Faulting.get
  let useMcc :=
    UInt8.ofInt (atoi h.longBits (s.cmd.advance "p2p_use_mcc=".length).bytes)
  let station ← readWpaS wpaS
  match s.p2p with
  | none => Faulting.fault .nullP2p
  | some p2p => do
      Faulting.modify fun s => { s with p2p := some { p2p with p2pUseMcc := useMcc } }
      if useMcc ≠ 0 then configScc h station false 0
      else followStation h wpaS fun freq => decide (0 < freq)
      return (-1, true)

/-- The branch `SETSUSPENDMODE `, which goes on to the private ioctl. -/
def setSuspendModeBranch (h : Host) : DriverM (Int × Bool) := do
  let s ← Faulting.get
  -- NL80211_TESTMODE_SUSPEND; the parameters take 12 bytes
  let _ ← wpaDriverNl80211Testmode h
    ⟨testmodeIndex 101, 12, .suspendmode (s.cmd.read 15 - 48), 12⟩
  return (-1, false)

/-- Eight hexadecimal digits of the command, as the packet filter reads them. -/
def filterWord (h : Host) (cmd : CString) (pos : Nat) : UInt32 :=
  UInt32.ofInt (strtol h.longBits 16 ((cmd.bytes.drop pos).take 8)).1

/-- The branch `mtk_rx_packet_filter `. -/
def mtkRxPacketFilterBranch (h : Host) : DriverM (Int × Bool) := do
  let s ← Faulting.get
  if s.cmd.strlen ≠ 71 then return (-1, true)
  else do
    let word := filterWord h s.cmd
    -- NL80211_TESTMODE_RXFILTER; the parameters take 32 bytes
    let ret ← wpaDriverNl80211Testmode h
      ⟨testmodeIndex 103, 32,
        .rxFilter (word 21) (word 29) (word 38) (word 46) (word 55) (word 63), 32⟩
    return (ret, true)

/-- What each branch does. -/
def runBranch (h : Host) (bufLen : Nat) (drv : Drv) (wpaS : Option WpaSupplicant) :
    Branch → DriverM (Int × Bool)
  | .powermode | .getpower | .getRtsThreshold | .setRtsThreshold =>
      -- the calls that would set `ret` are commented out
      return (-1, true)
  | .getStaStatistics => do
      let _ ← readWpaS wpaS
      let s ← Faulting.get
      let ret ← wpaDriverGetStaStatistics h (s.cmd.advance 19) bufLen
      return (ret, true)
  | .macaddr => do
      let wpaS ← readWpaS wpaS
      let s ← Faulting.get
      let macstr := [58].intercalate (wpaS.ownAddr.map hexByte)
      let (ret, text) := snprintf bufLen (ascii "Macaddr = " ++ macstr ++ ascii "\n") s.buf
      setBuf text
      return (ret, true)
  | .country => countryBranch h drv wpaS
  | .start => setIfaceState h drv true
  | .stop => stopBranch h drv wpaS
  | .rxfilterAdd => sendNumberedSwCmd h 12 0x9F000000 0x00900200
  | .rxfilterRemove => sendNumberedSwCmd h 15 0x9F000000 0x00900300
  | .rxfilterStop => sendSwCmd h 0x9F000000 0x00900000
  | .rxfilterStart => sendSwCmd h 0x9F000000 0x00900100
  | .btcoexscanStart | .btcoexscanStop | .btcoexmode => return (0, true)
  | .smtRate => sendNumberedSwCmd h 8 0xFFFF0123 0
  | .smtTestOn => sendSwCmd h 0xFFFF1234 0
  | .smtTestOff => sendSwCmd h 0xFFFF1235 0
  | .smtTestScanOn => sendSwCmd h 0xFFFF1260 0
  | .smtTestScanOff => sendSwCmd h 0xFFFF1261 0
  | .smtTestRoamOn => sendSwCmd h 0xFFFF1262 0
  | .smtTestRoamOff => sendSwCmd h 0xFFFF1263 0
  | .smtTestCamOn => sendSwCmd h 0xFFFF1264 0
  | .smtTestCamOff => sendSwCmd h 0xFFFF1265 0
  | .smtTestBcnOn => sendSwCmd h 0xFFFF1266 0
  | .smtTestBcnOff => sendSwCmd h 0xFFFF1267 0
  | .smtTestPowerOn => sendSwCmd h 0xFFFF1268 0
  | .smtTestPowerOff => sendSwCmd h 0xFFFF1269 0
  | .smtTestFifoOn => sendSwCmd h 0xFFFF1270 0
  | .smtTestFifoOff => sendSwCmd h 0xFFFF1271 0
  | .staBlock => do
      let s ← Faulting.get
      let ret ← wpaDriverStaBlock h (s.cmd.advance 10) 1
      return (if ret ≠ 0 then -1 else 0, true)
  | .staUnblock => do
      let s ← Faulting.get
      let ret ← wpaDriverStaBlock h (s.cmd.advance 12) 0
      return (if ret ≠ 0 then -1 else 0, true)
  | .p2pGetCap => capBranch wpaS "p2p_get_cap " fun p2p cmd => do
      let s ← Faulting.get
      let (ret, text) := p2pGetCapability p2p cmd s.buf bufLen
      setBuf text
      return ret
  | .p2pSetCap => capBranch wpaS "p2p_set_cap " fun p2p cmd => do
      let (ret, p2p) := p2pSetCapability h.longBits p2p cmd
      Faulting.modify fun s => { s with p2p := some p2p }
      return ret
  | .miracast => miracastBranch h wpaS
  | .p2pUseMcc => p2pUseMccBranch h wpaS
  -- `user_force_band` is 0: the branch that would set it is not compiled
  | .setBandDual => sendSwCmd h 0xFFFF1250 0
  | .setBand2g4 => sendSwCmd h 0xFFFF1251 0
  | .setBand5g => sendSwCmd h 0xFFFF1252 0
  | .setScanLoading => do
      let _ ← wpaDriverNl80211DriverSwCmd h true 0xFFFF1253 0
      emit .scanLoadingTimeout
      return (0, true)
  | .setSuspendMode => setSuspendModeBranch h
  | .mtkRxPacketFilter => mtkRxPacketFilterBranch h

/-- The message of the last `else`: a buffer of 100 bytes, 8 of them the header. -/
def transparentCall (cmd : CString) : TestmodeCall :=
  -- NL80211_TESTMODE_STR_CMD
  let buflen := UInt32.ofNat (8 + cmd.strlen)
  ⟨testmodeIndex 102, buflen, .text (strncpy cmd.bytes (100 - 8)), buflen.toNat⟩

/-- The last `else`. -/
def transparentCommand (h : Host) : DriverM (Int × Bool) := do
  let s ← Faulting.get
  let ret ← wpaDriverNl80211Testmode h (transparentCall s.cmd)
  return (ret, false)

/-- The chain of branches. -/
def runCommand (h : Host) (bufLen : Nat) (drv : Drv) (wpaS : Option WpaSupplicant) :
    DriverM (Int × Bool) := do
  let s ← Faulting.get
  match dispatch h.config s.cmd with
  | some branch => runBranch h bufLen drv wpaS branch
  | none => transparentCommand h

/-! ## The private ioctl -/

/-- `PRIV_CMD_SIZE` -/
def privCmdSize : Nat := 512

/-- `wpa_driver_send_hang_msg(drv)`. -/
def wpaDriverSendHangMsg (h : Host) : DriverM Unit :=
  Faulting.modify fun s =>
    { s with
      drvErrors := if h.sequentialErrors < s.drvErrors + 1 then 0 else s.drvErrors + 1 }

/-- `cmd_len`: an `int` takes the length, and is clamped. -/
def privCmdLen (cmd : CString) : Int :=
  let cmdLen : Int := (cmd.strlen : Int).bmod (2 ^ 32)
  if (privCmdSize : Int) ≤ cmdLen then privCmdSize - 1 else cmdLen

/-- The request of the private ioctl for this text, of which `cmdLen + 1` bytes are
copied over zeros. -/
def privRequest (ifname cmd : CString) (cmdLen : Int) : PrivIoctl where
  ifrName := strncpy ifname.bytes 16
  buf :=
    let copied := (cmd.bytes ++ [0]).take (cmdLen + 1).toNat
    copied ++ List.replicate (privCmdSize - copied.length) 0
  usedLen := cmdLen + 1
  totalLen := privCmdSize

/-- Issue the private ioctl, and reply to its result. -/
def issuePrivIoctl (h : Host) (bufLen : Nat) (call : PrivIoctl) : DriverM Int := do
  emit (.privIoctl call)
  if h.privIoctl call < 0 then
    wpaDriverSendHangMsg h
    let s ← Faulting.get
    let (ret, text) := snprintf bufLen (ascii "FAIL\n") s.buf
    setBuf text
    return ret
  else
    Faulting.modify fun s => { s with drvErrors := 0 }
    let s ← Faulting.get
    let (ret, text) := snprintf bufLen (ascii "OK\n") s.buf
    setBuf text
    return if strncasecmp s.cmd.bytes (ascii "WLS_BATCHING") 12 then text.length else ret

/-- The part of the function for a `handled` of 0. -/
def privateCommand (h : Host) (bss : Bss) (bufLen : Nat) : DriverM Int := do
  let s ← Faulting.get
  setBuf (if bufLen = 0 then s.buf else [])
  -- a negative count is a huge `size_t`
  if privCmdLen s.cmd + 1 < 0 then Faulting.fault .bufferOverrun
  else issuePrivIoctl h bufLen (privRequest bss.ifname s.cmd (privCmdLen s.cmd))

/-! ## The command -/

/-- What the function does before it looks at the command: `none` if it returns -1,
else the driver and the local `wpa_s`. -/
def openBss (bss : Bss) : Except Fault (Option (Drv × Option WpaSupplicant)) :=
  match bss.drv with
  | none => .ok none
  | some drv =>
      match drv.ctx with
      | none => .ok none
      | some ctx =>
          if bss.ifname.bytes = ascii "ap0" then .ok (some (drv, none))
          else
            match ctx with
            | .hapd => .error .notSupplicant
            | .unconfigured => .ok none
            | .supplicant wpaS => .ok (some (drv, some wpaS))

/-- `wpa_driver_nl80211_driver_cmd(priv, cmd, buf, buf_len)`. -/
def wpaDriverNl80211DriverCmd (h : Host) (bss : Bss) (bufLen : Nat) : DriverM Int :=
  match openBss bss with
  | .error f => Faulting.fault f
  | .ok none => return -1
  | .ok (some (drv, wpaS)) => do
      let (ret, handled) ← runCommand h bufLen drv wpaS
      if handled then return ret else privateCommand h bss bufLen

/-! ## Running it -/

/-- A host to run the model on: a 32-bit build with all options, which answers test mode
messages so, and everything else with success. -/
def Host.answering (testmode : TestmodeCall → Exchange) : Host where
  config := .full
  longBits := 32
  usedBy := ⟨1, 2⟩
  sequentialErrors := 4
  testmode := testmode
  privIoctl := fun _ => 0
  socket := 3
  countryIoctl := fun _ _ => 0
  setIfaceFlags := fun _ _ => 0
  hwaddrAton := fun _ => none
  libnl := .reference
  staMessages := fun _ => []
  formatRate := fun _ => ascii "0.0"
  callocFails := false
  random := 0
  uninit := (0, 0)

/-- The host that answers every message with success. -/
def Host.reference : Host := .answering fun _ => .exchanged 0

/-- The driver of an interface that is not associated. -/
def Drv.idle (ctx : DrvCtx) : Drv := ⟨some ctx, false, [], ⟨ascii "wlan0", by decide⟩⟩

/-- The supplicant of "wlan0", its radio without a connection. -/
def WpaSupplicant.idle : WpaSupplicant := ⟨⟨0, 0⟩, [2, 0, 0, 0, 0, 1], []⟩

/-- The interface "wlan0" of the supplicant. -/
def Bss.wlan0 : Bss := ⟨⟨ascii "wlan0", by decide⟩, some (.idle (.supplicant .idle))⟩

/-- The interface "ap0" of hostapd. -/
def Bss.ap0 : Bss := ⟨⟨ascii "ap0", by decide⟩, some (.idle .hapd)⟩

theorem openBss_wlan0 :
    openBss .wlan0 = .ok (some (.idle (.supplicant .idle), some .idle)) := rfl

theorem openBss_ap0 : openBss .ap0 = .ok (some (.idle .hapd, none)) := rfl

/-- The memory around a command. -/
def DriverState.start (cmd : CString) : DriverState := ⟨cmd, [], none, 0, []⟩

variable {h : Host} {bss : Bss} {drv : Drv} {wpaS : Option WpaSupplicant} {bufLen : Nat}
  {s s' : DriverState}

/-- A command that is handled ends with the value of its branch. -/
theorem driverCmd_of_handled (hopen : openBss bss = .ok (some (drv, wpaS))) {ret : Int}
    (hrun : (runCommand h bufLen drv wpaS).run s = (.ok (ret, true), s')) :
    (wpaDriverNl80211DriverCmd h bss bufLen).run s = (.ok ret, s') := by
  rw [wpaDriverNl80211DriverCmd, hopen]
  dsimp only
  rw [Faulting.run_bind_of_ok hrun]
  simp only [if_true, Faulting.run_pure]

/-- A command that is not goes on to the private ioctl. -/
theorem driverCmd_of_not_handled (hopen : openBss bss = .ok (some (drv, wpaS))) {ret : Int}
    (hrun : (runCommand h bufLen drv wpaS).run s = (.ok (ret, false), s')) :
    (wpaDriverNl80211DriverCmd h bss bufLen).run s = (privateCommand h bss bufLen).run s' := by
  rw [wpaDriverNl80211DriverCmd, hopen]
  dsimp only
  rw [Faulting.run_bind_of_ok hrun]
  simp only [Bool.false_eq_true, if_false]

theorem driverCmd_of_fault (hopen : openBss bss = .ok (some (drv, wpaS))) {f : Fault}
    (hrun : (runCommand h bufLen drv wpaS).run s = (.error f, s')) :
    (wpaDriverNl80211DriverCmd h bss bufLen).run s = (.error f, s') := by
  rw [wpaDriverNl80211DriverCmd, hopen]
  exact Faulting.run_bind_of_error hrun

/-- A command enters the branch it is dispatched to. -/
theorem runCommand_of_dispatch {b : Branch} (hdispatch : dispatch h.config s.cmd = some b) :
    (runCommand h bufLen drv wpaS).run s = (runBranch h bufLen drv wpaS b).run s := by
  rw [runCommand, Faulting.run_bind_of_ok (Faulting.run_get s), hdispatch]

theorem runCommand_of_not_dispatch (hdispatch : dispatch h.config s.cmd = none) :
    (runCommand h bufLen drv wpaS).run s = (transparentCommand h).run s := by
  rw [runCommand, Faulting.run_bind_of_ok (Faulting.run_get s), hdispatch]

end MediatekCommon.Wpa
