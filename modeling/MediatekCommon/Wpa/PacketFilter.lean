/-
  Wpa/PacketFilter.lean --- the command `mtk_rx_packet_filter `, written and read back.

  The command carries three masks of 64 bits in 16 hexadecimal digits each, and the
  driver cuts them into six words of eight digits.  Every word is cut where it was
  written.  But it is read by `strtol`, which is signed: where `long` has 32 bits, a
  word from 2^31 on comes back as 2^31 - 1.

  Of a command that starts with the name only the length is checked, so that what is
  sent need not be in the format (`acceptsExactly_iff`).
-/
import MediatekCommon.Wpa.DriverCmd

set_option autoImplicit false

namespace MediatekCommon.Wpa

open MediatekCommon.Foundation

/-! ## The command -/

/-- A mask of 64 bits, as two words. -/
structure Mask where
  high : UInt32
  low : UInt32
  deriving DecidableEq, Repr

/-- The masks of the packet filter. -/
structure RxFilter where
  ipv4 : Mask
  ipv6 : Mask
  snap : Mask
  deriving DecidableEq, Repr

/-- This is the mask in 16 hexadecimal digits, of either letter case. -/
def Mask.PrintedAs (mask : Mask) (text : List UInt8) : Prop :=
  text.map tolower = hexText 16 (mask.high.toNat * 2 ^ 32 + mask.low.toNat)

instance (mask : Mask) (text : List UInt8) : Decidable (mask.PrintedAs text) :=
  inferInstanceAs (Decidable (_ = _))

/-- The command with these three texts. -/
def filterCommand (ipv4 ipv6 snap : List UInt8) : List UInt8 :=
  ascii "mtk_rx_packet_filter " ++ ipv4 ++ ascii " " ++ ipv6 ++ ascii " " ++ snap

theorem length_name : (ascii "mtk_rx_packet_filter ").length = 21 := by decide

theorem length_blank : (ascii " ").length = 1 := by decide

/-- The six words, in the order of the command. -/
def RxFilter.words (filter : RxFilter) : List UInt32 :=
  [filter.ipv4.high, filter.ipv4.low, filter.ipv6.high, filter.ipv6.low, filter.snap.high,
    filter.snap.low]

/-- The words as the driver gets them. -/
def RxFilter.payload (filter : RxFilter) : TestmodePayload :=
  .rxFilter filter.ipv4.high filter.ipv4.low filter.ipv6.high filter.ipv6.low filter.snap.high
    filter.snap.low

/-! ## Getting to its branch -/

/-- No guard before the last is passed by a command that starts with an `m`. -/
theorem rejects_of_mem_dropLast : ∀ b ∈ Branch.chain.dropLast, b.guard.rejects 109 = true := by
  decide +kernel

theorem dispatch_mtkRxPacketFilter (c : Config) {cmd : CString} {rest : List UInt8}
    (hcmd : cmd.bytes = ascii "mtk_rx_packet_filter " ++ rest) :
    dispatch c cmd = some .mtkRxPacketFilter := by
  have hchain : Branch.chain = Branch.chain.dropLast ++ [.mtkRxPacketFilter] := rfl
  have hbefore := find?_of_rejects c hcmd rejects_of_mem_dropLast
  have hlast : Branch.mtkRxPacketFilter.guard.passes cmd = true := by
    rw [Branch.guard, Guard.passes, hcmd, strncasecmp, ← length_name]
    exact sameUpTo_append tolower _ rest
  rw [dispatch, hchain, List.find?_append, hbefore, Option.none_or, List.find?_cons, hlast]
  rfl

/-! ## Reading a word -/

/-- What comes back of a word. -/
def readBack (h : Host) (w : UInt32) : UInt32 := UInt32.ofInt (saturate h.longBits w.toNat)

theorem Mask.PrintedAs.length {mask : Mask} {text : List UInt8} (hprint : mask.PrintedAs text) :
    text.length = 16 :=
  length_of_hexText hprint

/-- The text of a mask is the texts of its words. -/
theorem Mask.PrintedAs.halves {mask : Mask} {text : List UInt8} (hprint : mask.PrintedAs text)
    (longBits : Nat) :
    ∃ high low, text = high ++ low ∧ high.length = 8 ∧ low.length = 8 ∧
      (strtol longBits 16 high).1 = saturate longBits mask.high.toNat ∧
      (strtol longBits 16 low).1 = saturate longBits mask.low.toNat := by
  have hhigh := mask.high.toNat_lt
  have hlow := mask.low.toNat_lt
  have hsplit : hexText 16 (mask.high.toNat * 2 ^ 32 + mask.low.toNat) =
      hexText 8 mask.high.toNat ++ hexText 8 (mask.high.toNat * 2 ^ 32 + mask.low.toNat) := by
    have hdiv : (mask.high.toNat * 2 ^ 32 + mask.low.toNat) / 16 ^ 8 = mask.high.toNat := by
      omega
    rw [hexText, hexDigits_append 8 8, List.map_append, hdiv]
    rfl
  obtain ⟨high, low, rfl, hhighText, hlowText⟩ :=
    List.map_eq_append_iff.mp (hprint.trans hsplit)
  refine ⟨high, low, rfl, length_of_hexText hhighText, length_of_hexText hlowText, ?_, ?_⟩
  · have hmod : mask.high.toNat % 16 ^ 8 = mask.high.toNat := by omega
    rw [strtol_hexText longBits (by decide) hhighText, hmod]
  · have hmod : (mask.high.toNat * 2 ^ 32 + mask.low.toNat) % 16 ^ 8 = mask.low.toNat := by
      omega
    rw [strtol_hexText longBits (by decide) hlowText, hmod]

/-- The word that is cut out of the command at the place it stands. -/
theorem filterWord_of_append (h : Host) {cmd : CString} {front word rest : List UInt8}
    {w : UInt32} {pos : Nat} (hcmd : cmd.bytes = front ++ (word ++ rest))
    (hpos : front.length = pos) (hlen : word.length = 8)
    (hread : (strtol h.longBits 16 word).1 = saturate h.longBits w.toNat) :
    filterWord h cmd pos = readBack h w := by
  rw [filterWord, hcmd, ← hpos, List.drop_left, ← hlen, List.take_left, hread, readBack]

/-- A word comes back unless the limit of `long` lies below it. -/
theorem readBack_eq_iff {h : Host} (hlong : h.longBits = 32 ∨ h.longBits = 64) (w : UInt32) :
    readBack h w = w ↔ h.longBits = 64 ∨ w.toNat < 2 ^ 31 := by
  have hword := w.toNat_lt
  have hread : (readBack h w).toNat = min w.toNat (2 ^ (h.longBits - 1) - 1) % 2 ^ 32 := by
    have hofNat : readBack h w =
        UInt32.ofNat (min w.toNat (2 ^ (h.longBits - 1) - 1) % 2 ^ 32 : Nat) := by
      rw [readBack, saturate_natCast]
      rfl
    rw [hofNat, UInt32.toNat_ofNat', Nat.mod_mod]
  rw [← UInt32.toNat_inj, hread]
  rcases hlong with hbits | hbits <;> rw [hbits] <;> omega

/-! ## The round trip -/

/-- A mask, both its words read back. -/
def Mask.readBack (h : Host) (mask : Mask) : Mask :=
  ⟨Wpa.readBack h mask.high, Wpa.readBack h mask.low⟩

/-- The filter the driver gets. -/
def RxFilter.readBack (h : Host) (filter : RxFilter) : RxFilter :=
  ⟨filter.ipv4.readBack h, filter.ipv6.readBack h, filter.snap.readBack h⟩

/-- The message for a filter. -/
def RxFilter.call (filter : RxFilter) : TestmodeCall := ⟨testmodeIndex 103, 32, filter.payload, 32⟩

variable {h : Host} {bss : Bss} {drv : Drv} {wpaS : Option WpaSupplicant} {filter : RxFilter}
  {ipv4 ipv6 snap : List UInt8}

/-- The two words of a mask whose text stands at a place of the command. -/
theorem filterWord_of_mask {mask : Mask} {text front rest : List UInt8} {cmd : CString} {pos : Nat}
    (hprint : mask.PrintedAs text) (hcmd : cmd.bytes = front ++ (text ++ rest))
    (hpos : front.length = pos) :
    filterWord h cmd pos = readBack h mask.high ∧
      filterWord h cmd (pos + 8) = readBack h mask.low := by
  obtain ⟨high, low, rfl, hhigh, hlow, hreadHigh, hreadLow⟩ := hprint.halves h.longBits
  have hcmdHigh : cmd.bytes = front ++ (high ++ (low ++ rest)) := by rw [hcmd, List.append_assoc]
  have hcmdLow : cmd.bytes = (front ++ high) ++ (low ++ rest) := by
    rw [hcmdHigh, List.append_assoc]
  have hposLow : (front ++ high).length = pos + 8 := by rw [List.length_append, hpos, hhigh]
  exact ⟨filterWord_of_append h hcmdHigh hpos hhigh hreadHigh,
    filterWord_of_append h hcmdLow hposLow hlow hreadLow⟩

/-- The masks stand where the driver looks for them. -/
theorem words_filterCommand (h : Host) {cmd : CString} (hipv4 : filter.ipv4.PrintedAs ipv4)
    (hipv6 : filter.ipv6.PrintedAs ipv6) (hsnap : filter.snap.PrintedAs snap)
    (hcmd : cmd.bytes = filterCommand ipv4 ipv6 snap) :
    TestmodePayload.rxFilter (filterWord h cmd 21) (filterWord h cmd 29) (filterWord h cmd 38)
        (filterWord h cmd 46) (filterWord h cmd 55) (filterWord h cmd 63) =
      (filter.readBack h).payload := by
  have hcmd4 : cmd.bytes = ascii "mtk_rx_packet_filter " ++
      (ipv4 ++ (ascii " " ++ ipv6 ++ ascii " " ++ snap)) := by
    rw [hcmd]
    simp only [filterCommand, List.append_assoc]
  have hcmd6 : cmd.bytes = (ascii "mtk_rx_packet_filter " ++ ipv4 ++ ascii " ") ++
      (ipv6 ++ (ascii " " ++ snap)) := by
    rw [hcmd]
    simp only [filterCommand, List.append_assoc]
  have hcmdS : cmd.bytes = (ascii "mtk_rx_packet_filter " ++ ipv4 ++ ascii " " ++ ipv6 ++
      ascii " ") ++ (snap ++ []) := by
    rw [hcmd, filterCommand, List.append_nil]
  have hpos6 : (ascii "mtk_rx_packet_filter " ++ ipv4 ++ ascii " ").length = 38 := by
    simp only [List.length_append, length_name, length_blank, hipv4.length]
  have hposS : (ascii "mtk_rx_packet_filter " ++ ipv4 ++ ascii " " ++ ipv6 ++
      ascii " ").length = 55 := by
    simp only [List.length_append, length_name, length_blank, hipv4.length, hipv6.length]
  obtain ⟨hhigh4, hlow4⟩ := filterWord_of_mask (h := h) hipv4 hcmd4 length_name
  obtain ⟨hhigh6, hlow6⟩ := filterWord_of_mask (h := h) hipv6 hcmd6 hpos6
  obtain ⟨hhighS, hlowS⟩ := filterWord_of_mask (h := h) hsnap hcmdS hposS
  rw [hhigh4, hlow4, hhigh6, hlow6, hhighS, hlowS]
  rfl

/-- The command is accepted, and the driver gets every word as it reads back. -/
theorem run_filterCommand (hopen : openBss bss = .ok (some (drv, wpaS))) (bufLen : Nat)
    {s : DriverState} (hipv4 : filter.ipv4.PrintedAs ipv4) (hipv6 : filter.ipv6.PrintedAs ipv6)
    (hsnap : filter.snap.PrintedAs snap) (hcmd : s.cmd.bytes = filterCommand ipv4 ipv6 snap) :
    (wpaDriverNl80211DriverCmd h bss bufLen).run s =
      (.ok (h.testmode (filter.readBack h).call).ret,
        { s with effects := s.effects ++ [.testmode (filter.readBack h).call] }) := by
  have hlen : s.cmd.strlen = 71 := by
    simp only [CString.strlen, hcmd, filterCommand, List.length_append, length_name, length_blank,
      hipv4.length, hipv6.length, hsnap.length]
  have hfront : s.cmd.bytes = ascii "mtk_rx_packet_filter " ++
      (ipv4 ++ (ascii " " ++ (ipv6 ++ (ascii " " ++ snap)))) := by
    rw [hcmd]
    simp only [filterCommand, List.append_assoc]
  have hwords := words_filterCommand h hipv4 hipv6 hsnap hcmd
  refine driverCmd_of_handled hopen ?_
  rw [runCommand_of_dispatch (dispatch_mtkRxPacketFilter h.config hfront)]
  show (mtkRxPacketFilterBranch h).run s = _
  rw [mtkRxPacketFilterBranch, Faulting.run_bind_of_ok (Faulting.run_get s),
    if_neg (not_not.mpr hlen)]
  dsimp only
  rw [hwords]
  rfl

/-- The message the driver gets is this one. -/
theorem call_eq_of_run (hopen : openBss bss = .ok (some (drv, wpaS))) {bufLen : Nat}
    {s : DriverState} (hipv4 : filter.ipv4.PrintedAs ipv4) (hipv6 : filter.ipv6.PrintedAs ipv6)
    (hsnap : filter.snap.PrintedAs snap) (hcmd : s.cmd.bytes = filterCommand ipv4 ipv6 snap)
    {call : TestmodeCall} {ret : Int}
    (hrun : (wpaDriverNl80211DriverCmd h bss bufLen).run s =
      (.ok ret, { s with effects := s.effects ++ [.testmode call] })) :
    call = (filter.readBack h).call := by
  rw [run_filterCommand hopen bufLen hipv4 hipv6 hsnap hcmd] at hrun
  have hcall := List.append_cancel_left (congrArg (fun r => r.2.effects) hrun)
  exact (Effect.testmode.inj (List.cons.inj hcall).1).symm

/-- All words read back unchanged exactly if `long` has 64 bits or they lie below 2^31. -/
theorem readBack_filter_eq_iff (hlong : h.longBits = 32 ∨ h.longBits = 64) (filter : RxFilter) :
    (filter.readBack h).payload = filter.payload ↔
      h.longBits = 64 ∨ ∀ w ∈ filter.words, w.toNat < 2 ^ 31 := by
  have hwords : (filter.readBack h).payload = filter.payload ↔
      ∀ w ∈ filter.words, readBack h w = w := by
    simp [RxFilter.payload, RxFilter.readBack, Mask.readBack, RxFilter.words]
  rw [hwords]
  constructor
  · intro hsame
    by_cases hwide : h.longBits = 64
    · exact .inl hwide
    · refine .inr fun w hw => ?_
      exact ((readBack_eq_iff hlong w).mp (hsame w hw)).resolve_left hwide
  · intro hfits w hw
    exact (readBack_eq_iff hlong w).mpr (hfits.imp_right fun hall => hall w hw)

/-- The command is accepted and hands the driver exactly the six words, if and only if
`long` has 64 bits or the words all lie below 2^31. -/
theorem roundTrip_iff (hopen : openBss bss = .ok (some (drv, wpaS)))
    (hlong : h.longBits = 32 ∨ h.longBits = 64) (bufLen : Nat) {s : DriverState}
    (hipv4 : filter.ipv4.PrintedAs ipv4) (hipv6 : filter.ipv6.PrintedAs ipv6)
    (hsnap : filter.snap.PrintedAs snap) (hcmd : s.cmd.bytes = filterCommand ipv4 ipv6 snap) :
    (∃ call, call.payload = filter.payload ∧
      (wpaDriverNl80211DriverCmd h bss bufLen).run s =
        (.ok (h.testmode call).ret, { s with effects := s.effects ++ [.testmode call] })) ↔
      h.longBits = 64 ∨ ∀ w ∈ filter.words, w.toNat < 2 ^ 31 := by
  rw [← readBack_filter_eq_iff hlong]
  constructor
  · rintro ⟨call, hpayload, hrun⟩
    obtain rfl := call_eq_of_run hopen hipv4 hipv6 hsnap hcmd hrun
    exact hpayload
  · intro hsame
    exact ⟨_, hsame, run_filterCommand hopen bufLen hipv4 hipv6 hsnap hcmd⟩

/-- The command in the comment of the source makes the round trip. -/
theorem roundTrip_ipv4_fe :
    let filter : RxFilter := ⟨⟨0, 0xFE⟩, ⟨0, 0⟩, ⟨0, 0⟩⟩
    let cmd : CString := ⟨filterCommand (ascii "00000000000000FE") (ascii "0000000000000000")
      (ascii "0000000000000000"), by decide⟩
    ∃ call, call.payload = filter.payload ∧
      (wpaDriverNl80211DriverCmd .reference .wlan0 64).run (.start cmd) =
        (.ok (Host.reference.testmode call).ret,
          { DriverState.start cmd with
            effects := (DriverState.start cmd).effects ++ [.testmode call] }) := by
  intro filter cmd
  have hfits : ∀ w ∈ filter.words, w.toNat < 2 ^ 31 := by simp [filter, RxFilter.words]
  exact (roundTrip_iff openBss_wlan0 (.inl rfl) 64 (by decide) (by decide) (by decide) rfl).mpr
    (.inr hfits)

/-- With the top bit of a word set, a 32-bit `long` saturates and the driver gets another
word. -/
theorem filterCommand_top_bit :
    let filter : RxFilter := ⟨⟨0x80000000, 0⟩, ⟨0, 0⟩, ⟨0, 0⟩⟩
    let cmd : CString := ⟨filterCommand (ascii "8000000000000000") (ascii "0000000000000000")
      (ascii "0000000000000000"), by decide⟩
    (filter.readBack .reference).payload = .rxFilter 0x7FFFFFFF 0 0 0 0 0 ∧
      ¬ ∃ call, call.payload = filter.payload ∧
        (wpaDriverNl80211DriverCmd .reference .wlan0 64).run (.start cmd) =
          (.ok (Host.reference.testmode call).ret,
            { DriverState.start cmd with
            effects := (DriverState.start cmd).effects ++ [.testmode call] }) := by
  intro filter cmd
  have hread : (filter.readBack .reference).payload = .rxFilter 0x7FFFFFFF 0 0 0 0 0 := by decide
  have hipv4 : filter.ipv4.PrintedAs (ascii "8000000000000000") := by decide
  have hrest : (⟨0, 0⟩ : Mask).PrintedAs (ascii "0000000000000000") := by decide
  refine ⟨hread, ?_⟩
  rintro ⟨call, hpayload, hrun⟩
  obtain rfl := call_eq_of_run openBss_wlan0 hipv4 hrest hrest rfl hrun
  exact absurd (hpayload.symm.trans hread) (by decide)

/-! ## What is accepted -/

/-- A hexadecimal digit, of either letter case. -/
def isHexDigit (b : UInt8) : Bool := (digitValue b).any fun d => d < 16

/-- Sixteen hexadecimal digits. -/
def HexGroup (text : List UInt8) : Prop := text.length = 16 ∧ ∀ b ∈ text, isHexDigit b = true

instance (text : List UInt8) : Decidable (HexGroup text) :=
  @instDecidableAnd _ _ (inferInstanceAs (Decidable (text.length = 16))) (List.decidableBAll _ _)

/-- Three groups with single blanks between them. -/
def InFilterFormat (rest : List UInt8) : Prop :=
  ∃ ipv4 ipv6 snap, HexGroup ipv4 ∧ HexGroup ipv6 ∧ HexGroup snap ∧
    rest = ipv4 ++ ascii " " ++ ipv6 ++ ascii " " ++ snap

theorem InFilterFormat.length {rest : List UInt8} (h : InFilterFormat rest) : rest.length = 50 := by
  obtain ⟨ipv4, ipv6, snap, ⟨hipv4, -⟩, ⟨hipv6, -⟩, ⟨hsnap, -⟩, rfl⟩ := h
  simp only [List.length_append, length_blank, hipv4, hipv6, hsnap]

/-- Nothing but digits and blanks is in it. -/
theorem InFilterFormat.mem {rest : List UInt8} (h : InFilterFormat rest) {b : UInt8}
    (hb : b ∈ rest) : b ∈ ascii " " ∨ isHexDigit b = true := by
  obtain ⟨ipv4, ipv6, snap, hipv4, hipv6, hsnap, rfl⟩ := h
  simp only [List.mem_append] at hb
  rcases hb with (((hb | hb) | hb) | hb) | hb
  · exact .inr (hipv4.2 b hb)
  · exact .inl hb
  · exact .inr (hipv6.2 b hb)
  · exact .inl hb
  · exact .inr (hsnap.2 b hb)

/-- The name of the command, in any letter case. -/
def StartsWithFilterName (cmd : CString) : Prop :=
  (cmd.bytes.take 21).map tolower = ascii "mtk_rx_packet_filter "

instance (cmd : CString) : Decidable (StartsWithFilterName cmd) :=
  inferInstanceAs (Decidable (_ = _))

theorem dispatch_of_startsWithFilterName (c : Config) {cmd : CString}
    (hname : StartsWithFilterName cmd) : dispatch c cmd = some .mtkRxPacketFilter := by
  refine dispatch_of_passes rfl ?_
  have hfold : ((ascii "mtk_rx_packet_filter ").take 21).map tolower =
      ascii "mtk_rx_packet_filter " := by decide
  exact sameUpTo_of_map_take (hname.trans hfold.symm)

theorem strlen_of_startsWithFilterName {cmd : CString} (hname : StartsWithFilterName cmd) :
    cmd.strlen = 21 + (cmd.bytes.drop 21).length := by
  have htake : (cmd.bytes.take 21).length = 21 := by
    rw [← List.length_map (f := tolower), hname, length_name]
  rw [CString.strlen, ← List.take_append_drop 21 cmd.bytes, List.length_append, htake,
    List.take_append_drop]

/-- The message of the branch. -/
def filterCall (h : Host) (cmd : CString) : TestmodeCall :=
  ⟨testmodeIndex 103, 32, .rxFilter (filterWord h cmd 21) (filterWord h cmd 29)
    (filterWord h cmd 38) (filterWord h cmd 46) (filterWord h cmd 55) (filterWord h cmd 63), 32⟩

/-- A packet filter is sent, and nothing else. -/
def SendsFilter (s : DriverState) (result : Except Fault Int × DriverState) : Prop :=
  ∃ w0 w1 w2 w3 w4 w5, result.2.effects =
    s.effects ++ [.testmode ⟨testmodeIndex 103, 32, .rxFilter w0 w1 w2 w3 w4 w5, 32⟩]

theorem not_sendsFilter_self (s : DriverState) (r : Except Fault Int) : ¬ SendsFilter s (r, s) := by
  rintro ⟨w0, w1, w2, w3, w4, w5, heffects⟩
  simpa using congrArg List.length heffects

/-- A command of the wrong length is rejected. -/
theorem run_of_strlen_ne (hopen : openBss bss = .ok (some (drv, wpaS))) (bufLen : Nat)
    {s : DriverState} (hname : StartsWithFilterName s.cmd) (hlen : s.cmd.strlen ≠ 71) :
    (wpaDriverNl80211DriverCmd h bss bufLen).run s = (.ok (-1), s) := by
  refine driverCmd_of_handled hopen ?_
  rw [runCommand_of_dispatch (dispatch_of_startsWithFilterName h.config hname)]
  show (mtkRxPacketFilterBranch h).run s = _
  rw [mtkRxPacketFilterBranch, Faulting.run_bind_of_ok (Faulting.run_get s), if_pos hlen]
  rfl

/-- Every one of the right length is sent. -/
theorem sendsFilter_of_strlen (hopen : openBss bss = .ok (some (drv, wpaS))) (bufLen : Nat)
    {s : DriverState} (hname : StartsWithFilterName s.cmd) (hlen : s.cmd.strlen = 71) :
    SendsFilter s ((wpaDriverNl80211DriverCmd h bss bufLen).run s) := by
  have hbranch : (mtkRxPacketFilterBranch h).run s =
      (.ok ((h.testmode (filterCall h s.cmd)).ret, true),
        { s with effects := s.effects ++ [.testmode (filterCall h s.cmd)] }) := by
    rw [mtkRxPacketFilterBranch, Faulting.run_bind_of_ok (Faulting.run_get s),
      if_neg (not_not.mpr hlen)]
    rfl
  have hrun : (runCommand h bufLen drv wpaS).run s = _ :=
    (runCommand_of_dispatch (dispatch_of_startsWithFilterName h.config hname)).trans hbranch
  rw [driverCmd_of_handled hopen hrun]
  exact ⟨_, _, _, _, _, _, rfl⟩

/-- The command sends a filter exactly in the format, and is rejected with -1 otherwise, if
and only if it is not of 71 bytes or is in the format. -/
theorem acceptsExactly_iff (hopen : openBss bss = .ok (some (drv, wpaS))) (bufLen : Nat)
    {s : DriverState} (hname : StartsWithFilterName s.cmd) :
    let result := (wpaDriverNl80211DriverCmd h bss bufLen).run s
    ((SendsFilter s result ↔ InFilterFormat (s.cmd.bytes.drop 21)) ∧
      (¬ InFilterFormat (s.cmd.bytes.drop 21) → result = (.ok (-1), s))) ↔
      (s.cmd.strlen ≠ 71 ∨ InFilterFormat (s.cmd.bytes.drop 21)) := by
  intro result
  have hstrlen := strlen_of_startsWithFilterName hname
  by_cases hlen : s.cmd.strlen = 71
  · have hsends : SendsFilter s result := sendsFilter_of_strlen hopen bufLen hname hlen
    constructor
    · rintro ⟨hiff, -⟩
      exact .inr (hiff.mp hsends)
    · rintro (hne | hformat)
      · exact absurd hlen hne
      · exact ⟨iff_of_true hsends hformat, fun hnot => absurd hformat hnot⟩
  · have hrun : result = (.ok (-1), s) := run_of_strlen_ne hopen bufLen hname hlen
    have hformat : ¬ InFilterFormat (s.cmd.bytes.drop 21) := fun hformat => by
      have hrest := hformat.length
      omega
    refine iff_of_true ⟨iff_of_false ?_ hformat, fun _ => hrun⟩ (.inl hlen)
    rw [hrun]
    exact not_sendsFilter_self s _

/-- The command in the comment of the source, in capitals. -/
theorem acceptsExactly_ipv4_fe :
    let cmd : CString :=
      ⟨ascii "MTK_RX_PACKET_FILTER 00000000000000FE 0000000000000000 0000000000000000", by decide⟩
    let result := (wpaDriverNl80211DriverCmd .reference .wlan0 64).run (.start cmd)
    (SendsFilter (.start cmd) result ↔ InFilterFormat (cmd.bytes.drop 21)) ∧
      (¬ InFilterFormat (cmd.bytes.drop 21) → result = (.ok (-1), .start cmd)) := by
  intro cmd result
  refine (acceptsExactly_iff openBss_wlan0 64 (by decide)).mpr (.inr ?_)
  exact ⟨ascii "00000000000000FE", ascii "0000000000000000", ascii "0000000000000000", by decide,
    by decide, by decide, by decide⟩

/-- With the letter O for one of the digits the command is sent all the same. -/
theorem filterCommand_letter_o :
    ¬ ∀ cmd : CString, StartsWithFilterName cmd →
      let result := (wpaDriverNl80211DriverCmd .reference .wlan0 64).run (.start cmd)
      (SendsFilter (.start cmd) result ↔ InFilterFormat (cmd.bytes.drop 21)) ∧
        (¬ InFilterFormat (cmd.bytes.drop 21) → result = (.ok (-1), .start cmd)) := by
  intro h
  let cmd : CString :=
    ⟨ascii "mtk_rx_packet_filter 00000000000000OE 0000000000000000 0000000000000000", by decide⟩
  have hname : StartsWithFilterName cmd := by decide
  have hsends : SendsFilter (.start cmd) _ :=
    sendsFilter_of_strlen (h := .reference) openBss_wlan0 64 hname (by decide)
  have hformat := (h cmd hname).1.mp hsends
  have hletter : (79 : UInt8) ∈ cmd.bytes.drop 21 := by decide
  exact absurd (hformat.mem hletter) (by decide)

end MediatekCommon.Wpa
