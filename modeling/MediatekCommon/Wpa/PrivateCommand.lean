/-
  Wpa/PrivateCommand.lean --- the two ways a command reaches the driver as text.

  A command no branch knows goes out in a test mode message of 100 bytes, whose
  length is counted from the whole command although only 92 bytes of it are copied.
  Then, and for the branches that leave `handled` at 0, the private ioctl gets a
  buffer of 512 bytes.  A command of 512 bytes or more fills it to the last byte and
  leaves no room for the NUL; one of 2^31 bytes or more does not even clamp.
-/
import MediatekCommon.Wpa.Branches

set_option autoImplicit false

namespace MediatekCommon.Wpa

open MediatekCommon.Foundation
open MediatekCommon.Foundation.Faulting

/-! ## The requests of a text command -/

theorem effects_issuePrivIoctl (h : Host) (bufLen : Nat) (call : PrivIoctl) (s : DriverState) :
    ((issuePrivIoctl h bufLen call).run s).2.effects = s.effects ++ [.privIoctl call] := by
  unfold issuePrivIoctl
  rw [run_bind_of_ok (run_emit _ s)]
  split <;> rfl

/-- The private ioctl is the only request behind the chain of branches. -/
theorem effects_privateCommand (h : Host) (bss : Bss) (bufLen : Nat) (s : DriverState) :
    ((privateCommand h bss bufLen).run s).2.effects =
      if privCmdLen s.cmd + 1 < 0 then s.effects
      else s.effects ++ [.privIoctl (privRequest bss.ifname s.cmd (privCmdLen s.cmd))] := by
  unfold privateCommand
  rw [run_bind_of_ok (run_get s), run_bind_of_ok (run_setBuf _ s)]
  split
  · rfl
  · exact effects_issuePrivIoctl _ _ _ _

/-! ## The transparent command -/

/-- The data lies in the buffer of 100 bytes, and behind the header of 8 bytes it is the
command. -/
def CarriesCommand (cmd : CString) (call : TestmodeCall) : Prop :=
  ∃ bytes, call.payload = .text bytes ∧ call.dataLen ≤ 100 ∧
    bytes.take (call.dataLen - 8) = cmd.bytes

theorem carriesCommand_transparentCall_iff (cmd : CString) :
    CarriesCommand cmd (transparentCall cmd) ↔ cmd.strlen ≤ 92 := by
  have hlen : (transparentCall cmd).dataLen = (8 + cmd.strlen) % 2 ^ 32 := UInt32.toNat_ofNat'
  constructor
  · rintro ⟨bytes, hbytes, -, htake⟩
    obtain rfl : strncpy cmd.bytes (100 - 8) = bytes := TestmodePayload.text.inj hbytes
    have hshort := congrArg List.length htake
    rw [List.length_take, length_strncpy] at hshort
    have hcmd : cmd.bytes.length = cmd.strlen := rfl
    omega
  · intro hfits
    rw [Nat.mod_eq_of_lt (by omega)] at hlen
    refine ⟨_, rfl, by omega, ?_⟩
    rw [hlen, Nat.add_sub_cancel_left]
    exact take_strncpy hfits

variable {h : Host} {bss : Bss} {drv : Drv} {wpaS : Option WpaSupplicant}

/-- The first request of a transparent command is its message. -/
theorem effects_transparent (hopen : openBss bss = .ok (some (drv, wpaS))) (bufLen : Nat)
    {s : DriverState} (hlast : dispatch h.config s.cmd = none) :
    ∃ rest, ((wpaDriverNl80211DriverCmd h bss bufLen).run s).2.effects =
      s.effects ++ .testmode (transparentCall s.cmd) :: rest := by
  have hrun : (runCommand h bufLen drv wpaS).run s = (.ok (_, false), _) :=
    runCommand_of_not_dispatch hlast
  rw [driverCmd_of_not_handled hopen hrun, effects_privateCommand]
  split
  · exact ⟨[], rfl⟩
  · exact ⟨_, List.append_assoc _ _ _⟩

/-- The message carries the command exactly for up to 92 bytes. -/
theorem carriesCommand_iff (hopen : openBss bss = .ok (some (drv, wpaS))) (bufLen : Nat)
    {s : DriverState} (hlast : dispatch h.config s.cmd = none) :
    (∃ call rest, ((wpaDriverNl80211DriverCmd h bss bufLen).run s).2.effects =
        s.effects ++ .testmode call :: rest ∧ CarriesCommand s.cmd call) ↔
      s.cmd.strlen ≤ 92 := by
  rw [← carriesCommand_transparentCall_iff]
  obtain ⟨rest, heffects⟩ := effects_transparent hopen bufLen hlast
  constructor
  · rintro ⟨call, rest', heq, hcarries⟩
    have hsame := List.append_cancel_left (heffects.symm.trans heq)
    obtain ⟨hcall, -⟩ := List.cons.inj hsame
    obtain rfl := Effect.testmode.inj hcall
    exact hcarries
  · intro hcarries
    exact ⟨_, rest, heffects, hcarries⟩

/-- No branch is for commands that start with a `W` or an `a`. -/
theorem rejects_of_mem_chain {b : UInt8} (hb : b = 87 ∨ b = 97) :
    ∀ branch ∈ Branch.chain, branch.guard.rejects b = true := by
  rcases hb with rfl | rfl <;> decide +kernel

theorem dispatch_wls_batching :
    dispatch .full ⟨ascii "WLS_BATCHING GET", by decide⟩ = none :=
  dispatch_of_rejects .full rfl (rejects_of_mem_chain (.inl rfl))

/-- A short command is carried exactly. -/
theorem carriesCommand_wls_batching :
    let cmd : CString := ⟨ascii "WLS_BATCHING GET", by decide⟩
    ∃ call rest, ((wpaDriverNl80211DriverCmd .reference .wlan0 64).run (.start cmd)).2.effects =
      (DriverState.start cmd).effects ++ .testmode call :: rest ∧ CarriesCommand cmd call := by
  intro cmd
  have hlen : cmd.strlen ≤ 92 := by decide
  have hlast : dispatch Host.reference.config cmd = none := dispatch_wls_batching
  exact (carriesCommand_iff openBss_wlan0 64 (s := .start cmd) hlast).mpr hlen

/-- A command of 93 bytes goes out with a length of 101, past the end of the buffer. -/
theorem transparentCommand_93_bytes :
    let cmd : CString := .fill 97 93 (by decide)
    (transparentCall cmd).dataLen = 101 ∧
      ¬ ∃ call rest,
        ((wpaDriverNl80211DriverCmd .reference .wlan0 64).run (.start cmd)).2.effects =
          (DriverState.start cmd).effects ++ .testmode call :: rest ∧ CarriesCommand cmd call := by
  intro cmd
  refine ⟨by decide, ?_⟩
  rintro ⟨call, rest', heq, hcarries⟩
  have hlast : dispatch Host.reference.config cmd = none :=
    dispatch_of_rejects _ List.replicate_succ (rejects_of_mem_chain (.inr rfl))
  obtain ⟨rest, heffects⟩ :=
    effects_transparent openBss_wlan0 64 (h := .reference) (s := .start cmd) hlast
  obtain ⟨hcall, -⟩ := List.cons.inj (heffects.symm.trans heq)
  obtain rfl := Effect.testmode.inj hcall
  have hshort : cmd.strlen ≤ 92 := (carriesCommand_transparentCall_iff cmd).mp hcarries
  exact absurd hshort (by decide)

/-! ## The private ioctl -/

/-- The request holds the command: terminated, its text a beginning of the command, and
all of it if it is short enough, with lengths that say so. -/
structure PrivIoctl.HoldsCommand (call : PrivIoctl) (cmd : CString) : Prop where
  length : call.buf.length = privCmdSize
  terminated : 0 ∈ call.buf
  text : textOf call.buf <+: cmd.bytes
  whole : cmd.strlen < privCmdSize → textOf call.buf = cmd.bytes
  usedLen : call.usedLen = (textOf call.buf).length + 1
  totalLen : call.usedLen ≤ call.totalLen

theorem privCmdLen_of_short {cmd : CString} (hshort : cmd.strlen < privCmdSize) :
    privCmdLen cmd = cmd.strlen := by
  unfold privCmdSize at hshort
  unfold privCmdLen privCmdSize
  have hbmod : (cmd.strlen : Int).bmod (2 ^ 32) = cmd.strlen := by
    rw [Int.bmod_eq_of_le] <;> omega
  simp only [hbmod]
  rw [if_neg (by omega)]

theorem privCmdLen_lt (cmd : CString) : privCmdLen cmd < privCmdSize := by
  unfold privCmdLen privCmdSize
  dsimp only
  split <;> omega

/-- A command that is shorter than the buffer is held. -/
theorem holdsCommand_of_short (ifname : CString) {cmd : CString}
    (hshort : cmd.strlen < privCmdSize) :
    (privRequest ifname cmd (privCmdLen cmd)).HoldsCommand cmd := by
  have hlen := privCmdLen_of_short hshort
  have hcopied : (cmd.bytes ++ [0]).take (privCmdLen cmd + 1).toNat = cmd.bytes ++ [0] := by
    rw [hlen]
    exact List.take_of_length_le (by simp [CString.strlen])
  have hbuf : (privRequest ifname cmd (privCmdLen cmd)).buf =
      cmd.bytes ++ 0 :: List.replicate (privCmdSize - (cmd.strlen + 1)) 0 := by
    simp only [privRequest, hcopied]
    simp [CString.strlen]
  have htext : textOf (privRequest ifname cmd (privCmdLen cmd)).buf = cmd.bytes := by
    rw [hbuf]
    exact textOf_append_nul cmd.noNul
  have hstrlen : cmd.bytes.length = cmd.strlen := rfl
  refine ⟨?_, ?_, ?_, fun _ => htext, ?_, ?_⟩
  · rw [hbuf, List.length_append, List.length_cons, List.length_replicate]
    omega
  · rw [hbuf]
    exact List.mem_append_right _ List.mem_cons_self
  · exact ⟨[], (List.append_nil _).trans htext⟩
  · rw [htext, hstrlen, ← hlen]
    rfl
  · show privCmdLen cmd + 1 ≤ (privCmdSize : Int)
    have := privCmdLen_lt cmd
    omega

/-- A longer one leaves no NUL in its place: the bytes copied are all text. -/
theorem not_holdsCommand_of_long (ifname : CString) {cmd : CString}
    (hlong : privCmdSize ≤ cmd.strlen) (hcopies : 0 ≤ privCmdLen cmd + 1) :
    ¬ (privRequest ifname cmd (privCmdLen cmd)).HoldsCommand cmd := by
  intro hholds
  obtain ⟨n, hn⟩ : ∃ n : Nat, privCmdLen cmd + 1 = n := Int.eq_ofNat_of_zero_le hcopies
  have hbound := privCmdLen_lt cmd
  have hstrlen : cmd.bytes.length = cmd.strlen := rfl
  have hnul : 0 ∉ cmd.bytes.take n := fun hmem => cmd.noNul (List.mem_of_mem_take hmem)
  have hbuf : (privRequest ifname cmd (privCmdLen cmd)).buf =
      cmd.bytes.take n ++ List.replicate (privCmdSize - n) 0 := by
    simp only [privRequest, hn, Int.toNat_natCast]
    rw [List.take_append_of_le_length (by omega), List.length_take, Nat.min_eq_left (by omega)]
  have hused : (n : Int) = (textOf (privRequest ifname cmd (privCmdLen cmd)).buf).length + 1 :=
    hn.symm.trans hholds.usedLen
  have hterminated := hholds.terminated
  rw [hbuf] at hused hterminated
  cases hrest : privCmdSize - n with
  | zero =>
      rw [hrest, List.replicate_zero, List.append_nil] at hterminated
      exact hnul hterminated
  | succ rest =>
      rw [hrest, List.replicate_succ, textOf_append_nul hnul, List.length_take] at hused
      omega

/-- MIRACAST 2 with a frequency, whose command is rebuilt without it. -/
def RebuildsMiracast (h : Host) (cmd : CString) : Prop :=
  dispatch h.config cmd = some .miracast ∧ miracastValue h cmd = 2 ∧
    (strstr (ascii " freq=") cmd.bytes).isSome

/-- The branches keep the command, whether they fault or not. -/
def SameCommand (s : DriverState) (_ : Option Fault) (s' : DriverState) : Prop := s'.cmd = s.cmd

instance : Harmless SameCommand where
  refl _ := rfl
  trans _ _ _ _ hfirst hsecond := hsecond.trans hfirst
  emit _ _ := rfl
  setBuf _ _ := rfl
  setP2p _ _ := rfl
  nullP2p _ := rfl

theorem cmd_of_keeps {α : Type} {x : DriverM α} (hx : Keeps SameCommand x) {s s' : DriverState}
    {result : Except Fault α} (hrun : x.run s = (result, s')) : s'.cmd = s.cmd := by
  have hsame := hx s
  rw [hrun] at hsame
  exact hsame

theorem cmd_miracastBranch {s s' : DriverState} {r : Int × Bool}
    (hrun : (miracastBranch h wpaS).run s = (.ok r, s')) :
    s'.cmd =
      if miracastValue h s.cmd = 2 ∧ (strstr (ascii " freq=") s.cmd.bytes).isSome then miracast2
      else s.cmd := by
  have hfollow : ∀ positive : Int → Bool, Keeps SameCommand (do
      followStation h wpaS positive
      return (-1, false)) := fun positive =>
    (keeps_followStation (fun _ => rfl) h wpaS positive).bind fun _ => keeps_pure _
  unfold miracastBranch at hrun
  rw [run_bind_of_ok (run_get s)] at hrun
  dsimp only at hrun
  split at hrun
  · rename_i hsmall
    have hnot : miracastValue h s.cmd ≠ 2 := by
      rcases hsmall with hvalue | hvalue <;> rw [hvalue] <;> decide
    rw [if_neg fun hboth => hnot hboth.1]
    exact cmd_of_keeps (hfollow _) hrun
  · split at hrun
    · rename_i hvalue
      cases hpos : strstr (ascii " freq=") s.cmd.bytes with
      | none =>
          rw [hpos] at hrun
          rw [if_neg (by simp)]
          exact cmd_of_keeps (hfollow _) hrun
      | some pos =>
          rw [hpos] at hrun
          rw [if_pos ⟨hvalue, rfl⟩]
          cases wpaS with
          | none => simp [readWpaS, run_bind] at hrun
          | some wpaS =>
              simp only [readWpaS, configScc, run_bind, run_pure, run_modify, Prod.mk.injEq] at hrun
              rw [← hrun.2]
    · rename_i hvalue
      rw [if_neg fun hboth => hvalue hboth.1]
      exact cmd_of_keeps (keeps_pure _) hrun

/-- Behind the chain of branches stands the command, or the rebuilt MIRACAST 2. -/
theorem cmd_runCommand {bufLen : Nat} {s s' : DriverState} {r : Int × Bool}
    (hrun : (runCommand h bufLen drv wpaS).run s = (.ok r, s')) :
    (RebuildsMiracast h s.cmd ∧ s'.cmd = miracast2) ∨
      (¬ RebuildsMiracast h s.cmd ∧ s'.cmd = s.cmd) := by
  unfold RebuildsMiracast
  cases hdispatch : dispatch h.config s.cmd with
  | none =>
      rw [runCommand_of_not_dispatch hdispatch] at hrun
      exact .inr ⟨by simp, cmd_of_keeps (keeps_transparentCommand h) hrun⟩
  | some b =>
      rw [runCommand_of_dispatch hdispatch] at hrun
      by_cases hb : b = .miracast
      · subst hb
        have hcmd := cmd_miracastBranch hrun
        split at hcmd
        · rename_i hrebuilds
          exact .inl ⟨⟨rfl, hrebuilds⟩, hcmd⟩
        · rename_i hkeeps
          exact .inr ⟨fun hrebuilds => hkeeps hrebuilds.2, hcmd⟩
      · refine .inr ⟨by simp [hb], ?_⟩
        exact cmd_of_keeps (keeps_runBranch (fun _ => rfl) h bufLen drv wpaS hb) hrun

/-- The request holds the text that stands at `cmd` when the private ioctl is reached
exactly if that is shorter than 512 bytes. -/
theorem holdsCommand_iff_of_reach (hopen : openBss bss = .ok (some (drv, wpaS))) {bufLen : Nat}
    {s s' : DriverState} {ret : Int}
    (hreach : (runCommand h bufLen drv wpaS).run s = (.ok (ret, false), s')) :
    (∃ call, ((wpaDriverNl80211DriverCmd h bss bufLen).run s).2.effects =
        s'.effects ++ [.privIoctl call] ∧ call.HoldsCommand s'.cmd) ↔
      s'.cmd.strlen < privCmdSize := by
  rw [driverCmd_of_not_handled hopen hreach, effects_privateCommand]
  constructor
  · rintro ⟨call, heffects, hholds⟩
    split at heffects
    · simp at heffects
    · rename_i hcopies
      have hcall := List.append_cancel_left heffects
      obtain rfl := Effect.privIoctl.inj (List.cons.inj hcall).1
      by_contra hlong
      exact not_holdsCommand_of_long bss.ifname (Nat.le_of_not_lt hlong)
        (Int.not_lt.mp hcopies) hholds
  · intro hshort
    have hlen := privCmdLen_of_short hshort
    rw [if_neg (by omega)]
    exact ⟨_, rfl, holdsCommand_of_short bss.ifname hshort⟩

/-- Whenever a command reaches the private ioctl, the request holds the text at `cmd`
exactly if the command is shorter than 512 bytes or is rebuilt. -/
theorem holdsCommand_iff (hopen : openBss bss = .ok (some (drv, wpaS))) {bufLen : Nat}
    {s s' : DriverState} {ret : Int}
    (hreach : (runCommand h bufLen drv wpaS).run s = (.ok (ret, false), s')) :
    (∃ call, ((wpaDriverNl80211DriverCmd h bss bufLen).run s).2.effects =
        s'.effects ++ [.privIoctl call] ∧ call.HoldsCommand s'.cmd) ↔
      s.cmd.strlen < privCmdSize ∨ RebuildsMiracast h s.cmd := by
  rw [holdsCommand_iff_of_reach hopen hreach]
  rcases cmd_runCommand hreach with ⟨hrebuilds, hcmd⟩ | ⟨hkeeps, hcmd⟩
  · rw [hcmd]
    exact iff_of_true (by decide) (.inr hrebuilds)
  · rw [hcmd, or_iff_left hkeeps]

/-- A short command is held by the request. -/
theorem holdsCommand_wls_batching :
    let cmd : CString := ⟨ascii "WLS_BATCHING GET", by decide⟩
    ∃ s' : DriverState, ∃ call,
      ((wpaDriverNl80211DriverCmd .reference .wlan0 64).run (.start cmd)).2.effects =
        s'.effects ++ [.privIoctl call] ∧ call.HoldsCommand s'.cmd := by
  intro cmd
  have hreach : (runCommand .reference 64 (.idle (.supplicant .idle)) (some .idle)).run
      (.start cmd) = (.ok (0, false), _) := runCommand_of_not_dispatch dispatch_wls_batching
  exact ⟨_, (holdsCommand_iff openBss_wlan0 hreach).mpr (.inl (by decide))⟩

/-- A command of 512 bytes reaches the ioctl, which gets a buffer without a NUL. -/
theorem privRequest_512_bytes :
    let cmd : CString := .fill 97 512 (by decide)
    ∃ s', (runCommand .reference 64 (.idle (.supplicant .idle)) (some .idle)).run (.start cmd) =
        (.ok (0, false), s') ∧ s'.cmd = cmd ∧
      ¬ ∃ call, ((wpaDriverNl80211DriverCmd .reference .wlan0 64).run (.start cmd)).2.effects =
        s'.effects ++ [.privIoctl call] ∧ call.HoldsCommand s'.cmd := by
  intro cmd
  have hlast : dispatch Host.reference.config cmd = none :=
    dispatch_of_rejects _ List.replicate_succ (rejects_of_mem_chain (.inr rfl))
  have hreach : (runCommand .reference 64 (.idle (.supplicant .idle)) (some .idle)).run
      (.start cmd) = (.ok (0, false), _) := runCommand_of_not_dispatch hlast
  refine ⟨_, hreach, rfl, ?_⟩
  rw [holdsCommand_iff_of_reach openBss_wlan0 hreach]
  have hstrlen : cmd.strlen = 512 := CString.strlen_fill 97 512 _
  exact fun hshort => absurd (hstrlen ▸ hshort : 512 < privCmdSize) (by decide)

end MediatekCommon.Wpa
