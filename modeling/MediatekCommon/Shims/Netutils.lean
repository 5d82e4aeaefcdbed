/-
  Shims/Netutils.lean --- `netutils.c`: the network helpers of the RIL.

  Each helper opens a descriptor, makes its request and closes the descriptor again.
  Three of them do so on every path.  `ifc_set_throttle` hands its socket over to a
  `FILE` and closes only that: a connected socket is left open when `fdopen` fails, and
  when its descriptor is 0, which is taken for a failure
  (`helpers_keep_descriptors_iff`).  Over many calls these sockets pile up: nothing else
  is left open, and none of them is closed again (`descriptors_run`).

  The memory of the paths and the log lines are left out.
-/
import Mathlib.Data.Finset.Card
import MediatekCommon.Foundation.CText
import MediatekCommon.Foundation.Posix

set_option autoImplicit false

namespace MediatekCommon.Shims

open MediatekCommon.Foundation
open MediatekCommon.Foundation.Posix

/-! ## `netutils.c` -/

/-- `SIOCDEVPRIVATE` -/
def siocdevprivate : Nat := 0x89F0

/-- `SIOCSTXQSTATE` -/
def siocstxqstate : Nat := siocdevprivate + 0

/-- `SIOCSCCMNICFG` -/
def siocsccmnicfg : Nat := siocdevprivate + 1

/-- `ipv6_proc_path` -/
def ipv6ProcPath : List UInt8 := ascii "/proc/sys/net/ipv6/conf"

/-- `netd_addr.sun_path` -/
def netdPath : List UInt8 := ascii "/dev/socket/netd"

/-- `EOF` -/
def eof : Int := -1

/-- The `ifr` of a helper: the name cut to `IFNAMSIZ` bytes with the NUL, and a number. -/
def ifreq (ifname : CString) (value : Int) : Ifreq where
  ifrName := (strncpy ifname.bytes 16).set 15 0
  ifruIvalue := value

section Helpers

variable (k : Kernel)

/-- `ifc_netd_sock_init()`. -/
def ifcNetdSockInit : Action Int := do
  let ifcNetdSock ← socket k .unixStream
  if ifcNetdSock < 0 then return -1
  else
    -- setsockopt
    call fun _ => ()
    let connected ← retryConnect k ifcNetdSock netdPath
    if connected ≠ 0 then
      close ifcNetdSock
      return -1
    else return ifcNetdSock

/-- `exit:` in `ifc_set_throttle`. -/
def throttleExit (fnetd : Option File) (ret : Int) : Action Int := do
  match fnetd with
  | some file =>
      fclose file
      return ret
  | none => return ret

/-- The request that `ifc_set_throttle` prints. -/
def throttleRequest (ifname : CString) (rxKbps txKbps : Int) : List UInt8 :=
  ascii "1 interface setthrottle " ++ ifname.bytes ++ ascii " " ++ ascii (toString rxKbps) ++
    ascii " " ++ ascii (toString txKbps)

/-- `ifc_set_throttle` once `fdopen` has returned a `FILE`. -/
def sendThrottle (file : File) (ifname : CString) (rxKbps txKbps : Int) : Action Int := do
  let printed ← fprintf k file (throttleRequest ifname rxKbps txKbps)
  if printed < 0 then throttleExit (some file) (-1)
  else
    let put ← fputc k file 0
    if put = eof then throttleExit (some file) (-1)
    else
      let flushed ← fflush k file
      if flushed ≠ 0 then throttleExit (some file) (-1)
      else
        -- fread
        call fun _ => ()
        throttleExit (some file) 0

/-- `ifc_set_throttle(ifname, rxKbps, txKbps)`. -/
def ifcSetThrottle (ifname : CString) (rxKbps txKbps : Int) : Action Int := do
  let netdSock ← ifcNetdSockInit k
  if netdSock ≤ 0 then throttleExit none (-1)
  else
    let fnetd ← fdopen k netdSock (ascii "r+")
    match fnetd with
    | none => throttleExit none (-1)
    | some file => sendThrottle k file ifname rxKbps txKbps

/-- A request on a control socket; `ret` makes of its result what is returned. -/
def ctlRequest (request : Nat) (ifr : Ifreq) (ret : Int → Int) : Action Int := do
  let ctlSock ← socket k .inetDgram
  if ctlSock < 0 then return -1
  else
    let result ← ioctl k ctlSock request ifr
    close ctlSock
    return ret result

/-- `ifc_set_txq_state(ifname, state)`. -/
def ifcSetTxqState (ifname : CString) (state : Int) : Action Int :=
  ctlRequest k siocstxqstate (ifreq ifname state) fun result => result

/-- `ifc_ccmni_md_cfg(ifname, md_id)`. -/
def ifcCcmniMdCfg (ifname : CString) (mdId : Int) : Action Int :=
  ctlRequest k siocsccmnicfg (ifreq ifname mdId) fun result => if result < 0 then -1 else 0

/-- Write a text to `ipv6_proc_path/ifname/leaf`. -/
def writeIPv6Conf (ifname : CString) (leaf : List UInt8) (value : List UInt8) : Action Int := do
  let fd ← openWronly k (ipv6ProcPath ++ ascii "/" ++ ifname.bytes ++ ascii "/" ++ leaf)
  if fd < 0 then return -1
  else
    let written ← write k fd value
    if written ≠ value.length then
      close fd
      return -1
    else
      close fd
      return 0

/-- `setEnableIPv6(ifname, on)`. -/
def setEnableIPv6 (ifname : CString) (on : Int) : Action Int :=
  writeIPv6Conf k ifname (ascii "disable_ipv6") (ascii (if on ≠ 0 then "0" else "1"))

/-- `setIPv6DefaultRoute(ifname, on)`. -/
def setIPv6DefaultRoute (ifname : CString) (on : Int) : Action Int :=
  writeIPv6Conf k ifname (ascii "accept_ra_defrtr") (ascii (if on ≠ 0 then "1" else "0"))

/-- `ifc_ipv6_trigger_rs(ifname)`. -/
def ifcIpv6TriggerRs (ifname : CString) : Action Int := do
  let _ ← setEnableIPv6 k ifname 0
  let _ ← setEnableIPv6 k ifname 1
  let _ ← setIPv6DefaultRoute k ifname 1
  return 0

end Helpers

/-! ## The helpers that close what they open -/

section Kept

variable {k : Kernel}

theorem keepsHeld_ctlRequest (request : Nat) (ifr : Ifreq) (ret : Int → Int) :
    KeepsHeld Process.fds (ctlRequest k request ifr ret) := by
  refine keepsHeld_of_test (acquires_openCall _) (keepsHeld_pure _) fun ctlSock => ?_
  refine (keepsHeld_call _).bind_givesUp fun result => ?_
  exact (givesUp_close ctlSock).bind fun _ => keepsHeld_pure (ret result)

/-- Both paths behind the write close the file. -/
theorem keepsHeld_writeIPv6Conf (ifname : CString) (leaf value : List UInt8) :
    KeepsHeld Process.fds (writeIPv6Conf k ifname leaf value) := by
  refine keepsHeld_of_test (acquires_openCall _) (keepsHeld_pure _) fun fd => ?_
  refine (keepsHeld_call _).bind_givesUp fun written => ?_
  refine GivesUp.ite ?_ ?_
  · exact (givesUp_close fd).bind fun _ => keepsHeld_pure _
  · exact (givesUp_close fd).bind fun _ => keepsHeld_pure _

theorem keepsHeld_ifcIpv6TriggerRs (ifname : CString) :
    KeepsHeld Process.fds (ifcIpv6TriggerRs k ifname) := by
  refine (keepsHeld_writeIPv6Conf ifname _ _).bind fun _ => ?_
  refine (keepsHeld_writeIPv6Conf ifname _ _).bind fun _ => ?_
  exact (keepsHeld_writeIPv6Conf ifname _ _).bind fun _ => keepsHeld_pure 0

/-! ## The socket of `netd` -/

theorem givesUp_throttleExit (file : File) (ret : Int) :
    GivesUp Process.fds file.fd.toNat (throttleExit (some file) ret) :=
  (givesUp_close file.fd).bind fun _ => keepsHeld_pure ret

/-- With a `FILE` every path closes its descriptor. -/
theorem givesUp_sendThrottle (file : File) (ifname : CString) (rxKbps txKbps : Int) :
    GivesUp Process.fds file.fd.toNat (sendThrottle k file ifname rxKbps txKbps) := by
  refine (keepsHeld_call _).bind_givesUp fun printed => ?_
  refine GivesUp.ite (givesUp_throttleExit file _) ?_
  refine (keepsHeld_call _).bind_givesUp fun put => ?_
  refine GivesUp.ite (givesUp_throttleExit file _) ?_
  refine (keepsHeld_call _).bind_givesUp fun flushed => ?_
  refine GivesUp.ite (givesUp_throttleExit file _) ?_
  exact (keepsHeld_call _).bind_givesUp fun _ => givesUp_throttleExit file 0

end Kept

/-- The process once the socket has this descriptor and so many calls have been made. -/
def withSocket (p : Process) (fd calls : Nat) : Process := ⟨insert fd p.fds, p.calls + calls⟩

/-- A socket is opened with this descriptor, and connected to `netd`. -/
def NetdConnects (k : Kernel) (p : Process) (fd : { fd : Nat // fd ∉ p.fds }) : Prop :=
  k.socket p .unixStream = some fd ∧
    tempFailureRetry (k.connect (withSocket p fd 2) (fd : Nat) netdPath) = 0

/-- A socket connected to `netd` has another descriptor than 0, and `fdopen` makes a `FILE`
of it. -/
def NetdFileOpens (k : Kernel) (p : Process) : Prop :=
  ∀ fd, NetdConnects k p fd →
    (fd : Nat) ≠ 0 ∧ k.fdopen (withSocket p fd 3) (fd : Nat) (ascii "r+") = true

/-- The call returns with exactly the descriptors open that were open before. -/
def ReturnsWithFds (x : Action Int) (p : Process) : Prop :=
  ∃ ret p', x.run p = (.ok ret, p') ∧ p'.fds = p.fds

theorem returnsWithFds_iff {x : Action Int} {p : Process} :
    ReturnsWithFds x p ↔ (x.run p).2.fds = p.fds := by
  obtain ⟨ret, p', hrun⟩ := x.exists_run p
  rw [hrun]
  constructor
  · rintro ⟨_, _, hrun', hfds⟩
    cases hrun.symm.trans hrun'
    exact hfds
  · intro hfds
    exact ⟨ret, p', hrun, hfds⟩

/-- A socket that is not connected is closed; one that is connected is returned. -/
theorem run_ifcNetdSockInit_cases (k : Kernel) (p : Process) :
    ((∀ fd, ¬ NetdConnects k p fd) ∧
        ∃ p', (ifcNetdSockInit k).run p = (.ok (-1), p') ∧ p'.fds = p.fds) ∨
      ∃ fd, NetdConnects k p fd ∧
        (ifcNetdSockInit k).run p = (.ok ((fd : Nat) : Int), withSocket p fd 3) := by
  cases hsocket : k.socket p .unixStream with
  | none =>
      refine .inl ⟨fun fd h => ?_, _, Faulting.run_bind_of_ok (run_openCall_of_none hsocket), rfl⟩
      rw [NetdConnects, hsocket] at h
      cases h.1
  | some fd =>
      have hopened : ¬ ((fd : Nat) : Int) < 0 := by omega
      have hrun : (ifcNetdSockInit k).run p =
          (if tempFailureRetry (k.connect (withSocket p fd 2) (fd : Nat) netdPath) ≠ 0 then do
              close (fd : Nat)
              return -1
            else return ((fd : Nat) : Int) : Action Int).run (withSocket p fd 3) := by
        rw [ifcNetdSockInit, socket, Faulting.run_bind_of_ok (run_openCall_of_some hsocket),
          if_neg hopened]
        rfl
      by_cases hconnect : tempFailureRetry (k.connect (withSocket p fd 2) (fd : Nat) netdPath) = 0
      · refine .inr ⟨fd, ⟨hsocket, hconnect⟩, ?_⟩
        rw [hrun, if_neg (not_not.mpr hconnect)]
        rfl
      · refine .inl ⟨fun fd' h => ?_, ?_⟩
        · obtain rfl : fd = fd' := Option.some.inj (hsocket.symm.trans h.1)
          exact hconnect h.2
        · rw [if_pos hconnect] at hrun
          refine ⟨_, hrun, ?_⟩
          exact Finset.erase_insert fd.property

section Throttle

variable {k : Kernel} {p : Process} (ifname : CString) (rxKbps txKbps : Int)

/-- Without a connection nothing is left open. -/
theorem fds_ifcSetThrottle_of_not_connects (h : ∀ fd, ¬ NetdConnects k p fd) :
    ((ifcSetThrottle k ifname rxKbps txKbps).run p).2.fds = p.fds := by
  rcases run_ifcNetdSockInit_cases k p with ⟨-, p', hrun, hfds⟩ | ⟨fd, hconnects, -⟩
  · rw [ifcSetThrottle, Faulting.run_bind_of_ok hrun]
    exact hfds
  · exact absurd hconnects (h fd)

/-- A connected socket is closed where it has become a `FILE`, and left open otherwise. -/
theorem fds_ifcSetThrottle_of_connects {fd : { fd : Nat // fd ∉ p.fds }}
    (h : NetdConnects k p fd) :
    ((ifcSetThrottle k ifname rxKbps txKbps).run p).2.fds =
      if (fd : Nat) ≠ 0 ∧ k.fdopen (withSocket p fd 3) (fd : Nat) (ascii "r+") = true then p.fds
      else insert (fd : Nat) p.fds := by
  rcases run_ifcNetdSockInit_cases k p with ⟨hnone, -⟩ | ⟨fd', hconnects, hrun⟩
  · exact absurd h (hnone fd)
  · obtain rfl : fd = fd' := Option.some.inj (h.1.symm.trans hconnects.1)
    rw [ifcSetThrottle, Faulting.run_bind_of_ok hrun]
    by_cases hzero : (fd : Nat) = 0
    · rw [if_pos (by omega), if_neg fun hfile => hfile.1 hzero]
      rfl
    · rw [if_neg (by omega), fdopen, Faulting.run_bind_of_ok (run_call _ _)]
      by_cases hfile : k.fdopen (withSocket p fd 3) (fd : Nat) (ascii "r+") = true
      · rw [if_pos hfile, if_pos ⟨hzero, hfile⟩]
        exact (givesUp_sendThrottle ⟨(fd : Nat)⟩ ifname rxKbps txKbps).held_eq fd.property rfl
      · rw [if_neg hfile, if_neg fun hboth => hfile hboth.2]
        rfl

theorem returnsWithFds_ifcSetThrottle_iff :
    ReturnsWithFds (ifcSetThrottle k ifname rxKbps txKbps) p ↔ NetdFileOpens k p := by
  rw [returnsWithFds_iff]
  by_cases hconnects : ∃ fd, NetdConnects k p fd
  · obtain ⟨fd, hfd⟩ := hconnects
    have hopens : NetdFileOpens k p ↔
        (fd : Nat) ≠ 0 ∧ k.fdopen (withSocket p fd 3) (fd : Nat) (ascii "r+") = true := by
      refine ⟨fun h => h fd hfd, fun h fd' hfd' => ?_⟩
      obtain rfl : fd = fd' := Option.some.inj (hfd.1.symm.trans hfd'.1)
      exact h
    rw [fds_ifcSetThrottle_of_connects ifname rxKbps txKbps hfd, hopens]
    split
    · rename_i hfile
      exact iff_of_true rfl hfile
    · rename_i hfile
      exact iff_of_false (fun heq => fd.property (Finset.insert_eq_self.mp heq)) hfile
  · rw [not_exists] at hconnects
    exact iff_of_true (fds_ifcSetThrottle_of_not_connects ifname rxKbps txKbps hconnects)
      fun fd hfd => absurd hfd (hconnects fd)

end Throttle

/-! ## All helpers -/

/-- Each helper returns with the descriptors that were open before, exactly if a socket
connected to `netd` has another descriptor than 0 and becomes a `FILE`. -/
theorem helpers_keep_descriptors_iff (k : Kernel) (p : Process) (ifname : CString)
    (rxKbps txKbps state mdId : Int) :
    (ReturnsWithFds (ifcSetThrottle k ifname rxKbps txKbps) p ∧
      ReturnsWithFds (ifcSetTxqState k ifname state) p ∧
      ReturnsWithFds (ifcCcmniMdCfg k ifname mdId) p ∧
      ReturnsWithFds (ifcIpv6TriggerRs k ifname) p) ↔ NetdFileOpens k p := by
  rw [← returnsWithFds_ifcSetThrottle_iff ifname rxKbps txKbps]
  refine and_iff_left ⟨?_, ?_, ?_⟩
  · exact returnsWithFds_iff.mpr (keepsHeld_ctlRequest _ _ _ p)
  · exact returnsWithFds_iff.mpr (keepsHeld_ctlRequest _ _ _ p)
  · exact returnsWithFds_iff.mpr (keepsHeld_ifcIpv6TriggerRs ifname p)

/-- All calls succeed but `fdopen`, and 3 is the descriptor that is opened. -/
def kernelWithoutFiles : Kernel where
  socket p _ := if h : 3 ∉ p.fds then some ⟨3, h⟩ else none
  openWronly p _ := if h : 3 ∉ p.fds then some ⟨3, h⟩ else none
  connect _ _ _ := .returned 0
  ioctl _ _ _ _ := 0
  write _ _ bytes := bytes.length
  fdopen _ _ _ := false
  fprintf _ _ text := text.length
  fputc _ _ byte := byte.toNat
  fflush _ _ := 0

/-- `fdopen` fails for the socket 3, and it stays open. -/
theorem ifcSetThrottle_without_file :
    ¬ ∀ (k : Kernel) (p : Process) (ifname : CString) (rxKbps txKbps : Int),
      ReturnsWithFds (ifcSetThrottle k ifname rxKbps txKbps) p := by
  intro h
  have hreturns := h kernelWithoutFiles ⟨{0, 1, 2}, 0⟩ ⟨ascii "ccmni0", by decide⟩ 100 50
  have hsocket : kernelWithoutFiles.socket ⟨{0, 1, 2}, 0⟩ .unixStream = some ⟨3, by decide⟩ := rfl
  have hopens := (returnsWithFds_ifcSetThrottle_iff _ _ _).mp hreturns
  exact absurd (hopens _ ⟨hsocket, rfl⟩).2 (by decide)

/-! ## Many calls -/

/-- A call of a helper. -/
inductive HelperCall where
  | setThrottle (ifname : CString) (rxKbps txKbps : Int)
  | setTxqState (ifname : CString) (state : Int)
  | ccmniMdCfg (ifname : CString) (mdId : Int)
  | ipv6TriggerRs (ifname : CString)

/-- What the call does. -/
def HelperCall.perform (k : Kernel) : HelperCall → Action Int
  | .setThrottle ifname rxKbps txKbps => ifcSetThrottle k ifname rxKbps txKbps
  | .setTxqState ifname state => ifcSetTxqState k ifname state
  | .ccmniMdCfg ifname mdId => ifcCcmniMdCfg k ifname mdId
  | .ipv6TriggerRs ifname => ifcIpv6TriggerRs k ifname

/-- The process behind the call. -/
def helperStep (k : Kernel) (p : Process) (c : HelperCall) : Process := ((c.perform k).run p).2

/-- The socket that the call connects to `netd` and then loses. -/
def lostSocket (k : Kernel) (p : Process) : HelperCall → Option Nat
  | .setThrottle _ _ _ =>
      match k.socket p .unixStream with
      | none => none
      | some fd =>
          if tempFailureRetry (k.connect (withSocket p fd 2) (fd : Nat) netdPath) = 0 ∧
              ¬ ((fd : Nat) ≠ 0 ∧ k.fdopen (withSocket p fd 3) (fd : Nat) (ascii "r+") = true) then
            some (fd : Nat)
          else none
  | _ => none

section Calls

variable (k : Kernel) (p : Process)

theorem lostSocket_of_connects {fd : { fd : Nat // fd ∉ p.fds }} (h : NetdConnects k p fd)
    (ifname : CString) (rxKbps txKbps : Int) :
    lostSocket k p (.setThrottle ifname rxKbps txKbps) =
      if (fd : Nat) ≠ 0 ∧ k.fdopen (withSocket p fd 3) (fd : Nat) (ascii "r+") = true then none
      else some (fd : Nat) := by
  rw [lostSocket, h.1]
  dsimp only
  rw [h.2]
  simp only [true_and, ite_not]

theorem lostSocket_of_not_connects (h : ∀ fd, ¬ NetdConnects k p fd)
    (ifname : CString) (rxKbps txKbps : Int) :
    lostSocket k p (.setThrottle ifname rxKbps txKbps) = none := by
  rw [lostSocket]
  cases hsocket : k.socket p .unixStream with
  | none => rfl
  | some fd => exact if_neg fun hlost => h fd ⟨hsocket, hlost.1⟩

/-- A call leaves the descriptors as they were, or the lost socket besides. -/
theorem fds_helperStep (c : HelperCall) :
    lostSocket k p c = none ∧ (helperStep k p c).fds = p.fds ∨
      ∃ fd, lostSocket k p c = some fd ∧ fd ∉ p.fds ∧
        (helperStep k p c).fds = insert fd p.fds := by
  cases c with
  | setThrottle ifname rxKbps txKbps =>
      by_cases hconnects : ∃ fd, NetdConnects k p fd
      · obtain ⟨fd, hfd⟩ := hconnects
        have hlost := lostSocket_of_connects k p hfd ifname rxKbps txKbps
        have hfds := fds_ifcSetThrottle_of_connects ifname rxKbps txKbps hfd
        split at hlost
        · rename_i hfile
          exact .inl ⟨hlost, hfds.trans (if_pos hfile)⟩
        · rename_i hfile
          exact .inr ⟨fd, hlost, fd.property, hfds.trans (if_neg hfile)⟩
      · rw [not_exists] at hconnects
        exact .inl ⟨lostSocket_of_not_connects k p hconnects ifname rxKbps txKbps,
          fds_ifcSetThrottle_of_not_connects ifname rxKbps txKbps hconnects⟩
  | setTxqState => exact .inl ⟨rfl, keepsHeld_ctlRequest _ _ _ p⟩
  | ccmniMdCfg => exact .inl ⟨rfl, keepsHeld_ctlRequest _ _ _ p⟩
  | ipv6TriggerRs ifname => exact .inl ⟨rfl, keepsHeld_ifcIpv6TriggerRs ifname p⟩

/-- Behind any calls, whatever the kernel answers, the open descriptors are those that were
open before and, each of them once, the sockets lost to `ifc_set_throttle`; they are the
same as before exactly if no call loses one. -/
theorem descriptors_run (calls : List HelperCall) :
    let lost := leftHeld (helperStep k) (lostSocket k) p calls
    (run (helperStep k) p calls).fds = p.fds ∪ lost.toFinset ∧
      (run (helperStep k) p calls).fds.card = p.fds.card + lost.length ∧
      ((run (helperStep k) p calls).fds = p.fds ↔
        Along (helperStep k) (fun p c => lostSocket k p c = none) p calls) := by
  intro lost
  obtain ⟨hfds, hnodup, hfresh⟩ := held_run (fds_helperStep k) p calls
  have hdisjoint : Disjoint p.fds lost.toFinset :=
    Finset.disjoint_right.mpr fun fd hfd => hfresh fd (List.mem_toFinset.mp hfd)
  have hcard : (run (helperStep k) p calls).fds.card = p.fds.card + lost.length := by
    rw [hfds, Finset.card_union_of_disjoint hdisjoint, List.toFinset_card_of_nodup hnodup]
  refine ⟨hfds, hcard, ?_⟩
  rw [← leftHeld_eq_nil_iff]
  constructor
  · intro hsame
    rw [hsame] at hcard
    have hlength : lost.length = 0 := by omega
    exact List.length_eq_zero_iff.mp hlength
  · intro hnone
    rw [hfds, hnone, List.toFinset_nil, Finset.union_empty]

end Calls

end MediatekCommon.Shims
