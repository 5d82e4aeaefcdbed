/-
  Foundation/Posix.lean --- a process, its open descriptors, and what it is answered.

  A `Kernel` says what each call returns.  It sees the process at the time of the call,
  and the process counts its calls, so that a `Kernel` may answer any call in any way
  it likes, whatever it answered before.  Only one thing is promised: a descriptor
  that is opened was not open.

  Behind each call stands what it does to the open descriptors; a function that calls
  others is then a matter of the rules in `HeldResources`.
-/
import MediatekCommon.Foundation.HeldResources

set_option autoImplicit false

namespace MediatekCommon.Foundation.Posix

variable {α : Type}

/-! ## Calls -/

/-- The open descriptors, and how many calls have been made. -/
structure Process where
  fds : Finset Nat
  calls : Nat

/-- A computation of a process. -/
abbrev Action : Type → Type := Faulting Process Empty

/-- A call that may be interrupted by a signal, as often as it is tried: the last attempt
returns a result. -/
inductive Attempts where
  | returned (result : Int)
  | interrupted (again : Attempts)

/-- `TEMP_FAILURE_RETRY`: the result of the first attempt that is not interrupted. -/
def tempFailureRetry : Attempts → Int
  | .returned result => result
  | .interrupted again => tempFailureRetry again

/-- The domains and types of sockets, `AF_UNIX` and `SOCK_STREAM`, `AF_INET` and
`SOCK_DGRAM`. -/
inductive SocketKind where
  | unixStream | inetDgram
  deriving DecidableEq, Repr

/-- `struct ifreq` with a number in it. -/
structure Ifreq where
  ifrName : List UInt8
  ifruIvalue : Int
  deriving DecidableEq, Repr

/-- A `FILE`, by the descriptor it owns. -/
structure File where
  fd : Int
  deriving DecidableEq, Repr

/-- What the calls of a process return. -/
structure Kernel where
  socket : (p : Process) → SocketKind → Option { fd : Nat // fd ∉ p.fds }
  openWronly : (p : Process) → (path : List UInt8) → Option { fd : Nat // fd ∉ p.fds }
  connect : Process → (fd : Int) → (path : List UInt8) → Attempts
  ioctl : Process → (fd : Int) → (request : Nat) → Ifreq → Int
  write : Process → (fd : Int) → List UInt8 → Int
  /-- Whether a `FILE` is returned. -/
  fdopen : Process → (fd : Int) → (mode : List UInt8) → Bool
  fprintf : Process → File → (text : List UInt8) → Int
  fputc : Process → File → UInt8 → Int
  fflush : Process → File → Int

/-- A call that leaves the descriptors as they are. -/
def call (answer : Process → α) : Action α := do
  let p ← Faulting.get
  Faulting.modify fun p => { p with calls := p.calls + 1 }
  return answer p

/-- A call that opens a descriptor, and returns it or -1. -/
def openCall (answer : (p : Process) → Option { fd : Nat // fd ∉ p.fds }) : Action Int := do
  let p ← Faulting.get
  match answer p with
  | none =>
      Faulting.modify fun p => { p with calls := p.calls + 1 }
      return -1
  | some ⟨fd, _⟩ =>
      Faulting.modify fun p => { fds := insert fd p.fds, calls := p.calls + 1 }
      return fd

/-- `close(fd)`. -/
def close (fd : Int) : Action Unit :=
  Faulting.modify fun p => { fds := p.fds.erase fd.toNat, calls := p.calls + 1 }

/-- `fclose(file)`, which closes the descriptor of the file. -/
def fclose (file : File) : Action Unit := close file.fd

section Kernel

variable (k : Kernel)

def socket (kind : SocketKind) : Action Int := openCall fun p => k.socket p kind

/-- `open(path, O_WRONLY)`. -/
def openWronly (path : List UInt8) : Action Int := openCall fun p => k.openWronly p path

/-- `TEMP_FAILURE_RETRY(connect(fd, path))`. -/
def retryConnect (fd : Int) (path : List UInt8) : Action Int :=
  call fun p => tempFailureRetry (k.connect p fd path)

def ioctl (fd : Int) (request : Nat) (ifr : Ifreq) : Action Int :=
  call fun p => k.ioctl p fd request ifr

def write (fd : Int) (bytes : List UInt8) : Action Int := call fun p => k.write p fd bytes

/-- `fdopen(fd, mode)`; a `FILE` takes the descriptor over. -/
def fdopen (fd : Int) (mode : List UInt8) : Action (Option File) :=
  call fun p => if k.fdopen p fd mode then some ⟨fd⟩ else none

def fprintf (file : File) (text : List UInt8) : Action Int := call fun p => k.fprintf p file text

def fputc (file : File) (byte : UInt8) : Action Int := call fun p => k.fputc p file byte

def fflush (file : File) : Action Int := call fun p => k.fflush p file

end Kernel

/-! ## What the calls do to the descriptors -/

/-- The descriptor a result stands for. -/
def descriptor (result : Int) : Option Nat := if result < 0 then none else some result.toNat

theorem descriptor_eq_none_iff {result : Int} : descriptor result = none ↔ result < 0 := by
  unfold descriptor
  split <;> simp [*]

theorem descriptor_eq_some_iff {result : Int} {fd : Nat} :
    descriptor result = some fd ↔ ¬ result < 0 ∧ result.toNat = fd := by
  unfold descriptor
  split <;> simp [*]

@[simp] theorem run_call (answer : Process → α) (p : Process) :
    (call answer).run p = (.ok (answer p), { p with calls := p.calls + 1 }) := rfl

theorem run_openCall_of_none {answer : (p : Process) → Option { fd : Nat // fd ∉ p.fds }}
    {p : Process} (h : answer p = none) :
    (openCall answer).run p = (.ok (-1), { p with calls := p.calls + 1 }) := by
  rw [openCall, Faulting.run_bind_of_ok (Faulting.run_get p), h]
  rfl

theorem run_openCall_of_some {answer : (p : Process) → Option { fd : Nat // fd ∉ p.fds }}
    {p : Process} {fd : { fd : Nat // fd ∉ p.fds }} (h : answer p = some fd) :
    (openCall answer).run p =
      (.ok (fd : Nat), { fds := insert (fd : Nat) p.fds, calls := p.calls + 1 }) := by
  rw [openCall, Faulting.run_bind_of_ok (Faulting.run_get p), h]
  rfl

theorem keepsHeld_call (answer : Process → α) : KeepsHeld Process.fds (call answer) :=
  fun _ => rfl

theorem keepsHeld_pure (a : α) : KeepsHeld Process.fds (pure a) := Faulting.keeps_pure a

theorem givesUp_close (fd : Int) : GivesUp Process.fds fd.toNat (close fd) := fun _ => rfl

theorem acquires_openCall (answer : (p : Process) → Option { fd : Nat // fd ∉ p.fds }) :
    Acquires Process.fds descriptor (openCall answer) := by
  intro p result p' hrun
  cases h : answer p with
  | none =>
      rw [run_openCall_of_none h] at hrun
      cases hrun
      exact .inl ⟨rfl, rfl⟩
  | some fd =>
      rw [run_openCall_of_some h] at hrun
      cases hrun
      refine .inr ⟨fd, descriptor_eq_some_iff.mpr ⟨?_, Int.toNat_natCast fd⟩, fd.property, rfl⟩
      omega

/-- A descriptor that is tested and closed on every path behind the test. -/
theorem keepsHeld_of_test {x : Action Int} (hx : Acquires Process.fds descriptor x)
    {failed : Action α} {body : Int → Action α} (hfailed : KeepsHeld Process.fds failed)
    (hbody : ∀ fd, GivesUp Process.fds fd.toNat (body fd)) :
    KeepsHeld Process.fds (x >>= fun fd => if fd < 0 then failed else body fd) := by
  refine hx.bracket (fun fd hnone => ?_) fun fd r hsome => ?_
  · rwa [if_pos (descriptor_eq_none_iff.mp hnone)]
  · obtain ⟨hopen, rfl⟩ := descriptor_eq_some_iff.mp hsome
    rw [if_neg hopen]
    exact hbody fd

end MediatekCommon.Foundation.Posix
