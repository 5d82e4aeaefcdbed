/-
  Foundation/Faulting.lean --- computations on a state that may end in a fault.

  A fault ends the computation and keeps the state it was reached in.  `Keeps Q` says
  that every run relates the state before it, the fault it ends in if any, and the
  state behind it by `Q`.  For a `Q` that composes it is proved step by step: "a field
  never changes", "a log only grows" and "this fault does not occur" are of this kind.
  Nothing here mentions what the state or the faults are.
-/
import Mathlib.Logic.Basic

set_option autoImplicit false

namespace MediatekCommon.Foundation

variable {σ ε α γ : Type}

/-- A computation on a state of type `σ`, with faults of type `ε`. -/
def Faulting (σ ε α : Type) : Type := σ → Except ε α × σ

namespace Faulting

instance : Monad (Faulting σ ε) where
  pure a s := (.ok a, s)
  bind x f s :=
    match x s with
    | (.ok a, s) => f a s
    | (.error e, s) => (.error e, s)

def get : Faulting σ ε σ := fun s => (.ok s, s)

def modify (f : σ → σ) : Faulting σ ε Unit := fun s => (.ok (), f s)

def fault (e : ε) : Faulting σ ε α := fun s => (.error e, s)

/-- Run from a state. -/
def run (x : Faulting σ ε α) (s : σ) : Except ε α × σ := x s

@[simp] theorem run_pure (a : α) (s : σ) : (pure a : Faulting σ ε α).run s = (.ok a, s) := rfl

@[simp] theorem run_get (s : σ) : (get : Faulting σ ε σ).run s = (.ok s, s) := rfl

@[simp] theorem run_modify (f : σ → σ) (s : σ) :
    (modify f : Faulting σ ε Unit).run s = (.ok (), f s) := rfl

@[simp] theorem run_fault (e : ε) (s : σ) :
    (fault e : Faulting σ ε α).run s = (.error e, s) := rfl

theorem run_bind (x : Faulting σ ε α) (f : α → Faulting σ ε γ) (s : σ) :
    (x >>= f).run s =
      match x.run s with
      | (.ok a, s) => (f a).run s
      | (.error e, s) => (.error e, s) := rfl

theorem run_bind_of_ok {x : Faulting σ ε α} {f : α → Faulting σ ε γ} {s s' : σ} {a : α}
    (h : x.run s = (.ok a, s')) : (x >>= f).run s = (f a).run s' := by
  rw [run_bind, h]

theorem run_bind_of_error {x : Faulting σ ε α} {f : α → Faulting σ ε γ} {s s' : σ} {e : ε}
    (h : x.run s = (.error e, s')) : (x >>= f).run s = (.error e, s') := by
  rw [run_bind, h]

theorem run_eq_of_fst {x : Faulting σ ε α} {s : σ} {result : Except ε α}
    (h : (x.run s).1 = result) : x.run s = (result, (x.run s).2) := by
  rw [← h]

/-! ## What every run keeps -/

/-- The fault a run ends in. -/
def faultOf : Except ε α → Option ε
  | .ok _ => none
  | .error e => some e

/-- A relation between the states around a run, and the fault it ends in, that holds of
the empty run and of two runs in a row. -/
class Composes (Q : σ → Option ε → σ → Prop) : Prop where
  refl : ∀ s, Q s none s
  trans : ∀ s s' s'' e, Q s none s' → Q s' e s'' → Q s e s''

/-- Every run is related by `Q`. -/
def Keeps (Q : σ → Option ε → σ → Prop) (x : Faulting σ ε α) : Prop :=
  ∀ s, Q s (faultOf (x.run s).1) (x.run s).2

variable {Q : σ → Option ε → σ → Prop}

theorem keeps_pure [Composes Q] (a : α) : Keeps Q (pure a : Faulting σ ε α) := Composes.refl

theorem keeps_get [Composes Q] : Keeps Q (get : Faulting σ ε σ) := Composes.refl

theorem keeps_modify {f : σ → σ} (h : ∀ s, Q s none (f s)) :
    Keeps Q (modify f : Faulting σ ε Unit) := h

theorem keeps_fault {e : ε} (h : ∀ s, Q s (some e) s) : Keeps Q (fault e : Faulting σ ε α) := h

theorem Keeps.bind [Composes Q] {x : Faulting σ ε α} {f : α → Faulting σ ε γ}
    (hx : Keeps Q x) (hf : ∀ a, Keeps Q (f a)) : Keeps Q (x >>= f) := by
  intro s
  have hfirst := hx s
  cases hrun : x.run s with
  | mk result s' =>
      rw [hrun] at hfirst
      cases result with
      | ok a =>
          rw [run_bind_of_ok hrun]
          exact Composes.trans s s' _ _ hfirst (hf a s')
      | error e =>
          rw [run_bind_of_error hrun]
          exact hfirst

/-- Every run that does not end in a fault yields `a`. -/
def Yields (x : Faulting σ ε α) (a : α) : Prop := ∀ s b, (x.run s).1 = .ok b → b = a

theorem yields_pure (a : α) : Yields (pure a : Faulting σ ε α) a := by
  intro s b h
  simpa [eq_comm] using h

theorem Yields.bind {x : Faulting σ ε α} {f : α → Faulting σ ε γ} {c : γ}
    (hf : ∀ a, Yields (f a) c) : Yields (x >>= f) c := by
  intro s b h
  cases hrun : x.run s with
  | mk result s' =>
      cases result with
      | ok a =>
          rw [run_bind_of_ok hrun] at h
          exact hf a s' b h
      | error e =>
          rw [run_bind_of_error hrun] at h
          cases h

/-- Only the value that `x` yields matters to what comes behind it. -/
theorem Keeps.bind_of_yields [Composes Q] {x : Faulting σ ε α} {f : α → Faulting σ ε γ} {a : α}
    (hx : Keeps Q x) (hyields : Yields x a) (hf : Keeps Q (f a)) : Keeps Q (x >>= f) := by
  intro s
  have hfirst := hx s
  cases hrun : x.run s with
  | mk result s' =>
      rw [hrun] at hfirst
      cases result with
      | ok b =>
          obtain rfl : b = a := hyields s b (by rw [hrun])
          rw [run_bind_of_ok hrun]
          exact Composes.trans s s' _ _ hfirst (hf s')
      | error e =>
          rw [run_bind_of_error hrun]
          exact hfirst

theorem Keeps.ite {c : Prop} [Decidable c] {x y : Faulting σ ε α} (hx : Keeps Q x)
    (hy : Keeps Q y) : Keeps Q (if c then x else y) := by
  split
  · exact hx
  · exact hy

/-! ## What every run returns -/

/-- Every run that does not end in a fault yields a value like this. -/
def Returns (P : α → Prop) (x : Faulting σ ε α) : Prop := ∀ s a s', x.run s = (.ok a, s') → P a

section Returns

variable {P : α → Prop}

theorem returns_pure {a : α} (h : P a) : Returns P (pure a : Faulting σ ε α) := by
  rintro s _ _ hrun
  cases hrun
  exact h

theorem returns_fault {e : ε} : Returns P (fault e : Faulting σ ε α) := by
  intro s a s' hrun
  cases hrun

/-- What comes last decides. -/
theorem Returns.bind {x : Faulting σ ε γ} {f : γ → Faulting σ ε α} (h : ∀ c, Returns P (f c)) :
    Returns P (x >>= f) := by
  intro s a s' hrun
  rw [run_bind] at hrun
  cases hfirst : x.run s with
  | mk result between =>
      rw [hfirst] at hrun
      cases result with
      | ok c => exact h c between a s' hrun
      | error e => cases hrun

/-- What the first part yields may matter. -/
theorem Returns.bind_of {R : γ → Prop} {x : Faulting σ ε γ} {f : γ → Faulting σ ε α}
    (hx : Returns R x) (hf : ∀ c, R c → Returns P (f c)) : Returns P (x >>= f) := by
  intro s a s' hrun
  rw [run_bind] at hrun
  cases hfirst : x.run s with
  | mk result between =>
      rw [hfirst] at hrun
      cases result with
      | ok c => exact hf c (hx s c between hfirst) between a s' hrun
      | error e => cases hrun

theorem Returns.ite {c : Prop} [Decidable c] {x y : Faulting σ ε α} (hx : Returns P x)
    (hy : Returns P y) : Returns P (if c then x else y) := by
  split
  · exact hx
  · exact hy

end Returns

/-! ## How every run ends -/

/-- Every run that does not end in a fault yields a value and leaves a state like this. -/
def Ends (P : α → σ → Prop) (x : Faulting σ ε α) : Prop :=
  ∀ s a s', x.run s = (.ok a, s') → P a s'

section Ends

variable {P : α → σ → Prop}

theorem Returns.ends {R : α → Prop} {x : Faulting σ ε α} (hx : Returns R x)
    (hP : ∀ a s, R a → P a s) : Ends P x := by
  intro s a s' hrun
  exact hP a s' (hx s a s' hrun)

/-- What comes last decides, from a state the first part ends in. -/
theorem Ends.bind {R : γ → σ → Prop} {x : Faulting σ ε γ} {f : γ → Faulting σ ε α}
    (hx : Ends R x) (hf : ∀ c s a s', R c s → (f c).run s = (.ok a, s') → P a s') :
    Ends P (x >>= f) := by
  intro s a s' hrun
  rw [run_bind] at hrun
  cases hfirst : x.run s with
  | mk result between =>
      rw [hfirst] at hrun
      cases result with
      | ok c => exact hf c between a s' (hx s c between hfirst) hrun
      | error e => cases hrun

/-- Where the first part may end in any state. -/
theorem ends_bind {x : Faulting σ ε γ} {f : γ → Faulting σ ε α} (hf : ∀ c, Ends P (f c)) :
    Ends P (x >>= f) :=
  Ends.bind (R := fun _ _ => True) (fun _ _ _ _ => trivial) fun c s a s' _ hrun =>
    hf c s a s' hrun

end Ends

end Faulting

end MediatekCommon.Foundation
