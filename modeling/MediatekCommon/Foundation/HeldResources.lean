/-
  Foundation/HeldResources.lean --- computations that hand back what they acquire.

  `held` reads off a state which resources are held in it.  A computation without
  faults may keep them all (`KeepsHeld`), give up one of them (`GivesUp`), or acquire
  one that was not held, or none (`Acquires`).  The rules say what computations of
  these kinds come to one behind the other; `Acquires.bracket` is the one they are
  for: what is acquired and given up on every path behind it leaves the held
  resources as they were.  Of a run whose steps may each leave a fresh resource held,
  `held_run` says what is held behind it.  Nothing here mentions what the resources are.
-/
import Mathlib.Data.Finset.Basic
import Mathlib.Data.Finset.Lattice.Lemmas
import MediatekCommon.Foundation.Faulting
import MediatekCommon.Foundation.Runs

set_option autoImplicit false

namespace MediatekCommon.Foundation

variable {σ α γ ρ : Type}

/-- A computation without faults has a result. -/
theorem Faulting.exists_run (x : Faulting σ Empty α) (s : σ) : ∃ a s', x.run s = (.ok a, s') := by
  cases hrun : x.run s with
  | mk result s' =>
      cases result with
      | ok a => exact ⟨a, s', rfl⟩
      | error e => exact e.elim

/-- The held resources stay as they are. -/
def KeepsHeld (held : σ → Finset ρ) (x : Faulting σ Empty α) : Prop :=
  Faulting.Keeps (fun s _ s' => held s' = held s) x

instance (held : σ → Finset ρ) :
    Faulting.Composes (fun (s : σ) (_ : Option Empty) s' => held s' = held s) where
  refl _ := rfl
  trans _ _ _ _ h h' := h'.trans h

section Rules

variable [DecidableEq ρ]

/-- This resource is given up and nothing else. -/
def GivesUp (held : σ → Finset ρ) (r : ρ) (x : Faulting σ Empty α) : Prop :=
  Faulting.Keeps (fun s _ s' => held s' = (held s).erase r) x

/-- Either nothing is acquired, or a resource that was not held before; `got` reads off
the result which. -/
def Acquires (held : σ → Finset ρ) (got : α → Option ρ) (x : Faulting σ Empty α) : Prop :=
  ∀ s a s', x.run s = (.ok a, s') →
    (got a = none ∧ held s' = held s) ∨
      ∃ r, got a = some r ∧ r ∉ held s ∧ held s' = insert r (held s)

variable {held : σ → Finset ρ} {got : α → Option ρ} {r : ρ}

omit [DecidableEq ρ] in
theorem KeepsHeld.bind {x : Faulting σ Empty α} {f : α → Faulting σ Empty γ}
    (hx : KeepsHeld held x) (hf : ∀ a, KeepsHeld held (f a)) : KeepsHeld held (x >>= f) :=
  Faulting.Keeps.bind hx hf

/-- What is kept first is given up later. -/
theorem KeepsHeld.bind_givesUp {x : Faulting σ Empty α} {f : α → Faulting σ Empty γ}
    (hx : KeepsHeld held x) (hf : ∀ a, GivesUp held r (f a)) : GivesUp held r (x >>= f) := by
  intro s
  obtain ⟨a, s', hrun⟩ := x.exists_run s
  have hkept := hx s
  rw [hrun] at hkept
  rw [Faulting.run_bind_of_ok hrun, hf a s']
  exact congrArg (Finset.erase · r) hkept

/-- What is given up first stays so. -/
theorem GivesUp.bind {x : Faulting σ Empty α} {f : α → Faulting σ Empty γ}
    (hx : GivesUp held r x) (hf : ∀ a, KeepsHeld held (f a)) : GivesUp held r (x >>= f) := by
  intro s
  obtain ⟨a, s', hrun⟩ := x.exists_run s
  have hgiven := hx s
  rw [hrun] at hgiven
  rw [Faulting.run_bind_of_ok hrun]
  exact (hf a s').trans hgiven

theorem GivesUp.ite {c : Prop} [Decidable c] {x y : Faulting σ Empty α} (hx : GivesUp held r x)
    (hy : GivesUp held r y) : GivesUp held r (if c then x else y) := Faulting.Keeps.ite hx hy

/-- What gives up a resource just acquired restores what was held before. -/
theorem GivesUp.held_eq {x : Faulting σ Empty α} (hx : GivesUp held r x) {s : σ}
    {before : Finset ρ} (hfresh : r ∉ before) (hs : held s = insert r before) :
    held (x.run s).2 = before := by
  rw [hx s, hs, Finset.erase_insert hfresh]

/-- Whatever is acquired is given up behind it. -/
theorem Acquires.bracket {x : Faulting σ Empty α} {f : α → Faulting σ Empty γ}
    (hx : Acquires held got x) (hnone : ∀ a, got a = none → KeepsHeld held (f a))
    (hsome : ∀ a r, got a = some r → GivesUp held r (f a)) : KeepsHeld held (x >>= f) := by
  intro s
  obtain ⟨a, s', hrun⟩ := x.exists_run s
  rw [Faulting.run_bind_of_ok hrun]
  rcases hx s a s' hrun with ⟨hgot, hheld⟩ | ⟨r, hgot, hfresh, hheld⟩
  · exact (hnone a hgot s').trans hheld
  · exact (hsome a r hgot).held_eq hfresh hheld

end Rules

/-! ## Over runs -/

section LeftHeld

variable {ε : Type} {step : σ → ε → σ} {left : σ → ε → Option ρ}

/-- The resources that the steps of a run leave held, in their order. -/
def leftHeld (step : σ → ε → σ) (left : σ → ε → Option ρ) : σ → List ε → List ρ
  | _, [] => []
  | s, e :: es => (left s e).toList ++ leftHeld step left (step s e) es

/-- Nothing is left held exactly if no step leaves anything. -/
theorem leftHeld_eq_nil_iff {s : σ} {es : List ε} :
    leftHeld step left s es = [] ↔ Along step (fun s e => left s e = none) s es := by
  induction es generalizing s with
  | nil => simp [leftHeld]
  | cons e es ih => rw [leftHeld, List.append_eq_nil_iff, Option.toList_eq_nil_iff, ih, along_cons]

variable [DecidableEq ρ] {held : σ → Finset ρ}

/-- If a step leaves nothing held that was not, or one such resource, then at the end of a
run there is held what was held at its start and, each of them once, what its steps left. -/
theorem held_run
    (hstep : ∀ s e, left s e = none ∧ held (step s e) = held s ∨
      ∃ r, left s e = some r ∧ r ∉ held s ∧ held (step s e) = insert r (held s))
    (s : σ) (es : List ε) :
    held (run step s es) = held s ∪ (leftHeld step left s es).toFinset ∧
      (leftHeld step left s es).Nodup ∧ ∀ r ∈ leftHeld step left s es, r ∉ held s := by
  induction es generalizing s with
  | nil => simp [leftHeld]
  | cons e es ih =>
      obtain ⟨hheld, hnodup, hfresh⟩ := ih (step s e)
      rw [run_cons, leftHeld, hheld]
      rcases hstep s e with ⟨hnone, hkept⟩ | ⟨r, hsome, hnew, hleft⟩
      · rw [hkept] at hfresh ⊢
        rw [hnone, Option.toList_none, List.nil_append]
        exact ⟨rfl, hnodup, hfresh⟩
      · rw [hleft] at hfresh ⊢
        rw [hsome, Option.toList_some, List.singleton_append]
        refine ⟨?_, ?_, ?_⟩
        · rw [List.toFinset_cons, Finset.insert_union_comm]
        · -- what later steps leave is not held before them, and `r` is
          exact List.nodup_cons.mpr ⟨fun hr => hfresh r hr (Finset.mem_insert_self r _), hnodup⟩
        · intro r' hr'
          rcases List.mem_cons.mp hr' with rfl | hr'
          · exact hnew
          · exact fun hheld' => hfresh r' hr' (Finset.mem_insert_of_mem hheld')

end LeftHeld

end MediatekCommon.Foundation
