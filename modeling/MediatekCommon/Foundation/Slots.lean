/-
  Foundation/Slots.lean --- a fixed number of slots, each free or holding one
  value, filled first-fit.

  `store` puts a value into the first free slot and `release` empties the first
  slot that holds a value.  A table is `Injective` when no value is held twice;
  under that invariant a value that is released has one slot, known from the
  table, and a table without a free slot holds as many values as it has slots.
  `Holds` relates a table to the set it stands for.
  Nothing here mentions what the values are.
-/
import Mathlib.Data.Fin.Basic
import Mathlib.Data.List.FinRange
import Mathlib.Data.List.Perm.Subperm
import Mathlib.Data.Set.Insert
import Mathlib.Logic.Function.Basic

set_option autoImplicit false

namespace MediatekCommon.Foundation

variable {n : Nat} {α : Type}

/-- The slots of a table. -/
abbrev Slots (n : Nat) (α : Type) : Type := Fin n → Option α

namespace Slots

/-! ## First fit -/

/-- The first free slot. -/
def firstFree (t : Slots n α) : Option (Fin n) := Fin.find? fun i => (t i).isNone

/-- Put a value into the first free slot; a full table stays as it is. -/
def store (t : Slots n α) (a : α) : Slots n α :=
  match t.firstFree with
  | some i => Function.update t i (some a)
  | none => t

theorem firstFree_eq_some_iff {t : Slots n α} {i : Fin n} :
    t.firstFree = some i ↔ t i = none ∧ ∀ j, j < i → t j ≠ none := by
  simp only [firstFree, Fin.find?_eq_some_iff, Option.isNone_iff_eq_none]
  refine and_congr_right fun _ => forall₂_congr fun j _ => ?_
  simp [← Option.isSome_iff_ne_none]

theorem firstFree_eq_none_iff {t : Slots n α} : t.firstFree = none ↔ ∀ i, t i ≠ none := by
  simp [firstFree, ← Option.isSome_iff_ne_none]

theorem store_of_firstFree {t : Slots n α} {i : Fin n} (h : t.firstFree = some i) (a : α) :
    t.store a = Function.update t i (some a) := by
  simp only [store, h]

/-! ## Releasing -/

/-- No value is held twice. -/
def Injective (t : Slots n α) : Prop :=
  ∀ i j a, t i = some a → t j = some a → i = j

section Release

variable [DecidableEq α]

/-- The first slot that holds a value. -/
def holder (t : Slots n α) (a : α) : Option (Fin n) := Fin.find? fun i => decide (t i = some a)

/-- Empty the first slot that holds a value; without one the table stays as it
is. -/
def release (t : Slots n α) (a : α) : Slots n α :=
  match t.holder a with
  | some i => Function.update t i none
  | none => t

theorem release_of_not_held {t : Slots n α} {a : α} (h : ∀ i, t i ≠ some a) :
    t.release a = t := by
  have hnone : t.holder a = none := by simpa [holder] using h
  simp only [release, hnone]

/-- In an injective table the slot that is emptied is the one that holds the
value. -/
theorem release_of_injective {t : Slots n α} (ht : t.Injective) {i : Fin n} {a : α}
    (h : t i = some a) : t.release a = Function.update t i none := by
  have hsome : t.holder a = some i := by
    simp only [holder, Fin.find?_eq_some_iff, decide_eq_true_eq, decide_eq_false_iff_not]
    refine ⟨h, fun j hj hja => ?_⟩
    have : i = j := ht i j a h hja
    omega
  simp only [release, hsome]

/-- What an injective table holds after a release: all it held but that value. -/
theorem release_eq_some_iff {t : Slots n α} (ht : t.Injective) {i : Fin n} {a b : α} :
    t.release a i = some b ↔ t i = some b ∧ b ≠ a := by
  by_cases hheld : ∃ k, t k = some a
  · obtain ⟨k, hk⟩ := hheld
    rw [release_of_injective ht hk]
    by_cases hi : i = k
    · subst hi
      simp [hk, eq_comm]
    · rw [Function.update_of_ne hi]
      refine (and_iff_left_of_imp fun hb => ?_).symm
      intro hba
      exact hi (ht i k a (hba ▸ hb) hk)
  · rw [release_of_not_held (fun k hk => hheld ⟨k, hk⟩)]
    refine (and_iff_left_of_imp fun hb => ?_).symm
    intro hba
    exact hheld ⟨i, hba ▸ hb⟩

theorem release_eq_none {t : Slots n α} (ht : t.Injective) {i : Fin n} {a : α}
    (hi : t i = none) : t.release a i = none := by
  rw [Option.eq_none_iff_forall_ne_some]
  intro b hb
  rw [release_eq_some_iff ht, hi] at hb
  cases hb.1

theorem Injective.release {t : Slots n α} (ht : t.Injective) (a : α) :
    (t.release a).Injective := by
  intro i j b hi hj
  rw [release_eq_some_iff ht] at hi hj
  exact ht i j b hi.1 hj.1

end Release

/-- What a table holds after a store: all it held and the new value. -/
theorem store_eq_some_iff {t : Slots n α} {i : Fin n} (h : t.firstFree = some i)
    {a b : α} {j : Fin n} :
    t.store a j = some b ↔ (j = i ∧ b = a) ∨ t j = some b := by
  have hi : t i = none := (firstFree_eq_some_iff.mp h).1
  rw [store_of_firstFree h]
  by_cases hj : j = i
  · subst hj
    simp [hi, eq_comm]
  · simp [hj]

theorem store_eq_none_iff {t : Slots n α} {i : Fin n} (h : t.firstFree = some i)
    {a : α} {j : Fin n} : t.store a j = none ↔ j ≠ i ∧ t j = none := by
  rw [store_of_firstFree h]
  by_cases hj : j = i
  · subst hj
    simp
  · simp [hj]

/-- Storing a value the table does not hold keeps it injective. -/
theorem Injective.store [DecidableEq α] {t : Slots n α} (ht : t.Injective) {a : α}
    (hnew : ∀ i, t i ≠ some a) : (t.store a).Injective := by
  cases h : t.firstFree with
  | none => simpa [Slots.store, h] using ht
  | some k =>
      intro i j b hi hj
      rw [store_eq_some_iff h] at hi hj
      rcases hi with ⟨hik, hba⟩ | hi <;> rcases hj with ⟨hjk, hba'⟩ | hj
      · exact hik.trans hjk.symm
      · exact absurd (hba ▸ hj) (hnew j)
      · exact absurd (hba' ▸ hi) (hnew i)
      · exact ht i j b hi hj

/-- A table without a free slot holds at least as many values as it has slots. -/
theorem length_le_of_full {t : Slots n α} (ht : t.Injective) (hfull : t.firstFree = none)
    {values : List α} (hvalues : ∀ i a, t i = some a → a ∈ values) : n ≤ values.length := by
  rw [firstFree_eq_none_iff] at hfull
  choose held hheld using fun i => Option.ne_none_iff_exists'.mp (hfull i)
  have hnodup : ((List.finRange n).map held).Nodup := by
    apply List.Nodup.map_on _ (List.nodup_finRange n)
    intro i _ j _ hij
    exact ht i j (held i) (hheld i) (hij ▸ hheld j)
  have hsub : (List.finRange n).map held ⊆ values := by
    intro a ha
    obtain ⟨i, -, rfl⟩ := List.mem_map.mp ha
    exact hvalues i (held i) (hheld i)
  simpa using (List.Nodup.subperm hnodup hsub).length_le

/-! ## The set a table holds -/

/-- The table holds exactly the values of a set, each of them once. -/
structure Holds (t : Slots n α) (V : Set α) : Prop where
  injective : t.Injective
  mem_iff : ∀ a, (∃ i, t i = some a) ↔ a ∈ V

theorem Holds.not_mem {t : Slots n α} {V : Set α} (h : t.Holds V) {a : α} (ha : a ∉ V)
    (i : Fin n) : t i ≠ some a :=
  fun hi => ha ((h.mem_iff a).mp ⟨i, hi⟩)

/-- Storing a new value adds it to the set. -/
theorem Holds.store [DecidableEq α] {t : Slots n α} {V : Set α} (h : t.Holds V) {i : Fin n}
    (hfree : t.firstFree = some i) {a : α} (ha : a ∉ V) : (t.store a).Holds (insert a V) where
  injective := h.injective.store (h.not_mem ha)
  mem_iff := by
    intro b
    simp only [store_eq_some_iff hfree, Set.mem_insert_iff, ← h.mem_iff]
    constructor
    · rintro ⟨j, ⟨-, rfl⟩ | hj⟩
      · exact .inl rfl
      · exact .inr ⟨j, hj⟩
    · rintro (rfl | ⟨j, hj⟩)
      · exact ⟨i, .inl ⟨rfl, rfl⟩⟩
      · exact ⟨j, .inr hj⟩

/-- Releasing a value takes it out of the set. -/
theorem Holds.release [DecidableEq α] {t : Slots n α} {V : Set α} (h : t.Holds V) (a : α) :
    (t.release a).Holds (V \ {a}) where
  injective := h.injective.release a
  mem_iff := by
    intro b
    simp only [release_eq_some_iff h.injective, Set.mem_sdiff, Set.mem_singleton_iff, ← h.mem_iff]
    exact exists_and_right

/-- A store into a free slot never leaves the set as it was: the value is new to the
table, or it is held twice afterwards. -/
theorem Holds.not_store {t : Slots n α} {V : Set α} (h : t.Holds V) {i : Fin n}
    (hfree : t.firstFree = some i) (a : α) : ¬ (t.store a).Holds V := by
  intro hstored
  have hi : t.store a i = some a := (store_eq_some_iff hfree).mpr (.inl ⟨rfl, rfl⟩)
  obtain ⟨j, hj⟩ := (h.mem_iff a).mpr ((hstored.mem_iff a).mp ⟨i, hi⟩)
  have hj' : t.store a j = some a := (store_eq_some_iff hfree).mpr (.inr hj)
  have hij : i = j := hstored.injective i j a hi hj'
  have hempty : t i = none := (firstFree_eq_some_iff.mp hfree).1
  rw [hij, hj] at hempty
  cases hempty

end Slots

end MediatekCommon.Foundation
