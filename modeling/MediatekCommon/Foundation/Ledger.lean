/-
  Foundation/Ledger.lean --- what is owed under keys that are handed out in order.

  A component that hands out keys owes something under each of them until it settles it.
  This file fixes the books of such a component, and how what flows into and out of them
  along a run balances:

      total_enter         an entry adds what is owed under its key
      total_settle        a key that is settled takes along what was owed under it
      tally_balance       when each step balances, so does each run
      stock_eq_tally_iff  the stock is what was taken in exactly if at each step what is
                          gained and what is given up agree
-/
import Mathlib.Algebra.BigOperators.Group.Finset.Basic
import Mathlib.Algebra.Order.Group.Multiset
import MediatekCommon.Foundation.Runs

set_option autoImplicit false

namespace MediatekCommon.Foundation

/-! ## Books -/

/-- The keys handed out before `next`. -/
def keysBelow (next : Int) : Finset Int := (Finset.range next.toNat).image Int.ofNat

@[simp] theorem mem_keysBelow {next key : Int} : key ∈ keysBelow next ↔ 0 ≤ key ∧ key < next := by
  simp only [keysBelow, Finset.mem_image, Finset.mem_range, Int.ofNat_eq_natCast]
  constructor
  · rintro ⟨n, hn, rfl⟩
    omega
  · intro h
    exact ⟨key.toNat, by omega, by omega⟩

theorem keysBelow_add_one {next : Int} (h : 0 ≤ next) :
    keysBelow (next + 1) = insert next (keysBelow next) := by
  ext key
  rw [Finset.mem_insert, mem_keysBelow, mem_keysBelow]
  omega

/-- Keys handed out so far, and what is owed under each of them. -/
structure Ledger (μ : Type) where
  /-- The key that is handed out next. -/
  next : Int
  owed : Int → Option μ
  next_nonneg : 0 ≤ next
  /-- Nothing is owed under a key that has not been handed out. -/
  mem_keys : ∀ key, owed key ≠ none → key ∈ keysBelow next

namespace Ledger

variable {μ : Type}

@[ext] theorem ext {L L' : Ledger μ} (hnext : L.next = L'.next) (howed : L.owed = L'.owed) :
    L = L' := by
  cases L
  cases L'
  simp only [mk.injEq]
  exact ⟨hnext, howed⟩

/-- Everything that is owed. -/
def total (L : Ledger μ) : Multiset μ := ∑ key ∈ keysBelow L.next, ↑(L.owed key).toList

/-- Hand out a key, and owe this under it. -/
def enter (L : Ledger μ) (item : Option μ) : Ledger μ where
  next := L.next + 1
  owed := Function.update L.owed L.next item
  next_nonneg := by
    have := L.next_nonneg
    omega
  mem_keys key hkey := by
    have hnonneg := L.next_nonneg
    rw [mem_keysBelow]
    by_cases h : key = L.next
    · omega
    · rw [Function.update_of_ne h] at hkey
      have := mem_keysBelow.mp (L.mem_keys key hkey)
      omega

/-- Owe nothing under this key any more. -/
def settle (L : Ledger μ) (key : Int) : Ledger μ where
  next := L.next
  owed := Function.update L.owed key none
  next_nonneg := L.next_nonneg
  mem_keys key' hkey := by
    by_cases h : key' = key
    · subst h
      exact absurd (Function.update_self _ _ _) hkey
    · rw [Function.update_of_ne h] at hkey
      exact L.mem_keys key' hkey

@[simp] theorem owed_enter_self (L : Ledger μ) (item : Option μ) :
    (L.enter item).owed L.next = item := Function.update_self _ _ _

theorem owed_enter_of_ne (L : Ledger μ) (item : Option μ) {key : Int} (h : key ≠ L.next) :
    (L.enter item).owed key = L.owed key := Function.update_of_ne h _ _

@[simp] theorem owed_settle_self (L : Ledger μ) (key : Int) : (L.settle key).owed key = none :=
  Function.update_self _ _ _

theorem owed_settle_of_ne (L : Ledger μ) {key key' : Int} (h : key' ≠ key) :
    (L.settle key).owed key' = L.owed key' := Function.update_of_ne h _ _

theorem total_enter (L : Ledger μ) (item : Option μ) :
    (L.enter item).total = L.total + ↑item.toList := by
  have hsame : ∀ key ∈ keysBelow L.next,
      (((L.enter item).owed key).toList : Multiset μ) = ↑(L.owed key).toList := by
    intro key hkey
    rw [owed_enter_of_ne L item (mem_keysBelow.mp hkey).2.ne]
  have hnext : (L.enter item).next = L.next + 1 := rfl
  rw [total, hnext, keysBelow_add_one L.next_nonneg,
    Finset.sum_insert (by simp), owed_enter_self, Finset.sum_congr rfl hsame, add_comm]
  rfl

/-- What was owed under a key that is settled, and what is still owed. -/
theorem total_settle (L : Ledger μ) (key : Int) :
    (L.settle key).total + ↑(L.owed key).toList = L.total := by
  by_cases hkey : key ∈ keysBelow L.next
  · have hsame : ∀ key' ∈ (keysBelow L.next).erase key,
        (((L.settle key).owed key').toList : Multiset μ) = ↑(L.owed key').toList := by
      intro key' hmem
      rw [owed_settle_of_ne L (Finset.ne_of_mem_erase hmem)]
    have hnext : (L.settle key).next = L.next := rfl
    rw [total, total, hnext, ← Finset.sum_erase_add _ _ hkey, ← Finset.sum_erase_add _ _ hkey,
      owed_settle_self, Finset.sum_congr rfl hsame]
    exact congrArg (· + _) (add_zero _)
  · have hnone : L.owed key = none := by
      by_contra hsome
      exact hkey (L.mem_keys key hsome)
    have hsame : L.settle key = L := ext rfl (Function.update_eq_self_iff.mpr hnone.symm)
    rw [hsame, hnone]
    exact add_zero _

end Ledger

/-! ## Tallies -/

section Tally

variable {σ ε M : Type}

/-- What accumulates over a run. -/
def tally [AddCommMonoid M] (step : σ → ε → σ) (f : σ → ε → M) : σ → List ε → M
  | _, [] => 0
  | s, e :: es => f s e + tally step f (step s e) es

/-- When what is there before a step and what comes in make up what is there after it and
what goes out, the same is true of a run. -/
theorem tally_balance [AddCommMonoid M] {step : σ → ε → σ} {Inv : σ → Prop} {stock : σ → M}
    {gained lost : σ → ε → M} (hinv : ∀ s e, Inv s → Inv (step s e))
    (hstep : ∀ s e, Inv s → stock s + gained s e = stock (step s e) + lost s e)
    {s : σ} (hs : Inv s) (es : List ε) :
    stock s + tally step gained s es = stock (run step s es) + tally step lost s es := by
  induction es generalizing s with
  | nil => rfl
  | cons e es ih =>
      calc stock s + (gained s e + tally step gained (step s e) es)
          = lost s e + (stock (step s e) + tally step gained (step s e) es) := by
            rw [← add_assoc, hstep s e hs, add_comm (stock (step s e)), add_assoc]
        _ = lost s e + (stock (run step (step s e) es) + tally step lost (step s e) es) := by
            rw [ih (hinv s e hs)]
        _ = stock (run step s (e :: es)) + (lost s e + tally step lost (step s e) es) :=
            add_left_comm _ _ _

theorem tally_add [AddCommMonoid M] {step : σ → ε → σ} {f g : σ → ε → M} (s : σ) (es : List ε) :
    tally step (fun s e => f s e + g s e) s es = tally step f s es + tally step g s es := by
  induction es generalizing s with
  | nil => exact (add_zero 0).symm
  | cons e es ih =>
      rw [tally, tally, tally, ih]
      exact add_add_add_comm _ _ _ _

/-- In every state of a run the stock is what was taken in so far, exactly if at each step
what is gained besides and what is given up are the same. -/
theorem stock_eq_tally_iff [AddCancelCommMonoid M] {step : σ → ε → σ} {Inv : σ → Prop}
    {stock : σ → M} {taken gained lost : σ → ε → M} (hinv : ∀ s e, Inv s → Inv (step s e))
    (hstep : ∀ s e, Inv s →
      stock s + (taken s e + gained s e) = stock (step s e) + lost s e)
    {s : σ} (hs : Inv s) (es : List ε) :
    (∀ fs, fs <+: es → stock (run step s fs) = stock s + tally step taken s fs) ↔
      Along step (fun s e => gained s e = lost s e) s es := by
  induction es generalizing s with
  | nil =>
      refine iff_of_true (fun fs hfs => ?_) trivial
      rw [List.prefix_nil.mp hfs]
      exact (add_zero _).symm
  | cons e es ih =>
      have hbalance := hstep s e hs
      rw [along_cons, ← ih (hinv s e hs)]
      constructor
      · intro h
        have hfirst := h [e] ⟨es, rfl⟩
        rw [run_cons, run_nil, tally, tally, add_zero] at hfirst
        refine ⟨?_, fun fs hfs => ?_⟩
        · rw [hfirst, ← add_assoc] at hbalance
          exact add_left_cancel hbalance
        · rw [hfirst, add_assoc]
          exact h (e :: fs) (List.cons_prefix_cons.mpr ⟨rfl, hfs⟩)
      · rintro ⟨hsame, hrest⟩ fs hfs
        cases fs with
        | nil => exact (add_zero _).symm
        | cons f fs =>
            obtain ⟨rfl, htail⟩ := List.cons_prefix_cons.mp hfs
            rw [hsame, ← add_assoc] at hbalance
            rw [run_cons, hrest fs htail, tally, ← add_assoc, add_right_cancel hbalance]

end Tally

end MediatekCommon.Foundation
