/-
  Foundation/JavaText.lean --- the Java string operations the telephony code
  rests on: `String.split` by one character, `TextUtils.join` and
  `Integer.parseInt`.

  A Java string is modelled by the list of its characters.  `split` and `join`
  only look for one ASCII separator, so it makes no difference to them whether a
  character outside the basic plane is counted as one character or as two UTF-16
  units; `parseInt` accepts no such character either way.  Where a length counts, as
  in the limit on the value of a system property, a character outside the basic plane
  is one element here and two units there: lengths agree for the strings without such
  a character, which is what a list of telephone numbers is.
-/
import Mathlib.Algebra.BigOperators.Group.List.Basic
import Mathlib.Algebra.Ring.Nat
import Mathlib.Data.List.DropRight

set_option autoImplicit false

namespace MediatekCommon.Foundation

/-- A Java `String`. -/
abbrev JavaString : Type := List Char

namespace JavaString

/-! ## Splitting and joining -/

/-- `s.split(sep)` for a one-character separator.  A string without the
separator is returned whole, the empty string included; otherwise trailing empty
fields are dropped, and leading and inner ones are kept. -/
def split (sep : Char) (s : JavaString) : List JavaString :=
  if sep ∈ s then (s.splitOn sep).rdropWhile List.isEmpty else [s]

/-- `TextUtils.join(sep, parts)`. -/
def join (sep : Char) (parts : List JavaString) : JavaString :=
  [sep].intercalate parts

@[simp] theorem join_nil (sep : Char) : join sep [] = [] := rfl

/-- Only the empty list joins to the empty string when no part is empty. -/
theorem join_eq_nil_iff {sep : Char} {parts : List JavaString}
    (hparts : ∀ p ∈ parts, p ≠ []) : join sep parts = [] ↔ parts = [] := by
  constructor
  · intro hjoin
    cases parts with
    | nil => rfl
    | cons p rest =>
        have hp : p ≠ [] := hparts p List.mem_cons_self
        cases rest with
        | nil => exact absurd (by simpa [join] using hjoin) hp
        | cons q rest => simp [join] at hjoin
  · rintro rfl
    rfl

/-- Splitting a joined list gives the list back: no part contains the separator
and the last part, which `split` would drop if it were empty, is not. -/
theorem split_join {sep : Char} {parts : List JavaString}
    (hsep : ∀ p ∈ parts, sep ∉ p) (hne : parts ≠ []) (hlast : parts.getLast hne ≠ []) :
    split sep (join sep parts) = parts := by
  have hfields : (join sep parts).splitOn sep = parts :=
    List.splitOn_intercalate sep hsep hne
  unfold split
  split
  · rw [hfields, List.rdropWhile_eq_self_iff]
    intro hl
    simpa using hlast
  · rename_i hmem
    rw [List.splitOn_eq_singleton hmem] at hfields
    exact hfields

/-- A joined list is as long as its parts and a separator behind each, less the last. -/
theorem length_join (sep : Char) {parts : List JavaString} (hne : parts ≠ []) :
    (join sep parts).length + 1 = (parts.map fun p => p.length + 1).sum := by
  induction parts with
  | nil => exact absurd rfl hne
  | cons p rest ih =>
      cases rest with
      | nil => simp [join]
      | cons q rest =>
          have hrest := ih (List.cons_ne_nil q rest)
          have hcons : join sep (p :: q :: rest) = p ++ sep :: join sep (q :: rest) := by
            simp [join]
          rw [hcons, List.length_append, List.length_cons, List.map_cons, List.sum_cons, ← hrest]
          omega

/-- The order of the parts makes no difference. -/
theorem length_join_of_perm {sep : Char} {parts parts' : List JavaString}
    (h : parts.Perm parts') : (join sep parts).length = (join sep parts').length := by
  by_cases hnil : parts = []
  · subst hnil
    rw [h.nil_eq]
  · have hnil' : parts' ≠ [] := fun h' => hnil (h' ▸ h).eq_nil
    have hsum := (h.map fun p => p.length + 1).sum_eq
    rw [← length_join sep hnil, ← length_join sep hnil'] at hsum
    exact Nat.succ.inj hsum

/-! ## `Integer.parseInt` -/

/-- The code points of the decimal digits zero that fit one UTF-16 unit:
`Character.digit` accepts the ten digits of each of these scripts. -/
def decimalZeros : List Nat :=
  [0x30, 0x660, 0x6F0, 0x7C0, 0x966, 0x9E6, 0xA66, 0xAE6, 0xB66, 0xBE6, 0xC66, 0xCE6,
   0xD66, 0xDE6, 0xE50, 0xED0, 0xF20, 0x1040, 0x1090, 0x17E0, 0x1810, 0x1946, 0x19D0,
   0x1A80, 0x1A90, 0x1B50, 0x1BB0, 0x1C40, 0x1C50, 0xA620, 0xA8D0, 0xA900, 0xA9D0,
   0xA9F0, 0xAA50, 0xABF0, 0xFF10]

/-- `Character.digit(c, 10)`, with `none` for the Java result -1. -/
def digit (c : Char) : Option Nat :=
  decimalZeros.findSome? fun base =>
    if base ≤ c.toNat ∧ c.toNat < base + 10 then some (c.toNat - base) else none

/-- The value of a non-empty sequence of decimal digits. -/
def magnitude : JavaString → Option Nat
  | [] => none
  | cs => cs.foldl (fun acc c => acc.bind fun n => (digit c).map fun d => 10 * n + d) (some 0)

/-- `Integer.parseInt(s)`: an optional sign and at least one decimal digit, with
a value of 32 bits.  `none` stands for the `NumberFormatException`. -/
def parseInt (s : JavaString) : Option Int :=
  match s with
  | '-' :: rest =>
      (magnitude rest).bind fun n => if n ≤ 2 ^ 31 then some (-(n : Int)) else none
  | '+' :: rest =>
      (magnitude rest).bind fun n => if n < 2 ^ 31 then some (n : Int) else none
  | _ => (magnitude s).bind fun n => if n < 2 ^ 31 then some (n : Int) else none

example : parseInt "128".toList = some 128 := by decide

example : parseInt "2147483648".toList = none := by decide

end JavaString

end MediatekCommon.Foundation
