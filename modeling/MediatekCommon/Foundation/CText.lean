/-
  Foundation/CText.lean --- the C string functions the supplicant driver rests on.

  A C string is the list of its bytes before the terminating NUL, none of which is
  NUL itself.  `strtol` follows the standard: blanks, a sign, the mark of the radix,
  then digits, with a value that saturates at the limits of `long`; how wide `long`
  is is a parameter.  The comparison functions are only ever compared with 0, so
  they are modelled by the equality they decide.
-/
import Mathlib.Algebra.Group.Nat.Defs
import Mathlib.Data.List.Basic

set_option autoImplicit false

namespace MediatekCommon.Foundation

/-- The bytes of an ASCII literal. -/
def ascii (text : String) : List UInt8 := text.toList.map fun c => UInt8.ofNat c.toNat

/-- A C string. -/
structure CString where
  bytes : List UInt8
  noNul : 0 ∉ bytes
  deriving DecidableEq

namespace CString

/-- `strlen(s)`. -/
def strlen (s : CString) : Nat := s.bytes.length

/-- `s + n`, for an `n` of at most `strlen(s)`. -/
def advance (s : CString) (n : Nat) : CString where
  bytes := s.bytes.drop n
  noNul h := s.noNul (List.mem_of_mem_drop h)

/-- `s[i]`, for an `i` of at most `strlen(s)`. -/
def read (s : CString) (i : Nat) : UInt8 := s.bytes.getD i 0

/-- A string literal, which ends at its first NUL. -/
def literal (text : String) : CString where
  bytes := (ascii text).takeWhile (· ≠ 0)
  noNul h := by
    have hne := List.all_eq_true.mp List.all_takeWhile 0 h
    exact of_decide_eq_true hne rfl

/-- One byte, repeated. -/
def fill (b : UInt8) (n : Nat) (hb : b ≠ 0) : CString where
  bytes := List.replicate n b
  noNul h := hb (List.eq_of_mem_replicate h).symm

theorem strlen_fill (b : UInt8) (n : Nat) (hb : b ≠ 0) : (fill b n hb).strlen = n :=
  List.length_replicate

end CString

/-! ## Comparison and search -/

/-- `tolower(b)` in the C locale. -/
def tolower (b : UInt8) : UInt8 := if 65 ≤ b ∧ b ≤ 90 then b + 32 else b

/-- Whether two strings agree, byte by byte after `fold`, up to their end or the
given count. -/
def sameUpTo (fold : UInt8 → UInt8) : Nat → List UInt8 → List UInt8 → Bool
  | 0, _, _ => true
  | _ + 1, [], [] => true
  | n + 1, b :: s, c :: t => fold b == fold c && sameUpTo fold n s t
  | _ + 1, _, _ => false

/-- `strncmp(s, t, n) == 0`. -/
def strncmp (s t : List UInt8) (n : Nat) : Bool := sameUpTo id n s t

/-- `strncasecmp(s, t, n) == 0`. -/
def strncasecmp (s t : List UInt8) (n : Nat) : Bool := sameUpTo tolower n s t

/-- `strcasecmp(s, t) == 0`. -/
def strcasecmp (s t : List UInt8) : Bool := s.map tolower == t.map tolower

/-- `strstr(s, t)`: the rest of `s` from the first `t` in it. -/
def strstr (t : List UInt8) : List UInt8 → Option (List UInt8)
  | [] => if t = [] then some [] else none
  | b :: rest => if t.isPrefixOf (b :: rest) then some (b :: rest) else strstr t rest

/-- Strings whose first bytes differ. -/
theorem sameUpTo_of_head_ne {fold : UInt8 → UInt8} {n : Nat} {b : UInt8} {s t : List UInt8}
    (hn : 0 < n) (hhead : fold b ≠ fold (t.headD 0)) : sameUpTo fold n (b :: s) t = false := by
  cases n with
  | zero => cases hn
  | succ n =>
      cases t with
      | nil => rfl
      | cons c t =>
          have hne : (fold b == fold c) = false := beq_false_of_ne hhead
          rw [sameUpTo, hne, Bool.false_and]

/-- A string agrees with what it starts with. -/
theorem sameUpTo_append (fold : UInt8 → UInt8) (t rest : List UInt8) :
    sameUpTo fold t.length (t ++ rest) t = true := by
  induction t with
  | nil => rfl
  | cons b t ih => rw [List.cons_append, List.length_cons, sameUpTo, ih, BEq.rfl, Bool.and_true]

/-- Strings that agree in their first bytes. -/
theorem sameUpTo_of_map_take {fold : UInt8 → UInt8} {n : Nat} {s t : List UInt8}
    (h : (s.take n).map fold = (t.take n).map fold) : sameUpTo fold n s t = true := by
  induction n generalizing s t with
  | zero => cases s <;> rfl
  | succ n ih =>
      cases s with
      | nil =>
          cases t with
          | nil => rfl
          | cons c t => cases h
      | cons b s =>
          cases t with
          | nil => cases h
          | cons c t =>
              rw [List.take_succ_cons, List.take_succ_cons, List.map_cons, List.map_cons] at h
              obtain ⟨hhead, hrest⟩ := List.cons.inj h
              rw [sameUpTo, hhead, ih hrest, BEq.rfl, Bool.and_true]

/-! ## Copying and printing -/

/-- The `n` bytes `strncpy(dst, s, n)` writes. -/
def strncpy (s : List UInt8) (n : Nat) : List UInt8 :=
  s.take n ++ List.replicate (n - s.length) 0

/-- The text of an array of `char`: what stands before its first NUL. -/
def textOf (array : List UInt8) : List UInt8 := array.takeWhile fun b => b ≠ 0

/-- `snprintf(buf, size, ...)` of this text, over a buffer that holds the string
`old`: the value it returns and the string it leaves. -/
def snprintf (size : Nat) (text old : List UInt8) : Int × List UInt8 :=
  (text.length, if size = 0 then old else text.take (size - 1))

theorem length_strncpy (s : List UInt8) (n : Nat) : (strncpy s n).length = n := by
  simp only [strncpy, List.length_append, List.length_take, List.length_replicate]
  omega

/-- A string that fits is copied whole. -/
theorem take_strncpy {s : List UInt8} {n : Nat} (h : s.length ≤ n) :
    (strncpy s n).take s.length = s := by
  rw [strncpy, List.take_of_length_le h, List.take_left]

/-- The text of an array that starts with a string and has a NUL behind it. -/
theorem textOf_append_nul {s rest : List UInt8} (hs : 0 ∉ s) : textOf (s ++ 0 :: rest) = s := by
  have hall : ∀ b ∈ s, decide (b ≠ 0) = true := by
    intro b hb
    exact decide_eq_true fun hzero => hs (hzero ▸ hb)
  rw [textOf, List.takeWhile_append_of_pos hall]
  simp

/-! ## Numbers -/

/-- `isspace(b)` in the C locale. -/
def isSpace (b : UInt8) : Bool := b = 32 || (9 ≤ b && b ≤ 13)

/-- The value of a digit of a radix up to 36. -/
def digitValue (b : UInt8) : Option Nat :=
  if 48 ≤ b ∧ b ≤ 57 then some (b.toNat - 48)
  else if 97 ≤ b ∧ b ≤ 122 then some (b.toNat - 87)
  else if 65 ≤ b ∧ b ≤ 90 then some (b.toNat - 55)
  else none

/-- The digits a text starts with. -/
def leadingDigits (radix : Nat) : List UInt8 → List Nat
  | [] => []
  | b :: rest =>
      match digitValue b with
      | some d => if d < radix then d :: leadingDigits radix rest else []
      | none => []

/-- The number these digits write. -/
def ofDigits (radix : Nat) (ds : List Nat) : Nat := ds.foldl (fun acc d => acc * radix + d) 0

/-- The sign in front of a number, and how many bytes it takes. -/
def signOf : List UInt8 → Bool × Nat
  | 45 :: _ => (true, 1)
  | 43 :: _ => (false, 1)
  | _ => (false, 0)

/-- The radix of a number for a `base` of 0 or more, and how many bytes its mark
takes: `0x` counts as a mark only in front of a digit. -/
def radixOf (base : Nat) (text : List UInt8) : Nat × Nat :=
  match text with
  | 48 :: x :: rest =>
      if (base = 0 ∨ base = 16) ∧ tolower x = 120 ∧ leadingDigits 16 rest ≠ [] then (16, 2)
      else (if base = 0 then 8 else base, 0)
  | 48 :: [] => (if base = 0 then 8 else base, 0)
  | _ => (if base = 0 then 10 else base, 0)

/-- The value as a `long` of this width, or the limit it lies beyond. -/
def saturate (longBits : Nat) (value : Int) : Int :=
  max (-(2 ^ (longBits - 1) : Nat)) (min value ((2 ^ (longBits - 1) : Nat) - 1))

/-- `strtol(s, &endp, base)`: the value, and how far `endp` is behind `s`. -/
def strtol (longBits base : Nat) (s : List UInt8) : Int × Nat :=
  let blanks := s.takeWhile isSpace
  let s := s.drop blanks.length
  let (negative, signLength) := signOf s
  let s := s.drop signLength
  let (radix, markLength) := radixOf base s
  let ds := leadingDigits radix (s.drop markLength)
  if ds = [] then (0, 0)
  else
    let value := ofDigits radix ds
    (saturate longBits (if negative then -value else value),
      blanks.length + signLength + markLength + ds.length)

/-- `atoi(s)`: the `long` it reads, as an `int`. -/
def atoi (longBits : Nat) (s : List UInt8) : Int := (strtol longBits 10 s).1.bmod (2 ^ 32)

example : strtol 32 0 (ascii " -0x1Fg") = (-31, 6) := by decide

example : strtol 32 16 (ascii "FFFFFFFF") = (2147483647, 8) := by decide

theorem digitValue_tolower (b : UInt8) : digitValue (tolower b) = digitValue b := by
  unfold tolower
  split
  · rename_i hupper
    simp only [UInt8.le_iff_toNat_le, UInt8.reduceToNat] at hupper
    have hsum : (b + 32).toNat = b.toNat + 32 := by
      have hadd : (b + 32).toNat = (b.toNat + 32) % 2 ^ 8 := UInt8.toNat_add b 32
      omega
    simp only [digitValue, UInt8.le_iff_toNat_le, UInt8.reduceToNat, hsum]
    rw [if_neg (by omega), if_pos (by omega), if_neg (by omega), if_neg (by omega),
      if_pos (by omega)]
    congr 1
  · rfl

theorem le_of_digitValue {b : UInt8} {d : Nat} (h : digitValue b = some d) : 48 ≤ b.toNat := by
  unfold digitValue at h
  simp only [UInt8.le_iff_toNat_le, UInt8.reduceToNat] at h
  split at h
  · omega
  · split at h
    · omega
    · split at h
      · omega
      · cases h

/-- A digit is no blank. -/
theorem isSpace_of_digitValue {b : UInt8} {d : Nat} (h : digitValue b = some d) :
    isSpace b = false := by
  have hlow := le_of_digitValue h
  have hblank : b ≠ 32 := by
    rintro rfl
    exact absurd hlow (by decide)
  have hcontrol : ¬ b ≤ 13 := by
    intro hle
    exact absurd (Nat.le_trans hlow hle) (by decide)
  simp [isSpace, hblank, hcontrol]

/-- A digit is no sign. -/
theorem signOf_of_digitValue {b : UInt8} {d : Nat} (rest : List UInt8)
    (h : digitValue b = some d) : signOf (b :: rest) = (false, 0) := by
  unfold signOf
  split
  · rename_i heq
    cases heq
    cases h
  · rename_i heq
    cases heq
    cases h
  · rfl

theorem leadingDigits_of_digits {radix : Nat} {text : List UInt8} {ds : List Nat}
    (htext : text.map digitValue = ds.map some) (hds : ∀ d ∈ ds, d < radix) :
    leadingDigits radix text = ds := by
  induction text generalizing ds with
  | nil =>
      obtain rfl : ds = [] := by simpa using htext.symm
      rfl
  | cons b rest ih =>
      cases ds with
      | nil => cases htext
      | cons d ds =>
          obtain ⟨hb, hrest⟩ := List.cons.inj htext
          have hd : d < radix := hds d List.mem_cons_self
          have htail := ih hrest fun e he => hds e (List.mem_cons_of_mem d he)
          simp only [leadingDigits, hb, hd, if_true, htail]

/-- Digits carry no mark of the radix: the `x` would be a digit of 33. -/
theorem radixOf_of_digits {text : List UInt8} {ds : List Nat}
    (htext : text.map digitValue = ds.map some) (hds : ∀ d ∈ ds, d < 16) :
    radixOf 16 text = (16, 0) := by
  unfold radixOf
  split
  · rename_i x rest
    have hmark : tolower x ≠ 120 := by
      intro hx
      have hvalue : digitValue x = some 33 := by
        rw [← digitValue_tolower, hx]
        rfl
      have hmem : some 33 ∈ ds.map some := by
        rw [← htext, ← hvalue]
        exact List.mem_map_of_mem (List.mem_cons_of_mem 48 List.mem_cons_self)
      obtain ⟨d, hd, hd33⟩ := List.mem_map.mp hmem
      exact absurd (hds d hd) (by rw [Option.some.inj hd33]; decide)
    rw [if_neg fun hboth => hmark hboth.2.1]
    rfl
  · rfl
  · rfl

theorem strtol_of_digits (longBits : Nat) {text : List UInt8} {ds : List Nat}
    (htext : text.map digitValue = ds.map some) (hds : ∀ d ∈ ds, d < 16) (hne : ds ≠ []) :
    strtol longBits 16 text = (saturate longBits (ofDigits 16 ds), ds.length) := by
  have hleading := leadingDigits_of_digits htext hds
  have hradix := radixOf_of_digits htext hds
  cases text with
  | nil => exact absurd (by simpa using htext.symm) hne
  | cons b rest =>
      obtain ⟨d, hd⟩ : ∃ d, digitValue b = some d := by
        cases ds with
        | nil => exact absurd rfl hne
        | cons d ds => exact ⟨d, (List.cons.inj htext).1⟩
      have hblanks : (b :: rest).takeWhile isSpace = [] := by
        rw [List.takeWhile_cons, isSpace_of_digitValue hd]
        rfl
      have hsign := signOf_of_digitValue rest hd
      simp only [strtol, hblanks, List.length_nil, List.drop_zero, hsign, hradix, hleading, hne,
        if_false, Bool.false_eq_true, Nat.zero_add]

theorem saturate_natCast (longBits n : Nat) :
    saturate longBits n = min n (2 ^ (longBits - 1) - 1 : Nat) := by
  have hlimit : 0 < 2 ^ (longBits - 1) := Nat.two_pow_pos _
  unfold saturate
  omega

/-! ## Printed numbers -/

/-- A number in decimal, as `%d` prints it. -/
def decimal (n : Nat) : List UInt8 := (Nat.toDigits 10 n).map fun c => UInt8.ofNat c.toNat

theorem nul_not_mem_decimal (n : Nat) : 0 ∉ decimal n := by
  intro hmem
  obtain ⟨c, hc, hbyte⟩ := List.mem_map.mp hmem
  have hdigit := Nat.isDigit_of_mem_toDigits (by decide) (by decide) hc
  rw [Char.isDigit, Bool.and_eq_true, decide_eq_true_eq, decide_eq_true_eq] at hdigit
  have hlow : 48 ≤ c.toNat := hdigit.1
  have hhigh : c.toNat ≤ 57 := hdigit.2
  have hzero := congrArg UInt8.toNat hbyte
  rw [UInt8.toNat_ofNat_of_lt' (Nat.lt_of_le_of_lt hhigh (by decide))] at hzero
  exact absurd hzero (by rw [UInt8.toNat_zero]; omega)

/-- A byte as two hexadecimal digits, as `%02x` prints it. -/
def hexByte (b : UInt8) : List UInt8 :=
  [b / 16, b % 16].map fun d => if d < 10 then 48 + d else 87 + d

theorem nul_not_mem_hexByte (b : UInt8) : 0 ∉ hexByte b := by
  have hdigit : ∀ d : UInt8, d < 16 → (0 : UInt8) ≠ if d < 10 then 48 + d else 87 + d := by
    intro d hd hzero
    have hvalue := congrArg UInt8.toNat hzero
    rw [UInt8.lt_iff_toNat_lt] at hd
    split at hvalue <;> rw [UInt8.toNat_add] at hvalue <;> simp at hd hvalue <;> omega
  have hhigh : b / 16 < 16 := by
    rw [UInt8.lt_iff_toNat_lt, UInt8.toNat_div]
    have hbyte := b.toNat_lt
    simp
    omega
  have hlow : b % 16 < 16 := by
    rw [UInt8.lt_iff_toNat_lt, UInt8.toNat_mod]
    simp
    omega
  intro hmem
  rcases List.mem_cons.mp hmem with hzero | hmem
  · exact hdigit _ hhigh hzero
  · exact hdigit _ hlow (List.mem_singleton.mp hmem)

/-- A hexadecimal digit, as `%x` prints it. -/
def hexDigit (d : Nat) : UInt8 := UInt8.ofNat (if d < 10 then 48 + d else 87 + d)

/-- The last `k` hexadecimal digits of a number, in reading order. -/
def hexDigits : Nat → Nat → List Nat
  | 0, _ => []
  | k + 1, n => hexDigits k (n / 16) ++ [n % 16]

/-- These digits as text; all of a number below `16 ^ k`, as `%0*x` prints it. -/
def hexText (k n : Nat) : List UInt8 := (hexDigits k n).map hexDigit

theorem length_hexDigits (k n : Nat) : (hexDigits k n).length = k := by
  induction k generalizing n with
  | zero => rfl
  | succ k ih => rw [hexDigits, List.length_append, ih, List.length_singleton]

theorem lt_of_mem_hexDigits {k n d : Nat} (hd : d ∈ hexDigits k n) : d < 16 := by
  induction k generalizing n with
  | zero => cases hd
  | succ k ih =>
      rcases List.mem_append.mp hd with hfront | hlast
      · exact ih hfront
      · rw [List.mem_singleton.mp hlast]
        exact Nat.mod_lt n (by decide)

theorem hexDigits_append (j k n : Nat) :
    hexDigits (j + k) n = hexDigits j (n / 16 ^ k) ++ hexDigits k n := by
  induction k generalizing n with
  | zero => simp [hexDigits]
  | succ k ih =>
      rw [← Nat.add_assoc, hexDigits, ih, hexDigits, List.append_assoc, Nat.div_div_eq_div_mul,
        Nat.pow_succ']

theorem ofDigits_hexDigits (k n : Nat) : ofDigits 16 (hexDigits k n) = n % 16 ^ k := by
  induction k generalizing n with
  | zero => exact (Nat.mod_one n).symm
  | succ k ih =>
      have hstep : ofDigits 16 (hexDigits (k + 1) n) =
          ofDigits 16 (hexDigits k (n / 16)) * 16 + n % 16 :=
        List.foldl_append
      rw [hstep, ih, Nat.pow_succ', Nat.mod_mul]
      omega

theorem digitValue_hexDigit {d : Nat} (hd : d < 16) : digitValue (hexDigit d) = some d := by
  have hall : ∀ d < 16, digitValue (hexDigit d) = some d := by decide
  exact hall d hd

theorem length_of_hexText {text : List UInt8} {k n : Nat} (htext : text.map tolower = hexText k n) :
    text.length = k := by
  rw [← List.length_map tolower, htext, hexText, List.length_map, length_hexDigits]

/-- The digits read back are the digits printed, in either letter case. -/
theorem map_digitValue_of_hexText {text : List UInt8} {k n : Nat}
    (htext : text.map tolower = hexText k n) : text.map digitValue = (hexDigits k n).map some := by
  have hlower : text.map digitValue = (text.map tolower).map digitValue := by
    rw [List.map_map]
    exact List.map_congr_left fun b _ => (digitValue_tolower b).symm
  rw [hlower, htext, hexText, List.map_map]
  exact List.map_congr_left fun d hd => digitValue_hexDigit (lt_of_mem_hexDigits hd)

/-- `strtol` on a number printed with `k` hexadecimal digits. -/
theorem strtol_hexText (longBits : Nat) {text : List UInt8} {k n : Nat} (hk : k ≠ 0)
    (htext : text.map tolower = hexText k n) :
    strtol longBits 16 text = (saturate longBits (n % 16 ^ k : Nat), k) := by
  have hne : hexDigits k n ≠ [] := by
    intro hnil
    exact hk (by rw [← length_hexDigits k n, hnil, List.length_nil])
  have hdigits := map_digitValue_of_hexText htext
  rw [strtol_of_digits longBits hdigits (fun _ => lt_of_mem_hexDigits) hne, ofDigits_hexDigits,
    length_hexDigits]

end MediatekCommon.Foundation
