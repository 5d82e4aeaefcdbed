/-
  Foundation/BoundedPrint.lean --- a report printed piece by piece into a buffer.

  C code that builds a text in a buffer keeps a cursor `pos` and an `end`, prints each
  piece by `snprintf(pos, end - pos, ...)`, gives up as soon as a piece does not fit,
  and moves the cursor on.  `Prints x text a` says what such a sequence of prints comes
  to: when the whole text fits it stores the text and a NUL, moves the cursor behind
  the text and yields `a`; when it does not the sequence is given up, with nothing
  stored behind the end of the buffer.  It composes (`Prints.bind`), so that a function
  of many prints is one application of it after the other.

  The state also has a log, for what the arguments of the prints are read from.
-/
import Mathlib.Data.List.Basic
import MediatekCommon.Foundation.Faulting

set_option autoImplicit false

namespace MediatekCommon.Foundation

variable {ρ α γ : Type}

/-! ## Memory -/

/-- The memory once these bytes have been stored from `pos` on. -/
def storeBytes (mem : Nat → UInt8) (pos : Nat) (bytes : List UInt8) : Nat → UInt8 := fun i =>
  if i < pos then mem i else (bytes[i - pos]?).getD (mem i)

/-- What `snprintf(pos, size, ...)` of this text leaves: as much of it as leaves room for
the NUL, and the NUL. -/
def snprintfAt (mem : Nat → UInt8) (pos size : Nat) (text : List UInt8) : Nat → UInt8 :=
  if size = 0 then mem else storeBytes mem pos (text.take (size - 1) ++ [0])

theorem storeBytes_of_lt {mem : Nat → UInt8} {pos i : Nat} (h : i < pos) (bytes : List UInt8) :
    storeBytes mem pos bytes i = mem i := if_pos h

theorem storeBytes_of_le {mem : Nat → UInt8} {pos i : Nat} {bytes : List UInt8}
    (h : pos + bytes.length ≤ i) : storeBytes mem pos bytes i = mem i := by
  have hnone : bytes[i - pos]? = none := List.getElem?_eq_none (by omega)
  simp [storeBytes, hnone]

theorem storeBytes_add (mem : Nat → UInt8) (pos i : Nat) (bytes : List UInt8) :
    storeBytes mem pos bytes (pos + i) = (bytes[i]?).getD (mem (pos + i)) := by
  rw [storeBytes, if_neg (by omega), Nat.add_sub_cancel_left]

/-- Behind the end of the buffer nothing is stored. -/
theorem snprintfAt_of_le {mem : Nat → UInt8} {pos size i : Nat} (h : pos + size ≤ i)
    (text : List UInt8) : snprintfAt mem pos size text i = mem i := by
  unfold snprintfAt
  split
  · rfl
  · refine storeBytes_of_le ?_
    simp only [List.length_append, List.length_take, List.length_singleton]
    omega

theorem snprintfAt_of_fits {mem : Nat → UInt8} {pos size : Nat} {text : List UInt8}
    (h : text.length < size) : snprintfAt mem pos size text = storeBytes mem pos (text ++ [0]) := by
  rw [snprintfAt, if_neg (by omega), List.take_of_length_le (by omega)]

/-- A text stored over the NUL of the text before it. -/
theorem storeBytes_storeBytes (mem : Nat → UInt8) (pos : Nat) (front back : List UInt8) :
    storeBytes (storeBytes mem pos (front ++ [0])) (pos + front.length) (back ++ [0]) =
      storeBytes mem pos (front ++ back ++ [0]) := by
  funext i
  rcases Nat.lt_or_ge i (pos + front.length) with hfront | hback
  · rw [storeBytes_of_lt hfront]
    rcases Nat.lt_or_ge i pos with hi | hi
    · rw [storeBytes_of_lt hi, storeBytes_of_lt hi]
    · obtain ⟨j, rfl⟩ := Nat.exists_eq_add_of_le hi
      have hj : j < front.length := by omega
      rw [storeBytes_add, storeBytes_add, List.append_assoc, List.getElem?_append_left hj,
        List.getElem?_append_left hj]
  · obtain ⟨j, rfl⟩ := Nat.exists_eq_add_of_le hback
    rw [storeBytes_add, Nat.add_assoc, storeBytes_add, storeBytes_add, List.append_assoc,
      List.getElem?_append_right (Nat.le_add_right _ _),
      List.getElem?_append_right (Nat.le_add_right _ _), Nat.add_sub_cancel_left]
    -- The NUL of the first text is overwritten by the first byte of the second or its NUL.
    cases hbyte : (back ++ [0])[j]? with
    | some byte => rfl
    | none =>
        have hnul : ([0] : List UInt8)[j]? = none := by
          rw [List.getElem?_eq_none_iff, List.length_append, List.length_singleton] at hbyte
          exact List.getElem?_eq_none (by simp; omega)
        rw [hnul]
        rfl

/-- The memory once this text and a NUL have been stored, or nothing has. -/
def storeText (mem : Nat → UInt8) (pos : Nat) (text : List UInt8) : Nat → UInt8 :=
  if text = [] then mem else storeBytes mem pos (text ++ [0])

@[simp] theorem storeText_nil (mem : Nat → UInt8) (pos : Nat) : storeText mem pos [] = mem := rfl

theorem storeText_of_ne_nil (mem : Nat → UInt8) (pos : Nat) {text : List UInt8} (h : text ≠ []) :
    storeText mem pos text = storeBytes mem pos (text ++ [0]) := if_neg h

theorem storeText_storeText (mem : Nat → UInt8) (pos : Nat) (front back : List UInt8) :
    storeText (storeText mem pos front) (pos + front.length) back =
      storeText mem pos (front ++ back) := by
  by_cases hfront : front = []
  · simp [hfront]
  · by_cases hback : back = []
    · simp [hback]
    · rw [storeText_of_ne_nil mem pos hfront, storeText_of_ne_nil _ _ hback,
        storeText_of_ne_nil mem pos (by simp [hfront]), storeBytes_storeBytes]

/-- The text itself, in the memory it has been stored in. -/
theorem storeText_add {mem : Nat → UInt8} {pos i : Nat} {text : List UInt8}
    (h : i < text.length) : storeText mem pos text (pos + i) = text[i] := by
  rw [storeText_of_ne_nil mem pos (List.ne_nil_of_length_pos (by omega)), storeBytes_add,
    List.getElem?_append_left h, List.getElem?_eq_getElem h]
  rfl

/-- The NUL behind it. -/
theorem storeText_add_length {mem : Nat → UInt8} {pos : Nat} {text : List UInt8}
    (h : text ≠ []) : storeText mem pos text (pos + text.length) = 0 := by
  rw [storeText_of_ne_nil mem pos h, storeBytes_add]
  simp

theorem storeText_of_lt {mem : Nat → UInt8} {pos i : Nat} {text : List UInt8}
    (h : pos + text.length < i) : storeText mem pos text i = mem i := by
  unfold storeText
  split
  · rfl
  · exact storeBytes_of_le (by simp; omega)

/-! ## Printing -/

/-- The memory from `buf` on, the cursor, and the log, oldest entry first. -/
structure Output (ρ : Type) where
  mem : Nat → UInt8
  pos : Nat
  log : List ρ

/-- Prints into a buffer; a print that does not fit ends them. -/
abbrev Printer (ρ : Type) : Type → Type := Faulting (Output ρ) Unit

/-- Log an entry. -/
def note (entry : ρ) : Printer ρ Unit :=
  Faulting.modify fun s => { s with log := s.log ++ [entry] }

/-- `ret = snprintf(pos, end - pos, ...); if (ret < 0 || ret >= end - pos) return 0;
pos += ret;` with `end` at `buflen`. -/
def printBounded (buflen : Nat) (text : List UInt8) : Printer ρ Unit := do
  let s ← Faulting.get
  let ret : Int := text.length
  Faulting.modify fun s => { s with mem := snprintfAt s.mem s.pos (buflen - s.pos) text }
  if ret < 0 ∨ (buflen : Int) - s.pos ≤ ret then Faulting.fault ()
  else Faulting.modify fun s => { s with pos := s.pos + text.length }

/-- With room for the text and its NUL the text is stored and the cursor moves on. -/
theorem run_printBounded_of_fits {buflen : Nat} {text : List UInt8} {s : Output ρ}
    (h : s.pos + text.length < buflen) :
    (printBounded buflen text).run s =
      (.ok (), { s with mem := storeBytes s.mem s.pos (text ++ [0]),
                        pos := s.pos + text.length }) := by
  have hroom : ¬ ((text.length : Int) < 0 ∨ (buflen : Int) - s.pos ≤ text.length) := by omega
  simp only [printBounded, Faulting.run_bind, Faulting.run_get, Faulting.run_modify,
    if_neg hroom, snprintfAt_of_fits (show text.length < buflen - s.pos by omega)]

/-- Without it the prints end. -/
theorem run_printBounded_of_truncated {buflen : Nat} {text : List UInt8} {s : Output ρ}
    (h : buflen ≤ s.pos + text.length) :
    (printBounded buflen text).run s =
      (.error (), { s with mem := snprintfAt s.mem s.pos (buflen - s.pos) text }) := by
  have hroom : (text.length : Int) < 0 ∨ (buflen : Int) - s.pos ≤ text.length := by omega
  simp only [printBounded, Faulting.run_bind, Faulting.run_get, Faulting.run_modify,
    if_pos hroom, Faulting.run_fault]

/-! ## What a sequence of prints comes to -/

/-- There is room at `pos` for the text and its NUL, or there is no text. -/
def Fits (buflen pos : Nat) (text : List UInt8) : Prop :=
  text = [] ∨ pos + text.length < buflen

instance (buflen pos : Nat) (text : List UInt8) : Decidable (Fits buflen pos text) :=
  inferInstanceAs (Decidable (_ ∨ _))

/-- `x` prints `text` and yields `a`, or is given up. -/
def Prints (buflen : Nat) (x : Printer ρ α) (text : List UInt8) (a : α) : Prop :=
  ∀ s : Output ρ, s.pos ≤ buflen →
    (Fits buflen s.pos text →
      (x.run s).1 = .ok a ∧ (x.run s).2.pos = s.pos + text.length ∧
        (x.run s).2.mem = storeText s.mem s.pos text) ∧
    (¬ Fits buflen s.pos text →
      (x.run s).1 = .error () ∧ ∀ i, buflen ≤ i → (x.run s).2.mem i = s.mem i)

variable {buflen : Nat}

theorem fits_nil (pos : Nat) : Fits buflen pos [] := .inl rfl

theorem fits_iff_of_ne_nil {pos : Nat} {text : List UInt8} (h : text ≠ []) :
    Fits buflen pos text ↔ pos + text.length < buflen := by
  simp [Fits, h]

theorem fits_append {pos : Nat} {front back : List UInt8} :
    Fits buflen pos (front ++ back) ↔
      Fits buflen pos front ∧ Fits buflen (pos + front.length) back := by
  by_cases hfront : front = []
  · simp [hfront, fits_nil]
  · by_cases hback : back = []
    · simp [hback, fits_nil]
    · rw [fits_iff_of_ne_nil (by simp [hfront]), fits_iff_of_ne_nil hfront,
        fits_iff_of_ne_nil hback, List.length_append]
      omega

/-- A text that fits leaves what is behind the buffer. -/
theorem storeText_of_fits {mem : Nat → UInt8} {pos i : Nat} {text : List UInt8}
    (h : Fits buflen pos text) (hi : buflen ≤ i) : storeText mem pos text i = mem i := by
  rcases h with rfl | hroom
  · rfl
  · exact storeText_of_lt (by omega)

theorem prints_pure (a : α) : Prints buflen (pure a : Printer ρ α) [] a := fun s _ =>
  ⟨fun _ => ⟨rfl, rfl, rfl⟩, fun h => absurd (fits_nil s.pos) h⟩

theorem prints_note (entry : ρ) : Prints buflen (note entry) [] () := fun s _ =>
  ⟨fun _ => ⟨rfl, rfl, rfl⟩, fun h => absurd (fits_nil s.pos) h⟩

theorem prints_printBounded {text : List UInt8} (h : text ≠ []) :
    Prints buflen (printBounded buflen text : Printer ρ Unit) text () := by
  intro s hpos
  rw [fits_iff_of_ne_nil h]
  constructor
  · intro hfits
    rw [run_printBounded_of_fits hfits, storeText_of_ne_nil s.mem s.pos h]
    exact ⟨rfl, rfl, rfl⟩
  · intro htruncated
    rw [run_printBounded_of_truncated (Nat.le_of_not_lt htruncated)]
    exact ⟨rfl, fun i hi => snprintfAt_of_le (by omega) text⟩

/-- The texts of two sequences stand one behind the other. -/
theorem Prints.bind {x : Printer ρ α} {f : α → Printer ρ γ} {front back : List UInt8} {a : α}
    {b : γ} (hx : Prints buflen x front a) (hf : Prints buflen (f a) back b) :
    Prints buflen (x >>= f) (front ++ back) b := by
  intro s hpos
  obtain ⟨hfits, htruncated⟩ := hx s hpos
  rw [fits_append]
  cases hrun : x.run s with
  | mk result s' =>
      rw [hrun] at hfits htruncated
      by_cases hfront : Fits buflen s.pos front
      · obtain ⟨rfl, hpos', hmem'⟩ := hfits hfront
        dsimp only at hpos' hmem'
        have hle : s'.pos ≤ buflen := by
          rcases hfront with rfl | hroom
          · simpa [hpos'] using hpos
          · omega
        obtain ⟨hfits, htruncated⟩ := hf s' hle
        rw [hpos', hmem'] at hfits htruncated
        rw [Faulting.run_bind_of_ok hrun, List.length_append, ← Nat.add_assoc,
          ← storeText_storeText]
        refine ⟨fun hall => hfits hall.2, fun hall => ?_⟩
        obtain ⟨herror, hmem⟩ := htruncated fun hback => hall ⟨hfront, hback⟩
        refine ⟨herror, fun i hi => ?_⟩
        rw [hmem i hi, storeText_of_fits hfront hi]
      · obtain ⟨rfl, hmem⟩ := htruncated hfront
        rw [Faulting.run_bind_of_error hrun]
        exact ⟨fun hall => absurd hall.1 hfront, fun _ => ⟨rfl, hmem⟩⟩

/-- A sequence that prints a list of texts, taken from its front. -/
theorem Prints.cons {x : Printer ρ α} {f : α → Printer ρ γ} {text : List UInt8}
    {texts : List (List UInt8)} {a : α} {b : γ} (hx : Prints buflen x text a)
    (hf : Prints buflen (f a) texts.flatten b) :
    Prints buflen (x >>= f) (text :: texts).flatten b :=
  hx.bind hf

theorem Prints.singleton {x : Printer ρ α} {text : List UInt8} {a : α}
    (hx : Prints buflen x text a) : Prints buflen x [text].flatten a := by
  simpa using hx

/-- What prints nothing does not count. -/
theorem Prints.bind_of_nil {x : Printer ρ α} {f : α → Printer ρ γ} {text : List UInt8} {a : α}
    {b : γ} (hx : Prints buflen x [] a) (hf : Prints buflen (f a) text b) :
    Prints buflen (x >>= f) text b :=
  hx.bind hf

/-! ## What is logged -/

/-- Every entry logged satisfies `P`. -/
def LogsOnly (P : ρ → Prop) (x : Printer ρ α) : Prop :=
  Faulting.Keeps (fun s _ s' => (∀ entry ∈ s.log, P entry) → ∀ entry ∈ s'.log, P entry) x

/-- Nothing is logged. -/
def LogsNothing (x : Printer ρ α) : Prop := Faulting.Keeps (fun s _ s' => s'.log = s.log) x

variable {P : ρ → Prop}

instance : Faulting.Composes (ε := Unit)
    (fun (s : Output ρ) _ s' => (∀ entry ∈ s.log, P entry) → ∀ entry ∈ s'.log, P entry) where
  refl _ h := h
  trans _ _ _ _ h h' hs := h' (h hs)

instance : Faulting.Composes (ε := Unit) (fun (s : Output ρ) _ s' => s'.log = s.log) where
  refl _ := rfl
  trans _ _ _ _ h h' := h'.trans h

theorem LogsNothing.bind {x : Printer ρ α} {f : α → Printer ρ γ} (hx : LogsNothing x)
    (hf : ∀ a, LogsNothing (f a)) : LogsNothing (x >>= f) := Faulting.Keeps.bind hx hf

theorem logsNothing_printBounded (buflen : Nat) (text : List UInt8) :
    LogsNothing (printBounded buflen text : Printer ρ Unit) := by
  intro s
  rcases Nat.lt_or_ge (s.pos + text.length) buflen with hfits | htruncated
  · rw [run_printBounded_of_fits hfits]
  · rw [run_printBounded_of_truncated htruncated]

theorem LogsNothing.mem_log {x : Printer ρ α} (h : LogsNothing x) {entry : ρ} {s : Output ρ}
    (hentry : entry ∈ s.log) : entry ∈ (x.run s).2.log := by
  rw [h s]
  exact hentry

theorem LogsNothing.logsOnly {x : Printer ρ α} (h : LogsNothing x) : LogsOnly P x := by
  intro s hs entry hentry
  rw [h s] at hentry
  exact hs entry hentry

theorem logsOnly_pure (a : α) : LogsOnly P (pure a : Printer ρ α) := Faulting.keeps_pure a

theorem logsOnly_note {entry : ρ} (h : P entry) : LogsOnly P (note entry) := by
  intro s hs e he
  rcases List.mem_append.mp he with hold | hnew
  · exact hs e hold
  · rwa [List.mem_singleton.mp hnew]

theorem logsOnly_printBounded (buflen : Nat) (text : List UInt8) :
    LogsOnly P (printBounded buflen text) := (logsNothing_printBounded buflen text).logsOnly

theorem LogsOnly.bind {x : Printer ρ α} {f : α → Printer ρ γ} (hx : LogsOnly P x)
    (hf : ∀ a, LogsOnly P (f a)) : LogsOnly P (x >>= f) := Faulting.Keeps.bind hx hf

theorem LogsOnly.bind_of_yields {x : Printer ρ α} {f : α → Printer ρ γ} {a : α}
    (hx : LogsOnly P x) (hyields : Faulting.Yields x a) (hf : LogsOnly P (f a)) :
    LogsOnly P (x >>= f) := Faulting.Keeps.bind_of_yields hx hyields hf

end MediatekCommon.Foundation
