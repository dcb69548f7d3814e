import Mathlib.Algebra.GroupWithZero.Nat
import Mathlib.Data.List.Induction
import WorkQueue.Timestamp.Text

/-!
# Decimal fields of texts

The fields of an instant's text are numbers padded with zeros. Each is read back at its own width,
and what follows it is left to the next field.

## Main statements

* `Timestamp.digitsValue_padded`, `Timestamp.length_padded`: what a field spells, and its width
* `Timestamp.takeNumber?_digits`: a run of digits at the head of a text
* `Timestamp.takePart?_padded`: a field after which anything may follow
-/

namespace WorkQueue

namespace Binary64

variable {c : Char} {cs ds : List Char}

theorem isDigit_eq : isDigit c = c.isDigit := by
  rw [Bool.eq_iff_iff]
  simp only [isDigit, digit?, Char.isDigit, Bool.and_eq_true, decide_eq_true_eq]
  split
  · rename_i h
    exact iff_of_true rfl h
  · rename_i h
    exact iff_of_false Bool.false_ne_true h

theorem toNat_of_isDigit (h : isDigit c = true) : 48 ≤ c.toNat ∧ c.toNat ≤ 57 := by
  simp only [isDigit_eq, Char.isDigit, Bool.and_eq_true, decide_eq_true_eq] at h
  exact h

theorem digit?_eq (h : isDigit c = true) : digit? c = some (c.toNat - 48) := by
  rw [digit?, if_pos]
  · rfl
  · exact toNat_of_isDigit h

theorem not_isBlankChar (h : isDigit c = true) : Text.isBlankChar c = false := by
  have := toNat_of_isDigit h
  simp only [Text.isBlankChar, Text.blankRanges, List.any_cons, List.any_nil, Bool.or_false,
    Bool.or_eq_false_iff, Bool.and_eq_false_iff, decide_eq_false_iff_not]
  omega

/-- Digits spell what the core library reads from them. -/
theorem foldl_digits (h : ∀ c ∈ ds, isDigit c = true) (n : Nat) :
    ds.foldl (fun n c => n * 10 + (digit? c).getD 0) n = Nat.ofDigitChars 10 ds n := by
  induction ds generalizing n with
  | nil => simp
  | cons c ds ih =>
    rw [List.foldl_cons, ih fun c hc => h c (List.mem_cons_of_mem _ hc), Nat.ofDigitChars_cons,
      digit?_eq (h c List.mem_cons_self), Nat.mul_comm]
    rfl

theorem digitsValue_lt (h : ∀ c ∈ ds, isDigit c = true) : digitsValue ds < 10 ^ ds.length := by
  induction ds using List.reverseRecOn with
  | nil => simp [digitsValue]
  | append_singleton ds c ih =>
    have hc := h c (by simp)
    have := toNat_of_isDigit hc
    have := ih fun d hd => h d (List.mem_append_left _ hd)
    simp only [digitsValue, List.foldl_append, List.foldl_cons, List.foldl_nil, digit?_eq hc,
      Option.getD_some, List.length_append, List.length_singleton, Nat.pow_succ] at *
    omega

end Binary64

namespace Timestamp

open Binary64 (isDigit digitsValue)

variable {width n : Nat} {ds rest : List Char}

theorem toList_padded (width n : Nat) : (padded width n).toList =
    List.replicate (width - (Nat.toDigits 10 n).length) '0' ++ Nat.toDigits 10 n := by
  simp [padded, ← String.length_toList]

theorem isDigit_of_mem_padded {c : Char} (h : c ∈ (padded width n).toList) :
    isDigit c = true := by
  rw [toList_padded, List.mem_append] at h
  rcases h with h | h
  · rw [List.eq_of_mem_replicate h]
    decide
  · rw [Binary64.isDigit_eq]
    exact Nat.isDigit_of_mem_toDigits (by decide) (by decide) h

theorem padded_ne_nil : (padded width n).toList ≠ [] := by
  simp [toList_padded]

@[simp] theorem padded_ne_empty : padded width n ≠ "" := by
  rw [Ne, ← String.toList_eq_nil_iff]
  exact padded_ne_nil

theorem digitsValue_padded : digitsValue (padded width n).toList = n := by
  rw [digitsValue, Binary64.foldl_digits fun _ => isDigit_of_mem_padded, toList_padded,
    Nat.ofDigitChars_append, Nat.ofDigitChars_replicate_zero, Nat.mul_zero,
    Nat.ofDigitChars_ten_toDigits]

theorem length_padded (hwidth : 0 < width) (hn : n < 10 ^ width) :
    (padded width n).toList.length = width := by
  have := (Nat.length_toDigits_le_iff (by decide) hwidth).2 hn
  simp only [toList_padded, List.length_append, List.length_replicate]
  omega

/-- A run of digits is a number, when it has the full width or something else follows. -/
theorem takeNumber?_digits (hds : ∀ c ∈ ds, isDigit c = true) (hne : ds ≠ [])
    (hwidth : ds.length ≤ width)
    (hrest : ds.length = width ∨ ∃ c cs, rest = c :: cs ∧ isDigit c = false) :
    takeNumber? width (ds ++ rest) = some (digitsValue ds, rest) := by
  have htake : ((ds ++ rest).take width).takeWhile isDigit = ds := by
    rw [List.take_append, List.take_of_length_le hwidth, List.takeWhile_append_of_pos hds]
    rcases hrest with rfl | ⟨c, cs, rfl, hc⟩
    · simp
    · cases width - ds.length <;> simp [hc]
  simp [takeNumber?, htake, hne]

theorem dropBlank_digits (hds : ∀ c ∈ ds, isDigit c = true) (hne : ds ≠ []) :
    Text.dropBlank (ds ++ rest) = ds ++ rest := by
  obtain ⟨c, cs, rfl⟩ := List.exists_cons_of_ne_nil hne
  simp [Text.dropBlank, Binary64.not_isBlankChar (hds c List.mem_cons_self)]

/-- A padded field is read at its width, whatever follows. -/
theorem takePart?_padded (hwidth : 0 < width) (hn : n < 10 ^ width) :
    takePart? width ((padded width n).toList ++ rest) = some (n, rest) := by
  have hlength := length_padded hwidth hn
  have hdigits : ∀ c ∈ (padded width n).toList, isDigit c = true := fun _ => isDigit_of_mem_padded
  rw [takePart?, dropBlank_digits hdigits padded_ne_nil,
    takeNumber?_digits hdigits padded_ne_nil (Nat.le_of_eq hlength) (.inl hlength),
    digitsValue_padded]

end Timestamp

end WorkQueue
