import Mathlib.Data.List.TakeWhile
import Mathlib.Tactic.ByContra
import WorkQueue.Settings.Conversion
import WorkQueue.Settings.Sources

/-!
# Texts of variables

The text of a variable is taken for a truth value, an integer or a number if it looks like one. Where
a text is asked for the value is written out again, not always in the way it was spelled.

## Main definitions

* `Settings.rewritten`: the text that arrives where a text is asked for
* `Settings.Respelled`: a text that looks like a value and is not how that value is written
* `Settings.isValueChar`: the characters of truth values and numbers

## Main statements

* `Settings.rewritten_of_word?`, `Settings.rewritten_toString`: integers arrive in plain digits
* `Settings.rewritten_eq_self_iff`: texts that arrive as they are
* `Settings.rewritten_of_foreign`: a text with a character that no value has arrives as it is
-/

namespace WorkQueue.Settings

variable {text : String} {cs : List Char} {c : Char} {n : Int}

/-- The text that arrives when the text of a variable is guessed at and then written out. -/
def rewritten (text : String) : String :=
  match guess text with
  | .bool b => toString b
  | .integer n => toString n
  | .binary x => x.positional
  | _ => text

/-- What the text of a variable is taken for. -/
inductive Guessed (text : String) : Tree → Prop where
  | truth (b : Bool) (word : text.toLower = toString b) : Guessed text (.bool b)
  | integer (n : Int) (word : ∀ b : Bool, text.toLower ≠ toString b)
      (spelled : Text.word? 10 text.toList = some n) : Guessed text (.integer n)
  | number (x : Binary64) (word : ∀ b : Bool, text.toLower ≠ toString b)
      (whole : Text.word? 10 text.toList = none) (spelled : Binary64.ofText? text = some x) :
      Guessed text (.binary x)
  | text (word : ∀ b : Bool, text.toLower ≠ toString b)
      (whole : Text.word? 10 text.toList = none) (number : Binary64.ofText? text = none) :
      Guessed text (.text text)

theorem guessed_guess (text : String) : Guessed text (guess text) := by
  by_cases is_true : text.toLower = "true"
  · simpa [guess, is_true] using Guessed.truth true is_true
  by_cases is_false : text.toLower = "false"
  · simpa [guess, is_false] using Guessed.truth false is_false
  have word : ∀ b : Bool, text.toLower ≠ toString b
    | true => is_true
    | false => is_false
  cases whole : Text.word? 10 text.toList with
  | some n => simpa [guess, is_true, is_false, whole] using Guessed.integer n word whole
  | none =>
    cases number : Binary64.ofText? text with
    | some x => simpa [guess, is_true, is_false, whole, number] using .number x word whole number
    | none => simpa [guess, is_true, is_false, whole, number] using .text word whole number

theorem Guessed.guess_eq {tree : Tree} (guessed : Guessed text tree) : guess text = tree := by
  have undecided {tree : Tree} (word : ∀ b : Bool, text.toLower ≠ toString b) :
      (if text.toLower = "true" then .bool true
        else if text.toLower = "false" then .bool false else tree) = tree := by
    have is_true : text.toLower ≠ "true" := word true
    have is_false : text.toLower ≠ "false" := word false
    rw [if_neg is_true, if_neg is_false]
  cases guessed with
  | truth b word => rw [guess, word]; cases b <;> rfl
  | integer n word spelled => rw [guess, undecided word, spelled]
  | number x word whole spelled => rw [guess, undecided word, whole, spelled]
  | text word whole number => rw [guess, undecided word, whole, number]

/-- Where a text is asked for, what was guessed is written out. -/
theorem toText?_guess (text : String) : (guess text).toText? = some (rewritten text) := by
  have guessed := guessed_guess text
  rw [rewritten]
  generalize guess text = tree at guessed ⊢
  cases guessed with
  | truth b => cases b <;> rfl
  | integer | number | text => rfl

/-- What was guessed is not null. -/
theorem toOption?_guess (text : String) :
    (guess text).toOption? Tree.toText? = some (some (rewritten text)) := by
  have written := toText?_guess text
  generalize guess text = tree at written ⊢
  cases tree with
  | null => cases written
  | _ => exact congrArg (Option.map some) written

/-! ### Integers -/

theorem isDigit_iff : c.isDigit ↔ '0' ≤ c ∧ c ≤ '9' := by
  rw [Char.isDigit, Bool.and_eq_true, decide_eq_true_iff, decide_eq_true_iff]
  rfl

theorem isDigit_of_digit? {d : Nat} (digit : Text.digit? 10 c = some d) : c.isDigit := by
  by_contra letter
  rw [isDigit_iff] at letter
  rw [Text.digit?, if_neg letter, Option.ite_none_right_eq_some] at digit
  have small := digit.1
  split at small
  · omega
  · split at small <;> omega

theorem digit?_of_isDigit (digit : c.isDigit) : Text.digit? 10 c = some (c.toNat - '0'.toNat) := by
  have decimal := isDigit_iff.1 digit
  have zero : '0'.toNat = 48 := rfl
  have high : c.toNat ≤ 57 := decimal.2
  have small : c.toNat - '0'.toNat < 10 := by omega
  simp only [Text.digit?, if_pos decimal, if_pos small]

theorem toLower_of_isDigit (digit : c.isDigit) : c.toLower = c := by
  have high : c.val.toNat ≤ 57 := (isDigit_iff.1 digit).2
  unfold Char.toLower
  split
  · next upper =>
    have low : 65 ≤ c.val.toNat := upper.1
    omega
  · rfl

/-- The characters of a run of digits. -/
theorem isDigit_of_natural? {n : Nat} (spelled : Text.natural? 10 cs = some n) :
    ∀ c ∈ cs, c.isDigit := by
  rw [Text.natural?, Option.ite_none_left_eq_some] at spelled
  replace spelled := spelled.2
  generalize 0 = start at spelled
  induction cs generalizing start with
  | nil => simp
  | cons c cs ih =>
    rw [List.foldlM_cons] at spelled
    obtain ⟨next, digit, rest⟩ := Option.bind_eq_some_iff.1 spelled
    obtain ⟨d, digit, -⟩ := Option.map_eq_some_iff.1 digit
    exact List.forall_mem_cons.2 ⟨isDigit_of_digit? digit, ih _ rest⟩

/-- A run of digits is a numeral. -/
theorem natural?_of_isDigit (nonempty : cs ≠ []) (digits : ∀ c ∈ cs, c.isDigit) :
    Text.natural? 10 cs = some (Nat.ofDigitChars 10 cs 0) := by
  rw [Text.natural?, if_neg (by simpa using nonempty)]
  clear nonempty
  generalize 0 = start
  induction cs generalizing start with
  | nil => rfl
  | cons c cs ih =>
    obtain ⟨first, rest⟩ := List.forall_mem_cons.1 digits
    rw [List.foldlM_cons, digit?_of_isDigit first, Option.map_some, Option.bind_eq_bind,
      Option.bind_some, ih rest, Nat.mul_comm start]
    rfl

/-- A digit or a sign. -/
def IsIntegerChar (c : Char) : Prop := c.isDigit ∨ c = '+' ∨ c = '-'

theorem isIntegerChar_of_natural? {n : Nat} (spelled : Text.natural? 10 cs = some n) :
    ∀ c ∈ cs, IsIntegerChar c := fun c mem => .inl (isDigit_of_natural? spelled c mem)

/-- The characters of an integer. -/
theorem isIntegerChar_of_word? (spelled : Text.word? 10 cs = some n) :
    ∀ c ∈ cs, IsIntegerChar c := by
  obtain ⟨n, spelled, -⟩ := Option.bind_eq_some_iff.1 spelled
  unfold Text.signed? at spelled
  split at spelled
  · obtain ⟨_, spelled, -⟩ := Option.map_eq_some_iff.1 spelled
    obtain ⟨_, digits, -⟩ := Option.bind_eq_some_iff.1 spelled
    exact List.forall_mem_cons.2 ⟨.inr (.inr rfl), isIntegerChar_of_natural? digits⟩
  · obtain ⟨_, spelled, -⟩ := Option.map_eq_some_iff.1 spelled
    unfold Text.unsigned? at spelled
    split at spelled
    · exact List.forall_mem_cons.2 ⟨.inr (.inl rfl), isIntegerChar_of_natural? spelled⟩
    · exact isIntegerChar_of_natural? spelled

/-- An integer is no truth value: both of these have an `e`. -/
theorem toLower_ne_of_word? (spelled : Text.word? 10 text.toList = some n) (b : Bool) :
    text.toLower ≠ toString b := by
  intro word
  have lowered : text.map Char.toLower = toString b := word
  have letter : 'e' ∈ (toString b).toList := by cases b <;> simp [toString]
  rw [← lowered, String.toList_map] at letter
  obtain ⟨c, mem, lower⟩ := List.mem_map.1 letter
  rcases isIntegerChar_of_word? spelled c mem with digit | rfl | rfl
  · rw [toLower_of_isDigit digit] at lower
    subst lower
    exact absurd digit (by decide)
  · exact absurd lower (by decide)
  · exact absurd lower (by decide)

/-- An integer arrives in plain digits. -/
theorem rewritten_of_word? (spelled : Text.word? 10 text.toList = some n) :
    rewritten text = toString n := by
  rw [rewritten, (Guessed.integer n (toLower_ne_of_word? spelled) spelled).guess_eq]

theorem isDigit_of_mem_repr {n : Nat} (mem : c ∈ n.repr.toList) : c.isDigit := by
  rw [Nat.repr_eq_ofList_toDigits, String.toList_ofList] at mem
  exact Nat.isDigit_of_mem_toDigits (by decide) (by decide) mem

theorem natural?_repr (n : Nat) : Text.natural? 10 n.repr.toList = some n := by
  have digits : ∀ c ∈ n.repr.toList, c.isDigit := fun _ => isDigit_of_mem_repr
  rw [Nat.repr_eq_ofList_toDigits, String.toList_ofList] at digits ⊢
  rw [natural?_of_isDigit Nat.toDigits_ne_nil digits, Nat.ofDigitChars_ten_toDigits]

theorem signed?_of_isDigit {n : Nat} (digits : ∀ c ∈ cs, c.isDigit)
    (spelled : Text.natural? 10 cs = some n) : Text.signed? 10 cs = some (n : Int) := by
  have unsigned : Text.unsigned? 10 cs = some n := by
    unfold Text.unsigned?
    split
    · exact absurd (digits '+' (by simp)) (by decide)
    · exact spelled
  unfold Text.signed?
  split
  · exact absurd (digits '-' (by simp)) (by decide)
  · rw [unsigned]
    rfl

/-- The plain digits of an integer are read back. -/
theorem signed?_toString (n : Int) : Text.signed? 10 (toString n).toList = some n := by
  rw [Int.toString_eq_repr, Int.repr_eq_if]
  split
  · next nonneg =>
    rw [signed?_of_isDigit (fun _ => isDigit_of_mem_repr) (natural?_repr n.toNat),
      Int.toNat_of_nonneg nonneg]
  · next negative =>
    have minus : ("-" ++ (-n).toNat.repr).toList = '-' :: (-n).toNat.repr.toList := by simp
    have value : -((-n).toNat : Int) = n := by omega
    rw [minus, Text.signed?, natural?_repr]
    exact congrArg some value

/-- An integer in plain digits arrives as it is. -/
theorem rewritten_toString (low : IntRange.int64.lo ≤ n) (high : n ≤ IntRange.int64.hi) :
    rewritten (toString n) = toString n := by
  refine rewritten_of_word? ?_
  rw [Text.word?, signed?_toString, Option.bind_some, IntRange.keep?_eq_some_iff]
  exact ⟨rfl, low, high⟩

/-! ### Texts that arrive as they are -/

/-- A text looks like a value, and is not how that value is written. -/
inductive Respelled (text : String) : Prop where
  | truth (b : Bool) (word : text.toLower = toString b) (other : toString b ≠ text)
  | integer (n : Int) (spelled : Text.word? 10 text.toList = some n) (other : toString n ≠ text)
  | number (x : Binary64) (word : ∀ b : Bool, text.toLower ≠ toString b)
      (whole : Text.word? 10 text.toList = none) (spelled : Binary64.ofText? text = some x)
      (other : x.positional ≠ text)

/-- A text arrives as it is unless it is another spelling of a value. -/
theorem rewritten_eq_self_iff : rewritten text = text ↔ ¬ Respelled text := by
  constructor
  · intro same respelled
    cases respelled with
    | truth b word other => exact other (by rwa [rewritten, (Guessed.truth b word).guess_eq] at same)
    | integer n spelled other => exact other (by rwa [rewritten_of_word? spelled] at same)
    | number x word whole spelled other =>
      exact other (by rwa [rewritten, (Guessed.number x word whole spelled).guess_eq] at same)
  · intro plain
    have guessed := guessed_guess text
    rw [rewritten]
    generalize guess text = tree at guessed
    by_contra other
    cases guessed with
    | truth b word => exact plain (.truth b word other)
    | integer n word spelled => exact plain (.integer n spelled other)
    | number x word whole spelled => exact plain (.number x word whole spelled other)
    | text => exact other rfl

/-- The letters of truth values, exponents, and the names of what is not finite. -/
def valueLetters : List Char := ['a', 'e', 'f', 'i', 'l', 'n', 'r', 's', 't', 'u', 'y']

/-- The characters of truth values and numbers. -/
def isValueChar (c : Char) : Bool :=
  c.isDigit || c ∈ ['+', '-', '.'] || c.toLower ∈ valueLetters

theorem isValueChar_of_isDigit (digit : c.isDigit) : isValueChar c := by simp [isValueChar, digit]

theorem isValueChar_of_letter (letter : c.toLower ∈ valueLetters) : isValueChar c := by
  simp only [isValueChar, letter, decide_true, Bool.or_true]

/-- The characters of a word in any case. -/
theorem isValueChar_of_toLower {word : String} (letters : ∀ c ∈ word.toList, c ∈ valueLetters)
    (spelled : (String.ofList cs).toLower = word) (mem : c ∈ cs) : isValueChar c := by
  have lowered : (String.ofList cs).map Char.toLower = word := spelled
  have lower : c.toLower ∈ word.toList := by
    rw [← lowered, String.toList_map, String.toList_ofList]
    exact List.mem_map_of_mem mem
  exact isValueChar_of_letter (letters _ lower)

theorem isValueChar_of_word? (spelled : Text.word? 10 cs = some n) (mem : c ∈ cs) :
    isValueChar c := by
  rcases isIntegerChar_of_word? spelled c mem with digit | rfl | rfl
  · exact isValueChar_of_isDigit digit
  · decide
  · decide

/-- A sign in front of a text. -/
theorem isValueChar_of_takeSign (rest : ∀ c ∈ (Binary64.takeSign cs).2, isValueChar c) :
    ∀ c ∈ cs, isValueChar c := by
  unfold Binary64.takeSign at rest
  split at rest
  · exact List.forall_mem_cons.2 ⟨by decide, rest⟩
  · exact List.forall_mem_cons.2 ⟨by decide, rest⟩
  · exact rest

theorem isValueChar_of_digit (digit : Binary64.isDigit c) : isValueChar c := by
  rw [Binary64.isDigit, Binary64.digit?] at digit
  split at digit
  · next decimal => exact isValueChar_of_isDigit (isDigit_iff.2 decimal)
  · cases digit

/-- The characters of an exponent. -/
theorem isValueChar_of_exponent? {e : Int} (spelled : Binary64.exponent? cs = some e) :
    ∀ c ∈ cs, isValueChar c := by
  match cs with
  | [] => simp
  | c :: cs =>
    rw [Binary64.exponent?, Option.ite_none_right_eq_some] at spelled
    obtain ⟨mark, spelled⟩ := spelled
    have first : isValueChar c := by rcases mark with rfl | rfl <;> decide
    simp only [Option.ite_none_left_eq_some, Bool.or_eq_true, not_or, Bool.not_eq_true,
      Bool.not_eq_false', List.all_eq_true] at spelled
    exact List.forall_mem_cons.2 ⟨first, isValueChar_of_takeSign fun c mem =>
      isValueChar_of_digit (spelled.1.2 c mem)⟩

/-- Digits in front of a text. -/
theorem isValueChar_of_dropWhile (rest : ∀ c ∈ cs.dropWhile Binary64.isDigit, isValueChar c) :
    ∀ c ∈ cs, isValueChar c := by
  intro c mem
  rw [← List.takeWhile_append_dropWhile (p := Binary64.isDigit) (l := cs)] at mem
  rcases List.mem_append.1 mem with mem | mem
  · exact isValueChar_of_digit (List.mem_takeWhile_imp mem)
  · exact rest c mem

/-- The characters of a number. -/
theorem isValueChar_of_ofText? {x : Binary64} (spelled : Binary64.ofText? text = some x) :
    ∀ c ∈ text.toList, isValueChar c := by
  refine isValueChar_of_takeSign ?_
  rw [Binary64.ofText?] at spelled
  generalize Binary64.takeSign text.toList = signed at spelled ⊢
  obtain ⟨negative, cs⟩ := signed
  dsimp only at spelled ⊢
  split at spelled
  · next infinite =>
    rcases infinite with short | long
    · exact fun c => isValueChar_of_toLower (by simp [valueLetters]) short
    · exact fun c => isValueChar_of_toLower (by simp [valueLetters]) long
  · split at spelled
    · next number => exact fun c => isValueChar_of_toLower (by simp [valueLetters]) number
    · refine isValueChar_of_dropWhile ?_
      generalize cs.dropWhile Binary64.isDigit = rest at spelled ⊢
      -- what is left behind the digits is a fraction with an exponent, or an exponent alone
      split at spelled
      · rw [Option.ite_none_left_eq_some] at spelled
        obtain ⟨e, power, -⟩ := Option.map_eq_some_iff.1 spelled.2
        exact List.forall_mem_cons.2
          ⟨by decide, isValueChar_of_dropWhile (isValueChar_of_exponent? power)⟩
      · rw [Option.ite_none_left_eq_some] at spelled
        obtain ⟨e, power, -⟩ := Option.map_eq_some_iff.1 spelled.2
        exact isValueChar_of_exponent? power

/-- A text with a character that no value has arrives as it is. -/
theorem rewritten_of_foreign (mem : c ∈ text.toList) (foreign : isValueChar c = false) :
    rewritten text = text := by
  have never : ¬ isValueChar c := by simp [foreign]
  refine rewritten_eq_self_iff.2 fun respelled => never ?_
  cases respelled with
  | truth b word =>
    have letters : ∀ c ∈ (toString b).toList, c ∈ valueLetters := by
      cases b <;> simp [toString, valueLetters]
    exact isValueChar_of_toLower letters (by rwa [String.ofList_toList]) mem
  | integer n spelled => exact isValueChar_of_word? spelled mem
  | number x word whole spelled => exact isValueChar_of_ofText? spelled c mem

end WorkQueue.Settings
