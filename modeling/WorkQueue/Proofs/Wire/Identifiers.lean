import Mathlib.Algebra.GroupWithZero.Nat
import WorkQueue.Uuid

/-!
# Identifiers in texts

The text of an identifier is read as that identifier: its five groups are the 32 hexadecimal digits
of the number, and the digits spell the number.

## Main statements

* `Uuid.hexDigits_append`: groups of digits join to the digits of one number
* `Uuid.natural?_hexDigits`: what digits spell
* `Uuid.ofText?_toText`: identifiers are read back
-/

namespace WorkQueue.Uuid

@[simp] theorem length_hexDigits (count n : Nat) : (hexDigits count n).length = count := by
  induction count generalizing n with
  | zero => rfl
  | succ count ih => simp [hexDigits, ih]

/-- The digits above the lowest `low` ones, followed by these. -/
theorem hexDigits_append (count low n : Nat) :
    hexDigits count (n >>> (4 * low)) ++ hexDigits low n = hexDigits (count + low) n := by
  induction low generalizing n with
  | zero => simp [hexDigits]
  | succ low ih =>
    have hshift : n >>> (4 * (low + 1)) = (n / 16) >>> (4 * low) := by
      rw [show 4 * (low + 1) = 4 + 4 * low by omega, Nat.shiftRight_add,
        Nat.shiftRight_eq_div_pow n]
    rw [hexDigits, ← List.append_assoc, hshift, ih]
    rfl

theorem digit?_hexDigit {n : Nat} (h : n < 16) : Text.digit? 16 (Json.hexDigit n) = some n := by
  revert n
  decide

/-- The digits of a number spell it, up to the digits that are left out. -/
theorem foldlM_hexDigits (count n acc : Nat) :
    (hexDigits count n).foldlM (fun n c => (Text.digit? 16 c).map fun d => n * 16 + d) acc =
      some (acc * 16 ^ count + n % 16 ^ count) := by
  induction count generalizing n with
  | zero => simp [hexDigits, Nat.mod_one]
  | succ count ih =>
    rw [hexDigits, List.foldlM_append, ih]
    have hlast : n % (16 ^ count * 16) = n / 16 % 16 ^ count * 16 + n % 16 := by
      rw [Nat.mul_comm, Nat.mod_mul]
      omega
    have hdigit := digit?_hexDigit (Nat.mod_lt n (by decide : 0 < 16))
    simp [hdigit, hlast, Nat.pow_succ, Nat.add_mul, Nat.mul_assoc, Nat.add_assoc]

theorem natural?_hexDigits {count : Nat} (hcount : 0 < count) (n : Nat) :
    Text.natural? 16 (hexDigits count n) = some (n % 16 ^ count) := by
  have hne : (hexDigits count n).isEmpty = false := by
    rw [List.isEmpty_eq_false_iff, ← List.length_pos_iff, length_hexDigits]
    exact hcount
  simp [Text.natural?, hne, foldlM_hexDigits]

/-- Hyphens at their places are left out. -/
theorem ofHyphenated?_groups {a b c d e : List Char} (ha : a.length = 8) (hb : b.length = 4)
    (hc : c.length = 4) (hd : d.length = 4) (he : e.length = 12) :
    ofHyphenated? (a ++ '-' :: b ++ '-' :: c ++ '-' :: d ++ '-' :: e) =
      ofDigits? (a ++ b ++ c ++ d ++ e) := by
  have hlength : (a ++ '-' :: b ++ '-' :: c ++ '-' :: d ++ '-' :: e).length = 36 := by
    simp [ha, hb, hc, hd, he]
  have hhyphens : [8, 13, 18, 23].all (fun i =>
      (a ++ '-' :: b ++ '-' :: c ++ '-' :: d ++ '-' :: e)[i]? == some '-') = true := by
    simp [List.getElem?_append, ha, hb, hc, hd]
  -- what is taken from each part is the whole part, and nothing of the others
  simp only [ofHyphenated?, hlength, hhyphens, decide_true, Bool.and_self, if_true]
  congr 1
  simp (disch := omega) [List.drop_append, List.drop_eq_nil_of_le, ha, hb, hc, hd]

/-- Adjacent groups join to one group. -/
theorem group_append (id : Uuid) (count width low : Nat) :
    id.group count (width + low) ++ id.group width low = id.group (count + width) low := by
  rw [group, Nat.mul_add, Nat.add_comm, Nat.shiftRight_add]
  exact hexDigits_append count width (id.value.toNat >>> (4 * low))

theorem groups_eq (id : Uuid) :
    id.group 8 24 ++ id.group 4 20 ++ id.group 4 16 ++ id.group 4 12 ++ id.group 12 0 =
      hexDigits 32 id.value.toNat := by
  rw [id.group_append 8 4 20, id.group_append 12 4 16, id.group_append 16 4 12,
    id.group_append 20 12 0]
  rfl

/-- Every identifier is read back from its text. -/
theorem ofText?_toText (id : Uuid) : ofText? id.toText = some id := by
  have hlength : id.toText.toList.length = 36 := by simp [toText, group]
  have hdigits : (hexDigits 32 id.value.toNat).length = 32 := length_hexDigits 32 _
  have hlt : id.value.toNat < 16 ^ 32 := id.value.isLt
  have hread : ofHyphenated? id.toText.toList = some id := by
    rw [toText, String.toList_ofList, ofHyphenated?_groups (by simp [group]) (by simp [group])
      (by simp [group]) (by simp [group]) (by simp [group]), groups_eq, ofDigits?,
      if_pos hdigits, natural?_hexDigits (by decide), Nat.mod_eq_of_lt hlt]
    simp [ofNat]
  simp [ofText?, hlength, hread]

end WorkQueue.Uuid
