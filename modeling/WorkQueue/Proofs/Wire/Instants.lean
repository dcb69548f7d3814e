import Mathlib.Data.List.TakeWhile
import WorkQueue.Proofs.Wire.Calendar
import WorkQueue.Proofs.Wire.Decimals

/-!
# Instants in texts

Every instant that was read from a text is read back from its own text. The writer leaves out what
the reader allows beside it: blanks, other separators, offsets, and digits after the ninth. What a
text can say and an instant cannot is a leap second inside a minute, so the instants that are read
hold none.

## Main definitions

* `Timestamp.LeapEndsMinute`: a leap second, if it is one, ends a minute

## Main statements

* `Timestamp.takeYear?_yearText`, `Timestamp.takeFraction?_fractionText`: fields of varying width
* `Timestamp.ofText?_toText`: such instants are read back
* `Timestamp.leapEndsMinute_of_ofText?`: instants that are read are such
-/

namespace WorkQueue.Timestamp

open Binary64 (isDigit digitsValue)

variable {cs rest : List Char} {t : Timestamp}

/-! ### Fields -/

theorem dropBlank_cons {c : Char} (h : Text.isBlankChar c = false) :
    Text.dropBlank (c :: cs) = c :: cs := by
  simp [Text.dropBlank, h]

theorem takeMark?_cons {mark : Char} (h : Text.isBlankChar mark = false) :
    takeMark? mark (mark :: rest) = some rest := by
  simp [takeMark?, dropBlank_cons h]

/-- Digits without a sign are at most four. -/
theorem takeYear?_digits {ds : List Char} (hds : ∀ c ∈ ds, isDigit c = true) (hne : ds ≠ [])
    (hlength : ds.length = 4) : takeYear? (ds ++ rest) = some ((digitsValue ds : Int), rest) := by
  have hnumber : takeNumber? 4 (ds ++ rest) = some (digitsValue ds, rest) :=
    takeNumber?_digits hds hne (Nat.le_of_eq hlength) (.inl hlength)
  rw [takeYear?, dropBlank_digits hds hne]
  obtain ⟨c, cs, rfl⟩ := List.exists_cons_of_ne_nil hne
  have hc := Binary64.toNat_of_isDigit (hds c List.mem_cons_self)
  split
  · rename_i heq
    obtain ⟨rfl, -⟩ := List.cons.inj heq
    exact absurd hc (by decide)
  · rename_i heq
    obtain ⟨rfl, -⟩ := List.cons.inj heq
    exact absurd hc (by decide)
  · rw [hnumber]
    rfl

/-- Digits up to a hyphen, of any number. -/
theorem takeNumber?_padded (width n : Nat) :
    takeNumber? ((padded width n).toList ++ '-' :: rest).length
      ((padded width n).toList ++ '-' :: rest) = some (n, '-' :: rest) := by
  rw [takeNumber?_digits (fun _ => isDigit_of_mem_padded) padded_ne_nil (by simp)
    (.inr ⟨'-', rest, rfl, by decide⟩), digitsValue_padded]

theorem takeYear?_yearText (year : Int) :
    takeYear? ((yearText year).toList ++ '-' :: rest) = some (year, '-' :: rest) := by
  rw [yearText]
  split
  · rename_i h
    rw [takeYear?_digits (fun _ => isDigit_of_mem_padded) padded_ne_nil
      (length_padded (by decide) (by omega)), digitsValue_padded, Int.toNat_of_nonneg h.1]
  · split
    · have hvalue : -(year.natAbs : Int) = year := by omega
      have hsign : "-".toList = ['-'] := by decide
      rw [String.toList_append, hsign, List.append_assoc, List.singleton_append, takeYear?,
        dropBlank_cons (by decide)]
      simp only [takeNumber?_padded, Option.map_some, hvalue]
    · have hvalue : (year.natAbs : Int) = year := by omega
      have hsign : "+".toList = ['+'] := by decide
      rw [String.toList_append, hsign, List.append_assoc, List.singleton_append, takeYear?,
        dropBlank_cons (by decide)]
      simp only [takeNumber?_padded, Option.map_some, hvalue]

/-- A fraction of `width` digits counts units of that width. -/
theorem takeFraction?_padded {width n : Nat} (hwidth : 0 < width ∧ width ≤ 9)
    (hn : n < 10 ^ width) :
    takeFraction? (('.' :: (padded width n).toList) ++ ['Z']) =
      some (n * 10 ^ (9 - width), ['Z']) := by
  have hlength := length_padded hwidth.1 hn
  have htake : ((padded width n).toList ++ ['Z']).takeWhile isDigit = (padded width n).toList := by
    rw [List.takeWhile_append_of_pos fun _ => isDigit_of_mem_padded]
    simp [show isDigit 'Z' = false by decide]
  have hdrop : ((padded width n).toList ++ ['Z']).dropWhile isDigit = ['Z'] := by
    rw [List.dropWhile_append_of_pos fun _ => isDigit_of_mem_padded]
    rfl
  have hkept : (padded width n).toList.take 9 = (padded width n).toList :=
    List.take_of_length_le (by omega)
  simp [takeFraction?, htake, hdrop, hkept, hlength, digitsValue_padded]

theorem takeFraction?_fractionText {nano : Nat} (h : nano < 1000000000) :
    takeFraction? ((fractionText nano).toList ++ ['Z']) = some (nano, ['Z']) := by
  rw [fractionText]
  split
  · rename_i hzero
    subst hzero
    rfl
  · split
    · have hn : nano / 1000000 < 10 ^ 3 := by omega
      have hvalue : nano / 1000000 * 10 ^ (9 - 3) = nano := by omega
      have hread := takeFraction?_padded ⟨by decide, by decide⟩ hn
      rw [hvalue] at hread
      simpa using hread
    · split
      · have hn : nano / 1000 < 10 ^ 6 := by omega
        have hvalue : nano / 1000 * 10 ^ (9 - 6) = nano := by omega
        have hread := takeFraction?_padded ⟨by decide, by decide⟩ hn
        rw [hvalue] at hread
        simpa using hread
      · have hn : nano < 10 ^ 9 := h
        have hread := takeFraction?_padded ⟨by decide, by decide⟩ hn
        simpa using hread

/-! ### Instants that are written -/

/-- A leap second ends a minute. -/
def LeapEndsMinute (t : Timestamp) : Prop := 1000000000 ≤ t.nano → t.second % 60 = 59

/-- The text of an instant as the reader goes through it. -/
theorem toList_toText (t : Timestamp) :
    t.toText.toList =
      let date := Calendar.dateOf (t.second / 86400)
      let ofDay := (t.second % 86400).toNat
      (yearText date.year).toList ++ '-' :: ((padded 2 date.month).toList ++
        '-' :: ((padded 2 date.day).toList ++ 'T' :: ((padded 2 (ofDay / 3600)).toList ++
        ':' :: ((padded 2 (ofDay / 60 % 60)).toList ++
        ':' :: ((padded 2 (ofDay % 60 + t.nano / 1000000000)).toList ++
        ((fractionText (t.nano % 1000000000)).toList ++ ['Z'])))))) := by
  simp [toText, localText]

theorem month_day_lt {date : Calendar.Date} (h : date.exists? = true) :
    date.month < 100 ∧ date.day < 100 := by
  have hlength : Calendar.daysInMonth date.year date.month ≤ 31 := by
    unfold Calendar.daysInMonth
    repeat' split
    all_goals omega
  simp only [Calendar.Date.exists?, Bool.and_eq_true, decide_eq_true_eq] at h
  omega

theorem year_bounds (t : Timestamp) :
    -262143 ≤ (Calendar.dateOf (t.second / 86400)).year ∧
      (Calendar.dateOf (t.second / 86400)).year ≤ 262142 := by
  have hmin := t.minSecond_le
  have hmax := t.le_maxSecond
  simp only [minSecond, maxSecond] at hmin hmax
  exact Calendar.year_dateOf_bounds (by omega) (by omega)

/-- The second that is written is 60 in a leap second only. -/
theorem written_second (h : t.LeapEndsMinute) {ofDay : Nat} (hofDay : ofDay = t.second % 86400) :
    ofDay % 60 + t.nano / 1000000000 ≤ 60 ∧
      (ofDay % 60 + t.nano / 1000000000 = 60 ↔ 1000000000 ≤ t.nano) := by
  have hnano := t.nano_lt
  unfold LeapEndsMinute at h
  omega

theorem ofParts?_eq {second : Int} {nano : Nat} (hsecond : second = t.second)
    (hnano : nano = t.nano) : ofParts? second nano = some t := by
  subst hsecond hnano
  exact dif_pos ⟨t.nano_lt, t.minSecond_le, t.le_maxSecond⟩

theorem bind_eq_of {α β : Type} {o : Option α} {a : α} {f : α → Option β} {r : Option β}
    (h : o = some a) (hr : f a = r) : (o >>= f) = r := by
  rw [h]
  exact hr

theorem ofText?_toText (h : t.LeapEndsMinute) : ofText? t.toText = some t := by
  have hnano := t.nano_lt
  have hyear := t.year_bounds
  have hexists := Calendar.exists_dateOf (t.second / 86400)
  have hdayOf := Calendar.dayOf_dateOf (t.second / 86400)
  rw [ofText?, toList_toText]
  generalize Calendar.dateOf (t.second / 86400) = date at hyear hexists hdayOf ⊢
  have hlt := month_day_lt hexists
  have hday : ((t.second % 86400).toNat : Int) = t.second % 86400 := by omega
  generalize (t.second % 86400).toNat = ofDay at hday ⊢
  have hsecond := written_second h hday
  have hhour : ofDay / 3600 < 24 := by omega
  -- the reader's steps in their order, each at the head of what the one before left
  refine bind_eq_of (takeYear?_yearText date.year) ?_
  refine bind_eq_of (takeMark?_cons (by decide)) ?_
  refine bind_eq_of (takePart?_padded (by decide) hlt.1) ?_
  refine bind_eq_of (takeMark?_cons (by decide)) ?_
  refine bind_eq_of (takePart?_padded (by decide) hlt.2) ?_
  refine bind_eq_of (a := ((padded 2 (ofDay / 3600)).toList ++ _)) rfl ?_
  refine bind_eq_of (takePart?_padded (by decide) (by omega)) ?_
  refine bind_eq_of (takeMark?_cons (by decide)) ?_
  refine bind_eq_of (takePart?_padded (by decide) (by omega)) ?_
  refine bind_eq_of (takeMark?_cons (by decide)) ?_
  refine bind_eq_of (takePart?_padded (by decide) (by omega)) ?_
  refine bind_eq_of (takeFraction?_fractionText (Nat.mod_lt _ (by decide))) ?_
  refine bind_eq_of (show _ = some ((0 : Int), []) from rfl) ?_
  refine (if_pos ?_).trans (ofParts?_eq ?_ ?_)
  · simp [hexists, hhour, hsecond.1, hyear, Nat.mod_lt, Text.dropBlank]
  · simp only [hsecond.2, hdayOf]
    split <;> push_cast <;> omega
  · simp only [hsecond.2]
    split <;> omega

/-! ### Instants that are read -/

/-- An offset is a number of minutes. -/
theorem takeOffset?_emod {offset : Int} (h : takeOffset? cs = some (offset, rest)) :
    offset % 60 = 0 := by
  unfold takeOffset? at h
  split at h
  · simp only [Option.some.injEq, Prod.mk.injEq] at h
    omega
  · simp only [Option.some.injEq, Prod.mk.injEq] at h
    omega
  · split at h
    · simp only [Option.some.injEq, Prod.mk.injEq] at h
      omega
    · split at h
      · obtain ⟨⟨hours, cs⟩, -, h⟩ := Option.bind_eq_some_iff.1 h
        obtain ⟨⟨minutes, cs⟩, -, h⟩ := Option.bind_eq_some_iff.1 h
        simp only at h
        split at h
        · simp at h
        · simp only [Option.some.injEq, Prod.mk.injEq] at h
          obtain ⟨rfl, -⟩ := h
          split <;> omega
      · simp at h
  · simp at h

/-- A fraction is less than a second. -/
theorem takeFraction?_lt {nano : Nat} (h : takeFraction? cs = some (nano, rest)) :
    nano < 1000000000 := by
  unfold takeFraction? at h
  split at h
  · rename_i cs
    obtain ⟨kept, hkept⟩ : ∃ ds, ds = (cs.takeWhile isDigit).take 9 := ⟨_, rfl⟩
    have hdigits : ∀ c ∈ kept, isDigit c = true := by
      intro c hc
      rw [hkept] at hc
      exact List.mem_takeWhile_imp (List.mem_of_mem_take hc)
    have hlength : kept.length ≤ 9 := by
      rw [hkept, List.length_take]
      exact Nat.min_le_left _ _
    simp only [← hkept] at h
    split at h
    · simp at h
    · simp only [Option.some.injEq, Prod.mk.injEq] at h
      obtain ⟨rfl, -⟩ := h
      calc digitsValue kept * Nat.pow 10 (9 - kept.length)
          < 10 ^ kept.length * 10 ^ (9 - kept.length) :=
            Nat.mul_lt_mul_of_pos_right (Binary64.digitsValue_lt hdigits) (Nat.pow_pos (by decide))
        _ = 10 ^ 9 := by rw [← Nat.pow_add, Nat.add_sub_cancel' hlength]
  · simp only [Option.some.injEq, Prod.mk.injEq] at h
    omega

theorem ofParts?_eq_some {second : Int} {nano : Nat} (h : ofParts? second nano = some t) :
    t.second = second ∧ t.nano = nano := by
  unfold ofParts? at h
  split at h
  · obtain rfl := Option.some.inj h
    exact ⟨rfl, rfl⟩
  · simp at h

theorem leapEndsMinute_of_ofText? {s : String} (h : ofText? s = some t) : t.LeapEndsMinute := by
  unfold ofText? at h
  obtain ⟨⟨year, cs⟩, -, h⟩ := Option.bind_eq_some_iff.1 h
  obtain ⟨cs, -, h⟩ := Option.bind_eq_some_iff.1 h
  obtain ⟨⟨month, cs⟩, -, h⟩ := Option.bind_eq_some_iff.1 h
  obtain ⟨cs, -, h⟩ := Option.bind_eq_some_iff.1 h
  obtain ⟨⟨day, cs⟩, -, h⟩ := Option.bind_eq_some_iff.1 h
  obtain ⟨cs, -, h⟩ := Option.bind_eq_some_iff.1 h
  obtain ⟨⟨hour, cs⟩, -, h⟩ := Option.bind_eq_some_iff.1 h
  obtain ⟨cs, -, h⟩ := Option.bind_eq_some_iff.1 h
  obtain ⟨⟨minute, cs⟩, -, h⟩ := Option.bind_eq_some_iff.1 h
  obtain ⟨cs, -, h⟩ := Option.bind_eq_some_iff.1 h
  obtain ⟨⟨second, cs⟩, -, h⟩ := Option.bind_eq_some_iff.1 h
  -- of the parts only the fraction and the offset matter: less than a second, and whole minutes
  obtain ⟨⟨nano, cs⟩, hfraction, h⟩ := Option.bind_eq_some_iff.1 h
  obtain ⟨⟨offset, cs⟩, hoffset, h⟩ := Option.bind_eq_some_iff.1 h
  have hnano := takeFraction?_lt hfraction
  have hminutes := takeOffset?_emod hoffset
  simp only at h
  split at h
  · obtain ⟨hsecond', hnano'⟩ := ofParts?_eq_some h
    rw [LeapEndsMinute, hsecond', hnano']
    intro hlate
    by_cases hleap : second = 60
    · rw [if_pos hleap]
      omega
    · rw [if_neg hleap] at hlate
      omega
  · simp at h

end WorkQueue.Timestamp
