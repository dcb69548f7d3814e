import WorkQueue.Proofs.Settings.Masking

/-!
# Addresses masked at offsets

Masking said in terms of UTF-8: both marks are looked for in the bytes of the whole address, and the
parts that are kept are cut out at the offsets where they were found. An offset that is out of
bounds or inside of a character cuts nothing out. No such offset comes up, and the address that is
put together is the masked one.

## Main definitions

* `Text.slice?`: the text between two offsets
* `Settings.maskByOffsets?`: the address put together from slices

## Main statements

* `Text.firstOffset?_encode`: marks of ASCII characters are found at borders of characters
* `Settings.maskByOffsets?_eq`: every slice is taken, and the result is `maskPassword`
-/

namespace WorkQueue

namespace Text

variable {c d : Char} {cs mark : List Char} {b m : UInt8} {ms xs ys : List UInt8}

/-! ### Bytes -/

/-- The bytes of a text in UTF-8. -/
def bytes (s : String) : List UInt8 := s.toByteArray.data.toList

/-- The bytes of characters in UTF-8. -/
def encode (cs : List Char) : List UInt8 := cs.flatMap String.utf8EncodeChar

theorem bytes_eq (s : String) : bytes s = encode s.toList := by
  rw [bytes, ← String.utf8Encode_toList, List.utf8Encode, List.data_toByteArray, encode]

theorem length_encode (s : String) : (encode s.toList).length = s.utf8ByteSize := by
  simp [← bytes_eq, bytes]

@[simp] theorem encode_nil : encode [] = [] := rfl

@[simp] theorem encode_append (as bs : List Char) : encode (as ++ bs) = encode as ++ encode bs :=
  List.flatMap_append

theorem encode_cons (c : Char) (cs : List Char) :
    encode (c :: cs) = String.utf8EncodeChar c ++ encode cs := List.flatMap_cons

theorem toNat_toUInt8 (hc : c.toNat < 128) : c.toUInt8.toNat = c.toNat :=
  (UInt32.toNat_toUInt8 c.val).trans (Nat.mod_eq_of_lt (Nat.lt_trans hc (by decide)))

theorem toUInt8_inj (hc : c.toNat < 128) (hd : d.toNat < 128) : c.toUInt8 = d.toUInt8 ↔ c = d := by
  rw [← UInt8.toNat_inj, toNat_toUInt8 hc, toNat_toUInt8 hd, Char.toNat_inj]

theorem utf8EncodeChar_of_ascii (hc : c.toNat < 128) : String.utf8EncodeChar c = [c.toUInt8] := by
  have one : c.val.toNat ≤ 127 := Nat.le_of_lt_succ hc
  simp only [String.utf8EncodeChar, one, if_true]
  rfl

/-- No byte of another character is that of an ASCII character. -/
theorem le_of_mem_utf8EncodeChar (hc : 128 ≤ c.toNat) (hb : b ∈ String.utf8EncodeChar c) :
    128 ≤ b.toNat := by
  have more : ¬ c.val.toNat ≤ 127 := Nat.not_le.2 hc
  simp only [String.utf8EncodeChar, more, if_false] at hb
  split_ifs at hb <;> simp only [List.mem_cons, List.not_mem_nil, or_false] at hb
  · rcases hb with rfl | rfl <;> simp only [UInt8.toNat_ofNat'] <;> omega
  · rcases hb with rfl | rfl | rfl <;> simp only [UInt8.toNat_ofNat'] <;> omega
  · rcases hb with rfl | rfl | rfl | rfl <;> simp only [UInt8.toNat_ofNat'] <;> omega

/-- Behind the first byte of a character there is no ASCII byte. -/
theorem exists_utf8EncodeChar (c : Char) :
    ∃ b bs, String.utf8EncodeChar c = b :: bs ∧ ∀ x ∈ bs, 128 ≤ x.toNat := by
  by_cases hc : c.toNat < 128
  · exact ⟨_, [], utf8EncodeChar_of_ascii hc, by simp⟩
  · obtain ⟨b, bs, eq⟩ := List.exists_cons_of_ne_nil (String.utf8EncodeChar_ne_nil (c := c))
    refine ⟨b, bs, eq, fun x hx => le_of_mem_utf8EncodeChar (Nat.le_of_not_lt hc) ?_⟩
    rw [eq]
    exact List.mem_cons_of_mem b hx

theorem mem_encode_iff (hc : c.toNat < 128) : c.toUInt8 ∈ encode cs ↔ c ∈ cs := by
  induction cs with
  | nil => simp
  | cons d cs ih =>
    rw [encode_cons, List.mem_append, List.mem_cons, ih]
    refine or_congr ?_ Iff.rfl
    by_cases hd : d.toNat < 128
    · simp [utf8EncodeChar_of_ascii hd, toUInt8_inj hc hd]
    · refine iff_of_false (fun inside => ?_) fun same => hd (same ▸ hc)
      have := le_of_mem_utf8EncodeChar (Nat.le_of_not_lt hd) inside
      rw [toNat_toUInt8 hc] at this
      omega

theorem prefix_encode_iff (ascii : ∀ c ∈ mark, c.toNat < 128) :
    encode mark <+: encode cs ↔ mark <+: cs := by
  induction mark generalizing cs with
  | nil => simp
  | cons m mark ih =>
    obtain ⟨hm, ascii⟩ := List.forall_mem_cons.1 ascii
    rw [encode_cons, utf8EncodeChar_of_ascii hm]
    cases cs with
    | nil => simp
    | cons c cs =>
      rw [encode_cons]
      by_cases hc : c.toNat < 128
      · rw [utf8EncodeChar_of_ascii hc]
        simp only [List.cons_append, List.nil_append, List.cons_prefix_cons, toUInt8_inj hm hc,
          ih ascii]
      · obtain ⟨b, bs, eq⟩ := List.exists_cons_of_ne_nil (String.utf8EncodeChar_ne_nil (c := c))
        have hb := le_of_mem_utf8EncodeChar (Nat.le_of_not_lt hc) (eq ▸ List.mem_cons_self)
        have byte_ne : m.toUInt8 ≠ b := by
          rintro rfl
          rw [toNat_toUInt8 hm] at hb
          omega
        have char_ne : m ≠ c := fun same => hc (same ▸ hm)
        simp [eq, List.cons_prefix_cons, byte_ne, char_ne]

/-! ### Offsets -/

/-- The first offset at which a run of bytes stands. -/
def firstOffset? (mark : List UInt8) : List UInt8 → Option Nat
  | [] => if mark.isEmpty then some 0 else none
  | b :: bs => if mark.isPrefixOf (b :: bs) then some 0 else (firstOffset? mark bs).map (· + 1)

/-- The last offset at which a byte stands. -/
def lastOffset? (mark : UInt8) : List UInt8 → Option Nat
  | [] => none
  | b :: bs =>
    match lastOffset? mark bs with
    | some n => some (n + 1)
    | none => if b = mark then some 0 else none

theorem firstOffset?_append (absent : m ∉ xs) :
    firstOffset? (m :: ms) (xs ++ ys) = (firstOffset? (m :: ms) ys).map (· + xs.length) := by
  induction xs with
  | nil => simp
  | cons x xs ih =>
    rw [List.mem_cons, not_or] at absent
    simp [firstOffset?, absent.1, ih absent.2, Function.comp_def, Nat.add_assoc]

/-- A mark of ASCII characters is found at the size of what stands before it. -/
theorem firstOffset?_encode (nonempty : mark ≠ []) (ascii : ∀ c ∈ mark, c.toNat < 128)
    (cs : List Char) : firstOffset? (encode mark) (encode cs) =
      (Settings.splitAtMark mark cs).map fun split => (encode split.1).length := by
  obtain ⟨m, ms, rfl⟩ := List.exists_cons_of_ne_nil nonempty
  have hm := (List.forall_mem_cons.1 ascii).1
  have mark_eq : encode (m :: ms) = m.toUInt8 :: encode ms := by
    simp [encode_cons, utf8EncodeChar_of_ascii hm]
  induction cs with
  | nil => simp [Settings.splitAtMark, mark_eq, firstOffset?]
  | cons c cs ih =>
    -- past the first byte of `c` the mark can only start with a later character
    obtain ⟨b, bs, eq, tail⟩ := exists_utf8EncodeChar c
    have cons_eq : encode (c :: cs) = b :: (bs ++ encode cs) := by simp [encode_cons, eq]
    have starts : encode (m :: ms) <+: b :: (bs ++ encode cs) ↔ m :: ms <+: c :: cs :=
      cons_eq ▸ prefix_encode_iff ascii
    rw [cons_eq, firstOffset?, Settings.splitAtMark]
    by_cases here : m :: ms <+: c :: cs
    · simp [here, starts]
    · have away : ¬ encode (m :: ms) <+: b :: (bs ++ encode cs) := mt starts.1 here
      have absent : m.toUInt8 ∉ bs := by
        intro inside
        have := tail _ inside
        rw [toNat_toUInt8 hm] at this
        omega
      rw [if_neg (by simpa using away), if_neg (by simpa using here), mark_eq,
        firstOffset?_append absent, ← mark_eq, ih]
      simp [Function.comp_def, encode_cons, eq, Nat.add_comm]

theorem lastOffset?_eq_none (absent : m ∉ xs) : lastOffset? m xs = none := by
  induction xs with
  | nil => rfl
  | cons x xs ih =>
    rw [List.mem_cons, not_or] at absent
    simp [lastOffset?, ih absent.2, Ne.symm absent.1]

theorem lastOffset?_append_cons (absent : m ∉ ys) :
    lastOffset? m (xs ++ m :: ys) = some xs.length := by
  induction xs with
  | nil => simp [lastOffset?, lastOffset?_eq_none absent]
  | cons x xs ih => simp [lastOffset?, ih]

theorem lastOffset?_append (absent : m ∉ ys) : lastOffset? m (xs ++ ys) = lastOffset? m xs := by
  induction xs with
  | nil => simp [lastOffset?_eq_none absent, lastOffset?]
  | cons x xs ih => simp [lastOffset?, ih]

theorem lt_of_lastOffset? {n : Nat} (found : lastOffset? m xs = some n) : n < xs.length := by
  induction xs generalizing n with
  | nil => cases found
  | cons x xs ih =>
    rw [lastOffset?] at found
    split at found
    · rename_i k later
      obtain rfl : k + 1 = n := by simpa using found
      exact Nat.succ_lt_succ (ih later)
    · obtain ⟨-, rfl⟩ : x = m ∧ 0 = n := by simpa using found
      exact Nat.zero_lt_succ _

/-! ### Slices -/

/-- The text between two offsets, which have to stand in order at borders of characters. -/
def slice? (s : String) (start stop : Nat) : Option String :=
  if h : start ≤ stop ∧ (⟨start⟩ : String.Pos.Raw).IsValid s ∧
      (⟨stop⟩ : String.Pos.Raw).IsValid s then
    some (s.extract (s.pos _ h.2.1) (s.pos _ h.2.2))
  else none

/-- The sizes of texts are offsets in what starts with them. -/
theorem slice?_append (front middle back : String) :
    slice? (front ++ middle ++ back) front.utf8ByteSize (front ++ middle).utf8ByteSize =
      some middle := by
  have start : (⟨front.utf8ByteSize⟩ : String.Pos.Raw).IsValid (front ++ middle ++ back) :=
    String.Pos.Raw.isValid_iff_exists_append.2 ⟨front, middle ++ back, String.append_assoc, rfl⟩
  have stop : (⟨(front ++ middle).utf8ByteSize⟩ : String.Pos.Raw).IsValid (front ++ middle ++ back) :=
    String.Pos.Raw.isValid_iff_exists_append.2 ⟨front ++ middle, back, rfl, rfl⟩
  have order : front.utf8ByteSize ≤ (front ++ middle).utf8ByteSize := by
    rw [String.utf8ByteSize_append]
    exact Nat.le_add_right _ _
  have skip := ByteArray.extract_append_size_add' (a := front.toByteArray)
    (b := middle.toByteArray ++ back.toByteArray) (i := 0) (j := middle.utf8ByteSize)
    (k := front.utf8ByteSize) rfl
  rw [slice?, dif_pos ⟨order, start, stop⟩]
  congr 1
  apply String.toByteArray_inj.1
  simp only [String.toByteArray_extract, String.offset_pos, String.toByteArray_append,
    String.utf8ByteSize_append, ByteArray.append_assoc]
  rw [Nat.add_zero] at skip
  rw [skip]
  exact ByteArray.extract_append_eq_left rfl

theorem slice?_left (front back : String) :
    slice? (front ++ back) 0 front.utf8ByteSize = some front := by
  simpa using slice?_append "" front back

theorem slice?_right (front back : String) :
    slice? (front ++ back) front.utf8ByteSize (front ++ back).utf8ByteSize = some back := by
  simpa using slice?_append front back ""

end Text

namespace Settings

open Text

variable {scheme user secret before after rest mark s : String}

/-- The offset at which a text first stands in another one. -/
def find? (mark s : String) : Option Nat := firstOffset? (bytes mark) (bytes s)

/-- The offset at which an ASCII character last stands in a text. -/
def rfind? (mark : Char) (s : String) : Option Nat := lastOffset? mark.toUInt8 (bytes s)

/-- An address masked at the offsets of its marks; none if a slice cannot be taken. -/
def maskByOffsets? (url : String) : Option String :=
  match find? "://" url, rfind? '@' url with
  | some mark, some host =>
    if mark < host then do
      let credentials ← slice? url (mark + 3) host
      match find? ":" credentials with
      | none => some url
      | some colon => do
        let scheme ← slice? url 0 (mark + 3)
        let user ← slice? credentials 0 colon
        let rest ← slice? url host url.utf8ByteSize
        some (scheme ++ user ++ ":***" ++ rest)
    else some url
  | _, _ => some url

theorem find?_eq (nonempty : mark.toList ≠ []) (ascii : ∀ c ∈ mark.toList, c.toNat < 128) :
    find? mark s = (splitAtMark mark.toList s.toList).map fun split => (encode split.1).length := by
  rw [find?, bytes_eq, bytes_eq, firstOffset?_encode nonempty ascii]

theorem find?_eq_none (nonempty : mark.toList ≠ []) (ascii : ∀ c ∈ mark.toList, c.toNat < 128)
    (absent : ¬ mark.toList <:+: s.toList) : find? mark s = none := by
  rw [find?_eq nonempty ascii, splitAtMark_eq_none absent, Option.map_none]

theorem find?_scheme (absent : ¬ "://".toList <:+: scheme.toList) :
    find? "://" (scheme ++ "://" ++ rest) = some scheme.utf8ByteSize := by
  have split := splitAtMark_scheme absent rest.toList
  rw [find?_eq (by decide) (by simp)]
  simp [split, length_encode]

theorem find?_colon (first : ':' ∉ user.toList) :
    find? ":" (user ++ ":" ++ secret) = some user.utf8ByteSize := by
  have split := splitAtMark_char first secret.toList
  rw [find?_eq (by decide) (by simp)]
  simp [split, length_encode]

theorem not_mem_encode (absent : '@' ∉ after.toList) : '@'.toUInt8 ∉ encode after.toList :=
  mt (mem_encode_iff (by decide)).1 absent

theorem rfind?_append (last : '@' ∉ after.toList) :
    rfind? '@' (before ++ "@" ++ after) = some before.utf8ByteSize := by
  have split : bytes (before ++ "@" ++ after) =
      encode before.toList ++ '@'.toUInt8 :: encode after.toList := by
    simp [bytes_eq, encode_cons, utf8EncodeChar_of_ascii]
  rw [rfind?, split, lastOffset?_append_cons (not_mem_encode last), length_encode]

/-- When nothing but a text without `@` follows, the last `@` stands before that. -/
theorem lt_of_rfind? (absent : '@' ∉ after.toList) {host : Nat}
    (found : rfind? '@' (before ++ after) = some host) : host < before.utf8ByteSize := by
  rw [rfind?, bytes_eq, String.toList_append, encode_append,
    lastOffset?_append (not_mem_encode absent)] at found
  exact length_encode before ▸ lt_of_lastOffset? found

/-- Masking at offsets takes all of its slices, and masks the same. -/
theorem maskByOffsets?_eq (url : String) : maskByOffsets? url = some (maskPassword url) := by
  rw [maskByOffsets?]
  by_cases marked : "://".toList <:+: url.toList
  · obtain ⟨scheme, rest, rfl, absent⟩ := exists_scheme marked
    rw [find?_scheme absent]
    by_cases named : '@' ∈ rest.toList
    · obtain ⟨credentials, host, rfl, last⟩ := exists_host named
      have assoc : scheme ++ "://" ++ (credentials ++ "@" ++ host) =
          scheme ++ "://" ++ credentials ++ ("@" ++ host) := by
        simp only [String.append_assoc]
      have found : rfind? '@' (scheme ++ "://" ++ credentials ++ ("@" ++ host)) =
          some (scheme ++ "://" ++ credentials).utf8ByteSize := by
        rw [← String.append_assoc]
        exact rfind?_append last
      have size : scheme.utf8ByteSize + 3 = (scheme ++ "://").utf8ByteSize := by
        rw [String.utf8ByteSize_append]
        rfl
      have later : scheme.utf8ByteSize < (scheme ++ "://" ++ credentials).utf8ByteSize := by
        rw [String.utf8ByteSize_append, ← size]
        omega
      rw [assoc, found]
      simp only [if_pos later, size, slice?_append, Option.bind_eq_bind, Option.bind_some]
      by_cases closed : ':' ∈ credentials.toList
      · obtain ⟨user, secret, rfl, first⟩ := exists_user closed
        have front : slice? (scheme ++ "://" ++ (user ++ ":" ++ secret) ++ ("@" ++ host)) 0
            (scheme ++ "://").utf8ByteSize = some (scheme ++ "://") := by
          rw [String.append_assoc]
          exact slice?_left ..
        have name : slice? (user ++ ":" ++ secret) 0 user.utf8ByteSize = some user := by
          rw [String.append_assoc]
          exact slice?_left ..
        rw [find?_colon first]
        simp only [front, name, slice?_right, Option.bind_some]
        rw [← assoc, maskPassword_of_secret absent first last]
        simp only [String.append_assoc]
        rfl
      · have colonless : ¬ ":".toList <:+: credentials.toList :=
          fun inside => closed ((List.singleton_infix_iff _ _).1 inside)
        rw [find?_eq_none (by decide) (by simp) colonless, ← assoc,
          maskPassword_of_open absent last closed]
    · -- an `@` in front of the mark is found, too, but is no border of credentials
      have bare : '@' ∉ ("://" ++ rest).toList := by simpa using named
      rw [maskPassword_of_hostless absent named]
      split
      · rename_i mark host found_mark found_host
        rw [String.append_assoc] at found_host
        obtain rfl : scheme.utf8ByteSize = mark := by simpa using found_mark
        exact if_neg (Nat.not_lt.2 (Nat.le_of_lt (lt_of_rfind? bare found_host)))
      · rfl
  · rw [maskPassword_of_unmarked marked, find?_eq_none (by decide) (by simp) marked]

end Settings

end WorkQueue
