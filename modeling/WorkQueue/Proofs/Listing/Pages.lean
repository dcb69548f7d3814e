import WorkQueue.IntRange
import WorkQueue.Page
import Mathlib.Data.List.Basic
import Mathlib.Data.Rat.Floor

/-!
# Pages of one size

The data of a page is cut out of the whole listing, and its standing is computed from the number of
entries alone. Here both are brought together, and the pages of one size are put one behind the other.
Pages and sizes are words of 32 bits and positions words of 64; no position leaves them.

## Main definitions

* `PageRequest.turnTo`: the request for another page of the same size
* `Page.Shows`: what a page says of the listing that it is cut from
* `PageMeta.positionsInWords?` and its companions: the standing of a page, computed step by step
* `PageMeta.Exact`: no step leaves the words

## Main statements

* `PageMeta.lastPage_le_iff`: the number of pages, by how many entries they hold
* `Page.shows_ofList`: every page shows its part of the listing
* `Page.flatMap_turnTo`: the pages up to the last one hold the listing
* `PageMeta.exact_of_words`: the standing of a page is the one of unbounded numbers
-/

namespace WorkQueue

variable {α : Type} {r : PageRequest} {all : List α} {total : Nat}

/-- The request for the page that `n` others come before, of the same size. -/
def PageRequest.turnTo (r : PageRequest) (n : Nat) : PageRequest :=
  { r with page := n + 1, one_le_page := Nat.succ_pos n }

@[simp] theorem PageRequest.turnTo_perPage (r : PageRequest) (n : Nat) :
    (r.turnTo n).perPage = r.perPage := rfl

theorem PageRequest.turnTo_offset (r : PageRequest) (n : Nat) :
    (r.turnTo n).offset = n * r.perPage := rfl

/-- A page of the same size can be requested: the size is not cut again. -/
theorem PageRequest.make_turnTo (r : PageRequest) (n : Nat) :
    PageRequest.make (n + 1) r.perPage = .ok (r.turnTo n) := by
  have small := r.perPage_le
  have positive := r.one_le_perPage
  have size : min r.perPage maxPerPage = r.perPage := Nat.min_eq_left small
  rw [make, dif_neg (by omega), dif_neg (by omega)]
  simp only [size]
  rfl

/-! ### The standing of a page -/

namespace PageMeta

/-- So many pages are enough if and only if they hold all entries. -/
theorem lastPage_le_iff (total : Nat) (r : PageRequest) (n : Nat) :
    (PageMeta.make total r).lastPage ≤ n ↔ total ≤ n * r.perPage := by
  have positive := r.one_le_perPage
  show (total + r.perPage - 1) / r.perPage ≤ n ↔ _
  rw [← Nat.lt_succ_iff, Nat.div_lt_iff_lt_mul positive, Nat.succ_mul]
  omega

theorem lastPage_eq (total : Nat) (r : PageRequest) :
    (PageMeta.make total r).lastPage = ⌈(total : ℚ) / r.perPage⌉₊ := by
  have positive : (0 : ℚ) < r.perPage := Nat.cast_pos.2 r.one_le_perPage
  refine eq_of_forall_ge_iff fun n => ?_
  rw [lastPage_le_iff, Nat.ceil_le, div_le_iff₀ positive]
  exact_mod_cast Iff.rfl

/-- No entry is left for a page if and only if it comes behind the last one. -/
theorem le_offset_iff (total : Nat) (r : PageRequest) :
    total ≤ r.offset ↔ (PageMeta.make total r).lastPage < r.page := by
  have first := r.one_le_page
  have before := lastPage_le_iff total r (r.page - 1)
  rw [PageRequest.offset, ← before]
  omega

end PageMeta

/-! ### What a page shows -/

/-- What a page says of the listing that it is cut from. -/
structure Page.Shows (p : Page α) (all : List α) (r : PageRequest) : Prop where
  total : p.info.total = all.length
  lastPage : p.info.lastPage = ⌈(all.length : ℚ) / r.perPage⌉₊
  /-- Up to the last page, a page holds the entries from one position to another. -/
  inside : r.page ≤ p.info.lastPage → 0 < p.info.from_ ∧ p.info.from_ ≤ p.info.to_ ∧
    p.info.to_ ≤ all.length ∧ p.data.length = p.info.to_ - p.info.from_ + 1 ∧
    ∀ i < p.data.length, p.data[i]? = all[p.info.from_ - 1 + i]?
  /-- Behind the last page, a page is empty and has no positions. -/
  behind : p.info.lastPage < r.page → p.data = [] ∧ p.info.from_ = 0 ∧ p.info.to_ = 0

namespace Page

theorem ofList_data (all : List α) (r : PageRequest) :
    (ofList all r).data = (all.drop r.offset).take r.perPage := rfl

theorem ofList_info (all : List α) (r : PageRequest) :
    (ofList all r).info = .make all.length r := rfl

/-- A page ends one size behind the entries before it. -/
theorem page_mul_perPage (r : PageRequest) : r.page * r.perPage = r.offset + r.perPage := by
  have first := r.one_le_page
  obtain ⟨n, page⟩ := Nat.exists_eq_add_of_le' first
  rw [PageRequest.offset, page, Nat.add_sub_cancel, Nat.succ_mul]

theorem shows_ofList (all : List α) (r : PageRequest) : (ofList all r).Shows all r := by
  have size := r.one_le_perPage
  have ends := page_mul_perPage r
  have beyond := PageMeta.le_offset_iff all.length r
  constructor
  · rfl
  · exact PageMeta.lastPage_eq _ _
  · intro within
    have left : ¬ all.length ≤ r.offset := by
      rw [beyond]
      exact Nat.not_lt.2 within
    have from_eq : (ofList all r).info.from_ = r.offset + 1 := if_neg left
    have to_eq : (ofList all r).info.to_ = min (r.page * r.perPage) all.length := if_neg left
    have length_eq : (ofList all r).data.length = min r.perPage (all.length - r.offset) := by
      rw [ofList_data, List.length_take, List.length_drop]
    rw [from_eq, to_eq, length_eq]
    refine ⟨by omega, by omega, by omega, by omega, fun i inside => ?_⟩
    rw [ofList_data, List.getElem?_take_of_lt (by omega), List.getElem?_drop,
      Nat.add_sub_cancel]
  · intro behind
    have nothing : all.length ≤ r.offset := beyond.2 behind
    refine ⟨?_, if_pos nothing, if_pos nothing⟩
    rw [ofList_data, List.drop_eq_nil_of_le nothing, List.take_nil]

/-- The first pages of a size hold the first entries. -/
theorem flatMap_turnTo_range (all : List α) (r : PageRequest) (n : Nat) :
    (List.range n).flatMap (fun i => (ofList all (r.turnTo i)).data) =
      all.take (n * r.perPage) := by
  induction n with
  | zero => simp
  | succ n ih =>
    rw [List.range_succ, List.flatMap_append, ih, List.flatMap_cons, List.flatMap_nil,
      List.append_nil, ofList_data, PageRequest.turnTo_offset, PageRequest.turnTo_perPage,
      Nat.succ_mul, List.take_add]

/-- The pages up to the last one hold the listing. -/
theorem flatMap_turnTo (all : List α) (r : PageRequest) :
    (List.range (PageMeta.make all.length r).lastPage).flatMap
      (fun i => (ofList all (r.turnTo i)).data) = all := by
  rw [flatMap_turnTo_range]
  exact List.take_of_length_le ((PageMeta.lastPage_le_iff _ _ _).1 (Nat.le_refl _))

end Page

/-! ### Positions in machine words -/

open IntRange

/-- The number of entries before a page: nothing, if the result of a step is not a word. One less than
the page is at least zero. -/
def PageRequest.offsetInWords? (r : PageRequest) : Option Int := do
  let page ← nat32.keep? r.page
  let size ← nat32.keep? r.perPage
  let before ← nat32.keep? (max (page - 1) 0)
  nat64.keep? (before * size)

namespace PageMeta

/-- The number of pages: the quotient, and one more if there is a remainder. -/
def lastPageInWords? (total size : Int) : Option Int := do
  let quotient ← nat64.keep? (total / size)
  if total % size = 0 then return quotient
  nat64.keep? (quotient + 1)

/-- The positions of the first and the last entry of a page, zero if it has none. -/
def positionsInWords? (total : Int) (r : PageRequest) : Option (Int × Int) := do
  let offset ← r.offsetInWords?
  if total = 0 ∨ total ≤ offset then return (0, 0)
  let first ← nat64.keep? (offset + 1)
  let size ← nat64.keep? (max r.perPage 1)
  let last ← nat64.keep? (r.page * size)
  return (first, min last total)

/-- What is computed in words is what is computed in unbounded numbers. -/
structure Exact (total : Nat) (r : PageRequest) : Prop where
  offset : r.offsetInWords? = some (r.offset : Int)
  lastPage : lastPageInWords? total r.perPage = some ((PageMeta.make total r).lastPage : Int)
  positions : positionsInWords? total r =
    some (((PageMeta.make total r).from_ : Int), ((PageMeta.make total r).to_ : Int))

theorem keep?_nat64 {n : Nat} (word : (n : Int) ≤ nat64.hi) : nat64.keep? (n : Int) = some (n : Int) :=
  keep?_eq_some_iff.2 ⟨rfl, Int.natCast_nonneg n, word⟩

theorem keep?_nat32 {n : Nat} (word : (n : Int) ≤ nat32.hi) : nat32.keep? (n : Int) = some (n : Int) :=
  keep?_eq_some_iff.2 ⟨rfl, Int.natCast_nonneg n, word⟩

/-- No page that a word can name ends beyond the words. -/
theorem page_mul_perPage_le (word : (r.page : Int) ≤ nat32.hi) :
    ((r.page * r.perPage : Nat) : Int) ≤ nat32.hi * 100 := by
  have page : r.page ≤ 0xFFFFFFFF := by
    simp only [nat32] at word
    omega
  have product : r.page * r.perPage ≤ 0xFFFFFFFF * 100 := Nat.mul_le_mul page r.perPage_le
  simp only [nat32]
  omega

theorem offsetInWords?_eq (word : (r.page : Int) ≤ nat32.hi) :
    r.offsetInWords? = some (r.offset : Int) := by
  have bound := page_mul_perPage_le word
  have ends := Page.page_mul_perPage r
  have small := r.perPage_le
  have first := r.one_le_page
  have size : nat32.keep? (r.perPage : Int) = some (r.perPage : Int) :=
    keep?_nat32 (by simp only [nat32]; omega)
  have before : nat32.keep? (max ((r.page : Int) - 1) 0) = some ((r.page - 1 : Nat) : Int) := by
    have cast : max ((r.page : Int) - 1) 0 = ((r.page - 1 : Nat) : Int) := by omega
    rw [cast]
    exact keep?_nat32 (by omega)
  have product : ((r.page - 1 : Nat) : Int) * (r.perPage : Int) = (r.offset : Int) := by
    rw [PageRequest.offset, Int.natCast_mul]
  have offset : nat64.keep? (r.offset : Int) = some (r.offset : Int) :=
    keep?_nat64 (by simp only [nat32, nat64] at bound ⊢; omega)
  simp only [PageRequest.offsetInWords?, keep?_nat32 word, size, before, bind, Option.bind_some,
    product, offset]

/-- Rounding a quotient up adds one if there is a remainder. -/
theorem lastPage_eq_div (total : Nat) (r : PageRequest) : (PageMeta.make total r).lastPage =
    total / r.perPage + if total % r.perPage = 0 then 0 else 1 := by
  have positive := r.one_le_perPage
  have split := Nat.div_add_mod total r.perPage
  have less := Nat.mod_lt total positive
  rw [Nat.mul_comm] at split
  show (total + r.perPage - 1) / r.perPage = _
  by_cases divides : total % r.perPage = 0
  · rw [if_pos divides]
    refine Nat.div_eq_of_lt_le ?_ ?_
    · rw [Nat.add_zero]
      omega
    · rw [Nat.succ_mul]
      omega
  · rw [if_neg divides]
    refine Nat.div_eq_of_lt_le ?_ ?_
    · rw [Nat.succ_mul]
      omega
    · rw [Nat.succ_mul, Nat.succ_mul]
      omega

theorem lastPageInWords?_eq (total : Nat) (r : PageRequest) (word : (total : Int) ≤ nat64.hi) :
    lastPageInWords? total r.perPage = some ((PageMeta.make total r).lastPage : Int) := by
  have positive := r.one_le_perPage
  have le : total / r.perPage ≤ total := Nat.div_le_self _ _
  have quotient : nat64.keep? ((total : Int) / (r.perPage : Int)) =
      some ((total / r.perPage : Nat) : Int) := by
    rw [← Int.natCast_ediv]
    exact keep?_nat64 (by omega)
  have remainder : (total : Int) % (r.perPage : Int) = ((total % r.perPage : Nat) : Int) :=
    (Int.natCast_emod _ _).symm
  rw [lastPage_eq_div]
  simp only [lastPageInWords?, quotient, remainder, bind, pure, Option.bind_some,
    Int.natCast_eq_zero]
  by_cases divides : total % r.perPage = 0
  · rw [if_pos divides, if_pos divides, Nat.add_zero]
  · -- a remainder is left only by sizes above one, and then the quotient is not the largest word
    have larger : r.perPage ≠ 1 := by
      intro one
      rw [one] at divides
      exact divides (Nat.mod_one total)
    have less : total / r.perPage ≤ total / 2 := Nat.div_le_div_left (by omega) (by decide)
    rw [if_neg divides, if_neg divides]
    exact keep?_nat64 (n := total / r.perPage + 1) (by simp only [nat64] at word ⊢; omega)

theorem positionsInWords?_eq (page : (r.page : Int) ≤ nat32.hi) (total : Nat) :
    positionsInWords? total r =
      some (((PageMeta.make total r).from_ : Int), ((PageMeta.make total r).to_ : Int)) := by
  have bound := page_mul_perPage_le page
  have ends := Page.page_mul_perPage r
  have positive := r.one_le_perPage
  simp only [positionsInWords?, offsetInWords?_eq page, bind, pure, Option.bind_some]
  by_cases nothing : total ≤ r.offset
  · have none : (total : Int) = 0 ∨ (total : Int) ≤ r.offset := .inr (by omega)
    rw [if_pos none]
    simp only [make, if_pos nothing, Int.natCast_zero]
  · have some_ : ¬ ((total : Int) = 0 ∨ (total : Int) ≤ r.offset) := by omega
    have first : nat64.keep? ((r.offset : Int) + 1) = some ((r.offset + 1 : Nat) : Int) :=
      keep?_nat64 (n := r.offset + 1) (by simp only [nat32, nat64] at bound ⊢; omega)
    have size : nat64.keep? (max (r.perPage : Int) 1) = some (r.perPage : Int) := by
      have cast : max (r.perPage : Int) 1 = (r.perPage : Int) := by omega
      rw [cast]
      exact keep?_nat64 (by simp only [nat32, nat64] at bound ⊢; omega)
    have last : nat64.keep? ((r.page : Int) * (r.perPage : Int)) =
        some ((r.page * r.perPage : Nat) : Int) := by
      rw [← Int.natCast_mul]
      exact keep?_nat64 (by simp only [nat32, nat64] at bound ⊢; omega)
    rw [if_neg some_]
    simp only [first, size, last, Option.bind_some, make, if_neg nothing, Option.some.injEq,
      Prod.mk.injEq, true_and]
    omega

/-- For every page that a word of 32 bits can name and every total that is a word of 64, no step leaves
the words. -/
theorem exact_of_words (total : Nat) (r : PageRequest) (page : (r.page : Int) ≤ nat32.hi)
    (word : (total : Int) ≤ nat64.hi) : Exact total r where
  offset := offsetInWords?_eq page
  lastPage := lastPageInWords?_eq total r word
  positions := positionsInWords?_eq page total

end PageMeta

end WorkQueue
