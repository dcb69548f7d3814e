import WorkQueue.Failure

/-!
# Pages

Listings are shown in pages. A page request is valid by construction: its page counts from one, and
its size lies between one and a hundred.

## Main definitions

* `PageRequest`, `PageRequest.make`: which page, and how large
* `PageMeta`: where a page stands in the whole listing
* `Page`: a page of a listing
-/

namespace WorkQueue

/-- Which page of a listing is wanted. -/
structure PageRequest where
  page : Nat
  perPage : Nat
  one_le_page : 1 ≤ page
  one_le_perPage : 1 ≤ perPage
  perPage_le : perPage ≤ 100
  deriving DecidableEq

namespace PageRequest

def defaultPerPage : Nat := 10

/-- Larger pages are cut to this size. -/
def maxPerPage : Nat := 100

/-- The first page of the default size. -/
def first : PageRequest := ⟨1, defaultPerPage, by decide, by decide, by decide⟩

instance : Inhabited PageRequest := ⟨first⟩

/-- The request for a page, its size cut to `maxPerPage`; a page or size of zero is refused. -/
def make (page perPage : Nat) : Outcome PageRequest :=
  if hp : page < 1 then .error (.validation s!"Invalid page: {page}")
  else if hs : perPage < 1 then .error (.validation s!"Invalid page size: {perPage}")
  else .ok ⟨page, min perPage maxPerPage, by omega, by simp only [maxPerPage]; omega,
    by simp only [maxPerPage]; omega⟩

/-- How many tasks come before the page. -/
def offset (r : PageRequest) : Nat := (r.page - 1) * r.perPage

/-- How many tasks the page holds at most. -/
def limit (r : PageRequest) : Nat := r.perPage

end PageRequest

/-- Where a page stands in its listing. -/
structure PageMeta where
  total : Nat
  perPage : Nat
  currentPage : Nat
  lastPage : Nat
  /-- The position of the page's first task, from one; zero for a page without tasks. -/
  from_ : Nat
  /-- The position of the page's last task; zero for a page without tasks. -/
  to_ : Nat
  deriving DecidableEq, Inhabited

/-- The standing of a requested page in a listing of `total` tasks. -/
def PageMeta.make (total : Nat) (r : PageRequest) : PageMeta where
  total := total
  perPage := r.perPage
  currentPage := r.page
  lastPage := (total + r.perPage - 1) / r.perPage
  from_ := if total ≤ r.offset then 0 else r.offset + 1
  to_ := if total ≤ r.offset then 0 else min (r.page * r.perPage) total

/-- A page of a listing. -/
structure Page (α : Type) where
  data : List α
  info : PageMeta
  deriving Inhabited

namespace Page

variable {α : Type}

/-- The page with the given contents. -/
def make (data : List α) (total : Nat) (r : PageRequest) : Page α := ⟨data, .make total r⟩

/-- The requested page of a whole listing. -/
def ofList (all : List α) (r : PageRequest) : Page α :=
  make ((all.drop r.offset).take r.limit) all.length r

end Page

end WorkQueue
