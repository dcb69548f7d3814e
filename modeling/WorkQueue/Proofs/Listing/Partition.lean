import WorkQueue.Proofs.Listing.Pages
import WorkQueue.Proofs.Memory.Claiming
import WorkQueue.Proofs.Memory.Operations

/-!
# The listing of stored tasks

The tasks that a filter accepts are listed newest first, and of one instant by identifier. No two stored
tasks share an identifier, so this leaves nothing open: every call of the storage sorts the same listing,
in whatever order it visits the rows, and pages asked for one by one are parts of one whole.

## Main definitions

* `Task.listingKey`: the key by which tasks are listed, as an element of a linear order
* `Memory.State.listing`: the accepted tasks in listing order
* `Memory.ListsInPages`: what is promised of the pages of a listing

## Main statements

* `Memory.State.listing_visiting`: the listing does not depend on the order of the rows
* `Memory.pages_partition`: the pages of one size partition the listing
-/

namespace WorkQueue

/-! ### The order of listings -/

instance : LinearOrder Uuid where
  le_refl a := Nat.le_refl a.value.toNat
  le_trans _ _ _ := Nat.le_trans
  le_antisymm a b := by
    intro hab hba
    have same : a.value = b.value := BitVec.eq_of_toNat_eq (Nat.le_antisymm hab hba)
    cases a
    cases b
    cases same
    rfl
  le_total a b := Nat.le_total a.value.toNat b.value.toNat
  lt_iff_le_not_ge a b := Nat.lt_iff_le_and_not_ge
  toDecidableLE := inferInstance
  toDecidableLT := inferInstance

namespace Task

variable {a b t : Task}

/-- The key of a task in listing order: the creation from late to early, then the identifier. -/
def listingKey (t : Task) : Timestampᵒᵈ ×ₗ Uuid := toLex (OrderDual.toDual t.createdAt, t.id)

theorem listsBefore_iff : a.listsBefore b ↔ a.listingKey < b.listingKey := by
  simp [listsBefore, listingKey, Prod.Lex.toLex_lt_toLex]

/-- Sorting compares keys and nothing else. -/
theorem sortForListing_eq (tasks : List Task) :
    sortForListing tasks = tasks.mergeSort fun a b => decide (a.listingKey ≤ b.listingKey) := by
  have compared : (fun a b : Task => !listsBefore b a) =
      fun a b => decide (a.listingKey ≤ b.listingKey) := by
    funext a b
    rw [Bool.eq_iff_iff]
    simp [← Bool.not_eq_true, listsBefore_iff]
  rw [sortForListing, compared]

theorem perm_sortForListing (tasks : List Task) : (sortForListing tasks).Perm tasks :=
  List.mergeSort_perm _ _

theorem pairwise_sortForListing (tasks : List Task) :
    (sortForListing tasks).Pairwise fun a b => a.listingKey ≤ b.listingKey := by
  rw [sortForListing_eq]
  exact pairwise_mergeSort_key listingKey tasks

/-- Only the identifier of a task has to differ from those of others. -/
theorem id_eq_of_listingKey_eq (h : a.listingKey = b.listingKey) : a.id = b.id :=
  congrArg (fun key => (ofLex key).2) h

theorem listingKey_lt_iff : a.listingKey < b.listingKey ↔
    b.createdAt < a.createdAt ∨ a.createdAt = b.createdAt ∧ a.id < b.id := by
  simp [listingKey, Prod.Lex.toLex_lt_toLex]

end Task

namespace Memory

open Simulation IntRange

variable {s : State} {f : Filter} {order : List Task}

namespace State

/-! ### The listing -/

/-- The accepted tasks in listing order. -/
def listing (s : State) (f : Filter) : List Task := Task.sortForListing (s.tasks.filter f.accepts)

theorem list_eq (s : State) (f : Filter) (r : PageRequest) :
    s.list f r = Page.ofList (s.listing f) r := rfl

theorem perm_listing (s : State) (f : Filter) :
    (s.listing f).Perm (s.tasks.filter f.accepts) :=
  Task.perm_sortForListing _

theorem nodup_listing (hs : s.Keyed) (f : Filter) : ((s.listing f).map (·.id)).Nodup :=
  ((s.perm_listing f).map _).nodup_iff.2 (hs.sublist (List.filter_sublist.map _))

/-- No two tasks of a listing share a key, since the identifier is part of it. -/
theorem eq_of_listingKey_eq (hs : s.Keyed) {a b : Task} (ha : a ∈ s.listing f)
    (hb : b ∈ s.listing f) (same : a.listingKey = b.listingKey) : a = b :=
  List.inj_on_of_nodup_map (nodup_listing hs f) ha hb (Task.id_eq_of_listingKey_eq same)

theorem pairwise_listing (hs : s.Keyed) (f : Filter) :
    (s.listing f).Pairwise fun a b => a.listingKey < b.listingKey := by
  have distinct : (s.listing f).Pairwise fun a b => a.id ≠ b.id :=
    List.pairwise_map.1 (nodup_listing hs f)
  refine ((Task.pairwise_sortForListing _).and distinct).imp ?_
  rintro a b ⟨le, other⟩
  exact lt_of_le_of_ne le fun same => other (Task.id_eq_of_listingKey_eq same)

/-- The listing does not depend on the order in which rows are visited. -/
theorem listing_visiting (hs : s.Keyed) (perm : order.Perm s.tasks) (f : Filter) :
    (s.visiting order).listing f = s.listing f := by
  have same : ((s.visiting order).listing f).Perm (s.listing f) :=
    ((perm_listing _ f).trans (perm.filter _)).trans (s.perm_listing f).symm
  refine same.eq_of_pairwise ?_ (Task.pairwise_sortForListing _) (Task.pairwise_sortForListing _)
  intro a b ha hb hab hba
  exact eq_of_listingKey_eq hs (same.mem_iff.1 ha) hb (le_antisymm hab hba)

end State

/-! ### Pages of a listing -/

/-- What is promised of the pages of a size, when the tasks that a filter accepts are listed: they
are parts of one listing, whatever page is asked for and in whatever order the rows are visited for
it. -/
structure ListsInPages (s : State) (f : Filter) (r : PageRequest) (listing : List Task) : Prop where
  /-- Every accepted task is listed, and once. -/
  perm : listing.Perm (s.tasks.filter f.accepts)
  nodup : (listing.map (·.id)).Nodup
  ordered : listing.Pairwise fun a b =>
    b.createdAt < a.createdAt ∨ a.createdAt = b.createdAt ∧ a.id < b.id
  /-- Every page can be asked for. -/
  asked : ∀ n, PageRequest.make (n + 1) r.perPage = .ok (r.turnTo n)
  /-- A page is answered from the rows, and leaves the world as it is. -/
  answered : ∀ (policy : Backoff.Policy) (w : World) (order : List Task) (request : PageRequest),
    w.memory.state = s.visiting order →
    ((backend policy).list f request : Sim (Outcome (Page Task))).run w =
      (.ok ((s.visiting order).list f request), w)
  page : ∀ order, order.Perm s.tasks → ∀ n,
    ((s.visiting order).list f (r.turnTo n)).Shows listing (r.turnTo n)
  /-- The pages from the first to the last one, each with rows in an order of its own. -/
  joined : ∀ orders : Nat → List Task, (∀ n, (orders n).Perm s.tasks) →
    (List.range ⌈(listing.length : ℚ) / r.perPage⌉₊).flatMap
      (fun n => ((s.visiting (orders n)).list f (r.turnTo n)).data) = listing
  /-- Positions are words, as long as pages and the number of tasks are. -/
  exact : (listing.length : Int) ≤ nat64.hi → ∀ n, ((n + 1 : Nat) : Int) ≤ nat32.hi →
    PageMeta.Exact listing.length (r.turnTo n)

/-- The pages of any size partition the listing, for any filter and any stored rows. -/
theorem pages_partition (hs : s.Keyed) (f : Filter) (r : PageRequest) :
    ListsInPages s f r (s.listing f) where
  perm := s.perm_listing f
  nodup := State.nodup_listing hs f
  ordered := (State.pairwise_listing hs f).imp Task.listingKey_lt_iff.1
  asked := r.make_turnTo
  answered policy w order request rows := by
    rw [← rows]
    rfl
  page order perm n := by
    rw [State.list_eq, State.listing_visiting hs perm]
    exact Page.shows_ofList _ _
  joined orders perms := by
    have same : ∀ n, ((s.visiting (orders n)).list f (r.turnTo n)).data =
        (Page.ofList (s.listing f) (r.turnTo n)).data := by
      intro n
      rw [State.list_eq, State.listing_visiting hs (perms n)]
    simp only [same]
    rw [← PageMeta.lastPage_eq, Page.flatMap_turnTo]
  exact word n page := PageMeta.exact_of_words _ _ page word

/-- Pages of two for five tasks, four of which were created at one instant. -/
theorem pages_partition_of_mixed : ∃ s : State, s.Keyed ∧ s.tasks.length = 5 ∧
    ListsInPages s {} ⟨1, 2, by decide, by decide, by decide⟩ (s.listing {}) := by
  have keyed : (replay {} {} mixedCalls).2.Keyed := by
    unfold State.Keyed
    decide +kernel
  exact ⟨_, keyed, by decide +kernel, pages_partition keyed {} _⟩

end Memory

end WorkQueue
