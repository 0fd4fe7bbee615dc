import ColabPlatform.Foundation.Paging

/-!
# Pages by offset

A page asks for as many items as it may hold, from an offset on, and shows those that
are kept.  There is a next page if the page shown is full, so a page with a gap is the
last one.  The list behind the pages may come in several orders; each page is cut from
any one of them.
-/

namespace ColabPlatform.Foundation

variable {α κ ι : Type*}

/-- The items of page `k` that are shown. -/
def shownOn (limit : Nat) (keep : α → Bool) (listing : List α) (k : Nat) : List α :=
  ((listing.drop (k * limit)).take limit).filter keep

/-- The cursor of page `k`; the first one has none. -/
def pageCursor (cursorAt : Nat → κ) : Nat → Option κ
  | 0 => none
  | k + 1 => some (cursorAt (k + 1))

/-- Each page is cut from one of the orders of the list. -/
def ServesOffsets (limit : Nat) (keep : α → Bool) (source : ι → List α) (cursorAt : Nat → κ)
    (serve : Option κ → List α → Option κ → Prop) : Prop :=
  ∀ k items next, serve (pageCursor cursorAt k) items next ↔
    ∃ i, items = shownOn limit keep (source i) k ∧
      next = if items.length = limit then some (cursorAt (k + 1)) else none

/-- On every page all orders show the same, and only the last page may have a gap. -/
def PagesAgree (limit : Nat) (keep : α → Bool) (source : ι → List α) (main : ι) : Prop :=
  ∀ k, k * limit < (source main).length →
    (∀ i, shownOn limit keep (source i) k = shownOn limit keep (source main) k) ∧
      ((k + 1) * limit < (source main).length →
        ∀ a ∈ ((source main).drop (k * limit)).take limit, keep a = true)

section Offsets

variable {limit : Nat} {keep : α → Bool} {source : ι → List α} {cursorAt : Nat → κ}
  {serve : Option κ → List α → Option κ → Prop} {listing : List α}

/-- A page that is shown in full lies within the list, and all of it is kept. -/
theorem full_iff (pos : 0 < limit) {k : Nat} :
    (shownOn limit keep listing k).length = limit ↔
      (k + 1) * limit ≤ listing.length ∧
        ∀ a ∈ (listing.drop (k * limit)).take limit, keep a = true := by
  have length : ((listing.drop (k * limit)).take limit).length =
      min limit (listing.length - k * limit) := by
    rw [List.length_take, List.length_drop]
  rw [Nat.succ_mul]
  constructor
  · intro full
    have few := List.length_filter_le keep ((listing.drop (k * limit)).take limit)
    unfold shownOn at full
    refine ⟨by omega, List.length_filter_eq_length_iff.1 (by omega)⟩
  · rintro ⟨inside, kept⟩
    unfold shownOn
    rw [List.filter_eq_self.2 kept]
    omega

/-- The rest of the list from a page on. -/
theorem filter_drop_page (k : Nat) :
    (listing.drop (k * limit)).filter keep =
      shownOn limit keep listing k ++ (listing.drop ((k + 1) * limit)).filter keep := by
  have split := List.take_append_drop limit (listing.drop (k * limit))
  rw [List.drop_drop, ← Nat.succ_mul] at split
  rw [← split, List.filter_append]
  rfl

theorem shownOn_eq_nil {k : Nat} (past : listing.length ≤ k * limit) :
    shownOn limit keep listing k = [] := by
  rw [shownOn, List.drop_of_length_le past, List.take_nil, List.filter_nil]

/-! ## Walks -/

/-- Past the end of the list there is nothing. -/
theorem flatten_eq_nil (pos : 0 < limit)
    (serves : ServesOffsets limit keep source cursorAt serve) {n : Nat}
    (lengths : ∀ i, (source i).length = n) {k : Nat} (past : n ≤ k * limit)
    {pages : List (List α)} (follows : Follows serve (pageCursor cursorAt k) pages) :
    pages.flatten = [] := by
  have nothing : ∀ i, shownOn limit keep (source i) k = [] :=
    fun i => shownOn_eq_nil (by rwa [lengths])
  generalize start : pageCursor cursorAt k = cursor at follows
  cases follows with
  | last served =>
      obtain ⟨i, rfl, -⟩ := (serves k _ _).1 (start ▸ served)
      rw [nothing, List.flatten_singleton]
  | next served _ =>
      obtain ⟨i, rfl, next⟩ := (serves k _ _).1 (start ▸ served)
      rw [nothing, List.length_nil, if_neg (Nat.ne_of_lt pos)] at next
      cases next

/-- From each page on, the cursors can be followed to their end with the first page cut from
any of the orders; after a page with a gap or at the end of the list nothing comes. -/
theorem exists_walk (pos : 0 < limit)
    (serves : ServesOffsets limit keep source cursorAt serve) {n : Nat} (lengths : ∀ i, (source i).length = n) (i : ι) (k : Nat) :
    ∃ pages, Follows serve (pageCursor cursorAt k) (shownOn limit keep (source i) k :: pages) ∧
      ((shownOn limit keep (source i) k).length ≠ limit → pages = []) ∧
      (n ≤ (k + 1) * limit → pages.flatten = []) := by
  induction left : n - k * limit using Nat.strongRecOn generalizing k with
  | _ m ih =>
      by_cases full : (shownOn limit keep (source i) k).length = limit
      · have inside := ((full_iff pos).1 full).1
        rw [lengths] at inside
        have less : n - (k + 1) * limit < m := by
          rw [Nat.succ_mul] at inside ⊢
          omega
        obtain ⟨pages, follows, -, -⟩ := ih _ less (k + 1) rfl
        exact ⟨_, .next ((serves k _ _).2 ⟨i, rfl, (if_pos full).symm⟩) follows,
          fun gap => absurd full gap, fun past => flatten_eq_nil pos serves lengths past follows⟩
      · exact ⟨[], .last ((serves k _ _).2 ⟨i, rfl, (if_neg full).symm⟩), fun _ => rfl,
          fun _ => rfl⟩

/-- Full pages can be put in front of a walk. -/
theorem exists_front (serves : ServesOffsets limit keep source cursorAt serve) (main : ι)
    {k : Nat}
    (full : ∀ j < k, (shownOn limit keep (source main) j).length = limit)
    {pages : List (List α)} (follows : Follows serve (pageCursor cursorAt k) pages) :
    ∃ front : List (List α), Follows serve none (front ++ pages) ∧ front.length = k ∧
      (source main).filter keep =
        front.flatten ++ ((source main).drop (k * limit)).filter keep := by
  induction k generalizing pages with
  | zero => exact ⟨[], follows, rfl, by rw [Nat.zero_mul]; rfl⟩
  | succ k ih =>
      have page := full k (Nat.lt_succ_self k)
      have served : serve (pageCursor cursorAt k) (shownOn limit keep (source main) k)
          (some (cursorAt (k + 1))) := (serves k _ _).2 ⟨main, rfl, (if_pos page).symm⟩
      obtain ⟨front, walk, length, split⟩ :=
        ih (fun j less => full j (Nat.lt_succ_of_lt less)) (.next served follows)
      refine ⟨front ++ [shownOn limit keep (source main) k], ?_, ?_, ?_⟩
      · rwa [List.append_assoc, List.singleton_append]
      · rw [List.length_append, length, List.length_singleton]
      · rw [split, filter_drop_page, List.flatten_append, List.flatten_singleton,
          List.append_assoc]

/-- What the pages show from page `k` on, when they agree. -/
theorem flatten_of_agree (pos : 0 < limit)
    (serves : ServesOffsets limit keep source cursorAt serve) {main : ι}
    (lengths : ∀ i, (source i).length = (source main).length)
    (agree : PagesAgree limit keep source main)
    {cursor : Option κ} {pages : List (List α)} (follows : Follows serve cursor pages) {k : Nat}
    (start : cursor = pageCursor cursorAt k) :
    pages.flatten = ((source main).drop (k * limit)).filter keep ∧
      (source main).length ≤ (k + pages.length) * limit := by
  have same : ∀ i k, shownOn limit keep (source i) k = shownOn limit keep (source main) k := by
    intro i k
    by_cases inside : k * limit < (source main).length
    · exact (agree k inside).1 i
    · rw [shownOn_eq_nil (by rw [lengths]; omega), shownOn_eq_nil (by omega)]
  induction follows generalizing k with
  | last served =>
      subst start
      obtain ⟨i, rfl, next⟩ := (serves k _ _).1 served
      have ends : (source main).length ≤ (k + 1) * limit := by
        by_contra more
        have kept := (agree k (by rw [Nat.succ_mul] at more; omega)).2 (Nat.not_le.1 more)
        rw [same, if_pos ((full_iff pos).2 ⟨Nat.le_of_not_le more, kept⟩)] at next
        cases next
      refine ⟨?_, ends⟩
      rw [filter_drop_page, List.drop_of_length_le ends, List.filter_nil, List.append_nil,
        List.flatten_singleton, same]
  | next served _ ih =>
      subst start
      obtain ⟨i, rfl, next⟩ := (serves k _ _).1 served
      split at next
      · obtain ⟨rest, count⟩ := ih (k := k + 1) next
        refine ⟨?_, ?_⟩
        · rw [List.flatten_cons, rest, filter_drop_page k, same]
        · rwa [List.length_cons, ← Nat.add_assoc, Nat.add_right_comm]
      · cases next

/-- Two walks that come to page `k` alike and read it in different orders show the same. -/
theorem agree_of_walks (pos : 0 < limit)
    (serves : ServesOffsets limit keep source cursorAt serve) {main : ι}
    (lengths : ∀ i, (source i).length = (source main).length)
    (right : ∀ pages, Follows serve none pages →
      pages.flatten = (source main).filter keep ∧ (source main).length ≤ pages.length * limit)
    {k : Nat} (full : ∀ j < k, (shownOn limit keep (source main) j).length = limit) :
    (∀ i, shownOn limit keep (source i) k = shownOn limit keep (source main) k) ∧
      ((k + 1) * limit < (source main).length →
        ∀ a ∈ ((source main).drop (k * limit)).take limit, keep a = true) := by
  have walk : ∀ i, ∃ pages : List (List α),
      shownOn limit keep (source i) k ++ pages.flatten =
          ((source main).drop (k * limit)).filter keep ∧
        ((k + 1) * limit < (source main).length →
          (shownOn limit keep (source i) k).length = limit) ∧
        ((source main).length ≤ (k + 1) * limit → pages.flatten = []) := by
    intro i
    obtain ⟨pages, follows, gap, past⟩ := exists_walk pos serves lengths i k
    obtain ⟨front, walk, length, split⟩ := exists_front serves main full follows
    obtain ⟨all, count⟩ := right _ walk
    rw [split, List.flatten_append, List.flatten_cons] at all
    refine ⟨pages, List.append_cancel_left all, fun more => ?_, past⟩
    by_contra short
    rw [gap short, List.length_append, length, List.length_singleton] at count
    omega
  obtain ⟨pages, shown, whole, past⟩ := walk main
  refine ⟨fun i => ?_, fun more => ((full_iff pos).1 (whole more)).2⟩
  obtain ⟨pages', shown', whole', past'⟩ := walk i
  have same := shown'.trans shown.symm
  rcases Nat.lt_or_ge ((k + 1) * limit) (source main).length with more | ends
  · exact (List.append_inj same ((whole' more).trans (whole more).symm)).1
  · rwa [past ends, past' ends, List.append_nil, List.append_nil] at same

/-- The pages show every kept item once and in order, and go on to the end of the list,
exactly when they agree. -/
theorem offset_pages_iff (pos : 0 < limit)
    (serves : ServesOffsets limit keep source cursorAt serve) (main : ι)
    (lengths : ∀ i, (source i).length = (source main).length) :
    ((∃ pages, Follows serve none pages) ∧ ∀ pages, Follows serve none pages →
        pages.flatten = (source main).filter keep ∧
          (source main).length ≤ pages.length * limit) ↔
      PagesAgree limit keep source main := by
  constructor
  · rintro ⟨-, right⟩ k
    induction k using Nat.strongRecOn with
    | _ k ih =>
        intro inside
        have full : ∀ j < k, (shownOn limit keep (source main) j).length = limit := by
          intro j less
          have before : (j + 1) * limit ≤ k * limit := Nat.mul_le_mul_right limit less
          have room : j * limit < (source main).length := by
            rw [Nat.succ_mul] at before
            omega
          exact (full_iff pos).2 ⟨by omega, (ih j less room).2 (by omega)⟩
        exact agree_of_walks pos serves lengths right full
  · intro agree
    obtain ⟨pages, follows, -, -⟩ := exists_walk pos serves lengths main 0
    refine ⟨⟨_, follows⟩, fun pages follows => ?_⟩
    have all := flatten_of_agree pos serves lengths agree follows (k := 0) rfl
    rwa [Nat.zero_mul, List.drop_zero, Nat.zero_add] at all

end Offsets

end ColabPlatform.Foundation
