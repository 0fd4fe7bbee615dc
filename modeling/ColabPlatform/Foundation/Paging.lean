import Mathlib.Data.List.Nodup
import Mathlib.Data.List.Perm.Basic
import Mathlib.Data.List.Pairwise
import Mathlib.Data.List.Sort

/-!
# Pages

A list is served page by page, each page with the cursor of the next one.  A query
that fetches one row more than the page holds finds out whether there is a next one,
and the cursor is the last row of the page.  Following the cursors yields the whole
list exactly when, wherever a page ends, the rows that the cursor selects are those
that were listed behind it.
-/

namespace ColabPlatform.Foundation

variable {α κ : Type*}

/-! ## Following cursors -/

/-- The pages from a cursor on, until there is no next cursor. -/
inductive Follows (serve : Option κ → List α → Option κ → Prop) :
    Option κ → List (List α) → Prop where
  | last {cursor : Option κ} {items : List α} :
      serve cursor items none → Follows serve cursor [items]
  | next {cursor : Option κ} {items : List α} {next : κ} {pages : List (List α)} :
      serve cursor items (some next) → Follows serve (some next) pages →
      Follows serve cursor (items :: pages)

/-- Following the cursors ends, and what the pages hold is `good`. -/
def Yields (serve : Option κ → List α → Option κ → Prop) (cursor : Option κ)
    (good : List α → Prop) : Prop :=
  (∃ pages, Follows serve cursor pages) ∧ ∀ pages, Follows serve cursor pages → good pages.flatten

/-- A cursor is served in one way only. -/
def Determined (serve : Option κ → List α → Option κ → Prop) : Prop :=
  ∀ cursor items next items' next', serve cursor items next → serve cursor items' next' →
    items = items' ∧ next = next'

section Follows

variable {serve : Option κ → List α → Option κ → Prop}

theorem Follows.unique (determined : Determined serve) {cursor : Option κ}
    {pages pages' : List (List α)} (follows : Follows serve cursor pages)
    (follows' : Follows serve cursor pages') : pages = pages' := by
  induction follows generalizing pages' with
  | last served =>
      cases follows' with
      | last served' => rw [(determined _ _ _ _ _ served served').1]
      | next served' _ => cases (determined _ _ _ _ _ served served').2
  | next served _ ih =>
      cases follows' with
      | last served' => cases (determined _ _ _ _ _ served served').2
      | next served' rest =>
          obtain ⟨rfl, same⟩ := determined _ _ _ _ _ served served'
          obtain rfl := Option.some.inj same
          rw [ih rest]

theorem yields_iff (determined : Determined serve) {cursor : Option κ} {good : List α → Prop} :
    Yields serve cursor good ↔ ∃ pages, Follows serve cursor pages ∧ good pages.flatten := by
  constructor
  · rintro ⟨⟨pages, follows⟩, right⟩
    exact ⟨pages, follows, right pages follows⟩
  · rintro ⟨pages, follows, right⟩
    refine ⟨⟨pages, follows⟩, fun pages' follows' => ?_⟩
    rwa [follows'.unique determined follows]

/-- Pages whose items are written out in another form are followed alike. -/
theorem Follows.map {β : Type*} {serve' : Option κ → List β → Option κ → Prop} {out : α → β}
    (same : ∀ cursor items next,
      serve' cursor items next ↔ ∃ items', items = items'.map out ∧ serve cursor items' next)
    {cursor : Option κ} {pages : List (List β)} :
    Follows serve' cursor pages ↔
      ∃ pages', pages = pages'.map (List.map out) ∧ Follows serve cursor pages' := by
  constructor
  · intro follows
    induction follows with
    | last served =>
        obtain ⟨items, rfl, served'⟩ := (same _ _ _).1 served
        exact ⟨[items], rfl, .last served'⟩
    | next served _ ih =>
        obtain ⟨items, rfl, served'⟩ := (same _ _ _).1 served
        obtain ⟨pages, rfl, follows⟩ := ih
        exact ⟨items :: pages, rfl, .next served' follows⟩
  · rintro ⟨pages, rfl, follows⟩
    induction follows with
    | last served => exact .last ((same _ _ _).2 ⟨_, rfl, served⟩)
    | next served _ ih => exact .next ((same _ _ _).2 ⟨_, rfl, served⟩) ih

theorem yields_map {β : Type*} {serve' : Option κ → List β → Option κ → Prop} {out : α → β}
    (same : ∀ cursor items next,
      serve' cursor items next ↔ ∃ items', items = items'.map out ∧ serve cursor items' next)
    {cursor : Option κ} {good : List β → Prop} :
    Yields serve' cursor good ↔ Yields serve cursor fun found => good (found.map out) := by
  unfold Yields
  simp only [Follows.map same]
  constructor
  · rintro ⟨⟨_, pages, rfl, follows⟩, right⟩
    refine ⟨⟨pages, follows⟩, fun pages' follows' => ?_⟩
    rw [List.map_flatten]
    exact right _ ⟨pages', rfl, follows'⟩
  · rintro ⟨⟨pages, follows⟩, right⟩
    refine ⟨⟨_, pages, rfl, follows⟩, ?_⟩
    rintro _ ⟨pages', rfl, follows'⟩
    rw [← List.map_flatten]
    exact right pages' follows'

/-- Pages whose cursors are written in another form are followed alike. -/
theorem Follows.write {κ' : Type*} {serve' : Option κ' → List α → Option κ' → Prop} {write : κ → κ'}
    (same : ∀ cursor items next, serve' (cursor.map write) items next ↔
      ∃ next', next = next'.map write ∧ serve cursor items next')
    {cursor : Option κ} {pages : List (List α)} :
    Follows serve' (cursor.map write) pages ↔ Follows serve cursor pages := by
  constructor
  · intro follows
    generalize start : cursor.map write = written at follows
    induction follows generalizing cursor with
    | last served =>
        subst start
        obtain ⟨next, none, served'⟩ := (same _ _ _).1 served
        rw [Option.map_eq_none_iff.1 none.symm] at served'
        exact .last served'
    | next served _ ih =>
        subst start
        obtain ⟨next, some, served'⟩ := (same _ _ _).1 served
        obtain ⟨k, rfl, rfl⟩ := Option.map_eq_some_iff.1 some.symm
        exact .next served' (ih rfl)
  · intro follows
    induction follows with
    | last served => exact .last ((same _ _ _).2 ⟨none, rfl, served⟩)
    | next served _ ih => exact .next ((same _ _ _).2 ⟨some _, rfl, served⟩) ih

theorem yields_write {κ' : Type*} {serve' : Option κ' → List α → Option κ' → Prop} {write : κ → κ'}
    (same : ∀ cursor items next, serve' (cursor.map write) items next ↔
      ∃ next', next = next'.map write ∧ serve cursor items next')
    {good : List α → Prop} : Yields serve' none good ↔ Yields serve none good := by
  have follows : ∀ pages, Follows serve' none pages ↔ Follows serve none pages :=
    fun _ => @Follows.write _ _ _ _ _ _ same none _
  simp only [Yields, follows]

end Follows

/-! ## One row more than a page -/

/-- The page of a query with `LIMIT limit + 1`, and the key of its last row if there are more. -/
def probe (limit : Nat) (key : α → κ) (rows : List α) : List α × Option κ :=
  let fetched := rows.take (limit + 1)
  let items := fetched.take limit
  (items, if limit < fetched.length then items.getLast?.map key else none)

theorem probe_of_le {limit : Nat} (key : α → κ) {rows : List α} (few : rows.length ≤ limit) :
    probe limit key rows = (rows, none) := by
  have all : rows.take (limit + 1) = rows := List.take_of_length_le (by omega)
  unfold probe
  simp only [all, List.take_of_length_le few, if_neg (Nat.not_lt.2 few)]

theorem probe_of_more {limit : Nat} (key : α → κ) {first rest : List α} {a : α}
    (full : first.length + 1 = limit) (more : rest ≠ []) :
    probe limit key (first ++ a :: rest) = (first ++ [a], some (key a)) := by
  have length : limit < (first ++ a :: rest).length := by
    have pos := List.length_pos_iff.2 more
    rw [List.length_append, List.length_cons]
    omega
  have page : (first ++ a :: rest).take limit = first ++ [a] := by
    subst full
    rw [← List.singleton_append, ← List.append_assoc]
    exact List.take_left' (by simp)
  unfold probe
  simp only [List.take_take, Nat.min_eq_left (Nat.le_succ limit), page, List.length_take]
  rw [if_pos (by omega), List.getLast?_concat, Option.map_some]

theorem probe_map {β : Type*} (limit : Nat) (key : β → κ) (out : α → β) (rows : List α) :
    probe limit key (rows.map out) =
      ((probe limit (key ∘ out) rows).1.map out, (probe limit (key ∘ out) rows).2) := by
  unfold probe
  simp only [← List.map_take, List.length_map, List.getLast?_map, Option.map_map]

/-- A page whose rows and whose cursor are written out. -/
theorem written_iff_probe {β κ' : Type*} (limit : Nat) (key : α → κ) (written : κ → κ')
    (out : α → β) (rows : List α) (items : List β) (next : Option κ') :
    ((rows.take (limit + 1)).take limit).map out = items ∧
        (if limit < (rows.take (limit + 1)).length then
          ((rows.take (limit + 1)).take limit).getLast?.map fun last => written (key last)
        else none) = next ↔
      ∃ next', next = next'.map written ∧
        ∃ found, items = found.map out ∧ probe limit key rows = (found, next') := by
  have cursors : (if limit < (rows.take (limit + 1)).length then
        ((rows.take (limit + 1)).take limit).getLast?.map fun last => written (key last)
      else none) = (probe limit key rows).2.map written := by
    unfold probe
    dsimp only
    split
    · rw [Option.map_map]
      rfl
    · rfl
  rw [cursors]
  constructor
  · rintro ⟨rfl, rfl⟩
    exact ⟨_, rfl, _, rfl, rfl⟩
  · rintro ⟨next', rfl, found, rfl, page⟩
    obtain ⟨rfl, rfl⟩ := Prod.mk.inj page
    exact ⟨rfl, rfl⟩

/-- More rows than a page holds split at the last row of the page. -/
theorem exists_page {limit : Nat} (pos : 0 < limit) {rows : List α} (more : limit < rows.length) :
    ∃ first a rest, rows = first ++ a :: rest ∧ first.length + 1 = limit ∧ rest ≠ [] := by
  have inside : limit - 1 < rows.length := by omega
  refine ⟨rows.take (limit - 1), rows.get ⟨limit - 1, inside⟩, rows.drop limit, ?_, ?_, ?_⟩
  · have tail : rows.drop (limit - 1) = rows.get ⟨limit - 1, inside⟩ :: rows.drop limit := by
      rw [List.drop_eq_getElem_cons inside, List.get_eq_getElem,
        Nat.sub_add_cancel pos]
    rw [← tail, List.take_append_drop]
  · rw [List.length_take]
    omega
  · intro none
    have length := congrArg List.length none
    rw [List.length_drop, List.length_nil] at length
    omega

/-- What a query serves for a cursor when `rows` are the rows that it selects. -/
def servePage (limit : Nat) (key : α → κ) (rows : Option κ → List α) (cursor : Option κ)
    (items : List α) (next : Option κ) : Prop :=
  probe limit key (rows cursor) = (items, next)

theorem servePage_determined (limit : Nat) (key : α → κ) (rows : Option κ → List α) :
    Determined (servePage limit key rows) :=
  fun _ _ _ _ _ served served' => Prod.mk.inj (served.symm.trans served')

/-- A page that is served is all of the rows, or a first part of them and its last row. -/
theorem servePage_cases {limit : Nat} (pos : 0 < limit) {key : α → κ} {rows : Option κ → List α}
    {cursor : Option κ} {items : List α} {next : Option κ}
    (served : servePage limit key rows cursor items next) :
    ((rows cursor).length ≤ limit ∧ items = rows cursor ∧ next = none) ∨ ∃ first a rest,
      rows cursor = first ++ a :: rest ∧ first.length + 1 = limit ∧ rest ≠ [] ∧
        items = first ++ [a] ∧ next = some (key a) := by
  by_cases few : (rows cursor).length ≤ limit
  · have same := Prod.mk.inj (served.symm.trans (probe_of_le key few))
    exact .inl ⟨few, same⟩
  · obtain ⟨first, a, rest, listed, full, more⟩ := exists_page pos (Nat.not_le.1 few)
    unfold servePage at served
    rw [listed] at served
    have same := Prod.mk.inj (served.symm.trans (probe_of_more key full more))
    exact .inr ⟨first, a, rest, listed, full, more, same⟩

/-! ## Listings -/

/-- `listing` holds the rows of `table` in an order that `before` allows. -/
structure Lists (before : α → α → Prop) (table listing : List α) : Prop where
  perm : listing.Perm table
  sorted : listing.Pairwise before

/-- `rows` selects `table` for the first cursor, and behind a row what is `after` its key. -/
structure Selects (before : α → α → Prop) (key : α → κ) (after : κ → α → Bool) (table : List α)
    (rows : Option κ → List α) (cursor : Option κ) : Prop where
  first : Lists before table (rows cursor)
  next : ∀ a ∈ table, Lists before (table.filter (after (key a))) (rows (some (key a)))

/-- Wherever a page ends, what is after its last row is what was listed behind it. -/
def Splits (limit : Nat) (key : α → κ) (after : κ → α → Bool) (listing : List α) : Prop :=
  ∀ first a rest, listing = first ++ a :: rest → limit ∣ first.length + 1 → rest ≠ [] →
    listing.filter (after (key a)) = rest

section Listings

variable {before : α → α → Prop} {key : α → κ} {after : κ → α → Bool} {table : List α}
  {rows : Option κ → List α} {limit : Nat}

theorem Lists.unique (antisymm : ∀ a ∈ table, ∀ b ∈ table, before a b → before b a → a = b)
    {listing listing' : List α} (lists : Lists before table listing)
    (lists' : Lists before table listing') : listing = listing' :=
  (lists.perm.trans lists'.perm.symm).eq_of_pairwise
    (fun a b inside inside' => antisymm a (lists.perm.subset inside) b (lists'.perm.subset inside'))
    lists.sorted lists'.sorted

/-- Rows that are sorted by a key of their own, from the largest on. -/
theorem lists_insertionSort {γ : Type*} [LinearOrder γ] {rank : α → γ} {le : α → α → Prop}
    [DecidableRel le] (sorts : ∀ a b, le a b ↔ rank b ≤ rank a) (nodup : table.Nodup)
    (own : ∀ a ∈ table, ∀ b ∈ table, rank a = rank b → a = b) :
    Lists (fun a b => rank b < rank a) table (table.insertionSort le) := by
  have : Std.Total le := ⟨fun a b => by
    rw [sorts, sorts]
    exact le_total _ _⟩
  have : IsTrans α le := ⟨fun a b c => by
    rw [sorts, sorts, sorts]
    exact fun ba cb => le_trans cb ba⟩
  have perm := List.perm_insertionSort le table
  have sorted := List.pairwise_insertionSort le table
  refine ⟨perm, (sorted.and (perm.nodup_iff.2 nodup)).imp_of_mem ?_⟩
  rintro a b mem mem' ⟨ordered, apart⟩
  refine lt_of_le_of_ne ((sorts a b).1 ordered) fun same => apart ?_
  exact own a (perm.subset mem) b (perm.subset mem') same.symm

/-- A listing splits everywhere when the cursors select what the order puts behind a row. -/
theorem Lists.splits (agrees : ∀ a b, after (key a) b = true ↔ before a b)
    (asymm : ∀ a b, before a b → ¬ before b a) {listing : List α}
    (lists : Lists before table listing) : Splits limit key after listing := by
  rintro first a rest rfl - -
  obtain ⟨-, behind, ahead⟩ := List.pairwise_append.1 lists.sorted
  have none : first.filter (after (key a)) = [] :=
    List.filter_eq_nil_iff.2 fun x inside selected =>
      asymm x a (ahead x inside a List.mem_cons_self) ((agrees a x).1 selected)
  have all : rest.filter (after (key a)) = rest :=
    List.filter_eq_self.2 fun x inside =>
      (agrees a x).2 ((List.pairwise_cons.1 behind).1 x inside)
  have itself : ¬ after (key a) a = true :=
    fun selected => asymm a a ((agrees a a).1 selected) ((agrees a a).1 selected)
  rw [List.filter_append, none, List.filter_cons_of_neg itself, all, List.nil_append]

theorem Lists.reorder {front rest rest' : List α} (lists : Lists before table (front ++ rest))
    (same : rest'.Perm rest) (sorted : rest'.Pairwise before) :
    Lists before table (front ++ rest') := by
  refine ⟨(List.Perm.append_left _ same).trans lists.perm, ?_⟩
  obtain ⟨ahead, -, across⟩ := List.pairwise_append.1 lists.sorted
  exact List.pairwise_append.2 ⟨ahead, sorted,
    fun x left y right => across x left y (same.subset right)⟩

/-- Behind the pages served so far, the cursors yield the rest of a listing. -/
theorem exists_follows (pos : 0 < limit) {start : Option κ}
    (selects : Selects before key after table rows start)
    (splits : ∀ listing, Lists before table listing → Splits limit key after listing)
    {served : List α} {cursor : Option κ} (lists : Lists before table (served ++ rows cursor))
    (whole : limit ∣ served.length) :
    ∃ pages, Follows (servePage limit key rows) cursor pages ∧
      Lists before table (served ++ pages.flatten) := by
  induction length : (rows cursor).length using Nat.strongRecOn generalizing cursor served with
  | _ n ih =>
      by_cases few : (rows cursor).length ≤ limit
      · exact ⟨[rows cursor], .last (probe_of_le key few), by simpa using lists⟩
      · obtain ⟨first, a, rest, listed, full, more⟩ := exists_page pos (Nat.not_le.1 few)
        have cut : served ++ rows cursor = (served ++ first) ++ a :: rest := by
          rw [listed, List.append_assoc]
        have boundary : limit ∣ (served ++ first).length + 1 := by
          rw [List.length_append, Nat.add_assoc, full]
          exact (Nat.dvd_add_iff_left (Nat.dvd_refl limit)).1 whole
        have behind := splits _ lists (served ++ first) a rest cut boundary more
        have inside : a ∈ table := lists.perm.subset (by simp [listed])
        have selected := selects.next a inside
        have same : (rows (some (key a))).Perm rest :=
          selected.perm.trans (behind ▸ lists.perm.symm.filter _)
        have shorter : (rows (some (key a))).length < n := by
          rw [same.length_eq, ← length, listed, List.length_append, List.length_cons]
          omega
        have here : Lists before table ((served ++ first ++ [a]) ++ rest) := by
          rw [List.append_assoc, List.singleton_append, ← cut]
          exact lists
        have lists' : Lists before table ((served ++ first ++ [a]) ++ rows (some (key a))) :=
          here.reorder same selected.sorted
        obtain ⟨pages, follows, yields⟩ := ih _ shorter lists'
          (by rwa [List.length_append, List.length_singleton]) rfl
        have page : servePage limit key rows cursor (first ++ [a]) (some (key a)) := by
          unfold servePage
          rw [listed]
          exact probe_of_more key full more
        refine ⟨(first ++ [a]) :: pages, .next page follows, ?_⟩
        rw [List.flatten_cons, ← List.append_assoc, ← List.append_assoc]
        exact yields

/-- What the cursors yield from the first one on, when every listing splits. -/
theorem yields_of_splits (pos : 0 < limit) {cursor : Option κ}
    (selects : Selects before key after table rows cursor)
    (splits : ∀ listing, Lists before table listing → Splits limit key after listing) :
    Yields (servePage limit key rows) cursor (Lists before table) := by
  rw [yields_iff (servePage_determined limit key rows)]
  have lists : Lists before table ([] ++ rows cursor) := selects.first
  exact exists_follows pos selects splits lists (Nat.dvd_zero limit)

/-- Rows that are sorted by a key of their own come whole when a cursor selects what has a
smaller key than the last row of its page. -/
theorem yields_insertionSort {γ : Type*} [LinearOrder γ] {rank : α → γ} {le : α → α → Prop}
    [DecidableRel le] (pos : 0 < limit) (sorts : ∀ a b, le a b ↔ rank b ≤ rank a)
    (nodup : table.Nodup) (own : ∀ a ∈ table, ∀ b ∈ table, rank a = rank b → a = b)
    (agrees : ∀ a b, after (key a) b = true ↔ rank b < rank a) :
    Yields (servePage limit key fun cursor =>
        (table.filter fun row => cursor.all (after · row)).insertionSort le) none
      (Lists (fun a b => rank b < rank a) table) := by
  have lists : ∀ p : α → Bool, Lists (fun a b => rank b < rank a) (table.filter p)
      ((table.filter p).insertionSort le) := fun p =>
    lists_insertionSort sorts (nodup.filter p) fun a mem b mem' =>
      own a (List.mem_of_mem_filter mem) b (List.mem_of_mem_filter mem')
  have first := lists fun _ => true
  rw [List.filter_true] at first
  refine yields_of_splits pos ⟨?_, fun a _ => lists (after (key a))⟩ fun listing order =>
    order.splits agrees fun a b => lt_asymm
  simpa using first

/-- The first row that a cursor selects is on its page. -/
theorem Follows.head_mem (pos : 0 < limit) {cursor : Option κ} {pages : List (List α)}
    (follows : Follows (servePage limit key rows) cursor pages) {x : α} {others : List α}
    (selected : rows cursor = x :: others) : x ∈ pages.flatten := by
  have page : ∀ {items : List α} {next : Option κ},
      servePage limit key rows cursor items next → x ∈ items := by
    intro items next served
    rcases servePage_cases pos served with ⟨-, rfl, -⟩ | ⟨first, a, rest, listed, -, -, rfl, -⟩
    · simp [selected]
    · cases first with
      | nil => simp_all
      | cons y first => simp_all
  cases follows with
  | last served => simpa using page served
  | next served _ => exact List.mem_flatten.2 ⟨_, List.mem_cons_self, page served⟩

variable {listing : List α}

/-- What follows a row's cursor is after its key. -/
theorem Follows.after_key (pos : 0 < limit)
    (trans : ∀ a b c, after (key a) b → after (key b) c → after (key a) c)
    (filters : ∀ a, rows (some (key a)) = listing.filter (after (key a)))
    {cursor : Option κ} {pages : List (List α)}
    (follows : Follows (servePage limit key rows) cursor pages) {a : α} (start : cursor = some (key a))
    {x : α} (inside : x ∈ pages.flatten) : after (key a) x := by
  induction follows generalizing a with
  | last served =>
      rcases servePage_cases pos served with ⟨-, rfl, -⟩ | ⟨_, b, _, _, _, _, _, none⟩
      · rw [List.flatten_singleton, start, filters] at inside
        exact (List.mem_filter.1 inside).2
      · cases none
  | next served _ ih =>
      rcases servePage_cases pos served with ⟨-, -, none⟩ | ⟨first, b, rest, listed, -, -, rfl, next⟩
      · cases none
      · have selected : ∀ y ∈ first ++ [b], after (key a) y := by
          intro y mem
          rw [start, filters] at listed
          have more : y ∈ first ++ b :: rest := by
            rw [← List.singleton_append, ← List.append_assoc]
            exact List.mem_append_left rest mem
          exact (List.mem_filter.1 (listed ▸ more)).2
        rw [List.flatten_cons, List.mem_append] at inside
        rcases inside with here | later
        · exact selected x here
        · exact trans a b x (selected b (by simp)) (ih next later)

/-- A page that ends at `a` leaves what was listed behind it for the cursor of `a` to select. -/
theorem behind_of_follows (pos : 0 < limit) (nodup : listing.Nodup)
    (trans : ∀ a b c, after (key a) b → after (key b) c → after (key a) c)
    (filters : ∀ a, rows (some (key a)) = listing.filter (after (key a)))
    {front rest : List α} (listed : listing = front ++ rest) {a : α} {pages : List (List α)}
    (follows : Follows (servePage limit key rows) (some (key a)) pages)
    (all : pages.flatten.Perm rest) : listing.filter (after (key a)) = rest := by
  have apart := List.nodup_append.1 (listed ▸ nodup)
  have behind : rest.filter (after (key a)) = rest :=
    List.filter_eq_self.2 fun x inside =>
      follows.after_key pos trans filters rfl (all.mem_iff.2 inside)
  rw [listed, List.filter_append, behind]
  cases ahead : front.filter (after (key a)) with
  | nil => rfl
  | cons x others =>
      have head : rows (some (key a)) = x :: (others ++ rest) := by
        rw [filters, listed, List.filter_append, ahead, behind, List.cons_append]
      have again : x ∈ rest := all.subset (follows.head_mem pos head)
      have inside : x ∈ front := List.mem_of_mem_filter (ahead ▸ List.mem_cons_self)
      exact absurd rfl (apart.2.2 x inside x again)

/-- The end of a later page is that of a page, or lies behind it. -/
theorem boundary_cases {start behind first rest : List α} {a b : α}
    (split : start ++ b :: behind = first ++ a :: rest) (full : start.length + 1 = limit)
    (boundary : limit ∣ first.length + 1) :
    (b = a ∧ behind = rest) ∨
      ∃ between, behind = between ++ a :: rest ∧ limit ∣ between.length + 1 := by
  rcases List.append_eq_append_iff.1 split with ⟨between, rfl, tail⟩ | ⟨between, rfl, tail⟩
  · cases between with
    | nil => exact Or.inl (List.cons.inj tail)
    | cons c between =>
        obtain ⟨rfl, rfl⟩ := List.cons.inj tail
        refine Or.inr ⟨between, rfl, ?_⟩
        rw [List.length_append, List.length_cons, ← Nat.add_assoc,
          Nat.add_right_comm start.length, full, Nat.add_assoc] at boundary
        exact (Nat.dvd_add_right (Nat.dvd_refl limit)).1 boundary
  · cases between with
    | nil =>
        obtain ⟨rfl, rfl⟩ := List.cons.inj tail
        exact Or.inl ⟨rfl, rfl⟩
    | cons c between =>
        have whole := Nat.le_of_dvd (Nat.succ_pos _) boundary
        rw [List.length_append, List.length_cons] at full
        omega

/-- Pages that hold a whole listing end where it splits. -/
theorem splits_of_follows (pos : 0 < limit) (nodup : listing.Nodup)
    (trans : ∀ a b c, after (key a) b → after (key b) c → after (key a) c)
    (filters : ∀ a, rows (some (key a)) = listing.filter (after (key a)))
    {cursor : Option κ} {pages : List (List α)}
    (follows : Follows (servePage limit key rows) cursor pages) {served : List α}
    (listed : listing = served ++ rows cursor) (all : pages.flatten.Perm (rows cursor))
    {first rest : List α} {a : α} (cut : rows cursor = first ++ a :: rest)
    (boundary : limit ∣ first.length + 1) (more : rest ≠ []) :
    listing.filter (after (key a)) = rest := by
  induction follows generalizing served first with
  | last page =>
      rcases servePage_cases pos page with ⟨few, -, -⟩ | ⟨_, _, _, _, _, _, _, none⟩
      · have size := List.length_pos_iff.2 more
        have whole := Nat.le_of_dvd (Nat.succ_pos _) boundary
        rw [cut, List.length_append, List.length_cons] at few
        omega
      · cases none
  | next page later ih =>
      rcases servePage_cases pos page with ⟨-, -, none⟩ | ⟨start, b, behind, split, full, -, rfl, next⟩
      · cases none
      · obtain rfl := Option.some.inj next
        have others := all
        rw [split, List.flatten_cons, List.append_assoc, List.singleton_append] at others
        replace others := (List.perm_cons b).1 ((List.perm_append_left_iff start).1 others)
        have listed' : listing = (served ++ start ++ [b]) ++ behind := by
          rw [listed, split, List.append_assoc, List.append_assoc, List.singleton_append]
        have selected := behind_of_follows pos nodup trans filters listed' later others
        have rows' : rows (some (key b)) = behind := (filters b).trans selected
        rcases boundary_cases (split.symm.trans cut) full boundary with
          ⟨rfl, rfl⟩ | ⟨between, rfl, boundary'⟩
        · exact selected
        · exact ih (listed'.trans (by rw [rows'])) (rows' ▸ others) rows' boundary'

/-! ## When the pages are right -/

/-- A listing in the only order there is comes page by page exactly when it splits. -/
theorem yields_iff_splits (pos : 0 < limit) (nodup : table.Nodup)
    (antisymm : ∀ a ∈ table, ∀ b ∈ table, before a b → before b a → a = b)
    (trans : ∀ a b c, after (key a) b → after (key b) c → after (key a) c)
    (selects : Selects before key after table rows none)
    (filters : ∀ a, rows (some (key a)) = (rows none).filter (after (key a))) :
    Yields (servePage limit key rows) none (· = rows none) ↔ Splits limit key after (rows none) := by
  constructor
  · rintro ⟨⟨pages, follows⟩, right⟩ first a rest cut boundary more
    have all := List.Perm.of_eq (right pages follows)
    have distinct := selects.first.perm.nodup_iff.2 nodup
    exact splits_of_follows pos distinct trans filters follows (List.nil_append _).symm all cut
      boundary more
  · intro splits
    have only : ∀ listing, Lists before table listing → listing = rows none :=
      fun listing lists => lists.unique antisymm selects.first
    obtain ⟨ends, right⟩ := yields_of_splits pos selects
      fun listing lists => only listing lists ▸ splits
    exact ⟨ends, fun pages follows => only _ (right pages follows)⟩

/-- Where the order leaves room, the pages are right however each query orders its rows
exactly when every listing splits. -/
theorem yields_iff_all_split (pos : 0 < limit) (nodup : table.Nodup)
    (trans : ∀ a b c, after (key a) b → after (key b) c → after (key a) c) :
    (∀ rows, (Lists before table (rows none) ∧
        ∀ k, Lists before (table.filter (after k)) (rows (some k))) →
        Yields (servePage limit key rows) none (Lists before table)) ↔
      ∀ listing, Lists before table listing → Splits limit key after listing := by
  constructor
  · intro right listing lists first a rest cut boundary more
    let rows : Option κ → List α := fun
      | none => listing
      | some k => listing.filter (after k)
    have ordered : ∀ k, Lists before (table.filter (after k)) (rows (some k)) :=
      fun k => ⟨lists.perm.filter _, lists.sorted.filter _⟩
    obtain ⟨⟨pages, follows⟩, all⟩ := right rows ⟨lists, ordered⟩
    exact splits_of_follows pos (lists.perm.nodup_iff.2 nodup) trans (fun _ => rfl) follows
      (List.nil_append _).symm ((all pages follows).perm.trans lists.perm.symm) cut boundary more
  · rintro splits rows ⟨first, next⟩
    exact yields_of_splits pos ⟨first, fun a _ => next (key a)⟩ splits

/-! ## Cursors that are times -/

section Times

variable {τ : Type*} [LinearOrder τ] {time : α → τ}

/-- No page ends between two rows of one time. -/
def EndsApart (limit : Nat) (times : List τ) : Prop :=
  ∀ before t t' after, times = before ++ t :: t' :: after → limit ∣ before.length + 1 → t ≠ t'

/-- The times of the rows, from the latest on. -/
def latestFirst (time : α → τ) (table : List α) : List τ :=
  (table.map time).insertionSort (· ≥ ·)

/-- All listings have the same times. -/
theorem Lists.map_time (lists : Lists (fun a b => time b ≤ time a) table listing) :
    listing.map time = latestFirst time table := by
  have sorted : (listing.map time).Pairwise (· ≥ ·) := List.pairwise_map.2 lists.sorted
  have sorted' : (latestFirst time table).Pairwise (· ≥ ·) := List.pairwise_insertionSort _ _
  exact ((lists.perm.map time).trans (List.perm_insertionSort _ _).symm).eq_of_pairwise
    (fun a b _ _ ge le => le_antisymm le ge) sorted sorted'

/-- What is listed before a row is not earlier. -/
theorem filter_time {first rest : List α} {a : α}
    (sorted : (first ++ a :: rest).Pairwise fun a b => time b ≤ time a) :
    (first ++ a :: rest).filter (fun b => time b < time a) =
      rest.filter fun b => time b < time a := by
  obtain ⟨-, -, ahead⟩ := List.pairwise_append.1 sorted
  have none : first.filter (fun b => time b < time a) = [] :=
    List.filter_eq_nil_iff.2 fun x mem earlier =>
      absurd (ahead x mem a List.mem_cons_self) (not_le_of_gt (of_decide_eq_true earlier))
  rw [List.filter_append, none, List.filter_cons_of_neg (by simp), List.nil_append]

/-- A listing splits by its times when and only when no page ends between equal ones. -/
theorem splits_iff_endsApart (agrees : ∀ a b, after (key a) b = decide (time b < time a))
    (sorted : listing.Pairwise fun a b => time b ≤ time a) :
    Splits limit key after listing ↔ EndsApart limit (listing.map time) := by
  have selects : ∀ a, after (key a) = fun b => decide (time b < time a) :=
    fun a => funext (agrees a)
  constructor
  · intro splits before t t' later cut boundary same
    obtain ⟨first, tail, rfl, rfl, tail'⟩ := List.map_eq_append_iff.1 cut
    obtain ⟨a, others, rfl, rfl, others'⟩ := List.map_eq_cons_iff.1 tail'
    obtain ⟨b, rest, rfl, rfl, rfl⟩ := List.map_eq_cons_iff.1 others'
    rw [List.length_map] at boundary
    have whole := splits first a (b :: rest) rfl boundary (List.cons_ne_nil b rest)
    rw [selects] at whole
    have inside : b ∈ (first ++ a :: b :: rest).filter fun c => time c < time a := by
      rw [whole]
      exact List.mem_cons_self
    have earlier := of_decide_eq_true (List.mem_filter.1 inside).2
    exact absurd same.symm earlier.ne
  · rintro apart first a rest rfl boundary more
    rw [selects, filter_time sorted, List.filter_eq_self]
    cases rest with
    | nil => exact absurd rfl more
    | cons b rest =>
        have different := apart (first.map time) (time a) (time b) (rest.map time) (by simp)
          (by rwa [List.length_map])
        obtain ⟨-, behind, -⟩ := List.pairwise_append.1 sorted
        obtain ⟨latest, later⟩ := List.pairwise_cons.1 behind
        have next : time b < time a :=
          lt_of_le_of_ne (latest b List.mem_cons_self) different.symm
        intro c mem
        rcases List.mem_cons.1 mem with rfl | mem
        · exact decide_eq_true next
        · exact decide_eq_true (((List.pairwise_cons.1 later).1 c mem).trans_lt next)

/-- Where rows are listed by their times and a cursor selects what is earlier, the pages are
right in every order of equal times exactly when no page ends between two of them. -/
theorem yields_iff_endsApart (pos : 0 < limit) (nodup : table.Nodup)
    (agrees : ∀ a b, after (key a) b = decide (time b < time a)) :
    (∀ rows, (Lists (fun a b => time b ≤ time a) table (rows none) ∧
        ∀ k, Lists (fun a b => time b ≤ time a) (table.filter (after k)) (rows (some k))) →
        Yields (servePage limit key rows) none (Lists (fun a b => time b ≤ time a) table)) ↔
      EndsApart limit (latestFirst time table) := by
  have trans : ∀ a b c, after (key a) b → after (key b) c → after (key a) c := by
    intro a b c ab bc
    rw [agrees, decide_eq_true_eq] at ab bc ⊢
    exact bc.trans ab
  rw [yields_iff_all_split pos nodup trans]
  constructor
  · intro splits
    have : Std.Total fun a b : α => time b ≤ time a := ⟨fun a b => le_total _ _⟩
    have : IsTrans α fun a b => time b ≤ time a := ⟨fun a b c ba cb => le_trans cb ba⟩
    have lists : Lists (fun a b => time b ≤ time a) table
        (table.insertionSort fun a b => time b ≤ time a) :=
      ⟨List.perm_insertionSort _ _, List.pairwise_insertionSort _ _⟩
    have apart := (splits_iff_endsApart agrees lists.sorted).1 (splits _ lists)
    rwa [lists.map_time] at apart
  · intro apart listing lists
    rw [splits_iff_endsApart agrees lists.sorted, lists.map_time]
    exact apart

end Times

/-! ## Rows that are written out -/

section Written

variable {β : Type*} {out : α → β} {before' : β → β → Prop}

theorem Follows.subset (pos : 0 < limit) (inside : ∀ cursor, rows cursor ⊆ table)
    {cursor : Option κ} {pages : List (List α)}
    (follows : Follows (servePage limit key rows) cursor pages) : pages.flatten ⊆ table := by
  have page : ∀ {cursor : Option κ} {items : List α} {next : Option κ},
      servePage limit key rows cursor items next → items ⊆ table := by
    intro cursor items next served
    refine List.Subset.trans ?_ (inside cursor)
    rcases servePage_cases pos served with ⟨-, rfl, -⟩ | ⟨first, a, rest, listed, -, -, rfl, -⟩
    · exact List.Subset.refl _
    · have whole : first ++ a :: rest = (first ++ [a]) ++ rest := by simp
      rw [listed, whole]
      exact List.subset_append_left _ _
  induction follows with
  | last served =>
      rw [List.flatten_singleton]
      exact page served
  | next served _ ih =>
      rw [List.flatten_cons]
      exact List.append_subset.2 ⟨page served, ih⟩

/-- Rows that are told apart by what is written of them are listed as they are. -/
theorem lists_map_iff (same : ∀ a b, before' (out a) (out b) ↔ before a b) (nodup : table.Nodup)
    (own : ∀ a ∈ table, ∀ b ∈ table, out a = out b → a = b) (inside : listing ⊆ table) :
    Lists before' (table.map out) (listing.map out) ↔ Lists before table listing := by
  constructor
  · rintro ⟨perm, sorted⟩
    refine ⟨?_, ((List.pairwise_map.1 sorted).imp fun {a b} => (same a b).1)⟩
    have distinct := perm.nodup_iff.2 (nodup.map_on own)
    rw [List.perm_ext_iff_of_nodup distinct.of_map nodup]
    refine fun a => ⟨fun mem => inside mem, fun mem => ?_⟩
    obtain ⟨b, listed, equal⟩ := List.mem_map.1 (perm.mem_iff.2 (List.mem_map_of_mem mem))
    rwa [← own b (inside listed) a mem equal]
  · rintro ⟨perm, sorted⟩
    exact ⟨perm.map out, List.pairwise_map.2 (sorted.imp fun {a b} => (same a b).2)⟩

theorem yields_written (pos : 0 < limit) (same : ∀ a b, before' (out a) (out b) ↔ before a b)
    (nodup : table.Nodup) (own : ∀ a ∈ table, ∀ b ∈ table, out a = out b → a = b)
    (inside : ∀ cursor, rows cursor ⊆ table) {cursor : Option κ} :
    Yields (servePage limit key rows) cursor
        (fun found => Lists before' (table.map out) (found.map out)) ↔
      Yields (servePage limit key rows) cursor (Lists before table) := by
  unfold Yields
  refine and_congr_right fun _ => forall_congr' fun pages => forall_congr' fun follows => ?_
  exact lists_map_iff same nodup own (follows.subset pos inside)

/-- The same for what a service serves: `written` of a cursor, and `out` of the rows that the
database answers. -/
theorem serves_iff_endsApart {ρ κ' τ : Type*} [LinearOrder τ] {time : α → τ} {time' : β → τ}
    {answer : ρ → Option κ → List α} {written : κ → κ'}
    {serve : ρ → Option κ' → List β → Option κ' → Prop} (pos : 0 < limit)
    (every : Function.Surjective answer)
    (serves : ∀ r cursor items next, serve r (cursor.map written) items next ↔
      ∃ next', next = next'.map written ∧
        ∃ rows, items = rows.map out ∧ servePage limit key (answer r) cursor rows next')
    (agrees : ∀ a b, after (key a) b = decide (time b < time a))
    (same : ∀ a, time' (out a) = time a) (nodup : table.Nodup)
    (own : ∀ a ∈ table, ∀ b ∈ table, out a = out b → a = b) :
    (∀ r, (Lists (fun a b => time b ≤ time a) table (answer r none) ∧
        ∀ k, Lists (fun a b => time b ≤ time a) (table.filter (after k)) (answer r (some k))) →
        Yields (serve r) none (Lists (fun b b' => time' b' ≤ time' b) (table.map out))) ↔
      EndsApart limit (latestFirst time table) := by
  rw [← yields_iff_endsApart pos nodup agrees, every.forall]
  refine forall_congr' fun r => forall_congr' fun answers => ?_
  have inside : ∀ cursor, answer r cursor ⊆ table := by
    intro cursor
    cases cursor with
    | none => exact answers.1.perm.subset
    | some k => exact fun a mem => List.mem_of_mem_filter ((answers.2 k).perm.subset mem)
  have order : ∀ a b, time' (out b) ≤ time' (out a) ↔ time b ≤ time a :=
    fun a b => by rw [same, same]
  rw [yields_write (serves r), yields_map fun _ _ _ => Iff.rfl,
    yields_written pos order nodup own inside]

end Written

end Listings

end ColabPlatform.Foundation
