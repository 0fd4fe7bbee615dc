import Mathlib.Data.List.Nodup
import Mathlib.Data.List.Pairwise
import Mathlib.Algebra.BigOperators.Group.List.Basic
import Mathlib.Algebra.Order.Group.Defs
import Mathlib.Tactic.Abel

/-!
# Keyed tables

A table is a list of rows whose primary keys are pairwise distinct and whose
second unique column, where it is not null, is pairwise distinct as well.  Both
are fields, so a duplicate cannot be stored rather than merely being avoided.
`modify` is the update of one row by its primary key; it leaves the two unique
columns alone.  The file gives the lookup laws of the operations and how a sum
over the rows moves under each of them.
-/

namespace ColabPlatform.Foundation

universe u v w

/-- Rows of type `ρ` with primary key `key` and a nullable unique column `alt`. -/
structure Table (ρ : Type u) {κ : Type v} {μ : Type w} (key : ρ → κ)
    (alt : ρ → Option μ) where
  rows : List ρ
  keys_nodup : (rows.map key).Nodup
  alts_nodup : (rows.filterMap alt).Nodup
  deriving DecidableEq

/-- The second unique column of a table that has none. -/
abbrev noAlt (ρ : Type u) (_ : ρ) : Option Unit := none

namespace Table

variable {ρ : Type u} {κ : Type v} {μ : Type w} {key : ρ → κ}
  {alt : ρ → Option μ}

@[ext] theorem ext {t t' : Table ρ key alt} (h : t.rows = t'.rows) : t = t' := by
  cases t; cases t'; simp_all

def empty : Table ρ key alt := ⟨[], List.nodup_nil, List.nodup_nil⟩

@[simp] theorem rows_empty : (empty : Table ρ key alt).rows = [] := rfl

/-- Primary keys identify rows. -/
theorem eq_of_key_eq {t : Table ρ key alt} {row row' : ρ} (h : row ∈ t.rows)
    (h' : row' ∈ t.rows) (same : key row = key row') : row = row' :=
  List.inj_on_of_nodup_map t.keys_nodup h h' same

/-- So do the values of the second unique column. -/
theorem eq_of_alt_eq {t : Table ρ key alt} {row row' : ρ} {m : μ} (h : row ∈ t.rows)
    (h' : row' ∈ t.rows) (column : alt row = some m) (column' : alt row' = some m) :
    row = row' := by
  by_contra other
  have apart := List.pairwise_filterMap.1 t.alts_nodup
  have symmetric : Std.Symm fun a a' => ∀ b, alt a = some b → ∀ b', alt a' = some b' →
      b ≠ b' :=
    ⟨fun a a' distinct b hb b' hb' same => distinct b' hb' b hb same.symm⟩
  exact apart.forall h h' other m column m column' rfl

/-! ## Lookup -/

section Lookup

variable [DecidableEq κ]

/-- The row with primary key `k`. -/
def lookup (t : Table ρ key alt) (k : κ) : Option ρ :=
  t.rows.find? fun row => key row = k

@[simp] theorem lookup_empty (k : κ) :
    (empty : Table ρ key alt).lookup k = none := rfl

theorem mem_of_lookup {t : Table ρ key alt} {k : κ} {row : ρ}
    (h : t.lookup k = some row) : row ∈ t.rows :=
  List.mem_of_find?_eq_some h

theorem key_of_lookup {t : Table ρ key alt} {k : κ} {row : ρ}
    (h : t.lookup k = some row) : key row = k := by
  simpa using List.find?_some h

theorem lookup_eq_none_iff {t : Table ρ key alt} {k : κ} :
    t.lookup k = none ↔ k ∉ t.rows.map key := by
  simp [lookup, List.find?_eq_none]

theorem lookup_of_mem {t : Table ρ key alt} {row : ρ} (h : row ∈ t.rows) :
    t.lookup (key row) = some row := by
  cases found : t.lookup (key row) with
  | none =>
      exact absurd (List.mem_map_of_mem h) (lookup_eq_none_iff.1 found)
  | some other =>
      rw [eq_of_key_eq (mem_of_lookup found) h (key_of_lookup found)]

theorem lookup_eq_some_iff {t : Table ρ key alt} {k : κ} {row : ρ} :
    t.lookup k = some row ↔ row ∈ t.rows ∧ key row = k :=
  ⟨fun h => ⟨mem_of_lookup h, key_of_lookup h⟩,
    fun h => h.2 ▸ lookup_of_mem h.1⟩

end Lookup

section LookupAlt

variable [DecidableEq μ]

/-- The row whose unique column holds `m`. -/
def lookupAlt (t : Table ρ key alt) (m : μ) : Option ρ :=
  t.rows.find? fun row => alt row = some m

theorem lookupAlt_eq_none_iff {t : Table ρ key alt} {m : μ} :
    t.lookupAlt m = none ↔ ∀ row ∈ t.rows, alt row ≠ some m := by
  simp [lookupAlt, List.find?_eq_none]

theorem mem_of_lookupAlt {t : Table ρ key alt} {m : μ} {row : ρ}
    (h : t.lookupAlt m = some row) : row ∈ t.rows :=
  List.mem_of_find?_eq_some h

theorem alt_of_lookupAlt {t : Table ρ key alt} {m : μ} {row : ρ}
    (h : t.lookupAlt m = some row) : alt row = some m := by
  simpa using List.find?_some h

theorem lookupAlt_eq_some_iff {t : Table ρ key alt} {m : μ} {row : ρ} :
    t.lookupAlt m = some row ↔ row ∈ t.rows ∧ alt row = some m := by
  constructor
  · exact fun h => ⟨mem_of_lookupAlt h, alt_of_lookupAlt h⟩
  · rintro ⟨mem, column⟩
    cases found : t.lookupAlt m with
    | none => exact absurd column (lookupAlt_eq_none_iff.1 found row mem)
    | some other =>
        rw [eq_of_alt_eq (mem_of_lookupAlt found) mem (alt_of_lookupAlt found) column]

end LookupAlt

/-! ## Insertion -/

section Insert

variable [DecidableEq κ] [DecidableEq μ]

/-- Whether storing `row` would break one of the two unique columns. -/
def Clashes (t : Table ρ key alt) (row : ρ) : Prop :=
  key row ∈ t.rows.map key ∨ ∃ m ∈ alt row, m ∈ t.rows.filterMap alt

instance (t : Table ρ key alt) (row : ρ) : Decidable (t.Clashes row) :=
  inferInstanceAs (Decidable (_ ∨ ∃ m ∈ alt row, m ∈ t.rows.filterMap alt))

/-- Insert a row; `none` is the violation of a unique column. -/
def insert? (t : Table ρ key alt) (row : ρ) : Option (Table ρ key alt) :=
  if clash : t.Clashes row then none
  else some ⟨row :: t.rows, by
      simpa using ⟨fun r h => by
        have := not_or.1 clash
        simp_all, t.keys_nodup⟩, by
      have fresh := (not_or.1 clash).2
      cases column : alt row with
      | none => simpa [column] using t.alts_nodup
      | some m =>
          have unused : m ∉ t.rows.filterMap alt := fun h =>
            fresh ⟨m, by simp [column], h⟩
          rw [List.filterMap_cons_some column]
          exact List.nodup_cons.2 ⟨unused, t.alts_nodup⟩⟩

theorem insert?_eq_none_iff {t : Table ρ key alt} {row : ρ} :
    t.insert? row = none ↔ t.Clashes row := by
  unfold insert?
  split <;> simp_all

theorem insert?_eq_some {t t' : Table ρ key alt} {row : ρ}
    (h : t.insert? row = some t') :
    ¬ t.Clashes row ∧ t'.rows = row :: t.rows := by
  unfold insert? at h
  split at h
  · cases h
  · rename_i clash
    exact ⟨clash, by rw [← Option.some.inj h]⟩

/-- Where the second column is null, a row is refused only for its key. -/
theorem insert?_eq_none_iff_of_null {t : Table ρ key alt} {row : ρ} (null : alt row = none) :
    t.insert? row = none ↔ t.lookup (key row) ≠ none := by
  rw [insert?_eq_none_iff, Clashes, null, ne_eq, lookup_eq_none_iff, not_not]
  simp

theorem lookup_of_insert? {t t' : Table ρ key alt} {row : ρ} (h : t.insert? row = some t') :
    t.lookup (key row) = none := by
  apply lookup_eq_none_iff.2
  intro mem
  exact (insert?_eq_some h).1 (Or.inl mem)

/-- What is asked of the new rows is asked of the row that is inserted. -/
theorem forall_new_iff {t t' : Table ρ key alt} {row : ρ} (h : t.insert? row = some t')
    {p : ρ → Prop} : (∀ r ∈ t'.rows, r ∉ t.rows → p r) ↔ p row := by
  obtain ⟨fresh, rows⟩ := insert?_eq_some h
  have new : row ∉ t.rows := fun old => fresh (Or.inl (List.mem_map_of_mem old))
  rw [rows]
  constructor
  · intro all
    exact all row List.mem_cons_self new
  · intro holds r mem other
    rcases List.mem_cons.1 mem with rfl | old
    · exact holds
    · exact absurd old other

theorem lookup_insert {t t' : Table ρ key alt} {row : ρ}
    (h : t.insert? row = some t') (k : κ) :
    t'.lookup k = if key row = k then some row else t.lookup k := by
  obtain ⟨-, rows_eq⟩ := insert?_eq_some h
  by_cases same : key row = k <;> simp [lookup, rows_eq, same]

theorem lookupAlt_insert {t t' : Table ρ key alt} {row : ρ}
    (h : t.insert? row = some t') (m : μ) :
    t'.lookupAlt m = if alt row = some m then some row else t.lookupAlt m := by
  obtain ⟨-, rows_eq⟩ := insert?_eq_some h
  by_cases same : alt row = some m <;> simp [lookupAlt, rows_eq, same]

/-- A row that is found by its second column is found by it after an insertion. -/
theorem lookupAlt_insert_of_some {t t' : Table ρ key alt} {row found : ρ} {m : μ}
    (h : t.insert? row = some t') (present : t.lookupAlt m = some found) :
    t'.lookupAlt m = some found := by
  have other : alt row ≠ some m := by
    intro same
    apply (insert?_eq_some h).1
    refine Or.inr ⟨m, same, List.mem_filterMap.2 ⟨found, ?_, ?_⟩⟩
    · exact mem_of_lookupAlt present
    · exact alt_of_lookupAlt present
  rw [lookupAlt_insert h, if_neg other, present]

/-- A row whose second column is taken cannot be inserted. -/
theorem insert?_of_lookupAlt {t : Table ρ key alt} {row found : ρ} {m : μ}
    (present : t.lookupAlt m = some found) (same : alt row = some m) : t.insert? row = none := by
  apply insert?_eq_none_iff.2
  refine Or.inr ⟨m, same, List.mem_filterMap.2 ⟨found, ?_, ?_⟩⟩
  · exact mem_of_lookupAlt present
  · exact alt_of_lookupAlt present

end Insert

/-! ## Update of one row -/

section Modify

variable [DecidableEq κ]

/-- Apply `f` to the row with primary key `k`, if there is one. -/
def modify (t : Table ρ key alt) (k : κ) (f : ρ → ρ)
    (same_key : ∀ row, key (f row) = key row := by intro _; rfl)
    (same_alt : ∀ row, alt (f row) = alt row := by intro _; rfl) :
    Table ρ key alt :=
  ⟨t.rows.map fun row => if key row = k then f row else row, by
    have keys : (key ∘ fun row => if key row = k then f row else row) = key := by
      funext row
      by_cases h : key row = k <;> simp [h, same_key]
    rw [List.map_map, keys]
    exact t.keys_nodup, by
    have alts : (alt ∘ fun row => if key row = k then f row else row) = alt := by
      funext row
      by_cases h : key row = k <;> simp [h, same_alt]
    rw [List.filterMap_map, alts]
    exact t.alts_nodup⟩

variable {f : ρ → ρ} {same_key : ∀ row, key (f row) = key row}
  {same_alt : ∀ row, alt (f row) = alt row}

@[simp] theorem rows_modify (t : Table ρ key alt) (k : κ) :
    (t.modify k f same_key same_alt).rows =
      t.rows.map fun row => if key row = k then f row else row := rfl

/-- A row after an update is the updated row or one of the others. -/
theorem mem_updated {rows : List ρ} {k : κ} {row : ρ}
    (h : row ∈ rows.map fun row => if key row = k then f row else row) :
    (∃ old ∈ rows, key old = k ∧ row = f old) ∨ (row ∈ rows ∧ key row ≠ k) := by
  obtain ⟨old, hold, rfl⟩ := List.mem_map.1 h
  by_cases same : key old = k
  · exact Or.inl ⟨old, hold, same, by simp [same]⟩
  · simpa [same] using Or.inr hold

theorem lookup_modify (t : Table ρ key alt) (k j : κ) :
    (t.modify k f same_key same_alt).lookup j =
      if k = j then (t.lookup j).map f else t.lookup j := by
  have keeps : ∀ row, key (if key row = k then f row else row) = key row := by
    intro row
    by_cases h : key row = k <;> simp [h, same_key]
  unfold lookup
  rw [rows_modify, List.find?_map]
  simp only [Function.comp_def, keeps]
  cases found : t.rows.find? fun row => key row = j with
  | none => simp
  | some row =>
      have key_row : key row = j := by simpa using List.find?_some found
      by_cases same : k = j
      · simp [same, key_row]
      · simp [same, key_row, Ne.symm same]

/-- An update that meets no row changes nothing. -/
theorem modify_eq_self {t : Table ρ key alt} {k : κ} (absent : t.lookup k = none) :
    t.modify k f same_key same_alt = t := by
  apply ext
  rw [rows_modify]
  refine (List.map_congr_left fun row mem => ?_).trans (List.map_id _)
  apply if_neg
  rintro rfl
  exact lookup_eq_none_iff.1 absent (List.mem_map_of_mem mem)

/-- A selection that does not reach the updated row selects the same rows. -/
theorem filter_modify_of_not {t : Table ρ key alt} {p : ρ → Bool} {k : κ}
    (keeps : ∀ row, p (f row) = p row) (misses : ∀ row ∈ t.rows, key row = k → p row = false) :
    (t.modify k f same_key same_alt).rows.filter p = t.rows.filter p := by
  have same : (p ∘ fun row => if key row = k then f row else row) = p := by
    funext row
    by_cases updated : key row = k
    · simp [updated, keeps]
    · simp [updated]
  rw [rows_modify, List.filter_map, same]
  conv_rhs => rw [← List.map_id (t.rows.filter p)]
  apply List.map_congr_left
  intro row mem
  obtain ⟨stored, selected⟩ := List.mem_filter.1 mem
  have other : key row ≠ k := by
    intro updated
    rw [misses row stored updated] at selected
    cases selected
  simp [other]

theorem lookupAlt_modify [DecidableEq μ] (t : Table ρ key alt) (k : κ) (m : μ) :
    (t.modify k f same_key same_alt).lookupAlt m =
      (t.lookupAlt m).map fun row => if key row = k then f row else row := by
  have keeps : ∀ row, alt (if key row = k then f row else row) = alt row := by
    intro row
    by_cases h : key row = k <;> simp [h, same_alt]
  unfold lookupAlt
  rw [rows_modify, List.find?_map]
  simp only [Function.comp_def, keeps]

end Modify

/-! ## Update of many rows -/

/-- Apply `f` to all rows; the second unique column stays what it is or becomes null. -/
def modifyAll (t : Table ρ key alt) (f : ρ → ρ) (same_key : ∀ row, key (f row) = key row)
    (alt_le : ∀ row m, alt (f row) = some m → alt row = some m) : Table ρ key alt :=
  ⟨t.rows.map f, by
    rw [List.map_map, show key ∘ f = key from funext same_key]
    exact t.keys_nodup, by
    rw [List.filterMap_map]
    refine List.pairwise_filterMap.2 ((List.pairwise_filterMap.1 t.alts_nodup).imp ?_)
    exact fun apart m column m' column' => apart m (alt_le _ m column) m' (alt_le _ m' column')⟩

theorem lookup_modifyAll [DecidableEq κ] {t : Table ρ key alt} {f : ρ → ρ}
    {same_key : ∀ row, key (f row) = key row}
    {alt_le : ∀ row m, alt (f row) = some m → alt row = some m} (k : κ) :
    (t.modifyAll f same_key alt_le).lookup k = (t.lookup k).map f := by
  unfold lookup modifyAll
  rw [List.find?_map]
  simp only [Function.comp_def, same_key]

/-! ## Deletion -/

/-- Delete the row with primary key `k`, if there is one. -/
def delete [DecidableEq κ] (t : Table ρ key alt) (k : κ) : Table ρ key alt :=
  ⟨t.rows.filter fun row => key row ≠ k,
    (List.filter_sublist.map key).nodup t.keys_nodup,
    (List.filter_sublist.filterMap alt).nodup t.alts_nodup⟩

/-! ## A row put in place of another -/

section Puts

variable [DecidableEq κ]

/-- `t'` is `t` with `row` under its key, in place of the row that was there. -/
def Puts (t : Table ρ key alt) (row : ρ) (t' : Table ρ key alt) : Prop :=
  ∀ k, t'.lookup k = if key row = k then some row else t.lookup k

theorem puts_insert [DecidableEq μ] {t t' : Table ρ key alt} {row : ρ}
    (h : t.insert? row = some t') : t.Puts row t' := lookup_insert h

theorem puts_modify {t : Table ρ key alt} {f : ρ → ρ}
    {same_key : ∀ row, key (f row) = key row}
    {same_alt : ∀ row, alt (f row) = alt row} {old : ρ} (mem : old ∈ t.rows) :
    t.Puts (f old) (t.modify (key old) f same_key same_alt) := by
  intro k
  rw [lookup_modify, same_key]
  by_cases same : key old = k
  · rw [if_pos same, if_pos same, ← same, lookup_of_mem mem]
    rfl
  · rw [if_neg same, if_neg same]

theorem Puts.mem_iff {t t' : Table ρ key alt} {row : ρ} (h : t.Puts row t') (r : ρ) :
    r ∈ t'.rows ↔ r = row ∨ r ∈ t.rows ∧ key r ≠ key row := by
  have stored : r ∈ t'.rows ↔ t'.lookup (key r) = some r :=
    ⟨lookup_of_mem, mem_of_lookup⟩
  rw [stored, h]
  by_cases same : key row = key r
  · simp only [same, if_true, ne_eq, not_true, and_false, or_false, Option.some.injEq]
    exact eq_comm
  · have other : r ≠ row := by
      rintro rfl
      exact same rfl
    simp only [same, if_false, other, false_or, lookup_eq_some_iff]
    exact ⟨fun found => ⟨found.1, Ne.symm same⟩, fun found => ⟨found.1, trivial⟩⟩

/-- A relation between the rows of a table is kept if the new row has it to the others. -/
theorem Puts.pairwise_iff {t t' : Table ρ key alt} {row : ρ} (h : t.Puts row t')
    {rel : ρ → ρ → Prop} (symmetric : ∀ a b, rel a b → rel b a)
    (before : ∀ a ∈ t.rows, ∀ b ∈ t.rows, key a ≠ key b → rel a b) :
    (∀ a ∈ t'.rows, ∀ b ∈ t'.rows, key a ≠ key b → rel a b) ↔
      ∀ other ∈ t.rows, key other ≠ key row → rel row other := by
  constructor
  · intro after other mem apart
    exact after row ((h.mem_iff row).2 (Or.inl rfl)) other ((h.mem_iff other).2 (Or.inr ⟨mem, apart⟩))
      apart.symm
  · intro new a memA b memB apart
    rcases (h.mem_iff a).1 memA with rfl | ⟨oldA, otherA⟩
    · rcases (h.mem_iff b).1 memB with rfl | ⟨oldB, otherB⟩
      · exact absurd rfl apart
      · exact new b oldB otherB
    · rcases (h.mem_iff b).1 memB with rfl | ⟨oldB, otherB⟩
      · exact symmetric _ _ (new a oldA otherA)
      · exact before a oldA b oldB apart

/-- One row after the other. -/
def PutsAll : List ρ → Table ρ key alt → Table ρ key alt → Prop
  | [], t, t' => t' = t
  | row :: rows, t, t' => ∃ middle, t.Puts row middle ∧ PutsAll rows middle t'

theorem PutsAll.lookup {rows : List ρ} {t t' : Table ρ key alt} (h : PutsAll rows t t')
    (nodup : (rows.map key).Nodup) (k : κ) :
    t'.lookup k = (rows.find? fun row => key row = k).or (t.lookup k) := by
  induction rows generalizing t with
  | nil =>
      obtain rfl : t' = t := h
      rfl
  | cons row rows ih =>
      obtain ⟨middle, first, rest⟩ := h
      simp only [List.map_cons, List.nodup_cons] at nodup
      rw [ih rest nodup.2, first k, List.find?_cons]
      by_cases same : key row = k
      · have later : rows.find? (fun row => key row = k) = none := by
          refine List.find?_eq_none.2 fun other mem found => nodup.1 ?_
          rw [same, ← of_decide_eq_true found]
          exact List.mem_map_of_mem mem
        simp [same, later]
      · simp [same]

omit [DecidableEq κ] in
/-- The only row that meets a condition is what a selection by it returns. -/
theorem filter_eq_singleton {t : Table ρ key alt} {p : ρ → Bool} {row : ρ}
    (mem : row ∈ t.rows) (meets : p row = true)
    (only : ∀ other ∈ t.rows, p other = true → other = row) :
    t.rows.filter p = [row] := by
  have nodup : t.rows.Nodup := t.keys_nodup.of_map key
  have perm : (t.rows.filter p).Perm [row] := by
    refine (List.perm_ext_iff_of_nodup (nodup.filter p) (List.nodup_singleton row)).2 ?_
    intro other
    rw [List.mem_filter, List.mem_singleton]
    constructor
    · exact fun h => only other h.1 h.2
    · rintro rfl
      exact ⟨mem, meets⟩
  exact List.perm_singleton.1 perm

/-- A selection that finds at most the row that is replaced finds the new one. -/
theorem Puts.filter_eq {t t' : Table ρ key alt} {row : ρ} (h : t.Puts row t')
    {p : ρ → Bool} (meets : p row = true)
    (replaced : ∀ other ∈ t.rows.filter p, key other = key row) :
    t'.rows.filter p = [row] := by
  refine filter_eq_singleton ((h.mem_iff row).2 (Or.inl rfl)) meets ?_
  intro other mem selected
  obtain rfl | ⟨stored, apart⟩ := (h.mem_iff other).1 mem
  · rfl
  · exact absurd (replaced other (List.mem_filter.2 ⟨stored, selected⟩)) apart

end Puts

/-! ## Update of the second unique column -/

section Update

variable [DecidableEq κ] [DecidableEq μ]

/-- Apply `f` to the row with primary key `k`; `none` is the violation of the
second unique column. -/
def update? (t : Table ρ key alt) (k : κ) (f : ρ → ρ)
    (same_key : ∀ row, key (f row) = key row := by intro _; rfl) :
    Option (Table ρ key alt) :=
  let rows := t.rows.map fun row => if key row = k then f row else row
  if fresh : (rows.filterMap alt).Nodup then some ⟨rows, by
    have keys : (key ∘ fun row => if key row = k then f row else row) = key := by
      funext row
      by_cases h : key row = k <;> simp [h, same_key]
    rw [List.map_map, keys]
    exact t.keys_nodup, fresh⟩
  else none

variable {f : ρ → ρ} {same_key : ∀ row, key (f row) = key row}

theorem rows_update {t t' : Table ρ key alt} {k : κ}
    (h : t.update? k f same_key = some t') :
    t'.rows = t.rows.map fun row => if key row = k then f row else row := by
  dsimp only [update?] at h
  split at h
  · rw [← Option.some.inj h]
  · cases h

/-- An update to values that no other row has is not refused. -/
theorem update_ne_none {t : Table ρ key alt} {k : κ}
    (fresh : ∀ row ∈ t.rows, key row = k → ∀ m ∈ alt (f row), ∀ other ∈ t.rows,
      key other ≠ k → alt other ≠ some m) :
    t.update? k f same_key ≠ none := by
  have apart : t.rows.Pairwise fun a b => key a ≠ key b ∧
      ∀ m, alt a = some m → ∀ m', alt b = some m' → m ≠ m' :=
    (List.pairwise_map.1 t.keys_nodup).and (List.pairwise_filterMap.1 t.alts_nodup)
  have nodup : ((t.rows.map fun row => if key row = k then f row else row).filterMap
      alt).Nodup := by
    refine List.pairwise_filterMap.2 (List.pairwise_map.2 (apart.imp_of_mem ?_))
    intro a b memA memB distinct m columnA m' columnB same
    subst same
    split at columnA
    · rename_i keyA
      split at columnB
      · rename_i keyB
        exact distinct.1 (keyA.trans keyB.symm)
      · rename_i other
        exact fresh a memA keyA m columnA b memB other columnB
    · rename_i other
      split at columnB
      · rename_i keyB
        exact fresh b memB keyB m columnB a memA other columnA
      · exact distinct.2 m columnA m columnB rfl
  dsimp only [update?]
  rw [dif_pos nodup]
  exact Option.some_ne_none _

theorem mem_update {t t' : Table ρ key alt} {k : κ} {row : ρ}
    (h : t.update? k f same_key = some t') (mem : row ∈ t'.rows) :
    (∃ old ∈ t.rows, key old = k ∧ row = f old) ∨
      (row ∈ t.rows ∧ key row ≠ k) :=
  mem_updated (rows_update h ▸ mem)

theorem lookup_update {t t' : Table ρ key alt} {k : κ}
    (h : t.update? k f same_key = some t') (j : κ) :
    t'.lookup j = if k = j then (t.lookup j).map f else t.lookup j := by
  have keeps : ∀ row, key (if key row = k then f row else row) = key row := by
    intro row
    by_cases h : key row = k <;> simp [h, same_key]
  unfold lookup
  rw [rows_update h, List.find?_map]
  simp only [Function.comp_def, keeps]
  cases found : t.rows.find? fun row => key row = j with
  | none => simp
  | some row =>
      have key_row : key row = j := by simpa using List.find?_some found
      by_cases same : k = j
      · simp [same, key_row]
      · simp [same, key_row, Ne.symm same]

end Update

/-! ## Sums over the rows -/

section Sums

variable {M : Type*} [AddCommGroup M]

/-- The sum of `weight` over the rows. -/
def sumBy (t : Table ρ key alt) (weight : ρ → M) : M := (t.rows.map weight).sum

@[simp] theorem sumBy_empty (weight : ρ → M) :
    (empty : Table ρ key alt).sumBy weight = 0 := by
  simp [sumBy]

theorem sumBy_add (t : Table ρ key alt) (f g : ρ → M) :
    t.sumBy (fun row => f row + g row) = t.sumBy f + t.sumBy g := by
  simp [sumBy, List.sum_map_add]

theorem sumBy_congr {t : Table ρ key alt} {f g : ρ → M}
    (h : ∀ row ∈ t.rows, f row = g row) : t.sumBy f = t.sumBy g := by
  unfold sumBy
  rw [List.map_congr_left h]

theorem sumBy_insert [DecidableEq κ] [DecidableEq μ]
    {t t' : Table ρ key alt} {row : ρ} (h : t.insert? row = some t')
    (weight : ρ → M) : t'.sumBy weight = weight row + t.sumBy weight := by
  simp [sumBy, (insert?_eq_some h).2]

private theorem sum_map_modify [DecidableEq κ] (k : κ) (f : ρ → ρ)
    (weight : ρ → M) (rows : List ρ) (nodup : (rows.map key).Nodup) {old : ρ}
    (mem : old ∈ rows) (key_old : key old = k) :
    ((rows.map fun r => if key r = k then f r else r).map weight).sum =
      (rows.map weight).sum - weight old + weight (f old) := by
  induction rows with
  | nil => cases mem
  | cons first rest ih =>
      simp only [List.map_cons, List.nodup_cons] at nodup
      rcases List.mem_cons.1 mem with rfl | later
      · have untouched :
            (rest.map fun r => if key r = k then f r else r) = rest := by
          conv_rhs => rw [← List.map_id rest]
          refine List.map_congr_left fun r hr => ?_
          have other : key r ≠ k := by
            rw [← key_old]
            intro same
            exact nodup.1 (same ▸ List.mem_map_of_mem hr)
          simp [other]
        simp only [List.map_cons, key_old, if_true, untouched, List.sum_cons]
        abel
      · have other : key first ≠ k := by
          rw [← key_old]
          intro same
          exact nodup.1 (same ▸ List.mem_map_of_mem later)
        simp only [List.map_cons, if_neg other, List.sum_cons]
        rw [ih nodup.2 later]
        abel

/-- Updating a row moves a sum by the difference of the two weights. -/
theorem sumBy_modify [DecidableEq κ] {f : ρ → ρ}
    {same_key : ∀ row, key (f row) = key row}
    {same_alt : ∀ row, alt (f row) = alt row} {t : Table ρ key alt} {k : κ}
    {old : ρ} (h : t.lookup k = some old) (weight : ρ → M) :
    (t.modify k f same_key same_alt).sumBy weight =
      t.sumBy weight - weight old + weight (f old) :=
  sum_map_modify k f weight t.rows t.keys_nodup (mem_of_lookup h)
    (key_of_lookup h)

end Sums

section OrderedSums

variable {M : Type*} [AddCommGroup M] [LinearOrder M] [IsOrderedAddMonoid M]

private theorem sum_nonpos_of_forall {amounts : List M}
    (h : ∀ amount ∈ amounts, amount ≤ 0) : amounts.sum ≤ 0 := by
  induction amounts with
  | nil => simp
  | cons amount amounts ih =>
      rw [List.sum_cons]
      exact add_nonpos (h amount (by simp)) (ih fun a ha => h a (by simp [ha]))

theorem sumBy_nonpos {t : Table ρ key alt} {weight : ρ → M}
    (h : ∀ row ∈ t.rows, weight row ≤ 0) : t.sumBy weight ≤ 0 :=
  sum_nonpos_of_forall (by simpa using h)

/-- A sum of nonpositive weights is at most each of them. -/
theorem sumBy_le_of_mem {t : Table ρ key alt} {weight : ρ → M}
    (h : ∀ row ∈ t.rows, weight row ≤ 0) {row : ρ} (mem : row ∈ t.rows) :
    t.sumBy weight ≤ weight row := by
  unfold sumBy
  obtain ⟨before, after, rows⟩ := List.append_of_mem mem
  rw [rows] at h ⊢
  have first : (before.map weight).sum ≤ 0 := sum_nonpos_of_forall (by
    simpa using fun r hr => h r (by simp [hr]))
  have last : (after.map weight).sum ≤ 0 := sum_nonpos_of_forall (by
    simpa using fun r hr => h r (by simp [hr]))
  rw [List.map_append, List.map_cons, List.sum_append, List.sum_cons]
  exact (add_le_of_nonpos_left first).trans (add_le_of_nonpos_right last)

end OrderedSums

end Table

end ColabPlatform.Foundation
