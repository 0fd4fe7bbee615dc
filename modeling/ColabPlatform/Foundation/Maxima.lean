import Mathlib.Data.List.MinMax
import Mathlib.Data.List.Nodup
import Mathlib.Data.List.Perm.Basic
import Mathlib.Order.Basic
import Mathlib.Order.Lattice
import Mathlib.Order.MinMax

/-!
# Greatest values

A loop that keeps the greatest value seen so far ends below a bound exactly if
its start and every value are.  The element with the greatest value does not
depend on the order of the elements when no two have the same value, so a register
that the last writer wins holds what the newest element says.  A value is clamped
when it is moved to the nearer end of an interval that it lies outside of.
-/

namespace ColabPlatform.Foundation

variable {α β γ : Type*} [LinearOrder β]

theorem foldl_max_le_iff (f : α → β) (items : List α) (start bound : β) :
    items.foldl (fun greatest item => max greatest (f item)) start ≤ bound ↔
      start ≤ bound ∧ ∀ item ∈ items, f item ≤ bound := by
  induction items generalizing start with
  | nil => simp
  | cons item items ih =>
      rw [List.foldl_cons, ih, max_le_iff, List.forall_mem_cons, and_assoc]

theorem le_foldl_max (f : α → β) (items : List α) (start : β) :
    start ≤ items.foldl (fun greatest item => max greatest (f item)) start :=
  ((foldl_max_le_iff f items start _).1 le_rfl).1

theorem le_foldl_max_of_mem (f : α → β) {items : List α} (start : β) {item : α}
    (mem : item ∈ items) :
    f item ≤ items.foldl (fun greatest item => max greatest (f item)) start :=
  ((foldl_max_le_iff f items start _).1 le_rfl).2 item mem

/-- The last of some values is the greatest exactly if none of the others is greater. -/
theorem getLastD_eq_foldl_max_iff (items : List β) (start : β) :
    items.getLastD start = items.foldl max start ↔
      ∀ last ∈ items.getLast?, start ≤ last ∧ ∀ item ∈ items, item ≤ last := by
  cases found : items.getLast? with
  | none =>
      rw [List.getLast?_eq_none_iff.1 found]
      simp
  | some last =>
      have same : items.getLastD start = last := by simp [List.getLastD_eq_getLast?, found]
      have bound := foldl_max_le_iff id items start last
      have greatest : last ≤ items.foldl max start :=
        le_foldl_max_of_mem id start (List.mem_of_getLast? found)
      simp only [id_eq] at bound
      constructor
      · rintro last_eq _ ⟨⟩
        exact bound.1 (by rw [← last_eq, same])
      · intro h
        rw [same]
        exact le_antisymm greatest (bound.2 (h last rfl))

/-- A register that is written only with what is greater than it holds. -/
def keepGreater (stored : Option β) (item : β) : Option β :=
  if stored.all (· < item) then some item else stored

theorem keepGreater_some (stored item : β) :
    keepGreater (some stored) item = some (max stored item) := by
  unfold keepGreater
  by_cases less : stored < item
  · simp [less, max_eq_right less.le]
  · simp [less, max_eq_left (not_lt.1 less)]

/-- The register holds the greatest item, in whatever order and how often they come. -/
theorem foldl_keepGreater (items : List β) : items.foldl keepGreater none = items.max? := by
  have stored : ∀ (items : List β) (start : β),
      items.foldl keepGreater (some start) = some (items.foldl max start) := by
    intro items
    induction items with
    | nil => exact fun _ => rfl
    | cons item items ih =>
        intro start
        rw [List.foldl_cons, keepGreater_some, ih, List.foldl_cons]
  cases items with
  | nil => rfl
  | cons item items => exact stored items item

theorem max?_map_of_strictMono [LinearOrder γ] {f : γ → β} (mono : StrictMono f) (items : List γ) :
    (items.map f).max? = items.max?.map f := by
  cases items with
  | nil => rfl
  | cons item items =>
      rw [List.map_cons, List.max?_cons', List.max?_cons', List.foldl_map, Option.map_some]
      congr 1
      induction items generalizing item with
      | nil => rfl
      | cons item' items ih =>
          rw [List.foldl_cons, List.foldl_cons, ← mono.monotone.map_max, ih]

theorem argmax_perm {f : α → β} {items items' : List α} (perm : items.Perm items')
    (distinct : (items.map f).Nodup) : items.argmax f = items'.argmax f := by
  cases found : items.argmax f with
  | none =>
      rw [List.argmax_eq_none.1 found] at perm
      rw [← perm.nil_eq, List.argmax_nil]
  | some greatest =>
      cases found' : items'.argmax f with
      | none =>
          rw [List.argmax_eq_none.1 found'] at perm
          rw [perm.eq_nil, List.argmax_nil] at found
          cases found
      | some greatest' =>
          have mem : greatest ∈ items := List.argmax_mem found
          have mem' : greatest' ∈ items := perm.mem_iff.2 (List.argmax_mem found')
          have same : f greatest = f greatest' :=
            le_antisymm (List.le_of_mem_argmax (perm.mem_iff.1 mem) found')
              (List.le_of_mem_argmax mem' found)
          rw [List.inj_on_of_nodup_map distinct mem mem' same]

/-! ## Positions -/

theorem idxOf_filter_le_iff [DecidableEq α] {p : α → Bool} {items : List α} {a b : α}
    (mem : a ∈ items.filter p) (mem' : b ∈ items.filter p) :
    (items.filter p).idxOf a ≤ (items.filter p).idxOf b ↔ items.idxOf a ≤ items.idxOf b := by
  induction items with
  | nil => cases mem
  | cons item items ih =>
      by_cases kept : p item
      · rw [List.filter_cons_of_pos kept] at mem mem' ⊢
        by_cases first : a = item
        · subst first
          simp
        · have rest := (List.mem_cons.1 mem).resolve_left first
          rw [List.idxOf_cons_ne _ (Ne.symm first), List.idxOf_cons_ne _ (Ne.symm first)]
          by_cases second : b = item
          · subst second
            simp
          · have rest' := (List.mem_cons.1 mem').resolve_left second
            rw [List.idxOf_cons_ne _ (Ne.symm second), List.idxOf_cons_ne _ (Ne.symm second),
              Nat.succ_le_succ_iff, Nat.succ_le_succ_iff]
            exact ih rest rest'
      · rw [List.filter_cons_of_neg kept] at mem mem' ⊢
        have other : ∀ c ∈ items.filter p, c ≠ item := by
          rintro c inside rfl
          exact kept (List.mem_filter.1 inside).2
        rw [List.idxOf_cons_ne _ (other a mem).symm, List.idxOf_cons_ne _ (other b mem').symm,
          Nat.succ_le_succ_iff]
        exact ih mem mem'

/-! ## The newest of the elements that were applied -/

section

universe u v

variable {α : Type u} {τ : Type v} [LinearOrder τ] {stamp : α → τ}
  {applied applied' : List α} {a b : α}

/-- `a` was applied and nothing newer was. -/
structure Latest (stamp : α → τ) (applied : List α) (a : α) : Prop where
  mem : a ∈ applied
  greatest : ∀ other ∈ applied, stamp other ≤ stamp a

theorem latest_append (newest : ∀ other ∈ applied, stamp other ≤ stamp a) :
    Latest stamp (applied ++ [a]) a := by
  refine ⟨by simp, fun other mem => ?_⟩
  obtain before | rfl := by simpa using mem
  · exact newest other before
  · exact le_refl _

theorem Latest.append (h : Latest stamp applied a) (older : stamp b ≤ stamp a) :
    Latest stamp (applied ++ [b]) a := by
  refine ⟨List.mem_append_left _ h.mem, fun other mem => ?_⟩
  obtain before | rfl := by simpa using mem
  · exact h.greatest other before
  · exact older

/-- With distinct stamps there is one newest element, in whatever order. -/
theorem Latest.unique (same : applied.Perm applied')
    (distinct : ∀ x ∈ applied, ∀ y ∈ applied, stamp x = stamp y → x = y)
    (h : Latest stamp applied a) (h' : Latest stamp applied' b) : a = b := by
  have mem : b ∈ applied := same.mem_iff.2 h'.mem
  have ge : stamp a ≤ stamp b := h'.greatest a (same.mem_iff.1 h.mem)
  exact distinct a h.mem b mem (le_antisymm ge (h.greatest b mem))

end

/-! ## Clamping -/

section

variable {α : Type*} [LinearOrder α] {lo hi a b : α}

/-- `max(lo, min(hi, value))` -/
def clampTo (lo hi value : α) : α := max lo (min hi value)

theorem le_clampTo : lo ≤ clampTo lo hi a := le_max_left _ _

theorem clampTo_le (ordered : lo ≤ hi) : clampTo lo hi a ≤ hi :=
  max_le ordered (min_le_left _ _)

theorem clampTo_of_mem (low : lo ≤ a) (high : a ≤ hi) : clampTo lo hi a = a := by
  rw [clampTo, min_eq_right high, max_eq_right low]

theorem clampTo_mono (le : a ≤ b) : clampTo lo hi a ≤ clampTo lo hi b :=
  max_le_max_left lo (min_le_min_left hi le)

end

end ColabPlatform.Foundation
