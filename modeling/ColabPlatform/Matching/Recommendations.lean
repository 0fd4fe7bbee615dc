import ColabPlatform.Foundation.OrderedDict
import Mathlib.Algebra.Order.Field.Rat
import Mathlib.Data.List.Pairwise

/-!
# Matching service: the recommendation set

`recommendation_set_gen` puts the first candidate of another discipline ahead of the pool
and takes the first ten.  The rationale reads the scores by position in the pool, so it fits
as long as nothing was put ahead of a better score.
-/

namespace ColabPlatform.Matching

open Foundation

/-- A row of the pool; a profile without vocations has none or a null one. -/
structure PoolRow where
  toProfileId : String
  score : ℚ
  vocations : Option (List (Option String))
  deriving DecidableEq, Repr

/-- `selected` and `seen_ids` -/
structure Selection where
  selected : List String
  seenIds : List String
  deriving DecidableEq, Repr

def Selection.empty : Selection := ⟨[], []⟩

def Selection.add (s : Selection) (candId : String) : Selection :=
  ⟨s.selected ++ [candId], candId :: s.seenIds⟩

/-- `set(vocations).isdisjoint(set(viewer_vocations))` -/
def isCrossDiscipline (viewerVocations : List (Option String)) (row : PoolRow) : Bool :=
  (row.vocations.getD []).all fun vocation => vocation ∉ viewerVocations

/-- The loop over the pool that stops at the first candidate of another discipline. -/
def crossDisciplineFirst (viewerVocations : List (Option String)) :
    List PoolRow → Selection → Selection
  | [], s => s
  | row :: rows, s =>
      if isCrossDiscipline viewerVocations row ∧ row.toProfileId ∉ s.seenIds then
        s.add row.toProfileId
      else crossDisciplineFirst viewerVocations rows s

/-- The loop that fills the remaining slots. -/
def fillTopScoring : List PoolRow → Selection → Selection
  | [], s => s
  | row :: rows, s =>
      if 10 ≤ s.selected.length then s
      else
        fillTopScoring rows
          (if row.toProfileId ∈ s.seenIds then s else s.add row.toProfileId)

structure Rationale where
  dominantSignal : String
  score : ℚ
  deriving DecidableEq, Repr

structure RecommendationSet where
  profileIds : List String
  rationale : OrderedDict String Rationale

/-- The items of `rationale`, by position in the pool -/
def rationaleItems (poolRows : List PoolRow) (selected : List String) : List (String × Rationale) :=
  selected.zipIdx.filterMap fun (cid, i) =>
    poolRows[i]?.map fun row => (cid, ⟨"emb_sim", row.score⟩)

/-- What `recommendation_set_gen` stores for a user, unless the pool is empty. -/
def recommendationSet (poolRows : List PoolRow) (viewerVocations : Option (List (Option String))) :
    Option RecommendationSet :=
  if poolRows = [] then none
  else
    let viewerVocations := viewerVocations.getD []
    let selected := (fillTopScoring poolRows
      (crossDisciplineFirst viewerVocations poolRows .empty)).selected.take 10
    some
      { profileIds := selected
        rationale := OrderedDict.ofItems (rationaleItems poolRows selected) }

/-! ## The selection -/

/-- The pool with the first candidate of another discipline put ahead. -/
def reordered (viewer : List (Option String)) (pool : List PoolRow) : List PoolRow :=
  match pool.find? (isCrossDiscipline viewer) with
  | some pick => pick :: pool.eraseP (isCrossDiscipline viewer)
  | none => pool

/-- A row whose candidate is not selected yet. -/
def Selection.misses (s : Selection) (row : PoolRow) : Bool := row.toProfileId ∉ s.selected

section Selection

variable {viewer : List (Option String)} {pool : List PoolRow}

theorem crossDisciplineFirst_eq (viewer : List (Option String)) (pool : List PoolRow) :
    crossDisciplineFirst viewer pool .empty =
      match pool.find? (isCrossDiscipline viewer) with
      | some pick => Selection.empty.add pick.toProfileId
      | none => .empty := by
  induction pool with
  | nil => rfl
  | cons row rows ih =>
      rw [crossDisciplineFirst, List.find?_cons]
      cases isCrossDiscipline viewer row with
      | true => simp [Selection.empty]
      | false => simpa using ih

/-- The loop appends the candidates that are not selected yet, up to ten. -/
theorem selected_fillTopScoring {rows : List PoolRow} {s : Selection}
    (seen : ∀ id, id ∈ s.seenIds ↔ id ∈ s.selected)
    (distinct : (rows.map PoolRow.toProfileId).Nodup) :
    (fillTopScoring rows s).selected =
      s.selected ++
        ((rows.filter s.misses).take (10 - s.selected.length)).map PoolRow.toProfileId := by
  induction rows generalizing s with
  | nil => simp [fillTopScoring]
  | cons row rows ih =>
      rw [List.map_cons, List.nodup_cons] at distinct
      rw [fillTopScoring]
      by_cases full : 10 ≤ s.selected.length
      · rw [if_pos full, Nat.sub_eq_zero_of_le full]
        simp
      · rw [if_neg full]
        by_cases known : row.toProfileId ∈ s.seenIds
        · have skipped : ¬ s.misses row = true := by
            simpa [Selection.misses] using (seen _).1 known
          rw [if_pos known, ih seen distinct.2, List.filter_cons_of_neg skipped]
        · have taken : s.misses row = true := by
            simpa [Selection.misses] using fun inside => known ((seen _).2 inside)
          have seen' : ∀ id, id ∈ (s.add row.toProfileId).seenIds ↔
              id ∈ (s.add row.toProfileId).selected := by
            intro id
            simp [Selection.add, seen, or_comm]
          have rest : rows.filter (s.add row.toProfileId).misses = rows.filter s.misses := by
            refine List.filter_congr fun other mem => ?_
            have apart : other.toProfileId ≠ row.toProfileId := fun same =>
              distinct.1 (same ▸ List.mem_map_of_mem mem)
            simp [Selection.misses, Selection.add, apart]
          obtain ⟨slots, free⟩ : ∃ slots, 10 - s.selected.length = slots + 1 :=
            ⟨9 - s.selected.length, by omega⟩
          have fewer : 10 - (s.add row.toProfileId).selected.length = slots := by
            simp only [Selection.add, List.length_append, List.length_singleton]
            omega
          rw [if_neg known, ih seen' distinct.2, rest, fewer, List.filter_cons_of_pos taken, free,
            List.take_succ_cons, List.map_cons]
          simp [Selection.add]

theorem reordered_of_found {pick : PoolRow}
    (found : pool.find? (isCrossDiscipline viewer) = some pick) :
    ∃ before after, pool = before ++ pick :: after ∧ isCrossDiscipline viewer pick ∧
      (∀ row ∈ before, ¬ isCrossDiscipline viewer row) ∧
      reordered viewer pool = pick :: (before ++ after) := by
  obtain ⟨picked, before, after, rfl, none⟩ := List.find?_eq_some_iff_append.1 found
  have same : ∀ row ∈ before, ¬ isCrossDiscipline viewer row = true := fun row mem => by
    simpa using none row mem
  refine ⟨before, after, rfl, picked, same, ?_⟩
  rw [reordered, found]
  dsimp only
  rw [List.eraseP_append_right _ same, List.eraseP_cons_of_pos picked]

theorem reordered_of_none (none : pool.find? (isCrossDiscipline viewer) = none) :
    reordered viewer pool = pool := by
  rw [reordered, none]

theorem reordered_perm (viewer : List (Option String)) (pool : List PoolRow) :
    (reordered viewer pool).Perm pool := by
  cases found : pool.find? (isCrossDiscipline viewer) with
  | none => rw [reordered_of_none found]
  | some pick =>
      obtain ⟨before, after, split, -, -, same⟩ := reordered_of_found found
      rw [same, split]
      exact List.perm_middle.symm

/-- The first ten of the reordered pool are selected. -/
theorem selected_eq (distinct : (pool.map PoolRow.toProfileId).Nodup) :
    ((fillTopScoring pool (crossDisciplineFirst viewer pool .empty)).selected.take 10) =
      ((reordered viewer pool).take 10).map PoolRow.toProfileId := by
  rw [crossDisciplineFirst_eq]
  cases found : pool.find? (isCrossDiscipline viewer) with
  | none =>
      rw [reordered_of_none found]
      have all : pool.filter Selection.empty.misses = pool :=
        List.filter_eq_self.2 fun row _ => by simp [Selection.misses, Selection.empty]
      dsimp only
      rw [selected_fillTopScoring (fun _ => Iff.rfl) distinct, all]
      simp [Selection.empty, List.take_take]
  | some pick =>
      obtain ⟨before, after, rfl, -, -, same⟩ := reordered_of_found found
      have seen : ∀ id, id ∈ (Selection.empty.add pick.toProfileId).seenIds ↔
          id ∈ (Selection.empty.add pick.toProfileId).selected := by
        simp [Selection.add, Selection.empty]
      have ids := distinct
      rw [List.map_append, List.map_cons, List.nodup_middle, List.nodup_cons,
        ← List.map_append] at ids
      have others : (before ++ pick :: after).filter
          (Selection.empty.add pick.toProfileId).misses = before ++ after := by
        have kept : ∀ row ∈ before ++ after,
            (Selection.empty.add pick.toProfileId).misses row = true := by
          intro row mem
          have apart : row.toProfileId ≠ pick.toProfileId := fun eq =>
            ids.1 (eq ▸ List.mem_map_of_mem mem)
          simp [Selection.misses, Selection.add, Selection.empty, apart]
        have dropped : ¬ (Selection.empty.add pick.toProfileId).misses pick = true := by
          simp [Selection.misses, Selection.add]
        rw [List.filter_append, List.filter_cons_of_neg dropped, ← List.filter_append,
          List.filter_eq_self.2 kept]
      dsimp only
      rw [selected_fillTopScoring seen distinct, others, same]
      simp [Selection.add, Selection.empty, List.take_take]

/-! ## The rationale -/

theorem mem_rationaleItems {ids : List String} {cid : String} {entry : Rationale} :
    (cid, entry) ∈ rationaleItems pool ids ↔ ∃ (i : Nat) (row : PoolRow),
      ids[i]? = some cid ∧ pool[i]? = some row ∧ entry = ⟨"emb_sim", row.score⟩ := by
  simp only [rationaleItems, List.mem_filterMap, Option.map_eq_some_iff, Prod.exists, Prod.mk.injEq,
    List.mem_zipIdx_iff_getElem?]
  constructor
  · rintro ⟨cid', i, here, row, there, rfl, rfl⟩
    exact ⟨i, row, here, there, rfl⟩
  · rintro ⟨i, row, here, there, rfl⟩
    exact ⟨cid, i, here, row, there, rfl, rfl⟩

theorem rationaleItems_keys_nodup {ids : List String} (distinct : ids.Nodup) :
    ((rationaleItems pool ids).map Prod.fst).Nodup := by
  have keys : (ids.zipIdx.map Prod.fst).Nodup := by rwa [List.zipIdx_map_fst]
  rw [List.Nodup, List.pairwise_map] at keys ⊢
  refine List.pairwise_filterMap.2 (keys.imp fun apart entry here entry' here' => ?_)
  obtain ⟨row, -, rfl⟩ := Option.map_eq_some_iff.1 here
  obtain ⟨row', -, rfl⟩ := Option.map_eq_some_iff.1 here'
  exact apart

/-- Ahead of the pick there are only scores as good as its own. -/
def PickScoresBest (viewer : List (Option String)) (pool : List PoolRow) : Prop :=
  ∀ pick, pool.find? (isCrossDiscipline viewer) = some pick →
    ∀ first ∈ pool.head?, pick.score = first.score

theorem scores_reordered (sorted : pool.Pairwise fun row row' => row'.score ≤ row.score)
    (best : PickScoresBest viewer pool) :
    (reordered viewer pool).map PoolRow.score = pool.map PoolRow.score := by
  cases found : pool.find? (isCrossDiscipline viewer) with
  | none => rw [reordered_of_none found]
  | some pick =>
      have same := best pick found
      obtain ⟨before, after, rfl, -, -, ahead⟩ := reordered_of_found found
      obtain ⟨front, -, across⟩ := List.pairwise_append.1 sorted
      have level : before.map PoolRow.score = List.replicate before.length pick.score := by
        refine List.eq_replicate_iff.2 ⟨List.length_map .., fun score mem => ?_⟩
        obtain ⟨row, inside, rfl⟩ := List.mem_map.1 mem
        refine le_antisymm ?_ (across row inside pick List.mem_cons_self)
        cases before with
        | nil => cases inside
        | cons first rest =>
            rw [same first rfl]
            rcases List.mem_cons.1 inside with rfl | later
            · exact le_rfl
            · exact (List.pairwise_cons.1 front).1 row later
      rw [ahead, List.map_cons, List.map_append, List.map_append, List.map_cons, level,
        ← List.cons_append, ← List.replicate_succ, List.replicate_succ', List.append_assoc,
        List.singleton_append]

/-! ## When the stored set is right -/

/-- A set as it should be stored for a pool. -/
structure Sound (viewer : List (Option String)) (pool : List PoolRow) (set : RecommendationSet) :
    Prop where
  size : set.profileIds.length = min 10 pool.length
  distinct : set.profileIds.Nodup
  cross : ∀ row ∈ pool, isCrossDiscipline viewer row →
    ∃ pick, pool.find? (isCrossDiscipline viewer) = some pick ∧ pick.toProfileId ∈ set.profileIds ∧
      ∀ other ∈ pool, isCrossDiscipline viewer other → other.score ≤ pick.score
  top : (∀ row ∈ pool, ¬ isCrossDiscipline viewer row) →
    set.profileIds = (pool.take 10).map PoolRow.toProfileId
  greedy : ∀ row ∈ pool, row.toProfileId ∈ set.profileIds →
    pool.find? (isCrossDiscipline viewer) ≠ some row →
      ∀ better ∈ pool, row.score < better.score → better.toProfileId ∈ set.profileIds
  rationale : ∀ row ∈ pool, row.toProfileId ∈ set.profileIds →
    List.lookup row.toProfileId set.rationale = some ⟨"emb_sim", row.score⟩

/-- Among the first of a sorted list is whatever is better than one of them. -/
theorem mem_take_of_better {rows : List PoolRow} {n : Nat} {row better : PoolRow}
    (sorted : rows.Pairwise fun row row' => row'.score ≤ row.score) (taken : row ∈ rows.take n)
    (listed : better ∈ rows) (less : row.score < better.score) : better ∈ rows.take n := by
  rw [← List.take_append_drop n rows] at sorted listed
  refine (List.mem_append.1 listed).resolve_right fun later => ?_
  exact absurd ((List.pairwise_append.1 sorted).2.2 row taken better later) (not_le.2 less)

section Stored

variable (distinct : (pool.map PoolRow.toProfileId).Nodup)
  (sorted : pool.Pairwise fun row row' => row'.score ≤ row.score)

include distinct

theorem mem_selected_iff {row : PoolRow} (mem : row ∈ pool) :
    row.toProfileId ∈ ((reordered viewer pool).take 10).map PoolRow.toProfileId ↔
      row ∈ (reordered viewer pool).take 10 := by
  constructor
  · intro inside
    obtain ⟨row', taken, same⟩ := List.mem_map.1 inside
    have mem' := (reordered_perm viewer pool).subset (List.mem_of_mem_take taken)
    rwa [List.inj_on_of_nodup_map distinct mem mem' same.symm]
  · exact List.mem_map_of_mem

include sorted

theorem better_is_selected {row better : PoolRow}
    (taken : row ∈ (reordered viewer pool).take 10)
    (other : pool.find? (isCrossDiscipline viewer) ≠ some row) (mem : better ∈ pool)
    (less : row.score < better.score) : better ∈ (reordered viewer pool).take 10 := by
  cases found : pool.find? (isCrossDiscipline viewer) with
  | none =>
      rw [reordered_of_none found] at taken ⊢
      exact mem_take_of_better sorted taken mem less
  | some pick =>
      obtain ⟨before, after, rfl, -, -, ahead⟩ := reordered_of_found found
      rw [ahead, List.take_succ_cons] at taken ⊢
      have rest : (before ++ after).Pairwise fun row row' => row'.score ≤ row.score :=
        sorted.sublist ((List.sublist_cons_self pick after).append_left before)
      have apart : row ≠ pick := fun same => other (same ▸ found)
      have listed : better = pick ∨ better ∈ before ++ after :=
        List.mem_cons.1 (List.perm_middle.subset mem)
      rcases listed with rfl | listed
      · exact List.mem_cons_self
      · refine List.mem_cons_of_mem _ ?_
        exact mem_take_of_better rest ((List.mem_cons.1 taken).resolve_left apart) listed less

end Stored

end Selection

section Sets

variable {pool : List PoolRow} {viewerVocations : Option (List (Option String))}

/-- The set that is stored for a pool. -/
def storedSet (viewer : List (Option String)) (pool : List PoolRow) : RecommendationSet where
  profileIds := ((reordered viewer pool).take 10).map PoolRow.toProfileId
  rationale := OrderedDict.ofItems
    (rationaleItems pool (((reordered viewer pool).take 10).map PoolRow.toProfileId))

theorem recommendationSet_eq (distinct : (pool.map PoolRow.toProfileId).Nodup) :
    recommendationSet pool viewerVocations =
      if pool = [] then none else some (storedSet (viewerVocations.getD []) pool) := by
  unfold recommendationSet storedSet
  dsimp only
  rw [selected_eq distinct]

variable {viewer : List (Option String)}

theorem storedSet_distinct (distinct : (pool.map PoolRow.toProfileId).Nodup) :
    (storedSet viewer pool).profileIds.Nodup := by
  have same := ((reordered_perm viewer pool).map PoolRow.toProfileId).nodup_iff.2 distinct
  exact ((List.take_sublist _ _).map _).nodup same

/-- The rationale of a selected row gives the score at its place in the pool. -/
theorem lookup_storedSet (distinct : (pool.map PoolRow.toProfileId).Nodup) {i : Nat}
    {row row' : PoolRow} (taken : ((reordered viewer pool).take 10)[i]? = some row)
    (there : pool[i]? = some row') :
    List.lookup row.toProfileId (storedSet viewer pool).rationale =
      some ⟨"emb_sim", row'.score⟩ := by
  have ids : (storedSet viewer pool).profileIds.Nodup := storedSet_distinct distinct
  have keys : ((rationaleItems pool (storedSet viewer pool).profileIds).map Prod.fst).Nodup :=
    rationaleItems_keys_nodup ids
  refine (OrderedDict.lookup_ofItems_eq_some_iff keys).2 (mem_rationaleItems.2 ⟨i, row', ?_⟩)
  refine ⟨?_, there, rfl⟩
  rw [storedSet, List.getElem?_map, taken, Option.map_some]

/-- The first cross-discipline row of the pool is stored, and it is the best of them. -/
theorem storedSet_cross (sorted : pool.Pairwise fun row row' => row'.score ≤ row.score)
    {row : PoolRow} (mem : row ∈ pool) (crosses : isCrossDiscipline viewer row = true) :
    ∃ pick, pool.find? (isCrossDiscipline viewer) = some pick ∧
      pick.toProfileId ∈ (storedSet viewer pool).profileIds ∧
        ∀ other ∈ pool, isCrossDiscipline viewer other → other.score ≤ pick.score := by
  cases found : pool.find? (isCrossDiscipline viewer) with
  | none => exact absurd crosses (List.find?_eq_none.1 found row mem)
  | some pick =>
      obtain ⟨before, after, split, -, none, ahead⟩ := reordered_of_found found
      refine ⟨pick, rfl, ?_, fun other listed crosses' => ?_⟩
      · rw [storedSet, ahead, List.take_succ_cons]
        exact List.mem_cons_self
      · rw [split] at listed sorted
        rcases List.mem_append.1 listed with early | late
        · exact absurd crosses' (none other early)
        · rcases List.mem_cons.1 late with rfl | later
          · exact le_rfl
          · exact (List.pairwise_cons.1 (List.pairwise_append.1 sorted).2.1).1 other later

/-- Where the scores stand in the order of the pool, each selected row has its own. -/
theorem storedSet_rationale (distinct : (pool.map PoolRow.toProfileId).Nodup)
    (sorted : pool.Pairwise fun row row' => row'.score ≤ row.score)
    (best : PickScoresBest viewer pool) {row : PoolRow}
    (inside : row ∈ (reordered viewer pool).take 10) :
    List.lookup row.toProfileId (storedSet viewer pool).rationale =
      some ⟨"emb_sim", row.score⟩ := by
  obtain ⟨i, taken⟩ := List.mem_iff_getElem?.1 inside
  have scores := congrArg (·[i]?) (scores_reordered sorted best)
  simp only [List.getElem?_map] at scores
  rw [List.getElem?_take] at taken
  split at taken
  · rename_i early
    rw [taken, Option.map_some] at scores
    obtain ⟨row', there, same⟩ := Option.map_eq_some_iff.1 scores.symm
    rw [lookup_storedSet distinct (by rw [List.getElem?_take, if_pos early, taken]) there, same]
  · cases taken

theorem storedSet_sound (distinct : (pool.map PoolRow.toProfileId).Nodup)
    (sorted : pool.Pairwise fun row row' => row'.score ≤ row.score)
    (best : PickScoresBest viewer pool) : Sound viewer pool (storedSet viewer pool) where
  size := by
    rw [storedSet, List.length_map, List.length_take, (reordered_perm viewer pool).length_eq]
  distinct := storedSet_distinct distinct
  cross := fun row mem crosses => storedSet_cross sorted mem crosses
  top := by
    intro none
    rw [storedSet, reordered_of_none (List.find?_eq_none.2 none)]
  greedy := by
    intro row mem inside other better listed less
    have taken := (mem_selected_iff distinct mem).1 inside
    exact (mem_selected_iff distinct listed).2
      (better_is_selected distinct sorted taken other listed less)
  rationale := by
    intro row mem inside
    exact storedSet_rationale distinct sorted best ((mem_selected_iff distinct mem).1 inside)

theorem pickScoresBest_of_sound (distinct : (pool.map PoolRow.toProfileId).Nodup)
    (sound : Sound viewer pool (storedSet viewer pool)) : PickScoresBest viewer pool := by
  intro pick found first head
  obtain ⟨before, after, -, -, -, ahead⟩ := reordered_of_found found
  have taken : ((reordered viewer pool).take 10)[0]? = some pick := by
    rw [ahead, List.take_succ_cons, List.getElem?_cons_zero]
  have there : pool[0]? = some first := by rwa [← List.head?_eq_getElem?]
  have mem := List.mem_of_find?_eq_some found
  have inside := List.mem_map_of_mem (f := PoolRow.toProfileId) (List.mem_of_getElem? taken)
  have stated := sound.rationale pick mem inside
  rw [lookup_storedSet distinct taken there] at stated
  exact (congrArg Rationale.score (Option.some.inj stated)).symm

/-- A set is stored for every pool that is not empty, and it is right exactly when no better score
is ahead of the first candidate of another discipline. -/
theorem recommendations_sound_iff (distinct : (pool.map PoolRow.toProfileId).Nodup)
    (sorted : pool.Pairwise fun row row' => row'.score ≤ row.score) :
    ((recommendationSet pool viewerVocations = none ↔ pool = []) ∧
      ∀ set, recommendationSet pool viewerVocations = some set →
        Sound (viewerVocations.getD []) pool set) ↔
      PickScoresBest (viewerVocations.getD []) pool := by
  rw [recommendationSet_eq distinct]
  by_cases empty : pool = []
  · subst empty
    simp [PickScoresBest]
  · rw [if_neg empty]
    simp only [reduceCtorEq, empty, true_and, Option.some.injEq, forall_eq']
    exact ⟨pickScoresBest_of_sound distinct, storedSet_sound distinct sorted⟩

end Sets

/-! ## A pool whose best candidate shares the viewer's discipline -/

def musicPool (first : List (Option String)) : List PoolRow :=
  [⟨"ana", 9 / 10, some first⟩, ⟨"bo", 5 / 10, some [some "Design"]⟩]

theorem recommendations_sound_iff_best_pick :
    (recommendationSet (musicPool [some "Design"]) (some [some "Music"]) = none ↔
        musicPool [some "Design"] = []) ∧
      ∀ set, recommendationSet (musicPool [some "Design"]) (some [some "Music"]) = some set →
        Sound [some "Music"] (musicPool [some "Design"]) set := by
  refine (recommendations_sound_iff (by decide) (by decide +kernel)).2 ?_
  intro pick found first head
  cases found
  cases head
  rfl

/-- The pick is stored with the score of the other candidate. -/
theorem pick_has_other_score :
    (recommendationSet (musicPool [some "Music"]) (some [some "Music"])).map
        (fun set => (set.profileIds, List.lookup "bo" set.rationale)) =
      some (["bo", "ana"], some ⟨"emb_sim", 9 / 10⟩) ∧
    ¬ ∀ set, recommendationSet (musicPool [some "Music"]) (some [some "Music"]) = some set →
      Sound [some "Music"] (musicPool [some "Music"]) set := by
  have stored : (recommendationSet (musicPool [some "Music"]) (some [some "Music"])).map
      (fun set => (set.profileIds, List.lookup "bo" set.rationale)) =
        some (["bo", "ana"], some ⟨"emb_sim", 9 / 10⟩) := by
    decide +kernel
  refine ⟨stored, fun sound => ?_⟩
  obtain ⟨set, made, same⟩ := Option.map_eq_some_iff.1 stored
  obtain ⟨ids, entry⟩ := Prod.mk.inj same
  have own := (sound set made).rationale ⟨"bo", 5 / 10, some [some "Design"]⟩
    (List.mem_cons_of_mem _ List.mem_cons_self) (by rw [ids]; decide)
  exact absurd (entry.symm.trans own) (by decide +kernel)

end ColabPlatform.Matching
