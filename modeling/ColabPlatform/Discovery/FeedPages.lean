import ColabPlatform.Discovery.Feed
import ColabPlatform.Foundation.OffsetPages
import Mathlib.Data.Prod.Lex
import Mathlib.Data.String.Basic

/-!
# The pages of a feed

A page is cut from the candidates as matching-svc lists them, or from the sorted set in
which they are cached.  The set orders equal scores by the member, and an entry that is
still cached keeps its score.  The next offset counts the cards that came back.
-/

namespace ColabPlatform.Discovery

open Foundation

/-! ## The sorted set -/

namespace SortedSet

/-- The order of `ZRANGE … REV`. -/
def Above (a b : String × ℚ) : Prop := b.2 < a.2 ∨ a.2 = b.2 ∧ b.1 ≤ a.1

instance : DecidableRel Above := fun _ _ => inferInstanceAs (Decidable (_ ∨ _))

/-- All members, from the highest on. -/
def ranked (set : SortedSet) : List String := (set.insertionSort Above).map Prod.fst

theorem above_iff {a b : String × ℚ} : Above a b ↔ toLex (b.2, b.1) ≤ toLex (a.2, a.1) := by
  rw [Above, Prod.Lex.toLex_le_toLex]
  exact or_congr_right (and_congr_left' eq_comm)

instance : Std.Total Above := ⟨fun a b => by
  rw [above_iff, above_iff]
  exact le_total _ _⟩

instance : IsTrans (String × ℚ) Above := ⟨fun a b c => by
  rw [above_iff, above_iff, above_iff]
  exact fun ba cb => le_trans cb ba⟩

theorem above_antisymm {a b : String × ℚ} (ab : Above a b) (ba : Above b a) : a = b := by
  have same := le_antisymm (above_iff.1 ba) (above_iff.1 ab)
  simp only [EmbeddingLike.apply_eq_iff_eq, Prod.mk.injEq] at same
  exact Prod.ext same.2 same.1

theorem length_ranked (set : SortedSet) : set.ranked.length = set.length := by
  rw [ranked, List.length_map, List.length_insertionSort]

theorem drop_clampIndex {α : Type} (items : List α) (offset : Nat) :
    items.drop (clampIndex items.length offset) = items.drop offset := by
  rw [clampIndex, if_neg (Int.not_lt.2 (Int.natCast_nonneg offset)), Int.toNat_natCast]
  rcases Nat.le_total offset items.length with inside | past
  · rw [Nat.min_eq_left inside]
  · rw [Nat.min_eq_right past, List.drop_length, List.drop_of_length_le past]

theorem rangeRev_ranked (set : SortedSet) (start stop : Int) :
    set.rangeRev start stop =
      (set.ranked.take ((if stop < 0 then stop + set.ranked.length else stop) + 1).toNat).drop
        (clampIndex set.ranked.length start) := rfl

theorem rangeRev_eq (set : SortedSet) (offset : Nat) {pageSize : Nat} (pos : 0 < pageSize) :
    set.rangeRev offset (offset + pageSize - 1) = (set.ranked.drop offset).take pageSize := by
  have stop : ¬ (offset + pageSize - 1 : Int) < 0 := by omega
  have last : ((offset + pageSize - 1 : Int) + 1).toNat = offset + pageSize := by omega
  rw [rangeRev_ranked, if_neg stop, last, clampIndex, if_neg (Int.not_lt.2 (Int.natCast_nonneg offset)), Int.toNat_natCast]
  rcases Nat.le_total offset set.ranked.length with inside | past
  · rw [Nat.min_eq_left inside, List.drop_take, Nat.add_sub_cancel_left]
  · rw [Nat.min_eq_right past, List.drop_of_length_le past, List.take_nil]
    exact List.drop_of_length_le (List.length_take_le' _ _)

/-- Before the end of the set, `-pageSize` counts from behind. -/
theorem rangeRev_neg_ne_nil {set : SortedSet} (nonempty : set ≠ []) {pageSize : Nat}
    (pos : 0 < pageSize) : set.rangeRev (-pageSize) (-pageSize + pageSize - 1) ≠ [] := by
  have size : 0 < set.ranked.length := by
    rw [length_ranked]
    exact List.length_pos_iff.2 nonempty
  have stop : (-pageSize + pageSize - 1 : Int) < 0 := by omega
  have last : ((-pageSize + pageSize - 1 : Int) + set.ranked.length + 1).toNat =
      set.ranked.length := by omega
  rw [rangeRev_ranked, if_pos stop, last, List.take_length, clampIndex, if_pos (by omega)]
  intro none
  have length := congrArg List.length none
  rw [List.length_drop, List.length_nil] at length
  omega

/-- Cached entries stay as they are, and new ones are added. -/
theorem foldl_addNx {entries : List (String × ℚ)} (distinct : (entries.map Prod.fst).Nodup)
    (set : SortedSet) :
    entries.foldl addNx set = set ++ entries.filter fun entry => entry.1 ∉ set.map Prod.fst := by
  induction entries generalizing set with
  | nil => simp
  | cons entry entries ih =>
      rw [List.map_cons, List.nodup_cons] at distinct
      rw [List.foldl_cons, ih distinct.2, addNx]
      by_cases cached : entry.1 ∈ set.map Prod.fst
      · rw [if_pos cached, List.filter_cons_of_neg (by simpa using cached)]
      · rw [if_neg cached, List.filter_cons_of_pos (by simpa using cached), List.append_assoc,
          List.singleton_append]
        congr 2
        refine List.filter_congr fun other mem => ?_
        have apart : other.1 ≠ entry.1 :=
          fun same => distinct.1 (same ▸ List.mem_map_of_mem mem)
        simp [apart]

theorem nodup_foldl_addNx {set : SortedSet} {entries : List (String × ℚ)}
    (members : (set.map Prod.fst).Nodup) (distinct : (entries.map Prod.fst).Nodup) :
    ((entries.foldl addNx set).map Prod.fst).Nodup := by
  rw [foldl_addNx distinct, List.map_append, List.nodup_append]
  refine ⟨members, distinct.sublist (List.filter_sublist.map _), ?_⟩
  rintro id cached _ new rfl
  obtain ⟨entry, selected, rfl⟩ := List.mem_map.1 new
  exact of_decide_eq_true (List.mem_filter.1 selected).2 cached

theorem eq_of_map_fst {set : SortedSet} (members : (set.map Prod.fst).Nodup)
    {entries entries' : List (String × ℚ)} (inside : ∀ entry ∈ entries, entry ∈ set)
    (inside' : ∀ entry ∈ entries', entry ∈ set)
    (same : entries.map Prod.fst = entries'.map Prod.fst) : entries = entries' := by
  induction entries generalizing entries' with
  | nil => exact (List.map_eq_nil_iff.1 same.symm).symm
  | cons entry entries ih =>
      cases entries' with
      | nil => cases same
      | cons entry' entries' =>
          obtain ⟨head, tail⟩ := List.cons.inj same
          rw [List.forall_mem_cons] at inside inside'
          rw [ih inside.2 inside'.2 tail,
            List.inj_on_of_nodup_map members inside.1 inside'.1 head]

/-! ## What is still cached -/

/-- The entry of a member in the set: a cached one keeps its score. -/
def effective (old : SortedSet) (entry : String × ℚ) : String × ℚ :=
  (old.find? fun cached => cached.1 = entry.1).getD entry

/-- Every cached member is a candidate, and the candidates are listed by the scores that
the set has for them, equal ones by their ids from the largest on. -/
def Agrees (old : SortedSet) (candidates : List (String × ℚ)) : Prop :=
  (∀ entry ∈ old, entry.1 ∈ candidates.map Prod.fst) ∧
    candidates.Pairwise fun a b => Above (effective old a) (effective old b)

section Effective

variable {old : SortedSet} {candidates : List (String × ℚ)}

theorem effective_of_mem (members : (old.map Prod.fst).Nodup) {entry cached : String × ℚ}
    (stored : cached ∈ old) (same : cached.1 = entry.1) : effective old entry = cached := by
  cases found : old.find? fun cached => cached.1 = entry.1 with
  | none => exact absurd same (by simpa using List.find?_eq_none.1 found cached stored)
  | some other =>
      have id : other.1 = entry.1 := by simpa using List.find?_some found
      rw [effective, found]
      exact List.inj_on_of_nodup_map members (List.mem_of_find?_eq_some found) stored
        (id.trans same.symm)

theorem effective_of_not_mem {entry : String × ℚ} (new : entry.1 ∉ old.map Prod.fst) :
    effective old entry = entry := by
  have none : (old.find? fun cached => cached.1 = entry.1) = none :=
    List.find?_eq_none.2 fun cached stored same =>
      new (of_decide_eq_true same ▸ List.mem_map_of_mem stored)
  rw [effective, none, Option.getD_none]

@[simp] theorem effective_fst (entry : String × ℚ) : (effective old entry).1 = entry.1 := by
  rw [effective]
  cases found : old.find? fun cached => cached.1 = entry.1 with
  | none => rfl
  | some other => simpa using List.find?_some found

theorem map_effective_fst :
    (candidates.map (effective old)).map Prod.fst = candidates.map Prod.fst := by
  rw [List.map_map]
  exact List.map_congr_left fun entry _ => effective_fst entry

/-- What the set holds when no other member is cached. -/
theorem effective_perm (members : (old.map Prod.fst).Nodup)
    (distinct : (candidates.map Prod.fst).Nodup)
    (known : ∀ entry ∈ old, entry.1 ∈ candidates.map Prod.fst) :
    (candidates.map (effective old)).Perm (candidates.foldl addNx old) := by
  have nodup := (nodup_foldl_addNx members distinct).of_map
  have nodup' : (candidates.map (effective old)).Nodup := by
    refine .of_map Prod.fst ?_
    rwa [map_effective_fst]
  rw [List.perm_ext_iff_of_nodup nodup' nodup]
  intro entry
  rw [foldl_addNx distinct, List.mem_map, List.mem_append, List.mem_filter, decide_eq_true_eq]
  constructor
  · rintro ⟨candidate, listed, rfl⟩
    by_cases cached : candidate.1 ∈ old.map Prod.fst
    · obtain ⟨other, stored, same⟩ := List.mem_map.1 cached
      exact .inl (effective_of_mem members stored same ▸ stored)
    · rw [effective_of_not_mem cached]
      exact .inr ⟨listed, cached⟩
  · rintro (stored | ⟨listed, new⟩)
    · obtain ⟨candidate, listed, same⟩ := List.mem_map.1 (known entry stored)
      exact ⟨candidate, listed, effective_of_mem members stored same.symm⟩
    · exact ⟨entry, listed, effective_of_not_mem new⟩

/-- The set lists the candidates as they are exactly when the two orders agree. -/
theorem ranked_foldl_addNx_iff (members : (old.map Prod.fst).Nodup)
    (distinct : (candidates.map Prod.fst).Nodup) :
    ranked (candidates.foldl addNx old) = candidates.map Prod.fst ↔ Agrees old candidates := by
  have sorted := List.pairwise_insertionSort Above (candidates.foldl addNx old)
  have perm := List.perm_insertionSort Above (candidates.foldl addNx old)
  constructor
  · intro same
    have known : ∀ entry ∈ old, entry.1 ∈ candidates.map Prod.fst := by
      intro entry stored
      rw [← same, ranked, (perm.map Prod.fst).mem_iff]
      rw [foldl_addNx distinct]
      exact List.mem_map_of_mem (List.mem_append_left _ stored)
    refine ⟨known, ?_⟩
    have held := effective_perm members distinct known
    have listed := eq_of_map_fst (nodup_foldl_addNx members distinct)
      (fun entry mem => perm.subset mem) (fun entry mem => held.subset mem)
      (same.trans map_effective_fst.symm)
    rw [listed, List.pairwise_map] at sorted
    exact sorted
  · rintro ⟨known, ordered⟩
    have held := effective_perm members distinct known
    have listed := (perm.trans held.symm).eq_of_pairwise
      (fun _ _ _ _ => above_antisymm) sorted (List.pairwise_map.2 ordered)
    rw [ranked, listed, map_effective_fst]

end Effective

end SortedSet

/-! ## The cache -/

/-- `get_feed_page` -/
def getFeedPage (cache : KeyStore FeedKey SortedSet) (now : Int) (key : FeedKey) (offset : Int)
    (pageSize : Nat) : Option (List String) :=
  (cache.get now key).map fun set => set.rangeRev offset (offset + pageSize - 1)

/-- `set_feed_page`, which is called with at least one profile -/
def setFeedPage (cache : KeyStore FeedKey SortedSet) (now : Int) (key : FeedKey)
    (scored : List (String × ℚ)) : KeyStore FeedKey SortedSet :=
  cache.setEx now FeedState.feedTtl key
    (scored.foldl SortedSet.addNx ((cache.get now key).getD []))

/-- What a call of `build_feed` reads and stores. -/
theorem FeedState.cachedPage_eq (s : FeedState) (call : FeedCall) :
    s.cachedPage call =
      (getFeedPage s.cache s.now call.key call.offset call.pageSize).getD [] := by
  rw [FeedState.cachedPage, getFeedPage]
  cases s.cache.get s.now call.key with
  | none => simp [SortedSet.rangeRev]
  | some set => rfl

theorem FeedState.fill_cache (s : FeedState) (index : Nat) (call : FeedCall)
    (scored : List (String × ℚ)) :
    (s.fill index call scored).cache = setFeedPage s.cache s.now call.key scored := rfl

theorem slice_eq (scored : List (String × ℚ)) (offset pageSize : Nat) :
    (slice scored offset (offset + pageSize)).map Prod.fst =
      ((scored.map Prod.fst).drop offset).take pageSize := by
  rw [slice, SortedSet.drop_clampIndex, List.map_take, List.map_drop, List.take_eq_take_iff,
    List.length_drop, List.length_map]
  unfold clampIndex
  rw [if_neg (by omega), if_neg (by omega)]
  omega

theorem slice_neg (scored : List (String × ℚ)) (pageSize : Nat) :
    slice scored (-pageSize) (-pageSize + pageSize) = [] := by
  rw [slice, Int.add_left_neg]
  simp [clampIndex]

/-- The page that a hit reads from the set is the one that a miss cuts from the list, for
every offset and page size, exactly when no other profile is still cached and the list is
in the order of the set; from behind they differ. -/
theorem cached_pages_agree_iff (cache : KeyStore FeedKey SortedSet) (key : FeedKey)
    (now later : Int) (candidates : List (String × ℚ)) (alive : later < now + FeedState.feedTtl)
    (members : (((cache.get now key).getD []).map Prod.fst).Nodup)
    (distinct : (candidates.map Prod.fst).Nodup) (listed : candidates ≠ []) :
    ((∀ offset pageSize : Nat, 0 < pageSize →
        getFeedPage (setFeedPage cache now key candidates) later key offset pageSize =
          some ((slice candidates offset (offset + pageSize)).map Prod.fst)) ↔
      SortedSet.Agrees ((cache.get now key).getD []) candidates) ∧
    ∀ pageSize : Nat, 0 < pageSize →
      getFeedPage (setFeedPage cache now key candidates) later key (-pageSize) pageSize ≠
        some ((slice candidates (-pageSize) (-pageSize + pageSize)).map Prod.fst) := by
  have stored : (setFeedPage cache now key candidates).get later key =
      some (candidates.foldl SortedSet.addNx ((cache.get now key).getD [])) := by
    rw [setFeedPage, KeyStore.get_setEx_self, if_pos alive]
  constructor
  · rw [← SortedSet.ranked_foldl_addNx_iff members distinct]
    constructor
    · intro same
      have whole := same 0 ((candidates.foldl SortedSet.addNx
        ((cache.get now key).getD [])).length + candidates.length + 1) (Nat.succ_pos _)
      rw [getFeedPage, stored, Option.map_some, SortedSet.rangeRev_eq _ _ (Nat.succ_pos _),
        slice_eq, Option.some.injEq, List.drop_zero, List.drop_zero,
        List.take_of_length_le (by rw [SortedSet.length_ranked]; omega),
        List.take_of_length_le (by rw [List.length_map]; omega)] at whole
      exact whole
    · intro same offset pageSize pos
      rw [getFeedPage, stored, Option.map_some, SortedSet.rangeRev_eq _ _ pos, same, slice_eq]
  · intro pageSize pos
    rw [getFeedPage, stored, Option.map_some, slice_neg, List.map_nil, Ne, Option.some.injEq]
    refine SortedSet.rangeRev_neg_ne_nil (fun none => listed ?_) pos
    rw [SortedSet.foldl_addNx distinct, List.append_eq_nil_iff] at none
    simpa [none.1] using none.2

/-- A list in the order of the set, and one whose equal scores are listed the other way. -/
def songScores : List (String × ℚ) := [("cleo", 2), ("bo", 1), ("ana", 1)]

def tiedScores : List (String × ℚ) := [("cleo", 2), ("ana", 1), ("bo", 1)]

def songKey : FeedKey := ⟨"u", "discover", "f"⟩

theorem cached_pages_agree_iff_empty_cache :
    getFeedPage (setFeedPage .empty 0 songKey songScores) 1 songKey 1 2 =
      some ((slice songScores 1 (1 + 2)).map Prod.fst) :=
  ((cached_pages_agree_iff .empty songKey 0 1 songScores (by decide) (by decide) (by decide)
    (by decide)).1.2 (by
      unfold SortedSet.Agrees SortedSet.Above
      decide +kernel)) 1 2 (by decide)

/-- The first page of a hit is not the one of the miss. -/
theorem tied_candidates_change_places :
    (tiedScores.map Prod.fst).Nodup ∧ tiedScores.Pairwise (fun a b => b.2 ≤ a.2) ∧
      getFeedPage (setFeedPage .empty 0 songKey tiedScores) 1 songKey 0 2 =
        some ["cleo", "bo"] ∧
      getFeedPage (setFeedPage .empty 0 songKey tiedScores) 1 songKey 0 2 ≠
        some ((slice tiedScores 0 (0 + 2)).map Prod.fst) := by
  decide +kernel

/-! ## One request -/

section Request

variable (hash : FeedFilters → String) (userId viewerProfileId mode : String)
  (filters : FeedFilters) (pageSize : Nat)

/-- The steps of a premium viewer's request up to its question to profile-svc; each does
nothing in the phases that do not wait for it. -/
def FeedState.ask (s : FeedState) (cursor : Option FeedCursor) : FeedState :=
  [FeedEvent.look s.feeds.length, .read s.feeds.length, .query s.feeds.length true,
    .fill s.feeds.length].foldl (feedStep hash)
      (feedStep hash s (.feed userId viewerProfileId mode cursor pageSize filters true))

def FeedState.phaseAt (s : FeedState) (index : Nat) : Option FeedPhase :=
  s.feeds[index]?.map FeedCall.phase

/-- The response when profile-svc returns the profiles that `returned` has, in the order in
which it is asked for them. -/
def FeedState.request (returned : String → Bool) (s : FeedState) (cursor : Option FeedCursor) :
    Option FeedResponse :=
  let asked := s.ask hash userId viewerProfileId mode filters pageSize cursor
  match asked.phaseAt s.feeds.length with
  | some (.hydrating profileIds) =>
      match (feedStep hash asked (.respond s.feeds.length (profileIds.filter returned))).phaseAt
          s.feeds.length with
      | some (.served response) => some response
      | _ => none
  | _ => none

/-- The call of a request that is allowed. -/
def FeedState.callOf (s : FeedState) (cursor : Option FeedCursor) : FeedCall where
  key := ⟨userId, mode, hash filters⟩
  viewerProfileId := viewerProfileId
  filters := filters
  offset := match cursor with
    | some cursor => if cursor.fh ≠ hash filters ∨ cursor.d ≠ s.today then 0 else cursor.o
    | none => 0
  pageSize := pageSize
  today := s.today
  phase := .looking

end Request

section Steps

variable {hash : FeedFilters → String} {userId viewerProfileId mode : String}
  {filters : FeedFilters} {pageSize : Nat} {s : FeedState} {before : List FeedCall}
  {call : FeedCall}

theorem enterFeed_feeds (cursor : Option FeedCursor) :
    (feedStep hash s (.feed userId viewerProfileId mode cursor pageSize filters true)).feeds =
      s.feeds ++ [s.callOf hash userId viewerProfileId mode filters pageSize cursor] := rfl

theorem onFeed_last (last : s.feeds = before ++ [call])
    (step : FeedCall → FeedPhase → Option FeedState) :
    s.onFeed before.length step = (step call call.phase).getD s := by
  rw [FeedState.onFeed, last, List.getElem?_concat_length]

theorem setFeed_feeds (last : s.feeds = before ++ [call]) (phase : FeedPhase) :
    (s.setFeed before.length call phase).feeds = before ++ [{ call with phase }] := by
  rw [FeedState.setFeed, last, List.set_append_right _ _ (Nat.le_refl _), Nat.sub_self,
    List.set_cons_zero]

theorem phaseAt_last (last : s.feeds = before ++ [call]) :
    s.phaseAt before.length = some call.phase := by
  rw [FeedState.phaseAt, last, List.getElem?_concat_length, Option.map_some]

/-- What a request asks profile-svc for: a page of the cached set, or of the candidates. -/
def FeedState.pageIds (s : FeedState) (call : FeedCall) : List String :=
  if s.cache.exists? s.now call.key then s.cachedPage call
  else call.page (s.getCandidates call.viewerProfileId call.filters 200)

theorem look_last (last : s.feeds = before ++ [call]) (looking : call.phase = .looking) :
    feedStep hash s (.look before.length) = s.setFeed before.length call
      (if s.cache.exists? s.now call.key then .reading else .querying) := by
  unfold feedStep
  dsimp only
  rw [onFeed_last last, looking]
  rfl

theorem read_last (last : s.feeds = before ++ [call]) (reading : call.phase = .reading) :
    feedStep hash s (.read before.length) =
      s.setFeed before.length call (.hydrating (s.cachedPage call)) := by
  unfold feedStep
  dsimp only
  rw [onFeed_last last, reading]
  rfl

theorem query_last (last : s.feeds = before ++ [call]) (querying : call.phase = .querying) :
    feedStep hash s (.query before.length true) = s.query before.length call true := by
  unfold feedStep
  dsimp only
  rw [onFeed_last last, querying]
  rfl

theorem fill_last {scored : List (String × ℚ)} (last : s.feeds = before ++ [call])
    (filling : call.phase = .filling scored) :
    feedStep hash s (.fill before.length) = s.fill before.length call scored := by
  unfold feedStep
  dsimp only
  rw [onFeed_last last, filling]
  rfl

theorem read_idle (last : s.feeds = before ++ [call]) (querying : call.phase = .querying) :
    feedStep hash s (.read before.length) = s := by
  unfold feedStep
  dsimp only
  rw [onFeed_last last, querying]
  rfl

theorem fill_idle {profileIds : List String} (last : s.feeds = before ++ [call])
    (hydrating : call.phase = .hydrating profileIds) :
    feedStep hash s (.fill before.length) = s := by
  unfold feedStep
  dsimp only
  rw [onFeed_last last, hydrating]
  rfl

/-- A cached page is read in one step, and the steps of a miss do nothing. -/
theorem feeds_of_hit (last : s.feeds = before ++ [call]) (reading : call.phase = .reading) :
    ([FeedEvent.read before.length, .query before.length true, .fill before.length].foldl
      (feedStep hash) s).feeds =
        before ++ [{ call with phase := .hydrating (s.cachedPage call) }] := by
  have feeds := setFeed_feeds last (.hydrating (s.cachedPage call))
  have idle : feedStep hash (s.setFeed before.length call (.hydrating (s.cachedPage call)))
      (.query before.length true) =
        s.setFeed before.length call (.hydrating (s.cachedPage call)) := by
    unfold feedStep
    dsimp only
    rw [onFeed_last feeds]
    rfl
  rw [List.foldl_cons, List.foldl_cons, List.foldl_cons, List.foldl_nil, read_last last reading,
    idle, fill_idle feeds rfl, feeds]

/-- A miss asks matching-svc and stores what it lists. -/
theorem feeds_of_miss (last : s.feeds = before ++ [call]) (querying : call.phase = .querying) :
    ([FeedEvent.read before.length, .query before.length true, .fill before.length].foldl
      (feedStep hash) s).feeds = before ++ [{ call with
        phase := .hydrating
          (call.page (s.getCandidates call.viewerProfileId call.filters 200)) }] := by
  rw [List.foldl_cons, List.foldl_cons, List.foldl_cons, List.foldl_nil, read_idle last querying,
    query_last last querying, FeedState.query, FeedState.ranked, if_pos rfl]
  by_cases none : s.getCandidates call.viewerProfileId call.filters 200 = []
  · have feeds := setFeed_feeds last (.hydrating [])
    rw [if_neg (not_not.2 none), fill_idle feeds rfl, feeds, none]
    simp [FeedCall.page, slice]
  · have feeds := setFeed_feeds last
      (.filling (s.getCandidates call.viewerProfileId call.filters 200))
    rw [if_pos none, fill_last feeds rfl]
    exact setFeed_feeds feeds _

/-- A page asks for the members of the set, if it is cached, or for the candidates. -/
theorem pageIds_eq {offset : Nat} (from_start : call.offset = offset) (pos : 0 < call.pageSize) :
    s.pageIds call =
      ((((s.cache.get s.now call.key).map SortedSet.ranked).getD
        ((s.getCandidates call.viewerProfileId call.filters 200).map Prod.fst)).drop
          offset).take call.pageSize := by
  rw [FeedState.pageIds, FeedState.cachedPage, FeedCall.page, from_start]
  cases found : s.cache.get s.now call.key with
  | none =>
      rw [if_neg (by rw [KeyStore.exists?, found]; decide), slice_eq]
      rfl
  | some set =>
      rw [if_pos (by rw [KeyStore.exists?, found]; rfl), Option.getD_some,
        SortedSet.rangeRev_eq _ _ pos]
      rfl

/-- There is a next page if all cards came back that the page may hold. -/
theorem respond_eq (pos : 0 < call.pageSize) (cards : List String) :
    call.respond cards = ⟨cards, if cards.length = call.pageSize then
      some ⟨call.key.filterHash, call.offset + call.pageSize, call.today⟩ else none⟩ := by
  rw [FeedCall.respond]
  by_cases full : cards.length = call.pageSize
  · have nonempty : cards ≠ [] := List.length_pos_iff.1 (full ▸ pos)
    rw [if_pos ⟨nonempty, full⟩, if_pos full, full]
  · rw [if_neg fun both => full both.2, if_neg full]

theorem ask_feeds (s : FeedState) (cursor : Option FeedCursor) :
    let call := s.callOf hash userId viewerProfileId mode filters pageSize cursor
    (s.ask hash userId viewerProfileId mode filters pageSize cursor).feeds =
      s.feeds ++ [{ call with phase := .hydrating (s.pageIds call) }] := by
  intro call
  have last : (feedStep hash s
      (.feed userId viewerProfileId mode cursor pageSize filters true)).feeds =
        s.feeds ++ [call] := enterFeed_feeds cursor
  have looked : feedStep hash
      (feedStep hash s (.feed userId viewerProfileId mode cursor pageSize filters true))
      (.look s.feeds.length) = FeedState.setFeed _ s.feeds.length call
        (if s.cache.exists? s.now call.key then .reading else .querying) := look_last last rfl
  rw [FeedState.ask, List.foldl_cons, looked, FeedState.pageIds]
  by_cases hit : s.cache.exists? s.now call.key = true
  · rw [if_pos hit, if_pos hit]
    exact (feeds_of_hit (setFeed_feeds last .reading) rfl).trans rfl
  · rw [if_neg hit, if_neg hit]
    exact (feeds_of_miss (setFeed_feeds last .querying) rfl).trans rfl

/-- A request is answered with the cards of the profiles it asked for. -/
theorem request_eq (returned : String → Bool) (s : FeedState) (cursor : Option FeedCursor) :
    let call := s.callOf hash userId viewerProfileId mode filters pageSize cursor
    s.request hash userId viewerProfileId mode filters pageSize returned cursor =
      some (call.respond ((s.pageIds call).filter returned)) := by
  intro call
  have asked : (s.ask hash userId viewerProfileId mode filters pageSize cursor).feeds =
      s.feeds ++ [{ call with phase := .hydrating (s.pageIds call) }] := ask_feeds s cursor
  have answered : ∀ {t : FeedState}, t.feeds = s.feeds ++
      [{ call with phase := .hydrating (s.pageIds call) }] →
      (feedStep hash t (.respond s.feeds.length ((s.pageIds call).filter returned))).phaseAt
        s.feeds.length = some (.served (call.respond ((s.pageIds call).filter returned))) := by
    intro t last
    unfold feedStep
    dsimp only
    rw [onFeed_last last]
    dsimp only
    rw [if_pos fun card mem => (List.mem_filter.1 mem).1, Option.getD_some,
      phaseAt_last (setFeed_feeds last _)]
    rfl
  rw [FeedState.request, phaseAt_last asked]
  dsimp only
  rw [answered asked]

end Steps

/-! ## Following the cursors -/

section Walk

variable (hash : FeedFilters → String) (userId viewerProfileId mode : String)
  (filters : FeedFilters) (pageSize : Nat) (returned : String → Bool) (s : FeedState)

/-- The set in which `set_feed_page` stores the candidates. -/
def FeedState.candidateSet : SortedSet :=
  (s.getCandidates viewerProfileId filters 200).foldl SortedSet.addNx []

/-- The candidates in the order of a miss and, for `true`, of a hit. -/
def FeedState.feedOrder : Bool → List String
  | false => (s.getCandidates viewerProfileId filters 200).map Prod.fst
  | true => (s.candidateSet viewerProfileId filters).ranked

/-- A request for a page, with the cached list alive or gone. -/
def servesFeed (cursor : Option FeedCursor) (items : List String) (next : Option FeedCursor) :
    Prop :=
  ∃ cache : KeyStore FeedKey SortedSet,
    (cache.get s.now ⟨userId, mode, hash filters⟩ = none ∨
      cache.get s.now ⟨userId, mode, hash filters⟩ =
        some (s.candidateSet viewerProfileId filters)) ∧
    FeedState.request hash userId viewerProfileId mode filters pageSize returned
      { s with cache := cache } cursor = some ⟨items, next⟩

def FeedState.cursorAt (k : Nat) : FeedCursor :=
  ⟨hash filters, (k * pageSize : Nat), s.today⟩

variable {hash userId viewerProfileId mode filters pageSize returned s}

theorem callOf_offset (k : Nat) :
    (s.callOf hash userId viewerProfileId mode filters pageSize
      (pageCursor (s.cursorAt hash filters pageSize) k)).offset = (k * pageSize : Nat) := by
  cases k with
  | zero =>
      rw [Nat.zero_mul]
      rfl
  | succ k => exact if_neg (by simp [FeedState.cursorAt])

theorem request_page (pos : 0 < pageSize) (k : Nat) :
    s.request hash userId viewerProfileId mode filters pageSize returned
        (pageCursor (s.cursorAt hash filters pageSize) k) =
      let items := shownOn pageSize returned
        (((s.cache.get s.now ⟨userId, mode, hash filters⟩).map SortedSet.ranked).getD
          ((s.getCandidates viewerProfileId filters 200).map Prod.fst)) k
      some ⟨items, if items.length = pageSize then some (s.cursorAt hash filters pageSize (k + 1))
        else none⟩ := by
  have offset : (s.callOf hash userId viewerProfileId mode filters pageSize
      (pageCursor (s.cursorAt hash filters pageSize) k)).offset = (k * pageSize : Nat) :=
    callOf_offset k
  have next : s.cursorAt hash filters pageSize (k + 1) =
      ⟨hash filters, (k * pageSize : Nat) + pageSize, s.today⟩ := by
    rw [FeedState.cursorAt, Nat.succ_mul, Int.natCast_add]
  rw [request_eq, respond_eq pos, pageIds_eq offset pos, offset, next]
  rfl

/-- The pages are those of a list whose order may change from one to the next. -/
theorem servesFeed_offsets (pos : 0 < pageSize) :
    ServesOffsets pageSize returned (s.feedOrder viewerProfileId filters)
      (s.cursorAt hash filters pageSize)
      (servesFeed hash userId viewerProfileId mode filters pageSize returned s) := by
  intro k items next
  have page : ∀ (cache : KeyStore FeedKey SortedSet) (cached : Bool),
      ((cache.get s.now ⟨userId, mode, hash filters⟩).map SortedSet.ranked).getD
        ((s.getCandidates viewerProfileId filters 200).map Prod.fst) =
          s.feedOrder viewerProfileId filters cached →
      FeedState.request hash userId viewerProfileId mode filters pageSize returned
        { s with cache := cache } (pageCursor (s.cursorAt hash filters pageSize) k) =
          let items := shownOn pageSize returned (s.feedOrder viewerProfileId filters cached) k
          some ⟨items, if items.length = pageSize then
            some (s.cursorAt hash filters pageSize (k + 1)) else none⟩ :=
    fun cache cached same => same ▸ request_page pos k
  constructor
  · rintro ⟨cache, gone | alive, served⟩
    · rw [page cache false (by rw [gone]; rfl)] at served
      cases served
      exact ⟨false, rfl, rfl⟩
    · rw [page cache true (by rw [alive]; rfl)] at served
      cases served
      exact ⟨true, rfl, rfl⟩
  · rintro ⟨cached, rfl, rfl⟩
    cases cached with
    | false =>
        refine ⟨.empty, .inl (KeyStore.get_empty _ _), ?_⟩
        exact page _ false (by rw [KeyStore.get_empty]; rfl)
    | true =>
        have alive : (KeyStore.setEx .empty s.now FeedState.feedTtl
            (⟨userId, mode, hash filters⟩ : FeedKey)
            (s.candidateSet viewerProfileId filters)).get s.now ⟨userId, mode, hash filters⟩ =
              some (s.candidateSet viewerProfileId filters) := by
          have positive : 0 < FeedState.feedTtl := by decide
          rw [KeyStore.get_setEx_self, if_pos (by omega)]
        exact ⟨_, .inr alive, page _ true (by rw [alive]; rfl)⟩

/-- The candidates are distinct, since a score has its two profiles as its key. -/
theorem nodup_candidates
    (key : (s.scores.map fun row => (row.fromProfileId, row.toProfileId)).Nodup) :
    ((s.getCandidates viewerProfileId filters 200).map Prod.fst).Nodup := by
  have viewer : ∀ row ∈ s.scores.filter (fun row => row.fromProfileId = viewerProfileId &&
      (s.profiles row.toProfileId).any (filters.admits s.now)),
      row.fromProfileId = viewerProfileId := by
    intro row mem
    simp only [List.mem_filter, Bool.and_eq_true, decide_eq_true_eq] at mem
    exact mem.2.1
  have distinct : (s.scores.filter fun row => row.fromProfileId = viewerProfileId &&
      (s.profiles row.toProfileId).any (filters.admits s.now)).Pairwise
        fun row row' => row.toProfileId ≠ row'.toProfileId := by
    refine ((List.pairwise_map.1 key).filter _).imp_of_mem ?_
    intro row row' mem mem' apart same
    exact apart (Prod.ext ((viewer row mem).trans (viewer row' mem').symm) same)
  unfold FeedState.getCandidates
  rw [List.map_take]
  refine List.Nodup.sublist (List.take_sublist _ _) ?_
  refine (((List.perm_insertionSort _ _).map _).nodup_iff).2 ?_
  rw [List.map_map]
  exact List.pairwise_map.2 distinct

/-- A viewer who follows the cursors sees each returned candidate once and in rank order, and
is not told of the end before it, exactly when only the last page has profiles left out and
the order of the set makes no difference on any page. -/
theorem feed_covers_iff (hash : FeedFilters → String) (userId viewerProfileId mode : String)
    (filters : FeedFilters) (pageSize : Nat) (returned : String → Bool) (s : FeedState)
    (pos : 0 < pageSize)
    (key : (s.scores.map fun row => (row.fromProfileId, row.toProfileId)).Nodup) :
    ((∃ pages, Follows (servesFeed hash userId viewerProfileId mode filters pageSize returned s)
        none pages) ∧
      ∀ pages, Follows (servesFeed hash userId viewerProfileId mode filters pageSize returned s)
        none pages →
          pages.flatten =
            ((s.getCandidates viewerProfileId filters 200).map Prod.fst).filter returned ∧
          (s.getCandidates viewerProfileId filters 200).length ≤ pages.length * pageSize) ↔
      PagesAgree pageSize returned (s.feedOrder viewerProfileId filters) false := by
  have lengths : ∀ cached, (s.feedOrder viewerProfileId filters cached).length =
      (s.feedOrder viewerProfileId filters false).length := by
    intro cached
    cases cached with
    | false => rfl
    | true =>
        rw [FeedState.feedOrder, FeedState.feedOrder, SortedSet.length_ranked,
          FeedState.candidateSet, SortedSet.foldl_addNx (nodup_candidates key)]
        simp
  have serves : ServesOffsets pageSize returned (s.feedOrder viewerProfileId filters)
      (s.cursorAt hash filters pageSize)
      (servesFeed hash userId viewerProfileId mode filters pageSize returned s) :=
    servesFeed_offsets pos
  have fresh : s.feedOrder viewerProfileId filters false =
      (s.getCandidates viewerProfileId filters 200).map Prod.fst := rfl
  have covers := offset_pages_iff pos serves false lengths
  rwa [fresh, List.length_map] at covers

end Walk

/-! ## A page with a profile left out -/

def rankedProfile : ProfileRow := ⟨some 0, "badge_granted", false, none, false, []⟩

def rankedFeed : FeedState :=
  .start 0 (fun _ => some rankedProfile) [⟨"v", "ana", 3⟩, ⟨"v", "bo", 2⟩, ⟨"v", "cleo", 1⟩]

/-- A walk with pages of two in which profile-svc does not return the first profile. -/
def servesRanked : Option FeedCursor → List String → Option FeedCursor → Prop :=
  servesFeed (fun _ => "f") "u" "v" "discover" {} 2 (· ≠ "ana") rankedFeed

theorem feed_covers_iff_two_a_page :
    ((∃ pages, Follows servesRanked none pages) ∧
      ∀ pages, Follows servesRanked none pages →
        pages.flatten = ((rankedFeed.getCandidates "v" {} 200).map Prod.fst).filter (· ≠ "ana") ∧
          (rankedFeed.getCandidates "v" {} 200).length ≤ pages.length * 2) ↔
      PagesAgree 2 (· ≠ "ana") (rankedFeed.feedOrder "v" {}) false :=
  feed_covers_iff (fun _ => "f") "u" "v" "discover" {} 2 (· ≠ "ana") rankedFeed (by decide)
    (by decide)

/-- The first page is short, so it is the last one, and `cleo` is on none. -/
theorem short_page_ends_the_feed :
    Follows servesRanked none [["bo"]] ∧
      ((rankedFeed.getCandidates "v" {} 200).map Prod.fst).filter (· ≠ "ana") = ["bo", "cleo"] ∧
      ¬ ∀ pages, Follows servesRanked none pages →
        pages.flatten = ((rankedFeed.getCandidates "v" {} 200).map Prod.fst).filter (· ≠ "ana") ∧
          (rankedFeed.getCandidates "v" {} 200).length ≤ pages.length * 2 := by
  have first : Follows servesRanked none [["bo"]] :=
    .last ⟨.empty, .inl rfl, by decide +kernel⟩
  have candidates : ((rankedFeed.getCandidates "v" {} 200).map Prod.fst).filter (· ≠ "ana") =
      ["bo", "cleo"] := by decide +kernel
  refine ⟨first, candidates, fun covers => ?_⟩
  have all := (covers _ first).1
  rw [candidates] at all
  exact absurd all (by decide)

end ColabPlatform.Discovery
