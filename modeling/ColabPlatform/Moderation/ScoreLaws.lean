import ColabPlatform.Foundation.Maxima
import ColabPlatform.Moderation.Scoring
import Mathlib.Algebra.Order.Field.Basic
import Mathlib.Tactic.Linarith

/-!
# Laws of the score and of the routing

The weights are an argument here, as they are in `combined_score`.  A running
maximum of what the tools report can only grow with a report; the dictionary of
the parent labels is one such maximum for every parent.
-/

namespace ColabPlatform.Moderation

open Foundation

/-! ## The score under given weights -/

/-- `weights.get(category, default)` -/
def weightIn (weights : OrderedDict String Score) (category : String) (default : Score) : Score :=
  (weights.lookup category).getD default

def textWeightedBy (weights : OrderedDict String Score) (openai : OpenAIModResult) : Score :=
  max (openai.categoryScores.foldl (fun weighted item =>
    max weighted (weightIn weights item.1 1 * item.2)) 0) openai.maxScore

def parentWeight (weights : OrderedDict String Score) (parent : String) : Score :=
  weightIn weights ("Rekognition:" ++ parent) (weightIn weights parent 1)

def imageWeightedBy (weights : OrderedDict String Score) (labels : List Label) : Score :=
  (parentScores labels).foldl (fun weighted item =>
    max weighted (parentWeight weights item.1 * item.2)) 0

/-- `combined_score`; no weights stand for the default ones. -/
def combinedScoreBy (settings : ModerationSettings) (weights : Option (OrderedDict String Score))
    (openai : OpenAIModResult) (labels : List Label) (dup : DupResult) : Score :=
  let weights := weights.getD defaultCategoryWeights
  min 1 (max (textWeightedBy weights openai) (imageWeightedBy weights labels) +
    bump settings dup)

theorem combinedScoreBy_none (settings : ModerationSettings) (openai : OpenAIModResult)
    (labels : List Label) (dup : DupResult) :
    combinedScoreBy settings none openai labels dup = combinedScore settings openai labels dup :=
  rfl

/-! ## What is compared -/

/-- What the tools report about one content. -/
structure ScoreInput where
  openai : OpenAIModResult
  labels : List Label
  dup : DupResult

def ScoreInput.score (settings : ModerationSettings)
    (weights : Option (OrderedDict String Score)) (input : ScoreInput) : Score :=
  combinedScoreBy settings weights input.openai input.labels input.dup

/-- What `input` has, `input'` has with as great a value; it may have more. -/
structure ScoreInput.Below (input input' : ScoreInput) : Prop where
  scores : ∀ item ∈ input.openai.categoryScores, ∃ item' ∈ input'.openai.categoryScores,
    item'.1 = item.1 ∧ item.2 ≤ item'.2
  labels : ∀ label ∈ input.labels, ∃ label' ∈ input'.labels,
    label'.name = label.name ∧ label'.parentName = label.parentName ∧
      label.confidence ≤ label'.confidence
  phash : input.dup.phashMatch → input'.dup.phashMatch
  chromaprint : input.dup.chromaprintMatch → input'.dup.chromaprintMatch
  semdup : input.dup.semdupMatch → input'.dup.semdupMatch

/-- `ALWAYS_HUMAN_OPENAI` -/
def alwaysHumanOpenai : List String :=
  ["harassment/threatening", "violence/graphic", "sexual/minors"]

def Tier.rank : Tier → Nat
  | .tier0Allow => 0
  | .tier1 => 1
  | .tier2 => 2
  | .tier3 => 3

structure ScoringLaws (settings : ModerationSettings) : Prop where
  bounded : ∀ weights (input : ScoreInput),
    0 ≤ input.score settings weights ∧ input.score settings weights ≤ 1
  monotone : ∀ weights (input input' : ScoreInput),
    (∀ entry ∈ weights.getD defaultCategoryWeights, 0 ≤ entry.2) → input.Below input' →
      input.score settings weights ≤ input'.score settings weights
  tier_monotone : ∀ score score' openai labels hasIpClaim, score ≤ score' →
    (route settings score openai labels hasIpClaim).tier.rank ≤
      (route settings score' openai labels hasIpClaim).tier.rank
  minors : ∀ score openai labels hasIpClaim, "sexual/minors" ∈ openai.flaggedCategories →
    (route settings score openai labels hasIpClaim).tier = .tier3 ∧
      (route settings score openai labels hasIpClaim).isCsam = true
  forced : ∀ score openai labels hasIpClaim,
    (∃ category ∈ alwaysHumanOpenai, category ∈ openai.flaggedCategories) ∨
      (∃ parent ∈ alwaysHumanRekognition, parent ∈ labels.map Label.parent) ∨
      hasIpClaim = true →
    (route settings score openai labels hasIpClaim).tier ≠ .tier0Allow ∧
      (route settings score openai labels hasIpClaim).forcedHuman = true

/-! ## The parent labels -/

theorem parentScores_concat (labels : List Label) (label : Label) :
    parentScores (labels ++ [label]) =
      OrderedDict.insert (parentScores labels) label.parent
        (max (((parentScores labels).lookup label.parent).getD 0) (label.confidence / 100)) := by
  simp [parentScores]

/-- A score of a parent is 0 or comes from one of its labels. -/
theorem parentScores_from {labels : List Label} {parent : String} {value : Score}
    (mem : (parent, value) ∈ parentScores labels) :
    value = 0 ∨ ∃ label ∈ labels, label.parent = parent ∧ value = label.confidence / 100 := by
  induction labels using List.reverseRecOn generalizing value with
  | nil => cases mem
  | append_singleton labels label ih =>
      have earlier : ∀ {old : Score}, (parent, old) ∈ parentScores labels →
          old = 0 ∨ ∃ l ∈ labels ++ [label], l.parent = parent ∧ old = l.confidence / 100 := by
        intro old stored
        rcases ih stored with zero | ⟨l, mem, same, value⟩
        · exact Or.inl zero
        · exact Or.inr ⟨l, List.mem_append_left _ mem, same, value⟩
      rw [parentScores_concat, OrderedDict.mem_insert] at mem
      rcases mem with ⟨rfl, rfl⟩ | ⟨-, old⟩
      · rcases max_choice (((parentScores labels).lookup label.parent).getD 0)
          (label.confidence / 100) with before | now
        · rw [before]
          cases found : (parentScores labels).lookup label.parent with
          | none => exact Or.inl rfl
          | some old => exact earlier (OrderedDict.mem_of_lookup found)
        · rw [now]
          exact Or.inr ⟨label, by simp, rfl, rfl⟩
      · exact earlier old

/-- A parent's score is no less than that of any of its labels. -/
theorem parentScores_of_mem {labels : List Label} {label : Label} (mem : label ∈ labels) :
    ∃ value, (parentScores labels).lookup label.parent = some value ∧
      label.confidence / 100 ≤ value := by
  induction labels using List.reverseRecOn with
  | nil => cases mem
  | append_singleton labels last ih =>
      rw [parentScores_concat, OrderedDict.lookup_insert]
      rcases List.mem_append.1 mem with earlier | here
      · obtain ⟨value, found, le⟩ := ih earlier
        by_cases same : label.parent = last.parent
        · refine ⟨_, if_pos same, le.trans (le_max_of_le_left ?_)⟩
          rw [← same, found]
          exact le_rfl
        · exact ⟨value, (if_neg same).trans found, le⟩
      · rw [List.mem_singleton.1 here]
        exact ⟨_, if_pos rfl, le_max_right _ _⟩

/-! ## Bounds -/

theorem textWeightedBy_nonneg (weights : OrderedDict String Score) (openai : OpenAIModResult) :
    0 ≤ textWeightedBy weights openai :=
  (le_foldl_max _ _ _).trans (le_max_left _ _)

theorem imageWeightedBy_nonneg (weights : OrderedDict String Score) (labels : List Label) :
    0 ≤ imageWeightedBy weights labels :=
  le_foldl_max _ _ _

theorem bump_nonneg {settings : ModerationSettings} (nonneg : 0 ≤ settings.dupBump)
    (dup : DupResult) : 0 ≤ bump settings dup := by
  unfold bump
  split
  · exact nonneg
  · exact le_rfl

theorem score_bounds {settings : ModerationSettings} (nonneg : 0 ≤ settings.dupBump)
    (weights : Option (OrderedDict String Score)) (input : ScoreInput) :
    0 ≤ input.score settings weights ∧ input.score settings weights ≤ 1 := by
  have text := textWeightedBy_nonneg (weights.getD defaultCategoryWeights) input.openai
  have added := bump_nonneg nonneg input.dup
  refine ⟨le_min zero_le_one (add_nonneg (text.trans (le_max_left _ _)) added), min_le_left _ _⟩

/-! ## Monotonicity -/

theorem weightIn_nonneg {weights : OrderedDict String Score}
    (nonneg : ∀ entry ∈ weights, 0 ≤ entry.2) (category : String) {default : Score}
    (default_nonneg : 0 ≤ default) : 0 ≤ weightIn weights category default := by
  unfold weightIn
  cases found : weights.lookup category with
  | none => exact default_nonneg
  | some weight => exact nonneg (category, weight) (OrderedDict.mem_of_lookup found)

theorem parentWeight_nonneg {weights : OrderedDict String Score}
    (nonneg : ∀ entry ∈ weights, 0 ≤ entry.2) (parent : String) :
    0 ≤ parentWeight weights parent :=
  weightIn_nonneg nonneg _ (weightIn_nonneg nonneg _ zero_le_one)

theorem bump_mono {settings : ModerationSettings} (nonneg : 0 ≤ settings.dupBump)
    {dup dup' : DupResult} (phash : dup.phashMatch → dup'.phashMatch)
    (chromaprint : dup.chromaprintMatch → dup'.chromaprintMatch)
    (semdup : dup.semdupMatch → dup'.semdupMatch) : bump settings dup ≤ bump settings dup' := by
  have any : dup.anyMatch → dup'.anyMatch := by
    unfold DupResult.anyMatch
    simp only [Bool.or_eq_true]
    exact Or.imp (Or.imp phash chromaprint) semdup
  unfold bump
  by_cases matched : dup.anyMatch = true
  · rw [if_pos matched, if_pos (any matched)]
  · rw [if_neg matched]
    exact bump_nonneg nonneg dup'

theorem maxOf_le {values : List Score} {bound : Score} (nonneg : 0 ≤ bound)
    (all : ∀ value ∈ values, value ≤ bound) : maxOf values ≤ bound := by
  cases values with
  | nil => exact nonneg
  | cons value values =>
      rw [List.forall_mem_cons] at all
      exact (foldl_max_le_iff id values value bound).2 all

theorem le_maxOf {values : List Score} {value : Score} (mem : value ∈ values) :
    value ≤ maxOf values := by
  cases values with
  | nil => cases mem
  | cons first values =>
      rcases List.mem_cons.1 mem with rfl | later
      · exact le_foldl_max id values value
      · exact le_foldl_max_of_mem id first later

theorem textWeightedBy_mono {weights : OrderedDict String Score}
    (nonneg : ∀ entry ∈ weights, 0 ≤ entry.2) {openai openai' : OpenAIModResult}
    (below : ∀ item ∈ openai.categoryScores, ∃ item' ∈ openai'.categoryScores,
      item'.1 = item.1 ∧ item.2 ≤ item'.2) :
    textWeightedBy weights openai ≤ textWeightedBy weights openai' := by
  apply max_le
  · apply (foldl_max_le_iff _ _ _ _).2
    refine ⟨textWeightedBy_nonneg weights openai', fun item mem => ?_⟩
    obtain ⟨item', mem', same, le⟩ := below item mem
    have weight := weightIn_nonneg nonneg item.1 zero_le_one
    calc weightIn weights item.1 1 * item.2 ≤ weightIn weights item'.1 1 * item'.2 := by
          rw [same]
          exact mul_le_mul_of_nonneg_left le weight
      _ ≤ _ := le_foldl_max_of_mem (fun item : String × Score => weightIn weights item.1 1 * item.2)
          0 mem'
      _ ≤ textWeightedBy weights openai' := le_max_left _ _
  · apply maxOf_le (textWeightedBy_nonneg weights openai')
    intro value mem
    obtain ⟨item, scored, rfl⟩ := List.mem_map.1 mem
    obtain ⟨item', mem', -, le⟩ := below item scored
    calc item.2 ≤ item'.2 := le
      _ ≤ openai'.maxScore := le_maxOf (List.mem_map_of_mem mem')
      _ ≤ textWeightedBy weights openai' := le_max_right _ _

theorem le_imageWeightedBy (weights : OrderedDict String Score) {labels : List Label}
    {parent : String} {value : Score} (mem : (parent, value) ∈ parentScores labels) :
    parentWeight weights parent * value ≤ imageWeightedBy weights labels := by
  have within := le_foldl_max_of_mem
    (fun item : String × Score => parentWeight weights item.1 * item.2) 0 mem
  exact within

theorem imageWeightedBy_mono {weights : OrderedDict String Score}
    (nonneg : ∀ entry ∈ weights, 0 ≤ entry.2) {labels labels' : List Label}
    (below : ∀ label ∈ labels, ∃ label' ∈ labels', label'.name = label.name ∧
      label'.parentName = label.parentName ∧ label.confidence ≤ label'.confidence) :
    imageWeightedBy weights labels ≤ imageWeightedBy weights labels' := by
  apply (foldl_max_le_iff _ _ _ _).2
  refine ⟨imageWeightedBy_nonneg weights labels', ?_⟩
  rintro ⟨parent, value⟩ mem
  rcases parentScores_from mem with zero | ⟨label, reported, rfl, rfl⟩
  · rw [zero, mul_zero]
    exact imageWeightedBy_nonneg weights labels'
  · obtain ⟨label', mem', name, parentName, le⟩ := below label reported
    have same : label'.parent = label.parent := by
      unfold Label.parent
      rw [name, parentName]
    obtain ⟨value', found, le'⟩ := parentScores_of_mem mem'
    rw [same] at found
    have weight := parentWeight_nonneg nonneg label.parent
    have confident : label.confidence / 100 ≤ value' :=
      (div_le_div_of_nonneg_right le (by norm_num)).trans le'
    calc parentWeight weights label.parent * (label.confidence / 100)
        ≤ parentWeight weights label.parent * value' := mul_le_mul_of_nonneg_left confident weight
      _ ≤ imageWeightedBy weights labels' := le_imageWeightedBy weights
          (OrderedDict.mem_of_lookup found)

theorem score_mono {settings : ModerationSettings} (nonneg : 0 ≤ settings.dupBump)
    {weights : Option (OrderedDict String Score)}
    (weighty : ∀ entry ∈ weights.getD defaultCategoryWeights, 0 ≤ entry.2)
    {input input' : ScoreInput} (below : input.Below input') :
    input.score settings weights ≤ input'.score settings weights := by
  have text := textWeightedBy_mono weighty below.scores
  have image := imageWeightedBy_mono weighty below.labels
  have added := bump_mono nonneg below.phash below.chromaprint below.semdup
  exact min_le_min le_rfl (add_le_add (max_le_max text image) added)

/-! ## Routing -/

theorem thresholdRouting_mono (settings : ModerationSettings) {score score' : Score}
    (le : score ≤ score') :
    (thresholdRouting settings score).2.1.rank ≤ (thresholdRouting settings score').2.1.rank := by
  unfold thresholdRouting
  by_cases first : score' < settings.tier1Threshold
  · rw [if_pos (le.trans_lt first), if_pos first]
  · rw [if_neg first]
    by_cases second : score' < settings.tier2Threshold
    · have under := le.trans_lt second
      rw [if_pos under, if_pos second]
      split <;> simp [Tier.rank]
    · rw [if_neg second]
      by_cases third : score' < settings.tier3Threshold
      · have under := le.trans_lt third
        rw [if_pos under, if_pos third]
        split
        · simp [Tier.rank]
        · split <;> simp [Tier.rank]
      · have last : ∀ tier : Tier, tier.rank ≤ Tier.tier3.rank := by
          intro tier
          cases tier <;> decide
        rw [if_neg third]
        exact last _

/-- The tier of a forced case is that of the thresholds, or the first one if that is none. -/
theorem route_rank (settings : ModerationSettings) (score : Score) (openai : OpenAIModResult)
    (labels : List Label) (hasIpClaim : Bool)
    (other : "sexual/minors" ∉ openai.flaggedCategories) :
    (route settings score openai labels hasIpClaim).tier.rank =
      max (if (forcedReason openai labels hasIpClaim).isSome then 1 else 0)
        (thresholdRouting settings score).2.1.rank := by
  unfold route
  rw [if_neg other]
  cases forcedReason openai labels hasIpClaim with
  | none => simp
  | some reason =>
      cases tier : (thresholdRouting settings score).2.1 <;> simp [tier, Tier.rank]

theorem route_mono (settings : ModerationSettings) {score score' : Score} (le : score ≤ score')
    (openai : OpenAIModResult) (labels : List Label) (hasIpClaim : Bool) :
    (route settings score openai labels hasIpClaim).tier.rank ≤
      (route settings score' openai labels hasIpClaim).tier.rank := by
  by_cases minors : "sexual/minors" ∈ openai.flaggedCategories
  · simp [route, minors]
  · rw [route_rank settings score openai labels hasIpClaim minors,
      route_rank settings score' openai labels hasIpClaim minors]
    exact max_le_max le_rfl (thresholdRouting_mono settings le)

theorem forcedReason_eq_none_iff {openai : OpenAIModResult} {labels : List Label}
    {hasIpClaim : Bool} :
    forcedReason openai labels hasIpClaim = none ↔
      "harassment/threatening" ∉ openai.flaggedCategories ∧
        "violence/graphic" ∉ openai.flaggedCategories ∧
        (∀ parent ∈ alwaysHumanRekognition, parent ∉ labels.map Label.parent) ∧
        hasIpClaim = false := by
  unfold forcedReason
  by_cases threatening : "harassment/threatening" ∈ openai.flaggedCategories
  · simp [threatening]
  · by_cases graphic : "violence/graphic" ∈ openai.flaggedCategories
    · simp [threatening, graphic]
    · rw [if_neg threatening, if_neg graphic]
      by_cases matched : alwaysHumanRekognition.filter (· ∈ labels.map Label.parent) = []
      · have apart : ∀ parent ∈ alwaysHumanRekognition, parent ∉ labels.map Label.parent := by
          intro parent mem
          simpa using List.filter_eq_nil_iff.1 matched parent mem
        rw [if_neg (not_not.2 matched)]
        cases hasIpClaim with
        | false => exact iff_of_true rfl ⟨threatening, graphic, apart, rfl⟩
        | true => exact iff_of_false (Option.some_ne_none _) fun all => Bool.noConfusion all.2.2.2
      · have found : ¬ ∀ parent ∈ alwaysHumanRekognition, parent ∉ labels.map Label.parent := by
          intro apart
          apply matched
          apply List.filter_eq_nil_iff.2
          intro parent mem
          simpa using apart parent mem
        rw [if_pos matched]
        exact iff_of_false (Option.some_ne_none _) fun all => found all.2.2.1

theorem forcedReason_isSome {openai : OpenAIModResult} {labels : List Label} {hasIpClaim : Bool}
    (other : "sexual/minors" ∉ openai.flaggedCategories)
    (human : (∃ category ∈ alwaysHumanOpenai, category ∈ openai.flaggedCategories) ∨
      (∃ parent ∈ alwaysHumanRekognition, parent ∈ labels.map Label.parent) ∨
      hasIpClaim = true) : (forcedReason openai labels hasIpClaim).isSome := by
  cases reason : forcedReason openai labels hasIpClaim with
  | some text => rfl
  | none =>
      obtain ⟨threatening, graphic, apart, unclaimed⟩ := forcedReason_eq_none_iff.1 reason
      rcases human with ⟨category, always, flagged⟩ | ⟨parent, always, shown⟩ | claimed
      · simp only [alwaysHumanOpenai, List.mem_cons, List.not_mem_nil, or_false] at always
        rcases always with rfl | rfl | rfl
        · exact absurd flagged threatening
        · exact absurd flagged graphic
        · exact absurd flagged other
      · exact absurd shown (apart parent always)
      · rw [unclaimed] at claimed
        cases claimed

theorem scoring_laws {settings : ModerationSettings} (nonneg : 0 ≤ settings.dupBump) :
    ScoringLaws settings where
  bounded weights input := score_bounds nonneg weights input
  monotone weights input input' weighty below := score_mono nonneg weighty below
  tier_monotone score score' openai labels hasIpClaim le :=
    route_mono settings le openai labels hasIpClaim
  minors score openai labels hasIpClaim flagged := by simp [route, flagged]
  forced score openai labels hasIpClaim human := by
    by_cases minors : "sexual/minors" ∈ openai.flaggedCategories
    · simp [route, minors]
    · have some_reason := forcedReason_isSome minors human
      constructor
      · intro allow
        rw [route_allow_iff] at allow
        rw [allow.2.2] at some_reason
        cases some_reason
      · simp [route, minors, some_reason]

theorem scoring_laws_default : ScoringLaws {} := scoring_laws (by norm_num)

end ColabPlatform.Moderation
