import ColabPlatform.Foundation.Maxima
import ColabPlatform.Foundation.OrderedDict
import Mathlib.Algebra.BigOperators.Group.List.Basic
import Mathlib.Algebra.Order.Field.Rat

/-!
# Profile service: the personality quiz

The answers of a quiz add up to a score for each archetype.  Among the archetypes with the
greatest one, the weights of two questions are to decide, and then the position.
-/

namespace ColabPlatform.Profiles

open Foundation

def archetypes : List String :=
  ["architect", "craftsperson", "mystic", "maverick", "connector", "storyteller", "producer",
    "showrunner"]

def tieBreakQuestions : List String := ["work_pace", "collab_role"]

/-! ## The quiz -/

/-- The weights of an answer, by archetype. -/
structure WeightMap where
  items : OrderedDict String ℚ
  keys_nodup : (items.map Prod.fst).Nodup
  deriving DecidableEq

namespace WeightMap

def empty : WeightMap := ⟨[], List.nodup_nil⟩

def get? (weights : WeightMap) (archetype : String) : Option ℚ :=
  List.lookup archetype weights.items

/-- `weights.get(archetype, 0.0)` -/
def get (weights : WeightMap) (archetype : String) : ℚ := (weights.get? archetype).getD 0

/-- `archetype in weights` -/
def lists (weights : WeightMap) (archetype : String) : Bool := (weights.get? archetype).isSome

end WeightMap

structure QuizOption where
  answerKey : String
  weights : Option WeightMap

structure QuizQuestion where
  questionKey : String
  options : List QuizOption

structure QuizAnswer where
  questionKey : String
  answerKey : String
  deriving DecidableEq, Repr

/-- `q_map` -/
def qMap (questions : List QuizQuestion) : OrderedDict String (OrderedDict String WeightMap) :=
  OrderedDict.ofItems (questions.map fun q =>
    (q.questionKey, OrderedDict.ofItems (q.options.map fun opt =>
      (opt.answerKey, opt.weights.getD .empty))))

/-- The weights of the option that an answer chooses. -/
def chosen (questions : List QuizQuestion) (ans : QuizAnswer) : WeightMap :=
  (List.lookup ans.answerKey
    ((List.lookup ans.questionKey (qMap questions)).getD [])).getD .empty

/-! ## The scores -/

structure Tally where
  scores : OrderedDict String ℚ
  tieBreakScores : OrderedDict String WeightMap

def Tally.initial : Tally := ⟨archetypes.map fun a => (a, 0), []⟩

def addWeight (scores : OrderedDict String ℚ) (item : String × ℚ) : OrderedDict String ℚ :=
  match List.lookup item.1 scores with
  | some score => scores.insert item.1 (score + item.2)
  | none => scores

def Tally.count (questions : List QuizQuestion) (tally : Tally) (ans : QuizAnswer) : Tally :=
  let weights := chosen questions ans
  { scores := weights.items.foldl addWeight tally.scores
    tieBreakScores :=
      if ans.questionKey ∈ tieBreakQuestions then
        tally.tieBreakScores.insert ans.questionKey weights
      else tally.tieBreakScores }

/-- The archetypes with the greatest score, in the order of the scores. -/
def candidates (scores : OrderedDict String ℚ) : List String :=
  match (scores.map Prod.snd).max? with
  | some maxScore => (scores.filter fun item => item.2 = maxScore).map Prod.fst
  | none => []

/-- The first of the archetypes with the greatest weight among those that are listed. -/
def bestListed (weights : WeightMap) (tied : List String) : Option String :=
  (tied.filter weights.lists).argmax weights.get

def tieBreak (tieBreakScores : OrderedDict String WeightMap) (tied : List String) :
    List String → Option String
  | [] => none
  | question :: questions =>
      (bestListed ((List.lookup question tieBreakScores).getD .empty) tied).or
        (tieBreak tieBreakScores tied questions)

def scoreQuiz (answers : List QuizAnswer) (questions : List QuizQuestion) :
    Option (String × OrderedDict String ℚ) :=
  let tally := answers.foldl (Tally.count questions) .initial
  match candidates tally.scores with
  | [] => none
  | [winner] => some (winner, tally.scores)
  | first :: others =>
      some ((tieBreak tally.tieBreakScores (first :: others) tieBreakQuestions).getD first,
        tally.scores)

/-! ## What decides -/

/-- What the winner of a quiz depends on. -/
structure Criteria where
  total : String → ℚ
  workPace : WeightMap
  collabRole : WeightMap

/-- The weights of the answer to a question. -/
def answerTo (answers : List QuizAnswer) (questions : List QuizQuestion) (question : String) :
    WeightMap :=
  ((answers.find? fun ans => ans.questionKey = question).map (chosen questions)).getD .empty

def criteria (answers : List QuizAnswer) (questions : List QuizQuestion) : Criteria where
  total a := (answers.map fun ans => (chosen questions ans).get a).sum
  workPace := answerTo answers questions "work_pace"
  collabRole := answerTo answers questions "collab_role"

namespace Criteria

/-- The archetypes with the greatest total. -/
def tied (c : Criteria) : List String :=
  archetypes.filter fun a => archetypes.all fun b => c.total b ≤ c.total a

def winner (c : Criteria) : Option String :=
  c.tied.head?.map fun first =>
    ((bestListed c.workPace c.tied).or (bestListed c.collabRole c.tied)).getD first

/-- `b` comes after `a` by collab_role, and then by position. -/
def BehindInRole (c : Criteria) (a b : String) : Prop :=
  c.collabRole.get b < c.collabRole.get a ∨
    c.collabRole.get b = c.collabRole.get a ∧ archetypes.idxOf a ≤ archetypes.idxOf b

/-- `b` comes after `a` by work_pace, and then by collab_role. -/
def Behind (c : Criteria) (a b : String) : Prop :=
  c.workPace.get b < c.workPace.get a ∨
    c.workPace.get b = c.workPace.get a ∧ c.BehindInRole a b

/-- The documented winner has the greatest total, and all others with it are behind. -/
def Documented (c : Criteria) (a : String) : Prop :=
  a ∈ c.tied ∧ ∀ b ∈ c.tied, c.Behind a b

instance (c : Criteria) : DecidableRel c.BehindInRole :=
  fun _ _ => inferInstanceAs (Decidable (_ ∨ _))

instance (c : Criteria) : DecidableRel c.Behind :=
  fun _ _ => inferInstanceAs (Decidable (_ ∨ _))

instance (c : Criteria) : DecidablePred c.Documented :=
  fun _ => inferInstanceAs (Decidable (_ ∧ _))

end Criteria

/-- The first of the tied archetypes that have the greatest weight among those that are listed. -/
structure FirstListed (weights : WeightMap) (tied : List String) (a : String) : Prop where
  mem : a ∈ tied
  listed : weights.lists a
  greatest : ∀ b ∈ tied, weights.lists b → weights.get b ≤ weights.get a
  first : ∀ b ∈ tied, weights.lists b → weights.get b = weights.get a →
    archetypes.idxOf a ≤ archetypes.idxOf b

/-- Whatever ties with the first listed archetype in work_pace is behind it in collab_role or in
position, and without one listed in work_pace, whatever ties with the first one listed in
collab_role is behind it in position. -/
structure Criteria.Decisive (c : Criteria) : Prop where
  workPace : ∀ a, FirstListed c.workPace c.tied a →
    ∀ b ∈ c.tied, c.workPace.get b = c.workPace.get a → c.BehindInRole a b
  collabRole : (∀ a ∈ c.tied, c.workPace.lists a = false) →
    ∀ a, FirstListed c.collabRole c.tied a →
      ∀ b ∈ c.tied, c.collabRole.get b = c.collabRole.get a →
        archetypes.idxOf a ≤ archetypes.idxOf b

/-! ## The scores are the totals -/

theorem addWeight_map (f : String → ℚ) (item : String × ℚ) :
    addWeight (archetypes.map fun a => (a, f a)) item =
      archetypes.map fun a => (a, if a = item.1 then f a + item.2 else f a) := by
  unfold addWeight
  rw [OrderedDict.lookup_map]
  by_cases known : item.1 ∈ archetypes
  · simp only [if_pos known]
    rw [OrderedDict.insert_map known]
    refine List.map_congr_left fun a _ => ?_
    by_cases same : a = item.1
    · subst same
      simp
    · simp [same]
  · simp only [if_neg known]
    refine List.map_congr_left fun a mem => ?_
    have other : a ≠ item.1 := fun same => known (same ▸ mem)
    rw [if_neg other]

theorem foldl_addWeight (f : String → ℚ) {items : List (String × ℚ)}
    (distinct : (items.map Prod.fst).Nodup) :
    items.foldl addWeight (archetypes.map fun a => (a, f a)) =
      archetypes.map fun a => (a, f a + (List.lookup a items).getD 0) := by
  induction items generalizing f with
  | nil => simp
  | cons item items ih =>
      rw [List.map_cons, List.nodup_cons] at distinct
      rw [List.foldl_cons, addWeight_map, ih _ distinct.2]
      refine List.map_congr_left fun a _ => ?_
      rw [OrderedDict.lookup_cons]
      by_cases same : a = item.1
      · have absent : List.lookup a items = none := by
          refine List.lookup_eq_none_iff.2 fun other mem => ?_
          have apart : a ≠ other.1 := fun eq =>
            distinct.1 (List.mem_map.2 ⟨other, mem, (same ▸ eq).symm⟩)
          simpa using apart
        simp [same, same ▸ absent]
      · simp [same]

section Quiz

variable (questions : List QuizQuestion)

theorem scores_count (f : String → ℚ) (answers : List QuizAnswer)
    (tieBreakScores : OrderedDict String WeightMap) :
    (answers.foldl (Tally.count questions)
        ⟨archetypes.map fun a => (a, f a), tieBreakScores⟩).scores =
      archetypes.map fun a =>
        (a, f a + (answers.map fun ans => (chosen questions ans).get a).sum) := by
  induction answers generalizing f tieBreakScores with
  | nil => simp
  | cons ans answers ih =>
      rw [List.foldl_cons, Tally.count]
      dsimp only
      rw [foldl_addWeight f (chosen questions ans).keys_nodup, ih]
      refine List.map_congr_left fun a _ => ?_
      rw [List.map_cons, List.sum_cons, ← add_assoc]
      rfl

theorem tieBreakScores_count {question : String} (decides : question ∈ tieBreakQuestions)
    {answers : List QuizAnswer} (distinct : (answers.map QuizAnswer.questionKey).Nodup)
    (tally : Tally) :
    List.lookup question (answers.foldl (Tally.count questions) tally).tieBreakScores =
      ((answers.find? fun ans => ans.questionKey = question).map (chosen questions)).or
        (List.lookup question tally.tieBreakScores) := by
  induction answers generalizing tally with
  | nil => simp
  | cons ans answers ih =>
      rw [List.map_cons, List.nodup_cons] at distinct
      rw [List.foldl_cons, ih distinct.2, List.find?_cons]
      by_cases same : ans.questionKey = question
      · have absent : (answers.find? fun ans => ans.questionKey = question) = none := by
          refine List.find?_eq_none.2 fun other mem => ?_
          have apart : other.questionKey ≠ question := fun eq =>
            distinct.1 (List.mem_map.2 ⟨other, mem, eq.trans same.symm⟩)
          simpa using apart
        rw [absent, Tally.count]
        simp [same, decides, OrderedDict.lookup_insert]
      · have kept : List.lookup question (Tally.count questions tally ans).tieBreakScores =
            List.lookup question tally.tieBreakScores := by
          rw [Tally.count]
          dsimp only
          split
          · rw [OrderedDict.lookup_insert, if_neg (Ne.symm same)]
          · rfl
        simp [same, kept]

end Quiz

theorem candidates_map (f : String → ℚ) :
    candidates (archetypes.map fun a => (a, f a)) =
      archetypes.filter fun a => archetypes.all fun b => f b ≤ f a := by
  have values : (archetypes.map fun a => (a, f a)).map Prod.snd = archetypes.map f := by
    rw [List.map_map]
    rfl
  unfold candidates
  rw [values]
  cases found : (archetypes.map f).max? with
  | none =>
      have empty := congrArg List.length (List.max?_eq_none_iff.1 found)
      simp [archetypes] at empty
  | some maxScore =>
      obtain ⟨mem, greatest⟩ := List.max?_eq_some_iff.1 found
      obtain ⟨best, inside, rfl⟩ := List.mem_map.1 mem
      have upper : ∀ b ∈ archetypes, f b ≤ f best :=
        fun b known => greatest (f b) (List.mem_map_of_mem known)
      simp only
      rw [List.filter_map, List.map_map]
      refine (List.map_id' _).trans (List.filter_congr fun a known => ?_)
      rw [Function.comp_apply, Bool.eq_iff_iff, decide_eq_true_eq, List.all_eq_true]
      simp only [decide_eq_true_eq]
      constructor
      · exact fun same b other => same ▸ upper b other
      · exact fun top => le_antisymm (upper a known) (top best inside)

theorem Criteria.tied_ne_nil (c : Criteria) : c.tied ≠ [] := by
  intro nobody
  cases best : archetypes.argmax c.total with
  | none => cases List.argmax_eq_none.1 best
  | some a =>
      have top : a ∈ c.tied := by
        refine List.mem_filter.2 ⟨List.argmax_mem best, List.all_eq_true.2 fun b known => ?_⟩
        exact decide_eq_true (List.le_of_mem_argmax known best)
      rw [nobody] at top
      cases top

theorem bestListed_singleton (weights : WeightMap) (a : String) :
    bestListed weights [a] = none ∨ bestListed weights [a] = some a := by
  unfold bestListed
  cases listed : weights.lists a with
  | false => exact Or.inl (by simp [listed])
  | true => exact Or.inr (by simp [listed])

theorem scores_counted (questions : List QuizQuestion) (answers : List QuizAnswer) :
    (answers.foldl (Tally.count questions) .initial).scores =
      archetypes.map fun a => (a, (criteria answers questions).total a) := by
  rw [Tally.initial, scores_count questions (fun _ => 0)]
  simp only [zero_add]
  rfl

/-- What breaks a tie is the pace of work, and then the role in a collaboration. -/
theorem tieBreak_counted (questions : List QuizQuestion) {answers : List QuizAnswer}
    (distinct : (answers.map QuizAnswer.questionKey).Nodup) (tied : List String) :
    tieBreak (answers.foldl (Tally.count questions) .initial).tieBreakScores tied
        tieBreakQuestions =
      (bestListed (criteria answers questions).workPace tied).or
        (bestListed (criteria answers questions).collabRole tied) := by
  have decided : ∀ question ∈ tieBreakQuestions,
      (List.lookup question
        (answers.foldl (Tally.count questions) .initial).tieBreakScores).getD .empty =
        answerTo answers questions question := by
    intro question decides
    rw [tieBreakScores_count questions decides distinct, Tally.initial]
    simp only [List.lookup_nil, Option.or_none]
    rfl
  rw [tieBreakQuestions, tieBreak, tieBreak, tieBreak, Option.or_none,
    decided "work_pace" (by decide), decided "collab_role" (by decide)]
  rfl

/-- The quiz is decided by its criteria. -/
theorem scoreQuiz_eq (questions : List QuizQuestion) {answers : List QuizAnswer}
    (distinct : (answers.map QuizAnswer.questionKey).Nodup) :
    scoreQuiz answers questions =
      (criteria answers questions).winner.map fun winner =>
        (winner, archetypes.map fun a => (a, (criteria answers questions).total a)) := by
  unfold scoreQuiz
  dsimp only
  rw [scores_counted, candidates_map]
  unfold Criteria.winner
  change (match (criteria answers questions).tied with
    | [] => _
    | [winner] => _
    | first :: others => _) = _
  cases (criteria answers questions).tied with
  | nil => rfl
  | cons first others =>
      cases others with
      | nil =>
          rcases bestListed_singleton (criteria answers questions).workPace first with h | h
          · rcases bestListed_singleton (criteria answers questions).collabRole first with h' | h'
            · simp [h, h']
            · simp [h, h']
          · simp [h]
      | cons second others => simp [tieBreak_counted questions distinct]

/-! ## When the documented rule holds -/

namespace Criteria

variable {c : Criteria} {weights : WeightMap} {a b : String}

theorem idxOf_tied_le_iff (mem : a ∈ c.tied) (mem' : b ∈ c.tied) :
    c.tied.idxOf a ≤ c.tied.idxOf b ↔ archetypes.idxOf a ≤ archetypes.idxOf b :=
  idxOf_filter_le_iff mem mem'

theorem bestListed_eq_some_iff :
    bestListed weights c.tied = some a ↔ FirstListed weights c.tied a := by
  unfold bestListed
  rw [List.argmax_eq_some_iff]
  have position : ∀ {a b}, a ∈ c.tied.filter weights.lists → b ∈ c.tied.filter weights.lists →
      ((c.tied.filter weights.lists).idxOf a ≤ (c.tied.filter weights.lists).idxOf b ↔
        archetypes.idxOf a ≤ archetypes.idxOf b) := by
    intro a b mem mem'
    rw [idxOf_filter_le_iff mem mem']
    exact idxOf_tied_le_iff (List.mem_of_mem_filter mem) (List.mem_of_mem_filter mem')
  constructor
  · rintro ⟨mem, greatest, first⟩
    obtain ⟨inside, listed⟩ := List.mem_filter.1 mem
    refine ⟨inside, listed, fun b top shown => greatest b (List.mem_filter.2 ⟨top, shown⟩), ?_⟩
    intro b top shown same
    have mem' := List.mem_filter.2 ⟨top, shown⟩
    exact (position mem mem').1 (first b mem' same.ge)
  · intro h
    have mem := List.mem_filter.2 ⟨h.mem, h.listed⟩
    refine ⟨mem, ?_, ?_⟩
    · intro b mem'
      exact h.greatest b (List.mem_filter.1 mem').1 (List.mem_filter.1 mem').2
    · intro b mem' le
      obtain ⟨top, shown⟩ := List.mem_filter.1 mem'
      exact (position mem mem').2 (h.first b top shown (le_antisymm (h.greatest b top shown) le))

theorem bestListed_eq_none_iff :
    bestListed weights c.tied = none ↔ ∀ a ∈ c.tied, weights.lists a = false := by
  unfold bestListed
  rw [List.argmax_eq_none, List.filter_eq_nil_iff]
  simp only [Bool.not_eq_true]

/-- A missing weight counts as 0. -/
theorem get_of_unlisted (unlisted : weights.lists a = false) : weights.get a = 0 := by
  rw [WeightMap.lists, Option.isSome_eq_false_iff, Option.isNone_iff_eq_none] at unlisted
  rw [WeightMap.get, unlisted, Option.getD_none]

theorem FirstListed.get_le (first : FirstListed weights c.tied a)
    (nonneg : ∀ a, 0 ≤ weights.get a) (top : b ∈ c.tied) : weights.get b ≤ weights.get a := by
  cases listed : weights.lists b with
  | true => exact first.greatest b top listed
  | false =>
      rw [get_of_unlisted listed]
      exact nonneg a

theorem documented_of_workPace (nonneg : ∀ a, 0 ≤ c.workPace.get a)
    (first : FirstListed c.workPace c.tied a) : c.Documented a ↔ c.Decisive := by
  constructor
  · rintro ⟨-, beats⟩
    refine ⟨fun a' first' b top same => ?_, fun none => ?_⟩
    · obtain rfl : a = a' := Option.some.inj
        ((bestListed_eq_some_iff.2 first).symm.trans (bestListed_eq_some_iff.2 first'))
      rcases beats b top with less | ⟨-, behind⟩
      · exact absurd same less.ne
      · exact behind
    · exact absurd first.listed (by simp [none a first.mem])
  · intro decisive
    refine ⟨first.mem, fun b top => ?_⟩
    rcases lt_or_eq_of_le (FirstListed.get_le first nonneg top) with less | same
    · exact Or.inl less
    · exact Or.inr ⟨same, decisive.workPace a first b top same⟩

theorem documented_of_collabRole (nonneg : ∀ a, 0 ≤ c.collabRole.get a)
    (none : ∀ a ∈ c.tied, c.workPace.lists a = false)
    (first : FirstListed c.collabRole c.tied a) : c.Documented a ↔ c.Decisive := by
  have equal : ∀ b ∈ c.tied, c.workPace.get b = c.workPace.get a := fun b top => by
    rw [get_of_unlisted (none b top), get_of_unlisted (none a first.mem)]
  constructor
  · rintro ⟨-, beats⟩
    refine ⟨fun a' first' => ?_, fun _ a' first' b top same => ?_⟩
    · exact absurd first'.listed (by simp [none a' first'.mem])
    · obtain rfl : a = a' := Option.some.inj
        ((bestListed_eq_some_iff.2 first).symm.trans (bestListed_eq_some_iff.2 first'))
      rcases beats b top with less | ⟨-, less | ⟨-, behind⟩⟩
      · exact absurd (equal b top) less.ne
      · exact absurd same less.ne
      · exact behind
  · intro decisive
    refine ⟨first.mem, fun b top => Or.inr ⟨equal b top, ?_⟩⟩
    rcases lt_or_eq_of_le (FirstListed.get_le first nonneg top) with less | same
    · exact Or.inl less
    · exact Or.inr ⟨same, decisive.collabRole none a first b top same⟩

/-- Without a listed archetype all weights are 0, and the first position decides. -/
theorem documented_of_unlisted (none : ∀ a ∈ c.tied, c.workPace.lists a = false)
    (none' : ∀ a ∈ c.tied, c.collabRole.lists a = false) (head : c.tied.head? = some a) :
    c.Documented a ↔ c.Decisive := by
  have top : a ∈ c.tied := List.mem_of_mem_head? head
  have zero : c.tied.idxOf a = 0 := by
    obtain ⟨others, tied⟩ := List.head?_eq_some_iff.1 head
    rw [tied, List.idxOf_cons_self]
  refine iff_of_true ⟨top, fun b top' => Or.inr ⟨?_, Or.inr ⟨?_, ?_⟩⟩⟩ ⟨?_, ?_⟩
  · rw [get_of_unlisted (none b top'), get_of_unlisted (none a top)]
  · rw [get_of_unlisted (none' b top'), get_of_unlisted (none' a top)]
  · rw [← idxOf_tied_le_iff top top', zero]
    exact Nat.zero_le _
  · exact fun a' first => absurd first.listed (by simp [none a' first.mem])
  · exact fun _ a' first => absurd first.listed (by simp [none' a' first.mem])

theorem winner_documented_iff (nonneg : ∀ a, 0 ≤ c.workPace.get a)
    (nonneg' : ∀ a, 0 ≤ c.collabRole.get a) :
    (∃ a, c.winner = some a ∧ c.Documented a) ↔ c.Decisive := by
  cases head : c.tied.head? with
  | none => exact absurd (List.head?_eq_none_iff.1 head) c.tied_ne_nil
  | some first =>
      unfold winner
      rw [head]
      simp only [Option.map_some, Option.some.injEq, exists_eq_left']
      cases paced : bestListed c.workPace c.tied with
      | some a => exact documented_of_workPace nonneg (bestListed_eq_some_iff.1 paced)
      | none =>
          have unpaced := bestListed_eq_none_iff.1 paced
          cases cast : bestListed c.collabRole c.tied with
          | some a =>
              exact documented_of_collabRole nonneg' unpaced (bestListed_eq_some_iff.1 cast)
          | none =>
              exact documented_of_unlisted unpaced (bestListed_eq_none_iff.1 cast) head

/-! ## What does not matter -/

/-- Criteria with the same totals and the same weights. -/
structure Same (c c' : Criteria) : Prop where
  total : c.total = c'.total
  workPace : c.workPace.get? = c'.workPace.get?
  collabRole : c.collabRole.get? = c'.collabRole.get?

theorem bestListed_congr {weights weights' : WeightMap} (same : weights.get? = weights'.get?)
    (tied : List String) : bestListed weights tied = bestListed weights' tied := by
  have lists : weights.lists = weights'.lists := by
    funext a
    rw [WeightMap.lists, WeightMap.lists, same]
  have get : weights.get = weights'.get := by
    funext a
    rw [WeightMap.get, WeightMap.get, same]
  unfold bestListed
  rw [lists, get]

theorem Same.winner {c c' : Criteria} (same : Same c c') : c.winner = c'.winner := by
  have tied : c.tied = c'.tied := by
    unfold Criteria.tied
    rw [same.total]
  unfold Criteria.winner
  rw [tied, bestListed_congr same.workPace, bestListed_congr same.collabRole]

end Criteria

/-- Weight maps with the same items in another order. -/
def WeightMap.Reordered (weights weights' : WeightMap) : Prop :=
  weights.items.Perm weights'.items

/-- The same question, with weight maps in another order. -/
structure QuizQuestion.Reordered (question question' : QuizQuestion) : Prop where
  questionKey : question.questionKey = question'.questionKey
  options : List.Forall₂ (fun opt opt' => opt.answerKey = opt'.answerKey ∧
    Option.Rel WeightMap.Reordered opt.weights opt'.weights) question.options question'.options

theorem get?_of_reordered {weights weights' : WeightMap} (same : weights.Reordered weights') :
    weights.get? = weights'.get? := by
  funext a
  exact OrderedDict.lookup_perm same weights.keys_nodup a

theorem chosen_of_reordered {questions questions' : List QuizQuestion}
    (same : List.Forall₂ QuizQuestion.Reordered questions questions') (ans : QuizAnswer) :
    (chosen questions ans).Reordered (chosen questions' ans) := by
  have none : ∀ {found found' : Option WeightMap}, Option.Rel WeightMap.Reordered found found' →
      (found.getD .empty).Reordered (found'.getD .empty)
    | _, _, .none => List.Perm.refl _
    | _, _, .some related => related
  -- the dictionaries of two questions choose alike
  let alike (options options' : OrderedDict String WeightMap) : Prop :=
    ∀ key, Option.Rel WeightMap.Reordered (List.lookup key options) (List.lookup key options')
  have options : ∀ {question question' : QuizQuestion}, question.Reordered question' →
      alike (OrderedDict.ofItems (question.options.map fun opt =>
          (opt.answerKey, opt.weights.getD .empty)))
        (OrderedDict.ofItems (question'.options.map fun opt =>
          (opt.answerKey, opt.weights.getD .empty))) := by
    intro question question' reordered
    refine OrderedDict.rel_lookup_ofItems ?_
    rw [List.forall₂_map_left_iff, List.forall₂_map_right_iff]
    exact reordered.options.imp fun opt opt' both => ⟨both.1, none both.2⟩
  have asked : Option.Rel alike (List.lookup ans.questionKey (qMap questions))
      (List.lookup ans.questionKey (qMap questions')) := by
    refine OrderedDict.rel_lookup_ofItems ?_ ans.questionKey
    rw [List.forall₂_map_left_iff, List.forall₂_map_right_iff]
    exact same.imp fun question question' both => ⟨both.questionKey, options both⟩
  unfold chosen
  refine none ?_
  generalize List.lookup ans.questionKey (qMap questions) = found at asked ⊢
  generalize List.lookup ans.questionKey (qMap questions') = found' at asked ⊢
  cases asked with
  | none => exact .none
  | some related => exact related ans.answerKey

section Answers

variable {questions questions' : List QuizQuestion} {answers answers' : List QuizAnswer}

theorem answerTo_of_reordered (same : List.Forall₂ QuizQuestion.Reordered questions questions')
    (distinct : (answers.map QuizAnswer.questionKey).Nodup) (perm : answers.Perm answers')
    (question : String) :
    (answerTo answers questions question).get? =
      (answerTo answers' questions' question).get? := by
  have found : (answers.find? fun ans => ans.questionKey = question) =
      answers'.find? fun ans => ans.questionKey = question := by
    refine OrderedDict.find?_perm perm fun a mem b mem' first second => ?_
    exact List.inj_on_of_nodup_map distinct mem mem'
      ((of_decide_eq_true first).trans (of_decide_eq_true second).symm)
  unfold answerTo
  rw [← found]
  cases answers.find? fun ans => ans.questionKey = question with
  | none => rfl
  | some ans => exact get?_of_reordered (chosen_of_reordered same ans)

theorem criteria_same (same : List.Forall₂ QuizQuestion.Reordered questions questions')
    (distinct : (answers.map QuizAnswer.questionKey).Nodup) (perm : answers.Perm answers') :
    Criteria.Same (criteria answers questions) (criteria answers' questions') := by
  refine ⟨?_, answerTo_of_reordered same distinct perm _,
    answerTo_of_reordered same distinct perm _⟩
  funext a
  have get : ∀ ans, (chosen questions ans).get a = (chosen questions' ans).get a := fun ans => by
    rw [WeightMap.get, WeightMap.get, get?_of_reordered (chosen_of_reordered same ans)]
  have weights : (answers.map fun ans => (chosen questions ans).get a) =
      answers.map fun ans => (chosen questions' ans).get a :=
    List.map_congr_left fun ans _ => get ans
  simp only [criteria]
  rw [weights]
  exact (perm.map _).sum_eq

theorem scoreQuiz_of_reordered (same : List.Forall₂ QuizQuestion.Reordered questions questions')
    (distinct : (answers.map QuizAnswer.questionKey).Nodup) (perm : answers.Perm answers') :
    scoreQuiz answers' questions' = scoreQuiz answers questions := by
  have distinct' := ((perm.map QuizAnswer.questionKey).nodup_iff).1 distinct
  have decided := criteria_same same distinct perm
  rw [scoreQuiz_eq questions distinct, scoreQuiz_eq questions' distinct', decided.winner,
    decided.total]

/-- No option has a negative weight. -/
def NonNegative (questions : List QuizQuestion) : Prop :=
  ∀ q ∈ questions, ∀ opt ∈ q.options, ∀ item ∈ (opt.weights.getD .empty).items, 0 ≤ item.2

theorem chosen_nonneg (nonneg : NonNegative questions) (ans : QuizAnswer) :
    ∀ item ∈ (chosen questions ans).items, 0 ≤ item.2 := by
  unfold chosen
  cases asked : List.lookup ans.questionKey (qMap questions) with
  | none => simp [WeightMap.empty]
  | some options =>
      rw [qMap, OrderedDict.lookup_ofItems] at asked
      obtain ⟨q, known, same⟩ := List.mem_map.1 (OrderedDict.mem_of_lastValue asked)
      obtain ⟨-, rfl⟩ := Prod.mk.inj same
      rw [Option.getD_some, OrderedDict.lookup_ofItems]
      cases picked : OrderedDict.lastValue (q.options.map fun opt =>
          (opt.answerKey, opt.weights.getD .empty)) ans.answerKey with
      | none => simp [WeightMap.empty]
      | some weights =>
          obtain ⟨opt, offered, same⟩ := List.mem_map.1 (OrderedDict.mem_of_lastValue picked)
          obtain ⟨-, rfl⟩ := Prod.mk.inj same
          exact nonneg q known opt offered

theorem get_nonneg {weights : WeightMap} (nonneg : ∀ item ∈ weights.items, 0 ≤ item.2)
    (a : String) : 0 ≤ weights.get a := by
  unfold WeightMap.get
  cases found : weights.get? a with
  | none => exact le_rfl
  | some weight => exact nonneg _ (OrderedDict.mem_of_lookup found)

theorem answerTo_nonneg (nonneg : NonNegative questions) (question a : String) :
    0 ≤ (answerTo answers questions question).get a := by
  refine get_nonneg ?_ a
  unfold answerTo
  cases answers.find? fun ans => ans.questionKey = question with
  | none => simp [WeightMap.empty]
  | some ans => exact chosen_nonneg nonneg ans

/-- The quiz returns the documented winner, whatever the order of the answers and of the weights,
exactly when the tie-break is decisive. -/
theorem score_quiz_documented_iff (nonneg : NonNegative questions)
    (distinct : (answers.map QuizAnswer.questionKey).Nodup) :
    ((∃ a scores, scoreQuiz answers questions = some (a, scores) ∧
        (criteria answers questions).Documented a) ∧
      ∀ answers' questions', answers.Perm answers' →
        List.Forall₂ QuizQuestion.Reordered questions questions' →
          scoreQuiz answers' questions' = scoreQuiz answers questions) ↔
      (criteria answers questions).Decisive := by
  have unordered : ∀ answers' questions', answers.Perm answers' →
      List.Forall₂ QuizQuestion.Reordered questions questions' →
        scoreQuiz answers' questions' = scoreQuiz answers questions :=
    fun _ _ perm same => scoreQuiz_of_reordered same distinct perm
  have decided : (∃ a, (criteria answers questions).winner = some a ∧
      (criteria answers questions).Documented a) ↔ (criteria answers questions).Decisive :=
    Criteria.winner_documented_iff (answerTo_nonneg nonneg "work_pace")
      (answerTo_nonneg nonneg "collab_role")
  rw [and_iff_left unordered, ← decided, scoreQuiz_eq questions distinct]
  constructor
  · rintro ⟨a, scores, returned, documented⟩
    obtain ⟨winner, won, same⟩ := Option.map_eq_some_iff.1 returned
    exact ⟨a, (Prod.mk.inj same).1 ▸ won, documented⟩
  · rintro ⟨a, won, documented⟩
    exact ⟨a, _, by rw [won, Option.map_some], documented⟩

end Answers

/-! ## Two archetypes with the same weight in work_pace -/

/-- A question with one option, that weighs these archetypes with 1. -/
def evenQuestion (questionKey : String) (listed : List String) (distinct : listed.Nodup) :
    QuizQuestion :=
  ⟨questionKey, [⟨"a", some ⟨listed.map fun a => (a, 1), by
    simpa [List.map_map, Function.comp_def] using distinct⟩⟩]⟩

def evenQuestions : List QuizQuestion :=
  [evenQuestion "work_pace" ["architect", "mystic"] (by decide),
    evenQuestion "collab_role" ["mystic"] (by decide),
    evenQuestion "energy_source" ["architect"] (by decide)]

def evenAnswers : List QuizAnswer :=
  [⟨"work_pace", "a"⟩, ⟨"energy_source", "a"⟩, ⟨"collab_role", "a"⟩]

theorem score_quiz_documented_iff_two_answers :
    (∃ a scores, scoreQuiz (evenAnswers.take 2) evenQuestions = some (a, scores) ∧
        (criteria (evenAnswers.take 2) evenQuestions).Documented a) ∧
      ∀ answers' questions', (evenAnswers.take 2).Perm answers' →
        List.Forall₂ QuizQuestion.Reordered evenQuestions questions' →
          scoreQuiz answers' questions' = scoreQuiz (evenAnswers.take 2) evenQuestions := by
  refine (score_quiz_documented_iff ?_ (by decide)).2 ?_
  · unfold NonNegative
    decide +kernel
  · have alone : (criteria (evenAnswers.take 2) evenQuestions).tied = ["architect"] := by
      decide +kernel
    constructor
    · intro a first b top _
      obtain rfl := List.mem_singleton.1 (alone ▸ first.mem)
      obtain rfl := List.mem_singleton.1 (alone ▸ top)
      exact Or.inr ⟨rfl, le_rfl⟩
    · intro _ a first b top _
      obtain rfl := List.mem_singleton.1 (alone ▸ first.mem)
      obtain rfl := List.mem_singleton.1 (alone ▸ top)
      exact le_rfl

/-- The weights in collab_role are not looked at. -/
theorem equal_pace_is_not_broken :
    (scoreQuiz evenAnswers evenQuestions).map Prod.fst = some "architect" ∧
      (criteria evenAnswers evenQuestions).Documented "mystic" ∧
      ¬ (criteria evenAnswers evenQuestions).Documented "architect" := by
  decide +kernel

end ColabPlatform.Profiles
