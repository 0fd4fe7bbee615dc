import ColabPlatform.Collabs.Model
import ColabPlatform.Foundation.Paging
import Mathlib.Data.List.Range

/-!
# Collab service: rebalancing the tasks

`rebalance_order_keys` gives the tasks of a collaboration single letters as their new keys,
in the order of the old ones.  There are twenty-five letters to give away.
-/

namespace ColabPlatform.Collabs

open Foundation
open Billing (Uuid Timestamp)

/-! ## The listing -/

def letter (k : Nat) : String :=
  String.ofList (("abcdefghijklmnopqrstuvwxyz".toList[k]?).toList)

/-- The order of texts in the database, which has the letters in the order of the alphabet. -/
structure Collation where
  le : String → String → Prop
  total : ∀ a b, le a b ∨ le b a
  trans : ∀ a b c, le a b → le b c → le a c
  antisymm : ∀ a b, le a b → le b a → a = b
  letters : ∀ j < 26, ∀ i < j, le (letter i) (letter j)

/-- The tasks that `list_tasks` selects. -/
def CollabWorld.liveTasks (w : CollabWorld) : List Task := w.tasks.filter (·.deletedAt = none)

/-- A listing of `list_tasks` by `order_key`; tasks with one key come in any order. -/
def CollabWorld.ListedAs (w : CollabWorld) (collation : Collation) (listing : List Task) : Prop :=
  Lists (fun task task' => collation.le task.orderKey task'.orderKey) w.liveTasks listing

/-- The tasks of a listing as they were loaded and as they are set. -/
def balancedPairs (listing : List Task) : List (Task × Task) :=
  (listing.zip (generateBalancedKeys listing.length)).map fun pair =>
    (pair.1, { pair.1 with orderKey := pair.2 })

/-- The collaboration after `rebalance_order_keys`, when the tasks were listed so. -/
def CollabWorld.rebalance (w : CollabWorld) (listing : List Task) : CollabWorld :=
  (Change.setTasks (balancedPairs listing)).apply w

theorem rebalanced_eq (w : CollabWorld) :
    w.rebalanced = balancedPairs (w.liveTasks.insertionSort fun task task' =>
      task.orderKey ≤ task'.orderKey) := rfl

/-! ## The keys -/

def keyStep (n : Nat) : Nat := max 1 (26 / (n + 1))

theorem generateBalancedKeys_eq (n : Nat) :
    generateBalancedKeys n = (List.range n).map fun i => letter (min ((i + 1) * keyStep n) 25) :=
  rfl

@[simp] theorem length_generateBalancedKeys (n : Nat) : (generateBalancedKeys n).length = n := by
  simp [generateBalancedKeys_eq]

theorem letter_inj {i j : Nat} (hi : i < 26) (hj : j < 26) (same : letter i = letter j) :
    i = j := by
  have distinct : ∀ j < 26, ∀ i < 26, letter i = letter j → i = j := by decide +kernel
  exact distinct j hj i hi same

/-- With at most twenty-five tasks the last key is inside the alphabet. -/
theorem mul_keyStep_le {n : Nat} (few : n ≤ 25) : n * keyStep n ≤ 25 := by
  unfold keyStep
  rcases le_total (26 / (n + 1)) 1 with one | more
  · rw [max_eq_left one]
    omega
  · rw [max_eq_right more]
    have whole := Nat.mul_div_le 26 (n + 1)
    rw [Nat.add_mul, Nat.one_mul] at whole
    omega

theorem keyStep_of_many {n : Nat} (many : 25 < n) : keyStep n = 1 := by
  have none : 26 / (n + 1) ≤ 1 := by
    rw [Nat.div_le_iff_le_mul_add_pred (by omega)]
    omega
  exact max_eq_left none

theorem keys_pairwise {n : Nat} (few : n ≤ 25) (collation : Collation) :
    (generateBalancedKeys n).Pairwise fun key key' => collation.le key key' ∧ key ≠ key' := by
  rw [generateBalancedKeys_eq, List.pairwise_map]
  have last := mul_keyStep_le few
  have pos : 1 ≤ keyStep n := le_max_left _ _
  refine (List.pairwise_lt_range (n := n)).imp_of_mem ?_
  intro i j hi hj less
  rw [List.mem_range] at hi hj
  have inside : (j + 1) * keyStep n ≤ n * keyStep n := Nat.mul_le_mul_right _ hj
  have ahead : (i + 1) * keyStep n < (j + 1) * keyStep n := Nat.mul_lt_mul_of_pos_right (by omega) pos
  rw [Nat.min_eq_left (by omega), Nat.min_eq_left (by omega)]
  refine ⟨collation.letters _ (by omega) _ ahead, fun same => ?_⟩
  exact absurd (letter_inj (by omega) (by omega) same) (by omega)

theorem keys_not_nodup {n : Nat} (many : 25 < n) : ¬ (generateBalancedKeys n).Nodup := by
  intro distinct
  rw [generateBalancedKeys_eq, keyStep_of_many many] at distinct
  have same := List.inj_on_of_nodup_map distinct (List.mem_range.2 (by omega : 24 < n))
    (List.mem_range.2 (by omega : 25 < n)) rfl
  omega

/-! ## What a rebalancing stores -/

/-- What becomes of a task when loaded tasks are set one after another. -/
def setTo (pairs : List (Task × Task)) (task : Task) : Task :=
  pairs.foldl (fun task pair => if task.id = pair.1.id then pair.1.flush pair.2 task else task) task

theorem foldl_setTask (pairs : List (Task × Task)) (tasks : List Task) :
    pairs.foldl setTask tasks = tasks.map (setTo pairs) := by
  induction pairs generalizing tasks with
  | nil => exact (List.map_id' tasks).symm
  | cons pair pairs ih =>
      rw [List.foldl_cons, ih, setTask, List.map_map]
      rfl

theorem setTo_of_not_mem {pairs : List (Task × Task)} {task : Task}
    (other : ∀ pair ∈ pairs, task.id ≠ pair.1.id) : setTo pairs task = task := by
  induction pairs with
  | nil => rfl
  | cons pair pairs ih =>
      rw [setTo, List.foldl_cons, if_neg (other pair List.mem_cons_self)]
      exact ih fun pair mem => other pair (List.mem_cons_of_mem _ mem)

theorem flush_orderKey (task : Task) (key : String) :
    task.flush { task with orderKey := key } task = { task with orderKey := key } := by
  have stored : written task.orderKey key task.orderKey = key := by
    unfold written
    split
    · rename_i same
      exact same.symm
    · rfl
  simp [Task.flush, written] at stored ⊢
  exact stored

theorem flush_unchanged (loaded stored : Task) : loaded.flush loaded stored = stored := by
  simp [Task.flush, written]

theorem setTo_of_unchanged {pairs : List (Task × Task)}
    (unchanged : ∀ pair ∈ pairs, pair.2 = pair.1) (task : Task) : setTo pairs task = task := by
  induction pairs generalizing task with
  | nil => rfl
  | cons pair pairs ih =>
      have rest := fun pair mem => unchanged pair (List.mem_cons_of_mem _ mem)
      rw [setTo, List.foldl_cons, unchanged pair List.mem_cons_self]
      split
      · rw [flush_unchanged]
        exact ih rest task
      · exact ih rest task

/-- A pair sets the key of a task and nothing else. -/
def SetsKey (pair : Task × Task) : Prop := ∃ key, pair.2 = { pair.1 with orderKey := key }

theorem setTo_of_mem {pairs : List (Task × Task)} {pair : Task × Task} (mem : pair ∈ pairs)
    (keys : ∀ pair ∈ pairs, SetsKey pair)
    (distinct : (pairs.map fun pair => pair.1.id).Nodup) : setTo pairs pair.1 = pair.2 := by
  induction pairs with
  | nil => cases mem
  | cons first pairs ih =>
      rw [List.map_cons, List.nodup_cons] at distinct
      rw [setTo, List.foldl_cons]
      by_cases same : pair.1.id = first.1.id
      · have here : pair = first := by
          refine (List.mem_cons.1 mem).resolve_right fun later => distinct.1 ?_
          exact same ▸ List.mem_map_of_mem later
        obtain ⟨key, set⟩ := keys first List.mem_cons_self
        rw [if_pos same, here, set, flush_orderKey]
        refine setTo_of_not_mem fun other later => ?_
        intro again
        exact distinct.1 (List.mem_map.2 ⟨other, later, again.symm⟩)
      · have later : pair ∈ pairs :=
          (List.mem_cons.1 mem).resolve_left fun eq => same (eq ▸ rfl)
        rw [if_neg same]
        exact ih later (fun pair mem => keys pair (List.mem_cons_of_mem _ mem)) distinct.2

section Pairs

variable (listing : List Task)

theorem map_fst_balancedPairs : (balancedPairs listing).map Prod.fst = listing := by
  rw [balancedPairs, List.map_map]
  exact List.map_fst_zip (by simp)

theorem map_orderKey_balancedPairs :
    ((balancedPairs listing).map Prod.snd).map Task.orderKey =
      generateBalancedKeys listing.length := by
  rw [balancedPairs, List.map_map, List.map_map]
  exact List.map_snd_zip (by simp)

theorem map_id_balancedPairs :
    ((balancedPairs listing).map Prod.snd).map Task.id = listing.map Task.id := by
  conv_rhs => rw [← map_fst_balancedPairs listing]
  rw [balancedPairs, List.map_map, List.map_map, List.map_map, List.map_map]
  rfl

/-- Tasks that have the keys already are set to what they are. -/
theorem unchanged_of_balanced (balanced : listing.map Task.orderKey =
    generateBalancedKeys listing.length) : ∀ pair ∈ balancedPairs listing, pair.2 = pair.1 := by
  intro pair mem
  have zipped : (listing.map id).zip (listing.map Task.orderKey) =
      listing.map fun task => (id task, task.orderKey) := List.zip_map'
  rw [List.map_id] at zipped
  rw [balancedPairs, ← balanced, zipped, List.map_map] at mem
  obtain ⟨task, -, rfl⟩ := List.mem_map.1 mem
  rfl

theorem setsKey_balancedPairs : ∀ pair ∈ balancedPairs listing, SetsKey pair := by
  intro pair mem
  obtain ⟨both, -, rfl⟩ := List.mem_map.1 mem
  exact ⟨both.2, rfl⟩

end Pairs

section Rebalance

variable {w : CollabWorld} {collation : Collation} {listing : List Task}

theorem tasks_rebalance (w : CollabWorld) (listing : List Task) :
    (w.rebalance listing).tasks = w.tasks.map (setTo (balancedPairs listing)) :=
  foldl_setTask _ _

/-- A rebalancing leaves the live tasks in the order of the listing, with the new keys. -/
theorem liveTasks_rebalance (ids : (w.tasks.map Task.id).Nodup)
    (listed : w.ListedAs collation listing) :
    (w.rebalance listing).liveTasks.Perm ((balancedPairs listing).map Prod.snd) := by
  have inside : ∀ pair ∈ balancedPairs listing, pair.1 ∈ w.liveTasks := fun pair mem =>
    listed.perm.subset (map_fst_balancedPairs listing ▸ List.mem_map_of_mem mem)
  have distinct : ((balancedPairs listing).map fun pair => pair.1.id).Nodup := by
    have live : (w.liveTasks.map Task.id).Nodup := (List.filter_sublist.map Task.id).nodup ids
    have same := (listed.perm.map Task.id).nodup_iff.2 live
    rw [← map_fst_balancedPairs listing, List.map_map] at same
    exact same
  have keeps : ∀ task ∈ w.tasks,
      (setTo (balancedPairs listing) task).deletedAt = task.deletedAt := by
    intro task stored
    by_cases known : ∃ pair ∈ balancedPairs listing, task.id = pair.1.id
    · obtain ⟨pair, mem, same⟩ := known
      obtain rfl := List.inj_on_of_nodup_map ids stored
        (List.mem_of_mem_filter (inside pair mem)) same
      obtain ⟨key, set⟩ := setsKey_balancedPairs listing pair mem
      rw [setTo_of_mem mem (setsKey_balancedPairs listing) distinct, set]
    · rw [setTo_of_not_mem fun pair mem same => known ⟨pair, mem, same⟩]
  have live : (w.rebalance listing).liveTasks =
      w.liveTasks.map (setTo (balancedPairs listing)) := by
    rw [CollabWorld.liveTasks, tasks_rebalance, List.filter_map, CollabWorld.liveTasks]
    refine congrArg _ (List.filter_congr fun task stored => ?_)
    rw [Function.comp_apply, keeps task stored]
  rw [live]
  have loaded : listing.map (setTo (balancedPairs listing)) =
      ((balancedPairs listing).map Prod.fst).map (setTo (balancedPairs listing)) := by
    rw [map_fst_balancedPairs]
  refine (listed.perm.symm.map _).trans (.of_eq (loaded.trans ?_))
  rw [List.map_map]
  exact List.map_congr_left fun pair mem =>
    setTo_of_mem mem (setsKey_balancedPairs listing) distinct

/-- The new keys of the live tasks. -/
theorem orderKeys_rebalance (ids : (w.tasks.map Task.id).Nodup)
    (listed : w.ListedAs collation listing) :
    ((w.rebalance listing).liveTasks.map Task.orderKey).Perm
      (generateBalancedKeys w.liveTasks.length) := by
  rw [← listed.perm.length_eq, ← map_orderKey_balancedPairs]
  exact (liveTasks_rebalance ids listed).map _

/-- With at most twenty-five tasks there is one listing afterwards. -/
theorem listing_rebalance (ids : (w.tasks.map Task.id).Nodup)
    (listed : w.ListedAs collation listing) (few : w.liveTasks.length ≤ 25)
    {listing' : List Task} (listed' : (w.rebalance listing).ListedAs collation listing') :
    listing' = (balancedPairs listing).map Prod.snd := by
  have size : listing.length ≤ 25 := listed.perm.length_eq ▸ few
  have sorted := keys_pairwise size collation
  rw [← map_orderKey_balancedPairs, List.pairwise_map] at sorted
  have distinct : (((balancedPairs listing).map Prod.snd).map Task.orderKey).Nodup :=
    List.pairwise_map.2 (sorted.imp And.right)
  refine ((listed'.perm.trans (liveTasks_rebalance ids listed))).eq_of_pairwise ?_ listed'.sorted
    (sorted.imp And.left)
  intro task task' mem mem' le ge
  have inside := (listed'.perm.trans (liveTasks_rebalance ids listed)).subset mem
  exact List.inj_on_of_nodup_map distinct inside mem' (collation.antisymm _ _ le ge)

theorem exists_listing (w : CollabWorld) (collation : Collation) :
    ∃ listing, w.ListedAs collation listing := by
  classical
  let before (task task' : Task) : Prop := collation.le task.orderKey task'.orderKey
  have : Std.Total before := ⟨fun task task' => collation.total _ _⟩
  have : IsTrans Task before := ⟨fun _ _ _ => collation.trans _ _ _⟩
  exact ⟨w.liveTasks.insertionSort before, List.perm_insertionSort _ _,
    List.pairwise_insertionSort _ _⟩

end Rebalance

/-! ## When the order is kept -/

/-- After a rebalancing the tasks are listed as before, their keys are distinct, and a second
rebalancing changes nothing. -/
structure KeepsOrder (w : CollabWorld) (collation : Collation) (listing : List Task) : Prop where
  order : ∀ listing', (w.rebalance listing).ListedAs collation listing' →
    listing'.map Task.id = listing.map Task.id
  distinct : ((w.rebalance listing).liveTasks.map Task.orderKey).Nodup
  again : ∀ listing', (w.rebalance listing).ListedAs collation listing' →
    ((w.rebalance listing).rebalance listing').tasks = (w.rebalance listing).tasks

section Order

variable {w : CollabWorld} {collation : Collation} {listing : List Task}

theorem keepsOrder_of_few (ids : (w.tasks.map Task.id).Nodup)
    (listed : w.ListedAs collation listing) (few : w.liveTasks.length ≤ 25) :
    KeepsOrder w collation listing := by
  have size : listing.length ≤ 25 := listed.perm.length_eq ▸ few
  refine ⟨?_, ?_, ?_⟩
  · intro listing' listed'
    rw [listing_rebalance ids listed few listed', map_id_balancedPairs]
  · rw [(orderKeys_rebalance ids listed).nodup_iff]
    exact (keys_pairwise few collation).imp And.right
  · intro listing' listed'
    obtain rfl := listing_rebalance ids listed few listed'
    have same : ((balancedPairs listing).map Prod.snd).length = listing.length := by
      simpa using congrArg List.length (map_fst_balancedPairs listing)
    have balanced := map_orderKey_balancedPairs listing
    rw [← same] at balanced
    rw [tasks_rebalance]
    exact (List.map_congr_left fun task _ =>
      setTo_of_unchanged (unchanged_of_balanced _ balanced) task).trans (List.map_id' _)

theorem not_keepsOrder_of_many (ids : (w.tasks.map Task.id).Nodup)
    (listed : w.ListedAs collation listing) (many : 25 < w.liveTasks.length) :
    ¬ KeepsOrder w collation listing := by
  intro keeps
  have distinct := keeps.distinct
  rw [(orderKeys_rebalance ids listed).nodup_iff] at distinct
  exact keys_not_nodup many distinct

/-- A rebalancing keeps the order exactly when there are no more tasks than letters to give. -/
theorem rebalance_keeps_order_iff (ids : (w.tasks.map Task.id).Nodup) :
    (∀ listing, w.ListedAs collation listing → KeepsOrder w collation listing) ↔
      w.liveTasks.length ≤ 25 := by
  constructor
  · intro keeps
    by_contra many
    obtain ⟨listing, listed⟩ := exists_listing w collation
    exact not_keepsOrder_of_many ids listed (Nat.not_le.1 many) (keeps listing listed)
  · exact fun few listing listed => keepsOrder_of_few ids listed few

end Order

/-! ## Twenty-six tasks -/

/-- The order of the code points. -/
def codePoints : Collation where
  le a b := a ≤ b
  total := String.le_total
  trans _ _ _ := String.le_trans
  antisymm _ _ := String.le_antisymm
  letters := by decide +kernel

def numbered (n : Nat) : Task where
  id := ⟨toString n⟩
  title := "task"
  description := none
  assigneeProfileId := none
  dueDate := none
  status := .todo
  orderKey := String.ofList (List.replicate n 'n')
  createdBy := ⟨"ana"⟩
  closedAt := none
  deletedAt := none

/-- A collaboration with tasks whose keys are distinct. -/
def boardOf (n : Nat) : CollabWorld where
  now := 0
  row :=
    { id := ⟨"duet"⟩, profileIdA := ⟨"ana"⟩, profileIdB := ⟨"bo"⟩, title := none,
      description := none, status := .inProgress, isReadOnly := false, lastActivityAt := 0,
      nudgeSentAt := none, archiveAt := none, archivedAt := none, completedAt := none }
  events := []
  tasks := (List.range n).map numbered
  comments := []
  ops := []
  queue := []
  published := []

theorem rebalance_keeps_order_iff_three :
    ((boardOf 3).rebalance (boardOf 3).tasks).tasks.map Task.orderKey = ["g", "m", "s"] ∧
      ∀ listing, (boardOf 3).ListedAs codePoints listing →
        KeepsOrder (boardOf 3) codePoints listing := by
  refine ⟨by decide +kernel, ?_⟩
  exact (rebalance_keeps_order_iff (by decide +kernel)).2 (by decide +kernel)

/-- The last two of twenty-six distinct keys become the same. -/
theorem twenty_six_tasks_clash :
    ((boardOf 26).liveTasks.map Task.orderKey).Nodup ∧
      ¬ ∀ listing, (boardOf 26).ListedAs codePoints listing →
        KeepsOrder (boardOf 26) codePoints listing := by
  refine ⟨by decide +kernel, fun keeps => ?_⟩
  obtain ⟨listing, listed⟩ := exists_listing (boardOf 26) codePoints
  exact not_keepsOrder_of_many (by decide +kernel) listed (by decide +kernel)
    (keeps listing listed)

end ColabPlatform.Collabs
