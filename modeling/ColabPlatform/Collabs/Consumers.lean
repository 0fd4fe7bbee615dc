import ColabPlatform.Collabs.Activity
import ColabPlatform.Common.PageCursor
import ColabPlatform.Foundation.Run

/-!
# Collaborations of matches

The consumers of collab-svc make one collaboration of two profiles, in whichever order they are
named and however often their match is announced, and freeze it when one of them blocks the
other.  A message that cannot be read or stored goes back to its queue.
-/

namespace ColabPlatform.Collabs

open Foundation Common
open Billing (Uuid Timestamp)

/-! ## Rows -/

/-- A row with the columns of `collaboration_participants_unique`. -/
structure PairedCollab extends Collaboration where
  leastParticipant : UuidInt
  greatestParticipant : UuidInt
  deriving DecidableEq, Repr

/-- The least and the greatest of two profiles. -/
def pairOf (profileIdA profileIdB : UuidInt) : UuidInt × UuidInt :=
  if profileIdB < profileIdA then (profileIdB, profileIdA) else (profileIdA, profileIdB)

theorem pairOf_eq_iff {a b c d : UuidInt} :
    pairOf a b = pairOf c d ↔ a = c ∧ b = d ∨ a = d ∧ b = c := by
  simp only [pairOf, Fin.lt_def]
  split <;> split <;> simp only [Prod.mk.injEq, Fin.ext_iff] <;> omega

def PairedCollab.pair (row : PairedCollab) : UuidInt × UuidInt :=
  (row.leastParticipant, row.greatestParticipant)

/-- `collab.created` -/
structure CollabCreated where
  collabId : Uuid
  profileIdA : UuidInt
  profileIdB : UuidInt
  matchId : UuidInt
  deriving DecidableEq, Repr

def CollabCreated.pair (created : CollabCreated) : UuidInt × UuidInt :=
  pairOf created.profileIdA created.profileIdB

structure CollabTables where
  collaborations : List PairedCollab
  published : List CollabCreated
  deriving DecidableEq, Repr

/-- What the database and the broker do while a message is handled, and what is drawn. -/
structure Handling where
  db : Bool
  broker : Bool
  now : Timestamp
  /-- `gen_random_uuid()` -/
  collabId : UuidInt
  /-- `uuid.uuid4()` -/
  matchId : UuidInt
  deriving DecidableEq, Repr

/-! ## Handlers -/

/-- `uuid.UUID(payload[name])` -/
def readId (payload : Json) (name : String) : Option UuidInt := do
  parseUuid (← (← payload.member name.toList).text?)

theorem readId_eq_none {payload : Json} {name : String}
    (absent : payload.member name.toList = none) : readId payload name = none := by
  rw [readId, absent]
  rfl

/-- `uuid.UUID(payload.get("match_id", str(uuid.uuid4())))` -/
def readMatchId (handling : Handling) (payload : Json) : Option UuidInt :=
  match payload.member "match_id".toList with
  | none => some handling.matchId
  | some _ => readId payload "match_id"

def newCollab (handling : Handling) (profileIdA profileIdB : UuidInt) : PairedCollab where
  id := ⟨uuidText handling.collabId⟩
  profileIdA := ⟨uuidText profileIdA⟩
  profileIdB := ⟨uuidText profileIdB⟩
  title := none
  description := none
  status := .stillDeciding
  isReadOnly := false
  lastActivityAt := handling.now
  nudgeSentAt := none
  archiveAt := none
  archivedAt := none
  completedAt := none
  leastParticipant := (pairOf profileIdA profileIdB).1
  greatestParticipant := (pairOf profileIdA profileIdB).2

namespace CollabTables

def empty : CollabTables := ⟨[], []⟩

def pairs (t : CollabTables) : List (UuidInt × UuidInt) := t.collaborations.map (·.pair)

def ids (t : CollabTables) : List Uuid := t.collaborations.map (·.id)

/-- `create_collaboration`: the row of the pair, and the rows with it. -/
def createCollaboration (t : CollabTables) (handling : Handling)
    (profileIdA profileIdB : UuidInt) : Option (PairedCollab × List PairedCollab) :=
  if handling.db then
    match t.collaborations.find? (·.pair = pairOf profileIdA profileIdB) with
    | some row => some (row, t.collaborations)
    | none =>
        let row := newCollab handling profileIdA profileIdB
        if row.id ∈ t.ids then none else some (row, t.collaborations ++ [row])
  else none

/-- `_handle_match_created` -/
def handleMatchCreated (t : CollabTables) (handling : Handling) (payload : Json) :
    Option CollabTables := do
  let profileIdA ← readId payload "profile_id_a"
  let profileIdB ← readId payload "profile_id_b"
  let matchId ← readMatchId handling payload
  let (collab, collaborations) ← t.createCollaboration handling profileIdA profileIdB
  return {
    collaborations
    published :=
      if handling.broker then t.published ++ [⟨collab.id, profileIdA, profileIdB, matchId⟩]
      else t.published }

end CollabTables

/-- `apply_block` for a row -/
def PairedCollab.applyBlock (now : Timestamp) (profileIdA profileIdB : UuidInt)
    (row : PairedCollab) : PairedCollab :=
  if row.pair = pairOf profileIdA profileIdB then
    { row with toCollaboration := (Change.block (now + days 30)).setRow row.toCollaboration }
  else row

namespace CollabTables

/-- `_handle_block_created` -/
def handleBlockCreated (t : CollabTables) (handling : Handling) (payload : Json) :
    Option CollabTables := do
  let blockerId ← readId payload "blocker_profile_id"
  let blockedId ← readId payload "blocked_profile_id"
  if handling.db then
    some { t with
      collaborations := t.collaborations.map (·.applyBlock handling.now blockerId blockedId) }
  else none

end CollabTables

/-- A message that is handled, or the task that archives a collaboration. -/
inductive CollabInput where
  | matchCreated (handling : Handling) (payload : Json)
  | blockCreated (handling : Handling) (payload : Json)
  | chatMessageSent (processing : Processing)
  | archiveFinalize (collabId : Uuid) (now : Timestamp)

namespace CollabInput

/-- What becomes of a row that is there. -/
def setRow (row : PairedCollab) : CollabInput → PairedCollab
  | matchCreated _ _ => row
  | blockCreated handling payload =>
      match readId payload "blocker_profile_id", readId payload "blocked_profile_id" with
      | some blockerId, some blockedId =>
          if handling.db then row.applyBlock handling.now blockerId blockedId else row
      | _, _ => row
  | chatMessageSent processing =>
      { row with toCollaboration := handleChatMessageSent row.toCollaboration processing }
  | archiveFinalize collabId now =>
      if row.id = collabId then
        { row with toCollaboration := (Change.archiveFinalize now).setRow row.toCollaboration }
      else row

/-- A block between the two profiles of a pair is stored. -/
def blocks (pair : UuidInt × UuidInt) : CollabInput → Bool
  | blockCreated handling payload =>
      match readId payload "blocker_profile_id", readId payload "blocked_profile_id" with
      | some blockerId, some blockedId => handling.db && pair = pairOf blockerId blockedId
      | _, _ => false
  | _ => false

end CollabInput

namespace CollabTables

/-- What raises changes nothing. -/
def step (t : CollabTables) : CollabInput → CollabTables
  | .matchCreated handling payload => (t.handleMatchCreated handling payload).getD t
  | .blockCreated handling payload => (t.handleBlockCreated handling payload).getD t
  | input => { t with collaborations := t.collaborations.map (input.setRow ·) }

def run (inputs : List CollabInput) : CollabTables := runFrom step empty inputs

end CollabTables

/-! ## What a row keeps -/

namespace CollabInput

variable (input : CollabInput) (row : PairedCollab)

@[simp] theorem pair_applyBlock (now : Timestamp) (profileIdA profileIdB : UuidInt) :
    (row.applyBlock now profileIdA profileIdB).pair = row.pair := by
  unfold PairedCollab.applyBlock
  split <;> rfl

@[simp] theorem id_applyBlock (now : Timestamp) (profileIdA profileIdB : UuidInt) :
    (row.applyBlock now profileIdA profileIdB).id = row.id := by
  unfold PairedCollab.applyBlock Change.setRow
  split
  · dsimp only
    split <;> rfl
  · rfl

@[simp] theorem pair_setRow : (input.setRow row).pair = row.pair := by
  unfold setRow
  split
  · rfl
  · split
    · split
      · simp
      · rfl
    · rfl
  · rfl
  · split <;> rfl

@[simp] theorem id_setRow : (input.setRow row).id = row.id := by
  unfold setRow
  split
  · rfl
  · split
    · split
      · simp
      · rfl
    · rfl
  · simp
  · split <;> rfl

theorem isReadOnly_chatMessageSent (collab : Collaboration) (processing : Processing) :
    (handleChatMessageSent collab processing).isReadOnly = collab.isReadOnly := by
  rw [handleChatMessageSent_eq]
  split <;> rfl

/-- A row is frozen by a block of its pair, unless it is archived. -/
theorem isReadOnly_setRow : (input.setRow row).isReadOnly =
    (row.isReadOnly || input.blocks row.pair && row.archivedAt.isNone) := by
  cases input with
  | matchCreated handling payload => simp [setRow, blocks]
  | blockCreated handling payload =>
      simp only [setRow, blocks]
      split
      · rename_i blockerId blockedId _ _
        by_cases stored : handling.db = true
        · by_cases same : row.pair = pairOf blockerId blockedId
          · cases archived : row.archivedAt <;>
              simp [PairedCollab.applyBlock, Change.setRow, stored, same, archived]
          · simp [PairedCollab.applyBlock, stored, same]
        · simp [stored]
      · simp
  | chatMessageSent processing => simp [setRow, blocks, isReadOnly_chatMessageSent]
  | archiveFinalize collabId now =>
      simp only [setRow, blocks]
      split <;> simp [Change.setRow]

end CollabInput

/-! ## One input -/

namespace CollabTables

variable {t t' : CollabTables} {input : CollabInput}

theorem handleMatchCreated_eq_none {handling : Handling} {payload : Json}
    (absent : readId payload "profile_id_a" = none) :
    t.handleMatchCreated handling payload = none := by
  rw [handleMatchCreated, absent]
  rfl

theorem handleBlockCreated_eq_none {handling : Handling} {payload : Json}
    (absent : readId payload "blocker_profile_id" = none) :
    t.handleBlockCreated handling payload = none := by
  rw [handleBlockCreated, absent]
  rfl

/-- What the handling of a match does: it finds the row of the pair or adds it. -/
structure Opens (t : CollabTables) (collab : PairedCollab) (t' : CollabTables) : Prop where
  mem : collab ∈ t'.collaborations
  published : t'.published = t.published ∨
    ∃ created, created.collabId = collab.id ∧ created.pair = collab.pair ∧
      t'.published = t.published ++ [created]
  rows : t'.collaborations = t.collaborations ∨
    t'.collaborations = t.collaborations ++ [collab] ∧ collab.isReadOnly = false ∧
      collab.pair ∉ t.pairs ∧ collab.id ∉ t.ids

theorem createCollaboration_eq_some {handling : Handling} {profileIdA profileIdB : UuidInt}
    {collab : PairedCollab} {rows : List PairedCollab}
    (h : t.createCollaboration handling profileIdA profileIdB = some (collab, rows)) :
    collab ∈ rows ∧ collab.pair = pairOf profileIdA profileIdB ∧
      (rows = t.collaborations ∨ rows = t.collaborations ++ [collab] ∧
        collab.isReadOnly = false ∧ collab.pair ∉ t.pairs ∧ collab.id ∉ t.ids) := by
  unfold createCollaboration at h
  split at h
  · split at h
    · rename_i row found
      cases h
      have same := List.find?_some found
      exact ⟨List.mem_of_find?_eq_some found, by simpa using same, Or.inl rfl⟩
    · rename_i missing
      dsimp only at h
      split at h
      · cases h
      · rename_i fresh
        cases h
        have pair : (newCollab handling profileIdA profileIdB).pair =
            pairOf profileIdA profileIdB := rfl
        refine ⟨by simp, pair, Or.inr ⟨rfl, rfl, ?_, fresh⟩⟩
        rw [pair]
        intro taken
        obtain ⟨row, mem, same⟩ := List.mem_map.1 taken
        have other := List.find?_eq_none.1 missing row mem
        simp [same] at other
  · cases h

theorem handleMatchCreated_eq_some {handling : Handling} {payload : Json}
    (h : t.handleMatchCreated handling payload = some t') : ∃ collab, Opens t collab t' := by
  simp only [handleMatchCreated, Option.bind_eq_bind, Option.bind_eq_some_iff, Option.pure_def,
    Option.some.injEq] at h
  obtain ⟨profileIdA, -, profileIdB, -, matchId, -, ⟨collab, rows⟩, created, rfl⟩ := h
  obtain ⟨mem, pair, grown⟩ := createCollaboration_eq_some created
  refine ⟨collab, mem, ?_, grown⟩
  dsimp only
  split
  · exact Or.inr ⟨⟨collab.id, profileIdA, profileIdB, matchId⟩, rfl, pair.symm, rfl⟩
  · exact Or.inl rfl

theorem handleBlockCreated_getD (t : CollabTables) (handling : Handling) (payload : Json) :
    (t.handleBlockCreated handling payload).getD t =
      { t with
        collaborations :=
          t.collaborations.map ((CollabInput.blockCreated handling payload).setRow ·) } := by
  cases blocker : readId payload "blocker_profile_id" with
  | none => simp [handleBlockCreated, CollabInput.setRow, blocker]
  | some blockerId =>
      cases blocked : readId payload "blocked_profile_id" with
      | none => simp [handleBlockCreated, CollabInput.setRow, blocker, blocked]
      | some blockedId =>
          cases stored : handling.db <;>
            simp [handleBlockCreated, CollabInput.setRow, blocker, blocked, stored]

/-- What an input does: it changes the rows that are there, or opens a collaboration. -/
theorem step_cases (t : CollabTables) (input : CollabInput) :
    t.step input = { t with collaborations := t.collaborations.map (input.setRow ·) } ∨
      (∀ row, input.setRow row = row) ∧ ∃ collab, Opens t collab (t.step input) := by
  cases input with
  | matchCreated handling payload =>
      have same : ∀ row, (CollabInput.matchCreated handling payload).setRow row = row :=
        fun row => rfl
      cases found : t.handleMatchCreated handling payload with
      | none => exact Or.inl (by simp [step, found, same])
      | some t' =>
          obtain ⟨collab, opens⟩ := handleMatchCreated_eq_some found
          exact Or.inr ⟨same, collab, by simpa [step, found] using opens⟩
  | blockCreated handling payload => exact Or.inl (handleBlockCreated_getD t handling payload)
  | chatMessageSent | archiveFinalize => exact Or.inl rfl

/-! ## One collaboration of a pair -/

/-- No two rows are of one pair or have one id, and what is announced is the row of its pair. -/
structure Sound (t : CollabTables) : Prop where
  pairs_nodup : t.pairs.Nodup
  ids_nodup : t.ids.Nodup
  announced : ∀ created ∈ t.published, (created.pair, created.collabId) ∈
    t.collaborations.map fun row => (row.pair, row.id)

theorem map_setRow {α : Type*} (f : PairedCollab → α) (input : CollabInput)
    (keeps : ∀ row, f (input.setRow row) = f row) (rows : List PairedCollab) :
    (rows.map (input.setRow ·)).map f = rows.map f := by
  simp [Function.comp_def, keeps]

theorem Sound.step (h : t.Sound) (input : CollabInput) : (t.step input).Sound := by
  rcases step_cases t input with eq | ⟨-, collab, opens⟩
  · rw [eq]
    constructor
    · simpa only [pairs, map_setRow (·.pair) input (CollabInput.pair_setRow input)]
        using h.pairs_nodup
    · simpa only [ids, map_setRow (·.id) input (CollabInput.id_setRow input)] using h.ids_nodup
    · simpa only [map_setRow (fun row => (row.pair, row.id)) input (by simp)]
        using h.announced
  · have known : ∀ created ∈ t.published, (created.pair, created.collabId) ∈
        (t.step input).collaborations.map fun row => (row.pair, row.id) := by
      intro created mem
      have before := h.announced created mem
      rcases opens.rows with rows | ⟨rows, -⟩
      · rwa [rows]
      · rw [rows, List.map_append]
        exact List.mem_append_left _ before
    have announced : ∀ created ∈ (t.step input).published, (created.pair, created.collabId) ∈
        (t.step input).collaborations.map fun row => (row.pair, row.id) := by
      intro created mem
      rcases opens.published with same | ⟨new, id, pair, grown⟩
      · exact known created (same ▸ mem)
      · rw [grown] at mem
        rcases List.mem_append.1 mem with before | last
        · exact known created before
        · obtain rfl := List.mem_singleton.1 last
          exact List.mem_map.2 ⟨collab, opens.mem, by rw [id, pair]⟩
    rcases opens.rows with rows | ⟨rows, -, pair, id⟩
    · exact ⟨by simpa only [pairs, rows] using h.pairs_nodup,
        by simpa only [ids, rows] using h.ids_nodup, announced⟩
    · refine ⟨?_, ?_, announced⟩
      · rw [pairs, rows, List.map_append, List.map_singleton, ← List.concat_eq_append]
        exact h.pairs_nodup.concat pair
      · rw [ids, rows, List.map_append, List.map_singleton, ← List.concat_eq_append]
        exact h.ids_nodup.concat id

theorem sound_run (inputs : List CollabInput) : (run inputs).Sound := by
  have start : empty.Sound := by constructor <;> simp [empty, pairs, ids]
  exact runFrom_invariant (fun _ input h => h.step input) start inputs

theorem eq_of_map_eq {α β : Type*} {f : α → β} {rows : List α} (nodup : (rows.map f).Nodup)
    {a b : α} (mem : a ∈ rows) (mem' : b ∈ rows) (same : f a = f b) : a = b :=
  List.inj_on_of_nodup_map nodup mem mem' same

/-- There is one collaboration of a pair however often its match is delivered, and two
announcements name the same one exactly if they are of the same two profiles, in either order. -/
theorem one_of_each_pair (inputs : List CollabInput) :
    (run inputs).pairs.Nodup ∧
      ∀ created ∈ (run inputs).published, ∀ other ∈ (run inputs).published,
        created.collabId = other.collabId ↔
          created.profileIdA = other.profileIdA ∧ created.profileIdB = other.profileIdB ∨
            created.profileIdA = other.profileIdB ∧ created.profileIdB = other.profileIdA := by
  have sound := sound_run inputs
  refine ⟨sound.pairs_nodup, fun created mem other mem' => ?_⟩
  rw [← pairOf_eq_iff]
  obtain ⟨row, there, named⟩ := List.mem_map.1 (sound.announced created mem)
  obtain ⟨row', there', named'⟩ := List.mem_map.1 (sound.announced other mem')
  obtain ⟨pair, id⟩ := Prod.mk.inj named
  obtain ⟨pair', id'⟩ := Prod.mk.inj named'
  rw [← id, ← id']
  change _ ↔ created.pair = other.pair
  rw [← pair, ← pair']
  constructor
  · intro same
    rw [eq_of_map_eq sound.ids_nodup there there' same]
  · intro same
    rw [eq_of_map_eq sound.pairs_nodup there there' same]

/-! ## Frozen collaborations -/

theorem run_concat (inputs : List CollabInput) (input : CollabInput) :
    run (inputs ++ [input]) = (run inputs).step input := by
  simp [run, runFrom_append]

theorem pairs_subset_step (t : CollabTables) (input : CollabInput) :
    t.pairs ⊆ (t.step input).pairs := by
  rcases step_cases t input with eq | ⟨-, collab, opens⟩
  · rw [eq, pairs, pairs, map_setRow (·.pair) input (CollabInput.pair_setRow input)]
    exact List.Subset.refl _
  · rcases opens.rows with rows | ⟨rows, -⟩
    · rw [pairs, pairs, rows]
      exact List.Subset.refl _
    · rw [pairs, pairs, rows, List.map_append]
      exact List.subset_append_left _ _

theorem pairs_subset_run (first rest : List CollabInput) :
    (run first).pairs ⊆ (run (first ++ rest)).pairs := by
  induction rest using List.reverseRecOn with
  | nil => simp
  | append_singleton rest input ih =>
      rw [← List.append_assoc, run_concat]
      exact List.Subset.trans ih (pairs_subset_step _ input)

/-- The collaboration of the pair is there and not archived. -/
def hasActive (t : CollabTables) (pair : UuidInt × UuidInt) : Prop :=
  ∃ row ∈ t.collaborations, row.pair = pair ∧ row.archivedAt = none

/-- A block of the pair is stored while its collaboration is there and not archived. -/
def BlockedWhileActive (inputs : List CollabInput) (pair : UuidInt × UuidInt) : Prop :=
  ∃ first input rest, inputs = first ++ input :: rest ∧ input.blocks pair = true ∧
    (run first).hasActive pair

theorem blockedWhileActive_concat_iff {inputs : List CollabInput} {input : CollabInput}
    {pair : UuidInt × UuidInt} :
    BlockedWhileActive (inputs ++ [input]) pair ↔
      BlockedWhileActive inputs pair ∨ input.blocks pair = true ∧ (run inputs).hasActive pair := by
  constructor
  · rintro ⟨first, input', rest, split, blocks, active⟩
    rcases List.eq_nil_or_concat rest with rfl | ⟨rest, last, rfl⟩
    · obtain ⟨rfl, same⟩ := List.append_inj' split rfl
      obtain rfl := List.singleton_inj.1 same
      exact Or.inr ⟨blocks, active⟩
    · rw [List.concat_eq_append, ← List.cons_append, ← List.append_assoc] at split
      obtain ⟨rfl, -⟩ := List.append_inj' split rfl
      exact Or.inl ⟨first, input', rest, rfl, blocks, active⟩
  · rintro (⟨first, input', rest, rfl, blocks, active⟩ | ⟨blocks, active⟩)
    · exact ⟨first, input', rest ++ [input], by simp, blocks, active⟩
    · exact ⟨inputs, input, [], rfl, blocks, active⟩

/-- A collaboration is read-only exactly if a block of its pair was handled while it was there
and not archived: a block that is handled before the match leaves it writable. -/
theorem read_only_iff_blocked (inputs : List CollabInput) :
    ∀ row ∈ (run inputs).collaborations,
      row.isReadOnly = true ↔ BlockedWhileActive inputs row.pair := by
  induction inputs using List.reverseRecOn with
  | nil => simp [run, empty]
  | append_singleton inputs input ih =>
      intro row mem
      have sound := sound_run inputs
      rw [run_concat] at mem
      rw [blockedWhileActive_concat_iff]
      have turned : ∀ before ∈ (run inputs).collaborations, row = input.setRow before →
          (row.isReadOnly = true ↔ BlockedWhileActive inputs row.pair ∨
            input.blocks row.pair = true ∧ (run inputs).hasActive row.pair) := by
        rintro before there rfl
        rw [CollabInput.isReadOnly_setRow, CollabInput.pair_setRow, ← ih before there]
        have active : (run inputs).hasActive before.pair ↔ before.archivedAt = none := by
          constructor
          · rintro ⟨other, there', same, unarchived⟩
            rwa [eq_of_map_eq sound.pairs_nodup there there' same.symm]
          · intro unarchived
            exact ⟨before, there, rfl, unarchived⟩
        rw [active]
        simp
      rcases step_cases (run inputs) input with eq | ⟨same, collab, opens⟩
      · rw [eq] at mem
        obtain ⟨before, there, turns⟩ := List.mem_map.1 mem
        exact turned before there turns.symm
      · rcases opens.rows with rows | ⟨rows, writable, new, -⟩
        · rw [rows] at mem
          exact turned row mem (same row).symm
        · rw [rows] at mem
          rcases List.mem_append.1 mem with before | last
          · exact turned row before (same row).symm
          · -- the pair of a new row was not there before
            obtain rfl := List.mem_singleton.1 last
            have absent : ∀ {first rest : List CollabInput}, inputs = first ++ rest →
                ¬ (run first).hasActive row.pair := by
              rintro first rest rfl ⟨other, there, same, -⟩
              exact new (pairs_subset_run first rest (List.mem_map.2 ⟨other, there, same⟩))
            rw [writable]
            constructor
            · intro frozen
              cases frozen
            · rintro (⟨first, input', rest, split, -, active⟩ | ⟨-, active⟩)
              · exact absurd active (absent split)
              · exact absurd active (absent (List.append_nil inputs).symm)

/-- A message that names the first and the second profile. -/
def naming (first second : String) : Json :=
  .object
    [(first.toList, .string (uuidText 1).toList), (second.toList, .string (uuidText 2).toList)]

def duetHandling : Handling := ⟨true, true, 0, 3, 4⟩

def matchedThenBlocked : List CollabInput :=
  [.matchCreated duetHandling (naming "profile_id_a" "profile_id_b"),
    .blockCreated duetHandling (naming "blocker_profile_id" "blocked_profile_id")]

def frozenDuet : PairedCollab := (newCollab duetHandling 1 2).applyBlock 0 1 2

theorem frozen_duet_blocked : BlockedWhileActive matchedThenBlocked frozenDuet.pair :=
  (read_only_iff_blocked matchedThenBlocked frozenDuet (by decide)).1 (by decide)

end CollabTables

end ColabPlatform.Collabs
