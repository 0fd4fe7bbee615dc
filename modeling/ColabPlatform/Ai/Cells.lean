import ColabPlatform.Ai.Runs

/-!
# The cell of an interaction

The cell of an interaction is the part of the world that belongs to it: its row,
its assets, its reservations and what became of them, its tasks and predictions.
A call that works on an interaction changes its cell only, and reads nothing of
the cells of others.
-/

namespace ColabPlatform.Ai

open Foundation
open Billing (Uuid Timestamp)

structure Cell where
  id : Option Uuid := none
  row : Option AIInteraction := none
  assetIds : List Uuid := []
  assets : List MockupAsset := []
  reservations : List Uuid := []
  settlements : List (Uuid × Settlement) := []
  predictions : List String := []
  marked : List String := []
  tasks : List GenerationTask := []
  responses : List Response := []

namespace World

def cell (w : World) (x : Uuid) : Cell :=
  { id := if (.interaction, x) ∈ w.drawn then some x else none
    row := w.interactions.lookup x
    assetIds := (w.assetOwners.filter fun owned => owned.2 = x).map Prod.fst
    assets := w.assets.rows.filter fun asset => (asset.id, x) ∈ w.assetOwners
    reservations := (w.reservations.filter fun held => held.2 = x).map Prod.fst
    settlements := w.settlements.filter fun settled => (settled.1, x) ∈ w.reservations
    predictions := (w.predictions.filter fun started => started.2 = x).map Prod.fst
    marked := w.marked.filter fun predictionId => (predictionId, x) ∈ w.predictions
    tasks := w.tasks.filter fun task => task.interactionId = x
    responses := (w.responses.filter fun sent => sent.1 = x).map Prod.snd }

/-- What a call sees that works on `subject`, which is nothing while there is none. -/
def view (w : World) : Option Uuid → Cell
  | none => {}
  | some x => w.cell x

variable {w w' : World} {x y : Uuid}

theorem mem_owned {β : Type} [DecidableEq β] {pairs : List (β × Uuid)} {b : β} :
    b ∈ (pairs.filter fun pair => pair.2 = x).map Prod.fst ↔ (b, x) ∈ pairs := by
  simp [List.mem_map, List.mem_filter]

@[simp] theorem mem_assetIds {a : Uuid} : a ∈ (w.cell x).assetIds ↔ (a, x) ∈ w.assetOwners :=
  mem_owned

@[simp] theorem mem_reservations {r : Uuid} :
    r ∈ (w.cell x).reservations ↔ (r, x) ∈ w.reservations := mem_owned

@[simp] theorem mem_predictions {p : String} :
    p ∈ (w.cell x).predictions ↔ (p, x) ∈ w.predictions := mem_owned

/-! ## Sound worlds -/

/-- Every key belongs to one interaction. -/
def OneOwner {β : Type} (pairs : List (β × Uuid)) : Prop :=
  ∀ b x y, (b, x) ∈ pairs → (b, y) ∈ pairs → x = y

theorem OneOwner.cons {β : Type} {pairs : List (β × Uuid)} (h : OneOwner pairs) {b : β}
    (fresh : b ∉ pairs.map Prod.fst) (x : Uuid) : OneOwner ((b, x) :: pairs) := by
  intro c y z first second
  rcases List.mem_cons.1 first with eq | first
  · rcases List.mem_cons.1 second with eq' | second
    · rw [Prod.mk.injEq] at eq eq'
      exact eq.2.trans eq'.2.symm
    · rw [Prod.mk.injEq] at eq
      exact absurd (List.mem_map.2 ⟨_, second, eq.1⟩) fresh
  · rcases List.mem_cons.1 second with eq | second
    · rw [Prod.mk.injEq] at eq
      exact absurd (List.mem_map.2 ⟨_, first, eq.1⟩) fresh
    · exact h c y z first second

/-- What the ids in the world have in common. -/
structure Sound (w : World) : Prop where
  blank : ∀ x, (.interaction, x) ∉ w.drawn → w.cell x = {}
  assetOwner : OneOwner w.assetOwners
  reserver : OneOwner w.reservations
  predictor : OneOwner w.predictions
  ownedDrawn : ∀ owned ∈ w.assetOwners, (.asset, owned.1) ∈ w.drawn
  assetsDrawn : ∀ asset ∈ w.assets.rows, (.asset, asset.id) ∈ w.drawn
  settledReserved : ∀ settled ∈ w.settlements, settled.1 ∈ w.reservations.map Prod.fst
  traced : ∀ row ∈ w.interactions.rows, ∀ p ∈ row.replicatePredictionId,
    (p, row.id) ∈ w.predictions
  assetTraced : ∀ asset ∈ w.assets.rows, asset.replicatePredictionId = "pending" ∨
    ∃ x, (asset.id, x) ∈ w.assetOwners ∧ (asset.replicatePredictionId, x) ∈ w.predictions

theorem sound_initial : Sound initial := by
  refine ⟨fun x _ => ?_, ?_, ?_, ?_, ?_, ?_, ?_, ?_, ?_⟩
  · simp [cell, initial]
  all_goals simp [initial, OneOwner]

/-- The interaction of a prediction id is the one that the prediction was started for. -/
theorem Sound.interactionOf_eq (sound : Sound w) {row : AIInteraction} {p : String}
    (stored : w.interactions.lookup x = some row) (has : row.replicatePredictionId = some p) :
    w.interactionOf p = some row := by
  have mem := Table.mem_of_lookup stored
  unfold interactionOf
  cases found : w.interactions.rows.find? fun row => row.replicatePredictionId = some p with
  | none => exact absurd has (by simpa using List.find?_eq_none.1 found row mem)
  | some other =>
      have otherMem := List.mem_of_find?_eq_some found
      have otherHas : other.replicatePredictionId = some p := by
        simpa using List.find?_some found
      have same : other.id = row.id :=
        sound.predictor p _ _ (sound.traced other otherMem p otherHas)
          (sound.traced row mem p has)
      rw [Table.eq_of_key_eq otherMem mem same]

end World

/-! ## The writes of a transaction -/

namespace Cell

def apply (c : Cell) : Write → Cell
  | .insertInteraction row => { c with row := some row }
  | .updateInteraction _ change => { c with row := c.row.map fun row => row.set change }
  | .insertAsset row => { c with assets := row :: c.assets }
  | .updateAsset id change =>
      { c with assets := c.assets.map fun row => if row.id = id then row.set change else row }
  | .insertConsent _ | .approveConsent .. => c

def applyAll (c : Cell) (writes : List Write) : Cell := writes.foldl apply c

/-- The write concerns the interaction of the cell, and stores no foreign prediction id. -/
def Concerns (c : Cell) : Write → Prop
  | .insertInteraction row => c.id = some row.id ∧ row.replicatePredictionId = none
  | .updateInteraction id change =>
      c.id = some id ∧ ∀ p ∈ change.replicatePredictionId, p ∈ c.predictions
  | .insertAsset row => row.id ∈ c.assetIds ∧ row.replicatePredictionId = "pending"
  | .updateAsset id change =>
      id ∈ c.assetIds ∧ ∀ p ∈ change.replicatePredictionId, p ∈ c.predictions
  | .insertConsent _ | .approveConsent .. => True

/--
The writes break no unique column but that of the placeholder: an interaction
gets one row and one asset, and no other row has the prediction that is stored.
-/
def Fits (c : Cell) : List Write → Prop
  | [] => True
  | write :: rest =>
      (match write with
      | .insertInteraction _ => c.row = none
      | .insertAsset _ => c.assets = []
      | .updateAsset id change => (∃ asset ∈ c.assets, asset.id = id) ∧
          ∀ asset ∈ c.assets, change.replicatePredictionId = some asset.replicatePredictionId →
            asset.id = id
      | .insertConsent _ => False
      | .updateInteraction .. | .approveConsent .. => True) ∧ (c.apply write).Fits rest

@[simp] theorem applyAll_nil (c : Cell) : c.applyAll [] = c := rfl

@[simp] theorem applyAll_cons (c : Cell) (write : Write) (rest : List Write) :
    c.applyAll (write :: rest) = (c.apply write).applyAll rest := rfl

end Cell

namespace World

variable {w w' : World} {x : Uuid} {subject : Option Uuid}

/-- The world after a call for `subject`: its view is `c`, and no other cell has changed. -/
structure Becomes (w : World) (subject : Option Uuid) (c : Cell) (w' : World) : Prop where
  view : w'.view subject = c
  others : ∀ y, subject ≠ some y → w'.cell y = w.cell y
  sound : Sound w'

theorem Becomes.refl (sound : Sound w) : Becomes w subject (w.view subject) w :=
  ⟨rfl, fun _ _ => rfl, sound⟩

theorem id_cell {id : Uuid} (h : (w.cell x).id = some id) : x = id ∧ (.interaction, x) ∈ w.drawn := by
  unfold cell at h
  dsimp only at h
  split at h
  · rename_i drawn
    exact ⟨Option.some.inj h, drawn⟩
  · cases h

theorem becomes_insertInteraction (sound : Sound w) {row : AIInteraction}
    (own : (w.cell x).id = some row.id) (new : row.replicatePredictionId = none)
    {table} (inserted : w.interactions.insert? row = some table) :
    Becomes w (some x) ((w.cell x).apply (.insertInteraction row))
      { w with interactions := table } := by
  obtain ⟨rfl, drawn⟩ := id_cell own
  have others : ∀ y, some row.id ≠ some y →
      World.cell { w with interactions := table } y = w.cell y := by
    intro y other
    have apart : row.id ≠ y := fun same => other (congrArg some same)
    have kept : table.lookup y = w.interactions.lookup y := by
      rw [Table.lookup_insert inserted, if_neg apart]
    exact congrArg (fun found => { w.cell y with row := found }) kept
  refine ⟨?_, others, ?_⟩
  · have stored : table.lookup row.id = some row := by
      rw [Table.lookup_insert inserted, if_pos rfl]
    exact congrArg (fun found => { w.cell row.id with row := found }) stored
  · refine { sound with blank := fun y undrawn => ?_, traced := fun stored mem p has => ?_ }
    · rw [others y fun same => undrawn (Option.some.inj same ▸ drawn)]
      exact sound.blank y undrawn
    · rw [(Table.insert?_eq_some inserted).2] at mem
      rcases List.mem_cons.1 mem with rfl | old
      · simp [new] at has
      · exact sound.traced stored old p has

theorem becomes_updateInteraction (sound : Sound w) {id : Uuid} {change : InteractionChange}
    (own : (w.cell x).id = some id)
    (started : ∀ p ∈ change.replicatePredictionId, p ∈ (w.cell x).predictions) :
    Becomes w (some x) ((w.cell x).apply (.updateInteraction id change))
      { w with interactions := w.interactions.modify id fun row => row.set change } := by
  obtain ⟨rfl, drawn⟩ := id_cell own
  have others : ∀ y, some x ≠ some y →
      World.cell { w with interactions :=
        w.interactions.modify x fun row => row.set change } y = w.cell y := by
    intro y other
    have apart : x ≠ y := fun same => other (congrArg some same)
    have kept : (w.interactions.modify x fun row => row.set change).lookup y =
        w.interactions.lookup y :=
      (Table.lookup_modify _ _ _).trans (if_neg apart)
    exact congrArg (fun found => { w.cell y with row := found }) kept
  refine ⟨?_, others, ?_⟩
  · have stored : (w.interactions.modify x fun row => row.set change).lookup x =
        (w.interactions.lookup x).map fun row => row.set change :=
      (Table.lookup_modify _ _ _).trans (if_pos rfl)
    exact congrArg (fun found => { w.cell x with row := found }) stored
  · refine { sound with blank := fun y undrawn => ?_, traced := fun stored mem p has => ?_ }
    · rw [others y fun same => undrawn (Option.some.inj same ▸ drawn)]
      exact sound.blank y undrawn
    · rcases Table.mem_updated mem with ⟨old, oldMem, same, rfl⟩ | ⟨old, -⟩
      · change (p, old.id) ∈ w.predictions
        rcases Option.or_eq_some_iff.1 has with new | ⟨-, before⟩
        · rw [same]
          exact mem_predictions.1 (started p new)
        · exact sound.traced old oldMem p before
      · exact sound.traced stored old p has

/-- The assets of the cell after a change of the asset table. -/
theorem becomes_assets (sound : Sound w) {rows : List MockupAsset} {table}
    (assets : table.rows.filter (fun asset => (asset.id, x) ∈ w.assetOwners) = rows)
    (others : ∀ y, x ≠ y →
      table.rows.filter (fun asset => (asset.id, y) ∈ w.assetOwners) = (w.cell y).assets)
    (drawn : (.interaction, x) ∈ w.drawn)
    (allDrawn : ∀ asset ∈ table.rows, (.asset, asset.id) ∈ w.drawn)
    (allTraced : ∀ asset ∈ table.rows, asset.replicatePredictionId = "pending" ∨
      ∃ x, (asset.id, x) ∈ w.assetOwners ∧
        (asset.replicatePredictionId, x) ∈ w.predictions) :
    Becomes w (some x) { w.cell x with assets := rows } { w with assets := table } := by
  have kept : ∀ y, some x ≠ some y → World.cell { w with assets := table } y = w.cell y := by
    intro y other
    have apart : x ≠ y := fun same => other (congrArg some same)
    exact congrArg (fun found => { w.cell y with assets := found }) (others y apart)
  refine ⟨congrArg (fun found => { w.cell x with assets := found }) assets, kept, ?_⟩
  refine { sound with
    blank := fun y undrawn => ?_, assetsDrawn := allDrawn, assetTraced := allTraced }
  rw [kept y fun same => undrawn (Option.some.inj same ▸ drawn)]
  exact sound.blank y undrawn

theorem drawn_of_assetId (sound : Sound w) {a : Uuid} (own : a ∈ (w.cell x).assetIds) :
    (.interaction, x) ∈ w.drawn := by
  by_contra undrawn
  rw [sound.blank x undrawn] at own
  cases own

theorem becomes_insertAsset (sound : Sound w) {row : MockupAsset}
    (own : row.id ∈ (w.cell x).assetIds) (pending : row.replicatePredictionId = "pending")
    {table} (inserted : w.assets.insert? row = some table) :
    Becomes w (some x) ((w.cell x).apply (.insertAsset row)) { w with assets := table } := by
  have owned := mem_assetIds.1 own
  have rows := (Table.insert?_eq_some inserted).2
  refine becomes_assets sound ?_ ?_ (drawn_of_assetId sound own) ?_ ?_
  · rw [rows, List.filter_cons_of_pos (by simpa using owned)]
    rfl
  · intro y apart
    have foreign : (row.id, y) ∉ w.assetOwners := fun other =>
      apart (sound.assetOwner _ _ _ owned other)
    rw [rows, List.filter_cons_of_neg (by simpa using foreign)]
    rfl
  · intro asset mem
    rw [rows] at mem
    rcases List.mem_cons.1 mem with rfl | old
    · exact sound.ownedDrawn _ owned
    · exact sound.assetsDrawn asset old
  · intro asset mem
    rw [rows] at mem
    rcases List.mem_cons.1 mem with rfl | old
    · exact Or.inl pending
    · exact sound.assetTraced asset old

theorem becomes_updateAsset (sound : Sound w) {id : Uuid} {change : AssetChange}
    (own : id ∈ (w.cell x).assetIds)
    (started : ∀ p ∈ change.replicatePredictionId, p ∈ (w.cell x).predictions) {table}
    (updated : (w.assets.update? id fun row => row.set change) = some table) :
    Becomes w (some x) ((w.cell x).apply (.updateAsset id change))
      { w with assets := table } := by
  have owned := mem_assetIds.1 own
  have rows := Table.rows_update updated
  have sameId : ∀ asset : MockupAsset,
      (if asset.id = id then asset.set change else asset).id = asset.id := by
    intro asset
    split <;> rfl
  have filtered : ∀ y, table.rows.filter (fun asset => (asset.id, y) ∈ w.assetOwners) =
      (w.cell y).assets.map fun asset =>
        if asset.id = id then asset.set change else asset := by
    intro y
    rw [rows, List.filter_map]
    simp only [Function.comp_def, sameId]
    rfl
  refine becomes_assets sound (filtered x) ?_ (drawn_of_assetId sound own) ?_ ?_
  · intro y apart
    rw [filtered y]
    refine (List.map_congr_left fun asset mem => ?_).trans (List.map_id _)
    have other : asset.id ≠ id := by
      rintro rfl
      exact apart (sound.assetOwner _ _ _ owned (by simpa using (List.mem_filter.1 mem).2))
    rw [if_neg other]
    rfl
  · intro asset mem
    rw [rows] at mem
    obtain ⟨old, oldMem, rfl⟩ := List.mem_map.1 mem
    rw [sameId]
    exact sound.assetsDrawn old oldMem
  · intro asset mem
    rw [rows] at mem
    obtain ⟨old, oldMem, rfl⟩ := List.mem_map.1 mem
    rw [sameId]
    have before := sound.assetTraced old oldMem
    by_cases same : old.id = id
    · rw [if_pos same]
      cases set : change.replicatePredictionId with
      | none => simpa [MockupAsset.set, set] using before
      | some p =>
          refine Or.inr ⟨x, same ▸ owned, ?_⟩
          simpa [MockupAsset.set, set] using mem_predictions.1 (started p set)
    · rw [if_neg same]
      exact before

theorem becomes_apply (sound : Sound w) {write : Write} (done : w.apply write = some w')
    (concerns : (w.view subject).Concerns write) :
    Becomes w subject ((w.view subject).apply write) w' := by
  cases write with
  | insertInteraction row =>
      obtain ⟨table, inserted, rfl⟩ := Option.map_eq_some_iff.1 done
      cases subject with
      | none => cases concerns.1
      | some x => exact becomes_insertInteraction sound concerns.1 concerns.2 inserted
  | updateInteraction id change =>
      obtain rfl := Option.some.inj done
      cases subject with
      | none => cases concerns.1
      | some x => exact becomes_updateInteraction sound concerns.1 concerns.2
  | insertAsset row =>
      obtain ⟨table, inserted, rfl⟩ := Option.map_eq_some_iff.1 done
      cases subject with
      | none => cases concerns.1
      | some x => exact becomes_insertAsset sound concerns.1 concerns.2 inserted
  | updateAsset id change =>
      obtain ⟨table, updated, rfl⟩ := Option.map_eq_some_iff.1 done
      cases subject with
      | none => cases concerns.1
      | some x => exact becomes_updateAsset sound concerns.1 concerns.2 updated
  | insertConsent row =>
      obtain ⟨table, -, rfl⟩ := Option.map_eq_some_iff.1 done
      exact ⟨by cases subject <;> rfl, fun _ _ => rfl, { sound with }⟩
  | approveConsent id now =>
      obtain rfl := Option.some.inj done
      exact ⟨by cases subject <;> rfl, fun _ _ => rfl, { sound with }⟩

theorem drawn_apply {write : Write} (done : w.apply write = some w') : w'.drawn = w.drawn := by
  cases write <;> simp only [apply, Option.map_eq_some_iff, Option.some.injEq] at done
  case updateInteraction | approveConsent => rw [← done]
  all_goals
    obtain ⟨table, -, rfl⟩ := done
    rfl

theorem drawn_applyAll {writes : List Write} (done : w.applyAll writes = some w') :
    w'.drawn = w.drawn := by
  induction writes generalizing w with
  | nil => rw [Option.some.inj done]
  | cons write rest ih =>
      obtain ⟨middle, first, later⟩ := Option.bind_eq_some_iff.1 done
      exact (ih later).trans (drawn_apply first)

/-- A write changes neither the ids of a cell nor its predictions. -/
theorem concerns_apply {c : Cell} {write other : Write} :
    (c.apply write).Concerns other ↔ c.Concerns other := by
  cases write <;> cases other <;> rfl

theorem becomes_applyAll (sound : Sound w) {writes : List Write}
    (done : w.applyAll writes = some w')
    (concerns : ∀ write ∈ writes, (w.view subject).Concerns write) :
    Becomes w subject ((w.view subject).applyAll writes) w' := by
  induction writes generalizing w with
  | nil =>
      obtain rfl := Option.some.inj done
      exact .refl sound
  | cons write rest ih =>
      obtain ⟨middle, first, later⟩ := Option.bind_eq_some_iff.1 done
      have one := becomes_apply sound first (concerns write (by simp))
      have all := ih one.sound later fun other mem => by
        rw [one.view, concerns_apply]
        exact concerns other (by simp [mem])
      refine ⟨?_, fun y other => (all.others y other).trans (one.others y other), all.sound⟩
      rw [all.view, one.view, Cell.applyAll_cons]

/-! ### Transactions that no unique column refuses -/

/-- The placeholder is only held by assets of the cell. -/
def Placed (w : World) (subject : Option Uuid) : Prop :=
  ∀ asset ∈ w.assets.rows, asset.replicatePredictionId = "pending" →
    asset ∈ (w.view subject).assets

theorem mem_assets {asset : MockupAsset} (mem : asset ∈ w.assets.rows)
    (own : asset.id ∈ (w.cell x).assetIds) : asset ∈ (w.cell x).assets :=
  List.mem_filter.2 ⟨mem, by simpa using mem_assetIds.1 own⟩

theorem apply_isSome (sound : Sound w) {write : Write} {rest : List Write}
    (concerns : (w.view subject).Concerns write) (fits : (w.view subject).Fits (write :: rest))
    (placed : write.placeholder = true → w.Placed subject) : (w.apply write).isSome := by
  cases write with
  | updateInteraction id change => rfl
  | approveConsent id now => rfl
  | insertConsent row => cases fits.1
  | insertInteraction row =>
      cases subject with
      | none => cases concerns.1
      | some x =>
          obtain ⟨rfl, -⟩ := id_cell concerns.1
          have unstored : w.interactions.lookup row.id = none := fits.1
          have inserts : w.interactions.insert? row ≠ none := by
            rw [ne_eq, Table.insert?_eq_none_iff]
            rintro (known | ⟨m, ⟨⟩, -⟩)
            exact Table.lookup_eq_none_iff.1 unstored known
          rw [apply, Option.isSome_map]
          exact Option.isSome_iff_ne_none.2 inserts
  | insertAsset row =>
      cases subject with
      | none => cases concerns.1
      | some x =>
          have blank : (w.cell x).assets = [] := fits.1
          have placed := placed (decide_eq_true concerns.2)
          have inserts : w.assets.insert? row ≠ none := by
            rw [ne_eq, Table.insert?_eq_none_iff]
            rintro (known | ⟨m, ⟨⟩, known⟩)
            · obtain ⟨other, mem, same⟩ := List.mem_map.1 known
              have own := mem_assets mem (same ▸ concerns.1)
              rw [blank] at own
              cases own
            · obtain ⟨other, mem, same⟩ := List.mem_filterMap.1 known
              have own := placed other mem ((Option.some.inj same).trans concerns.2)
              change other ∈ (w.cell x).assets at own
              rw [blank] at own
              cases own
          rw [apply, Option.isSome_map]
          exact Option.isSome_iff_ne_none.2 inserts
  | updateAsset id change =>
      cases subject with
      | none => cases concerns.1
      | some x =>
          have only : ∀ asset ∈ (w.cell x).assets,
              change.replicatePredictionId = some asset.replicatePredictionId → asset.id = id :=
            fits.1.2
          have updates : (w.assets.update? id fun row => row.set change) ≠ none := by
            refine Table.update_ne_none ?_
            rintro row mem rfl m ⟨⟩ other otherMem apart same
            have same : other.replicatePredictionId =
                change.replicatePredictionId.getD row.replicatePredictionId :=
              Option.some.inj same
            cases set : change.replicatePredictionId with
            | none =>
                rw [set] at same
                exact apart (congrArg MockupAsset.id
                  (Table.eq_of_alt_eq otherMem mem (congrArg some same) rfl))
            | some p =>
                rw [set] at same
                have foreign : other ∉ (w.cell x).assets := fun own =>
                  apart (only other own (set.trans (congrArg some same.symm)))
                rcases sound.assetTraced other otherMem with pending | ⟨y, owned, started⟩
                · have stores : change.replicatePredictionId = some "pending" := by
                    rw [set, ← pending, same]
                    rfl
                  exact foreign (placed (decide_eq_true stores) other otherMem pending)
                · have mine := mem_predictions.1 (concerns.2 p set)
                  rw [same] at started
                  obtain rfl := sound.predictor p y x started mine
                  exact foreign (mem_assets otherMem (mem_assetIds.2 owned))
          rw [apply, Option.isSome_map]
          exact Option.isSome_iff_ne_none.2 updates

/-- A write for the cell lets only its assets hold the placeholder. -/
theorem placed_apply {write : Write} (done : w.apply write = some w')
    (concerns : (w.view subject).Concerns write) (becomes : Becomes w subject
      ((w.view subject).apply write) w') (placed : w.Placed subject) : w'.Placed subject := by
  unfold Placed
  rw [becomes.view]
  cases write with
  | insertInteraction row =>
      obtain ⟨table, -, rfl⟩ := Option.map_eq_some_iff.1 done
      exact placed
  | updateInteraction id change =>
      obtain rfl := Option.some.inj done
      exact placed
  | insertConsent row =>
      obtain ⟨table, -, rfl⟩ := Option.map_eq_some_iff.1 done
      exact placed
  | approveConsent id now =>
      obtain rfl := Option.some.inj done
      exact placed
  | insertAsset row =>
      obtain ⟨table, inserted, rfl⟩ := Option.map_eq_some_iff.1 done
      intro asset mem pending
      rw [(Table.insert?_eq_some inserted).2] at mem
      rcases List.mem_cons.1 mem with rfl | old
      · exact List.mem_cons_self
      · exact List.mem_cons_of_mem _ (placed asset old pending)
  | updateAsset id change =>
      obtain ⟨table, updated, rfl⟩ := Option.map_eq_some_iff.1 done
      intro asset mem pending
      refine List.mem_map.2 ?_
      rcases Table.mem_update updated mem with ⟨old, oldMem, rfl, rfl⟩ | ⟨oldMem, other⟩
      · cases subject with
        | none => cases concerns.1
        | some x => exact ⟨old, mem_assets oldMem concerns.1, if_pos rfl⟩
      · exact ⟨asset, placed asset oldMem pending, if_neg other⟩

/-- A transaction is refused only where it stores a placeholder that others hold. -/
theorem applyAll_isSome (sound : Sound w) {writes : List Write}
    (concerns : ∀ write ∈ writes, (w.view subject).Concerns write)
    (fits : (w.view subject).Fits writes)
    (placed : writes.any Write.placeholder = true → w.Placed subject) :
    (w.applyAll writes).isSome := by
  induction writes generalizing w with
  | nil => rfl
  | cons write rest ih =>
      have here := concerns write List.mem_cons_self
      obtain ⟨middle, first⟩ := Option.isSome_iff_exists.1 (apply_isSome sound here fits
        fun stores => placed (by simp [stores]))
      have becomes := becomes_apply sound first here
      change ((w.apply write).bind fun w' => w'.applyAll rest).isSome
      rw [first]
      refine ih becomes.sound (fun other mem => ?_) ?_ fun stores => ?_
      · rw [becomes.view, concerns_apply]
        exact concerns other (List.mem_cons_of_mem _ mem)
      · rw [becomes.view]
        exact fits.2
      · exact placed_apply first here becomes (placed (by simp [stores]))

end World

end ColabPlatform.Ai
