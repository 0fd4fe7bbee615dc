import ColabPlatform.Foundation.Moves
import ColabPlatform.Foundation.Run
import ColabPlatform.Profiles.Review
import Mathlib.Data.List.Sort

/-!
# Positions in a portfolio

The requests about a portfolio run on the table of all portfolio items, where a
position is unique in its profile and at most 11.  A new item gets the number of
items as its position, and `reorder_portfolio` writes one row after the other.
-/

namespace ColabPlatform.Profiles.Portfolio

open Foundation
open Review

/-! ## The table -/

structure PortfolioRow extends PortfolioItem where
  profileId : String
  deriving DecidableEq, Repr

/-- `uq_portfolio_profile_position` -/
def PortfolioRow.place (row : PortfolioRow) : Option (String × Nat) :=
  some (row.profileId, row.position)

abbrev PortfolioTable := Table PortfolioRow (fun row => row.id) PortfolioRow.place

/-- `ck_portfolio_position` -/
def PortfolioRow.fits (row : PortfolioRow) : Bool := row.position ≤ 11

def items (t : PortfolioTable) (profileId : String) : List PortfolioRow :=
  t.rows.filter fun row => row.profileId = profileId

/-- The items as the requests read them. -/
def portfolio (t : PortfolioTable) (profileId : String) : List PortfolioItem :=
  (items t profileId).map PortfolioRow.toPortfolioItem

theorem length_portfolio (t : PortfolioTable) (profileId : String) :
    (portfolio t profileId).length = (items t profileId).length :=
  List.length_map _

/-! ## Reordering -/

/-- The last index at which the order names the item, or the position that it has. -/
def placeOf (order : List String) (item : PortfolioItem) : Nat :=
  ((order.zipIdx.filter fun entry => entry.1 = item.id).getLast?.map Prod.snd).getD item.position

/-- The rows that the flush updates: those whose position changes, by their primary keys. -/
def moved {α : Type} (item : α → PortfolioItem) (order : List String) (rows : List α) : List α :=
  (rows.filter fun row => placeOf order (item row) ≠ (item row).position).insertionSort
    fun row row' => (item row).id ≤ (item row').id

def reorderPortfolio (order : List String) : ReviewM Unit := do
  let _ ← getProfile
  let items ← portfolioItems
  commitOrRaise ((moved id order items).map fun item =>
    .updateItem item.id item.sizeBytes item.mime none (some (placeOf order item))) .request

/-! ## Requests on the table -/

/-- The columns that an `UPDATE` sets. -/
def PortfolioRow.set (sizeBytes : Nat) (mime : String) (caption : Option String)
    (position : Option Nat) (row : PortfolioRow) : PortfolioRow :=
  { row with
    sizeBytes, mime
    caption := caption.or row.caption
    position := position.getD row.position }

/-- One statement; `none` is the violation of a constraint, or that no row was matched. -/
def store (profileId : String) (t : PortfolioTable) : Write → Option PortfolioTable
  | .insertItem item =>
      if PortfolioRow.fits ⟨item, profileId⟩ then t.insert? ⟨item, profileId⟩ else none
  | .updateItem id sizeBytes mime caption position =>
      match t.lookup id with
      | some row =>
          if (row.set sizeBytes mime caption position).fits then
            t.update? id (PortfolioRow.set sizeBytes mime caption position)
          else none
      | none => none
  | .deleteItem id => if (t.lookup id).isSome then some (t.delete id) else none
  | .profile _ | .reviewItem .. => some t

def storeAll (profileId : String) : PortfolioTable → List Write → Option PortfolioTable
  | t, [] => some t
  | t, write :: writes => (store profileId t write).bind fun t => storeAll profileId t writes

/-- What the operations of a request answer and change.  `head` is the object in the bucket. -/
def perform (profileId : String) (head : Option Head) :
    (op : Op) → PortfolioTable → op.Reply × PortfolioTable
  | .getProfile, t => (⟨none, none, none, .unverified, none, none⟩, t)
  | .portfolioItems, t => (portfolio t profileId, t)
  | .portfolioItem id, t =>
      (((t.lookup id).filter fun row => row.profileId = profileId).map
        PortfolioRow.toPortfolioItem, t)
  | .commit writes _, t =>
      match storeAll profileId t writes with
      | some t' => (true, t')
      | none => (false, t)
  | .headObject _, t => (head, t)
  | .deleteObject _, t => (true, t)
  | .nameTaken _, t => (false, t)
  | .otherHashes, t => ([], t)
  | .scanText _, t | .scanImage _, t => (none, t)
  | .enqueueReview _, t | .submit _ _, t => ((), t)

inductive PortfolioRequest where
  | uploadUrl (body : PortfolioUploadRequest) (itemId : String)
  | finalize (itemId : String) (body : PortfolioFinalizeRequest) (head : Option Head)
  | delete (itemId : String)
  | reorder (order : List String)
  deriving DecidableEq, Repr

namespace PortfolioRequest

def program : PortfolioRequest → ReviewM Unit
  | uploadUrl body itemId => requestUploadUrl body itemId
  | finalize itemId body _ => finalizeUpload itemId body
  | delete itemId => deletePortfolioItem itemId
  | reorder order => reorderPortfolio order

def head : PortfolioRequest → Option Head
  | finalize _ _ head => head
  | _ => none

end PortfolioRequest

/-- The answer to a request of the owner of a profile, and the table after it. -/
def answer (t : PortfolioTable) (e : String × PortfolioRequest) :
    Except Failure Unit × PortfolioTable :=
  e.2.program.runOn (perform e.1 e.2.head) t

def step (t : PortfolioTable) (e : String × PortfolioRequest) : PortfolioTable := (answer t e).2

/-! ## What is asked of the requests -/

structure Positioned (t : PortfolioTable) : Prop where
  distinct : ∀ row ∈ t.rows, ∀ other ∈ t.rows, row.profileId = other.profileId →
    row.position = other.position → row = other
  within : ∀ row ∈ t.rows, row.position ≤ 11

/-- An upload is accepted while there are fewer than 12 items, and a permutation of the
items becomes their order. -/
def Honours (t : PortfolioTable) (e : String × PortfolioRequest) : Prop :=
  match e.2 with
  | .uploadUrl body _ => body.mime ∈ body.type.allowedMimes → body.sizeBytes ≤ body.type.sizeCap →
      (items t e.1).length < portfolioItemLimit → (answer t e).1 = .ok ()
  | .reorder order => order.Perm ((items t e.1).map fun row => row.id) →
      (answer t e).1 = .ok () ∧ ∀ (i : Nat) (id : String), order[i]? = some id →
        ((step t e).lookup id).map (fun row => row.position) = some i
  | _ => True

/-- No item has the position that a new one gets, and no item is moved to the position of
one that is written later. -/
def keepsPlaces (t : PortfolioTable) (e : String × PortfolioRequest) : Prop :=
  match e.2 with
  | .uploadUrl body itemId => body.mime ∈ body.type.allowedMimes →
      body.sizeBytes ≤ body.type.sizeCap → (items t e.1).length < portfolioItemLimit →
      (∀ row ∈ items t e.1, row.position ≠ (items t e.1).length) ∧ t.lookup itemId = none
  | .reorder order => order.Perm ((items t e.1).map fun row => row.id) →
      (moved PortfolioRow.toPortfolioItem order (items t e.1)).Pairwise fun first later =>
        later.position ≠ order.idxOf first.id
  | _ => True

/-! ## Positions are distinct and within the limit -/

theorem position_le_of_fits {row : PortfolioRow} (fits : row.fits = true) : row.position ≤ 11 := by
  simpa [PortfolioRow.fits] using fits

def Within (t : PortfolioTable) : Prop := ∀ row ∈ t.rows, row.position ≤ 11

theorem Within.positioned {t : PortfolioTable} (within : Within t) : Positioned t where
  distinct row mem other memOther profile position := by
    apply Table.eq_of_alt_eq mem memOther (m := (row.profileId, row.position)) rfl
    simp [PortfolioRow.place, profile, position]
  within := within

theorem Within.store {t t' : PortfolioTable} (within : Within t) {profileId : String} {write : Write}
    (stored : Portfolio.store profileId t write = some t') : Within t' := by
  cases write with
  | insertItem item =>
      simp only [Portfolio.store] at stored
      split_ifs at stored with fits
      have rows := (Table.insert?_eq_some stored).2
      intro row mem
      rw [rows] at mem
      rcases List.mem_cons.1 mem with rfl | old
      · exact position_le_of_fits fits
      · exact within row old
  | updateItem id sizeBytes mime caption position =>
      unfold Portfolio.store at stored
      dsimp only at stored
      cases found : t.lookup id with
      | none =>
          rw [found] at stored
          cases stored
      | some row =>
          simp only [found] at stored
          split_ifs at stored with fits
          intro new mem
          rcases Table.mem_update stored mem with ⟨old, memOld, same, rfl⟩ | ⟨old, -⟩
          · have known := Table.lookup_of_mem memOld
            rw [same, found] at known
            obtain rfl := Option.some.inj known
            exact position_le_of_fits fits
          · exact within new old
  | deleteItem id =>
      simp only [Portfolio.store] at stored
      split_ifs at stored
      obtain rfl := Option.some.inj stored
      intro row mem
      exact within row (List.mem_of_mem_filter mem)
  | _ =>
      obtain rfl := Option.some.inj stored
      exact within

theorem Within.storeAll {t t' : PortfolioTable} (within : Within t) {profileId : String}
    {writes : List Write} (stored : Portfolio.storeAll profileId t writes = some t') :
    Within t' := by
  induction writes generalizing t with
  | nil =>
      obtain rfl := Option.some.inj stored
      exact within
  | cons write writes ih =>
      obtain ⟨t'', first, rest⟩ := Option.bind_eq_some_iff.1 stored
      exact ih (within.store first) rest

theorem Within.step {t : PortfolioTable} (within : Within t) (e : String × PortfolioRequest) :
    Within (step t e) := by
  refine Process.runOn_invariant (fun op t within => ?_) _ within
  cases op with
  | commit writes reason =>
      unfold perform
      dsimp only
      split
      case h_1 t' stored => exact within.storeAll stored
      case h_2 => exact within
  | _ => exact within

theorem nodup_ids (t : PortfolioTable) (profileId : String) :
    ((items t profileId).map fun row => row.id).Nodup :=
  (List.filter_sublist.map _).nodup t.keys_nodup

theorem nodup_positions (t : PortfolioTable) (profileId : String) :
    ((items t profileId).map fun row => row.position).Nodup := by
  have rows : (items t profileId).Nodup := (nodup_ids t profileId).of_map
  apply List.Nodup.map_on _ rows
  intro row mem other memOther position
  unfold items at mem memOther
  rw [List.mem_filter, decide_eq_true_eq] at mem memOther
  apply Table.eq_of_alt_eq mem.1 memOther.1 (m := (row.profileId, row.position)) rfl
  simp [PortfolioRow.place, mem.2, memOther.2, position]

theorem length_items_le {t : PortfolioTable} (within : Within t) (profileId : String) :
    (items t profileId).length ≤ 12 := by
  have positions : ((items t profileId).map fun row => row.position) ⊆ List.range 12 := by
    intro position mem
    obtain ⟨row, found, rfl⟩ := List.mem_map.1 mem
    have bound := within row (List.mem_of_mem_filter found)
    rw [List.mem_range]
    omega
  simpa using (List.subperm_of_subset (nodup_positions t profileId) positions).length_le

/-! ## Uploads -/

theorem runOn_commitOrRaise (profileId : String) (head : Option Head) (writes : List Write)
    (t : PortfolioTable) :
    (commitOrRaise writes .request).runOn (perform profileId head) t =
      match storeAll profileId t writes with
      | some t' => (.ok (), t')
      | none => (.error .raised, t) := by
  let committed : Bool × PortfolioTable := perform profileId head (.commit writes .request) t
  have run : (commitOrRaise writes .request).runOn (perform profileId head) t =
      (if committed.1 then pure () else throw Failure.raised : ReviewM Unit).runOn
        (perform profileId head) committed.2 := rfl
  have outcome : committed = match storeAll profileId t writes with
      | some t' => (true, t')
      | none => (false, t) := rfl
  rw [run, outcome]
  cases storeAll profileId t writes <;> rfl

/-- An item that is inserted has a position of its own. -/
theorem insert_isSome_iff {t : PortfolioTable} {row : PortfolioRow} :
    (t.insert? row).isSome ↔
      (∀ other ∈ items t row.profileId, other.position ≠ row.position) ∧
        t.lookup row.id = none := by
  rw [Option.isSome_iff_ne_none, ne_eq, Table.insert?_eq_none_iff, Table.lookup_eq_none_iff,
    Table.Clashes, not_or, and_comm]
  apply and_congr_left'
  simp [PortfolioRow.place, items]

theorem answer_uploadUrl {t : PortfolioTable} {profileId : String} {body : PortfolioUploadRequest}
    {itemId : String} (mime : body.mime ∈ body.type.allowedMimes)
    (size : body.sizeBytes ≤ body.type.sizeCap)
    (count : (items t profileId).length < portfolioItemLimit) :
    (answer t (profileId, .uploadUrl body itemId)).1 = .ok () ↔
      (∀ row ∈ items t profileId, row.position ≠ (items t profileId).length) ∧
        t.lookup itemId = none := by
  have run : answer t (profileId, .uploadUrl body itemId) =
      (commitOrRaise [.insertItem ⟨itemId, (items t profileId).length, body.type, body.mime,
        body.sizeBytes, none, none, none, .pending, none⟩] .request).runOn
        (perform profileId none) t := by
    unfold answer PortfolioRequest.program requestUploadUrl
    dsimp only
    rw [if_neg (not_not_intro mime), if_neg (not_lt.2 size)]
    have few : ¬ portfolioItemLimit ≤ (portfolio t profileId).length := by
      rw [length_portfolio]
      exact not_le.2 count
    refine Eq.trans (b := Process.runOn (perform profileId none)
      (if portfolioItemLimit ≤ (portfolio t profileId).length then
          throw (.http 409 "Portfolio already at maximum of 12 items")
        else _) t) rfl ?_
    rw [if_neg few, ← length_portfolio]
    rfl
  have stored := @insert_isSome_iff t ⟨⟨itemId, (items t profileId).length, body.type, body.mime,
        body.sizeBytes, none, none, none, .pending, none⟩, profileId⟩
  rw [← stored, run, runOn_commitOrRaise]
  have fits : PortfolioRow.fits ⟨⟨itemId, (items t profileId).length, body.type, body.mime,
      body.sizeBytes, none, none, none, .pending, none⟩, profileId⟩ = true := by
    have few : (items t profileId).length < 12 := count
    simp only [PortfolioRow.fits, decide_eq_true_eq]
    omega
  simp only [storeAll, store, fits, if_true]
  cases t.insert? _ with
  | none => simp
  | some t' => simp

/-! ## Reordering -/

theorem placeOf_eq {order : List String} (nodup : order.Nodup) {item : PortfolioItem}
    (mem : item.id ∈ order) : placeOf order item = order.idxOf item.id := by
  have named : (item.id, order.idxOf item.id) ∈
      order.zipIdx.filter fun entry => entry.1 = item.id := by
    rw [List.mem_filter, List.mk_mem_zipIdx_iff_getElem?]
    exact ⟨List.getElem?_idxOf mem, by simp⟩
  unfold placeOf
  cases last : (order.zipIdx.filter fun entry => entry.1 = item.id).getLast? with
  | none =>
      rw [List.getLast?_eq_none_iff] at last
      rw [last] at named
      cases named
  | some entry =>
      have found := List.mem_of_getLast? last
      rw [List.mem_filter, List.mem_zipIdx_iff_getElem?, decide_eq_true_eq] at found
      obtain ⟨inside, at_⟩ := List.getElem?_eq_some_iff.1 found.1
      rw [Option.map_some, Option.getD_some, ← found.2, ← at_, nodup.idxOf_getElem]

/-- The row at the place that the order gives it. -/
def PortfolioRow.moveTo (order : List String) (row : PortfolioRow) : PortfolioRow :=
  { row with position := order.idxOf row.id }

theorem id_moveTo (order : List String) (row : PortfolioRow) : (row.moveTo order).id = row.id :=
  rfl

def moveWrite (order : List String) (row : PortfolioRow) : Write :=
  .updateItem row.id row.sizeBytes row.mime none (some (order.idxOf row.id))

/-- The statements of the flush are the moves of the rows. -/
theorem storeAll_moves {t : PortfolioTable} (profileId : String) {order : List String}
    {moving : List PortfolioRow} (mem : ∀ row ∈ moving, row ∈ t.rows)
    (nodup : (moving.map fun row => row.id).Nodup)
    (within : ∀ row ∈ moving, order.idxOf row.id ≤ 11) :
    storeAll profileId t (moving.map (moveWrite order)) =
      Table.updateEach (PortfolioRow.moveTo order) (id_moveTo order)
        (moving.map fun row => row.id) t := by
  induction moving generalizing t with
  | nil => rfl
  | cons row rest ih =>
      rw [List.map_cons, List.nodup_cons] at nodup
      rw [List.forall_mem_cons] at mem within
      have stored : store profileId t (moveWrite order row) =
          t.update? row.id (PortfolioRow.moveTo order) (id_moveTo order) := by
        have found : t.lookup row.id = some row := Table.lookup_of_mem mem.1
        have fits : (row.set row.sizeBytes row.mime none (some (order.idxOf row.id))).fits =
            true := by
          simp only [PortfolioRow.fits, PortfolioRow.set, Option.getD_some]
          exact decide_eq_true within.1
        simp only [store, moveWrite, found, fits, if_true]
        apply Table.update_congr
        intro other there same
        obtain rfl := Table.eq_of_key_eq there mem.1 same
        simp [PortfolioRow.set, PortfolioRow.moveTo]
      rw [List.map_cons, List.map_cons, storeAll, stored, Table.updateEach]
      cases updated : t.update? row.id (PortfolioRow.moveTo order) (id_moveTo order) with
      | none => rfl
      | some t' =>
          refine ih (fun later there => ?_) nodup.2 within.2
          apply Table.mem_of_update updated (mem.2 later there)
          intro same
          exact nodup.1 (same ▸ List.mem_map_of_mem there)

section Reorder

variable {t : PortfolioTable} {profileId : String} {order : List String}

/-- The rows of the items that a permutation moves. -/
def movedRows (t : PortfolioTable) (profileId : String) (order : List String) :
    List PortfolioRow :=
  moved PortfolioRow.toPortfolioItem order (items t profileId)

theorem mem_items {row : PortfolioRow} :
    row ∈ items t profileId ↔ row ∈ t.rows ∧ row.profileId = profileId := by
  rw [items, List.mem_filter, decide_eq_true_eq]

theorem mem_movedRows {row : PortfolioRow} : row ∈ movedRows t profileId order ↔
    row ∈ items t profileId ∧ placeOf order row.toPortfolioItem ≠ row.position := by
  rw [movedRows, moved, List.mem_insertionSort, List.mem_filter, decide_eq_true_eq]

theorem nodup_movedRows (t : PortfolioTable) (profileId : String) (order : List String) :
    ((movedRows t profileId order).map fun row => row.id).Nodup := by
  refine (((List.perm_insertionSort _ _).map _).nodup_iff).2 ?_
  exact (List.filter_sublist.map _).nodup (nodup_ids t profileId)

/-- What a permutation of the items names. -/
theorem nodup_of_perm (perm : order.Perm ((items t profileId).map fun row => row.id)) :
    order.Nodup :=
  perm.nodup_iff.2 (nodup_ids t profileId)

theorem mem_of_perm (perm : order.Perm ((items t profileId).map fun row => row.id))
    {row : PortfolioRow} (mem : row ∈ items t profileId) : row.id ∈ order :=
  perm.mem_iff.2 (List.mem_map_of_mem mem)

theorem placeOf_of_perm (perm : order.Perm ((items t profileId).map fun row => row.id))
    {row : PortfolioRow} (mem : row ∈ items t profileId) :
    placeOf order row.toPortfolioItem = order.idxOf row.id :=
  placeOf_eq (nodup_of_perm perm) (mem_of_perm perm mem)

/-- The rows of a permutation can be written exactly when none is in the way. -/
theorem moves_isSome_iff (perm : order.Perm ((items t profileId).map fun row => row.id)) :
    (Table.updateEach (PortfolioRow.moveTo order) (id_moveTo order)
        ((movedRows t profileId order).map fun row => row.id) t).isSome ↔
      (movedRows t profileId order).Pairwise fun first later =>
        later.position ≠ order.idxOf first.id := by
  have item : ∀ row ∈ movedRows t profileId order, row ∈ items t profileId := fun row mem =>
    (mem_movedRows.1 mem).1
  rw [Table.updateEach_isSome_iff (fun row mem => (mem_items.1 (item row mem)).1)
    (nodup_movedRows t profileId order)]
  · apply List.Pairwise.iff_of_mem
    intro first later memFirst memLater
    have owner := (mem_items.1 (item first memFirst)).2
    have owner' := (mem_items.1 (item later memLater)).2
    simp [PortfolioRow.place, PortfolioRow.moveTo, owner, owner']
  · intro row mem m column other memOther different
    have owner := (mem_items.1 (item row mem)).2
    obtain rfl := Option.some.inj column
    -- Only the items of the profile have a place that counts.
    by_cases mine : other.profileId = profileId
    · have memItem : other ∈ items t profileId := mem_items.2 ⟨memOther, mine⟩
      have apart : order.idxOf other.id ≠ order.idxOf row.id := fun same =>
        different ((List.idxOf_inj (mem_of_perm perm memItem)).1 same)
      constructor
      · intro _ same
        simp only [PortfolioRow.place, PortfolioRow.moveTo, Option.some.injEq,
          Prod.mk.injEq] at same
        exact apart same.2
      · intro stays same
        have still : placeOf order other.toPortfolioItem = other.position := by
          by_contra changes
          exact stays (mem_movedRows.2 ⟨memItem, changes⟩)
        rw [placeOf_of_perm perm memItem] at still
        simp only [PortfolioRow.place, PortfolioRow.moveTo, Option.some.injEq,
          Prod.mk.injEq] at same
        exact apart (still.trans same.2)
    · constructor
      · intro moves
        exact absurd (mem_items.1 (item other moves)).2 mine
      · intro _ same
        simp only [PortfolioRow.place, PortfolioRow.moveTo, Option.some.injEq,
          Prod.mk.injEq] at same
        exact mine (same.1.trans owner)

/-- After the moves every item is where the order says. -/
theorem position_of_moves (perm : order.Perm ((items t profileId).map fun row => row.id))
    {t' : PortfolioTable}
    (updated : Table.updateEach (PortfolioRow.moveTo order) (id_moveTo order)
      ((movedRows t profileId order).map fun row => row.id) t = some t')
    {i : Nat} {id : String} (named : order[i]? = some id) :
    (t'.lookup id).map (fun row => row.position) = some i := by
  obtain ⟨row, mem, rfl⟩ := List.mem_map.1 (perm.mem_iff.1 (List.mem_of_getElem? named))
  have found : t.lookup row.id = some row := Table.lookup_of_mem (mem_items.1 mem).1
  have index : order.idxOf row.id = i := by
    obtain ⟨inside, at_⟩ := List.getElem?_eq_some_iff.1 named
    rw [← at_, (nodup_of_perm perm).idxOf_getElem]
  rw [Table.lookup_updateEach (nodup_movedRows t profileId order) updated, found]
  split_ifs with moves
  · rw [Option.map_some, Option.map_some, PortfolioRow.moveTo, index]
  · have still : placeOf order row.toPortfolioItem = row.position := by
      by_contra changes
      exact moves (List.mem_map_of_mem (mem_movedRows.2 ⟨mem, changes⟩))
    rw [placeOf_of_perm perm mem, index] at still
    rw [Option.map_some, still]

theorem answer_reorder (t : PortfolioTable) (profileId : String) (order : List String) :
    answer t (profileId, .reorder order) =
      match storeAll profileId t ((movedRows t profileId order).map fun row =>
        .updateItem row.id row.sizeBytes row.mime none
          (some (placeOf order row.toPortfolioItem))) with
      | some t' => (.ok (), t')
      | none => (.error .raised, t) := by
  have run : answer t (profileId, .reorder order) = (commitOrRaise
      ((moved id order (portfolio t profileId)).map fun item => .updateItem item.id item.sizeBytes
        item.mime none (some (placeOf order item))) .request).runOn (perform profileId none) t :=
    rfl
  have rows : moved id order (portfolio t profileId) =
      (movedRows t profileId order).map PortfolioRow.toPortfolioItem := by
    unfold movedRows moved portfolio
    rw [List.map_insertionSort _ (fun item item' : PortfolioItem => item.id ≤ item'.id) _ _
      fun _ _ _ _ => Iff.rfl, List.filter_map]
    rfl
  rw [run, runOn_commitOrRaise, rows, List.map_map]
  rfl

/-- Writing the rows of a permutation moves them. -/
theorem storeAll_reorder (within : Within t)
    (perm : order.Perm ((items t profileId).map fun row => row.id)) :
    storeAll profileId t ((movedRows t profileId order).map fun row =>
        .updateItem row.id row.sizeBytes row.mime none
          (some (placeOf order row.toPortfolioItem))) =
      Table.updateEach (PortfolioRow.moveTo order) (id_moveTo order)
        ((movedRows t profileId order).map fun row => row.id) t := by
  have item : ∀ row ∈ movedRows t profileId order, row ∈ items t profileId := fun row mem =>
    (mem_movedRows.1 mem).1
  have writes : ((movedRows t profileId order).map fun row =>
      Write.updateItem row.id row.sizeBytes row.mime none
        (some (placeOf order row.toPortfolioItem))) =
      (movedRows t profileId order).map (moveWrite order) := by
    apply List.map_congr_left
    intro row mem
    rw [placeOf_of_perm perm (item row mem), moveWrite]
  rw [writes]
  apply storeAll_moves profileId (fun row mem => (mem_items.1 (item row mem)).1)
    (nodup_movedRows t profileId order)
  intro row mem
  have inside := List.idxOf_lt_length_of_mem (mem_of_perm perm (item row mem))
  have few := length_items_le within profileId
  rw [perm.length_eq, List.length_map] at inside
  omega

theorem honours_reorder_iff (within : Within t) :
    Honours t (profileId, .reorder order) ↔ keepsPlaces t (profileId, .reorder order) := by
  unfold Honours keepsPlaces
  dsimp only
  refine forall_congr' fun perm => ?_
  have moves := moves_isSome_iff perm
  unfold movedRows at moves
  rw [← moves, step, answer_reorder, storeAll_reorder within perm]
  unfold movedRows
  cases updated : Table.updateEach _ _ _ t with
  | none => simp
  | some t' => simpa using fun i id named => position_of_moves perm updated named

end Reorder

/-! ## Runs -/

theorem honours_iff {t : PortfolioTable} (within : Within t) (e : String × PortfolioRequest) :
    Honours t e ↔ keepsPlaces t e := by
  obtain ⟨profileId, request⟩ := e
  cases request with
  | uploadUrl body itemId =>
      refine forall_congr' fun mime => forall_congr' fun size => forall_congr' fun count => ?_
      exact answer_uploadUrl mime size count
  | reorder order => exact honours_reorder_iff within
  | _ => exact Iff.rfl

theorem within_empty : Within (Table.empty : PortfolioTable) := by
  intro row mem
  cases mem

end ColabPlatform.Profiles.Portfolio
