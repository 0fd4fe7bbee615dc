import ColabPlatform.Foundation.Table

/-!
# Updating rows one after the other

A unique column is checked at every update of a row.  Rows that exchange their
values of that column can then be updated only in an order in which no row gets
a value that a row still has that comes after it.
-/

namespace ColabPlatform.Foundation.Table

universe u v w

variable {ρ : Type u} {κ : Type v} {μ : Type w} {key : ρ → κ} {alt : ρ → Option μ}
  [DecidableEq κ] [DecidableEq μ] {f : ρ → ρ} {same_key : ∀ row, key (f row) = key row}

theorem update_congr {g : ρ → ρ} {same_key' : ∀ row, key (g row) = key row}
    {t : Table ρ key alt} {k : κ} (same : ∀ row ∈ t.rows, key row = k → f row = g row) :
    t.update? k f same_key = t.update? k g same_key' := by
  have rows : (t.rows.map fun row => if key row = k then f row else row) =
      t.rows.map fun row => if key row = k then g row else row := by
    apply List.map_congr_left
    intro row mem
    by_cases here : key row = k
    · simp [here, same row mem here]
    · simp [here]
  unfold update?
  simp only [rows]

/-- A row is updated exactly when no other row has its new value. -/
theorem update_isSome_iff {t : Table ρ key alt} {row : ρ} (mem : row ∈ t.rows) :
    (t.update? (key row) f same_key).isSome ↔
      ∀ m ∈ alt (f row), ∀ other ∈ t.rows, key other ≠ key row → alt other ≠ some m := by
  constructor
  · intro stored m column other memOther apart same
    obtain ⟨t', updated⟩ := Option.isSome_iff_exists.1 stored
    have rows := rows_update updated
    have new : f row ∈ t'.rows := by
      rw [rows]
      exact List.mem_map.2 ⟨row, mem, if_pos rfl⟩
    have old : other ∈ t'.rows := by
      rw [rows]
      exact List.mem_map.2 ⟨other, memOther, if_neg apart⟩
    have same_row := eq_of_alt_eq new old column same
    apply apart
    rw [← same_row, same_key]
  · intro fresh
    rw [Option.isSome_iff_ne_none]
    apply update_ne_none
    intro row' mem' here m column other memOther apart
    obtain rfl := eq_of_key_eq mem' mem here
    exact fresh m column other memOther apart

/-- The updates of the rows with these keys, up to the first that is refused. -/
def updateEach (f : ρ → ρ) (same_key : ∀ row, key (f row) = key row) :
    List κ → Table ρ key alt → Option (Table ρ key alt)
  | [], t => some t
  | k :: ks, t => (t.update? k f same_key).bind (updateEach f same_key ks)

/-- The other rows are left alone by an update. -/
theorem mem_of_update {t t' : Table ρ key alt} {k : κ} (updated : t.update? k f same_key = some t')
    {row : ρ} (mem : row ∈ t.rows) (other : key row ≠ k) : row ∈ t'.rows := by
  rw [rows_update updated]
  exact List.mem_map.2 ⟨row, mem, if_neg other⟩

/-- The rows can be moved when those that are moved later are not in the way of those
that are moved before them. -/
theorem updateEach_isSome_iff {moving : List ρ} {t : Table ρ key alt}
    (mem : ∀ row ∈ moving, row ∈ t.rows) (nodup : (moving.map key).Nodup)
    (apart : ∀ row ∈ moving, ∀ m ∈ alt (f row), ∀ other ∈ t.rows, key other ≠ key row →
      (other ∈ moving → alt (f other) ≠ some m) ∧ (other ∉ moving → alt other ≠ some m)) :
    (updateEach f same_key (moving.map key) t).isSome ↔
      moving.Pairwise fun first later => ∀ m ∈ alt (f first), alt later ≠ some m := by
  induction moving generalizing t with
  | nil => simp [updateEach]
  | cons row rest ih =>
      rw [List.map_cons, List.nodup_cons] at nodup
      rw [List.forall_mem_cons] at mem
      have others : ∀ later ∈ rest, key later ≠ key row := fun later there same =>
        nodup.1 (same ▸ List.mem_map_of_mem there)
      have first : (t.update? (key row) f same_key).isSome ↔
          ∀ later ∈ rest, ∀ m ∈ alt (f row), alt later ≠ some m := by
        rw [update_isSome_iff mem.1]
        constructor
        · intro fresh later there m column
          exact fresh m column later (mem.2 later there) (others later there)
        · intro fresh m column other memOther different
          by_cases moved : other ∈ rest
          · exact fresh other moved m column
          · refine (apart row List.mem_cons_self m column other memOther different).2 fun here => ?_
            rcases List.mem_cons.1 here with rfl | there
            · exact different rfl
            · exact moved there
      rw [List.pairwise_cons, ← first, List.map_cons, updateEach]
      cases updated : t.update? (key row) f same_key with
      | none => simp
      | some t' =>
          rw [Option.bind_some, Option.isSome_some, eq_self, true_and]
          refine ih (fun later there => mem_of_update updated (mem.2 later there)
            (others later there)) nodup.2 fun row' there m column other memOther different => ?_
          rcases mem_update updated memOther with ⟨old, memOld, here, rfl⟩ | ⟨stays, notRow⟩
          · -- the row that has just been moved
            obtain rfl := eq_of_key_eq memOld mem.1 here
            have target := (apart row' (List.mem_cons_of_mem _ there) m column old memOld
              (by rwa [same_key] at different)).1 List.mem_cons_self
            exact ⟨fun again => absurd (same_key old) (others _ again), fun _ => target⟩
          · have before := apart row' (List.mem_cons_of_mem _ there) m column other stays different
            refine ⟨fun again => before.1 (List.mem_cons_of_mem _ again), fun not_again => ?_⟩
            refine before.2 fun here => ?_
            rcases List.mem_cons.1 here with rfl | again
            · exact notRow rfl
            · exact not_again again

theorem lookup_updateEach {ks : List κ} (nodup : ks.Nodup) {t t' : Table ρ key alt}
    (updated : updateEach f same_key ks t = some t') (j : κ) :
    t'.lookup j = if j ∈ ks then (t.lookup j).map f else t.lookup j := by
  induction ks generalizing t with
  | nil =>
      obtain rfl := Option.some.inj updated
      simp
  | cons k ks ih =>
      rw [List.nodup_cons] at nodup
      obtain ⟨t'', first, rest⟩ := Option.bind_eq_some_iff.1 updated
      rw [ih nodup.2 rest, lookup_update first]
      by_cases here : k = j
      · subst here
        simp [nodup.1]
      · simp [here, Ne.symm here]

end ColabPlatform.Foundation.Table
