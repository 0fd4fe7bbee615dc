import ColabPlatform.Invites.Matches

/-!
# Blocked pairs

A block is looked up when an invite is sent, and by no answer.  The file says in which
runs no invite is accepted and no match announced between profiles one of which has
blocked the other.
-/

namespace ColabPlatform.Invites

open Foundation Common
open Billing (Uuid Timestamp)

/-- The block is between the two profiles of the invite. -/
def Block.concerns (block : Block) (row : CollabInvite) : Prop :=
  block.blockerId = row.fromProfileId ∧ block.blockedId = row.toProfileId ∨
    block.blockerId = row.toProfileId ∧ block.blockedId = row.fromProfileId

/-- What is promised of profiles that have blocked each other. -/
structure BlockedNeverMatch (svc : InviteService) (occurrences : List Occurrence) : Prop where
  /-- a match is announced only of profiles that have not -/
  unmatched : ∀ before e rest, occurrences = before ++ e :: rest → ∀ profileA profileB,
    (InviteState.run svc before).announcements profileA profileB <
        (InviteState.run svc (before ++ [e])).announcements profileA profileB →
      (InviteState.run svc before).world.isBlocked profileA profileB = false
  /-- an invite that was pending at the block is not accepted while the block stands -/
  unaccepted : ∀ before e during rest, occurrences = before ++ e :: (during ++ rest) →
    ∀ block : Block, block ∉ (InviteState.run svc before).world.blocks.rows →
      block ∈ (InviteState.run svc (before ++ [e])).world.blocks.rows →
      Guarded (InviteState.step svc) (fun s _ => block ∈ s.world.blocks.rows)
        (InviteState.run svc (before ++ [e])) during →
      ∀ row ∈ (InviteState.run svc before).world.invites.rows, row.status = .pending →
        block.concerns row →
        ∀ later ∈ (InviteState.run svc (before ++ e :: during)).world.invites.rows,
          later.id = row.id → later.status ≠ .accepted

/-! ## The runs in which it is kept -/

/-- The invite of an accept that may still be committed, or whose match is yet to be announced. -/
def Call.matching : Call → Option CollabInvite
  | .answer answering (.mirror row _) | .answer answering (.commit row _ _) =>
      if answering.kind = .accept then some row else none
  | .answer _ (.publish row (some _)) | .answer _ (.publishMatch row _) => some row
  | _ => none

namespace InviteState

/--
An accept takes the lock of a pending invite only while its profiles have not blocked
each other, and a block is stored only while no accept between the two is on its way.
-/
def heedsBlocks (s : InviteState) : Occurrence → Bool
  | .advance index outside =>
      match s.calls[index]? with
      | some (.answer answering .lock) =>
          match s.world.invites.lookup answering.inviteId with
          | some row =>
              !(outside.db && answering.kind = .accept && !s.locked answering.inviteId &&
                  row.toProfileId = answering.callerId && row.status = .pending) ||
                !s.world.isBlocked row.fromProfileId row.toProfileId
          | none => true
      | some (.block blocking .insert) =>
          !outside.db || s.calls.all fun call => call.matching.all fun row =>
            (row.sideOf blocking.callerId blocking.profileId).isNone
      | _ => true
  | _ => true

/-- The accepts that are on their way are between profiles that have not blocked each other. -/
def Clear (s : InviteState) : Prop :=
  ∀ call ∈ s.calls, ∀ row, call.matching = some row →
    s.world.isBlocked row.fromProfileId row.toProfileId = false

end InviteState

theorem World.isBlocked_iff {w : World} {profileA profileB : Uuid} :
    w.isBlocked profileA profileB = true ↔ ∃ row ∈ w.blocks.rows,
      row.blockerId = profileA ∧ row.blockedId = profileB ∨
        row.blockerId = profileB ∧ row.blockedId = profileA := by
  simp [isBlocked]

section

variable (svc : InviteService) (outside : Outside) (locked : Uuid → Bool) (w : World)

/-- Only an insert adds a block, between the two profiles of its request. -/
theorem blocks_goOn (call : Call) :
    (goOn svc outside locked call w).2.blocks.rows ⊆ w.blocks.rows ∨
      ∃ blocking row, call = .block blocking .insert ∧ outside.db = true ∧
        row.blockerId = blocking.callerId ∧ row.blockedId = blocking.profileId ∧
        (goOn svc outside locked call w).2.blocks.rows = row :: w.blocks.rows := by
  cases call with
  | send sending phase =>
      left
      have same := (sendStep_frame svc outside w sending phase).2
      simp [goOn, same]
  | answer answering phase =>
      obtain ⟨invites, published, same⟩ :=
        answerStep_frame outside (locked answering.inviteId) w answering phase
      left
      simp [goOn, same]
  | expire phase =>
      obtain ⟨invites, published, same⟩ := expireStep_frame outside locked w phase
      left
      simp [goOn, same]
  | block blocking phase =>
      cases phase with
      | insert =>
          simp only [goOn, blockStep, Prod.map]
          split
          · rename_i stored
            cases made : blocking.row w.now with
            | none => exact Or.inl (List.Subset.refl _)
            | some row =>
                cases inserted : w.blocks.insert? row with
                | none =>
                    simp only [inserted]
                    exact Or.inl (List.Subset.refl _)
                | some blocks =>
                    right
                    simp only [inserted]
                    unfold Blocking.row at made
                    split at made
                    · obtain rfl := Option.some.inj made
                      exact ⟨blocking, _, rfl, stored, rfl, rfl,
                        (Table.insert?_eq_some inserted).2⟩
                    · cases made
          · exact Or.inl (List.Subset.refl _)
      | _ =>
          left
          simp only [goOn, blockStep, Prod.map]
          repeat' split
          all_goals exact List.Subset.refl _
  | unblock callerId profileId phase =>
      left
      cases phase with
      | delete =>
          simp only [goOn, unblockStep, Prod.map]
          split
          · exact List.filter_sublist.subset
          · exact List.Subset.refl _
      | _ =>
          simp only [goOn, unblockStep, Prod.map]
          repeat' split
          all_goals exact List.Subset.refl _

/-- An accept that is on its way was so before, or takes the lock of its invite now. -/
theorem matching_goOn {call : Call} (mirrored : call.mirrored = true) {row : CollabInvite}
    (matching : (goOn svc outside locked call w).1.matching = some row) :
    call.matching = some row ∨
      ∃ answering, call = .answer answering .lock ∧ outside.db = true ∧
        answering.kind = .accept ∧ locked answering.inviteId = false ∧
        w.invites.lookup answering.inviteId = some row ∧
        row.toProfileId = answering.callerId ∧ row.status = .pending := by
  cases call with
  | answer answering phase =>
      cases phase with
      | lock =>
          obtain ⟨-, waits | ⟨failure, failed, -⟩ | ⟨found, free, reads, stored, own, pending, loads⟩⟩ :=
            answerStep_lock outside (locked answering.inviteId) w answering
          · simp [goOn, waits, Call.matching] at matching
          · simp [goOn, failed, Call.matching] at matching
          · by_cases kind : answering.kind = .accept
            · obtain rfl : found = row := by
                simpa [goOn, loads, kind, Call.matching] using matching
              exact Or.inr ⟨answering, rfl, reads, kind, free, stored, by
                simpa [kind, AnswerKind.party] using own, pending⟩
            · simp [goOn, loads, kind, Call.matching] at matching
      | mirror loaded at_ =>
          left
          obtain ⟨-, ⟨failure, failed, -⟩ | ⟨-, mirrorId, goes, -⟩⟩ :=
            answerStep_mirror outside (locked answering.inviteId) w answering loaded at_
          · simp [goOn, failed, Call.matching] at matching
          · simpa [goOn, goes, Call.matching] using matching
      | commit loaded at_ mirrorId =>
          left
          simp only [goOn, answerStep, Prod.map] at matching
          split at matching
          · cases mirrorId with
            | none => cases matching
            | some id =>
                have kind : answering.kind = .accept := by simpa [Call.mirrored] using mirrored
                simpa [Call.matching, kind] using matching
          · cases matching
      | publish loaded mirrorId =>
          left
          simp only [goOn, answerStep, Prod.map] at matching
          split at matching
          · cases mirrorId with
            | none => cases matching
            | some id => exact matching
          · cases matching
      | publishMatch loaded mirrorId => cases matching
      | done result => cases matching
  | _ => cases matching

end

theorem World.isBlocked_of_subset {w w' : World} (subset : w'.blocks.rows ⊆ w.blocks.rows)
    {profileA profileB : Uuid} (free : w.isBlocked profileA profileB = false) :
    w'.isBlocked profileA profileB = false := by
  by_contra blocked
  obtain ⟨row, mem, between⟩ := World.isBlocked_iff.1 (by simpa using blocked)
  have before := World.isBlocked_iff.2 ⟨row, subset mem, between⟩
  simp [free] at before

section

variable {svc : InviteService} {s : InviteState}

/-- What no step makes blocked: the pairs that no block of this step is between. -/
theorem InviteState.free_advance {index : Nat} {outside : Outside} {old : Call}
    (found : s.calls[index]? = some old)
    (heeds : s.heedsBlocks (.advance index outside) = true) {call : Call} (among : call ∈ s.calls)
    {row : CollabInvite} (matching : call.matching = some row)
    (free : s.world.isBlocked row.fromProfileId row.toProfileId = false) :
    (goOn svc outside s.locked old s.world).2.isBlocked row.fromProfileId row.toProfileId =
      false := by
  rcases blocks_goOn svc outside s.locked s.world old with
    subset | ⟨blocking, block, rfl, stored, blocker, blocked, rows⟩
  · exact World.isBlocked_of_subset subset free
  · have apart : (row.sideOf blocking.callerId blocking.profileId).isNone = true := by
      have heeds : ∀ call ∈ s.calls, call.matching.all (fun row =>
          (row.sideOf blocking.callerId blocking.profileId).isNone) = true := by
        simpa [InviteState.heedsBlocks, found, stored] using heeds
      have own := heeds call among
      rwa [matching] at own
    have none := CollabInvite.isSome_sideOf row blocking.callerId blocking.profileId
    rw [Option.isNone_iff_eq_none.1 apart] at none
    by_contra both
    obtain ⟨found, mem, between⟩ := World.isBlocked_iff.1 (by simpa using both)
    rw [rows] at mem
    rcases List.mem_cons.1 mem with rfl | before
    · rw [blocker, blocked] at between
      rcases between with ⟨same, same'⟩ | ⟨same, same'⟩
      · simp [CollabInvite.between, same, same'] at none
      · simp [CollabInvite.between, same, same'] at none
    · have already := World.isBlocked_iff.2 ⟨found, before, between⟩
      simp [free] at already

theorem InviteState.Clear.step (h : s.Clear) (mirrored : ∀ call ∈ s.calls, call.mirrored = true)
    {e : Occurrence} (heeds : s.heedsBlocks e = true) : (s.step svc e).Clear := by
  cases e with
  | begin request =>
      simp only [InviteState.step]
      split
      · intro call mem row matching
        rcases List.mem_append.1 mem with before | new
        · exact h call before row matching
        · obtain rfl := List.mem_singleton.1 new
          cases request <;> cases matching
      · exact h
  | tick time => exact h
  | entitlementChanged userId => exact h
  | advance index outside =>
      cases found : s.calls[index]? with
      | none =>
          simp only [InviteState.step, found]
          exact h
      | some old =>
          have among := List.mem_of_getElem? found
          simp only [InviteState.step, found]
          intro call mem row matching
          rcases mem_set_cases mem with rfl | ⟨j, -, atJ⟩
          · rcases matching_goOn svc outside s.locked s.world (mirrored old among) matching with
              before | ⟨answering, rfl, reads, kind, unlocked, stored, own, pending⟩
            · exact InviteState.free_advance found heeds among before (h old among row before)
            · have free : s.world.isBlocked row.fromProfileId row.toProfileId = false := by
                simpa [InviteState.heedsBlocks, found, reads, kind, unlocked, stored, own,
                  pending] using heeds
              rcases blocks_goOn svc outside s.locked s.world (.answer answering .lock) with
                subset | ⟨blocking, block, other, -⟩
              · exact World.isBlocked_of_subset subset free
              · cases other
          · have before := List.mem_of_getElem? atJ
            exact InviteState.free_advance found heeds before matching (h call before row matching)

/-! ## The runs -/

theorem World.isBlocked_comm (w : World) (profileA profileB : Uuid) :
    w.isBlocked profileA profileB = w.isBlocked profileB profileA := by
  rw [Bool.eq_iff_iff, isBlocked_iff, isBlocked_iff]
  simp only [or_comm]

theorem World.isBlocked_of_sideOf (w : World) {row : CollabInvite} {profileA profileB : Uuid}
    (between : (row.sideOf profileA profileB).isSome = true) :
    w.isBlocked profileA profileB = w.isBlocked row.fromProfileId row.toProfileId := by
  obtain ⟨side, same⟩ := Option.isSome_iff_exists.1 between
  obtain ⟨sender, recipient⟩ := CollabInvite.ends_of_sideOf same
  rw [sender, recipient]
  cases side with
  | true => rfl
  | false => exact w.isBlocked_comm _ _

/-- A step announces matches only of profiles that have not blocked each other. -/
theorem InviteState.Clear.unmatched (h : s.Clear) {e : Occurrence} {profileA profileB : Uuid}
    (announces : s.announcements profileA profileB < (s.step svc e).announcements profileA profileB) :
    s.world.isBlocked profileA profileB = false := by
  cases e with
  | begin request =>
      simp only [InviteState.step] at announces
      split at announces <;> exact absurd announces (Nat.lt_irrefl _)
  | tick time => exact absurd announces (Nat.lt_irrefl _)
  | entitlementChanged userId => exact absurd announces (Nat.lt_irrefl _)
  | advance index outside =>
      cases found : s.calls[index]? with
      | none =>
          simp only [InviteState.step, found] at announces
          exact absurd announces (Nat.lt_irrefl _)
      | some old =>
          simp only [InviteState.step, found, InviteState.announcements] at announces
          rcases published_goOn svc outside s.locked s.world old with
            same | ⟨event, silent, same⟩ | ⟨answering, row, mirrorId, rfl, -, same⟩
          · rw [same] at announces
            exact absurd announces (Nat.lt_irrefl _)
          · rw [same, List.countP_cons_of_neg (by simp [silent])] at announces
            exact absurd announces (Nat.lt_irrefl _)
          · by_cases between : (row.sideOf profileA profileB).isSome = true
            · rw [s.world.isBlocked_of_sideOf between]
              exact h _ (List.mem_of_getElem? found) row rfl
            · rw [same, List.countP_cons_of_neg (by rwa [announces_matchCreated])] at announces
              exact absurd announces (Nat.lt_irrefl _)

/-- The invite is stored, and it is not accepted. -/
def World.Withheld (w : World) (row : CollabInvite) : Prop :=
  ∃ stored ∈ w.invites.rows, stored.id = row.id ∧ stored.fromProfileId = row.fromProfileId ∧
    stored.toProfileId = row.toProfileId ∧ stored.status ≠ .accepted

/-- No step accepts an invite between profiles one of which has blocked the other. -/
theorem InviteState.Clear.withheld (h : s.Clear) (life : Lifecycle s) {row : CollabInvite}
    {block : Block} (stands : block ∈ s.world.blocks.rows) (concerns : block.concerns row)
    (withheld : s.world.Withheld row) (e : Occurrence) : (s.step svc e).world.Withheld row := by
  obtain ⟨stored, mem, key, sender, recipient, pending⟩ := withheld
  cases e with
  | begin request =>
      simp only [InviteState.step]
      split <;> exact ⟨stored, mem, key, sender, recipient, pending⟩
  | tick time => exact ⟨stored, mem, key, sender, recipient, pending⟩
  | entitlementChanged userId => exact ⟨stored, mem, key, sender, recipient, pending⟩
  | advance index outside =>
      cases found : s.calls[index]? with
      | none =>
          simp only [InviteState.step, found]
          exact ⟨stored, mem, key, sender, recipient, pending⟩
      | some old =>
          have among := List.mem_of_getElem? found
          have goes := goes_goOn svc outside s.locked s.world old
          have kept := (mem_goOn svc outside s.locked s.world old).1 stored mem
          simp only [InviteState.step, found]
          rcases old.change_cases outside stored with same | ⟨status, at_, -, turned⟩
          · exact ⟨stored, same ▸ kept, key, sender, recipient, pending⟩
          · refine ⟨_, kept, (Call.change_id ..).trans key, ?_, ?_, fun accepted => ?_⟩
            · rw [turned]
              exact sender
            · rw [turned]
              exact recipient
            · by_cases same : old.change outside stored = stored
              · exact pending (same ▸ accepted)
              · obtain ⟨loads, was, key', -, loaded⟩ :=
                  life.held old among _ (goes.changed stored same).1
                obtain rfl := Table.eq_of_key_eq was mem key'
                have between : loads.between loads.fromProfileId loads.toProfileId = true := by
                  simp [CollabInvite.between]
                obtain ⟨-, answering, row', at_', mirrorId, rfl, kind, -⟩ :=
                  Call.accepts_iff.1 (Call.accepts_of_change loaded same accepted between)
                obtain ⟨rfl, -⟩ := loaded
                have free := h _ among loads (by simp [Call.matching, kind])
                have blocked := World.isBlocked_iff.2 ⟨block, stands, concerns⟩
                rw [← sender, ← recipient, free] at blocked
                cases blocked

/-- The step that stores a block leaves the invites as they are. -/
theorem invites_of_block {e : Occurrence} {block : Block} (new : block ∉ s.world.blocks.rows)
    (stands : block ∈ (s.step svc e).world.blocks.rows) :
    (s.step svc e).world.invites = s.world.invites := by
  cases e with
  | begin request =>
      simp only [InviteState.step]
      split <;> rfl
  | tick time => rfl
  | entitlementChanged userId => rfl
  | advance index outside =>
      cases found : s.calls[index]? with
      | none => simp only [InviteState.step, found]
      | some old =>
          simp only [InviteState.step, found] at stands ⊢
          rcases blocks_goOn svc outside s.locked s.world old with
            subset | ⟨blocking, row, rfl, -⟩
          · exact absurd (subset stands) new
          · obtain ⟨blocks, published, same⟩ := blockStep_frame outside s.world blocking .insert
            simp [goOn, same]

end

/-- While accepts heed the blocks, blocked profiles neither match nor accept. -/
theorem blocked_never_match (svc : InviteService) {occurrences : List Occurrence}
    (heeds : Guarded (InviteState.step svc) (fun s e => s.heedsBlocks e = true) .initial
      occurrences) :
    BlockedNeverMatch svc occurrences := by
  have kept : ∀ (s : InviteState) (e : Occurrence), s.heedsBlocks e = true →
      (Lifecycle s ∧ (∀ call ∈ s.calls, call.mirrored = true) ∧ s.Clear) →
      Lifecycle (s.step svc e) ∧ (∀ call ∈ (s.step svc e).calls, call.mirrored = true) ∧
        (s.step svc e).Clear :=
    fun s e heeds ⟨life, mirrored, clear⟩ =>
      ⟨life.step e, mirrored_step mirrored e, clear.step mirrored heeds⟩
  have reached : ∀ before rest, occurrences = before ++ rest →
      Lifecycle (InviteState.run svc before) ∧
        (∀ call ∈ (InviteState.run svc before).calls, call.mirrored = true) ∧
        (InviteState.run svc before).Clear := by
    rintro before rest rfl
    exact runFrom_invariant_of_guarded kept
      ⟨.initial, fun call mem => (by cases mem), fun call mem => (by cases mem)⟩ heeds.prefix
  refine ⟨?_, ?_⟩
  · rintro before e rest same profileA profileB announces
    have last : InviteState.run svc (before ++ [e]) = (InviteState.run svc before).step svc e := by
      rw [InviteState.run, runFrom_append]
      rfl
    rw [last] at announces
    exact (reached before _ same).2.2.unmatched announces
  · rintro before e during rest same block new stands standing row mem pending concerns later
      stored key
    have last : InviteState.run svc (before ++ [e]) = (InviteState.run svc before).step svc e := by
      rw [InviteState.run, runFrom_append]
      rfl
    have whole : InviteState.run svc (before ++ e :: during) =
        runFrom (InviteState.step svc) (InviteState.run svc (before ++ [e])) during := by
      rw [InviteState.run, InviteState.run, ← runFrom_append, List.append_assoc]
      rfl
    have split : occurrences = (before ++ [e]) ++ (during ++ rest) := by
      rw [same, List.append_assoc]
      rfl
    have withheld : (InviteState.run svc (before ++ [e])).world.Withheld row := by
      rw [last] at stands ⊢
      refine ⟨row, ?_, rfl, rfl, rfl, by simp [pending]⟩
      rwa [invites_of_block new stands]
    have heeding : Guarded (InviteState.step svc) (fun s e => s.heedsBlocks e = true)
        (InviteState.run svc (before ++ [e])) during := by
      have suffix := (split ▸ heeds).suffix
      exact suffix.prefix
    have step : ∀ (s : InviteState) (e : Occurrence),
        s.heedsBlocks e = true ∧ block ∈ s.world.blocks.rows →
        (Lifecycle s ∧ (∀ call ∈ s.calls, call.mirrored = true) ∧ s.Clear) ∧ s.world.Withheld row →
        (Lifecycle (s.step svc e) ∧ (∀ call ∈ (s.step svc e).calls, call.mirrored = true) ∧
          (s.step svc e).Clear) ∧ (s.step svc e).world.Withheld row :=
      fun s e ⟨heeds, stands⟩ ⟨held, withheld⟩ =>
        ⟨kept s e heeds held, held.2.2.withheld held.1 stands concerns withheld e⟩
    obtain ⟨-, found, was, key', -, -, unaccepted⟩ := runFrom_invariant_of_guarded step
      ⟨reached _ _ split, withheld⟩ (heeding.and standing)
    rw [whole] at stored
    rwa [Table.eq_of_key_eq stored was (key.trans key'.symm)]

/-! ## Two runs -/

def annaBlocksBen : List Occurrence :=
  .begin (.block { callerId := ⟨"anna"⟩, profileId := ⟨"ben"⟩ }) ::
    List.replicate 3 (.advance 4 {})

/-- Both accept, and then Anna blocks Ben. -/
theorem blocked_after_match :
    BlockedNeverMatch plainService (bothSent ++ List.replicate 4 (.advance 2 {}) ++
      List.replicate 5 (.advance 3 {}) ++ annaBlocksBen) :=
  blocked_never_match plainService (by decide +kernel)

/-- Ben accepts, Anna blocks him, and then she accepts his invite: the match is announced. -/
theorem matched_while_blocked :
    ¬ BlockedNeverMatch plainService (bothSent ++ List.replicate 4 (.advance 2 {}) ++
      annaBlocksBen ++ List.replicate 4 (.advance 3 {}) ++ [.advance 3 {}]) :=
  fun never => absurd
    (never.unmatched _ (.advance 3 {}) [] rfl ⟨"anna"⟩ ⟨"ben"⟩ (by decide +kernel))
    (by decide +kernel)

end ColabPlatform.Invites
