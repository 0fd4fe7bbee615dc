import ColabPlatform.Foundation.Rendezvous
import ColabPlatform.Invites.Lifecycle

/-!
# Mutual matches

The invites between two profiles are two sides that meet: an accept looks for an
accepted invite of the other direction, commits, and announces the match if it saw
one.  The look takes no lock on the other rows, so the match is announced once in
those runs in which the looks are harmless.
-/

namespace ColabPlatform.Invites

open Foundation Common
open Billing (Uuid Timestamp)

/-! ## What is announced -/

/-- The event announces a match of the two profiles. -/
def InviteEvent.announces (profileA profileB : Uuid) : InviteEvent → Bool
  | .matchCreated a b _ _ => a = profileA ∧ b = profileB ∨ a = profileB ∧ b = profileA
  | _ => false

/-- Some invite from the first profile to the second one is accepted. -/
def World.accepted (w : World) (sender recipient : Uuid) : Bool :=
  w.invites.rows.any fun row => row.between sender recipient ∧ row.status = .accepted

/-- The direction of an invite between two profiles: `true` from the first to the second. -/
def CollabInvite.sideOf (row : CollabInvite) (profileA profileB : Uuid) : Option Bool :=
  if row.between profileA profileB then some true
  else if row.between profileB profileA then some false
  else none

/-- An accept of an invite between the two profiles that has locked it is under way. -/
def Call.accepting (profileA profileB : Uuid) : Call → Bool
  | .answer answering (.mirror row _) | .answer answering (.commit row _ _)
  | .answer answering (.publish row _) | .answer answering (.publishMatch row _) =>
      answering.kind = .accept ∧ (row.sideOf profileA profileB).isSome
  | _ => false

namespace InviteState

def announcements (s : InviteState) (profileA profileB : Uuid) : Nat :=
  s.world.published.countP (InviteEvent.announces profileA profileB)

/-- What is promised of the matches of two profiles. -/
structure MatchedOnce (s : InviteState) (profileA profileB : Uuid) : Prop where
  announced : (∀ call ∈ s.calls, call.accepting profileA profileB = false) →
    s.announcements profileA profileB =
      if s.world.accepted profileA profileB ∧ s.world.accepted profileB profileA then 1 else 0
  /-- no accept that has locked its invite fails for the number of mirrors -/
  unfailing : ∀ answering, .answer answering (.done (.error .multipleResultsFound)) ∈ s.calls →
    ∀ row ∈ s.world.invites.rows, row.id = answering.inviteId →
      row.sideOf profileA profileB = none

end InviteState

/-! ## The runs in which it is kept -/

/-- An accept of an invite in this direction has looked and is about to commit. -/
def Call.committing (sender recipient : Uuid) : Call → Bool
  | .answer answering (.commit row _ _) =>
      answering.kind = .accept ∧ row.between sender recipient
  | _ => false

/-- It has seen no mirror. -/
def Call.unmatched (sender recipient : Uuid) : Call → Bool
  | .answer answering (.commit row _ none) =>
      answering.kind = .accept ∧ row.between sender recipient
  | _ => false

namespace InviteState

/--
The look for a mirror is harmless: if it finds none, no accept in the other direction
that found none either is about to commit; if it finds one, no invite in its own
direction is accepted or about to be; and it does not find several.
-/
def seesRight (s : InviteState) (row : CollabInvite) : Bool :=
  match s.world.acceptedFrom row.toProfileId row.fromProfileId with
  | [] => s.calls.all fun call => !call.unmatched row.toProfileId row.fromProfileId
  | [_] =>
      !s.world.accepted row.fromProfileId row.toProfileId &&
        s.calls.all fun call => !call.committing row.fromProfileId row.toProfileId
  | _ => false

/-- The looks between the two profiles are harmless, and their events are published. -/
def looksRight (profileA profileB : Uuid) (s : InviteState) : Occurrence → Bool
  | .advance index outside =>
      match s.calls[index]? with
      | some (.answer _ (.mirror row _)) =>
          !outside.db || (row.sideOf profileA profileB).isNone || s.seesRight row
      | some (.answer _ (.publish row (some _))) | some (.answer _ (.publishMatch row _)) =>
          outside.published || (row.sideOf profileA profileB).isNone
      | _ => true
  | _ => true

end InviteState

/-! ## The two sides -/

namespace World

variable {w : World} {sender recipient : Uuid}

theorem accepted_iff : w.accepted sender recipient = true ↔
    ∃ row ∈ w.invites.rows, row.between sender recipient = true ∧ row.status = .accepted := by
  simp [accepted]

theorem accepted_eq (w : World) (sender recipient : Uuid) :
    w.accepted sender recipient = !(w.acceptedFrom sender recipient).isEmpty := by
  unfold accepted acceptedFrom
  induction w.invites.rows with
  | nil => rfl
  | cons row rows ih =>
      rw [List.any_cons, List.filter_cons, ih]
      split <;> simp_all

end World

/-- The step commits the accept of an invite in this direction. -/
def Call.accepts (outside : Outside) (sender recipient : Uuid) (call : Call) : Bool :=
  outside.db && call.committing sender recipient

theorem Call.accepts_iff {outside : Outside} {sender recipient : Uuid} {call : Call} :
    call.accepts outside sender recipient = true ↔
      outside.db = true ∧ ∃ answering row at_ mirrorId,
        call = .answer answering (.commit row at_ mirrorId) ∧ answering.kind = .accept ∧
          row.between sender recipient = true := by
  unfold accepts
  rw [Bool.and_eq_true]
  refine and_congr_right fun _ => ⟨fun commits => ?_, ?_⟩
  · cases call with
    | answer answering phase =>
        cases phase with
        | commit row at_ mirrorId =>
            obtain ⟨kind, between⟩ : _ ∧ _ := by simpa [committing] using commits
            exact ⟨answering, row, at_, mirrorId, rfl, kind, between⟩
        | _ => cases commits
    | _ => cases commits
  · rintro ⟨answering, row, at_, mirrorId, rfl, kind, between⟩
    simp [committing, kind, between]

/-- Only the commit of an accept makes an invite accepted. -/
theorem Call.accepts_of_change {outside : Outside} {call : Call} {row : CollabInvite}
    (loaded : call.loaded row) (other : call.change outside row ≠ row)
    (accepted : (call.change outside row).status = .accepted) {sender recipient : Uuid}
    (between : row.between sender recipient = true) :
    call.accepts outside sender recipient = true := by
  cases call with
  | answer answering phase =>
      cases phase with
      | commit loads at_ mirrorId =>
          obtain ⟨rfl, -⟩ := loaded
          simp only [change] at other accepted
          split at accepted
          · rename_i stored
            refine accepts_iff.2 ⟨stored.1, answering, row, at_, mirrorId, rfl, ?_, between⟩
            cases kind : answering.kind <;> simp [kind, AnswerKind.status] at accepted
            rfl
          · rename_i lost
            exact absurd (if_neg lost) other
      | _ => exact absurd rfl other
  | expire phase =>
      cases phase with
      | update rows at_ =>
          simp only [change] at other accepted
          split at accepted
          · cases accepted
          · rename_i lost
            exact absurd (if_neg lost) other
      | _ => exact absurd rfl other
  | _ => exact absurd rfl other

theorem accepted_goOn {svc : InviteService} {s : InviteState} (life : Lifecycle s) {index : Nat}
    {old : Call} (found : s.calls[index]? = some old) (outside : Outside)
    (sender recipient : Uuid) :
    (goOn svc outside s.locked old s.world).2.accepted sender recipient =
      (s.world.accepted sender recipient || old.accepts outside sender recipient) := by
  have mem := List.mem_of_getElem? found
  have goes := goes_goOn svc outside s.locked s.world old
  obtain ⟨kept, came⟩ := mem_goOn svc outside s.locked s.world old
  rw [Bool.eq_iff_iff, Bool.or_eq_true, World.accepted_iff, World.accepted_iff]
  constructor
  · rintro ⟨row, stored, between, accepted⟩
    rcases came row stored with ⟨pending, -⟩ | ⟨before, was, rfl⟩
    · simp [pending] at accepted
    · by_cases same : old.change outside before = before
      · rw [same] at between accepted
        exact Or.inl ⟨before, was, between, accepted⟩
      · right
        obtain ⟨row, stored, key, -, loaded⟩ := life.held old mem _ (goes.changed before same).1
        obtain rfl := Table.eq_of_key_eq stored was key
        have direction : row.between sender recipient = true := by
          rcases old.change_cases outside row with still | ⟨status, at_, -, turned⟩
          · exact absurd still same
          · rwa [turned] at between
        exact Call.accepts_of_change loaded same accepted direction
  · rintro (⟨row, stored, between, accepted⟩ | accepts)
    · by_cases same : old.change outside row = row
      · exact ⟨row, same ▸ kept row stored, between, accepted⟩
      · obtain ⟨found, was, key, pending, -⟩ := life.held old mem _ (goes.changed row same).1
        obtain rfl := Table.eq_of_key_eq was stored key
        simp [pending] at accepted
    · obtain ⟨stored, answering, row, at_, mirrorId, rfl, kind, between⟩ :=
        Call.accepts_iff.1 accepts
      obtain ⟨loaded, was, key, -, rfl, -⟩ := life.held _ mem answering.inviteId
        (by simp [Call.holds])
      have turned : (Call.answer answering (.commit loaded at_ mirrorId)).change outside loaded =
          loaded.turn .accepted at_ := by
        rw [Call.change, if_pos ⟨stored, key⟩, kind]
        rfl
      exact ⟨loaded.turn .accepted at_, turned ▸ kept loaded was, between, rfl⟩

/-! ## The simulation -/

/-- Where a call is as a visitor of the two sides. -/
def Call.stage (profileA profileB : Uuid) : Call → Stage
  | .answer answering (.commit row _ mirrorId) =>
      match answering.kind, row.sideOf profileA profileB with
      | .accept, some side => .arriving side mirrorId.isSome
      | _, _ => .idle
  | .answer _ (.publish row (some _)) | .answer _ (.publishMatch row _) =>
      if (row.sideOf profileA profileB).isSome then .announcing else .idle
  | _ => .idle

/-- The state as the meeting of two sides. -/
def InviteState.rendezvous (s : InviteState) (profileA profileB : Uuid) : Rendezvous :=
  { there := fun side =>
      if side then s.world.accepted profileA profileB else s.world.accepted profileB profileA
    stages := s.calls.map (Call.stage profileA profileB)
    announced := s.announcements profileA profileB }

/-- Only accepts have mirrors. -/
def Call.mirrored : Call → Bool
  | .answer answering (.mirror ..) | .answer answering (.commit _ _ (some _))
  | .answer answering (.publish _ (some _)) | .answer answering (.publishMatch ..) =>
      answering.kind = .accept
  | _ => true

theorem mirrored_goOn (svc : InviteService) (outside : Outside) (locked : Uuid → Bool)
    (w : World) {call : Call} (h : call.mirrored = true) :
    (goOn svc outside locked call w).1.mirrored = true := by
  cases call with
  | answer answering phase =>
      cases phase with
      | lock =>
          obtain ⟨-, waits | ⟨failure, failed, -⟩ | ⟨row, -, -, -, -, -, loads⟩⟩ :=
            answerStep_lock outside (locked answering.inviteId) w answering
          · simp [goOn, waits, Call.mirrored]
          · simp [goOn, failed, Call.mirrored]
          · by_cases kind : answering.kind = .accept <;> simp [goOn, loads, kind, Call.mirrored]
      | mirror row at_ =>
          simp only [goOn, answerStep, Prod.map]
          repeat' split
          all_goals first | exact h | rfl
      | commit row at_ mirrorId =>
          simp only [goOn, answerStep, Prod.map]
          cases mirrorId with
          | none => split <;> rfl
          | some id =>
              split
              · exact h
              · rfl
      | publish row mirrorId =>
          simp only [goOn, answerStep, Prod.map]
          cases mirrorId with
          | none => split <;> rfl
          | some id =>
              split
              · exact h
              · rfl
      | publishMatch row mirrorId => rfl
      | done result => rfl
  | _ => rfl

theorem mirrored_step {svc : InviteService} {s : InviteState}
    (h : ∀ call ∈ s.calls, call.mirrored = true) (e : Occurrence) :
    ∀ call ∈ (s.step svc e).calls, call.mirrored = true :=
  InviteState.forall_calls (fun request => by cases request <;> rfl)
    (fun outside locked w _ h => mirrored_goOn svc outside locked w h) h e

theorem CollabInvite.isSome_sideOf (row : CollabInvite) (profileA profileB : Uuid) :
    (row.sideOf profileA profileB).isSome =
      (row.between profileA profileB || row.between profileB profileA) := by
  unfold sideOf
  cases row.between profileA profileB <;> cases row.between profileB profileA <;> rfl

/-- The event of an invite announces a match of those whom the invite is between. -/
theorem announces_matchCreated (row : CollabInvite) (profileA profileB inviteA inviteB : Uuid) :
    (matchCreated row.fromProfileId row.toProfileId inviteA inviteB).announces profileA profileB =
      (row.sideOf profileA profileB).isSome := by
  rw [CollabInvite.isSome_sideOf, CollabInvite.between, CollabInvite.between, ← Bool.decide_or]
  unfold matchCreated
  split
  · rw [InviteEvent.announces, decide_eq_decide]
    tauto
  · rfl

/-- A step publishes at most one event, which is a match only at the end of an accept. -/
theorem published_goOn (svc : InviteService) (outside : Outside) (locked : Uuid → Bool)
    (w : World) (call : Call) :
    (goOn svc outside locked call w).2.published = w.published ∨
      (∃ event : InviteEvent, (∀ profileA profileB, event.announces profileA profileB = false) ∧
        (goOn svc outside locked call w).2.published = event :: w.published) ∨
      ∃ answering row mirrorId, call = .answer answering (.publishMatch row mirrorId) ∧
        outside.published = true ∧
        (goOn svc outside locked call w).2.published =
          matchCreated row.fromProfileId row.toProfileId answering.inviteId mirrorId ::
            w.published := by
  cases call with
  | send sending phase =>
      rcases sendStep_published svc outside w sending phase with same | sent
      · exact Or.inl same
      · exact Or.inr (Or.inl ⟨_, fun _ _ => rfl, sent⟩)
  | answer answering phase =>
      cases phase with
      | publish row mirrorId =>
          simp only [goOn, answerStep, Prod.map]
          split
          · exact Or.inr (Or.inl ⟨_, fun _ _ => rfl, rfl⟩)
          · exact Or.inl rfl
      | publishMatch row mirrorId =>
          simp only [goOn, answerStep, Prod.map]
          split
          · rename_i published
            exact Or.inr (Or.inr ⟨answering, row, mirrorId, rfl, published, rfl⟩)
          · exact Or.inl rfl
      | _ =>
          simp only [goOn, answerStep, Prod.map]
          repeat' split
          all_goals exact Or.inl rfl
  | expire phase =>
      cases phase with
      | select =>
          simp only [goOn, expireStep, Prod.map]
          repeat' split
          all_goals exact Or.inl rfl
      | update rows at_ =>
          obtain ⟨invites, same⟩ := w.expireAll_frame rows at_
          simp only [goOn, expireStep, Prod.map, same]
          split <;> exact Or.inl rfl
      | publish left rows =>
          cases left with
          | nil => exact Or.inl rfl
          | cons row left =>
              simp only [goOn, expireStep, Prod.map]
              split
              · exact Or.inr (Or.inl ⟨_, fun _ _ => rfl, rfl⟩)
              · exact Or.inl rfl
      | done rows result => exact Or.inl rfl
  | block blocking phase =>
      cases phase with
      | publish row =>
          simp only [goOn, blockStep, Prod.map]
          split
          · exact Or.inr (Or.inl ⟨_, fun _ _ => rfl, rfl⟩)
          · exact Or.inl rfl
      | _ =>
          simp only [goOn, blockStep, Prod.map]
          repeat' split
          all_goals exact Or.inl rfl
  | unblock callerId profileId phase =>
      cases phase with
      | publish =>
          simp only [goOn, unblockStep, Prod.map]
          split
          · exact Or.inr (Or.inl ⟨_, fun _ _ => rfl, rfl⟩)
          · exact Or.inl rfl
      | _ =>
          simp only [goOn, unblockStep, Prod.map]
          repeat' split
          all_goals exact Or.inl rfl

theorem announcements_goOn (svc : InviteService) (outside : Outside) (locked : Uuid → Bool)
    (w : World) (call : Call)
    (other : ∀ answering row mirrorId, call ≠ .answer answering (.publishMatch row mirrorId))
    (profileA profileB : Uuid) :
    (goOn svc outside locked call w).2.published.countP (InviteEvent.announces profileA profileB) =
      w.published.countP (InviteEvent.announces profileA profileB) := by
  rcases published_goOn svc outside locked w call with
    same | ⟨event, silent, same⟩ | ⟨answering, row, mirrorId, rfl, -, -⟩
  · rw [same]
  · rw [same, List.countP_cons_of_neg (by simp [silent])]
  · exact absurd rfl (other answering row mirrorId)

section

variable {svc : InviteService} {s : InviteState} {outside : Outside} {index : Nat} {old : Call}
  {profileA profileB : Uuid}

/-- The two sides after the step of a call. -/
theorem rendezvous_advance (life : Lifecycle s) (found : s.calls[index]? = some old) :
    (s.step svc (.advance index outside)).rendezvous profileA profileB =
      { there := fun side => (s.rendezvous profileA profileB).there side ||
          if side then old.accepts outside profileA profileB
          else old.accepts outside profileB profileA
        stages := (s.rendezvous profileA profileB).stages.set index
          ((goOn svc outside s.locked old s.world).1.stage profileA profileB)
        announced := (goOn svc outside s.locked old s.world).2.published.countP
          (InviteEvent.announces profileA profileB) } := by
  simp only [InviteState.step, found, InviteState.rendezvous, InviteState.announcements,
    List.map_set, accepted_goOn life found]
  congr 1
  funext side
  cases side <;> rfl

theorem stages_found (profileA profileB : Uuid) (found : s.calls[index]? = some old) :
    (s.rendezvous profileA profileB).stages[index]? = some (old.stage profileA profileB) := by
  rw [InviteState.rendezvous, List.getElem?_map, found]
  rfl

/-- A step that neither commits an accept nor announces or prepares a match. -/
theorem rendezvous_stay (life : Lifecycle s) (found : s.calls[index]? = some old)
    (accepts : old.accepts outside profileA profileB = false ∧
      old.accepts outside profileB profileA = false)
    (stage : (goOn svc outside s.locked old s.world).1.stage profileA profileB =
      old.stage profileA profileB)
    (published : (goOn svc outside s.locked old s.world).2.published.countP
      (InviteEvent.announces profileA profileB) = s.announcements profileA profileB) :
    Rendezvous.Step (s.rendezvous profileA profileB)
      ((s.step svc (.advance index outside)).rendezvous profileA profileB) := by
  have same : (s.step svc (.advance index outside)).rendezvous profileA profileB =
      s.rendezvous profileA profileB := by
    rw [rendezvous_advance life found, stage, published,
      set_found (stages_found profileA profileB found)]
    simp only [accepts.1, accepts.2, ite_self, Bool.or_false]
    rfl
  rw [same]
  exact .stay

theorem CollabInvite.ends_of_sideOf {row : CollabInvite} {side : Bool}
    (between : row.sideOf profileA profileB = some side) :
    row.fromProfileId = (if side then profileA else profileB) ∧
      row.toProfileId = if side then profileB else profileA := by
  unfold sideOf at between
  split at between
  · rename_i first
    obtain rfl := Option.some.inj between
    simpa [CollabInvite.between] using first
  · split at between
    · rename_i second
      obtain rfl := Option.some.inj between
      simpa [CollabInvite.between] using second
    · cases between

theorem CollabInvite.between_of_sideOf {row : CollabInvite} {side : Bool}
    (between : row.sideOf profileA profileB = some side) :
    row.between profileA profileB = side ∧ row.between profileB profileA = !side := by
  have apart := row.apart
  obtain ⟨sender, recipient⟩ := ends_of_sideOf between
  cases side with
  | true =>
      rw [if_pos rfl] at sender recipient
      subst sender recipient
      simp [CollabInvite.between, apart, apart.symm]
  | false =>
      rw [if_neg Bool.false_ne_true] at sender recipient
      subst sender recipient
      simp [CollabInvite.between, apart, apart.symm]

/-- The two directions of an invite are the two sides. -/
theorem there_side (s : InviteState) {row : CollabInvite} {side : Bool}
    (between : row.sideOf profileA profileB = some side) :
    (s.rendezvous profileA profileB).there side =
        s.world.accepted row.fromProfileId row.toProfileId ∧
      (s.rendezvous profileA profileB).there (!side) =
        s.world.accepted row.toProfileId row.fromProfileId := by
  obtain ⟨sender, recipient⟩ := CollabInvite.ends_of_sideOf between
  rw [sender, recipient]
  cases side <;> exact ⟨rfl, rfl⟩

theorem stage_eq_arriving {call : Call} {side sees : Bool}
    (stage : call.stage profileA profileB = .arriving side sees) :
    ∃ answering row at_ mirrorId, call = .answer answering (.commit row at_ mirrorId) ∧
      answering.kind = .accept ∧ row.sideOf profileA profileB = some side ∧
      mirrorId.isSome = sees := by
  cases call with
  | answer answering phase =>
      cases phase with
      | commit row at_ mirrorId =>
          simp only [Call.stage] at stage
          split at stage
          · rename_i kind between
            obtain ⟨rfl, rfl⟩ : _ ∧ _ := by simpa using stage
            exact ⟨answering, row, at_, mirrorId, rfl, kind, between, rfl⟩
          · cases stage
      | publish row mirrorId =>
          cases mirrorId with
          | none => cases stage
          | some id =>
              simp only [Call.stage] at stage
              split at stage <;> cases stage
      | publishMatch row mirrorId =>
          simp only [Call.stage] at stage
          split at stage <;> cases stage
      | _ => cases stage
  | _ => cases stage

/-- A harmless look for a mirror is a harmless look at the other side. -/
theorem harmless_of_seesRight {row : CollabInvite} {side : Bool}
    (between : row.sideOf profileA profileB = some side) (right : s.seesRight row = true) :
    (s.rendezvous profileA profileB).Harmless side
      ((s.rendezvous profileA profileB).there (!side)) := by
  obtain ⟨mine, other⟩ := there_side s between
  obtain ⟨sender, recipient⟩ := CollabInvite.ends_of_sideOf between
  unfold InviteState.seesRight at right
  rw [other, World.accepted_eq]
  cases mirrors : s.world.acceptedFrom row.toProfileId row.fromProfileId with
  | nil =>
      intro mem
      obtain ⟨call, among, stage⟩ := List.mem_map.1 mem
      obtain ⟨answering, its, at_, mirrorId, rfl, kind, side', none⟩ := stage_eq_arriving stage
      obtain ⟨sender', recipient'⟩ := CollabInvite.ends_of_sideOf side'
      simp only [mirrors] at right
      have unmatched := List.all_eq_true.1 right _ among
      obtain rfl : mirrorId = Option.none := by simpa using none
      cases side <;>
        simp [Call.unmatched, kind, CollabInvite.between, sender, recipient, sender', recipient']
          at unmatched
  | cons mirror rest =>
      cases rest with
      | cons second rest => simp [mirrors] at right
      | nil =>
          simp only [mirrors, Bool.and_eq_true, Bool.not_eq_true'] at right
          refine ⟨mine.trans right.1, fun stage mem => ?_⟩
          obtain ⟨call, among, rfl⟩ := List.mem_map.1 mem
          have free := List.all_eq_true.1 right.2 call among
          by_contra arrives
          cases stage : call.stage profileA profileB with
          | arriving side' sees =>
              obtain ⟨answering, its, at_, mirrorId, rfl, kind, same, -⟩ := stage_eq_arriving stage
              obtain rfl : side' = side := by simpa [stage, Stage.arrives] using arrives
              obtain ⟨sender', recipient'⟩ := CollabInvite.ends_of_sideOf same
              simp [Call.committing, kind, CollabInvite.between, sender, recipient, sender',
                recipient'] at free
          | _ => simp [stage, Stage.arrives] at arrives

/-- The step of an accept that holds its invite is one step of the two sides. -/
theorem rendezvous_mirror (life : Lifecycle s) {answering : Answer} {row : CollabInvite}
    {at_ : Timestamp} (found : s.calls[index]? = some (.answer answering (.mirror row at_)))
    (kind : answering.kind = .accept)
    (right : s.looksRight profileA profileB (.advance index outside) = true) :
    Rendezvous.Step (s.rendezvous profileA profileB)
      ((s.step svc (.advance index outside)).rendezvous profileA profileB) := by
  obtain ⟨same, went⟩ :=
    answerStep_mirror outside (s.locked answering.inviteId) s.world answering row at_
  have accepts : ∀ sender recipient,
      (Call.answer answering (.mirror row at_)).accepts outside sender recipient = false :=
    fun _ _ => Bool.and_false _
  have published : (goOn svc outside s.locked (.answer answering (.mirror row at_))
      s.world).2.published.countP (InviteEvent.announces profileA profileB) =
        s.announcements profileA profileB := by
    simp [goOn, same, InviteState.announcements]
  rcases went with ⟨failure, failed, -⟩ | ⟨reads, mirrorId, goes, sees⟩
  · refine rendezvous_stay life found ⟨accepts _ _, accepts _ _⟩ ?_ published
    simp [goOn, failed, Call.stage]
  · cases between : row.sideOf profileA profileB with
    | none =>
        refine rendezvous_stay life found ⟨accepts _ _, accepts _ _⟩ ?_ published
        simp [goOn, goes, Call.stage, between]
    | some side =>
        have right : s.seesRight row = true := by
          simpa [InviteState.looksRight, found, reads, between] using right
        have look := Rendezvous.Step.look index side (stages_found profileA profileB found)
          (harmless_of_seesRight between right)
        rw [rendezvous_advance life found, published]
        simp only [accepts, ite_self, Bool.or_false]
        rw [(there_side s between).2, World.accepted_eq, ← sees] at look
        have stage : (goOn svc outside s.locked (.answer answering (.mirror row at_))
            s.world).1.stage profileA profileB = .arriving side mirrorId.isSome := by
          simp [goOn, goes, Call.stage, between, kind]
        rw [stage]
        exact look

theorem rendezvous_commit (life : Lifecycle s) {answering : Answer} {row : CollabInvite}
    {at_ : Timestamp} {mirrorId : Option Uuid}
    (found : s.calls[index]? = some (.answer answering (.commit row at_ mirrorId)))
    (kind : answering.kind = .accept) :
    Rendezvous.Step (s.rendezvous profileA profileB)
      ((s.step svc (.advance index outside)).rendezvous profileA profileB) := by
  have stages := stages_found profileA profileB found
  have published : (goOn svc outside s.locked (.answer answering (.commit row at_ mirrorId))
      s.world).2.published.countP (InviteEvent.announces profileA profileB) =
        s.announcements profileA profileB := by
    simp only [goOn, answerStep, Prod.map]
    split <;> rfl
  cases between : row.sideOf profileA profileB with
  | none =>
      have apart : row.between profileA profileB = false ∧ row.between profileB profileA = false := by
        have none := congrArg Option.isSome between
        rw [CollabInvite.isSome_sideOf] at none
        simpa using none
      refine rendezvous_stay life found ?_ ?_ published
      · simp [Call.accepts, Call.committing, apart]
      · simp only [goOn, answerStep, Prod.map]
        split
        · cases mirrorId <;> simp [Call.stage, between]
        · simp [Call.stage, between]
  | some side =>
      have stage : (Call.answer answering (.commit row at_ mirrorId)).stage profileA profileB =
          .arriving side mirrorId.isSome := by
        simp [Call.stage, kind, between]
      rw [stage] at stages
      rw [rendezvous_advance life found, published]
      cases stored : outside.db with
      | false =>
          have left := Rendezvous.Step.leave index side _ stages
          simp only [goOn, answerStep, stored, Call.accepts, Bool.false_and, ite_self,
            Bool.or_false, Bool.false_eq_true, if_false]
          exact left
      | true =>
          have arrive := Rendezvous.Step.arrive index side _ stages
          have there : Function.update (s.rendezvous profileA profileB).there side true =
              fun side => (s.rendezvous profileA profileB).there side ||
                if side then (Call.answer answering (.commit row at_ mirrorId)).accepts outside
                    profileA profileB
                else (Call.answer answering (.commit row at_ mirrorId)).accepts outside
                    profileB profileA := by
            obtain ⟨first, second⟩ := CollabInvite.between_of_sideOf between
            funext side'
            simp only [Call.accepts, Call.committing, stored, kind, first, second]
            cases side <;> cases side' <;> simp [Function.update]
          have announcing : (goOn svc outside s.locked (.answer answering (.commit row at_ mirrorId))
              s.world).1.stage profileA profileB =
                if mirrorId.isSome then .announcing else .idle := by
            cases mirrorId <;> simp [goOn, answerStep, stored, Call.stage, between]
          rw [announcing, ← there]
          exact arrive

/-- A step of any other call leaves the two sides, except for what it announces. -/
theorem rendezvous_publishMatch (life : Lifecycle s) {answering : Answer} {row : CollabInvite}
    {mirrorId : Uuid} (found : s.calls[index]? = some (.answer answering (.publishMatch row mirrorId)))
    (right : s.looksRight profileA profileB (.advance index outside) = true) :
    Rendezvous.Step (s.rendezvous profileA profileB)
      ((s.step svc (.advance index outside)).rendezvous profileA profileB) := by
  have event := announces_matchCreated row profileA profileB answering.inviteId mirrorId
  cases between : (row.sideOf profileA profileB).isSome with
  | false =>
      refine rendezvous_stay life found ⟨Bool.and_false _, Bool.and_false _⟩ ?_ ?_
      · simp [goOn, answerStep, Call.stage, between]
      · rw [between] at event
        simp only [goOn, answerStep, Prod.map, InviteState.announcements]
        split
        · exact List.countP_cons_of_neg (by simp [event])
        · rfl
  | true =>
      have published : outside.published = true := by
        have side : (row.sideOf profileA profileB).isNone = false := by
          rw [← Option.not_isSome, between]
          rfl
        simpa [InviteState.looksRight, found, side] using right
      have stages := stages_found profileA profileB found
      have stage : (Call.answer answering (.publishMatch row mirrorId)).stage profileA profileB =
          .announcing := by
        simp [Call.stage, between]
      rw [stage] at stages
      have announce := Rendezvous.Step.announce index stages
      rw [between] at event
      rw [rendezvous_advance life found]
      have counted : (goOn svc outside s.locked (.answer answering (.publishMatch row mirrorId))
          s.world).2.published.countP (InviteEvent.announces profileA profileB) =
            s.announcements profileA profileB + 1 := by
        simp only [goOn, answerStep, published, Prod.map, if_true]
        exact List.countP_cons_of_pos event
      rw [counted]
      simp only [Call.accepts, Call.committing, Bool.and_false, ite_self, Bool.or_false]
      exact announce

/-- In a run whose looks are harmless, every step is one of the two sides. -/
theorem rendezvous_step (life : Lifecycle s)
    (mirrored : ∀ call ∈ s.calls, call.mirrored = true) {e : Occurrence}
    (right : s.looksRight profileA profileB e = true) :
    Rendezvous.Step (s.rendezvous profileA profileB)
      ((s.step svc e).rendezvous profileA profileB) := by
  cases e with
  | begin request =>
      simp only [InviteState.step]
      split
      · have joined := Rendezvous.Step.join (r := s.rendezvous profileA profileB)
        have idle : request.call.stage profileA profileB = .idle := by cases request <;> rfl
        simp only [InviteState.rendezvous, List.map_append, List.map_cons, List.map_nil, idle]
        exact joined
      · exact .stay
  | tick time => exact .stay
  | entitlementChanged userId => exact .stay
  | advance index outside =>
      cases found : s.calls[index]? with
      | none =>
          simp only [InviteState.step, found]
          exact .stay
      | some old =>
          have own := mirrored old (List.mem_of_getElem? found)
          have silent := announcements_goOn svc outside s.locked s.world old
          cases old with
          | answer answering phase =>
              cases phase with
              | mirror row at_ =>
                  exact rendezvous_mirror life found (by simpa [Call.mirrored] using own) right
              | publishMatch row mirrorId => exact rendezvous_publishMatch life found right
              | commit row at_ mirrorId =>
                  by_cases kind : answering.kind = .accept
                  · exact rendezvous_commit life found kind
                  · have none : mirrorId = none := by
                      cases mirrorId with
                      | none => rfl
                      | some id => exact absurd (by simpa [Call.mirrored] using own) kind
                    subst none
                    refine rendezvous_stay life found ?_ ?_ (silent (by simp) _ _)
                    · simp [Call.accepts, Call.committing, kind]
                    · have idle : (Call.answer answering (.commit row at_ none)).stage
                          profileA profileB = .idle := by
                        simp only [Call.stage]
                        split
                        · rename_i accept _
                          exact absurd accept kind
                        · rfl
                      simp only [goOn, answerStep, Prod.map, idle]
                      split <;> rfl
              | publish row mirrorId =>
                  refine rendezvous_stay life found ⟨Bool.and_false _, Bool.and_false _⟩ ?_
                    (silent (by simp) _ _)
                  simp only [goOn, answerStep, Prod.map]
                  cases mirrorId with
                  | none => split <;> rfl
                  | some id =>
                      split
                      · rfl
                      · rename_i lost
                        have apart : (row.sideOf profileA profileB).isNone = true := by
                          simpa [InviteState.looksRight, found, lost] using right
                        simp [Call.stage, Option.isNone_iff_eq_none.1 apart]
              | lock =>
                  refine rendezvous_stay life found ⟨Bool.and_false _, Bool.and_false _⟩ ?_
                    (silent (by simp) _ _)
                  obtain ⟨-, waits | ⟨failure, failed, -⟩ | ⟨row, -, -, -, -, -, loads⟩⟩ :=
                    answerStep_lock outside (s.locked answering.inviteId) s.world answering
                  · simp [goOn, waits]
                  · simp [goOn, failed, Call.stage]
                  · by_cases kind : answering.kind = .accept
                    · simp [goOn, loads, kind, Call.stage]
                    · simp [goOn, loads, kind, Call.stage]
              | done result =>
                  exact rendezvous_stay life found ⟨Bool.and_false _, Bool.and_false _⟩ rfl
                    (silent (by simp) _ _)
          | _ =>
              exact rendezvous_stay life found ⟨Bool.and_false _, Bool.and_false _⟩ rfl
                (silent (by simp) _ _)

/-! ## The runs -/

/-- Accepts that met several mirrors were not of invites between the two profiles. -/
def InviteState.Unfailing (s : InviteState) (profileA profileB : Uuid) : Prop :=
  ∀ answering, .answer answering (.done (.error .multipleResultsFound)) ∈ s.calls →
    ∃ row ∈ s.world.invites.rows, row.id = answering.inviteId ∧
      row.sideOf profileA profileB = none

theorem Call.sideOf_change (outside : Outside) (call : Call) (row : CollabInvite)
    (profileA profileB : Uuid) :
    (call.change outside row).sideOf profileA profileB = row.sideOf profileA profileB := by
  rcases call.change_cases outside row with same | ⟨status, at_, -, turned⟩
  · rw [same]
  · rw [turned]
    rfl

/-- A step that ends an accept so has found several mirrors. -/
theorem fails_goOn {answering : Answer}
    (failed : (goOn svc outside s.locked old s.world).1 =
      .answer answering (.done (.error .multipleResultsFound))) :
    old = .answer answering (.done (.error .multipleResultsFound)) ∨
      ∃ row at_, old = .answer answering (.mirror row at_) ∧ outside.db = true ∧
        2 ≤ (s.world.acceptedFrom row.toProfileId row.fromProfileId).length := by
  cases old with
  | answer asked phase =>
      obtain ⟨rfl, went⟩ : asked = answering ∧
          (answerStep outside (s.locked asked.inviteId) asked phase s.world).1 =
            .done (.error .multipleResultsFound) := by simpa [goOn] using failed
      cases phase with
      | lock =>
          obtain ⟨-, waits | ⟨failure, failed, other⟩ | ⟨row, -, -, -, -, -, loads⟩⟩ :=
            answerStep_lock outside (s.locked asked.inviteId) s.world asked
          · cases waits.symm.trans went
          · cases failed.symm.trans went
            exact absurd rfl other
          · rw [loads] at went
            split at went <;> cases went
      | mirror row at_ =>
          obtain ⟨-, ⟨failure, failed, several⟩ | ⟨-, mirrorId, goes, -⟩⟩ :=
            answerStep_mirror outside (s.locked asked.inviteId) s.world asked row at_
          · cases failed.symm.trans went
            exact Or.inr ⟨row, at_, rfl, several rfl⟩
          · cases goes.symm.trans went
      | commit row at_ mirrorId =>
          simp only [answerStep] at went
          split at went <;> cases went
      | publish row mirrorId =>
          simp only [answerStep] at went
          split at went
          · split at went <;> cases went
          · cases went
      | publishMatch row mirrorId => cases went
      | done result =>
          obtain rfl : result = .error .multipleResultsFound := by simpa [answerStep] using went
          exact Or.inl rfl
  | _ => cases failed

theorem unfailing_step (life : Lifecycle s) (h : s.Unfailing profileA profileB) {e : Occurrence}
    (right : s.looksRight profileA profileB e = true) :
    (s.step svc e).Unfailing profileA profileB := by
  cases e with
  | begin request =>
      simp only [InviteState.step]
      split
      · intro answering mem
        rcases List.mem_append.1 mem with before | new
        · exact h answering before
        · cases request <;> simp [Request.call] at new
      · exact h
  | tick time => exact h
  | entitlementChanged userId => exact h
  | advance index outside =>
      cases found : s.calls[index]? with
      | none =>
          simp only [InviteState.step, found]
          exact h
      | some old =>
          have kept := (mem_goOn svc outside s.locked s.world old).1
          have stays : ∀ row ∈ s.world.invites.rows, row.sideOf profileA profileB = none →
              ∃ later ∈ (goOn svc outside s.locked old s.world).2.invites.rows,
                later.id = row.id ∧ later.sideOf profileA profileB = none := fun row stored none =>
            ⟨_, kept row stored, Call.change_id .., (Call.sideOf_change ..).trans none⟩
          simp only [InviteState.step, found]
          intro answering mem
          rcases mem_set_cases mem with failed | ⟨j, -, atJ⟩
          · rcases fails_goOn failed.symm with rfl | ⟨row, at_, rfl, reads, several⟩
            · obtain ⟨row, stored, key, none⟩ := h answering (List.mem_of_getElem? found)
              rw [← key]
              exact stays row stored none
            · have mem := List.mem_of_getElem? found
              obtain ⟨row', stored, key, -, rfl, -⟩ := life.held _ mem answering.inviteId
                (by simp [Call.holds])
              rw [← key]
              refine stays row' stored ?_
              by_contra between
              have right : s.seesRight row' = true := by
                simpa [InviteState.looksRight, found, reads, between] using right
              unfold InviteState.seesRight at right
              cases mirrors : s.world.acceptedFrom row'.toProfileId row'.fromProfileId with
              | nil => simp [mirrors] at several
              | cons mirror rest =>
                  cases rest with
                  | nil => simp [mirrors] at several
                  | cons second rest => simp [mirrors] at right
          · obtain ⟨row, stored, key, none⟩ := h answering (List.mem_of_getElem? atJ)
            rw [← key]
            exact stays row stored none

theorem Call.accepting_of_announcing {call : Call} (mirrored : call.mirrored = true)
    (stage : call.stage profileA profileB = .announcing) :
    call.accepting profileA profileB = true := by
  cases call with
  | answer answering phase =>
      cases phase with
      | commit row at_ mirrorId =>
          simp only [Call.stage] at stage
          split at stage <;> cases stage
      | publish row mirrorId =>
          cases mirrorId with
          | none => cases stage
          | some id =>
              simp only [Call.stage] at stage
              split at stage
              · rename_i between
                simpa [Call.accepting, Call.mirrored, between] using mirrored
              · cases stage
      | publishMatch row mirrorId =>
          simp only [Call.stage] at stage
          split at stage
          · rename_i between
            simpa [Call.accepting, Call.mirrored, between] using mirrored
          · cases stage
      | _ => cases stage
  | _ => cases stage

/-- In runs whose looks are harmless, a match is announced once and no accept fails. -/
theorem InviteState.matched_once (svc : InviteService) (profileA profileB : Uuid)
    {occurrences : List Occurrence}
    (right : Guarded (InviteState.step svc)
      (fun s e => s.looksRight profileA profileB e = true) .initial occurrences) :
    (InviteState.run svc occurrences).MatchedOnce profileA profileB := by
  have kept : ∀ (s : InviteState) (e : Occurrence), s.looksRight profileA profileB e = true →
      (Lifecycle s ∧ (∀ call ∈ s.calls, call.mirrored = true) ∧
        (s.rendezvous profileA profileB).Sound ∧ s.Unfailing profileA profileB) →
      Lifecycle (s.step svc e) ∧ (∀ call ∈ (s.step svc e).calls, call.mirrored = true) ∧
        ((s.step svc e).rendezvous profileA profileB).Sound ∧
        (s.step svc e).Unfailing profileA profileB :=
    fun s e right ⟨life, mirrored, sound, unfailing⟩ =>
      ⟨life.step e, mirrored_step mirrored e,
        sound.step (rendezvous_step life mirrored right), unfailing_step life unfailing right⟩
  have start : InviteState.initial.rendezvous profileA profileB = ⟨fun _ => false, [], 0⟩ := by
    unfold rendezvous
    congr 1
    funext side
    cases side <;> rfl
  obtain ⟨-, mirrored, sound, unfailing⟩ := runFrom_invariant_of_guarded kept
    ⟨.initial, fun call mem => (by cases mem), start ▸ .empty, fun answering mem => (by cases mem)⟩
    right
  refine ⟨fun quiet => ?_, fun answering mem row stored key => ?_⟩
  · have idle : .announcing ∉ ((run svc occurrences).rendezvous profileA profileB).stages := by
      intro announcing
      obtain ⟨call, among, stage⟩ := List.mem_map.1 announcing
      have busy := Call.accepting_of_announcing (mirrored call among) stage
      simp [quiet call among] at busy
    have once : (run svc occurrences).announcements profileA profileB =
        ((run svc occurrences).world.accepted profileA profileB &&
          (run svc occurrences).world.accepted profileB profileA).toNat := sound.announced_once idle
    rw [once]
    cases (run svc occurrences).world.accepted profileA profileB <;>
      cases (run svc occurrences).world.accepted profileB profileA <;> rfl
  · obtain ⟨found, was, same, none⟩ := unfailing answering mem
    rwa [Table.eq_of_key_eq stored was (key.trans same.symm)]

end

/-! ## Two runs -/

/-- Anna and Ben have each sent the other an invite. -/
def bothSent : List Occurrence :=
  sendAlone 0 ⟨⟨"anna"⟩, ⟨"ben"⟩, greeting, none, ⟨"1"⟩⟩ ++
    sendAlone 1 ⟨⟨"ben"⟩, ⟨"anna"⟩, greeting, none, ⟨"2"⟩⟩ ++
    [.begin (.answer ⟨.accept, ⟨"1"⟩, ⟨"ben"⟩⟩), .begin (.answer ⟨.accept, ⟨"2"⟩, ⟨"anna"⟩⟩)]

/-- Ben accepts, and then Anna does. -/
theorem matched_once_in_turn :
    (InviteState.run plainService (bothSent ++ List.replicate 4 (.advance 2 {}) ++
      List.replicate 5 (.advance 3 {}))).MatchedOnce ⟨"anna"⟩ ⟨"ben"⟩ :=
  InviteState.matched_once plainService ⟨"anna"⟩ ⟨"ben"⟩ (by decide +kernel)

/-- Both accept at once: each looks before the other has committed, and nothing is announced. -/
theorem matches_missed :
    ¬ (InviteState.run plainService (bothSent ++
      (List.replicate 4 [.advance 2 {}, .advance 3 {}]).flatten)).MatchedOnce ⟨"anna"⟩ ⟨"ben"⟩ :=
  fun matched => absurd (matched.announced (by decide +kernel)) (by decide +kernel)

end ColabPlatform.Invites
