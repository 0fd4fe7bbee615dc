import ColabPlatform.Foundation.Interleaving
import ColabPlatform.Foundation.Run
import ColabPlatform.Invites.Answers
import ColabPlatform.Invites.Sending

/-!
# Runs of the invite service

The calls under way go on one step at a time, in any order, while time passes and
entitlements change.  A call that wants the lock of a row waits until the one that
holds it has committed or failed.
-/

namespace ColabPlatform.Invites

open Foundation Common
open Billing (Uuid Timestamp)

inductive Call where
  | send (sending : Sending) (phase : SendPhase)
  | answer (answering : Answer) (phase : AnswerPhase)
  | expire (phase : ExpirePhase)
  | block (blocking : Blocking) (phase : BlockPhase)
  | unblock (callerId profileId : Uuid) (phase : UnblockPhase)

inductive Request where
  | send (sending : Sending)
  | answer (answering : Answer)
  | expire
  | block (blocking : Blocking)
  | unblock (callerId profileId : Uuid)

def Request.call : Request → Call
  | .send sending => .send sending (.start sending)
  | .answer answering => .answer answering .lock
  | .expire => .expire .select
  | .block blocking => .block blocking (.start blocking)
  | .unblock callerId profileId => .unblock callerId profileId .find

/-- The ids that are drawn for a request. -/
def Request.draws : Request → List Uuid
  | .send sending => [sending.inviteId]
  | _ => []

/-- The call holds the lock of the invite. -/
def Call.holds : Call → Uuid → Bool
  | .answer answering (.mirror ..), id | .answer answering (.commit ..), id =>
      answering.inviteId = id
  | .expire (.update rows _), id => rows.any fun row => row.id = id
  | _, _ => false

structure InviteState where
  world : World
  calls : List Call
  /-- the ids that were drawn -/
  drawn : List Uuid

inductive Occurrence where
  | begin (request : Request)
  | advance (index : Nat) (outside : Outside)
  | tick (time : Nat)
  /-- `invalidate_entitlement_cache` -/
  | entitlementChanged (userId : Uuid)

section

variable (svc : InviteService)

/-- One step of a call, with what others have locked. -/
def goOn (outside : Outside) (locked : Uuid → Bool) : Call → World → Call × World
  | .send sending phase, w => (sendStep svc outside sending phase w).map (.send sending) id
  | .answer answer phase, w =>
      (answerStep outside (locked answer.inviteId) answer phase w).map (.answer answer) id
  | .expire phase, w => (expireStep outside locked phase w).map .expire id
  | .block blocking phase, w => (blockStep outside blocking phase w).map (.block blocking) id
  | .unblock callerId profileId phase, w =>
      (unblockStep outside callerId profileId phase w).map (.unblock callerId profileId) id

namespace InviteState

def initial : InviteState := ⟨.initial, [], []⟩

/-- Some call holds the lock of the invite. -/
def locked (s : InviteState) (inviteId : Uuid) : Bool :=
  s.calls.any fun call => call.holds inviteId

/-- One occurrence; a request that draws an id a second time does not happen. -/
def step (s : InviteState) : Occurrence → InviteState
  | .begin request =>
      if request.draws.all fun id => id ∉ s.drawn then
        { s with calls := s.calls ++ [request.call], drawn := request.draws ++ s.drawn }
      else s
  | .advance index outside =>
      match s.calls[index]? with
      | some call =>
          { s with
            world := (goOn svc outside s.locked call s.world).2
            calls := s.calls.set index (goOn svc outside s.locked call s.world).1 }
      | none => s
  | .tick time => { s with world := { s.world with now := s.world.now + time } }
  | .entitlementChanged userId =>
      { s with world := { s.world with limits := s.world.limits.delete userId } }

/-- The state after the occurrences of a run. -/
def run (occurrences : List Occurrence) : InviteState :=
  runFrom (step svc) initial occurrences

end InviteState

end

/-- What holds of every call that begins, and is kept by its steps, holds of all calls. -/
theorem InviteState.forall_calls {svc : InviteService} {p : Call → Prop}
    (starts : ∀ request : Request, p request.call)
    (goes : ∀ outside locked w call, p call → p (goOn svc outside locked call w).1)
    {s : InviteState} (h : ∀ call ∈ s.calls, p call) (e : Occurrence) :
    ∀ call ∈ (s.step svc e).calls, p call := by
  cases e with
  | begin request =>
      simp only [InviteState.step]
      split
      · exact forall_mem_concat (starts request) h
      · exact h
  | advance index outside =>
      cases found : s.calls[index]? with
      | none =>
          simp only [InviteState.step, found]
          exact h
      | some old =>
          simp only [InviteState.step, found]
          exact forall_mem_set (goes outside _ _ old (h old (List.mem_of_getElem? found))) h
  | tick time => exact h
  | entitlementChanged userId => exact h

/-! ## What one step does to the invites -/

/-- What a step of a call makes of an invite that is stored. -/
def Call.change (outside : Outside) : Call → CollabInvite → CollabInvite
  | .answer answering (.commit _ at_ _), stored =>
      if outside.db ∧ stored.id = answering.inviteId then stored.turn answering.kind.status at_
      else stored
  | .expire (.update rows at_), stored =>
      if outside.db ∧ stored.id ∈ rows.map CollabInvite.id then stored.turn .expired at_
      else stored
  | _, stored => stored

@[simp] theorem Call.change_id (outside : Outside) (call : Call) (stored : CollabInvite) :
    (call.change outside stored).id = stored.id := by
  unfold change
  repeat' split
  all_goals rfl

section

variable (svc : InviteService) (outside : Outside) (locked : Uuid → Bool) (w : World)

theorem answerStep_rows (answering : Answer) (taken : Bool) (phase : AnswerPhase) :
    (answerStep outside taken answering phase w).2.invites.rows =
      w.invites.rows.map ((Call.answer answering phase).change outside) := by
  cases phase with
  | commit row at_ mirrorId =>
      by_cases stored : outside.db = true
      · simp [answerStep, Call.change, stored]
      · refine Eq.trans ?_ (List.map_id'' (fun row => by simp [Call.change, stored]) _).symm
        simp [answerStep, stored]
  | _ =>
      refine Eq.trans ?_ (List.map_id'' (fun _ => rfl) _).symm
      simp only [answerStep]
      repeat' split
      all_goals rfl

theorem expireStep_rows (phase : ExpirePhase) :
    (expireStep outside locked phase w).2.invites.rows =
      w.invites.rows.map ((Call.expire phase).change outside) := by
  cases phase with
  | update rows at_ =>
      by_cases stored : outside.db = true
      · simp [expireStep, Call.change, stored, World.rows_expireAll]
      · refine Eq.trans ?_ (List.map_id'' (fun row => by simp [Call.change, stored]) _).symm
        simp [expireStep, stored]
  | publish left rows =>
      refine Eq.trans ?_ (List.map_id'' (fun _ => rfl) _).symm
      cases left with
      | nil => rfl
      | cons row left =>
          simp only [expireStep]
          split <;> rfl
  | _ =>
      refine Eq.trans ?_ (List.map_id'' (fun _ => rfl) _).symm
      simp only [expireStep]
      repeat' split
      all_goals rfl

theorem expireStep_frame (phase : ExpirePhase) : ∃ invites published,
    (expireStep outside locked phase w).2 = { w with invites, published } := by
  cases phase with
  | update rows at_ =>
      obtain ⟨invites, same⟩ := w.expireAll_frame rows at_
      simp only [expireStep, same]
      split
      · exact ⟨invites, w.published, rfl⟩
      · exact ⟨w.invites, w.published, rfl⟩
  | publish left rows =>
      cases left with
      | nil => exact ⟨w.invites, w.published, rfl⟩
      | cons row left =>
          simp only [expireStep]
          split
          · exact ⟨_, _, rfl⟩
          · exact ⟨w.invites, w.published, rfl⟩
  | _ =>
      simp only [expireStep]
      repeat' split
      all_goals exact ⟨w.invites, w.published, rfl⟩

theorem blockStep_frame (blocking : Blocking) (phase : BlockPhase) : ∃ blocks published,
    (blockStep outside blocking phase w).2 = { w with blocks, published } := by
  cases phase with
  | insert =>
      simp only [blockStep]
      repeat' split
      all_goals first | exact ⟨w.blocks, w.published, rfl⟩ | exact ⟨_, _, rfl⟩
  | publish row =>
      simp only [blockStep]
      split
      · exact ⟨_, _, rfl⟩
      · exact ⟨w.blocks, w.published, rfl⟩
  | _ =>
      simp only [blockStep]
      repeat' split
      all_goals exact ⟨w.blocks, w.published, rfl⟩

theorem unblockStep_frame (callerId profileId : Uuid) (phase : UnblockPhase) :
    ∃ blocks published,
      (unblockStep outside callerId profileId phase w).2 = { w with blocks, published } := by
  cases phase with
  | find =>
      simp only [unblockStep]
      repeat' split
      all_goals exact ⟨w.blocks, w.published, rfl⟩
  | done result => exact ⟨w.blocks, w.published, rfl⟩
  | _ =>
      simp only [unblockStep]
      split
      · exact ⟨_, _, rfl⟩
      · exact ⟨w.blocks, w.published, rfl⟩

/-- A step changes the invites that are stored, or inserts the row of a request. -/
theorem rows_goOn (call : Call) :
    (goOn svc outside locked call w).2.invites.rows =
        w.invites.rows.map (call.change outside) ∨
      ∃ sending remaining modCaseId row, call = .send sending (.insert remaining modCaseId) ∧
        sending.row svc modCaseId w.now = some row ∧
        w.invites.insert? row = some (goOn svc outside locked call w).2.invites ∧
        (goOn svc outside locked call w).1 =
          .send sending (.publish remaining (Sending.archiveAt svc w.now)) := by
  cases call with
  | send sending phase =>
      rcases sendStep_invites svc outside w sending phase with
        same | ⟨remaining, modCaseId, row, rfl, made, stored, went⟩
      · left
        have rows := congrArg Table.rows same
        refine Eq.trans ?_ (List.map_id'' (fun _ => rfl) _).symm
        exact rows
      · exact Or.inr ⟨sending, remaining, modCaseId, row, rfl, made, stored,
          congrArg (Call.send sending) went⟩
  | answer answering phase => exact Or.inl (answerStep_rows outside w answering _ phase)
  | expire phase => exact Or.inl (expireStep_rows outside locked w phase)
  | block blocking phase =>
      obtain ⟨blocks, published, same⟩ := blockStep_frame outside w blocking phase
      left
      refine Eq.trans ?_ (List.map_id'' (fun _ => rfl) _).symm
      simp [goOn, same]
  | unblock callerId profileId phase =>
      obtain ⟨blocks, published, same⟩ := unblockStep_frame outside w callerId profileId phase
      left
      refine Eq.trans ?_ (List.map_id'' (fun _ => rfl) _).symm
      simp [goOn, same]

/-- The rows after a step are those before it as the step changes them, and pending ones. -/
theorem mem_goOn (call : Call) :
    (∀ row ∈ w.invites.rows,
        call.change outside row ∈ (goOn svc outside locked call w).2.invites.rows) ∧
      ∀ row ∈ (goOn svc outside locked call w).2.invites.rows,
        row.status = .pending ∧ w.invites.lookup row.id = none ∨
          ∃ old ∈ w.invites.rows, row = call.change outside old := by
  rcases rows_goOn svc outside locked w call with
    same | ⟨sending, remaining, modCaseId, new, rfl, made, stored, -⟩
  · rw [same]
    refine ⟨fun row mem => List.mem_map_of_mem mem, fun row mem => ?_⟩
    obtain ⟨old, stored, rfl⟩ := List.mem_map.1 mem
    exact Or.inr ⟨old, stored, rfl⟩
  · obtain ⟨apart, rows⟩ := Table.insert?_eq_some stored
    rw [rows]
    refine ⟨fun row mem => List.mem_cons_of_mem _ mem, fun row mem => ?_⟩
    rcases List.mem_cons.1 mem with rfl | old
    · refine Or.inl ⟨?_, Table.lookup_eq_none_iff.2 fun taken => apart (Or.inl taken)⟩
      unfold Sending.row at made
      split at made
      · rw [← Option.some.inj made]
      · cases made
    · exact Or.inr ⟨row, old, rfl⟩

end

/-! ## A request that nothing disturbs -/

def plainService : InviteService := { sha256 := id }

def greeting : Synopsis := ⟨"Let us paint a mural", by decide⟩

/-- A request to send an invite, all of whose steps are taken at once. -/
def sendAlone (index : Nat) (sending : Sending) : List Occurrence :=
  .begin (.send sending) :: List.replicate 9 (.advance index {})

end ColabPlatform.Invites
