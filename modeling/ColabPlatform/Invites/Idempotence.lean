import ColabPlatform.Invites.Grants

/-!
# Identical requests

The cache of responses is read at the start of a call and written at its end, and the
quota is consumed in between.  Identical requests make one invite where what a call read
from the cache is still so when the quota admits it.
-/

namespace ColabPlatform.Invites

open Foundation Common
open Billing (Uuid Timestamp)

/-- The same request, whatever id was drawn for it. -/
def Sending.same (sending request : Sending) : Bool :=
  sending.fromProfileId = request.fromProfileId ∧ sending.toProfileId = request.toProfileId ∧
    sending.synopsis = request.synopsis ∧ sending.suppliedKey = request.suppliedKey

theorem Sending.same.idemKey {svc : InviteService} {sending request : Sending}
    (same : sending.same request = true) : sending.idemKey svc = request.idemKey svc := by
  simp only [Sending.same, decide_eq_true_eq] at same
  obtain ⟨sender, recipient, synopsis, key⟩ := same
  unfold Sending.idemKey
  rw [sender, recipient, synopsis, key]

section

variable (svc : InviteService) (request : Sending)

/-- The id of a call that makes the request. -/
def Call.making : Call → Option Uuid
  | .send sending _ => if sending.same request then some sending.inviteId else none
  | _ => none

/-- The invites that calls with the request have made. -/
def Ledger.invitesOf (l : Ledger) : List CollabInvite :=
  l.state.world.invites.rows.filter fun row => row.id ∈ l.state.calls.filterMap (Call.making request)

/-- What calls with the request have consumed of the quota. -/
def Ledger.grantsOf (l : Ledger) : List Grant :=
  l.grants.filter fun grant => grant.inviteId ∈ l.state.calls.filterMap (Call.making request)

/-- The request is carried out once, and every answer to it names the one invite. -/
structure SentOnce (l : Ledger) : Prop where
  invites : (l.invitesOf request).length ≤ 1
  quota : (l.grantsOf request).length ≤ 1
  answers : ∀ sending response, .send sending (.done (.ok response)) ∈ l.state.calls →
    sending.same request = true →
      ∃ row grant, l.invitesOf request = [row] ∧ row.id = response.inviteId ∧
        l.grantsOf request = [grant]

/-! ## The condition -/

/-- The call is past the quota, and has not ended. -/
def Call.underWay : Call → Bool
  | .send sending (.moderation _) | .send sending (.insert ..) | .send sending (.conflict _)
  | .send sending (.publish ..) | .send sending (.cacheWrite _) => sending.same request
  | _ => false

/--
Nothing has come of the request since the cache was read: no response is cached for its
key, no call with it is past the quota, and no invite of it has outlived the key.
-/
def InviteState.unclaimed (s : InviteState) : Bool :=
  (s.world.responses.get s.world.now (request.idemKey svc)).isNone ∧
    (s.calls.all fun call => !call.underWay request) ∧
    s.world.invites.rows.all fun row =>
      row.id ∈ s.calls.filterMap (Call.making request) → s.world.now < row.createdAt + idempotencyTtl

/-- The step of a call with the request does not go wrong. -/
def goesRight (s : InviteState) (outside : Outside) (sending : Sending) : SendPhase → Bool
  | .quota limit =>
      ((Call.send sending (.quota limit)).grant outside s.world).isNone || s.unclaimed svc request
  | .moderation _ => (scanSynopsis svc.settings outside.scan).toBool
  | .insert _ modCaseId => outside.db && (sending.insert? svc modCaseId s.world).isSome
  | .cacheWrite _ => outside.redis
  | _ => true

/--
The quota admits a call with the request only while nothing has come of the request, what
it admits is carried out to its end, and no other request has the key.
-/
def sendsInTurn (s : InviteState) : Occurrence → Bool
  | .begin (.send sending) =>
      sending.idemKey svc = request.idemKey svc → sending.same request
  | .advance index outside =>
      match s.calls[index]? with
      | some (.send sending phase) =>
          sending.same request → goesRight svc request s outside sending phase
      | _ => true
  | _ => true

end

/-! ## How far a call is -/

/-- What has come of a call: `answered` names the invite of its response. -/
inductive Level where
  | idle
  | admitted
  | stored
  | answered (inviteId : Uuid)
  deriving DecidableEq, Repr

namespace Level

/-- The call is the one that carries the request out. -/
def holds (own : Uuid) : Level → Bool
  | .idle => false
  | .admitted | .stored => true
  | .answered id => id = own

/-- The invite of the call is stored. -/
def invited (own : Uuid) : Level → Bool
  | .idle | .admitted => false
  | .stored => true
  | .answered id => id = own

end Level

def SendPhase.level : SendPhase → Level
  | .moderation _ | .insert .. | .conflict _ => .admitted
  | .publish .. | .cacheWrite _ => .stored
  | .done (.ok response) => .answered response.inviteId
  | _ => .idle

theorem SendPhase.level_eq_answered {phase : SendPhase} {id : Uuid}
    (level : phase.level = .answered id) :
    ∃ response, phase = .done (.ok response) ∧ response.inviteId = id := by
  cases phase with
  | done result =>
      cases result with
      | ok response => exact ⟨response, rfl, Level.answered.inj level⟩
      | error failure => cases level
  | _ => cases level

/-- The call carries the request out, or has done so. -/
def Call.holder (request : Sending) : Call → Bool
  | .send sending phase => sending.same request && phase.level.holds sending.inviteId
  | _ => false

/-- What a step makes of a call with the request. -/
inductive Moves (svc : InviteService) (request : Sending) (s : InviteState) (sending : Sending)
    (phase : SendPhase) (granted : Option Grant) : SendPhase → World → Prop where
  | stays {phase' w'} (level : phase'.level = phase.level) (none : granted = none)
      (invites : w'.invites = s.world.invites) (responses : w'.responses = s.world.responses) :
      Moves svc request s sending phase granted phase' w'
  /-- the response of another call is replayed -/
  | replays {phase' w' response} (level : phase.level = .idle)
      (done : phase' = .done (.ok response)) (none : granted = none)
      (cached : s.world.responses.get s.world.now (request.idemKey svc) = some response)
      (same : w' = s.world) :
      Moves svc request s sending phase granted phase' w'
  | admits {phase' w'} (level : phase.level = .idle) (level' : phase'.level = .admitted)
      (unclaimed : s.unclaimed svc request = true)
      (invites : w'.invites = s.world.invites) (responses : w'.responses = s.world.responses) :
      Moves svc request s sending phase granted phase' w'
  | inserts {phase' w' row} (level : phase.level = .admitted) (level' : phase'.level = .stored)
      (none : granted = none) (inserted : s.world.invites.insert? row = some w'.invites)
      (id : row.id = sending.inviteId) (createdAt : row.createdAt = s.world.now)
      (responses : w'.responses = s.world.responses) :
      Moves svc request s sending phase granted phase' w'
  | caches {phase' w'} (response : SendInviteResponse) (here : phase = .cacheWrite response)
      (done : phase' = .done (.ok response)) (none : granted = none)
      (invites : w'.invites = s.world.invites)
      (responses : w'.responses = s.world.responses.setEx s.world.now idempotencyTtl
        (request.idemKey svc) response) :
      Moves svc request s sending phase granted phase' w'

section

variable {svc : InviteService} {request : Sending} {s : InviteState} {outside : Outside}
  {sending : Sending}

theorem moves_sendStep {phase : SendPhase} (same : sending.same request = true)
    (right : goesRight svc request s outside sending phase = true)
    (clear : ∀ remaining, phase ≠ .conflict remaining) :
    Moves svc request s sending phase ((Call.send sending phase).grant outside s.world)
      (sendStep svc outside sending phase s.world).1
      (sendStep svc outside sending phase s.world).2 := by
  cases phase with
  | cacheCheck =>
      simp only [sendStep]
      split
      · split
        · rename_i response cached
          exact .replays rfl rfl rfl (Sending.same.idemKey same ▸ cached) rfl
        · exact .stays rfl rfl rfl rfl
      · exact .stays rfl rfl rfl rfl
  | quota limit =>
      obtain ⟨windows, run⟩ :=
        s.world.quotaScript_world sending.fromProfileId limit sending.inviteId
      by_cases redis : outside.redis = true
      · rcases script : s.world.quotaScript sending.fromProfileId limit sending.inviteId with
          ⟨⟨allowed, count⟩, w'⟩
        rw [script] at run
        obtain rfl : w' = { s.world with windows } := run
        cases allowed with
        | true =>
            have granted : ((Call.send sending (.quota limit)).grant outside s.world).isNone =
                false := by
              simp [Call.grant, redis, script]
            simp only [goesRight, granted, Bool.false_or] at right
            simp only [sendStep, redis, if_true, script]
            exact .admits rfl rfl right rfl rfl
        | false =>
            simp only [sendStep, redis, if_true, script]
            exact .stays rfl (by simp [Call.grant, script]) rfl rfl
      · simp only [sendStep, redis]
        exact .stays rfl (by simp [Call.grant, redis]) rfl rfl
  | moderation remaining =>
      simp only [goesRight] at right
      cases scanned : scanSynopsis svc.settings outside.scan with
      | ok modCaseId =>
          simp only [sendStep, scanned]
          exact .stays rfl rfl rfl rfl
      | error failure =>
          rw [scanned] at right
          cases right
  | insert remaining modCaseId =>
      simp only [goesRight, Bool.and_eq_true] at right
      obtain ⟨w', inserted⟩ := Option.isSome_iff_exists.1 right.2
      obtain ⟨row, invites, made, stored, rfl⟩ := Sending.insert?_eq_some inserted
      obtain ⟨id, -, createdAt⟩ := Ledger.Sound.row_fields made
      simp only [sendStep, right.1, if_true, inserted]
      exact .inserts rfl rfl rfl stored id createdAt rfl
  | conflict remaining => exact absurd rfl (clear remaining)
  | publish remaining archiveAt =>
      simp only [sendStep]
      refine .stays rfl rfl ?_ ?_
      · split <;> rfl
      · split <;> rfl
  | cacheWrite response =>
      have redis : outside.redis = true := right
      simp only [sendStep, redis, if_true]
      exact .caches response rfl rfl rfl rfl (by rw [Sending.same.idemKey same])
  | done result => exact .stays rfl rfl rfl rfl
  | blockCheck | limitCheck | fetchLimit | storeLimit =>
      simp only [sendStep]
      repeat' split
      all_goals exact .stays rfl rfl rfl rfl

theorem clear_sendStep {phase : SendPhase}
    (right : goesRight svc request s outside sending phase = true)
    (clear : ∀ remaining, phase ≠ .conflict remaining) (remaining : Int) :
    (sendStep svc outside sending phase s.world).1 ≠ .conflict remaining := by
  cases phase with
  | insert remaining' modCaseId =>
      simp only [goesRight, Bool.and_eq_true] at right
      obtain ⟨w', inserted⟩ := Option.isSome_iff_exists.1 right.2
      simp [sendStep, right.1, inserted]
  | conflict remaining' => exact absurd rfl (clear remaining')
  | _ =>
      simp only [sendStep]
      repeat' split
      all_goals simp

end

/-- A call caches a response with the id of its own invite. -/
def Call.respondsRight : Call → Prop
  | .send sending (.cacheWrite response) => response.inviteId = sending.inviteId
  | _ => True

theorem respondsRight_goOn (svc : InviteService) (outside : Outside) (locked : Uuid → Bool)
    (w : World) (call : Call) : (goOn svc outside locked call w).1.respondsRight := by
  cases call with
  | send sending phase =>
      cases phase with
      | done result => trivial
      | _ =>
          simp only [goOn, sendStep, Prod.map]
          repeat' split
          all_goals trivial
  | _ => trivial

/-- Only the last step of a call changes the cache of responses. -/
theorem responses_goOn (svc : InviteService) (outside : Outside) (locked : Uuid → Bool)
    (w : World) (call : Call) :
    (goOn svc outside locked call w).2.responses = w.responses ∨
      ∃ sending response, call = .send sending (.cacheWrite response) ∧
        (goOn svc outside locked call w).2.responses =
          w.responses.setEx w.now idempotencyTtl (sending.idemKey svc) response := by
  cases call with
  | send sending phase =>
      cases phase with
      | quota limit =>
          obtain ⟨windows, same⟩ := sendStep_quota svc outside w sending limit
          simp [goOn, same]
      | insert remaining modCaseId =>
          rcases sendStep_insert svc outside w sending remaining modCaseId with
            same | ⟨_, _, -, -, same⟩
          · simp [goOn, same]
          · simp [goOn, same]
      | cacheWrite response =>
          by_cases redis : outside.redis = true
          · exact Or.inr ⟨sending, response, rfl, by simp [goOn, sendStep, redis]⟩
          · simp [goOn, sendStep, redis]
      | _ =>
          left
          simp only [goOn, sendStep]
          repeat' split
          all_goals simp [World.publish, World.cacheLimit]
  | answer answering phase =>
      obtain ⟨invites, published, same⟩ :=
        answerStep_frame outside (locked answering.inviteId) w answering phase
      simp [goOn, same]
  | expire phase =>
      obtain ⟨invites, published, same⟩ := expireStep_frame outside locked w phase
      simp [goOn, same]
  | block blocking phase =>
      obtain ⟨blocks, published, same⟩ := blockStep_frame outside w blocking phase
      simp [goOn, same]
  | unblock callerId profileId phase =>
      obtain ⟨blocks, published, same⟩ := unblockStep_frame outside w callerId profileId phase
      simp [goOn, same]

/-! ## What holds while the condition does -/

/-- How far the request is, and that one call at most has carried it out. -/
structure Once (svc : InviteService) (request : Sending) (l : Ledger) : Prop where
  sound : l.Sound
  keyed : ∀ sending phase, .send sending phase ∈ l.state.calls →
    sending.idemKey svc = request.idemKey svc → sending.same request = true
  clear : ∀ sending remaining, .send sending (.conflict remaining) ∈ l.state.calls →
    sending.same request = false
  responds : ∀ call ∈ l.state.calls, call.respondsRight
  single : AtMostOne (Call.holder request) l.state.calls
  granted : ∀ sending phase, .send sending phase ∈ l.state.calls → sending.same request = true →
    ∀ grant ∈ l.grants, grant.inviteId = sending.inviteId →
      phase.level.holds sending.inviteId = true
  invited : ∀ sending phase, .send sending phase ∈ l.state.calls → sending.same request = true →
    (phase.level.invited sending.inviteId = true ↔
      ∃ row ∈ l.state.world.invites.rows, row.id = sending.inviteId)
  answered : ∀ sending response, .send sending (.done (.ok response)) ∈ l.state.calls →
    sending.same request = true →
      ∃ entry, l.state.world.responses.entries (request.idemKey svc) = some entry ∧
        entry.value.inviteId = response.inviteId
  cached : ∀ entry, l.state.world.responses.entries (request.idemKey svc) = some entry →
    ∃ sending response, .send sending (.done (.ok response)) ∈ l.state.calls ∧
      sending.same request = true ∧ response.inviteId = sending.inviteId ∧
      entry.value.inviteId = sending.inviteId ∧
      ∃ row ∈ l.state.world.invites.rows, row.id = sending.inviteId ∧
        ∃ deadline, entry.deadline = some deadline ∧ row.createdAt + idempotencyTtl ≤ deadline
  timely : ∀ row ∈ l.state.world.invites.rows, row.createdAt ≤ l.state.world.now

namespace Once

variable {svc : InviteService} {request : Sending} {l : Ledger} {index : Nat} {outside : Outside}
  {call : Call}

theorem initial : Once svc request .initial where
  sound := .initial
  keyed sending phase mem := by simp [Ledger.initial, InviteState.initial] at mem
  clear sending remaining mem := by simp [Ledger.initial, InviteState.initial] at mem
  responds call mem := by simp [Ledger.initial, InviteState.initial] at mem
  single := AtMostOne.nil
  granted sending phase mem := by simp [Ledger.initial, InviteState.initial] at mem
  invited sending phase mem := by simp [Ledger.initial, InviteState.initial] at mem
  answered sending response mem := by simp [Ledger.initial, InviteState.initial] at mem
  cached entry found := by simp [Ledger.initial, InviteState.initial, World.initial] at found
  timely row mem := by
    simp [Ledger.initial, InviteState.initial, World.initial, Table.empty] at mem

/-- A call that begins has no part in the request yet. -/
theorem begin (h : Once svc request l) {new : Request}
    (fresh : ∀ id ∈ new.draws, id ∉ l.state.drawn)
    (turn : sendsInTurn svc request l.state (.begin new) = true) :
    Once svc request ⟨{ l.state with
      calls := l.state.calls ++ [new.call], drawn := new.draws ++ l.state.drawn },
      l.grants, l.resolved⟩ := by
  have send : ∀ {sending phase}, .send sending phase ∈ l.state.calls ++ [new.call] →
      .send sending phase ∈ l.state.calls ∨ new = .send sending ∧ phase = .start sending := by
    intro sending phase mem
    rcases List.mem_append.1 mem with old | last
    · exact Or.inl old
    · right
      have same := List.mem_singleton.1 last
      cases new <;> cases same
      exact ⟨rfl, rfl⟩
  have start : ∀ sending : Sending, (SendPhase.start sending).level = .idle := by
    intro sending
    unfold SendPhase.start
    split <;> rfl
  have drawn : ∀ {sending}, new = .send sending → sending.inviteId ∉ l.state.drawn := by
    rintro sending rfl
    exact fresh sending.inviteId (by simp [Request.draws])
  exact
    { sound := h.sound.begin fresh
      keyed := fun sending phase mem => by
        rcases send mem with old | ⟨rfl, -⟩
        · exact h.keyed sending phase old
        · exact fun key => by simpa [sendsInTurn, key] using turn
      clear := fun sending remaining mem => by
        rcases send mem with old | ⟨-, begun⟩
        · exact h.clear sending remaining old
        · unfold SendPhase.start at begun
          split at begun <;> cases begun
      responds := forall_mem_concat (by
        cases new with
        | send sending =>
            simp only [Request.call, SendPhase.start]
            split <;> trivial
        | _ => trivial) h.responds
      single := h.single.concat (by
        cases new with
        | send sending => simp [Request.call, Call.holder, start, Level.holds]
        | _ => rfl)
      granted := fun sending phase mem same grant granted own => by
        rcases send mem with old | ⟨rfl, -⟩
        · exact h.granted sending phase old same grant granted own
        · exact absurd (own ▸ h.sound.grants_drawn grant granted) (drawn rfl)
      invited := fun sending phase mem same => by
        rcases send mem with old | ⟨rfl, rfl⟩
        · exact h.invited sending phase old same
        · rw [start]
          refine ⟨fun now => (by cases now), ?_⟩
          rintro ⟨row, stored, own⟩
          exact absurd (own ▸ h.sound.invites_drawn row stored) (drawn rfl)
      answered := fun sending response mem same => by
        rcases send mem with old | ⟨-, begun⟩
        · exact h.answered sending response old same
        · have level := start sending
          rw [← begun] at level
          cases level
      cached := fun entry found => by
        obtain ⟨sending, response, mem, rest⟩ := h.cached entry found
        exact ⟨sending, response, List.mem_append_left _ mem, rest⟩
      timely := h.timely }

/-- Nothing is granted, cached or stored, and the calls stay. -/
theorem wait (h : Once svc request l) {w : World} (now : l.state.world.now ≤ w.now)
    (windows : w.windows = l.state.world.windows) (invites : w.invites = l.state.world.invites)
    (responses : w.responses = l.state.world.responses) :
    Once svc request ⟨{ l.state with world := w }, l.grants, l.resolved⟩ where
  sound := h.sound.wait now windows invites
  keyed := h.keyed
  clear := h.clear
  responds := h.responds
  single := h.single
  granted := h.granted
  invited sending phase mem same := by
    rw [invites]
    exact h.invited sending phase mem same
  answered sending response mem same := by
    rw [responses]
    exact h.answered sending response mem same
  cached entry found := by
    rw [invites]
    exact h.cached entry (responses ▸ found)
  timely row mem := (h.timely row (invites ▸ mem)).trans now

/-- What is cached for the request after a step. -/
theorem entries_goOn (h : Once svc request l) (outside : Outside) (locked : Uuid → Bool)
    (mem : call ∈ l.state.calls) :
    (goOn svc outside locked call l.state.world).2.responses.entries (request.idemKey svc) =
        l.state.world.responses.entries (request.idemKey svc) ∨
      ∃ own response, call = .send own (.cacheWrite response) ∧ own.same request = true ∧
        (goOn svc outside locked call l.state.world).2.responses.entries (request.idemKey svc) =
          some ⟨response, some (l.state.world.now + idempotencyTtl)⟩ := by
  rcases responses_goOn svc outside locked l.state.world call with
    same | ⟨own, response, rfl, written⟩
  · exact Or.inl (by rw [same])
  · rw [written, KeyStore.entries_setEx]
    by_cases key : own.idemKey svc = request.idemKey svc
    · exact Or.inr ⟨own, response, rfl, h.keyed own _ mem key, by rw [if_pos key.symm]⟩
    · exact Or.inl (if_neg (Ne.symm key))

/-- The call that carries the request out is no other call. -/
theorem holder_eq (h : Once svc request l) (found : l.state.calls[index]? = some call)
    (holds : call.holder request = true) {other : Call} (mem : other ∈ l.state.calls)
    (busy : other.holder request = true) : other = call := by
  obtain ⟨j, atJ⟩ := List.mem_iff_getElem?.1 mem
  obtain rfl := h.single index j call other found atJ holds busy
  exact Option.some.inj (atJ.symm.trans found)

/-- What the cache answers is not the id of a call that has not got so far. -/
theorem replay_apart (h : Once svc request l) {own : Sending} {phase : SendPhase}
    (mem : .send own phase ∈ l.state.calls) (idle : phase.level = .idle)
    {entry : Stamped SendInviteResponse}
    (found : l.state.world.responses.entries (request.idemKey svc) = some entry) :
    entry.value.inviteId ≠ own.inviteId := by
  obtain ⟨sending, response, done, -, answer, same, -⟩ := h.cached entry found
  intro again
  obtain ⟨i, atI⟩ := List.mem_iff_getElem?.1 mem
  obtain ⟨j, atJ⟩ := List.mem_iff_getElem?.1 done
  have here : i = j := h.sound.numbered.unique atI atJ rfl
    (congrArg some (same.symm.trans again))
  subst here
  cases Option.some.inj (atI.symm.trans atJ)
  cases idle

/-- While nothing has come of the request, no call carries it out. -/
theorem no_holder (h : Once svc request l) (unclaimed : l.state.unclaimed svc request = true) :
    ∀ call ∈ l.state.calls, call.holder request = false := by
  intro call mem
  simp only [InviteState.unclaimed, Bool.decide_and, Bool.and_eq_true, decide_eq_true_eq,
    List.all_eq_true, Bool.not_eq_true'] at unclaimed
  obtain ⟨notCached, idle, young⟩ := unclaimed
  cases holds : call.holder request with
  | false => rfl
  | true =>
      have quiet := idle call mem
      cases call with
      | send own phase =>
          simp only [Call.holder, Bool.and_eq_true] at holds
          obtain ⟨same, holds⟩ := holds
          cases phase with
          | done result =>
              cases result with
              | error failure => cases holds
              | ok response =>
                  -- the call has been answered, and its response is still in the cache
                  obtain ⟨entry, found, -⟩ := h.answered own response mem same
                  obtain ⟨sending, _, done, again, -, -, row, stored, id, deadline, expires, kept⟩ :=
                    h.cached entry found
                  have making : row.id ∈ l.state.calls.filterMap (Call.making request) :=
                    List.mem_filterMap.2 ⟨_, done, by simp [Call.making, again, id]⟩
                  have alive : l.state.world.now < row.createdAt + idempotencyTtl :=
                    young row stored making
                  have cached : l.state.world.responses.get l.state.world.now
                      (request.idemKey svc) = some entry.value :=
                    KeyStore.get_eq_some_iff.2 ⟨entry, found, by
                      simpa only [KeyStore.Stamped.alive, expires, Option.all_some,
                        decide_eq_true_eq] using lt_of_lt_of_le alive kept, rfl⟩
                  simp [cached] at notCached
          | moderation | insert | conflict | publish | cacheWrite =>
              simp [Call.underWay, same] at quiet
          | _ => cases holds
      | _ => cases holds

/-- One step of a call, which does not go wrong if the call has the request. -/
structure Turn (svc : InviteService) (request : Sending) (outside : Outside) (index : Nat)
    (call : Call) (l l' : Ledger) : Prop where
  advances : Ledger.Sound.Advances svc outside call l l'
  found : l.state.calls[index]? = some call
  world : l'.state.world = (goOn svc outside l.state.locked call l.state.world).2
  set : l'.state.calls =
    l.state.calls.set index (goOn svc outside l.state.locked call l.state.world).1
  right : ∀ own before, call = .send own before → own.same request = true →
    goesRight svc request l.state outside own before = true

section

variable {l' : Ledger}

theorem Turn.moves (t : Turn svc request outside index call l l') (h : Once svc request l)
    {own : Sending} {before : SendPhase} (here : call = .send own before)
    (same : own.same request = true) :
    Moves svc request l.state own before ((Call.send own before).grant outside l.state.world)
      (sendStep svc outside own before l.state.world).1 l'.state.world := by
  subst here
  rw [t.world]
  refine moves_sendStep same (t.right own before rfl same) fun remaining conflict => ?_
  subst conflict
  simp [h.clear own remaining t.advances.mem] at same

/-- What was granted to a call before is granted to it now, and nothing else. -/
theorem Turn.grants_of_none (t : Turn svc request outside index call l l')
    (none : call.grant outside l.state.world = none) : l'.grants = l.grants := by
  rw [t.advances.grants, none, Option.toList_none, List.append_nil]

theorem granted_turn (h : Once svc request l) (t : Turn svc request outside index call l l')
    (sending : Sending) (phase : SendPhase) (mem : .send sending phase ∈ l'.state.calls)
    (same : sending.same request = true) (grant : Grant) (granted : grant ∈ l'.grants)
    (own : grant.inviteId = sending.inviteId) : phase.level.holds sending.inviteId = true := by
  rcases t.advances.calls sending phase mem with ⟨before, rfl, rfl⟩ | ⟨stored, apart⟩
  · have old := h.granted sending before t.advances.mem same grant
    cases t.moves h rfl same with
    | stays level none =>
        rw [level]
        exact old (t.grants_of_none none ▸ granted) own
    | replays level _ none =>
        have idle := old (t.grants_of_none none ▸ granted) own
        rw [level] at idle
        cases idle
    | admits _ level =>
        rw [level]
        rfl
    | inserts _ level =>
        rw [level]
        rfl
    | caches response here done =>
        subst here
        have own : response.inviteId = sending.inviteId := h.responds _ t.advances.mem
        rw [done]
        exact decide_eq_true own
  · rcases Ledger.Sound.mem_grants t.advances granted with old | ⟨other, limit, here, rfl⟩
    · exact h.granted sending phase stored same grant old own
    · exact absurd own.symm (apart other _ here)

theorem invited_turn (h : Once svc request l) (t : Turn svc request outside index call l l')
    (sending : Sending) (phase : SendPhase) (mem : .send sending phase ∈ l'.state.calls)
    (same : sending.same request = true) : phase.level.invited sending.inviteId = true ↔
      ∃ row ∈ l'.state.world.invites.rows, row.id = sending.inviteId := by
  rcases t.advances.calls sending phase mem with ⟨before, rfl, rfl⟩ | ⟨stored, apart⟩
  · have old := h.invited sending before t.advances.mem same
    cases t.moves h rfl same with
    | stays level _ invites =>
        rw [level, invites]
        exact old
    | replays level done _ cached world =>
        rw [level] at old
        rw [done, world]
        refine ⟨fun now => ?_, fun stored => by cases old.2 stored⟩
        obtain ⟨entry, found, -, rfl⟩ := KeyStore.get_eq_some_iff.1 cached
        exact absurd (of_decide_eq_true now) (h.replay_apart t.advances.mem level found)
    | admits level level' _ invites =>
        rw [level', invites]
        rw [level] at old
        exact old
    | inserts level level' _ inserted id =>
        rw [level']
        refine ⟨fun _ => ?_, fun _ => rfl⟩
        exact ⟨_, (Table.insert?_eq_some inserted).2 ▸ List.mem_cons_self, id⟩
    | caches response here done _ invites =>
        subst here
        have own : response.inviteId = sending.inviteId := h.responds _ t.advances.mem
        rw [done, invites, SendPhase.level, Level.invited, decide_eq_true own]
        exact ⟨fun _ => old.1 rfl, fun _ => rfl⟩
  · rw [h.invited sending phase stored same, t.world]
    constructor
    · rintro ⟨row, old, id⟩
      exact ⟨_, (mem_goOn svc outside l.state.locked l.state.world call).1 row old,
        (Call.change_id ..).trans id⟩
    · rintro ⟨row, new, id⟩
      rcases Ledger.Sound.row_goOn new with ⟨old, before, again, -⟩ | ⟨_, _, _, _, here, other, -⟩
      · exact ⟨old, before, again.symm.trans id⟩
      · exact absurd (id.symm.trans other) (apart _ _ here)

theorem single_turn (h : Once svc request l) (t : Turn svc request outside index call l l') :
    AtMostOne (Call.holder request) l'.state.calls := by
  rw [t.set]
  refine h.single.set t.found fun now => ?_
  cases call with
  | send own before =>
      simp only [goOn, Prod.map, Call.holder, Bool.and_eq_true] at now ⊢
      obtain ⟨same, now⟩ := now
      cases t.moves h rfl same with
      | stays level => exact Or.inl ⟨same, level ▸ now⟩
      | replays level done _ cached =>
          rw [done] at now
          obtain ⟨entry, found, -, rfl⟩ := KeyStore.get_eq_some_iff.1 cached
          exact absurd (of_decide_eq_true now) (h.replay_apart t.advances.mem level found)
      | admits _ _ unclaimed => exact Or.inr (h.no_holder unclaimed)
      | inserts level => exact Or.inl ⟨same, by rw [level]; rfl⟩
      | caches response here =>
          subst here
          exact Or.inl ⟨same, rfl⟩
  | _ => cases now

/-- A call that has been answered stays answered. -/
theorem Turn.mem_done (t : Turn svc request outside index call l l') {sending : Sending}
    {result : Except Failure SendInviteResponse}
    (mem : .send sending (.done result) ∈ l.state.calls) :
    .send sending (.done result) ∈ l'.state.calls := by
  rw [t.set]
  by_cases here : call = .send sending (.done result)
  · subst here
    exact mem_set_of_found t.found
  · exact mem_set_of_mem t.found mem here

theorem Turn.row_kept (t : Turn svc request outside index call l l') {row : CollabInvite}
    (stored : row ∈ l.state.world.invites.rows) :
    ∃ row' ∈ l'.state.world.invites.rows, row'.id = row.id ∧ row'.createdAt = row.createdAt := by
  rw [t.world]
  exact ⟨_, (mem_goOn svc outside l.state.locked l.state.world call).1 row stored,
    Call.change_id .., (Ledger.Sound.change_fields outside call row).2⟩

theorem answered_turn (h : Once svc request l) (t : Turn svc request outside index call l l')
    (sending : Sending) (response : SendInviteResponse)
    (mem : .send sending (.done (.ok response)) ∈ l'.state.calls)
    (same : sending.same request = true) :
    ∃ entry, l'.state.world.responses.entries (request.idemKey svc) = some entry ∧
      entry.value.inviteId = response.inviteId := by
  rcases t.advances.calls sending _ mem with ⟨before, rfl, went⟩ | ⟨stored, -⟩
  · have level := congrArg SendPhase.level went
    cases t.moves h rfl same with
    | stays still _ _ responses =>
        obtain ⟨response', rfl, id⟩ := SendPhase.level_eq_answered (still.symm.trans level.symm)
        obtain ⟨entry, found, value⟩ := h.answered sending response' t.advances.mem same
        exact ⟨entry, responses ▸ found, value.trans id⟩
    | replays _ done _ cached world =>
        obtain ⟨entry, found, -, rfl⟩ := KeyStore.get_eq_some_iff.1 cached
        cases went.trans done
        exact ⟨entry, world ▸ found, rfl⟩
    | admits _ level' =>
        rw [level'] at level
        cases level
    | inserts _ level' =>
        rw [level'] at level
        cases level
    | caches response' _ done _ _ responses =>
        cases went.trans done
        exact ⟨_, by rw [responses, KeyStore.entries_setEx, if_pos rfl], rfl⟩
  · obtain ⟨entry, found, value⟩ := h.answered sending response stored same
    refine ⟨entry, ?_, value⟩
    rw [t.world]
    rcases h.entries_goOn outside l.state.locked t.advances.mem with
      kept | ⟨own, _, rfl, again, -⟩
    · exact kept.trans found
    · -- two calls cannot both have carried the request out
      obtain ⟨other, response', done, same', own', -⟩ := h.cached entry found
      have holds : (Call.send own (.cacheWrite ‹_›)).holder request = true := by
        simp [Call.holder, again, SendPhase.level, Level.holds]
      have busy : (Call.send other (.done (.ok response'))).holder request = true := by
        simp [Call.holder, same', SendPhase.level, Level.holds, own']
      cases h.holder_eq t.found holds done busy

theorem cached_turn (h : Once svc request l) (t : Turn svc request outside index call l l')
    (entry : Stamped SendInviteResponse)
    (found : l'.state.world.responses.entries (request.idemKey svc) = some entry) :
    ∃ sending response, .send sending (.done (.ok response)) ∈ l'.state.calls ∧
      sending.same request = true ∧ response.inviteId = sending.inviteId ∧
      entry.value.inviteId = sending.inviteId ∧
      ∃ row ∈ l'.state.world.invites.rows, row.id = sending.inviteId ∧
        ∃ deadline, entry.deadline = some deadline ∧ row.createdAt + idempotencyTtl ≤ deadline := by
  rw [t.world] at found
  rcases h.entries_goOn outside l.state.locked t.advances.mem with
    kept | ⟨own, response, rfl, same, written⟩
  · rw [kept] at found
    obtain ⟨sending, response, done, same, answer, value, row, stored, id, deadline, expires, le⟩ :=
      h.cached entry found
    obtain ⟨row', stored', id', created⟩ := t.row_kept stored
    exact ⟨sending, response, t.mem_done done, same, answer, value, row', stored', id'.trans id,
      deadline, expires, created ▸ le⟩
  · rw [written] at found
    obtain rfl := Option.some.inj found
    have answer : response.inviteId = own.inviteId := h.responds _ t.advances.mem
    obtain ⟨row, stored, id⟩ := (h.invited own _ t.advances.mem same).1 rfl
    obtain ⟨row', stored', id', created⟩ := t.row_kept stored
    have redis : outside.redis = true := t.right own _ rfl same
    refine ⟨own, response, ?_, same, answer, answer, row', stored', id'.trans id, _, rfl, ?_⟩
    · rw [t.set]
      have went : (goOn svc outside l.state.locked (.send own (.cacheWrite response))
          l.state.world).1 = .send own (.done (.ok response)) := by
        simp [goOn, sendStep, redis]
      rw [went]
      exact mem_set_of_found t.found
    · rw [created]
      exact Int.add_le_add_right (h.timely row stored) _

theorem turn (h : Once svc request l) (t : Turn svc request outside index call l l')
    (sound : l'.Sound) : Once svc request l' where
  sound := sound
  keyed sending phase mem := by
    rcases t.advances.calls sending phase mem with ⟨before, rfl, -⟩ | ⟨stored, -⟩
    · exact h.keyed sending before t.advances.mem
    · exact h.keyed sending phase stored
  clear sending remaining mem := by
    rcases t.advances.calls sending _ mem with ⟨before, rfl, went⟩ | ⟨stored, -⟩
    · cases same : sending.same request with
      | false => rfl
      | true =>
          refine absurd went.symm (clear_sendStep (t.right sending before rfl same) ?_ remaining)
          rintro remaining' rfl
          simp [h.clear sending remaining' t.advances.mem] at same
    · exact h.clear sending remaining stored
  responds := by
    rw [t.set]
    exact forall_mem_set (respondsRight_goOn svc outside l.state.locked l.state.world call) h.responds
  single := h.single_turn t
  granted := h.granted_turn t
  invited := h.invited_turn t
  answered := h.answered_turn t
  cached := h.cached_turn t
  timely row mem := by
    rw [t.advances.now]
    rcases t.advances.invites row mem with ⟨old, stored, -, -, created⟩ | ⟨_, _, _, _, -, -, -, created, -⟩
    · exact created ▸ h.timely old stored
    · exact created.le

end

theorem step (h : Once svc request l) (e : Occurrence)
    (right : sendsInTurn svc request l.state e = true) : Once svc request (l.step svc e) := by
  cases e with
  | begin new =>
      simp only [Ledger.step, InviteState.grant, InviteState.resolved, InviteState.going,
        Option.bind_none, Option.toList_none, List.append_nil, List.nil_append, InviteState.step]
      split
      · rename_i fresh
        exact h.begin (by simpa using fresh) right
      · exact h
  | advance index outside =>
      cases found : l.state.calls[index]? with
      | none =>
          have same : l.step svc (.advance index outside) = l := by
            simp [Ledger.step, InviteState.grant, InviteState.resolved, InviteState.going,
              InviteState.step, found]
          rwa [same]
      | some call =>
          have turn : Turn svc request outside index call l (l.step svc (.advance index outside)) :=
            { advances := Ledger.Sound.advances h.sound.numbered svc outside found
              found
              world := by simp only [Ledger.step, InviteState.step, found]
              set := by simp only [Ledger.step, InviteState.step, found]
              right := by
                rintro own before rfl same
                simpa [sendsInTurn, found, same] using right }
          exact h.turn turn (h.sound.step svc (.advance index outside))
  | tick time =>
      have waited := h.wait (w := { l.state.world with now := l.state.world.now + time })
        (Int.le_add_of_nonneg_right (Int.natCast_nonneg _)) rfl rfl rfl
      simpa [Ledger.step, InviteState.grant, InviteState.resolved, InviteState.going,
        InviteState.step] using waited
  | entitlementChanged userId =>
      have waited := h.wait
        (w := { l.state.world with limits := l.state.world.limits.delete userId })
        le_rfl rfl rfl rfl
      simpa [Ledger.step, InviteState.grant, InviteState.resolved, InviteState.going,
        InviteState.step] using waited

/-- Two calls that carry the request out have one id. -/
theorem same_id (h : Once svc request l) {first second : Sending} {phase phase' : SendPhase}
    (mem : .send first phase ∈ l.state.calls) (mem' : .send second phase' ∈ l.state.calls)
    (same : first.same request = true) (same' : second.same request = true)
    (holds : phase.level.holds first.inviteId = true)
    (holds' : phase'.level.holds second.inviteId = true) : first.inviteId = second.inviteId := by
  obtain ⟨index, found⟩ := List.mem_iff_getElem?.1 mem'
  have holder : (Call.send second phase').holder request = true := by
    simp [Call.holder, same', holds']
  have again := h.holder_eq found holder mem (by simp [Call.holder, same, holds])
  rw [(Call.send.inj again).1]

theorem mem_making {s : InviteState} {id : Uuid}
    (mem : id ∈ s.calls.filterMap (Call.making request)) :
    ∃ sending phase, .send sending phase ∈ s.calls ∧ sending.same request = true ∧
      id = sending.inviteId := by
  obtain ⟨call, stored, making⟩ := List.mem_filterMap.1 mem
  cases call with
  | send sending phase =>
      simp only [Call.making] at making
      split at making
      · rename_i same
        exact ⟨sending, phase, stored, same, (Option.some.inj making).symm⟩
      · cases making
  | _ => cases making

theorem holds_of_invited {level : Level} {own : Uuid} (invited : level.invited own = true) :
    level.holds own = true := by
  cases level with
  | idle | admitted => cases invited
  | stored => rfl
  | answered id => exact invited

end Once

/-- A list without repetitions whose elements are all the same. -/
theorem length_le_one {α : Type*} {elements : List α} (nodup : elements.Nodup)
    (same : ∀ a ∈ elements, ∀ b ∈ elements, a = b) : elements.length ≤ 1 := by
  match elements with
  | [] => simp
  | [_] => simp
  | a :: b :: rest =>
      have again := same a (by simp) b (by simp)
      simp [again] at nodup

theorem eq_singleton {α : Type*} {elements : List α} {a : α} (mem : a ∈ elements)
    (length : elements.length ≤ 1) : elements = [a] := by
  match elements with
  | [_] => rw [List.mem_singleton.1 mem]
  | _ :: _ :: _ => simp at length

namespace Once

variable {svc : InviteService} {request : Sending} {l : Ledger}

theorem length_invitesOf (h : Once svc request l) : (l.invitesOf request).length ≤ 1 := by
  have nodup : l.state.world.invites.rows.Nodup := l.state.world.invites.keys_nodup.of_map _
  refine length_le_one (nodup.filter _) fun row mem row' mem' => ?_
  obtain ⟨stored, made⟩ := List.mem_filter.1 mem
  obtain ⟨stored', made'⟩ := List.mem_filter.1 mem'
  obtain ⟨first, phase, here, same, id⟩ := mem_making (of_decide_eq_true made)
  obtain ⟨second, phase', here', same', id'⟩ := mem_making (of_decide_eq_true made')
  have holds := holds_of_invited ((h.invited first phase here same).2 ⟨row, stored, id⟩)
  have holds' := holds_of_invited ((h.invited second phase' here' same').2 ⟨row', stored', id'⟩)
  refine Table.eq_of_key_eq stored stored' ?_
  rw [id, id', h.same_id here here' same same' holds holds']

theorem length_grantsOf (h : Once svc request l) : (l.grantsOf request).length ≤ 1 := by
  have nodup : l.grants.Nodup := h.sound.distinct.of_map _
  refine length_le_one (nodup.filter _) fun grant mem grant' mem' => ?_
  obtain ⟨granted, made⟩ := List.mem_filter.1 mem
  obtain ⟨granted', made'⟩ := List.mem_filter.1 mem'
  obtain ⟨first, phase, here, same, id⟩ := mem_making (of_decide_eq_true made)
  obtain ⟨second, phase', here', same', id'⟩ := mem_making (of_decide_eq_true made')
  have holds := h.granted first phase here same grant granted id
  have holds' := h.granted second phase' here' same' grant' granted' id'
  refine List.inj_on_of_nodup_map h.sound.distinct granted granted' ?_
  rw [id, id', h.same_id here here' same same' holds holds']

theorem sentOnce (h : Once svc request l) : SentOnce request l where
  invites := h.length_invitesOf
  quota := h.length_grantsOf
  answers sending response mem same := by
    obtain ⟨entry, found, value⟩ := h.answered sending response mem same
    obtain ⟨own, _, done, same', -, value', row, stored, id, -⟩ := h.cached entry found
    obtain ⟨-, grant, granted, id', -⟩ := h.sound.created row stored
    have making : own.inviteId ∈ l.state.calls.filterMap (Call.making request) :=
      List.mem_filterMap.2 ⟨_, done, by simp [Call.making, same']⟩
    have invite : row ∈ l.invitesOf request :=
      List.mem_filter.2 ⟨stored, decide_eq_true (id ▸ making)⟩
    have unit : grant ∈ l.grantsOf request :=
      List.mem_filter.2 ⟨granted, decide_eq_true ((id'.trans id) ▸ making)⟩
    refine ⟨row, grant, ?_, id.trans (value'.symm.trans value), ?_⟩
    · exact eq_singleton invite h.length_invitesOf
    · exact eq_singleton unit h.length_grantsOf

end Once

/--
In every run in which the quota admits the request only while nothing has come of it, the
request is carried out once.
-/
theorem sent_once (svc : InviteService) (request : Sending) {occurrences : List Occurrence}
    (turns : Guarded (Ledger.step svc) (fun l e => sendsInTurn svc request l.state e = true)
      .initial occurrences) : SentOnce request (Ledger.run svc occurrences) := by
  have kept : ∀ (l : Ledger) (e : Occurrence), sendsInTurn svc request l.state e = true →
      Once svc request l → Once svc request (l.step svc e) :=
    fun _ e right h => h.step e right
  exact (runFrom_invariant_of_guarded kept .initial turns).sentOnce

def vibe : Sending := ⟨⟨"anna"⟩, ⟨"ben"⟩, greeting, none, ⟨"1"⟩⟩

/-- The second request begins when the first one has ended, and is answered from the cache. -/
theorem sent_once_in_turn : SentOnce vibe (Ledger.run plainService
    (sendAlone 0 vibe ++ sendAlone 1 { vibe with inviteId := ⟨"2"⟩ })) :=
  sent_once plainService vibe (by decide +kernel)

/-- Both calls read the cache before either of them writes it, and two invites are made. -/
theorem sent_twice :
    ¬ SentOnce vibe (Ledger.run plainService
      ([.begin (.send vibe), .begin (.send { vibe with inviteId := ⟨"2"⟩ })] ++
        (List.replicate 9 [.advance 0 {}, .advance 1 {}]).flatten)) :=
  fun once => absurd once.invites (by decide +kernel)

end ColabPlatform.Invites
