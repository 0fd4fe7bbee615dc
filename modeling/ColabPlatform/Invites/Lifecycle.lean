import ColabPlatform.Invites.Runs

/-!
# The lifecycle of an invite

An invite leaves `pending` by the commit of one call, which held its lock and found it
pending.  From then on nobody can take the lock again and go on, so the status stays.
-/

namespace ColabPlatform.Invites

open Foundation Common
open Billing (Uuid Timestamp)

namespace Call

/-- The call has committed its change of the invite. -/
def turned : Call → Uuid → Bool
  | .answer answering (.publish ..), id | .answer answering (.publishMatch ..), id
  | .answer answering (.done (.ok _)), id => answering.inviteId = id
  | .expire (.publish _ rows), id | .expire (.done rows _), id => rows.any fun row => row.id = id
  | _, _ => false

/-- The invite is as a change of the call leaves it, and the caller is the right party. -/
def decided : Call → CollabInvite → Bool
  | .answer answering _, row =>
      row.status = answering.kind.status ∧ answering.kind.party row = answering.callerId
  | .expire _, row => row.status = .expired
  | _, _ => false

/-- The call holds the invite as it is. -/
def loaded : Call → CollabInvite → Prop
  | .answer answering (.mirror row _), stored | .answer answering (.commit row _ _), stored =>
      stored = row ∧ answering.kind.party row = answering.callerId
  | .expire (.update rows at_), stored => stored ∈ rows ∧ stored.archiveAt ≤ at_
  | _, _ => False

/-- The call holds the lock of the invite, or has committed its change. -/
def engaged (call : Call) (inviteId : Uuid) : Bool := call.holds inviteId || call.turned inviteId

theorem not_turned_of_holds {call : Call} {inviteId : Uuid} (holds : call.holds inviteId = true) :
    call.turned inviteId = false := by
  cases call with
  | answer answering phase => cases phase <;> first | rfl | cases holds
  | expire phase => cases phase <;> first | rfl | cases holds
  | _ => cases holds

theorem decided.not_pending {call : Call} {row : CollabInvite} (decided : call.decided row = true) :
    row.status ≠ .pending := by
  intro pending
  cases call with
  | answer answering phase =>
      cases kind : answering.kind <;> simp [Call.decided, pending, kind, AnswerKind.status] at decided
  | expire phase => simp [Call.decided, pending] at decided
  | _ => cases decided

end Call

/-! ## One step of a call -/

/-- What a step makes of the hold that a call has on invites. -/
structure Goes (outside : Outside) (locked : Uuid → Bool) (w : World) (old new : Call) :
    Prop where
  holds : ∀ id, new.holds id = true →
    old.holds id = true ∧ (∀ row, old.loaded row → new.loaded row) ∨
      locked id = false ∧ ∃ row ∈ w.invites.rows, row.id = id ∧ row.status = .pending ∧
        new.loaded row
  turned : ∀ id, new.turned id = true →
    old.turned id = true ∨
      old.holds id = true ∧
        ∀ row, row.id = id → old.loaded row → new.decided (old.change outside row) = true
  kept : ∀ id, old.turned id = true → new.turned id = true
  decided : new.decided = old.decided
  changed : ∀ row, old.change outside row ≠ row →
    old.holds row.id = true ∧ new.turned row.id = true

/-- A call without locks. -/
theorem Goes.of_free {outside : Outside} {locked : Uuid → Bool} {w : World} {old new : Call}
    (holds : ∀ id, new.holds id = false) (turned : ∀ id, new.turned id = old.turned id)
    (decided : new.decided = old.decided) (change : ∀ row, old.change outside row = row) : Goes outside locked w old new where
  holds id held := by simp [holds] at held
  turned id now := Or.inl (by rwa [turned] at now)
  kept id before := by rwa [turned]
  decided := decided
  changed row other := absurd (change row) other

section

variable (svc : InviteService) (outside : Outside) (locked : Uuid → Bool) (w : World)

theorem goes_answer (answering : Answer) (phase : AnswerPhase) :
    Goes outside locked w (.answer answering phase)
      (.answer answering (answerStep outside (locked answering.inviteId) answering phase w).1) := by
  cases phase with
  | lock =>
      obtain ⟨-, waits | ⟨failure, failed, -⟩ | ⟨row, free, -, found, own, pending, loads⟩⟩ :=
        answerStep_lock outside (locked answering.inviteId) w answering
      · rw [waits]
        exact .of_free (fun _ => rfl) (fun _ => rfl) rfl fun _ => rfl
      · rw [failed]
        exact .of_free (fun _ => rfl) (fun _ => rfl) rfl fun _ => rfl
      · rw [loads]
        have stored := Table.mem_of_lookup found
        have key := Table.key_of_lookup found
        split <;> exact
          { holds := fun id held => by
              obtain rfl : answering.inviteId = id := by simpa [Call.holds] using held
              exact Or.inr ⟨free, row, stored, key, pending, rfl, own⟩
            turned := fun id now => by cases now
            kept := fun id before => by cases before
            decided := rfl
            changed := fun _ other => absurd rfl other }
  | mirror row at_ =>
      have goes : ∀ mirrorId, Goes outside locked w (.answer answering (.mirror row at_))
          (.answer answering (.commit row at_ mirrorId)) := fun mirrorId =>
        { holds := fun id held => Or.inl ⟨held, fun _ loaded => loaded⟩
          turned := fun id now => by cases now
          kept := fun id before => by cases before
          decided := rfl
          changed := fun _ other => absurd rfl other }
      simp only [answerStep]
      split
      · split
        · exact goes none
        · exact goes _
        · exact .of_free (fun _ => rfl) (fun _ => rfl) rfl fun _ => rfl
      · exact .of_free (fun _ => rfl) (fun _ => rfl) rfl fun _ => rfl
  | commit row at_ mirrorId =>
      simp only [answerStep]
      split
      · rename_i stored
        exact
          { holds := fun id held => by cases held
            turned := fun id now => Or.inr ⟨now, fun loaded same own => by
              have here : loaded.id = answering.inviteId := by
                rw [same]
                simpa [Call.turned, eq_comm] using now
              obtain ⟨rfl, own⟩ := own
              rw [Call.change, if_pos ⟨stored, here⟩]
              simp [Call.decided, own]⟩
            kept := fun id before => by cases before
            decided := rfl
            changed := fun found other => by
              have here : found.id = answering.inviteId := by
                by_contra apart
                exact other (by simp [Call.change, apart])
              simp [Call.holds, Call.turned, here] }
      · rename_i lost
        exact .of_free (fun _ => rfl) (fun _ => rfl) rfl fun found => by simp [Call.change, lost]
  | publish row mirrorId =>
      simp only [answerStep]
      split
      · split
        · exact .of_free (fun _ => rfl) (fun _ => rfl) rfl fun _ => rfl
        · exact .of_free (fun _ => rfl) (fun _ => rfl) rfl fun _ => rfl
      · exact .of_free (fun _ => rfl) (fun _ => rfl) rfl fun _ => rfl
  | publishMatch row mirrorId => exact .of_free (fun _ => rfl) (fun _ => rfl) rfl fun _ => rfl
  | done result =>
      exact .of_free (fun _ => rfl) (fun _ => rfl) rfl fun _ => rfl

theorem goes_expire (phase : ExpirePhase) :
    Goes outside locked w (.expire phase) (.expire (expireStep outside locked phase w).1) := by
  cases phase with
  | select =>
      simp only [expireStep]
      split
      · split
        · exact .of_free (fun _ => rfl) (fun _ => rfl) rfl fun _ => rfl
        · rename_i taken _
          have stale : ∀ row ∈ ((w.stale locked).insertionSort fun row row' =>
              outside.rank row.id ≤ outside.rank row'.id).take batchSize,
              row ∈ w.invites.rows ∧ row.status = .pending ∧ row.archiveAt ≤ w.now ∧
                locked row.id = false := by
            intro row mem
            have stale := (List.mem_insertionSort _).1 (List.mem_of_mem_take mem)
            simpa [World.stale] using stale
          exact
            { holds := fun id held => by
                obtain ⟨row, mem, same⟩ := List.any_eq_true.1 held
                obtain ⟨stored, pending, past, free⟩ := stale row mem
                obtain rfl : row.id = id := by simpa using same
                exact Or.inr ⟨free, row, stored, rfl, pending, mem, past⟩
              turned := fun id now => by cases now
              kept := fun id before => by cases before
              decided := rfl
              changed := fun _ other => absurd rfl other }
      · exact .of_free (fun _ => rfl) (fun _ => rfl) rfl fun _ => rfl
  | update rows at_ =>
      simp only [expireStep]
      split
      · rename_i stored
        exact
          { holds := fun id held => by cases held
            turned := fun id now => Or.inr ⟨now, fun loaded same own => by
              have here : loaded.id ∈ rows.map CollabInvite.id := List.mem_map_of_mem own.1
              rw [Call.change, if_pos ⟨stored, here⟩]
              rfl⟩
            kept := fun id before => by cases before
            decided := rfl
            changed := fun found other => by
              have here : found.id ∈ rows.map CollabInvite.id := by
                by_contra apart
                exact other (by rw [Call.change, if_neg fun both => apart both.2])
              obtain ⟨row, mem, same⟩ := List.mem_map.1 here
              have held : rows.any (fun row => row.id = found.id) = true :=
                List.any_eq_true.2 ⟨row, mem, by simpa using same⟩
              exact ⟨held, held⟩ }
      · rename_i lost
        exact .of_free (fun _ => rfl) (fun _ => rfl) rfl fun found => by simp [Call.change, lost]
  | publish left rows =>
      cases left with
      | nil => exact .of_free (fun _ => rfl) (fun _ => rfl) rfl fun _ => rfl
      | cons row left =>
          simp only [expireStep]
          split
          · exact .of_free (fun _ => rfl) (fun _ => rfl) rfl fun _ => rfl
          · exact .of_free (fun _ => rfl) (fun _ => rfl) rfl fun _ => rfl
  | done rows result => exact .of_free (fun _ => rfl) (fun _ => rfl) rfl fun _ => rfl

theorem goes_goOn (call : Call) :
    Goes outside locked w call (goOn svc outside locked call w).1 := by
  cases call with
  | send sending phase => exact .of_free (fun _ => rfl) (fun _ => rfl) rfl fun _ => rfl
  | answer answering phase => exact goes_answer outside locked w answering phase
  | expire phase => exact goes_expire outside locked w phase
  | block blocking phase => exact .of_free (fun _ => rfl) (fun _ => rfl) rfl fun _ => rfl
  | unblock callerId profileId phase =>
      exact .of_free (fun _ => rfl) (fun _ => rfl) rfl fun _ => rfl

end

/-! ## The invariant -/

/-- Who holds an invite, and who has turned it. -/
structure Lifecycle (s : InviteState) : Prop where
  once : ∀ id, AtMostOne (fun call => call.engaged id) s.calls
  held : ∀ call ∈ s.calls, ∀ id, call.holds id = true →
    ∃ row ∈ s.world.invites.rows, row.id = id ∧ row.status = .pending ∧ call.loaded row
  turned : ∀ call ∈ s.calls, ∀ id, call.turned id = true →
    ∃ row ∈ s.world.invites.rows, row.id = id ∧ call.decided row = true
  settled : ∀ row ∈ s.world.invites.rows, row.status ≠ .pending →
    ∃ call ∈ s.calls, call.turned row.id = true

namespace Lifecycle

variable {svc : InviteService} {s : InviteState}

theorem initial : Lifecycle .initial where
  once _ := .nil
  held _ mem := by cases mem
  turned _ mem := by cases mem
  settled _ mem := by cases mem

/-- Nobody has turned a pending invite. -/
theorem not_turned (h : Lifecycle s) {row : CollabInvite} (mem : row ∈ s.world.invites.rows)
    (pending : row.status = .pending) {call : Call} (among : call ∈ s.calls) :
    call.turned row.id = false := by
  by_contra turned
  obtain ⟨found, stored, same, decided⟩ := h.turned call among row.id (by simpa using turned)
  obtain rfl := Table.eq_of_key_eq stored mem same
  exact Call.decided.not_pending decided pending

/-- A call that is only begun is engaged with no invite. -/
theorem call_free (request : Request) (id : Uuid) : request.call.engaged id = false := by
  cases request with
  | send sending => rfl
  | answer answering => rfl
  | expire => rfl
  | block blocking => rfl
  | unblock callerId profileId => rfl

theorem begin (h : Lifecycle s) (request : Request) (drawn : List Uuid) :
    Lifecycle { s with calls := s.calls ++ [request.call], drawn } where
  once id := (h.once id).concat (call_free request id)
  held call mem id holds := by
    rcases List.mem_append.1 mem with old | new
    · exact h.held call old id holds
    · obtain rfl := List.mem_singleton.1 new
      have free := call_free request id
      simp [Call.engaged, holds] at free
  turned call mem id turned := by
    rcases List.mem_append.1 mem with old | new
    · exact h.turned call old id turned
    · obtain rfl := List.mem_singleton.1 new
      have free := call_free request id
      simp [Call.engaged, turned] at free
  settled row mem left := by
    obtain ⟨call, among, turned⟩ := h.settled row mem left
    exact ⟨call, List.mem_append_left _ among, turned⟩

variable {outside : Outside} {index : Nat} {old : Call}

/-- What a step changes, nobody else holds or has turned. -/
theorem unchanged (h : Lifecycle s) (found : s.calls[index]? = some old) {new : Call}
    (goes : Goes outside s.locked s.world old new) {j : Nat} {call : Call} (apart : index ≠ j)
    (atJ : s.calls[j]? = some call) {row : CollabInvite} (engaged : call.engaged row.id = true) :
    old.change outside row = row := by
  by_contra other
  have held := (goes.changed row other).1
  exact apart ((h.once row.id) index j old call found atJ (by simp [Call.engaged, held]) engaged)

/-- Who becomes engaged with an invite was so before, or nobody was. -/
theorem engaged_before (h : Lifecycle s) {new : Call}
    (goes : Goes outside s.locked s.world old new) {id : Uuid} (engaged : new.engaged id = true) :
    old.engaged id = true ∨ ∀ call ∈ s.calls, call.engaged id = false := by
  rcases Bool.or_eq_true_iff.1 engaged with holds | turned
  · rcases goes.holds id holds with ⟨before, -⟩ | ⟨free, row, mem, rfl, pending, -⟩
    · exact Or.inl (by simp [Call.engaged, before])
    · refine Or.inr fun call among => ?_
      have unlocked := List.any_eq_false.1 free call among
      simp only [Call.engaged, h.not_turned mem pending among, Bool.or_false]
      simpa using unlocked
  · rcases goes.turned id turned with before | ⟨before, -⟩
    · exact Or.inl (by simp [Call.engaged, before])
    · exact Or.inl (by simp [Call.engaged, before])

/-- What a call holds after its step, the step has not changed. -/
theorem still_held (h : Lifecycle s) (mem : old ∈ s.calls) {new : Call}
    (goes : Goes outside s.locked s.world old new) {id : Uuid} (holds : new.holds id = true) :
    ∃ row ∈ s.world.invites.rows, row.id = id ∧ row.status = .pending ∧ new.loaded row ∧
      old.change outside row = row := by
  rcases goes.holds id holds with ⟨before, loads⟩ | ⟨free, row, stored, rfl, pending, loaded⟩
  · obtain ⟨row, stored, rfl, pending, loaded⟩ := h.held old mem id before
    refine ⟨row, stored, rfl, pending, loads row loaded, ?_⟩
    by_contra other
    have turned := (goes.changed row other).2
    simp [Call.not_turned_of_holds holds] at turned
  · refine ⟨row, stored, rfl, pending, loaded, ?_⟩
    by_contra other
    have held := (goes.changed row other).1
    have unlocked := List.any_eq_false.1 free old mem
    exact unlocked held

theorem advance (h : Lifecycle s) (found : s.calls[index]? = some old) :
    Lifecycle (s.step svc (.advance index outside)) := by
  have mem := List.mem_of_getElem? found
  have goes := goes_goOn svc outside s.locked s.world old
  obtain ⟨kept, came⟩ := mem_goOn svc outside s.locked s.world old
  simp only [InviteState.step, found]
  exact
    { once := fun id => (h.once id).set found fun engaged => h.engaged_before goes engaged
      held := fun call among id holds => by
        rcases mem_set_cases among with rfl | ⟨j, apart, atJ⟩
        · obtain ⟨row, stored, same, pending, loaded, still⟩ := h.still_held mem goes holds
          exact ⟨row, still ▸ kept row stored, same, pending, loaded⟩
        · obtain ⟨row, stored, rfl, pending, loaded⟩ :=
            h.held call (List.mem_of_getElem? atJ) id holds
          have still : old.change outside row = row :=
            h.unchanged found goes apart atJ (by simp [Call.engaged, holds])
          exact ⟨row, still ▸ kept row stored, rfl, pending, loaded⟩
      turned := fun call among id turned => by
        rcases mem_set_cases among with rfl | ⟨j, apart, atJ⟩
        · rcases goes.turned id turned with before | ⟨before, decides⟩
          · obtain ⟨row, stored, rfl, decided⟩ := h.turned old mem id before
            have still : old.change outside row = row := by
              by_contra other
              have free := Call.not_turned_of_holds (goes.changed row other).1
              simp [before] at free
            exact ⟨row, still ▸ kept row stored, rfl, by rw [goes.decided]; exact decided⟩
          · obtain ⟨row, stored, rfl, -, loaded⟩ := h.held old mem id before
            exact ⟨_, kept row stored, Call.change_id .., decides row rfl loaded⟩
        · obtain ⟨row, stored, rfl, decided⟩ := h.turned call (List.mem_of_getElem? atJ) id turned
          have still : old.change outside row = row :=
            h.unchanged found goes apart atJ (by simp [Call.engaged, turned])
          exact ⟨row, still ▸ kept row stored, rfl, decided⟩
      settled := fun row stored left => by
        rcases came row stored with ⟨pending, -⟩ | ⟨before, was, rfl⟩
        · exact absurd pending left
        · by_cases still : old.change outside before = before
          · rw [still] at left ⊢
            obtain ⟨call, among, turned⟩ := h.settled before was left
            obtain ⟨j, atJ⟩ := List.mem_iff_getElem?.1 among
            by_cases same : index = j
            · subst same
              obtain rfl := Option.some.inj (found.symm.trans atJ)
              exact ⟨_, mem_set_of_found found, goes.kept _ turned⟩
            · exact ⟨call, List.mem_of_getElem? ((List.getElem?_set_ne same).trans atJ), turned⟩
          · refine ⟨_, mem_set_of_found found, ?_⟩
            rw [Call.change_id]
            exact (goes.changed before still).2 }

theorem step (h : Lifecycle s) (e : Occurrence) : Lifecycle (s.step svc e) := by
  cases e with
  | begin request =>
      simp only [InviteState.step]
      split
      · exact h.begin request _
      · exact h
  | advance index outside =>
      cases found : s.calls[index]? with
      | none =>
          simp only [InviteState.step, found]
          exact h
      | some old => exact h.advance found
  | tick time => exact ⟨h.once, h.held, h.turned, h.settled⟩
  | entitlementChanged userId => exact ⟨h.once, h.held, h.turned, h.settled⟩

theorem run (occurrences : List Occurrence) : Lifecycle (InviteState.run svc occurrences) :=
  runFrom_invariant (fun _ e h => h.step e) initial occurrences

end Lifecycle

/-! ## From one state to a later one -/

/-- The invite at a later time: as it was, or turned, if it was pending. -/
def CollabInvite.Follows (row later : CollabInvite) : Prop :=
  later = row ∨ row.status = .pending ∧
    ∃ status at_, status ≠ .pending ∧ later = row.turn status at_

theorem CollabInvite.Follows.trans {first second third : CollabInvite}
    (h : first.Follows second) (h' : second.Follows third) : first.Follows third := by
  rcases h with rfl | ⟨pending, status, at_, left, rfl⟩
  · exact h'
  · rcases h' with rfl | ⟨again, -⟩
    · exact Or.inr ⟨pending, status, at_, left, rfl⟩
    · exact absurd again left

theorem Call.change_cases (outside : Outside) (call : Call) (row : CollabInvite) :
    call.change outside row = row ∨
      ∃ status at_, status ≠ .pending ∧ call.change outside row = row.turn status at_ := by
  cases call with
  | answer answering phase =>
      cases phase with
      | commit loaded at_ mirrorId =>
          simp only [change]
          split
          · refine Or.inr ⟨answering.kind.status, at_, ?_, rfl⟩
            cases answering.kind <;> simp [AnswerKind.status]
          · exact Or.inl rfl
      | _ => exact Or.inl rfl
  | expire phase =>
      cases phase with
      | update rows at_ =>
          simp only [change]
          split
          · exact Or.inr ⟨.expired, at_, by simp, rfl⟩
          · exact Or.inl rfl
      | _ => exact Or.inl rfl
  | _ => exact Or.inl rfl

section

variable {svc : InviteService} {s : InviteState}

theorem Lifecycle.follows_step (h : Lifecycle s) (e : Occurrence) {row : CollabInvite}
    (mem : row ∈ s.world.invites.rows) :
    ∃ later ∈ (s.step svc e).world.invites.rows, row.Follows later := by
  cases e with
  | begin request =>
      refine ⟨row, ?_, Or.inl rfl⟩
      simp only [InviteState.step]
      split <;> exact mem
  | advance index outside =>
      cases found : s.calls[index]? with
      | none =>
          simp only [InviteState.step, found]
          exact ⟨row, mem, Or.inl rfl⟩
      | some old =>
          have goes := goes_goOn svc outside s.locked s.world old
          have kept := (mem_goOn svc outside s.locked s.world old).1 row mem
          simp only [InviteState.step, found]
          refine ⟨_, kept, ?_⟩
          rcases old.change_cases outside row with same | ⟨status, at_, left, turned⟩
          · exact Or.inl same
          · by_cases same : old.change outside row = row
            · exact Or.inl same
            · obtain ⟨loaded, stored, key, pending, -⟩ := h.held old (List.mem_of_getElem? found)
                row.id (goes.changed row same).1
              obtain rfl := Table.eq_of_key_eq stored mem key
              exact Or.inr ⟨pending, status, at_, left, turned⟩
  | tick time => exact ⟨row, mem, Or.inl rfl⟩
  | entitlementChanged userId => exact ⟨row, mem, Or.inl rfl⟩

theorem Lifecycle.follows_run (h : Lifecycle s) (later : List Occurrence) {row : CollabInvite}
    (mem : row ∈ s.world.invites.rows) :
    ∃ row' ∈ (runFrom (InviteState.step svc) s later).world.invites.rows, row.Follows row' := by
  induction later generalizing s row with
  | nil => exact ⟨row, mem, Or.inl rfl⟩
  | cons e later ih =>
      obtain ⟨middle, stored, first⟩ := h.follows_step e mem
      obtain ⟨last, stored, rest⟩ := ih (h.step e) stored
      exact ⟨last, stored, first.trans rest⟩

/-- The one call that has turned the invite, if it is not pending. -/
structure InviteState.Decided (s : InviteState) (row : CollabInvite) : Prop where
  pending : row.status = .pending → ∀ call ∈ s.calls, call.turned row.id = false
  turned : row.status ≠ .pending →
    ∃ call ∈ s.calls, call.turned row.id = true ∧ call.decided row = true
  once : AtMostOne (fun call => call.turned row.id) s.calls
  /-- every other call fails -/
  others : ∀ (i j : Nat) (winner : Call) (answering : Answer) (result : Except Failure Bool),
    s.calls[i]? = some winner → winner.turned row.id = true →
    s.calls[j]? = some (.answer answering (.done result)) → answering.inviteId = row.id →
    i ≠ j → ∃ failure, result = .error failure

theorem Lifecycle.decides (h : Lifecycle s) {row : CollabInvite}
    (mem : row ∈ s.world.invites.rows) : s.Decided row where
  pending pending call among := h.not_turned mem pending among
  turned left := by
    obtain ⟨call, among, turned⟩ := h.settled row mem left
    obtain ⟨found, stored, same, decided⟩ := h.turned call among row.id turned
    obtain rfl := Table.eq_of_key_eq stored mem same
    exact ⟨call, among, turned, decided⟩
  once i j a b atI atJ turnedA turnedB :=
    h.once row.id i j a b atI atJ (by simp [Call.engaged, turnedA]) (by simp [Call.engaged, turnedB])
  others i j winner answering result atI turned atJ same apart := by
    cases result with
    | error failure => exact ⟨failure, rfl⟩
    | ok matched =>
        have also : (Call.answer answering (.done (.ok matched))).engaged row.id = true := by
          simp [Call.engaged, Call.turned, same]
        exact absurd (h.once row.id i j winner _ atI atJ (by simp [Call.engaged, turned]) also) apart

/-- An invite changes by the step of a call that held its lock and has turned it then. -/
theorem Lifecycle.changed_by (h : Lifecycle s) (e : Occurrence) {row row' : CollabInvite}
    (mem : row ∈ s.world.invites.rows) (mem' : row' ∈ (s.step svc e).world.invites.rows)
    (same : row'.id = row.id) (other : row' ≠ row) :
    ∃ index outside old new, e = .advance index outside ∧ s.calls[index]? = some old ∧
      (s.step svc e).calls[index]? = some new ∧ old.holds row.id = true ∧
      new.turned row.id = true ∧ new.decided row' = true := by
  cases e with
  | begin request =>
      have before : row' ∈ s.world.invites.rows := by
        simp only [InviteState.step] at mem'
        split at mem' <;> exact mem'
      exact absurd (Table.eq_of_key_eq before mem same) other
  | advance index outside =>
      cases found : s.calls[index]? with
      | none =>
          simp only [InviteState.step, found] at mem'
          exact absurd (Table.eq_of_key_eq mem' mem same) other
      | some old =>
          have goes := goes_goOn svc outside s.locked s.world old
          have kept := (mem_goOn svc outside s.locked s.world old).1 row mem
          have after : (s.step svc (.advance index outside)).calls[index]? =
              some (goOn svc outside s.locked old s.world).1 := by
            have inside := (List.getElem?_eq_some_iff.1 found).1
            simp [InviteState.step, found, List.getElem?_set_self inside]
          simp only [InviteState.step, found] at mem'
          have changes : row' = old.change outside row :=
            Table.eq_of_key_eq mem' kept (same.trans (Call.change_id ..).symm)
          obtain ⟨holds, turned⟩ := goes.changed row fun still => other (changes.trans still)
          refine ⟨index, outside, old, _, rfl, found, after, holds, turned, ?_⟩
          rcases goes.turned row.id turned with before | ⟨-, decides⟩
          · simp [Call.not_turned_of_holds holds] at before
          · obtain ⟨loaded, stored, key, -, own⟩ :=
              h.held old (List.mem_of_getElem? found) row.id holds
            obtain rfl := Table.eq_of_key_eq stored mem key
            rw [changes]
            exact decides loaded rfl own
  | tick time => exact absurd (Table.eq_of_key_eq mem' mem same) other
  | entitlementChanged userId => exact absurd (Table.eq_of_key_eq mem' mem same) other

/-- What the lifecycle promises of a state and of what comes after it. -/
structure InviteState.KeepsInvites (svc : InviteService) (s : InviteState) : Prop where
  absorbing : ∀ later : List Occurrence, ∀ row ∈ s.world.invites.rows,
    ∃ row' ∈ (runFrom (InviteState.step svc) s later).world.invites.rows, row.Follows row'
  decided : ∀ row ∈ s.world.invites.rows, s.Decided row
  changed : ∀ e, ∀ row ∈ s.world.invites.rows, ∀ row' ∈ (s.step svc e).world.invites.rows,
    row'.id = row.id → row' ≠ row →
    ∃ index outside old new, e = .advance index outside ∧ s.calls[index]? = some old ∧
      (s.step svc e).calls[index]? = some new ∧ old.holds row.id = true ∧
      new.turned row.id = true ∧ new.decided row' = true

/-- An invite leaves `pending` once, by a call of the right party or by the archival. -/
theorem InviteState.keeps_invites (svc : InviteService) (occurrences : List Occurrence) :
    (InviteState.run svc occurrences).KeepsInvites svc where
  absorbing later _ mem := (Lifecycle.run occurrences).follows_run later mem
  decided _ mem := (Lifecycle.run occurrences).decides mem
  changed e _ mem _ mem' same other := (Lifecycle.run occurrences).changed_by e mem mem' same other

end

end ColabPlatform.Invites
