import ColabPlatform.Invites.Runs

/-!
# What the quota counts

The quota script runs before moderation and before the insert, and nothing takes an
entry back.  What the window of a user holds is the history of the sends that the script
admitted, whether or not an invite came of them; the file keeps that history beside the
state.
-/

namespace ColabPlatform.Invites

open Foundation Common
open Billing (Uuid Timestamp)

/-! ## The ids of the calls -/

/-- The id that was drawn for the invite of a call. -/
def Call.inviteId? : Call → Option Uuid
  | .send sending _ => some sending.inviteId
  | _ => none

@[simp] theorem inviteId_goOn (svc : InviteService) (outside : Outside) (locked : Uuid → Bool)
    (call : Call) (w : World) : (goOn svc outside locked call w).1.inviteId? = call.inviteId? := by
  cases call <;> rfl

/-- The calls have ids of their own, all of which were drawn. -/
structure InviteState.Numbered (s : InviteState) : Prop where
  nodup : (s.calls.filterMap Call.inviteId?).Nodup
  drawn : ∀ id ∈ s.calls.filterMap Call.inviteId?, id ∈ s.drawn

namespace InviteState.Numbered

variable {s : InviteState}

theorem initial : InviteState.initial.Numbered := ⟨by simp [InviteState.initial], by
  simp [InviteState.initial]⟩

theorem filterMap_set {index : Nat} {old new : Call} (found : s.calls[index]? = some old)
    (same : new.inviteId? = old.inviteId?) :
    (s.calls.set index new).filterMap Call.inviteId? = s.calls.filterMap Call.inviteId? := by
  have mapped : (s.calls.set index new).map Call.inviteId? = s.calls.map Call.inviteId? := by
    rw [List.map_set, same]
    exact set_found (by rw [List.getElem?_map, found]; rfl)
  have ids : ∀ calls : List Call,
      calls.filterMap Call.inviteId? = (calls.map Call.inviteId?).filterMap id := fun calls => by
    rw [List.filterMap_map]
    rfl
  rw [ids, mapped, ← ids]

theorem step (h : s.Numbered) (svc : InviteService) (e : Occurrence) :
    (s.step svc e).Numbered := by
  cases e with
  | begin request =>
      simp only [InviteState.step]
      split
      · rename_i fresh
        have ids : (s.calls ++ [request.call]).filterMap Call.inviteId? =
            s.calls.filterMap Call.inviteId? ++ request.draws := by
          cases request <;> simp [Request.call, Call.inviteId?, Request.draws]
        have apart : ∀ id ∈ request.draws, id ∉ s.drawn := by simpa using fresh
        constructor
        · rw [ids]
          refine List.Nodup.append h.nodup (by cases request <;> simp [Request.draws]) ?_
          exact fun id old new => apart id new (h.drawn id old)
        · rw [ids]
          intro id mem
          rcases List.mem_append.1 mem with old | new
          · exact List.mem_append_right _ (h.drawn id old)
          · exact List.mem_append_left _ new
      · exact h
  | advance index outside =>
      cases found : s.calls[index]? with
      | none =>
          simp only [InviteState.step, found]
          exact h
      | some old =>
          simp only [InviteState.step, found]
          have ids := filterMap_set found (inviteId_goOn svc outside s.locked old s.world)
          exact ⟨by rw [ids]; exact h.nodup, by rw [ids]; exact h.drawn⟩
  | tick time => exact ⟨h.nodup, h.drawn⟩
  | entitlementChanged userId => exact ⟨h.nodup, h.drawn⟩

/-- Two calls of one id are one call. -/
theorem unique (h : s.Numbered) {i j : Nat} {a b : Call} {id : Uuid}
    (atI : s.calls[i]? = some a) (atJ : s.calls[j]? = some b) (first : a.inviteId? = some id)
    (second : b.inviteId? = some id) : i = j := by
  have pairs := List.pairwise_filterMap.1 h.nodup
  rcases Nat.lt_trichotomy i j with lt | same | gt
  · obtain ⟨insideI, rfl⟩ := List.getElem?_eq_some_iff.1 atI
    obtain ⟨insideJ, rfl⟩ := List.getElem?_eq_some_iff.1 atJ
    exact absurd rfl (List.pairwise_iff_getElem.1 pairs i j insideI insideJ lt id first id second)
  · exact same
  · obtain ⟨insideI, rfl⟩ := List.getElem?_eq_some_iff.1 atI
    obtain ⟨insideJ, rfl⟩ := List.getElem?_eq_some_iff.1 atJ
    exact absurd rfl (List.pairwise_iff_getElem.1 pairs j i insideJ insideI gt id second id first)

end InviteState.Numbered

/-! ## The history -/

/-- A send that the quota script admitted. -/
structure Grant where
  userId : Uuid
  inviteId : Uuid
  grantedAt : Timestamp
  deriving DecidableEq, Repr

def Grant.entry (grant : Grant) : QuotaEntry := ⟨grant.inviteId, milliseconds grant.grantedAt⟩

/-- What the next step of a call is granted. -/
def Call.grant (outside : Outside) (w : World) : Call → Option Grant
  | .send sending (.quota limit) =>
      if outside.redis ∧ (w.quotaScript sending.fromProfileId limit sending.inviteId).1.1 then
        some ⟨sending.fromProfileId, sending.inviteId, w.now⟩
      else none
  | _ => none

/-- The id of a call that ends, in its next step, on an invite that was there already. -/
def Call.resolved (svc : InviteService) (outside : Outside) (w : World) : Call → Option Uuid
  | .send sending (.conflict _) =>
      if outside.db ∧ (w.invites.lookupAlt (sending.idemKey svc)).isSome then
        some sending.inviteId
      else none
  | _ => none

/-- The call that goes on in a step, and what the outside does. -/
def InviteState.going (s : InviteState) : Occurrence → Option (Call × Outside)
  | .advance index outside => (s.calls[index]?).map fun call => (call, outside)
  | _ => none

def InviteState.grant (s : InviteState) (e : Occurrence) : Option Grant :=
  (s.going e).bind fun (call, outside) => call.grant outside s.world

def InviteState.resolved (svc : InviteService) (s : InviteState) (e : Occurrence) :
    Option Uuid :=
  (s.going e).bind fun (call, outside) => call.resolved svc outside s.world

/-- A state, and what has happened to the quotas on the way. -/
structure Ledger where
  state : InviteState
  grants : List Grant
  /-- the ids of the calls that ended on an invite that was there already -/
  resolved : List Uuid

namespace Ledger

def initial : Ledger := ⟨.initial, [], []⟩

def step (svc : InviteService) (l : Ledger) (e : Occurrence) : Ledger where
  state := l.state.step svc e
  grants := l.grants ++ (l.state.grant e).toList
  resolved := (l.state.resolved svc e).toList ++ l.resolved

def run (svc : InviteService) (occurrences : List Occurrence) : Ledger :=
  runFrom (step svc) initial occurrences

/-- The history is kept beside the run of the service. -/
theorem state_run (svc : InviteService) (occurrences : List Occurrence) :
    (run svc occurrences).state = InviteState.run svc occurrences := by
  have along : ∀ (l : Ledger), (runFrom (step svc) l occurrences).state =
      runFrom (InviteState.step svc) l.state occurrences := by
    induction occurrences with
    | nil => exact fun l => rfl
    | cons e rest ih => exact fun l => ih (l.step svc e)
  exact along initial

/-- The entries of a user's grants, in their order. -/
def entriesOf (l : Ledger) (userId : Uuid) : List QuotaEntry :=
  (l.grants.filter fun grant => grant.userId = userId).map Grant.entry

end Ledger

/-! ## What the claimed balance would be -/

/-- Whether a call has its entry: `none` where the phase does not tell. -/
def SendPhase.spent : SendPhase → Option Bool
  | .blockCheck | .cacheCheck | .limitCheck | .fetchLimit | .storeLimit _ | .quota _ => some false
  | .moderation _ | .insert .. | .conflict _ | .publish .. | .cacheWrite _ => some true
  | .done (.error (.http status _)) => some (status = 422)
  | .done _ => none

/-- The entries of every user are as many as the invites of the window. -/
def InviteState.CountsInvites (s : InviteState) : Prop :=
  ∀ userId, (s.world.counted userId).length =
    (s.world.invites.rows.filter fun row => row.fromProfileId = userId ∧
      counts s.world.now ⟨row.id, milliseconds row.createdAt⟩).length

/-- What the windows hold, beside the calls that ended on an invite that was there already. -/
structure CountsGrants (svc : InviteService) (l : Ledger) : Prop where
  /-- the entries are the grants of the window, one by one -/
  counted : ∀ userId,
    (l.state.world.counted userId).filter (fun entry => entry.member ∉ l.resolved) =
      (l.entriesOf userId).filter fun entry =>
        counts l.state.world.now entry ∧ entry.member ∉ l.resolved
  /-- no send is granted twice -/
  distinct : (l.grants.map Grant.inviteId).Nodup
  /-- every invite was granted -/
  created : ∀ row ∈ l.state.world.invites.rows, row.id ∉ l.resolved ∧
    ∃ grant ∈ l.grants, grant.inviteId = row.id ∧ grant.userId = row.fromProfileId ∧
      grant.grantedAt ≤ row.createdAt
  /-- the calls past the quota were granted, and so was one that moderation refused -/
  spent : ∀ sending phase, .send sending phase ∈ l.state.calls → phase.spent = some true →
    ∃ grant ∈ l.grants, grant.inviteId = sending.inviteId ∧
      grant.userId = sending.fromProfileId
  /-- the calls before the quota were not, nor those refused until then -/
  unspent : ∀ sending phase, .send sending phase ∈ l.state.calls → phase.spent = some false →
    ∀ grant ∈ l.grants, grant.inviteId ≠ sending.inviteId
  /-- a grant adds its entry -/
  added : ∀ e grant, l.state.grant e = some grant → ∀ userId,
    (l.state.step svc e).world.counted userId =
      l.state.world.counted userId ++ if userId = grant.userId then [grant.entry] else []

/-- What is not granted leaves the entries of every user as they are. -/
def InviteState.KeepsEntries (svc : InviteService) (s : InviteState) : Prop :=
  ∀ e, (∀ time, e ≠ .tick time) → s.grant e = none → s.resolved svc e = none →
    ∀ userId, (s.step svc e).world.counted userId = s.world.counted userId

/-! ## One step of the windows -/

theorem World.counted_congr {w w' : World} (now : w'.now = w.now)
    (windows : w'.windows = w.windows) (userId : Uuid) : w'.counted userId = w.counted userId := by
  unfold World.counted
  rw [now, windows]

theorem evict_idem (nowMs : Int) (entries : List QuotaEntry) :
    evict nowMs (evict nowMs entries) = evict nowMs entries := by
  simp [evict]

/-- A script that refuses evicts what is not counted. -/
theorem World.counted_refused {w : World} {sender inviteId : Uuid} {limit : Int}
    (refused : (w.quotaScript sender limit inviteId).1.1 = false) (userId : Uuid) :
    (w.quotaScript sender limit inviteId).2.counted userId = w.counted userId := by
  unfold World.quotaScript at refused ⊢
  dsimp only at refused ⊢
  split at refused
  · rename_i full
    rw [if_pos full]
    unfold World.counted
    rw [KeyStore.get_replace]
    by_cases same : userId = sender
    · subst same
      rw [if_pos rfl]
      cases w.windows.get w.now userId with
      | none => rfl
      | some entries => exact evict_idem _ entries
    · rw [if_neg same]
  · cases refused

section

variable (svc : InviteService) (outside : Outside) (locked : Uuid → Bool) (w : World)

/-- A call that sends nothing leaves the windows and the clock alone. -/
theorem unsent_goOn {call : Call} (unsent : ∀ sending phase, call ≠ .send sending phase) :
    (call.grant outside w = none ∧ (goOn svc outside locked call w).2.windows = w.windows) ∧
      (goOn svc outside locked call w).2.now = w.now := by
  cases call with
  | send sending phase => exact absurd rfl (unsent sending phase)
  | answer answering phase =>
      obtain ⟨invites, published, same⟩ :=
        answerStep_frame outside (locked answering.inviteId) w answering phase
      exact ⟨⟨rfl, by simp [goOn, same]⟩, by simp [goOn, same]⟩
  | expire phase =>
      obtain ⟨invites, published, same⟩ := expireStep_frame outside locked w phase
      exact ⟨⟨rfl, by simp [goOn, same]⟩, by simp [goOn, same]⟩
  | block blocking phase =>
      obtain ⟨blocks, published, same⟩ := blockStep_frame outside w blocking phase
      exact ⟨⟨rfl, by simp [goOn, same]⟩, by simp [goOn, same]⟩
  | unblock callerId profileId phase =>
      obtain ⟨blocks, published, same⟩ := unblockStep_frame outside w callerId profileId phase
      exact ⟨⟨rfl, by simp [goOn, same]⟩, by simp [goOn, same]⟩

/-- Only the quota script changes the windows, or grants anything. -/
theorem windows_goOn (call : Call) :
    call.grant outside w = none ∧ (goOn svc outside locked call w).2.windows = w.windows ∨
      ∃ sending limit, call = .send sending (.quota limit) ∧ outside.redis = true ∧
        (goOn svc outside locked call w).2 =
          (w.quotaScript sending.fromProfileId limit sending.inviteId).2 := by
  cases call with
  | send sending phase =>
      cases phase with
      | quota limit =>
          by_cases redis : outside.redis = true
          · refine Or.inr ⟨sending, limit, rfl, redis, ?_⟩
            simp only [goOn, sendStep, redis, if_true]
            rcases w.quotaScript sending.fromProfileId limit sending.inviteId with
              ⟨⟨allowed, count⟩, w'⟩
            cases allowed <;> rfl
          · exact Or.inl ⟨by simp [Call.grant, redis], by simp [goOn, sendStep, redis]⟩
      | insert remaining modCaseId =>
          refine Or.inl ⟨rfl, ?_⟩
          rcases sendStep_insert svc outside w sending remaining modCaseId with
            same | ⟨_, _, -, -, same⟩
          · simp [goOn, same]
          · simp [goOn, same]
      | _ =>
          refine Or.inl ⟨rfl, ?_⟩
          simp only [goOn, sendStep]
          repeat' split
          all_goals simp [World.publish, World.cacheLimit]
  | _ => exact Or.inl (unsent_goOn svc outside locked w (by simp)).1

theorem now_goOn (call : Call) : (goOn svc outside locked call w).2.now = w.now := by
  cases call with
  | send sending phase => exact (sendStep_frame svc outside w sending phase).1
  | _ => exact (unsent_goOn svc outside locked w (by simp)).2

end

theorem InviteState.keeps_entries (svc : InviteService) (s : InviteState) :
    s.KeepsEntries svc := by
  intro e noTick notGranted _ userId
  cases e with
  | begin request =>
      simp only [InviteState.step]
      split <;> rfl
  | advance index outside =>
      cases found : s.calls[index]? with
      | none => simp only [InviteState.step, found]
      | some call =>
          simp only [InviteState.step, found]
          rcases windows_goOn svc outside s.locked s.world call with
            ⟨-, same⟩ | ⟨sending, limit, rfl, redis, same⟩
          · exact World.counted_congr (now_goOn svc outside s.locked s.world call) same userId
          · rw [same]
            refine World.counted_refused ?_ userId
            simpa [InviteState.grant, InviteState.going, found, Call.grant, redis] using notGranted
  | tick time => exact absurd rfl (noTick time)
  | entitlementChanged user => rfl

/-! ## One step of a call -/

/-- The insert of the call is still to come, or was refused. -/
def SendPhase.unsettled : SendPhase → Bool
  | .publish .. | .cacheWrite _ | .done _ => false
  | _ => true

theorem Call.grant_eq_some {outside : Outside} {w : World} {call : Call} {grant : Grant}
    (granted : call.grant outside w = some grant) :
    ∃ sending limit, call = .send sending (.quota limit) ∧ outside.redis = true ∧
      (w.quotaScript sending.fromProfileId limit sending.inviteId).1.1 = true ∧
      grant = ⟨sending.fromProfileId, sending.inviteId, w.now⟩ := by
  unfold Call.grant at granted
  split at granted
  · split at granted
    · rename_i admitted
      exact ⟨_, _, rfl, admitted.1, admitted.2, (Option.some.inj granted).symm⟩
    · cases granted
  · cases granted

theorem InviteState.grant_eq_some {s : InviteState} {e : Occurrence} {grant : Grant}
    (granted : s.grant e = some grant) :
    ∃ index outside call, e = .advance index outside ∧ s.calls[index]? = some call ∧
      call.grant outside s.world = some grant := by
  obtain ⟨⟨call, outside⟩, going, made⟩ := Option.bind_eq_some_iff.1 granted
  cases e with
  | advance index outside =>
      obtain ⟨_, found, same⟩ := Option.map_eq_some_iff.1 going
      cases same
      exact ⟨index, outside, call, rfl, found, made⟩
  | _ => cases going

theorem Call.resolved_eq_some {svc : InviteService} {outside : Outside} {w : World} {call : Call}
    {id : Uuid} (resolved : call.resolved svc outside w = some id) :
    ∃ sending remaining, call = .send sending (.conflict remaining) ∧ id = sending.inviteId ∧
      ∃ response, (sendStep svc outside sending (.conflict remaining) w).1 =
        .done (.ok response) := by
  unfold Call.resolved at resolved
  split at resolved
  · rename_i sending remaining
    split at resolved
    · rename_i found
      obtain ⟨row, same⟩ := Option.isSome_iff_exists.1 found.2
      refine ⟨sending, remaining, rfl, (Option.some.inj resolved).symm, ?_⟩
      simp [sendStep, found.1, same]
    · cases resolved
  · cases resolved

theorem scanSynopsis_failure {settings : InviteSettings} {reply : ScanReply} {failure : Failure}
    (refused : scanSynopsis settings reply = .error failure) :
    failure = .raised ∨ ∃ detail, failure = .http 422 detail := by
  unfold scanSynopsis at refused
  split at refused
  · cases refused
  · exact Or.inl (Except.error.inj refused).symm
  · exact Or.inl (Except.error.inj refused).symm
  · split at refused
    · exact Or.inr ⟨_, (Except.error.inj refused).symm⟩
    · cases refused

/-- What a step makes of the quota and of the insert of its call. -/
structure Spends (svc : InviteService) (outside : Outside) (w : World) (sending : Sending)
    (phase : SendPhase) : Prop where
  spent : (sendStep svc outside sending phase w).1.spent = some true →
    phase.spent = some true ∨
      ∃ grant, (Call.send sending phase).grant outside w = some grant
  unspent : (sendStep svc outside sending phase w).1.spent = some false →
    phase.spent = some false ∧ (Call.send sending phase).grant outside w = none
  unsettled : (sendStep svc outside sending phase w).1.unsettled = true → phase.unsettled = true

theorem spends_sendStep (svc : InviteService) (outside : Outside) (w : World)
    (sending : Sending) (phase : SendPhase) : Spends svc outside w sending phase := by
  cases phase with
  | quota limit =>
      refine ⟨fun now => ?_, fun now => ?_, fun _ => rfl⟩
      · right
        rcases script : w.quotaScript sending.fromProfileId limit sending.inviteId with
          ⟨⟨allowed, count⟩, w'⟩
        by_cases redis : outside.redis = true
        · cases allowed with
          | true =>
              exact ⟨⟨sending.fromProfileId, sending.inviteId, w.now⟩,
                by simp [Call.grant, redis, script]⟩
          | false => simp [sendStep, redis, script, SendPhase.spent] at now
        · simp [sendStep, redis, SendPhase.spent] at now
      · refine ⟨rfl, ?_⟩
        rcases script : w.quotaScript sending.fromProfileId limit sending.inviteId with
          ⟨⟨allowed, count⟩, w'⟩
        by_cases redis : outside.redis = true
        · cases allowed with
          | true => simp [sendStep, redis, script, SendPhase.spent] at now
          | false => simp [Call.grant, script]
        · simp [Call.grant, redis]
  | moderation remaining =>
      refine ⟨fun _ => Or.inl rfl, fun now => ?_, fun _ => rfl⟩
      simp only [sendStep] at now
      cases scanned : scanSynopsis svc.settings outside.scan with
      | ok modCaseId => simp [scanned, SendPhase.spent] at now
      | error failure =>
          rcases scanSynopsis_failure scanned with rfl | ⟨detail, rfl⟩
          · simp [scanned, SendPhase.spent] at now
          · simp [scanned, SendPhase.spent] at now
  | insert remaining modCaseId =>
      refine ⟨fun _ => Or.inl rfl, fun now => ?_, fun _ => rfl⟩
      rcases sendStep_insert svc outside w sending remaining modCaseId with
        same | ⟨_, _, -, -, same⟩
      · simp [same, SendPhase.spent] at now
      · simp [same, SendPhase.spent] at now
  | done result => exact ⟨fun now => Or.inl now, fun now => ⟨now, rfl⟩, fun now => now⟩
  | blockCheck | cacheCheck | limitCheck | fetchLimit | storeLimit =>
      refine ⟨fun now => ?_, fun _ => ⟨rfl, rfl⟩, fun _ => rfl⟩
      simp only [sendStep] at now
      repeat' split at now
      all_goals simp [SendPhase.spent] at now
  | conflict | publish | cacheWrite =>
      refine ⟨fun _ => Or.inl rfl, fun now => ?_, fun now => ?_⟩
      · simp only [sendStep] at now
        repeat' split at now
        all_goals simp [SendPhase.spent] at now
      · simp only [sendStep] at now
        repeat' split at now
        all_goals first | rfl | simp [SendPhase.unsettled] at now

/-! ## The history is what is counted -/

namespace Ledger

/-- The windows hold what was granted, and the calls are where the grants put them. -/
structure Sound (l : Ledger) : Prop where
  numbered : l.state.Numbered
  grants_drawn : ∀ grant ∈ l.grants, grant.inviteId ∈ l.state.drawn
  resolved_drawn : ∀ id ∈ l.resolved, id ∈ l.state.drawn
  invites_drawn : ∀ row ∈ l.state.world.invites.rows, row.id ∈ l.state.drawn
  distinct : (l.grants.map Grant.inviteId).Nodup
  timely : ∀ grant ∈ l.grants, grant.grantedAt ≤ l.state.world.now
  windows : ∀ userId, ∃ entries, Stores userId entries l.state.world ∧
    (∀ entry ∈ entries, entry ∈ l.entriesOf userId) ∧
    entries.filter (counts l.state.world.now) =
      (l.entriesOf userId).filter (counts l.state.world.now)
  spent : ∀ sending phase, .send sending phase ∈ l.state.calls → phase.spent = some true →
    ∃ grant ∈ l.grants, grant.inviteId = sending.inviteId ∧
      grant.userId = sending.fromProfileId
  unspent : ∀ sending phase, .send sending phase ∈ l.state.calls → phase.spent = some false →
    ∀ grant ∈ l.grants, grant.inviteId ≠ sending.inviteId
  unsettled : ∀ sending phase, .send sending phase ∈ l.state.calls → phase.unsettled = true →
    sending.inviteId ∉ l.resolved ∧
      ∀ row ∈ l.state.world.invites.rows, row.id ≠ sending.inviteId
  created : ∀ row ∈ l.state.world.invites.rows, row.id ∉ l.resolved ∧
    ∃ grant ∈ l.grants, grant.inviteId = row.id ∧ grant.userId = row.fromProfileId ∧
      grant.grantedAt ≤ row.createdAt

namespace Sound

variable {svc : InviteService} {outside : Outside} {call : Call} {l l' : Ledger}

theorem initial : Ledger.initial.Sound where
  numbered := .initial
  grants_drawn grant mem := by simp [Ledger.initial] at mem
  resolved_drawn id mem := by simp [Ledger.initial] at mem
  invites_drawn row mem := by
    simp [Ledger.initial, InviteState.initial, World.initial, Table.empty] at mem
  distinct := by simp [Ledger.initial]
  timely grant mem := by simp [Ledger.initial] at mem
  windows userId := ⟨[], Or.inl ⟨rfl, rfl⟩, by simp, by simp [Ledger.initial, entriesOf]⟩
  spent sending phase mem := by simp [Ledger.initial, InviteState.initial] at mem
  unspent sending phase mem := by simp [Ledger.initial, InviteState.initial] at mem
  unsettled sending phase mem := by simp [Ledger.initial, InviteState.initial] at mem
  created row mem := by
    simp [Ledger.initial, InviteState.initial, World.initial, Table.empty] at mem

/-- What is not counted now is not counted later. -/
theorem counts_later {now later : Timestamp} (le : now ≤ later) {entry : QuotaEntry}
    (counted : counts later entry = true) : counts now entry = true := by
  have mono := milliseconds_mono le
  unfold counts at counted ⊢
  simp only [decide_eq_true_eq] at counted ⊢
  omega

theorem filter_later {now later : Timestamp} (le : now ≤ later) (entries : List QuotaEntry) :
    (entries.filter (counts now)).filter (counts later) = entries.filter (counts later) := by
  rw [List.filter_filter]
  refine List.filter_congr fun entry _ => ?_
  cases counted : counts later entry with
  | false => rfl
  | true => simp [counts_later le counted]

theorem windows_later {userId : Uuid} {entries : List QuotaEntry} {w w' : World}
    (h : Stores userId entries w ∧ (∀ entry ∈ entries, entry ∈ l.entriesOf userId) ∧
      entries.filter (counts w.now) = (l.entriesOf userId).filter (counts w.now))
    (same : w'.windows.entries userId = w.windows.entries userId) (le : w.now ≤ w'.now) :
    Stores userId entries w' ∧ (∀ entry ∈ entries, entry ∈ l.entriesOf userId) ∧
      entries.filter (counts w'.now) = (l.entriesOf userId).filter (counts w'.now) := by
  refine ⟨h.1.later same le, h.2.1, ?_⟩
  rw [← filter_later le entries, h.2.2, filter_later le]

theorem begin (h : l.Sound) {request : Request}
    (fresh : ∀ id ∈ request.draws, id ∉ l.state.drawn) :
    Sound ⟨{ l.state with
      calls := l.state.calls ++ [request.call], drawn := request.draws ++ l.state.drawn },
      l.grants, l.resolved⟩ := by
  have numbered : InviteState.Numbered { l.state with
      calls := l.state.calls ++ [request.call], drawn := request.draws ++ l.state.drawn } := by
    have stepped := h.numbered.step ⟨{}, id⟩ (.begin request)
    rwa [InviteState.step, if_pos (by simpa using fresh)] at stepped
  have send : ∀ {sending phase}, .send sending phase ∈ l.state.calls ++ [request.call] →
      .send sending phase ∈ l.state.calls ∨
        request = .send sending ∧ phase = .start sending := by
    intro sending phase mem
    rcases List.mem_append.1 mem with old | new
    · exact Or.inl old
    · right
      have same := List.mem_singleton.1 new
      cases request <;> cases same
      exact ⟨rfl, rfl⟩
  have drawn : ∀ {sending}, request = .send sending → sending.inviteId ∉ l.state.drawn := by
    rintro sending rfl
    exact fresh sending.inviteId (by simp [Request.draws])
  exact
    { numbered
      grants_drawn := fun grant mem => List.mem_append_right _ (h.grants_drawn grant mem)
      resolved_drawn := fun id mem => List.mem_append_right _ (h.resolved_drawn id mem)
      invites_drawn := fun row mem => List.mem_append_right _ (h.invites_drawn row mem)
      distinct := h.distinct
      timely := h.timely
      windows := h.windows
      spent := fun sending phase mem now => by
        rcases send mem with old | ⟨-, rfl⟩
        · exact h.spent sending phase old now
        · unfold SendPhase.start at now
          split at now <;> simp [SendPhase.spent] at now
      unspent := fun sending phase mem now grant granted => by
        rcases send mem with old | ⟨rfl, -⟩
        · exact h.unspent sending phase old now grant granted
        · exact fun same => drawn rfl (same ▸ h.grants_drawn grant granted)
      unsettled := fun sending phase mem now => by
        rcases send mem with old | ⟨rfl, -⟩
        · exact h.unsettled sending phase old now
        · exact ⟨fun mem => drawn rfl (h.resolved_drawn _ mem),
            fun row mem same => drawn rfl (same ▸ h.invites_drawn row mem)⟩
      created := h.created }

/-- Nothing is granted, and the windows and the invites stay. -/
theorem wait (h : l.Sound) {w : World} (now : l.state.world.now ≤ w.now)
    (windows : w.windows = l.state.world.windows) (invites : w.invites = l.state.world.invites) :
    Sound ⟨{ l.state with world := w }, l.grants, l.resolved⟩ where
  numbered := ⟨h.numbered.nodup, h.numbered.drawn⟩
  grants_drawn := h.grants_drawn
  resolved_drawn := h.resolved_drawn
  invites_drawn row mem := h.invites_drawn row (invites ▸ mem)
  distinct := h.distinct
  timely grant mem := (h.timely grant mem).trans now
  windows userId := by
    obtain ⟨entries, held⟩ := h.windows userId
    exact ⟨entries, windows_later held (by rw [windows]) now⟩
  spent := h.spent
  unspent := h.unspent
  unsettled sending phase mem now := by
    rw [invites]
    exact h.unsettled sending phase mem now
  created row mem := h.created row (invites ▸ mem)

theorem entriesOf_concat (s : InviteState) (grants : List Grant) (grant : Option Grant)
    (resolved : List Uuid) (userId : Uuid) :
    (Ledger.mk s (grants ++ grant.toList) resolved).entriesOf userId =
      (grants.filter fun grant => grant.userId = userId).map Grant.entry ++
        ((grant.filter fun grant => grant.userId = userId).map Grant.entry).toList := by
  unfold entriesOf
  rw [List.filter_append, List.map_append]
  cases grant with
  | none => rfl
  | some grant => by_cases own : grant.userId = userId <;> simp [Option.filter, own]

theorem entriesOf_quota {outside : Outside} {w : World} {sending : Sending} {limit : Int}
    {admitted : Bool} (redis : outside.redis = true)
    (ran : (w.quotaScript sending.fromProfileId limit sending.inviteId).1.1 = admitted)
    (s : InviteState) (grants : List Grant) (resolved : List Uuid) (userId : Uuid) :
    (Ledger.mk s (grants ++
        ((Call.send sending (.quota limit)).grant outside w).toList) resolved).entriesOf userId =
      (grants.filter fun grant => grant.userId = userId).map Grant.entry ++
        if admitted = true ∧ sending.fromProfileId = userId then
          [⟨sending.inviteId, milliseconds w.now⟩]
        else [] := by
  rw [entriesOf_concat]
  cases admitted with
  | false => simp [Call.grant, ran]
  | true =>
      by_cases own : sending.fromProfileId = userId
      · subst own
        simp [Call.grant, redis, ran, Option.filter, Grant.entry]
      · simp [Call.grant, redis, ran, own, Option.filter]

/-- What a user's window holds after a step of a call. -/
theorem windows_advance (h : l.Sound) {index : Nat} {outside : Outside} {call : Call}
    (found : l.state.calls[index]? = some call) (userId : Uuid) {w : World}
    (went : (goOn svc outside l.state.locked call l.state.world).2 = w)
    (s : InviteState) (resolved : List Uuid) :
    ∃ entries, Stores userId entries w ∧
      (∀ entry ∈ entries, entry ∈ (Ledger.mk s (l.grants ++
        (call.grant outside l.state.world).toList) resolved).entriesOf userId) ∧
      entries.filter (counts w.now) =
        ((Ledger.mk s (l.grants ++
          (call.grant outside l.state.world).toList) resolved).entriesOf userId).filter
          (counts w.now) := by
  have now : w.now = l.state.world.now :=
    went ▸ now_goOn svc outside l.state.locked l.state.world call
  rcases windows_goOn svc outside l.state.locked l.state.world call with
    ⟨notGranted, same⟩ | ⟨sending, limit, rfl, redis, script⟩
  · obtain ⟨entries, held⟩ := h.windows userId
    rw [notGranted, Option.toList_none, List.append_nil]
    exact ⟨entries, windows_later held (by rw [← went, same]) now.ge⟩
  · obtain ⟨mine, held⟩ := h.windows sending.fromProfileId
    have fresh : ∀ entry ∈ mine, entry.member ≠ sending.inviteId := by
      intro entry mem
      obtain ⟨grant, granted, rfl⟩ := List.mem_map.1 (held.2.1 entry mem)
      exact h.unspent sending _ (List.mem_of_getElem? found) rfl grant
        (List.mem_of_mem_filter granted)
    obtain ⟨count, windows, run, stores, others⟩ := quotaScript_eq held.1 limit fresh
    have world : w = { l.state.world with windows } := by rw [← went, script, run]
    rw [entriesOf_quota redis (congrArg (fun answer => answer.1.1) run), now]
    by_cases own : sending.fromProfileId = userId
    · subst own
      rw [← world] at stores
      unfold enter at stores ⊢
      dsimp only at stores ⊢
      split at stores
      · -- the script refuses, and only evicts
        rename_i full
        refine ⟨_, stores, fun entry mem => ?_, ?_⟩
        · exact List.mem_append_left _ (held.2.1 entry (List.mem_of_mem_filter mem))
        · simpa [full, entriesOf] using held.2.2
      · rename_i room
        refine ⟨_, stores, fun entry mem => ?_, ?_⟩
        · rcases List.mem_append.1 mem with old | new
          · exact List.mem_append_left _ (held.2.1 entry (List.mem_of_mem_filter old))
          · exact List.mem_append_right _ (by simpa [room] using new)
        · rw [List.filter_append, List.filter_filter, List.filter_append]
          simpa [room, entriesOf] using held.2.2
    · obtain ⟨entries, held⟩ := h.windows userId
      have unseen : w.windows.entries userId = l.state.world.windows.entries userId := by
        rw [world]
        exact others userId (Ne.symm own)
      have still := windows_later held unseen now.ge
      rw [now] at still
      refine ⟨entries, still.1, fun entry mem => List.mem_append_left _ (still.2.1 entry mem), ?_⟩
      simpa [own, entriesOf] using still.2.2

theorem row_fields {sending : Sending} {modCaseId : Option Uuid} {now : Timestamp}
    {row : CollabInvite} (made : sending.row svc modCaseId now = some row) :
    row.id = sending.inviteId ∧ row.fromProfileId = sending.fromProfileId ∧
      row.createdAt = now := by
  unfold Sending.row at made
  split at made
  · rw [← Option.some.inj made]
    exact ⟨rfl, rfl, rfl⟩
  · cases made

theorem change_fields (outside : Outside) (call : Call) (row : CollabInvite) :
    (call.change outside row).fromProfileId = row.fromProfileId ∧
      (call.change outside row).createdAt = row.createdAt := by
  unfold Call.change
  repeat' split
  all_goals exact ⟨rfl, rfl⟩

/-- An invite after a step was there before, or the step inserted it. -/
theorem row_goOn {outside : Outside} {locked : Uuid → Bool} {call : Call} {w : World}
    {row : CollabInvite} (mem : row ∈ (goOn svc outside locked call w).2.invites.rows) :
    (∃ old ∈ w.invites.rows, row.id = old.id ∧ row.fromProfileId = old.fromProfileId ∧
        row.createdAt = old.createdAt) ∨
      ∃ sending remaining modCaseId archiveAt, call = .send sending (.insert remaining modCaseId) ∧
        row.id = sending.inviteId ∧ row.fromProfileId = sending.fromProfileId ∧
        row.createdAt = w.now ∧
        (goOn svc outside locked call w).1 = .send sending (.publish remaining archiveAt) := by
  rcases rows_goOn svc outside locked w call with
    same | ⟨sending, remaining, modCaseId, new, rfl, made, stored, went⟩
  · rw [same] at mem
    obtain ⟨old, stored, rfl⟩ := List.mem_map.1 mem
    exact Or.inl ⟨old, stored, Call.change_id outside call old, change_fields outside call old⟩
  · rw [(Table.insert?_eq_some stored).2] at mem
    rcases List.mem_cons.1 mem with rfl | old
    · obtain ⟨id, sender, created⟩ := row_fields made
      exact Or.inr ⟨sending, remaining, modCaseId, _, rfl, id, sender, created, went⟩
    · exact Or.inl ⟨row, old, rfl, rfl, rfl⟩

/-- What a step of one call makes of the ledger. -/
structure Advances (svc : InviteService) (outside : Outside) (call : Call) (l l' : Ledger) :
    Prop where
  mem : call ∈ l.state.calls
  drawn : l'.state.drawn = l.state.drawn
  now : l'.state.world.now = l.state.world.now
  grants : l'.grants = l.grants ++ (call.grant outside l.state.world).toList
  resolved : l'.resolved = (call.resolved svc outside l.state.world).toList ++ l.resolved
  invites : ∀ row ∈ l'.state.world.invites.rows,
    (∃ old ∈ l.state.world.invites.rows, row.id = old.id ∧
        row.fromProfileId = old.fromProfileId ∧ row.createdAt = old.createdAt) ∨
      ∃ sending remaining modCaseId archiveAt, call = .send sending (.insert remaining modCaseId) ∧
        row.id = sending.inviteId ∧ row.fromProfileId = sending.fromProfileId ∧
        row.createdAt = l.state.world.now ∧
        (goOn svc outside l.state.locked call l.state.world).1 =
          .send sending (.publish remaining archiveAt)
  /-- a call is this one, or another one that stays where it is -/
  calls : ∀ sending phase, .send sending phase ∈ l'.state.calls →
    (∃ before, call = .send sending before ∧
        phase = (sendStep svc outside sending before l.state.world).1) ∨
      .send sending phase ∈ l.state.calls ∧
        ∀ own before, call = .send own before → sending.inviteId ≠ own.inviteId

theorem advances (numbered : l.state.Numbered) (svc : InviteService) (outside : Outside)
    {index : Nat} {call : Call} (found : l.state.calls[index]? = some call) :
    Advances svc outside call l (l.step svc (.advance index outside)) := by
  have world : (l.state.step svc (.advance index outside)).world =
      (goOn svc outside l.state.locked call l.state.world).2 := by
    simp only [InviteState.step, found]
  have calls : (l.state.step svc (.advance index outside)).calls =
      l.state.calls.set index (goOn svc outside l.state.locked call l.state.world).1 := by
    simp only [InviteState.step, found]
  exact
    { mem := List.mem_of_getElem? found
      drawn := by simp only [Ledger.step, InviteState.step, found]
      now := (congrArg World.now world).trans
        (now_goOn svc outside l.state.locked l.state.world call)
      grants := by simp [Ledger.step, InviteState.grant, InviteState.going, found]
      resolved := by simp [Ledger.step, InviteState.resolved, InviteState.going, found]
      invites := fun row mem => row_goOn (world ▸ mem)
      calls := fun sending phase after => by
        have after : .send sending phase ∈
            l.state.calls.set index (goOn svc outside l.state.locked call l.state.world).1 :=
          calls ▸ after
        rcases mem_set_cases after with new | ⟨j, other, atJ⟩
        · left
          cases call with
          | send own before =>
              cases new
              exact ⟨before, rfl, rfl⟩
          | _ => cases new
        · refine Or.inr ⟨List.mem_of_getElem? atJ, ?_⟩
          rintro own before rfl same
          exact other (numbered.unique found atJ rfl (congrArg some same)) }

theorem mem_grants (a : Advances svc outside call l l') {grant : Grant}
    (mem : grant ∈ l'.grants) : grant ∈ l.grants ∨
      ∃ sending limit, call = .send sending (.quota limit) ∧
        grant = ⟨sending.fromProfileId, sending.inviteId, l.state.world.now⟩ := by
  rw [a.grants] at mem
  rcases List.mem_append.1 mem with old | new
  · exact Or.inl old
  · obtain ⟨sending, limit, same, -, -, made⟩ := Call.grant_eq_some (Option.mem_toList.1 new)
    exact Or.inr ⟨sending, limit, same, made⟩

theorem mem_resolved (a : Advances svc outside call l l') {id : Uuid} (mem : id ∈ l'.resolved) :
    id ∈ l.resolved ∨ ∃ sending remaining response, call = .send sending (.conflict remaining) ∧
      id = sending.inviteId ∧
      (sendStep svc outside sending (.conflict remaining) l.state.world).1 =
        .done (.ok response) := by
  rw [a.resolved] at mem
  rcases List.mem_append.1 mem with new | old
  · obtain ⟨sending, remaining, same, own, response, done⟩ :=
      Call.resolved_eq_some (Option.mem_toList.1 new)
    exact Or.inr ⟨sending, remaining, response, same, own, done⟩
  · exact Or.inl old

theorem spent_advance (h : l.Sound) (a : Advances svc outside call l l') (sending : Sending)
    (phase : SendPhase) (mem : .send sending phase ∈ l'.state.calls)
    (now : phase.spent = some true) :
    ∃ grant ∈ l'.grants, grant.inviteId = sending.inviteId ∧
      grant.userId = sending.fromProfileId := by
  have still : ∀ {before}, .send sending before ∈ l.state.calls → before.spent = some true →
      ∃ grant ∈ l'.grants, grant.inviteId = sending.inviteId ∧
        grant.userId = sending.fromProfileId := by
    intro before stored spent
    obtain ⟨grant, granted, own⟩ := h.spent sending before stored spent
    exact ⟨grant, a.grants ▸ List.mem_append_left _ granted, own⟩
  rcases a.calls sending phase mem with ⟨before, rfl, rfl⟩ | ⟨stored, -⟩
  · rcases (spends_sendStep svc outside l.state.world sending before).spent now with
      spent | ⟨grant, granted⟩
    · exact still a.mem spent
    · refine ⟨grant, a.grants ▸ List.mem_append_right _ (Option.mem_toList.2 granted), ?_⟩
      obtain ⟨_, _, same, -, -, rfl⟩ := Call.grant_eq_some granted
      cases same
      exact ⟨rfl, rfl⟩
  · exact still stored now

theorem unspent_advance (h : l.Sound) (a : Advances svc outside call l l') (sending : Sending)
    (phase : SendPhase) (mem : .send sending phase ∈ l'.state.calls)
    (now : phase.spent = some false) : ∀ grant ∈ l'.grants, grant.inviteId ≠ sending.inviteId := by
  intro grant granted
  rcases a.calls sending phase mem with ⟨before, rfl, rfl⟩ | ⟨stored, apart⟩
  · obtain ⟨spent, notGranted⟩ :=
      (spends_sendStep svc outside l.state.world sending before).unspent now
    rw [a.grants, notGranted, Option.toList_none, List.append_nil] at granted
    exact h.unspent sending before a.mem spent grant granted
  · rcases mem_grants a granted with old | ⟨own, limit, same, rfl⟩
    · exact h.unspent sending phase stored now grant old
    · exact (apart own _ same).symm

theorem unsettled_advance (h : l.Sound) (a : Advances svc outside call l l') (sending : Sending)
    (phase : SendPhase) (mem : .send sending phase ∈ l'.state.calls)
    (now : phase.unsettled = true) : sending.inviteId ∉ l'.resolved ∧
      ∀ row ∈ l'.state.world.invites.rows, row.id ≠ sending.inviteId := by
  rcases a.calls sending phase mem with ⟨before, rfl, rfl⟩ | ⟨stored, apart⟩
  · obtain ⟨notResolved, absent⟩ := h.unsettled sending before a.mem
      ((spends_sendStep svc outside l.state.world sending before).unsettled now)
    refine ⟨fun resolved => ?_, fun row inserted => ?_⟩
    · rcases mem_resolved a resolved with old | ⟨own, remaining, response, same, -, done⟩
      · exact notResolved old
      · cases same
        simp [done, SendPhase.unsettled] at now
    · rcases a.invites row inserted with ⟨old, stored, id, -⟩ |
          ⟨_, remaining, modCaseId, archiveAt, same, -, -, -, went⟩
      · exact id ▸ absent old stored
      · cases same
        have published : (sendStep svc outside sending (.insert remaining modCaseId)
            l.state.world).1 = .publish remaining archiveAt := (Call.send.inj went).2
        simp [published, SendPhase.unsettled] at now
  · obtain ⟨notResolved, absent⟩ := h.unsettled sending phase stored now
    refine ⟨fun resolved => ?_, fun row inserted => ?_⟩
    · rcases mem_resolved a resolved with old | ⟨own, remaining, response, same, id, -⟩
      · exact notResolved old
      · exact apart own _ same id
    · rcases a.invites row inserted with
        ⟨old, stored, id, -⟩ | ⟨own, remaining, modCaseId, archiveAt, same, id, -⟩
      · exact id ▸ absent old stored
      · exact id ▸ (apart own _ same).symm

theorem created_advance (h : l.Sound) (a : Advances svc outside call l l') (row : CollabInvite)
    (mem : row ∈ l'.state.world.invites.rows) : row.id ∉ l'.resolved ∧
      ∃ grant ∈ l'.grants, grant.inviteId = row.id ∧ grant.userId = row.fromProfileId ∧
        grant.grantedAt ≤ row.createdAt := by
  have kept : ∀ grant, grant ∈ l.grants → grant ∈ l'.grants := fun grant granted =>
    a.grants ▸ List.mem_append_left _ granted
  rcases a.invites row mem with ⟨old, stored, id, sender, created⟩ |
      ⟨sending, remaining, modCaseId, archiveAt, rfl, id, sender, created, -⟩
  · obtain ⟨notResolved, grant, granted, same⟩ := h.created old stored
    rw [id, sender, created]
    refine ⟨fun resolved => ?_, grant, kept grant granted, same⟩
    rcases mem_resolved a resolved with before | ⟨own, remaining, response, rfl, here, -⟩
    · exact notResolved before
    · exact (h.unsettled own _ a.mem rfl).2 old stored here
  · obtain ⟨grant, granted, own, user⟩ := h.spent sending _ a.mem rfl
    rw [id, sender, created]
    refine ⟨fun resolved => ?_, grant, kept grant granted, own, user, h.timely grant granted⟩
    rcases mem_resolved a resolved with before | ⟨_, _, _, same, -⟩
    · exact (h.unsettled sending _ a.mem rfl).1 before
    · cases same

theorem advance (h : l.Sound) (svc : InviteService) (outside : Outside) {index : Nat}
    {call : Call} (found : l.state.calls[index]? = some call) :
    (l.step svc (.advance index outside)).Sound := by
  have a := advances h.numbered svc outside found
  have mine : ∀ {sending phase}, call = .send sending phase →
      sending.inviteId ∈ l.state.drawn := by
    rintro sending phase rfl
    exact h.numbered.drawn _ (List.mem_filterMap.2 ⟨_, a.mem, rfl⟩)
  exact
    { numbered := h.numbered.step svc (.advance index outside)
      grants_drawn := fun grant granted => by
        rw [a.drawn]
        rcases mem_grants a granted with old | ⟨sending, limit, same, rfl⟩
        · exact h.grants_drawn grant old
        · exact mine same
      resolved_drawn := fun id resolved => by
        rw [a.drawn]
        rcases mem_resolved a resolved with old | ⟨sending, remaining, response, same, rfl, -⟩
        · exact h.resolved_drawn id old
        · exact mine same
      invites_drawn := fun row inserted => by
        rw [a.drawn]
        rcases a.invites row inserted with ⟨old, stored, id, -⟩ | ⟨sending, _, _, _, same, id, -⟩
        · exact id ▸ h.invites_drawn old stored
        · exact id ▸ mine same
      distinct := by
        rw [a.grants, List.map_append]
        refine List.Nodup.append h.distinct ?_ ?_
        · cases call.grant outside l.state.world <;> simp
        · intro id old new
          obtain ⟨grant, granted, rfl⟩ := List.mem_map.1 new
          obtain ⟨sending, limit, rfl, -, -, rfl⟩ := Call.grant_eq_some (Option.mem_toList.1 granted)
          obtain ⟨before, stored, same⟩ := List.mem_map.1 old
          exact h.unspent sending _ a.mem rfl before stored same
      timely := fun grant granted => by
        rw [a.now]
        rcases mem_grants a granted with old | ⟨sending, limit, -, rfl⟩
        · exact h.timely grant old
        · exact le_refl _
      windows := fun userId => by
        have world : (l.step svc (.advance index outside)).state.world =
            (goOn svc outside l.state.locked call l.state.world).2 := by
          simp only [Ledger.step, InviteState.step, found]
        have windows := h.windows_advance found userId world.symm
          (l.step svc (.advance index outside)).state (l.step svc (.advance index outside)).resolved
        rw [← a.grants] at windows
        exact windows
      spent := spent_advance h a
      unspent := unspent_advance h a
      unsettled := unsettled_advance h a
      created := created_advance h a }

theorem step (h : l.Sound) (svc : InviteService) (e : Occurrence) : (l.step svc e).Sound := by
  cases e with
  | begin request =>
      simp only [Ledger.step, InviteState.grant, InviteState.resolved, InviteState.going,
        Option.bind_none, Option.toList_none, List.append_nil, List.nil_append, InviteState.step]
      split
      · rename_i fresh
        exact h.begin (by simpa using fresh)
      · exact h
  | advance index outside =>
      cases found : l.state.calls[index]? with
      | none =>
          have same : l.step svc (.advance index outside) = l := by
            simp [Ledger.step, InviteState.grant, InviteState.resolved, InviteState.going,
              InviteState.step, found]
          rwa [same]
      | some call => exact h.advance svc outside found
  | tick time =>
      have waited := h.wait (w := { l.state.world with now := l.state.world.now + time })
        (Int.le_add_of_nonneg_right (Int.natCast_nonneg _)) rfl rfl
      simpa [Ledger.step, InviteState.grant, InviteState.resolved, InviteState.going,
        InviteState.step] using waited
  | entitlementChanged userId =>
      have waited := h.wait
        (w := { l.state.world with limits := l.state.world.limits.delete userId }) le_rfl rfl rfl
      simpa [Ledger.step, InviteState.grant, InviteState.resolved, InviteState.going,
        InviteState.step] using waited

theorem run (svc : InviteService) (occurrences : List Occurrence) :
    (Ledger.run svc occurrences).Sound := by
  have kept : ∀ (l : Ledger) (e : Occurrence), l.Sound → (l.step svc e).Sound :=
    fun _ e h => h.step svc e
  exact runFrom_invariant kept .initial occurrences

/-- The entries that are counted are the grants that are not too old. -/
theorem counted (h : l.Sound) (userId : Uuid) :
    l.state.world.counted userId = (l.entriesOf userId).filter (counts l.state.world.now) := by
  obtain ⟨entries, stores, -, same⟩ := h.windows userId
  exact (counted_eq stores).trans same

theorem added (h : l.Sound) (svc : InviteService) {e : Occurrence} {grant : Grant}
    (granted : l.state.grant e = some grant) (userId : Uuid) :
    (l.state.step svc e).world.counted userId =
      l.state.world.counted userId ++ if userId = grant.userId then [grant.entry] else [] := by
  obtain ⟨index, outside, call, rfl, found, made⟩ := InviteState.grant_eq_some granted
  have a := advances h.numbered svc outside found
  have after := (h.step svc (.advance index outside)).counted userId
  have more := entriesOf_concat (l.step svc (.advance index outside)).state l.grants
    (call.grant outside l.state.world) (l.step svc (.advance index outside)).resolved userId
  rw [← a.grants, made] at more
  have entries : (l.step svc (.advance index outside)).entriesOf userId = _ := more
  obtain ⟨sending, _, -, -, -, rfl⟩ := Call.grant_eq_some made
  have recent : counts l.state.world.now
      ⟨sending.inviteId, milliseconds l.state.world.now⟩ = true := by
    simp [counts, windowMs]
  rw [entries, a.now, List.filter_append] at after
  refine after.trans ?_
  rw [h.counted userId]
  refine congrArg₂ _ rfl ?_
  by_cases own : userId = sending.fromProfileId
  · simp [own, Option.filter, Grant.entry, recent]
  · simp [own, Ne.symm own, Option.filter]

end Sound

end Ledger

/-- What the quota counts are the sends that it admitted, in every run. -/
theorem quota_counts_grants (svc : InviteService) :
    (∀ s : InviteState, s.KeepsEntries svc) ∧
      ∀ occurrences, CountsGrants svc (Ledger.run svc occurrences) := by
  refine ⟨InviteState.keeps_entries svc, fun occurrences => ?_⟩
  have sound := Ledger.Sound.run svc occurrences
  exact
    { counted := fun userId => by
        rw [sound.counted userId, List.filter_filter]
        refine List.filter_congr fun entry _ => ?_
        simp [Bool.and_comm]
      distinct := sound.distinct
      created := sound.created
      spent := sound.spent
      unspent := sound.unspent
      added := fun e grant granted => sound.added svc granted }

/-- An invite whose synopsis moderation refuses leaves an entry, and no invite. -/
theorem refused_invite_counted :
    ¬ (InviteState.run plainService
      [.begin (.send ⟨⟨"anna"⟩, ⟨"ben"⟩, greeting, none, ⟨"1"⟩⟩),
        .advance 0 {}, .advance 0 {}, .advance 0 {}, .advance 0 {}, .advance 0 {},
        .advance 0 { scan := .scanned (some 1) [] none .missing }]).CountsInvites :=
  fun balanced => absurd (balanced ⟨"anna"⟩) (by decide +kernel)

end ColabPlatform.Invites
