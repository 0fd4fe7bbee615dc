import ColabPlatform.Invites.Quota

/-!
# Sending an invite

`send_invite` as a sequence of steps, each of which does one thing in one of the
stores.  Between two steps of a call, others may do any of theirs.
-/

namespace ColabPlatform.Invites

open Foundation Common
open Billing (Uuid Timestamp AxisValue)

/-- Where a call is: what it does next. -/
inductive SendPhase where
  | blockCheck
  | cacheCheck
  | limitCheck
  | fetchLimit
  | storeLimit (limit : Int)
  | quota (limit : Int)
  | moderation (quotaRemaining : Int)
  | insert (quotaRemaining : Int) (modCaseId : Option Uuid)
  | conflict (quotaRemaining : Int)
  | publish (quotaRemaining : Int) (archiveAt : Timestamp)
  | cacheWrite (response : SendInviteResponse)
  | done (result : Except Failure SendInviteResponse)
  deriving DecidableEq

/-! ## The keys -/

/-- `make_dedup_key` -/
def makeDedupKey (svc : InviteService) (fromProfileId toProfileId : Uuid) (synopsis : String) :
    String :=
  "dedup:invite:" ++ String.ofList
    ((svc.sha256 (fromProfileId.text ++ ":" ++ toProfileId.text ++ ":" ++ synopsis)).toList.take 16)

namespace Sending

/-- The client's key, unless it is missing or empty. -/
def suppliedKey (sending : Sending) : Option String :=
  sending.clientKey.filter fun text => text ≠ ""

/-- `idem_key` -/
def idemKey (svc : InviteService) (sending : Sending) : String :=
  sending.suppliedKey.getD
    (makeDedupKey svc sending.fromProfileId sending.toProfileId sending.synopsis)

/-- `archive_at` of an invite that is inserted now -/
def archiveAt (svc : InviteService) (now : Timestamp) : Timestamp :=
  now + svc.settings.inviteTtlDays * (86400 * second)

/-- The row that is inserted, unless the invite is from a profile to itself. -/
def row (svc : InviteService) (sending : Sending) (modCaseId : Option Uuid) (now : Timestamp) :
    Option CollabInvite :=
  if apart : sending.fromProfileId ≠ sending.toProfileId then
    some
      { id := sending.inviteId
        fromProfileId := sending.fromProfileId
        toProfileId := sending.toProfileId
        synopsis := sending.synopsis
        modCaseId
        createdAt := now
        archiveAt := archiveAt svc now
        idempotencyKey := sending.suppliedKey
        apart }
  else none

/-- The table with the new row, unless a constraint is violated. -/
def insert? (svc : InviteService) (sending : Sending) (modCaseId : Option Uuid) (w : World) :
    Option World :=
  -- `idempotency_key` is a `String(128)`
  if sending.suppliedKey.all fun text => text.length ≤ 128 then
    (sending.row svc modCaseId w.now).bind fun row =>
      (w.invites.insert? row).map fun invites => { w with invites }
  else none

theorem insert?_eq_some {svc : InviteService} {sending : Sending} {modCaseId : Option Uuid}
    {w w' : World} (inserted : sending.insert? svc modCaseId w = some w') :
    ∃ row invites, sending.row svc modCaseId w.now = some row ∧
      w.invites.insert? row = some invites ∧ w' = { w with invites } := by
  unfold insert? at inserted
  split at inserted
  · obtain ⟨row, made, inserted⟩ := Option.bind_eq_some_iff.1 inserted
    obtain ⟨invites, stored, rfl⟩ := Option.map_eq_some_iff.1 inserted
    exact ⟨row, invites, made, stored, rfl⟩
  · cases inserted

end Sending

/-! ## Moderation -/

/-- The reason of a flagged synopsis. -/
def flaggedReason (breakdown : List (String × Option ℚ)) (decision : Option String) : String :=
  let reasons := (breakdown.filter fun entry => entry.2.any fun value => 3 / 10 < value).map (·.1)
  if reasons = [] then decision.getD "policy_violation" else ", ".intercalate reasons

/-- `scan_synopsis` -/
def scanSynopsis (settings : InviteSettings) : ScanReply → Except Failure (Option Uuid)
  | .failed => .ok none
  | .scanned none _ _ _ | .scanned _ _ _ (.malformed _) => .error .raised
  | .scanned (some score) breakdown decision caseId =>
      if settings.synopsisFlagThreshold ≤ score then
        .error (.http 422 (.synopsisFlagged (flaggedReason breakdown decision)))
      else .ok (caseId.id?.map Uuid.mk)

/-! ## The steps -/

/-- `ttl` of `set_idempotency` -/
def idempotencyTtl : Int := 86400 * second

/-- A call before its first step: the guard against invites to oneself. -/
def SendPhase.start (sending : Sending) : SendPhase :=
  if sending.fromProfileId = sending.toProfileId then
    .done (.error (.http 400 (.text "Cannot send invite to yourself")))
  else .blockCheck

/-- One step of `send_invite` -/
def sendStep (svc : InviteService) (outside : Outside) (sending : Sending) :
    SendPhase → World → SendPhase × World
  | .blockCheck, w =>
      if outside.db then
        if w.isBlocked sending.fromProfileId sending.toProfileId then
          (.done (.error (.http 403 .blocked)), w)
        else (.cacheCheck, w)
      else (.done (.error .raised), w)
  | .cacheCheck, w =>
      if outside.redis then
        match w.responses.get w.now (sending.idemKey svc) with
        | some response => (.done (.ok response), w)
        | none => (.limitCheck, w)
      else (.done (.error .raised), w)
  | .limitCheck, w =>
      if outside.redis then
        match w.cachedLimit sending.fromProfileId with
        | some limit => (.quota limit, w)
        | none => (.fetchLimit, w)
      else (.done (.error .raised), w)
  | .fetchLimit, w =>
      match limitOfReply outside.entitlement with
      | some limit => (.storeLimit limit, w)
      | none => (.quota svc.settings.freeInviteQuotaPerWeek, w)
  | .storeLimit limit, w =>
      if outside.redis then (.quota limit, w.cacheLimit sending.fromProfileId limit)
      else (.quota svc.settings.freeInviteQuotaPerWeek, w)
  | .quota limit, w =>
      if outside.redis then
        match w.quotaScript sending.fromProfileId limit sending.inviteId with
        | ((true, count), w') => (.moderation (quotaRemaining limit count), w')
        | ((false, _), w') => (.done (.error (.http 402 (.quotaExceeded 0 true))), w')
      else (.done (.error .raised), w)
  | .moderation remaining, w =>
      match scanSynopsis svc.settings outside.scan with
      | .ok modCaseId => (.insert remaining modCaseId, w)
      | .error failure => (.done (.error failure), w)
  | .insert remaining modCaseId, w =>
      if outside.db then
        match sending.insert? svc modCaseId w with
        | some w' => (.publish remaining (Sending.archiveAt svc w.now), w')
        | none => (.conflict remaining, w)
      else (.conflict remaining, w)
  | .conflict remaining, w =>
      if outside.db then
        match w.invites.lookupAlt (sending.idemKey svc) with
        | some row => (.done (.ok ⟨row.id, row.status, remaining, row.archiveAt⟩), w)
        | none => (.done (.error .raised), w)
      else (.done (.error .raised), w)
  | .publish remaining archiveAt, w =>
      (.cacheWrite ⟨sending.inviteId, .pending, remaining, archiveAt⟩,
        if outside.published then
          w.publish (.inviteSent sending.inviteId sending.fromProfileId sending.toProfileId)
        else w)
  | .cacheWrite response, w =>
      if outside.redis then
        (.done (.ok response),
          { w with
            responses := w.responses.setEx w.now idempotencyTtl (sending.idemKey svc) response })
      else (.done (.error .raised), w)
  | .done result, w => (.done result, w)

/-! ## What a step leaves as it is -/

section

variable (svc : InviteService) (outside : Outside) (w : World) (sending : Sending)

theorem sendStep_quota (limit : Int) :
    ∃ windows, (sendStep svc outside sending (.quota limit) w).2 = { w with windows } := by
  obtain ⟨windows, same⟩ := w.quotaScript_world sending.fromProfileId limit sending.inviteId
  rcases asked : w.quotaScript sending.fromProfileId limit sending.inviteId with
    ⟨⟨allowed, count⟩, w'⟩
  rw [asked] at same
  simp only [sendStep, asked]
  split
  · cases allowed <;> exact ⟨windows, same⟩
  · exact ⟨w.windows, rfl⟩

theorem sendStep_insert (remaining : Int) (modCaseId : Option Uuid) :
    sendStep svc outside sending (.insert remaining modCaseId) w = (.conflict remaining, w) ∨
      ∃ row invites, sending.row svc modCaseId w.now = some row ∧
        w.invites.insert? row = some invites ∧
        sendStep svc outside sending (.insert remaining modCaseId) w =
          (.publish remaining (Sending.archiveAt svc w.now), { w with invites }) := by
  simp only [sendStep]
  split
  · cases inserted : sending.insert? svc modCaseId w with
    | none => exact Or.inl rfl
    | some w' =>
        obtain ⟨row, invites, made, stored, rfl⟩ := Sending.insert?_eq_some inserted
        exact Or.inr ⟨row, invites, made, stored, rfl⟩
  · exact Or.inl rfl

theorem sendStep_frame (phase : SendPhase) :
    (sendStep svc outside sending phase w).2.now = w.now ∧
      (sendStep svc outside sending phase w).2.blocks = w.blocks := by
  cases phase with
  | quota limit =>
      obtain ⟨windows, same⟩ := sendStep_quota svc outside w sending limit
      rw [same]
      exact ⟨rfl, rfl⟩
  | insert remaining modCaseId =>
      rcases sendStep_insert svc outside w sending remaining modCaseId with
        same | ⟨_, _, -, -, same⟩
      · rw [same]
        exact ⟨rfl, rfl⟩
      · rw [same]
        exact ⟨rfl, rfl⟩
  | _ =>
      simp only [sendStep]
      repeat' split
      all_goals simp [World.publish, World.cacheLimit]

/-- Only the insert changes the invites, by the row of the request. -/
theorem sendStep_invites (phase : SendPhase) :
    (sendStep svc outside sending phase w).2.invites = w.invites ∨
      ∃ remaining modCaseId row, phase = .insert remaining modCaseId ∧
        sending.row svc modCaseId w.now = some row ∧
        w.invites.insert? row = some (sendStep svc outside sending phase w).2.invites ∧
        (sendStep svc outside sending phase w).1 =
          .publish remaining (Sending.archiveAt svc w.now) := by
  cases phase with
  | quota limit =>
      obtain ⟨windows, same⟩ := sendStep_quota svc outside w sending limit
      rw [same]
      exact Or.inl rfl
  | insert remaining modCaseId =>
      rcases sendStep_insert svc outside w sending remaining modCaseId with
        same | ⟨row, _, made, stored, same⟩
      · rw [same]
        exact Or.inl rfl
      · rw [same]
        exact Or.inr ⟨remaining, modCaseId, row, rfl, made, stored, rfl⟩
  | _ =>
      simp only [sendStep]
      repeat' split
      all_goals simp [World.publish, World.cacheLimit]

/-- A call that sends an invite announces nothing but the invite. -/
theorem sendStep_published (phase : SendPhase) :
    (sendStep svc outside sending phase w).2.published = w.published ∨
      (sendStep svc outside sending phase w).2.published =
        .inviteSent sending.inviteId sending.fromProfileId sending.toProfileId ::
          w.published := by
  cases phase with
  | quota limit =>
      obtain ⟨windows, same⟩ := sendStep_quota svc outside w sending limit
      rw [same]
      exact Or.inl rfl
  | insert remaining modCaseId =>
      rcases sendStep_insert svc outside w sending remaining modCaseId with
        same | ⟨_, _, -, -, same⟩
      · rw [same]
        exact Or.inl rfl
      · rw [same]
        exact Or.inl rfl
  | _ =>
      simp only [sendStep]
      repeat' split
      all_goals simp [World.publish, World.cacheLimit]

end

end ColabPlatform.Invites
