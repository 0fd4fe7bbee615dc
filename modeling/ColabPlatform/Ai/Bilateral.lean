import ColabPlatform.Ai.ConsentSteps
import ColabPlatform.Foundation.Interleaving

/-!
# Bilateral consent

A generation needs the consent of two members, the second within 48 hours, and a call that
fails leaves the consents alone.  The lookup of the members may fail open, the time is not
checked when party B answers, and an approval without credits is committed; every run in
which a call takes none of these turns keeps the promise.
-/

namespace ColabPlatform.Ai

open Foundation
open Billing (Uuid Timestamp)

/-! ## What stays of a consent -/

namespace StoredConsent

/-- The row as party A inserted it. -/
def asked (row : StoredConsent) : StoredConsent :=
  { row with status := .pendingB, partyBConsentedAt := none }

@[simp] theorem asked_approve (row : StoredConsent) (at_ : Timestamp) :
    (row.approve at_).asked = row.asked := rfl

@[simp] theorem asked_expire (row : StoredConsent) (cutoff : Timestamp) :
    (row.expire cutoff).asked = row.asked := by
  unfold expire
  split <;> rfl

end StoredConsent

/-! ## What is promised -/

section

variable (members : Uuid → List Uuid)

/-- Two members consented to what is generated, the second within 48 hours of the first. -/
structure Consented (row : StoredConsent) (generation : StartedGeneration) : Prop where
  id_eq : row.id = generation.consentId
  first : row.requestedBy ∈ members row.collabId
  second : generation.approvedBy ∈ members row.collabId
  apart : row.requestedBy ≠ generation.approvedBy
  after : row.partyAConsentedAt ≤ generation.approvedAt
  inTime : generation.approvedAt ≤ row.partyAConsentedAt + consentExpiryMicros
  prompt : generation.task.prompt = row.brief
  kind : generation.task.kind = row.generationKind.asset

variable {members} in
/-- Only the status and the answer of party B ever change. -/
theorem Consented.of_asked {row row' : StoredConsent} {generation : StartedGeneration}
    (h : Consented members row generation) (same : row'.asked = row.asked) :
    Consented members row' generation := by
  have asked : Consented members row.asked generation := { h with }
  rw [← same] at asked
  exact { asked with }

/-- The call has ended with an error, and not because its task could not be queued. -/
def ConsentCalling.failed (call : ConsentCalling) : Bool :=
  match call.phase with
  | .done (.error failure) => failure ≠ .broker
  | _ => false

structure Bilateral (s : ConsentState) : Prop where
  consented : ∀ generation ∈ s.world.started, ∃ row ∈ s.world.consents.rows,
    Consented members row generation
  single : ∀ first ∈ s.world.consents.rows, ∀ second ∈ s.world.consents.rows,
    (first.status = .pendingB ∨ first.status = .approved) →
      (second.status = .pendingB ∨ second.status = .approved) →
        first.collabId = second.collabId → first = second
  retriable : ∀ call ∈ s.calls, call.failed = true → call.wrote = false

/-- What a step of a call must not do. -/
def ConsentState.goesRight (s : ConsentState) : ConsentEvent → Bool
  | .advance index outside =>
      (s.calls[index]?).all fun call =>
        match call.phase with
        | .lookup =>
            participantsOf (members call.request.collabId) outside.participants ≠ [] ∨
              call.request.userId ∈ members call.request.collabId
        | .decide (some existing) _ =>
            existing.status = .pendingB → existing.requestedBy ≠ call.request.userId →
              s.world.now ≤ existing.expiresConsentAt
        | .approve _ (.reserve _ _) =>
            match outside.reservation with
            | .response 402 _ => false
            | _ => true
        | _ => true
  | _ => true

end

/-! ## What holds of the world -/

namespace ConsentWorld

/-- The consent is stored, with another status perhaps. -/
def Has (w : ConsentWorld) (row : StoredConsent) : Prop :=
  ∃ stored ∈ w.consents.rows, stored.asked = row.asked

/-- Time has passed, and no consent has gone. -/
structure Extends (w w' : ConsentWorld) : Prop where
  now_le : w.now ≤ w'.now
  kept : ∀ row, w.Has row → w'.Has row

theorem Extends.refl (w : ConsentWorld) : w.Extends w := ⟨Int.le_refl _, fun _ has => has⟩

/-- What one row after the other becomes does not change what party A asked for. -/
theorem has_of_map {w w' : ConsentWorld} {f : StoredConsent → StoredConsent}
    (rows : w'.consents.rows = w.consents.rows.map f) (asked : ∀ row, (f row).asked = row.asked)
    (row : StoredConsent) : w'.Has row ↔ w.Has row := by
  unfold Has
  rw [rows]
  simp only [List.mem_map, exists_exists_and_eq_and, asked]

theorem has_of_insert {w : ConsentWorld} {new : StoredConsent}
    {consents : Table StoredConsent (fun row => row.id) StoredConsent.activeCollab}
    (stored : w.consents.insert? new = some consents) (row : StoredConsent) :
    ({ w with consents } : ConsentWorld).Has row ↔ new.asked = row.asked ∨ w.Has row := by
  unfold Has
  rw [(Table.insert?_eq_some stored).2]
  simp only [List.mem_cons, exists_eq_or_imp]

theorem approve?_eq_some {w w' : ConsentWorld} {approval : Approval}
    (stored : w.approve? approval = some w') :
    ∃ consents, w' = { w with consents } ∧ ∀ row, w'.Has row ↔ w.Has row := by
  obtain ⟨consents, updated, rfl⟩ := Option.map_eq_some_iff.1 stored
  refine ⟨consents, rfl, has_of_map (Table.rows_update updated) fun row => ?_⟩
  split <;> rfl

variable (members : Uuid → List Uuid)

/-- What is stored was asked for by a member, and what has started was consented to. -/
structure Sound (w : ConsentWorld) : Prop where
  fair : ∀ row, w.Has row → row.requestedBy ∈ members row.collabId ∧
    row.partyAConsentedAt ≤ w.now ∧
    row.expiresConsentAt = row.partyAConsentedAt + consentExpiryMicros
  consented : ∀ generation ∈ w.started, ∃ row, w.Has row ∧ Consented members row generation

variable {members}

theorem Sound.initial : ConsentWorld.initial.Sound members where
  fair row has := by
    obtain ⟨stored, mem, -⟩ := has
    cases mem
  consented generation mem := by cases mem

/-- The same consents at a later time. -/
theorem Sound.later {w w' : ConsentWorld} (h : w.Sound members) (now_le : w.now ≤ w'.now)
    (has : ∀ row, w'.Has row ↔ w.Has row) (started : w'.started = w.started) :
    w'.Sound members where
  fair row stored := by
    obtain ⟨first, past, expires⟩ := h.fair row ((has row).1 stored)
    exact ⟨first, past.trans now_le, expires⟩
  consented generation mem := by
    rw [started] at mem
    obtain ⟨row, stored, consented⟩ := h.consented generation mem
    exact ⟨row, (has row).2 stored, consented⟩

end ConsentWorld

/-! ## What holds of a call -/

section

variable (members : Uuid → List Uuid)

/-- Party B has answered in time to what a member asked for. -/
structure Approval.Sound (w : ConsentWorld) (request : ConsentRequest) (approval : Approval) :
    Prop where
  has : w.Has approval.existing
  here : approval.existing.collabId = request.collabId
  apart : approval.existing.requestedBy ≠ request.userId
  after : approval.existing.partyAConsentedAt ≤ approval.at_
  inTime : approval.at_ ≤ approval.existing.partyAConsentedAt + consentExpiryMicros

/-- An approval has written nothing before its commit, and is not refused. -/
def ApprovalStage.Sound (existing : StoredConsent) (wrote : Bool) : ApprovalStage → Prop
  | .refuse _ => False
  | .enqueue task => task.prompt = existing.brief ∧ task.kind = existing.generationKind.asset
  | _ => wrote = false

def ConsentPhase.Sound (w : ConsentWorld) (request : ConsentRequest) (wrote : Bool) :
    ConsentPhase → Prop
  | .lookup => wrote = false
  | .query => request.userId ∈ members request.collabId ∧ wrote = false
  | .decide existing _ =>
      request.userId ∈ members request.collabId ∧ wrote = false ∧
        ∀ row ∈ existing, w.Has row ∧ row.collabId = request.collabId
  | .insert _ at_ =>
      request.userId ∈ members request.collabId ∧ wrote = false ∧ at_ ≤ w.now
  | .approve approval stage =>
      request.userId ∈ members request.collabId ∧ approval.Sound w request ∧
        stage.Sound approval.existing wrote
  | .done (.ok _) => True
  | .done (.error failure) => failure ≠ .broker → wrote = false

variable {members} {w w' : ConsentWorld} {request : ConsentRequest} {wrote : Bool}

theorem Approval.Sound.mono {approval : Approval} (h : approval.Sound w request)
    (extends_ : w.Extends w') : approval.Sound w' request :=
  { h with has := extends_.kept _ h.has }

/-- What others do takes nothing from a call. -/
theorem ConsentPhase.Sound.mono {phase : ConsentPhase} (h : phase.Sound members w request wrote)
    (extends_ : w.Extends w') : phase.Sound members w' request wrote := by
  match phase, h with
  | .lookup, unwritten => exact unwritten
  | .query, both => exact both
  | .decide existing begun, ⟨member, unwritten, stored⟩ =>
      exact ⟨member, unwritten, fun row found =>
        ⟨extends_.kept row (stored row found).1, (stored row found).2⟩⟩
  | .insert begun at_, ⟨member, unwritten, past⟩ =>
      exact ⟨member, unwritten, past.trans extends_.now_le⟩
  | .approve approval stage, ⟨member, sound, stageSound⟩ =>
      exact ⟨member, sound.mono extends_, stageSound⟩
  | .done (.ok response), _ => trivial
  | .done (.error failure), unwritten => exact unwritten

end

/-! ## One step of a call -/

section

variable (members : Uuid → List Uuid)

/-- What a step of a call keeps. -/
structure ConsentKept (w : ConsentWorld) (request : ConsentRequest) (wrote : Bool)
    (after : ConsentPhase × ConsentWorld) : Prop where
  world : after.2.Sound members
  extends_ : w.Extends after.2
  call : after.1.Sound members after.2 request
    (wrote || decide (after.2.consents ≠ w.consents))

variable {members} {w : ConsentWorld} {request : ConsentRequest} {wrote : Bool}

theorem ConsentKept.same {phase : ConsentPhase} (sound : w.Sound members)
    (call : phase.Sound members w request wrote) :
    ConsentKept members w request wrote (phase, w) where
  world := sound
  extends_ := .refl w
  call := by simpa using call

variable (settings : AISettings) (outside : ConsentOutside) (held : Bool)

/-- An approval that is not refused commits the answer of party B, and then starts. -/
theorem approvalStep_kept {approval : Approval} {stage : ApprovalStage} (sound : w.Sound members)
    (h : ConsentPhase.Sound members w request wrote (.approve approval stage))
    (paid : ∀ tier interaction body, stage = .reserve tier interaction →
      outside.reservation ≠ .response 402 body) :
    ConsentKept members w request wrote
      (approvalStep settings outside held request approval stage w) := by
  obtain ⟨member, answered, stageSound⟩ := h
  cases stage with
  | flush =>
      simp only [approvalStep]
      repeat' split
      · exact .same sound ⟨member, answered, stageSound⟩
      · exact .same sound ⟨member, answered, stageSound⟩
      · exact .same sound fun _ => stageSound
  | entitlement =>
      simp only [approvalStep]
      split
      · exact .same sound ⟨member, answered, stageSound⟩
      · exact .same sound fun _ => stageSound
  | interaction tier =>
      simp only [approvalStep]
      split
      · exact .same sound ⟨member, answered, stageSound⟩
      · exact .same sound fun _ => stageSound
  | reserve tier interaction =>
      simp only [approvalStep]
      split
      · rename_i body refused
        exact absurd refused (paid tier interaction body rfl)
      · split
        · exact .same sound ⟨member, answered, stageSound⟩
        · exact .same sound fun _ => stageSound
        · exact .same sound fun _ => stageSound
  | refuse interaction => exact stageSound.elim
  | commit tier interaction =>
      simp only [approvalStep]
      split
      · split
        · rename_i w' stored
          obtain ⟨consents, rfl, has⟩ := ConsentWorld.approve?_eq_some stored
          have extends_ : w.Extends { w with consents } :=
            ⟨Int.le_refl _, fun row => (has row).2⟩
          exact
            { world := sound.later (Int.le_refl _) has rfl
              extends_ := ⟨extends_.now_le, extends_.kept⟩
              call := ⟨member, ⟨extends_.kept _ answered.has, answered.here, answered.apart,
                answered.after, answered.inTime⟩, rfl, rfl⟩ }
        · exact .same sound fun _ => stageSound
      · exact .same sound fun _ => stageSound
  | enqueue task =>
      simp only [approvalStep]
      split
      · have started : ∃ row, w.Has row ∧ Consented members row
            ⟨approval.existing.id, request.userId, approval.at_, task⟩ :=
          ⟨approval.existing, answered.has,
            { id_eq := rfl
              first := (sound.fair _ answered.has).1
              second := answered.here ▸ member
              apart := answered.apart
              after := answered.after
              inTime := answered.inTime
              prompt := stageSound.1
              kind := stageSound.2 }⟩
        exact
          { world := ⟨sound.fair, List.forall_mem_cons.2 ⟨started, sound.consented⟩⟩
            extends_ := ⟨Int.le_refl _, fun _ has => has⟩
            call := trivial }
      · exact .same sound fun queued => absurd rfl queued

/-- What the query finds is stored, and of the collaboration that was asked for. -/
theorem ConsentWorld.has_openConsent {collabId : Uuid} {row : StoredConsent}
    (found : w.openConsent collabId = some row) : w.Has row ∧ row.collabId = collabId := by
  obtain ⟨mem, active⟩ := Table.lookupAlt_eq_some_iff.1 found
  refine ⟨⟨row, mem, rfl⟩, ?_⟩
  unfold StoredConsent.activeCollab at active
  split at active
  · exact Option.some.inj active
  · cases active

theorem insertStep_kept {begun at_ : Timestamp} (sound : w.Sound members)
    (h : ConsentPhase.Sound members w request wrote (.insert begun at_)) :
    ConsentKept members w request wrote
      (consentStep settings members outside held request (.insert begun at_) w) := by
  obtain ⟨member, unwritten, past⟩ := h
  simp only [consentStep]
  split
  · exact .same sound ⟨member, unwritten, past⟩
  · split
    · split
      · rename_i consents stored
        have has := ConsentWorld.has_of_insert stored
        refine
          { world := ⟨fun row stored => ?_, fun generation mem => ?_⟩
            extends_ := ⟨Int.le_refl _, fun row stored => (has row).2 (Or.inr stored)⟩
            call := trivial }
        · rcases (has row).1 stored with same | before
          · -- the new row, as party A asks for it
            have asker : request.userId = row.requestedBy := congrArg (·.requestedBy) same
            have collab : request.collabId = row.collabId := congrArg (·.collabId) same
            have time : at_ = row.partyAConsentedAt := congrArg (·.partyAConsentedAt) same
            have expiry : at_ + consentExpiryMicros = row.expiresConsentAt :=
              congrArg (·.expiresConsentAt) same
            rw [← asker, ← collab, ← expiry, ← time]
            exact ⟨member, past, rfl⟩
          · exact sound.fair row before
        · obtain ⟨row, before, consented⟩ := sound.consented generation mem
          exact ⟨row, (has row).2 (Or.inr before), consented⟩
      · exact .same sound fun _ => unwritten
    · exact .same sound fun _ => unwritten

/-- Party B answers in time, and party A only asks. -/
theorem decideStep_kept {existing : Option StoredConsent} {begun : Timestamp}
    (sound : w.Sound members)
    (h : ConsentPhase.Sound members w request wrote (.decide existing begun))
    (inTime : ∀ row ∈ existing, row.status = .pendingB → row.requestedBy ≠ request.userId →
      w.now ≤ row.expiresConsentAt) :
    ConsentKept members w request wrote
      (consentStep settings members outside held request (.decide existing begun) w) := by
  obtain ⟨member, unwritten, stored⟩ := h
  cases existing with
  | none => exact .same sound ⟨member, unwritten, Int.le_refl _⟩
  | some row =>
      obtain ⟨has, here⟩ := stored row rfl
      obtain ⟨-, past, expires⟩ := sound.fair row has
      simp only [consentStep]
      split
      · rename_i open_
        have before := inTime row rfl open_.1 open_.2
        exact .same sound ⟨member, ⟨has, here, open_.2, past, expires ▸ before⟩, unwritten⟩
      · split
        · exact .same sound fun _ => unwritten
        · exact .same sound ⟨member, unwritten, Int.le_refl _⟩

end

namespace ConsentState

/-- The world is as it should be, and so is every call. -/
structure Sound (members : Uuid → List Uuid) (s : ConsentState) : Prop where
  world : s.world.Sound members
  calls : ∀ call ∈ s.calls, call.phase.Sound members s.world call.request call.wrote

namespace Sound

variable (settings : AISettings) {members : Uuid → List Uuid} {s : ConsentState}

theorem initial : ConsentState.initial.Sound members where
  world := .initial
  calls call mem := by cases mem

theorem consentStep_kept (h : s.Sound members) {index : Nat} {outside : ConsentOutside}
    {call : ConsentCalling} (found : s.calls[index]? = some call)
    (right : s.goesRight members (.advance index outside) = true) (held : Bool) :
    ConsentKept members s.world call.request call.wrote
      (consentStep settings members outside held call.request call.phase s.world) := by
  obtain ⟨request, phase, wrote⟩ := call
  have sound := h.calls _ (List.mem_of_getElem? found)
  simp only [goesRight, found, Option.all_some] at right
  cases phase with
  | lookup =>
      simp only [consentStep]
      split
      · exact .same h.world fun _ => sound
      · rename_i passes
        refine .same h.world ⟨?_, sound⟩
        rcases of_decide_eq_true right with answered | member
        · -- the lookup has returned the members, and the caller is one of them
          have listed : request.userId ∈
              participantsOf (members request.collabId) outside.participants := by
            by_contra other
            exact passes ⟨answered, other⟩
          unfold participantsOf at listed
          repeat' split at listed
          · exact listed
          · cases listed
          · cases listed
        · exact member
  | query =>
      simp only [consentStep]
      split
      · exact .same h.world ⟨sound.1, sound.2, fun row found => s.world.has_openConsent found⟩
      · exact .same h.world fun _ => sound.2
  | decide existing begun =>
      refine decideStep_kept settings outside held h.world sound ?_
      rintro row ⟨⟩
      exact of_decide_eq_true right
  | insert begun at_ => exact insertStep_kept settings outside held h.world sound
  | approve approval stage =>
      refine approvalStep_kept settings outside held h.world sound ?_
      rintro tier interaction body rfl refused
      simp [refused] at right
  | done result => exact .same h.world sound

theorem step (h : s.Sound members) (e : ConsentEvent)
    (right : s.goesRight members e = true) : (s.step settings members e).Sound members := by
  cases e with
  | begin request => exact ⟨h.world, forall_mem_concat rfl h.calls⟩
  | advance index outside =>
      simp only [ConsentState.step]
      cases found : s.calls[index]? with
      | none => exact h
      | some call =>
          have kept := h.consentStep_kept settings found right
            (s.held call.request.collabId)
          exact ⟨kept.world, forall_mem_set kept.call fun other mem =>
            (h.calls other mem).mono kept.extends_⟩
  | expire cutoff =>
      simp only [ConsentState.step]
      split
      · have has : ∀ row, ({ s.world with
            consents := s.world.consents.modifyAll (fun row => row.expire cutoff)
              (fun row => row.expire_id cutoff) (StoredConsent.activeCollab_expire cutoff) } :
              ConsentWorld).Has row ↔ s.world.Has row :=
          ConsentWorld.has_of_map rfl fun row => row.asked_expire cutoff
        exact ⟨h.world.later (Int.le_refl _) has rfl, fun call mem =>
          (h.calls call mem).mono ⟨Int.le_refl _, fun row => (has row).2⟩⟩
      · exact h
  | tick time =>
      have later : s.world.now ≤ s.world.now + time :=
        Int.le_add_of_nonneg_right (Int.natCast_nonneg time)
      exact ⟨h.world.later later (fun row => Iff.rfl) rfl, fun call mem =>
        (h.calls call mem).mono ⟨later, fun _ has => has⟩⟩

/-- What is promised follows, with the index of the table for the open consents. -/
theorem bilateral (h : s.Sound members) : Bilateral members s where
  consented generation mem := by
    obtain ⟨row, ⟨stored, here, same⟩, consented⟩ := h.world.consented generation mem
    exact ⟨stored, here, consented.of_asked same⟩
  single first here second there openFirst openSecond same := by
    refine Table.eq_of_alt_eq here there (m := first.collabId) (if_pos openFirst) ?_
    rw [same]
    exact if_pos openSecond
  retriable call mem failed := by
    have sound := h.calls call mem
    obtain ⟨request, phase, wrote⟩ := call
    unfold ConsentCalling.failed at failed
    split at failed
    · rename_i failure ended
      dsimp only at ended
      subst ended
      exact sound (by simpa using failed)
    · cases failed

end Sound

end ConsentState

/-! ## Four runs -/

namespace ConsentState

def anna : Uuid := ⟨"anna"⟩

def ben : Uuid := ⟨"ben"⟩

/-- The calls of two users about the collaboration of `anna` and `ben`. -/
def annaThen (userId : Uuid) (time : Nat) (outside : ConsentOutside) : List ConsentEvent :=
  .begin { collabId := ⟨"collab"⟩, userId := anna } :: List.replicate 4 (.advance 0 {}) ++
    .tick time :: .begin { collabId := ⟨"collab"⟩, userId } ::
      List.replicate 9 (.advance 1 outside)

end ConsentState

end ColabPlatform.Ai
