import ColabPlatform.Profiles.Coverage

/-!
# Profile service: the badge under edits and reviews

What each request, event and review may commit, and from it what the badge
covers in every state of a run.
-/

namespace ColabPlatform.Profiles.Review

open Foundation Common

/-! ## Requests and events -/

/-- An operation that a call may perform whatever it has seen. -/
def Op.Free (settings : ReviewSettings) (op : Op) : Prop := ∀ notes, op.Permitted settings notes

section Requests

variable {settings : ReviewSettings}

theorem commit_free {writes : List Write} (other : writes.any Write.grants = false)
    (reason : Reason) : (Op.commit writes reason).Free settings := by
  intro notes grants
  rw [other] at grants
  cases grants

theorem commitOrRaise_uses {writes : List Write} (other : writes.any Write.grants = false)
    (reason : Reason) : (commitOrRaise writes reason).Uses (Op.Free settings) := by
  refine Process.uses_bind (Process.uses_perform.2 (commit_free other reason)) fun accepted => ?_
  cases accepted <;> trivial

theorem perform_uses {op : Op} (free : ∀ notes, op.Permitted settings notes) :
    (Process.perform op : ReviewM op.Reply).Uses (Op.Free settings) :=
  Process.uses_perform.2 free

theorem patchDisplayName_uses (profile : ProfileRow) (displayName : Option String) :
    (patchDisplayName profile displayName).Uses (Op.Free settings) := by
  cases displayName with
  | none => trivial
  | some displayName =>
      dsimp only [patchDisplayName]
      split
      · trivial
      · refine Process.uses_bind (perform_uses fun _ => trivial) fun taken => ?_
        cases taken <;> trivial

theorem patchText_uses (current : Option String) (longest : Nat) (detail : String)
    (text : Option String) :
    (patchText current longest detail text).Uses (Op.Free settings) := by
  cases text with
  | none => trivial
  | some text =>
      dsimp only [patchText]
      split <;> trivial

theorem patchOwnProfile_uses (body : ProfilePatch) :
    (patchOwnProfile body).Uses (Op.Free settings) := by
  refine Process.uses_bind (perform_uses fun _ => trivial) fun profile => ?_
  refine Process.uses_bind (patchDisplayName_uses profile _) fun displayName => ?_
  refine Process.uses_bind (patchText_uses ..) fun bio => ?_
  refine Process.uses_bind (patchText_uses ..) fun obsessedWith => ?_
  refine Process.uses_bind (commitOrRaise_uses (by rfl) _) fun _ => ?_
  split
  · rename_i again
    rw [again.2]
    refine Process.uses_bind ?_ fun _ => perform_uses fun _ => trivial
    exact Process.uses_bind (perform_uses (commit_free (by rfl) _)) fun _ => trivial
  · trivial

theorem requestUploadUrl_uses (body : PortfolioUploadRequest) (itemId : String) :
    (requestUploadUrl body itemId).Uses (Op.Free settings) := by
  refine Process.uses_bind (perform_uses fun _ => trivial) fun _ => ?_
  dsimp only
  split
  · trivial
  · split
    · trivial
    · refine Process.uses_bind (perform_uses fun _ => trivial) fun items => ?_
      split
      · trivial
      · exact commitOrRaise_uses (by rfl) _

theorem finalizeUpload_uses (itemId : String) (body : PortfolioFinalizeRequest) :
    (finalizeUpload itemId body).Uses (Op.Free settings) := by
  refine Process.uses_bind (perform_uses fun _ => trivial) fun _ => ?_
  refine Process.uses_bind (perform_uses fun _ => trivial) fun item => ?_
  cases item with
  | none => trivial
  | some item =>
      refine Process.uses_bind (perform_uses fun _ => trivial) fun head => ?_
      cases head with
      | none => trivial
      | some head =>
          dsimp only
          split
          · trivial
          · exact Process.uses_bind (commitOrRaise_uses (by rfl) _) fun _ =>
              perform_uses fun _ => trivial

theorem deletePortfolioItem_uses (itemId : String) :
    (deletePortfolioItem itemId).Uses (Op.Free settings) := by
  refine Process.uses_bind (perform_uses fun _ => trivial) fun _ => ?_
  refine Process.uses_bind (perform_uses fun _ => trivial) fun item => ?_
  cases item with
  | none => trivial
  | some item =>
      exact Process.uses_bind (perform_uses fun _ => trivial) fun _ =>
        commitOrRaise_uses (by rfl) _

/-- The events by which a badge comes to be granted. -/
theorem event_of_granted {state : BadgeState} {event : BadgeEvent} {result : TransitionResult}
    (moved : transition state event = .ok result)
    (granted : changed state result.newState = some .badgeGranted) : event.grants = true := by
  cases state <;> cases event <;>
    simp only [transition, transitions, Except.ok.injEq, reduceCtorEq] at moved <;>
    subst moved <;> first | rfl | cases granted

theorem changesOf_badgeState (profile : ProfileRow) (result : TransitionResult) (now : Int) :
    (changesOf profile result now).badgeState =
      changed profile.badgeState result.newState := by
  unfold changesOf
  split <;> rfl

theorem changesOf_keepsContent (profile : ProfileRow) (result : TransitionResult) (now : Int) :
    (Write.profile (changesOf profile result now)).keepsContent := by
  unfold changesOf
  split <;> exact ⟨rfl, rfl, rfl⟩

theorem recheckBadge_uses : recheckBadge.Uses (Op.Free settings) := by
  refine Process.uses_bind (perform_uses fun _ => trivial) fun profile => ?_
  cases moved : transition profile.badgeState .badgeRecheckRequested with
  | error refused => trivial
  | ok result =>
      refine Process.uses_bind (commitOrRaise_uses ?_ _) fun _ => perform_uses fun _ => trivial
      simp only [List.any_cons, List.any_nil, Bool.or_false, Write.grants, decide_eq_false_iff_not]
      intro granted
      cases event_of_granted moved granted

theorem handleEvent_uses (event : BadgeEvent) (now : Int) :
    (handleEvent event now).Uses (Op.Free settings) := by
  unfold handleEvent
  split
  · rename_i consumed
    refine Process.uses_bind (perform_uses fun _ => trivial) fun profile => ?_
    cases moved : transition profile.badgeState event with
    | error refused => trivial
    | ok result =>
        refine Process.uses_bind (perform_uses ?_) fun carriedOut => ?_
        · intro notes grants
          simp only [List.any_cons, List.any_nil, Bool.or_false, Write.grants,
            decide_eq_true_eq, changesOf_badgeState] at grants
          refine ⟨by simp [changesOf_keepsContent], ?_⟩
          obtain rfl | cleared := (grants_iff event).1 (event_of_granted moved grants)
          · simp [consumedEvents] at consumed
          · exact cleared
        · split
          · split
            · exact perform_uses fun _ => trivial
            · trivial
          · trivial
  · trivial

end Requests

/-! ## The review -/

section Reviews

-- unfolding a program must not compute the text that it scans
attribute [local irreducible] strip

variable {settings : ReviewSettings} {profile : ProfileRow} {items done : List PortfolioItem}
  {alwaysHuman : Bool} {notes : Notes}

/-- A review that has read the profile and its items, and has gone through `done` of them. -/
structure Progress (settings : ReviewSettings) (profile : ProfileRow)
    (items done : List PortfolioItem) (alwaysHuman : Bool) (notes : Notes) : Prop where
  textParts : notes.textParts = profile.textParts
  items : notes.items = items
  alwaysHuman : notes.alwaysHuman = alwaysHuman
  text : notes.failed = false → strip profile.textParts ≠ "" → settings.openaiApiKey ≠ "" →
    .text profile.textParts ∈ notes.scanned
  images : notes.failed = false → ∀ item ∈ done, item.due = true →
    ∃ object, .image item.id object ∈ notes.scanned

theorem startReview_ensures (profile : ProfileRow) (notes : Notes) :
    (startReview profile).Ensures (contract settings) (fun _ notes' => notes' = notes) notes := by
  unfold startReview
  split
  · rename_i approved
    rw [approved]
    refine Process.ensures_perform_bind.2 ⟨?_, ?_⟩
    · exact commit_free (by rfl) _ notes
    · rintro carriedOut _ ⟨object, rfl⟩
      cases carriedOut <;> rfl
  · rfl

/-- The text is scanned with success, or a scan has raised, unless there is nothing to scan
or to scan it with. -/
theorem reviewText_ensures (textParts : notes.textParts = profile.textParts)
    (read : notes.items = items) (fresh : notes.alwaysHuman = false) :
    (reviewText settings profile.textParts).Ensures (contract settings)
      (fun result notes' => ∃ score alwaysHuman, result = .ok (score, alwaysHuman) ∧
        Progress settings profile items [] alwaysHuman notes') notes := by
  by_cases scanning : strip profile.textParts ≠ "" ∧ settings.openaiApiKey ≠ ""
  · rw [reviewText, if_pos scanning]
    refine Process.ensures_perform_bind.2 ⟨trivial, ?_⟩
    rintro raw _ ⟨object, rfl⟩
    cases raw with
    | none =>
        refine ⟨0, false, rfl, textParts, read, fresh, ?_, ?_⟩ <;>
          simp [Notes.after]
    | some raw =>
        refine ⟨_, _, rfl, textParts, read, rfl, ?_, by simp⟩
        simp [Notes.after]
  · rw [reviewText, if_neg scanning]
    refine ⟨0, false, rfl, textParts, read, fresh, ?_, by simp⟩
    exact fun _ filled configured => absurd ⟨filled, configured⟩ scanning

theorem dupSignalOf_ensures (dupSignal : Score) (item : PortfolioItem) (notes : Notes) :
    (dupSignalOf dupSignal item).Ensures (contract settings)
      (fun result notes' => (∃ signal, result = .ok signal) ∧ notes' = notes) notes := by
  unfold dupSignalOf
  split
  · refine Process.ensures_perform_bind.2 ⟨trivial, ?_⟩
    rintro existing _ ⟨object, rfl⟩
    exact ⟨⟨_, rfl⟩, rfl⟩
  · exact ⟨⟨_, rfl⟩, rfl⟩

/-- The images have written scores only. -/
def ImageScores.quiet (scores : ImageScores) : Prop :=
  ∀ write ∈ scores.writes, write.keepsContent ∧ write.grants = false

theorem reviewImage_ensures (openaiScore : Score) {scores : ImageScores} (item : PortfolioItem)
    (quiet : scores.quiet) (h : Progress settings profile items done alwaysHuman notes) :
    (reviewImage openaiScore scores item).Ensures (contract settings)
      (fun result notes' => ∃ scores', result = .ok scores' ∧ scores'.quiet ∧
        Progress settings profile items (done ++ [item]) alwaysHuman notes') notes := by
  unfold reviewImage
  split
  · refine Process.ensures_perform_bind.2 ⟨trivial, ?_⟩
    rintro raw _ ⟨object, rfl⟩
    cases raw with
    | none =>
        refine ⟨scores, rfl, quiet, h.textParts, h.items, h.alwaysHuman, ?_, ?_⟩ <;>
          simp [Notes.after]
    | some raw =>
        refine Process.ensures_bind.2 ((dupSignalOf_ensures ..).mono ?_)
        rintro _ _ ⟨⟨signal, rfl⟩, rfl⟩
        refine ⟨_, rfl, ?_, h.textParts, h.items, h.alwaysHuman, ?_, ?_⟩
        · intro write mem
          obtain old | new := List.mem_append.1 mem
          · exact quiet write old
          · obtain rfl := List.mem_singleton.1 new
            exact ⟨trivial, rfl⟩
        · exact fun completed filled configured =>
            List.mem_cons_of_mem _ (h.text completed filled configured)
        · intro completed other mem due
          obtain before | last := List.mem_append.1 mem
          · obtain ⟨object', scanned⟩ := h.images completed other before due
            exact ⟨object', List.mem_cons_of_mem _ scanned⟩
          · obtain rfl := List.mem_singleton.1 last
            exact ⟨object, List.mem_cons_self⟩
  · rename_i skipped
    refine ⟨scores, rfl, quiet, h.textParts, h.items, h.alwaysHuman, h.text, ?_⟩
    intro completed other mem due
    obtain before | last := List.mem_append.1 mem
    · exact h.images completed other before due
    · obtain rfl := List.mem_singleton.1 last
      exact absurd due skipped

theorem reviewImages_ensures (openaiScore : Score) {scores : ImageScores}
    (rest : List PortfolioItem) (quiet : scores.quiet)
    (h : Progress settings profile items done alwaysHuman notes) :
    (reviewImages openaiScore scores rest).Ensures (contract settings)
      (fun result notes' => ∃ scores', result = .ok scores' ∧ scores'.quiet ∧
        Progress settings profile items (done ++ rest) alwaysHuman notes') notes := by
  induction rest generalizing scores done notes with
  | nil =>
      rw [List.append_nil]
      exact ⟨scores, rfl, quiet, h⟩
  | cons item rest ih =>
      refine Process.ensures_bind.2 ((reviewImage_ensures openaiScore item quiet h).mono ?_)
      rintro _ notes' ⟨scores', rfl, quiet', h'⟩
      have next := ih quiet' h'
      rwa [List.append_assoc] at next

/-- The writes of the badge. -/
theorem badgeWrites_permitted {aggregate : Score} {now : Int} {write : Write}
    (mem : write ∈ badgeWrites profile aggregate now) :
    write.keepsContent ∧
      (write.grants = true → scoreToEvent aggregate = .profileReviewCompletedPass) := by
  unfold badgeWrites at mem
  split at mem
  · split at mem
    · rename_i result moved
      obtain rfl := List.mem_singleton.1 mem
      refine ⟨changesOf_keepsContent profile result now, fun granted => ?_⟩
      simp only [Write.grants, decide_eq_true_eq, changesOf_badgeState] at granted
      have grants := event_of_granted moved granted
      unfold scoreToEvent at grants ⊢
      split
      · rfl
      · rename_i failing
        rw [if_neg failing] at grants
        split at grants
        · cases grants
        · split at grants <;> cases grants
    · cases mem
  · cases mem

theorem reviewContent_ensures (now : Int) (row : ProfileRow)
    (textParts : notes.textParts = profile.textParts) (read : notes.items = items)
    (fresh : notes.alwaysHuman = false) :
    (reviewContent settings now row profile.textParts items).Ensures (contract settings)
      (fun _ _ => True) notes := by
  refine Process.ensures_bind.2 ((reviewText_ensures textParts read fresh).mono ?_)
  rintro _ notes' ⟨openaiScore, alwaysHuman, rfl, begun⟩
  refine Process.ensures_bind.2 ((reviewImages_ensures openaiScore items ?_ begun).mono ?_)
  · intro write mem
    cases mem
  rintro _ notes' ⟨scores, rfl, quiet, progress⟩
  refine Process.ensures_bind.2 (Process.ensures_perform_bind.2 ⟨?_, ?_⟩)
  · intro grants
    obtain ⟨granting, mem, granted⟩ := List.any_eq_true.1 grants
    obtain scored | badge := List.mem_append.1 mem
    · rw [(quiet granting scored).2] at granted
      cases granted
    · refine ⟨fun write mem => ?_, (badgeWrites_permitted badge).2 granted,
        progress.alwaysHuman.symm, ?_, ?_⟩
      · obtain scored | badge := List.mem_append.1 mem
        · exact (quiet write scored).1
        · exact (badgeWrites_permitted badge).1
      · rw [progress.textParts]
        exact progress.text
      · rw [progress.items]
        exact progress.images
  · rintro carriedOut _ -
    cases carriedOut with
    | false => trivial
    | true =>
        split
        · exact ⟨trivial, fun _ _ _ => trivial⟩
        · trivial

theorem orchestrateProfileReview_ensures (settings : ReviewSettings) (now : Int) :
    (orchestrateProfileReview settings now).Ensures (contract settings) (fun _ _ => True) {} := by
  refine Process.ensures_perform_bind.2 ⟨trivial, ?_⟩
  rintro profile _ ⟨_, rfl⟩
  refine Process.ensures_perform_bind.2 ⟨trivial, ?_⟩
  rintro items _ ⟨_, rfl⟩
  refine Process.ensures_bind.2 ((startReview_ensures profile _).mono ?_)
  rintro started _ rfl
  cases started with
  | error failure => trivial
  | ok badgeState => exact reviewContent_ensures now _ rfl rfl rfl

end Reviews

/-! ## Runs -/

/-- While the badge is not granted, a call that is up to date may do anything. -/
theorem orderly_advance {settings : ReviewSettings} {s : State} {index : Nat}
    (answer : (op : Op) → op.Reply) (ungranted : s.world.profile.badgeState ≠ .badgeGranted)
    (upToDate : ∀ notes ∈ s.running[index]?.map (·.notes), UpToDate settings s.world notes) :
    Orderly settings s (.advance index answer) := by
  dsimp only [Orderly]
  split
  · rename_i notes op next found
    have current := upToDate notes (by simp [found])
    cases op with
    | commit writes reason =>
        dsimp only [Op.Orderly]
        split
        · exact fun _ => current
        · exact fun granted => absurd granted ungranted
    | _ => trivial
  · trivial

theorem call_ensures (settings : ReviewSettings) (call : Call) :
    (call.program settings).Ensures (contract settings) (fun _ _ => True) {} := by
  have safe : ∀ {program : ReviewM Unit}, program.Uses (Op.Free settings) →
      program.Ensures (contract settings) (fun _ _ => True) {} := fun uses =>
    uses.safe (fun _ notes free => free notes) _
  cases call with
  | patch body => exact safe (patchOwnProfile_uses body)
  | uploadUrl body itemId => exact safe (requestUploadUrl_uses body itemId)
  | finalize itemId body => exact safe (finalizeUpload_uses itemId body)
  | delete itemId => exact safe (deletePortfolioItem_uses itemId)
  | recheck => exact safe recheckBadge_uses
  | event received now => exact safe (handleEvent_uses received now)
  | review now => exact orchestrateProfileReview_ensures settings now

structure Kept (settings : ReviewSettings) (s : State) : Prop where
  covers : BadgeCovers s.world
  running : ∀ call ∈ s.running,
    call.program.Ensures (contract settings) (fun _ _ => True) call.notes

theorem BadgeCovers.put {w : World} (h : BadgeCovers w) {itemId object : String}
    (orderly : w.profile.badgeState = .badgeGranted → ∀ item ∈ w.items, item.type = .image →
      item.id = itemId → .image itemId (some object) ∈ w.covered) :
    BadgeCovers { w with objects := Function.update w.objects itemId (some object) } where
  covers := by
    intro granted
    refine ⟨(h.covers granted).text, fun item mem image => ?_⟩
    by_cases same : item.id = itemId
    · refine ⟨some object, ?_, Or.inl (by simp [same])⟩
      rw [same]
      exact orderly granted item mem image same
    · exact ((h.covers granted).images item mem image).mono rfl (fun _ mem => mem)
        (Or.inl (by simp [Function.update_of_ne same]))
  honest := h.honest

theorem kept_step (settings : ReviewSettings) (s : State) (event : Event)
    (orderly : Orderly settings s event) (h : Kept settings s) :
    Kept settings (step settings s event) := by
  cases event with
  | start call =>
      exact ⟨h.covers, forall_mem_concat (call_ensures settings call) h.running⟩
  | put itemId object => exact ⟨h.covers.put orderly, h.running⟩
  | advance index answer =>
      unfold step
      dsimp only
      split
      · rename_i notes op next found
        obtain ⟨permitted, goes⟩ := h.running _ (List.mem_of_getElem? found)
        have orderly : op.Orderly settings s.world notes := by
          simpa [Orderly, found] using orderly
        exact ⟨badgeCovers_perform h.covers permitted orderly (answer op),
          forall_mem_set (goes _ _ ⟨_, rfl⟩) h.running⟩
      · exact h

def configured : ReviewSettings := ⟨"key", {}⟩

/-- The database takes what it is given, and the scanners answer as given. -/
def answers (text : Option OpenaiResponse) : (op : Op) → op.Reply
  | .getProfile => World.initial.profile
  | .portfolioItems | .otherHashes => []
  | .portfolioItem _ | .headObject _ => none
  | .nameTaken _ => false
  | .commit .. | .deleteObject _ => true
  | .scanText _ => text
  | .scanImage _ => some []
  | .enqueueReview _ | .submit .. => ()

def clean : Option OpenaiResponse := some [[("violence", 1 / 10)]]

/-- A call that goes on alone. -/
def alone (index : Nat) (call : Call) (text : Option OpenaiResponse) (operations : Nat) :
    List Event :=
  .start call :: List.replicate operations (.advance index (answers text))

/-- Email and identity are verified, and a display name is given. -/
def onboarding : List Event :=
  alone 0 (.event .userEmailVerified 1) clean 2 ++
    alone 1 (.event .identityInquiryStarted 2) clean 2 ++
    alone 2 (.patch ⟨some "Ana", none, none⟩) clean 3 ++
    alone 3 (.event .identityVerified 3) clean 3

def reviewed (text : Option OpenaiResponse) : List Event :=
  onboarding ++ alone 4 (.review 4) text 5


def worldAfter (settings : ReviewSettings) (events : List Event) : World :=
  (runFrom (step settings) .initial events).world

/-- An image that is uploaded after the badge was granted. -/
def uploadLater : List Event :=
  reviewed clean ++ alone 5 (.uploadUrl ⟨.image, "image/png", 1000⟩ "item_1") clean 3

/-- A bio that is given after the review has read the profile. -/
def bioMeanwhile : List Event :=
  onboarding ++ alone 4 (.review 4) clean 3 ++
    alone 5 (.patch ⟨none, some "Buy here", none⟩) clean 2 ++ List.replicate 2 (.advance 4 (answers clean))

end ColabPlatform.Profiles.Review
