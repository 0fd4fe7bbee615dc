import ColabPlatform.Foundation.Interleaving
import ColabPlatform.Foundation.Run
import ColabPlatform.Profiles.Review
import Mathlib.Data.List.Sort

/-!
# Profile service: runs of the AI review

Requests, events and reviews of one profile go on one operation at a time, in
any order, and files are put into the bucket in between.  Beside what is stored,
a run keeps what has been scanned with success.
-/

namespace ColabPlatform.Profiles.Review

open Foundation

/-- A text, or what the bucket held for an image. -/
inductive Content where
  | text (textParts : String)
  | image (id : String) (object : Option String)
  deriving DecidableEq, Repr

/-- `objects` is the bucket.  `covered` is what was part of a passing review or was present
at a clearance, `failedGrant` whether a review with a failed scan has granted the badge. -/
structure World where
  profile : ProfileRow
  items : List PortfolioItem
  objects : String → Option String
  covered : List Content
  failedGrant : Bool

namespace World

/-- The shell of a new user. -/
def initial : World := ⟨⟨none, none, none, .unverified, none, none⟩, [], fun _ => none, [], false⟩

def contents (w : World) : List Content :=
  .text w.profile.textParts ::
    (w.items.filter (·.type = .image)).map fun item => .image item.id (w.objects item.id)

end World

/-! ## The database -/

def ProfileRow.update (profile : ProfileRow) (changes : ProfileChanges) : ProfileRow where
  displayName := changes.displayName.getD profile.displayName
  bio := changes.bio.getD profile.bio
  obsessedWith := changes.obsessedWith.getD profile.obsessedWith
  badgeState := changes.badgeState.getD profile.badgeState
  badgeHeldReason := changes.badgeHeldReason.getD profile.badgeHeldReason
  badgeGrantedAt := changes.badgeGrantedAt.getD profile.badgeGrantedAt

/-- Update the item of an id; one that is gone makes the flush fail. -/
def updateItem (items : List PortfolioItem) (id : String) (f : PortfolioItem → PortfolioItem) :
    Option (List PortfolioItem) :=
  if id ∈ items.map (·.id) then some (items.map fun item => if item.id = id then f item else item)
  else none

def World.write (w : World) : Write → Option World
  | .profile changes => some { w with profile := w.profile.update changes }
  | .insertItem item =>
      if item.id ∈ w.items.map (·.id) then none else some { w with items := w.items ++ [item] }
  | .updateItem id sizeBytes mime caption position =>
      (updateItem w.items id fun item => { item with
        sizeBytes, mime
        caption := caption.or item.caption
        position := position.getD item.position }).map fun items => { w with items }
  | .reviewItem id score status =>
      (updateItem w.items id fun item => { item with
        aiReviewScore := some score, aiReviewStatus := status }).map fun items => { w with items }
  | .deleteItem id => some { w with items := w.items.filter (·.id ≠ id) }

def World.writeAll (w : World) : List Write → Option World
  | [] => some w
  | write :: writes => (w.write write).bind (·.writeAll writes)

/-- What an operation answers and changes, where the environment answers as given.  The
database may refuse a commit, a scan needs an object. -/
def World.perform (w : World) : (op : Op) → op.Reply → op.Reply × World
  | .getProfile, _ => (w.profile, w)
  | .portfolioItems, _ => (w.items.insertionSort fun a b => a.position ≤ b.position, w)
  | .portfolioItem id, _ => (w.items.find? fun item => item.id = id, w)
  | .commit writes _, accepted =>
      match accepted, w.writeAll writes with
      | true, some w' => (true, w')
      | _, _ => (false, w)
  | .scanImage id, answer => (if w.objects id = none then none else answer, w)
  | .headObject id, answer => (if w.objects id = none then none else answer, w)
  | .deleteObject id, done =>
      match (done : Bool) with
      | true => (true, { w with objects := Function.update w.objects id none })
      | false => (false, w)
  | .nameTaken _, answer | .otherHashes, answer | .scanText _, answer | .enqueueReview _, answer
  | .submit _ _, answer => (answer, w)

/-! ## What a call has seen -/

/-- The text and the items it has read, whether a scan has raised, whether a category was
for humans in any case, and what was scanned with success. -/
structure Notes where
  textParts : String := ""
  items : List PortfolioItem := []
  failed : Bool := false
  alwaysHuman : Bool := false
  scanned : List Content := []

/-- `object` is what the bucket holds for the image that is scanned. -/
def Notes.after (notes : Notes) (object : Option String) : (op : Op) → op.Reply → Notes
  | .getProfile, profile => { notes with textParts := ProfileRow.textParts profile }
  | .portfolioItems, items => { notes with items := items }
  | .scanText text, answer =>
      match (answer : Option OpenaiResponse) with
      | some raw => { notes with
          alwaysHuman := (extractOpenaiMaxScore raw).2, scanned := .text text :: notes.scanned }
      | none => { notes with failed := true }
  | .scanImage id, answer =>
      match (answer : Option RekognitionResponse) with
      | some _ => { notes with scanned := .image id object :: notes.scanned }
      | none => { notes with failed := true }
  | .portfolioItem _, _ | .commit _ _, _ | .headObject _, _ | .deleteObject _, _ | .nameTaken _, _
  | .otherHashes, _ | .enqueueReview _, _ | .submit _ _, _ => notes

def Op.object (w : World) : Op → Option String
  | .scanImage id => w.objects id
  | _ => none

def Write.grants : Write → Bool
  | .profile changes => decide (changes.badgeState = some .badgeGranted)
  | _ => false

/-- What is covered by a transaction that was carried out. -/
def Reason.covers (w : World) (notes : Notes) : Reason → List Content
  | .review aggregate alwaysHuman =>
      if scoreToEvent aggregate = .profileReviewCompletedPass ∧ alwaysHuman = false then
        notes.scanned
      else []
  | .event .moderationCleared | .event .moderationAppealUpheld => w.contents
  | .event _ | .request => []

def Reason.isReview : Reason → Bool
  | .review _ _ => true
  | .event _ | .request => false

/-- The world after an operation, with what is kept beside it. -/
def World.record (w : World) (notes : Notes) : (op : Op) → op.Reply → World
  | .commit writes reason, carriedOut =>
      match (carriedOut : Bool) with
      | true => { w with
          covered := reason.covers w notes ++ w.covered
          failedGrant := w.failedGrant ||
            reason.isReview && writes.any Write.grants && notes.failed }
      | false => w
  | _, _ => w

/-! ## Runs -/

inductive Call where
  | patch (body : ProfilePatch)
  | uploadUrl (body : PortfolioUploadRequest) (itemId : String)
  | finalize (itemId : String) (body : PortfolioFinalizeRequest)
  | delete (itemId : String)
  | recheck
  | event (event : BadgeEvent) (now : Int)
  | review (now : Int)
  deriving DecidableEq, Repr

def Call.program (settings : ReviewSettings) : Call → ReviewM Unit
  | .patch body => patchOwnProfile body
  | .uploadUrl body itemId => requestUploadUrl body itemId
  | .finalize itemId body => finalizeUpload itemId body
  | .delete itemId => deletePortfolioItem itemId
  | .recheck => recheckBadge
  | .event received now => handleEvent received now
  | .review now => orchestrateProfileReview settings now

structure Running where
  notes : Notes
  program : ReviewM Unit

structure State where
  world : World
  running : List Running

def State.initial : State := ⟨.initial, []⟩

inductive Event where
  | start (call : Call)
  /-- An upload with a presigned URL. -/
  | put (itemId : String) (object : String)
  /-- A call goes on; `answer` is what the environment answers to its operation. -/
  | advance (index : Nat) (answer : (op : Op) → op.Reply)

def step (settings : ReviewSettings) (s : State) : Event → State
  | .start call => { s with running := s.running ++ [⟨{}, call.program settings⟩] }
  | .put itemId object =>
      { s with world := { s.world with
        objects := Function.update s.world.objects itemId (some object) } }
  | .advance index answer =>
      match s.running[index]? with
      | some ⟨notes, .call op next⟩ =>
          let (reply, w) := s.world.perform op (answer op)
          { world := w.record notes op reply
            running := s.running.set index
              ⟨notes.after (op.object s.world) op reply, next reply⟩ }
      | _ => s

end ColabPlatform.Profiles.Review
