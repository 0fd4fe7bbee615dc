import ColabPlatform.Profiles.ReviewRuns

/-!
# Profile service: what a granted badge covers

The badge covers the text and the images of the profile if nothing is published
behind its back: no edit, image or upload while it is granted, and no review
that grants it with a scan that failed, was left out or is out of date.
-/

namespace ColabPlatform.Profiles.Review

open Foundation Common

/-- The image was part of a passing review, or present at a clearance, as it is now; an image
whose object is gone as it was then. -/
def CoversImage (w : World) (item : PortfolioItem) : Prop :=
  ∃ object, .image item.id object ∈ w.covered ∧
    (w.objects item.id = object ∨ w.objects item.id = none)

/-- All that the profile shows is covered. -/
structure Covers (w : World) : Prop where
  text : .text w.profile.textParts ∈ w.covered
  images : ∀ item ∈ w.items, item.type = .image → CoversImage w item

/-- What is wanted of every state. -/
structure BadgeCovers (w : World) : Prop where
  covers : w.profile.badgeState = .badgeGranted → Covers w
  honest : w.failedGrant = false

/-! ## The condition -/

/-- The review scanned the text that the profile has now. -/
structure TextScanned (settings : ReviewSettings) (w : World) (notes : Notes) : Prop where
  current : notes.textParts = w.profile.textParts
  filled : strip w.profile.textParts ≠ ""
  configured : settings.openaiApiKey ≠ ""

/-- The review read the image as pending, and its object is still the one it scanned. -/
structure ImageScanned (w : World) (notes : Notes) (item : PortfolioItem) : Prop where
  read : ∃ read ∈ notes.items, read.id = item.id ∧ read.due = true
  current : ∀ object, .image item.id object ∈ notes.scanned →
    w.objects item.id = object ∨ w.objects item.id = none

/-- No scan of the review has raised, and it scanned all that is shown now and was not covered
before, without a category for humans. -/
structure UpToDate (settings : ReviewSettings) (w : World) (notes : Notes) : Prop where
  completed : notes.failed = false
  text : .text w.profile.textParts ∈ w.covered ∨
    notes.alwaysHuman = false ∧ TextScanned settings w notes
  images : ∀ item ∈ w.items, item.type = .image → CoversImage w item ∨
    notes.alwaysHuman = false ∧ ImageScanned w notes item

/-- The writes add no image and leave the text as it is, or as it was covered. -/
structure Harmless (w : World) (writes : List Write) : Prop where
  text : ∀ w', w.writeAll writes = some w' → w'.profile.textParts = w.profile.textParts ∨
    .text w'.profile.textParts ∈ w.covered
  images : ∀ item, .insertItem item ∈ writes → item.type ≠ .image

/-- A commit of a review that grants the badge is of one that is up to date, and what is
committed while the badge is granted is harmless. -/
def Op.Orderly (settings : ReviewSettings) (w : World) (notes : Notes) : Op → Prop
  | .commit writes reason =>
      if writes.any Write.grants then reason.isReview = true → UpToDate settings w notes
      else w.profile.badgeState = .badgeGranted → Harmless w writes
  | _ => True

/-- Neither is anything uploaded over an image while the badge is granted that is not covered. -/
def Orderly (settings : ReviewSettings) (s : State) : Event → Prop
  | .start _ => True
  | .put itemId object =>
      s.world.profile.badgeState = .badgeGranted → ∀ item ∈ s.world.items, item.type = .image →
        item.id = itemId → .image itemId (some object) ∈ s.world.covered
  | .advance index _ =>
      match s.running[index]? with
      | some ⟨notes, .call op _⟩ => op.Orderly settings s.world notes
      | _ => True

/-! ## Transactions -/

/-- What a write of items leaves of them. -/
theorem mem_updateItem {items items' : List PortfolioItem} {id : String}
    {f : PortfolioItem → PortfolioItem} (updated : updateItem items id f = some items')
    (same : ∀ item, (f item).id = item.id ∧ (f item).type = item.type) {item : PortfolioItem}
    (mem : item ∈ items') : ∃ old ∈ items, old.id = item.id ∧ old.type = item.type := by
  unfold updateItem at updated
  split at updated
  · obtain rfl := Option.some.inj updated
    obtain ⟨old, stored, rfl⟩ := List.mem_map.1 mem
    refine ⟨old, stored, ?_⟩
    split
    · exact ⟨(same old).1.symm, (same old).2.symm⟩
    · exact ⟨rfl, rfl⟩
  · cases updated

/-- A write concerns the profile and the items only; an item is one of before, or new. -/
structure Writes (w : World) (writes : List Write) (w' : World) : Prop where
  objects : w'.objects = w.objects
  covered : w'.covered = w.covered
  failedGrant : w'.failedGrant = w.failedGrant
  items : ∀ item ∈ w'.items, ∃ old, old.id = item.id ∧ old.type = item.type ∧
    (old ∈ w.items ∨ .insertItem old ∈ writes)
  badge : writes.any Write.grants = false → w'.profile.badgeState = .badgeGranted →
    w.profile.badgeState = .badgeGranted

theorem writes_nil (w : World) : Writes w [] w :=
  ⟨rfl, rfl, rfl, fun item mem => ⟨item, rfl, rfl, Or.inl mem⟩, fun _ granted => granted⟩

theorem write_writes {w w' : World} {write : Write} (written : w.write write = some w') :
    Writes w [write] w' := by
  cases write with
  | profile changes =>
      obtain rfl := Option.some.inj written
      refine ⟨rfl, rfl, rfl, fun item mem => ⟨item, rfl, rfl, Or.inl mem⟩, ?_⟩
      intro other granted
      cases state : changes.badgeState with
      | none => simpa [ProfileRow.update, state] using granted
      | some now =>
          have same : now = .badgeGranted := by simpa [ProfileRow.update, state] using granted
          simp [Write.grants, state, same] at other
  | insertItem item =>
      simp only [World.write] at written
      split at written
      · cases written
      · obtain rfl := Option.some.inj written
        refine ⟨rfl, rfl, rfl, fun other mem => ⟨other, rfl, rfl, ?_⟩, fun _ granted => granted⟩
        simpa using mem
  | updateItem id sizeBytes mime caption position =>
      obtain ⟨items, updated, rfl⟩ := Option.map_eq_some_iff.1 written
      refine ⟨rfl, rfl, rfl, fun item mem => ?_, fun _ granted => granted⟩
      obtain ⟨old, stored, id, type⟩ :=
        mem_updateItem updated (fun _ => ⟨rfl, rfl⟩) mem
      exact ⟨old, id, type, Or.inl stored⟩
  | reviewItem id score status =>
      obtain ⟨items, updated, rfl⟩ := Option.map_eq_some_iff.1 written
      refine ⟨rfl, rfl, rfl, fun item mem => ?_, fun _ granted => granted⟩
      obtain ⟨old, stored, id, type⟩ :=
        mem_updateItem updated (fun _ => ⟨rfl, rfl⟩) mem
      exact ⟨old, id, type, Or.inl stored⟩
  | deleteItem id =>
      obtain rfl := Option.some.inj written
      refine ⟨rfl, rfl, rfl, fun item mem => ?_, fun _ granted => granted⟩
      exact ⟨item, rfl, rfl, Or.inl (List.mem_of_mem_filter mem)⟩

theorem Writes.cons {w middle w' : World} {write : Write} {writes : List Write}
    (first : Writes w [write] middle) (rest : Writes middle writes w') :
    Writes w (write :: writes) w' where
  objects := rest.objects.trans first.objects
  covered := rest.covered.trans first.covered
  failedGrant := rest.failedGrant.trans first.failedGrant
  items := by
    intro item mem
    obtain ⟨old, id, type, stored | inserted⟩ := rest.items item mem
    · obtain ⟨older, id', type', origin⟩ := first.items old stored
      refine ⟨older, id'.trans id, type'.trans type, ?_⟩
      obtain stored | inserted := origin
      · exact Or.inl stored
      · exact Or.inr (List.mem_cons.2 (Or.inl (List.mem_singleton.1 inserted)))
    · exact ⟨old, id, type, Or.inr (List.mem_cons_of_mem _ inserted)⟩
  badge := by
    intro other granted
    simp only [List.any_cons, Bool.or_eq_false_iff] at other
    exact first.badge (by simp [other.1]) (rest.badge other.2 granted)

theorem writeAll_writes {w w' : World} {writes : List Write}
    (written : w.writeAll writes = some w') : Writes w writes w' := by
  induction writes generalizing w with
  | nil =>
      obtain rfl := Option.some.inj written
      exact writes_nil w
  | cons write writes ih =>
      obtain ⟨middle, first, rest⟩ := Option.bind_eq_some_iff.1 written
      exact (write_writes first).cons (ih rest)

/-- The write changes neither the text nor which items there are. -/
def Write.keepsContent : Write → Prop
  | .profile changes =>
      changes.displayName = none ∧ changes.bio = none ∧ changes.obsessedWith = none
  | .reviewItem .. => True
  | .insertItem _ | .updateItem .. | .deleteItem _ => False

theorem textParts_writeAll {w w' : World} {writes : List Write}
    (written : w.writeAll writes = some w') (keep : ∀ write ∈ writes, write.keepsContent) :
    w'.profile.textParts = w.profile.textParts := by
  induction writes generalizing w with
  | nil =>
      obtain rfl := Option.some.inj written
      rfl
  | cons write writes ih =>
      obtain ⟨middle, first, rest⟩ := Option.bind_eq_some_iff.1 written
      rw [ih rest fun other mem => keep other (List.mem_cons_of_mem _ mem)]
      have kept := keep write List.mem_cons_self
      cases write with
      | profile changes =>
          obtain rfl := Option.some.inj first
          obtain ⟨displayName, bio, obsessedWith⟩ := kept
          simp [ProfileRow.update, ProfileRow.textParts, displayName, bio, obsessedWith]
      | reviewItem id score status =>
          obtain ⟨items, -, rfl⟩ := Option.map_eq_some_iff.1 first
          rfl
      | insertItem item => exact kept.elim
      | updateItem id sizeBytes mime caption position => exact kept.elim
      | deleteItem id => exact kept.elim

/-! ## The contract of the calls -/

/-- All that the call has read and that is due was scanned, unless a scan has raised. -/
structure Complete (settings : ReviewSettings) (notes : Notes) : Prop where
  text : notes.failed = false → strip notes.textParts ≠ "" → settings.openaiApiKey ≠ "" →
    .text notes.textParts ∈ notes.scanned
  images : notes.failed = false → ∀ item ∈ notes.items, item.due = true →
    ∃ object, .image item.id object ∈ notes.scanned

/-- What a transaction is committed for when it grants the badge. -/
def Reason.grants (settings : ReviewSettings) (notes : Notes) : Reason → Prop
  | .event received => received = .moderationCleared ∨ received = .moderationAppealUpheld
  | .review aggregate alwaysHuman =>
      scoreToEvent aggregate = .profileReviewCompletedPass ∧
        alwaysHuman = notes.alwaysHuman ∧ Complete settings notes
  | .request => False

/-- A commit that grants the badge has a reason to, and leaves the content alone. -/
def Op.Permitted (settings : ReviewSettings) (notes : Notes) : Op → Prop
  | .commit writes reason => writes.any Write.grants = true →
      (∀ write ∈ writes, write.keepsContent) ∧ reason.grants settings notes
  | _ => True

def contract (settings : ReviewSettings) : Contract Op.Reply Notes where
  pre op notes := op.Permitted settings notes
  post op notes reply notes' := ∃ object, notes' = notes.after object op reply

/-! ## A commit -/

theorem CoversImage.mono {w w' : World} {item item' : PortfolioItem} (h : CoversImage w item)
    (id : item.id = item'.id) (covered : ∀ content ∈ w.covered, content ∈ w'.covered)
    (objects : w'.objects item.id = w.objects item.id ∨ w'.objects item.id = none) :
    CoversImage w' item' := by
  obtain ⟨object, mem, current⟩ := h
  rw [CoversImage, ← id]
  refine ⟨object, covered _ mem, ?_⟩
  obtain same | gone := objects
  · rwa [same]
  · exact Or.inr gone

/-- What a review that is up to date and passes has scanned, or was covered before. -/
theorem UpToDate.covers {settings : ReviewSettings} {w : World} {notes : Notes}
    (h : UpToDate settings w notes) (complete : Complete settings notes)
    {covered : List Content} (old : ∀ content ∈ w.covered, content ∈ covered)
    (new : notes.alwaysHuman = false → ∀ content ∈ notes.scanned, content ∈ covered) :
    Covers { w with covered } where
  text := by
    obtain before | ⟨unreserved, scanned⟩ := h.text
    · exact old _ before
    · refine new unreserved _ ?_
      rw [← scanned.current]
      refine complete.text h.completed ?_ scanned.configured
      rw [scanned.current]
      exact scanned.filled
  images := by
    intro item mem image
    obtain before | ⟨unreserved, scanned⟩ := h.images item mem image
    · exact before.mono rfl old (Or.inl rfl)
    · obtain ⟨read, seen, id, due⟩ := scanned.read
      obtain ⟨object, done⟩ := complete.images h.completed read seen due
      rw [id] at done
      exact ⟨object, new unreserved _ done, scanned.current object done⟩

theorem covers_contents {w : World} {covered : List Content}
    (all : ∀ content ∈ w.contents, content ∈ covered) : Covers { w with covered } where
  text := all _ (by simp [World.contents])
  images := by
    intro item mem image
    refine ⟨w.objects item.id, all _ ?_, Or.inl rfl⟩
    simp only [World.contents, List.mem_cons, List.mem_map, List.mem_filter]
    exact Or.inr ⟨item, ⟨mem, by simpa using image⟩, rfl⟩

/-- A transaction that leaves the content alone leaves a coverage of it. -/
theorem Covers.of_writes {w w' : World} {writes : List Write} {covered : List Content}
    (h : Covers { w with covered }) (written : Writes w writes w')
    (text : w'.profile.textParts = w.profile.textParts ∨ .text w'.profile.textParts ∈ covered)
    (images : ∀ item, .insertItem item ∈ writes → item.type ≠ .image) :
    Covers { w' with covered } where
  text := by
    obtain same | before := text
    · have kept := h.text
      rwa [← same] at kept
    · exact before
  images := by
    intro item mem image
    obtain ⟨old, id, type, stored | inserted⟩ := written.items item mem
    · exact (h.images old stored (type.trans image)).mono id (fun _ mem => mem)
        (Or.inl (congrFun written.objects old.id))
    · exact absurd (type.trans image) (images old inserted)

theorem no_inserts {writes : List Write} (keep : ∀ write ∈ writes, write.keepsContent)
    (item : PortfolioItem) (inserted : .insertItem item ∈ writes) : item.type ≠ .image :=
  (keep _ inserted).elim

theorem covers_record {w : World} {notes : Notes} {writes : List Write} {reason : Reason}
    (h : Covers { w with covered := reason.covers w notes ++ w.covered }) :
    Covers (w.record notes (.commit writes reason) true) := ⟨h.text, h.images⟩

theorem badgeCovers_commit {settings : ReviewSettings} {w w' : World} {notes : Notes}
    {writes : List Write} {reason : Reason} (h : BadgeCovers w)
    (written : w.writeAll writes = some w')
    (permitted : (Op.commit writes reason).Permitted settings notes)
    (orderly : (Op.commit writes reason).Orderly settings w notes) :
    BadgeCovers (w'.record notes (.commit writes reason) true) := by
  have effect := writeAll_writes written
  cases grants : writes.any Write.grants with
  | true =>
      obtain ⟨keep, why⟩ := permitted grants
      have same := textParts_writeAll written keep
      cases reason with
      | request => exact why.elim
      | event received =>
          refine ⟨fun _ => covers_record (covers_contents fun content mem => ?_), ?_⟩
          · refine List.mem_append_left _ ?_
            obtain rfl | rfl := why <;> exact mem
          · simp [World.record, Reason.isReview, effect.failedGrant, h.honest]
      | review aggregate alwaysHuman =>
          obtain ⟨passes, human, complete⟩ := why
          have upToDate : UpToDate settings w notes := by
            simp only [Op.Orderly, grants, if_true] at orderly
            exact orderly rfl
          refine ⟨fun _ => covers_record ?_, ?_⟩
          · refine Covers.of_writes (upToDate.covers complete (fun content mem => ?_)
              fun unreserved content mem => ?_) effect (Or.inl same) (no_inserts keep)
            · rw [← effect.covered] at mem
              exact List.mem_append_right _ mem
            · refine List.mem_append_left _ ?_
              simpa [Reason.covers, passes, human, unreserved] using mem
          · simp [World.record, effect.failedGrant, h.honest, upToDate.completed]
  | false =>
      refine ⟨fun granted => covers_record ?_, ?_⟩
      · have before := effect.badge grants granted
        have harmless : Harmless w writes := by
          simp only [Op.Orderly, grants, Bool.false_eq_true, if_false] at orderly
          exact orderly before
        have kept : Covers { w with covered := reason.covers w' notes ++ w'.covered } := by
          have old : ∀ content ∈ w.covered, content ∈ reason.covers w' notes ++ w'.covered := by
            intro content mem
            rw [effect.covered]
            exact List.mem_append_right _ mem
          exact ⟨old _ (h.covers before).text, fun item mem image =>
            ((h.covers before).images item mem image).mono rfl old (Or.inl rfl)⟩
        refine kept.of_writes effect ?_ harmless.images
        obtain same | covered := harmless.text w' written
        · exact Or.inl same
        · refine Or.inr (List.mem_append_right _ ?_)
          rwa [effect.covered]
      · simp [World.record, grants, effect.failedGrant, h.honest]

/-- An operation that commits nothing changes at most the bucket, by removing an object. -/
theorem BadgeCovers.deleted {w : World} (h : BadgeCovers w) (id : String) :
    BadgeCovers { w with objects := Function.update w.objects id none } where
  covers := by
    intro granted
    refine ⟨(h.covers granted).text, fun item mem image => ?_⟩
    refine ((h.covers granted).images item mem image).mono rfl (fun _ mem => mem) ?_
    by_cases same : item.id = id
    · exact Or.inr (by simp [same])
    · exact Or.inl (by simp [Function.update_of_ne same])
  honest := h.honest

theorem badgeCovers_perform {settings : ReviewSettings} {w : World} {notes : Notes} {op : Op}
    (h : BadgeCovers w) (permitted : op.Permitted settings notes)
    (orderly : op.Orderly settings w notes) (answer : op.Reply) :
    BadgeCovers ((w.perform op answer).2.record notes op (w.perform op answer).1) := by
  cases op with
  | commit writes reason =>
      cases accepted : (answer : Bool) with
      | false => simpa [World.perform, World.record, accepted] using h
      | true =>
          cases written : w.writeAll writes with
          | none => simpa [World.perform, World.record, accepted, written] using h
          | some w' =>
              simpa [World.perform, accepted, written] using
                badgeCovers_commit h written permitted orderly
  | deleteObject id =>
      cases done : (answer : Bool) with
      | false => simpa [World.perform, World.record, done] using h
      | true => simpa [World.perform, World.record, done] using h.deleted id
  | getProfile | portfolioItems | portfolioItem | nameTaken | otherHashes | scanText | scanImage
  | headObject | enqueueReview | submit => exact h

end ColabPlatform.Profiles.Review
