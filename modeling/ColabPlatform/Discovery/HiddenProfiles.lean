import ColabPlatform.Discovery.Feed

/-!
# Hidden profiles in the feed

Nothing on the way of a page looks at the rows of `hide_3mo`.  A hidden profile
is kept out of the feed as long as neither the candidates nor the cache have it
on the page that a request takes, and no request that is under way has it
when the hide returns.
-/

namespace ColabPlatform.Discovery

open Foundation

/-! ## What is hidden, and what is answered -/

namespace FeedState

/-- A request that hides the profile has returned, and neither has its time passed nor has
the hide been removed. -/
def hidden (s : FeedState) (userId profileId : String) : Bool :=
  (s.hides (userId, profileId)).any fun row => row.returned && s.now < row.hiddenUntil

/-- The response of `build_feed` that a step returns, and its viewer. -/
def response (s : FeedState) : FeedEvent → Option (String × FeedResponse)
  | .feed userId _ _ _ _ _ allowed => if allowed then none else some (userId, ⟨[], none⟩)
  | .respond index cards => s.feeds[index]?.bind fun call => match call.phase with
      | .hydrating profileIds =>
          if ∀ card ∈ cards, card ∈ profileIds then some (call.key.userId, call.respond cards)
          else none
      | _ => none
  | _ => none

/-- No response shows a profile that is hidden from its viewer. -/
def Clean (s : FeedState) (e : FeedEvent) : Prop :=
  ∀ answer ∈ s.response e, ∀ profileId ∈ answer.2.profiles, s.hidden answer.1 profileId = false

end FeedState

instance (s : FeedState) (e : FeedEvent) : Decidable (s.Clean e) :=
  inferInstanceAs (Decidable (∀ answer ∈ s.response e, ∀ profileId ∈ answer.2.profiles,
    s.hidden answer.1 profileId = false))

/-- The profiles that a call will ask cards for. -/
def FeedCall.pending (call : FeedCall) : List String :=
  match call.phase with
  | .filling scored => call.page scored
  | .hydrating profileIds => profileIds
  | _ => []

/-- The steps that complete a call whose page is settled. -/
def FeedEvent.completes : FeedEvent → Bool
  | .fill _ => true
  | .respond _ _ => true
  | _ => false

namespace FeedState

/-- No request of the user that is under way has the profile that request `index` hides. -/
def Unawaited (s : FeedState) (index : Nat) (call : ChangeCall) : Prop :=
  ∀ profileId hiddenUntil, call.change = .hide profileId hiddenUntil →
    ((s.hides (call.userId, profileId)).any fun row =>
      row.writers.contains index && s.now < row.hiddenUntil) = true →
    ∀ feed ∈ s.feeds, feed.key.userId = call.userId → profileId ∉ feed.pending

/-- The page that a request takes has no hidden profile, and no request has a profile on
its page that is hidden meanwhile. -/
def keepsOut (s : FeedState) : FeedEvent → Prop
  | .read index => ∀ call, s.feeds[index]? = some call → call.phase = .reading →
      ∀ profileId ∈ s.cachedPage call, s.hidden call.key.userId profileId = false
  | .query index reached => ∀ call, s.feeds[index]? = some call → call.phase = .querying →
      ∀ profileId ∈ call.page (s.ranked call reached),
        s.hidden call.key.userId profileId = false
  | .list index => ∀ call, s.changes[index]? = some call → call.phase = .listing →
      s.tracked call.userId = [] → s.Unawaited index call
  | .delete index => ∀ call, s.changes[index]? = some call →
      ∀ keys, call.phase = .deleting keys → s.Unawaited index call
  | _ => True

/-! ## Pages under way -/

/-- No request has a hidden profile on its page. -/
def PagesClean (s : FeedState) : Prop :=
  ∀ call ∈ s.feeds, ∀ profileId ∈ call.pending, s.hidden call.key.userId profileId = false

theorem hidden_congr {s s' : FeedState} (hides : s'.hides = s.hides) (now : s'.now = s.now)
    (userId profileId : String) : s'.hidden userId profileId = s.hidden userId profileId := by
  rw [hidden, hides, now]
  rfl

/-- A step that hides nothing leaves the pages clean. -/
theorem PagesClean.of_hidden {s s' : FeedState} (clean : s.PagesClean) (feeds : s'.feeds = s.feeds)
    (fewer : ∀ userId profileId, s'.hidden userId profileId = true →
      s.hidden userId profileId = true) : s'.PagesClean := by
  intro call mem profileId pending
  rw [feeds] at mem
  have before := clean call mem profileId pending
  by_contra now
  rw [fewer _ _ (by simpa using now)] at before
  cases before

theorem PagesClean.of_congr {s s' : FeedState} (clean : s.PagesClean) (feeds : s'.feeds = s.feeds)
    (hides : s'.hides = s.hides) (now : s'.now = s.now) : s'.PagesClean :=
  clean.of_hidden feeds fun userId profileId now' => by
    rwa [hidden_congr hides now] at now'

/-- A call goes on: the pages stay clean if its own page is. -/
theorem PagesClean.set_iff {s s' : FeedState} (clean : s.PagesClean) {index : Nat}
    {old new : FeedCall} (found : s.feeds[index]? = some old)
    (feeds : s'.feeds = s.feeds.set index new) (hides : s'.hides = s.hides)
    (now : s'.now = s.now) :
    s'.PagesClean ↔
      ∀ profileId ∈ new.pending, s.hidden new.key.userId profileId = false := by
  unfold PagesClean
  simp only [hidden_congr hides now, feeds]
  constructor
  · intro after
    exact after new (mem_set_of_found found)
  · intro own
    exact forall_mem_set own clean

/-! ## Completing the requests -/

section Completing

variable {hash : FeedFilters → String} {s : FeedState}

theorem clean_of_pagesClean (clean : s.PagesClean) (e : FeedEvent) : s.Clean e := by
  intro answer answered profileId shown
  cases e with
  | feed userId viewerProfileId mode cursor pageSize filters allowed =>
      simp only [response] at answered
      split_ifs at answered
      · cases answered
      · obtain rfl := Option.some.inj answered
        cases shown
  | respond index cards =>
      obtain ⟨call, found, answered⟩ := Option.bind_eq_some_iff.1 answered
      split at answered
      case h_1 profileIds phase =>
        split_ifs at answered with asked
        obtain rfl := Option.some.inj answered
        have pending : profileId ∈ call.pending := by
          rw [FeedCall.pending, phase]
          exact asked profileId shown
        exact clean call (List.mem_of_getElem? found) profileId pending
      case h_2 => cases answered
  | _ => cases answered

theorem pagesClean_fill (clean : s.PagesClean) (index : Nat) :
    (feedStep hash s (.fill index)).PagesClean := by
  unfold feedStep onFeed
  dsimp only
  cases found : s.feeds[index]? with
  | none => exact clean
  | some call =>
      dsimp only
      split
      case h_1 scored phase =>
        have before := clean call (List.mem_of_getElem? found)
        rw [FeedCall.pending, phase] at before
        exact Iff.mpr (clean.set_iff found rfl rfl rfl) before
      case h_2 => exact clean

theorem pagesClean_respond (clean : s.PagesClean) (index : Nat) (cards : List String) :
    (feedStep hash s (.respond index cards)).PagesClean := by
  unfold feedStep onFeed
  dsimp only
  cases found : s.feeds[index]? with
  | none => exact clean
  | some call =>
      dsimp only
      split
      case h_1 profileIds phase =>
        split_ifs
        · refine Iff.mpr (clean.set_iff found rfl rfl rfl) fun profileId pending => ?_
          cases pending
        · exact clean
      case h_2 => exact clean

theorem guarded_of_pagesClean (clean : s.PagesClean) {more : List FeedEvent}
    (completes : ∀ e ∈ more, e.completes = true) : Guarded (feedStep hash) Clean s more := by
  induction more generalizing s with
  | nil => trivial
  | cons e more ih =>
      rw [List.forall_mem_cons] at completes
      refine ⟨clean_of_pagesClean clean e, ih ?_ completes.2⟩
      cases e with
      | fill index => exact pagesClean_fill clean index
      | respond index cards => exact pagesClean_respond clean index cards
      | _ => cases completes.1

/-- A call with its page is answered as soon as profile-svc has the card. -/
theorem hidden_of_hydrating {s : FeedState} {index : Nat} {call : FeedCall}
    {profileIds : List String} (found : s.feeds[index]? = some call)
    (phase : call.phase = .hydrating profileIds) {profileId : String}
    (pending : profileId ∈ profileIds) (clean : s.Clean (.respond index [profileId])) :
    s.hidden call.key.userId profileId = false := by
  have shown : s.response (.respond index [profileId]) =
      some (call.key.userId, call.respond [profileId]) := by
    simp [response, found, phase, pending]
  exact clean _ shown profileId List.mem_cons_self

/-- Pages are clean exactly when no way of completing the requests shows a hidden profile. -/
theorem pagesClean_iff : s.PagesClean ↔
    ∀ more : List FeedEvent, (∀ e ∈ more, e.completes = true) →
      Guarded (feedStep hash) Clean s more := by
  constructor
  · intro clean more completes
    exact guarded_of_pagesClean clean completes
  · intro guarded call mem profileId pending
    obtain ⟨index, found⟩ := List.mem_iff_getElem?.1 mem
    unfold FeedCall.pending at pending
    split at pending
    case h_1 scored phase =>
      have answered := (guarded [.fill index, .respond index [profileId]]
        (by simp [FeedEvent.completes])).2.1
      have filled : feedStep hash s (.fill index) = s.fill index call scored := by
        unfold feedStep
        simp [onFeed, found, phase]
      rw [filled] at answered
      have inside := (List.getElem?_eq_some_iff.1 found).1
      exact @hidden_of_hydrating (s.fill index call scored) index _ _
        (List.getElem?_set_self inside) rfl profileId pending answered
    case h_2 profileIds phase =>
      have answered := (guarded [.respond index [profileId]] (by simp [FeedEvent.completes])).1
      exact hidden_of_hydrating found phase pending answered
    case h_3 => cases pending

end Completing

/-! ## Steps -/

section Steps

variable {hash : FeedFilters → String} {s : FeedState} {index : Nat}

/-- A step that only moves a request to a phase in which it has no page. -/
theorem pagesClean_of_idle (clean : s.PagesClean) {s' : FeedState} {old new : FeedCall}
    (found : s.feeds[index]? = some old) (feeds : s'.feeds = s.feeds.set index new)
    (hides : s'.hides = s.hides) (now : s'.now = s.now) (idle : new.pending = []) :
    s'.PagesClean := by
  refine Iff.mpr (clean.set_iff found feeds hides now) ?_
  rw [idle]
  simp

theorem pagesClean_enterFeed (clean : s.PagesClean) (userId viewerProfileId mode : String)
    (cursor : Option FeedCursor) (pageSize : Nat) (filters : FeedFilters) (allowed : Bool) :
    (s.enterFeed hash userId viewerProfileId mode cursor pageSize filters allowed).PagesClean := by
  refine forall_mem_concat ?_ clean
  intro profileId pending
  cases allowed <;> cases pending

/-- What the return of a hide adds to what is hidden. -/
theorem hidden_returnChange {call : ChangeCall} {profileId : String} {hiddenUntil : Int}
    (change : call.change = .hide profileId hiddenUntil) (userId other : String) :
    (s.returnChange index call).hidden userId other =
      (s.hidden userId other || (decide ((userId, other) = (call.userId, profileId)) &&
        (s.hides (call.userId, profileId)).any fun row =>
          row.writers.contains index && s.now < row.hiddenUntil)) := by
  unfold returnChange hidden
  rw [change]
  dsimp only
  by_cases same : (userId, other) = (call.userId, profileId)
  · rw [same, Function.update_self]
    cases s.hides (call.userId, profileId) with
    | none => simp
    | some row =>
        simp only [Option.map_some, Option.any_some, decide_true, Bool.true_and,
          Bool.and_or_distrib_right]
        rfl
  · rw [Function.update_of_ne same, decide_eq_false same, Bool.false_and, Bool.or_false]
    rfl

/-- A request or an event that returns. -/
theorem pagesClean_returnChange_iff (clean : s.PagesClean) (call : ChangeCall) :
    (s.returnChange index call).PagesClean ↔ s.Unawaited index call := by
  have feeds : (s.returnChange index call).feeds = s.feeds := by
    unfold returnChange
    split <;> rfl
  cases change : call.change with
  | hide profileId hiddenUntil =>
      unfold PagesClean Unawaited
      simp only [feeds, hidden_returnChange change]
      constructor
      · intro after _ _ same late feed mem own pending
        obtain ⟨rfl, rfl⟩ := Change.hide.inj (change.symm.trans same)
        have quiet := after feed mem profileId pending
        rw [own, late] at quiet
        simp at quiet
      · intro unawaited feed mem other pending
        rw [clean feed mem other pending, Bool.false_or]
        by_contra now
        simp only [Bool.not_eq_false, Bool.and_eq_true, decide_eq_true_eq, Prod.mk.injEq] at now
        obtain ⟨⟨own, rfl⟩, late⟩ := now
        exact unawaited other hiddenUntil change late feed mem own pending
  | unhide profileId =>
      refine iff_of_true (clean.of_congr feeds ?_ ?_) fun _ _ hide => ?_
      · simp [returnChange, change, setChange]
      · simp [returnChange, change, setChange]
      · rw [change] at hide
        cases hide
  | event =>
      refine iff_of_true (clean.of_congr feeds ?_ ?_) fun _ _ hide => ?_
      · simp [returnChange, change, setChange]
      · simp [returnChange, change, setChange]
      · rw [change] at hide
        cases hide

/-- Writing a row hides nothing before the request returns. -/
theorem hidden_write {call : ChangeCall} {userId profileId : String}
    (now : (s.write index call).hidden userId profileId = true) :
    s.hidden userId profileId = true := by
  unfold write hidden at now
  unfold hidden
  split at now
  case h_1 hiddenProfile hiddenUntil change =>
    dsimp only [setChange] at now
    by_cases same : (userId, profileId) = (call.userId, hiddenProfile)
    · rw [same, Function.update_self] at now
      rw [same]
      unfold hideRow at now
      cases stored : s.hides (call.userId, hiddenProfile) with
      | none => simp [stored] at now
      | some row =>
          by_cases lasting : s.now < row.hiddenUntil
          · simp only [stored, lasting, if_true, Option.any_some, Bool.and_eq_true] at now
            simp [now.1, lasting]
          · simp [stored, lasting] at now
    · rwa [Function.update_of_ne same] at now
  case h_2 shownProfile change =>
    dsimp only [setChange] at now
    by_cases same : (userId, profileId) = (call.userId, shownProfile)
    · rw [same, Function.update_self] at now
      cases now
    · rwa [Function.update_of_ne same] at now
  case h_3 => exact now

theorem pagesClean_setFeed_iff (clean : s.PagesClean) {call : FeedCall}
    (found : s.feeds[index]? = some call) (phase : FeedPhase) :
    (s.setFeed index call phase).PagesClean ↔
      ∀ profileId ∈ FeedCall.pending { call with phase },
        s.hidden call.key.userId profileId = false :=
  @PagesClean.set_iff s (s.setFeed index call phase) clean index call _ found rfl rfl rfl

/-- A request takes the page that is cached. -/
theorem pagesClean_read_iff (clean : s.PagesClean) {call : FeedCall}
    (found : s.feeds[index]? = some call) :
    (s.setFeed index call (.hydrating (s.cachedPage call))).PagesClean ↔
      ∀ profileId ∈ s.cachedPage call, s.hidden call.key.userId profileId = false :=
  pagesClean_setFeed_iff clean found _

theorem hidden_elapse (time : Nat) {userId profileId : String}
    (now : hidden { s with now := s.now + time } userId profileId = true) :
    s.hidden userId profileId = true := by
  unfold hidden at now ⊢
  cases stored : s.hides (userId, profileId) with
  | none =>
      simp only [stored] at now
      cases now
  | some row =>
      simp only [stored, Option.any_some, Bool.and_eq_true, decide_eq_true_eq] at now ⊢
      exact ⟨now.1, by omega⟩

theorem page_nil (call : FeedCall) : call.page [] = [] := by
  simp [FeedCall.page, slice]

/-- A request takes its page from the candidates. -/
theorem pagesClean_query_iff (clean : s.PagesClean) {call : FeedCall}
    (found : s.feeds[index]? = some call) (reached : Bool) :
    (s.query index call reached).PagesClean ↔
      ∀ profileId ∈ call.page (s.ranked call reached),
        s.hidden call.key.userId profileId = false := by
  unfold query
  by_cases none : s.ranked call reached = []
  · simp only [none, ne_eq, not_true_eq_false, if_false, page_nil]
    exact pagesClean_setFeed_iff clean found _
  · simp only [none, ne_eq, not_false_eq_true, if_true]
    exact pagesClean_setFeed_iff clean found _

theorem pagesClean_step_iff (e : FeedEvent) (clean : s.PagesClean) :
    (feedStep hash s e).PagesClean ↔ s.keepsOut e := by
  cases e with
  | feed userId viewerProfileId mode cursor pageSize filters allowed =>
      exact iff_of_true (pagesClean_enterFeed clean userId viewerProfileId mode cursor pageSize
        filters allowed) trivial
  | look index =>
      refine iff_of_true ?_ trivial
      unfold feedStep onFeed
      cases found : s.feeds[index]? with
      | none => simpa [found] using clean
      | some call =>
          cases phase : call.phase with
          | looking =>
              simp only [found, phase, Option.getD_some]
              refine pagesClean_of_idle clean found rfl rfl rfl ?_
              unfold FeedCall.pending
              split_ifs <;> rfl
          | _ => simpa [found, phase] using clean
  | read index =>
      unfold feedStep onFeed keepsOut
      cases found : s.feeds[index]? with
      | none => simpa [found] using clean
      | some call =>
          cases phase : call.phase with
          | reading =>
              simpa [found, phase] using pagesClean_read_iff clean found
          | _ => simpa [found, phase] using clean
  | query index reached =>
      unfold feedStep onFeed keepsOut
      cases found : s.feeds[index]? with
      | none => simpa [found] using clean
      | some call =>
          cases phase : call.phase with
          | querying =>
              simpa [found, phase] using pagesClean_query_iff clean found reached
          | _ => simpa [found, phase] using clean
  | fill index => exact iff_of_true (pagesClean_fill clean index) trivial
  | respond index cards => exact iff_of_true (pagesClean_respond clean index cards) trivial
  | write index =>
      refine iff_of_true ?_ trivial
      unfold feedStep onChange
      cases found : s.changes[index]? with
      | none => simpa [found] using clean
      | some call =>
          cases phase : call.phase with
          | writing =>
              simp only [found, phase, Option.getD_some]
              refine clean.of_hidden ?_ fun _ _ => hidden_write
              unfold write
              split <;> rfl
          | _ => simpa [found, phase] using clean
  | list index =>
      unfold feedStep onChange keepsOut
      cases found : s.changes[index]? with
      | none => simpa [found] using clean
      | some call =>
          cases phase : call.phase with
          | listing =>
              by_cases tracked : s.tracked call.userId = []
              · simpa [found, phase, FeedState.list, tracked] using
                  pagesClean_returnChange_iff clean call
              · have same : (s.setChange index call
                    (.deleting (s.tracked call.userId))).PagesClean := clean.of_congr rfl rfl rfl
                simpa [found, phase, FeedState.list, tracked] using same
          | _ => simpa [found, phase] using clean
  | delete index =>
      unfold feedStep onChange keepsOut
      cases found : s.changes[index]? with
      | none => simpa [found] using clean
      | some call =>
          cases phase : call.phase with
          | deleting keys =>
              have after : (s.delete index call keys).PagesClean ↔ s.Unawaited index call :=
                Iff.trans ⟨fun h => h.of_congr rfl rfl rfl, fun h => h.of_congr rfl rfl rfl⟩
                  (pagesClean_returnChange_iff clean call)
              simpa [found, phase] using after
          | _ => simpa [found, phase] using clean
  | elapse time =>
      exact iff_of_true (clean.of_hidden rfl fun _ _ => hidden_elapse time) trivial
  | _ => exact iff_of_true (clean.of_congr rfl rfl rfl) trivial

end Steps

theorem pagesClean_start (now : Int) (profiles : String → Option ProfileRow)
    (scores : List MatchScore) : (start now profiles scores).PagesClean := by
  intro call mem
  cases mem

end FeedState

/-! ## Runs -/

end ColabPlatform.Discovery
