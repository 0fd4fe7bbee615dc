import ColabPlatform.Discovery.FeedCap
import Mathlib.Algebra.Order.Field.Rat
import Mathlib.Data.List.Sort

/-!
# The feed

`build_feed` takes a page from the cache of the viewer or from matching-svc and
asks profile-svc for the cards.  Hiding a profile writes a row and deletes the
viewer's cached pages.  The requests are interleaved at their queries and
their commands to Redis.
-/

namespace ColabPlatform.Discovery

open Foundation

/-! ## Profiles and filters -/

def days (count : Int) : Int := count * microsecondsPerDay

/-- What the query of `get_candidates` reads of a profile. -/
structure ProfileRow where
  lastActiveAt : Option Int
  badgeState : String
  isDeleted : Bool
  experienceLevel : Option Int
  openToRemote : Bool
  vocationCategories : List String
  deriving DecidableEq, Repr

structure MatchScore where
  fromProfileId : String
  toProfileId : String
  score : ℚ
  deriving DecidableEq, Repr

structure FeedFilters where
  vocationCategories : List String := []
  radiusKm : Option ℚ := none
  anywhere : Bool := false
  experienceLevelMin : Option Int := none
  experienceLevelMax : Option Int := none
  openToRemote : Option Bool := none
  lastActiveDays : Int := 90
  minSuccessfulCollabs : Int := 0
  deriving DecidableEq, Repr

/-- The `WHERE` clauses on a profile; what is `NULL` passes no comparison. -/
def FeedFilters.admits (filters : FeedFilters) (now : Int) (profile : ProfileRow) : Bool :=
  profile.lastActiveAt.any (fun active => now - days filters.lastActiveDays < active) &&
  profile.badgeState = "badge_granted" && !profile.isDeleted &&
  (filters.vocationCategories.isEmpty ||
    profile.vocationCategories.any fun category => category ∈ filters.vocationCategories) &&
  filters.experienceLevelMin.all (fun least => profile.experienceLevel.any (least ≤ ·)) &&
  filters.experienceLevelMax.all (fun most => profile.experienceLevel.any (· ≤ most)) &&
  filters.openToRemote.all (profile.openToRemote = ·)

/-! ## Ranked pages -/

/-- The members of a sorted set with their scores. -/
abbrev SortedSet := List (String × ℚ)

/-- `ZADD … NX` -/
def SortedSet.addNx (set : SortedSet) (entry : String × ℚ) : SortedSet :=
  if entry.1 ∈ set.map Prod.fst then set else set ++ [entry]

/-- An index of a list of this length; negative ones count from its end. -/
def clampIndex (length : Nat) (index : Int) : Nat :=
  if index < 0 then (index + length).toNat else min index.toNat length

/-- `items[start:stop]` -/
def slice {α : Type} (items : List α) (start stop : Int) : List α :=
  (items.drop (clampIndex items.length start)).take
    (clampIndex items.length stop - clampIndex items.length start)

/-- `ZRANGE … REV` -/
def SortedSet.rangeRev (set : SortedSet) (start stop : Int) : List String :=
  let members := (set.insertionSort fun a b => b.2 < a.2 ∨ a.2 = b.2 ∧ b.1 ≤ a.1).map Prod.fst
  let last := if stop < 0 then stop + members.length else stop
  (members.take (last + 1).toNat).drop (clampIndex members.length start)

/-! ## Requests -/

/-- `feed:{user_id}:{mode}:{filter_hash}` -/
structure FeedKey where
  userId : String
  mode : String
  filterHash : String
  deriving DecidableEq, Repr

/-- A cursor as `decode_cursor` gives it, with the number of its day. -/
structure FeedCursor where
  fh : String
  o : Int
  d : Int
  deriving DecidableEq, Repr

/-- The profiles of the cards. -/
structure FeedResponse where
  profiles : List String
  nextCursor : Option FeedCursor
  deriving DecidableEq, Repr

/-- What a call of `build_feed` waits for. -/
inductive FeedPhase where
  | looking
  | reading
  | querying
  | filling (scored : List (String × ℚ))
  | hydrating (profileIds : List String)
  | served (response : FeedResponse)
  deriving DecidableEq, Repr

structure FeedCall where
  key : FeedKey
  viewerProfileId : String
  filters : FeedFilters
  offset : Int
  pageSize : Nat
  today : Int
  phase : FeedPhase
  deriving DecidableEq, Repr

namespace FeedCall

/-- `scored[offset : offset + page_size]` -/
def page (call : FeedCall) (scored : List (String × ℚ)) : List String :=
  (slice scored call.offset (call.offset + call.pageSize)).map Prod.fst

def respond (call : FeedCall) (cards : List String) : FeedResponse where
  profiles := cards
  nextCursor := if cards ≠ [] ∧ cards.length = call.pageSize then
    some ⟨call.key.filterHash, call.offset + cards.length, call.today⟩ else none

end FeedCall

/-- What a request or an event changes before it deletes the cached pages of a user. -/
inductive Change where
  | hide (profileId : String) (hiddenUntil : Int)
  | unhide (profileId : String)
  | event
  deriving DecidableEq, Repr

inductive ChangePhase where
  | writing
  | listing
  | deleting (keys : List FeedKey)
  | returned
  deriving DecidableEq, Repr

structure ChangeCall where
  userId : String
  change : Change
  phase : ChangePhase
  deriving DecidableEq, Repr

/-- A row of `hide_3mo`, and for the specification the requests that wrote it and whether
one of them has returned. -/
structure HideRow where
  hiddenUntil : Int
  writers : List Nat
  returned : Bool
  deriving DecidableEq, Repr

structure FeedState where
  now : Int
  profiles : String → Option ProfileRow
  scores : List MatchScore
  hides : String × String → Option HideRow
  cache : KeyStore FeedKey SortedSet
  tracked : String → List FeedKey
  feeds : List FeedCall
  changes : List ChangeCall

namespace FeedState

/-- No request has been made, and nothing is cached or hidden. -/
def start (now : Int) (profiles : String → Option ProfileRow) (scores : List MatchScore) :
    FeedState where
  now := now
  profiles := profiles
  scores := scores
  hides := fun _ => none
  cache := .empty
  tracked := fun _ => []
  feeds := []
  changes := []

def today (s : FeedState) : Int := s.now / microsecondsPerDay

/-! ## Feed requests -/

/-- `get_candidates` with no offset: hidden profiles are not left out. -/
def getCandidates (s : FeedState) (viewerProfileId : String) (filters : FeedFilters)
    (limit : Nat) : List (String × ℚ) :=
  let rows := s.scores.filter fun row => row.fromProfileId = viewerProfileId &&
    (s.profiles row.toProfileId).any (filters.admits s.now)
  ((rows.map fun row => (row.toProfileId, row.score)).insertionSort fun a b => b.2 ≤ a.2).take
    limit

/-- `build_feed` up to the cache, with the cursor as it is decoded and the answer about the
daily cap. -/
def enterFeed (hash : FeedFilters → String) (userId viewerProfileId mode : String)
    (cursor : Option FeedCursor) (pageSize : Nat) (filters : FeedFilters) (allowed : Bool)
    (s : FeedState) : FeedState :=
  let offset := match cursor with
    | some cursor => if cursor.fh ≠ hash filters ∨ cursor.d ≠ s.today then 0 else cursor.o
    | none => 0
  { s with feeds := s.feeds ++
    [{ key := ⟨userId, mode, hash filters⟩
       viewerProfileId, filters, offset, pageSize
       today := s.today
       phase := if allowed then .looking else .served ⟨[], none⟩ }] }

def setFeed (s : FeedState) (index : Nat) (call : FeedCall) (phase : FeedPhase) : FeedState :=
  { s with feeds := s.feeds.set index { call with phase } }

/-- `EXISTS` -/
def look (s : FeedState) (index : Nat) (call : FeedCall) : FeedState :=
  s.setFeed index call (if s.cache.exists? s.now call.key then .reading else .querying)

/-- The members that the cached page has. -/
def cachedPage (s : FeedState) (call : FeedCall) : List String :=
  ((s.cache.get s.now call.key).getD []).rangeRev call.offset (call.offset + call.pageSize - 1)

/-- The answer of matching-svc, empty if it fails. -/
def ranked (s : FeedState) (call : FeedCall) (reached : Bool) : List (String × ℚ) :=
  if reached then s.getCandidates call.viewerProfileId call.filters 200 else []

def query (s : FeedState) (index : Nat) (call : FeedCall) (reached : Bool) : FeedState :=
  let scored := s.ranked call reached
  s.setFeed index call (if scored ≠ [] then .filling scored else .hydrating [])

def feedTtl : Int := 30 * microsecondsPerSecond

/-- `set_feed_page` -/
def fill (s : FeedState) (index : Nat) (call : FeedCall) (scored : List (String × ℚ)) : FeedState :=
  let set := scored.foldl SortedSet.addNx ((s.cache.get s.now call.key).getD [])
  let keys := s.tracked call.key.userId
  { s.setFeed index call (.hydrating (call.page scored)) with
    cache := s.cache.setEx s.now feedTtl call.key set
    tracked := Function.update s.tracked call.key.userId
      (if call.key ∈ keys then keys else keys ++ [call.key]) }

/-! ## Requests that hide and unhide -/

def enterChange (userId : String) (change : Change) (s : FeedState) : FeedState :=
  { s with changes := s.changes ++
    [⟨userId, change, match change with | .event => .listing | _ => .writing⟩] }

def setChange (s : FeedState) (index : Nat) (call : ChangeCall) (phase : ChangePhase) : FeedState :=
  { s with changes := s.changes.set index { call with phase } }

/-- The row that request `index` upserts.  The time of one that has passed starts anew. -/
def hideRow (s : FeedState) (index : Nat) (key : String × String) (hiddenUntil : Int) : HideRow :=
  match s.hides key with
  | some row =>
      if s.now < row.hiddenUntil then
        { row with hiddenUntil, writers := index :: row.writers }
      else ⟨hiddenUntil, [index], false⟩
  | none => ⟨hiddenUntil, [index], false⟩

/-- The commit of the row, or of its deletion. -/
def write (s : FeedState) (index : Nat) (call : ChangeCall) : FeedState :=
  match call.change with
  | .hide profileId hiddenUntil =>
      { s.setChange index call .listing with
        hides := Function.update s.hides (call.userId, profileId)
          (some (s.hideRow index (call.userId, profileId) hiddenUntil)) }
  | .unhide profileId =>
      { s.setChange index call .listing with
        hides := Function.update s.hides (call.userId, profileId) none }
  | .event => s

/-- The request returns; what it has hidden counts as hidden from now on. -/
def returnChange (s : FeedState) (index : Nat) (call : ChangeCall) : FeedState :=
  match call.change with
  | .hide profileId _ =>
      { s.setChange index call .returned with
        hides := Function.update s.hides (call.userId, profileId)
          ((s.hides (call.userId, profileId)).map fun row =>
            { row with returned := row.returned || row.writers.contains index }) }
  | _ => s.setChange index call .returned

/-- `SMEMBERS` of the keys that are tracked for the user -/
def list (s : FeedState) (index : Nat) (call : ChangeCall) : FeedState :=
  let keys := s.tracked call.userId
  if keys ≠ [] then s.setChange index call (.deleting keys) else s.returnChange index call

def delete (s : FeedState) (index : Nat) (call : ChangeCall) (keys : List FeedKey) : FeedState :=
  { s.returnChange index call with
    cache := keys.foldl KeyStore.delete s.cache
    tracked := Function.update s.tracked call.userId [] }

/-! ## Ranking -/

/-- The scores that a rerank run upserts for a profile. -/
def rerank (s : FeedState) (fromProfileId : String) (upserts : List (String × ℚ)) : FeedState :=
  { s with scores := upserts.foldl (fun scores upsert =>
      scores.filter (fun row => ¬ (row.fromProfileId = fromProfileId ∧ row.toProfileId = upsert.1))
        ++ [⟨fromProfileId, upsert.1, upsert.2⟩]) s.scores }

end FeedState

inductive FeedEvent where
  | feed (userId viewerProfileId mode : String) (cursor : Option FeedCursor) (pageSize : Nat)
      (filters : FeedFilters) (allowed : Bool)
  | look (index : Nat)
  | read (index : Nat)
  | query (index : Nat) (reached : Bool)
  | fill (index : Nat)
  /-- profile-svc answers with cards of some of the profiles it is asked for -/
  | respond (index : Nat) (cards : List String)
  | hide (userId profileId : String)
  | unhide (userId profileId : String)
  | invalidate (userId : String)
  | write (index : Nat)
  | list (index : Nat)
  | delete (index : Nat)
  | rerank (fromProfileId : String) (upserts : List (String × ℚ))
  | profile (profileId : String) (row : Option ProfileRow)
  | elapse (time : Nat)
  deriving DecidableEq, Repr

/-- A step of the feed call at an index, if it is in a phase that has one. -/
def FeedState.onFeed (s : FeedState) (index : Nat)
    (step : FeedCall → FeedPhase → Option FeedState) : FeedState :=
  match s.feeds[index]? with
  | some call => (step call call.phase).getD s
  | none => s

def FeedState.onChange (s : FeedState) (index : Nat)
    (step : ChangeCall → ChangePhase → Option FeedState) : FeedState :=
  match s.changes[index]? with
  | some call => (step call call.phase).getD s
  | none => s

def feedStep (hash : FeedFilters → String) (s : FeedState) : FeedEvent → FeedState
  | .feed userId viewerProfileId mode cursor pageSize filters allowed =>
      s.enterFeed hash userId viewerProfileId mode cursor pageSize filters allowed
  | .look index => s.onFeed index fun call phase => match phase with
      | .looking => some (s.look index call)
      | _ => none
  | .read index => s.onFeed index fun call phase => match phase with
      | .reading => some (s.setFeed index call (.hydrating (s.cachedPage call)))
      | _ => none
  | .query index reached => s.onFeed index fun call phase => match phase with
      | .querying => some (s.query index call reached)
      | _ => none
  | .fill index => s.onFeed index fun call phase => match phase with
      | .filling scored => some (s.fill index call scored)
      | _ => none
  | .respond index cards => s.onFeed index fun call phase => match phase with
      | .hydrating profileIds =>
          if ∀ card ∈ cards, card ∈ profileIds then
            some (s.setFeed index call (.served (call.respond cards)))
          else none
      | _ => none
  | .hide userId profileId => s.enterChange userId (.hide profileId (s.now + days 90))
  | .unhide userId profileId => s.enterChange userId (.unhide profileId)
  | .invalidate userId => s.enterChange userId .event
  | .write index => s.onChange index fun call phase => match phase with
      | .writing => some (s.write index call)
      | _ => none
  | .list index => s.onChange index fun call phase => match phase with
      | .listing => some (s.list index call)
      | _ => none
  | .delete index => s.onChange index fun call phase => match phase with
      | .deleting keys => some (s.delete index call keys)
      | _ => none
  | .rerank fromProfileId upserts => s.rerank fromProfileId upserts
  | .profile profileId row => { s with profiles := Function.update s.profiles profileId row }
  | .elapse time => { s with now := s.now + time }

end ColabPlatform.Discovery
