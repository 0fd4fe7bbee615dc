import ColabPlatform.Billing.EntitlementRuns
import ColabPlatform.Foundation.CacheAside

/-!
# The entitlement cache

Reads of a user's entitlements go through a cache, interleaved with the requests
and handlers that change them.  A grant and a cancellation invalidate the cache
before they commit, and the handlers of the stores do not invalidate it at all.
-/

namespace ColabPlatform.Billing

open Foundation Foundation.Program

/-! ## Grants -/

structure GrantRequest where
  userId : Uuid
  axisKey : String
  value : AxisValue
  expiresAt : Option Timestamp
  deriving DecidableEq, Repr

inductive GrantReply where
  | granted
  | unknownAxis
  | failed
  deriving DecidableEq, Repr

def Db.insertSnapshot (snapshot : EntitlementSnapshot) (db : Db) : Except DbError Db :=
  (stored (isVarchar 64 snapshot.axisKey) (db.snapshots.insert? snapshot)).map
    fun snapshots => { db with snapshots }

/-- `create_entitlement_grant`; `answered` when the calls to the cache and the
broker, both before the commit, return. -/
def createEntitlementGrant (request : GrantRequest) (adminId : Uuid) (answered : Bool)
    (now : Timestamp) : BillingM GrantReply := do
  if request.axisKey ∉ axisRegistry.map Prod.fst then
    return .unknownAxis
  write (Db.insertSnapshot
    { userId := request.userId, axisKey := request.axisKey, value := request.value,
      source := "grant", sourceRef := adminId, expiresAt := request.expiresAt,
      updatedAt := now })
  if ¬ answered then
    return .failed
  commit
  return .granted

namespace EntitlementCache

/-! ## Writers -/

inductive Writer where
  | grant (request : GrantRequest) (adminId : Uuid) (now : Timestamp)
  | operation (call : Operation)

inductive WriterStep where
  | write
  | invalidate
  | publish
  | commit
  deriving DecidableEq, Repr

namespace Writer

/-- The steps in the order of the code. -/
def script : Writer → List WriterStep
  | .grant _ _ _ => [.write, .invalidate, .publish, .commit]
  | .operation (.cancelWeb _ _ _ _ _) => [.write, .publish, .invalidate, .commit]
  | .operation (.stripe _ _ _) => [.write, .publish, .commit]
  | .operation (.revenuecat _ _ _ _) => [.write, .publish, .commit]
  | .operation (.cancelForDunning _ _) => [.write, .commit]

/-- The user whose key is deleted. -/
def invalidates : Writer → Option Uuid
  | .grant request _ _ => some request.userId
  | .operation (.cancelWeb userId _ _ _ _) => some userId
  | .operation _ => none

/-- What is committed in the end. -/
def effect (db : Db) : Writer → Db
  | .grant request adminId now =>
      (createEntitlementGrant request adminId true now).committedBy true db
  | .operation call => operate db call

end Writer

/-! ## Interleavings -/

/-- `writers` have the steps that are left. -/
structure CacheState where
  cache : Cache Db ResolvedEntitlements
  writers : List (Writer × List WriterStep)

/-- The steps of reads, the expiry of the key, and those of the writers; a writer
that raises is aborted. -/
inductive CacheEvent where
  | get
  | resolve (reader : Nat) (now : Timestamp)
  | set (reader : Nat)
  | expire
  | start (writer : Writer)
  | advance (writer : Nat)
  | abort (writer : Nat)

def resolveAt (userId : Uuid) (now : Timestamp) (db : Db) : ResolvedEntitlements :=
  resolveEntitlements tierDefaults userId now db

/-- What an event does to the key of the user and to the database. -/
def CacheEvent.cacheStep (userId : Uuid) (s : CacheState) :
    CacheEvent → Option (CacheStep Timestamp Db)
  | .get => some .get
  | .resolve reader now => some (.resolve reader now)
  | .set reader => some (.set reader)
  | .expire => some .expire
  | .start _ | .abort _ => none
  | .advance index =>
      match s.writers[index]? with
      | some (writer, .invalidate :: _) =>
          if writer.invalidates = some userId then some .invalidate else none
      | some (writer, .commit :: _) => some (.commit (writer.effect s.cache.source))
      | _ => none

def nextWriters (s : CacheState) : CacheEvent → List (Writer × List WriterStep)
  | .start writer => s.writers ++ [(writer, writer.script)]
  | .advance index =>
      match s.writers[index]? with
      | some (writer, steps) => s.writers.set index (writer, steps.tail)
      | none => s.writers
  | .abort index =>
      match s.writers[index]? with
      | some (writer, _) => s.writers.set index (writer, [])
      | none => s.writers
  | _ => s.writers

def step (userId : Uuid) (s : CacheState) (e : CacheEvent) : CacheState :=
  { cache := match e.cacheStep userId s with
      | some cacheStep => s.cache.step (resolveAt userId) cacheStep
      | none => s.cache
    writers := nextWriters s e }

/-- The user's subscriptions and snapshots are the same. -/
def SameUser (userId : Uuid) (db db' : Db) : Prop :=
  db'.subscriptionsOf userId = db.subscriptionsOf userId ∧
    db'.snapshots.rows.filter (fun snapshot => snapshot.userId = userId) =
      db.snapshots.rows.filter fun snapshot => snapshot.userId = userId

instance (userId : Uuid) (db db' : Db) : Decidable (SameUser userId db db') :=
  inferInstanceAs (Decidable (_ ∧ _))

/-- A commit that changes something for the user finds the key absent, and no read
between its resolving and its setting. -/
def Unseen (userId : Uuid) (s : CacheState) (e : CacheEvent) : Prop :=
  match e.cacheStep userId s with
  | some (.commit db) => SameUser userId s.cache.source db ∨ s.cache.Unseen
  | _ => True

instance (userId : Uuid) (s : CacheState) (e : CacheEvent) :
    Decidable (Unseen userId s e) := by
  unfold Unseen
  split <;> infer_instance

theorem resolveAt_congr {userId : Uuid} {db db' : Db} (same : SameUser userId db db')
    (now : Timestamp) : resolveAt userId now db' = resolveAt userId now db := by
  have active : db'.activeSubscriptions userId = db.activeSubscriptions userId := by
    have split : ∀ db : Db, db.subscriptions.rows.filter
        (fun sub => sub.userId = userId ∧ sub.status.active?) =
          (db.subscriptionsOf userId).filter fun sub => sub.status.active? := by
      intro db
      simp [Db.subscriptionsOf, List.filter_filter, Bool.and_comm]
    rw [Db.activeSubscriptions, split, same.1, ← split, Db.activeSubscriptions]
  have live : db'.liveSnapshots userId now = db.liveSnapshots userId now := by
    have split : ∀ db : Db, db.liveSnapshots userId now =
        (db.snapshots.rows.filter fun snapshot => snapshot.userId = userId).filter
          fun snapshot => snapshot.live now := by
      intro db
      simp [Db.liveSnapshots, List.filter_filter, Bool.and_comm]
    rw [split, same.2, ← split]
  simp only [resolveAt, resolveEntitlements, active, live]

theorem coherent_step {userId : Uuid} {s : CacheState} {e : CacheEvent}
    (unseen : Unseen userId s e) (coherent : s.cache.Coherent (resolveAt userId)) :
    (step userId s e).cache.Coherent (resolveAt userId) := by
  dsimp only [step]
  unfold Unseen at unseen
  cases does : e.cacheStep userId s with
  | none => exact coherent
  | some cacheStep =>
      rw [does] at unseen
      refine Cache.coherent_step coherent ?_
      cases cacheStep with
      | commit db => exact unseen.imp_left fun same => resolveAt_congr same
      | get | resolve | set | expire | invalidate => trivial

/--
In every interleaving whose commits find nothing cached: whatever reads come
later, they answer with entitlements that resolve from the committed database.
-/
theorem later_reads_current (userId : Uuid) (db : Db) (events : List CacheEvent)
    (unseen : Guarded (step userId) (Unseen userId) ⟨⟨db, none, [], []⟩, []⟩ events)
    (later : List (CacheStep Timestamp Db)) (reads : ∀ e ∈ later, e.reads) :
    let s := runFrom (step userId) ⟨⟨db, none, [], []⟩, []⟩ events
    ∀ resolved ∈ (runFrom (Cache.step (resolveAt userId))
        { s.cache with answers := [] } later).answers,
      ∃ now, resolved = resolveEntitlements tierDefaults userId now s.cache.source := by
  intro s resolved mem
  let inv (s : CacheState) : Prop := s.cache.Coherent (resolveAt userId)
  have first : inv ⟨⟨db, none, [], []⟩, []⟩ := ⟨by simp, by simp⟩
  have coherent : inv s :=
    runFrom_invariant_of_guarded (fun _ _ => coherent_step) first unseen
  have cleared : ({ s.cache with answers := [] } : Cache Db ResolvedEntitlements).Coherent
      (resolveAt userId) := ⟨coherent.entry, coherent.readers⟩
  obtain old | current := Cache.answers_current_run cleared reads resolved mem
  · cases old
  · exact current

/-! ## A read during a grant -/

/-- Where nothing expires the time does not matter. -/
theorem resolve_of_lasting {userId : Uuid} {db : Db}
    (lasting : ∀ snapshot ∈ db.snapshots.rows, snapshot.expiresAt = none)
    (now now' : Timestamp) :
    resolveEntitlements tierDefaults userId now db =
      resolveEntitlements tierDefaults userId now' db := by
  have live : db.liveSnapshots userId now = db.liveSnapshots userId now' := by
    refine List.filter_congr fun snapshot mem => ?_
    simp [EntitlementSnapshot.live, lasting snapshot mem]
  simp only [resolveEntitlements, live]

def sampleGrant : Writer :=
  .grant ⟨⟨"ana"⟩, "visibility_boost", .bool true, none⟩ ⟨"admin"⟩ 100000000

/-- A read between the invalidation and the commit. -/
def readDuringGrant : List CacheEvent :=
  [.start sampleGrant, .advance 0, .advance 0, .get, .resolve 0 101000000, .set 0,
    .advance 0, .advance 0]

def grantedState : CacheState :=
  runFrom (step ⟨"ana"⟩) ⟨⟨.empty, none, [], []⟩, []⟩ readDuringGrant

/-- Once the grant is committed, reads go on answering without it. -/
theorem grant_hidden_by_cache :
    grantedState.writers.map Prod.snd = [[]] ∧
      ∃ resolved ∈ (runFrom (Cache.step (resolveAt ⟨"ana"⟩))
          { grantedState.cache with answers := [] } [.get]).answers,
        ∀ now, resolved ≠
          resolveEntitlements tierDefaults ⟨"ana"⟩ now grantedState.cache.source := by
  have lasting : ∀ snapshot ∈ grantedState.cache.source.snapshots.rows,
      snapshot.expiresAt = none := by decide +kernel
  refine ⟨by decide +kernel,
    resolveEntitlements tierDefaults ⟨"ana"⟩ 101000000 .empty, by decide +kernel, ?_⟩
  intro now same
  rw [resolve_of_lasting lasting now 0] at same
  revert same
  decide +kernel

/-- Read before and after, the grant is seen. -/
theorem grant_seen :
    let s := runFrom (step ⟨"ana"⟩) ⟨⟨.empty, none, [], []⟩, []⟩
      [.get, .resolve 0 99000000, .set 0, .start sampleGrant, .advance 0, .advance 0,
        .advance 0, .advance 0]
    ∀ resolved ∈ (runFrom (Cache.step (resolveAt ⟨"ana"⟩))
        { s.cache with answers := [] } [.get, .resolve 1 101000000, .set 1, .get]).answers,
      ∃ now, resolved = resolveEntitlements tierDefaults ⟨"ana"⟩ now s.cache.source :=
  later_reads_current ⟨"ana"⟩ .empty _ (by decide +kernel) _ (by simp [CacheStep.reads])

end EntitlementCache

end ColabPlatform.Billing
