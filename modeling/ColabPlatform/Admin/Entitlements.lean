import ColabPlatform.Foundation.Interleaving
import ColabPlatform.Foundation.OrderedDict
import ColabPlatform.Foundation.Run
import ColabPlatform.Foundation.Table
import ColabPlatform.Foundation.Validity

/-!
# Entitlement configuration

The values of the entitlement axes of each tier are rows with a time of validity.  An update
closes the rows without an end and appends the new ones, which may start earlier or later.
The file finds the runs in which every configured axis has exactly one value at every time.
-/

namespace ColabPlatform.Admin

open Foundation

/-! ## Rows and updates -/

/-- A value is a JSON text. -/
structure EntitlementConfig where
  id : String
  tier : String
  axisKey : String
  value : String
  currency : Option String
  effectiveAt : Int
  supersededAt : Option Int := none
  deriving DecidableEq, Repr

namespace EntitlementConfig

/-- What a row configures. -/
def axis (config : EntitlementConfig) : String × String := (config.tier, config.axisKey)

/-- `superseded_at == None` -/
def isOpen (config : EntitlementConfig) : Bool := config.supersededAt.isNone

def supersede (now : Int) (config : EntitlementConfig) : EntitlementConfig :=
  { config with supersededAt := some now }

end EntitlementConfig

/-- `uq_entitlement_tier_axis_effective` -/
abbrev ConfigTable :=
  Table EntitlementConfig (fun config => config.id) fun config =>
    some (config.tier, config.axisKey, config.effectiveAt)

structure EntitlementItem where
  tier : String
  axisKey : String
  value : String
  currency : Option String := none
  effectiveAt : Option Int := none
  deriving DecidableEq, Repr

/-- An axis of the body of `update_tier`. -/
structure TierAxis where
  axisKey : String
  value : String
  currency : Option String := none
  effectiveAt : Option Int := none
  deriving DecidableEq, Repr

/-- `update_tier` does with its axes what `update_entitlements` does with its items. -/
def TierAxis.item (tier : String) (axis : TierAxis) : EntitlementItem :=
  ⟨tier, axis.axisKey, axis.value, axis.currency, axis.effectiveAt⟩

def EntitlementItem.config (item : EntitlementItem) (id : String) (now : Int) :
    EntitlementConfig where
  id := id
  tier := item.tier
  axisKey := item.axisKey
  value := item.value
  currency := item.currency
  effectiveAt := item.effectiveAt.getD now

/-- An update with the items that it has still to go through, the ids of the rows that it will
supersede and the rows that it will add. -/
inductive ConfigCall where
  | updating (now : Int) (rest : List EntitlementItem) (superseded : List String)
      (added : List EntitlementConfig)
  | answered
  | failed
  deriving DecidableEq, Repr

structure ConfigDesk where
  configs : ConfigTable
  calls : List ConfigCall

structure ConfigOutside where
  /-- the statement is carried out -/
  ok : Bool := true
  id : String := ""

inductive ConfigEvent where
  | updateTier (tier : String) (axes : List TierAxis) (now : Int)
  | updateEntitlements (items : List EntitlementItem) (now : Int)
  | advance (index : Nat) (outside : ConfigOutside := {})

/-- The rows of `get_tiers`, in the order in which the query returns them. -/
def getTiers (rows : List EntitlementConfig) (now : Int) : OrderedDict (String × String) String :=
  OrderedDict.ofItems <|
    (rows.filter (activeAt EntitlementConfig.effectiveAt EntitlementConfig.supersededAt now)).map
      fun config => (config.axis, config.value)

namespace ConfigDesk

def empty : ConfigDesk := ⟨.empty, []⟩

def put (s : ConfigDesk) (index : Nat) (call : ConfigCall) : ConfigDesk :=
  { s with calls := s.calls.set index call }

/-- The rows of an axis. -/
def rowsOf (s : ConfigDesk) (axis : String × String) : List EntitlementConfig :=
  s.configs.rows.filter (·.axis = axis)

def openRows (s : ConfigDesk) (axis : String × String) : List EntitlementConfig :=
  (s.rowsOf axis).filter (·.isOpen)

/-- The insertions of a flush, first row first. -/
def addAll : List EntitlementConfig → ConfigTable → Option ConfigTable
  | [], t => some t
  | config :: added, t => t.insert? config >>= addAll added

/-- What a commit writes: a row stays the same up to its end. -/
def supersedeAll (superseded : List String) (now : Int) (t : ConfigTable) : ConfigTable :=
  t.modifyAll (fun config => if config.id ∈ superseded then config.supersede now else config)
    (fun config => by split <;> rfl) (fun config m column => by split at column <;> exact column)

def store (s : ConfigDesk) (now : Int) (superseded : List String)
    (added : List EntitlementConfig) : Option ConfigTable :=
  addAll added (supersedeAll superseded now s.configs)

def advance (s : ConfigDesk) (index : Nat) (outside : ConfigOutside) : ConfigCall → ConfigDesk
  | .updating now (item :: rest) superseded added =>
      if outside.ok then
        -- rows that this request will add are not in the database yet
        s.put index (.updating now rest
          (superseded ++ (s.openRows (item.tier, item.axisKey)).map (·.id))
          (added ++ [item.config outside.id now]))
      else s.put index .failed
  | .updating now [] superseded added =>
      match if outside.ok then s.store now superseded added else none with
      | some configs => { s.put index .answered with configs }
      | none => s.put index .failed
  | .answered | .failed => s

def step (s : ConfigDesk) : ConfigEvent → ConfigDesk
  | .updateTier tier axes now =>
      { s with calls := s.calls ++ [.updating now (axes.map (TierAxis.item tier)) [] []] }
  | .updateEntitlements items now => { s with calls := s.calls ++ [.updating now items [] []] }
  | .advance index outside =>
      match s.calls[index]? with
      | some call => s.advance index outside call
      | none => s

def run (events : List ConfigEvent) : ConfigDesk := runFrom step empty events

/-! ## What is promised -/

/-- From when on the first configuration of the axis is effective. -/
def firstEffective (s : ConfigDesk) (axis : String × String) : Option Int :=
  (s.rowsOf axis).getLast?.map (·.effectiveAt)

structure SingleActive (s : ConfigDesk) : Prop where
  one : ∀ axis first, s.firstEffective axis = some first → ∀ t, first ≤ t →
    (s.rowsOf axis).countP
      (activeAt EntitlementConfig.effectiveAt EntitlementConfig.supersededAt t) = 1
  value : ∀ axis first, s.firstEffective axis = some first → ∀ t, first ≤ t →
    ∃ value, ∀ rows, rows.Perm s.configs.rows → ∀ other,
      (axis, other) ∈ getTiers rows t ↔ other = value

/-! ## The runs in which it is kept -/

/-- The new row starts when the open one is superseded, as far as times after the start of
the open row and after the first configuration are concerned. -/
def meets (s : ConfigDesk) (now : Int) (new : EntitlementConfig) : Bool :=
  (s.openRows new.axis).all fun old => (s.firstEffective new.axis).all fun first =>
    max (max old.effectiveAt now) first = max new.effectiveAt first

/-- A request that is committed adds one row to an axis, supersedes the rows that are open at
that moment, and the rows that it adds start when it supersedes. -/
def keepsSingle (s : ConfigDesk) : ConfigEvent → Bool
  | .advance index outside =>
      match s.calls[index]? with
      | some (.updating now [] superseded added) =>
          !outside.ok || (s.store now superseded added).isNone ||
            (added.map (·.axis)).Nodup &&
            (s.configs.rows.all fun config =>
              config.id ∈ superseded ↔ config.isOpen ∧ config.axis ∈ added.map (·.axis)) &&
            added.all (s.meets now)
      | _ => true
  | _ => true

/-! ## What a commit stores -/

variable {s s' : ConfigDesk}

theorem rows_addAll {added : List EntitlementConfig} {t t' : ConfigTable}
    (h : addAll added t = some t') : t'.rows = added.reverse ++ t.rows := by
  induction added generalizing t with
  | nil =>
      obtain rfl := Option.some.inj h
      rfl
  | cons config added ih =>
      obtain ⟨next, inserted, later⟩ := Option.bind_eq_some_iff.1 h
      rw [ih later, (Table.insert?_eq_some inserted).2]
      simp

theorem rows_store {now : Int} {superseded : List String} {added : List EntitlementConfig}
    {configs : ConfigTable} (stored : s.store now superseded added = some configs) :
    configs.rows = added.reverse ++ s.configs.rows.map fun config =>
      if config.id ∈ superseded then config.supersede now else config :=
  rows_addAll stored

/-- One row of an axis is valid at a time. -/
def Single (s : ConfigDesk) : Prop :=
  ∀ axis first, s.firstEffective axis = some first →
    OneActive EntitlementConfig.effectiveAt EntitlementConfig.supersededAt (s.rowsOf axis) first

theorem Single.frame (h : s.Single) (configs : s'.configs = s.configs) : s'.Single := by
  intro axis first effective
  rw [firstEffective, rowsOf, configs] at effective
  rw [rowsOf, configs]
  exact h axis first effective

/-- The rows of an axis after a commit that has read what is open. -/
theorem rowsOf_store {now : Int} {superseded : List String} {added : List EntitlementConfig}
    (stored : s.store now superseded added = some s'.configs)
    (read : ∀ config ∈ s.configs.rows,
      config.id ∈ superseded ↔ config.isOpen = true ∧ config.axis ∈ added.map (·.axis))
    (axis : String × String) :
    s'.rowsOf axis = (added.filter (·.axis = axis)).reverse ++ (s.rowsOf axis).map fun config =>
      if config.isOpen = true ∧ axis ∈ added.map (·.axis) then config.supersede now else config := by
  have same : ((fun config : EntitlementConfig => decide (config.axis = axis)) ∘
      fun config => if config.id ∈ superseded then config.supersede now else config) =
        fun config => decide (config.axis = axis) := by
    funext config
    simp only [Function.comp_apply]
    split <;> rfl
  rw [rowsOf, rows_store stored, List.filter_append, List.filter_reverse, List.filter_map, same]
  congr 1
  apply List.map_congr_left
  intro config mem
  obtain ⟨inside, isAxis⟩ := List.mem_filter.1 mem
  obtain rfl := of_decide_eq_true isAxis
  simp only [read config inside]

/-- An axis that the request does not name keeps its rows. -/
theorem rowsOf_store_of_not_mem {now : Int} {superseded : List String}
    {added : List EntitlementConfig} (stored : s.store now superseded added = some s'.configs)
    (read : ∀ config ∈ s.configs.rows,
      config.id ∈ superseded ↔ config.isOpen = true ∧ config.axis ∈ added.map (·.axis))
    {axis : String × String} (other : axis ∉ added.map (·.axis)) :
    s'.rowsOf axis = s.rowsOf axis := by
  have none : added.filter (·.axis = axis) = [] := by
    apply List.filter_eq_nil_iff.2
    intro config mem isAxis
    exact other (List.mem_map.2 ⟨config, mem, of_decide_eq_true isAxis⟩)
  rw [rowsOf_store stored read, none]
  simp [other]

/-- An axis that it names gets one row, and its open rows are superseded. -/
theorem rowsOf_store_of_mem {now : Int} {superseded : List String}
    {added : List EntitlementConfig} (stored : s.store now superseded added = some s'.configs)
    (read : ∀ config ∈ s.configs.rows,
      config.id ∈ superseded ↔ config.isOpen = true ∧ config.axis ∈ added.map (·.axis))
    (distinct : (added.map (·.axis)).Nodup) {new : EntitlementConfig} (mem : new ∈ added) :
    s'.rowsOf new.axis = new :: (s.rowsOf new.axis).map fun config =>
      if config.supersededAt.isNone then config.supersede now else config := by
  have only : added.filter (·.axis = new.axis) = [new] := by
    obtain ⟨before, after, rfl⟩ := List.append_of_mem mem
    rw [List.map_append, List.map_cons, List.nodup_middle, List.nodup_cons, ← List.map_append]
      at distinct
    have others : ∀ part : List EntitlementConfig, (∀ config ∈ part, config ∈ before ++ after) →
        part.filter (·.axis = new.axis) = [] := by
      intro part inside
      apply List.filter_eq_nil_iff.2
      intro config memPart same
      exact distinct.1 (List.mem_map.2 ⟨config, inside config memPart, of_decide_eq_true same⟩)
    rw [List.filter_append, others before fun _ => List.mem_append_left _, List.filter_cons,
      others after fun _ => List.mem_append_right _]
    simp
  have named : new.axis ∈ added.map (·.axis) := List.mem_map_of_mem mem
  rw [rowsOf_store stored read, only]
  simp [named, EntitlementConfig.isOpen]

theorem Single.store (h : s.Single) {now : Int} {superseded : List String}
    {added : List EntitlementConfig} (stored : s.store now superseded added = some s'.configs)
    (distinct : (added.map (·.axis)).Nodup)
    (read : ∀ config ∈ s.configs.rows,
      config.id ∈ superseded ↔ config.isOpen = true ∧ config.axis ∈ added.map (·.axis))
    (meet : ∀ new ∈ added, s.meets now new = true) (fresh : ∀ new ∈ added, new.isOpen = true) :
    s'.Single := by
  intro axis first effective
  by_cases named : axis ∈ added.map (·.axis)
  · obtain ⟨new, mem, rfl⟩ := List.mem_map.1 named
    have rows := rowsOf_store_of_mem stored read distinct mem
    have stops : new.supersededAt = none := Option.isNone_iff_eq_none.1 (fresh new mem)
    rw [firstEffective, rows] at effective
    rw [rows]
    cases before : s.rowsOf new.axis with
    | nil =>
        rw [before] at effective
        obtain rfl := Option.some.inj effective
        exact oneActive_singleton stops
    | cons config rest =>
        have earlier : s.firstEffective new.axis = some first := by
          have starts : EntitlementConfig.effectiveAt ∘ (fun config =>
              if config.supersededAt.isNone then config.supersede now else config) =
                EntitlementConfig.effectiveAt := by
            funext config
            simp only [Function.comp_apply]
            split <;> rfl
          rw [List.getLast?_cons_of_ne_nil (by simp [before]), List.getLast?_map, Option.map_map,
            starts] at effective
          exact effective
        have started : ∀ config : EntitlementConfig,
            (config.supersede now).effectiveAt = config.effectiveAt := fun _ => rfl
        have closed : ∀ config : EntitlementConfig,
            (config.supersede now).supersededAt = some now := fun _ => rfl
        rw [← before]
        have one := h new.axis first earlier
        obtain ⟨old, isOpen⟩ := one.filter_open
        refine (one.replace_iff isOpen started closed stops).2 ?_
        have met := meet new mem
        rw [meets, show s.openRows new.axis = [old] from isOpen, earlier] at met
        simpa using met
  · rw [firstEffective, rowsOf_store_of_not_mem stored read named] at effective
    rw [rowsOf_store_of_not_mem stored read named]
    exact h axis first effective

/-- The rows that a request will add have no end. -/
def Fresh (s : ConfigDesk) : Prop :=
  ∀ call ∈ s.calls, ∀ now rest superseded added,
    call = .updating now rest superseded added → ∀ new ∈ added, new.isOpen = true

theorem Fresh.begin (h : s.Fresh) (now : Int) (items : List EntitlementItem) :
    Fresh { s with calls := s.calls ++ [.updating now items [] []] } := by
  refine forall_mem_concat ?_ h
  rintro now' rest superseded added same new mem
  cases same
  cases mem

theorem Fresh.advance (h : s.Fresh) {index : Nat} {outside : ConfigOutside} {call : ConfigCall}
    (found : s.calls[index]? = some call) : (s.advance index outside call).Fresh := by
  have failed : (s.put index .failed).Fresh := forall_mem_set nofun h
  cases call with
  | updating now rest superseded added =>
      cases rest with
      | nil =>
          simp only [ConfigDesk.advance]
          split
          · exact forall_mem_set nofun h
          · exact failed
      | cons item rest =>
          simp only [ConfigDesk.advance]
          split
          · refine forall_mem_set ?_ h
            rintro now' rest' superseded' added' same new mem
            cases same
            rcases List.mem_append.1 mem with old | last
            · exact h _ (List.mem_of_getElem? found) _ _ _ _ rfl new old
            · obtain rfl := List.mem_singleton.1 last
              rfl
          · exact failed
  | answered => exact h
  | failed => exact h

theorem Fresh.step (h : s.Fresh) (event : ConfigEvent) : (s.step event).Fresh := by
  cases event with
  | updateTier tier axes now => exact h.begin now _
  | updateEntitlements items now => exact h.begin now items
  | advance index outside =>
      simp only [ConfigDesk.step]
      split
      · rename_i call found
        exact h.advance found
      · exact h

theorem Single.advance (h : s.Single) (isFresh : s.Fresh) {index : Nat} {outside : ConfigOutside}
    {call : ConfigCall} (found : s.calls[index]? = some call)
    (right : s.keepsSingle (.advance index outside) = true) :
    (s.advance index outside call).Single := by
  simp only [keepsSingle, found] at right
  cases call with
  | updating now rest superseded added =>
      cases rest with
      | nil =>
          simp only [ConfigDesk.advance]
          by_cases carried : outside.ok = true
          · cases stored : s.store now superseded added with
            | none =>
                simp only [if_pos carried]
                exact h.frame rfl
            | some configs =>
                simp only [carried, stored, Bool.not_true, Option.isNone_some, Bool.false_or,
                  Bool.and_eq_true, decide_eq_true_eq, List.all_eq_true] at right
                obtain ⟨⟨distinct, read⟩, meet⟩ := right
                simp only [if_pos carried]
                exact h.store stored distinct read meet
                  (isFresh _ (List.mem_of_getElem? found) _ _ _ _ rfl)
          · simp only [if_neg carried]
            exact h.frame rfl
      | cons item rest =>
          simp only [ConfigDesk.advance]
          split
          · exact h.frame rfl
          · exact h.frame rfl
  | answered => exact h
  | failed => exact h

theorem Single.step (h : s.Single) (isFresh : s.Fresh) (event : ConfigEvent)
    (right : s.keepsSingle event = true) : (s.step event).Single := by
  cases event with
  | updateTier tier axes now => exact h.frame rfl
  | updateEntitlements items now => exact h.frame rfl
  | advance index outside =>
      simp only [ConfigDesk.step]
      split
      · rename_i call found
        exact h.advance isFresh found right
      · exact h

/-! ## The tiers -/

/-- One valid row gives one value, in whatever order the rows are returned. -/
theorem getTiers_of_one {rows : List EntitlementConfig} {axis : String × String} {t : Int}
    (one : (rows.filter (·.axis = axis)).countP
      (activeAt EntitlementConfig.effectiveAt EntitlementConfig.supersededAt t) = 1) :
    ∃ value, ∀ order, order.Perm rows → ∀ other,
      (axis, other) ∈ getTiers order t ↔ other = value := by
  rw [List.countP_eq_length_filter, List.length_eq_one_iff] at one
  obtain ⟨config, only⟩ := one
  refine ⟨config.value, fun order permuted other => ?_⟩
  have listed : (order.filter
      (activeAt EntitlementConfig.effectiveAt EntitlementConfig.supersededAt t)).filter
        (·.axis = axis) = [config] := by
    rw [List.filter_comm]
    apply List.Perm.eq_singleton
    rw [← only]
    exact (permuted.filter _).filter _
  have isAxis : config.axis = axis := by
    have mem : config ∈ (rows.filter (·.axis = axis)).filter
        (activeAt EntitlementConfig.effectiveAt EntitlementConfig.supersededAt t) := by
      rw [only]
      exact List.mem_cons_self
    exact of_decide_eq_true (List.mem_filter.1 (List.mem_filter.1 mem).1).2
  rw [getTiers, OrderedDict.mem_ofItems, OrderedDict.lastValue, ← List.head?_filter,
    List.filter_reverse, List.filter_map]
  simp only [Function.comp_def, listed]
  simp [eq_comm]

/-! ## Runs -/

theorem run_fresh (events : List ConfigEvent) : (run events).Fresh :=
  runFrom_invariant (fun _ event h => h.step event) nofun events

theorem entitlements_single {events : List ConfigEvent}
    (right : Guarded step (fun s event => s.keepsSingle event = true) empty events) :
    (run events).SingleActive := by
  have keeps : ∀ (s : ConfigDesk) (event : ConfigEvent), s.keepsSingle event = true →
      s.Single ∧ s.Fresh → (s.step event).Single ∧ (s.step event).Fresh := by
    intro s event right h
    exact ⟨h.1.step h.2 event right, h.2.step event⟩
  have start : empty.Single ∧ empty.Fresh := ⟨nofun, nofun⟩
  obtain ⟨single, -⟩ : (run events).Single ∧ (run events).Fresh :=
    runFrom_invariant_of_guarded keeps start right
  exact
    { one := single
      value := fun axis first effective t later => getTiers_of_one (single axis first effective t later) }

/-! ## Some runs -/

def quota (value : String) (effectiveAt : Option Int) : TierAxis :=
  ⟨"invites", value, none, effectiveAt⟩

/-- An update of the tier `free`, as request `index`. -/
def updates (index : Nat) (id : String) (axes : List TierAxis) (now : Int) : List ConfigEvent :=
  .updateTier "free" axes now :: List.replicate (axes.length + 1) (.advance index { id })

/-- The quota is set, and later replaced twice. -/
def replaced : List ConfigEvent :=
  updates 0 "a" [quota "3" none] 0 ++ updates 1 "b" [quota "5" (some 10)] 10 ++
    updates 2 "c" [quota "7" none] 20

theorem replaced_single : (run replaced).SingleActive := entitlements_single (by decide +kernel)

/-- The new quota starts later than the old one ends. -/
def announced : List ConfigEvent :=
  updates 0 "a" [quota "3" none] 0 ++ updates 1 "b" [quota "5" (some 100)] 10

/-- The new quota starts earlier than the old one ends. -/
def backdated : List ConfigEvent :=
  updates 0 "a" [quota "3" none] 0 ++ updates 1 "b" [quota "5" (some 5)] 10

/-- Two updates read the open row before either is committed. -/
def concurrent : List ConfigEvent :=
  updates 0 "a" [quota "3" none] 0 ++
    [.updateTier "free" [quota "5" none] 10, .updateTier "free" [quota "7" none] 20,
      .advance 1 { id := "b" }, .advance 2 { id := "c" }, .advance 1, .advance 2]

/-- One request names the axis twice. -/
def namedTwice : List ConfigEvent :=
  [.updateTier "free" [quota "3" none, quota "5" (some 50)] 0, .advance 0 { id := "a" },
    .advance 0 { id := "b" }, .advance 0]

theorem not_single :
    ¬ (run announced).SingleActive ∧ ¬ (run backdated).SingleActive ∧
      ¬ (run concurrent).SingleActive ∧ ¬ (run namedTwice).SingleActive := by
  refine ⟨fun h => ?_, fun h => ?_, fun h => ?_, fun h => ?_⟩
  · exact absurd (h.one ("free", "invites") 0 (by decide +kernel) 50 (by decide))
      (by decide +kernel)
  · exact absurd (h.one ("free", "invites") 0 (by decide +kernel) 7 (by decide))
      (by decide +kernel)
  · exact absurd (h.one ("free", "invites") 0 (by decide +kernel) 30 (by decide))
      (by decide +kernel)
  · exact absurd (h.one ("free", "invites") 0 (by decide +kernel) 60 (by decide))
      (by decide +kernel)

end ConfigDesk

end ColabPlatform.Admin
