import Mathlib.Data.Option.Basic

/-!
# Expiring key stores

A key of the store holds a value and, optionally, the time at which it expires.
An expired key reads as absent.  Times are integers in whatever unit the user
of the store has.
-/

namespace ColabPlatform.Foundation

structure Stamped (ν : Type*) where
  value : ν
  deadline : Option Int

structure KeyStore (κ ν : Type*) where
  entries : κ → Option (Stamped ν)

namespace KeyStore

variable {κ ν : Type*}

def empty : KeyStore κ ν := ⟨fun _ => none⟩

def Stamped.alive (entry : Stamped ν) (now : Int) : Bool :=
  entry.deadline.all fun deadline => now < deadline

def get (store : KeyStore κ ν) (now : Int) (k : κ) : Option ν :=
  match store.entries k with
  | some entry => if Stamped.alive entry now then some entry.value else none
  | none => none

def exists? (store : KeyStore κ ν) (now : Int) (k : κ) : Bool :=
  (store.get now k).isSome

section Update

variable [DecidableEq κ]

def put (store : KeyStore κ ν) (k : κ) (value : ν) (deadline : Option Int) :
    KeyStore κ ν :=
  ⟨fun k' => if k' = k then some ⟨value, deadline⟩ else store.entries k'⟩

/-- `SETEX` -/
def setEx (store : KeyStore κ ν) (now ttl : Int) (k : κ) (value : ν) :
    KeyStore κ ν :=
  store.put k value (some (now + ttl))

def delete (store : KeyStore κ ν) (k : κ) : KeyStore κ ν :=
  ⟨fun k' => if k' = k then none else store.entries k'⟩

/-- A new value for a key that is there, which keeps its deadline. -/
def replace (store : KeyStore κ ν) (k : κ) (value : ν) : KeyStore κ ν :=
  match store.entries k with
  | some entry => store.put k value entry.deadline
  | none => store

end Update

@[simp] theorem entries_empty (k : κ) :
    (empty : KeyStore κ ν).entries k = none := rfl

@[simp] theorem get_empty (now : Int) (k : κ) :
    (empty : KeyStore κ ν).get now k = none := rfl

theorem get_eq_some_iff {store : KeyStore κ ν} {now : Int} {k : κ} {value : ν} :
    store.get now k = some value ↔
      ∃ entry, store.entries k = some entry ∧ Stamped.alive entry now ∧
        entry.value = value := by
  unfold get
  cases stored : store.entries k with
  | none => simp
  | some entry => by_cases alive : Stamped.alive entry now <;> simp [alive]

/-- What is there now was there before. -/
theorem get_of_le {store : KeyStore κ ν} {now later : Int} {k : κ} {value : ν}
    (le : now ≤ later) (found : store.get later k = some value) :
    store.get now k = some value := by
  obtain ⟨entry, stored, alive, same⟩ := get_eq_some_iff.1 found
  refine get_eq_some_iff.2 ⟨entry, stored, ?_, same⟩
  unfold Stamped.alive at alive ⊢
  cases deadline : entry.deadline with
  | none => rfl
  | some time =>
      simp only [deadline, Option.all_some, decide_eq_true_eq] at alive ⊢
      omega

section Update

variable [DecidableEq κ]

theorem get_put_self {store : KeyStore κ ν} {now : Int} {k : κ} {value found : ν}
    {deadline : Option Int} (h : (store.put k value deadline).get now k = some found) :
    found = value := by
  obtain ⟨entry, stored, -, rfl⟩ := get_eq_some_iff.1 h
  simp only [put, if_true, Option.some.injEq] at stored
  rw [← stored]

theorem entries_setEx (store : KeyStore κ ν) (now ttl : Int) (k k' : κ)
    (value : ν) :
    (store.setEx now ttl k value).entries k' =
      if k' = k then some ⟨value, some (now + ttl)⟩ else store.entries k' := rfl

theorem get_setEx_self (store : KeyStore κ ν) (now later ttl : Int) (k : κ)
    (value : ν) :
    (store.setEx now ttl k value).get later k =
      if later < now + ttl then some value else none := by
  simp [get, setEx, put, Stamped.alive]

theorem get_setEx_of_ne (store : KeyStore κ ν) (now later ttl : Int) {k k' : κ}
    (value : ν) (other : k' ≠ k) :
    (store.setEx now ttl k value).get later k' = store.get later k' := by
  simp [get, setEx, put, other]

theorem get_replace (store : KeyStore κ ν) (now : Int) (k k' : κ) (value : ν) :
    (store.replace k value).get now k' =
      if k' = k then (store.get now k).map fun _ => value else store.get now k' := by
  unfold replace get
  cases stored : store.entries k with
  | none =>
      by_cases same : k' = k
      · simp [same, stored]
      · simp [same]
  | some entry =>
      by_cases same : k' = k
      · by_cases alive : Stamped.alive entry now = true
        · have still : Stamped.alive ⟨value, entry.deadline⟩ now = true := alive
          simp [put, same, alive, still]
        · have dead : ¬ Stamped.alive ⟨value, entry.deadline⟩ now = true := alive
          simp [put, same, alive, dead]
      · simp [put, same]

theorem get_delete_self (store : KeyStore κ ν) (now : Int) (k : κ) :
    (store.delete k).get now k = none := by
  simp [get, delete]

theorem get_delete_of_ne (store : KeyStore κ ν) (now : Int) {k k' : κ}
    (other : k' ≠ k) : (store.delete k).get now k' = store.get now k' := by
  simp [get, delete, other]

/-! ## Counters and times to live -/

/-- `INCRBY`: a key that is absent counts from 0 and does not expire. -/
def incrBy (store : KeyStore κ Int) (now : Int) (k : κ) (n : Int) : KeyStore κ Int :=
  match store.get now k with
  | some value => store.replace k (value + n)
  | none => store.put k n none

/-- `EXPIRE`: a time to live that is not positive deletes the key. -/
def expire (store : KeyStore κ ν) (now ttl : Int) (k : κ) : KeyStore κ ν :=
  match store.get now k with
  | some value => if ttl ≤ 0 then store.delete k else store.setEx now ttl k value
  | none => store

theorem get_incrBy (store : KeyStore κ Int) (now : Int) (k k' : κ) (n : Int) :
    (store.incrBy now k n).get now k' =
      if k' = k then some ((store.get now k).getD 0 + n) else store.get now k' := by
  unfold incrBy
  cases found : store.get now k with
  | none =>
      by_cases same : k' = k
      · simp [get, put, same, Stamped.alive]
      · simp [get, put, same]
  | some value => simp [get_replace, found]

theorem get_incrBy_of_ne (store : KeyStore κ Int) (now later : Int) {k k' : κ} (n : Int)
    (other : k' ≠ k) : (store.incrBy now k n).get later k' = store.get later k' := by
  unfold incrBy
  cases store.get now k with
  | none => simp [get, put, other]
  | some value => simp [get_replace, other]

/-- A counter that is given a new time to live with each step. -/
theorem get_expire_incrBy (store : KeyStore κ Int) (now later : Int) {ttl : Int} (k : κ) (n : Int)
    (positive : 0 < ttl) : ((store.incrBy now k n).expire now ttl k).get later k =
      if later < now + ttl then some ((store.get now k).getD 0 + n) else none := by
  unfold expire
  rw [get_incrBy, if_pos rfl]
  dsimp only
  rw [if_neg (by omega), get_setEx_self]

theorem get_expire_of_ne (store : KeyStore κ ν) (now later ttl : Int) {k k' : κ}
    (other : k' ≠ k) : (store.expire now ttl k).get later k' = store.get later k' := by
  unfold expire
  cases store.get now k with
  | none => rfl
  | some value =>
      dsimp only
      split
      · exact get_delete_of_ne _ _ other
      · exact get_setEx_of_ne _ _ _ _ _ other

theorem get_expire {store : KeyStore κ ν} {now ttl : Int} {k k' : κ} {value : ν}
    (found : (store.expire now ttl k).get now k' = some value) :
    store.get now k' = some value := by
  unfold expire at found
  cases stored : store.get now k with
  | none =>
      rw [stored] at found
      exact found
  | some old =>
      simp only [stored] at found
      by_cases same : k' = k
      · subst same
        split at found
        · rw [get_delete_self] at found
          cases found
        · rw [get_setEx_self, if_pos (by omega)] at found
          rw [stored, found]
      · split at found
        · rwa [get_delete_of_ne _ _ same] at found
        · rwa [get_setEx_of_ne _ _ _ _ _ same] at found

end Update

end KeyStore

end ColabPlatform.Foundation
