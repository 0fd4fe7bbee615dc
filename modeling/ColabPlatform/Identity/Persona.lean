import ColabPlatform.Common.Floats
import ColabPlatform.Common.Ids

/-!
# Identity service: webhooks of Persona

The entries of a webhook payload that the service reads, and what it reads from
them: the status of the inquiry and the age signal.  The signal is that of the
first government-id verification that has one.
-/

namespace ColabPlatform.Identity

open Common

/-- A JSON value.  A float is kept as the text that `repr` gives it, a list or object as
what stands between its brackets there. -/
inductive Value where
  | null
  | bool (value : Bool)
  | int (value : Int)
  | float (repr : String)
  | text (value : String)
  | list (inner : String)
  | object (inner : String)
  deriving DecidableEq, Repr

namespace Value

/-- `bool(value)` -/
def truthy : Value → Bool
  | null => false
  | bool value => value
  | int value => decide (value ≠ 0)
  | float repr => decide (repr ∉ ["0.0", "-0.0"])
  | text value => decide (value ≠ "")
  | list inner => decide (inner ≠ "")
  | object inner => decide (inner ≠ "")

/-- `str(value)` -/
def str : Value → String
  | null => "None"
  | bool true => "True"
  | bool false => "False"
  | int value => toString value
  | float repr => repr
  | text value => value
  | list inner => "[" ++ inner ++ "]"
  | object inner => "\x7b" ++ inner ++ "\x7d"

end Value

/-- An entry of `included`; `none` is an absent key. -/
structure Verification where
  type : String
  ageEstimateSignal : Option Value
  age : Option Value
  deriving DecidableEq, Repr

/-- `attrs.get("age-estimate-signal") or attrs.get("age")`, unless it is `None` -/
def Verification.signal (verification : Verification) : Option Value :=
  (verification.ageEstimateSignal.filter (·.truthy)).or (verification.age.filter (· ≠ .null))

/-- The texts of a payload are empty where a key is absent.  `storable` is whether the
database takes the payload as JSONB. -/
structure Payload where
  id : String
  dataId : String
  dataType : String
  relatedInquiryId : String
  referenceId : IdField
  status : Option Value
  included : List Verification
  storable : Bool
  deriving DecidableEq, Repr

namespace Payload

/-- `event_id` -/
def eventId (payload : Payload) : String :=
  if payload.dataId ≠ "" then payload.dataId else payload.id

/-- `inquiry_id` -/
def inquiryId (payload : Payload) : String :=
  if payload.relatedInquiryId ≠ "" then payload.relatedInquiryId else payload.dataId

end Payload

def getInquiryStatus (payload : Payload) : String :=
  if payload.dataType = "inquiry.approved" then "approved"
  else if payload.dataType = "inquiry.declined" then "declined"
  else if payload.dataType = "inquiry.needs-review" then "needs_review"
  else (payload.status.getD (.text "pending")).str

/-- The loop stops at the first signal. -/
def faceAgeSignalOf : List Verification → Option String
  | [] => none
  | verification :: rest =>
      if verification.type = "verification/government-id" then
        match verification.signal with
        | some age => some age.str
        | none => faceAgeSignalOf rest
      else faceAgeSignalOf rest

def getFaceAgeSignal (payload : Payload) : Option String := faceAgeSignalOf payload.included

def isUnderageSignal (faceAgeSignal : Option String) : Bool :=
  (faceAgeSignal.bind floatOf).any (·.below18)

/-! ## Ages below 18 -/

/-- A number below 18, or the text of one. -/
def Value.below18 : Value → Bool
  | int value => decide (value < 18)
  | float repr => (floatOf repr).any (·.below18)
  | text value =>
      match floatOf value with
      | some (.finite age) => decide (age < 18)
      | some (.infinite negative) => negative
      | some .nan | none => false
  | null | bool _ | list _ | object _ => false

/-- A government-id verification with an age signal below 18, in either field. -/
def Verification.underage (verification : Verification) : Bool :=
  decide (verification.type = "verification/government-id") &&
    (verification.ageEstimateSignal.any (·.below18) || verification.age.any (·.below18))

def Payload.underage (payload : Payload) : Bool := payload.included.any (·.underage)

/-- A verification that the loop goes past. -/
def Verification.silent (verification : Verification) : Prop :=
  verification.type = "verification/government-id" → verification.signal = none

/-- The signal that is read is the first one. -/
theorem faceAgeSignalOf_eq_some {verifications : List Verification} {text : String} :
    faceAgeSignalOf verifications = some text ↔
      ∃ before first after age, verifications = before ++ first :: after ∧
        (∀ verification ∈ before, verification.silent) ∧
        first.type = "verification/government-id" ∧ first.signal = some age ∧ age.str = text := by
  induction verifications with
  | nil => simp [faceAgeSignalOf]
  | cons verification rest ih =>
      constructor
      · intro read
        unfold faceAgeSignalOf at read
        split at read
        · rename_i governmentId
          cases signal : verification.signal with
          | some age =>
              rw [signal] at read
              exact ⟨[], verification, rest, age, rfl, by simp, governmentId, signal,
                Option.some.inj read⟩
          | none =>
              rw [signal] at read
              obtain ⟨before, first, after, age, rfl, silent, found⟩ := ih.1 read
              refine ⟨verification :: before, first, after, age, rfl, ?_, found⟩
              exact List.forall_mem_cons.2 ⟨fun _ => signal, silent⟩
        · rename_i other
          obtain ⟨before, first, after, age, rfl, silent, found⟩ := ih.1 read
          refine ⟨verification :: before, first, after, age, rfl, ?_, found⟩
          exact List.forall_mem_cons.2 ⟨fun same => absurd same other, silent⟩
      · rintro ⟨before, first, after, age, split, silent, governmentId, signal, rfl⟩
        cases before with
        | nil =>
            obtain ⟨rfl, rfl⟩ := List.cons.inj split
            simp [faceAgeSignalOf, governmentId, signal]
        | cons head before =>
            obtain ⟨rfl, rfl⟩ := List.cons.inj split
            have past := ih.2 ⟨before, first, after, age, rfl,
              fun v mem => silent v (List.mem_cons_of_mem _ mem), governmentId, signal, rfl⟩
            unfold faceAgeSignalOf
            split
            · rename_i same
              rw [silent verification List.mem_cons_self same]
              exact past
            · exact past

end ColabPlatform.Identity
