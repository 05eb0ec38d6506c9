import ApiSchema.Number.Binary64
import ApiSchema.Table

/-! JSON values. Whole numbers and binary fractions are kept apart, and an object is the list of
its members as written; `canonical` gives every object sorted, duplicate-free members. -/

namespace ApiSchema.Json

inductive Value where
  | null
  | bool (value : Bool)
  | integer (value : Int)
  | float (value : Binary64)
  | string (value : String)
  | array (items : List Value)
  | object (members : List (String × Value))

namespace Value

instance : Inhabited Value := ⟨null⟩

mutual

def beq : Value → Value → Bool
  | null, null => true
  | bool a, bool b => a = b
  | integer a, integer b => a = b
  | float a, float b => a = b
  | string a, string b => a = b
  | array a, array b => beqItems a b
  | object a, object b => beqMembers a b
  | _, _ => false

def beqItems : List Value → List Value → Bool
  | [], [] => true
  | a :: as, b :: bs => beq a b && beqItems as bs
  | _, _ => false

def beqMembers : List (String × Value) → List (String × Value) → Bool
  | [], [] => true
  | (k, a) :: as, (l, b) :: bs => k = l && beq a b && beqMembers as bs
  | _, _ => false

end

mutual

theorem beq_iff : (a b : Value) → (beq a b = true ↔ a = b)
  | null, b => by cases b <;> simp [beq]
  | bool _, b => by cases b <;> simp [beq]
  | integer _, b => by cases b <;> simp [beq]
  | float _, b => by cases b <;> simp [beq]
  | string _, b => by cases b <;> simp [beq]
  | array a, b => by cases b <;> simp [beq, beqItems_iff]
  | object a, b => by cases b <;> simp [beq, beqMembers_iff]

theorem beqItems_iff : (a b : List Value) → (beqItems a b = true ↔ a = b)
  | [], b => by cases b <;> simp [beqItems]
  | a :: as, b => by cases b <;> simp [beqItems, beq_iff a, beqItems_iff as]

theorem beqMembers_iff : (a b : List (String × Value)) → (beqMembers a b = true ↔ a = b)
  | [], b => by cases b <;> simp [beqMembers]
  | (k, a) :: as, b => by
    rcases b with _ | ⟨⟨l, b⟩, bs⟩ <;> simp [beqMembers, beq_iff a, beqMembers_iff as]

end

instance : DecidableEq Value := fun a b => decidable_of_iff _ (beq_iff a b)

mutual

/-- Members sorted by key at every level; of members with one key the last wins. -/
def canonical : Value → Value
  | array items => array (canonicalItems items)
  | object members => object (Table.ofList (canonicalMembers members)).entries
  | other => other

def canonicalItems : List Value → List Value
  | [] => []
  | item :: rest => canonical item :: canonicalItems rest

def canonicalMembers : List (String × Value) → List (String × Value)
  | [] => []
  | (key, value) :: rest => (key, canonical value) :: canonicalMembers rest

end

mutual

/-- No number in the value is infinite. -/
def allFinite : Value → Bool
  | float value => value.isFinite
  | array items => allFiniteItems items
  | object members => allFiniteMembers members
  | _ => true

def allFiniteItems : List Value → Bool
  | [] => true
  | item :: rest => allFinite item && allFiniteItems rest

def allFiniteMembers : List (String × Value) → Bool
  | [] => true
  | (_, value) :: rest => allFinite value && allFiniteMembers rest

end

def member? (key : String) : Value → Option Value
  | object members => (members.find? fun entry => entry.1 = key).map Prod.snd
  | _ => none

def text? : Value → Option String
  | string value => some value
  | _ => none

end Value

end ApiSchema.Json
