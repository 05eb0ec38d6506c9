import ApiSchema.Primitive
import ApiSchema.Text.Split

/-! Type expressions: what a declaration says about the types of its members, with the wrappers
that matter to a document told apart. -/

namespace ApiSchema

/-- Position of a declaration in its registry. -/
abbrev DeclId := Nat

/-- Position of a module scope in its registry. -/
abbrev ScopeId := Nat

inductive TypeExpr where
  | primitive (type : Primitive)
  /-- A path to a declared type, with its arguments. -/
  | named (segments : List String) (args : List TypeExpr)
  /-- A type parameter of the enclosing declaration. -/
  | param (name : String)
  | array (element : TypeExpr)
  | map (key value : TypeExpr)
  /-- An indirection that leaves no trace in a document. -/
  | pointer (target : TypeExpr)
  | optional (inner : TypeExpr)
  /-- A value of any type. -/
  | interface
  | function
  /-- An argument bound to a declaration. -/
  | resolved (id : DeclId)

namespace TypeExpr

instance : Inhabited TypeExpr := ⟨interface⟩

mutual

def beq : TypeExpr → TypeExpr → Bool
  | primitive a, primitive b => a = b
  | named s a, named t b => s = t && beqAll a b
  | param a, param b => a = b
  | array a, array b => beq a b
  | map k v, map l w => beq k l && beq v w
  | pointer a, pointer b => beq a b
  | optional a, optional b => beq a b
  | interface, interface => true
  | function, function => true
  | resolved a, resolved b => a = b
  | _, _ => false

def beqAll : List TypeExpr → List TypeExpr → Bool
  | [], [] => true
  | a :: as, b :: bs => beq a b && beqAll as bs
  | _, _ => false

end

mutual

theorem beq_iff : (a b : TypeExpr) → (beq a b = true ↔ a = b)
  | primitive _, b => by cases b <;> simp [beq]
  | named _ a, b => by cases b <;> simp [beq, beqAll_iff a]
  | param _, b => by cases b <;> simp [beq]
  | array a, b => by cases b <;> simp [beq, beq_iff a]
  | map k v, b => by cases b <;> simp [beq, beq_iff k, beq_iff v]
  | pointer a, b => by cases b <;> simp [beq, beq_iff a]
  | optional a, b => by cases b <;> simp [beq, beq_iff a]
  | interface, b => by cases b <;> simp [beq]
  | function, b => by cases b <;> simp [beq]
  | resolved _, b => by cases b <;> simp [beq]

theorem beqAll_iff : (a b : List TypeExpr) → (beqAll a b = true ↔ a = b)
  | [], b => by cases b <;> simp [beqAll]
  | a :: as, b => by cases b <;> simp [beqAll, beq_iff a, beqAll_iff as]

end

instance : DecidableEq TypeExpr := fun a b => decidable_of_iff _ (beq_iff a b)

/-- The type without the optional and pointer wrappers around it. -/
def peel : TypeExpr → TypeExpr
  | pointer inner => inner.peel
  | optional inner => inner.peel
  | other => other

def isOptional : TypeExpr → Bool
  | optional _ => true
  | pointer inner => inner.isOptional
  | _ => false

mutual

def containsParam : TypeExpr → Bool
  | param _ => true
  | named _ args => anyContainsParam args
  | array inner => inner.containsParam
  | pointer inner => inner.containsParam
  | optional inner => inner.containsParam
  | map key value => key.containsParam || value.containsParam
  | _ => false

def anyContainsParam : List TypeExpr → Bool
  | [] => false
  | arg :: rest => arg.containsParam || anyContainsParam rest

end

mutual

/-- The type as one would write it, with one spelling for each wrapper. -/
def display : TypeExpr → String
  | primitive p => p.name
  | named segments [] => Text.joinSegments segments
  | named segments (arg :: rest) =>
    Text.joinSegments segments ++ "<" ++ display arg ++ displayRest rest ++ ">"
  | param name => name
  | array inner => "Vec<" ++ display inner ++ ">"
  | map key value => "HashMap<" ++ display key ++ ", " ++ display value ++ ">"
  | pointer inner => "Box<" ++ display inner ++ ">"
  | optional inner => "Option<" ++ display inner ++ ">"
  | interface => "dyn Any"
  | function => "fn"
  | resolved id => "#" ++ toString id

/-- Further arguments, each after a comma. -/
def displayRest : List TypeExpr → String
  | [] => ""
  | arg :: rest => ", " ++ display arg ++ displayRest rest

end

/-- Types bound to the names of parameters. -/
abbrev Bindings := List (String × TypeExpr)

/-- Of several bindings of one name the last counts. -/
def Bindings.get? (bindings : Bindings) (name : String) : Option TypeExpr :=
  (bindings.reverse.find? fun entry => entry.1 = name).map Prod.snd

mutual

/-- Replace bound parameters at any depth. -/
def substitute (bindings : Bindings) : TypeExpr → TypeExpr
  | param name => (bindings.get? name).getD (param name)
  | named segments args => named segments (substituteAll bindings args)
  | array inner => array (inner.substitute bindings)
  | pointer inner => pointer (inner.substitute bindings)
  | optional inner => optional (inner.substitute bindings)
  | map key value => map (key.substitute bindings) (value.substitute bindings)
  | other => other

def substituteAll (bindings : Bindings) : List TypeExpr → List TypeExpr
  | [] => []
  | arg :: rest => arg.substitute bindings :: substituteAll bindings rest

end

end TypeExpr

end ApiSchema
