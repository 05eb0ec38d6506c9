import ApiSchema.Proofs.Termination
import Mathlib.Data.Finset.Card
import Mathlib.Data.Finset.Range

/-! The schemas that declarations of an unchanging registry have where they are used. A struct or an
enumeration is a reference, and a synonym is written out as long as its schema is simple. Synonyms of
synonyms are followed level by level; what a synonym that leads back to itself is written as never
gets simple, since a reference counts as complex, so after as many levels as there are declarations
nothing changes any more. No synthesis is needed to say all this. -/

namespace ApiSchema

open Steps

namespace Schema

@[simp] theorem isComplex_ref (name : String) (depth : Nat) : (ref name).isComplex depth = true := by
  cases depth <;> rfl

@[simp] theorem isComplex_object (depth : Nat) (doc : Option String) :
    isComplex depth { object with description := doc } = true := by
  cases depth <;> rfl

@[simp] theorem isComplex_map (s : Schema) (depth : Nat) : (map s).isComplex depth = true := by
  cases depth <;> rfl

theorem isComplex_array_zero (s : Schema) : (array s).isComplex 0 = true := rfl

theorem isComplex_array_succ (s : Schema) (depth : Nat) :
    (array s).isComplex (depth + 1) = s.isComplex depth := rfl

/-- What is simple stays so if arrays may nest deeper. -/
theorem isComplex_succ_of_simple (depth : Nat) (s : Schema) (simple : s.isComplex depth = false) :
    s.isComplex (depth + 1) = false := by
  induction depth generalizing s with
  | zero =>
    obtain ⟨keywords, _ | items, properties, additional, allOf, oneOf, anyOf, negated, definitions⟩ := s
    all_goals
      simp only [isComplex, Bool.or_eq_false_iff, Bool.and_true] at simple ⊢
      exact ⟨simple.1, simple.2.1, by simp [simple.2.2]⟩
  | succ depth ih =>
    obtain ⟨keywords, _ | items, properties, additional, allOf, oneOf, anyOf, negated, definitions⟩ := s
    · exact simple
    · simp only [isComplex, Bool.or_eq_false_iff, Bool.and_eq_false_iff] at simple ⊢
      exact ⟨simple.1, simple.2.1, simple.2.2.imp_right (ih items)⟩

theorem isComplex_of_le {s : Schema} {depth deeper : Nat} (le : depth ≤ deeper)
    (simple : s.isComplex depth = false) : s.isComplex deeper = false := by
  induction le with
  | refl => exact simple
  | @step depth _ ih => exact isComplex_succ_of_simple depth s ih

end Schema

/-- Induction over how types nest; the arguments of a name are not looked into. -/
@[elab_as_elim] theorem TypeExpr.nesting_induction {motive : TypeExpr → Prop}
    (primitive : ∀ p, motive (.primitive p)) (named : ∀ segments args, motive (.named segments args))
    (param : ∀ name, motive (.param name)) (array : ∀ inner, motive inner → motive (.array inner))
    (map : ∀ key value, motive value → motive (.map key value))
    (pointer : ∀ inner, motive inner → motive (.pointer inner))
    (optional : ∀ inner, motive inner → motive (.optional inner)) (interface : motive .interface)
    (function : motive .function) (resolved : ∀ id, motive (.resolved id)) (type : TypeExpr) :
    motive type :=
  match type with
  | .primitive p => primitive p
  | .named segments args => named segments args
  | .param name => param name
  | .array inner => array inner (inner.nesting_induction primitive named param array map pointer
      optional interface function resolved)
  | .map key value => map key value (value.nesting_induction primitive named param array map pointer
      optional interface function resolved)
  | .pointer inner => pointer inner (inner.nesting_induction primitive named param array map pointer
      optional interface function resolved)
  | .optional inner => optional inner (inner.nesting_induction primitive named param array map pointer
      optional interface function resolved)
  | .interface => interface
  | .function => function
  | .resolved id => resolved id

namespace Registry

/-- The second registry is the first with more names handed out, all of them the same as before. -/
structure Renamed (r r' : Registry) : Prop where
  same : ∃ names, r' = { r with names }
  names : ∀ id, (r'.definitionName id).1 = (r.definitionName id).1

theorem Renamed.refl (r : Registry) : Renamed r r := ⟨⟨r.names, rfl⟩, fun _ => rfl⟩

theorem definitionName_twice (r : Registry) (id other : DeclId) :
    ((r.definitionName id).2.definitionName other).1 = (r.definitionName other).1 := by
  cases named : r.names.lookup id with
  | some name =>
    have unchanged : (r.definitionName id).2 = r := by simp [definitionName, named]
    rw [unchanged]
  | none =>
    have grown : (r.definitionName id).2 = { r with names := (id, r.freshName id) :: r.names } := by
      simp [definitionName, named]
    rw [grown]
    by_cases same : other = id
    · subst same
      simp [definitionName, named]
    · simp only [definitionName, lookup_cons_of_ne _ _ same]
      cases r.names.lookup other <;> rfl

theorem Renamed.naming {r r' : Registry} (renamed : Renamed r r') (id : DeclId) :
    Renamed r (r'.definitionName id).2 where
  same := by
    obtain ⟨names, rfl⟩ := renamed.same
    unfold definitionName
    split
    · exact ⟨names, rfl⟩
    · exact ⟨_, rfl⟩
  names other := (definitionName_twice r' id other).trans (renamed.names other)

theorem Renamed.decls {r r' : Registry} (renamed : Renamed r r') : r'.decls = r.decls := by
  obtain ⟨names, rfl⟩ := renamed.same
  rfl

theorem Renamed.get {r r' : Registry} (renamed : Renamed r r') (id : DeclId) : r'.get id = r.get id := by
  obtain ⟨names, rfl⟩ := renamed.same
  rfl

theorem viaImports_names (r : Registry) (names : List (DeclId × String)) (levels : Nat) :
    ({ r with names } : Registry).viaImports levels = r.viaImports levels := by
  induction levels with
  | zero => rfl
  | succ levels ih =>
    funext name scope
    simp only [viaImports, ih]
    rfl

/-- Names that were handed out have no part in resolution. -/
theorem Renamed.lookupPath {r r' : Registry} (renamed : Renamed r r') (segments : List String)
    (context : ScopeId) : r'.lookupPath segments context = r.lookupPath segments context := by
  obtain ⟨names, rfl⟩ := renamed.same
  simp only [Registry.lookupPath, resolveUnqualified, resolveQualified, viaImports_names]
  rfl

end Registry

namespace Synthesis

open Registry (Renamed)

abbrev Plain (r : Registry) : Prop := ∀ d ∈ r.decls, d.isGeneric = false

/-- What a name denotes in a scope, as far as it is known without loading. -/
def denoted (r : Registry) (context : ScopeId) (segments : List String) (args : List TypeExpr) :
    Option Resolution :=
  (after (Resolver.resolveExpr false context (.named segments args)) { registry := r }).1.toOption

theorem get_plain {r : Registry} (plain : Plain r) (id : DeclId) : (r.get id).isGeneric = false := by
  cases found : r.get? id with
  | none =>
    simp only [Registry.get, found]
    rfl
  | some d =>
    simp only [Registry.get, found]
    exact plain d (List.mem_of_getElem? found)

/-- Without generics a name with arguments is resolved as its path is. -/
theorem resolveExpr_path {s : Resolver} (plain : Plain s.registry) (context : ScopeId)
    (segments : List String) (args : List TypeExpr) :
    (after (Resolver.resolveExpr false context (.named segments args)) s).1 =
      (Resolver.resolvePath false context segments s).1 := by
  have unchanged := resolveExpr_static plain context (.named segments args)
  simp only [Resolver.resolveExpr, TypeExpr.peel, Resolver.resolveApplied] at unchanged ⊢
  rcases found : Resolver.resolvePath false context segments s with ⟨e | resolution, t⟩
  · rw [run_bind_error (show after (ExceptT.mk (Resolver.resolvePath false context segments)) s = _
      from found)]
  · rw [run_bind_ok (show after (ExceptT.mk (Resolver.resolvePath false context segments)) s = _
      from found)] at unchanged ⊢
    cases resolution with
    | primitive p => rfl
    | any => rfl
    | declaration id =>
      -- the path was resolved without loading, so the state in which the declaration is looked at is `s`
      have same : t = s := by
        have path : (Resolver.resolvePath false context segments s).2 = s := by
          simp only [Resolver.resolvePath]
          split
          · rfl
          · split
            · rfl
            · simp
        simpa [found] using path
      subst same
      rw [run_bind_get]
      simp [get_plain plain]

/-- Resolution in any state over the registry: what a name denotes is the same, and nothing changes. -/
theorem resolveExpr_renamed {r : Registry} {s : Resolver} (plain : Plain r)
    (renamed : Renamed r s.registry) (context : ScopeId) (segments : List String)
    (args : List TypeExpr) :
    after (Resolver.resolveExpr false context (.named segments args)) s =
      ((after (Resolver.resolveExpr false context (.named segments args)) { registry := r }).1, s) := by
  have plain' : Plain s.registry := by
    intro d member
    rw [renamed.decls] at member
    exact plain d member
  refine Prod.ext ?_ (resolveExpr_static plain' context _)
  rw [resolveExpr_path plain', resolveExpr_path (s := { registry := r }) plain]
  simp only [Resolver.resolvePath, renamed.lookupPath]
  split
  · rfl
  · split
    · rfl
    · rfl

section Sites

variable (config : Config) (r : Registry)

/-- The schema of a type by those of declarations; none where a name in it denotes nothing. -/
def typeSite (site : DeclId → Schema) (context : ScopeId) : TypeExpr → Option Schema
  | .primitive p => some (.ofPrimitive p)
  | .optional inner => typeSite site context inner
  | .pointer inner => typeSite site context inner
  | .array inner => (typeSite site context inner).map .array
  | .map _ value => (typeSite site context value).map .map
  | .interface => some .object
  | .function => some .object
  | .param _ => some .object
  | .resolved id => some (site id)
  | .named segments args =>
    match denoted r context segments args with
    | some (.primitive p) => some (.ofPrimitive p)
    | some .any => some .object
    | some (.declaration id) => some (site id)
    | none => none

/-- The schema of a member's type, which is any object if a name in it denotes nothing. -/
def memberSite (site : DeclId → Schema) (context : ScopeId) (type : TypeExpr) : Schema :=
  (typeSite r site context type).getD .object

/-- The declaration that a type leads to, through arrays, wrappers and the values of maps. -/
def typeUse (context : ScopeId) : TypeExpr → Option DeclId
  | .optional inner => typeUse context inner
  | .pointer inner => typeUse context inner
  | .array inner => typeUse context inner
  | .map _ value => typeUse context value
  | .resolved id => some id
  | .named segments args =>
    match denoted r context segments args with
    | some (.declaration id) => some id
    | _ => none
  | _ => none

def outlined (id : DeclId) : Schema :=
  match (r.get id).body with
  | .interface => { Schema.object with description := (r.get id).doc }
  | _ => .ref (r.definitionName id).1

/-- Write a synonym out, if its schema is simple, by the schemas of declarations. -/
def siteStep (site : DeclId → Schema) (id : DeclId) : Schema :=
  match (r.get id).body with
  | .synonym target =>
    let body := memberSite r site (r.get id).scope target
    if body.isComplex config.maxInlineDepth then outlined r id else body
  | _ => outlined r id

/-- The schema of a declaration where it is used, with synonyms followed so many levels. -/
def siteAt : (levels : Nat) → DeclId → Schema
  | 0 => outlined r
  | levels + 1 => siteStep config r (siteAt levels)

def useSite : DeclId → Schema := siteAt config r r.size

end Sites

section Lemmas

variable {config : Config} {r : Registry} {context : ScopeId} {type : TypeExpr} {id : DeclId}

theorem typeSite_congr {site other : DeclId → Schema}
    (same : ∀ id, typeUse r context type = some id → site id = other id) :
    typeSite r site context type = typeSite r other context type := by
  induction type using TypeExpr.nesting_induction with
  | primitive | param | interface | function => rfl
  | optional inner ih | pointer inner ih => exact ih same
  | array inner ih | map key inner ih =>
    simp only [typeSite]
    rw [ih same]
  | resolved id =>
    simp only [typeSite]
    rw [same id rfl]
  | named segments args =>
    simp only [typeSite, typeUse] at same ⊢
    cases meaning : denoted r context segments args with
    | none => rfl
    | some resolution =>
      rw [meaning] at same
      cases resolution with
      | primitive p => rfl
      | any => rfl
      | declaration id =>
        dsimp only
        rw [same id rfl]

theorem typeUse_of_none {site : DeclId → Schema} (absent : typeSite r site context type = none) :
    typeUse r context type = none := by
  induction type using TypeExpr.nesting_induction with
  | primitive | param | interface | function => rfl
  | optional inner ih | pointer inner ih => exact ih absent
  | array inner ih | map key inner ih => exact ih (by simpa [typeSite] using absent)
  | resolved id => simp [typeSite] at absent
  | named segments args =>
    simp only [typeSite, typeUse] at absent ⊢
    cases meaning : denoted r context segments args with
    | none => rfl
    | some resolution =>
      rw [meaning] at absent
      cases resolution <;> simp at absent

/-- A simple schema has nothing complex in it. -/
theorem typeSite_simple {site : DeclId → Schema} {s : Schema} {depth : Nat}
    (made : typeSite r site context type = some s) (simple : s.isComplex depth = false)
    (leads : typeUse r context type = some id) : (site id).isComplex depth = false := by
  induction type using TypeExpr.nesting_induction generalizing s depth with
  | primitive | param | interface | function => cases leads
  | optional inner ih | pointer inner ih => exact ih made simple leads
  | array inner ih =>
    obtain ⟨items, place, rfl⟩ := Option.map_eq_some_iff.mp made
    cases depth with
    | zero => simp [Schema.isComplex_array_zero] at simple
    | succ depth =>
      rw [Schema.isComplex_array_succ] at simple
      exact Schema.isComplex_succ_of_simple depth _ (ih place simple leads)
  | map key value ih =>
    obtain ⟨inner, place, rfl⟩ := Option.map_eq_some_iff.mp made
    simp at simple
  | resolved other =>
    cases leads
    cases made
    exact simple
  | named segments args =>
    simp only [typeSite, typeUse] at made leads
    cases meaning : denoted r context segments args with
    | none => simp [meaning] at leads
    | some resolution =>
      rw [meaning] at made leads
      cases resolution with
      | primitive p => cases leads
      | any => cases leads
      | declaration other =>
        cases leads
        cases made
        exact simple

theorem memberSite_simple {site : DeclId → Schema} {depth : Nat}
    (simple : (memberSite r site context type).isComplex depth = false)
    (leads : typeUse r context type = some id) : (site id).isComplex depth = false := by
  cases made : typeSite r site context type with
  | none =>
    rw [typeUse_of_none made] at leads
    cases leads
  | some s =>
    refine typeSite_simple made ?_ leads
    simpa [memberSite, made] using simple

def Inlined (config : Config) (r : Registry) (levels : Nat) (id : DeclId) : Prop :=
  (siteAt config r levels id).isComplex config.maxInlineDepth = false

theorem outlined_complex (r : Registry) (id : DeclId) (depth : Nat) :
    (outlined r id).isComplex depth = true := by
  unfold outlined
  split
  · exact Schema.isComplex_object depth _
  · exact Schema.isComplex_ref _ depth

/-- Only synonyms are written out, and as what their target is. -/
theorem Inlined.synonym {levels : Nat} (simple : Inlined config r (levels + 1) id) :
    ∃ target, (r.get id).body = .synonym target ∧
      siteAt config r (levels + 1) id = memberSite r (siteAt config r levels) (r.get id).scope target := by
  rw [Inlined, siteAt, siteStep] at simple
  split at simple
  · next target body =>
    dsimp only at simple
    split at simple
    · rw [outlined_complex] at simple
      cases simple
    · next plain =>
      refine ⟨target, body, ?_⟩
      simp only [siteAt, siteStep, body, plain]
      rfl
  · rw [outlined_complex] at simple
    cases simple

theorem not_simple_zero (id : DeclId) : ¬Inlined config r 0 id := by
  intro simple
  have simple : (outlined r id).isComplex config.maxInlineDepth = false := simple
  rw [outlined_complex] at simple
  cases simple

theorem siteAt_of_complex {levels : Nat} (complex : ¬Inlined config r levels id) :
    siteAt config r levels id = outlined r id := by
  cases levels with
  | zero => rfl
  | succ levels =>
    rw [Inlined, siteAt, siteStep] at complex
    rw [siteAt, siteStep]
    split
    · next target body =>
      simp only [body] at complex
      dsimp only
      split
      · rfl
      · next plain =>
        rw [if_neg plain] at complex
        exact absurd (by simpa using plain) complex
    · rfl

/-- The next level of a synonym that is written out is written out with one level less. -/
theorem Inlined.used {levels : Nat} {target : TypeExpr} {other : DeclId}
    (simple : Inlined config r (levels + 1) id) (body : (r.get id).body = .synonym target)
    (leads : typeUse r (r.get id).scope target = some other) : Inlined config r levels other := by
  obtain ⟨target', body', written⟩ := simple.synonym
  obtain rfl : target = target' := by
    rw [body] at body'
    exact Body.synonym.inj body'
  unfold Inlined at simple
  rw [written] at simple
  exact memberSite_simple simple leads

/-- A synonym that is written out is so still, as the same schema, under a limit that is no lower, if
what it leads to is. -/
theorem Inlined.siteStep_eq {config' : Config} {site : DeclId → Schema} {levels : Nat}
    (simple : Inlined config r (levels + 1) id) (le : config.maxInlineDepth ≤ config'.maxInlineDepth)
    (agrees : ∀ {other}, Inlined config r levels other → site other = siteAt config r levels other) :
    siteStep config' r site id = siteAt config r (levels + 1) id := by
  obtain ⟨target, body, written⟩ := simple.synonym
  have same : memberSite r site (r.get id).scope target =
      memberSite r (siteAt config r levels) (r.get id).scope target := by
    unfold memberSite
    rw [typeSite_congr fun other leads => agrees (simple.used body leads)]
  have plain : (memberSite r (siteAt config r levels) (r.get id).scope target).isComplex
      config'.maxInlineDepth = false := Schema.isComplex_of_le le (written ▸ simple)
  rw [written, siteStep]
  simp only [body, same, plain]
  rfl

/-- What is written out stays as it is with more levels. -/
theorem Inlined.siteAt_succ {levels : Nat} (simple : Inlined config r levels id) :
    siteAt config r (levels + 1) id = siteAt config r levels id := by
  induction levels generalizing id with
  | zero => exact absurd simple (not_simple_zero id)
  | succ levels ih => exact simple.siteStep_eq le_rfl fun used => ih used

theorem Inlined.succ {levels : Nat} (simple : Inlined config r levels id) :
    Inlined config r (levels + 1) id := by
  unfold Inlined
  rw [simple.siteAt_succ]
  exact simple

theorem Inlined.registered {levels : Nat} (simple : Inlined config r levels id) : id < r.size := by
  cases levels with
  | zero => exact absurd simple (not_simple_zero id)
  | succ levels =>
    obtain ⟨target, body, _⟩ := simple.synonym
    exact registered_of_body (by simp [body])

open Classical in
noncomputable def writtenOut (config : Config) (r : Registry) (levels : Nat) : Finset DeclId :=
  (Finset.range r.size).filter (Inlined config r levels)

theorem mem_writtenOut {levels : Nat} : id ∈ writtenOut config r levels ↔ Inlined config r levels id := by
  classical
  rw [writtenOut, Finset.mem_filter, Finset.mem_range]
  exact and_iff_right_of_imp Inlined.registered

theorem siteAt_eq_of_writtenOut {levels : Nat}
    (same : writtenOut config r (levels + 1) = writtenOut config r levels) :
    siteAt config r (levels + 1) = siteAt config r levels := by
  funext id
  by_cases simple : Inlined config r levels id
  · exact simple.siteAt_succ
  · have still : ¬Inlined config r (levels + 1) id := by
      rw [← mem_writtenOut, same, mem_writtenOut]
      exact simple
    rw [siteAt_of_complex still, siteAt_of_complex simple]

/-- Until nothing changes any more each level adds a declaration that is written out. -/
theorem levels_le_card (levels : Nat) :
    siteAt config r (levels + 1) = siteAt config r levels ∨
      levels + 1 ≤ (writtenOut config r (levels + 1)).card := by
  have grows (n : Nat) : writtenOut config r n ⊆ writtenOut config r (n + 1) := fun other member =>
    mem_writtenOut.mpr (mem_writtenOut.mp member).succ
  have strict (n : Nat) : siteAt config r (n + 1) = siteAt config r n ∨
      (writtenOut config r n).card < (writtenOut config r (n + 1)).card := by
    by_cases same : writtenOut config r n = writtenOut config r (n + 1)
    · exact .inl (siteAt_eq_of_writtenOut same.symm)
    · exact .inr (Finset.card_lt_card ((grows n).ssubset_of_ne same))
  induction levels with
  | zero => exact (strict 0).imp_right fun more => by omega
  | succ levels ih =>
    rcases ih with stable | enough
    · exact .inl (congrArg (siteStep config r) stable)
    · exact (strict (levels + 1)).imp_right fun more => by omega

/-- As many levels as there are declarations are enough. -/
theorem siteAt_size : siteAt config r (r.size + 1) = siteAt config r r.size := by
  rcases @levels_le_card config r r.size with stable | many
  · exact stable
  · classical
    have few : (writtenOut config r (r.size + 1)).card ≤ (Finset.range r.size).card :=
      Finset.card_le_card (Finset.filter_subset _ _)
    rw [Finset.card_range] at few
    omega

/-- A synonym is written out as its target is, unless that is complex. -/
theorem useSite_synonym {target : TypeExpr} (body : (r.get id).body = .synonym target) :
    useSite config r id =
      if (memberSite r (useSite config r) (r.get id).scope target).isComplex config.maxInlineDepth
      then .ref (r.definitionName id).1
      else memberSite r (useSite config r) (r.get id).scope target := by
  have outline : outlined r id = .ref (r.definitionName id).1 := by simp [outlined, body]
  have stable : useSite config r = siteStep config r (useSite config r) := siteAt_size.symm
  have step : useSite config r id = siteStep config r (useSite config r) id := congrFun stable id
  rw [step, siteStep]
  simp only [body, outline]

/-- A synonym whose target is simple is written out in the end. -/
theorem simple_of_synonym {target : TypeExpr} (body : (r.get id).body = .synonym target)
    (simple : ¬(memberSite r (useSite config r) (r.get id).scope target).isComplex config.maxInlineDepth) :
    Inlined config r r.size id := by
  have written : useSite config r id = _ := (useSite_synonym body).trans (if_neg simple)
  rw [Inlined, ← useSite, written]
  simpa using simple

theorem useSite_of_complex (complex : ¬Inlined config r r.size id) (body : (r.get id).body ≠ .interface) :
    useSite config r id = .ref (r.definitionName id).1 := by
  rw [useSite, siteAt_of_complex complex, outlined]
  split
  · next same => exact absurd same body
  · rfl

theorem not_simple_of_other (other : ∀ target, (r.get id).body ≠ .synonym target) (levels : Nat) :
    ¬Inlined config r levels id := by
  cases levels with
  | zero => exact not_simple_zero id
  | succ levels =>
    intro simple
    obtain ⟨target, body, _⟩ := simple.synonym
    exact other target body

theorem useSite_named (other : ∀ target, (r.get id).body ≠ .synonym target)
    (body : (r.get id).body ≠ .interface) : useSite config r id = .ref (r.definitionName id).1 :=
  useSite_of_complex (not_simple_of_other other _) body

theorem useSite_interface (body : (r.get id).body = .interface) :
    useSite config r id = { Schema.object with description := (r.get id).doc } := by
  have complex : ¬Inlined config r r.size id := not_simple_of_other (by simp [body]) _
  rw [useSite, siteAt_of_complex complex, outlined, body]

/-- A declaration whose levels go down for ever is never written out. -/
theorem never_simple (down : ∀ n, Inlined config r (n + 1) id → Inlined config r n id) (levels : Nat) :
    ¬Inlined config r levels id := by
  induction levels with
  | zero => exact not_simple_zero id
  | succ levels ih => exact fun simple => ih (down levels simple)

end Lemmas

end Synthesis

end ApiSchema
