import ApiSchema.Proofs.PackageTables

/-! Arguments in the places of parameters. Reading a declaration marks the names in its types that are
parameters of its own; making an instance puts an argument wherever a parameter stands. The two go through
types in different ways and must agree: no parameter is left in an instance, and apart from its types
nothing in it differs from the generic. -/

namespace ApiSchema

open Source (Fields Item TypeTerm)

namespace TypeExpr

mutual

def mentioned : TypeExpr → List String
  | param name => [name]
  | named _ args => allMentioned args
  | array inner => inner.mentioned
  | pointer inner => inner.mentioned
  | optional inner => inner.mentioned
  | map key value => key.mentioned ++ value.mentioned
  | _ => []

def allMentioned : List TypeExpr → List String
  | [] => []
  | arg :: rest => arg.mentioned ++ allMentioned rest

end

/-- The argument in the place of a parameter; of several parameters of one name the last one counts. -/
def LastGiven (params : List String) (args : List TypeExpr) (name : String) (arg : TypeExpr) : Prop :=
  ∃ i : Nat, params[i]? = some name ∧ args[i]? = some arg ∧ ∀ j : Nat, i < j → params[j]? ≠ some name

/-- The second type is the first one with arguments in the places of its parameters. -/
inductive Filled (given : String → TypeExpr → Prop) : TypeExpr → TypeExpr → Prop where
  | param {name : String} {arg : TypeExpr} (argument : given name arg) : Filled given (.param name) arg
  | named {segments : List String} {args args' : List TypeExpr} (each : List.Forall₂ (Filled given) args args') :
    Filled given (.named segments args) (.named segments args')
  | array {inner inner' : TypeExpr} (element : Filled given inner inner') :
    Filled given (.array inner) (.array inner')
  | pointer {inner inner' : TypeExpr} (target : Filled given inner inner') :
    Filled given (.pointer inner) (.pointer inner')
  | optional {inner inner' : TypeExpr} (inside : Filled given inner inner') :
    Filled given (.optional inner) (.optional inner')
  | map {key key' value value' : TypeExpr} (keys : Filled given key key') (values : Filled given value value') :
    Filled given (.map key value) (.map key' value')
  | primitive (p : Primitive) : Filled given (.primitive p) (.primitive p)
  | interface : Filled given .interface .interface
  | function : Filled given .function .function
  | resolved (id : DeclId) : Filled given (.resolved id) (.resolved id)

section Bindings

variable {bindings : Bindings} {name : String} {arg : TypeExpr}

theorem Bindings.get?_last (found : bindings.get? name = some arg) :
    ∃ i : Nat, bindings[i]? = some (name, arg) ∧
      ∀ j : Nat, i < j → ∀ other, bindings[j]? ≠ some (name, other) := by
  obtain ⟨⟨name', arg'⟩, here, rfl⟩ := Option.map_eq_some_iff.mp found
  obtain ⟨named, before, after, split, apart⟩ := List.find?_eq_some_iff_append.mp here
  obtain rfl : name' = name := by simpa using named
  have whole : bindings = after.reverse ++ (name', arg') :: before.reverse := by
    simpa using congrArg List.reverse split
  refine ⟨after.reverse.length, by simp [whole], fun j later other found => ?_⟩
  have member : (name', other) ∈ before.reverse := by
    rw [whole, List.getElem?_append_right (Nat.le_of_lt later)] at found
    obtain ⟨k, step⟩ : ∃ k, j - after.reverse.length = k + 1 := ⟨j - after.reverse.length - 1, by omega⟩
    rw [step, List.getElem?_cons_succ] at found
    exact List.mem_of_getElem? found
  simpa using apart _ (List.mem_reverse.mp member)

theorem Bindings.get?_of_mem (member : (name, arg) ∈ bindings) : ∃ other, bindings.get? name = some other := by
  have found : (bindings.reverse.find? fun entry => entry.1 = name).isSome = true :=
    List.find?_isSome.mpr ⟨_, List.mem_reverse.mpr member, by simp⟩
  obtain ⟨entry, here⟩ := Option.isSome_iff_exists.mp found
  exact ⟨entry.2, by rw [get?, here]; rfl⟩

variable {params : List String} {args : List TypeExpr}

theorem given_of_get? (arity : args.length = params.length)
    (found : Bindings.get? (params.zip args) name = some arg) : LastGiven params args name arg := by
  obtain ⟨i, here, last⟩ := Bindings.get?_last found
  obtain ⟨param, argument⟩ := List.getElem?_zip_eq_some.mp here
  refine ⟨i, param, argument, fun j later again => ?_⟩
  have inside : j < args.length := arity ▸ (List.getElem?_eq_some_iff.mp again).1
  exact last j later args[j] (List.getElem?_zip_eq_some.mpr ⟨again, List.getElem?_eq_getElem inside⟩)

theorem get?_of_param (arity : args.length = params.length) (member : name ∈ params) :
    ∃ arg ∈ args, Bindings.get? (params.zip args) name = some arg := by
  obtain ⟨i, bound, rfl⟩ := List.mem_iff_getElem.mp member
  have inside : i < args.length := arity ▸ bound
  have pair : (params[i], args[i]) ∈ params.zip args := by
    refine List.mem_of_getElem? (i := i) (List.getElem?_zip_eq_some.mpr ⟨?_, ?_⟩)
    · exact List.getElem?_eq_getElem bound
    · exact List.getElem?_eq_getElem inside
  obtain ⟨arg, found⟩ := Bindings.get?_of_mem pair
  obtain ⟨_, _, argument, _⟩ := given_of_get? arity found
  exact ⟨arg, List.mem_of_getElem? argument, found⟩

end Bindings

section Substitution

variable {bindings : Bindings} {fits : String → TypeExpr → Prop}

def Binds (bindings : Bindings) (fits : String → TypeExpr → Prop) (names : List String) : Prop :=
  ∀ name ∈ names, ∃ arg, bindings.get? name = some arg ∧ fits name arg

theorem binds_append {names names' : List String} :
    Binds bindings fits (names ++ names') ↔ Binds bindings fits names ∧ Binds bindings fits names' :=
  List.forall_mem_append

mutual

/-- A type whose parameters are all bound is filled with what they are bound to. -/
theorem substitute_filled : (type : TypeExpr) → Binds bindings fits type.mentioned →
    Filled fits type (type.substitute bindings)
  | .param name, binds => by
    obtain ⟨arg, found, fit⟩ := binds name List.mem_cons_self
    rw [substitute, found]
    exact .param fit
  | .named segments args, binds => .named (substituteAll_filled args binds)
  | .array inner, binds => .array (substitute_filled inner binds)
  | .pointer inner, binds => .pointer (substitute_filled inner binds)
  | .optional inner, binds => .optional (substitute_filled inner binds)
  | .map key value, binds => by
    obtain ⟨keys, values⟩ := binds_append.mp binds
    exact .map (substitute_filled key keys) (substitute_filled value values)
  | .primitive p, _ => .primitive p
  | .interface, _ => .interface
  | .function, _ => .function
  | .resolved id, _ => .resolved id

theorem substituteAll_filled : (types : List TypeExpr) → Binds bindings fits (allMentioned types) →
    List.Forall₂ (Filled fits) types (substituteAll bindings types)
  | [], _ => .nil
  | type :: rest, binds => by
    obtain ⟨first, others⟩ := binds_append.mp binds
    exact .cons (substitute_filled type first) (substituteAll_filled rest others)

end

mutual

/-- A type whose parameters are all bound to types without parameters is left without any. -/
theorem substitute_closed : (type : TypeExpr) →
    Binds bindings (fun _ arg => arg.containsParam = false) type.mentioned →
      (type.substitute bindings).containsParam = false
  | .param name, binds => by
    obtain ⟨arg, found, closed⟩ := binds name List.mem_cons_self
    rw [substitute, found]
    exact closed
  | .named _ args, binds => substituteAll_closed args binds
  | .array inner, binds => substitute_closed inner binds
  | .pointer inner, binds => substitute_closed inner binds
  | .optional inner, binds => substitute_closed inner binds
  | .map key value, binds => by
    obtain ⟨keys, values⟩ := binds_append.mp binds
    simp only [substitute, containsParam, substitute_closed key keys, substitute_closed value values,
      Bool.or_self]
  | .primitive _, _ => rfl
  | .interface, _ => rfl
  | .function, _ => rfl
  | .resolved _, _ => rfl

theorem substituteAll_closed : (types : List TypeExpr) →
    Binds bindings (fun _ arg => arg.containsParam = false) (allMentioned types) →
      anyContainsParam (substituteAll bindings types) = false
  | [], _ => rfl
  | type :: rest, binds => by
    obtain ⟨first, others⟩ := binds_append.mp binds
    simp only [substituteAll, anyContainsParam, substitute_closed type first,
      substituteAll_closed rest others, Bool.or_self]

end

end Substitution

end TypeExpr

section Bodies

variable (f : TypeExpr → TypeExpr)

def Field.mapType (field : Field) : Field := { field with type := f field.type }

namespace Payload

def mapTypes : Payload → Payload
  | tuple types => tuple (types.map f)
  | record fields => record (fields.map (Field.mapType f))

def types : Payload → List TypeExpr
  | tuple types => types
  | record fields => fields.map Field.type

end Payload

namespace Variant

def mapTypes (variant : Variant) : Variant :=
  { variant with payload := variant.payload.map (Payload.mapTypes f) }

def types (variant : Variant) : List TypeExpr := (variant.payload.map Payload.types).getD []

end Variant

namespace Body

def mapTypes : Body → Body
  | struct fields => struct (fields.map (Field.mapType f))
  | synonym target => synonym (f target)
  | enum variants => enum (variants.map (Variant.mapTypes f))
  | interface => interface

def types : Body → List TypeExpr
  | struct fields => fields.map Field.type
  | synonym target => [target]
  | enum variants => variants.flatMap Variant.types
  | interface => []

/-- What is left of a body when its types are struck out. -/
def shape (body : Body) : Body := body.mapTypes fun _ => .interface

end Body

theorem Payload.types_mapTypes (payload : Payload) : (payload.mapTypes f).types = payload.types.map f := by
  cases payload with
  | tuple types => rfl
  | record fields => simp [mapTypes, types, Field.mapType, Function.comp_def]

theorem Variant.types_mapTypes (variant : Variant) : (variant.mapTypes f).types = variant.types.map f := by
  cases payload : variant.payload with
  | none => simp [mapTypes, types, payload]
  | some inside => simp [mapTypes, types, payload, inside.types_mapTypes]

theorem Body.types_mapTypes (body : Body) : (body.mapTypes f).types = body.types.map f := by
  cases body with
  | struct fields => simp [mapTypes, types, Field.mapType, Function.comp_def]
  | synonym target => rfl
  | enum variants => simp [mapTypes, types, List.flatMap_map, List.map_flatMap, Variant.types_mapTypes]
  | interface => rfl

theorem Payload.mapTypes_mapTypes (g : TypeExpr → TypeExpr) (payload : Payload) :
    (payload.mapTypes f).mapTypes g = payload.mapTypes (g ∘ f) := by
  cases payload <;> simp [mapTypes, Field.mapType, Function.comp_def]

theorem Body.mapTypes_mapTypes (g : TypeExpr → TypeExpr) (body : Body) :
    (body.mapTypes f).mapTypes g = body.mapTypes (g ∘ f) := by
  have payloads : Payload.mapTypes g ∘ Payload.mapTypes f = Payload.mapTypes (g ∘ f) :=
    funext (Payload.mapTypes_mapTypes f g)
  cases body with
  | struct fields => simp [mapTypes, Field.mapType, Function.comp_def]
  | synonym target => rfl
  | enum variants => simp [mapTypes, Variant.mapTypes, payloads]
  | interface => rfl

theorem Body.shape_mapTypes (body : Body) : (body.mapTypes f).shape = body.shape :=
  body.mapTypes_mapTypes f _

theorem Body.substitute_eq (bindings : TypeExpr.Bindings) (body : Body) :
    body.substitute bindings = body.mapTypes (TypeExpr.substitute bindings) := by
  cases body <;> rfl

end Bodies

section Reading

open TypeExpr

variable {params : List String}

theorem TypeExpr.allMentioned_eq (args : List TypeExpr) : allMentioned args = args.flatMap mentioned := by
  induction args with
  | nil => rfl
  | cons arg rest ih => rw [allMentioned, List.flatMap_cons, ih]

theorem TypeExpr.mentioned_wrapper {name : String} {args : List TypeExpr} {type : TypeExpr}
    (wrapped : wrapper? name args = some type) : type.mentioned ⊆ allMentioned args :=
  allMentioned_eq args ▸
    wrapper?_collects (fun _ => rfl) (fun _ => rfl) (fun _ => rfl) (fun _ _ => rfl) rfl wrapped

mutual

/-- Only names of parameters are read as parameters. -/
theorem TypeExpr.mentioned_ofTerm : (term : TypeTerm) → (ofTerm params term).mentioned ⊆ params
  | .path _ segments args => by
    have inner := TypeExpr.mentioned_ofTerms args
    rw [ofTerm]
    exact ofPath_cases inner (fun _ member => by simpa [mentioned] using member)
      (fun _ _ _ => List.nil_subset _) (List.nil_subset _)
      fun _ _ wrapped => List.Subset.trans (mentioned_wrapper wrapped) inner
  | .reference target => TypeExpr.mentioned_ofTerm target
  | .sequence element => TypeExpr.mentioned_ofTerm element
  | .paren inner => TypeExpr.mentioned_ofTerm inner
  | .function => List.nil_subset _
  | .other => List.nil_subset _

theorem TypeExpr.mentioned_ofTerms : (terms : List TypeTerm) → allMentioned (ofTerms params terms) ⊆ params
  | [] => List.nil_subset _
  | term :: rest => by
    rw [ofTerms, allMentioned]
    exact List.append_subset.mpr ⟨TypeExpr.mentioned_ofTerm term, TypeExpr.mentioned_ofTerms rest⟩

end

section Members

variable {P : TypeExpr → Prop} (term : ∀ term, P (ofTerm params term)) (array : ∀ type, P type → P (.array type))
  (any : P .interface)

include any in
theorem commonType_of_each {types : List TypeExpr} (each : ∀ type ∈ types, P type) : P (commonType types) := by
  unfold commonType
  split
  · exact any
  · split
    · exact each _ List.mem_cons_self
    · exact any

include term array any in
/-- What holds of every type that is read holds of the types of members that are read. -/
theorem Body.ofFields_types (fields : Fields) : ∀ type ∈ (Body.ofFields params fields).types, P type := by
  intro type member
  unfold Body.ofFields at member
  split at member
  · next items =>
    simp only [types, List.map_map, List.mem_map] at member
    obtain ⟨item, _, rfl⟩ := member
    exact term item.type
  · next only =>
    rw [List.mem_singleton.mp member]
    exact term only
  · next terms _ =>
    rw [List.mem_singleton.mp member]
    refine array _ (commonType_of_each any fun inside among => ?_)
    obtain ⟨element, _, rfl⟩ := List.mem_map.mp among
    exact term element
  · cases member

include term in
theorem Variant.ofItem_types (item : Source.VariantItem) :
    ∀ type ∈ (Variant.ofItem params item).types, P type := by
  intro type member
  cases shape : item.fields with
  | named fields =>
    simp only [Variant.types, Variant.ofItem, Payload.ofFields?, shape, Option.map_some, Option.getD_some,
      Payload.types, List.map_map, List.mem_map] at member
    obtain ⟨field, _, rfl⟩ := member
    exact term field.type
  | unnamed terms =>
    simp only [Variant.types, Variant.ofItem, Payload.ofFields?, shape, Option.map_some, Option.getD_some,
      Payload.types, List.mem_map] at member
    obtain ⟨element, _, rfl⟩ := member
    exact term element
  | unit => simp [Variant.types, Variant.ofItem, Payload.ofFields?, shape] at member

end Members

theorem Declaration.ofItem?_types {package : String} {scope : ScopeId} {item : Item} {d : Declaration}
    (read : Declaration.ofItem? package scope item = some d) {P : TypeExpr → Prop}
    (term : ∀ term, P (ofTerm d.params term)) (array : ∀ type, P type → P (.array type)) (any : P .interface) :
    ∀ type ∈ d.body.types, P type := by
  intro type member
  cases item with
  | struct header fields =>
    cases read
    exact Body.ofFields_types term array any fields type member
  | enum header variants =>
    cases read
    simp only [ofHeader, Body.types, List.flatMap_map, List.mem_flatMap] at member
    obtain ⟨variant, _, inside⟩ := member
    exact Variant.ofItem_types term variant type inside
  | typeAlias header target =>
    cases read
    rw [List.mem_singleton.mp member]
    exact term target
  | trait header =>
    cases read
    cases member
  | imports | submodule | other => cases read

/-- The types of members that are read from a declaration have only its own parameters. -/
theorem Declaration.ofItem?_mentioned {package : String} {scope : ScopeId} {item : Item} {d : Declaration}
    (read : Declaration.ofItem? package scope item = some d) :
    ∀ type ∈ d.body.types, type.mentioned ⊆ d.params :=
  Declaration.ofItem?_types read TypeExpr.mentioned_ofTerm (fun _ inner => inner) (List.nil_subset _)

end Reading

namespace Registry

open TypeExpr (Filled LastGiven)

/-- Making an instance that is not registered yet adds one declaration. It is the generic but for its name,
its parameters and its types, which are those of the generic with arguments in the places of parameters. -/
theorem instantiate_new {r : Registry} {g : DeclId} {args : List TypeExpr}
    (arity : args.length = (r.get g).params.length)
    (new : r.lookup? (r.get g).package (instanceName (r.get g).name args r).1 = none) :
    (r.instantiate g args).1 = .ok r.size ∧ (r.instantiate g args).2.decls =
      r.decls ++ [instanceOf (r.get g) (instanceName (r.get g).name args r).1 args] := by
  obtain ⟨names, same⟩ := instanceName_frame args (r.get g).name r
  have new' : (instanceName (r.get g).name args r).2.lookup? (r.get g).package
      (instanceName (r.get g).name args r).1 = none := by
    rw [same]
    exact new
  obtain ⟨last, decls, _⟩ := insert_unused
    (d := instanceOf (r.get g) (instanceName (r.get g).name args r).1 args) new'
  simp only [instantiate, arity, ne_eq, not_true_eq_false, if_false, new', last, decls]
  rw [same]
  exact ⟨rfl, rfl⟩

/-- Let a declaration be read from source. With a wrong number of arguments making an instance fails and
changes nothing. With one argument for each parameter, none of which has parameters itself, an instance that
is not registered yet comes last; all that was registered stays. It is the generic with another name and no
parameters, its body is that of the generic but for the types, and each of these is the generic's type with
arguments in the places of parameters, so that no parameter is left. -/
theorem instantiate_substitutes {r : Registry} {g : DeclId} {generic : Declaration} {package : String}
    {scope : ScopeId} {item : Item} (read : Declaration.ofItem? package scope item = some generic)
    (known : r.get? g = some generic) (args : List TypeExpr) :
    (args.length ≠ generic.params.length → r.instantiate g args =
      (.error (.arityMismatch generic.parametrizedName generic.params.length args.length), r)) ∧
    (args.length = generic.params.length → (∀ arg ∈ args, arg.containsParam = false) →
      r.lookup? generic.package (instanceName generic.name args r).1 = none →
      ∃ body : Body, (r.instantiate g args).1 = .ok r.size ∧
        (r.instantiate g args).2.decls =
          r.decls ++ [{ generic with name := (instanceName generic.name args r).1, params := [], body }] ∧
        (∀ type ∈ body.types, type.containsParam = false) ∧ body.shape = generic.body.shape ∧
        List.Forall₂ (Filled (LastGiven generic.params args)) generic.body.types body.types) := by
  have own : r.get g = generic := by simp [get, known]
  refine ⟨fun mismatch => by simp [instantiate, own, mismatch], fun arity closed new => ?_⟩
  obtain ⟨made, decls⟩ := instantiate_new (own ▸ arity) (own ▸ new)
  rw [own] at decls
  let bindings : TypeExpr.Bindings := generic.params.zip args
  have types : (generic.body.substitute bindings).types = generic.body.types.map (TypeExpr.substitute bindings) := by
    rw [Body.substitute_eq, Body.types_mapTypes]
  have bound (type : TypeExpr) (member : type ∈ generic.body.types) : TypeExpr.Binds bindings
      (fun name arg => LastGiven generic.params args name arg ∧ arg.containsParam = false) type.mentioned := by
    intro name mention
    obtain ⟨arg, given, found⟩ :=
      TypeExpr.get?_of_param arity (Declaration.ofItem?_mentioned read type member mention)
    exact ⟨arg, found, TypeExpr.given_of_get? arity found, closed arg given⟩
  refine ⟨generic.body.substitute bindings, made, decls, ?_, ?_, ?_⟩
  · rw [types]
    intro type member
    obtain ⟨before, inside, rfl⟩ := List.mem_map.mp member
    exact TypeExpr.substitute_closed before fun name mention =>
      (bound before inside name mention).imp fun _ found => ⟨found.1, found.2.2⟩
  · rw [Body.substitute_eq, Body.shape_mapTypes]
  · rw [types, List.forall₂_map_right_iff, List.forall₂_same]
    intro type member
    exact TypeExpr.substitute_filled type fun name mention =>
      (bound type member name mention).imp fun _ found => ⟨found.1, found.2.1⟩

/-- Parameters behind wrappers, in arguments of other generics, in a tuple and in a record. -/
theorem instantiate_substitutes_tree :
    let type (name : String) (args : List TypeTerm) := TypeTerm.path { applied := !args.isEmpty } [name] args
    let node := Fields.unnamed [type "Box" [type "Tree" [type "K" [], type "V" []]], type "u8" []]
    let shelf := Fields.named [⟨[], "by", false, type "HashMap" [type "K" [], type "Vec" [type "V" []]]⟩]
    let item := Item.enum ⟨[], "Tree", ["K", "V"]⟩ [⟨[], "Node", node, none⟩, ⟨[], "Shelf", shelf, none⟩]
    let generic := (Declaration.ofItem? "crate::web" 0 item).getD default
    let r := (empty.insert generic).2
    let args := [TypeExpr.primitive .string, .array (.resolved 0)]
    r.instantiate 0 [] = (.error (.arityMismatch "web.Tree<K,V>" 2 0), r) ∧
    ∃ body : Body, (r.instantiate 0 args).1 = .ok 1 ∧
      (r.instantiate 0 args).2.decls =
        [generic, { generic with name := "Tree-String-array_web_Tree", params := [], body }] ∧
      (∀ type ∈ body.types, type.containsParam = false) ∧ body.shape = generic.body.shape ∧
      List.Forall₂ (Filled (LastGiven ["K", "V"] args)) generic.body.types body.types := by
  intro type node shelf item generic r args
  have read : Declaration.ofItem? "crate::web" 0 item = some generic := rfl
  have decls : r.decls = [generic] := (insert_unused rfl).2.1
  have known : r.get? 0 = some generic := by rw [get?, decls]; rfl
  have called : (instanceName "Tree" args r).1 = "Tree-String-array_web_Tree" := by decide +kernel
  have new : r.lookup? "crate::web" (instanceName "Tree" args r).1 = none := by decide +kernel
  have closed : ∀ arg ∈ args, arg.containsParam = false := by decide
  have display : generic.parametrizedName = "web.Tree<K,V>" := by decide +kernel
  have mismatch := (instantiate_substitutes read known []).1
  obtain ⟨body, made, added, rest⟩ := (instantiate_substitutes read known args).2 rfl closed new
  refine ⟨?_, body, ?_, ?_, rest⟩
  · rw [mismatch (by decide), display]
    rfl
  · rw [made, size, decls]
    rfl
  · rw [← called, added, decls]
    rfl

end Registry

end ApiSchema
