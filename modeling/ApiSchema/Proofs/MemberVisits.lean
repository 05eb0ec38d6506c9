import ApiSchema.Proofs.UseSites

/-! What the rules for the body of a declaration visit. Every member that is not left out is
visited, the annotations of direct fields are laid over the schema of their type, and the body is
what the same rules make if the schemas of nested declarations are simply handed out. Only a
flattened field looks at more than that: it reads the definition behind its type. -/

namespace ApiSchema

open Steps

section Kept

variable (config : Config)

def Field.kept (fields : List Field) : List Field := fields.filter fun field => !field.isSkipped config

namespace Payload

def keptFields : Payload → List Field
  | record fields => Field.kept config fields
  | tuple _ => []

def memberTypes : Payload → List TypeExpr
  | record fields => (Field.kept config fields).map Field.type
  | tuple types => types

end Payload

namespace Variant

def keptFields (v : Variant) : List Field := (v.payload.map (Payload.keptFields config)).getD []

def memberTypes (v : Variant) : List TypeExpr := (v.payload.map (Payload.memberTypes config)).getD []

end Variant

namespace Body

def keptFields : Body → List Field
  | struct fields => Field.kept config fields
  | enum variants => (variants.filter fun v => !v.skip).flatMap (Variant.keptFields config)
  | _ => []

def memberTypes : Body → List TypeExpr
  | struct fields => (Field.kept config fields).map Field.type
  | synonym target => [target]
  | enum variants => (variants.filter fun v => !v.skip).flatMap (Variant.memberTypes config)
  | interface => []

end Body

end Kept

namespace Synthesis

open Registry (Renamed)

variable {α β : Type}

def origin (r : Registry) : Generator := { resolver := { registry := r } }

/-- The step comes to the result, started where nothing has been made, and makes nothing. -/
def Computes (r : Registry) (x : Synth α) (a : α) : Prop := after x (origin r) = (.ok a, origin r)

def handing (site : DeclId → Schema) (id : DeclId) : Synth Schema := pure (site id)

namespace Computes

variable {r : Registry} {a : α}

theorem pure : Computes r (Pure.pure a) a := rfl

theorem bind {x : Synth α} {f : α → Synth β} {b : β} (first : Computes r x a) (rest : Computes r (f a) b) :
    Computes r (x >>= f) b := (run_bind_ok first).trans rest

theorem unique {x : Synth α} {b : α} (first : Computes r x a) (second : Computes r x b) : a = b := by
  have same : (Except.ok a, origin r) = (.ok b, origin r) := first.symm.trans second
  simpa using same

end Computes

section Expressions

variable {c : Contract Failure Generator} {config : Config} {synth : DeclId → Synth Schema}
  {r : Registry} {site : DeclId → Schema} {met : DeclId → Generator → Prop} {context : ScopeId}
  {type : TypeExpr} {g : Generator} (off : config.parseDependencies = false) (plain : Plain r)

include off plain

/-- Resolution in a state over the registry is what names denote there. -/
theorem resolving_renamed (renamed : Renamed r g.registry) (context : ScopeId) (segments : List String)
    (args : List TypeExpr) :
    match denoted r context segments args with
    | some resolution => after (Synth.resolving
        (Resolver.resolveExpr config.parseDependencies context (.named segments args))) g =
          (.ok resolution, g)
    | none => ∃ e, ¬Fatal e ∧ after (Synth.resolving
        (Resolver.resolveExpr config.parseDependencies context (.named segments args))) g =
          (.error e, g) := by
  have run := resolveExpr_renamed (s := g.resolver) plain renamed context segments args
  have growing := Resolver.resolveExpr_onlyGrows false context (.named segments args) g.resolver trivial
  rw [off]
  cases outcome : (after (Resolver.resolveExpr false context (.named segments args))
      { registry := r }).1 with
  | ok resolution =>
    simp only [denoted, outcome, Except.toOption]
    rw [outcome] at run
    exact after_resolving_ok run
  | error e =>
    simp only [denoted, outcome, Except.toOption]
    rw [outcome] at run
    exact ⟨.error e, (growing.error run).2, after_resolving_error run⟩

/-- A type with a name in it that denotes nothing fails mildly, and nothing is made. -/
theorem exprSchema_absent (synth : DeclId → Synth Schema) (renamed : Renamed r g.registry)
    (absent : typeSite r site context type = none) :
    ∃ e, ¬Fatal e ∧ after (exprSchema config synth context type) g = (.error e, g) := by
  induction type using TypeExpr.nesting_induction with
  | primitive | param | interface | function | resolved => cases absent
  | optional inner ih | pointer inner ih => exact ih absent
  | array inner ih | map key inner ih =>
    obtain ⟨e, mild, run⟩ := ih (by simpa [typeSite] using absent)
    exact ⟨e, mild, run_bind_error run⟩
  | named segments args =>
    have resolved := resolving_renamed off plain renamed context segments args
    simp only [typeSite] at absent
    cases meaning : denoted r context segments args with
    | none =>
      rw [meaning] at resolved
      obtain ⟨e, mild, run⟩ := resolved
      exact ⟨e, mild, run_bind_error run⟩
    | some resolution =>
      rw [meaning] at absent
      cases resolution <;> cases absent

/-- Any other type has the schema that those of declarations make, and visits the declaration it
leads to. -/
theorem exprSchema_visits {s : Schema} (renamed : ∀ g, c.holds g → Renamed r g.registry)
    (each : ∀ id, typeUse r context type = some id →
      Meets c (synth id) fun s g => s = site id ∧ met id g)
    (made : typeSite r site context type = some s) (holds : c.holds g) :
    MeetsAt c (exprSchema config synth context type) g fun s' g' =>
      s' = s ∧ ∀ id, typeUse r context type = some id → met id g' := by
  induction type using TypeExpr.nesting_induction generalizing s with
  | primitive | param | interface | function =>
    cases made
    exact .pure holds ⟨rfl, fun _ leads => by cases leads⟩
  | optional inner ih | pointer inner ih => exact ih each made
  | array inner ih | map key inner ih =>
    obtain ⟨items, place, rfl⟩ := Option.map_eq_some_iff.mp made
    refine (ih each place).bind ?_
    rintro _ g' holds _ ⟨rfl, visited⟩
    exact .pure holds ⟨rfl, visited⟩
  | resolved id =>
    cases made
    exact (each id rfl g holds).imp fun _ _ _ _ result =>
      ⟨result.1, fun _ same => Option.some.inj same ▸ result.2⟩
  | named segments args =>
    have resolved := resolving_renamed off plain (renamed g holds) context segments args
    simp only [typeSite, typeUse] at made each ⊢
    cases meaning : denoted r context segments args with
    | none =>
      rw [meaning] at made
      cases made
    | some resolution =>
      rw [meaning] at resolved made each
      refine .onward (run_bind_ok resolved) (c.refl g) ?_
      cases resolution with
      | primitive | any =>
        cases made
        exact .pure holds ⟨rfl, fun _ leads => by cases leads⟩
      | declaration id =>
        cases made
        exact (each id rfl g holds).imp fun _ _ _ _ result =>
          ⟨result.1, fun _ same => Option.some.inj same ▸ result.2⟩

theorem memberSchema_visits (renamed : ∀ g, c.holds g → Renamed r g.registry)
    (fatal : ∀ {e g g'}, c.fails e g g' → Fatal e)
    (each : ∀ id, typeUse r context type = some id →
      Meets c (synth id) fun s g => s = site id ∧ met id g) :
    Meets c (memberSchema config synth context type) fun s g =>
      s = memberSite r site context type ∧ ∀ id, typeUse r context type = some id → met id g := by
  intro g holds
  cases made : typeSite r site context type with
  | none =>
    obtain ⟨e, mild, run⟩ := exprSchema_absent off plain synth (renamed g holds) made
    refine .of_ok (memberSchema_recovers mild run) holds (c.refl g) ⟨by simp [memberSite, made], ?_⟩
    rw [typeUse_of_none made]
    intro id leads
    cases leads
  | some s =>
    have meets := exprSchema_visits off plain renamed each made holds
    rcases run : after (exprSchema config synth context type) g with ⟨e | s', g'⟩
    · have failed := meets.error run
      exact .of_error (memberSchema_fatal (fatal failed) run) failed
    · obtain ⟨later, moves, rfl, visited⟩ := meets.ok run
      exact .of_ok (memberSchema_ok run) later moves ⟨by simp [memberSite, made], visited⟩

def still (r : Registry) : Contract Failure Generator where
  holds g := g = origin r
  moves _ _ := True
  fails _ _ _ := False
  refl _ := trivial
  trans _ _ := trivial
  fails_after _ failed := failed

omit off plain in
theorem gives_of_meets {x : Synth α} {a : α}
    (meets : MeetsAt (still r) x (origin r) fun b _ => b = a) : Computes r x a := by
  rcases run : after x (origin r) with ⟨e | b, g⟩
  · exact (meets.error run).elim
  · obtain ⟨rfl, _, rfl⟩ := meets.ok run
    exact run

theorem memberSchema_handed (site : DeclId → Schema) (context : ScopeId) (type : TypeExpr) :
    Computes r (memberSchema config (handing site) context type) (memberSite r site context type) := by
  have each (id : DeclId) : Meets (still r) (handing site id) fun s _ => s = site id ∧ True :=
    fun g holds => .pure holds ⟨rfl, trivial⟩
  have renamed (g : Generator) (holds : (still r).holds g) : Renamed r g.registry := by
    rw [show g = origin r from holds]
    exact .refl r
  have meets : MeetsAt (still r) (memberSchema config (handing site) context type) (origin r) _ :=
    memberSchema_visits off plain renamed (fun failed => failed.elim) (fun id _ => each id) (origin r)
      rfl
  exact gives_of_meets (meets.imp fun _ _ _ _ made => made.1)

end Expressions

/-- The step meets the contract and leaves the state as it should; and if all is tidy, its result is
what the ideal step gives. -/
def MatchesIdeal (r : Registry) (c : Contract Failure Generator) (tidy : Prop) (x ideal : Synth α)
    (done : Generator → Prop) : Prop :=
  Meets c x fun a g => done g ∧ (tidy → Computes r ideal a)

namespace MatchesIdeal

variable {r : Registry} {c : Contract Failure Generator} {tidy : Prop} {done later : Generator → Prop}

theorem pure (a : α) (always : ∀ g, done g) : MatchesIdeal r c tidy (Pure.pure a) (Pure.pure a) done :=
  fun g holds => .pure holds ⟨always g, fun _ => .pure⟩

theorem imp {x ideal : Synth α} (fits : MatchesIdeal r c tidy x ideal done)
    (more : ∀ g, done g → later g) : MatchesIdeal r c tidy x ideal later :=
  fun g holds => (fits g holds).imp fun _ g' _ _ => .imp_left (more g')

/-- A last step that only puts together what was made. -/
theorem bind {x ideal : Synth α} {f : α → Synth β} (first : MatchesIdeal r c tidy x ideal done)
    (last : ∀ a, ∃ b, f a = Pure.pure b) : MatchesIdeal r c tidy (x >>= f) (ideal >>= f) done := by
  intro g holds
  refine (first g holds).bind ?_
  intro a g' holds _ seen
  obtain ⟨b, made⟩ := last a
  rw [made]
  refine .pure holds ⟨seen.1, fun all => (seen.2 all).bind ?_⟩
  rw [made]
  exact .pure

variable {seen : α → Generator → Prop}

theorem mapM {f ideal : α → Synth β} {items : List α}
    (each : ∀ a ∈ items, MatchesIdeal r c tidy (f a) (ideal a) (seen a))
    (stable : ∀ a {g g'}, c.holds g' → c.moves g g' → seen a g → seen a g') :
    MatchesIdeal r c tidy (items.mapM f) (items.mapM ideal) fun g => ∀ a ∈ items, seen a g := by
  induction items with
  | nil =>
    rw [List.mapM_nil, List.mapM_nil]
    exact .pure [] (by simp)
  | cons a rest ih =>
    intro g holds
    rw [List.mapM_cons, List.mapM_cons]
    refine (each a List.mem_cons_self g holds).bind ?_
    intro b g' holds _ here
    refine (ih (fun x member => each x (List.mem_cons_of_mem _ member)) g' holds).bind ?_
    intro bs g'' holds moves there
    refine .pure holds ⟨?_, fun all => (here.2 all).bind ((there.2 all).bind .pure)⟩
    intro x member
    rcases List.mem_cons.mp member with rfl | member
    · exact stable _ holds moves here.1
    · exact there.1 x member

theorem foldlM {f ideal : β → α → Synth β} {items : List α}
    (each : ∀ b, ∀ a ∈ items, MatchesIdeal r c tidy (f b a) (ideal b a) (seen a))
    (stable : ∀ a {g g'}, c.holds g' → c.moves g g' → seen a g → seen a g') (b : β) :
    MatchesIdeal r c tidy (items.foldlM f b) (items.foldlM ideal b) fun g => ∀ a ∈ items, seen a g := by
  induction items generalizing b with
  | nil =>
    rw [List.foldlM_nil, List.foldlM_nil]
    exact .pure b (by simp)
  | cons a rest ih =>
    intro g holds
    rw [List.foldlM_cons, List.foldlM_cons]
    refine (each b a List.mem_cons_self g holds).bind ?_
    intro b' g' holds _ here
    refine (ih (fun b x member => each b x (List.mem_cons_of_mem _ member)) b' g' holds).imp ?_
    intro b'' g'' holds moves there
    refine ⟨?_, fun all => (here.2 all).bind (there.2 all)⟩
    intro x member
    rcases List.mem_cons.mp member with rfl | member
    · exact stable _ holds moves here.1
    · exact there.1 x member

end MatchesIdeal

section Rules

def Fits (r : Registry) (site : DeclId → Schema) (context : ScopeId) (field : Field) : Prop :=
  ∃ s, field.complement (memberSite r site context field.type) = .ok s

/-- The members are as the rules need them: their types can be visited under the contract and have
the schemas that are handed out, and what fails of a direct field is accepted by the contract. -/
structure Visiting (r : Registry) (c : Contract Failure Generator) (tidy : Prop) (config : Config)
    (synth : DeclId → Synth Schema) (site : DeclId → Schema) (context : ScopeId)
    (seen : TypeExpr → Generator → Prop) (types : List TypeExpr) (fields : List Field) : Prop where
  stable (type : TypeExpr) {g g' : Generator} : c.holds g' → c.moves g g' → seen type g → seen type g'
  each : ∀ type ∈ types, Meets c (memberSchema config synth context type) fun s g =>
    s = memberSite r site context type ∧ seen type g
  handed (type : TypeExpr) :
    Computes r (memberSchema config (handing site) context type) (memberSite r site context type)
  flat : tidy → ∀ field ∈ fields, field.embedded = false
  conflict : ∀ field ∈ fields, field.embedded = false → ∀ e g, c.holds g →
    field.complement (memberSite r site context field.type) = .error e → c.fails (.error e) g g

def SeenAndFit (r : Registry) (site : DeclId → Schema) (context : ScopeId)
    (seen : TypeExpr → Generator → Prop) (types : List TypeExpr) (fields : List Field) (g : Generator) :
    Prop :=
  (∀ type ∈ types, seen type g) ∧ ∀ field ∈ fields, field.embedded = false → Fits r site context field

variable {r : Registry} {c : Contract Failure Generator} {tidy : Prop} {config : Config}
  {synth : DeclId → Synth Schema} {site : DeclId → Schema} {context : ScopeId}
  {seen : TypeExpr → Generator → Prop} {types : List TypeExpr} {fields : List Field}

theorem Visiting.mono {types' : List TypeExpr} {fields' : List Field}
    (visiting : Visiting r c tidy config synth site context seen types fields)
    (fewer : types' ⊆ types) (less : fields' ⊆ fields) :
    Visiting r c tidy config synth site context seen types' fields' where
  stable := visiting.stable
  each type member := visiting.each type (fewer member)
  handed := visiting.handed
  flat all field member := visiting.flat all field (less member)
  conflict field member := visiting.conflict field (less member)

theorem SeenAndFit.stable (visiting : Visiting r c tidy config synth site context seen types fields)
    {types' : List TypeExpr} {fields' : List Field} {g g' : Generator} (holds : c.holds g')
    (moves : c.moves g g') (visited : SeenAndFit r site context seen types' fields' g) :
    SeenAndFit r site context seen types' fields' g' :=
  ⟨fun type member => visiting.stable type holds moves (visited.1 type member), visited.2⟩

theorem memberSchema_matches (visiting : Visiting r c tidy config synth site context seen types fields)
    {type : TypeExpr} (member : type ∈ types) :
    MatchesIdeal r c tidy (memberSchema config synth context type)
      (memberSchema config (handing site) context type) (seen type) := by
  intro g holds
  refine (visiting.each type member g holds).imp ?_
  rintro _ g' _ _ ⟨rfl, here⟩
  exact ⟨here, fun _ => visiting.handed type⟩

theorem addField_matches (visiting : Visiting r c tidy config synth site context seen types fields)
    {field : Field} (member : field ∈ fields) (type : field.type ∈ types)
    (direct : field.embedded = false) (renameAll : Option String) (m : Members) :
    MatchesIdeal r c tidy (addField config synth context renameAll m field)
      (addField config (handing site) context renameAll m field)
      fun g => seen field.type g ∧ Fits r site context field := by
  intro g holds
  refine (visiting.each field.type type g holds).bind ?_
  rintro _ g' holds _ ⟨rfl, here⟩
  cases done : field.complement (memberSite r site context field.type) with
  | error e => exact .throw (visiting.conflict field member direct e g' holds done)
  | ok s =>
    refine .pure holds ⟨⟨here, s, done⟩, fun _ => (visiting.handed field.type).bind ?_⟩
    rw [done]
    exact .pure

theorem spliceField_matches (visiting : Visiting r c tidy config synth site context seen types fields)
    {field : Field} (member : field ∈ fields) (type : field.type ∈ types)
    (embedded : field.embedded = true) (m : Members) :
    MatchesIdeal r c tidy (spliceField config synth context m field)
      (spliceField config (handing site) context m field) fun g => seen field.type g := by
  intro g holds
  -- the field reads the definition behind its type, which there is none of in the ideal run
  have apart : ¬tidy := fun all => by simp [visiting.flat all field member] at embedded
  unfold spliceField embeddedBody
  rw [bind_assoc]
  refine (visiting.each field.type type g holds).bind ?_
  rintro _ g' holds _ ⟨rfl, here⟩
  split
  · rw [bind_assoc]
    exact .get (.pure holds ⟨here, fun all => (apart all).elim⟩)
  · exact .pure holds ⟨here, fun all => (apart all).elim⟩

theorem objectSchema_matches (renameAll : Option String) {all : List Field}
    (visiting : Visiting r c tidy config synth site context seen ((Field.kept config all).map Field.type)
      (Field.kept config all)) :
    MatchesIdeal r c tidy (objectSchema config synth context renameAll all)
      (objectSchema config (handing site) context renameAll all)
      (SeenAndFit r site context seen ((Field.kept config all).map Field.type) (Field.kept config all)) := by
  have typed {field : Field} (member : field ∈ Field.kept config all) :
      field.type ∈ (Field.kept config all).map Field.type := List.mem_map_of_mem member
  have spliced (m : Members) : MatchesIdeal r c tidy
      (((Field.kept config all).filter Field.embedded).foldlM (spliceField config synth context) m)
      (((Field.kept config all).filter Field.embedded).foldlM (spliceField config (handing site) context) m)
      fun g => ∀ field ∈ (Field.kept config all).filter Field.embedded, seen field.type g := by
    refine .foldlM (fun m field member => ?_) (fun field => visiting.stable field.type) m
    obtain ⟨member, embedded⟩ := List.mem_filter.mp member
    exact spliceField_matches visiting member (typed member) embedded m
  have added (m : Members) : MatchesIdeal r c tidy
      (((Field.kept config all).filter fun field => !field.embedded).foldlM
        (addField config synth context renameAll) m)
      (((Field.kept config all).filter fun field => !field.embedded).foldlM
        (addField config (handing site) context renameAll) m)
      fun g => ∀ field ∈ (Field.kept config all).filter fun field => !field.embedded,
        seen field.type g ∧ Fits r site context field := by
    refine .foldlM (fun m field member => ?_) (fun field _ _ holds moves =>
      .imp_left (visiting.stable field.type holds moves)) m
    obtain ⟨member, direct⟩ := List.mem_filter.mp member
    exact addField_matches visiting member (typed member) (by simpa using direct) renameAll m
  intro g holds
  unfold objectSchema
  refine (spliced {} g holds).bind ?_
  intro m g' holds _ first
  refine (added m g' holds).bind ?_
  intro m' g'' holds moves second
  refine .pure holds ⟨⟨?_, ?_⟩, fun tidy => (first.2 tidy).bind ((second.2 tidy).bind .pure)⟩
  · -- flattened fields come first, so what they saw has to last through the direct ones
    intro type member
    obtain ⟨field, kept, rfl⟩ := List.mem_map.mp member
    cases embedded : field.embedded with
    | true =>
      have early := first.1 field (List.mem_filter.mpr ⟨kept, embedded⟩)
      exact visiting.stable field.type holds moves early
    | false => exact (second.1 field (List.mem_filter.mpr ⟨kept, by simp [embedded]⟩)).1
  · intro field kept direct
    exact (second.1 field (List.mem_filter.mpr ⟨kept, by simp [direct]⟩)).2

theorem tupleSchema_matches (visiting : Visiting r c tidy config synth site context seen types fields) :
    MatchesIdeal r c tidy (tupleSchema config synth context types)
      (tupleSchema config (handing site) context types) fun g => ∀ type ∈ types, seen type g := by
  refine (MatchesIdeal.mapM (fun type => memberSchema_matches visiting) visiting.stable).bind ?_
  rintro (_ | ⟨first, _ | ⟨second, rest⟩⟩)
  · exact ⟨_, rfl⟩
  · exact ⟨_, rfl⟩
  · exact ⟨_, rfl⟩

theorem payloadSchema_matches {payload : Payload}
    (visiting : Visiting r c tidy config synth site context seen (payload.memberTypes config)
      (payload.keptFields config)) :
    MatchesIdeal r c tidy (payloadSchema config synth context payload)
      (payloadSchema config (handing site) context payload)
      (SeenAndFit r site context seen (payload.memberTypes config) (payload.keptFields config)) := by
  cases payload with
  | record fields => exact objectSchema_matches none visiting
  | tuple types =>
    exact (tupleSchema_matches visiting).imp fun g visited => ⟨visited, by simp [Payload.keptFields]⟩

end Rules

section Bodies

variable {r : Registry} {c : Contract Failure Generator} {tidy : Prop} {config : Config}
  {synth : DeclId → Synth Schema} {site : DeclId → Schema} {seen : TypeExpr → Generator → Prop}
  {d : Declaration}

theorem variantSchema_matches {v : Variant}
    (visiting : Visiting r c tidy config synth site d.scope seen (v.memberTypes config)
      (v.keptFields config)) :
    MatchesIdeal r c tidy (variantSchema config synth d v) (variantSchema config (handing site) d v)
      (SeenAndFit r site d.scope seen (v.memberTypes config) (v.keptFields config)) := by
  unfold variantSchema Variant.memberTypes Variant.keptFields at *
  cases place : v.payload with
  | none => exact .pure _ fun g => ⟨by simp, by simp⟩
  | some payload =>
    rw [place] at visiting
    refine (payloadSchema_matches visiting).bind fun s => ?_
    split
    · exact ⟨_, rfl⟩
    · exact ⟨_, rfl⟩

theorem enumSchema_matches {variants : List Variant}
    (visiting : Visiting r c tidy config synth site d.scope seen
      ((Body.enum variants).memberTypes config) ((Body.enum variants).keptFields config)) :
    MatchesIdeal r c tidy (enumSchema config synth d variants) (enumSchema config (handing site) d variants)
      (SeenAndFit r site d.scope seen ((Body.enum variants).memberTypes config)
        ((Body.enum variants).keptFields config)) := by
  have each (v : Variant) (member : v ∈ variants.filter fun v => !v.skip) :
      MatchesIdeal r c tidy (variantSchema config synth d v) (variantSchema config (handing site) d v)
        (SeenAndFit r site d.scope seen (v.memberTypes config) (v.keptFields config)) :=
    variantSchema_matches (visiting.mono (fun _ inside => List.mem_flatMap.mpr ⟨v, member, inside⟩)
      fun _ inside => List.mem_flatMap.mpr ⟨v, member, inside⟩)
  have gathered (g : Generator) (visited : ∀ v ∈ variants.filter fun v => !v.skip,
      SeenAndFit r site d.scope seen (v.memberTypes config) (v.keptFields config) g) :
      SeenAndFit r site d.scope seen ((Body.enum variants).memberTypes config)
        ((Body.enum variants).keptFields config) g := by
    constructor
    · intro type member
      obtain ⟨v, kept, inside⟩ := List.mem_flatMap.mp member
      exact (visited v kept).1 type inside
    · intro field member
      obtain ⟨v, kept, inside⟩ := List.mem_flatMap.mp member
      exact (visited v kept).2 field inside
  unfold enumSchema
  dsimp only
  split
  · next plain =>
    refine .pure _ fun g => gathered g fun v member => ?_
    have none : v.payload = none := by simpa using List.all_eq_true.mp plain v member
    simp [none, SeenAndFit, Variant.memberTypes, Variant.keptFields]
  · have branches := MatchesIdeal.mapM each fun v _ _ => SeenAndFit.stable visiting
    exact (branches.imp gathered).bind fun _ => ⟨_, rfl⟩

/-- The body of a struct or an enumeration is what its members make of it. -/
theorem bodySchema_matches (named : ∀ target, d.body ≠ .synonym target)
    (visiting : Visiting r c tidy config synth site d.scope seen (d.body.memberTypes config)
      (d.body.keptFields config)) :
    MatchesIdeal r c tidy (bodySchema config synth d) (bodySchema config (handing site) d)
      (SeenAndFit r site d.scope seen (d.body.memberTypes config) (d.body.keptFields config)) := by
  unfold bodySchema
  cases body : d.body with
  | struct fields =>
    rw [body] at visiting
    exact objectSchema_matches d.tags.renameAll visiting
  | enum variants =>
    rw [body] at visiting
    exact enumSchema_matches visiting
  | synonym target => exact absurd body (named target)
  | interface => exact .pure _ fun g => ⟨by simp [Body.memberTypes], by simp [Body.keptFields]⟩

end Bodies

end Synthesis

end ApiSchema
