import ApiSchema.Proofs.Closure
import Mathlib.Data.List.Forall2
import Mathlib.Data.List.Induction

/-! What a document publishes. Its paths are the converted paths of the operations that were added,
and at a path each method has the last operation added for it. An operation asks for the schemas of
the types it mentions one after another and for nothing else, so what it is made from are the
manifest's entry and these schemas; if one cannot be made, the builder is as it was. -/

namespace ApiSchema.Builder

open Steps Synthesis

/-! ### Paths -/

def spell (part : String) : String :=
  match Text.after? ":" part with
  | some name => "\x7b" ++ name ++ "\x7d"
  | none => part

/-- Parts that are the same, or the two spellings of one parameter. -/
def SamePart (a b : String) : Prop :=
  a = b ∨ ∃ name, (a = ":" ++ name ∧ b = "\x7b" ++ name ++ "\x7d") ∨
    (a = "\x7b" ++ name ++ "\x7d" ∧ b = ":" ++ name)

def SameRoute (p q : String) : Prop :=
  List.Forall₂ SamePart (Text.splitAt '/' p) (Text.splitAt '/' q)

theorem spell_colon (name : String) : spell (":" ++ name) = "\x7b" ++ name ++ "\x7d" := by
  rw [spell, Schema.after?_append]

theorem spell_braces (name : String) :
    spell ("\x7b" ++ name ++ "\x7d") = "\x7b" ++ name ++ "\x7d" := by
  have plain : Text.after? ":" ("\x7b" ++ name ++ "\x7d") = none := by
    simp [Text.after?, String.toList_append, List.isPrefixOf?]
  rw [spell, plain]

/-- A part is a parameter after a colon, or it is spelled as it is. -/
theorem spell_cases (part : String) : (∃ name, part = ":" ++ name) ∨ spell part = part := by
  cases split : Text.after? ":" part with
  | none => exact .inr (by rw [spell, split])
  | some name =>
    obtain ⟨rest, chars, rfl⟩ := Option.map_eq_some_iff.mp split
    have whole := List.isPrefixOf?_eq_some_iff_append_eq.mp chars
    exact .inl ⟨String.ofList rest, String.ext (by simpa using whole.symm)⟩

theorem spell_eq_iff {a b : String} : spell a = spell b ↔ SamePart a b := by
  constructor
  · intro same
    rcases spell_cases a with ⟨name, rfl⟩ | plainA
    · rcases spell_cases b with ⟨other, rfl⟩ | plainB
      · rw [spell_colon, spell_colon] at same
        have chars : name.toList = other.toList := by simpa [String.toList_append] using congrArg String.toList same
        exact .inl (congrArg _ (String.ext chars))
      · rw [spell_colon, plainB] at same
        exact .inr ⟨name, .inl ⟨rfl, same.symm⟩⟩
    · rcases spell_cases b with ⟨other, rfl⟩ | plainB
      · rw [spell_colon, plainA] at same
        exact .inr ⟨other, .inr ⟨same, rfl⟩⟩
      · exact .inl (plainA.symm.trans (same.trans plainB))
  · rintro (rfl | ⟨name, ⟨rfl, rfl⟩ | ⟨rfl, rfl⟩⟩)
    · rfl
    · rw [spell_colon, spell_braces]
    · rw [spell_colon, spell_braces]

theorem splitChars_eq (sep : Char) (cs : List Char) :
    Text.splitChars (· = sep) cs = cs.splitOn sep := by
  induction cs with
  | nil => rfl
  | cons c rest ih =>
    rw [Text.splitChars, List.splitOn_cons_eq_if_modifyHead, ih]
    by_cases here : c = sep
    · simp [here]
    · simp only [here, decide_false, Bool.false_eq_true, if_false, beq_iff_eq]
      cases pieces : rest.splitOn sep with
      | nil => exact absurd pieces (List.splitOn_ne_nil sep rest)
      | cons piece others => rfl

theorem not_mem_piece {sep : Char} {cs piece : List Char} (member : piece ∈ cs.splitOn sep) :
    sep ∉ piece := by
  induction cs generalizing piece with
  | nil =>
    obtain rfl : piece = [] := by simpa using member
    exact List.not_mem_nil
  | cons c rest ih =>
    rw [List.splitOn_cons_eq_if_modifyHead] at member
    split at member
    · rcases List.mem_cons.mp member with rfl | later
      · exact List.not_mem_nil
      · exact ih later
    · next apart =>
      cases pieces : rest.splitOn sep with
      | nil => exact absurd pieces (List.splitOn_ne_nil sep rest)
      | cons first others =>
        rw [pieces] at member ih
        rcases List.mem_cons.mp member with rfl | later
        · intro inside
          rcases List.mem_cons.mp inside with rfl | inside
          · exact apart (beq_self_eq_true _)
          · exact ih List.mem_cons_self inside
        · exact ih (List.mem_cons_of_mem _ later)

theorem slash_not_mem {part path : String} (member : part ∈ Text.splitAt '/' path) :
    '/' ∉ (spell part).toList := by
  obtain ⟨piece, inside, rfl⟩ := List.mem_map.mp member
  rw [splitChars_eq] at inside
  have clean := not_mem_piece inside
  rcases spell_cases (String.ofList piece) with ⟨name, whole⟩ | plain
  · have chars : piece = ':' :: name.toList := by simpa using congrArg String.toList whole
    rw [whole, spell_colon]
    simp_all [String.toList_append]
  · simpa [plain] using clean

/-- The parts of a path as documents spell it are read off the path. -/
theorem splitOn_convertPath (path : String) : (convertPath path).toList.splitOn '/' =
    (Text.splitAt '/' path).map fun part => (spell part).toList := by
  have chars : (convertPath path).toList =
      ['/'].intercalate ((Text.splitAt '/' path).map fun part => (spell part).toList) := by
    rw [convertPath, String.toList_intercalate, List.map_map]
    rfl
  rw [chars]
  refine List.splitOn_intercalate '/' ?_ ?_
  · intro piece member
    obtain ⟨part, inside, rfl⟩ := List.mem_map.mp member
    exact slash_not_mem inside
  · simp [Text.splitAt, splitChars_eq]

/-- Documents have one path for each route. -/
theorem convertPath_eq_iff {p q : String} : convertPath p = convertPath q ↔ SameRoute p q := by
  have parts : convertPath p = convertPath q ↔
      (Text.splitAt '/' p).map spell = (Text.splitAt '/' q).map spell := by
    constructor
    · intro same
      have pieces := congrArg (fun path => path.toList.splitOn '/') same
      simp only [splitOn_convertPath] at pieces
      have injective : Function.Injective String.toList := fun _ _ => String.ext
      refine List.map_injective_iff.mpr injective ?_
      simpa [List.map_map, Function.comp_def] using pieces
    · exact congrArg ("/".intercalate ·)
  rw [parts, ← List.forall₂_eq_eq_eq, List.forall₂_map_left_iff, List.forall₂_map_right_iff, SameRoute]
  simp only [spell_eq_iff]

/-! ### What an operation is made from -/

section Asking

variable {α β : Type} {ask : String → Synth Schema}

/-- The step asks for the references in order and does nothing else; what it makes of the schemas
has the property. -/
def Asks (ask : String → Synth Schema) (references : List String) (x : Synth α)
    (made : α → List Schema → Prop) : Prop :=
  ∀ g, match after (references.mapM ask) g with
    | (.ok schemas, g') => ∃ a, after x g = (.ok a, g') ∧ made a schemas
    | (.error e, g') => after x g = (.error e, g')

theorem Asks.pure {a : α} {made : α → List Schema → Prop} (result : made a []) :
    Asks ask [] (pure a) made :=
  fun _ => ⟨a, rfl, result⟩

theorem Asks.bind {first second : List String} {x : Synth α} {f : α → Synth β}
    {middle : α → List Schema → Prop} {made : β → List Schema → Prop} (start : Asks ask first x middle)
    (rest : ∀ a s, middle a s → Asks ask second (f a) fun b t => made b (s ++ t)) :
    Asks ask (first ++ second) (x >>= f) made := by
  intro g
  rw [List.mapM_append, run_pair]
  have start := start g
  rcases asked : after (first.mapM ask) g with ⟨e | s, g'⟩
  · rw [asked] at start
    exact run_bind_error start
  rw [asked] at start
  obtain ⟨a, run, result⟩ := start
  have rest := rest a s result g'
  rcases asked' : after (second.mapM ask) g' with ⟨e | t, g''⟩
  · rw [asked'] at rest
    simp only [asked', Except.map]
    exact (run_bind_ok run).trans rest
  · rw [asked'] at rest
    simp only [asked', Except.map]
    obtain ⟨b, run', result'⟩ := rest
    exact ⟨b, (run_bind_ok run).trans run', result'⟩

theorem Asks.one (reference : String) : Asks ask [reference] (ask reference) fun s t => t = [s] := by
  intro g
  have single : [reference].mapM ask = (do return [← ask reference]) := by simp
  rw [single, run_map]
  rcases after (ask reference) g with ⟨e | s, g'⟩
  · rfl
  · exact ⟨s, rfl, rfl⟩

theorem Asks.map {references : List String} {x : Synth α} {f : α → β} {first : α → List Schema → Prop}
    {made : β → List Schema → Prop} (start : Asks ask references x first)
    (result : ∀ a s, first a s → made (f a) s) : Asks ask references (do return f (← x)) made := by
  have whole : Asks ask (references ++ []) (do return f (← x)) made :=
    start.bind fun a s known => .pure (by simpa using result a s known)
  rwa [List.append_nil] at whole

/-- Items are made one after another, each from the schemas of its own references. -/
theorem Asks.mapM {f : α → Synth β} {references : α → List String} {schemas : β → List Schema}
    {like : α → β → Prop} (items : List α)
    (each : ∀ a, Asks ask (references a) (f a) fun b s => like a b ∧ s = schemas b) :
    Asks ask (items.flatMap references) (items.mapM f) fun results s =>
      List.Forall₂ like items results ∧ s = results.flatMap schemas := by
  induction items with
  | nil => exact .pure ⟨.nil, rfl⟩
  | cons a rest ih =>
    rw [List.mapM_cons, List.flatMap_cons]
    refine (each a).bind ?_
    rintro b s ⟨alike, rfl⟩
    refine ih.map ?_
    rintro results t ⟨others, rfl⟩
    exact ⟨.cons alike others, rfl⟩

end Asking

def mentioned (op : Manifest.Operation) : List String :=
  op.parameters.map Manifest.Parameter.type ++
    ((op.requestBody.map Manifest.RequestBody.type).toList ++
      op.responses.entries.flatMap fun entry => entry.2.type.toList)

/-- A parameter as declared, but always required in a path. -/
structure ParameterOf (declared : Manifest.Parameter) (made : Document.Parameter) : Prop where
  name : made.name = declared.name
  location : made.location = declared.location
  required : made.required = true ↔ declared.required = true ∨ declared.location = .path
  description : made.description = declared.description

structure RequestBodyOf (declared : Manifest.RequestBody) (made : Document.RequestBody) : Prop where
  description : made.description = declared.description
  required : made.required = declared.required
  content : made.content.keys = [declared.contentType]

structure ResponseOf (declared : String × Manifest.Response) (made : String × Document.Response) :
    Prop where
  status : made.1 = declared.1
  description : made.2.description = declared.2.description.getD (defaultDescription declared.1)
  content : made.2.content.map Table.keys = declared.2.type.map fun _ => [declared.2.contentType]

/-- An operation as declared, but for its schemas. -/
structure MadeFrom (op : Manifest.Operation) (made : Document.Operation) : Prop where
  tags : made.tags = op.tags
  summary : made.summary = some (op.summary.getD (op.method.upperName ++ " " ++ op.path))
  description : made.description = op.description
  operationId : made.operationId = op.id
  parameters : List.Forall₂ ParameterOf op.parameters (made.parameters.getD [])
  noParameters : made.parameters = none ↔ op.parameters = []
  requestBody : Option.Rel RequestBodyOf op.requestBody made.requestBody
  responses : op.responses.entries ≠ [] →
    List.Forall₂ ResponseOf op.responses.entries made.responses.entries
  defaultResponse : op.responses.entries = [] →
    made.responses = .singleton "200" { description := "Successful response", content := none }

section Operation

variable (config : Config) (fuel : Nat) (context : ScopeId)

theorem parameter_asks (p : Manifest.Parameter) :
    Asks (schemaOfReferenceWith config fuel context) [p.type] (parameter config fuel context p)
      fun made s => ParameterOf p made ∧ s = [made.schema] := by
  unfold parameter
  refine (Asks.one p.type).map ?_
  rintro s _ rfl
  exact ⟨⟨rfl, rfl, by simp, rfl⟩, rfl⟩

theorem requestBody_asks (body : Manifest.RequestBody) :
    Asks (schemaOfReferenceWith config fuel context) [body.type] (requestBody config fuel context body)
      fun made s => RequestBodyOf body made ∧ s = made.content.values := by
  unfold requestBody
  refine (Asks.one body.type).map ?_
  rintro s _ rfl
  exact ⟨⟨rfl, rfl, rfl⟩, rfl⟩

theorem responseContent_asks (r : Manifest.Response) :
    Asks (schemaOfReferenceWith config fuel context) r.type.toList (responseContent config fuel context r)
      fun made s => (made.map Table.keys = r.type.map fun _ => [r.contentType]) ∧
        s = (made.map Table.values).getD [] := by
  unfold responseContent
  cases type : r.type with
  | none => exact .pure ⟨rfl, rfl⟩
  | some reference =>
    refine (Asks.one reference).map ?_
    rintro s _ rfl
    exact ⟨rfl, rfl⟩

def responseSchemas (entry : String × Document.Response) : List Schema :=
  (entry.2.content.map Table.values).getD []

theorem response_asks (entry : String × Manifest.Response) :
    Asks (schemaOfReferenceWith config fuel context) entry.2.type.toList
      (do return (entry.1, ← response config fuel context entry.1 entry.2))
      fun made s => ResponseOf entry made ∧ s = responseSchemas made := by
  have inner : Asks (schemaOfReferenceWith config fuel context) entry.2.type.toList
      (response config fuel context entry.1 entry.2)
      fun made s => ResponseOf entry (entry.1, made) ∧ s = responseSchemas (entry.1, made) := by
    unfold response
    refine (responseContent_asks config fuel context entry.2).map ?_
    rintro content s ⟨keys, rfl⟩
    exact ⟨⟨rfl, rfl, keys⟩, rfl⟩
  exact inner.map fun _ _ made => made

theorem responses_asks (declared : Table Manifest.Response) :
    Asks (schemaOfReferenceWith config fuel context) (declared.entries.flatMap fun entry => entry.2.type.toList)
      (responses config fuel context declared) fun made s =>
        (declared.entries ≠ [] → List.Forall₂ ResponseOf declared.entries made.entries) ∧
        (declared.entries = [] →
          made = .singleton "200" { description := "Successful response", content := none }) ∧
        s = made.entries.flatMap responseSchemas := by
  obtain ⟨declared⟩ := declared
  unfold responses
  have each := Asks.mapM declared (response_asks config fuel context)
  rw [← List.append_nil (List.flatMap _ _)]
  refine each.bind ?_
  rintro entries s ⟨alike, rfl⟩
  cases alike with
  | nil => exact .pure ⟨by simp, fun _ => rfl, rfl⟩
  | cons first rest => exact .pure ⟨fun _ => .cons first rest, by simp, by simp⟩

/-- An operation is made of what is declared and of the schemas of the types it mentions. -/
theorem operation_asks (op : Manifest.Operation) :
    Asks (schemaOfReferenceWith config fuel context) (mentioned op) (operation config fuel context op)
      fun made s => MadeFrom op made ∧ s = made.schemas := by
  unfold operation mentioned
  have parameters := Asks.mapM op.parameters (parameter_asks config fuel context)
  rw [← List.map_eq_flatMap] at parameters
  refine parameters.bind ?_
  rintro parameters _ ⟨likeParameters, rfl⟩
  extract_lets finish
  have rest (body : Option Document.RequestBody) (likeBody : Option.Rel RequestBodyOf op.requestBody body) :
      Asks (schemaOfReferenceWith config fuel context)
        (op.responses.entries.flatMap fun entry => entry.2.type.toList) (finish body)
        fun made s => MadeFrom op made ∧ parameters.flatMap (fun p => [p.schema]) ++
          ((body.map fun body => body.content.values).getD [] ++ s) = made.schemas := by
    refine (responses_asks config fuel context op.responses).map ?_
    rintro responses _ ⟨likeResponses, likeDefault, rfl⟩
    have absent : parameters.isEmpty = true ↔ op.parameters = [] := by
      rw [List.isEmpty_iff, ← List.length_eq_zero_iff, ← likeParameters.length_eq, List.length_eq_zero_iff]
    have shown : (if parameters.isEmpty then none else some parameters : Option _).getD [] = parameters := by
      split
      · next empty => exact (List.isEmpty_iff.mp empty).symm
      · rfl
    constructor
    · exact {
        tags := rfl
        summary := rfl
        description := rfl
        operationId := rfl
        parameters := by rwa [shown]
        noParameters := by simp [absent]
        requestBody := likeBody
        responses := likeResponses
        defaultResponse := likeDefault }
    · simp only [Document.Operation.schemas, shown, List.append_assoc, ← List.map_eq_flatMap,
        Table.values, List.flatMap_map]
      rfl
  cases declared : op.requestBody with
  | none =>
    rw [declared] at rest
    simpa only [Option.map_none, Option.toList_none, Option.getD_none, List.nil_append, pure_bind] using rest none .none
  | some body =>
    rw [declared] at rest
    have asked : Asks (schemaOfReferenceWith config fuel context) [body.type]
        (do return some (← requestBody config fuel context body)) fun made s =>
          Option.Rel RequestBodyOf (some body) made ∧
            s = (made.map fun body => body.content.values).getD [] :=
      (requestBody_asks config fuel context body).map fun made s known => ⟨.some known.1, known.2⟩
    refine asked.bind ?_
    rintro made _ ⟨likeBody, rfl⟩
    simpa only [List.append_assoc] using rest made likeBody

end Operation

/-- From the first state to the second the operation was made, with its types seen from its context. -/
def Makes (config : Config) (fuel : Nat) (op : Manifest.Operation) (made : Document.Operation) (g g' : Generator) :
    Prop :=
  ∃ context, g.registry.findScope? op.context = some context ∧ MadeFrom op made ∧
    after ((mentioned op).mapM (schemaOfReferenceWith config fuel context)) g = (.ok made.schemas, g')

/-- An operation is added once all its schemas are made, or the builder stays as it is. -/
theorem addOperation_cases (config : Config) (fuel : Nat) (b : Builder) (op : Manifest.Operation) (g : Generator) :
    (∃ made g', Makes config fuel op made g g' ∧
      after (addOperationWith config fuel b op) g = (.ok (b.enter op.path op.method made), g')) ∨
    ∃ e g', after (addOperationWith config fuel b op) g = (.error e, g') := by
  unfold addOperationWith
  rw [run_bind_get]
  cases context : g.resolver.registry.findScope? op.context with
  | none => exact .inr ⟨_, g, rfl⟩
  | some scope =>
    have asks := operation_asks config fuel scope op g
    rcases asked : after ((mentioned op).mapM (schemaOfReferenceWith config fuel scope)) g with ⟨e | schemas, g'⟩
    · rw [asked] at asks
      exact .inr ⟨e, g', run_bind_error asks⟩
    · rw [asked] at asks
      obtain ⟨made, run, like, rfl⟩ := asks
      exact .inl ⟨made, g', ⟨scope, context, like, asked⟩, run_bind_ok run⟩

/-! ### Operations one after another -/

def slotAt (paths : Table Document.PathItem) (key : String) (method : Method) :
    Option Document.Operation :=
  (paths.get? key).bind fun item => item.slot method

theorem slotAt_enter (b : Builder) (path : String) (method : Method) (op : Document.Operation)
    (key : String) (other : Method) : slotAt (b.enter path method op).paths key other =
      if convertPath path = key ∧ method = other then some op else slotAt b.paths key other := by
  simp only [slotAt, enter, Table.get?_insert]
  by_cases here : convertPath path = key
  · subst here
    simp only [if_true, Option.bind_some, Document.PathItem.set, true_and, eq_comm (a := other)]
    cases b.paths.get? (convertPath path) <;> rfl
  · simp [here]

section Sequence

variable (config : Config) (fuel : Nat) (info : Document.Info) (ops : List Manifest.Operation) (g : Generator)

def before (i : Nat) : Builder × Generator := (addAllWith config fuel { info } (ops.take i) g).2

def Added (i : Nat) (op : Manifest.Operation) : Prop :=
  ops[i]? = some op ∧ (addAllWith config fuel { info } ops g).1[i]? = some none

def Serves (op : Manifest.Operation) (key : String) (method : Method) : Prop :=
  convertPath op.path = key ∧ op.method = method

/-- The last operation added for a path and method. -/
def LastAdded (key : String) (method : Method) (i : Nat) (op : Manifest.Operation) : Prop :=
  Added config fuel info ops g i op ∧ Serves op key method ∧
    ∀ j later, i < j → Added config fuel info ops g j later → ¬Serves later key method

structure Published (paths : Table Document.PathItem) : Prop where
  sorted : paths.Sorted
  keys (key : String) :
    key ∈ paths.keys ↔ ∃ i op, Added config fuel info ops g i op ∧ convertPath op.path = key
  filled (key : String) (method : Method) :
    slotAt paths key method ≠ none ↔ ∃ i op, Added config fuel info ops g i op ∧ Serves op key method
  last {key : String} {method : Method} {i : Nat} {op : Manifest.Operation} :
    LastAdded config fuel info ops g key method i op → ∃ made, slotAt paths key method = some made ∧
      Makes config fuel op made (before config fuel info ops g i).2 (before config fuel info ops g (i + 1)).2

theorem addAll_append (b : Builder) (others : List Manifest.Operation) :
    addAllWith config fuel b (ops ++ others) g =
      ((addAllWith config fuel b ops g).1 ++ (addAllWith config fuel (addAllWith config fuel b ops g).2.1 others
          (addAllWith config fuel b ops g).2.2).1,
        (addAllWith config fuel (addAllWith config fuel b ops g).2.1 others
          (addAllWith config fuel b ops g).2.2).2) := by
  induction ops generalizing b g with
  | nil => rfl
  | cons op rest ih =>
    rcases run : after (addOperationWith config fuel b op) g with ⟨e | b', g'⟩
    · simp only [List.cons_append, addAll_error _ run, ih]
    · simp only [List.cons_append, addAll_ok _ run, ih]

theorem length_outcomes (b : Builder) : (addAllWith config fuel b ops g).1.length = ops.length := by
  induction ops generalizing b g with
  | nil => rfl
  | cons op rest ih =>
    rcases run : after (addOperationWith config fuel b op) g with ⟨e | b', g'⟩
    · simp only [addAll_error _ run, List.length_cons, ih]
    · simp only [addAll_ok _ run, List.length_cons, ih]

/-- The last operation is added to what those before it left. -/
theorem addAll_last (b : Builder) (op : Manifest.Operation) : addAllWith config fuel b (ops ++ [op]) g =
    match after (addOperationWith config fuel (addAllWith config fuel b ops g).2.1 op)
      (addAllWith config fuel b ops g).2.2 with
    | (.ok b', g') => ((addAllWith config fuel b ops g).1 ++ [none], b', g')
    | (.error e, g') =>
      ((addAllWith config fuel b ops g).1 ++ [some e], (addAllWith config fuel b ops g).2.1, g') := by
  rw [addAll_append]
  rcases addAllWith config fuel b ops g with ⟨outcomes, left, s⟩
  rcases run : after (addOperationWith config fuel left op) s with ⟨e | b', g'⟩
  · rw [addAll_error _ run]
    rfl
  · rw [addAll_ok _ run]
    rfl

variable {config fuel info ops g} {op last : Manifest.Operation} {i : Nat}

theorem before_length : before config fuel info ops g ops.length = (addAllWith config fuel { info } ops g).2 := by
  rw [before, List.take_length]

theorem before_append (others : List Manifest.Operation) (inside : i ≤ ops.length) :
    before config fuel info (ops ++ others) g i = before config fuel info ops g i := by
  rw [before, before, List.take_append_of_le_length inside]

theorem Added.lt (added : Added config fuel info ops g i op) : i < ops.length :=
  (List.getElem?_eq_some_iff.mp added.1).1

theorem added_append_iff (others : List Manifest.Operation) (inside : i < ops.length) :
    Added config fuel info (ops ++ others) g i op ↔ Added config fuel info ops g i op := by
  have outcomes : i < (addAllWith config fuel { info } ops g).1.length := by rwa [length_outcomes]
  rw [Added, Added, addAll_append, List.getElem?_append_left inside, List.getElem?_append_left outcomes]

/-- An operation added is one of those added before the last, or the last. -/
theorem added_last_iff : Added config fuel info (ops ++ [last]) g i op ↔
    Added config fuel info ops g i op ∨ (i = ops.length ∧ op = last ∧
      (addAllWith config fuel { info } (ops ++ [last]) g).1[ops.length]? = some none) := by
  constructor
  · intro added
    by_cases inside : i < ops.length
    · exact .inl ((added_append_iff _ inside).mp added)
    · have bound := added.lt
      rw [List.length_append, List.length_singleton] at bound
      obtain rfl : i = ops.length := by omega
      exact .inr ⟨rfl, by simpa using added.1.symm, added.2⟩
  · rintro (added | ⟨rfl, rfl, outcome⟩)
    · exact (added_append_iff _ added.lt).mpr added
    · exact ⟨by simp, outcome⟩

/-- A failed operation changes nothing about the operations added. -/
theorem added_of_error {e : Failure}
    (outcome : (addAllWith config fuel { info } (ops ++ [last]) g).1[ops.length]? = some (some e)) :
    Added config fuel info (ops ++ [last]) g i op ↔ Added config fuel info ops g i op := by
  rw [added_last_iff, outcome]
  simp

theorem published_nil : Published config fuel info [] g ({} : Table Document.PathItem) where
  sorted := Table.sorted_empty
  keys key := by simp [Table.keys, Added]
  filled key method := by simp [slotAt, Table.get?, Added]
  last final := absurd final.1.1 (by simp)

theorem Published.error {paths : Table Document.PathItem} {e : Failure}
    (published : Published config fuel info ops g paths)
    (outcome : (addAllWith config fuel { info } (ops ++ [last]) g).1[ops.length]? = some (some e)) :
    Published config fuel info (ops ++ [last]) g paths where
  sorted := published.sorted
  keys key := by simp only [added_of_error outcome, published.keys]
  filled key method := by simp only [added_of_error outcome, published.filled]
  last final := by
    simp only [LastAdded, added_of_error outcome] at final
    have inside := final.1.lt
    rw [before_append _ inside.le, before_append _ inside]
    exact published.last final

theorem Published.enter {b : Builder} {made : Document.Operation}
    (published : Published config fuel info ops g b.paths)
    (outcome : (addAllWith config fuel { info } (ops ++ [last]) g).1[ops.length]? = some none)
    (makes : Makes config fuel last made (before config fuel info (ops ++ [last]) g ops.length).2
      (before config fuel info (ops ++ [last]) g (ops.length + 1)).2) :
    Published config fuel info (ops ++ [last]) g (b.enter last.path last.method made).paths := by
  have newest : Added config fuel info (ops ++ [last]) g ops.length last := ⟨by simp, outcome⟩
  have added {i : Nat} {op : Manifest.Operation} : Added config fuel info (ops ++ [last]) g i op ↔
      Added config fuel info ops g i op ∨ (i = ops.length ∧ op = last) := by
    rw [added_last_iff, outcome]
    simp
  constructor
  · exact Table.sorted_insert published.sorted _ _
  · intro key
    rw [← Table.contains_iff, Builder.enter, Table.contains_insert, Table.contains_iff, published.keys]
    constructor
    · rintro (rfl | ⟨i, op, old, path⟩)
      · exact ⟨_, _, newest, rfl⟩
      · exact ⟨i, op, added.mpr (.inl old), path⟩
    · rintro ⟨i, op, one, path⟩
      rcases added.mp one with old | ⟨rfl, rfl⟩
      · exact .inr ⟨i, op, old, path⟩
      · exact .inl path.symm
  · intro key method
    rw [slotAt_enter]
    split
    · next serves => exact iff_of_true (by simp) ⟨_, _, newest, serves⟩
    · next apart =>
      rw [published.filled]
      constructor
      · rintro ⟨i, op, old, serves⟩
        exact ⟨i, op, added.mpr (.inl old), serves⟩
      · rintro ⟨i, op, one, serves⟩
        rcases added.mp one with old | ⟨rfl, rfl⟩
        · exact ⟨i, op, old, serves⟩
        · exact absurd serves apart
  · intro key method i op final
    rw [slotAt_enter]
    rcases added.mp final.1 with old | ⟨rfl, rfl⟩
    · have inside := old.lt
      have apart : ¬(convertPath last.path = key ∧ last.method = method) := final.2.2 _ _ inside newest
      rw [if_neg apart, before_append _ inside.le, before_append _ inside]
      refine published.last ⟨old, final.2.1, fun j later after one => ?_⟩
      exact final.2.2 j later after (added.mpr (.inl one))
    · exact ⟨made, if_pos final.2.1, makes⟩

/-- The paths of the builder are those of the operations added so far. -/
theorem published_builder : Published config fuel info ops g (addAllWith config fuel { info } ops g).2.1.paths := by
  induction ops using List.reverseRecOn with
  | nil => exact published_nil
  | append_singleton ops last ih =>
    have whole := addAll_last config fuel ops g { info } last
    have outcomes := length_outcomes config fuel ops g { info }
    have earlier : before config fuel info (ops ++ [last]) g ops.length =
        (addAllWith config fuel { info } ops g).2 := by
      rw [before_append _ le_rfl, before_length]
    have later : before config fuel info (ops ++ [last]) g (ops.length + 1) =
        (addAllWith config fuel { info } (ops ++ [last]) g).2 := by
      rw [before, List.take_of_length_le (by simp)]
    rcases addOperation_cases config fuel (addAllWith config fuel { info } ops g).2.1 last
        (addAllWith config fuel { info } ops g).2.2 with ⟨made, g', makes, run⟩ | ⟨e, g', run⟩
    · rw [run] at whole
      have outcome : (addAllWith config fuel { info } (ops ++ [last]) g).1[ops.length]? = some none := by
        simp [whole, ← outcomes]
      have entered := ih.enter outcome (by rw [earlier, later, whole]; exact makes)
      rwa [whole]
    · rw [run] at whole
      have outcome : (addAllWith config fuel { info } (ops ++ [last]) g).1[ops.length]? = some (some e) := by
        simp [whole, ← outcomes]
      have left := ih.error outcome
      rwa [whole]

/-- Each operation is tried on what those before it left; if it fails, the builder is left as well. -/
theorem outcome_at (here : ops[i]? = some op) :
    match after (addOperationWith config fuel (before config fuel info ops g i).1 op)
      (before config fuel info ops g i).2 with
    | (.ok b', g') => (addAllWith config fuel { info } ops g).1[i]? = some none ∧
        before config fuel info ops g (i + 1) = (b', g')
    | (.error e, g') => (addAllWith config fuel { info } ops g).1[i]? = some (some e) ∧
        before config fuel info ops g (i + 1) = ((before config fuel info ops g i).1, g') := by
  obtain ⟨inside, rfl⟩ := List.getElem?_eq_some_iff.mp here
  have whole := addAll_last config fuel (ops.take i) g { info } ops[i]
  have outcomes := length_outcomes config fuel (ops.take i) g { info }
  rw [List.length_take_of_le inside.le] at outcomes
  rw [List.take_append_getElem inside] at whole
  have early : (addAllWith config fuel { info } ops g).1[i]? =
      (addAllWith config fuel { info } (ops.take (i + 1)) g).1[i]? := by
    have bound : i < (addAllWith config fuel { info } (ops.take (i + 1)) g).1.length := by
      rw [length_outcomes, List.length_take_of_le inside]
      exact i.lt_succ_self
    conv_lhs => rw [← List.take_append_drop (i + 1) ops, addAll_append, List.getElem?_append_left bound]
  rw [early]
  simp only [before]
  rw [whole]
  rcases after (addOperationWith config fuel (addAllWith config fuel { info } (ops.take i) g).2.1 ops[i])
    (addAllWith config fuel { info } (ops.take i) g).2.2 with ⟨e | b', g'⟩
  · exact ⟨by simp [outcomes], rfl⟩
  · exact ⟨by simp [outcomes], rfl⟩

theorem build_paths (b : Builder) (g : Generator) : (b.build g).paths = b.paths := by
  have drafted : b.build g = (b.draft g).prune := rfl
  rw [drafted]
  rcases (b.draft g).prune_cases with same | ⟨_, _, _, same⟩
  · rw [same]
    rfl
  · rw [same]
    rfl

variable (config fuel info ops g)

/-- The document of a sequence of operations publishes exactly those that could be added. One that
fails leaves the builder as it is; the paths are the converted paths of the others; and a method of
a path has the last operation added for it, or none if none was. Paths that differ in the spelling
of their parameters are one path. -/
theorem publishes_added :
    (∀ i op, ops[i]? = some op →
      match after (addOperationWith config fuel (before config fuel info ops g i).1 op)
        (before config fuel info ops g i).2 with
      | (.ok b', g') => (addAllWith config fuel { info } ops g).1[i]? = some none ∧
          before config fuel info ops g (i + 1) = (b', g')
      | (.error e, g') => (addAllWith config fuel { info } ops g).1[i]? = some (some e) ∧
          before config fuel info ops g (i + 1) = ((before config fuel info ops g i).1, g')) ∧
    Published config fuel info ops g
      ((addAllWith config fuel { info } ops g).2.1.build (addAllWith config fuel { info } ops g).2.2).paths ∧
    ∀ p q, convertPath p = convertPath q ↔ SameRoute p q := by
  refine ⟨fun _ _ => outcome_at, ?_, fun _ _ => convertPath_eq_iff⟩
  rw [build_paths]
  exact published_builder

end Sequence

end ApiSchema.Builder
