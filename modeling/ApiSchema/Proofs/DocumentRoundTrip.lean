import ApiSchema.Proofs.SchemaRoundTrip

/-! Documents that are written and read again. A document is records within tables within records, so
that it comes back because each record does: its fields are read by the formats they were written by. -/

namespace ApiSchema

open Json (Value)
open Record (Slot)

namespace Document

/-! ### The schemas of a document -/

section MapSchemas

variable (f : Schema → Schema)

def Parameter.mapSchemas (p : Parameter) : Parameter := { p with schema := f p.schema }

def RequestBody.mapSchemas (body : RequestBody) : RequestBody := { body with content := body.content.map f }

def Response.mapSchemas (r : Response) : Response := { r with content := r.content.map (Table.map f) }

def Operation.mapSchemas (op : Operation) : Operation :=
  { op with
    parameters := op.parameters.map (List.map (Parameter.mapSchemas f))
    requestBody := op.requestBody.map (RequestBody.mapSchemas f)
    responses := op.responses.map (Response.mapSchemas f) }

def PathItem.mapSchemas (item : PathItem) : PathItem :=
  ⟨fun method => (item.slot method).map (Operation.mapSchemas f)⟩

def mapSchemas (d : Document) : Document :=
  { d with
    paths := d.paths.map (PathItem.mapSchemas f)
    components := d.components.map (Option.map (Table.map f)) }

end MapSchemas

def schemas (d : Document) : List Schema :=
  (d.paths.values.flatMap fun item => item.operations.flatMap Operation.schemas) ++
    d.components.elim [] fun definitions => definitions.elim [] Table.values

/-! ### Records and their fields -/

def Info.slots : List Slot := [⟨"title", false⟩, ⟨"version", false⟩, ⟨"description", false⟩]

def Parameter.slots : List Slot :=
  [⟨"name", false⟩, ⟨"in", false⟩, ⟨"required", false⟩, ⟨"schema", false⟩, ⟨"description", false⟩]

def RequestBody.slots : List Slot := [⟨"description", false⟩, ⟨"required", false⟩, ⟨"content", false⟩]

def Response.slots : List Slot := [⟨"description", false⟩, ⟨"content", false⟩]

def Operation.slots : List Slot :=
  [⟨"tags", true⟩, ⟨"summary", false⟩, ⟨"description", false⟩, ⟨"operationId", false⟩,
    ⟨"parameters", false⟩, ⟨"requestBody", false⟩, ⟨"responses", false⟩]

def PathItem.slots : List Slot := Method.all.map fun m => ⟨m.key, false⟩

def slots : List Slot := [⟨"openapi", false⟩, ⟨"info", false⟩, ⟨"paths", false⟩, ⟨"components", false⟩]

section Fields

variable {v : Value}

theorem Info.decode?_iff {info : Info} : Info.decode? v = some info ↔ ∃ fields,
    fields? Info.slots v = some fields ∧
      Record.required? fields "title" Format.text.read? = some info.title ∧
      Record.required? fields "version" Format.text.read? = some info.version ∧
      optionalField? fields "description" Format.text.read? = some info.description := by
  simp only [Info.decode?, Option.bind_eq_bind, Option.bind_eq_some_iff, Option.pure_def,
    Option.some.injEq]
  constructor
  · rintro ⟨fields, opened, title, first, version, second, description, third, rfl⟩
    exact ⟨fields, opened, first, second, third⟩
  · rintro ⟨fields, opened, first, second, third⟩
    exact ⟨fields, opened, _, first, _, second, _, third, rfl⟩

theorem Parameter.decode?_iff {p : Parameter} : Parameter.decode? v = some p ↔ ∃ fields,
    fields? Parameter.slots v = some fields ∧
      Record.required? fields "name" Format.text.read? = some p.name ∧
      Record.required? fields "in" decodeLocation? = some p.location ∧
      Record.required? fields "required" Format.truth.read? = some p.required ∧
      Record.required? fields "schema" Format.schema.read? = some p.schema ∧
      optionalField? fields "description" Format.text.read? = some p.description := by
  simp only [Parameter.decode?, Option.bind_eq_bind, Option.bind_eq_some_iff, Option.pure_def,
    Option.some.injEq]
  constructor
  · rintro ⟨fields, opened, name, first, location, second, required, third, schema, fourth, description,
      fifth, rfl⟩
    exact ⟨fields, opened, first, second, third, fourth, fifth⟩
  · rintro ⟨fields, opened, first, second, third, fourth, fifth⟩
    exact ⟨fields, opened, _, first, _, second, _, third, _, fourth, _, fifth, rfl⟩

theorem RequestBody.decode?_iff {body : RequestBody} : RequestBody.decode? v = some body ↔ ∃ fields,
    fields? RequestBody.slots v = some fields ∧
      optionalField? fields "description" Format.text.read? = some body.description ∧
      Record.required? fields "required" Format.truth.read? = some body.required ∧
      Record.required? fields "content" (decodeTableOf? decodeMedia?) = some body.content := by
  simp only [RequestBody.decode?, Option.bind_eq_bind, Option.bind_eq_some_iff, Option.pure_def,
    Option.some.injEq]
  constructor
  · rintro ⟨fields, opened, description, first, required, second, content, third, rfl⟩
    exact ⟨fields, opened, first, second, third⟩
  · rintro ⟨fields, opened, first, second, third⟩
    exact ⟨fields, opened, _, first, _, second, _, third, rfl⟩

theorem Response.decode?_iff {r : Response} : Response.decode? v = some r ↔ ∃ fields,
    fields? Response.slots v = some fields ∧
      Record.required? fields "description" Format.text.read? = some r.description ∧
      optionalField? fields "content" (decodeTableOf? decodeMedia?) = some r.content := by
  simp only [Response.decode?, Option.bind_eq_bind, Option.bind_eq_some_iff, Option.pure_def,
    Option.some.injEq]
  constructor
  · rintro ⟨fields, opened, description, first, content, second, rfl⟩
    exact ⟨fields, opened, first, second⟩
  · rintro ⟨fields, opened, first, second⟩
    exact ⟨fields, opened, _, first, _, second, rfl⟩

theorem Operation.decode?_iff {op : Operation} : Operation.decode? v = some op ↔ ∃ fields,
    fields? Operation.slots v = some fields ∧
      Record.withDefault? fields "tags" [] Format.texts.read? = some op.tags ∧
      optionalField? fields "summary" Format.text.read? = some op.summary ∧
      optionalField? fields "description" Format.text.read? = some op.description ∧
      optionalField? fields "operationId" Format.text.read? = some op.operationId ∧
      optionalField? fields "parameters" (decodeListOf? Parameter.decode?) = some op.parameters ∧
      optionalField? fields "requestBody" RequestBody.decode? = some op.requestBody ∧
      Record.required? fields "responses" (decodeTableOf? Response.decode?) = some op.responses := by
  simp only [Operation.decode?, Option.bind_eq_bind, Option.bind_eq_some_iff, Option.pure_def,
    Option.some.injEq]
  constructor
  · rintro ⟨fields, opened, tags, first, summary, second, description, third, operationId, fourth,
      parameters, fifth, requestBody, sixth, responses, seventh, rfl⟩
    exact ⟨fields, opened, first, second, third, fourth, fifth, sixth, seventh⟩
  · rintro ⟨fields, opened, first, second, third, fourth, fifth, sixth, seventh⟩
    exact ⟨fields, opened, _, first, _, second, _, third, _, fourth, _, fifth, _, sixth, _, seventh, rfl⟩

theorem decodeSlots?_iff {fields : List (String × Value)} {item made : PathItem} {methods : List Method}
    (distinct : methods.Nodup) (fresh : ∀ m ∈ methods, item.slot m = none) :
    decodeSlots? fields item methods = some made ↔
      (∀ m ∈ methods, optionalField? fields m.key Operation.decode? = some (made.slot m)) ∧
        ∀ m, m ∉ methods → made.slot m = item.slot m := by
  induction methods generalizing item with
  | nil =>
    obtain ⟨slot⟩ := item
    obtain ⟨slot'⟩ := made
    simp [decodeSlots?, funext_iff, eq_comm]
  | cons m rest ih =>
    obtain ⟨apart, distinct⟩ := List.nodup_cons.mp distinct
    have fresh' (m' : Method) (member : m' ∈ rest) : item.slot m' = none := fresh m' (.tail _ member)
    rw [decodeSlots?]
    cases read : optionalField? fields m.key Operation.decode? with
    | none => simp [read]
    | some slot =>
      cases slot with
      | none =>
        simp only [Option.bind_eq_bind, Option.bind_some, ih distinct fresh', List.forall_mem_cons, read]
        have here : item.slot m = none := fresh m List.mem_cons_self
        grind
      | some op =>
        have fresh'' (m' : Method) (member : m' ∈ rest) : (item.set m op).slot m' = none := by
          have other : m' ≠ m := fun same => apart (same ▸ member)
          simp [PathItem.set, other, fresh' m' member]
        simp only [Option.bind_eq_bind, Option.bind_some, ih distinct fresh'', List.forall_mem_cons, read]
        grind [PathItem.set]

theorem PathItem.decode?_iff {item : PathItem} : PathItem.decode? v = some item ↔ ∃ fields,
    fields? PathItem.slots v = some fields ∧
      ∀ m : Method, optionalField? fields m.key Operation.decode? = some (item.slot m) := by
  have all (m : Method) : m ∈ Method.all := by cases m <;> decide
  simp [PathItem.decode?, Option.bind_eq_some_iff, decodeSlots?_iff (by decide : Method.all.Nodup),
    PathItem.slots, PathItem.empty, all]

theorem decode?_iff {d : Document} : decode? v = some d ↔ ∃ fields,
    fields? slots v = some fields ∧
      Record.required? fields "openapi" Format.text.read? = some d.openapi ∧
      Record.required? fields "info" Info.decode? = some d.info ∧
      Record.required? fields "paths" (decodeTableOf? PathItem.decode?) = some d.paths ∧
      optionalField? fields "components" decodeComponents? = some d.components := by
  simp only [decode?, Option.bind_eq_bind, Option.bind_eq_some_iff, Option.pure_def, Option.some.injEq]
  constructor
  · rintro ⟨fields, opened, openapi, first, info, second, paths, third, components, fourth, rfl⟩
    exact ⟨fields, opened, first, second, third, fourth⟩
  · rintro ⟨fields, opened, first, second, third, fourth⟩
    exact ⟨fields, opened, _, first, _, second, _, third, _, fourth, rfl⟩

end Fields

/-! ### What is written of a record -/

def Info.parts (info : Info) : List (String × Option Value) :=
  [("title", some (.string info.title)), ("version", some (.string info.version)),
    ("description", info.description.map .string)]

theorem Info.encode_eq (info : Info) : info.encode = .object (Format.present info.parts) := by
  simp [Info.encode, Format.present, Info.parts, Format.memberOf_some, Format.memberOf_map]

def Parameter.parts (p : Parameter) : List (String × Option Value) :=
  [("name", some (.string p.name)), ("in", some (.string p.location.name)),
    ("required", some (.bool p.required)), ("schema", some p.schema.encode),
    ("description", p.description.map .string)]

theorem Parameter.encode_eq (p : Parameter) : p.encode = .object (Format.present p.parts) := by
  simp [Parameter.encode, Format.present, Parameter.parts, Format.memberOf_some, Format.memberOf_map]

def RequestBody.parts (body : RequestBody) : List (String × Option Value) :=
  [("description", body.description.map .string), ("required", some (.bool body.required)),
    ("content", some (encodeContent body.content))]

theorem RequestBody.encode_eq (body : RequestBody) :
    body.encode = .object (Format.present body.parts) := by
  simp [RequestBody.encode, Format.present, RequestBody.parts, Format.memberOf_some, Format.memberOf_map]

def Response.parts (r : Response) : List (String × Option Value) :=
  [("description", some (.string r.description)), ("content", r.content.map encodeContent)]

theorem Response.encode_eq (r : Response) : r.encode = .object (Format.present r.parts) := by
  simp [Response.encode, Format.present, Response.parts, Format.memberOf_some, Format.memberOf_map]

def Operation.parts (op : Operation) : List (String × Option Value) :=
  [("tags", (if op.tags.isEmpty then none else some op.tags).map Schema.encodeStrings),
    ("summary", op.summary.map .string), ("description", op.description.map .string),
    ("operationId", op.operationId.map .string),
    ("parameters", op.parameters.map fun ps => .array (ps.map Parameter.encode)),
    ("requestBody", op.requestBody.map RequestBody.encode),
    ("responses", some (encodeTableOf Response.encode op.responses))]

theorem Operation.encode_eq (op : Operation) : op.encode = .object (Format.present op.parts) := by
  simp [Operation.encode, Format.present, Operation.parts, Format.memberOf_some, Format.memberOf_map]

def PathItem.parts (item : PathItem) : List (String × Option Value) :=
  Method.all.map fun m => (m.key, (item.slot m).map Operation.encode)

theorem PathItem.encode_eq (item : PathItem) : item.encode = .object (Format.present item.parts) := by
  simp [PathItem.encode, Format.present, PathItem.parts, List.flatMap_map, Format.memberOf_map]

def componentsParts (definitions : Option (Table Schema)) : List (String × Option Value) :=
  [("schemas", definitions.map (encodeTableOf Schema.encode))]

theorem encodeComponents_eq (definitions : Option (Table Schema)) :
    encodeComponents definitions = .object (Format.present (componentsParts definitions)) := by
  simp [encodeComponents, Format.present, componentsParts, Format.memberOf_map]

def parts (d : Document) : List (String × Option Value) :=
  [("openapi", some (.string d.openapi)), ("info", some d.info.encode),
    ("paths", some (encodeTableOf PathItem.encode d.paths)),
    ("components", d.components.map encodeComponents)]

theorem encode_eq (d : Document) : d.encode = .object (Format.present d.parts) := by
  simp [encode, Format.present, parts, Format.memberOf_some, Format.memberOf_map]

end Document

/-! ### Every record comes back -/

namespace Format

open Document

def info : Format Info := plain Info.decode? Info.encode rfl

theorem info_sound : info.Sound := by
  refine plain_sound rfl fun v info canonical read => Info.decode?_iff.mpr ?_
  obtain ⟨fields, opened, title, version, description⟩ := Info.decode?_iff.mp read
  obtain ⟨written, same, place⟩ := fields?_present Info.slots info.parts (by simp [Info.parts])
  rw [info.encode_eq]
  refine ⟨written, same, ?_, ?_, ?_⟩
  · exact text_sound.required canonical opened title (place "title" (by decide))
  · exact text_sound.required canonical opened version (place "version" (by decide))
  · exact text_optional canonical opened description (place "description" (by decide))

def location : Format Location := plain decodeLocation? (fun l => .string l.name) rfl

theorem location_sound : location.Sound :=
  plain_sound rfl fun _ l _ _ => by cases l <;> rfl

/-- The schemas of a document come back with bounds that lost the sign of a zero. -/
abbrev settled : Schema → Schema := Schema.mapBounds Binary64.settle

def parameter : Format Parameter where
  read? := Parameter.decode?
  write := Parameter.encode
  settle := Parameter.mapSchemas settled
  schemas p := [p.schema]
  null := rfl

theorem parameter_sound : parameter.Sound := by
  intro v canonical
  refine ⟨fun {p} read => Parameter.decode?_iff.mpr ?_, fun {p} read s member => ?_⟩
  all_goals
    obtain ⟨fields, opened, name, location, required, schema, description⟩ :=
      Parameter.decode?_iff.mp read
  · obtain ⟨written, same, place⟩ := fields?_present Parameter.slots p.parts (by simp [Parameter.parts])
    change ∃ fields, fields? _ p.encode.canonical = some fields ∧ _
    rw [p.encode_eq]
    refine ⟨written, same, ?_, ?_, ?_, ?_, ?_⟩
    · exact text_sound.required canonical opened name (place "name" (by decide))
    · exact location_sound.required canonical opened location (place "in" (by decide))
    · exact truth_sound.required canonical opened required (place "required" (by decide))
    · exact Schema.format_sound.required canonical opened schema (place "schema" (by decide))
    · exact text_optional canonical opened description (place "description" (by decide))
  · exact Schema.format_sound.required_schemas canonical opened schema s member

def media : Format Schema where
  read? := decodeMedia?
  write s := .object [("schema", s.encode)]
  settle := settled
  schemas s := [s]
  null := rfl

theorem media_sound : media.Sound := by
  intro v canonical
  have opened {s : Schema} (read : media.read? v = some s) : ∃ fields,
      fields? [⟨"schema", false⟩] v = some fields ∧
        Record.required? fields "schema" Format.schema.read? = some s :=
    Option.bind_eq_some_iff.mp read
  refine ⟨fun {s} read => ?_, fun {s} read t member => ?_⟩
  all_goals
    obtain ⟨fields, opened, schema⟩ := opened read
  · obtain ⟨written, same, place⟩ := fields?_present [⟨"schema", false⟩] [("schema", some s.encode)] (by simp)
    have same : fields? [⟨"schema", false⟩] (media.write s).canonical = some written := same
    change decodeMedia? (media.write s).canonical = some (settled s)
    rw [decodeMedia?, same]
    exact Schema.format_sound.required canonical opened schema (place "schema" (by decide))
  · exact Schema.format_sound.required_schemas canonical opened schema t member

def requestBody : Format RequestBody where
  read? := RequestBody.decode?
  write := RequestBody.encode
  settle := RequestBody.mapSchemas settled
  schemas body := body.content.values
  null := rfl

theorem mem_content {s : Schema} {content : Table Schema} (member : s ∈ content.values) :
    s ∈ media.table.schemas content :=
  List.mem_flatMap.mpr ⟨s, member, List.mem_singleton.mpr rfl⟩

theorem requestBody_sound : requestBody.Sound := by
  intro v canonical
  refine ⟨fun {body} read => RequestBody.decode?_iff.mpr ?_, fun {body} read s member => ?_⟩
  all_goals
    obtain ⟨fields, opened, description, required, content⟩ := RequestBody.decode?_iff.mp read
  · obtain ⟨written, same, place⟩ := fields?_present RequestBody.slots body.parts
      (by simp [RequestBody.parts])
    change ∃ fields, fields? _ body.encode.canonical = some fields ∧ _
    rw [body.encode_eq]
    refine ⟨written, same, ?_, ?_, ?_⟩
    · exact text_optional canonical opened description (place "description" (by decide))
    · exact truth_sound.required canonical opened required (place "required" (by decide))
    · exact media_sound.table.required canonical opened content (place "content" (by decide))
  · exact media_sound.table.required_schemas canonical opened content s (mem_content member)

def response : Format Response where
  read? := Response.decode?
  write := Response.encode
  settle := Response.mapSchemas settled
  schemas r := (r.content.map Table.values).getD []
  null := rfl

theorem response_sound : response.Sound := by
  intro v canonical
  refine ⟨fun {r} read => Response.decode?_iff.mpr ?_, fun {r} read s member => ?_⟩
  all_goals
    obtain ⟨fields, opened, description, content⟩ := Response.decode?_iff.mp read
  · obtain ⟨written, same, place⟩ := fields?_present Response.slots r.parts (by simp [Response.parts])
    change ∃ fields, fields? _ r.encode.canonical = some fields ∧ _
    rw [r.encode_eq]
    refine ⟨written, same, ?_, ?_⟩
    · exact text_sound.required canonical opened description (place "description" (by decide))
    · exact media_sound.table.optional canonical opened content (place "content" (by decide))
  · cases given : r.content with
    | none => simp [response, given] at member
    | some t =>
      have inside : s ∈ t.values := by simpa [response, given] using member
      exact media_sound.table.optional_schemas canonical opened content t given s (mem_content inside)

def operation : Format Operation where
  read? := Operation.decode?
  write := Operation.encode
  settle := Operation.mapSchemas settled
  schemas := Operation.schemas
  null := rfl

/-- Tags that are empty are left out, and tags that are missing are empty. -/
theorem tags_again {written : List (String × Value)} {tags : List String}
    (place : written.lookup "tags" = ((if tags.isEmpty then none else some tags).map texts.write).map
      Value.canonical) : Record.withDefault? written "tags" [] texts.read? = some tags := by
  rw [Record.withDefault?, place]
  cases tags with
  | nil => rfl
  | cons tag rest => exact texts_again (tag :: rest)

theorem mem_parameters {s : Schema} {parameters : List Parameter}
    (member : s ∈ parameters.map Parameter.schema) : s ∈ parameter.list.schemas parameters := by
  obtain ⟨p, inside, rfl⟩ := List.mem_map.mp member
  exact List.mem_flatMap.mpr ⟨p, inside, List.mem_singleton.mpr rfl⟩

theorem operation_sound : operation.Sound := by
  intro v canonical
  refine ⟨fun {op} read => Operation.decode?_iff.mpr ?_, fun {op} read s member => ?_⟩
  all_goals
    obtain ⟨fields, opened, _, summary, description, operationId, parameters, body, responses⟩ :=
      Operation.decode?_iff.mp read
  · obtain ⟨written, same, place⟩ := fields?_present Operation.slots op.parts (by simp [Operation.parts])
    change ∃ fields, fields? _ op.encode.canonical = some fields ∧ _
    rw [op.encode_eq]
    refine ⟨written, same, ?_, ?_, ?_, ?_, ?_, ?_, ?_⟩
    · exact tags_again (place "tags" (by decide))
    · exact text_optional canonical opened summary (place "summary" (by decide))
    · exact text_optional canonical opened description (place "description" (by decide))
    · exact text_optional canonical opened operationId (place "operationId" (by decide))
    · exact parameter_sound.list.optional canonical opened parameters (place "parameters" (by decide))
    · exact requestBody_sound.optional canonical opened body (place "requestBody" (by decide))
    · exact response_sound.table.required canonical opened responses (place "responses" (by decide))
  · rcases List.mem_append.mp member with member | member
    · rcases List.mem_append.mp member with member | member
      · cases given : op.parameters with
        | none => simp [given] at member
        | some ps =>
          rw [given] at member
          exact parameter_sound.list.optional_schemas canonical opened parameters ps given s (mem_parameters member)
      · cases given : op.requestBody with
        | none => simp [given] at member
        | some made =>
          rw [given] at member
          exact requestBody_sound.optional_schemas canonical opened body made given s member
    · exact response_sound.table.required_schemas canonical opened responses s member

def pathItem : Format PathItem where
  read? := PathItem.decode?
  write := PathItem.encode
  settle := PathItem.mapSchemas settled
  schemas item := item.operations.flatMap Operation.schemas
  null := rfl

theorem pathItem_sound : pathItem.Sound := by
  intro v canonical
  refine ⟨fun {item} read => PathItem.decode?_iff.mpr ?_, fun {item} read s member => ?_⟩
  all_goals
    obtain ⟨fields, opened, slots⟩ := PathItem.decode?_iff.mp read
  · obtain ⟨written, same, place⟩ := fields?_present PathItem.slots item.parts
      (by simp [PathItem.parts, Method.all, Method.key])
    change ∃ fields, fields? _ item.encode.canonical = some fields ∧ _
    rw [item.encode_eq]
    refine ⟨written, same, fun m => ?_⟩
    have stands : item.parts.lookup m.key = some ((item.slot m).map Operation.encode) := by cases m <;> rfl
    refine operation_sound.optional canonical opened (slots m) ?_
    rw [place m.key (by cases m <;> decide), stands]
    rfl
  · obtain ⟨op, inside, member⟩ := List.mem_flatMap.mp member
    obtain ⟨m, _, given⟩ := List.mem_filterMap.mp inside
    exact operation_sound.optional_schemas canonical opened (slots m) op given s member

def components : Format (Option (Table Schema)) where
  read? := decodeComponents?
  write := encodeComponents
  settle := Option.map (Table.map settled)
  schemas definitions := definitions.elim [] Table.values
  null := rfl

theorem components_sound : components.Sound := by
  intro v canonical
  have opened {definitions : Option (Table Schema)} (read : components.read? v = some definitions) :
      ∃ fields, fields? [⟨"schemas", false⟩] v = some fields ∧
        optionalField? fields "schemas" Format.schema.table.read? = some definitions :=
    Option.bind_eq_some_iff.mp read
  refine ⟨fun {definitions} read => ?_, fun {definitions} read s member => ?_⟩
  all_goals
    obtain ⟨fields, opened, schemas⟩ := opened read
  · obtain ⟨written, same, place⟩ := fields?_present [⟨"schemas", false⟩] (componentsParts definitions)
      (by simp [componentsParts])
    rw [← encodeComponents_eq] at same
    refine Option.bind_eq_some_iff.mpr ⟨written, same, ?_⟩
    exact Schema.format_sound.table.optional canonical opened schemas (place "schemas" (by decide))
  · cases definitions with
    | none => cases member
    | some t =>
      exact Schema.format_sound.table.optional_schemas canonical opened schemas t rfl s
        (List.mem_flatMap.mpr ⟨s, member, List.mem_singleton.mpr rfl⟩)

def document : Format Document where
  read? := Document.decode?
  write := Document.encode
  settle := Document.mapSchemas settled
  schemas := Document.schemas
  null := rfl

theorem document_sound : document.Sound := by
  intro v canonical
  refine ⟨fun {d} read => Document.decode?_iff.mpr ?_, fun {d} read s member => ?_⟩
  all_goals
    obtain ⟨fields, opened, openapi, info, paths, shared⟩ := Document.decode?_iff.mp read
  · obtain ⟨written, same, place⟩ := fields?_present Document.slots d.parts (by simp [Document.parts])
    change ∃ fields, fields? _ d.encode.canonical = some fields ∧ _
    rw [d.encode_eq]
    refine ⟨written, same, ?_, ?_, ?_, ?_⟩
    · exact text_sound.required canonical opened openapi (place "openapi" (by decide))
    · exact info_sound.required canonical opened info (place "info" (by decide))
    · exact pathItem_sound.table.required canonical opened paths (place "paths" (by decide))
    · exact components_sound.optional canonical opened shared (place "components" (by decide))
  · rcases List.mem_append.mp member with member | member
    · exact pathItem_sound.table.required_schemas canonical opened paths s member
    · cases given : d.components with
      | none => simp [given] at member
      | some definitions =>
        rw [given] at member
        exact components_sound.optional_schemas canonical opened shared definitions given s member

end Format

namespace Document

/-! ### How documents stand in JSON -/

structure Operation.LaidOut (op : Operation) : Prop where
  tags : (op.encode.member? "tags").isSome = !op.tags.isEmpty
  summary : (op.encode.member? "summary").isSome = op.summary.isSome
  description : (op.encode.member? "description").isSome = op.description.isSome
  operationId : (op.encode.member? "operationId").isSome = op.operationId.isSome
  parameters : (op.encode.member? "parameters").isSome = op.parameters.isSome
  requestBody : (op.encode.member? "requestBody").isSome = op.requestBody.isSome
  parameter : ∀ ps, op.parameters = some ps → ∀ p ∈ ps,
    (p.encode.member? "description").isSome = p.description.isSome
  body : ∀ body, op.requestBody = some body →
    (body.encode.member? "description").isSome = body.description.isSome
  response : ∀ r ∈ op.responses.values, (r.encode.member? "content").isSome = r.content.isSome

structure LaidOut (d : Document) : Prop where
  description : (d.info.encode.member? "description").isSome = d.info.description.isSome
  method : ∀ item ∈ d.paths.values, ∀ m : Method,
    (item.encode.member? m.key).isSome = (item.slot m).isSome
  operation : ∀ item ∈ d.paths.values, ∀ op ∈ item.operations, op.LaidOut
  components : (d.encode.member? "components").isSome = d.components.isSome
  definitions : ∀ definitions, d.components = some definitions →
    ((encodeComponents definitions).member? "schemas").isSome = definitions.isSome
  schema : ∀ s ∈ d.schemas, ∀ t, Schema.Occurs t s → t.LaidOut

theorem isSome_present {parts : List (String × Option Value)} (distinct : (parts.map Prod.fst).Nodup)
    (key : String) : ((Value.object (Format.present parts)).member? key).isSome =
      (parts.lookup key).join.isSome := by
  rw [Value.member?_object, Format.lookup_present distinct]

theorem Operation.laidOut (op : Operation) : op.LaidOut := by
  have stands (key : String) : (op.encode.member? key).isSome = (op.parts.lookup key).join.isSome := by
    rw [op.encode_eq, isSome_present (by simp [Operation.parts])]
  constructor
  · rw [stands]
    change ((if op.tags.isEmpty then none else some op.tags).map Schema.encodeStrings).isSome = _
    cases op.tags <;> rfl
  · exact (stands "summary").trans Option.isSome_map
  · exact (stands "description").trans Option.isSome_map
  · exact (stands "operationId").trans Option.isSome_map
  · exact (stands "parameters").trans Option.isSome_map
  · exact (stands "requestBody").trans Option.isSome_map
  · intro ps _ p _
    rw [p.encode_eq, isSome_present (by simp [Parameter.parts])]
    exact Option.isSome_map
  · intro body _
    rw [body.encode_eq, isSome_present (by simp [RequestBody.parts])]
    exact Option.isSome_map
  · intro r _
    rw [r.encode_eq, isSome_present (by simp [Response.parts])]
    exact Option.isSome_map

theorem laidOut {d : Document} (schemas : ∀ s ∈ d.schemas, s.Read) : d.LaidOut where
  description := by
    rw [d.info.encode_eq, isSome_present (by simp [Info.parts])]
    exact Option.isSome_map
  method item _ m := by
    rw [item.encode_eq, isSome_present (by simp [PathItem.parts, Method.all, Method.key])]
    have stands : item.parts.lookup m.key = some ((item.slot m).map Operation.encode) := by cases m <;> rfl
    rw [stands]
    exact Option.isSome_map
  operation _ _ op _ := op.laidOut
  components := by
    rw [d.encode_eq, isSome_present (by simp [parts])]
    exact Option.isSome_map
  definitions definitions _ := by
    rw [encodeComponents_eq, isSome_present (by simp [componentsParts])]
    exact Option.isSome_map
  schema s member t occurs := ((schemas s member).occurs occurs).1.laidOut

/-- Whatever JSON value a schema or a document was read from, it can be written and read again, and it
comes back as it was but for bounds that are the same numbers: a zero loses its sign. Keys that are not
of the standard are kept as extensions where they stand and what is absent is left out, at every depth,
and whole bounds below `2 ^ 63` are written as integers. -/
theorem json_round_trip :
    (∀ (j : Value) (s : Schema), Schema.decode? j.canonical = some s →
      Schema.decode? s.encode.canonical = some (s.mapBounds Binary64.settle) ∧
        s.KeepsUnknown j.canonical ∧ ∀ t, Schema.Occurs t s → t.LaidOut) ∧
    (∀ (j : Value) (d : Document), Document.decode? j.canonical = some d →
      Document.decode? d.encode.canonical = some (d.mapSchemas (Schema.mapBounds Binary64.settle)) ∧
        d.LaidOut ∧
          ∀ s ∈ d.schemas, ∃ path v, j.canonical.atPath? path = some v ∧ Schema.decode? v = some s ∧
            s.KeepsUnknown v) ∧
    ∀ bound : Binary64, bound.settle.number? = bound.number? := by
  refine ⟨fun j s read => ?_, fun j d read => ?_, Binary64.number?_settle⟩
  · have canonical := j.canonical_idem
    have whole : s.Read := ⟨j.canonical, canonical, read⟩
    refine ⟨(Schema.restores _ canonical).again read, Schema.keepsUnknown canonical read, ?_⟩
    exact fun t occurs => (whole.occurs occurs).1.laidOut
  · have canonical := j.canonical_idem
    have restores := Format.document_sound _ canonical
    have inside (s : Schema) (member : s ∈ d.schemas) : s.ReadIn j.canonical :=
      restores.schemas read s member
    refine ⟨restores.again read, laidOut fun s member => (inside s member).read canonical, ?_⟩
    intro s member
    obtain ⟨path, v, place, given⟩ := inside s member
    exact ⟨path, v, place, given, Schema.keepsUnknown (canonical.at place) given⟩

/-- A bound that is a negative zero, and a document whose parameter has no description. -/
theorem json_round_trip_limit :
    let limit : Value := .object [("type", .string "number"), ("x-unit", .null),
      ("minimum", .float (.zero true)), ("items", .object [("maximum", .integer 100)])]
    let s : Schema :=
      { type := some "number", minimum := some (.zero true), items := some { maximum := some (.ofNat 100) },
        extensions := ⟨[("x-unit", .null)]⟩ }
    let j : Value := .object [("openapi", .string "3.0.0"),
      ("info", .object [("title", .string "Posts"), ("version", .string "1.0.0")]),
      ("paths", .object [("/posts", .object [("get", .object [
        ("responses", .object []),
        ("parameters", .array [.object [("schema", limit), ("name", .string "limit"),
          ("required", .bool false), ("in", .string "query")]])])])])]
    (Schema.decode? limit.canonical = some s ∧
      Schema.decode? s.encode.canonical = some { s with minimum := some (.zero false) }) ∧
      ∃ d, Document.decode? j.canonical = some d ∧ d.schemas = [s] ∧
        Document.decode? d.encode.canonical = some (d.mapSchemas (Schema.mapBounds Binary64.settle)) := by
  intro limit s j
  have read : Schema.decode? limit.canonical = some s := by decide +kernel
  have settled : s.mapBounds Binary64.settle = { s with minimum := some (.zero false) } := by
    decide +kernel
  have schemas : (Document.decode? j.canonical).map Document.schemas = some [s] := by decide +kernel
  obtain ⟨d, found, held⟩ := Option.map_eq_some_iff.mp schemas
  exact ⟨⟨read, settled ▸ (json_round_trip.1 limit s read).1⟩, d, found, held,
    (json_round_trip.2.1 j d found).1⟩

end Document

end ApiSchema
