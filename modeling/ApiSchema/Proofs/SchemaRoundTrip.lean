import ApiSchema.Proofs.References
import ApiSchema.Proofs.SchemaKeywords

/-! Schemas that are written and read again. Members are read one after another, yet each sets only its
own keyword, so a schema is what stands under its keys, in whatever order; what is written under a key is
read back by the kind of the keyword, at every depth by induction on the value that was read. -/

namespace ApiSchema.Schema

open Json (Value)

/-! ### Reading member by member -/

section Reading

variable {acc s t : Schema} {members : List (String × Value)}

theorem decodeOption?_eq (v : Value) : decodeOption? v = optional? decode? v := by
  cases v <;> simp [decodeOption?, optional?, decode?]

theorem decodeEntries?_eq (acc : Table Schema) : decodeEntries? acc members =
    (members.mapM fun member => (decode? member.2).map fun s => (member.1, s)).map acc.insertAll := by
  induction members generalizing acc with
  | nil => rfl
  | cons member rest ih =>
    simp only [decodeEntries?, ih, List.mapM_cons]
    cases decode? member.2 with
    | none => rfl
    | some s => cases rest.mapM fun member => (decode? member.2).map fun s => (member.1, s) <;> rfl

theorem decodeTable?_eq (v : Value) : decodeTable? v = optional? Format.schema.table.read? v := by
  cases v with
  | object members =>
    simp only [decodeTable?, decodeEntries?_eq, optional?, Format.table, Format.schema, Document.decodeTableOf?]
    cases members.mapM fun member => (decode? member.2).map fun s => (member.1, s) <;> rfl
  | null | bool _ | integer _ | float _ | string _ | array _ => rfl

theorem decodeList?_eq (items : List Value) : decodeList? items = items.mapM decode? := by
  induction items with
  | nil => rfl
  | cons item rest ih =>
    simp only [decodeList?, ih, List.mapM_cons]
    cases decode? item with
    | none => rfl
    | some s => cases rest.mapM decode? <;> rfl

theorem decodeBranches?_eq (v : Value) : decodeBranches? v = optional? Format.schema.list.read? v := by
  cases v with
  | array items => exact congrArg (Option.map some) (decodeList?_eq items)
  | null | bool _ | integer _ | float _ | string _ | object _ => rfl

/-- A keyword is read by its kind. -/
theorem decodeMembers?_known (acc : Schema) (w : Keyword) (value : Value)
    (rest : List (String × Value)) : decodeMembers? acc ((w.key, value) :: rest) =
      (optional? w.kind.format.read? value).bind fun x => decodeMembers? (acc.set w x) rest := by
  cases w with
  | items | additionalProperties | negated =>
    simp only [Keyword.key, decodeMembers?, decodeOption?_eq]
    rfl
  | properties | definitions =>
    simp only [Keyword.key, decodeMembers?, decodeTable?_eq]
    rfl
  | allOf | oneOf | anyOf =>
    simp only [Keyword.key, decodeMembers?, decodeBranches?_eq]
    rfl
  | defaultValue | exampleValue =>
    change ((optional? some value).map _).bind _ = _
    rw [Option.bind_map, ← Format.optional?_given?]
    rfl
  | _ =>
    change ((optional? _ value).map _).bind _ = _
    rw [Option.bind_map]
    rfl

theorem setKeyword?_unknown (k : Keywords) {key : String} (unknown : Unknown key) (value : Value) :
    setKeyword? k key value = some { k with extensions := k.extensions.insert key value } := by
  unfold setKeyword?
  split
  case h_18 => rfl
  all_goals exact absurd (by decide) unknown

theorem decodeMembers?_unknown (acc : Schema) {key : String} (unknown : Unknown key) (value : Value)
    (rest : List (String × Value)) :
    decodeMembers? acc ((key, value) :: rest) = decodeMembers? (acc.extend key value) rest := by
  rw [decodeMembers?, setKeyword?_unknown _ unknown]
  · rfl
  all_goals
    rintro rfl
    exact absurd (by decide) unknown

/-- What a schema has for a keyword is what stands under its key. -/
theorem get_of_decodeMembers? (distinct : (members.map Prod.fst).Nodup)
    (read : decodeMembers? acc members = some s) (w : Keyword) :
    match members.lookup w.key with
    | some value => optional? w.kind.format.read? value = some (s.get w)
    | none => s.get w = acc.get w := by
  induction members generalizing acc with
  | nil =>
    cases read
    rfl
  | cons member rest ih =>
    obtain ⟨key, value⟩ := member
    obtain ⟨fresh, others⟩ := List.nodup_cons.mp distinct
    rcases known_or_unknown key with ⟨w', rfl⟩ | unknown
    · rw [decodeMembers?_known] at read
      obtain ⟨x, first, read⟩ := Option.bind_eq_some_iff.mp read
      have later := ih others read
      by_cases same : w' = w
      · subst same
        rw [Table.lookup_eq_none fresh, get_set_self] at later
        simp only [List.lookup_cons_self, first]
        rw [later]
      · have apart : (w.key == w'.key) = false :=
          beq_false_of_ne fun other => same (Keyword.key_injective other).symm
        simp only [List.lookup_cons, apart]
        rwa [get_set_of_ne _ _ same] at later
    · rw [decodeMembers?_unknown _ unknown] at read
      have later := ih others read
      simp only [List.lookup_cons, beq_false_of_ne (unknown.ne w)]
      rwa [get_extend] at later

/-- All else becomes an extension. -/
theorem extensions_of_decodeMembers? (read : decodeMembers? acc members = some s) :
    s.extensions = acc.extensions.insertAll (members.filter fun member => Unknown member.1) := by
  induction members generalizing acc with
  | nil =>
    cases read
    rfl
  | cons member rest ih =>
    obtain ⟨key, value⟩ := member
    rcases known_or_unknown key with ⟨w, rfl⟩ | unknown
    · rw [decodeMembers?_known] at read
      obtain ⟨x, _, read⟩ := Option.bind_eq_some_iff.mp read
      have known : ¬Unknown w.key := fun unknown => unknown.ne w rfl
      rw [ih read, extensions_set, List.filter_cons_of_neg (by simpa using known)]
    · rw [decodeMembers?_unknown _ unknown] at read
      rw [ih read, extensions_extend, List.filter_cons_of_pos (by simpa using unknown)]
      rfl

/-- Members that tell for each keyword what the schema has, and all else as extensions, are read as
the schema, whatever their order. -/
theorem decodeMembers?_of_get (distinct : (members.map Prod.fst).Nodup)
    (known : ∀ w : Keyword, match members.lookup w.key with
      | some value => optional? w.kind.format.read? value = some (s.get w)
      | none => s.get w = acc.get w)
    (unknown : s.extensions = acc.extensions.insertAll (members.filter fun member => Unknown member.1)) :
    decodeMembers? acc members = some s := by
  induction members generalizing acc with
  | nil => exact congrArg some (ext_get known unknown).symm
  | cons member rest ih =>
    obtain ⟨key, value⟩ := member
    obtain ⟨fresh, others⟩ := List.nodup_cons.mp distinct
    rcases known_or_unknown key with ⟨w, rfl⟩ | extra
    · have first := known w
      rw [List.lookup_cons_self] at first
      rw [decodeMembers?_known, first, Option.bind_some]
      refine ih others (fun w' => ?_) ?_
      · by_cases same : w = w'
        · subst same
          rw [Table.lookup_eq_none fresh, get_set_self]
        · have apart : (w'.key == w.key) = false :=
            beq_false_of_ne fun other => same (Keyword.key_injective other).symm
          have later := known w'
          simp only [List.lookup_cons, apart] at later
          rwa [get_set_of_ne _ _ same]
      · have standard : ¬Unknown w.key := fun unknown => unknown.ne w rfl
        rwa [List.filter_cons_of_neg (by simpa using standard), ← extensions_set acc w (s.get w)] at unknown
    · rw [decodeMembers?_unknown _ extra]
      refine ih others (fun w => ?_) ?_
      · have later := known w
        simp only [List.lookup_cons, beq_false_of_ne (extra.ne w)] at later
        rwa [get_extend]
      · rw [List.filter_cons_of_pos (by simpa using extra)] at unknown
        exact unknown

end Reading

/-! ### Writing -/

section Writing

variable {s : Schema}

def parts (s : Schema) : List (String × Option Value) :=
  Keyword.all.map fun w => (w.key, (s.get w).map w.kind.format.write)

theorem parts_distinct (s : Schema) : (s.parts.map Prod.fst).Nodup := by
  simpa [parts, Function.comp_def] using Keyword.distinct_keys

theorem lookup_parts (s : Schema) (w : Keyword) :
    s.parts.lookup w.key = some ((s.get w).map w.kind.format.write) := by
  cases w <;> rfl

theorem encodeEntries_eq (entries : List (String × Schema)) :
    encodeEntries entries = entries.map fun entry => (entry.1, encode entry.2) := by
  induction entries with
  | nil => rfl
  | cons entry rest ih => rw [encodeEntries, ih, List.map_cons]

theorem encodeList_eq (branches : List Schema) : encodeList branches = branches.map encode := by
  induction branches with
  | nil => rfl
  | cons s rest ih => rw [encodeList, ih, List.map_cons]

theorem encodeOption_eq (key : String) (s : Option Schema) :
    encodeOption key s = memberOf key encode s := by
  cases s <;> rfl

theorem encodeTable_eq (key : String) (t : Option (Table Schema)) :
    encodeTable key t = memberOf key Format.schema.table.write t := by
  cases t with
  | none => rfl
  | some t =>
    rw [encodeTable, encodeEntries_eq]
    rfl

theorem encodeBranches_eq (key : String) (branches : Option (List Schema)) :
    encodeBranches key branches = memberOf key Format.schema.list.write branches := by
  cases branches with
  | none => rfl
  | some branches =>
    rw [encodeBranches, encodeList_eq]
    rfl

def written (s : Schema) : List (String × Value) := Format.present s.parts ++ s.extensions.entries

theorem encode_eq (s : Schema) : s.encode = .object s.written := by
  obtain ⟨k, items, properties, additional, allOf, oneOf, anyOf, negated, definitions⟩ := s
  simp only [encode, written, encodeOption_eq, encodeTable_eq, encodeBranches_eq, List.append_assoc, parts,
    Keyword.all, Format.present, List.map_cons, List.flatMap_cons, Format.memberOf_map, List.map_nil,
    List.flatMap_nil, List.nil_append]
  rfl

/-- A schema that was read was read from an object, whose members are in order. -/
theorem Read.members (read : s.Read) : ∃ members : List (String × Value),
    (Value.object members).Canonical ∧ decodeMembers? {} members = some s := by
  obtain ⟨v, canonical, read⟩ := read
  cases v with
  | object members => exact ⟨members, canonical, read⟩
  | null | bool _ | integer _ | float _ | string _ | array _ => cases read

theorem Read.extension (read : s.Read) {entry : String × Value} (member : entry ∈ s.extensions.entries) :
    Unknown entry.1 ∧ entry.2.Canonical := by
  obtain ⟨members, canonical, read⟩ := read.members
  rw [extensions_of_decodeMembers? read] at member
  rcases Table.mem_insertAll member with inside | nothing
  · obtain ⟨inside, unknown⟩ := List.mem_filter.mp inside
    exact ⟨by simpa using unknown, canonical.member inside⟩
  · cases nothing

theorem Read.extensions_sorted (read : s.Read) : s.extensions.Sorted := by
  obtain ⟨members, _, read⟩ := read.members
  rw [extensions_of_decodeMembers? read]
  exact Table.sorted_insertAll Table.sorted_empty _

theorem Read.lookup_extensions (read : s.Read) (w : Keyword) : s.extensions.entries.lookup w.key = none := by
  refine Table.lookup_eq_none fun member => ?_
  obtain ⟨entry, inside, same⟩ := List.mem_map.mp member
  exact (read.extension inside).1.ne w same.symm

theorem lookup_parts_unknown {key : String} (unknown : Unknown key) : s.parts.lookup key = none := by
  refine Table.lookup_eq_none fun member => unknown ?_
  simpa [parts, Function.comp_def] using member

theorem Read.written_distinct (read : s.Read) : (s.written.map Prod.fst).Nodup := by
  rw [written, List.map_append]
  refine (s.parts_distinct.sublist (Format.present_keys _)).append read.extensions_sorted.distinct ?_
  intro key known extension
  obtain ⟨entry, inside, rfl⟩ := List.mem_map.mp extension
  have standard := (Format.present_keys s.parts).subset known
  exact (read.extension inside).1 (by simpa [parts, Function.comp_def] using standard)

theorem Read.lookup_written (read : s.Read) (w : Keyword) :
    s.written.lookup w.key = (s.get w).map w.kind.format.write := by
  rw [written, List.lookup_append, Format.lookup_present s.parts_distinct, lookup_parts,
    read.lookup_extensions, Option.or_none]
  rfl

theorem lookup_written_unknown {key : String} (unknown : Unknown key) :
    s.written.lookup key = s.extensions.entries.lookup key := by
  rw [written, List.lookup_append, Format.lookup_present s.parts_distinct, lookup_parts_unknown unknown]
  rfl

end Writing

/-! ### Reading what was written -/

theorem get_empty (w : Keyword) : ({} : Schema).get w = none := by cases w <;> rfl

theorem Kind.restores (kind : Kind) {v : Value} (canonical : v.Canonical)
    (schemas : ∀ u : Value, sizeOf u ≤ sizeOf v → u.Canonical → Format.schema.Restores u) :
    kind.format.Restores v := by
  cases kind with
  | text => exact Format.text_sound v canonical
  | texts => exact Format.texts_sound v canonical
  | truth => exact Format.truth_sound v canonical
  | bound => exact Format.bound_sound v canonical
  | count => exact Format.count_sound v canonical
  | value => exact Format.value_sound v canonical
  | values => exact Format.values_sound v canonical
  | schema => exact schemas v le_rfl canonical
  | table =>
    exact Format.table_restores canonical fun place =>
      schemas _ (Value.sizeOf_step_lt place).le (canonical.step place)
  | branches =>
    exact Format.list_restores fun place => schemas _ (Value.sizeOf_step_lt place).le (canonical.step place)

/-- What a schema that was read has for a keyword was read by its kind from the member under its key. -/
theorem read_of_get {s : Schema} {v : Value} (canonical : v.Canonical) (read : decode? v = some s)
    {w : Keyword} {x : w.kind.Carrier} (has : s.get w = some x) :
    ∃ u : Value, v.step? (.key w.key) = some u ∧ w.kind.format.read? u = some x := by
  cases v with
  | null | bool _ | integer _ | float _ | string _ | array _ => cases read
  | object members =>
    have place := get_of_decodeMembers? canonical.sorted.distinct read w
    rw [has] at place
    split at place
    · next u given => exact ⟨u, given, Format.read_of_optional? place⟩
    · rw [get_empty] at place
      cases place

/-- The members of what is written, in canonical form. -/
theorem Read.encode_canonical {s : Schema} (read : s.Read) : ∃ members : List (String × Value),
    s.encode.canonical = .object members ∧ (members.map Prod.fst).Nodup ∧
      ∀ key, members.lookup key = (s.written.lookup key).map Value.canonical := by
  refine ⟨_, ?_, (Table.sorted_ofList _).distinct, Value.lookup_canonical read.written_distinct⟩
  rw [encode_eq, Value.canonical_object]

/-- The extensions come back as they are. -/
theorem Read.extensions_again {s : Schema} (read : s.Read) {members : List (String × Value)}
    (distinct : (members.map Prod.fst).Nodup)
    (same : ∀ key, members.lookup key = (s.written.lookup key).map Value.canonical) :
    s.extensions = Table.insertAll {} (members.filter fun member => Unknown member.1) := by
  refine read.extensions_sorted.ext (Table.sorted_insertAll Table.sorted_empty _) fun key => ?_
  rw [Table.get?_insertAll (distinct.sublist (List.filter_sublist.map _)), Table.get?_eq_lookup]
  rcases known_or_unknown key with ⟨w, rfl⟩ | unknown
  · have absent : w.key ∉ (members.filter fun member => Unknown member.1).map Prod.fst := by
      intro member
      obtain ⟨entry, inside, same⟩ := List.mem_map.mp member
      have unknown : Unknown entry.1 := by simpa using (List.mem_filter.mp inside).2
      exact unknown.ne w same.symm
    rw [read.lookup_extensions, Table.lookup_eq_none absent]
    rfl
  · rw [Table.lookup_filter _ (fun key => Unknown key) (by simpa using unknown), same,
      lookup_written_unknown unknown]
    cases found : s.extensions.entries.lookup key with
    | none => rfl
    | some value =>
      have canonical : value.canonical = value := (read.extension (Table.mem_of_lookup found)).2
      rw [Option.map_some, canonical, Option.some_or]

/-- A schema that was read comes back when it is written, with bounds that lost the sign of a zero. The
induction is on the value that was read, in which the schemas inside it were read from smaller ones. -/
theorem restores (v : Value) (canonical : v.Canonical) : Format.schema.Restores v := by
  induction size : sizeOf v using Nat.strong_induction_on generalizing v with
  | _ n ih =>
  refine ⟨fun {s} found => ?_, fun {s} found t member => ?_⟩
  · have read : s.Read := ⟨v, canonical, found⟩
    obtain ⟨again, encoded, distinct, same⟩ := read.encode_canonical
    change decode? s.encode.canonical = some (s.mapBounds Binary64.settle)
    rw [encoded, decode?]
    refine decodeMembers?_of_get distinct (fun w => ?_) ?_
    · rw [same, read.lookup_written, get_mapBounds]
      cases has : s.get w with
      | none => exact (get_empty w).symm
      | some x =>
        obtain ⟨u, inside, given⟩ := read_of_get canonical found has
        have restores : w.kind.format.Restores u := by
          refine w.kind.restores (canonical.step inside) fun u' smaller canonical' => ?_
          have deeper : sizeOf u < sizeOf v := Value.sizeOf_step_lt inside
          exact ih (sizeOf u') (by omega) u' canonical' rfl
        exact Format.optional?_of_read (restores.again given)
    · rw [extensions_mapBounds]
      exact read.extensions_again distinct same
  · exact List.mem_singleton.mp member ▸ .here found

theorem format_sound : Format.schema.Sound := restores

/-! ### Schemas inside a schema -/

inductive Place where
  | items
  | additional
  | negated
  | property (name : String)
  | definition (name : String)
  | allOf (i : Nat)
  | oneOf (i : Nat)
  | anyOf (i : Nat)

def Place.path : Place → List Value.Step
  | items => [.key "items"]
  | additional => [.key "additionalProperties"]
  | negated => [.key "not"]
  | property name => [.key "properties", .key name]
  | definition name => [.key "definitions", .key name]
  | allOf i => [.key "allOf", .index i]
  | oneOf i => [.key "oneOf", .index i]
  | anyOf i => [.key "anyOf", .index i]

def part? (s : Schema) : Place → Option Schema
  | .items => s.items
  | .additional => s.additionalProperties
  | .negated => s.negated
  | .property name => s.properties.bind fun table => table.get? name
  | .definition name => s.definitions.bind fun table => table.get? name
  | .allOf i => s.allOf.bind fun branches => branches[i]?
  | .oneOf i => s.oneOf.bind fun branches => branches[i]?
  | .anyOf i => s.anyOf.bind fun branches => branches[i]?

def atPlaces? (s : Schema) : List Place → Option Schema
  | [] => some s
  | place :: rest => (s.part? place).bind fun t => t.atPlaces? rest

section Places

variable {s t : Schema} {v : Value}

/-- What a schema that was read has at a place was read from what the value has there. -/
theorem decode?_part (canonical : v.Canonical) (read : decode? v = some s) {place : Place}
    (found : s.part? place = some t) : ∃ u, v.atPath? place.path = some u ∧ decode? u = some t := by
  have whole {w : Keyword} {u : Value} (outer : v.step? (.key w.key) = some u) :
      v.atPath? [.key w.key] = some u := by
    rw [Value.atPath?, outer]
    rfl
  have entry {w : Keyword} {u : Value} (outer : v.step? (.key w.key) = some u) {table : Table Schema}
      (read : Format.schema.table.read? u = some table) {name : String}
      (found : table.get? name = some t) :
      ∃ u', v.atPath? [.key w.key, .key name] = some u' ∧ decode? u' = some t := by
    obtain ⟨u', inner, read⟩ := Format.table_entry (canonical.step outer) read (Table.mem_of_get? found)
    exact ⟨u', by simp [Value.atPath?, outer, inner], read⟩
  have branch {w : Keyword} {u : Value} (outer : v.step? (.key w.key) = some u) {branches : List Schema}
      (read : Format.schema.list.read? u = some branches) {i : Nat} (found : branches[i]? = some t) :
      ∃ u', v.atPath? [.key w.key, .index i] = some u' ∧ decode? u' = some t := by
    obtain ⟨u', inner, read⟩ := Format.list_item read found
    exact ⟨u', by simp [Value.atPath?, outer, inner], read⟩
  cases place with
  | items =>
    obtain ⟨u, outer, read⟩ := read_of_get (w := .items) canonical read found
    exact ⟨u, whole outer, read⟩
  | additional =>
    obtain ⟨u, outer, read⟩ := read_of_get (w := .additionalProperties) canonical read found
    exact ⟨u, whole outer, read⟩
  | negated =>
    obtain ⟨u, outer, read⟩ := read_of_get (w := .negated) canonical read found
    exact ⟨u, whole outer, read⟩
  | property name =>
    obtain ⟨table, has, found⟩ := Option.bind_eq_some_iff.mp found
    obtain ⟨u, outer, read⟩ := read_of_get (w := .properties) canonical read has
    exact entry outer read found
  | definition name =>
    obtain ⟨table, has, found⟩ := Option.bind_eq_some_iff.mp found
    obtain ⟨u, outer, read⟩ := read_of_get (w := .definitions) canonical read has
    exact entry outer read found
  | allOf i =>
    obtain ⟨branches, has, found⟩ := Option.bind_eq_some_iff.mp found
    obtain ⟨u, outer, read⟩ := read_of_get (w := .allOf) canonical read has
    exact branch outer read found
  | oneOf i =>
    obtain ⟨branches, has, found⟩ := Option.bind_eq_some_iff.mp found
    obtain ⟨u, outer, read⟩ := read_of_get (w := .oneOf) canonical read has
    exact branch outer read found
  | anyOf i =>
    obtain ⟨branches, has, found⟩ := Option.bind_eq_some_iff.mp found
    obtain ⟨u, outer, read⟩ := read_of_get (w := .anyOf) canonical read has
    exact branch outer read found

theorem decode?_places (canonical : v.Canonical) (read : decode? v = some s) {path : List Place}
    (found : s.atPlaces? path = some t) :
    ∃ u, v.atPath? (path.flatMap Place.path) = some u ∧ decode? u = some t := by
  induction path generalizing s v with
  | nil => exact ⟨v, rfl, Option.some.inj found ▸ read⟩
  | cons place rest ih =>
    obtain ⟨next, first, later⟩ := Option.bind_eq_some_iff.mp found
    obtain ⟨u, outer, read⟩ := decode?_part canonical read first
    obtain ⟨u', inner, read⟩ := ih (canonical.at outer) read later
    exact ⟨u', by rw [List.flatMap_cons, Value.atPath?_append, outer, Option.bind_some, inner], read⟩

/-- Tables that were read have one schema under a key, so that every schema stands at a place. -/
theorem Read.placed (read : s.Read) (part : Part t s) : ∃ place, s.part? place = some t := by
  obtain ⟨v, canonical, read⟩ := read
  have entry {table : Table Schema} {u : Value} (read : Format.schema.table.read? u = some table)
      {key : String} (member : (key, t) ∈ table.entries) : table.get? key = some t :=
    (Format.table_sorted read).mem_iff.mp member
  cases part with
  | items has => exact ⟨.items, has⟩
  | additional has => exact ⟨.additional, has⟩
  | negated has => exact ⟨.negated, has⟩
  | @property _ _ table key has member =>
    obtain ⟨u, _, read⟩ := read_of_get (w := .properties) canonical read has
    exact ⟨.property key, Option.bind_eq_some_iff.mpr ⟨table, has, entry read member⟩⟩
  | @definition _ _ table key has member =>
    obtain ⟨u, _, read⟩ := read_of_get (w := .definitions) canonical read has
    exact ⟨.definition key, Option.bind_eq_some_iff.mpr ⟨table, has, entry read member⟩⟩
  | allOf has member =>
    obtain ⟨i, found⟩ := List.mem_iff_getElem?.mp member
    exact ⟨.allOf i, Option.bind_eq_some_iff.mpr ⟨_, has, found⟩⟩
  | oneOf has member =>
    obtain ⟨i, found⟩ := List.mem_iff_getElem?.mp member
    exact ⟨.oneOf i, Option.bind_eq_some_iff.mpr ⟨_, has, found⟩⟩
  | anyOf has member =>
    obtain ⟨i, found⟩ := List.mem_iff_getElem?.mp member
    exact ⟨.anyOf i, Option.bind_eq_some_iff.mpr ⟨_, has, found⟩⟩

theorem Read.inside (read : s.Read) (part : Part t s) : t.Read := by
  obtain ⟨place, found⟩ := read.placed part
  obtain ⟨v, canonical, read⟩ := read
  obtain ⟨u, inside, read⟩ := decode?_part canonical read found
  exact ⟨u, canonical.at inside, read⟩

theorem Read.occurs (read : s.Read) (occurs : Occurs t s) :
    t.Read ∧ ∃ path, s.atPlaces? path = some t := by
  induction occurs with
  | refl => exact ⟨read, [], rfl⟩
  | tail _ part ih =>
    obtain ⟨place, found⟩ := read.placed part
    obtain ⟨inner, path, later⟩ := ih (read.inside part)
    exact ⟨inner, place :: path, Option.bind_eq_some_iff.mpr ⟨_, found, later⟩⟩

end Places

/-! ### How schemas stand in JSON -/

/-- Keywords that are absent are left out, extensions stand beside the others under keys of their own,
and whole bounds below `2 ^ 63` are integers. -/
structure LaidOut (s : Schema) : Prop where
  keyword (w : Keyword) : (s.encode.member? w.key).isSome = (s.get w).isSome
  extension {key : String} : Unknown key → s.encode.member? key = s.extensions.get? key
  foreign (w : Keyword) : s.extensions.get? w.key = none
  whole {key : String} {bound : Binary64} {n : Int} :
    (key, some bound) ∈ [("minimum", s.minimum), ("maximum", s.maximum), ("multipleOf", s.multipleOf)] →
      bound.toInt? = some n → n.natAbs < Word.size 63 → s.encode.member? key = some (.integer n)

theorem Read.member?_encode {s : Schema} (read : s.Read) (w : Keyword) :
    s.encode.member? w.key = (s.get w).map w.kind.format.write := by
  rw [encode_eq, Value.member?_object, read.lookup_written]

theorem Read.laidOut {s : Schema} (read : s.Read) : s.LaidOut where
  keyword w := by rw [read.member?_encode, Option.isSome_map]
  extension unknown := by
    rw [encode_eq, Value.member?_object, lookup_written_unknown unknown, Table.get?_eq_lookup]
  foreign w := by rw [Table.get?_eq_lookup, read.lookup_extensions]
  whole {key bound n} place whole small := by
    have encoded : encodeBound bound = .integer n := by simp [encodeBound, whole, small]
    have stands (w : Keyword) (same : (s.get w).map w.kind.format.write = some (encodeBound bound)) :
        s.encode.member? w.key = some (.integer n) := by
      rw [read.member?_encode, same, encoded]
    simp only [List.mem_cons, Prod.mk.injEq, List.not_mem_nil, or_false] at place
    rcases place with ⟨rfl, has⟩ | ⟨rfl, has⟩ | ⟨rfl, has⟩
    · exact stands .minimum (congrArg (Option.map encodeBound) has.symm)
    · exact stands .maximum (congrArg (Option.map encodeBound) has.symm)
    · exact stands .multipleOf (congrArg (Option.map encodeBound) has.symm)

/-- Keys that are not of the standard are kept with what stands under them. -/
theorem extensions_of_decode? {v : Value} (canonical : v.Canonical) {s : Schema}
    (read : decode? v = some s) {key : String} (unknown : Unknown key) :
    s.extensions.get? key = v.member? key := by
  cases v with
  | null | bool _ | integer _ | float _ | string _ | array _ => cases read
  | object members =>
    have distinct : (members.map Prod.fst).Nodup := canonical.sorted.distinct
    rw [extensions_of_decodeMembers? read, Value.member?_object,
      Table.get?_insertAll (distinct.sublist (List.filter_sublist.map _)),
      Table.lookup_filter _ (fun key => Unknown key) (by simpa using unknown)]
    exact Option.or_none

/-- Wherever a schema stands inside, its extensions are the unknown keys of what the value has there. -/
structure KeepsUnknown (s : Schema) (v : Value) : Prop where
  placed {t : Schema} : Occurs t s → ∃ path, s.atPlaces? path = some t
  kept {path : List Place} {t : Schema} : s.atPlaces? path = some t →
    ∃ u, v.atPath? (path.flatMap Place.path) = some u ∧
      ∀ key, Unknown key → t.extensions.get? key = u.member? key

theorem keepsUnknown {v : Value} (canonical : v.Canonical) {s : Schema} (read : decode? v = some s) :
    s.KeepsUnknown v where
  placed occurs := (Read.occurs ⟨v, canonical, read⟩ occurs).2
  kept found := by
    obtain ⟨u, inside, read⟩ := decode?_places canonical read found
    exact ⟨u, inside, fun key unknown => extensions_of_decode? (canonical.at inside) read unknown⟩

end ApiSchema.Schema
