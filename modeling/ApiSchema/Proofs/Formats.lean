import ApiSchema.Document.Encoding
import ApiSchema.Proofs.CanonicalValues

/-! Formats: how data of a kind is read from JSON values and written to them, and what is read back of
what was written. Reading is compared with writing at the values that were read themselves, so that what
holds of formats carries over to tables, lists and records of them. -/

namespace ApiSchema

open Json (Value)

def Schema.Read (s : Schema) : Prop := ∃ v : Value, v.Canonical ∧ decode? v = some s

def Schema.ReadIn (s : Schema) (v : Value) : Prop :=
  ∃ path u, v.atPath? path = some u ∧ decode? u = some s

namespace Schema.ReadIn

variable {s : Schema} {v u : Value}

theorem here (read : decode? v = some s) : s.ReadIn v := ⟨[], v, rfl, read⟩

theorem step {x : Value.Step} (found : v.step? x = some u) (read : s.ReadIn u) : s.ReadIn v := by
  obtain ⟨path, w, place, read⟩ := read
  exact ⟨x :: path, w, by rw [Value.atPath?, found, Option.bind_some, place], read⟩

theorem read (inside : s.ReadIn v) (canonical : v.Canonical) : s.Read := by
  obtain ⟨path, u, place, read⟩ := inside
  exact ⟨u, canonical.at place, read⟩

end Schema.ReadIn

structure Format (α : Type) where
  read? : Value → Option α
  write : α → Value
  /-- What is read back of data that was written. -/
  settle : α → α
  /-- The outermost schemas of the data. -/
  schemas : α → List Schema
  /-- Data is there where a value is. -/
  null : read? .null = none

namespace Format

variable {α : Type} {F : Format α} {v : Value} {a : α}

/-- What is read from the value can be written and read again. -/
structure Restores (F : Format α) (v : Value) : Prop where
  again {a : α} : F.read? v = some a → F.read? (F.write a).canonical = some (F.settle a)
  schemas {a : α} : F.read? v = some a → ∀ s ∈ F.schemas a, s.ReadIn v

def Sound (F : Format α) : Prop := ∀ v : Value, v.Canonical → F.Restores v

/-- The format of data that comes back as it was and holds no schemas. -/
def plain (read? : Value → Option α) (write : α → Value) (null : read? .null = none) : Format α where
  read?
  write
  settle := id
  schemas _ := []
  null

theorem plain_sound {read? : Value → Option α} {write : α → Value} (null : read? .null = none)
    (again : ∀ v a, v.Canonical → read? v = some a → read? (write a).canonical = some a) :
    (plain read? write null).Sound :=
  fun v canonical => ⟨again v _ canonical, fun _ _ member => by cases member⟩

/-! ### Values that may be null -/

theorem optional?_of_read (read : F.read? v = some a) : Schema.optional? F.read? v = some (some a) := by
  cases v with
  | null => cases F.null.symm.trans read
  | bool _ | integer _ | float _ | string _ | array _ | object _ => simp [Schema.optional?, read]

theorem read_of_optional? (read : Schema.optional? F.read? v = some (some a)) : F.read? v = some a := by
  cases v with
  | null => cases read
  | bool _ | integer _ | float _ | string _ | array _ | object _ =>
    obtain ⟨b, found, same⟩ := Option.map_eq_some_iff.mp read
    exact Option.some.inj same ▸ found

theorem Restores.optional (restores : F.Restores v) (read : Schema.optional? F.read? v = some (some a)) :
    Schema.optional? F.read? (F.write a).canonical = some (some (F.settle a)) :=
  optional?_of_read (restores.again (read_of_optional? read))

/-! ### Texts and truth values -/

def text : Format String := plain Value.text? .string rfl

theorem text_sound : text.Sound := plain_sound rfl fun _ _ _ _ => rfl

def truth : Format Bool := plain Schema.decodeBool? .bool rfl

theorem truth_sound : truth.Sound := plain_sound rfl fun _ _ _ _ => rfl

theorem texts_again (texts : List String) :
    Schema.decodeStrings? (Schema.encodeStrings texts).canonical = some texts := by
  have again : texts.mapM (fun text => (Value.string text).text?) = some (texts.map id) := List.mapM_pure
  simpa [Schema.encodeStrings, Schema.decodeStrings?, Function.comp_def, Value.canonical] using again

def texts : Format (List String) := plain Schema.decodeStrings? Schema.encodeStrings rfl

theorem texts_sound : texts.Sound := plain_sound rfl fun _ texts _ _ => texts_again texts

/-! ### Lists and tables -/

def list (F : Format α) : Format (List α) where
  read? := Document.decodeListOf? F.read?
  write items := .array (items.map F.write)
  settle := List.map F.settle
  schemas items := items.flatMap F.schemas
  null := rfl

def table (F : Format α) : Format (Table α) where
  read? := Document.decodeTableOf? F.read?
  write := Document.encodeTableOf F.write
  settle := Table.map F.settle
  schemas t := t.values.flatMap F.schemas
  null := rfl

theorem mapM_eq_map {β : Type} {read : α → Option β} {f : α → β} {items : List α}
    (each : ∀ item ∈ items, read item = some (f item)) : items.mapM read = some (items.map f) := by
  induction items with
  | nil => rfl
  | cons item rest ih =>
    simp [each item List.mem_cons_self, ih fun next member => each next (List.mem_cons_of_mem _ member)]

theorem getElem?_mapM {β : Type} {read : β → Option α} {items : List β} {as : List α}
    (made : items.mapM read = some as) {i : Nat} (found : as[i]? = some a) :
    ∃ item, items[i]? = some item ∧ read item = some a := by
  induction items generalizing as i with
  | nil =>
    cases made
    cases found
  | cons item rest ih =>
    simp only [List.mapM_cons, Option.bind_eq_bind, Option.bind_eq_some_iff, Option.pure_def,
      Option.some.injEq] at made
    obtain ⟨first, read, others, later, rfl⟩ := made
    cases i with
    | zero => exact ⟨item, rfl, read.trans found⟩
    | succ i => exact ih later found

/-- What a list holds was read from the item at its position. -/
theorem list_item {as : List α} (read : F.list.read? v = some as) {i : Nat} (found : as[i]? = some a) :
    ∃ u, v.step? (.index i) = some u ∧ F.read? u = some a := by
  cases v with
  | array items => exact getElem?_mapM read found
  | null | bool _ | integer _ | float _ | string _ | object _ => cases read

theorem list_restores (each : ∀ {i u}, v.step? (.index i) = some u → F.Restores u) :
    F.list.Restores v := by
  refine ⟨fun {as} read => ?_, fun {as} read s member => ?_⟩
  · have again : as.mapM (fun a => F.read? (F.write a).canonical) = some (as.map F.settle) := by
      refine mapM_eq_map fun a member => ?_
      obtain ⟨i, found⟩ := List.mem_iff_getElem?.mp member
      obtain ⟨u, place, read⟩ := list_item read found
      exact (each place).again read
    simpa [list, Document.decodeListOf?, Function.comp_def] using again
  · obtain ⟨a, inside, member⟩ := List.mem_flatMap.mp member
    obtain ⟨i, found⟩ := List.mem_iff_getElem?.mp inside
    obtain ⟨u, place, read⟩ := list_item read found
    exact .step place ((each place).schemas read s member)

theorem Sound.list (sound : F.Sound) : F.list.Sound := fun _ canonical =>
  list_restores fun place => sound _ (canonical.step place)

/-- What is written of a table in order stands in order. -/
theorem canonical_encodeTableOf {write : α → Value} {t : Table α} (sorted : t.Sorted) :
    (Document.encodeTableOf write t).canonical =
      .object (t.entries.map fun entry => (entry.1, (write entry.2).canonical)) := by
  have same : Table.ofList (t.map fun a => (write a).canonical).entries =
      t.map fun a => (write a).canonical := (sorted.map _).ofList_entries
  simp only [Table.map] at same
  simp [Document.encodeTableOf, Function.comp_def, same]

theorem table_sorted {t : Table α} (read : F.table.read? v = some t) : t.Sorted := by
  cases v with
  | object members =>
    obtain ⟨entries, _, finished⟩ := Option.bind_eq_some_iff.mp read
    exact Option.some.inj finished ▸ Table.sorted_ofList _
  | null | bool _ | integer _ | float _ | string _ | array _ => cases read

/-- What a table holds was read from the member under its key. -/
theorem table_entry (canonical : v.Canonical) {t : Table α} (read : F.table.read? v = some t)
    {name : String} (inside : (name, a) ∈ t.entries) :
    ∃ u, v.step? (.key name) = some u ∧ F.read? u = some a := by
  cases v with
  | object members =>
    obtain ⟨entries, made, finished⟩ := Option.bind_eq_some_iff.mp read
    obtain rfl := Option.some.inj finished
    obtain ⟨i, listed⟩ := List.mem_iff_getElem?.mp (Table.mem_ofList inside)
    obtain ⟨⟨key, u⟩, place, read⟩ := getElem?_mapM made listed
    obtain ⟨_, found, same⟩ := Option.map_eq_some_iff.mp read
    obtain ⟨rfl, rfl⟩ := Prod.mk.inj same
    exact ⟨u, canonical.lookup (List.mem_of_getElem? place), found⟩
  | null | bool _ | integer _ | float _ | string _ | array _ => cases read

theorem table_restores (canonical : v.Canonical)
    (each : ∀ {name u}, v.step? (.key name) = some u → F.Restores u) : F.table.Restores v := by
  refine ⟨fun {t} read => ?_, fun {t} read s member => ?_⟩
  · have sorted : t.Sorted := table_sorted read
    have again : t.entries.mapM (fun entry => (F.read? (F.write entry.2).canonical).map fun a =>
        (entry.1, a)) = some (t.map F.settle).entries := by
      refine mapM_eq_map fun entry inside => ?_
      obtain ⟨u, place, read⟩ := table_entry canonical read inside
      rw [(each place).again read, Option.map_some]
    simp only [table, canonical_encodeTableOf sorted, Document.decodeTableOf?, List.mapM_map,
      Function.comp_def, again]
    exact congrArg some (sorted.map _).ofList_entries
  · obtain ⟨a, value, member⟩ := List.mem_flatMap.mp member
    obtain ⟨entry, inside, rfl⟩ := List.mem_map.mp value
    obtain ⟨u, place, read⟩ := table_entry canonical read inside
    exact .step place ((each place).schemas read s member)

theorem Sound.table (sound : F.Sound) : F.table.Sound := fun _ canonical =>
  table_restores canonical fun place => sound _ (canonical.step place)

/-! ### Records -/

def present (parts : List (String × Option Value)) : List (String × Value) :=
  parts.flatMap fun part => Schema.memberOf part.1 id part.2

theorem memberOf_some (key : String) (write : α → Value) (a : α) :
    Schema.memberOf key write (some a) = [(key, write a)] := rfl

theorem memberOf_map (key : String) (write : α → Value) (x : Option α) :
    Schema.memberOf key id (x.map write) = Schema.memberOf key write x := by
  cases x <;> rfl

theorem present_keys (parts : List (String × Option Value)) :
    ((present parts).map Prod.fst).Sublist (parts.map Prod.fst) := by
  induction parts with
  | nil => exact .slnil
  | cons part rest ih =>
    obtain ⟨key, value | _⟩ := part
    · exact ih.cons key
    · exact ih.cons_cons key

theorem lookup_present {parts : List (String × Option Value)} (distinct : (parts.map Prod.fst).Nodup)
    (key : String) : (present parts).lookup key = (parts.lookup key).join := by
  induction parts with
  | nil => rfl
  | cons part rest ih =>
    obtain ⟨k, value⟩ := part
    obtain ⟨fresh, distinct⟩ := List.nodup_cons.mp distinct
    have later : (present rest).lookup key = (rest.lookup key).join := ih distinct
    change (Schema.memberOf k id value ++ present rest).lookup key = _
    rw [List.lookup_append, later, List.lookup_cons]
    by_cases same : key = k
    · subst same
      cases value <;> simp [Schema.memberOf, Table.lookup_eq_none fresh]
    · cases value <;> simp [Schema.memberOf, List.lookup_cons, beq_false_of_ne same]

/-- The fields of a record that was written. -/
theorem fields?_present (slots : List Record.Slot) (parts : List (String × Option Value))
    (distinct : (parts.map Prod.fst).Nodup) : ∃ fields,
    Document.fields? slots (Value.object (present parts)).canonical = some fields ∧
      ∀ name ∈ slots.map Record.Slot.name,
        fields.lookup name = (parts.lookup name).join.map Value.canonical := by
  have apart : ((present parts).map Prod.fst).Nodup := distinct.sublist (present_keys parts)
  refine ⟨(Table.ofList ((present parts).map fun member => (member.1, member.2.canonical))).entries.filter
    fun entry => slots.any fun slot => slot.name = entry.1, ?_, fun name member => ?_⟩
  · rw [Value.canonical_object]
    refine if_pos ?_
    exact (Table.sorted_ofList _).distinct.sublist (List.filter_sublist.map _)
  · obtain ⟨slot, inside, same⟩ := List.mem_map.mp member
    have known : (slots.any fun slot => slot.name = name) = true :=
      List.any_eq_true.mpr ⟨slot, inside, decide_eq_true same⟩
    rw [Table.lookup_filter _ (fun name => slots.any fun slot => slot.name = name) known,
      Value.lookup_canonical apart, lookup_present distinct]

theorem mem_ofItems? {slots : List Record.Slot} {items : List α} {fields : List (String × α)}
    (read : Record.ofItems? slots items = some fields) {field : String × α} (member : field ∈ fields) :
    field.2 ∈ items := by
  induction items generalizing slots fields with
  | nil =>
    cases slots with
    | nil =>
      cases read
      cases member
    | cons slot slots =>
      obtain ⟨_, same⟩ := Option.ite_none_right_eq_some.mp read
      cases same
      cases member
  | cons item rest ih =>
    cases slots with
    | nil => cases read
    | cons slot slots =>
      obtain ⟨later, made, rfl⟩ := Option.map_eq_some_iff.mp read
      rcases List.mem_cons.mp member with rfl | member
      · exact List.mem_cons_self
      · exact List.mem_cons_of_mem _ (ih made member)

/-- Fields stand right inside the value, whether they are given by name or by position. -/
theorem fields?_step (canonical : v.Canonical) {slots : List Record.Slot}
    {fields : List (String × Value)} (opened : Document.fields? slots v = some fields) {name : String}
    {u : Value} (found : fields.lookup name = some u) : ∃ x, v.step? x = some u := by
  have member := Table.mem_of_lookup found
  cases v with
  | object members =>
    obtain ⟨_, same⟩ := Option.ite_none_right_eq_some.mp opened
    cases same
    exact ⟨.key name, canonical.lookup (List.mem_of_mem_filter member)⟩
  | array items =>
    obtain ⟨i, place⟩ := List.mem_iff_getElem?.mp (mem_ofItems? opened member)
    exact ⟨.index i, place⟩
  | null | bool _ | integer _ | float _ | string _ => cases opened

section Fields

variable {slots : List Record.Slot} {fields written : List (String × Value)} {name : String} {x : Option α}
variable (sound : F.Sound) (canonical : v.Canonical) (opened : Document.fields? slots v = some fields)
include sound canonical opened

theorem Sound.required (read : Record.required? fields name F.read? = some a)
    (place : written.lookup name = some (F.write a).canonical) :
    Record.required? written name F.read? = some (F.settle a) := by
  obtain ⟨u, found, read⟩ := Option.bind_eq_some_iff.mp read
  obtain ⟨_, inside⟩ := fields?_step canonical opened found
  rw [Record.required?, place]
  exact (sound u (canonical.step inside)).again read

theorem Sound.required_schemas (read : Record.required? fields name F.read? = some a) :
    ∀ s ∈ F.schemas a, s.ReadIn v := by
  obtain ⟨u, found, read⟩ := Option.bind_eq_some_iff.mp read
  obtain ⟨_, inside⟩ := fields?_step canonical opened found
  exact fun s member => .step inside ((sound u (canonical.step inside)).schemas read s member)

theorem Sound.optional (read : Document.optionalField? fields name F.read? = some x)
    (place : written.lookup name = (x.map F.write).map Value.canonical) :
    Document.optionalField? written name F.read? = some (x.map F.settle) := by
  rw [Document.optionalField?, Record.withDefault?] at read ⊢
  cases x with
  | none => rw [place]; rfl
  | some a =>
    cases found : fields.lookup name with
    | none => simp [found] at read
    | some u =>
      rw [found] at read
      obtain ⟨_, inside⟩ := fields?_step canonical opened found
      rw [place]
      exact (sound u (canonical.step inside)).optional read

theorem Sound.optional_schemas (read : Document.optionalField? fields name F.read? = some x) :
    ∀ a, x = some a → ∀ s ∈ F.schemas a, s.ReadIn v := by
  rintro a rfl s member
  rw [Document.optionalField?, Record.withDefault?] at read
  cases found : fields.lookup name with
  | none => simp [found] at read
  | some u =>
    rw [found] at read
    obtain ⟨_, inside⟩ := fields?_step canonical opened found
    exact .step inside ((sound u (canonical.step inside)).schemas (read_of_optional? read) s member)

omit sound in
theorem text_optional {x : Option String}
    (read : Document.optionalField? fields name text.read? = some x)
    (place : written.lookup name = (x.map text.write).map Value.canonical) :
    Document.optionalField? written name text.read? = some x := by
  have again := text_sound.optional canonical opened read place
  rwa [show text.settle = id from rfl, Option.map_id] at again

end Fields

end Format

end ApiSchema
