import ApiSchema.Schema
import ApiSchema.Proofs.Table

/-! What a schema refers to. `Mentions` says it without a traversal: some schema at some depth is a
reference. `mem_refs_iff` ties it to the names that are collected; then come the names in schemas of
the basic forms. -/

namespace ApiSchema.Schema

inductive Part : Schema → Schema → Prop where
  | items {s t : Schema} (place : s.items = some t) : Part t s
  | property {s t : Schema} {table : Table Schema} {key : String}
      (place : s.properties = some table) (member : (key, t) ∈ table.entries) : Part t s
  | additional {s t : Schema} (place : s.additionalProperties = some t) : Part t s
  | allOf {s t : Schema} {branches : List Schema}
      (place : s.allOf = some branches) (member : t ∈ branches) : Part t s
  | oneOf {s t : Schema} {branches : List Schema}
      (place : s.oneOf = some branches) (member : t ∈ branches) : Part t s
  | anyOf {s t : Schema} {branches : List Schema}
      (place : s.anyOf = some branches) (member : t ∈ branches) : Part t s
  | negated {s t : Schema} (place : s.negated = some t) : Part t s
  | definition {s t : Schema} {table : Table Schema} {key : String}
      (place : s.definitions = some table) (member : (key, t) ∈ table.entries) : Part t s

abbrev Occurs : Schema → Schema → Prop := Relation.ReflTransGen Part

def Throughout (P : Schema → Prop) (s : Schema) : Prop := ∀ t, Occurs t s → P t

namespace Throughout

variable {P : Schema → Prop} {s t : Schema} {keywords : Keywords}

theorem here (all : s.Throughout P) : P s := all s .refl

theorem inside (all : s.Throughout P) (part : Part t s) : t.Throughout P :=
  fun u occurs => all u (occurs.tail part)

theorem intro (here : P s) (inside : ∀ t, Part t s → t.Throughout P) : s.Throughout P := by
  intro t occurs
  rcases Relation.ReflTransGen.cases_tail occurs with rfl | ⟨u, deeper, part⟩
  · exact here
  · exact inside u part t deeper

theorem imp {Q : Schema → Prop} (all : s.Throughout P) (of : ∀ t, P t → Q t) : s.Throughout Q :=
  fun t occurs => of t (all t occurs)

/-- Keywords matter only where they stand. -/
theorem of_keywords (all : s.Throughout P) (here : P { s with toKeywords := keywords }) :
    ({ s with toKeywords := keywords } : Schema).Throughout P := by
  refine .intro here fun t part => all.inside ?_
  cases part with
  | items place => exact .items place
  | property place member => exact .property place member
  | additional place => exact .additional place
  | allOf place member => exact .allOf place member
  | oneOf place member => exact .oneOf place member
  | anyOf place member => exact .anyOf place member
  | negated place => exact .negated place
  | definition place member => exact .definition place member

/-- The items may be replaced by others. -/
theorem of_items (all : s.Throughout P) (here : P { s with items := some t }) (fresh : t.Throughout P) :
    ({ s with items := some t } : Schema).Throughout P := by
  refine .intro here fun u part => ?_
  cases part with
  | items place =>
    cases place
    exact fresh
  | property place member => exact all.inside (.property place member)
  | additional place => exact all.inside (.additional place)
  | allOf place member => exact all.inside (.allOf place member)
  | oneOf place member => exact all.inside (.oneOf place member)
  | anyOf place member => exact all.inside (.anyOf place member)
  | negated place => exact all.inside (.negated place)
  | definition place member => exact all.inside (.definition place member)

/-- A schema without parts. -/
theorem leaf (here : P { toKeywords := keywords }) : ({ toKeywords := keywords } : Schema).Throughout P := by
  refine .intro here fun t part => ?_
  cases part with
  | items place | additional place | negated place => cases place
  | allOf place | oneOf place | anyOf place => cases place
  | property place | definition place => cases place

theorem array (here : P (.array s)) (all : s.Throughout P) : (Schema.array s).Throughout P := by
  refine .intro here fun t part => ?_
  cases part with
  | items place =>
    cases place
    exact all
  | additional place | negated place => cases place
  | allOf place | oneOf place | anyOf place => cases place
  | property place | definition place => cases place

theorem map (here : P (.map s)) (all : s.Throughout P) : (Schema.map s).Throughout P := by
  refine .intro here fun t part => ?_
  cases part with
  | additional place =>
    cases place
    exact all
  | items place | negated place => cases place
  | allOf place | oneOf place | anyOf place => cases place
  | property place | definition place => cases place

theorem allOf {branches : List Schema} (here : P { toKeywords := keywords, allOf := some branches })
    (each : ∀ t ∈ branches, t.Throughout P) :
    ({ toKeywords := keywords, allOf := some branches } : Schema).Throughout P := by
  refine .intro here fun t part => ?_
  cases part with
  | allOf place member =>
    cases place
    exact each t member
  | items place | additional place | negated place => cases place
  | oneOf place | anyOf place => cases place
  | property place | definition place => cases place

end Throughout

inductive Mentions (name : String) : Schema → Prop where
  | here {s : Schema} (refers : s.refName? = some name) : Mentions name s
  | inside {s t : Schema} (part : Part t s) (mentioned : Mentions name t) : Mentions name s

theorem mem_refsEntries {name : String} {entries : List (String × Schema)} :
    name ∈ refsEntries entries ↔ ∃ entry ∈ entries, name ∈ entry.2.refs := by
  induction entries with
  | nil => simp [refsEntries]
  | cons entry rest ih => simp [refsEntries, ih]

theorem mem_refsList {name : String} {branches : List Schema} :
    name ∈ refsList branches ↔ ∃ s ∈ branches, name ∈ s.refs := by
  induction branches with
  | nil => simp [refsList]
  | cons s rest ih => simp [refsList, ih]

theorem mem_refsOption {name : String} {o : Option Schema} :
    name ∈ refsOption o ↔ ∃ s, o = some s ∧ name ∈ s.refs := by
  cases o <;> simp [refsOption]

theorem mem_refsTable {name : String} {o : Option (Table Schema)} :
    name ∈ refsTable o ↔ ∃ table, o = some table ∧ ∃ entry ∈ table.entries, name ∈ entry.2.refs := by
  rcases o with _ | ⟨entries⟩
  · simp [refsTable]
  · simp [refsTable, mem_refsEntries]

theorem mem_refsBranches {name : String} {o : Option (List Schema)} :
    name ∈ refsBranches o ↔ ∃ branches, o = some branches ∧ ∃ s ∈ branches, name ∈ s.refs := by
  cases o <;> simp [refsBranches, mem_refsList]

/-- The names collected from a schema, position by position. -/
theorem mem_refs {name : String} {s : Schema} :
    name ∈ s.refs ↔ s.refName? = some name ∨ name ∈ refsOption s.items ∨
      name ∈ refsTable s.properties ∨ name ∈ refsOption s.additionalProperties ∨
      name ∈ refsBranches s.allOf ∨ name ∈ refsBranches s.oneOf ∨ name ∈ refsBranches s.anyOf ∨
      name ∈ refsOption s.negated ∨ name ∈ refsTable s.definitions := by
  obtain ⟨keywords, items, properties, additional, allOf, oneOf, anyOf, negated, definitions⟩ := s
  simp [refs, refName?]

theorem mem_refs_iff_part {name : String} {s : Schema} :
    name ∈ s.refs ↔ s.refName? = some name ∨ ∃ t, Part t s ∧ name ∈ t.refs := by
  rw [mem_refs]
  simp only [mem_refsOption, mem_refsTable, mem_refsBranches]
  constructor
  · rintro (here | ⟨t, place, inner⟩ | ⟨table, place, entry, member, inner⟩ | ⟨t, place, inner⟩ |
      ⟨branches, place, t, member, inner⟩ | ⟨branches, place, t, member, inner⟩ |
      ⟨branches, place, t, member, inner⟩ | ⟨t, place, inner⟩ | ⟨table, place, entry, member, inner⟩)
    · exact .inl here
    · exact .inr ⟨t, .items place, inner⟩
    · exact .inr ⟨entry.2, .property place member, inner⟩
    · exact .inr ⟨t, .additional place, inner⟩
    · exact .inr ⟨t, .allOf place member, inner⟩
    · exact .inr ⟨t, .oneOf place member, inner⟩
    · exact .inr ⟨t, .anyOf place member, inner⟩
    · exact .inr ⟨t, .negated place, inner⟩
    · exact .inr ⟨entry.2, .definition place member, inner⟩
  · rintro (here | ⟨t, part, inner⟩)
    · exact .inl here
    · cases part with
      | items place => exact .inr (.inl ⟨t, place, inner⟩)
      | property place member => exact .inr (.inr (.inl ⟨_, place, _, member, inner⟩))
      | additional place => exact .inr (.inr (.inr (.inl ⟨t, place, inner⟩)))
      | allOf place member => exact .inr (.inr (.inr (.inr (.inl ⟨_, place, t, member, inner⟩))))
      | oneOf place member => exact .inr (.inr (.inr (.inr (.inr (.inl ⟨_, place, t, member, inner⟩)))))
      | anyOf place member =>
        exact .inr (.inr (.inr (.inr (.inr (.inr (.inl ⟨_, place, t, member, inner⟩))))))
      | negated place => exact .inr (.inr (.inr (.inr (.inr (.inr (.inr (.inl ⟨t, place, inner⟩)))))))
      | definition place member =>
        exact .inr (.inr (.inr (.inr (.inr (.inr (.inr (.inr ⟨_, place, _, member, inner⟩)))))))

/-- A schema is larger than those inside it, so a traversal of all of them ends. -/
theorem Part.sizeOf_lt {s t : Schema} (part : Part t s) : sizeOf t < sizeOf s := by
  have entry_lt {table : Table Schema} {key : String} (member : (key, t) ∈ table.entries) :
      sizeOf t < sizeOf table := by
    have inner := List.sizeOf_lt_of_mem member
    obtain ⟨entries⟩ := table
    simp at inner ⊢
    omega
  cases part with
  | items place | additional place | negated place =>
    obtain ⟨⟩ := s
    simp only at place
    subst place
    simp
    omega
  | allOf place member | oneOf place member | anyOf place member =>
    have inner := List.sizeOf_lt_of_mem member
    obtain ⟨⟩ := s
    simp only at place
    subst place
    simp
    omega
  | property place member | definition place member =>
    have inner := entry_lt member
    obtain ⟨⟩ := s
    simp only at place
    subst place
    simp
    omega

/-- Collecting the names of a schema finds exactly the definitions it mentions. -/
theorem mem_refs_iff {name : String} {s : Schema} : name ∈ s.refs ↔ s.Mentions name := by
  constructor
  · intro member
    rcases mem_refs_iff_part.mp member with here | ⟨t, part, inner⟩
    · exact .here here
    · have smaller := part.sizeOf_lt
      exact .inside part (mem_refs_iff.mp inner)
  · intro mentioned
    induction mentioned with
    | here refers => exact mem_refs_iff_part.mpr (.inl refers)
    | inside part _ ih => exact mem_refs_iff_part.mpr (.inr ⟨_, part, ih⟩)
termination_by sizeOf s

@[simp] theorem refs_blank : ({} : Schema).refs = [] := rfl

/-- Keywords hold no references but the schema's own. -/
theorem refs_keywords (s : Schema) (keywords : Keywords) (same : keywords.reference = s.reference) :
    ({ s with toKeywords := keywords } : Schema).refs = s.refs := by
  obtain ⟨own, items, properties, additional, allOf, oneOf, anyOf, negated, definitions⟩ := s
  simp only at same
  simp [refs, same]

theorem refs_items {s old new : Schema} (place : s.items = some old) (same : new.refs = old.refs) :
    ({ s with items := some new } : Schema).refs = s.refs := by
  obtain ⟨own, items, properties, additional, allOf, oneOf, anyOf, negated, definitions⟩ := s
  simp only at place
  subst place
  simp only [refs, refsOption, same]

@[simp] theorem refs_ofType (type : String) : (ofType type).refs = [] :=
  refs_keywords {} _ rfl

@[simp] theorem refs_object : object.refs = [] := refs_ofType _

@[simp] theorem refs_array (s : Schema) : (array s).refs = s.refs := by
  simp [array, ofType, refs, refsOption, refsTable, refsBranches]

@[simp] theorem refs_map (s : Schema) : (map s).refs = s.refs := by
  simp [map, object, ofType, refs, refsOption, refsTable, refsBranches]

@[simp] theorem refs_ofPrimitive (p : Primitive) : (ofPrimitive p).refs = [] := by
  cases p <;> rfl

theorem after?_append (start rest : String) : Text.after? start (start ++ rest) = some rest := by
  have chars (front back : List Char) : front.isPrefixOf? (front ++ back) = some back := by
    induction front with
    | nil => rfl
    | cons c front ih =>
      change (if c == c then front.isPrefixOf? (front ++ back) else none) = some back
      rw [if_pos (beq_self_eq_true c)]
      exact ih
  simp [Text.after?, chars]

@[simp] theorem refs_ref (name : String) : (ref name).refs = [name] := by
  simp [ref, refs, after?_append, refsOption, refsTable, refsBranches]

end ApiSchema.Schema
