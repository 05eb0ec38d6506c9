import ApiSchema.Json.Value
import ApiSchema.Proofs.Table

/-! JSON values in canonical form. The members of an object are then a table in order, so that what
stands under a key does not depend on the order in which the members were written; parts of canonical
values are canonical. -/

namespace ApiSchema.Json.Value

def Canonical (v : Value) : Prop := v.canonical = v

theorem canonicalItems_eq (items : List Value) : canonicalItems items = items.map canonical := by
  induction items with
  | nil => rfl
  | cons item rest ih => rw [canonicalItems, ih, List.map_cons]

theorem canonicalMembers_eq (members : List (String × Value)) :
    canonicalMembers members = members.map fun member => (member.1, member.2.canonical) := by
  induction members with
  | nil => rfl
  | cons member rest ih => rw [canonicalMembers, ih, List.map_cons]

@[simp] theorem canonical_array (items : List Value) :
    (array items).canonical = array (items.map canonical) := by
  rw [canonical, canonicalItems_eq]

@[simp] theorem canonical_object (members : List (String × Value)) : (object members).canonical =
    object (Table.ofList (members.map fun member => (member.1, member.2.canonical))).entries := by
  rw [canonical, canonicalMembers_eq]

theorem map_canonical {items : List Value} (each : ∀ item ∈ items, item.Canonical) :
    items.map canonical = items :=
  List.map_congr_left each |>.trans (List.map_id _)

theorem canonical_members {members : List (String × Value)}
    (each : ∀ member ∈ members, member.2.Canonical) :
    (members.map fun member => (member.1, member.2.canonical)) = members := by
  refine (List.map_congr_left fun member inside => ?_).trans (List.map_id _)
  exact Prod.ext rfl (each member inside)

mutual

theorem canonical_idem : (v : Value) → v.canonical.Canonical
  | null | bool _ | integer _ | float _ | string _ => rfl
  | array items => by
    have each := canonicalItems_idem items
    rw [Canonical, canonical, canonical_array, map_canonical each]
  | object members => by
    have each := canonicalMembers_idem members
    have sorted := Table.sorted_ofList (canonicalMembers members)
    rw [Canonical, canonical, canonical_object,
      canonical_members fun member inside => each member (Table.mem_ofList inside), sorted.ofList_entries]

theorem canonicalItems_idem : (items : List Value) → ∀ item ∈ canonicalItems items, item.Canonical
  | [], _, member => by cases member
  | item :: rest, other, member => by
    rcases List.mem_cons.mp member with rfl | later
    · exact canonical_idem item
    · exact canonicalItems_idem rest other later

theorem canonicalMembers_idem : (members : List (String × Value)) →
    ∀ member ∈ canonicalMembers members, member.2.Canonical
  | [], _, member => by cases member
  | (key, value) :: rest, other, member => by
    rcases List.mem_cons.mp member with rfl | later
    · exact canonical_idem value
    · exact canonicalMembers_idem rest other later

end

theorem Canonical.item {items : List Value} (canonical : (array items).Canonical) {item : Value}
    (member : item ∈ items) : item.Canonical := by
  have same : canonicalItems items = items := array.inj canonical
  exact canonicalItems_idem items item (same.symm ▸ member)

theorem Canonical.member {members : List (String × Value)} (canonical : (object members).Canonical)
    {member : String × Value} (inside : member ∈ members) : member.2.Canonical := by
  have same : (Table.ofList (canonicalMembers members)).entries = members := object.inj canonical
  rw [← same] at inside
  exact canonicalMembers_idem members member (Table.mem_ofList inside)

theorem Canonical.sorted {members : List (String × Value)} (canonical : (object members).Canonical) :
    (Table.mk members).Sorted := by
  have same : (Table.ofList (canonicalMembers members)).entries = members := object.inj canonical
  rw [← same]
  exact Table.sorted_ofList _

/-- The canonical form has the same members, in order. -/
theorem lookup_canonical {members : List (String × Value)} (distinct : (members.map Prod.fst).Nodup)
    (key : String) :
    (Table.ofList (members.map fun member => (member.1, member.2.canonical))).entries.lookup key =
      (members.lookup key).map canonical := by
  rw [← Table.get?_eq_lookup, Table.get?_ofList (by simpa [Function.comp_def] using distinct),
    Table.lookup_map]

theorem member?_object (members : List (String × Value)) (key : String) :
    (object members).member? key = members.lookup key :=
  Table.get?_eq_lookup ⟨members⟩ key

/-! ### Paths into a value -/

inductive Step where
  | index (i : Nat)
  | key (name : String)

def step? : Value → Step → Option Value
  | array items, .index i => items[i]?
  | object members, .key name => members.lookup name
  | _, _ => none

def atPath? (v : Value) : List Step → Option Value
  | [] => some v
  | step :: path => (v.step? step).bind fun u => u.atPath? path

section Paths

variable {v u : Value}

theorem atPath?_append (v : Value) (path rest : List Step) :
    v.atPath? (path ++ rest) = (v.atPath? path).bind fun u => u.atPath? rest := by
  induction path generalizing v with
  | nil => rfl
  | cons step path ih =>
    simp only [List.cons_append, atPath?, Option.bind_assoc, ih]

theorem Canonical.step (canonical : v.Canonical) {step : Step} (found : v.step? step = some u) :
    u.Canonical := by
  cases v with
  | array items =>
    cases step with
    | index i => exact canonical.item (List.mem_of_getElem? found)
    | key _ => cases found
  | object members =>
    cases step with
    | index _ => cases found
    | key name => exact canonical.member (Table.mem_of_lookup found)
  | null | bool _ | integer _ | float _ | string _ => cases found

theorem Canonical.at (canonical : v.Canonical) {path : List Step} (found : v.atPath? path = some u) :
    u.Canonical := by
  induction path generalizing v with
  | nil => exact Option.some.inj found ▸ canonical
  | cons step path ih =>
    obtain ⟨next, first, later⟩ := Option.bind_eq_some_iff.mp found
    exact ih (canonical.step first) later

theorem Canonical.lookup {members : List (String × Value)} (canonical : (object members).Canonical)
    {member : String × Value} (inside : member ∈ members) : members.lookup member.1 = some member.2 := by
  rw [← Table.get?_eq_lookup ⟨members⟩]
  exact canonical.sorted.mem_iff.mp inside

theorem sizeOf_step_lt {step : Step} (found : v.step? step = some u) : sizeOf u < sizeOf v := by
  cases v with
  | array items =>
    cases step with
    | index i =>
      have smaller := List.sizeOf_lt_of_mem (List.mem_of_getElem? found)
      simp only [array.sizeOf_spec]
      omega
    | key _ => cases found
  | object members =>
    cases step with
    | index _ => cases found
    | key name =>
      have smaller := List.sizeOf_lt_of_mem (Table.mem_of_lookup found)
      simp only [Prod.mk.sizeOf_spec, object.sizeOf_spec] at smaller ⊢
      omega
  | null | bool _ | integer _ | float _ | string _ => cases found

end Paths

end ApiSchema.Json.Value
