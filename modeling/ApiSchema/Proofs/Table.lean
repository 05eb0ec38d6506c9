import ApiSchema.Table
import Mathlib.Data.List.Sort
import Mathlib.Data.String.Basic

/-! Lookups in tables that were filtered, and what the entries of a table built by insertions
are. A table is read through `get?`, which needs no order of its keys; where they are in order, as
insertions keep them, nothing but its look-ups tells two tables apart. Entries with distinct keys make
the same table in whatever order they are inserted. -/

namespace ApiSchema.Table

variable {α : Type}

theorem get?_filter (t : Table α) (keep : String → Bool) (key : String) :
    (t.filter keep).get? key = if keep key then t.get? key else none := by
  obtain ⟨entries⟩ := t
  simp only [get?, filter]
  induction entries with
  | nil => simp
  | cons entry rest ih =>
    by_cases same : entry.1 = key
    · subst same
      by_cases kept : keep entry.1 = true
      · simp [kept]
      · simpa [kept] using ih
    · by_cases kept : keep entry.1 = true
      · simpa [kept, same] using ih
      · simpa [kept, same] using ih

theorem mem_of_get? {t : Table α} {key : String} {value : α} (found : t.get? key = some value) :
    (key, value) ∈ t.entries := by
  obtain ⟨⟨k, v⟩, atKey, rfl⟩ := Option.map_eq_some_iff.mp found
  have same : k = key := by simpa using List.find?_some atKey
  exact same ▸ List.mem_of_find?_eq_some atKey

theorem mem_insertEntry {key : String} {value : α} {entries : List (String × α)}
    {entry : String × α} (member : entry ∈ insertEntry key value entries) :
    entry = (key, value) ∨ entry ∈ entries := by
  induction entries with
  | nil => exact .inl (by simpa [insertEntry] using member)
  | cons head rest ih =>
    obtain ⟨k, v⟩ := head
    rw [insertEntry] at member
    split at member
    · simpa using member
    · split at member
      · rcases List.mem_cons.mp member with same | later
        · exact .inl same
        · exact .inr (List.mem_cons_of_mem _ later)
      · rcases List.mem_cons.mp member with same | later
        · exact .inr (same ▸ List.mem_cons_self)
        · exact (ih later).imp_right (List.mem_cons_of_mem _)

theorem mem_insertAll {t : Table α} {entries : List (String × α)} {entry : String × α}
    (member : entry ∈ (t.insertAll entries).entries) : entry ∈ entries ∨ entry ∈ t.entries := by
  induction entries generalizing t with
  | nil => exact .inr member
  | cons head rest ih =>
    rcases ih (t := t.insert head.1 head.2) member with later | earlier
    · exact .inl (List.mem_cons_of_mem _ later)
    · rcases mem_insertEntry earlier with same | old
      · exact .inl (same ▸ List.mem_cons_self)
      · exact .inr old

/-- Insertion keeps the keys in order. -/
theorem sorted_insert {t : Table α} (sorted : t.Sorted) (key : String) (value : α) :
    (t.insert key value).Sorted := by
  obtain ⟨entries⟩ := t
  simp only [Sorted, insert] at sorted ⊢
  induction entries with
  | nil => simp [insertEntry]
  | cons head rest ih =>
    obtain ⟨k, v⟩ := head
    obtain ⟨first, sorted⟩ := List.pairwise_cons.mp sorted
    rw [insertEntry]
    split
    · next before =>
      refine List.pairwise_cons.mpr ⟨?_, List.pairwise_cons.mpr ⟨first, sorted⟩⟩
      intro entry member
      rcases List.mem_cons.mp member with rfl | member
      · exact before
      · exact lt_trans before (first entry member)
    · next notBefore =>
      split
      · next same => exact List.pairwise_cons.mpr ⟨fun entry member => same ▸ first entry member, sorted⟩
      · next other =>
        refine List.pairwise_cons.mpr ⟨?_, ih sorted⟩
        intro entry member
        rcases mem_insertEntry member with rfl | member
        · exact lt_of_le_of_ne (not_lt.mp notBefore) other
        · exact first entry member

/-- A table in order holds what can be looked up in it. -/
theorem Sorted.mem_iff {t : Table α} (sorted : t.Sorted) {entry : String × α} :
    entry ∈ t.entries ↔ t.get? entry.1 = some entry.2 := by
  refine ⟨fun member => ?_, mem_of_get?⟩
  obtain ⟨entries⟩ := t
  simp only [Sorted, get?] at sorted member ⊢
  induction entries with
  | nil => cases member
  | cons head rest ih =>
    obtain ⟨first, sorted⟩ := List.pairwise_cons.mp sorted
    rcases List.mem_cons.mp member with rfl | member
    · simp
    · have apart : head.1 ≠ entry.1 := (first entry member).ne
      simpa [apart] using ih sorted member

/-- The first value of a table in order for which there is an answer is that of the least such key. -/
theorem Sorted.findSome?_iff {β : Type} {t : Table α} (sorted : t.Sorted) {f : α → Option β} {b : β} :
    t.values.findSome? f = some b ↔ ∃ key value, t.get? key = some value ∧ f value = some b ∧
      ∀ k v, k < key → t.get? k = some v → f v = none := by
  suffices ordered : t.values.findSome? f = some b ↔ ∃ entry ∈ t.entries, f entry.2 = some b ∧
      ∀ other ∈ t.entries, other.1 < entry.1 → f other.2 = none by
    rw [ordered]
    constructor
    · rintro ⟨entry, member, answer, least⟩
      refine ⟨entry.1, entry.2, sorted.mem_iff.mp member, answer, fun k v before found => ?_⟩
      exact least (k, v) (mem_of_get? found) before
    · rintro ⟨key, value, found, answer, least⟩
      refine ⟨(key, value), mem_of_get? found, answer, fun other member before => ?_⟩
      exact least other.1 other.2 before (sorted.mem_iff.mp member)
  obtain ⟨entries⟩ := t
  simp only [Sorted, values] at sorted ⊢
  induction entries with
  | nil => simp
  | cons head rest ih =>
    obtain ⟨first, sorted⟩ := List.pairwise_cons.mp sorted
    rw [List.map_cons, List.findSome?_cons]
    cases answer : f head.2 with
    | some c =>
      constructor
      · rintro ⟨⟩
        refine ⟨head, List.mem_cons_self, answer, fun other member before => ?_⟩
        rcases List.mem_cons.mp member with rfl | later
        · exact absurd before (lt_irrefl _)
        · exact absurd before (lt_asymm (first other later))
      · rintro ⟨entry, member, answer', least⟩
        rcases List.mem_cons.mp member with rfl | later
        · exact answer.symm.trans answer'
        · have nothing := least head List.mem_cons_self (first entry later)
          rw [nothing] at answer
          cases answer
    | none =>
      rw [ih sorted]
      constructor
      · rintro ⟨entry, member, answer', least⟩
        refine ⟨entry, List.mem_cons_of_mem _ member, answer', fun other inside before => ?_⟩
        rcases List.mem_cons.mp inside with rfl | later
        · exact answer
        · exact least other later before
      · rintro ⟨entry, member, answer', least⟩
        rcases List.mem_cons.mp member with rfl | later
        · rw [answer] at answer'
          cases answer'
        · exact ⟨entry, later, answer', fun other inside => least other (List.mem_cons_of_mem _ inside)⟩

/-- Tables in order are equal if all look-ups are. -/
theorem Sorted.ext {t u : Table α} (left : t.Sorted) (right : u.Sorted)
    (same : ∀ key, t.get? key = u.get? key) : t = u := by
  have irrefl : Std.Irrefl fun a b : String × α => a.1 < b.1 := ⟨fun a => lt_irrefl a.1⟩
  have asymm : Std.Antisymm fun a b : String × α => a.1 < b.1 := ⟨fun a b ab ba => absurd ba (lt_asymm ab)⟩
  have entries : t.entries = u.entries := by
    refine List.Pairwise.eq_of_mem_iff left right fun entry => ?_
    rw [left.mem_iff, right.mem_iff, same]
  obtain ⟨_⟩ := t
  obtain ⟨_⟩ := u
  exact congrArg Table.mk entries

/-! ### Keys of a table -/

theorem contains_iff {t : Table α} {key : String} : t.contains key = true ↔ key ∈ t.keys := by
  simp [contains, get?, keys]

theorem contains_insert {t : Table α} {key other : String} {value : α} :
    (t.insert key value).contains other = true ↔ other = key ∨ t.contains other = true := by
  rw [contains, get?_insert]
  split
  · next same => simp [same]
  · next apart => simp [Ne.symm apart, contains]

theorem contains_insertAll {t : Table α} {entries : List (String × α)} {key : String} :
    (t.insertAll entries).contains key = true ↔
      key ∈ entries.map Prod.fst ∨ t.contains key = true := by
  induction entries generalizing t with
  | nil => simp [insertAll]
  | cons entry rest ih =>
    calc (t.insertAll (entry :: rest)).contains key = true
      _ ↔ key ∈ rest.map Prod.fst ∨ (t.insert entry.1 entry.2).contains key = true := ih
      _ ↔ key ∈ rest.map Prod.fst ∨ key = entry.1 ∨ t.contains key = true := by rw [contains_insert]
      _ ↔ key ∈ (entry :: rest).map Prod.fst ∨ t.contains key = true := by
        rw [List.map_cons, List.mem_cons, or_assoc, or_left_comm]

theorem contains_union {t extra : Table α} {key : String} :
    (t.union extra).contains key = true ↔ extra.contains key = true ∨ t.contains key = true := by
  rw [union, contains_insertAll, contains_iff (t := extra), keys]

/-! ### Tables as lists of entries -/

section Entries

variable {β : Type} {t : Table α}

theorem get?_eq_lookup (t : Table α) (key : String) : t.get? key = t.entries.lookup key := by
  obtain ⟨entries⟩ := t
  simp only [get?]
  induction entries with
  | nil => rfl
  | cons entry rest ih =>
    obtain ⟨k, a⟩ := entry
    by_cases same : k = key
    · simp [same]
    · simp [List.lookup_cons, same, beq_false_of_ne (Ne.symm same), ih]

theorem lookup_map (f : α → β) (entries : List (String × α)) (key : String) :
    (entries.map fun entry => (entry.1, f entry.2)).lookup key = (entries.lookup key).map f := by
  induction entries with
  | nil => rfl
  | cons entry rest ih =>
    obtain ⟨k, a⟩ := entry
    simp only [List.map_cons, List.lookup_cons]
    split
    · rfl
    · exact ih

theorem lookup_eq_none {entries : List (String × α)} {key : String}
    (absent : key ∉ entries.map Prod.fst) : entries.lookup key = none := by
  refine List.lookup_eq_none_iff.mpr fun entry member => bne_iff_ne.mpr ?_
  rintro rfl
  exact absent (List.mem_map_of_mem member)

theorem lookup_filter (entries : List (String × α)) (keep : String → Bool) {key : String}
    (kept : keep key = true) :
    (entries.filter fun entry => keep entry.1).lookup key = entries.lookup key := by
  have same := get?_filter ⟨entries⟩ keep key
  rw [kept, if_pos rfl, get?_eq_lookup, get?_eq_lookup] at same
  exact same

theorem mem_of_lookup {entries : List (String × α)} {key : String} {value : α}
    (found : entries.lookup key = some value) : (key, value) ∈ entries := by
  obtain ⟨before, rest, rfl, _⟩ := List.lookup_eq_some_iff.mp found
  exact List.mem_append_right _ List.mem_cons_self

theorem Sorted.distinct (sorted : t.Sorted) : (t.entries.map Prod.fst).Nodup :=
  List.pairwise_map.mpr (sorted.imp fun before => before.ne)

theorem sorted_empty : (empty : Table α).Sorted := List.Pairwise.nil

theorem sorted_insertAll (sorted : t.Sorted) (entries : List (String × α)) :
    (t.insertAll entries).Sorted := by
  induction entries generalizing t with
  | nil => exact sorted
  | cons entry rest ih => exact ih (sorted_insert sorted entry.1 entry.2)

theorem sorted_ofList (entries : List (String × α)) : (ofList entries).Sorted :=
  sorted_insertAll sorted_empty entries

/-- Where no key comes twice, the order of insertions does not matter. -/
theorem get?_insertAll {entries : List (String × α)} (distinct : (entries.map Prod.fst).Nodup)
    (key : String) : (t.insertAll entries).get? key = (entries.lookup key).or (t.get? key) := by
  induction entries generalizing t with
  | nil => rfl
  | cons entry rest ih =>
    obtain ⟨k, a⟩ := entry
    obtain ⟨fresh, distinct⟩ := List.nodup_cons.mp distinct
    calc ((t.insert k a).insertAll rest).get? key
      _ = (rest.lookup key).or ((t.insert k a).get? key) := ih distinct
      _ = (List.lookup key ((k, a) :: rest)).or (t.get? key) := by
        rw [get?_insert, List.lookup_cons]
        by_cases same : k = key
        · subst same
          simp [lookup_eq_none fresh]
        · simp [same, beq_false_of_ne (Ne.symm same)]

theorem get?_ofList {entries : List (String × α)} (distinct : (entries.map Prod.fst).Nodup)
    (key : String) : (ofList entries).get? key = entries.lookup key := by
  rw [ofList, get?_insertAll distinct, get?_empty, Option.or_none]

theorem Sorted.ofList_entries (sorted : t.Sorted) : ofList t.entries = t :=
  (sorted_ofList _).ext sorted fun key => by rw [get?_ofList sorted.distinct, get?_eq_lookup]

theorem Sorted.map (sorted : t.Sorted) (f : α → β) : (t.map f).Sorted :=
  List.pairwise_map.mpr sorted

theorem mem_ofList {entries : List (String × α)} {entry : String × α}
    (member : entry ∈ (ofList entries).entries) : entry ∈ entries :=
  (mem_insertAll member).resolve_right List.not_mem_nil

end Entries

end ApiSchema.Table
