/-! Finite maps from text to values, kept as association lists in increasing key order.
Lookups after an insertion or an erasure need no ordering hypothesis; `Sorted` is what every
table built by `insert` satisfies and what makes a table its own canonical form. -/

namespace ApiSchema

structure Table (α : Type) where
  entries : List (String × α) := []
deriving DecidableEq, Repr

namespace Table

variable {α β : Type}

instance : Inhabited (Table α) := ⟨{}⟩

def empty : Table α := ⟨[]⟩

def isEmpty (t : Table α) : Bool := t.entries.isEmpty

def keys (t : Table α) : List String := t.entries.map Prod.fst

def values (t : Table α) : List α := t.entries.map Prod.snd

def get? (t : Table α) (key : String) : Option α :=
  (t.entries.find? fun entry => entry.1 = key).map Prod.snd

def contains (t : Table α) (key : String) : Bool := (t.get? key).isSome

/-- Insertion into a sorted list; an entry with the same key is replaced in place. -/
def insertEntry (key : String) (value : α) : List (String × α) → List (String × α)
  | [] => [(key, value)]
  | (k, v) :: rest =>
    if key < k then (key, value) :: (k, v) :: rest
    else if k = key then (key, value) :: rest
    else (k, v) :: insertEntry key value rest

def insert (t : Table α) (key : String) (value : α) : Table α :=
  ⟨insertEntry key value t.entries⟩

def erase (t : Table α) (key : String) : Table α :=
  ⟨t.entries.filter fun entry => entry.1 ≠ key⟩

def filter (t : Table α) (keep : String → Bool) : Table α :=
  ⟨t.entries.filter fun entry => keep entry.1⟩

/-- Insert entries one after another; the last of one key wins. -/
def insertAll (t : Table α) (entries : List (String × α)) : Table α :=
  entries.foldl (fun acc entry => acc.insert entry.1 entry.2) t

/-- Entries of `extra` win over those of `t`. -/
def union (t extra : Table α) : Table α := t.insertAll extra.entries

def ofList (entries : List (String × α)) : Table α := empty.insertAll entries

def singleton (key : String) (value : α) : Table α := ⟨[(key, value)]⟩

def map (f : α → β) (t : Table α) : Table β :=
  ⟨t.entries.map fun entry => (entry.1, f entry.2)⟩

/-- Strictly increasing keys. -/
def Sorted (t : Table α) : Prop := t.entries.Pairwise fun a b => a.1 < b.1

theorem find?_insertEntry (key k : String) (value : α) (entries : List (String × α)) :
    (insertEntry key value entries).find? (fun entry => entry.1 = k) =
      if key = k then some (key, value) else entries.find? (fun entry => entry.1 = k) := by
  induction entries with
  | nil => by_cases h : key = k <;> simp [insertEntry, h]
  | cons head rest ih =>
    obtain ⟨k', v'⟩ := head
    rw [insertEntry]
    split
    · by_cases h : key = k <;> simp [h]
    · split
      · next _ same =>
        subst same
        by_cases h : k' = k <;> simp [h]
      · next _ other =>
        by_cases h' : k' = k
        · subst h'
          simp [Ne.symm other]
        · simp [h', ih]

@[simp] theorem get?_insert (t : Table α) (key k : String) (value : α) :
    (t.insert key value).get? k = if key = k then some value else t.get? k := by
  simp only [get?, insert, find?_insertEntry]
  split <;> rfl

@[simp] theorem get?_erase (t : Table α) (key k : String) :
    (t.erase key).get? k = if key = k then none else t.get? k := by
  obtain ⟨entries⟩ := t
  simp only [get?, erase]
  induction entries with
  | nil => simp
  | cons head rest ih =>
    obtain ⟨k', v'⟩ := head
    by_cases same : k' = key
    · subst same
      by_cases h : k' = k
      · subst h
        simp
      · simpa [h] using ih
    · by_cases h : k' = k
      · subst h
        simp [same, Ne.symm same]
      · simpa [same, h] using ih

@[simp] theorem get?_empty (k : String) : (empty : Table α).get? k = none := rfl

end Table

end ApiSchema
