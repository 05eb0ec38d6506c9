/-! Records with named fields in a fixed order, written by name or, in some formats, as the list
of their values. -/

namespace ApiSchema.Record

/-- A field that may be missing when values are given by position. -/
structure Slot where
  name : String
  omittable : Bool := false
deriving DecidableEq, Repr

/-- The known fields among entries; none of them may be given twice. -/
def ofEntries? (slots : List Slot) (entries : List (String × α)) : Option (List (String × α)) :=
  let known := entries.filter fun entry => slots.any fun slot => slot.name = entry.1
  if (known.map Prod.fst).Nodup then some known else none

/-- Fields by position; only omittable ones may be missing at the end. -/
def ofItems? : List Slot → List α → Option (List (String × α))
  | [], [] => some []
  | [], _ :: _ => none
  | slots, [] => if slots.all Slot.omittable then some [] else none
  | slot :: slots, item :: items => (ofItems? slots items).map ((slot.name, item) :: ·)

/-- A field that must be there. -/
def required? (fields : List (String × α)) (name : String) (read : α → Option β) : Option β :=
  (fields.lookup name).bind read

/-- A field with a value for when it is missing. -/
def withDefault? (fields : List (String × α)) (name : String) (missing : β)
    (read : α → Option β) : Option β :=
  match fields.lookup name with
  | some value => read value
  | none => some missing

end ApiSchema.Record
