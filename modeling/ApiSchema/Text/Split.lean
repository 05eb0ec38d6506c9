/-! Cutting text at separators and joining it again. -/

namespace ApiSchema.Text

/-- The pieces between the characters that satisfy `sep`; one more piece than separators. -/
def splitChars (sep : Char → Bool) : List Char → List (List Char)
  | [] => [[]]
  | c :: rest =>
    if sep c then [] :: splitChars sep rest
    else
      match splitChars sep rest with
      | [] => [[c]]
      | piece :: pieces => (c :: piece) :: pieces

def splitAt (sep : Char) (s : String) : List String :=
  (splitChars (· = sep) s.toList).map String.ofList

/-- The segments of a path written with `::`. -/
def segmentChars : List Char → List (List Char)
  | [] => [[]]
  | ':' :: ':' :: rest => [] :: segmentChars rest
  | c :: rest =>
    match segmentChars rest with
    | [] => [[c]]
    | piece :: pieces => (c :: piece) :: pieces

def segments (s : String) : List String := (segmentChars s.toList).map String.ofList

/-- What follows the last `::` in the text, or `best` if there is none. -/
def lastSegmentChars (best : List Char) : List Char → List Char
  | [] => best
  | c :: rest =>
    if c = ':' && rest.head? = some ':' then lastSegmentChars (rest.drop 1) rest
    else lastSegmentChars best rest

def lastSegment (s : String) : String := String.ofList (lastSegmentChars s.toList s.toList)

def joinSegments (parts : List String) : String := "::".intercalate parts

/-- What follows `start` in `s`, if `s` begins with it. -/
def after? (start s : String) : Option String :=
  (start.toList.isPrefixOf? s.toList).map String.ofList

/-- What precedes `suffix` in `s`, if `s` ends with it. -/
def before? (suffix s : String) : Option String :=
  (suffix.toList.reverse.isPrefixOf? s.toList.reverse).map fun cs => String.ofList cs.reverse

def startsWith (start s : String) : Bool := start.toList.isPrefixOf s.toList

/-- The two sides of the first `sep`. -/
def splitFirst? (sep : Char) (s : String) : Option (String × String) :=
  let (left, right) := s.toList.span (· ≠ sep)
  match right with
  | [] => none
  | _ :: rest => some (String.ofList left, String.ofList rest)

def replaceChar (old : Char) (new : List Char) (s : String) : String :=
  String.ofList (s.toList.flatMap fun c => if c = old then new else [c])

/-- Whether `part` stands anywhere in `cs`. -/
def containsChars (part : List Char) : List Char → Bool
  | [] => part.isEmpty
  | c :: rest => part.isPrefixOf (c :: rest) || containsChars part rest

def contains (part s : String) : Bool := containsChars part.toList s.toList

end ApiSchema.Text
