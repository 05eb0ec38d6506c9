import ApiSchema.Form
import ApiSchema.Json.Reader
import ApiSchema.Json.Value
import ApiSchema.Number.Decimal
import ApiSchema.Text.Split

/-! YAML text of a value in block style. Lines are not folded, a sequence stands in the column of
its key, and text is quoted where it would otherwise read as something else. -/

namespace ApiSchema.Yaml

open Json (Value)

/-- Exponents have no plus sign. -/
def numberLayout : Decimal.Layout := ⟨""⟩

def floatText : Binary64 → String
  | .finite negative significand exponent _ =>
    Decimal.finite numberLayout negative significand exponent
  | .infinite false => ".inf"
  | .infinite true => "-.inf"
  | .nan => ".nan"

/-! ### Text that reads as something else -/

/-- Digits after a leading zero, which read as text though they are digits. -/
def isPaddedDigits (cs : List Char) : Bool :=
  let digits := match cs with
    | '-' :: rest => rest
    | '+' :: rest => rest
    | _ => cs
  match digits with
  | '0' :: rest => !rest.isEmpty && rest.all Char.isDigit
  | _ => false

def radixDigit? (radix : Nat) (c : Char) : Option Nat :=
  (Json.hexDigit? c).filter (· < radix)

/-- The value of digits in a base. -/
def radixValue? (radix : Nat) (cs : List Char) : Option Nat :=
  if cs.isEmpty then none
  else (cs.mapM (radixDigit? radix)).map fun digits =>
    digits.foldl (fun acc d => radix * acc + d) 0

/-- The digits of a number with a mark for its base. -/
def marked? : List Char → Option (Nat × List Char)
  | '0' :: 'x' :: rest => some (16, rest)
  | '0' :: 'o' :: rest => some (8, rest)
  | '0' :: 'b' :: rest => some (2, rest)
  | _ => none

/-- A magnitude in base ten or in a marked base. -/
def magnitude? (cs : List Char) : Option Nat :=
  match marked? cs with
  | some (radix, digits) => radixValue? radix digits
  | none => radixValue? 10 cs

/-- A whole number of at most 128 bits. -/
def readsAsInteger (cs : List Char) : Bool :=
  !isPaddedDigits cs &&
    match cs with
    | '-' :: rest => (magnitude? rest).any (· ≤ Word.size 127)
    | '+' :: rest => (magnitude? rest).any (· < Word.size 128)
    | _ => (magnitude? cs).any (· < Word.size 128)

def isSigned : List Char → Bool
  | '+' :: _ => true
  | '-' :: _ => true
  | _ => false

def readsAsFloat (cs : List Char) : Bool :=
  let text := String.ofList cs
  let unsigned := match cs with
    | '+' :: rest => if isSigned rest then none else some rest
    | _ => some cs
  ["-.inf", "-.Inf", "-.INF", ".nan", ".NaN", ".NAN"].contains text ||
    unsigned.any fun rest =>
      [".inf", ".Inf", ".INF"].contains (String.ofList rest) ||
        (!isPaddedDigits cs && (Decimal.number? rest).any Binary64.isFinite)

/-- Text that a plain scalar would not read back as text. -/
def isAmbiguous (s : String) : Bool :=
  s.isEmpty || Form.nullWords.contains s || Form.trueWords.contains s ||
    Form.falseWords.contains s || readsAsInteger s.toList || readsAsFloat s.toList ||
    isPaddedDigits s.toList

/-! ### Styles of scalars -/

def isBreak (c : Char) : Bool := [0x0a, 0x0d, 0x85, 0x2028, 0x2029].contains c.toNat

/-- Characters that may stand in a document as they are. -/
def isPrintable (c : Char) : Bool :=
  let n := c.toNat
  n = 0x0a || (0x20 ≤ n && n ≤ 0x7e) || (0xa0 ≤ n && n ≤ 0xd7ff) ||
    (0xe000 ≤ n && n ≤ 0xfffd && n ≠ 0xfeff) || 0x10000 ≤ n

/-- A blank, a break or the end follows. -/
def followedByGap : List Char → Bool
  | [] => true
  | c :: _ => c = ' ' || c = '\t' || c.toNat = 0 || isBreak c

def startsIndicator (cs : List Char) : Bool :=
  match cs with
  | [] => false
  | c :: rest =>
    ['#', ',', '[', ']', '\x7b', '\x7d', '&', '*', '!', '|', '>', '"', '%', '@'].contains c ||
      c.toNat = 0x27 || c.toNat = 0x60 ||
      ((c = '?' || c = ':' || c = '-') && followedByGap rest) ||
      ['-', '-', '-'].isPrefixOf cs || ['.', '.', '.'].isPrefixOf cs

/-- A colon before a gap, or a number sign after one. -/
def hasInnerIndicator : (afterGap : Bool) → List Char → Bool
  | _, [] => false
  | afterGap, c :: rest =>
    (c = ':' && followedByGap rest) || (c = '#' && afterGap) ||
      hasInnerIndicator (followedByGap [c]) rest

/-- Two characters that follow one another. -/
def hasPair (first second : Char → Bool) : List Char → Bool
  | a :: b :: rest => (first a && second b) || hasPair first second (b :: rest)
  | _ => false

def isSpace (c : Char) : Bool := c = ' '

/-- Characters that only double quotes can hold, or a space before a break. -/
def needsEscapes (cs : List Char) : Bool :=
  cs.any (fun c => !isPrintable c) || hasPair isSpace isBreak cs

def plainAllowed (cs : List Char) : Bool :=
  let outer := fun c => isSpace c || isBreak c
  !(needsEscapes cs || cs.any isBreak || cs.head?.any outer || cs.getLast?.any outer ||
    startsIndicator cs || hasInnerIndicator false (cs.drop 1))

def singleQuotesAllowed (cs : List Char) : Bool := !needsEscapes cs && !hasPair isBreak isSpace cs

def literalAllowed (cs : List Char) : Bool := !needsEscapes cs && !cs.getLast?.any isSpace

inductive Style where
  | plain
  | single
  | double
  | literal
deriving DecidableEq, Repr

def quotedStyle (cs : List Char) : Style := if singleQuotesAllowed cs then .single else .double

/-- The style of a scalar; one that is a key on its line cannot go over several. -/
def styleOf (isKey : Bool) (s : String) : Style :=
  let cs := s.toList
  if isKey && cs.any isBreak then .double
  else if cs.contains '\n' then (if literalAllowed cs then .literal else .double)
  else if isAmbiguous s then quotedStyle cs
  else if plainAllowed cs then .plain
  else quotedStyle cs

/-! ### Scalars -/

def spaces (n : Nat) : List Char := List.replicate n ' '

def upperHexDigit (n : Nat) : Char :=
  if n < 10 then Char.ofNat ('0'.toNat + n) else Char.ofNat ('A'.toNat + n - 10)

/-- A number in `width` hexadecimal digits. -/
def hexText (n : Nat) : (width : Nat) → List Char
  | 0 => []
  | width + 1 => hexText (n / 16) width ++ [upperHexDigit (n % 16)]

def escapeChar (c : Char) : List Char :=
  let n := c.toNat
  match n with
  | 0 => ['\\', '0']
  | 7 => ['\\', 'a']
  | 8 => ['\\', 'b']
  | 9 => ['\\', 't']
  | 10 => ['\\', 'n']
  | 11 => ['\\', 'v']
  | 12 => ['\\', 'f']
  | 13 => ['\\', 'r']
  | 27 => ['\\', 'e']
  | 0x22 => ['\\', '"']
  | 0x5c => ['\\', '\\']
  | 0x85 => ['\\', 'N']
  | 0x2028 => ['\\', 'L']
  | 0x2029 => ['\\', 'P']
  | _ =>
    if isPrintable c then [c]
    else if n ≤ 0xff then ['\\', 'x'] ++ hexText n 2
    else if n ≤ 0xffff then ['\\', 'u'] ++ hexText n 4
    else ['\\', 'U'] ++ hexText n 8

/-- Text in single quotes; what follows a break is indented. -/
def singleQuotedChars (indent : Nat) : (afterBreak : Bool) → List Char → List Char
  | afterBreak, [] => if afterBreak then spaces indent else []
  | afterBreak, c :: rest =>
    let written := if c.toNat = 0x27 then [c, c] else [c]
    if isBreak c then c :: singleQuotedChars indent true rest
    else (if afterBreak then spaces indent else []) ++ written ++
      singleQuotedChars indent false rest

/-- Lines of a literal scalar, indented where they are not empty. -/
def literalChars (indent : Nat) : (afterBreak : Bool) → List Char → List Char
  | _, [] => []
  | afterBreak, c :: rest =>
    if isBreak c then c :: literalChars indent true rest
    else (if afterBreak then spaces indent else []) ++ c :: literalChars indent false rest

/-- The header of a literal scalar says how it is indented and what its last breaks mean. -/
def literalHeader (cs : List Char) : List Char :=
  let hint := if cs.head?.any fun c => isSpace c || isBreak c then ['2'] else []
  let chomp := match cs.reverse with
    | [] => ['-']
    | [last] => if isBreak last then ['+'] else ['-']
    | last :: previous :: _ =>
      if !isBreak last then ['-'] else if isBreak previous then ['+'] else []
  ['|'] ++ hint ++ chomp

/-- Text of a scalar with its line end; further lines are indented by `indent`. -/
def scalarLine (style : Style) (indent : Nat) (s : String) : String :=
  let cs := s.toList
  match style with
  | .plain => s ++ "\n"
  | .single =>
    let quote := [Char.ofNat 0x27]
    String.ofList (quote ++ singleQuotedChars indent false cs ++ quote) ++ "\n"
  | .double => "\"" ++ String.ofList (cs.flatMap escapeChar) ++ "\"\n"
  | .literal =>
    let text := literalHeader cs ++ ['\n'] ++ literalChars indent true cs
    String.ofList text ++ (if text.getLast?.any isBreak then "" else "\n")

def stringLine (indent : Nat) (s : String) : String := scalarLine (styleOf false s) indent s

/-- A key on one line and of at most 128 bytes stands before its colon. -/
def isSimpleKey (key : String) : Bool := !key.toList.any isBreak && key.utf8ByteSize ≤ 128

def simpleKeyText (key : String) : String :=
  let style := styleOf true key
  String.ofList ((scalarLine style 0 key).toList.dropLast)

def pad (n : Nat) : String := String.ofList (spaces n)

/-! ### Values -/

/-- An entry of a mapping whose first column is `n`; the value is written after the colon of a
simple key, or after a mark of its own. -/
def entryText (n : Nat) (key : String) (afterKey afterMark : Unit → String) : String :=
  if isSimpleKey key then simpleKeyText key ++ ":" ++ afterKey ()
  else "? " ++ stringLine (n + 2) key ++ pad n ++ ":" ++ afterMark ()

mutual

/-- The value of a key that stands in column `n`, from the colon on. -/
def afterKey (n : Nat) : Value → String
  | .null => " null\n"
  | .bool true => " true\n"
  | .bool false => " false\n"
  | .integer k => " " ++ Decimal.int k ++ "\n"
  | .float value => " " ++ floatText value ++ "\n"
  | .string s => " " ++ stringLine (n + 2) s
  | .array [] => " []\n"
  | .array (item :: rest) =>
    "\n" ++ pad n ++ "-" ++ afterMark n item ++ furtherItems n rest
  | .object [] => " \x7b\x7d\n"
  | .object ((key, value) :: rest) =>
    "\n" ++ pad (n + 2) ++
      entryText (n + 2) key (fun _ => afterKey (n + 2) value) (fun _ => afterMark (n + 2) value) ++
      furtherEntries (n + 2) rest

/-- A value after the mark of an item, or of a key on several lines, in column `n`. -/
def afterMark (n : Nat) : Value → String
  | .null => " null\n"
  | .bool true => " true\n"
  | .bool false => " false\n"
  | .integer k => " " ++ Decimal.int k ++ "\n"
  | .float value => " " ++ floatText value ++ "\n"
  | .string s => " " ++ stringLine (n + 2) s
  | .array [] => " []\n"
  | .array (item :: rest) => " -" ++ afterMark (n + 2) item ++ furtherItems (n + 2) rest
  | .object [] => " \x7b\x7d\n"
  | .object ((key, value) :: rest) =>
    " " ++
      entryText (n + 2) key (fun _ => afterKey (n + 2) value) (fun _ => afterMark (n + 2) value) ++
      furtherEntries (n + 2) rest

def furtherItems (n : Nat) : List Value → String
  | [] => ""
  | item :: rest => pad n ++ "-" ++ afterMark n item ++ furtherItems n rest

def furtherEntries (n : Nat) : List (String × Value) → String
  | [] => ""
  | (key, value) :: rest =>
    pad n ++ entryText n key (fun _ => afterKey n value) (fun _ => afterMark n value) ++
      furtherEntries n rest

end

/-- A document with one value. -/
def document : Value → String
  | .object [] => "\x7b\x7d\n"
  | .object ((key, value) :: rest) =>
    entryText 0 key (fun _ => afterKey 0 value) (fun _ => afterMark 0 value) ++
      furtherEntries 0 rest
  | .array [] => "[]\n"
  | .array (item :: rest) => "-" ++ afterMark 0 item ++ furtherItems 0 rest
  | .null => "null\n"
  | .bool true => "true\n"
  | .bool false => "false\n"
  | .integer k => Decimal.int k ++ "\n"
  | .float value => floatText value ++ "\n"
  | .string s => stringLine 2 s

end ApiSchema.Yaml
