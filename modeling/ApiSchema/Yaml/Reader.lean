import ApiSchema.Form
import ApiSchema.Json.Reader

/-! Reading YAML: block and flow collections, plain and quoted scalars, comments, one document.
Anchors, tags and block scalars are not read. -/

namespace ApiSchema.Yaml

/-- The characters of a text with the columns they stand in. -/
abbrev Input := List (Nat × Char)

def columnsFrom : (column : Nat) → List Char → Input
  | _, [] => []
  | column, '\n' :: rest => (column, '\n') :: columnsFrom 0 rest
  | column, c :: rest => (column, c) :: columnsFrom (column + 1) rest

/-- Line ends are made one character each. -/
def unifyLineEnds : List Char → List Char
  | [] => []
  | '\r' :: '\n' :: rest => '\n' :: unifyLineEnds rest
  | '\r' :: rest => '\n' :: unifyLineEnds rest
  | c :: rest => c :: unifyLineEnds rest

def isBlank (c : Char) : Bool := c = ' ' || c = '\t'

/-- A blank, a line end or the end of the text stands here. -/
def breaks : Input → Bool
  | [] => true
  | (_, c) :: _ => isBlank c || c = '\n'

def skipBlanks (input : Input) : Input := input.dropWhile fun m => isBlank m.2

def skipLine (input : Input) : Input := input.dropWhile fun m => m.2 ≠ '\n'

/-- Skip blanks, line ends and comments. -/
def toContent : (fuel : Nat) → Input → Input
  | 0, input => input
  | fuel + 1, input =>
    match skipBlanks input with
    | (_, '\n') :: rest => toContent fuel rest
    | (_, '#') :: rest => toContent fuel (skipLine rest)
    | input => input

def content (input : Input) : Input := toContent (input.length + 1) input

/-- Nothing but blanks and a comment is left on the line. -/
def lineEnds (input : Input) : Bool :=
  match skipBlanks input with
  | [] => true
  | (_, c) :: _ => c = '\n' || c = '#'

def column (input : Input) : Nat := (input.head?.map Prod.fst).getD 0

def startsEntry : Input → Bool
  | (_, '-') :: rest => breaks rest
  | _ => false

/-- A marker of three characters at the start of a line. -/
def startsMarker (c : Char) : Input → Bool
  | (0, a) :: (_, b) :: (_, d) :: rest => a = c && b = c && d = c && breaks rest
  | _ => false

def flowMarks : List Char := [',', '[', ']', '\x7b', '\x7d']

def startsKeyMark : Input → Bool
  | (_, ':') :: rest => breaks rest
  | _ => false

/-- A plain scalar may begin here. -/
def startsPlain (flow : Bool) : Input → Bool
  | [] => false
  | (_, c) :: rest =>
    if c = '-' then !breaks rest
    else if c = '?' || c = ':' then !flow && !breaks rest
    else
      !(flowMarks.contains c || ['#', '&', '*', '!', '|', '>', '"', '%', '@'].contains c ||
        c.toNat = 0x27 || c.toNat = 0x60 || isBlank c || c = '\n')

/-- The part of a plain scalar on one line, up to a mark that ends it. -/
def plainLine (flow : Bool) : Input → List Char × Input
  | [] => ([], [])
  | (n, c) :: rest =>
    if c = '\n' || (c = ':' && breaks rest) || (flow && flowMarks.contains c) then
      ([], (n, c) :: rest)
    else if isBlank c && (rest.head?.map Prod.snd) = some '#' then ([], (n, c) :: rest)
    else
      let (text, after) := plainLine flow rest
      (c :: text, after)

def dropTrailingBlanks (cs : List Char) : List Char := (cs.reverse.dropWhile isBlank).reverse

/-- Line ends at the front, and the rest from the first other character on. -/
def countLines : (fuel : Nat) → Input → Nat × Input
  | 0, input => (0, input)
  | fuel + 1, input =>
    match skipBlanks input with
    | (_, '\n') :: rest =>
      let (n, after) := countLines fuel rest
      (n + 1, after)
    | rest => (0, rest)

/-- What a run of line ends inside a scalar stands for. -/
def folded (lines : Nat) : List Char :=
  if lines ≤ 1 then [' '] else List.replicate (lines - 1) '\n'

/-- A plain scalar, continued on lines that are indented by `least` at least. -/
def plainScalar (flow : Bool) (least : Nat) : (fuel : Nat) → Input → List Char × Input
  | 0, input => ([], input)
  | fuel + 1, input =>
    let (line, after) := plainLine flow input
    let line := dropTrailingBlanks line
    match after with
    | (_, '\n') :: _ =>
      let (lines, next) := countLines after.length after
      let goesOn := (flow || least ≤ column next) && !startsMarker '-' next &&
        !startsMarker '.' next && !startsKeyMark next &&
        (next.head?.any fun m => m.2 ≠ '#' && !(flow && flowMarks.contains m.2))
      if goesOn then
        let (more, rest) := plainScalar flow least fuel next
        (line ++ folded lines ++ more, rest)
      else (line, after)
    | _ => (line, after)

/-- The rest of a scalar in single quotes, where a quote is written twice. -/
def singleQuoted? : (fuel : Nat) → Input → Option (List Char × Input)
  | 0, _ => none
  | fuel + 1, input =>
    match input with
    | [] => none
    | (_, '\n') :: _ =>
      let (lines, next) := countLines input.length input
      (singleQuoted? fuel next).map fun (text, rest) => (folded lines ++ text, rest)
    | (_, c) :: rest =>
      if c.toNat = 0x27 then
        match rest with
        | (_, d) :: more =>
          if d.toNat = 0x27 then (singleQuoted? fuel more).map fun (text, rest) => (c :: text, rest)
          else some ([], rest)
        | [] => some ([], [])
      else if isBlank c && (skipBlanks rest).head?.any fun m => m.2 = '\n' then
        singleQuoted? fuel (skipBlanks rest)
      else (singleQuoted? fuel rest).map fun (text, rest) => (c :: text, rest)

/-- Characters with an escape of one letter. -/
def escape? (c : Char) : Option Char :=
  match c with
  | '0' => some (Char.ofNat 0)
  | 'a' => some (Char.ofNat 7)
  | 'b' => some (Char.ofNat 8)
  | 't' => some '\t'
  | '\t' => some '\t'
  | 'n' => some '\n'
  | 'v' => some (Char.ofNat 11)
  | 'f' => some (Char.ofNat 12)
  | 'r' => some '\r'
  | 'e' => some (Char.ofNat 27)
  | ' ' => some ' '
  | '"' => some '"'
  | '/' => some '/'
  | '\\' => some '\\'
  | 'N' => some (Char.ofNat 0x85)
  | '_' => some (Char.ofNat 0xa0)
  | 'L' => some (Char.ofNat 0x2028)
  | 'P' => some (Char.ofNat 0x2029)
  | _ => none

/-- How many hexadecimal digits follow an escape. -/
def hexLength? (c : Char) : Option Nat :=
  match c with
  | 'x' => some 2
  | 'u' => some 4
  | 'U' => some 8
  | _ => none

/-- The character with the code given by `n` hexadecimal digits. -/
def hexChar? (n : Nat) (input : Input) : Option Char := do
  let digits ← (input.take n).mapM fun m => Json.hexDigit? m.2
  if digits.length ≠ n then none
  else
    let code := digits.foldl (fun acc d => 16 * acc + d) 0
    if code.isValidChar then some (Char.ofNat code) else none

/-- The rest of a scalar in double quotes. -/
def doubleQuoted? : (fuel : Nat) → Input → Option (List Char × Input)
  | 0, _ => none
  | fuel + 1, input =>
    match input with
    | [] => none
    | (_, '"') :: rest => some ([], rest)
    | (_, '\n') :: _ =>
      let (lines, next) := countLines input.length input
      (doubleQuoted? fuel next).map fun (text, rest) => (folded lines ++ text, rest)
    | (_, '\\') :: (_, '\n') :: rest => doubleQuoted? fuel (skipBlanks rest)
    | (_, '\\') :: (_, c) :: rest =>
      match escape? c with
      | some d => (doubleQuoted? fuel rest).map fun (text, rest) => (d :: text, rest)
      | none => do
        let n ← hexLength? c
        let d ← hexChar? n rest
        (doubleQuoted? fuel (rest.drop n)).map fun (text, rest) => (d :: text, rest)
    | (_, c) :: rest =>
      if isBlank c && (skipBlanks rest).head?.any fun m => m.2 = '\n' then
        doubleQuoted? fuel (skipBlanks rest)
      else (doubleQuoted? fuel rest).map fun (text, rest) => (c :: text, rest)

/-- A quoted scalar, if one begins here. -/
def quoted? (input : Input) : Option (Form × Input) :=
  match input with
  | [] => none
  | (_, c) :: rest =>
    let result :=
      if c = '"' then doubleQuoted? (rest.length + 1) rest
      else if c.toNat = 0x27 then singleQuoted? (rest.length + 1) rest
      else none
    result.map fun (text, rest) => (.text (String.ofList text), rest)

def startsQuoted (input : Input) : Bool :=
  input.head?.any fun m => m.2 = '"' || m.2.toNat = 0x27

/-- A scalar; a plain one may go on over lines indented by `least`. -/
def scalar? (flow : Bool) (least : Nat) (input : Input) : Option (Form × Input) :=
  if startsQuoted input then quoted? input
  else if startsPlain flow input then
    let (text, rest) := plainScalar flow least (input.length + 1) input
    some (.plain (String.ofList text), rest)
  else none

/-- The key of an entry, with what follows its colon. -/
def key? (input : Input) : Option (Form × Input) :=
  let scalar :=
    if startsQuoted input then quoted? input
    else if startsPlain false input then
      let (text, rest) := plainLine false input
      some (.plain (String.ofList (dropTrailingBlanks text)), rest)
    else none
  scalar.bind fun (key, rest) =>
    match skipBlanks rest with
    | (_, ':') :: after => if breaks after then some (key, after) else none
    | _ => none

/-- The colon between key and value in a flow collection, and what follows it. A quoted key needs
no blank after it. -/
def flowColon? (key : Form) (input : Input) : Option Input :=
  match content input with
  | (_, ':') :: rest =>
    let adjacent := match key with
      | .plain _ => false
      | _ => true
    if adjacent || breaks rest || rest.head?.any fun m => flowMarks.contains m.2 then some rest
    else none
  | _ => none

mutual

/-- A value inside a flow collection. -/
def flowNode? : (fuel : Nat) → Input → Option (Form × Input)
  | 0, _ => none
  | fuel + 1, input =>
    match content input with
    | (_, '[') :: rest => (flowItems? fuel rest).map fun (items, rest) => (.list items, rest)
    | (_, '\x7b') :: rest =>
      (flowEntries? fuel rest).map fun (entries, rest) => (.record entries, rest)
    | input => scalar? true 0 input

/-- The items of a flow sequence up to its closing bracket. -/
def flowItems? : (fuel : Nat) → Input → Option (List Form × Input)
  | 0, _ => none
  | fuel + 1, input =>
    match content input with
    | (_, ']') :: rest => some ([], rest)
    | input => do
      let (item, rest) ← flowNode? fuel input
      let (item, rest) ← match flowColon? item rest with
        | some rest => (flowValue? fuel rest).map fun (v, rest) => (.record [(item, v)], rest)
        | none => some (item, rest)
      match content rest with
      | (_, ',') :: rest =>
        let (items, rest) ← flowItems? fuel rest
        return (item :: items, rest)
      | (_, ']') :: rest => return ([item], rest)
      | _ => none

/-- The entries of a flow mapping up to its closing brace. -/
def flowEntries? : (fuel : Nat) → Input → Option (List (Form × Form) × Input)
  | 0, _ => none
  | fuel + 1, input =>
    match content input with
    | (_, '\x7d') :: rest => some ([], rest)
    | input => do
      let (key, rest) ← flowNode? fuel input
      let (value, rest) ← match flowColon? key rest with
        | some rest => flowValue? fuel rest
        | none => some (.plain "", rest)
      match content rest with
      | (_, ',') :: rest =>
        let (entries, rest) ← flowEntries? fuel rest
        return ((key, value) :: entries, rest)
      | (_, '\x7d') :: rest => return ([(key, value)], rest)
      | _ => none

/-- A value after a colon, which may be left out. -/
def flowValue? : (fuel : Nat) → Input → Option (Form × Input)
  | 0, _ => none
  | fuel + 1, input =>
    match content input with
    | (n, c) :: rest =>
      if c = ',' || c = ']' || c = '\x7d' then some (.plain "", (n, c) :: rest)
      else flowNode? fuel ((n, c) :: rest)
    | [] => none

end

def startsFlow (input : Input) : Bool := input.head?.any fun m => m.2 = '[' || m.2 = '\x7b'

/-- A value that stands on the line of its key or dash. -/
def inlineNode? (least : Nat) (input : Input) : Option (Form × Input) :=
  if startsFlow input then flowNode? (2 * input.length + 2) input else scalar? false least input

mutual

/-- A value in block style at the next content, if that is indented by `least` at least. -/
def blockNode? : (fuel least : Nat) → Input → Option (Form × Input)
  | 0, _, _ => none
  | fuel + 1, least, input =>
    match input with
    | [] => some (.plain "", [])
    | (n, _) :: _ =>
      if n < least || startsMarker '-' input || startsMarker '.' input then some (.plain "", input)
      else if startsEntry input then
        (blockItems? fuel n input).map fun (items, rest) => (.list items, rest)
      else if (key? input).isSome then
        (blockEntries? fuel n input).map fun (entries, rest) => (.record entries, rest)
      else inlineNode? least input

/-- The items of a block sequence in a column. -/
def blockItems? : (fuel column : Nat) → Input → Option (List Form × Input)
  | 0, _, _ => none
  | fuel + 1, n, input =>
    if startsEntry input && column input = n then do
      let (item, rest) ← blockNode? fuel (n + 1) (content (input.drop 1))
      let rest := content rest
      if n < column rest then none
      else
        let (items, rest) ← blockItems? fuel n rest
        return (item :: items, rest)
    else some ([], input)

/-- The entries of a block mapping in a column. -/
def blockEntries? : (fuel column : Nat) → Input → Option (List (Form × Form) × Input)
  | 0, _, _ => none
  | fuel + 1, n, input =>
    if input.isEmpty || column input < n || startsMarker '-' input || startsMarker '.' input then
      some ([], input)
    else do
      let (key, rest) ← key? input
      let (value, rest) ←
        if lineEnds rest then
          let next := content rest
          if startsEntry next && column next = n then
            (blockItems? fuel n next).map fun (items, rest) => (Form.list items, rest)
          else blockNode? fuel (n + 1) next
        else inlineNode? (n + 1) (skipBlanks rest)
      let rest := content rest
      if n < column rest then none
      else
        let (entries, rest) ← blockEntries? fuel n rest
        return ((key, value) :: entries, rest)

end

/-- What follows the marker that opens a document, if there is one. -/
def dropOpening (input : Input) : Input :=
  if startsMarker '-' input then content (input.drop 3) else input

def dropClosing (input : Input) : Input :=
  if startsMarker '.' input then content (input.drop 3) else input

/-- The one document of a text. -/
def read? (text : String) : Option Form := do
  let input := dropOpening (content (columnsFrom 0 (unifyLineEnds text.toList)))
  let (form, rest) ← blockNode? (3 * input.length + 3) 0 input
  if (dropClosing (content rest)).isEmpty then some form else none

end ApiSchema.Yaml
