import ApiSchema.Proofs.PrintedTypes

/-! Reading printed types back. The grammar reads the tokens of a legible type as the type, by induction on
the type: arguments one after another, each at the level below. What is printed has no dots and no blanks at
its ends, so nothing of it is changed before it is read. -/

namespace ApiSchema.TypeExpr

open Source
open Source.Parser
open Source.Grammar (genericArgument angleArguments)

def Worded (tokens : List Token) : Prop :=
  ∃ word rest, tokens = .ident word :: rest ∧ word ≠ "true" ∧ word ≠ "false"

theorem Worded.append {tokens : List Token} (worded : Worded tokens) (rest : List Token) :
    Worded (tokens ++ rest) := by
  obtain ⟨word, more, rfl, yes, no⟩ := worded
  exact ⟨word, more ++ rest, rfl, yes, no⟩

/-- The grammar reads the tokens as the type, wherever a type may be over after them. -/
structure ParsesAs (g : Grammar) (tokens : List Token) (type : TypeExpr) : Prop where
  worded : Worded tokens
  run : ∀ rest, TypeEnds rest → ∃ term, g.type true (tokens ++ rest) = some (term, rest) ∧ ofTerm [] term = type

section Arguments

variable {g : Grammar} {bound : Parser Bool} {rest cs : List Token} {type : TypeExpr}

theorem genericArgument_run {term : TypeTerm} (worded : Worded cs) (ends : TypeEnds rest)
    (run : g.type true cs = some (term, rest)) : genericArgument g bound cs = some (some term, rest) := by
  obtain ⟨word, more, rfl, yes, no⟩ := worded
  rw [genericArgument, get_bind, if_neg (by simp [startsLifetime]), if_neg (by simp [startsLiteral, yes, no]),
    if_neg (by simp [startsGroup]), bind_run run]
  -- a binding or a bounded name would go on with a mark
  have equal := tryPunct_none (ends.unmarked "=" (by simp))
  have colon := tryPunct_none (ends.unmarked ":" (by simp))
  refine ite_run ?_ rfl
  rw [bind_run equal, if_neg (by simp), bind_run colon, if_neg (by simp)]
  rfl

def argumentStep (g : Grammar) (bound : Parser Bool) (args : List TypeTerm) :
    Parser (List TypeTerm × Bool) := do
  if ← peek (startsPunct ">") then return (args, false)
  let arg ← genericArgument g bound
  let args := args ++ arg.toList
  if ← peek (startsPunct ">") then return (args, false)
  punct ","
  return (args, true)

theorem angleArguments_eq (g : Grammar) (bound : Parser Bool) : angleArguments g bound = (do
    punct "<"
    let args ← repeating [] (argumentStep g bound)
    punct ">"
    return args) := rfl

/-- An argument with another one after it. -/
theorem argumentStep_next {term : TypeTerm} {after : List Token} (worded : Worded cs)
    (run : g.type true cs = some (term, .punct ',' false :: after)) (args : List TypeTerm) :
    argumentStep g bound args cs = some ((args ++ [term], true), after) := by
  have generic : genericArgument g bound cs = _ := genericArgument_run worded (.comma _ _) run
  obtain ⟨word, more, rfl, _⟩ := worded
  rw [argumentStep, peek_bind, if_neg (by simp [startsPunct, matchPunct]), bind_run generic, peek_bind,
    if_neg (by simp [startsPunct, matchPunct])]
  rfl

/-- The last argument. -/
theorem argumentStep_last {term : TypeTerm} {joint : Bool} {after : List Token} (worded : Worded cs)
    (run : g.type true cs = some (term, .punct '>' joint :: after)) (args : List TypeTerm) :
    argumentStep g bound args cs = some ((args ++ [term], false), .punct '>' joint :: after) := by
  have generic : genericArgument g bound cs = _ := genericArgument_run worded (.close _ _) run
  obtain ⟨word, more, rfl, _⟩ := worded
  rw [argumentStep, peek_bind, if_neg (by simp [startsPunct, matchPunct]), bind_run generic, peek_bind,
    if_pos (by simp [startsPunct, matchPunct])]
  rfl

/-- Arguments are read one after another, up to the angle. -/
theorem arguments_run {arg : TypeExpr} {more : List TypeExpr} {joint : Bool}
    (reads : ∀ type ∈ arg :: more, ParsesAs g (type.tokens true) type) {fuel : Nat} (enough : more.length < fuel)
    (args : List TypeTerm) : ∃ terms, ofTerms [] terms = arg :: more ∧
      repeatFrom (argumentStep g bound) fuel args
        (arg.tokens true ++ (restTokens more ++ .punct '>' joint :: rest)) =
          some (args ++ terms, .punct '>' joint :: rest) := by
  induction more generalizing arg fuel args with
  | nil =>
    obtain ⟨fuel, rfl⟩ : ∃ n, fuel = n + 1 := Nat.exists_eq_add_one_of_ne_zero (Nat.ne_zero_of_lt enough)
    have here := reads arg List.mem_cons_self
    obtain ⟨term, run, same⟩ := here.run (.punct '>' joint :: rest) (.close _ _)
    refine ⟨[term], by simp [ofTerms, same], ?_⟩
    exact repeatFrom_stop fuel (argumentStep_last (here.worded.append _) run args)
  | cons second more ih =>
    obtain ⟨fuel, rfl⟩ : ∃ n, fuel = n + 1 := Nat.exists_eq_add_one_of_ne_zero (Nat.ne_zero_of_lt enough)
    obtain ⟨here, later⟩ := List.forall_mem_cons.mp reads
    obtain ⟨term, run, same⟩ := here.run _ (.comma false _)
    obtain ⟨terms, meaning, loop⟩ := ih later (Nat.lt_of_succ_lt_succ enough) (args ++ [term])
    refine ⟨term :: terms, by simp [ofTerms, same, meaning], ?_⟩
    have step : argumentStep g bound args _ = _ := argumentStep_next (here.worded.append _) run args
    rw [restTokens, List.cons_append, List.append_assoc, repeatFrom_more fuel step, loop, List.append_assoc]
    rfl

theorem length_restTokens (more : List TypeExpr) : more.length ≤ (restTokens more).length := by
  induction more with
  | nil => exact Nat.le_refl _
  | cons arg more ih =>
    simp only [restTokens, List.length_cons, List.length_append]
    omega

theorem angleArguments_run {arg : TypeExpr} {more : List TypeExpr}
    (reads : ∀ type ∈ arg :: more, ParsesAs g (type.tokens true) type) (joint : Bool) :
    ∃ terms, ofTerms [] terms = arg :: more ∧
      angleArguments g bound
        (.punct '<' false :: (arg.tokens true ++ (restTokens more ++ .punct '>' joint :: rest))) =
          some (terms, rest) := by
  have enough : more.length <
      (arg.tokens true ++ (restTokens more ++ .punct '>' joint :: rest)).length + 2 := by
    have := length_restTokens more
    simp only [List.length_append]
    omega
  obtain ⟨terms, meaning, loop⟩ := @arguments_run g bound rest arg more joint reads _ enough []
  refine ⟨terms, meaning, ?_⟩
  have angle : punct "<"
      (.punct '<' false :: (arg.tokens true ++ (restTokens more ++ .punct '>' joint :: rest))) =
    some ((), arg.tokens true ++ (restTokens more ++ .punct '>' joint :: rest)) := rfl
  have all : repeating [] (argumentStep g bound)
      (arg.tokens true ++ (restTokens more ++ .punct '>' joint :: rest)) =
    some (terms, .punct '>' joint :: rest) := loop
  rw [angleArguments_eq, bind_run angle, bind_run all]
  rfl

end Arguments

section Types

variable {type : TypeExpr} {levels : Nat}

theorem Legible.worded (legible : Legible type) (joint : Bool) : Worded (type.tokens joint) := by
  cases legible with
  | any => exact ⟨"dyn", _, rfl, by decide, by decide⟩
  | @path first names args _ words _ _ _ _ _ cut =>
    have word := words first List.mem_cons_self
    have begins : Worded (pathTokens (first :: names)) :=
      ⟨first, _, rfl, word.ne (by decide) (by decide) (by decide), word.ne (by decide) (by decide) (by decide)⟩
    rw [cut]
    cases args with
    | nil =>
      rw [tokens]
      exact begins
    | cons arg more =>
      rw [tokens]
      exact begins.append _

theorem length_argument {args : List TypeExpr} {arg : TypeExpr} (member : arg ∈ args) :
    (arg.tokens true).length < (restTokens args).length := by
  induction args with
  | nil => cases member
  | cons first more ih =>
    rw [restTokens, List.length_cons, List.length_append]
    rcases List.mem_cons.mp member with rfl | later
    · omega
    · have := ih later
      omega

/-- A path with what its last word takes is read as what the path stands for. -/
theorem typeRule_reads {g : Grammar} {first : String} {names : List String} {tail rest : List Token}
    {args : Option (List TypeTerm)} (words : ∀ name ∈ first :: names, PathWord name) (begins : first ≠ "try")
    (ends : TypeEnds rest) (last : ∀ name, (first :: names).getLast? = some name →
      g.segment g.bound false (.ident name :: tail) = some ((name, args), rest)) :
    ∃ term, g.typeRule true (pathTokens (first :: names) ++ tail) = some (term, rest) ∧
      ofTerm [] term = ofPath [] (first :: names) (ofTerms [] (args.getD [])) := by
  obtain ⟨term, extends_, run⟩ := Grammar.plainPath_run words ends last
  refine ⟨.path term.shape term.segments term.args, ?_, ?_⟩
  · refine (Grammar.typeRule_path (words first List.mem_cons_self) begins).trans ?_
    exact Grammar.pathType_run ends extends_.qualified run
  · rw [ofTerm, extends_.segments, extends_.args]
    rfl

/-- The grammar of as many levels as there are tokens reads them. -/
theorem Legible.reads (legible : Legible type) (joint : Bool) (enough : (type.tokens joint).length ≤ levels) :
    ParsesAs (grammar levels) (type.tokens joint) type := by
  induction legible generalizing joint levels with
  | any =>
    obtain ⟨levels, rfl⟩ : ∃ n, levels = n + 1 := ⟨levels - 1, by simp [tokens] at enough; omega⟩
    exact ⟨Legible.any.worded joint, fun rest ends => ⟨.other, Grammar.typeRule_any ends, rfl⟩⟩
  | @path first names args type words begins last inner reading shown cut ih =>
    have legible : Legible type := .path words begins last inner reading shown cut
    refine ⟨legible.worded joint, fun rest ends => ?_⟩
    rw [cut] at enough ⊢
    have word {name : String} (final : (first :: names).getLast? = some name) : PathWord name :=
      words name (List.mem_of_getLast? final)
    cases args with
    | nil =>
      rw [tokens] at enough ⊢
      obtain ⟨levels, rfl⟩ : ∃ n, levels = n + 1 := ⟨levels - 1, by simp [pathTokens] at enough; omega⟩
      obtain ⟨term, run, meaning⟩ := typeRule_reads words begins ends fun name final =>
        Grammar.segment_last (word final) ends
      exact ⟨term, run, meaning.trans reading⟩
    | cons arg more =>
      rw [tokens] at enough ⊢
      obtain ⟨levels, rfl⟩ : ∃ n, levels = n + 1 := ⟨levels - 1, by simp [pathTokens] at enough; omega⟩
      have reads : ∀ other ∈ arg :: more, ParsesAs (grammar levels) (other.tokens true) other := by
        intro other member
        have shorter := length_argument member
        refine ih other member true ?_
        simp [restTokens] at shorter enough
        omega
      obtain ⟨terms, args, run⟩ := angleArguments_run reads joint
      obtain ⟨term, run, meaning⟩ := typeRule_reads words begins ends fun name final =>
        Grammar.segment_applied (word final) (last (by simp) name final) run
      refine ⟨term, ?_, meaning.trans ?_⟩
      · simp only [List.append_assoc, List.cons_append, List.nil_append]
        exact run
      · rw [Option.getD_some, args, reading]

theorem Legible.parseType? (legible : Legible type) :
    ∃ term, Source.parseType? type.display = some term ∧ ofTerm [] term = type := by
  have cut : tokenize? type.display = some (type.tokens false) :=
    (legible.cuts break_nil).tokenize? legible.wordNext
  have enough : (type.tokens false).length ≤ levelsFor (type.tokens false) := by
    rw [levelsFor]
    omega
  obtain ⟨term, run, meaning⟩ := (legible.reads false enough).run [] .nil
  rw [List.append_nil] at run
  refine ⟨term, ?_, meaning⟩
  simp only [Source.parseType?, cut, Option.bind_eq_bind, Option.bind_some, parseAll?, run]

end Types

section Normalization

/-- Nothing of the text is lost when it is trimmed, and no dot of it stands for a separator. -/
structure Normal (text : String) : Prop where
  undotted : '.' ∉ text.toList
  left : ∀ c, text.toList.head? = some c → Text.isBlank c = false
  right : ∀ c, text.toList.getLast? = some c → Text.isBlank c = false

theorem dropWhile_blank {cs : List Char} (solid : ∀ c, cs.head? = some c → Text.isBlank c = false) :
    cs.dropWhile Text.isBlank = cs := by
  cases cs with
  | nil => rfl
  | cons c rest => exact List.dropWhile_cons_of_neg (by simp [solid c rfl])

theorem Normal.trim {text : String} (normal : Normal text) : Text.trim text = text := by
  have back : text.toList.reverse.dropWhile Text.isBlank = text.toList.reverse := by
    refine dropWhile_blank fun c last => normal.right c ?_
    rwa [List.head?_reverse] at last
  rw [Text.trim, Text.trimChars, dropWhile_blank normal.left, back, List.reverse_reverse, String.ofList_toList]

theorem Normal.normalizeReference {text : String} (normal : Normal text) :
    TypeExpr.normalizeReference text = text := by
  have same : ∀ c ∈ text.toList, (if c = '.' then [':', ':'] else [c]) = [c] := by
    intro c member
    refine if_neg ?_
    rintro rfl
    exact normal.undotted member
  have kept : text.toList.flatMap (fun c => if c = '.' then [':', ':'] else [c]) = text.toList := by
    rw [List.flatMap_congr same, List.flatMap_singleton']
  rw [TypeExpr.normalizeReference, normal.trim, Text.replaceChar, kept, String.ofList_toList, ite_self]

theorem solid_words {segments : List String} (words : ∀ name ∈ segments, Lexed name) :
    ∀ c ∈ (Text.joinSegments segments).toList, Text.isBlank c = false ∧ c ≠ '.' := by
  cases segments with
  | nil => simp [Text.joinSegments]
  | cons first names =>
    obtain ⟨here, later⟩ := List.forall_mem_cons.mp words
    intro c member
    rw [joinSegments_cons] at member
    rcases List.mem_append.mp member with own | other
    · exact here.solid c own
    · obtain ⟨name, inside, mark⟩ := List.mem_flatMap.mp other
      simp only [List.mem_cons] at mark
      rcases mark with rfl | rfl | letter
      · decide
      · decide
      · exact (later name inside).solid c letter

theorem undotted_rest {args : List TypeExpr} (each : ∀ arg ∈ args, '.' ∉ arg.display.toList) :
    '.' ∉ (displayRest args).toList := by
  induction args with
  | nil => simp [displayRest]
  | cons arg more ih =>
    obtain ⟨here, later⟩ := List.forall_mem_cons.mp each
    have others := ih later
    rw [displayRest]
    simp [here, others]

variable {type : TypeExpr}

theorem Legible.undotted (legible : Legible type) : '.' ∉ type.display.toList := by
  induction legible with
  | any => decide
  | @path first names args type words _ _ _ _ shown _ ih =>
    have path : '.' ∉ (Text.joinSegments (first :: names)).toList := fun member =>
      (solid_words (fun name inside => (words name inside).1) '.' member).2 rfl
    rw [shown]
    cases args with
    | nil =>
      rw [display]
      exact path
    | cons arg more =>
      obtain ⟨here, later⟩ := List.forall_mem_cons.mp ih
      have others := undotted_rest later
      rw [display]
      simp [path, others, here]

theorem Legible.solid_last (legible : Legible type) {c : Char}
    (last : type.display.toList.getLast? = some c) : Text.isBlank c = false := by
  cases legible with
  | any =>
    cases last
    decide
  | @path first names args _ words _ _ _ _ shown _ =>
    rw [shown] at last
    cases args with
    | nil =>
      rw [display] at last
      exact (solid_words (fun name inside => (words name inside).1) c (List.mem_of_getLast? last)).1
    | cons arg more =>
      rw [display, String.toList_append] at last
      have close : ">".toList = ['>'] := rfl
      rw [close, List.getLast?_concat] at last
      cases last
      decide

theorem Legible.normal (legible : Legible type) : Normal type.display where
  undotted := legible.undotted
  left c first := by
    obtain ⟨d, rest, same, start⟩ := legible.wordNext
    obtain rfl : d = c := by simpa [same] using first
    exact isBlank_of_part (Text.isIdentifierPart_of_start start)
  right _ last := legible.solid_last last

/-- What a legible type is printed as is read as the type. -/
theorem Legible.parse? (legible : Legible type) : parse? type.display = some type := by
  obtain ⟨term, read, same⟩ := legible.parseType?
  rw [TypeExpr.parse?, legible.normal.normalizeReference, read, Option.map_some, same]

end Normalization

end ApiSchema.TypeExpr
