import ApiSchema.Proofs.PrintedTokens

/-! The rules for types on the tokens of a path. A path of words is read to its end, whatever its last word
takes, if what follows cannot continue a type: then no rule that a type can begin with asks for more. The
trait object that stands for any value is read the same way. -/

namespace ApiSchema.Source

open Source.Parser

namespace Parser

variable {α β : Type} {tokens rest : List Token}

theorem bind_run {parser : Parser α} {a : α} (run : parser tokens = some (a, rest)) (next : α → Parser β) :
    (parser >>= next) tokens = next a rest := by
  simp [bind, StateT.bind, run]

theorem get_bind (next : List Token → Parser β) (tokens : List Token) :
    (get >>= next) tokens = next tokens tokens := rfl

theorem pure_run (a : α) (tokens : List Token) : (pure a : Parser α) tokens = some (a, tokens) := rfl

theorem ite_run {c : Prop} [Decidable c] {first second : Parser α} {result : Option (α × List Token)}
    (one : first tokens = result) (other : second tokens = result) :
    (if c then first else second) tokens = result := by
  split
  · exact one
  · exact other

theorem tryPunct_none {mark : String} (none : matchPunct mark.toList tokens = none) :
    tryPunct mark tokens = some (false, tokens) := by
  simp [tryPunct, none]

theorem tryWord_other {name word : String} (other : name ≠ word) :
    tryWord word (.ident name :: rest) = some (false, .ident name :: rest) := by
  simp [tryWord, other]

theorem repeatFrom_stop {step : α → Parser (α × Bool)} {state next : α} (fuel : Nat)
    (run : step state tokens = some ((next, false), rest)) :
    repeatFrom step (fuel + 1) state tokens = some (next, rest) := by
  rw [repeatFrom, bind_run run]
  rfl

theorem repeatFrom_more {step : α → Parser (α × Bool)} {state next : α} (fuel : Nat)
    (run : step state tokens = some ((next, true), rest)) :
    repeatFrom step (fuel + 1) state tokens = repeatFrom step fuel next rest := by
  rw [repeatFrom, bind_run run]
  rfl

end Parser

/-- Nothing comes next, or a mark after which a type is over. -/
inductive TypeEnds : List Token → Prop where
  | nil : TypeEnds []
  | comma (joint : Bool) (rest : List Token) : TypeEnds (.punct ',' joint :: rest)
  | close (joint : Bool) (rest : List Token) : TypeEnds (.punct '>' joint :: rest)

theorem TypeEnds.unmarked {rest : List Token} (ends : TypeEnds rest) :
    ∀ mark ∈ ["<", "::", "!", "+", "=", ":"], matchPunct mark.toList rest = none := by
  intro mark member
  simp only [List.mem_cons, List.not_mem_nil, or_false] at member
  cases ends
  all_goals
    rcases member with rfl | rfl | rfl | rfl | rfl | rfl
    all_goals rfl

theorem TypeEnds.startsPunct {rest : List Token} (ends : TypeEnds rest) {mark : String}
    (member : mark ∈ ["<", "::", "!", "+", "=", ":"]) : startsPunct mark rest = false := by
  simp [Parser.startsPunct, ends.unmarked mark member]

theorem TypeEnds.uncalled {rest : List Token} (ends : TypeEnds rest) : Grammar.followedByCall rest = false := by
  cases ends
  all_goals rfl

theorem PathWord.ne {name keyword : String} (word : PathWord name) (reserved : isKeyword keyword = true)
    (apart : keyword ≠ "Self") (outside : keyword ∉ Grammar.scopeWords) : name ≠ keyword := by
  rintro rfl
  rcases word.2 with plain | self | inside
  · cases reserved.symm.trans plain
  · exact apart self
  · exact outside inside

/-- A word that takes arguments is no keyword but the one for the type itself. -/
theorem PathWord.kind {name : String} (word : PathWord name)
    (applies : name ∉ Grammar.scopeWords) : isKeyword name = false ∨ name = "Self" := by
  rcases word.2 with plain | self | inside
  · exact .inl plain
  · exact .inr self
  · exact absurd inside applies

namespace Grammar

section Segments

variable {g : Grammar} {bound : Parser Bool} {name : String} {rest tokens : List Token}

theorem segmentWord_run (kind : isKeyword name = false ∨ name = "Self") (after : List Token) :
    (if startsWord "Self" (.ident name :: after) then anyWord else ident) (.ident name :: after) =
      some (name, after) := by
  rcases kind with plain | rfl
  · split
    · rfl
    · simp [ident, plain]
  · rfl

/-- A word is a segment that has no arguments, unless an angle follows. -/
theorem segment_plain (word : PathWord name) (bare : Parser.startsPunct "<" rest = false)
    (apart : (Parser.startsPunct "::" rest && Parser.startsPunct "<" (rest.drop 2)) = false) :
    segment g bound false (.ident name :: rest) = some ((name, .none), rest) := by
  rw [segment_eq]
  split
  · rfl
  · next scope =>
    have applies : name ∉ scopeWords := fun inside => scope (List.contains_iff_mem.mpr inside)
    rw [bind_run (segmentWord_run (word.kind applies) rest), segmentRest, get_bind]
    simp [bare, apart]
    rfl

theorem segment_applied (word : PathWord name) (applies : name ∉ scopeWords) {args : List TypeTerm}
    (run : angleArguments g bound (.punct '<' false :: tokens) = some (args, rest)) :
    segment g bound false (.ident name :: .punct '<' false :: tokens) = some ((name, some args), rest) := by
  have scope : startsOneOf scopeWords (.ident name :: .punct '<' false :: tokens) = false := by
    simpa [startsOneOf] using applies
  have angle : (!false && Parser.startsPunct "<" (.punct '<' false :: tokens) &&
      !Parser.startsPunct "<=" (.punct '<' false :: tokens)) = true := rfl
  rw [segment_eq, scope, if_neg (by simp), bind_run (segmentWord_run (word.kind applies) _), segmentRest,
    get_bind, if_pos angle, bind_run run, pure_run]

def PathTerm.snoc (term : PathTerm) (segment : String × Option (List TypeTerm)) : PathTerm where
  shape := { term.shape with applied := term.shape.applied || segment.2.isSome }
  segments := term.segments ++ [segment.1]
  args := segment.2.getD []

def segmentStep (single : Parser (String × Option (List TypeTerm))) (term : PathTerm) :
    Parser (PathTerm × Bool) := do
  let found ← single
  let tokens ← get
  let more := Parser.startsPunct "::" tokens && !startsGroup .paren (tokens.drop 2)
  if more then punct "::"
  return (term.snoc found, more)

theorem segmentsFrom_eq (single : Parser (String × Option (List TypeTerm))) (term : PathTerm) :
    segmentsFrom single term = repeating term (segmentStep single) := rfl

variable {single : Parser (String × Option (List TypeTerm))} {found : String × Option (List TypeTerm)}
  {term : PathTerm}

theorem segmentStep_last (run : single tokens = some (found, rest)) (ends : TypeEnds rest) :
    segmentStep single term tokens = some ((term.snoc found, false), rest) := by
  have last : (Parser.startsPunct "::" rest && !startsGroup .paren (rest.drop 2)) = false := by
    rw [ends.startsPunct (by simp)]
    rfl
  rw [segmentStep, bind_run run, get_bind]
  simp only [last]
  rfl

theorem segmentStep_next {after : List Token}
    (run : single tokens = some (found, .punct ':' true :: .punct ':' false :: .ident name :: after)) :
    segmentStep single term tokens = some ((term.snoc found, true), .ident name :: after) := by
  rw [segmentStep, bind_run run]
  rfl

/-- The second path goes on from the first one with more segments, the last of which has the arguments. -/
structure PathTerm.ContinuedBy (before : PathTerm) (segments : List String) (args : List TypeTerm)
    (term : PathTerm) : Prop where
  qualified : term.shape.qualified = before.shape.qualified
  called : term.shape.called = before.shape.called
  segments : term.segments = before.segments ++ segments
  args : term.args = args

/-- Words are segments one after another, and the last one takes what follows it. -/
theorem segments_run {first : String} {names : List String} {tail : List Token} {args : Option (List TypeTerm)}
    (words : ∀ name ∈ first :: names, PathWord name) (ends : TypeEnds rest)
    (last : ∀ name, (first :: names).getLast? = some name →
      segment g bound false (.ident name :: tail) = some ((name, args), rest))
    {fuel : Nat} (enough : names.length < fuel) :
    ∃ term', term.ContinuedBy (first :: names) (args.getD []) term' ∧
      repeatFrom (segmentStep (segment g bound false)) fuel term (pathTokens (first :: names) ++ tail) =
        some (term', rest) := by
  induction names generalizing term first fuel with
  | nil =>
    obtain ⟨fuel, rfl⟩ : ∃ n, fuel = n + 1 := Nat.exists_eq_add_one_of_ne_zero (Nat.ne_zero_of_lt enough)
    refine ⟨term.snoc (first, args), ⟨rfl, rfl, rfl, rfl⟩, ?_⟩
    exact repeatFrom_stop fuel (segmentStep_last (last first rfl) ends)
  | cons second more ih =>
    obtain ⟨fuel, rfl⟩ : ∃ n, fuel = n + 1 := Nat.exists_eq_add_one_of_ne_zero (Nat.ne_zero_of_lt enough)
    obtain ⟨here, later⟩ := List.forall_mem_cons.mp words
    have front : segment g bound false (pathTokens (first :: second :: more) ++ tail) =
        some ((first, .none), .punct ':' true :: .punct ':' false :: (pathTokens (second :: more) ++ tail)) :=
      segment_plain here rfl rfl
    have fewer : more.length < fuel := Nat.lt_of_succ_lt_succ enough
    obtain ⟨term', extends_, run⟩ := @ih (term.snoc (first, .none)) second later last fuel fewer
    refine ⟨term', ⟨extends_.qualified, extends_.called, ?_, extends_.args⟩, ?_⟩
    · simp [extends_.segments, PathTerm.snoc]
    · rw [repeatFrom_more fuel (segmentStep_next front)]
      exact run

/-- A path is read to its end, with what its last word takes. -/
theorem plainPath_run {first : String} {names : List String} {tail : List Token}
    {args : Option (List TypeTerm)} (words : ∀ name ∈ first :: names, PathWord name) (ends : TypeEnds rest)
    (last : ∀ name, (first :: names).getLast? = some name →
      segment g bound false (.ident name :: tail) = some ((name, args), rest)) :
    ∃ term, PathTerm.ContinuedBy {} (first :: names) (args.getD []) term ∧
      plainPath g bound false (pathTokens (first :: names) ++ tail) = some (term, rest) := by
  have enough : names.length < (pathTokens (first :: names) ++ tail).length + 2 := by
    simp [pathTokens, List.length_flatMap]
    omega
  obtain ⟨term, extends_, run⟩ := @segments_run g bound rest {} first names tail args words ends last _ enough
  refine ⟨term, extends_, ?_⟩
  have rootless : tryPunct "::" (pathTokens (first :: names) ++ tail) =
    some (false, pathTokens (first :: names) ++ tail) := rfl
  rw [plainPath, bind_run rootless, segmentsFrom_eq]
  exact run

end Segments

section Types

variable {g : Grammar} {rest : List Token}

theorem boundLifetimes_none {name : String} (other : name ≠ "for") (attributes : Parser Unit)
    (after : List Token) :
    boundLifetimes attributes (.ident name :: after) = some (false, .ident name :: after) := by
  rw [boundLifetimes, bind_run (tryWord_other other)]
  rfl

theorem calledPath_none {bound : Parser Bool} {term : PathTerm} (ends : TypeEnds rest) :
    calledPath g bound term rest = some (term, rest) := by
  have uncalled : (!term.shape.called && term.args.isEmpty && followedByCall rest) = false := by
    rw [ends.uncalled, Bool.and_false]
  rw [calledPath, repeating]
  refine repeatFrom_stop _ ?_
  rw [get_bind, if_neg (by simp [uncalled])]
  rfl

/-- A type may begin with the word. -/
theorem pathStarts_word {name : String} (word : PathWord name) (first : name ≠ "try") (after : List Token) :
    pathStarts (.ident name :: after) = true := by
  simp only [pathStarts, Bool.or_eq_true]
  refine .inl (.inl ?_)
  rcases word.2 with plain | rfl | inside
  · exact .inl (by simp [startsIdent, plain])
  · exact .inr rfl
  · simp only [scopeWords, List.mem_cons, List.not_mem_nil, or_false] at inside
    rcases inside with rfl | rfl | rfl | rfl
    · exact .inr rfl
    · exact .inr rfl
    · exact .inr rfl
    · exact absurd rfl first

theorem anyPath_plain {bound : Parser Bool} {name : String} {after : List Token} :
    anyPath g bound false (.ident name :: after) = plainPath g bound false (.ident name :: after) := rfl

/-- A path is a type when it is over. -/
theorem pathType_run {tokens : List Token} {name : String} {term : PathTerm} (ends : TypeEnds rest)
    (unqualified : term.shape.qualified = false)
    (run : plainPath g (Grammar.bound g) false (.ident name :: tokens) = some (term, rest)) :
    pathType g true false (.ident name :: tokens) = some (.path term.shape term.segments term.args, rest) := by
  rw [pathType, bind_run (anyPath_plain.trans run), bind_run (calledPath_none ends),
    if_neg (by simp [unqualified]), get_bind, if_neg (by simp [ends.startsPunct]),
    if_neg (by simp [ends.startsPunct])]
  rfl

theorem typeRule_path {tokens : List Token} {name : String} (word : PathWord name) (first : name ≠ "try") :
    typeRule g true (.ident name :: tokens) = pathType g true false (.ident name :: tokens) := by
  have other : name ≠ "for" := word.ne (by decide) (by decide) (by decide)
  have function : functionStarts (.ident name :: tokens) = false := by
    have fn : name ≠ "fn" := word.ne (by decide) (by decide) (by decide)
    have unsafe_ : name ≠ "unsafe" := word.ne (by decide) (by decide) (by decide)
    have extern_ : name ≠ "extern" := word.ne (by decide) (by decide) (by decide)
    simp [functionStarts, startsOneOf, fn, unsafe_, extern_]
  rw [typeRule, bind_run (boundLifetimes_none other _ _), get_bind, if_neg (by simp [startsGroup]),
    if_neg (by simp [function]), if_pos (pathStarts_word word first tokens)]

theorem segment_last {bound : Parser Bool} {name : String} (word : PathWord name) (ends : TypeEnds rest) :
    segment g bound false (.ident name :: rest) = some ((name, .none), rest) :=
  segment_plain word (ends.startsPunct (by simp)) (by rw [ends.startsPunct (by simp)]; rfl)

theorem traitBound_run {bound : Parser Bool} {name : String} (word : PathWord name) (ends : TypeEnds rest) :
    traitBound g bound (.ident name :: rest) = some ((), rest) := by
  have other : name ≠ "for" := word.ne (by decide) (by decide) (by decide)
  have const : name ≠ "const" := word.ne (by decide) (by decide) (by decide)
  have tilde : tryPunct "~" (.ident name :: rest) = some (false, .ident name :: rest) := rfl
  have mark : tryPunct "?" (.ident name :: rest) = some (false, .ident name :: rest) := rfl
  obtain ⟨term, _, run⟩ := @plainPath_run g bound rest name [] rest .none (by simpa using word) ends
    (by simpa using segment_last word ends)
  rw [traitBound, bind_run (boundLifetimes_none other _ _), bind_run tilde, bind_run (tryWord_other const),
    bind_run mark, bind_run (boundLifetimes_none other _ _)]
  change (plainPath g bound false >>= _) (pathTokens [name] ++ rest) = _
  rw [bind_run run, get_bind, if_neg (by simp [ends.uncalled])]
  rfl

/-- A bound that is a word is a trait. -/
theorem bound_run {name : String} (word : PathWord name) (ends : TypeEnds rest) :
    Grammar.bound g (.ident name :: rest) = some (true, rest) := by
  have use : name ≠ "use" := word.ne (by decide) (by decide) (by decide)
  rw [Grammar.bound, boundAt, get_bind, if_neg (by simp [startsLifetime]), if_neg (by simp [startsWord, use]),
    if_neg (by simp [startsGroup]), bind_run (traitBound_run word ends), pure_run]

theorem bounds_run {name : String} (word : PathWord name) (ends : TypeEnds rest) :
    bounds g true (.ident name :: rest) = some (true, rest) := by
  rw [bounds, repeating]
  refine repeatFrom_stop _ ?_
  rw [bind_run (bound_run word ends)]
  change (tryPunct "+" >>= _) rest = _
  rw [bind_run (tryPunct_none (ends.unmarked "+" (by simp)))]
  rfl

theorem typeRule_any (ends : TypeEnds rest) :
    typeRule g true (.ident "dyn" :: .ident "Any" :: rest) = some (.other, rest) := by
  have any : PathWord "Any" := ⟨⟨"Any".toList, [], rfl⟩, .inl (by decide)⟩
  have star : tryPunct "*" (.ident "Any" :: rest) = some (false, .ident "Any" :: rest) := rfl
  have dyn : word "dyn" (.ident "dyn" :: .ident "Any" :: rest) = some ((), .ident "Any" :: rest) := rfl
  rw [typeRule, bind_run (boundLifetimes_none (by decide) _ _), get_bind, if_neg (by simp [startsGroup]),
    if_neg (by simp [functionStarts, startsOneOf])]
  change (word "dyn" >>= _) (.ident "dyn" :: .ident "Any" :: rest) = _
  rw [bind_run dyn, bind_run star, traitBounds, bind_run (bounds_run any ends)]
  rfl

end Types

end Grammar

end ApiSchema.Source
