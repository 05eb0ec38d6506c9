import ApiSchema.Proofs.WrittenTokens

/-! Every rule of the grammar keeps tokens as they are written in source, and the names in what it gives
back are such names. There is one lemma for each rule, in the order of the rules. A rule that only puts
others one after another keeps what they keep; one that gives back a type, a path or an item has its names
from the words and the smaller terms that it has read. -/

namespace ApiSchema.Source

open Std.Do

set_option mvcgen.warning false

/-- A word that may be a segment of a path: no keyword, or one of those that stand in paths. -/
def PathWord (name : String) : Prop :=
  Lexed name ∧ (isKeyword name = false ∨ name = "Self" ∨ name ∈ Grammar.scopeWords)

def TakesArguments (segments : List String) : Prop :=
  ∀ name, segments.getLast? = some name → name ∉ Grammar.scopeWords

inductive TypeTerm.Written : TypeTerm → Prop where
  | path {shape : PathShape} {segments : List String} {args : List TypeTerm}
      (names : ∀ name ∈ segments, PathWord name) (last : args ≠ [] → TakesArguments segments)
      (inner : ∀ arg ∈ args, TypeTerm.Written arg) : TypeTerm.Written (.path shape segments args)
  | reference {target : TypeTerm} (inner : TypeTerm.Written target) : TypeTerm.Written (.reference target)
  | sequence {element : TypeTerm} (inner : TypeTerm.Written element) :
      TypeTerm.Written (.sequence element)
  | paren {inner : TypeTerm} (inside : TypeTerm.Written inner) : TypeTerm.Written (.paren inner)
  | function : TypeTerm.Written .function
  | other : TypeTerm.Written .other

inductive UseTree.Written : UseTree → Prop where
  | path {name : String} {rest : UseTree} (here : Lexed name) (inner : UseTree.Written rest) :
      UseTree.Written (.path name rest)
  | name {name : String} (here : Lexed name) : UseTree.Written (.name name)
  | rename {name localName : String} (here : Lexed name) : UseTree.Written (.rename name localName)
  | glob : UseTree.Written .glob
  | group {trees : List UseTree} (inner : ∀ tree ∈ trees, UseTree.Written tree) :
      UseTree.Written (.group trees)

/-- The imports of the item, its modules and the items inside them have names as they are written. -/
inductive Item.Written : Item → Prop where
  | imports {tree : UseTree} (inner : tree.Written) : Item.Written (.imports tree)
  | submodule {name : String} {items : List Item} (here : Lexed name)
      (inner : ∀ item ∈ items, Item.Written item) : Item.Written (.submodule name (some items))
  | empty {name : String} : Item.Written (.submodule name none)
  | struct {header : TypeHeader} {fields : Fields} : Item.Written (.struct header fields)
  | enum {header : TypeHeader} {variants : List VariantItem} : Item.Written (.enum header variants)
  | typeAlias {header : TypeHeader} {target : TypeTerm} : Item.Written (.typeAlias header target)
  | trait {header : TypeHeader} : Item.Written (.trait header)
  | other : Item.Written .other

namespace Grammar

open Source.Parser

/-- What the grammar of the level below gives back has names as they are written in source. -/
class GivesWritten (g : Grammar) : Prop where
  type (plus : Bool) : Gives (g.type plus) TypeTerm.Written
  expr (braces : Bool) : Keeps (g.expr braces)
  pattern : Keeps g.pattern
  block : Keeps g.block
  item : Gives g.item Item.Written

variable {g : Grammar} {bound : Parser Bool}

attribute [spec] GivesWritten.type GivesWritten.expr GivesWritten.pattern GivesWritten.block GivesWritten.item

section Attributes

@[spec] theorem scopePath_keeps : Keeps scopePath := by
  mvcgen [scopePath]
  all_goals exact Leaves.written ‹_›

@[spec] theorem attributePath_keeps : Keeps attributePath := by
  mvcgen [attributePath]

theorem loneLiteral?_written {tokens rest : List Token} {value : Literal} (written : Written tokens)
    (found : loneLiteral? tokens = some (value, rest)) : Written rest := by
  unfold loneLiteral? at found
  split at found
  · cases found
    exact written.of_subset (List.subset_cons_self _ _)
  · cases found

variable [GivesWritten g]

@[spec] theorem attributeBody_keeps : Keeps (attributeBody g) := by
  mvcgen [attributeBody]
  · next same => exact same ▸ ‹_›
  · next same => exact same ▸ ‹_›
  · next found => exact loneLiteral?_written ‹_› found

@[spec] theorem attributeRest_keeps : Keeps (attributeRest g) := by
  refine group_keeps ?_ _
  mvcgen

@[spec] theorem outerAttributes_keeps : Keeps (outerAttributes g) := by
  refine repeating_keeps (fun found => ?_) _
  mvcgen

@[spec] theorem innerAttributes_keeps : Keeps (innerAttributes g) := by
  refine repeating_keeps (fun found => ?_) _
  mvcgen
  exact Written.drop ‹_› 2

end Attributes

section Types

structure PathTerm.Written (term : PathTerm) : Prop where
  names : ∀ name ∈ term.segments, PathWord name
  last : term.args ≠ [] → TakesArguments term.segments
  args : ∀ arg ∈ term.args, arg.Written

structure SegmentWritten (segment : String × Option (List TypeTerm)) : Prop where
  name : PathWord segment.1
  applies : segment.2 ≠ .none → segment.1 ∉ scopeWords
  args : ∀ args, segment.2 = some args → ∀ arg ∈ args, arg.Written

theorem PathTerm.Written.blank (shape : PathShape) : PathTerm.Written { shape } :=
  ⟨by simp, by simp, by simp⟩

theorem PathTerm.Written.reshape {term : PathTerm} (written : term.Written) (shape : PathShape) :
    PathTerm.Written { term with shape } := ⟨written.names, written.last, written.args⟩

theorem PathTerm.Written.snoc {term : PathTerm} {shape : PathShape}
    {segment : String × Option (List TypeTerm)} (term' : term.Written) (last : SegmentWritten segment) :
    PathTerm.Written ⟨shape, term.segments ++ [segment.1], segment.2.getD []⟩ := by
  refine ⟨fun name member => ?_, fun given name final => ?_, fun arg member => ?_⟩
  · rcases List.mem_append.mp member with early | here
    · exact term'.names name early
    · exact List.mem_singleton.mp here ▸ last.name
  · obtain rfl : segment.1 = name := by simpa using final
    refine last.applies fun absent => ?_
    simp [absent] at given
  · cases given : segment.2 with
    | none => simp [given] at member
    | some args => exact last.args args given arg (by simpa [given] using member)

@[spec] theorem boundsUntil_keeps (inner : Keeps bound) (stops : List Token → Bool) :
    Keeps (boundsUntil bound stops) := by
  mvcgen [boundsUntil, inner]

theorem segmentsFrom_gives {segment : Parser (String × Option (List TypeTerm))}
    (inner : Gives segment SegmentWritten) {term : PathTerm} (start : term.Written) :
    Gives (segmentsFrom segment term) PathTerm.Written := by
  refine repeating_gives (fun term written => ?_) start
  mvcgen [inner]
  · next read _ _ _ => exact read.written
  · next read _ _ _ _ _ rest => exact ⟨rest, written.snoc read.result⟩
  · next read _ _ _ => exact ⟨read.written, written.snoc read.result⟩

section

variable [GivesWritten g]

theorem genericArgument_gives (inner : Keeps bound) :
    Gives (genericArgument g bound) fun found => ∀ type ∈ found, type.Written := by
  have type : Gives (g.type true) TypeTerm.Written := GivesWritten.type true
  have constraint (stops : List Token → Bool) : Keeps (boundsUntil bound stops) :=
    boundsUntil_keeps inner stops
  have nothing {tokens : List Token} (written : Written tokens) :
      Leaves (fun found : Option TypeTerm => ∀ type ∈ found, type.Written) .none tokens :=
    ⟨written, by simp⟩
  mvcgen [genericArgument, type, constraint]
  iterate 3 exact nothing ‹_›
  next found plain alone =>
    -- a type is the argument itself, unless it turns out to be the name of a binding
    intro tokens read
    have written : Written tokens := read.written
    have result : ∀ type ∈ some found, TypeTerm.Written type := by simpa using read.result
    split
    · mvcgen [type, constraint]
      iterate 2 exact nothing ‹_›
      · exact nothing (Leaves.written ‹_›)
      · exact nothing ‹_›
      · exact ⟨‹_›, result⟩
    · exact (pure_gives result).run written

theorem angleArguments_gives (inner : Keeps bound) :
    Gives (angleArguments g bound) fun args => ∀ arg ∈ args, arg.Written := by
  have argument := genericArgument_gives (g := g) inner
  have grown {args : List TypeTerm} {found : Option TypeTerm} (earlier : ∀ arg ∈ args, arg.Written)
      (new : ∀ type ∈ found, type.Written) : ∀ arg ∈ args ++ found.toList, arg.Written :=
    List.forall_mem_append.mpr ⟨earlier, fun arg member => new arg (Option.mem_toList.mp member)⟩
  refine (punct_keeps _).bind fun _ => Gives.bind (P := fun args => ∀ arg ∈ args, arg.Written)
    (repeating_gives ?step ?start) ?angle
  case start => simp
  case step =>
    intro args earlier
    mvcgen [argument]
    · exact ⟨‹_›, earlier⟩
    · exact Leaves.written ‹_›
    · exact ⟨‹_›, grown earlier (Leaves.result ‹_›)⟩
    · exact ⟨‹_›, grown earlier (Leaves.result ‹_›)⟩
  case angle =>
    intro args written
    mvcgen
    exact ⟨‹_›, written⟩

def segmentRest (g : Grammar) (bound : Parser Bool) (inExpr : Bool) (name : String) :
    Parser (String × Option (List TypeTerm)) := do
  let tokens ← get
  if !inExpr && startsPunct "<" tokens && !startsPunct "<=" tokens then
    return (name, some (← angleArguments g bound))
  if startsPunct "::" tokens && startsPunct "<" (tokens.drop 2) then
    punct "::"
    return (name, some (← angleArguments g bound))
  return (name, .none)

omit [GivesWritten g] in
/-- The word at hand decides which words may stand there, and whether arguments may follow. -/
theorem segment_eq (inExpr : Bool) (tokens : List Token) : segment g bound inExpr tokens =
    if startsOneOf scopeWords tokens then (anyWord >>= fun name => pure (name, .none)) tokens
    else ((if startsWord "Self" tokens then anyWord else ident) >>= segmentRest g bound inExpr) tokens := by
  rw [segment, peek_bind]
  cases startsOneOf scopeWords tokens with
  | true => rfl
  | false =>
    change (peek (startsWord "Self") >>= _) tokens = _
    rw [peek_bind]
    cases startsWord "Self" tokens with
    | true => rfl
    | false => rfl

theorem segmentRest_gives (inner : Keeps bound) (inExpr : Bool) {name : String} (word : PathWord name)
    (plain : name ∉ scopeWords) : Gives (segmentRest g bound inExpr name) SegmentWritten := by
  have arguments := angleArguments_gives (g := g) inner
  have bare : SegmentWritten (name, .none) := ⟨word, by simp, by simp⟩
  have applied {args : List TypeTerm} (written : ∀ arg ∈ args, arg.Written) :
      SegmentWritten (name, some args) := ⟨word, fun _ => plain, by simpa using written⟩
  mvcgen [segmentRest, arguments]
  · next read => exact ⟨read.written, applied read.result⟩
  · next read => exact ⟨read.written, applied read.result⟩
  · exact ⟨‹_›, bare⟩

omit [GivesWritten g] in
theorem segmentWord_taken {tokens rest : List Token} {name : String}
    (read : (if startsWord "Self" tokens then anyWord else ident) tokens = some (name, rest)) :
    tokens = .ident name :: rest ∧ (isKeyword name = false ∨ name = "Self") := by
  split at read
  · next self =>
    unfold startsWord at self
    split at self
    · cases read
      exact ⟨rfl, .inr (by simpa using self.symm)⟩
    · cases self
  · unfold ident at read
    split at read
    · split at read
      · cases read
      · next plain =>
        cases read
        exact ⟨rfl, .inl (by simpa using plain)⟩
    · cases read

theorem segment_gives (inner : Keeps bound) (inExpr : Bool) :
    Gives (segment g bound inExpr) SegmentWritten := by
  refine gives_iff.mpr fun tokens found rest written read => ?_
  rw [segment_eq] at read
  split at read
  · next scope =>
    unfold startsOneOf at scope
    split at scope
    · next text more =>
      cases read
      have word : text ∈ scopeWords := List.contains_iff_mem.mp scope
      exact ⟨written.of_subset (List.subset_cons_self _ _),
        ⟨⟨written text List.mem_cons_self, .inr (.inr word)⟩, by simp, by simp⟩⟩
    · cases scope
  · next scope =>
    obtain ⟨⟨name, left⟩, front, behind⟩ := Option.bind_eq_some_iff.mp read
    obtain ⟨rfl, kind⟩ := segmentWord_taken front
    have word : PathWord name := ⟨written name List.mem_cons_self, kind.imp_right .inl⟩
    have plain : name ∉ scopeWords := by simpa [startsOneOf] using scope
    exact gives_iff.mp (segmentRest_gives inner inExpr word plain) left found rest
      (written.of_subset (List.subset_cons_self _ _)) behind

theorem plainPath_gives (inner : Keeps bound) (inExpr : Bool) :
    Gives (plainPath g bound inExpr) PathTerm.Written := by
  refine (tryPunct_keeps _).bind fun rooted => ?_
  exact segmentsFrom_gives (segment_gives inner inExpr) (.blank _)

theorem anyPath_gives (inner : Keeps bound) (inExpr : Bool) :
    Gives (anyPath g bound inExpr) PathTerm.Written := by
  have plain := plainPath_gives (g := g) inner
  have segment := segment_gives (g := g) inner inExpr
  have loop := @repeating_gives PathTerm PathTerm.Written
  mvcgen [anyPath, plain, segment, loop, -repeating_keeps]
  all_goals try exact Leaves.written ‹_›
  · exact ⟨‹_›, PathTerm.Written.snoc ‹_› (Leaves.result ‹_›)⟩
  · exact fun _ _ => PathTerm.Written.reshape (Leaves.result ‹_›) _
  · exact ⟨‹_›, PathTerm.Written.snoc ‹_› (Leaves.result ‹_›)⟩
  · exact fun _ _ => .blank _

@[spec] theorem returnType_keeps (plus : Bool) : Keeps (returnType g plus) := by
  mvcgen [returnType]
  all_goals exact Leaves.written ‹_›

@[spec] theorem callArguments_keeps : Keeps (callArguments g) := by
  mvcgen [callArguments]
  all_goals exact fun read => read.written

omit [GivesWritten g] in
@[spec] theorem boundLifetimes_keeps {attributes : Parser Unit} (marks : Keeps attributes) :
    Keeps (boundLifetimes attributes) := by
  mvcgen [boundLifetimes, marks]

theorem calledPath_gives (inner : Keeps bound) {term : PathTerm} (start : term.Written) :
    Gives (calledPath g bound term) PathTerm.Written := by
  refine repeating_gives (fun term written => ?_) start
  have bare : PathTerm.Written { term with args := [] } := ⟨written.names, by simp, by simp⟩
  have further := segmentsFrom_gives (segment_gives (g := g) inner false) bare
  mvcgen [further]
  · next read => exact ⟨read.written, read.result.reshape _⟩
  · exact ⟨‹_›, written.reshape _⟩
  · exact ⟨‹_›, written⟩

theorem traitBound_keeps (inner : Keeps bound) : Keeps (traitBound g bound) := by
  have path := plainPath_gives (g := g) inner false
  have called := @calledPath_gives g bound _ inner
  mvcgen [traitBound, path, called]
  all_goals try exact Leaves.written ‹_›
  exact Leaves.result ‹_›

theorem boundAt_keeps (depth : Nat) : Keeps (boundAt g depth) := by
  induction depth with
  | zero => mvcgen [boundAt]
  | succ depth ih =>
    have single := traitBound_keeps (g := g) ih
    have grouped := group_keeps single .paren
    mvcgen [boundAt, single, grouped]

@[spec] theorem bound_keeps : Keeps (Grammar.bound g) :=
  keeps_iff.mpr fun tokens => keeps_iff.mp (boundAt_keeps (tokens.length + 1)) tokens

@[spec] theorem bounds_keeps (plus : Bool) : Keeps (bounds g plus) := by
  mvcgen [bounds]

@[spec] theorem traitBounds_gives (plus : Bool) : Gives (traitBounds g plus) TypeTerm.Written := by
  mvcgen [traitBounds]
  exact ⟨‹_›, .other⟩

omit [GivesWritten g] in
@[spec] theorem callingConvention_keeps : Keeps callingConvention := by
  mvcgen [callingConvention]
  all_goals subst_vars; assumption

@[spec] theorem functionParameter_keeps : Keeps (functionParameter g) := by
  have unmarked {tokens : List Token} (marked : Bool) (written : Written tokens) :
      Written (if marked then tokens.drop 1 else tokens) := by
    cases marked with
    | true => exact written.drop 1
    | false => exact written
  mvcgen [functionParameter]
  all_goals try exact Leaves.written ‹_›
  all_goals exact (unmarked _ ‹_›).drop 2

@[spec] theorem functionType_gives : Gives (functionType g) TypeTerm.Written := by
  mvcgen [functionType]
  exact ⟨‹_›, .function⟩

@[spec] theorem furtherBounds_keeps : Keeps (parenthesized.boundsUntil' g) := by
  mvcgen [parenthesized.boundsUntil']

@[spec] theorem parenthesized_gives (plus : Bool) : Gives (parenthesized g plus) TypeTerm.Written := by
  have type : Gives (g.type true) TypeTerm.Written := GivesWritten.type true
  have types : Keeps (commas (g.type true)) := commas_keeps type.keeps
  mvcgen [parenthesized, type, types]
  all_goals try exact fun read => read.written
  all_goals try exact Leaves.written ‹_›
  all_goals try exact ⟨‹_›, .other⟩
  · exact ⟨‹_›, .paren (Leaves.result ‹_›)⟩
  · exact ⟨‹_›, .paren (Leaves.result ‹_›)⟩

@[spec] theorem pathType_gives (plus quantified : Bool) :
    Gives (pathType g plus quantified) TypeTerm.Written := by
  have bound := bound_keeps (g := g)
  have path := anyPath_gives (g := g) bound false
  have called := @calledPath_gives g _ _ bound
  refine path.bind fun term start => (called start).bind fun term written => ?_
  have whole : TypeTerm.Written (.path term.shape term.segments term.args) :=
    .path written.names written.last written.args
  mvcgen
  all_goals first
    | exact ⟨‹_›, whole⟩
    | exact ⟨‹_›, .other⟩

theorem typeRule_gives (plus : Bool) : Gives (typeRule g plus) TypeTerm.Written := by
  have element : Gives (g.type true) TypeTerm.Written := GivesWritten.type true
  have target : Gives (g.type false) TypeTerm.Written := GivesWritten.type false
  have elements := @group_gives TypeTerm TypeTerm.Written
  mvcgen [typeRule, element, target, elements, -group_keeps]
  all_goals try exact ⟨‹_›, .other⟩
  all_goals try exact ⟨Leaves.written ‹_›, .other⟩
  all_goals try exact Leaves.written ‹_›
  · exact ⟨‹_›, .sequence (Leaves.result ‹_›)⟩
  · exact ⟨‹_›, .sequence (Leaves.result ‹_›)⟩
  · exact ⟨Leaves.written ‹_›, .reference (Leaves.result ‹_›)⟩
  · exact ⟨Leaves.written ‹_›, .reference (Leaves.result ‹_›)⟩

end

end Types

section Patterns

@[spec] theorem member_keeps : Keeps member := by
  mvcgen [member]
  all_goals exact Leaves.written ‹_›

@[spec] theorem rangeMark_keeps : Keeps rangeMark := by
  mvcgen [rangeMark]

variable [GivesWritten g]

@[spec] theorem scopedPath_keeps (inExpr : Bool) : Keeps (anyPath g (Grammar.bound g) inExpr) :=
  (anyPath_gives bound_keeps inExpr).keeps

@[spec] theorem alternatives_keeps : Keeps (alternatives g) := by
  mvcgen [alternatives]

@[spec] theorem patternBound_keeps : Keeps (patternBound g) := by
  mvcgen [patternBound]

@[spec] theorem patternRangeEnd_keeps : Keeps (patternRangeEnd g) := by
  mvcgen [patternRangeEnd]

@[spec] theorem fieldPattern_keeps : Keeps (fieldPattern g) := by
  mvcgen [fieldPattern]

@[spec] theorem fieldPatterns_keeps : Keeps (fieldPatterns g) := by
  mvcgen [fieldPatterns]

@[spec] theorem pathPattern_keeps : Keeps (pathPattern g) := by
  mvcgen [pathPattern]

theorem patternRule_keeps : Keeps (patternRule g) := by
  have inner : Keeps g.pattern := GivesWritten.pattern
  have parts (d : Delimiter) : Keeps (group d (commas (alternatives g))) :=
    group_keeps (commas_keeps alternatives_keeps) d
  mvcgen [patternRule, inner, parts, -group_keeps]
  all_goals exact Leaves.written ‹_›

end Patterns

section Expressions

@[spec] theorem macroCall_keeps : Keeps macroCall := by
  mvcgen [macroCall]

variable [GivesWritten g] {arm : Parser Operand}

@[spec] theorem elseBranches_keeps : Keeps (elseBranches g) := by
  mvcgen [elseBranches]

@[spec] theorem fieldValue_keeps : Keeps (fieldValue g) := by
  mvcgen [fieldValue]

@[spec] theorem recordFields_keeps : Keeps (recordFields g) := by
  mvcgen [recordFields]

@[spec] theorem pathOperand_keeps (braces : Bool) : Keeps (pathOperand g braces) := by
  mvcgen [pathOperand]

@[spec] theorem parenOperand_keeps : Keeps (parenOperand g) := by
  mvcgen [parenOperand]

@[spec] theorem bracketOperand_keeps : Keeps (bracketOperand g) := by
  mvcgen [bracketOperand]

@[spec] theorem closureParameter_keeps : Keeps (closureParameter g) := by
  mvcgen [closureParameter]
  all_goals exact Leaves.written ‹_›

@[spec] theorem closureOperand_keeps (braces : Bool) : Keeps (closureOperand g braces) := by
  mvcgen [closureOperand]
  all_goals exact Leaves.written ‹_›

@[spec] theorem matchArm_keeps (body : Keeps arm) : Keeps (matchArm g arm) := by
  have pattern : Keeps (alternatives g) := alternatives_keeps
  have condition : Keeps (g.expr true) := GivesWritten.expr true
  mvcgen [matchArm, pattern, condition, body]

@[spec] theorem rangeEnd_keeps (braces : Bool) : Keeps (rangeEnd g braces) := by
  mvcgen [rangeEnd]

@[spec] theorem blockAfter_keeps : Keeps (blockAfter g) := by
  mvcgen [blockAfter]

@[spec] theorem keywordOperand_keeps (braces : Bool) (body : Keeps arm) (keyword : String) :
    Keeps (keywordOperand g braces arm keyword) := by
  have condition : Keeps (g.expr false) := GivesWritten.expr false
  have arms : Keeps (toEnd (matchArm g arm)) := toEnd_keeps (matchArm_keeps body)
  mvcgen [keywordOperand, condition, arms, -toEnd_keeps]

@[spec] theorem atom_keeps (braces : Bool) (body : Keeps arm) : Keeps (atom g braces arm) := by
  have keyword (word : String) : Keeps (keywordOperand g braces arm word) :=
    keywordOperand_keeps braces body word
  mvcgen [atom, keyword]
  all_goals subst_vars; assumption

@[spec] theorem trailers_keeps (first : Operand) : Keeps (trailers g first) := by
  have bound := bound_keeps (g := g)
  have arguments := (angleArguments_gives (g := g) bound).keeps
  mvcgen [trailers, arguments]

@[spec] theorem unaryMarks_keeps : Keeps (unaryMarks g) := by
  mvcgen [unaryMarks]
  all_goals exact Written.drop ‹_› _

@[spec] theorem unary_keeps (braces : Bool) (body : Keeps arm) : Keeps (unary g braces arm) := by
  have operand : Keeps (atom g braces arm) := atom_keeps braces body
  mvcgen [unary, operand]

@[spec] theorem operatorsFrom_keeps (braces : Bool) (body : Keeps arm) (first : Operand) :
    Keeps (operatorsFrom g braces arm first) := by
  have next := unary_keeps (g := g) braces body
  mvcgen [operatorsFrom, next]
  all_goals exact Leaves.written ‹_›

theorem armOperand_keeps (depth : Nat) : Keeps (armOperand g depth) := by
  induction depth with
  | zero => mvcgen [armOperand]
  | succ depth ih =>
    have first := atom_keeps (g := g) true ih
    have operand := unary_keeps (g := g) true ih
    have chain := operatorsFrom_keeps (g := g) true ih
    mvcgen [armOperand, first, operand, chain]

@[spec] theorem arm_keeps : Keeps (Grammar.arm g) :=
  keeps_iff.mpr fun tokens => keeps_iff.mp (armOperand_keeps (tokens.length + 1)) tokens

theorem exprRule_keeps (braces : Bool) : Keeps (exprRule g braces) := by
  have arm := arm_keeps (g := g)
  have operand := unary_keeps (g := g) braces arm
  have chain := operatorsFrom_keeps (g := g) braces arm
  mvcgen [exprRule, operand, chain]

end Expressions

section Items

@[spec] theorem visibility_keeps : Keeps visibility := by
  mvcgen [visibility]
  all_goals subst_vars
  · exact Written.drop ‹_› 3
  all_goals assumption

@[spec] theorem lifetimeBounds_keeps : Keeps lifetimeBounds := by
  mvcgen [lifetimeBounds]

@[spec] theorem macroItem_keeps : Keeps macroItem := by
  mvcgen [macroItem]

@[spec] theorem macroDefinition_keeps : Keeps macroDefinition := by
  mvcgen [macroDefinition]
  all_goals exact Leaves.written ‹_›

variable [GivesWritten g]

section

@[spec] theorem boundsBefore_keeps (marks : List String) : Keeps (boundsBefore g marks) :=
  boundsUntil_keeps bound_keeps _

@[spec] theorem constantArgument_keeps : Keeps (constantArgument g) := by
  mvcgen [constantArgument]
  all_goals exact Leaves.written ‹_›

@[spec] theorem genericParameter_keeps : Keeps (genericParameter g) := by
  mvcgen [genericParameter]
  all_goals exact Leaves.written ‹_›

@[spec] theorem generics_keeps : Keeps (generics g) := by
  mvcgen [generics]

@[spec] theorem wherePredicate_keeps : Keeps (wherePredicate g) := by
  mvcgen [wherePredicate]
  · exact Written.drop ‹_› 2
  · exact Leaves.written ‹_›

@[spec] theorem whereClause_keeps : Keeps (whereClause g) := by
  mvcgen [whereClause]

@[spec] theorem functionArgument_keeps : Keeps (functionArgument g) := by
  mvcgen [functionArgument]
  · exact Written.drop ‹_› _
  · exact Leaves.written ‹_›
  · exact Written.drop ‹_› _
  · exact Leaves.written ‹_›

@[spec] theorem signature_keeps : Keeps (signature g) := by
  mvcgen [signature]
  all_goals exact Leaves.written ‹_›

@[spec] theorem function_keeps : Keeps (function g) := by
  mvcgen [function]

@[spec] theorem namedField_keeps : Keeps (namedField g) := by
  mvcgen [namedField]
  all_goals exact Leaves.written ‹_›

@[spec] theorem unnamedField_keeps : Keeps (unnamedField g) := by
  mvcgen [unnamedField]
  all_goals exact fun read => read.written

@[spec] theorem namedFields_keeps : Keeps (namedFields g) :=
  group_keeps (commas_keeps namedField_keeps) _

@[spec] theorem unnamedFields_keeps : Keeps (unnamedFields g) :=
  group_keeps (commas_keeps unnamedField_keeps) _

@[spec] theorem structItem_gives (attributes : List Attribute) :
    Gives (structItem g attributes) Item.Written := by
  mvcgen [structItem]
  all_goals try exact Leaves.written ‹_›
  all_goals exact ⟨‹_›, .struct⟩

@[spec] theorem variant_keeps : Keeps (variant g) := by
  mvcgen [variant]
  all_goals exact Leaves.written ‹_›

@[spec] theorem enumItem_gives (attributes : List Attribute) :
    Gives (enumItem g attributes) Item.Written := by
  mvcgen [enumItem]
  all_goals try exact Leaves.written ‹_›
  all_goals exact ⟨‹_›, .enum⟩

@[spec] theorem typeItem_gives (places : ClausePlaces) (attributes : List Attribute) :
    Gives (typeItem g places attributes) Item.Written := by
  have item (unnamed : Bool) (header : TypeHeader) (target : TypeTerm) :
      Item.Written (if unnamed then .other else .typeAlias header target) := by
    cases unnamed with
    | true => exact .other
    | false => exact .typeAlias
  mvcgen [typeItem]
  all_goals try exact Leaves.written ‹_›
  all_goals first
    | exact ⟨‹_›, item _ _ _⟩
    | exact ⟨‹_›, .other⟩

@[spec] theorem constantItem_keeps : Keeps (constantItem g) := by
  mvcgen [constantItem]
  all_goals exact Leaves.written ‹_›

@[spec] theorem staticItem_keeps : Keeps (staticItem g) := by
  mvcgen [staticItem]
  all_goals exact Leaves.written ‹_›

@[spec] theorem associatedItem_keeps (places : ClausePlaces) : Keeps (associatedItem g places) := by
  mvcgen [associatedItem]
  all_goals exact fun read => read.written

@[spec] theorem associatedItems_keeps (places : ClausePlaces) : Keeps (associatedItems g places) := by
  mvcgen [associatedItems]

@[spec] theorem traitItem_gives (attributes : List Attribute) :
    Gives (traitItem g attributes) Item.Written := by
  mvcgen [traitItem]
  all_goals try exact Leaves.written ‹_›
  all_goals first
    | exact ⟨‹_›, .trait⟩
    | exact ⟨‹_›, .other⟩

@[spec] theorem implItem_keeps : Keeps (implItem g) := by
  mvcgen [implItem]
  all_goals exact Leaves.written ‹_›

@[spec] theorem externItem_keeps : Keeps (externItem g) := by
  mvcgen [externItem]
  all_goals exact fun read => read.written

@[spec] theorem unionItem_keeps : Keeps (unionItem g) := by
  mvcgen [unionItem]
  all_goals exact Leaves.written ‹_›

@[spec] theorem submoduleItem_gives : Gives (submoduleItem g) Item.Written := by
  have items : Gives (toEnd g.item) fun items => ∀ item ∈ items, Item.Written item :=
    toEnd_gives GivesWritten.item
  have inside := @group_gives (List Item) fun items => ∀ item ∈ items, Item.Written item
  mvcgen [submoduleItem, inside, items, -group_keeps, -toEnd_keeps]
  all_goals try exact Leaves.written ‹_›
  all_goals try exact ⟨‹_›, .empty⟩
  · have name : Lexed _ := ‹Leaves Lexed _ _›.result
    exact ⟨Leaves.written ‹_›, .submodule name (Leaves.result ‹_›)⟩
  · have name := ‹Leaves (fun text => Lexed text ∧ isKeyword text = false) _ _›.result
    exact ⟨Leaves.written ‹_›, .submodule name.1 (Leaves.result ‹_›)⟩

end

theorem joined_written {found : List (Option UseTree)}
    (each : ∀ branch ∈ found, ∀ tree ∈ branch, tree.Written) :
    UseTree.Written (.group found.reduceOption) := by
  refine .group fun tree member => ?_
  exact each _ (List.reduceOption_mem_iff.mp member) tree rfl

theorem useTreeAt_gives (depth : Nat) (roots : Bool) :
    Gives (useTreeAt depth roots) fun found => ∀ tree ∈ found, UseTree.Written tree := by
  induction depth generalizing roots with
  | zero => mvcgen [useTreeAt]
  | succ depth ih =>
    have trees := @commas_gives (Option UseTree) fun found => ∀ tree ∈ found, tree.Written
    have inside := @group_gives (List (Option UseTree)) fun found =>
      ∀ branch ∈ found, ∀ tree ∈ branch, tree.Written
    have single {tree : UseTree} {tokens : List Token} (written : tree.Written) (left : Written tokens) :
        Leaves (fun found => ∀ tree ∈ found, UseTree.Written tree) (some tree) tokens :=
      ⟨left, by simpa using written⟩
    mvcgen [useTreeAt, ih, trees, inside, -commas_keeps, -group_keeps]
    all_goals try exact Leaves.written ‹_›
    · next name _ _ _ _ _ rest _ read =>
      exact single (.path (Leaves.result ‹_›) (by simpa using read.result)) read.written
    · exact single (.rename (Leaves.result ‹_›)) (Leaves.written ‹_›)
    · exact single (.rename (Leaves.result ‹_›)) (Leaves.written ‹_›)
    · exact single (.name (Leaves.result ‹_›)) ‹_›
    · exact single .glob ‹_›
    · next rooted _ _ _ _ read =>
      cases rooted with
      | true => exact ⟨read.written, by simp⟩
      | false => exact read
    · next read =>
      refine ⟨read.written, ?_⟩
      split
      · simpa using joined_written read.result
      · simp

@[spec] theorem useItem_gives : Gives useItem Item.Written := by
  mvcgen [useItem, useTreeAt_gives]
  · exact Leaves.written ‹_›
  · next read _ tree same _ written => exact ⟨written, .imports (read.result tree same)⟩
  · exact ⟨‹_›, .other⟩

@[spec] theorem itemAfter_gives (attributes : List Attribute) :
    Gives (itemAfter g attributes) Item.Written := by
  have imports : Gives useItem Item.Written := useItem_gives
  have inside : Gives (submoduleItem g) Item.Written := submoduleItem_gives
  mvcgen [itemAfter, imports, inside]
  all_goals exact ⟨‹_›, .other⟩

theorem itemRule_gives : Gives (itemRule g) Item.Written :=
  outerAttributes_keeps.bind fun attributes => itemAfter_gives attributes

@[spec] theorem localRest_keeps : Keeps (localRest g) := by
  mvcgen [localRest]
  all_goals exact Leaves.written ‹_›

@[spec] theorem statement_keeps : Keeps (statement g) := by
  have item (attributes : List Attribute) : Keeps (itemAfter g attributes) := (itemAfter_gives attributes).keeps
  have operand : Keeps (Grammar.arm g) := arm_keeps
  mvcgen [statement, item, operand, -itemAfter_gives]

theorem blockRule_keeps : Keeps (blockRule g) := by
  have next : Keeps (statement g) := statement_keeps
  refine group_keeps ?_ .brace
  mvcgen [next]

end Items

section Levels

theorem givesWritten_none : GivesWritten .none where
  type _ := gives_iff.mpr fun _ _ _ _ read => by cases read
  expr _ := keeps_iff.mpr fun _ _ _ _ read => by cases read
  pattern := keeps_iff.mpr fun _ _ _ _ read => by cases read
  block := keeps_iff.mpr fun _ _ _ _ read => by cases read
  item := gives_iff.mpr fun _ _ _ _ read => by cases read

/-- However deep types, expressions and items nest. -/
theorem grammar_givesWritten (levels : Nat) : GivesWritten (grammar levels) := by
  induction levels with
  | zero => exact givesWritten_none
  | succ levels ih =>
    exact ⟨typeRule_gives, exprRule_keeps, patternRule_keeps, blockRule_keeps, itemRule_gives⟩

end Levels

end Grammar

section Texts

variable {α : Type} {post : α → Prop}

/-- What is read of a whole text is what the rule gives. -/
theorem parseAll?_gives {rule : Grammar → Parser α} (gives : ∀ g [Grammar.GivesWritten g], Gives (rule g) post)
    {text : String} {tokens : List Token} {a : α} (cut : tokenize? text = some tokens)
    (read : parseAll? rule tokens = some a) : post a := by
  unfold parseAll? at read
  split at read
  · next result run =>
    cases read
    have written := Grammar.grammar_givesWritten (levelsFor tokens)
    exact (gives_iff.mp (gives _) tokens a [] (tokenize?_written cut) run).result
  · cases read

/-- All items of a file have names as they are written in source. -/
theorem parseFile?_written {text : String} {items : List Item} (read : parseFile? text = some items) :
    ∀ item ∈ items, item.Written := by
  obtain ⟨tokens, cut, read⟩ := Option.bind_eq_some_iff.mp read
  have whole (g : Grammar) [Grammar.GivesWritten g] : Gives (do
      let _ ← Grammar.innerAttributes g
      Parser.toEnd g.item) fun items => ∀ item ∈ items, item.Written :=
    Grammar.innerAttributes_keeps.bind fun _ => Parser.toEnd_gives Grammar.GivesWritten.item
  exact parseAll?_gives (fun g _ => whole g) cut read

/-- All names in a type that is read are as they are written in source. -/
theorem parseType?_written {text : String} {term : TypeTerm} (read : parseType? text = some term) :
    term.Written := by
  obtain ⟨tokens, cut, read⟩ := Option.bind_eq_some_iff.mp read
  exact parseAll?_gives (fun g _ => Grammar.GivesWritten.type true) cut read

end Texts

end ApiSchema.Source
