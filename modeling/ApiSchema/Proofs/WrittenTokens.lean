import ApiSchema.Proofs.Lookups
import ApiSchema.Source.File
import Mathlib

/-! Names come from source. The lexer makes identifiers of identifier characters only, and a parser
takes tokens from the front of those that it is given, so all names that it can come by are words of a
source: without the marks of instances and of parameters. -/

namespace ApiSchema.Source

open Std.Do
open Text (Unmarked)

set_option mvcgen.warning false

/-- A word as the lexer cuts it from a source. -/
def Lexed (text : String) : Prop := ∃ cs rest, identifier? cs = some (text, rest)

def Written (tokens : List Token) : Prop := ∀ text, .ident text ∈ tokens → Lexed text

theorem Written.of_subset {tokens rest : List Token} (written : Written tokens) (part : rest ⊆ tokens) :
    Written rest := fun text member => written text (part member)

theorem Written.drop {tokens : List Token} (written : Written tokens) (count : Nat) :
    Written (tokens.drop count) := written.of_subset (List.drop_subset count tokens)

section Lexer

theorem unmarked_of_parts {chars : List Char} (parts : ∀ c ∈ chars, Text.isIdentifierPart c = true) :
    '-' ∉ chars ∧ '<' ∉ chars := by
  refine ⟨fun member => ?_, fun member => ?_⟩
  · have part := parts _ member
    revert part
    decide
  · have part := parts _ member
    revert part
    decide

theorem takeWord?_parts {cs word rest : List Char} (taken : takeWord? cs = some (word, rest)) :
    ∀ c ∈ word, Text.isIdentifierPart c = true := by
  cases cs with
  | nil => cases taken
  | cons first more =>
    simp only [takeWord?, List.span_eq_takeWhile_dropWhile] at taken
    split at taken
    · cases taken
      exact fun c member => List.mem_takeWhile_imp member
    · cases taken

theorem identifier?_unmarked {cs rest : List Char} {name : String}
    (read : identifier? cs = some (name, rest)) : Unmarked name := by
  unfold identifier? at read
  split at read
  · obtain ⟨⟨word, after⟩, taken, read⟩ := Option.bind_eq_some_iff.mp read
    obtain ⟨dash, angle⟩ := unmarked_of_parts (takeWord?_parts taken)
    dsimp only at read
    split at read
    · cases read
    · cases read
      simp [Unmarked, dash, angle]
  · obtain ⟨⟨word, after⟩, taken, same⟩ := Option.map_eq_some_iff.mp read
    obtain ⟨dash, angle⟩ := unmarked_of_parts (takeWord?_parts taken)
    cases same
    simp [Unmarked, dash, angle]

theorem Lexed.unmarked {text : String} (lexed : Lexed text) : Unmarked text := by
  obtain ⟨_, _, read⟩ := lexed
  exact identifier?_unmarked read

theorem docTokens_written (text : List Char) (inner : Bool) : Written (docTokens text inner) := by
  intro name member
  obtain rfl : name = "doc" := by
    cases inner <;> simpa [docTokens] using member
  exact ⟨"doc".toList, [], rfl⟩

theorem written_single {token : Token} (named : ∀ text, token = .ident text → Lexed text) :
    Written [token] := fun text member => named text (List.mem_singleton.mp member).symm

theorem delimiter?_written {c : Char} {token : Token} (read : delimiter? c = some token) :
    Written [token] := by
  unfold delimiter? at read
  refine written_single ?_
  rintro text rfl
  split at read <;> cases read

theorem nextTokens?_written {cs rest : List Char} {tokens : List Token}
    (read : nextTokens? cs = some (tokens, rest)) : Written tokens := by
  unfold nextTokens? at read
  split at read
  · split at read
    · cases read
      exact docTokens_written _ _
    · cases read
  · split at read
    · cases read
    · split at read
      · next found =>
        cases read
        exact delimiter?_written found
      · split at read
        · cases read
          exact written_single (by simp)
        · split at read
          · split at read
            · obtain ⟨_, _, same⟩ := Option.map_eq_some_iff.mp read
              cases same
              exact written_single (by simp)
            · cases read
              exact written_single (by simp)
          · split at read
            · cases read
            · obtain ⟨⟨name, after⟩, found, same⟩ := Option.map_eq_some_iff.mp read
              cases same
              refine written_single ?_
              rintro _ ⟨⟩
              exact ⟨_, _, found⟩

theorem tokensFrom?_written {fuel : Nat} {cs : List Char} {tokens : List Token}
    (read : tokensFrom? fuel cs = some tokens) : Written tokens := by
  induction fuel generalizing cs tokens with
  | zero => cases read
  | succ fuel ih =>
    rw [tokensFrom?] at read
    split at read
    · cases read
      exact fun _ member => by cases member
    · obtain ⟨⟨first, rest⟩, front, read⟩ := Option.bind_eq_some_iff.mp read
      obtain ⟨more, behind, same⟩ := Option.bind_eq_some_iff.mp read
      cases same
      intro text member
      rcases List.mem_append.mp member with here | there
      · exact nextTokens?_written front text here
      · exact ih behind text there

/-- Every identifier that the lexer makes is as it is written in source. -/
theorem tokenize?_written {text : String} {tokens : List Token} (read : tokenize? text = some tokens) :
    Written tokens := by
  obtain ⟨all, cut, read⟩ := Option.bind_eq_some_iff.mp read
  split at read
  · cases read
    exact tokensFrom?_written cut
  · cases read

end Lexer

section Parsers

variable {α : Type}

/-- The parser leaves tokens that are as they are written. -/
abbrev Keeps (parser : Parser α) : Prop :=
  ⦃fun tokens => ⌜Written tokens⌝⦄ parser ⦃⇓? _ tokens => ⌜Written tokens⌝⦄

/-- What is left are tokens as they are written, and the result has the property. -/
structure Leaves (post : α → Prop) (a : α) (tokens : List Token) : Prop where
  written : Written tokens
  result : post a

/-- The parser leaves such tokens, and its result has the property. -/
abbrev Gives (parser : Parser α) (post : α → Prop) : Prop :=
  ⦃fun tokens => ⌜Written tokens⌝⦄ parser ⦃⇓? a tokens => ⌜Leaves post a tokens⌝⦄

/-- A triple about a parser, said of its runs. -/
theorem triple_iff {parser : Parser α} {post : α → List Token → Prop} :
    ⦃fun tokens => ⌜Written tokens⌝⦄ parser ⦃⇓? a tokens => ⌜post a tokens⌝⦄ ↔
      ∀ tokens a rest, Written tokens → parser tokens = some (a, rest) → post a rest := by
  constructor
  · intro triple tokens a rest written read
    have ended := triple tokens written
    simp only [wp, PredTrans.pushArg, StateT.run, read, PredTrans.apply] at ended
    exact ended
  · intro each tokens written
    rcases read : parser tokens with _ | ⟨a, rest⟩
    · simp only [wp, PredTrans.pushArg, StateT.run, read, PredTrans.apply]
      exact trivial
    · simp only [wp, PredTrans.pushArg, StateT.run, read, PredTrans.apply]
      exact each tokens a rest written read

theorem gives_iff {parser : Parser α} {post : α → Prop} :
    Gives parser post ↔ ∀ tokens a rest, Written tokens → parser tokens = some (a, rest) →
      Leaves post a rest := triple_iff

theorem keeps_iff {parser : Parser α} : Keeps parser ↔ ∀ tokens a rest, Written tokens →
    parser tokens = some (a, rest) → Written rest := triple_iff

theorem Gives.keeps {parser : Parser α} {post : α → Prop} (gives : Gives parser post) : Keeps parser :=
  keeps_iff.mpr fun tokens a rest written read => (gives_iff.mp gives tokens a rest written read).1

/-- A triple, used where its parser is run. -/
theorem Gives.run {parser : Parser α} {post : α → Prop} (gives : Gives parser post) {tokens : List Token}
    (written : Written tokens) :
    (wp⟦parser⟧ (PostCond.mayThrow fun a rest => ⌜Leaves post a rest⌝) tokens).down :=
  gives tokens written

theorem pure_gives {post : α → Prop} {a : α} (result : post a) : Gives (pure a : Parser α) post := by
  refine gives_iff.mpr fun tokens _ _ written read => ?_
  cases read
  exact ⟨written, result⟩

@[spec] theorem failure_gives (post : α → List Token → Prop) :
    ⦃fun _ => ⌜True⌝⦄ (failure : Parser α) ⦃⇓? a tokens => ⌜post a tokens⌝⦄ := by
  intro _ _
  exact trivial

theorem Keeps.gives {parser : Parser α} (keeps : Keeps parser) : Gives parser fun _ => True :=
  gives_iff.mpr fun tokens a rest written read =>
    ⟨keeps_iff.mp keeps tokens a rest written read, trivial⟩

/-- What comes after a parser may rely on its result. -/
theorem Gives.bind {β : Type} {parser : Parser α} {next : α → Parser β} {P : α → Prop}
    {post : β → Prop} (first : Gives parser P) (rest : ∀ a, P a → Gives (next a) post) :
    Gives (parser >>= next) post := by
  refine gives_iff.mpr fun tokens b final written read => ?_
  obtain ⟨⟨a, left⟩, front, behind⟩ := Option.bind_eq_some_iff.mp read
  obtain ⟨written', result⟩ := gives_iff.mp first tokens a left written front
  exact gives_iff.mp (rest a result) left b final written' behind

theorem Keeps.bind {β : Type} {parser : Parser α} {next : α → Parser β} {post : β → Prop}
    (first : Keeps parser) (rest : ∀ a, Gives (next a) post) : Gives (parser >>= next) post :=
  first.gives.bind fun a _ => rest a

@[spec] theorem discard_keeps {parser : Parser α} (keeps : Keeps parser) : Keeps (discard parser) := by
  refine keeps_iff.mpr fun tokens a rest written read => ?_
  obtain ⟨⟨result, left⟩, front, same⟩ := Option.bind_eq_some_iff.mp read
  cases same
  exact keeps_iff.mp keeps tokens result rest written front

/-- A parser keeps tokens written if it takes them from those at hand. -/
theorem keeps_of_subset {parser : Parser α}
    (part : ∀ tokens a rest, parser tokens = some (a, rest) → rest ⊆ tokens) : Keeps parser :=
  keeps_iff.mpr fun tokens a rest written read => written.of_subset (part tokens a rest read)

end Parsers

namespace Parser

section Primitives

theorem matchPunct_subset {mark : List Char} {tokens rest : List Token}
    (read : matchPunct mark tokens = some rest) : rest ⊆ tokens := by
  fun_induction matchPunct mark tokens with
  | case1 tokens =>
    cases read
    exact List.Subset.refl _
  | case2 =>
    cases read
    exact List.subset_cons_self _ _
  | case4 c more d joint after _ _ ih => exact List.subset_cons_of_subset _ (ih read)
  | case3 | case5 | case6 => cases read

@[spec] theorem peek_keeps (test : List Token → Bool) : Keeps (peek test) := by
  refine keeps_of_subset fun tokens a rest read => ?_
  cases read
  exact List.Subset.refl _

theorem peek_bind {β : Type} (test : List Token → Bool) (next : Bool → Parser β) (tokens : List Token) :
    (peek test >>= next) tokens = next (test tokens) tokens := rfl

@[spec] theorem guard_keeps (test : List Token → Bool) : Keeps (guard test) := by
  refine keeps_of_subset fun tokens a rest read => ?_
  unfold guard at read
  split at read
  · cases read
    exact List.Subset.refl _
  · cases read

@[spec] theorem skip_keeps : Keeps skip := by
  refine keeps_of_subset fun tokens a rest read => ?_
  cases tokens with
  | nil => cases read
  | cons token after =>
    cases read
    exact List.subset_cons_self _ _

@[spec] theorem punct_keeps (text : String) : Keeps (punct text) := by
  refine keeps_of_subset fun tokens a rest read => ?_
  obtain ⟨after, found, same⟩ := Option.map_eq_some_iff.mp read
  cases same
  exact matchPunct_subset found

@[spec] theorem tryPunct_keeps (text : String) : Keeps (tryPunct text) := by
  refine keeps_of_subset fun tokens a rest read => ?_
  unfold tryPunct at read
  split at read
  · next found =>
    cases read
    exact matchPunct_subset found
  · cases read
    exact List.Subset.refl _

@[spec] theorem word_keeps (text : String) : Keeps (word text) := by
  refine keeps_of_subset fun tokens a rest read => ?_
  unfold word at read
  split at read
  · split at read
    · cases read
      exact List.subset_cons_self _ _
    · cases read
  · cases read

@[spec] theorem tryWord_keeps (text : String) : Keeps (tryWord text) := by
  refine keeps_of_subset fun tokens a rest read => ?_
  unfold tryWord at read
  split at read
  · split at read
    · cases read
      exact List.subset_cons_self _ _
    · cases read
      exact List.Subset.refl _
  · cases read
    exact List.Subset.refl _

@[spec] theorem lifetime_keeps : Keeps lifetime := by
  refine keeps_of_subset fun tokens a rest read => ?_
  unfold lifetime at read
  split at read
  · cases read
    exact List.subset_cons_self _ _
  · cases read

@[spec] theorem literal_keeps : Keeps literal := by
  refine keeps_of_subset fun tokens a rest read => ?_
  unfold literal at read
  split at read
  · cases read
    exact List.subset_cons_self _ _
  · split at read
    · cases read
      exact List.subset_cons_self _ _
    · cases read
  · cases read
    exact List.subset_cons_of_subset _ (List.subset_cons_self _ _)
  · cases read
    exact List.subset_cons_of_subset _ (List.subset_cons_self _ _)
  · cases read

@[spec] theorem opening_keeps (d : Delimiter) : Keeps (opening d) := by
  refine keeps_of_subset fun tokens a rest read => ?_
  unfold opening at read
  split at read
  · split at read
    · cases read
      exact List.subset_cons_self _ _
    · cases read
  · cases read

@[spec] theorem closing_keeps (d : Delimiter) : Keeps (closing d) := by
  refine keeps_of_subset fun tokens a rest read => ?_
  unfold closing at read
  split at read
  · split at read
    · cases read
      exact List.subset_cons_self _ _
    · cases read
  · cases read

theorem contents_subset {depth : Nat} {tokens inside after : List Token}
    (read : contents depth tokens = some (inside, after)) : after ⊆ tokens := by
  fun_induction contents depth tokens generalizing inside after with
  | case1 => cases read
  | case2 | case4 | case5 =>
    obtain ⟨⟨inner, behind⟩, found, same⟩ := Option.map_eq_some_iff.mp read
    cases same
    rename_i ih
    exact List.subset_cons_of_subset _ (ih found)
  | case3 =>
    cases read
    exact List.subset_cons_self _ _

@[spec] theorem anyGroup_keeps : Keeps anyGroup := by
  refine keeps_of_subset fun tokens a rest read => ?_
  unfold anyGroup at read
  split at read
  · obtain ⟨⟨inner, behind⟩, found, same⟩ := Option.map_eq_some_iff.mp read
    cases same
    exact List.subset_cons_of_subset _ (contents_subset found)
  · cases read

@[spec] theorem anyWord_gives : Gives anyWord Lexed := by
  refine gives_iff.mpr fun tokens a rest written read => ?_
  unfold anyWord at read
  split at read
  · cases read
    exact ⟨written.of_subset (List.subset_cons_self _ _), written _ List.mem_cons_self⟩
  · cases read

@[spec] theorem ident_gives : Gives ident fun text => Lexed text ∧ isKeyword text = false := by
  refine gives_iff.mpr fun tokens a rest written read => ?_
  unfold ident at read
  split at read
  · split at read
    · cases read
    · next plain =>
      cases read
      refine ⟨written.of_subset (List.subset_cons_self _ _), written _ List.mem_cons_self, ?_⟩
      simpa using plain
  · cases read

end Primitives

section Loops

variable {α : Type} {post : α → Prop}

theorem repeatFrom_gives {step : α → Parser (α × Bool)}
    (each : ∀ state, post state → Gives (step state) fun result => post result.1) (fuel : Nat)
    {state : α} (start : post state) : Gives (repeatFrom step fuel state) post := by
  induction fuel generalizing state with
  | zero => exact gives_iff.mpr fun _ _ _ _ read => by cases read
  | succ fuel ih =>
    have first := each state start
    mvcgen [repeatFrom, first, ih]
    · next read => exact read.written
    · exact fun _ last => last.result
    · next read => exact ⟨read.written, read.result⟩

/-- What each step of a loop keeps holds at its end. -/
theorem repeating_gives {step : α → Parser (α × Bool)}
    (each : ∀ state, post state → Gives (step state) fun result => post result.1) {state : α}
    (start : post state) : Gives (repeating state step) post :=
  gives_iff.mpr fun tokens => gives_iff.mp (repeatFrom_gives each (tokens.length + 2) start) tokens

@[spec] theorem repeating_keeps {step : α → Parser (α × Bool)} (each : ∀ state, Keeps (step state))
    (state : α) : Keeps (repeating state step) := by
  have gives : Gives (repeating state step) fun _ => True :=
    repeating_gives (fun state _ => (each state).gives) trivial
  exact gives.keeps

theorem terminatedFrom_gives {item : Parser α} {separator : Parser Unit} (each : Gives item post)
    (between : Keeps separator) (fuel : Nat) :
    Gives (terminatedFrom item separator fuel) fun items => ∀ a ∈ items, post a := by
  induction fuel with
  | zero => exact gives_iff.mpr fun _ _ _ _ read => by cases read
  | succ fuel ih =>
    mvcgen [terminatedFrom, each, between, ih]
    · exact ⟨‹_›, by simp⟩
    · exact Leaves.written ‹_›
    · next one _ _ _ _ => exact ⟨‹_›, by simpa using one.result⟩
    · next one _ _ _ _ _ _ _ _ _ more =>
      exact ⟨more.written, List.forall_mem_cons.mpr ⟨one.result, more.result⟩⟩

theorem terminated_gives {item : Parser α} {separator : Parser Unit} (each : Gives item post)
    (between : Keeps separator) : Gives (terminated item separator) fun items => ∀ a ∈ items, post a :=
  gives_iff.mpr fun tokens =>
    gives_iff.mp (terminatedFrom_gives each between (tokens.length + 1)) tokens

theorem commas_gives {item : Parser α} (each : Gives item post) :
    Gives (commas item) fun items => ∀ a ∈ items, post a := terminated_gives each (punct_keeps _)

theorem toEnd_gives {item : Parser α} (each : Gives item post) :
    Gives (toEnd item) fun items => ∀ a ∈ items, post a :=
  terminated_gives each (keeps_of_subset fun _ _ _ read => by cases read; exact List.Subset.refl _)

@[spec] theorem commas_keeps {item : Parser α} (each : Keeps item) : Keeps (commas item) :=
  (commas_gives each.gives).keeps

@[spec] theorem toEnd_keeps {item : Parser α} (each : Keeps item) : Keeps (toEnd item) :=
  (toEnd_gives each.gives).keeps

theorem group_gives {content : Parser α} (inside : Gives content post) (d : Delimiter) :
    Gives (group d content) post := by
  mvcgen [group, inside]
  · exact Leaves.written ‹_›
  · exact ⟨‹_›, Leaves.result ‹_›⟩

@[spec] theorem group_keeps {content : Parser α} (inside : Keeps content) (d : Delimiter) :
    Keeps (group d content) := by
  mvcgen [group, inside]

end Loops

end Parser

end ApiSchema.Source
