import ApiSchema.Proofs.PrintedPaths
import ApiSchema.TypeExpr.Reading

/-! Types as they are printed. A legible type is one whose printed form is that of a path which is read as
the type; such a form is cut into tokens part by part, the path first and then its arguments. -/

namespace ApiSchema.TypeExpr

open Source
open Source.Parser
open Text (isIdentifierStart)

mutual

/-- The tokens of a printed type; `joint` says that a mark comes right after it. -/
def tokens (joint : Bool) : TypeExpr → List Token
  | primitive p => [.ident p.name]
  | named segments [] => pathTokens segments
  | named segments (arg :: rest) =>
    pathTokens segments ++ .punct '<' false :: (tokens true arg ++ (restTokens rest ++ [.punct '>' joint]))
  | array inner => [.ident "Vec", .punct '<' false] ++ tokens true inner ++ [.punct '>' joint]
  | map key value =>
    [.ident "HashMap", .punct '<' false] ++ tokens true key ++ [.punct ',' false] ++ tokens true value ++
      [.punct '>' joint]
  | pointer inner => [.ident "Box", .punct '<' false] ++ tokens true inner ++ [.punct '>' joint]
  | optional inner => [.ident "Option", .punct '<' false] ++ tokens true inner ++ [.punct '>' joint]
  | interface => [.ident "dyn", .ident "Any"]
  | param name => [.ident name]
  | function => [.ident "fn"]
  | resolved _ => []

def restTokens : List TypeExpr → List Token
  | [] => []
  | arg :: rest => .punct ',' false :: (tokens true arg ++ restTokens rest)

end

/-- A type whose printed form is that of a path which is read as the type, and `dyn Any`. -/
inductive Legible : TypeExpr → Prop where
  | any : Legible interface
  | path {first : String} {names : List String} {args : List TypeExpr} {type : TypeExpr}
      (words : ∀ name ∈ first :: names, PathWord name) (begins : first ≠ "try")
      (last : args ≠ [] → TakesArguments (first :: names)) (inner : ∀ arg ∈ args, Legible arg)
      (reading : ofPath [] (first :: names) args = type)
      (shown : type.display = (named (first :: names) args).display)
      (cut : ∀ joint, type.tokens joint = (named (first :: names) args).tokens joint) : Legible type

section Cutting

variable {type : TypeExpr} {rest : List Char}

theorem Legible.wordNext (legible : Legible type) : WordNext type.display.toList := by
  cases legible with
  | any => exact ⟨'d', "yn Any".toList, rfl, by decide⟩
  | @path first names args _ words _ _ _ _ shown _ =>
    have path : WordNext (Text.joinSegments (first :: names)).toList := by
      rw [joinSegments_cons]
      exact (words first List.mem_cons_self).1.wordNext.append _
    cases args with
    | nil =>
      rw [shown, display]
      exact path
    | cons arg more =>
      rw [shown, display]
      simp only [String.toList_append, List.append_assoc]
      exact path.append _

theorem cuts_interface (ends : Break rest) : Cuts "dyn Any".toList [.ident "dyn", .ident "Any"] rest := by
  have dyn : Cuts "dyn".toList [.ident "dyn"] ([' '] ++ "Any".toList ++ rest) :=
    cuts_word ⟨"dyn".toList, [], rfl⟩ (break_cons (by simp [breaks]) _)
  have any : Cuts "Any".toList [.ident "Any"] rest := cuts_word ⟨"Any".toList, [], rfl⟩ ends
  exact dyn.append ((cuts_blank ("Any".toList ++ rest)).append any)

/-- After an argument comes a comma or the angle that closes the arguments. -/
theorem rest_marked (more : List TypeExpr) (rest : List Char) :
    ∃ c ∈ marks, ∃ tail, (displayRest more).toList ++ '>' :: rest = c :: tail := by
  cases more with
  | nil => exact ⟨'>', by simp [marks], rest, rfl⟩
  | cons arg more =>
    refine ⟨',', by simp [marks], ' ' :: (arg.display.toList ++ ((displayRest more).toList ++ '>' :: rest)), ?_⟩
    rw [displayRest]
    simp

theorem cuts_argument {arg : TypeExpr}
    (each : ∀ rest, Break rest → Cuts arg.display.toList (arg.tokens (punctFollows rest)) rest)
    (more : List TypeExpr) (rest : List Char) :
    Cuts arg.display.toList (arg.tokens true) ((displayRest more).toList ++ '>' :: rest) := by
  obtain ⟨c, mark, tail, same⟩ := rest_marked more rest
  have cut := each (c :: tail) (break_cons (List.mem_cons_of_mem _ mark) tail)
  rw [punctFollows_mark mark] at cut
  rwa [same]

theorem cuts_rest {args : List TypeExpr}
    (each : ∀ arg ∈ args, ∀ rest, Break rest → Cuts arg.display.toList (arg.tokens (punctFollows rest)) rest)
    (rest : List Char) : Cuts (displayRest args).toList (restTokens args) ('>' :: rest) := by
  induction args with
  | nil => exact cuts_nil _
  | cons arg more ih =>
    obtain ⟨own, others⟩ := List.forall_mem_cons.mp each
    have argument := (cuts_argument own more rest).append (ih others)
    rw [displayRest, restTokens, String.toList_append, String.toList_append, List.append_assoc]
    exact (cuts_comma _).append argument

/-- A legible type is cut into its tokens. -/
theorem Legible.cuts (legible : Legible type) (ends : Break rest) :
    Cuts type.display.toList (type.tokens (punctFollows rest)) rest := by
  induction legible generalizing rest with
  | any => exact cuts_interface ends
  | @path first names args _ words _ _ inner _ shown cut ih =>
    rw [shown, cut]
    have lexed : ∀ name ∈ first :: names, Lexed name := fun name member => (words name member).1
    cases args with
    | nil =>
      rw [display, tokens]
      exact cuts_path lexed ends
    | cons arg more =>
      obtain ⟨here, _⟩ := List.forall_mem_cons.mp inner
      obtain ⟨own, others⟩ := List.forall_mem_cons.mp ih
      have arguments := (cuts_argument (fun _ ends => own ends) more rest).append
        (cuts_rest (fun arg member _ ends => others arg member ends) rest)
      have angles := cuts_angles (here.wordNext.append _) arguments
      have path := cuts_path lexed (break_cons (c := '<') (by simp [breaks, marks])
        (arg.display.toList ++ (displayRest more).toList ++ ['>'] ++ rest))
      have all := path.append angles
      have angle : "<".toList = ['<'] := rfl
      have close : ">".toList = ['>'] := rfl
      rw [display, tokens]
      simpa only [String.toList_append, List.append_assoc, angle, close, List.cons_append,
        List.nil_append] using all

end Cutting

end ApiSchema.TypeExpr
