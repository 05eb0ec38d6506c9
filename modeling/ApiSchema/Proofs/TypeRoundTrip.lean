import ApiSchema.Proofs.ReadingBack

/-! A type reference survives printing. What is read from a text consists of paths of written words, the
wrappers and any values; each of them is printed in a spelling that is read as the same type again. Only a
path that begins with the reserved word `try` is lost: it is accepted after a mark that the printed form
does not have. -/

namespace ApiSchema.TypeExpr

open Source

mutual

def parts : TypeExpr → List TypeExpr
  | named segments args => named segments args :: allParts args
  | array inner => array inner :: parts inner
  | map key value => map key value :: (parts key ++ parts value)
  | pointer inner => pointer inner :: parts inner
  | optional inner => optional inner :: parts inner
  | other => [other]

def allParts : List TypeExpr → List TypeExpr
  | [] => []
  | arg :: rest => parts arg ++ allParts rest

end

def firstWord? : TypeExpr → Option String
  | named segments _ => segments.head?
  | _ => none

theorem mem_allParts {part : TypeExpr} {args : List TypeExpr} :
    part ∈ allParts args ↔ ∃ arg ∈ args, part ∈ arg.parts := by
  induction args with
  | nil => simp [allParts]
  | cons arg rest ih => simp [allParts, ih]

theorem self_mem_parts (type : TypeExpr) : type ∈ type.parts := by
  cases type with
  | named | array | map | pointer | optional => exact List.mem_cons_self
  | primitive | param | interface | function | resolved => exact List.mem_singleton_self _

structure Printable (type : TypeExpr) : Prop where
  plain : function ∉ type.parts
  begins : ∀ part ∈ type.parts, part.firstWord? ≠ some "try"

theorem Printable.of_subset {outer inner : TypeExpr} (printable : outer.Printable)
    (inside : inner.parts ⊆ outer.parts) : inner.Printable :=
  ⟨fun member => printable.plain (inside member), fun part member => printable.begins part (inside member)⟩

section Spellings

variable {name : String} {args : List TypeExpr} {type inner key value : TypeExpr}

structure Leading (name : String) : Prop where
  word : PathWord name
  begins : name ≠ "try"
  applies : name ∉ Grammar.scopeWords

theorem leading_of_plain (read : identifier? name.toList = some (name, []))
    (plain : isKeyword name = false) : Leading name where
  word := ⟨⟨name.toList, [], read⟩, .inl plain⟩
  begins := by
    rintro rfl
    revert plain
    decide
  applies member := by
    simp only [Grammar.scopeWords, List.mem_cons, List.not_mem_nil, or_false] at member
    rcases member with rfl | rfl | rfl | rfl
    all_goals
      revert plain
      decide

/-- A wrapper or a scalar is printed as its word with the arguments. -/
theorem legible_spelled (leading : Leading name) (each : ∀ arg ∈ args, Legible arg)
    (reading : ofPath [] [name] args = type) (shown : type.display = (named [name] args).display)
    (cut : ∀ joint, type.tokens joint = (named [name] args).tokens joint) : Legible type := by
  refine .path (by simpa using leading.word) leading.begins (fun _ last final => ?_) each reading shown cut
  obtain rfl : name = last := by simpa using final
  exact leading.applies

theorem legible_single (leading : Leading name) (legible : Legible inner)
    (reading : ofPath [] [name] [inner] = type) (shown : type.display = name ++ "<" ++ inner.display ++ ">")
    (cut : ∀ joint, type.tokens joint =
      [.ident name, .punct '<' false] ++ inner.tokens true ++ [.punct '>' joint]) : Legible type := by
  refine legible_spelled leading (List.forall_mem_singleton.mpr legible) reading ?_ fun joint => ?_
  · simp [shown, display, displayRest, Text.joinSegments]
  · simp [cut, tokens, restTokens, pathTokens]

theorem Legible.optional (legible : Legible inner) : Legible (optional inner) :=
  have leading : Leading "Option" := leading_of_plain rfl (by decide)
  legible_single leading legible rfl rfl fun _ => rfl

theorem Legible.array (legible : Legible inner) : Legible (array inner) :=
  have leading : Leading "Vec" := leading_of_plain rfl (by decide)
  legible_single leading legible rfl rfl fun _ => rfl

theorem Legible.pointer (legible : Legible inner) : Legible (pointer inner) :=
  have leading : Leading "Box" := leading_of_plain rfl (by decide)
  legible_single leading legible rfl rfl fun _ => rfl

theorem Legible.map (one : Legible key) (other : Legible value) : Legible (map key value) := by
  have leading : Leading "HashMap" := leading_of_plain rfl (by decide)
  have each : ∀ arg ∈ [key, value], Legible arg := by simpa using ⟨one, other⟩
  refine legible_spelled leading each rfl ?_ fun joint => ?_
  · simp [display, displayRest, Text.joinSegments, String.append_assoc]
  · simp [tokens, restTokens, pathTokens]

/-- A built-in type is read out of its name. -/
theorem legible_primitive {p : Primitive} (builtin : p.isBuiltin = true) : Legible (primitive p) := by
  have leading : Leading p.name := by
    cases p
    case dateTime | date | uuid | url | decimal => cases builtin
    all_goals exact leading_of_plain rfl (by decide)
  refine legible_spelled leading (List.forall_mem_nil _) ?_ ?_ fun joint => ?_
  · simp [ofPath, Primitive.ofName?_name, builtin]
  · simp [display, Text.joinSegments]
  · simp [tokens, pathTokens]

end Spellings

section References

variable {segments : List String} {args : List TypeExpr} {name : String} {type : TypeExpr}

theorem ofName?_builtin {p : Primitive} (found : Primitive.ofName? name = some p) : p.isBuiltin = true := by
  unfold Primitive.ofName? at found
  split at found
  all_goals cases found
  all_goals rfl

/-- What a wrapper takes of its arguments is legible, so it is. -/
theorem legible_wrapper (each : ∀ arg ∈ args, arg.Printable → Legible arg)
    (wrapped : wrapper? name args = some type) : type.Printable → Legible type := by
  cases args with
  | nil => cases wrapped
  | cons first rest =>
    obtain ⟨here, later⟩ := List.forall_mem_cons.mp each
    refine wrapper?_cases (motive := fun type => type.Printable → Legible type) (fun printable => ?_)
      (fun printable => ?_) (fun printable => ?_) (fun printable => ?_) wrapped
    · exact (here (printable.of_subset (List.subset_cons_self _ _))).optional
    · exact (here (printable.of_subset (List.subset_cons_self _ _))).array
    · exact (here (printable.of_subset (List.subset_cons_self _ _))).pointer
    · have key : first.parts ⊆ (map first (rest.headD interface)).parts :=
        List.subset_cons_of_subset _ (List.subset_append_left _ _)
      have value : (rest.headD interface).parts ⊆ (map first (rest.headD interface)).parts :=
        List.subset_cons_of_subset _ (List.subset_append_right _ _)
      refine (here (printable.of_subset key)).map ?_
      cases rest with
      | nil => exact .any
      | cons second more => exact later second List.mem_cons_self (printable.of_subset value)

theorem legible_ofPath (names : ∀ name ∈ segments, PathWord name) (last : args ≠ [] → TakesArguments segments)
    (each : ∀ arg ∈ args, arg.Printable → Legible arg) (printable : (ofPath [] segments args).Printable) :
    Legible (ofPath [] segments args) := by
  refine ofPath_cases (motive := fun type => ofPath [] segments args = type → type.Printable → Legible type)
    ?plain (by simp) ?scalar (fun _ _ => .any)
    (fun _ _ wrapped _ => legible_wrapper each wrapped) rfl printable
  case plain =>
    intro reading printable
    cases segments with
    | nil => cases reading
    | cons first others =>
      have begins : first ≠ "try" := by
        rintro rfl
        exact printable.begins _ (self_mem_parts _) rfl
      have inner : ∀ arg ∈ args, Legible arg := fun arg member =>
        each arg member <| printable.of_subset fun part inside =>
          List.mem_cons_of_mem _ (mem_allParts.mpr ⟨arg, member, inside⟩)
      exact .path names begins last inner reading rfl fun _ => rfl
  case scalar => exact fun name p found _ _ => legible_primitive (ofName?_builtin found)

theorem mem_ofTerms {terms : List TypeTerm} {arg : TypeExpr} :
    arg ∈ ofTerms [] terms ↔ ∃ term ∈ terms, ofTerm [] term = arg := by
  induction terms with
  | nil => simp [ofTerms]
  | cons term rest ih => simp [ofTerms, ih, eq_comm]

/-- A type of written names is legible when it is printable. -/
theorem legible_ofTerm {term : TypeTerm} (written : term.Written)
    (printable : (ofTerm [] term).Printable) : Legible (ofTerm [] term) := by
  induction written with
  | @path shape segments args names last _ ih =>
    rw [ofTerm] at printable ⊢
    refine legible_ofPath names (fun given => last ?_) (fun arg member clean => ?_) printable
    · rintro rfl
      exact given rfl
    · obtain ⟨term, inside, rfl⟩ := mem_ofTerms.mp member
      exact ih term inside clean
  | reference _ ih =>
    rw [ofTerm] at printable ⊢
    exact (ih (printable.of_subset (List.subset_cons_self _ _))).pointer
  | sequence _ ih =>
    rw [ofTerm] at printable ⊢
    exact (ih (printable.of_subset (List.subset_cons_self _ _))).array
  | paren _ ih =>
    rw [ofTerm] at printable ⊢
    exact ih printable
  | function => exact absurd (self_mem_parts _) printable.plain
  | other => exact .any

/-- A type that is read from a text is read again from its printed form, unless a function or a path that
begins with `try` is inside it. -/
theorem printed_reads_back {text : String} (read : parse? text = some type) (plain : function ∉ type.parts)
    (begins : ∀ part ∈ type.parts, part.firstWord? ≠ some "try") : parse? type.display = some type := by
  obtain ⟨term, parsed, rfl⟩ := Option.map_eq_some_iff.mp read
  exact (legible_ofTerm (Source.parseType?_written parsed) ⟨plain, begins⟩).parse?

/-- A reference with a leading mark, a raw name, an array and a trait object, and how it is printed. -/
theorem printed_reads_back_nested :
    let type := pointer (map (named ["r#type"] []) (array (named ["web", "Post"] [primitive .u8, interface])))
    parse? "&::std::collections::BTreeMap<r#type, [web::Post<u8, dyn Copy>; 4]>" = some type ∧
      type.display = "Box<HashMap<r#type, Vec<web::Post<u8, dyn Any>>>>" ∧ parse? type.display = some type := by
  intro type
  have read : parse? "&::std::collections::BTreeMap<r#type, [web::Post<u8, dyn Copy>; 4]>" = some type := by
    decide +kernel
  have plain : function ∉ type.parts := by decide +kernel
  have begins : ∀ part ∈ type.parts, part.firstWord? ≠ some "try" := by decide +kernel
  exact ⟨read, by decide +kernel, printed_reads_back read plain begins⟩

/-- The reserved word begins a path after a mark that is not printed, and then the printed path is no type. -/
theorem reserved_path_lost :
    let type := named ["try", "Foo"] []
    parse? "::try::Foo" = some type ∧ function ∉ type.parts ∧ type.display = "try::Foo" ∧
      parse? type.display = none := by
  decide +kernel

end References

end ApiSchema.TypeExpr
