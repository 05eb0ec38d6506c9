import ApiSchema.Proofs.Repetition
import ApiSchema.Proofs.WrittenRules

/-! What source files and written references bring into a registry. All names in the imports of a file,
in the paths of its inner modules and in a reference are names that the parser gave back, so none has
the marks of instances and of parameters. Only the path under which a file is indexed comes from
elsewhere: it is enough that it has no mark of instances. -/

namespace ApiSchema

open Source (Item TypeTerm UseTree)
open Text (Undashed Unmarked)

namespace Text

/-- A path is cut at its separators, so all other characters of it stay. -/
theorem mem_segmentChars {c : Char} (apart : c ≠ ':') (cs : List Char) :
    (∃ piece ∈ segmentChars cs, c ∈ piece) ↔ c ∈ cs := by
  fun_induction segmentChars cs with
  | case1 => simp
  | case2 rest ih => simp [apart, ih]
  | case3 d rest _ none ih =>
    obtain ⟨first, more, same, _⟩ := segmentChars_first rest
    cases none.symm.trans same
  | case4 d rest _ piece pieces same ih =>
    rw [same] at ih
    simp only [List.mem_cons, exists_eq_or_imp] at ih ⊢
    rw [or_assoc, ih]

theorem segments_undashed {path : String} :
    (∀ segment ∈ segments path, Undashed segment) ↔ Undashed path := by
  rw [Undashed, ← mem_segmentChars (by decide : '-' ≠ ':') path.toList]
  simp [segments, Undashed]

theorem undashed_append {a b : String} (first : Undashed a) (second : Undashed b) : Undashed (a ++ b) := by
  rw [Undashed] at first second ⊢
  simp [first, second]

end Text

section Imports

theorem Import.snoc_unmarked {base : List String} {name : String}
    (clean : ∀ segment ∈ base, Unmarked segment) (here : Unmarked name) :
    ∀ segment ∈ base ++ [name], Unmarked segment := by
  intro segment member
  rcases List.mem_append.mp member with early | last
  · exact clean segment early
  · exact List.mem_singleton.mp last ▸ here

mutual

theorem Import.ofTree_unmarked : (tree : UseTree) → tree.Written → {base : List String} →
    (∀ segment ∈ base, Unmarked segment) → ∀ i ∈ Import.ofTree base tree, ∀ segment ∈ i.target,
      Unmarked segment
  | .path name rest, .path here inner, base, clean => by
    rw [Import.ofTree]
    exact Import.ofTree_unmarked rest inner (Import.snoc_unmarked clean here.unmarked)
  | .name name, .name here, base, clean => by
    have own := Import.snoc_unmarked clean here.unmarked
    by_cases self : name = "self"
    · subst self
      rw [Import.ofTree]
      cases base.getLast? with
      | none => simp
      | some last => simpa using clean
    · rw [Import.ofTree.eq_3 _ _ self]
      simpa using own
  | .rename name localName, .rename here, base, clean => by
    have own := Import.snoc_unmarked clean here.unmarked
    rw [Import.ofTree]
    intro i member
    rw [List.mem_singleton.mp member]
    dsimp only
    split
    · exact clean
    · exact own
  | .glob, _, base, clean => by
    simpa [Import.ofTree] using clean
  | .group trees, .group inner, base, clean => by
    rw [Import.ofTree]
    exact Import.ofTrees_unmarked trees inner clean

theorem Import.ofTrees_unmarked : (trees : List UseTree) → (∀ tree ∈ trees, tree.Written) →
    {base : List String} → (∀ segment ∈ base, Unmarked segment) →
      ∀ i ∈ Import.ofTrees base trees, ∀ segment ∈ i.target, Unmarked segment
  | [], _, base, clean => by simp [Import.ofTrees]
  | tree :: rest, each, base, clean => by
    rw [Import.ofTrees]
    intro i member
    rcases List.mem_append.mp member with first | later
    · exact Import.ofTree_unmarked tree (each tree List.mem_cons_self) clean i first
    · exact Import.ofTrees_unmarked rest (fun other inside => each other (List.mem_cons_of_mem _ inside))
        clean i later

end

theorem Import.ofItems_unmarked {items : List Item} (written : ∀ item ∈ items, item.Written) :
    ∀ i ∈ Import.ofItems items, ∀ segment ∈ i.target, Unmarked segment := by
  intro i member
  obtain ⟨item, inside, leaf⟩ := List.mem_flatMap.mp member
  cases written item inside with
  | imports inner => exact Import.ofTree_unmarked _ inner (by simp) i leaf
  | submodule | empty | struct | enum | typeAlias | trait | other => cases leaf

end Imports

section Files

/-- No module of a file has the mark of instances in its path if the file itself has not. -/
theorem SourceFile.HasModule.undashed {file : SourceFile} (module : Text.Undashed file.module)
    (items : ∀ item ∈ file.items, item.Written) {package : String} {inside : List Item}
    (has : file.HasModule package inside) : Text.Undashed package ∧ ∀ item ∈ inside, item.Written := by
  induction has with
  | outer => exact ⟨module, items⟩
  | inner _ member ih =>
    cases ih.2 _ member with
    | submodule here inner =>
      exact ⟨Text.undashed_append (Text.undashed_append ih.1 (by decide)) here.unmarked.undashed, inner⟩

/-- A file out of a text is without the mark of instances, if the path of its module is. -/
theorem SourceFile.undashed_of_parsed {file : SourceFile} {text : String}
    (module : Text.Undashed file.module) (parsed : Source.parseFile? text = some file.items) : file.Undashed := by
  intro package items has
  obtain ⟨home, each⟩ := has.undashed module (Source.parseFile?_written parsed)
  exact ⟨Text.segments_undashed.mpr home, fun i member segment inside =>
    (Import.ofItems_unmarked each i member segment inside).undashed⟩

end Files

namespace TypeExpr

section References

variable {params : List String}

theorem allNames_eq (args : List TypeExpr) : allNames args = args.flatMap names := by
  induction args with
  | nil => rfl
  | cons arg rest ih => rw [allNames, List.flatMap_cons, ih]

theorem names_wrapper {name : String} {args : List TypeExpr} {type : TypeExpr}
    (wrapped : wrapper? name args = some type) : type.names ⊆ allNames args :=
  allNames_eq args ▸ wrapper?_collects (fun _ => rfl) (fun _ => rfl) (fun _ => rfl) (fun _ _ => rfl) rfl wrapped

theorem names_ofPath (segments : List String) (args : List TypeExpr) :
    (ofPath params segments args).names ⊆ segments ++ allNames args :=
  ofPath_cases (motive := fun type => type.names ⊆ segments ++ allNames args) (List.Subset.refl _)
    (fun _ _ => List.nil_subset _) (fun _ _ _ => List.nil_subset _) (List.nil_subset _)
    fun _ _ wrapped => List.subset_append_of_subset_right _ (names_wrapper wrapped)

mutual

theorem names_ofTerm : (term : TypeTerm) → term.Written → ∀ name ∈ (ofTerm params term).names, Unmarked name
  | .path _ segments args, .path own _ inner => by
    intro name member
    rw [ofTerm] at member
    rcases List.mem_append.mp (names_ofPath _ _ member) with here | there
    · exact (own name here).1.unmarked
    · exact names_ofTerms args inner name there
  | .reference target, .reference inner => names_ofTerm target inner
  | .sequence element, .sequence inner => names_ofTerm element inner
  | .paren inner, .paren inside => names_ofTerm inner inside
  | .function, _ => by simp [ofTerm, names]
  | .other, _ => by simp [ofTerm, names]

theorem names_ofTerms : (terms : List TypeTerm) → (∀ term ∈ terms, term.Written) →
    ∀ name ∈ allNames (ofTerms params terms), Unmarked name
  | [], _ => by simp [ofTerms, allNames]
  | term :: rest, each => by
    rw [ofTerms, allNames]
    intro name member
    rcases List.mem_append.mp member with first | later
    · exact names_ofTerm term (each term List.mem_cons_self) name first
    · exact names_ofTerms rest (fun arg inside => each arg (List.mem_cons_of_mem _ inside)) name later

end

/-- The names in the paths of a reference are written ones. -/
theorem namesIn_unmarked (reference : String) : ∀ name ∈ namesIn reference, Unmarked name := by
  unfold namesIn parse?
  cases read : Source.parseType? (normalizeReference reference) with
  | none => simp
  | some term => exact names_ofTerm term (Source.parseType?_written read)

end References

end TypeExpr

end ApiSchema
