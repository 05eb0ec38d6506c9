import ApiSchema.Proofs.PackageTables

/-! Instances over the life of a registry. An instance is found again by its name, which is spelled
from the names of the arguments; those are fixed when they are first spelled, so the same arguments
lead to the same instance for good. Different arguments lead to different instances as far as their
spellings differ. Spellings can agree, since the marks that join the parts of a name may occur in the
parts; they do not if no part of a name runs on into another. -/

namespace ApiSchema.Registry

open TypeExpr (Bound isAtom)

/-- What an argument adds to the name of an instance, given what declarations are called. -/
def fragment (called : DeclId → String) : TypeExpr → String
  | .primitive p => p.name
  | .resolved id => flatName (called id)
  | .array inner => "array_" ++ fragment called inner
  | .map key value => "map_" ++ fragment called key ++ "_" ++ fragment called value
  | .pointer inner => fragment called inner
  | .optional inner => fragment called inner
  | .named segments _ => "_".intercalate segments
  | .param name => name
  | .interface => "any"
  | .function => "func"

def spelling (called : DeclId → String) : List TypeExpr → String
  | [] => ""
  | arg :: rest => "-" ++ fragment called arg ++ spelling called rest

def called (r : Registry) (id : DeclId) : String := answer (r, id)

section Spelling

variable {r r' : Registry}

theorem Grows.called_eq {id : DeclId} (grows : Grows (r.definitionName id).2 r') :
    r'.definitionName id = ((r.definitionName id).1, r') := by
  have named := grows.names _ _ (definitionName_named r id)
  simp only [definitionName, named]

/-- Once an argument was spelled, it is spelled the same way and nothing changes any more. -/
theorem argumentName_again : (arg : TypeExpr) → {r : Registry} → Grows (argumentName arg r).2 r' →
    argumentName arg r' = ((argumentName arg r).1, r') ∧
      (argumentName arg r).1 = fragment r'.called arg
  | .resolved id, r, grows => by
    have same := Grows.called_eq grows
    refine ⟨by simp only [argumentName, same], ?_⟩
    simp only [argumentName, fragment, called, answer, same]
  | .array inner, r, grows => by
    obtain ⟨again, spelled⟩ := argumentName_again inner grows
    refine ⟨by simp only [argumentName, again], ?_⟩
    simp only [argumentName, fragment, spelled]
  | .map key value, r, grows => by
    have between := (argumentName_grows value (argumentName key r).2).trans grows
    obtain ⟨againKey, spelledKey⟩ := argumentName_again key between
    obtain ⟨againValue, spelledValue⟩ := argumentName_again value grows
    refine ⟨by simp only [argumentName, againKey, againValue], ?_⟩
    simp only [argumentName, fragment, spelledKey, spelledValue]
  | .pointer inner, r, grows => argumentName_again inner grows
  | .optional inner, r, grows => argumentName_again inner grows
  | .primitive _, _, _ => ⟨rfl, rfl⟩
  | .named _ _, _, _ => ⟨rfl, rfl⟩
  | .param _, _, _ => ⟨rfl, rfl⟩
  | .interface, _, _ => ⟨rfl, rfl⟩
  | .function, _, _ => ⟨rfl, rfl⟩

theorem instanceName_again (args : List TypeExpr) (base : String)
    (grows : Grows (instanceName base args r).2 r') :
    instanceName base args r' = ((instanceName base args r).1, r') ∧
      (instanceName base args r).1 = base ++ spelling r'.called args := by
  induction args generalizing base r with
  | nil => exact ⟨rfl, by simp [instanceName, spelling]⟩
  | cons arg rest ih =>
    have between := (instanceName_grows rest (base ++ "-" ++ (argumentName arg r).1) _).trans grows
    obtain ⟨again, spelled⟩ := argumentName_again arg between
    obtain ⟨again', spelled'⟩ := ih _ grows
    refine ⟨by simp only [instanceName, again, again'], ?_⟩
    calc (instanceName base (arg :: rest) r).1
        = base ++ "-" ++ (argumentName arg r).1 ++ spelling r'.called rest := spelled'
      _ = base ++ spelling r'.called (arg :: rest) := by
          simp only [spelling, spelled, String.append_assoc]

end Spelling

/-- An instance is found under the name that its arguments were spelled to. -/
theorem instantiate_found {r r' : Registry} {g id : DeclId} {args : List TypeExpr}
    (made : r.instantiate g args = (.ok id, r')) :
    args.length = (r.get g).params.length ∧
      Grows (instanceName (r.get g).name args r).2 r' ∧
      r'.lookup? (r.get g).package (instanceName (r.get g).name args r).1 = some id := by
  simp only [instantiate] at made
  split at made
  · cases made
  · next arity =>
    refine ⟨by simpa using arity, ?_⟩
    split at made
    · next found =>
      cases made
      exact ⟨.refl _, found⟩
    · next absent =>
      cases made
      obtain ⟨last, _, lookup⟩ := insert_unused (d := instanceOf (r.get g) _ args) absent
      refine ⟨insert_grows _ _, (lookup _ _).trans ?_⟩
      rw [last]
      exact if_pos ⟨rfl, rfl⟩

/-- An instance that was made is found again, in a registry that has grown, and nothing changes. -/
theorem instantiate_again {r r' r'' : Registry} {g id : DeclId} {args : List TypeExpr}
    (known : g < r.size) (made : r.instantiate g args = (.ok id, r')) (grows : Grows r' r'') :
    r''.instantiate g args = (.ok id, r'') := by
  obtain ⟨arity, spelled, found⟩ := instantiate_found made
  have generic : r''.get g = r.get g :=
    ((instanceName_grows args _ r).trans (spelled.trans grows)).get_eq known
  obtain ⟨again, _⟩ := instanceName_again args _ (spelled.trans grows)
  have still := grows.types _ _ _ found
  simp only [instantiate, generic, arity, again, still, ne_eq, not_true_eq_false, if_false]

/-- An instance is found for good: after any calls the same arguments lead to it, the registry does
not change by asking, and the declaration of the instance is what it was. -/
theorem instance_kept (calls later : List Call) {g id : DeclId} {args : List TypeExpr}
    (known : g < (run calls empty).size)
    (made : ((run calls empty).instantiate g args).1 = .ok id) :
    let before := ((run calls empty).instantiate g args).2
    let after := run later before
    after.instantiate g args = (.ok id, after) ∧
      ∃ d, before.get? id = some d ∧ after.get? id = some d := by
  intro before after
  have grows : Grows before after := run_grows later before
  have made' : (run calls empty).instantiate g args = (.ok id, before) := Prod.ext made rfl
  refine ⟨instantiate_again known made' grows, ?_⟩
  obtain ⟨_, _, found⟩ := instantiate_found made'
  have orderly : Orderly before := (orderly_run calls).instantiate g args
  obtain ⟨d, own, _⟩ := (orderly.filed _ _ id).mp found
  exact ⟨d, own, grows.get?_eq own⟩

def listFile (path module name : String) : SourceFile :=
  { path, module
    items := [.struct ⟨[], name, ["T"]⟩
      (.named [⟨[], "items", true, .sequence (.path {} ["T"] [])⟩])] }

/-- Later a second `web.Post` comes, so that the first one has no claim on its full name any more;
the page of it has been named. -/
theorem instance_kept_page :
    let calls := [Call.index "crate::web" (unitFile "src/web.rs" "crate::web" "Post"),
      .index "crate::web" (listFile "src/page.rs" "crate::web" "Page")]
    let before := ((run calls empty).instantiate 1 [.resolved 0]).2
    let after := run [.index "ext::web" (unitFile "ext/src/web.rs" "ext::web" "Post"),
      .index "ext::web" (listFile "ext/src/page.rs" "ext::web" "Page")] before
    (1 < (run calls empty).size ∧ after.isAmbiguous "web.Post" = true ∧
        after.isAmbiguous "web.Page" = true) ∧
      after.instantiate 1 [.resolved 0] = (.ok 2, after) ∧
      ∃ d, before.get? 2 = some d ∧ after.get? 2 = some d := by
  intro calls before after
  have known : 1 < (run calls empty).size := by decide +kernel
  have made : ((run calls empty).instantiate 1 [.resolved 0]).1 = .ok 2 :=
    Steps.ok_of_toOption (by decide +kernel)
  exact ⟨⟨known, by decide +kernel, by decide +kernel⟩, instance_kept calls _ known made⟩

def atoms : TypeExpr → List TypeExpr
  | .array inner => atoms inner
  | .map key value => atoms key ++ atoms value
  | other => [other]

theorem atoms_of_isAtom {arg : TypeExpr} (single : isAtom arg = true) : atoms arg = [arg] := by
  cases arg <;> first | rfl | cases single

def marks : List Char := ['_', '-']

/-- A text is the other one, or goes on after it with a mark. -/
def RunsOn (first whole : String) : Prop :=
  first = whole ∨ ∃ mark ∈ marks, first.toList ++ [mark] <+: whole.toList

instance (first whole : String) : Decidable (RunsOn first whole) :=
  decidable_of_iff (first = whole ∨
    marks.any (fun mark => (first.toList ++ [mark]).isPrefixOf whole.toList) = true)
    (by simp only [RunsOn, List.any_eq_true, List.isPrefixOf_iff_prefix])

/-- No part of a name runs on into another, or is mistaken for the word for an array or a map. -/
structure Separated (called : DeclId → String) (parts : List TypeExpr) : Prop where
  words : ∀ a ∈ parts, ¬RunsOn "array" (fragment called a) ∧ ¬RunsOn "map" (fragment called a)
  apart : ∀ a ∈ parts, ∀ b ∈ parts, a ≠ b → ¬RunsOn (fragment called a) (fragment called b)

def Breaks (rest : List Char) : Prop := ∀ c, rest.head? = some c → c ∈ marks

/-- Of two texts that are cut out of the same one in front of a mark, one runs on from the other. -/
theorem runsOn_of_append_eq {u v : String} {t t' : List Char} (first : Breaks t) (second : Breaks t')
    (same : u.toList ++ t = v.toList ++ t') : RunsOn u v ∨ RunsOn v u := by
  rcases List.append_eq_append_iff.mp same with ⟨more, whole, rest⟩ | ⟨more, whole, rest⟩
  · left
    cases more with
    | nil => exact .inl (String.toList_inj.mp (by simpa using whole.symm))
    | cons c more =>
      refine .inr ⟨c, first c (by simp [rest]), ?_⟩
      rw [whole]
      exact ⟨more, by simp⟩
  · right
    cases more with
    | nil => exact .inl (String.toList_inj.mp (by simpa using whole.symm))
    | cons c more =>
      refine .inr ⟨c, second c (by simp [rest]), ?_⟩
      rw [whole]
      exact ⟨more, by simp⟩

/-- Nothing runs on into a word without marks. -/
theorem eq_of_runsOn {first word : String} (clear : ∀ mark ∈ marks, mark ∉ word.toList)
    (runs : RunsOn first word) : first = word := by
  rcases runs with same | ⟨mark, isMark, more⟩
  · exact same
  · exact absurd (more.subset (by simp)) (clear mark isMark)

theorem breaks_mark {mark : Char} (isMark : mark ∈ marks) (rest : List Char) :
    Breaks (mark :: rest) := by
  intro c head
  obtain rfl : mark = c := by simpa using head
  exact isMark

theorem array_fragment (called : DeclId → String) (inner : TypeExpr) :
    (fragment called (.array inner)).toList = "array".toList ++ '_' :: (fragment called inner).toList := by
  simp [fragment, String.toList_append]

theorem map_fragment (called : DeclId → String) (key value : TypeExpr) :
    (fragment called (.map key value)).toList = "map".toList ++
      '_' :: ((fragment called key).toList ++ '_' :: (fragment called value).toList) := by
  simp [fragment, String.toList_append]

section Decoding

variable {called : DeclId → String} {parts : List TypeExpr}

/-- A part that is not mistaken for a word is not followed as if it were the word. -/
theorem not_word {part word : String} {t rest : List Char} (clear : ∀ mark ∈ marks, mark ∉ word.toList)
    (apart : ¬RunsOn word part) (breaks : Breaks t) :
    part.toList ++ t ≠ word.toList ++ '_' :: rest := by
  intro same
  have joined : Breaks ('_' :: rest) := breaks_mark (by decide) rest
  rcases runsOn_of_append_eq breaks joined same with runs | runs
  · exact apart (.inl (eq_of_runsOn clear runs).symm)
  · exact apart runs

/-- Where parts are separated, an argument and what follows it can be read off their text. -/
theorem fragment_inj (separated : Separated called parts) {a b : TypeExpr} (boundA : Bound a)
    (boundB : Bound b) (inA : ∀ part ∈ atoms a, part ∈ parts) (inB : ∀ part ∈ atoms b, part ∈ parts)
    {t u : List Char} (breaksA : Breaks t) (breaksB : Breaks u)
    (same : (fragment called a).toList ++ t = (fragment called b).toList ++ u) : a = b ∧ t = u := by
  have arrayClear : ∀ mark ∈ marks, mark ∉ "array".toList := by simp [marks]
  have mapClear : ∀ mark ∈ marks, mark ∉ "map".toList := by simp [marks]
  induction boundA generalizing b t u with
  | @atom a single =>
    have memberA : a ∈ parts := inA a (by simp [atoms_of_isAtom single])
    cases boundB with
    | atom single' =>
      have memberB : b ∈ parts := inB b (by simp [atoms_of_isAtom single'])
      by_cases equal : a = b
      · subst equal
        exact ⟨rfl, List.append_cancel_left same⟩
      · rcases runsOn_of_append_eq breaksA breaksB same with runs | runs
        · exact absurd runs (separated.apart a memberA b memberB equal)
        · exact absurd runs (separated.apart b memberB a memberA (Ne.symm equal))
    | array _ =>
      rw [array_fragment, List.append_assoc] at same
      exact absurd same (not_word arrayClear (separated.words a memberA).1 breaksA)
    | map _ _ =>
      rw [map_fragment, List.append_assoc] at same
      exact absurd same (not_word mapClear (separated.words a memberA).2 breaksA)
  | @array inner _ ih =>
    cases boundB with
    | atom single' =>
      have memberB : b ∈ parts := inB b (by simp [atoms_of_isAtom single'])
      rw [array_fragment, List.append_assoc] at same
      exact absurd same.symm (not_word arrayClear (separated.words b memberB).1 breaksB)
    | array element =>
      simp only [array_fragment, List.append_assoc, List.append_cancel_left_eq, List.cons_append,
        List.cons.injEq, true_and] at same
      obtain ⟨rfl, rest⟩ := ih element inA inB breaksA breaksB same
      exact ⟨rfl, rest⟩
    | map _ _ => simp [array_fragment, map_fragment] at same
  | @map key value _ _ ihKey ihValue =>
    cases boundB with
    | atom single' =>
      have memberB : b ∈ parts := inB b (by simp [atoms_of_isAtom single'])
      rw [map_fragment, List.append_assoc] at same
      exact absurd same.symm (not_word mapClear (separated.words b memberB).2 breaksB)
    | array _ => simp [array_fragment, map_fragment] at same
    | map keys values =>
      simp only [map_fragment, List.append_assoc, List.append_cancel_left_eq, List.cons_append,
        List.cons.injEq, true_and] at same
      simp only [atoms, List.mem_append] at inA inB
      have underscore : '_' ∈ marks := by decide
      obtain ⟨rfl, rest⟩ := ihKey keys (fun part member => inA part (.inl member))
        (fun part member => inB part (.inl member)) (breaks_mark underscore _)
        (breaks_mark underscore _) same
      obtain ⟨rfl, rest'⟩ := ihValue values (fun part member => inA part (.inr member))
        (fun part member => inB part (.inr member)) breaksA breaksB (List.cons.inj rest).2
      exact ⟨rfl, rest'⟩

theorem spelling_breaks (args : List TypeExpr) : Breaks (spelling called args).toList := by
  cases args with
  | nil => simp [spelling, Breaks]
  | cons arg rest =>
    simp only [spelling, String.toList_append, List.append_assoc]
    exact breaks_mark (by decide) _

/-- Where parts are separated, lists of arguments are spelled apart. -/
theorem spelling_inj {args args' : List TypeExpr} (bound : ∀ arg ∈ args ++ args', Bound arg)
    (separated : Separated called ((args ++ args').flatMap atoms))
    (same : spelling called args = spelling called args') : args = args' := by
  generalize whole : (args ++ args').flatMap atoms = parts at separated
  have within : ∀ arg ∈ args ++ args', ∀ part ∈ atoms arg, part ∈ parts := by
    intro arg member part inside
    rw [← whole]
    exact List.mem_flatMap.mpr ⟨arg, member, inside⟩
  clear whole
  induction args generalizing args' with
  | nil =>
    cases args' with
    | nil => rfl
    | cons arg rest =>
      have texts := congrArg String.toList same
      simp [spelling, String.toList_append] at texts
  | cons arg rest ih =>
    cases args' with
    | nil =>
      have texts := congrArg String.toList same
      simp [spelling, String.toList_append] at texts
    | cons arg' rest' =>
      have texts := congrArg String.toList same
      simp only [spelling, String.toList_append, List.append_assoc, List.append_cancel_left_eq] at texts
      obtain ⟨rfl, others⟩ := fragment_inj separated (bound arg (by simp)) (bound arg' (by simp))
        (within arg (by simp)) (within arg' (by simp)) (spelling_breaks rest) (spelling_breaks rest')
        texts
      have fewer : ∀ other ∈ rest ++ rest', other ∈ arg :: rest ++ arg :: rest' := by
        intro other member
        rcases List.mem_append.mp member with left | right
        · simp [left]
        · simp [right]
      rw [ih (fun other member => bound other (fewer other member)) (String.toList_inj.mp others)
        (fun other member => within other (fewer other member))]

end Decoding

/-- Two lists of arguments lead to one instance, at whatever moments of a run, exactly if they are
spelled alike; where the parts of their names are separated, exactly if they are equal. -/
theorem instances_eq_iff (calls later : List Call) {g id id' : DeclId} {args args' : List TypeExpr}
    (known : g < (run calls empty).size)
    (first : ((run calls empty).instantiate g args).1 = .ok id)
    (second : ((run later ((run calls empty).instantiate g args).2).instantiate g args').1 = .ok id') :
    let last := ((run later ((run calls empty).instantiate g args).2).instantiate g args').2
    (id = id' ↔ spelling last.called args = spelling last.called args') ∧
      ((∀ arg ∈ args ++ args', Bound arg) →
        Separated last.called ((args ++ args').flatMap atoms) → (id = id' ↔ args = args')) := by
  intro last
  let r := run calls empty
  let made := (r.instantiate g args).2
  have between : Grows made (run later made) := run_grows later made
  have grows : Grows made last := between.trans (instantiate_grows _ _ _)
  obtain ⟨_, spelled, found⟩ := instantiate_found (r := r) (Prod.ext first rfl)
  obtain ⟨_, spelled', found'⟩ := instantiate_found (r := run later made) (Prod.ext second rfl)
  have generic : (run later made).get g = r.get g :=
    ((instantiate_grows r g args).trans between).get_eq known
  rw [(instanceName_again args _ (spelled.trans grows)).2] at found
  rw [(instanceName_again args' _ spelled').2, generic] at found'
  have found := grows.types _ _ _ found
  have orderly : Orderly last :=
    (((orderly_run calls).instantiate g args).run later).instantiate g args'
  have alike : id = id' ↔ spelling last.called args = spelling last.called args' := by
    constructor
    · rintro rfl
      have names := (orderly.get_of_lookup found).2.symm.trans (orderly.get_of_lookup found').2
      have texts := congrArg String.toList names
      simp only [String.toList_append, List.append_cancel_left_eq] at texts
      exact String.toList_inj.mp texts
    · intro same
      rw [same] at found
      exact Option.some.inj (found.symm.trans found')
  refine ⟨alike, fun bound separated => alike.trans ⟨spelling_inj bound separated, ?_⟩⟩
  rintro rfl
  rfl

/-- A list of lists and a list of tables, with another post that comes in between. -/
theorem instances_eq_iff_lists :
    let calls := [Call.index "crate::web" (unitFile "src/web.rs" "crate::web" "Post"),
      .index "crate::web" (listFile "src/page.rs" "crate::web" "Page")]
    let later := [Call.index "ext::web" (unitFile "ext/src/web.rs" "ext::web" "Post")]
    let args := [TypeExpr.array (.resolved 0)]
    let args' := [TypeExpr.map (.primitive .string) (.resolved 0)]
    let made := ((run calls empty).instantiate 1 args).2
    let last := ((run later made).instantiate 1 args').2
    (1 < (run calls empty).size ∧ (∀ arg ∈ args ++ args', Bound arg) ∧
        Separated last.called ((args ++ args').flatMap atoms)) ∧
      (2 = 4 ↔ spelling last.called args = spelling last.called args') ∧ (2 = 4 ↔ args = args') := by
  intro calls later args args' made last
  have known : 1 < (run calls empty).size := by decide +kernel
  have first : ((run calls empty).instantiate 1 args).1 = .ok 2 :=
    Steps.ok_of_toOption (by decide +kernel)
  have second : ((run later made).instantiate 1 args').1 = .ok 4 :=
    Steps.ok_of_toOption (by decide +kernel)
  have bound : ∀ arg ∈ args ++ args', Bound arg := by
    intro arg member
    rcases List.mem_cons.mp member with rfl | member
    · exact .array (.atom rfl)
    · rw [List.mem_singleton.mp member]
      exact .map (.atom rfl) (.atom rfl)
  have separated : Separated last.called ((args ++ args').flatMap atoms) :=
    ⟨by decide +kernel, by decide +kernel⟩
  have both := instances_eq_iff calls later known first second
  exact ⟨⟨known, bound, separated⟩, both.1, both.2 bound separated⟩

/-- The type `b_C` of the package `a` and the type `C` of the package `a_b` are spelled alike, so the
page of the one is handed out as the page of the other. -/
theorem instances_shared :
    let r := run [.index "crate::a" (unitFile "src/a.rs" "crate::a" "b_C"),
      .index "crate::a_b" (unitFile "src/a_b.rs" "crate::a_b" "C"),
      .index "crate::web" (listFile "src/web.rs" "crate::web" "Page")] empty
    let first := r.instantiate 2 [.resolved 0]
    let second := first.2.instantiate 2 [.resolved 1]
    ([TypeExpr.resolved 0] ≠ [.resolved 1] ∧ Bound (.resolved 0) ∧ Bound (.resolved 1)) ∧
      first.1.toOption = some 3 ∧ second.1.toOption = some 3 := by
  exact ⟨⟨by decide, .atom rfl, .atom rfl⟩, by decide +kernel, by decide +kernel⟩

end ApiSchema.Registry
