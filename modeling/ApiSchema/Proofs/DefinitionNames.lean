import ApiSchema.Proofs.RegistryGrowth

/-! Names of definitions over the life of a registry. A name is fixed when it is asked for first,
also on the way to the name of an instance, and says either the full name of its declaration or,
while that is ambiguous or another's, the name with the whole package path. Two full names never
agree, however far apart they were fixed. `definitionName_eq_iff` says which names do. -/

namespace ApiSchema.Registry

inductive Call where
  | index (package : String) (file : SourceFile)
  | insert (d : Declaration)
  | instantiate (id : DeclId) (args : List TypeExpr)
  | definitionName (id : DeclId)

abbrev Ask := Registry × DeclId

def argumentAsks : TypeExpr → Registry → List Ask
  | .resolved id, r => [(r, id)]
  | .array inner, r => argumentAsks inner r
  | .pointer inner, r => argumentAsks inner r
  | .optional inner, r => argumentAsks inner r
  | .map key value, r => argumentAsks key r ++ argumentAsks value (argumentName key r).2
  | _, _ => []

def instanceAsks : List TypeExpr → Registry → List Ask
  | [], _ => []
  | arg :: rest, r => argumentAsks arg r ++ instanceAsks rest (argumentName arg r).2

namespace Call

def apply : Call → Registry → Registry
  | index package file, r => (r.index package file).2
  | insert d, r => (r.insert d).2
  | instantiate id args, r => (r.instantiate id args).2
  | definitionName id, r => (r.definitionName id).2

def asks : Call → Registry → List Ask
  | index _ _, _ => []
  | insert _, _ => []
  | instantiate id args, r =>
    if args.length ≠ (r.get id).params.length then [] else instanceAsks args r
  | definitionName id, r => [(r, id)]

end Call

def asks : List Call → Registry → List Ask
  | [], _ => []
  | call :: rest, r => call.asks r ++ asks rest (call.apply r)

def answer (ask : Ask) : String := (ask.1.definitionName ask.2).1

def Unambiguous (r : Registry) (id : DeclId) : Prop := r.lookupGlobal? (r.get id).fullName = some id

def FirstAsk (calls : List Call) (id : DeclId) (r : Registry) : Prop :=
  (r, id) ∈ asks calls empty ∧ r.names.lookup id = none

/-- Of two declarations at least one gets its path name, and that is also what the other gets. -/
def Clash (r : Registry) (a : DeclId) (r' : Registry) (b : DeclId) : Prop :=
  (r.Unambiguous a ∧ ¬r'.Unambiguous b ∧ (r.get a).fullName = (r'.get b).pathName) ∨
  (¬r.Unambiguous a ∧ r'.Unambiguous b ∧ (r.get a).pathName = (r'.get b).fullName) ∨
  (¬r.Unambiguous a ∧ ¬r'.Unambiguous b ∧ (r.get a).pathName = (r'.get b).pathName)

theorem index_names (r : Registry) (package : String) (file : SourceFile) :
    (r.index package file).2.names = r.names := by
  have opening : OpeningKeeps (fun r' => r'.names = r.names) (fun _ _ => True) file.path :=
    ⟨fun _ same => (openScope_frame _ _ _ _).names.trans same, fun _ _ => trivial⟩
  exact opening.index trivial fun _ => rfl

theorem answer_of_unnamed {r : Registry} {id : DeclId} (unnamed : r.names.lookup id = none) :
    answer (r, id) = r.freshName id := by
  simp [answer, definitionName, unnamed]

theorem unnamed_after {r : Registry} {id other : DeclId} (apart : other ≠ id)
    (unnamed : r.names.lookup other = none) :
    (r.definitionName id).2.names.lookup other = none := by
  unfold definitionName
  split
  · exact unnamed
  · exact (lookup_cons_of_ne _ _ apart).trans unnamed

/-- The registry goes from the first state to the last and answers the requests on the way; only
answers add names. -/
inductive AnswersAsks : Registry → List Ask → Registry → Prop where
  | unasked {r r' : Registry} (grows : Grows r r') (names : r'.names = r.names) : AnswersAsks r [] r'
  | ask {r s r' : Registry} {id : DeclId} {rest : List Ask} (grows : Grows r s)
      (names : s.names = r.names) (later : AnswersAsks (s.definitionName id).2 rest r') :
      AnswersAsks r ((s, id) :: rest) r'

namespace AnswersAsks

variable {r r' r'' : Registry} {first second : List Ask} {s t : Registry} {a b : DeclId}

theorem one (r : Registry) (id : DeclId) : AnswersAsks r [(r, id)] (r.definitionName id).2 :=
  .ask (.refl r) rfl (.unasked (.refl _) rfl)

theorem after_unasked (grows : Grows r r') (names : r'.names = r.names)
    (answers : AnswersAsks r' first r'') : AnswersAsks r first r'' := by
  cases answers with
  | unasked grows' names' => exact .unasked (grows.trans grows') (names'.trans names)
  | ask grows' names' later => exact .ask (grows.trans grows') (names'.trans names) later

theorem append (left : AnswersAsks r first r') (right : AnswersAsks r' second r'') :
    AnswersAsks r (first ++ second) r'' := by
  induction left with
  | unasked grows names => exact right.after_unasked grows names
  | ask grows names _ ih => exact .ask grows names (ih right)

theorem grows (answers : AnswersAsks r first r') : Grows r r' := by
  induction answers with
  | unasked grows _ => exact grows
  | ask grows _ _ ih => exact grows.trans ((definitionName_grows _ _).trans ih)

theorem grows_to (answers : AnswersAsks r first r') (asked : (s, a) ∈ first) : Grows r s := by
  induction answers with
  | unasked => cases asked
  | ask grows _ _ ih =>
    rcases List.mem_cons.mp asked with same | member
    · cases same
      exact grows
    · exact grows.trans ((definitionName_grows _ _).trans (ih member))

/-- Of two moments of a run one comes before the other. -/
theorem comparable (answers : AnswersAsks r first r') (askedA : (s, a) ∈ first) (askedB : (t, b) ∈ first) :
    Grows s t ∨ Grows t s := by
  induction answers with
  | unasked => cases askedA
  | ask _ _ later ih =>
    rcases List.mem_cons.mp askedA with sameA | memberA
    · cases sameA
      rcases List.mem_cons.mp askedB with sameB | memberB
      · cases sameB
        exact .inl (.refl _)
      · exact .inl ((definitionName_grows _ _).trans (later.grows_to memberB))
    · rcases List.mem_cons.mp askedB with sameB | memberB
      · cases sameB
        exact .inr ((definitionName_grows _ _).trans (later.grows_to memberA))
      · exact ih memberA memberB

/-- An answer stays for the rest of the run. -/
theorem named (answers : AnswersAsks r first r') (asked : (s, a) ∈ first) :
    r'.names.lookup a = some (answer (s, a)) := by
  induction answers with
  | unasked => cases asked
  | ask _ _ later ih =>
    rcases List.mem_cons.mp asked with same | member
    · cases same
      exact later.grows.names _ _ (definitionName_named _ _)
    · exact ih member

/-- A declaration that had no name and is asked for is asked for a first time. -/
theorem first_ask (answers : AnswersAsks r first r') (unnamed : r.names.lookup a = none)
    (asked : (s, a) ∈ first) : ∃ t, (t, a) ∈ first ∧ t.names.lookup a = none := by
  induction answers with
  | unasked => cases asked
  | @ask r t r' id rest _ names later ih =>
    by_cases same : a = id
    · subst same
      exact ⟨t, List.mem_cons_self, names ▸ unnamed⟩
    · have member : (s, a) ∈ rest := by
        rcases List.mem_cons.mp asked with head | member
        · exact absurd (congrArg Prod.snd head) same
        · exact member
      obtain ⟨u, found, free⟩ := ih (unnamed_after same (names ▸ unnamed)) member
      exact ⟨u, List.mem_cons_of_mem _ found, free⟩

end AnswersAsks

theorem argumentName_answersAsks :
    (arg : TypeExpr) → (r : Registry) → AnswersAsks r (argumentAsks arg r) (argumentName arg r).2
  | .resolved id, r => .one r id
  | .array inner, r => argumentName_answersAsks inner r
  | .pointer inner, r => argumentName_answersAsks inner r
  | .optional inner, r => argumentName_answersAsks inner r
  | .map key value, r => (argumentName_answersAsks key r).append (argumentName_answersAsks value _)
  | .primitive _, r => .unasked (.refl r) rfl
  | .named _ _, r => .unasked (.refl r) rfl
  | .param _, r => .unasked (.refl r) rfl
  | .interface, r => .unasked (.refl r) rfl
  | .function, r => .unasked (.refl r) rfl

theorem instanceName_answersAsks (args : List TypeExpr) (base : String) (r : Registry) :
    AnswersAsks r (instanceAsks args r) (instanceName base args r).2 := by
  induction args generalizing base r with
  | nil => exact .unasked (.refl r) rfl
  | cons arg rest ih => exact (argumentName_answersAsks arg r).append (ih _ _)

theorem Call.answersAsks (call : Call) (r : Registry) : AnswersAsks r (call.asks r) (call.apply r) := by
  cases call with
  | index package file => exact .unasked (index_grows r package file) (index_names r package file)
  | insert d => exact .unasked (insert_grows r d) (insert_frame r d).names
  | definitionName id => exact .one r id
  | instantiate id args =>
    simp only [asks, apply, Registry.instantiate]
    split
    · exact .unasked (.refl r) rfl
    · have spelled := instanceName_answersAsks args (r.get id).name r
      split
      · exact spelled
      · have inserted : AnswersAsks (instanceName (r.get id).name args r).2 []
            ((instanceName (r.get id).name args r).2.insert
              (instanceOf (r.get id) (instanceName (r.get id).name args r).1 args)).2 :=
          .unasked (insert_grows _ _) (insert_frame _ _).names
        simpa using spelled.append inserted

/-- A run answers its requests one after another. -/
theorem run_answersAsks (calls : List Call) (r : Registry) :
    ∃ r', AnswersAsks r (asks calls r) r' := by
  induction calls generalizing r with
  | nil => exact ⟨r, .unasked (.refl r) rfl⟩
  | cons call rest ih =>
    obtain ⟨r', later⟩ := ih (call.apply r)
    exact ⟨r', (call.answersAsks r).append later⟩

/-- A key that was entered for one declaration is never entered for another. -/
theorem Grows.entered_unique {r r' : Registry} (grows : Grows r r') {key : String} {a b : DeclId}
    (before : r.lookupGlobal? key = some a) (after : r'.lookupGlobal? key = some b) : a = b := by
  rcases grows.entered key a before with still | gone
  · rw [still] at after
    exact Option.some.inj after
  · rw [gone.2] at after
    cases after

theorem freshName_of_unambiguous {r : Registry} {id : DeclId} (plain : r.Unambiguous id) :
    r.freshName id = (r.get id).fullName := if_pos plain

theorem freshName_of_ambiguous {r : Registry} {id : DeclId} (shared : ¬r.Unambiguous id) :
    r.freshName id = (r.get id).pathName := if_neg shared

theorem freshName_eq_iff {s t : Registry} {a b : DeclId} (apart : a ≠ b)
    (ordered : Grows s t ∨ Grows t s) : s.freshName a = t.freshName b ↔ Clash s a t b := by
  by_cases plainA : s.Unambiguous a <;> by_cases plainB : t.Unambiguous b
  · have different : (s.get a).fullName ≠ (t.get b).fullName := by
      intro same
      rw [Unambiguous, same] at plainA
      rcases ordered with grows | grows
      · exact apart (grows.entered_unique plainA plainB)
      · exact apart (grows.entered_unique plainB plainA).symm
    simp [Clash, plainA, plainB, freshName_of_unambiguous, different]
  · simp [Clash, plainA, plainB, freshName_of_unambiguous, freshName_of_ambiguous]
  · simp [Clash, plainA, plainB, freshName_of_unambiguous, freshName_of_ambiguous]
  · simp [Clash, plainA, plainB, freshName_of_ambiguous]

theorem asks_ordered {calls : List Call} {s t : Registry} {a b : DeclId}
    (askedA : (s, a) ∈ asks calls empty) (askedB : (t, b) ∈ asks calls empty) :
    Grows s t ∨ Grows t s := by
  obtain ⟨last, answers⟩ := run_answersAsks calls empty
  exact answers.comparable askedA askedB

/-- Asked again, a declaration has the name it was given first. -/
theorem FirstAsk.answer_eq {calls : List Call} {s t : Registry} {id : DeclId}
    (first : FirstAsk calls id s) (asked : (t, id) ∈ asks calls empty) :
    answer (t, id) = s.freshName id := by
  obtain ⟨last, answers⟩ := run_answersAsks calls empty
  have before := answers.named first.1
  have again := answers.named asked
  rw [before] at again
  rw [← answer_of_unnamed first.2]
  exact (Option.some.inj again).symm

theorem firstAsk_of_asked {calls : List Call} {s : Registry} {id : DeclId}
    (asked : (s, id) ∈ asks calls empty) : ∃ first, FirstAsk calls id first := by
  obtain ⟨last, answers⟩ := run_answersAsks calls empty
  exact answers.first_ask rfl asked

/-- Two declarations, each asked for at any moment of a run, have the same name exactly if their
names clashed when each was asked for first. -/
theorem definitionName_eq_iff (calls : List Call) {s t : Registry} {a b : DeclId} (apart : a ≠ b)
    (askedA : (s, a) ∈ asks calls empty) (askedB : (t, b) ∈ asks calls empty) :
    (s.definitionName a).1 = (t.definitionName b).1 ↔
      ∃ s₀ t₀, FirstAsk calls a s₀ ∧ FirstAsk calls b t₀ ∧ Clash s₀ a t₀ b := by
  change answer (s, a) = answer (t, b) ↔ _
  constructor
  · intro same
    obtain ⟨s₀, firstA⟩ := firstAsk_of_asked askedA
    obtain ⟨t₀, firstB⟩ := firstAsk_of_asked askedB
    rw [firstA.answer_eq askedA, firstB.answer_eq askedB] at same
    exact ⟨s₀, t₀, firstA, firstB, (freshName_eq_iff apart (asks_ordered firstA.1 firstB.1)).mp same⟩
  · rintro ⟨s₀, t₀, firstA, firstB, clash⟩
    rw [firstA.answer_eq askedA, firstB.answer_eq askedB]
    exact (freshName_eq_iff apart (asks_ordered firstA.1 firstB.1)).mpr clash

def unitStruct (package name : String) : Declaration :=
  { (default : Declaration) with package, name, body := .struct [] }

/-- Both declarations share a full name when they are asked for, so both get path names. -/
theorem definitionName_eq_iff_models :
    let r := ((empty.insert (unitStruct "crate::a::models" "User")).2.insert
      (unitStruct "crate::b::models" "User")).2
    let calls := [Call.insert (unitStruct "crate::a::models" "User"),
      .insert (unitStruct "crate::b::models" "User"), .definitionName 0, .definitionName 1]
    (0 ≠ 1 ∧ (r, 0) ∈ asks calls empty ∧ ((r.definitionName 0).2, 1) ∈ asks calls empty) ∧
      ((r.definitionName 0).1 = ((r.definitionName 0).2.definitionName 1).1 ↔
        ∃ s₀ t₀, FirstAsk calls 0 s₀ ∧ FirstAsk calls 1 t₀ ∧ Clash s₀ 0 t₀ 1) := by
  intro r calls
  have askedA : (r, 0) ∈ asks calls empty := .head _
  have askedB : ((r.definitionName 0).2, 1) ∈ asks calls empty := .tail _ (.head _)
  exact ⟨⟨by decide, askedA, askedB⟩, definitionName_eq_iff calls (by decide) askedA askedB⟩

def unitFile (path module name : String) : SourceFile :=
  { path, module, items := [.struct ⟨[], name, []⟩ .unit] }

/-- A name that was free when it was given is the path name of a declaration that comes later. -/
theorem definitionName_shared :
    let calls := [Call.index "crate::web" (unitFile "src/web.rs" "crate::web" "Post"),
      .definitionName 0, .index "web" (unitFile "web/src/lib.rs" "web" "Post"), .definitionName 1]
    (asks calls empty).map Prod.snd = [0, 1] ∧
      (asks calls empty).map answer = ["web.Post", "web.Post"] := by
  decide +kernel

end ApiSchema.Registry
