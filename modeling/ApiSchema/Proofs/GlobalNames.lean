import ApiSchema.Proofs.DefinitionNames

/-! Who is found under a global key. A declaration has its full name as a key, and a generic one
the name with its parameters too. Keys are entered one declaration after another: the first to come
is found, later ones of its package change nothing, and one of another package makes the key
ambiguous for good. `global_keys_arbitrated` says the same of a whole run without its order: only
which declarations have the key decides. -/

namespace ApiSchema.Registry

def HasKey (d : Declaration) (key : String) : Prop :=
  key = d.fullName ∨ (d.isGeneric = true ∧ key = d.parametrizedName)

theorem mem_globalKeys {d : Declaration} {key : String} : key ∈ globalKeys d ↔ HasKey d key := by
  unfold globalKeys HasKey
  split
  · next generic => simp [generic]
  · next plain => simp [plain]

def Holds (r : Registry) (key : String) (id : DeclId) : Prop :=
  ∃ d, r.get? id = some d ∧ HasKey d key

theorem Holds.registered {r : Registry} {key : String} {id : DeclId} (holds : r.Holds key id) :
    id < r.size := by
  obtain ⟨d, found, _⟩ := holds
  exact (List.getElem?_eq_some_iff.mp found).1

/-- What the registry says of a key, if just these declarations were entered under it so far. -/
structure Arbitrated (r : Registry) (key : String) (entered : DeclId → Prop) : Prop where
  ambiguous : r.isAmbiguous key = true → r.lookupGlobal? key = none ∧
    ∃ a b, entered a ∧ entered b ∧ (r.get a).package ≠ (r.get b).package
  free : r.isAmbiguous key = false → r.lookupGlobal? key = none → ∀ id, ¬entered id
  held : ∀ id, r.lookupGlobal? key = some id → entered id ∧
    ∀ other, entered other → id ≤ other ∧ (r.get other).package = (r.get id).package

namespace Arbitrated

variable {r r' : Registry} {key : String} {entered entered' : DeclId → Prop}

theorem congr (arbitrated : Arbitrated r key entered) (same : ∀ id, entered id ↔ entered' id) :
    Arbitrated r key entered' := by
  have equal : entered = entered' := funext fun id => propext (same id)
  exact equal ▸ arbitrated

/-- Nothing that the key depends on has changed. -/
theorem carry (arbitrated : Arbitrated r key entered)
    (ambiguous : r'.isAmbiguous key = r.isAmbiguous key)
    (global : r'.lookupGlobal? key = r.lookupGlobal? key)
    (get : ∀ id, entered id → r'.get id = r.get id) : Arbitrated r' key entered where
  ambiguous shared := by
    obtain ⟨absent, a, b, first, second, apart⟩ := arbitrated.ambiguous (ambiguous ▸ shared)
    refine ⟨global.trans absent, a, b, first, second, ?_⟩
    rw [get a first, get b second]
    exact apart
  free clear absent := arbitrated.free (ambiguous ▸ clear) (global ▸ absent)
  held id found := by
    obtain ⟨own, least⟩ := arbitrated.held id (global ▸ found)
    refine ⟨own, fun other member => ?_⟩
    rw [get id own, get other member]
    exact least other member

theorem ambiguous_iff (arbitrated : Arbitrated r key entered) : r.isAmbiguous key = true ↔
    ∃ a b, entered a ∧ entered b ∧ (r.get a).package ≠ (r.get b).package := by
  refine ⟨fun shared => (arbitrated.ambiguous shared).2, ?_⟩
  rintro ⟨a, b, first, second, apart⟩
  cases clear : r.isAmbiguous key with
  | true => rfl
  | false =>
    cases found : r.lookupGlobal? key with
    | none => exact absurd first (arbitrated.free clear found a)
    | some id =>
      have least := (arbitrated.held id found).2
      exact absurd ((least a first).2.trans (least b second).2.symm) apart

theorem found_iff (arbitrated : Arbitrated r key entered) (id : DeclId) :
    r.lookupGlobal? key = some id ↔ entered id ∧
      ∀ other, entered other → id ≤ other ∧ (r.get other).package = (r.get id).package := by
  refine ⟨arbitrated.held id, ?_⟩
  rintro ⟨own, least⟩
  cases found : r.lookupGlobal? key with
  | none =>
    cases clear : r.isAmbiguous key with
    | false => exact absurd own (arbitrated.free clear found id)
    | true =>
      obtain ⟨_, a, b, first, second, apart⟩ := arbitrated.ambiguous clear
      exact absurd ((least a first).2.trans (least b second).2.symm) apart
  | some other =>
    obtain ⟨member, before⟩ := arbitrated.held other found
    have same : other = id := Nat.le_antisymm (before id own).1 (least other member).1
    rw [same]

end Arbitrated

theorem registerGlobal_get (r : Registry) (key : String) (id other : DeclId) :
    (r.registerGlobal key id).get other = r.get other := by
  obtain ⟨global, ambiguous, same⟩ := registerAll_frame [key] id r
  simp only [List.foldl_cons, List.foldl_nil] at same
  rw [same]
  rfl

/-- Entering a declaration under one key leaves the others alone. -/
theorem registerGlobal_of_ne {r : Registry} {key other : String} (id : DeclId) (apart : key ≠ other) :
    (r.registerGlobal key id).isAmbiguous other = r.isAmbiguous other ∧
      (r.registerGlobal key id).lookupGlobal? other = r.lookupGlobal? other := by
  unfold registerGlobal
  split
  · exact ⟨rfl, rfl⟩
  · split
    · simp [isAmbiguous, lookupGlobal?, apart]
    · split
      · exact ⟨rfl, rfl⟩
      · simp [isAmbiguous, lookupGlobal?, apart, Ne.symm apart]

section Step

variable {r : Registry} {key : String} {entered : DeclId → Prop}

/-- The key after a further declaration, which comes last, was entered under it. -/
theorem registerGlobal_arbitrated {id : DeclId} (arbitrated : Arbitrated r key entered)
    (last : ∀ other, entered other → other ≤ id) :
    Arbitrated (r.registerGlobal key id) key fun other => entered other ∨ other = id := by
  unfold registerGlobal
  split
  · next shared =>
    obtain ⟨absent, a, b, first, second, apart⟩ := arbitrated.ambiguous shared
    refine ⟨fun _ => ⟨absent, a, b, .inl first, .inl second, apart⟩, ?_, ?_⟩
    · intro clear
      rw [shared] at clear
      cases clear
    · intro other found
      rw [absent] at found
      cases found
  · next clear =>
    have clear : r.isAmbiguous key = false := by simpa using clear
    split
    · next absent =>
      have none := arbitrated.free clear absent
      refine ⟨fun shared => ?_, fun _ absent => ?_, fun other found => ?_⟩
      · have shared : r.isAmbiguous key = true := shared
        rw [clear] at shared
        cases shared
      · simp [lookupGlobal?] at absent
      · obtain rfl : id = other := by simpa [lookupGlobal?] using found
        refine ⟨.inr rfl, ?_⟩
        rintro holder (member | rfl)
        · exact absurd member (none holder)
        · exact ⟨Nat.le_refl _, rfl⟩
    · next first found =>
      obtain ⟨own, least⟩ := arbitrated.held first found
      split
      · next home =>
        refine ⟨fun shared => ?_, fun _ absent => ?_, fun other found' => ?_⟩
        · rw [clear] at shared
          cases shared
        · rw [found] at absent
          cases absent
        · obtain rfl : first = other := Option.some.inj (found.symm.trans found')
          refine ⟨.inl own, ?_⟩
          rintro holder (member | rfl)
          · exact least holder member
          · exact ⟨last first own, home.symm⟩
      · next abroad =>
        refine ⟨fun _ => ⟨?_, first, id, .inl own, .inr rfl, abroad⟩, fun clear => ?_,
          fun other found => ?_⟩
        · simp [lookupGlobal?]
        · simp [isAmbiguous] at clear
        · simp [lookupGlobal?] at found

theorem registerAll_arbitrated (keys : List String) {id : DeclId} (arbitrated : Arbitrated r key entered)
    (last : ∀ other, entered other → other ≤ id) :
    Arbitrated (keys.foldl (fun acc key => acc.registerGlobal key id) r) key
      fun other => entered other ∨ (key ∈ keys ∧ other = id) := by
  induction keys generalizing r entered with
  | nil => exact arbitrated.congr fun other => by simp
  | cons head rest ih =>
    rw [List.foldl_cons]
    by_cases same : head = key
    · subst same
      have entry := registerGlobal_arbitrated arbitrated last
      have last' : ∀ other, entered other ∨ other = id → other ≤ id := by
        rintro other (member | rfl)
        · exact last other member
        · exact Nat.le_refl _
      refine (ih entry last').congr fun other => ?_
      simp only [List.mem_cons, true_or, true_and, or_assoc]
      exact or_congr_right (or_iff_left_of_imp And.right)
    · obtain ⟨ambiguous, global⟩ := registerGlobal_of_ne (r := r) id same
      have entry := arbitrated.carry ambiguous global fun other _ => registerGlobal_get r head id other
      refine (ih entry last).congr fun other => ?_
      simp [Ne.symm same]

end Step

/-- Every key is answered by the registered declarations that have it. -/
def KeysArbitrated (r : Registry) : Prop := ∀ key, Arbitrated r key (r.Holds key)

structure SameKeys (r r' : Registry) : Prop where
  decls : r'.decls = r.decls
  global : r'.global = r.global
  ambiguous : r'.ambiguous = r.ambiguous

theorem SameKeys.trans {r r' r'' : Registry} (first : SameKeys r r') (second : SameKeys r' r'') :
    SameKeys r r'' :=
  ⟨second.decls.trans first.decls, second.global.trans first.global,
    second.ambiguous.trans first.ambiguous⟩

theorem KeysArbitrated.same {r r' : Registry} (arbitrated : KeysArbitrated r) (same : SameKeys r r') :
    KeysArbitrated r' := by
  intro key
  have get? (id : DeclId) : r'.get? id = r.get? id := by simp [Registry.get?, same.decls]
  have carried : Arbitrated r' key (r.Holds key) :=
    (arbitrated key).carry (by simp [isAmbiguous, same.ambiguous])
      (by simp [lookupGlobal?, same.global]) fun id _ => by simp [Registry.get, get?]
  exact carried.congr fun id => by simp [Holds, get?]

theorem KeysArbitrated.insert {r : Registry} (arbitrated : KeysArbitrated r) (d : Declaration) :
    KeysArbitrated (r.insert d).2 := by
  cases used : r.lookup? d.package d.name with
  | some id =>
    rw [insert_used used]
    exact arbitrated
  | none =>
    intro key
    have grows := insert_grows r d
    obtain ⟨_, decls, _⟩ := insert_unused used
    have made := congrArg Prod.snd (insert_new used)
    have appended : Arbitrated (r.append d) key (r.Holds key) :=
      (arbitrated key).carry rfl rfl fun id holds => (append_grows r d used).get_eq holds.registered
    have last : ∀ other, r.Holds key other → other ≤ r.size := fun other holds =>
      Nat.le_of_lt holds.registered
    rw [made]
    refine (registerAll_arbitrated (globalKeys d) appended last).congr fun id => ?_
    rw [← made, mem_globalKeys]
    -- the new declaration is the only one that was not registered before
    constructor
    · rintro (⟨old, found, has⟩ | ⟨has, rfl⟩)
      · exact ⟨old, grows.get?_eq found, has⟩
      · exact ⟨d, by rw [Registry.get?, decls]; exact List.getElem?_concat_length, has⟩
    · rintro ⟨holder, found, has⟩
      rw [Registry.get?, decls] at found
      by_cases inside : id < r.decls.length
      · rw [List.getElem?_append_left inside] at found
        exact .inl ⟨holder, found, has⟩
      · have bound := (List.getElem?_eq_some_iff.mp found).1
        rw [List.length_append, List.length_singleton] at bound
        obtain rfl : id = r.size := Nat.le_antisymm (Nat.le_of_lt_succ bound) (Nat.le_of_not_lt inside)
        obtain rfl : d = holder := by simpa [size] using found
        exact .inr ⟨has, rfl⟩

theorem KeysArbitrated.insertAll {r : Registry} (arbitrated : KeysArbitrated r)
    (decls : List Declaration) : KeysArbitrated (r.insertAll decls) := by
  induction decls generalizing r with
  | nil => exact arbitrated
  | cons d rest ih => exact ih (arbitrated.insert d)

theorem KeysArbitrated.openScope {r : Registry} (arbitrated : KeysArbitrated r) (path package : String)
    (items : List Source.Item) : KeysArbitrated (r.openScope path package items) := by
  have opened (scope : Scope) : KeysArbitrated (r.addScope scope) := arbitrated.same ⟨rfl, rfl, rfl⟩
  exact (opened _).insertAll _

theorem KeysArbitrated.index {r : Registry} (arbitrated : KeysArbitrated r) (package : String)
    (file : SourceFile) : KeysArbitrated (r.index package file).2 := by
  have opening : OpeningKeeps KeysArbitrated (fun _ _ => True) file.path :=
    ⟨fun _ arbitrated => arbitrated.openScope _ _ _, fun _ _ => trivial⟩
  exact opening.index trivial fun _ => arbitrated.same ⟨rfl, rfl, rfl⟩

theorem definitionName_sameKeys (r : Registry) (id : DeclId) : SameKeys r (r.definitionName id).2 := by
  unfold definitionName
  split <;> exact ⟨rfl, rfl, rfl⟩

theorem argumentName_sameKeys : (arg : TypeExpr) → (r : Registry) → SameKeys r (argumentName arg r).2
  | .primitive _, _ => ⟨rfl, rfl, rfl⟩
  | .resolved id, r => definitionName_sameKeys r id
  | .array inner, r => argumentName_sameKeys inner r
  | .map key value, r => (argumentName_sameKeys key r).trans (argumentName_sameKeys value _)
  | .pointer inner, r => argumentName_sameKeys inner r
  | .optional inner, r => argumentName_sameKeys inner r
  | .named _ _, _ => ⟨rfl, rfl, rfl⟩
  | .param _, _ => ⟨rfl, rfl, rfl⟩
  | .interface, _ => ⟨rfl, rfl, rfl⟩
  | .function, _ => ⟨rfl, rfl, rfl⟩

theorem instanceName_sameKeys (args : List TypeExpr) (base : String) (r : Registry) :
    SameKeys r (instanceName base args r).2 := by
  induction args generalizing base r with
  | nil => exact ⟨rfl, rfl, rfl⟩
  | cons arg rest ih => exact (argumentName_sameKeys arg r).trans (ih _ _)

theorem KeysArbitrated.call {r : Registry} (arbitrated : KeysArbitrated r) (call : Call) :
    KeysArbitrated (call.apply r) := by
  cases call with
  | index package file => exact arbitrated.index package file
  | insert d => exact arbitrated.insert d
  | definitionName id => exact arbitrated.same (definitionName_sameKeys r id)
  | instantiate id args =>
    simp only [Call.apply, Registry.instantiate]
    split
    · exact arbitrated
    · have spelled := arbitrated.same (instanceName_sameKeys args (r.get id).name r)
      split
      · exact spelled
      · exact spelled.insert _

def run (calls : List Call) (r : Registry) : Registry := calls.foldl (fun r call => call.apply r) r

theorem KeysArbitrated.run {r : Registry} (arbitrated : KeysArbitrated r) (calls : List Call) :
    KeysArbitrated (run calls r) := by
  induction calls generalizing r with
  | nil => exact arbitrated
  | cons call rest ih => exact ih (arbitrated.call call)

theorem keysArbitrated_empty : KeysArbitrated empty := by
  intro key
  refine ⟨fun shared => ?_, fun _ _ id holds => ?_, fun id found => ?_⟩
  · cases shared
  · exact absurd holds.registered (Nat.not_lt_zero id)
  · cases found

theorem call_grows (call : Call) (r : Registry) : Grows r (call.apply r) := (call.answersAsks r).grows

theorem run_grows (calls : List Call) (r : Registry) : Grows r (run calls r) := by
  induction calls generalizing r with
  | nil => exact .refl r
  | cons call rest ih => exact (call_grows call r).trans (ih _)

/-- After any calls a key is ambiguous exactly if declarations of two packages have it, and finds a
declaration exactly if that is the first of all that have it and these are of one package. A key
that is ambiguous stays so and finds nothing, whatever is called later. -/
theorem global_keys_arbitrated (calls : List Call) (key : String) :
    let r := run calls empty
    (r.isAmbiguous key = true ↔
      ∃ a b, r.Holds key a ∧ r.Holds key b ∧ (r.get a).package ≠ (r.get b).package) ∧
    (∀ id, r.lookupGlobal? key = some id ↔ r.Holds key id ∧
      ∀ other, r.Holds key other → id ≤ other ∧ (r.get other).package = (r.get id).package) ∧
    ∀ later, r.isAmbiguous key = true →
      (run later r).isAmbiguous key = true ∧ (run later r).lookupGlobal? key = none := by
  intro r
  have arbitrated := keysArbitrated_empty.run calls key
  refine ⟨arbitrated.ambiguous_iff, arbitrated.found_iff, fun later shared => ?_⟩
  have retired : r.Retired key := ⟨shared, (arbitrated.ambiguous shared).1⟩
  exact (run_grows later r).retired key retired

end ApiSchema.Registry
