import ApiSchema.Proofs.Requests

/-! Properties of all schemas that a generator stores. If every way of building a schema keeps a
property, and references have it, then every definition and every memo entry has it, placeholders
included. It does not matter how the requests ended, since what a failure undoes is only taken away. -/

namespace ApiSchema

namespace Generator

structure StoresEach (entry : DeclId → Schema → Prop) (definition : String → Schema → Prop) (g : Generator) :
    Prop where
  definitions {name : String} {s : Schema} : g.definitions.get? name = some s → definition name s
  memo {id : DeclId} {s : Schema} : g.memo.lookup id = some s → entry id s

abbrev Stores (P : Schema → Prop) (g : Generator) : Prop := g.StoresEach (fun _ => P) fun _ => P

namespace StoresEach

variable {entry : DeclId → Schema → Prop} {definition : String → Schema → Prop} {g : Generator}

theorem fresh (s : Resolver) : StoresEach entry definition { resolver := s } := ⟨by simp [Table.get?], by simp⟩

theorem imp {entry' : DeclId → Schema → Prop} {definition' : String → Schema → Prop}
    (keeps : g.StoresEach entry definition) (entries : ∀ id s, entry id s → entry' id s)
    (definitions : ∀ name s, definition name s → definition' name s) : g.StoresEach entry' definition' :=
  ⟨fun found => definitions _ _ (keeps.definitions found), fun found => entries _ _ (keeps.memo found)⟩

/-- What is only taken away leaves the rest as it is. -/
theorem mono {g' : Generator} (keeps : g.StoresEach entry definition)
    (definitions : ∀ name s, g'.definitions.get? name = some s → g.definitions.get? name = some s)
    (memo : ∀ id s, g'.memo.lookup id = some s → g.memo.lookup id = some s) :
    g'.StoresEach entry definition :=
  ⟨fun found => keeps.definitions (definitions _ _ found), fun found => keeps.memo (memo _ _ found)⟩

theorem undone {g' : Generator} {gone : List Entry} (keeps : g.StoresEach entry definition)
    (undone : Undone gone g g') : g'.StoresEach entry definition := by
  refine keeps.mono (fun name s found => ?_) fun id s found => ?_
  · rw [undone.definitions] at found
    exact (Option.ite_none_left_eq_some.mp found).2
  · rw [undone.memo] at found
    exact (Option.ite_none_left_eq_some.mp found).2

theorem rollback (mark : Nat) (failed : String) (keeps : g.StoresEach entry definition) :
    (g.rollback mark failed).StoresEach entry definition := by
  obtain ⟨_, _, _, rolled⟩ := rollback_rolledBack mark failed g
  exact keeps.undone rolled.undone

theorem undefine (name : String) (keeps : g.StoresEach entry definition) :
    (g.undefine name).StoresEach entry definition := by
  refine keeps.mono (fun key s found => ?_) fun _ _ found => found
  rw [Generator.undefine, Table.get?_erase] at found
  exact (Option.ite_none_left_eq_some.mp found).2

/-- A struct or an enumeration that fails is undone. -/
theorem failed (id : DeclId) (mark : Nat) (name : String) (keeps : g.StoresEach entry definition) :
    ((((g.leave id).unforce id).undefine name).rollback mark name).StoresEach entry definition := by
  have left : ((g.leave id).unforce id).StoresEach entry definition := ⟨keeps.definitions, keeps.memo⟩
  exact (left.undefine name).rollback mark name

theorem begun {id : DeclId} {name : String} {placed : Bool} {s : Generator}
    (keeps : g.StoresEach entry definition) (object : placed = true → definition name .object)
    (begun : Begun id name placed g s) : s.StoresEach entry definition := by
  refine ⟨fun {key x} found => ?_, fun found => keeps.memo (begun.memo ▸ found)⟩
  rw [begun.definitions] at found
  split at found
  · next own => exact Option.some.inj found ▸ own.2 ▸ object own.1
  · exact keeps.definitions found

theorem finished {id : DeclId} {name : String} {x : Schema} {made : Option Schema} {u : Generator}
    (keeps : g.StoresEach entry definition) (used : entry id x) (body : ∀ b, made = some b → definition name b)
    (finished : Finished id name x made g u) : u.StoresEach entry definition := by
  refine ⟨fun {key s} found => ?_, fun {other s} found => ?_⟩
  · rw [finished.definitions] at found
    split at found
    · next own => exact own.2 ▸ body s found
    · exact keeps.definitions found
  · by_cases same : other = id
    · subst same
      rw [finished.own] at found
      exact Option.some.inj found ▸ used
    · rw [finished.lookup same] at found
      exact keeps.memo found

end StoresEach

end Generator

namespace Synthesis

open Steps

def storing (P : Schema → Prop) : Contract Failure Generator where
  holds g := g.Stores P
  moves _ _ := True
  fails e _ g' := Fatal e ∧ g'.Stores P
  refl _ := trivial
  trans _ _ := trivial
  fails_after _ failed := failed

section Storing

variable {P : Schema → Prop} {fit : Members → Prop}

theorem storing_law (config : Config) (building : Building P fit) :
    Law config (storing P) (fun s _ => P s) fun m _ => fit m where
  builds _ := building
  stable _ _ _ _ _ known := known
  stableMembers _ _ _ _ _ known := known
  fatal failed := failed.1
  conflict _ _ stores := ⟨trivial, stores⟩
  resolves _ _ := resolving_of_grows fun _ _ stores _ => ⟨⟨stores.definitions, stores.memo⟩, trivial⟩
  defined stores found := stores.definitions found

theorem storing_cases (object : P .object) (ref : ∀ name, P (.ref name)) :
    EachCaseKeeps (storing P) (storing P) fun s _ => P s where
  memo stores found := stores.memo found
  naming _ _ stores := ⟨⟨stores.definitions, stores.memo⟩, trivial⟩
  cycle {id name g} stores _ _ := by
    obtain ⟨forced, same⟩ := Generator.force_frame id g
    rw [same]
    exact ⟨⟨stores.definitions, stores.memo⟩, trivial, ref name⟩
  begun within := within.holds.begun (fun _ => object) within.begun
  defined _ stores _ body finished :=
    ⟨stores.finished (ref _) (fun _ same => Option.some.inj same ▸ body) finished, trivial, ref _⟩
  inlined _ stores _ body _ finished := ⟨stores.finished body (by simp) finished, trivial, body⟩
  undone _ failed := ⟨failed.1, failed.2.failed _ _ _⟩
  abandoned _ failed := ⟨failed.1, failed.2.definitions, failed.2.memo⟩

variable (building : Building P fit) (ref : ∀ name, P (.ref name))

include building ref

theorem synthesizeWith_stores (config : Config) (fuel : Nat) (id : DeclId) :
    Meets (storing P) (synthesizeWith config fuel id) fun s _ => P s :=
  synthesizeWith_meets (storing_law config building) (storing_cases (building.object none) ref)
    (fun stores => ⟨trivial, stores⟩) fuel id

/-- A request stores only schemas with the property, and its answer is one. -/
theorem serve_stores (config : Config) (fuel : Nat) (request : Request) :
    Meets (lenient (storing P)) (request.serve config fuel) fun s _ => P s :=
  serve_meets (storing_law config building) fuel (synthesizeWith_stores building ref config fuel) request

theorem Reached.stores {config : Config} {g : Generator} (reached : Reached config g) : g.Stores P := by
  induction reached with
  | fresh s => exact .fresh s
  | served fuel request _ ih =>
    have lasting := lenient_lasting (c := storing P) fun _ _ _ failed => ⟨failed.2, trivial⟩
    exact ((serve_stores building ref config fuel request _ ih).lasting lasting).1

end Storing

end Synthesis

end ApiSchema
