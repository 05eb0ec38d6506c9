import ApiSchema.Proofs.HandleResolution
import ApiSchema.Proofs.Requests

/-! Handles under synthesis. A generator keeps numbers of declarations in its memo, its journal and the lists of
what is under way and of what must become a definition, and follows those that it finds in types. Here all
rules of synthesis are gone through with types whose handles are known: no rule asks for a declaration that is
not registered, so it makes no difference what would be done with one, and handles stay anchored. -/

namespace ApiSchema

open Registry (Grows)
open Steps

namespace Generator

structure Anchored (g : Generator) : Prop where
  registry : g.registry.Anchored
  memo : ∀ entry ∈ g.memo, entry.1 < g.registry.size
  journal : ∀ entry ∈ g.journal, entry.1 < g.registry.size
  inProgress : ∀ id ∈ g.inProgress, id < g.registry.size
  forced : ∀ id ∈ g.forced, id < g.registry.size

theorem anchored_fresh {s : Resolver} (registry : s.registry.Anchored) : Anchored { resolver := s } :=
  ⟨registry, by simp, by simp, by simp, by simp⟩

namespace Anchored

variable {g g' : Generator} {id : DeclId}

theorem resolver (anchored : g.Anchored) {s : Resolver} (registry : s.registry.Anchored)
    (grows : Grows g.registry s.registry) : Anchored { g with resolver := s } where
  registry := registry
  memo entry member := Nat.lt_of_lt_of_le (anchored.memo entry member) grows.size_le
  journal entry member := Nat.lt_of_lt_of_le (anchored.journal entry member) grows.size_le
  inProgress id member := Nat.lt_of_lt_of_le (anchored.inProgress id member) grows.size_le
  forced id member := Nat.lt_of_lt_of_le (anchored.forced id member) grows.size_le

/-- Nothing is noted but a known declaration. -/
theorem change (anchored : g.Anchored) (known : id < g.registry.size) (registry : g'.registry = g.registry)
    (memo : ∀ entry ∈ g'.memo, entry ∈ g.memo ∨ entry.1 = id)
    (journal : ∀ entry ∈ g'.journal, entry ∈ g.journal ∨ entry.1 = id)
    (inProgress : ∀ other ∈ g'.inProgress, other ∈ g.inProgress ∨ other = id)
    (forced : ∀ other ∈ g'.forced, other ∈ g.forced ∨ other = id) : g'.Anchored where
  registry := registry ▸ anchored.registry
  memo entry member := registry ▸ (memo entry member).elim (anchored.memo entry) (· ▸ known)
  journal entry member := registry ▸ (journal entry member).elim (anchored.journal entry) (· ▸ known)
  inProgress other member := registry ▸ (inProgress other member).elim (anchored.inProgress other) (· ▸ known)
  forced other member := registry ▸ (forced other member).elim (anchored.forced other) (· ▸ known)

theorem naming (anchored : g.Anchored) (known : id < g.registry.size) : (g.naming id).Anchored :=
  anchored.resolver (anchored.registry.definitionName known) (Registry.definitionName_grows g.registry id)

theorem enter (anchored : g.Anchored) (known : id < g.registry.size) : (g.enter id).Anchored :=
  anchored.change known rfl (fun _ => .inl) (fun _ => .inl) (fun _ member => (List.mem_cons.mp member).symm)
    fun _ => .inl

theorem define (anchored : g.Anchored) (name : String) (s : Schema) : (g.define name s).Anchored :=
  ⟨anchored.registry, anchored.memo, anchored.journal, anchored.inProgress, anchored.forced⟩

theorem undefine (anchored : g.Anchored) (name : String) : (g.undefine name).Anchored :=
  ⟨anchored.registry, anchored.memo, anchored.journal, anchored.inProgress, anchored.forced⟩

theorem leave (anchored : g.Anchored) (id : DeclId) : (g.leave id).Anchored :=
  ⟨anchored.registry, anchored.memo, anchored.journal,
    fun other member => anchored.inProgress other (List.mem_filter.mp member).1, anchored.forced⟩

theorem unforce (anchored : g.Anchored) (id : DeclId) : (g.unforce id).Anchored :=
  ⟨anchored.registry, anchored.memo, anchored.journal, anchored.inProgress,
    fun other member => anchored.forced other (List.mem_filter.mp member).1⟩

theorem force (anchored : g.Anchored) (known : id < g.registry.size) : (g.force id).Anchored := by
  unfold Generator.force
  split
  · exact anchored
  · exact anchored.change known rfl (fun _ => .inl) (fun _ => .inl) (fun _ => .inl)
      fun _ member => (List.mem_cons.mp member).symm

theorem remember (anchored : g.Anchored) (known : id < g.registry.size) (s : Schema) (definition : Option String) :
    (g.remember id s definition).Anchored := by
  refine anchored.change known rfl (fun entry member => ?_) (fun entry member => ?_) (fun _ => .inl) fun _ => .inl
  · rcases List.mem_cons.mp member with rfl | old
    · exact .inr rfl
    · exact .inl old
  · simp only [Generator.remember] at member
    split at member
    · cases member
    · rcases List.mem_append.mp member with old | new
      · exact .inl old
      · exact .inr (List.mem_singleton.mp new ▸ rfl)

end Anchored

theorem forgetAll_memo (entries : List (DeclId × Option String)) (g : Generator) :
    (entries.foldl forget g).memo ⊆ g.memo := by
  induction entries generalizing g with
  | nil => exact List.Subset.refl _
  | cons entry rest ih => exact List.Subset.trans (ih _) fun _ member => (List.mem_filter.mp member).1

theorem settle_memo (fuel : Nat) (dropped : List String) (kept : List (DeclId × Option String)) (g : Generator) :
    (settle fuel dropped kept g).2.memo ⊆ g.memo := by
  induction fuel generalizing dropped kept g with
  | zero => exact List.Subset.refl _
  | succ fuel ih =>
    simp only [settle]
    split
    · exact List.Subset.refl _
    · exact List.Subset.trans (ih _ _ _) (forgetAll_memo _ g)

/-- Undoing leaves entries out of the memo and of the journal. -/
theorem Anchored.rollback {g : Generator} (anchored : g.Anchored) (mark : Nat) (failed : String) :
    (g.rollback mark failed).Anchored := by
  obtain ⟨kept, gone, journal, rolled⟩ := rollback_rolledBack mark failed g
  obtain ⟨memo, definitions, journal', same⟩ := rollback_frame mark failed g
  have remembered : (g.rollback mark failed).memo ⊆ g.memo :=
    settle_memo ((g.journal.drop mark).length + 1) [failed] (g.journal.drop mark) g
  have registry : (g.rollback mark failed).registry = g.registry := by rw [same]; rfl
  constructor
  · exact registry ▸ anchored.registry
  · exact fun entry member => registry ▸ anchored.memo entry (remembered member)
  · intro entry member
    rw [journal] at member
    rw [registry]
    rcases List.mem_append.mp member with early | recent
    · exact anchored.journal entry (List.mem_of_mem_take early)
    · exact anchored.journal entry (List.mem_of_mem_drop (rolled.sublist.subset recent))
  · rw [registry, same]
    exact anchored.inProgress
  · rw [registry, same]
    exact anchored.forced

end Generator

namespace Synthesis

variable {α β : Type}

structure Agrees (x y : Synth α) (g : Generator) : Prop where
  same : after y g = after x g
  anchored : (after x g).2.Anchored
  grows : Grows g.registry (after x g).2.registry

namespace Agrees

variable {g : Generator}

/-- Both steps end in the same way and in the same state. -/
theorem of_runs {x y : Synth α} {o : Except Failure α} {t : Generator} (first : after x g = (o, t))
    (second : after y g = (o, t)) (anchored : t.Anchored) (grows : Grows g.registry t.registry) : Agrees x y g :=
  ⟨second.trans first.symm, by rwa [first], by rwa [first]⟩

theorem runs {x y : Synth α} (agrees : Agrees x y g) :
    ∃ o t, after x g = (o, t) ∧ after y g = (o, t) ∧ t.Anchored ∧ Grows g.registry t.registry :=
  ⟨_, _, rfl, agrees.same, agrees.anchored, agrees.grows⟩

/-- Both steps go over to a later state, and from there they do the same. -/
theorem onward {x y u v : Synth α} {t : Generator} (first : after x g = after u t) (second : after y g = after v t)
    (grows : Grows g.registry t.registry) (agrees : Agrees u v t) : Agrees x y g := by
  obtain ⟨o, last, run, other, anchored, later⟩ := agrees.runs
  exact .of_runs (first.trans run) (second.trans other) anchored (grows.trans later)

/-- A step that leaves the state as it is. -/
theorem still (anchored : g.Anchored) {x : Synth α} (idle : (after x g).2 = g) : Agrees x x g :=
  ⟨rfl, by rw [idle]; exact anchored, by rw [idle]; exact .refl g.registry⟩

theorem pure (anchored : g.Anchored) (a : α) : Agrees (Pure.pure a) (Pure.pure a) g := still anchored rfl

theorem throw (anchored : g.Anchored) (e : Failure) : Agrees (α := α) (throw e) (throw e) g := still anchored rfl

theorem bind {x y : Synth α} {f k : α → Synth β} (first : Agrees x y g)
    (rest : ∀ a t, t.Anchored → Grows g.registry t.registry → Agrees (f a) (k a) t) :
    Agrees (x >>= f) (y >>= k) g := by
  obtain ⟨e | a, t, run, other, anchored, grows⟩ := first.runs
  · exact .of_runs (run_bind_error run) (run_bind_error other) anchored grows
  · exact .onward (run_bind_ok run) (run_bind_ok other) grows (rest a t anchored grows)

theorem mapM {f k : α → Synth β} (items : List α) (anchored : g.Anchored)
    (each : ∀ a ∈ items, ∀ t, t.Anchored → Grows g.registry t.registry → Agrees (f a) (k a) t) :
    Agrees (items.mapM f) (items.mapM k) g := by
  induction items generalizing g with
  | nil =>
    simp only [List.mapM_nil]
    exact .pure anchored _
  | cons a rest ih =>
    simp only [List.mapM_cons]
    refine (each a List.mem_cons_self g anchored (.refl _)).bind fun b t anchored grows => ?_
    refine (ih anchored fun other member u anchored later => ?_).bind fun bs u anchored _ => .pure anchored _
    exact each other (List.mem_cons_of_mem _ member) u anchored (grows.trans later)

theorem foldlM {f k : β → α → Synth β} (items : List α) (anchored : g.Anchored)
    (each : ∀ b, ∀ a ∈ items, ∀ t, t.Anchored → Grows g.registry t.registry → Agrees (f b a) (k b a) t) (b : β) :
    Agrees (items.foldlM f b) (items.foldlM k b) g := by
  induction items generalizing b g with
  | nil => exact .pure anchored b
  | cons a rest ih =>
    simp only [List.foldlM_cons]
    refine (each b a List.mem_cons_self g anchored (.refl _)).bind fun b t anchored grows => ?_
    exact ih anchored (fun b other member u anchored later =>
      each b other (List.mem_cons_of_mem _ member) u anchored (grows.trans later)) b

end Agrees

/-- Resolution of a type with known handles comes to a known declaration, if to one. -/
theorem resolving_anchored {g : Generator} (external : Bool) (context : ScopeId) {type : TypeExpr}
    (anchored : g.Anchored) (within : type.Within g.registry.size) :
    let step := Synth.resolving (Resolver.resolveExpr external context type)
    (after step g).2.Anchored ∧ Grows g.registry (after step g).2.registry ∧
      ∀ id, (after step g).1 = .ok (.declaration id) → id < (after step g).2.registry.size := by
  have meets : MeetsAt Resolver.anchoring (Resolver.resolveExpr external context type) g.resolver
      Resolver.HandleWithin := Resolver.resolveExpr_anchors anchored.registry within
  intro step
  rcases run : after (Resolver.resolveExpr external context type) g.resolver with ⟨e | x, s⟩
  · obtain ⟨holds, grows⟩ := meets.error run
    rw [after_resolving_error run]
    exact ⟨anchored.resolver holds grows, grows, fun id ended => by cases ended⟩
  · obtain ⟨holds, grows, reached⟩ := meets.ok run
    rw [after_resolving_ok run]
    refine ⟨anchored.resolver holds grows, grows, fun id ended => ?_⟩
    cases ended
    exact TypeExpr.within_resolved.mp reached

section Rules

variable {config : Config} {synth other : DeclId → Synth Schema}
  (each : ∀ id g, g.Anchored → id < g.registry.size → Agrees (synth id) (other id) g)

include each

theorem exprSchema_agrees (context : ScopeId) : (type : TypeExpr) → {g : Generator} → g.Anchored →
    type.Within g.registry.size →
      Agrees (exprSchema config synth context type) (exprSchema config other context type) g
  | .primitive _, _, anchored, _ => .pure anchored _
  | .optional inner, _, anchored, within => exprSchema_agrees context inner anchored within
  | .pointer inner, _, anchored, within => exprSchema_agrees context inner anchored within
  | .array inner, _, anchored, within => by
    simp only [exprSchema]
    exact (exprSchema_agrees context inner anchored within).bind fun _ _ anchored _ => .pure anchored _
  | .map key value, _, anchored, within => by
    simp only [exprSchema]
    exact (exprSchema_agrees context value anchored (TypeExpr.within_map.mp within).2).bind
      fun _ _ anchored _ => .pure anchored _
  | .interface, _, anchored, _ => .pure anchored _
  | .function, _, anchored, _ => .pure anchored _
  | .param _, _, anchored, _ => .pure anchored _
  | .resolved id, g, anchored, within => each id g anchored (TypeExpr.within_resolved.mp within)
  | .named segments args, g, anchored, within => by
    obtain ⟨anchored', grows, known⟩ := resolving_anchored config.parseDependencies context anchored within
    simp only [exprSchema]
    rcases run : after (Synth.resolving
        (Resolver.resolveExpr config.parseDependencies context (.named segments args))) g with ⟨e | x, t⟩
    · rw [run] at anchored' grows
      exact .of_runs (run_bind_error run) (run_bind_error run) anchored' grows
    · rw [run] at anchored' grows known
      have onward : Agrees (resolutionSchema synth x) (resolutionSchema other x) t := by
        cases x with
        | primitive p => exact .pure anchored' _
        | any => exact .pure anchored' _
        | declaration id => exact each id t anchored' (known id rfl)
      exact .onward (run_bind_ok run) (run_bind_ok run) grows onward

theorem memberSchema_agrees (context : ScopeId) {type : TypeExpr} {g : Generator} (anchored : g.Anchored)
    (within : type.Within g.registry.size) :
    Agrees (memberSchema config synth context type) (memberSchema config other context type) g := by
  have agrees : Agrees (exprSchema config synth context type) (exprSchema config other context type) g :=
    exprSchema_agrees each context type anchored within
  obtain ⟨e | s, t, first, second, anchored', grows⟩ := agrees.runs
  · by_cases fatal : Fatal e
    · exact .of_runs (memberSchema_fatal fatal first) (memberSchema_fatal fatal second) anchored' grows
    · exact .of_runs (memberSchema_recovers fatal first) (memberSchema_recovers fatal second) anchored' grows
  · exact .of_runs (memberSchema_ok first) (memberSchema_ok second) anchored' grows

theorem objectSchema_agrees (context : ScopeId) (renameAll : Option String) {fields : List Field} {g : Generator}
    (anchored : g.Anchored) (within : ∀ field ∈ fields, field.type.Within g.registry.size) :
    Agrees (objectSchema config synth context renameAll fields)
      (objectSchema config other context renameAll fields) g := by
  have kept (p : Field → Bool) {field : Field}
      (member : field ∈ (fields.filter fun field => !field.isSkipped config).filter p) :
      field.type.Within g.registry.size := within field (List.mem_filter.mp (List.mem_filter.mp member).1).1
  unfold objectSchema
  refine (Agrees.foldlM _ anchored (fun m field member t anchored grows => ?_) _).bind
    fun m t anchored grows => ?_
  · unfold spliceField embeddedBody
    have known := (kept _ member).mono grows.size_le
    refine ((memberSchema_agrees each context anchored known).bind fun s u anchored _ => ?_).bind
      fun body u anchored _ => .pure anchored _
    refine .still anchored ?_
    split <;> rfl
  · refine (Agrees.foldlM _ anchored (fun m field member u anchored later => ?_) m).bind
      fun m u anchored _ => .pure anchored _
    unfold addField
    have known := (kept _ member).mono (grows.trans later).size_le
    refine (memberSchema_agrees each context anchored known).bind fun s u anchored _ => .still anchored ?_
    split <;> rfl

theorem tupleSchema_agrees (context : ScopeId) {types : List TypeExpr} {g : Generator} (anchored : g.Anchored)
    (within : ∀ type ∈ types, type.Within g.registry.size) :
    Agrees (tupleSchema config synth context types) (tupleSchema config other context types) g := by
  unfold tupleSchema
  refine (Agrees.mapM types anchored fun type member t anchored grows => ?_).bind
    fun schemas t anchored _ => .still anchored ?_
  · exact memberSchema_agrees each context anchored ((within type member).mono grows.size_le)
  · split <;> rfl

theorem variantSchema_agrees (d : Declaration) {v : Variant} {g : Generator} (anchored : g.Anchored)
    (within : ∀ type ∈ v.types, type.Within g.registry.size) :
    Agrees (variantSchema config synth d v) (variantSchema config other d v) g := by
  unfold variantSchema
  dsimp only
  split
  · exact .pure anchored _
  · next payload shape =>
    have known : ∀ type ∈ payload.types, type.Within g.registry.size := by simpa [Variant.types, shape] using within
    refine Agrees.bind ?_ fun s t anchored _ => .still anchored (by split <;> rfl)
    cases payload with
    | record fields =>
      exact objectSchema_agrees each d.scope none anchored fun field member =>
        known _ (List.mem_map.mpr ⟨field, member, rfl⟩)
    | tuple types => exact tupleSchema_agrees each d.scope anchored known

theorem bodySchema_agrees {d : Declaration} {g : Generator} (anchored : g.Anchored)
    (within : ∀ type ∈ d.body.types, type.Within g.registry.size) :
    Agrees (bodySchema config synth d) (bodySchema config other d) g := by
  unfold bodySchema
  split
  · next fields body =>
    rw [body] at within
    exact objectSchema_agrees each _ _ anchored fun field member =>
      within _ (List.mem_map.mpr ⟨field, member, rfl⟩)
  · next variants body =>
    rw [body] at within
    unfold enumSchema
    dsimp only
    split
    · exact .pure anchored _
    · refine (Agrees.mapM _ anchored fun v member t anchored grows => ?_).bind
        fun branches t anchored _ => .pure anchored _
      refine variantSchema_agrees each d anchored fun type inside => ?_
      exact (within type (List.mem_flatMap.mpr ⟨v, (List.mem_filter.mp member).1, inside⟩)).mono grows.size_le
  · exact .pure anchored _

section One

variable {id : DeclId} {name : String} {d : Declaration} {g : Generator} (anchored : g.Anchored)
  (known : id < g.registry.size)

include anchored known

theorem synthesizeNamed_agrees (within : ∀ type ∈ d.body.types, type.Within g.registry.size) :
    Agrees (synthesizeNamed config synth id name d) (synthesizeNamed config other id name d) g := by
  have opens : (opened id name g).Anchored := (anchored.define name .object).enter known
  obtain ⟨e | body, t, first, second, anchored', grows⟩ := (bodySchema_agrees each opens within).runs
  · refine .of_runs (synthesizeNamed_error first) (synthesizeNamed_error second)
      ((((anchored'.leave id).unforce id).undefine name).rollback _ _) ?_
    obtain ⟨_, _, _, frame⟩ := Generator.rollback_frame g.journal.length name
      (((t.leave id).unforce id).undefine name)
    rw [frame]
    exact grows
  · have still : id < t.registry.size := Nat.lt_of_lt_of_le known grows.size_le
    exact .of_runs (synthesizeNamed_ok first) (synthesizeNamed_ok second)
      ((((anchored'.leave id).unforce id).define name _).remember still _ _) grows

theorem synthesizeSynonym_agrees {target : TypeExpr} (within : target.Within g.registry.size) :
    Agrees (synthesizeSynonym config synth id name d target)
      (synthesizeSynonym config other id name d target) g := by
  have agrees : Agrees (memberSchema config synth d.scope target) (memberSchema config other d.scope target)
      (g.enter id) := memberSchema_agrees each d.scope (anchored.enter known) within
  obtain ⟨e | body, t, first, second, anchored', grows⟩ := agrees.runs
  · exact .of_runs (synthesizeSynonym_error first) (synthesizeSynonym_error second) (anchored'.leave id) grows
  · have left := (anchored'.leave id).unforce id
    have still : id < t.registry.size := Nat.lt_of_lt_of_le known grows.size_le
    by_cases inline : Inline config id body t
    · exact .of_runs (synthesizeSynonym_inline inline first) (synthesizeSynonym_inline inline second)
        (left.remember still _ _) grows
    · exact .of_runs (synthesizeSynonym_definition inline first) (synthesizeSynonym_definition inline second)
        ((left.define name _).remember still _ _) grows

/-- A known declaration asks for known ones only. -/
theorem synthesizeOne_agrees : Agrees (synthesizeOne config synth id) (synthesizeOne config other id) g := by
  have named := anchored.naming known
  have grows : Grows g.registry (g.naming id).registry := Registry.definitionName_grows g.registry id
  have still : id < (g.naming id).registry.size := Nat.lt_of_lt_of_le known grows.size_le
  cases found : g.memo.lookup id with
  | some s =>
    exact .of_runs (synthesizeOne_memo found) (synthesizeOne_memo found) anchored (.refl _)
  | none =>
    by_cases busy : id ∈ g.inProgress
    · have registry : ((g.naming id).force id).registry = (g.naming id).registry := by
        unfold Generator.force
        split <;> rfl
      exact .of_runs (synthesizeOne_cycle found busy) (synthesizeOne_cycle found busy) (named.force still)
        (registry ▸ grows)
    · have members (type : TypeExpr) (member : type ∈ (g.registry.get id).body.types) :
          type.Within (g.naming id).registry.size :=
        ((anchored.registry.get known).types type member).mono grows.size_le
      refine .onward (synthesizeOne_start found busy) (synthesizeOne_start found busy) grows ?_
      split
      · next target body =>
        exact synthesizeSynonym_agrees each named still (members target (by rw [body]; exact List.mem_singleton_self _))
      · exact .pure named _
      · exact synthesizeNamed_agrees each named still members

end One

end Rules

/-- Declarations are synthesized as ever, but for a number that none is registered under something else is done. -/
def guardedWith (config : Config) (stray : DeclId → Synth Schema) : (fuel : Nat) → DeclId → Synth Schema
  | 0, _ => throw .exhausted
  | fuel + 1, id => do
    if id < (← get).registry.size then synthesizeOne config (guardedWith config stray fuel) id
    else stray id

theorem guardedWith_agrees (config : Config) (stray : DeclId → Synth Schema) (fuel : Nat) (id : DeclId)
    (g : Generator) (anchored : g.Anchored) (known : id < g.registry.size) :
    Agrees (synthesizeWith config fuel id) (guardedWith config stray fuel id) g := by
  induction fuel generalizing id g with
  | zero => exact .throw anchored _
  | succ fuel ih =>
    refine .onward rfl ?_ (.refl _) (synthesizeOne_agrees ih anchored known)
    rw [guardedWith, run_bind_get, if_pos known]

def Request.Known (g : Generator) : Request → Prop
  | reference _ _ => True
  | type _ expr => expr.Within g.registry.size
  | declaration id => id < g.registry.size

def Request.serveGuarded (config : Config) (stray : DeclId → Synth Schema) (fuel : Nat) : Request → Synth Schema
  | reference context text =>
    match TypeExpr.parse? text with
    | some expr => exprSchema config (guardedWith config stray fuel) context expr
    | none => throw (.error (.invalidReference text))
  | type context expr => exprSchema config (guardedWith config stray fuel) context expr
  | declaration id => guardedWith config stray fuel id

theorem Request.serve_agrees (config : Config) (stray : DeclId → Synth Schema) (fuel : Nat) {request : Request}
    {g : Generator} (anchored : g.Anchored) (known : request.Known g) :
    Agrees (request.serve config fuel) (request.serveGuarded config stray fuel) g := by
  have each := guardedWith_agrees config stray fuel
  cases request with
  | reference context text =>
    unfold Request.serve Request.serveGuarded schemaOfReferenceWith
    dsimp only
    cases read : TypeExpr.parse? text with
    | none => exact .throw anchored _
    | some expr =>
      exact exprSchema_agrees each context expr anchored (TypeExpr.within_of_none (TypeExpr.handles_parse read))
  | type context expr => exact exprSchema_agrees each context expr anchored known
  | declaration id => exact each id g anchored known

end Synthesis

end ApiSchema
