import ApiSchema.Proofs.SynthesisSteps

/-! Two runs side by side. The same rules are gone through from two states, with declarations synthesized
in two ways. If the types of members come to the same schemas on both sides, or fail alike, then so do
bodies, as far as failures go: what was spliced out of definitions may differ, but no failure depends on
it. A run that exhausts its fuel is left out on one of the sides. -/

namespace ApiSchema.Synthesis

open Steps

variable {α β α' β' : Type}

/-- Two outcomes that go together: results of which something is known, in related states, or the same
failure. On one side the fuel may have run out, whatever the other outcome is. -/
inductive Paired (left : Bool) (R : Generator → Generator → Prop) (V : α → β → Prop) :
    Except Failure α × Generator → Except Failure β × Generator → Prop where
  | first {t : Generator} {other : Except Failure β × Generator} (here : left = true) :
      Paired left R V (.error .exhausted, t) other
  | second {other : Except Failure α × Generator} {t : Generator} (here : left = false) :
      Paired left R V other (.error .exhausted, t)
  | error (e : Failure) {t t' : Generator} : Paired left R V (.error e, t) (.error e, t')
  | ok {a : α} {b : β} {t t' : Generator} (same : V a b) (related : R t t') :
      Paired left R V (.ok a, t) (.ok b, t')

namespace Paired

variable {left : Bool} {R R' : Generator → Generator → Prop} {V : α → β → Prop} {V' : α' → β' → Prop}
  {g g' : Generator}

/-- Steps that go on from two outcomes that go together, and fail as these do. -/
theorem through {x : Synth α} {y : Synth β} {z : Synth α'} {w : Synth β'} {h h' : Generator}
    (start : Paired left R V (after x g) (after y g'))
    (fails : ∀ {e t}, after x g = (.error e, t) → ∃ u, after z h = (.error e, u))
    (fails' : ∀ {e t}, after y g' = (.error e, t) → ∃ u, after w h' = (.error e, u))
    (rest : ∀ {a b t t'}, after x g = (.ok a, t) → after y g' = (.ok b, t') → V a b → R t t' →
      Paired left R' V' (after z h) (after w h')) : Paired left R' V' (after z h) (after w h') := by
  rcases run : after x g with ⟨e | a, t⟩ <;> rcases run' : after y g' with ⟨e' | b, t'⟩ <;>
    rw [run, run'] at start
  · obtain ⟨u, ends⟩ := fails run
    obtain ⟨u', ends'⟩ := fails' run'
    rw [ends, ends']
    cases start with
    | first here => exact .first here
    | second here => exact .second here
    | error => exact .error e
  · obtain ⟨u, ends⟩ := fails run
    rw [ends]
    cases start with
    | first here => exact .first here
  · obtain ⟨u', ends'⟩ := fails' run'
    rw [ends']
    cases start with
    | second here => exact .second here
  · cases start with
    | ok same related => exact rest run run' same related

theorem bind {x : Synth α} {y : Synth β} {f : α → Synth α'} {k : β → Synth β'}
    (start : Paired left R V (after x g) (after y g'))
    (rest : ∀ {a b t t'}, after x g = (.ok a, t) → after y g' = (.ok b, t') → V a b → R t t' →
      Paired left R' V' (after (f a) t) (after (k b) t')) :
    Paired left R' V' (after (x >>= f) g) (after (y >>= k) g') := by
  refine start.through (fun run => ⟨_, run_bind_error run⟩) (fun run => ⟨_, run_bind_error run⟩) ?_
  intro a b t t' run run' same related
  rw [run_bind_ok run, run_bind_ok run']
  exact rest run run' same related

theorem imp {o : Except Failure α × Generator} {o' : Except Failure β × Generator} {W : α → β → Prop}
    (paired : Paired left R V o o')
    (more : ∀ {a b t t'}, o = (.ok a, t) → o' = (.ok b, t') → V a b → R t t' → W a b ∧ R' t t') :
    Paired left R' W o o' := by
  cases paired with
  | first here => exact .first here
  | second here => exact .second here
  | error e => exact .error e
  | ok same related =>
    obtain ⟨known, related⟩ := more rfl rfl same related
    exact .ok known related

/-- Nothing is asked of the results. -/
theorem forget {o : Except Failure α × Generator} {o' : Except Failure β × Generator}
    (paired : Paired left R V o o') : Paired left R (fun _ _ => True) o o' :=
  paired.imp fun _ _ _ related => ⟨trivial, related⟩

/-- Steps that are gone through in a row, where nothing is asked of the results. -/
theorem mapM {items : List α} {f : α → Synth α'} {k : α → Synth β'}
    (each : ∀ a ∈ items, ∀ {g g'}, R g g' →
      Paired left R (fun _ _ => True) (after (f a) g) (after (k a) g')) (related : R g g') :
    Paired left R (fun _ _ => True) (after (items.mapM f) g) (after (items.mapM k) g') := by
  induction items generalizing g g' with
  | nil =>
    rw [List.mapM_nil, List.mapM_nil]
    exact .ok trivial related
  | cons a rest ih =>
    rw [List.mapM_cons, List.mapM_cons]
    refine (each a List.mem_cons_self related).bind fun _ _ _ related => ?_
    refine (ih (fun b member => each b (List.mem_cons_of_mem _ member)) related).bind fun _ _ _ related => ?_
    exact .ok trivial related

theorem foldlM {items : List α} {f : α' → α → Synth α'} {k : β' → α → Synth β'}
    (each : ∀ b b', ∀ a ∈ items, ∀ {g g'}, R g g' →
      Paired left R (fun _ _ => True) (after (f b a) g) (after (k b' a) g'))
    (b : α') (b' : β') (related : R g g') :
    Paired left R (fun _ _ => True) (after (items.foldlM f b) g) (after (items.foldlM k b') g') := by
  induction items generalizing b b' g g' with
  | nil =>
    rw [List.foldlM_nil, List.foldlM_nil]
    exact .ok trivial related
  | cons a rest ih =>
    rw [List.foldlM_cons, List.foldlM_cons]
    refine (each b b' a List.mem_cons_self related).bind fun _ _ _ related => ?_
    exact ih (fun c c' x member => each c c' x (List.mem_cons_of_mem _ member)) _ _ related

end Paired

section Bodies

variable {left : Bool} {R : Generator → Generator → Prop} {config : Config} {synth more : DeclId → Synth Schema}
  (each : ∀ (context : ScopeId) (type : TypeExpr) {g g' : Generator}, R g g' →
    Paired left R Eq (after (memberSchema config synth context type) g)
      (after (memberSchema config more context type) g'))
  {g g' : Generator} (related : R g g')

include each related

theorem spliceField_paired (context : ScopeId) (m m' : Members) (field : Field) :
    Paired left R (fun _ _ => True) (after (spliceField config synth context m field) g)
      (after (spliceField config more context m' field) g') := by
  have body : Paired left R (fun _ _ => True) (after (embeddedBody config synth context field) g)
      (after (embeddedBody config more context field) g') := by
    unfold embeddedBody
    refine (each context field.type related).bind fun {s s' t t'} _ _ same related => ?_
    subst same
    split
    · exact .ok trivial related
    · exact .ok trivial related
  unfold spliceField
  exact body.bind fun _ _ _ related => .ok trivial related

theorem addField_paired (context : ScopeId) (renameAll : Option String) (m m' : Members) (field : Field) :
    Paired left R (fun _ _ => True) (after (addField config synth context renameAll m field) g)
      (after (addField config more context renameAll m' field) g') := by
  unfold addField
  refine (each context field.type related).bind fun {s s' t t'} _ _ same related => ?_
  subst same
  cases field.complement s with
  | ok layered => exact .ok trivial related
  | error e => exact .error (.error e)

theorem objectSchema_paired (context : ScopeId) (renameAll : Option String) (fields : List Field) :
    Paired left R (fun _ _ => True) (after (objectSchema config synth context renameAll fields) g)
      (after (objectSchema config more context renameAll fields) g') := by
  unfold objectSchema
  refine (Paired.foldlM (fun m m' field _ _ _ related => spliceField_paired each related context m m' field)
    _ _ related).bind fun _ _ _ related => ?_
  refine (Paired.foldlM (fun m m' field _ _ _ related =>
    addField_paired each related context renameAll m m' field) _ _ related).bind fun _ _ _ related => ?_
  exact .ok trivial related

theorem tupleSchema_paired (context : ScopeId) (types : List TypeExpr) :
    Paired left R (fun _ _ => True) (after (tupleSchema config synth context types) g)
      (after (tupleSchema config more context types) g') := by
  unfold tupleSchema
  refine (Paired.mapM (fun type _ _ _ related => (each context type related).forget) related).bind
    fun {schemas schemas' t t'} _ _ _ related => ?_
  rcases schemas with _ | ⟨a, _ | ⟨b, rest⟩⟩ <;> rcases schemas' with _ | ⟨a', _ | ⟨b', rest'⟩⟩ <;>
    exact .ok trivial related

theorem variantSchema_paired (d : Declaration) (v : Variant) :
    Paired left R (fun _ _ => True) (after (variantSchema config synth d v) g)
      (after (variantSchema config more d v) g') := by
  unfold variantSchema
  dsimp only
  split
  · exact .ok trivial related
  · next payload _ =>
    have made : Paired left R (fun _ _ => True) (after (payloadSchema config synth d.scope payload) g)
        (after (payloadSchema config more d.scope payload) g') := by
      cases payload with
      | record fields => exact objectSchema_paired each related d.scope none fields
      | tuple types => exact tupleSchema_paired each related d.scope types
    refine made.bind fun _ _ _ related => ?_
    split <;> exact .ok trivial related

/-- Bodies fail alike if members do. -/
theorem bodySchema_paired (d : Declaration) :
    Paired left R (fun _ _ => True) (after (bodySchema config synth d) g)
      (after (bodySchema config more d) g') := by
  unfold bodySchema
  split
  · exact objectSchema_paired each related _ _ _
  · unfold enumSchema
    dsimp only
    split
    · exact .ok trivial related
    · refine (Paired.mapM (fun v _ _ _ related => variantSchema_paired each related d v) related).bind
        fun _ _ _ related => ?_
      exact .ok trivial related
  · exact .ok trivial related

end Bodies

end ApiSchema.Synthesis
