import ApiSchema.Proofs.SynthesisSteps

/-! Fuel decides only whether a synthesis runs to its end. One that does ends in the same outcome
and the same state with any more fuel, whether that outcome is a schema or an error. -/

namespace ApiSchema.Synthesis

open Steps

variable {α β : Type}

/-- Unless the first step runs out of fuel, the second one does the same. -/
def Refines (x y : Synth α) : Prop :=
  ∀ g, (after x g).1 = .error .exhausted ∨ after y g = after x g

namespace Refines

theorem refl (x : Synth α) : Refines x x := fun _ => .inr rfl

theorem trans {x y z : Synth α} (first : Refines x y) (second : Refines y z) : Refines x z := by
  intro g
  rcases first g with out | same
  · exact .inl out
  · rcases second g with out | same'
    · exact .inl (same ▸ out)
    · exact .inr (same'.trans same)

theorem bind {x y : Synth α} {f k : α → Synth β} (first : Refines x y)
    (rest : ∀ a, Refines (f a) (k a)) : Refines (x >>= f) (y >>= k) := by
  intro g
  rcases run : after x g with ⟨e | a, g'⟩
  · rw [run_bind_error run]
    rcases first g with out | same
    · obtain rfl : e = .exhausted := by simpa [run] using out
      exact .inl rfl
    · exact .inr (run_bind_error (same.trans run))
  · rcases first g with out | same
    · simp [run] at out
    · rw [run_bind_ok run, run_bind_ok (same.trans run)]
      exact rest a g'

theorem mapM {f k : α → Synth β} (items : List α) (each : ∀ a, Refines (f a) (k a)) :
    Refines (items.mapM f) (items.mapM k) := by
  induction items with
  | nil =>
    simp only [List.mapM_nil]
    exact .refl _
  | cons a rest ih =>
    simp only [List.mapM_cons]
    exact (each a).bind fun b => ih.bind fun bs => .refl _

theorem foldlM {f k : β → α → Synth β} (items : List α) (each : ∀ b a, Refines (f b a) (k b a))
    (b : β) : Refines (items.foldlM f b) (items.foldlM k b) := by
  induction items generalizing b with
  | nil => exact .refl _
  | cons a rest ih =>
    simp only [List.foldlM_cons]
    exact (each b a).bind ih

end Refines

section Rules

variable {config : Config} {synth more : DeclId → Synth Schema}
  (each : ∀ id, Refines (synth id) (more id))

include each

theorem exprSchema_refines (context : ScopeId) : (type : TypeExpr) →
    Refines (exprSchema config synth context type) (exprSchema config more context type)
  | .primitive _ => .refl _
  | .optional inner => exprSchema_refines context inner
  | .pointer inner => exprSchema_refines context inner
  | .array inner => by
    simp only [exprSchema]
    exact (exprSchema_refines context inner).bind fun _ => .refl _
  | .map _ value => by
    simp only [exprSchema]
    exact (exprSchema_refines context value).bind fun _ => .refl _
  | .interface => .refl _
  | .function => .refl _
  | .param _ => .refl _
  | .resolved id => each id
  | .named segments args => by
    simp only [exprSchema]
    refine (Refines.refl _).bind fun resolution => ?_
    cases resolution with
    | primitive p => exact .refl _
    | any => exact .refl _
    | declaration id => exact each id

/-- A member hides errors, but not that fuel ran out. -/
theorem memberSchema_refines (context : ScopeId) (type : TypeExpr) :
    Refines (memberSchema config synth context type) (memberSchema config more context type) := by
  intro g
  rcases exprSchema_refines each context type g with out | same
  · rcases run : after (exprSchema config synth context type) g with ⟨result, g'⟩
    rw [run] at out
    subst out
    exact .inl (congrArg Prod.fst (memberSchema_fatal (e := .exhausted) trivial run))
  · refine .inr ?_
    rcases run : after (exprSchema config synth context type) g with ⟨e | s, g'⟩
    · rw [run] at same
      by_cases fatal : Fatal e
      · rw [memberSchema_fatal fatal run, memberSchema_fatal fatal same]
      · rw [memberSchema_recovers fatal run, memberSchema_recovers fatal same]
    · rw [run] at same
      rw [memberSchema_ok run, memberSchema_ok same]

theorem objectSchema_refines (context : ScopeId) (renameAll : Option String) (fields : List Field) :
    Refines (objectSchema config synth context renameAll fields)
      (objectSchema config more context renameAll fields) := by
  unfold objectSchema
  refine (Refines.foldlM _ (fun m field => ?_) _).bind fun m => ?_
  · unfold spliceField embeddedBody
    exact ((memberSchema_refines each context field.type).bind fun _ => .refl _).bind fun _ => .refl _
  · refine (Refines.foldlM _ (fun m field => ?_) m).bind fun _ => .refl _
    unfold addField
    exact (memberSchema_refines each context field.type).bind fun _ => .refl _

theorem tupleSchema_refines (context : ScopeId) (types : List TypeExpr) :
    Refines (tupleSchema config synth context types) (tupleSchema config more context types) := by
  unfold tupleSchema
  exact (Refines.mapM types (memberSchema_refines each context)).bind fun _ => .refl _

theorem variantSchema_refines (d : Declaration) (v : Variant) :
    Refines (variantSchema config synth d v) (variantSchema config more d v) := by
  unfold variantSchema
  dsimp only
  split
  · exact .refl _
  · next payload _ =>
    refine Refines.bind ?_ fun _ => .refl _
    cases payload with
    | record fields => exact objectSchema_refines each d.scope none fields
    | tuple types => exact tupleSchema_refines each d.scope types

theorem bodySchema_refines (d : Declaration) :
    Refines (bodySchema config synth d) (bodySchema config more d) := by
  unfold bodySchema
  split
  · exact objectSchema_refines each _ _ _
  · unfold enumSchema
    dsimp only
    split
    · exact .refl _
    · exact (Refines.mapM _ (variantSchema_refines each d)).bind fun _ => .refl _
  · exact .refl _

theorem synthesizeNamed_refines (id : DeclId) (name : String) (d : Declaration) :
    Refines (synthesizeNamed config synth id name d) (synthesizeNamed config more id name d) := by
  intro g
  have refined := @bodySchema_refines config synth more each d (opened id name g)
  rcases run : after (bodySchema config synth d) (opened id name g) with ⟨e | body, g'⟩
  · rw [synthesizeNamed_error run]
    rcases refined with out | same
    · rw [run] at out
      exact .inl out
    · exact .inr (synthesizeNamed_error (same.trans run))
  · rcases refined with out | same
    · simp [run] at out
    · rw [synthesizeNamed_ok run, synthesizeNamed_ok (same.trans run)]
      exact .inr rfl

theorem synthesizeSynonym_refines (id : DeclId) (name : String) (d : Declaration) (target : TypeExpr) :
    Refines (synthesizeSynonym config synth id name d target)
      (synthesizeSynonym config more id name d target) := by
  intro g
  have refined := @memberSchema_refines config synth more each d.scope target (g.enter id)
  rcases run : after (memberSchema config synth d.scope target) (g.enter id) with ⟨e | body, g'⟩
  · rw [synthesizeSynonym_error run]
    rcases refined with out | same
    · rw [run] at out
      exact .inl out
    · exact .inr (synthesizeSynonym_error (same.trans run))
  · rcases refined with out | same
    · simp [run] at out
    · refine .inr ?_
      by_cases inline : Inline config id body g'
      · rw [synthesizeSynonym_inline inline run, synthesizeSynonym_inline inline (same.trans run)]
      · rw [synthesizeSynonym_definition inline run,
          synthesizeSynonym_definition inline (same.trans run)]

theorem synthesizeOne_refines (id : DeclId) :
    Refines (synthesizeOne config synth id) (synthesizeOne config more id) := by
  intro g
  cases found : g.memo.lookup id with
  | some s => exact .inr ((synthesizeOne_memo found).trans (synthesizeOne_memo found).symm)
  | none =>
    by_cases busy : id ∈ g.inProgress
    · exact .inr ((synthesizeOne_cycle found busy).trans (synthesizeOne_cycle found busy).symm)
    · rw [synthesizeOne_start found busy, synthesizeOne_start found busy]
      split
      · exact synthesizeSynonym_refines each _ _ _ _ _
      · exact .inr rfl
      · exact synthesizeNamed_refines each _ _ _ _

end Rules

theorem synthesizeWith_succ (config : Config) (fuel : Nat) (id : DeclId) :
    Refines (synthesizeWith config fuel id) (synthesizeWith config (fuel + 1) id) := by
  induction fuel generalizing id with
  | zero => exact fun _ => .inl rfl
  | succ fuel ih => exact synthesizeOne_refines ih id

theorem synthesizeWith_refines (config : Config) {fuel more : Nat} (le : fuel ≤ more) (id : DeclId) :
    Refines (synthesizeWith config fuel id) (synthesizeWith config more id) := by
  induction le with
  | refl => exact .refl _
  | step _ ih => exact ih.trans (synthesizeWith_succ config _ id)

end ApiSchema.Synthesis
