import ApiSchema.Proofs.Annotations

/-! References under annotations. The layers above the schema of a type set keywords only, so a reference comes
to the last step, the description and the read-only mark, as it was; that step leaves it alone or makes it the
first branch of a new schema, with the mark in a branch of its own. -/

namespace ApiSchema.Field

open Annotation

structure Layered (s t : Schema) : Prop where
  reference : t.reference = s.reference
  readOnly : t.readOnly = s.readOnly

theorem Layered.layering (base : BaseType) (s : Schema) : Layering base (Layered s) where
  keywords has reference _ readOnly _ _ := ⟨reference.trans has.reference, readOnly.trans has.readOnly⟩
  enum has _ _ := by
    unfold storeEnum
    split
    · exact ⟨has.reference, has.readOnly⟩
    · exact ⟨has.reference, has.readOnly⟩

theorem encodeAsText_layered (field : Field) (s : Schema) : Layered s (field.encodeAsText s) := by
  unfold encodeAsText
  split
  · exact ⟨rfl, rfl⟩
  · exact ⟨rfl, rfl⟩

/-- The layers between the replacement of a schema and its decoration touch neither its reference nor its
read-only mark. -/
theorem complement_layered (field : Field) (s : Schema) : Yields (field.complement s) fun r =>
    ∃ t u, field.replaceType s = .ok t ∧ Layered t u ∧
      r = decorate field.doc (field.tags.hasSchemaFlag "readonly") u := by
  have start : Yields (field.replaceType s) fun _ => True :=
    (replaceType_yields field s).imp fun _ _ => trivial
  refine complement_layers field s start.result (fun t _ => Layered.layering _ t)
    (fun t _ => encodeAsText_layered field t) ?_
  rintro t u ⟨replaced, _⟩ layered
  exact ⟨t, u, replaced, layered, rfl⟩

/-- A reference is decorated as a branch, unless there is nothing to decorate it with. -/
theorem decorate_ref {s : Schema} (refers : s.isRef = true) (description : Option String) (readOnly : Bool) :
    decorate description readOnly s = s ∧ description = none ∧ readOnly = false ∨
      decorate description readOnly s =
        { description, allOf := some (s :: if readOnly then [{ readOnly := some true }] else []) } := by
  unfold decorate
  rw [refers]
  rcases description with _ | text
  · cases readOnly with
    | false => exact .inl ⟨rfl, rfl, rfl⟩
    | true => exact .inr rfl
  · exact .inr rfl

/-- Annotations neither drop nor add references. A schema that is not replaced by a given one has those it had,
at any depth; one that is replaced has none. A reference that is not replaced stands unchanged in the result: as
the result itself, if the member has neither a text nor the mark, or as the first branch of a schema whose
other branch, if there is one, is the read-only mark. -/
theorem complement_references (field : Field) {s r : Schema} (done : field.complement s = .ok r) :
    (r.refs = if (field.tags.schemaValue? "schema_type").isSome then [] else s.refs) ∧
    (∀ name, r.Mentions name ↔ field.tags.schemaValue? "schema_type" = none ∧ s.Mentions name) ∧
    ∀ reference, s.reference = some reference → field.tags.schemaValue? "schema_type" = none →
      ∃ u : Schema, u.reference = some reference ∧ u.readOnly = s.readOnly ∧ u.refs = s.refs ∧
        (r = u ∧ field.doc = none ∧ field.tags.hasSchemaFlag "readonly" = false ∨
          r = { description := field.doc
                allOf := some (u :: if field.tags.hasSchemaFlag "readonly" then [{ readOnly := some true }]
                  else []) }) := by
  have collected : r.refs = if (field.tags.schemaValue? "schema_type").isSome then [] else s.refs := by
    have layers := complement_yields field s
    rwa [done] at layers
  refine ⟨collected, fun name => ?_, fun reference refers given => ?_⟩
  · rw [← Schema.mem_refs_iff, ← Schema.mem_refs_iff, collected]
    cases field.tags.schemaValue? "schema_type" <;> simp
  · obtain ⟨t, u, replaced, layered, rfl⟩ : ∃ t u, field.replaceType s = .ok t ∧ Layered t u ∧
        r = decorate field.doc (field.tags.hasSchemaFlag "readonly") u := by
      have layers := complement_layered field s
      rwa [done] at layers
    obtain rfl : s = t := by
      rw [replaceType, given] at replaced
      exact Except.ok.inj replaced
    have same := layered.reference.trans refers
    refine ⟨u, same, layered.readOnly, ?_, decorate_ref (by simp [Schema.isRef, same]) _ _⟩
    have kept : (decorate field.doc (field.tags.hasSchemaFlag "readonly") u).refs = u.refs :=
      decorate_keeps (untouched_refs u.refs) rfl _ _
    rw [← kept, collected, given]
    rfl

def post : Field where
  name := "post"
  type := .named ["Post"] []
  exported := true
  embedded := false
  tags := { schema := [.mk "title" (some "The post") [], .mk "readonly" none []] }
  doc := some "What was posted."

/-- The shared definition is the first branch, titled but not marked, and the mark is the second. -/
theorem complement_references_post : ∃ r, post.complement (.ref "web.Post") = .ok r ∧
    r.refs = ["web.Post"] ∧ r.reference = none ∧
      r.allOf = some [{ Schema.ref "web.Post" with title := some "The post" }, { readOnly := some true }] := by
  obtain ⟨r, done, branches⟩ : ∃ r, post.complement (.ref "web.Post") = .ok r ∧
      r.allOf = some [{ Schema.ref "web.Post" with title := some "The post" }, { readOnly := some true }] :=
    ⟨_, rfl, rfl⟩
  have given : post.tags.schemaValue? "schema_type" = none := by decide
  obtain ⟨collected, _, kept⟩ := complement_references post done
  rw [given] at collected
  obtain ⟨u, _, _, _, same | rfl⟩ := kept (Schema.refPrefix ++ "web.Post") rfl given
  · exact absurd same.2.1 (by decide)
  · exact ⟨_, done, collected.trans (Schema.refs_ref "web.Post"), rfl, branches⟩

end ApiSchema.Field
