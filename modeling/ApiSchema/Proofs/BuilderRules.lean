import ApiSchema.Builder
import ApiSchema.Proofs.Pruning
import ApiSchema.Proofs.SynthesisRules

/-! How adding an operation passes a contract on. All schemas of an operation come from type
references, so they have the property that synthesis gives to its schemas, and entering the
operation puts no other schema into the document. -/

namespace ApiSchema

open Steps Synthesis

namespace Builder

def UsesOnly (good : Schema → Prop) (b : Builder) : Prop :=
  ∀ entry ∈ b.paths.entries, ∀ method op, entry.2.slot method = some op → ∀ s, op.Uses s → good s

theorem UsesOnly.imp {good better : Schema → Prop} {b : Builder} (holds : b.UsesOnly good)
    (more : ∀ s, good s → better s) : b.UsesOnly better :=
  fun entry member method op place s used => more s (holds entry member method op place s used)

theorem UsesOnly.start {good : Schema → Prop} (info : Document.Info) : UsesOnly good { info } :=
  fun _ member => absurd member List.not_mem_nil

theorem UsesOnly.enter {good : Schema → Prop} {b : Builder} {op : Document.Operation} (path : String)
    (method : Method) (holds : b.UsesOnly good) (fits : ∀ s, op.Uses s → good s) :
    (b.enter path method op).UsesOnly good := by
  intro entry member other made place s used
  rcases Table.mem_insertEntry member with rfl | old
  · simp only [Document.PathItem.set] at place
    split at place
    · cases place
      exact fits s used
    · cases found : b.paths.get? (convertPath path) with
      | none => simp [found, Document.PathItem.empty] at place
      | some item =>
        rw [found] at place
        exact holds _ (Table.mem_of_get? found) other made place s used
  · exact holds entry old other made place s used

section Passing

variable {c : Contract Failure Generator} {good : Schema → Generator → Prop}
  {fit : Members → Generator → Prop} {config : Config} {fuel : Nat}
  (law : Law config c good fit) (each : ∀ id, Meets c (synthesizeWith config fuel id) good)
  (context : ScopeId)

include law each

theorem parameter_meets (p : Manifest.Parameter) :
    Meets (lenient c) (parameter config fuel context p) fun made g => good made.schema g := by
  intro g holds
  unfold parameter
  refine (schemaOfReference_meets law each context p.type g holds).bind ?_
  intro s g' holds _ result
  exact .pure holds result

theorem requestBody_meets (body : Manifest.RequestBody) :
    Meets (lenient c) (requestBody config fuel context body)
      fun made g => ∀ entry ∈ made.content.entries, good entry.2 g := by
  intro g holds
  unfold requestBody
  refine (schemaOfReference_meets law each context body.type g holds).bind ?_
  intro s g' holds _ result
  refine .pure holds ?_
  intro entry member
  obtain rfl : entry = _ := List.mem_singleton.mp member
  exact result

/-- The response, if it has content at all, has schemas with the property. -/
theorem response_meets (status : String) (r : Manifest.Response) :
    Meets (lenient c) (response config fuel context status r)
      fun made g => ∀ content, made.content = some content → ∀ entry ∈ content.entries, good entry.2 g := by
  intro g holds
  unfold response responseContent
  split
  · rw [pure_bind]
    exact .pure holds (by simp)
  · rw [bind_assoc]
    refine (schemaOfReference_meets law each context _ g holds).bind ?_
    intro s g' holds _ result
    rw [pure_bind]
    refine .pure holds ?_
    intro content same entry member
    cases same
    obtain rfl : entry = _ := List.mem_singleton.mp member
    exact result

theorem responses_meets (declared : Table Manifest.Response) :
    Meets (lenient c) (responses config fuel context declared)
      fun made g => ∀ entry ∈ made.entries, ∀ content, entry.2.content = some content →
        ∀ entry ∈ content.entries, good entry.2 g := by
  intro g holds
  unfold responses
  have stable : Stable (lenient c) fun (entry : String × Document.Response) g =>
      ∀ content, entry.2.content = some content → ∀ entry ∈ content.entries, good entry.2 g :=
    fun _ g g' holds moves old content place entry member =>
      law.stable _ g g' holds moves (old content place entry member)
  refine (Meets.mapM stable _ ?_ g holds).bind ?_
  · intro (status, r) _ g holds
    refine (response_meets law each context status r g holds).bind ?_
    intro made g' holds _ result
    exact .pure holds result
  · intro entries g' holds _ results
    split
    · refine .pure holds ?_
      intro entry member content place
      obtain rfl : entry = _ := List.mem_singleton.mp member
      cases place
    · exact .pure holds results

theorem operation_meets (op : Manifest.Operation) :
    Meets (lenient c) (operation config fuel context op) fun made g => ∀ s, made.Uses s → good s g := by
  intro g holds
  unfold operation
  have stable : Stable (lenient c) fun (p : Document.Parameter) g => good p.schema g :=
    fun p => law.stable p.schema
  refine (Meets.mapM stable _ (fun p _ => parameter_meets law each context p) g holds).bind ?_
  intro parameters g₁ holds _ inParameters
  extract_lets finish
  have rest (requestBody : Option Document.RequestBody) (g₂ : Generator) (holds : c.holds g₂)
      (moves₁ : c.moves g₁ g₂) (inBody : ∀ body, requestBody = some body →
        ∀ entry ∈ body.content.entries, good entry.2 g₂) :
      MeetsAt (lenient c) (finish requestBody) g₂ fun made g => ∀ s, made.Uses s → good s g := by
    refine (responses_meets law each context op.responses g₂ holds).bind ?_
    intro responses g₃ holds moves₂ inResponses
    refine .pure holds ?_
    intro s used
    cases used with
    | parameter place member =>
      refine law.stable _ g₁ g₃ holds (c.trans moves₁ moves₂) (inParameters _ ?_)
      split at place
      · cases place
      · cases place
        exact member
    | body place member => exact law.stable _ g₂ g₃ holds moves₂ (inBody _ place _ member)
    | response member place inside => exact inResponses _ member _ place _ inside
  split
  · rw [map_eq_pure_bind, bind_assoc]
    refine (requestBody_meets law each context _ g₁ holds).bind ?_
    intro made g₂ holds moves result
    rw [pure_bind]
    exact rest _ g₂ holds moves fun body same => Option.some.inj same ▸ result
  · rw [pure_bind]
    exact rest none g₁ holds (c.refl g₁) (by simp)

/-- An operation that is added keeps the property for the whole builder. -/
theorem addOperation_meets (b : Builder) (op : Manifest.Operation) {g : Generator} (holds : c.holds g)
    (fits : b.UsesOnly (good · g)) :
    MeetsAt (lenient c) (addOperationWith config fuel b op) g fun b' g' => b'.UsesOnly (good · g') := by
  unfold addOperationWith
  refine .get ?_
  split
  · exact .throw (.inr ⟨id, holds, c.refl g⟩)
  · next context _ =>
    refine (operation_meets law each context op g holds).bind ?_
    intro made g' holds moves result
    refine .pure holds ((fits.imp ?_).enter op.path op.method result)
    exact fun s => law.stable s g g' holds moves

end Passing

end Builder

end ApiSchema
