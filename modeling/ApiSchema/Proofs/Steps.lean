/-! Reasoning about steps that read and change a state and may fail, where what they changed stays
when they fail. A contract says what holds between steps, how a step that succeeds moves the state
and what is left when one fails. It is met by a composition if its parts meet it. -/

namespace ApiSchema

abbrev Steps (ε σ : Type) := ExceptT ε (StateM σ)

namespace Steps

variable {ε σ α β : Type}

def after (x : Steps ε σ α) (s : σ) : Except ε α × σ := x s

@[simp] theorem run_pure (a : α) (s : σ) : after (pure a : Steps ε σ α) s = (.ok a, s) := rfl

@[simp] theorem run_throw (e : ε) (s : σ) : after (throw e : Steps ε σ α) s = (.error e, s) := rfl

theorem run_bind_ok {x : Steps ε σ α} {f : α → Steps ε σ β} {s t : σ} {a : α}
    (first : after x s = (.ok a, t)) : after (x >>= f) s = after (f a) t := by
  simp only [after, bind, ExceptT.bind, ExceptT.mk, StateT.bind] at first ⊢
  rw [first]
  rfl

theorem run_bind_error {x : Steps ε σ α} {f : α → Steps ε σ β} {s t : σ} {e : ε}
    (first : after x s = (.error e, t)) : after (x >>= f) s = (.error e, t) := by
  simp only [after, bind, ExceptT.bind, ExceptT.mk, StateT.bind] at first ⊢
  rw [first]
  rfl

/-- A composition that succeeds does so in two steps. -/
theorem of_bind_ok {x : Steps ε σ α} {f : α → Steps ε σ β} {s u : σ} {b : β}
    (run : after (x >>= f) s = (.ok b, u)) :
    ∃ a t, after x s = (.ok a, t) ∧ after (f a) t = (.ok b, u) := by
  rcases first : after x s with ⟨e | a, t⟩
  · rw [run_bind_error first] at run
    cases run
  · exact ⟨a, t, rfl, run_bind_ok first ▸ run⟩

@[simp] theorem run_bind_get (f : σ → Steps ε σ β) (s : σ) :
    after ((get : Steps ε σ σ) >>= f) s = after (f s) s := run_bind_ok rfl

@[simp] theorem run_bind_set (t : σ) (f : PUnit → Steps ε σ β) (s : σ) :
    after ((set t : Steps ε σ PUnit) >>= f) s = after (f ⟨⟩) t := run_bind_ok rfl

@[simp] theorem run_bind_modify (h : σ → σ) (f : PUnit → Steps ε σ β) (s : σ) :
    after ((modify h : Steps ε σ PUnit) >>= f) s = after (f ⟨⟩) (h s) := run_bind_ok rfl

@[simp] theorem run_bind_pure (a : α) (f : α → Steps ε σ β) (s : σ) :
    after ((pure a : Steps ε σ α) >>= f) s = after (f a) s := run_bind_ok rfl

theorem run_map (x : Steps ε σ α) (f : α → β) (s : σ) :
    after (do return f (← x)) s = ((after x s).1.map f, (after x s).2) := by
  rcases run : after x s with ⟨e | a, t⟩
  · exact run_bind_error run
  · exact run_bind_ok run

theorem run_pair {γ : Type} (x : Steps ε σ α) (y : Steps ε σ β) (f : α → β → γ) (s : σ) :
    after (do let a ← x; let b ← y; return f a b) s =
      match after x s with
      | (.error e, t) => (.error e, t)
      | (.ok a, t) => ((after y t).1.map (f a), (after y t).2) := by
  rcases run : after x s with ⟨e | a, t⟩
  · exact run_bind_error run
  · exact (run_bind_ok run).trans (run_map y (f a) t)

theorem run_eq {x : Steps ε σ α} {s : σ} {outcome : Except ε α} (same : (after x s).1 = outcome) :
    after x s = (outcome, (after x s).2) := by
  rw [← same]

theorem ok_of_toOption {outcome : Except ε α} {a : α} (answer : outcome.toOption = some a) :
    outcome = .ok a := by
  cases outcome with
  | ok other => exact congrArg Except.ok (Option.some.inj answer)
  | error e => cases answer

/-- Items are gone through one after another. -/
theorem of_mapM_append_ok {f : α → Steps ε σ β} {left right : List α} {results : List β} {s u : σ}
    (run : after ((left ++ right).mapM f) s = (.ok results, u)) : ∃ first second t,
      results = first ++ second ∧ after (left.mapM f) s = (.ok first, t) ∧
      after (right.mapM f) t = (.ok second, u) := by
  rw [List.mapM_append] at run
  obtain ⟨first, t, early, run⟩ := of_bind_ok run
  obtain ⟨second, v, late, run⟩ := of_bind_ok run
  cases run
  exact ⟨first, second, t, rfl, early, late⟩

theorem of_mapM_cons_ok {f : α → Steps ε σ β} {a : α} {rest : List α} {results : List β} {s u : σ}
    (run : after ((a :: rest).mapM f) s = (.ok results, u)) : ∃ b others t,
      results = b :: others ∧ after (f a) s = (.ok b, t) ∧ after (rest.mapM f) t = (.ok others, u) := by
  rw [List.mapM_cons] at run
  obtain ⟨b, t, early, run⟩ := of_bind_ok run
  obtain ⟨others, v, late, run⟩ := of_bind_ok run
  cases run
  exact ⟨b, others, t, rfl, early, late⟩

theorem length_of_mapM_ok {f : α → Steps ε σ β} {items : List α} {results : List β} {s u : σ}
    (run : after (items.mapM f) s = (.ok results, u)) : results.length = items.length := by
  induction items generalizing results s with
  | nil =>
    rw [List.mapM_nil] at run
    cases run
    rfl
  | cons a rest ih =>
    obtain ⟨b, others, t, rfl, _, more⟩ := of_mapM_cons_ok run
    rw [List.length_cons, List.length_cons, ih more]

/-- What steps owe to each other. -/
structure Contract (ε σ : Type) where
  /-- Holds before a step and after one that succeeds. -/
  holds : σ → Prop
  /-- How a step that succeeds changes the state. -/
  moves : σ → σ → Prop
  /-- What is left by a step that fails. -/
  fails : ε → σ → σ → Prop
  refl : ∀ s, moves s s
  trans : ∀ {s t u}, moves s t → moves t u → moves s u
  fails_after : ∀ {e s t u}, moves s t → fails e t u → fails e s u

/-- Started in `s` the step meets the contract, and its result has the property. -/
structure MeetsAt (c : Contract ε σ) (x : Steps ε σ α) (s : σ) (post : α → σ → Prop) : Prop where
  ok : ∀ {a t}, after x s = (.ok a, t) → c.holds t ∧ c.moves s t ∧ post a t
  error : ∀ {e t}, after x s = (.error e, t) → c.fails e s t

def Meets (c : Contract ε σ) (x : Steps ε σ α) (post : α → σ → Prop) : Prop :=
  ∀ s, c.holds s → MeetsAt c x s post

variable {c : Contract ε σ} {s : σ}

theorem MeetsAt.of_ok {x : Steps ε σ α} {a : α} {t : σ} {post : α → σ → Prop}
    (run : after x s = (.ok a, t)) (holds : c.holds t) (moves : c.moves s t) (result : post a t) :
    MeetsAt c x s post where
  ok ended := by
    obtain ⟨rfl, rfl⟩ : a = _ ∧ t = _ := by simpa [run] using ended
    exact ⟨holds, moves, result⟩
  error ended := by simp [run] at ended

theorem MeetsAt.of_error {x : Steps ε σ α} {e : ε} {t : σ} {post : α → σ → Prop}
    (run : after x s = (.error e, t)) (failed : c.fails e s t) : MeetsAt c x s post where
  ok ended := by simp [run] at ended
  error ended := by
    obtain ⟨rfl, rfl⟩ : e = _ ∧ t = _ := by simpa [run] using ended
    exact failed

theorem MeetsAt.pure {a : α} {post : α → σ → Prop} (holds : c.holds s) (result : post a s) :
    MeetsAt c (pure a) s post := .of_ok rfl holds (c.refl s) result

theorem MeetsAt.throw {e : ε} {post : α → σ → Prop} (failed : c.fails e s s) :
    MeetsAt c (throw e) s post := .of_error rfl failed

/-- A step that goes on as another one does elsewhere. -/
theorem MeetsAt.onward {x y : Steps ε σ α} {t : σ} {post : α → σ → Prop}
    (same : after x s = after y t) (moves : c.moves s t) (rest : MeetsAt c y t post) :
    MeetsAt c x s post where
  ok run := by
    obtain ⟨holds, moves', result⟩ := rest.ok (same ▸ run)
    exact ⟨holds, c.trans moves moves', result⟩
  error run := c.fails_after moves (rest.error (same ▸ run))

theorem MeetsAt.imp {x : Steps ε σ α} {post post' : α → σ → Prop} (meets : MeetsAt c x s post)
    (weaker : ∀ a t, c.holds t → c.moves s t → post a t → post' a t) : MeetsAt c x s post' where
  ok run := by
    obtain ⟨holds, moves, result⟩ := meets.ok run
    exact ⟨holds, moves, weaker _ _ holds moves result⟩
  error := meets.error

/-- What a step meets with a promise on its result it meets without one. -/
theorem Meets.forget {x : Steps ε σ α} {post : α → σ → Prop} (meets : Meets c x post) :
    Meets c x fun _ _ => True :=
  fun s holds => (meets s holds).imp fun _ _ _ _ _ => trivial

theorem MeetsAt.bind {x : Steps ε σ α} {f : α → Steps ε σ β} {mid : α → σ → Prop}
    {post : β → σ → Prop} (first : MeetsAt c x s mid)
    (rest : ∀ a t, c.holds t → c.moves s t → mid a t → MeetsAt c (f a) t post) :
    MeetsAt c (x >>= f) s post := by
  rcases run : after x s with ⟨e | a, t⟩
  · exact .of_error (run_bind_error run) (first.error run)
  · obtain ⟨holds, moves, result⟩ := first.ok run
    exact .onward (run_bind_ok run) moves (rest a t holds moves result)

theorem MeetsAt.get {f : σ → Steps ε σ β} {post : β → σ → Prop} (rest : MeetsAt c (f s) s post) :
    MeetsAt c (get >>= f) s post := .onward (run_bind_get f s) (c.refl s) rest

theorem MeetsAt.set {f : PUnit → Steps ε σ β} {t : σ} {post : β → σ → Prop} (moves : c.moves s t)
    (rest : MeetsAt c (f ⟨⟩) t post) : MeetsAt c (set t >>= f) s post :=
  .onward (run_bind_set t f s) moves rest

def Contract.Lasting (c : Contract ε σ) : Prop :=
  ∀ (e : ε) (s t : σ), c.fails e s t → c.holds t ∧ c.moves s t

theorem MeetsAt.lasting {x : Steps ε σ α} {post : α → σ → Prop} (meets : MeetsAt c x s post)
    (lasting : c.Lasting) : c.holds (after x s).2 ∧ c.moves s (after x s).2 := by
  rcases run : after x s with ⟨e | a, t⟩
  · exact lasting _ _ _ (meets.error run)
  · exact ⟨(meets.ok run).1, (meets.ok run).2.1⟩

section Always

variable {holds : σ → Prop} {moves : σ → σ → Prop} {refl : ∀ s, moves s s}
  {trans : ∀ {s t u}, moves s t → moves t u → moves s u} {x : Steps ε σ α}

/-- A contract that makes no difference between steps that succeed and steps that fail. -/
def Contract.always (holds : σ → Prop) (moves : σ → σ → Prop) (refl : ∀ s, moves s s)
    (trans : ∀ {s t u}, moves s t → moves t u → moves s u) : Contract ε σ where
  holds
  moves
  fails _ s t := holds t ∧ moves s t
  refl
  trans
  fails_after first failed := ⟨failed.1, trans first failed.2⟩

theorem Contract.always_lasting : (Contract.always (ε := ε) holds moves refl trans).Lasting :=
  fun _ _ _ failed => failed

theorem Meets.of_lasting (lasting : ∀ s, holds s → holds (after x s).2 ∧ moves s (after x s).2) :
    Meets (.always holds moves refl trans) x fun _ _ => True := by
  intro s start
  constructor
  · intro a t run
    obtain rfl : (after x s).2 = t := congrArg Prod.snd run
    exact ⟨(lasting s start).1, (lasting s start).2, trivial⟩
  · intro e t run
    obtain rfl : (after x s).2 = t := congrArg Prod.snd run
    exact lasting s start

end Always

def Stable (c : Contract ε σ) (post : α → σ → Prop) : Prop :=
  ∀ a s t, c.holds t → c.moves s t → post a s → post a t

theorem Meets.mapM {f : α → Steps ε σ β} {post : β → σ → Prop} (stable : Stable c post) :
    (items : List α) → (∀ a ∈ items, Meets c (f a) post) →
      Meets c (items.mapM f) fun results t => ∀ b ∈ results, post b t
  | [], _, s, holds => by
    rw [List.mapM_nil]
    exact .pure holds (by simp)
  | a :: rest, each, s, holds => by
    rw [List.mapM_cons]
    refine (each a List.mem_cons_self s holds).bind ?_
    intro b t holds _ result
    refine (Meets.mapM stable rest (fun x member => each x (List.mem_cons_of_mem _ member)) t
      holds).bind ?_
    intro results u holds moves others
    refine .pure holds ?_
    intro y member
    rcases List.mem_cons.mp member with rfl | member
    · exact stable _ t u holds moves result
    · exact others y member

theorem MeetsAt.foldlM {f : β → α → Steps ε σ β} {post : β → σ → Prop} (items : List α)
    (each : ∀ b, ∀ a ∈ items, ∀ s, c.holds s → post b s → MeetsAt c (f b a) s post)
    {b : β} (holds : c.holds s) (start : post b s) : MeetsAt c (items.foldlM f b) s post := by
  induction items generalizing b s with
  | nil =>
    rw [List.foldlM_nil]
    exact .pure holds start
  | cons a rest ih =>
    rw [List.foldlM_cons]
    refine (each b a List.mem_cons_self s holds start).bind ?_
    intro b' t holds _ result
    exact ih (fun b x member => each b x (List.mem_cons_of_mem _ member)) holds result

end Steps

end ApiSchema
