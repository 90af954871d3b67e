import ResourceManager.Session.Run

/-!
# Reasoning about runs

A run takes a session to a result and to the session behind it.  This file says what the steps of a
run do to its outcome, and gives the rules by which facts about the steps become facts about the
whole.

`Run.Meets r P Q E` is the form that such facts take: started where `P` holds, `r` ends with a value
where `Q` holds of it, or it is stopped where `E` holds of what stopped it.  What stops one step
stops the run, so `E` is the same for all steps of a run, and `Run.Meets.bind` only has to hand what
one step leaves behind to the next.

There are two ways to use a fact of this form.  Where only the properties of a run count, it is put
together from those of its steps, along the code, and no step is ever opened.  Where the result
itself is wanted, `Run.outcome_bind_ok` and `Run.outcome_bind_error` follow one outcome from step to
step; most of the later files do that once for each function and go on with what they have found.

A run that is stopped keeps the session that it has come to.  That is why `E` speaks of a session as
well: what was sent before an error has been sent.
-/

set_option autoImplicit false

namespace ResourceManager
namespace Run

variable {α β : Type}

/-! ## Outcomes of steps -/

-- The steps that runs are made of.  Each of them has one outcome, so `simp` may compute it.
@[simp] theorem outcome_pure (a : α) (s : Session) :
    (pure a : Run α).outcome s = (.ok a, s) := rfl

@[simp] theorem outcome_get (s : Session) : (get : Run Session).outcome s = (.ok s, s) := rfl

@[simp] theorem outcome_set (s t : Session) : (set t : Run PUnit).outcome s = (.ok ⟨⟩, t) := rfl

@[simp] theorem outcome_modify (f : Session → Session) (s : Session) :
    (modify f : Run PUnit).outcome s = (.ok ⟨⟩, f s) := rfl

@[simp] theorem outcome_ofExcept_ok (a : α) (s : Session) :
    (ofExcept (.ok a)).outcome s = (.ok a, s) := rfl

@[simp] theorem outcome_ofExcept_error (e : Error) (s : Session) :
    (ofExcept (.error e) : Run α).outcome s = (.error (.error e), s) := rfl

/-- What stops the first step stops the run; else the second one goes on where the first ended. -/
theorem outcome_bind (r : Run α) (f : α → Run β) (s : Session) :
    (r >>= f).outcome s =
      match r.outcome s with
      | (.ok a, s₁) => (f a).outcome s₁
      | (.error stop, s₁) => (.error stop, s₁) := by
  -- both transformers have a bind of their own; behind them there is one session and one result
  simp only [outcome, ExceptT.run_bind, StateT.run_bind]
  show (match StateT.run (ExceptT.run r) s with | (a, s₁) => _) = _
  rcases StateT.run (ExceptT.run r) s with ⟨stop | a, s₁⟩
  · rfl
  · rfl

/-- A handler goes on where the run was stopped. -/
theorem outcome_tryCatch (r : Run α) (handler : Stop → Run α) (s : Session) :
    (tryCatch r handler).outcome s =
      match r.outcome s with
      | (.ok a, s₁) => (.ok a, s₁)
      | (.error stop, s₁) => (handler stop).outcome s₁ := by
  show StateT.run (ExceptT.run (ExceptT.tryCatch r handler)) s = _
  simp only [outcome, ExceptT.tryCatch, ExceptT.run, ExceptT.mk, StateT.run_bind]
  rcases StateT.run r s with ⟨stop | a, s₁⟩
  · rfl
  · rfl

/-- The form in which a run is followed along a step that has a value. -/
theorem outcome_bind_ok {r : Run α} {s s₁ : Session} {a : α} (h : r.outcome s = (.ok a, s₁))
    (f : α → Run β) : (r >>= f).outcome s = (f a).outcome s₁ := by
  rw [outcome_bind, h]

/-- And along one that has none: what would have come behind it does not count. -/
theorem outcome_bind_error {r : Run α} {s s₁ : Session} {stop : Stop}
    (h : r.outcome s = (.error stop, s₁)) (f : α → Run β) :
    (r >>= f).outcome s = (.error stop, s₁) := by
  rw [outcome_bind, h]

/-- A run of two steps has a value exactly if both have. -/
theorem outcome_bind_eq_ok {r : Run α} {f : α → Run β} {s s₂ : Session} {b : β} :
    (r >>= f).outcome s = (.ok b, s₂) ↔
      ∃ a s₁, r.outcome s = (.ok a, s₁) ∧ (f a).outcome s₁ = (.ok b, s₂) := by
  rcases h : r.outcome s with ⟨stop | a, s₁⟩
  · rw [outcome_bind_error h]
    simp
  · rw [outcome_bind_ok h]
    constructor
    · intro hf
      exact ⟨a, s₁, rfl, hf⟩
    · rintro ⟨a', s', ha, hf⟩
      cases ha
      exact hf

/-- A value that is handed on is the result, and nothing has happened to the session. -/
theorem outcome_pure_eq_ok {a b : α} {s s₁ : Session} :
    (pure a : Run α).outcome s = (.ok b, s₁) ↔ a = b ∧ s = s₁ := by
  rw [outcome_pure, Prod.mk.injEq, Except.ok.injEq]

/-- Reading a value leaves the session alone. -/
theorem session_bind_ofExcept (r : Run α) (f : α → Except Error β) (s : Session) :
    ((r >>= fun a ↦ ofExcept (f a)).outcome s).2 = (r.outcome s).2 := by
  rcases h : r.outcome s with ⟨stop | a, s₁⟩
  · rw [outcome_bind_error h]
  · rw [outcome_bind_ok h]
    cases f a with
    | ok b => rfl
    | error e => rfl

/-- So does a function of the value of a run. -/
theorem session_bind_pure (r : Run α) (f : α → β) (s : Session) :
    ((r >>= fun a ↦ pure (f a)).outcome s).2 = (r.outcome s).2 :=
  session_bind_ofExcept r (fun a ↦ .ok (f a)) s

theorem outcome_fst_bind_pure (r : Run α) (f : α → β) (s : Session) :
    ((r >>= fun a ↦ pure (f a)).outcome s).1 = (r.outcome s).1.map f := by
  rcases h : r.outcome s with ⟨stop | a, s₁⟩
  · rw [outcome_bind_error h]
    rfl
  · rw [outcome_bind_ok h]
    rfl

/-- The way to compare the result of a computation with a value whose errors have no equality that
could be decided. -/
theorem eq_ok_of_toOption {ε : Type} {x : Except ε α} {a : α} (h : x.toOption = some a) :
    x = .ok a := by
  cases x with
  | ok b => exact congrArg Except.ok (Option.some_inj.mp h)
  | error _ => cases h

/-- Two results that are the same through a function are the same error, or both are values. -/
theorem cases_of_map_eq {ε : Type} {f : α → β} {x y : Except ε α} (h : x.map f = y.map f) :
    (∃ e, x = .error e ∧ y = .error e) ∨ ∃ a b, x = .ok a ∧ y = .ok b ∧ f a = f b := by
  rcases x with e | a <;> rcases y with e' | b <;> simp_all [Except.map]

/-- Reading data has a value exactly if the data has. -/
theorem outcome_ofExcept_eq_ok {x : Except Error α} {b : α} {s s₁ : Session} :
    (ofExcept x).outcome s = (.ok b, s₁) ↔ x = .ok b ∧ s = s₁ := by
  cases x with
  | ok a => rw [outcome_ofExcept_ok, Prod.mk.injEq, Except.ok.injEq, Except.ok.injEq]
  | error e => simp

/-! ## What holds of a run -/

/-- Started where `P` holds, the run ends with a value where `Q` holds of it, or it is stopped where
`E` holds of what stopped it.  Both halves are implications about an outcome, so a run may meet many
such facts at once, and those of its parts need not be chosen with the whole in mind. -/
structure Meets (r : Run α) (P : Session → Prop) (Q : α → Session → Prop)
    (E : Stop → Session → Prop) : Prop where
  ok : ∀ {s s₁ : Session} {a : α}, P s → r.outcome s = (.ok a, s₁) → Q a s₁
  error : ∀ {s s₁ : Session} {stop : Stop}, P s → r.outcome s = (.error stop, s₁) → E stop s₁

/-- The run goes from where `I` holds to where `I` holds, unless it is stopped where `E` holds. -/
abbrev Keeps (r : Run α) (I : Session → Prop) (E : Stop → Session → Prop) : Prop :=
  r.Meets I (fun _ ↦ I) E

namespace Meets

variable {P P' : Session → Prop} {Q Q' : α → Session → Prop} {R : β → Session → Prop}
  {E E' : Stop → Session → Prop}

/-- What is asked for may be less than what there is: the rule of consequence. -/
theorem mono {r : Run α} (h : r.Meets P Q E) (hP : ∀ s, P' s → P s)
    (hQ : ∀ a s, Q a s → Q' a s) (hE : ∀ stop s, E stop s → E' stop s) : r.Meets P' Q' E' where
  ok hs ho := hQ _ _ (h.ok (hP _ hs) ho)
  error hs ho := hE _ _ (h.error (hP _ hs) ho)

/-- Every run does something. -/
theorem trivial {r : Run α} : r.Meets P (fun _ _ ↦ True) fun _ _ ↦ True where
  ok _ _ := True.intro
  error _ _ := True.intro

/-- Two facts about a run are a fact about it, each with its own premise. -/
theorem and {r : Run α} (h : r.Meets P Q E) (h' : r.Meets P' Q' E') :
    r.Meets (fun s ↦ P s ∧ P' s) (fun a s ↦ Q a s ∧ Q' a s) fun stop s ↦ E stop s ∧ E' stop s where
  ok hs ho := ⟨h.ok hs.1 ho, h'.ok hs.2 ho⟩
  error hs ho := ⟨h.error hs.1 ho, h'.error hs.2 ho⟩

/-- A run meets from one session what it meets from all of a kind. -/
theorem at_session {r : Run α} (h : r.Meets P Q E) {t : Session} (ht : P t) :
    r.Meets (· = t) Q E where
  ok hs ho := h.ok (by rwa [hs]) ho
  error hs ho := h.error (by rwa [hs]) ho

theorem pure {a : α} (h : ∀ s, P s → Q a s) : (pure a : Run α).Meets P Q E where
  ok hs ho := by
    cases ho
    exact h _ hs
  error _ ho := by cases ho

theorem throw {stop : Stop} (h : ∀ s, P s → E stop s) : (throw stop : Run α).Meets P Q E where
  ok _ ho := by cases ho
  error hs ho := by
    cases ho
    exact h _ hs

/-- For a step that is never stopped an equation says all.  Many steps of a run are of this kind:
they change the session and go on. -/
theorem of_outcome {r : Run α} {a : α} {f : Session → Session}
    (hr : ∀ s, r.outcome s = (.ok a, f s)) (h : ∀ s, P s → Q a (f s)) : r.Meets P Q E where
  ok {s _ _} hs ho := by
    rw [hr] at ho
    cases ho
    exact h s hs
  error {s _ _} _ ho := by
    rw [hr] at ho
    cases ho

theorem modify {f : Session → Session} {Q : PUnit → Session → Prop}
    (h : ∀ s, P s → Q ⟨⟩ (f s)) : (modify f : Run PUnit).Meets P Q E :=
  of_outcome (outcome_modify f) h

/-- Reading data leaves the session alone, so whatever comes of it is said of the session in which
it was begun. -/
theorem ofExcept {x : Except Error α} (hok : ∀ a s, x = .ok a → P s → Q a s)
    (herror : ∀ e s, x = .error e → P s → E (.error e) s) : (Run.ofExcept x).Meets P Q E := by
  cases x with
  | ok a => exact pure fun s hs ↦ hok a s rfl hs
  | error e => exact throw fun s hs ↦ herror e s rfl hs

/-- What the first step leaves behind is all that the second one may rely on, and what stops either
of them stops the run.  This is the rule that nearly every proof about a function of the program
goes by. -/
theorem bind {r : Run α} {f : α → Run β} (hr : r.Meets P Q E)
    (hf : ∀ a, (f a).Meets (Q a) R E) : (r >>= f).Meets P R E where
  ok {s _ _} hs ho := by
    rcases h : r.outcome s with ⟨stop | a, s₁⟩
    · rw [outcome_bind_error h] at ho
      cases ho
    · rw [outcome_bind_ok h] at ho
      exact (hf a).ok (hr.ok hs h) ho
  error {s _ _} hs ho := by
    rcases h : r.outcome s with ⟨stop | a, s₁⟩
    · rw [outcome_bind_error h] at ho
      cases ho
      exact hr.error hs h
    · rw [outcome_bind_ok h] at ho
      exact (hf a).error (hr.ok hs h) ho

/-- A look at the session itself; what follows starts in the session that was seen. -/
theorem get_bind {f : Session → Run β} (hf : ∀ t, P t → (f t).Meets (· = t) R E) :
    (get >>= f).Meets P R E where
  ok {s _ _} hs ho := (hf s hs).ok rfl ((outcome_bind_ok (outcome_get s) f).symm.trans ho)
  error {s _ _} hs ho := (hf s hs).error rfl ((outcome_bind_ok (outcome_get s) f).symm.trans ho)

/-- What a run keeps in any case holds of the session behind it. -/
theorem session {I : Session → Prop} {r : Run α} (h : r.Keeps I fun _ ↦ I) {s : Session}
    (hs : I s) : I (r.outcome s).2 := by
  rcases ho : r.outcome s with ⟨stop | a, s₁⟩
  · exact h.error hs ho
  · exact h.ok hs ho

end Meets
end Run
end ResourceManager
