import Mathlib.Data.List.Basic
import Mathlib.Order.Defs.Unbundled

/-! Runs of steps that may fail and keep what was done before the failure.

Every process of this library is such a step over a state of its own. The laws
below say where a run goes, so that proofs follow a program line by line without
opening the two transformers that carry it. `Ends` says where a run ends, however
it ends: something holds of its result and of the state that it leaves. `Within`
says that of any run at all, where all that matters is how its two states are related.
-/

set_option autoImplicit false

namespace Lockstep.Effect

variable {ς ε α β : Type}

@[simp] theorem run_pure (a : α) (s : ς) :
    (pure a : ExceptT ε (StateM ς) α).run s = (.ok a, s) := rfl

@[simp] theorem run_throw (e : ε) (s : ς) :
    (throw e : ExceptT ε (StateM ς) α).run s = (.error e, s) := rfl

@[simp] theorem run_get (s : ς) : (get : ExceptT ε (StateM ς) ς).run s = (.ok s, s) := rfl

@[simp] theorem run_set (t s : ς) :
    (set t : ExceptT ε (StateM ς) PUnit).run s = (.ok (), t) := rfl

@[simp] theorem run_modify (f : ς → ς) (s : ς) :
    (modify f : ExceptT ε (StateM ς) PUnit).run s = (.ok (), f s) := rfl

@[simp] theorem run_mk (f : ς → Except ε α × ς) (s : ς) :
    (ExceptT.mk f : ExceptT ε (StateM ς) α).run s = f s := rfl

@[simp] theorem run_bind (x : ExceptT ε (StateM ς) α) (f : α → ExceptT ε (StateM ς) β) (s : ς) :
    (x >>= f).run s = match x.run s with
      | (.ok a, s) => (f a).run s
      | (.error e, s) => (.error e, s) := by
  change (match x.run s with | (r, s) => (ExceptT.bindCont f r) s) = _
  rcases x.run s with ⟨_ | _, _⟩ <;> rfl

@[simp] theorem run_map (f : α → β) (x : ExceptT ε (StateM ς) α) (s : ς) :
    (f <$> x).run s = match x.run s with
      | (.ok a, s) => (.ok (f a), s)
      | (.error e, s) => (.error e, s) := by
  rw [map_eq_pure_bind, run_bind]
  rcases x.run s with ⟨_ | _, _⟩ <;> rfl

@[simp] theorem run_tryCatch (x : ExceptT ε (StateM ς) α) (f : ε → ExceptT ε (StateM ς) α)
    (s : ς) :
    (tryCatch x f).run s = match x.run s with
      | (.ok a, s) => (.ok a, s)
      | (.error e, s) => (f e).run s := by
  change (match x.run s with
    | (r, s) => (match r with | .ok a => pure (.ok a) | .error e => f e : StateM ς (Except ε α)) s) = _
  rcases x.run s with ⟨_ | _, _⟩ <;> rfl

@[simp] theorem run_adapt {δ : Type} (f : ε → δ) (x : ExceptT ε (StateM ς) α) (s : ς) :
    (ExceptT.adapt f x).run s = ((x.run s).1.mapError f, (x.run s).2) := rfl

theorem run_bind_ok {x : ExceptT ε (StateM ς) α} {f : α → ExceptT ε (StateM ς) β} {s t : ς} {b : β}
    (ran : (x >>= f).run s = (.ok b, t)) :
    ∃ a u, x.run s = (.ok a, u) ∧ (f a).run u = (.ok b, t) := by
  rw [run_bind] at ran
  rcases first : x.run s with ⟨e | a, u⟩
  · rw [first] at ran
    cases ran
  · rw [first] at ran
    exact ⟨a, u, rfl, ran⟩

def Ends (x : ExceptT ε (StateM ς) α) (s : ς) (post : Except ε α → ς → Prop) : Prop :=
  post (x.run s).1 (x.run s).2

namespace Ends

variable {x : ExceptT ε (StateM ς) α} {f : α → ExceptT ε (StateM ς) β} {s t : ς}

theorem of_run {r : Except ε α} {post : Except ε α → ς → Prop} (ran : x.run s = (r, t))
    (holds : post r t) : Ends x s post := by
  unfold Ends
  rw [ran]
  exact holds

theorem mono {post weaker : Except ε α → ς → Prop} (ends : Ends x s post)
    (weaken : ∀ r t, post r t → weaker r t) : Ends x s weaker :=
  weaken _ _ ends

theorem and {post also : Except ε α → ς → Prop} (first : Ends x s post) (second : Ends x s also) :
    Ends x s fun r t => post r t ∧ also r t :=
  ⟨first, second⟩

-- The three ways in which a run can get past its first step.

theorem step {a : α} {post : Except ε β → ς → Prop} (ran : x.run s = (.ok a, t))
    (rest : Ends (f a) t post) : Ends (x >>= f) s post := by
  unfold Ends at rest ⊢
  rw [run_bind, ran]
  exact rest

theorem halt {e : ε} {post : Except ε β → ς → Prop} (ran : x.run s = (.error e, t))
    (holds : post (.error e) t) : Ends (x >>= f) s post := by
  unfold Ends
  rw [run_bind, ran]
  exact holds

theorem bind {between : Except ε α → ς → Prop} {post : Except ε β → ς → Prop}
    (first : Ends x s between) (failed : ∀ e t, between (.error e) t → post (.error e) t)
    (rest : ∀ a t, between (.ok a) t → Ends (f a) t post) : Ends (x >>= f) s post := by
  unfold Ends at first ⊢
  rw [run_bind]
  generalize x.run s = ran at first ⊢
  obtain ⟨e | a, t⟩ := ran
  · exact failed e t first
  · exact rest a t first

theorem ignore {post : Except ε α → ς → Prop} (ends : Ends x s post) :
    Ends (do let _ ← x) s fun r t => ∃ r', post r' t ∧ r = r'.map fun _ => () := by
  apply ends.bind
  · exact fun e t holds => ⟨_, holds, rfl⟩
  · exact fun a t holds => .of_run (run_pure _ _) ⟨_, holds, rfl⟩

theorem rescue {h : ε → ExceptT ε (StateM ς) α} {between post : Except ε α → ς → Prop}
    (first : Ends x s between) (kept : ∀ a t, between (.ok a) t → post (.ok a) t)
    (handled : ∀ e t, between (.error e) t → Ends (h e) t post) :
    Ends (tryCatch x h) s post := by
  unfold Ends at first ⊢
  rw [run_tryCatch]
  generalize x.run s = ran at first ⊢
  obtain ⟨e | a, t⟩ := ran
  · exact handled e t first
  · exact kept a t first

end Ends

/-- Wherever a step starts and however it ends, it comes to a state related to its first one. -/
def Within (R : ς → ς → Prop) (x : ExceptT ε (StateM ς) α) : Prop :=
  ∀ s, Ends x s fun _ t => R s t

namespace Within

variable {R : ς → ς → Prop} {x : ExceptT ε (StateM ς) α} {f : α → ExceptT ε (StateM ς) β}

theorem of_run (within : Within R x) {s t : ς} {r : Except ε α} (ran : x.run s = (r, t)) :
    R s t := by
  have related := within s
  unfold Ends at related
  rw [ran] at related
  exact related

theorem modify {f : ς → ς} (related : ∀ s, R s (f s)) :
    Within R (modify f : ExceptT ε (StateM ς) PUnit) := related

theorem get_bind {f : ς → ExceptT ε (StateM ς) β} (rest : ∀ s, Ends (f s) s fun _ t => R s t) :
    Within R (MonadState.get >>= f) := fun s => .step (run_get s) (rest s)

theorem ignore (within : Within R x) : Within R (do let _ ← x) := fun s =>
  (within s).ignore.mono fun _ _ ⟨_, related, _⟩ => related

variable [IsPreorder ς R]

theorem of_same (same : ∀ s, (x.run s).2 = s) : Within R x := by
  intro s
  unfold Ends
  rw [same]
  exact refl s

theorem pure (a : α) : Within R (pure a : ExceptT ε (StateM ς) α) := of_same fun _ => rfl

theorem throw (e : ε) : Within R (throw e : ExceptT ε (StateM ς) α) := of_same fun _ => rfl

theorem get : Within R (get : ExceptT ε (StateM ς) ς) := of_same fun _ => rfl

theorem bind (first : Within R x) (rest : ∀ a, Within R (f a)) : Within R (x >>= f) := fun s =>
  (first s).bind (fun _ _ related => related) fun a t related =>
    (rest a t).mono fun _ _ further => IsTrans.trans _ _ _ related further

end Within

-- Checks that go without a state.

section

variable {δ : Type} {x : Except ε α} {e : ε}

/-- A chain of checks fails where its first one does, or further on. -/
theorem bind_error {f : α → Except ε β} (failed : (x >>= f) = .error e) :
    x = .error e ∨ ∃ a, x = .ok a ∧ f a = .error e := by
  cases x with
  | error cause =>
    cases failed
    exact .inl rfl
  | ok a => exact .inr ⟨a, rfl, failed⟩

theorem bind_ok {f : α → Except ε β} {b : β} (went : (x >>= f) = .ok b) :
    ∃ a, x = .ok a ∧ f a = .ok b := by
  cases x with
  | error cause => cases went
  | ok a => exact ⟨a, rfl, went⟩

theorem map_error {f : α → β} (failed : x.map f = .error e) : x = .error e := by
  cases x with
  | error cause =>
    cases failed
    rfl
  | ok a => cases failed

theorem map_ok {f : α → β} {b : β} (went : x.map f = .ok b) : ∃ a, x = .ok a ∧ b = f a := by
  cases x with
  | error cause => cases went
  | ok a =>
    cases went
    exact ⟨a, rfl, rfl⟩

theorem mapError_error {f : ε → δ} {d : δ} (failed : x.mapError f = .error d) :
    ∃ cause, x = .error cause ∧ d = f cause := by
  cases x with
  | error cause =>
    cases failed
    exact ⟨cause, rfl, rfl⟩
  | ok a => cases failed

theorem mapError_ok {f : ε → δ} {a : α} (went : x.mapError f = .ok a) : x = .ok a := by
  cases x with
  | error cause => cases went
  | ok b =>
    cases went
    rfl

end

end Lockstep.Effect
