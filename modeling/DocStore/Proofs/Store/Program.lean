/-
  Programs without a store.

  Some facts about a program hold whatever answers its requests: what kinds of requests it sends,
  and what its results look like.  `Within allowed P` says that a program sends allowed requests
  only and that all its results satisfy `P`; it says nothing about failures.  It is proved along the
  text of a program, one rule for each way to put programs together, and used by `Within.of_run` for
  the result of a run and by `Within.run_related` for what a run does to the state.

  What a program does ask of a backend, and is answered, are its `exchanges`.
-/
import DocStore.Store.Program

namespace DocStore

/-- Whether a request may change documents. -/
def Request.isWrite : Request → Bool
  | .insert .. => true
  | .destroy .. => true
  | _ => false

/-- A request that changes no document. -/
def Request.IsReading (request : Request) : Prop := request.isWrite = false

namespace Program

variable {σ α β : Type}

/-- A program that sends allowed requests only and whose results satisfy a condition. -/
def Within (allowed : Request → Prop) (P : α → Prop) : Program α → Prop
  | .done a => P a
  | .fail _ => True
  | .log _ next => Within allowed P next
  | .ask request next => allowed request ∧ ∀ answer, Within allowed P (next answer)

variable {allowed : Request → Prop} {P : α → Prop} {Q : β → Prop}

/-! ## Rules -/

theorem within_pure {a : α} (h : P a) : (pure a : Program α).Within allowed P := h

theorem within_fail (e : Failure) : (fail e : Program α).Within allowed P := trivial

theorem within_lift {result : Except Failure α} (h : ∀ a, result = .ok a → P a) :
    (lift result).Within allowed P := by
  cases result with
  | error e => exact trivial
  | ok a => exact h a rfl

theorem within_send {request : Request} {P : request.Answer → Prop} (hallowed : allowed request)
    (hpost : ∀ a, P a) : (send request).Within allowed P :=
  ⟨hallowed, fun _ => within_lift fun a _ => hpost a⟩

theorem within_note (logger : Logger) (level : Level) (message : String) :
    (note logger level message).Within allowed fun _ => True := trivial

theorem within_bind {p : Program α} {f : α → Program β} (hp : p.Within allowed P)
    (hf : ∀ a, P a → (f a).Within allowed Q) : (p >>= f).Within allowed Q := by
  show (bind p f).Within allowed Q
  induction p with
  | done a => exact hf a hp
  | fail e => exact trivial
  | log entry next ih => exact ih hp
  | ask request next ih => exact ⟨hp.1, fun answer => ih answer (hp.2 answer)⟩

theorem within_handle {p : Program α} {h : Failure → Program α} (hp : p.Within allowed P)
    (hh : ∀ e, (h e).Within allowed P) : (p.handle h).Within allowed P := by
  induction p with
  | done a => exact hp
  | fail e => exact hh e
  | log entry next ih => exact ih hp
  | ask request next ih => exact ⟨hp.1, fun answer => ih answer (hp.2 answer)⟩

theorem within_onRefusal {kind : Refusal} {p instead : Program α} (hp : p.Within allowed P)
    (hinstead : instead.Within allowed P) : (p.onRefusal kind instead).Within allowed P := by
  refine within_handle hp fun e => ?_
  show (if e.isRefusal kind then instead else .fail e).Within allowed P
  split
  · exact hinstead
  · exact trivial

/-- What is allowed may be more, and what is known of the results less. -/
theorem Within.mono {allowed' : Request → Prop} {P' : α → Prop} {p : Program α}
    (hp : p.Within allowed P) (hallowed : ∀ request, allowed request → allowed' request)
    (hP : ∀ a, P a → P' a) :
    p.Within allowed' P' := by
  induction p with
  | done a => exact hP a hp
  | fail e => exact trivial
  | log entry next ih => exact ih hp
  | ask request next ih => exact ⟨hallowed request hp.1, fun answer => ih answer (hp.2 answer)⟩

/-! ## Runs -/

/-- The result of a run satisfies the condition. -/
theorem Within.of_run {backend : Backend σ} {p : Program α}
    (hp : p.Within allowed P) {s : σ} {a : α} (h : (p.run backend s).1 = .ok a) : P a := by
  induction p generalizing s with
  | done b =>
    obtain rfl : b = a := by simpa [run] using h
    exact hp
  | fail e => exact absurd h (by simp [run])
  | log entry next ih => exact ih hp h
  | ask request next ih => exact ih _ (hp.2 _) h

/-- A run relates the states before and after it as its steps do. -/
theorem Within.run_related {backend : Backend σ} {p : Program α} (hp : p.Within allowed P)
    {R : σ → σ → Prop} (hrefl : ∀ s, R s s) (htrans : ∀ s t u, R s t → R t u → R s u)
    (hnote : ∀ entry s, R s (backend.note entry s))
    (hanswer : ∀ request s, allowed request → R s (backend.answer request s).2) (s : σ) :
    R s (p.run backend s).2 := by
  induction p generalizing s with
  | done a => exact hrefl s
  | fail e => exact hrefl s
  | log entry next ih => exact htrans _ _ _ (hnote entry s) (ih hp _)
  | ask request next ih =>
    exact htrans _ _ _ (hanswer request s hp.1) (ih _ (hp.2 _) _)

/-- Two runs of a program from related states come to the same, when its requests are answered alike
    in related states. -/
theorem Within.run_lockstep {backend : Backend σ} {p : Program α} (hp : p.Within allowed P)
    {R : σ → σ → Prop}
    (hnote : ∀ entry s t, R s t → R (backend.note entry s) (backend.note entry t))
      (hanswer : ∀ request s t, allowed request → R s t →
      (backend.answer request s).1 = (backend.answer request t).1 ∧
        R (backend.answer request s).2 (backend.answer request t).2) {s t : σ} (h : R s t) :
    (p.run backend s).1 = (p.run backend t).1 ∧ R (p.run backend s).2 (p.run backend t).2 := by
  induction p generalizing s t with
  | done a => exact ⟨rfl, h⟩
  | fail e => exact ⟨rfl, h⟩
  | log entry next ih => exact ih hp (hnote entry s t h)
  | ask request next ih =>
    obtain ⟨hsame, hnext⟩ := hanswer request s t hp.1 h
    show ((next (backend.answer request s).1).run backend (backend.answer request s).2).1 =
        ((next (backend.answer request t).1).run backend (backend.answer request t).2).1 ∧
      R ((next (backend.answer request s).1).run backend (backend.answer request s).2).2
        ((next (backend.answer request t).1).run backend (backend.answer request t).2).2
    rw [← hsame]
    exact ih _ (hp.2 _) hnext

/-- A program goes on from where its first part has ended well. -/
theorem run_bind_ok {backend : Backend σ} {p : Program α} {f : α → Program β} {s s' : σ} {a : α}
    (h : p.run backend s = (.ok a, s')) : (p >>= f).run backend s = (f a).run backend s' := by
  rw [run_bind, h]

/-- A program ends where its first part has failed. -/
theorem run_bind_error {backend : Backend σ} {p : Program α} {f : α → Program β} {s s' : σ}
    {e : Failure} (h : p.run backend s = (.error e, s')) :
    (p >>= f).run backend s = (.error e, s') := by
  rw [run_bind, h]

/-- Sending a request is answering it. -/
theorem run_send (backend : Backend σ) (request : Request) (s : σ) :
    (send request).run backend s = backend.answer request s := by
  show (lift (backend.answer request s).1).run backend (backend.answer request s).2 = _
  rcases backend.answer request s with ⟨answer, s'⟩
  cases answer <;> rfl

theorem run_lift (backend : Backend σ) (result : Except Failure α) (s : σ) :
    (lift result).run backend s = (result, s) := by
  cases result <;> rfl

theorem run_liftM (backend : Backend σ) (result : Except Failure α) (s : σ) :
    (liftM result : Program α).run backend s = (result, s) := run_lift backend result s

/-- A program goes on from a result that is there. -/
theorem run_bind_lift {backend : Backend σ} {result : Except Failure α} {a : α} (h : result = .ok a)
    (f : α → Program β) (s : σ) :
    ((liftM result : Program α) >>= f).run backend s = (f a).run backend s := by
  rw [run_bind, run_liftM, h]

/-- A program ends where a result is not there. -/
theorem run_bind_lift_error {backend : Backend σ} {result : Except Failure α} {e : Failure}
    (h : result = .error e) (f : α → Program β) (s : σ) :
    ((liftM result : Program α) >>= f).run backend s = (.error e, s) := by
  rw [run_bind, run_liftM, h]

/-- A program comes to what its second part makes of the result of the first, or to the failure of
    that. -/
theorem exists_run_bind {backend : Backend σ} {p : Program α} {f : α → Program β}
    {result : Except Failure α} {g : α → Except Failure β} {Q : σ → Prop} {s : σ}
    (hp : ∃ s', p.run backend s = (result, s') ∧ Q s')
    (h : ∀ a s', result = .ok a → Q s' → ∃ s'', (f a).run backend s' = (g a, s'') ∧ Q s'') :
    ∃ s'', (p >>= f).run backend s = (result >>= g, s'') ∧ Q s'' := by
  obtain ⟨s', hrun, hs'⟩ := hp
  cases result with
  | error e => exact ⟨s', run_bind_error hrun, hs'⟩
  | ok a =>
    obtain ⟨s'', hrest, hs''⟩ := h a s' rfl hs'
    exact ⟨s'', (run_bind_ok hrun).trans hrest, hs''⟩

/-- A result that is there or not leaves the state alone. -/
theorem exists_run_lift (backend : Backend σ) (result : Except Failure α) {Q : σ → Prop}
    {s : σ} (hs : Q s) :
    ∃ s', (liftM result : Program α).run backend s = (result, s') ∧ Q s' :=
  ⟨s, run_liftM backend result s, hs⟩

theorem run_pure (backend : Backend σ) (a : α) (s : σ) :
    (pure a : Program α).run backend s = (.ok a, s) := rfl

theorem run_note (backend : Backend σ) (logger : Logger) (level : Level)
    (message : String) (s : σ) :
    (note logger level message).run backend s = (.ok (), backend.note ⟨logger, level, message⟩ s) :=
      rfl

theorem run_noteIf (backend : Backend σ) (on : Bool) (logger : Logger) (level : Level)
    (message : String) (s : σ) :
    (noteIf on logger level message).run backend s =
      (.ok (), if on = true then backend.note ⟨logger, level, message⟩ s else s) := by
  cases on <;> rfl

/-- A program that fails on every refusal but one kind goes on after that kind only. -/
theorem run_onRefusal (backend : Backend σ) (kind : Refusal) (p instead : Program α) (s : σ) :
    (p.onRefusal kind instead).run backend s =
      match p.run backend s with
      | (.ok a, s') => (.ok a, s')
      | (.error e, s') =>
        if e.isRefusal kind = true then instead.run backend s' else (.error e, s') := by
  rw [onRefusal, run_handle]
  rcases p.run backend s with ⟨_ | a, s'⟩
  · dsimp only
    split <;> rfl
  · rfl

/-- Programs that run alike do so whatever is run instead. -/
theorem run_onRefusal_congr {backend : Backend σ} {p q : Program α} {s : σ}
    (h : p.run backend s = q.run backend s) (kind : Refusal) (instead : Program α) :
    (p.onRefusal kind instead).run backend s = (q.onRefusal kind instead).run backend s := by
  rw [run_onRefusal, h, ← run_onRefusal]

/-- What ends well needs nothing instead. -/
theorem run_onRefusal_ok {backend : Backend σ} {p : Program α} {s s' : σ} {a : α}
    (h : p.run backend s = (.ok a, s')) (kind : Refusal) (instead : Program α) :
    (p.onRefusal kind instead).run backend s = (.ok a, s') := by
  rw [run_onRefusal, h]

end Program

/-! ## Exchanges -/

/-- A request with its answer. -/
structure Exchange where
  request : Request
  answer : Except Failure request.Answer

namespace Program

variable {σ α : Type}

/-- What a program asks of a backend and is answered, in order. -/
def exchanges (backend : Backend σ) : Program α → σ → List Exchange
  | .done _, _ => []
  | .fail _, _ => []
  | .log entry next, s => exchanges backend next (backend.note entry s)
  | .ask request next, s =>
    ⟨request, (backend.answer request s).1⟩ ::
      exchanges backend (next (backend.answer request s).1) (backend.answer request s).2

/-- A program that begins with a request exchanges it first, and then goes on from the answer. -/
theorem exchanges_send_bind {backend : Backend σ} {request : Request}
    {a : request.Answer} {s s' : σ} (h : backend.answer request s = (.ok a, s'))
    (f : request.Answer → Program α) :
    (send request >>= f).exchanges backend s = ⟨request, .ok a⟩ :: (f a).exchanges backend s' := by
  show ⟨request, (backend.answer request s).1⟩ ::
    (bind (lift (backend.answer request s).1) f).exchanges backend (backend.answer request s).2 = _
  rw [h]
  rfl

end Program

end DocStore
