/-
  Programs over a store.

  A `Program` is what an operation does, apart from any store: it ends with a result or a failure,
  writes a log entry and goes on, or sends a request and goes on with the answer.  All that happens
  between two requests of a program is in the hands of the store that answers them, so a program can
  be run against a store in memory, one with faults, one that other clients write to in between, or
  one at the other end of a connection, and statements about it can quantify over all of these.

  A `Backend` answers requests and takes log entries, on a state of its own; `Program.run` runs a
  program against it.
-/
import DocStore.Store.Request

namespace DocStore

/-- A program over a store. -/
inductive Program (α : Type) where
  | done (result : α)
  | fail (failure : Failure)
  | log (entry : LogEntry) (next : Program α)
  | ask (request : Request) (next : Except Failure request.Answer → Program α)

namespace Program

/-- Runs one program and then, with its result, another. -/
def bind {α β : Type} : Program α → (α → Program β) → Program β
  | .done a, f => f a
  | .fail e, _ => .fail e
  | .log entry next, f => .log entry (bind next f)
  | .ask request next, f => .ask request fun answer => bind (next answer) f

instance : Monad Program where
  pure := .done
  bind := bind

/-- Goes on with another program if one fails.  The handler sees every failure. -/
def handle {α : Type} : Program α → (Failure → Program α) → Program α
  | .done a, _ => .done a
  | .fail e, h => h e
  | .log entry next, h => .log entry (handle next h)
  | .ask request next, h => .ask request fun answer => handle (next answer) h

/-- Goes on with another program if one is refused in the given way; other failures pass. -/
def onRefusal {α : Type} (kind : Refusal) (p : Program α) (instead : Program α) : Program α :=
  p.handle fun e => if e.isRefusal kind then instead else .fail e

/-- A result that may be a failure. -/
def lift {α : Type} : Except Failure α → Program α
  | .ok a => .done a
  | .error e => .fail e

instance : MonadLift (Except Failure) Program where
  monadLift := lift

/-- Sends a request and ends with its answer. -/
def send (request : Request) : Program request.Answer := .ask request lift

/-- Writes a log entry. -/
def note (logger : Logger) (level : Level) (message : String) : Program Unit :=
  .log ⟨logger, level, message⟩ (.done ())

/-- Writes a log entry if a condition holds. -/
def noteIf (on : Bool) (logger : Logger) (level : Level) (message : String) : Program Unit :=
  if on then note logger level message else .done ()

end Program

/-- What answers the requests of programs. -/
structure Backend (σ : Type) where
  answer : (request : Request) → σ → Except Failure request.Answer × σ
  note : LogEntry → σ → σ

/-- Runs a program against a backend. -/
def Program.run {σ α : Type} (backend : Backend σ) : Program α → σ → Except Failure α × σ
  | .done a, s => (.ok a, s)
  | .fail e, s => (.error e, s)
  | .log entry next, s => run backend next (backend.note entry s)
  | .ask request next, s =>
    let (answer, s') := backend.answer request s
    run backend (next answer) s'

/-! ## Running is compatible with the ways to put programs together -/

namespace Program

variable {σ α β : Type}

theorem run_bind (backend : Backend σ) (p : Program α) (f : α → Program β) (s : σ) :
    (p >>= f).run backend s =
      match p.run backend s with
      | (.ok a, s') => (f a).run backend s'
      | (.error e, s') => (.error e, s') := by
  show (bind p f).run backend s = _
  induction p generalizing s with
  | done a => rfl
  | fail e => rfl
  | log entry next ih => exact ih _
  | ask request next ih => exact ih _ _

theorem run_handle (backend : Backend σ) (p : Program α) (h : Failure → Program α) (s : σ) :
    (p.handle h).run backend s =
      match p.run backend s with
      | (.ok a, s') => (.ok a, s')
      | (.error e, s') => (h e).run backend s' := by
  induction p generalizing s with
  | done a => rfl
  | fail e => rfl
  | log entry next ih => exact ih _
  | ask request next ih => exact ih _ _

end Program

end DocStore
