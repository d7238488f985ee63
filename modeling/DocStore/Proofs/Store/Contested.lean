/-
  A session among rivals.

  Between any two calls of a session other clients may do whatever they like: the rivals are given a
  turn before each call, in which they send any requests, chosen with the whole state of the server
  before them (`Rivals`).  A contested session is a session in memory that keeps a record of its own
  calls, each with the server as it was just before and just after (`Call`).

  1. **One call** — what the rivals leave is sound and newer than what the call before it left, and
     the call is recorded (`answered`).

  2. **Runs** — `Leads P` relates the states before and after a run in which all calls satisfy `P`.
     A program that sends no writes leads from state to state by calls that change nothing
     (`leads_of_within`).

  3. **Quiet rivals** — as long as its rivals do nothing, a session goes on as if they were not
     there, and makes the calls that it makes then (`run_quiet`).  So where they do something once,
     the run is made up of quiet parts and of the one call that they come before (`run_send_found`).
-/
import DocStore.Proofs.Store.Server

namespace DocStore

/-- A call that a session has made: the request, its answer, and the server before and after it. -/
structure Call where
  request : Request
  answer : Except Failure request.Answer
  before : Server
  after : Server

namespace Call

/-- Whether the call tries to insert a document. -/
def isInsert (call : Call) : Bool :=
  match call.request with
  | .insert .. => true
  | _ => false

/-- Whether the call is an insert that has been accepted. -/
def isAccepted (call : Call) : Bool := call.isInsert && call.answer.toBool

/-- A call that is no accepted insert and leaves all documents as they were. -/
def IsIdle (call : Call) : Prop :=
  call.isAccepted = false ∧ Server.SameDocuments call.before call.after

/-- An idle call that does not even try to insert. -/
def IsReading (call : Call) : Prop := call.isInsert = false ∧ call.IsIdle

end Call

/-- A session with a server in memory that has rivals, with the calls it has made. -/
structure Contested where
  memory : Memory
  calls : List Call

/-- What rivals do before a call, from the number of calls that have been made and the server. -/
abbrev Rivals := Nat → Server → List Request

/-- Rivals that send a request once, before the call of a given number. -/
def Rivals.once (number : Nat) (request : Request) : Rivals := fun calls _ =>
  if calls = number then [request] else []

namespace Contested

variable (rivals : Rivals)

/-- The server that the next call finds. -/
def found (c : Contested) : Server :=
  Server.serveAll (rivals c.calls.length c.memory.server) c.memory.server

/-- Answers a request after the rivals have had their turn. -/
def answer (request : Request) (c : Contested) : Except Failure request.Answer × Contested :=
  let (answer, memory) := Memory.answer request { c.memory with server := c.found rivals }
  (answer, ⟨memory, c.calls ++ [⟨request, answer, c.found rivals, memory.server⟩]⟩)

/-- The backend of a contested session. -/
def backend : Backend Contested :=
  ⟨answer rivals, fun entry c => { c with memory := c.memory.note entry }⟩

/-! ## One call -/

variable {c c' c'' : Contested}

theorem found_isSound (h : c.memory.server.IsSound) : (c.found rivals).IsSound :=
  Server.serveAll_isSound h _

theorem since_found (h : c.memory.server.IsSound) : Server.Since c.memory.server (c.found rivals) :=
  Server.since_serveAll h _

variable {rivals}

/-- What a request does: the session is answered by the server that the rivals have left, and the
    call is recorded. -/
theorem answered {request : Request} {answer : Except Failure request.Answer}
    (h : (backend rivals).answer request c = (answer, c')) :
    (Memory.answer request { c.memory with server := c.found rivals }).1 = answer ∧
      c'.memory.server = request.serve (c.found rivals) ∧
      c'.calls = c.calls ++
        [⟨request, answer, c.found rivals, request.serve (c.found rivals)⟩] := by
  have hanswer := congrArg Prod.fst h
  have hstate := congrArg Prod.snd h
  subst hanswer hstate
  have hserver := Memory.answer_server request { c.memory with server := c.found rivals }
  refine ⟨rfl, hserver, ?_⟩
  rw [← hserver]
  rfl

/-! ## Runs -/

/-- From one state to a later one by calls that satisfy `P`: if the server was sound it still is,
    what is stored was stored then or is new, and the calls are recorded. -/
def Leads (P : Call → Prop) (c c' : Contested) : Prop :=
  c.memory.server.IsSound → c'.memory.server.IsSound ∧
    Server.Since c.memory.server c'.memory.server ∧
    ∃ calls, c'.calls = c.calls ++ calls ∧ ∀ call ∈ calls, P call

theorem Leads.refl (P : Call → Prop) (c : Contested) : Leads P c c := fun h =>
  ⟨h, Server.Since.refl _, [], (List.append_nil _).symm, fun _ hmem => absurd hmem List.not_mem_nil⟩

theorem Leads.trans {P : Call → Prop} (h : Leads P c c') (h' : Leads P c' c'') : Leads P c c'' := by
  intro hc
  obtain ⟨hc', hsince, calls, hcalls, hP⟩ := h hc
  obtain ⟨hc'', hsince', calls', hcalls', hP'⟩ := h' hc'
  refine ⟨hc'', hsince.trans hsince', calls ++ calls', ?_, fun call hmem => ?_⟩
  · rw [hcalls', hcalls, List.append_assoc]
  · exact (List.mem_append.1 hmem).elim (hP call) (hP' call)

/-- Where only the log differs, nothing has happened. -/
theorem leads_of_eq {P : Call → Prop} (hserver : c'.memory.server = c.memory.server)
    (hcalls : c'.calls = c.calls) : Leads P c c' := by
  intro hc
  rw [hserver]
  exact ⟨hc, Server.Since.refl _, [], by rw [hcalls, List.append_nil],
    fun _ hmem => absurd hmem List.not_mem_nil⟩

/-- One call leads on, whatever is known of it. -/
theorem leads_answer {P : Call → Prop} {request : Request} {answer : Except Failure request.Answer}
    (h : (backend rivals).answer request c = (answer, c'))
    (hP : P ⟨request, answer, c.found rivals, request.serve (c.found rivals)⟩) : Leads P c c' := by
  intro hc
  -- The rivals come first, and the request is answered by what they leave.
  have hfound := found_isSound rivals hc
  obtain ⟨-, hserver, hcalls⟩ := answered h
  rw [hserver]
  exact ⟨Server.serve_isSound hfound request,
    (since_found rivals hc).trans (Server.since_serve hfound request),
    _, hcalls, fun call hmem => List.mem_singleton.1 hmem ▸ hP⟩

/-- A call that is no write is a reading one. -/
theorem isReading_call {request : Request} (h : request.IsReading)
    (answer : Except Failure request.Answer) (server : Server) :
    Call.IsReading ⟨request, answer, server, request.serve server⟩ := by
  have hinsert : Call.isInsert ⟨request, answer, server, request.serve server⟩ = false := by
    cases request <;> first | rfl | exact absurd h (by simp [Request.IsReading, Request.isWrite])
  exact ⟨hinsert, by rw [Call.isAccepted, hinsert]; rfl,
    (Server.alike_of_reading h server).documents⟩

/-- A program that sends no writes leads on by reading calls. -/
theorem leads_of_within {α : Type} (rivals : Rivals) {p : Program α} {post : α → Prop}
    (hp : p.Within Request.IsReading post) (c : Contested) :
    Leads Call.IsReading c (p.run (backend rivals) c).2 :=
  hp.run_related (R := Leads Call.IsReading) (Leads.refl _) (fun _ _ _ => Leads.trans)
    (fun _ _ => leads_of_eq rfl rfl)
    (fun _ _ hreading => leads_answer rfl (isReading_call hreading _ _)) c

/-! ## Quiet rivals -/

/-- The calls that a program makes when nobody else is there. -/
def callsAlone {α : Type} : Program α → Memory → List Call
  | .done _, _ => []
  | .fail _, _ => []
  | .log entry next, m => callsAlone next (m.note entry)
  | .ask request next, m =>
    ⟨request, (Memory.answer request m).1, m.server, (Memory.answer request m).2.server⟩ ::
      callsAlone (next (Memory.answer request m).1) (Memory.answer request m).2

/-- The requests are those that the program may send. -/
theorem callsAlone_within {α : Type} {allowed : Request → Prop} {post : α → Prop} {p : Program α}
    (hp : p.Within allowed post) (m : Memory) : ∀ call ∈ callsAlone p m, allowed call.request := by
  induction p generalizing m with
  | done a => exact fun _ hmem => absurd hmem List.not_mem_nil
  | fail e => exact fun _ hmem => absurd hmem List.not_mem_nil
  | log entry next ih => exact ih hp _
  | ask request next ih => exact List.forall_mem_cons.2 ⟨hp.1, ih _ (hp.2 _) _⟩

/-- A program makes the calls of its first part, and then those of the second. -/
theorem callsAlone_bind {α β : Type} {p : Program α} {f : α → Program β} {m m' : Memory} {a : α}
    (h : p.run Memory.backend m = (.ok a, m')) :
    callsAlone (p >>= f) m = callsAlone p m ++ callsAlone (f a) m' := by
  show callsAlone (p.bind f) m = _
  induction p generalizing m with
  | done b =>
    obtain ⟨hresult, rfl⟩ := Prod.mk.inj h
    rw [← Except.ok.inj hresult]
    rfl
  | fail e => exact absurd h (by simp [Program.run])
  | log entry next ih => exact ih h
  | ask request next ih => exact congrArg (_ :: ·) (ih _ h)

theorem callsAlone_send (request : Request) (m : Memory) :
    callsAlone (Program.send request) m =
      [⟨request, (Memory.answer request m).1, m.server, (Memory.answer request m).2.server⟩] := by
  show _ :: callsAlone (Program.lift (Memory.answer request m).1) _ = _
  cases (Memory.answer request m).1 <;> rfl

/-- **As long as its rivals do nothing**, a session goes on as if they were not there. -/
theorem run_quiet {α : Type} {p : Program α} {c : Contested}
    (h : ∀ number, c.calls.length ≤ number →
      number < c.calls.length + (callsAlone p c.memory).length →
      ∀ server, rivals number server = []) :
    p.run (backend rivals) c =
      ((p.run Memory.backend c.memory).1,
        ⟨(p.run Memory.backend c.memory).2, c.calls ++ callsAlone p c.memory⟩) := by
  induction p generalizing c with
  | done a => simp [Program.run, callsAlone]
  | fail e => simp [Program.run, callsAlone]
  | log entry next ih => exact ih (c := { c with memory := c.memory.note entry }) h
  | ask request next ih =>
    have hlength : (callsAlone (.ask request next) c.memory).length =
        (callsAlone (next (Memory.answer request c.memory).1)
          (Memory.answer request c.memory).2).length + 1 := rfl
    have hquiet : c.found rivals = c.memory.server := by
      rw [found, h c.calls.length (Nat.le_refl _) (by omega)]
      rfl
    have hanswer : (backend rivals).answer request c = ((Memory.answer request c.memory).1,
        ⟨(Memory.answer request c.memory).2,
          c.calls ++ [⟨request, (Memory.answer request c.memory).1,
          c.memory.server, (Memory.answer request c.memory).2.server⟩]⟩) := by
      show answer rivals request c = _
      rw [answer, hquiet]
    show (next ((backend rivals).answer request c).1).run (backend rivals)
      ((backend rivals).answer request c).2 = _
    rw [hanswer, ih, List.append_assoc]
    · rfl
    · intro number hle hlt server
      rw [List.length_append, List.length_singleton] at hle hlt
      dsimp only at hlt
      exact h number (by omega) (by omega) server

/-- A request is answered by what the rivals leave, and recorded. -/
theorem run_send_found {request : Request} {answer : Except Failure request.Answer}
    {c : Contested} {m' : Memory}
    (h : (Program.send request).run Memory.backend { c.memory with server := c.found rivals } =
      (answer, m')) :
    ∃ c', (Program.send request).run (backend rivals) c = (answer, c') ∧ c'.memory = m' ∧
      c'.calls.map Call.request = c.calls.map Call.request ++ [request] := by
  rw [Program.run_send] at h ⊢
  have hanswer :
      Memory.answer request { c.memory with server := c.found rivals } = (answer, m') := h
  refine ⟨⟨m', c.calls ++ [⟨request, answer, c.found rivals, m'.server⟩]⟩, ?_, rfl, ?_⟩
  · show Contested.answer rivals request c = _
    rw [Contested.answer, hanswer]
  · rw [List.map_append]
    rfl

/-- Rivals that send a request once leave the server alone before every other call. -/
theorem found_once_ne {number : Nat} {request : Request} {c : Contested}
    (h : c.calls.length ≠ number) :
    c.found (.once number request) = c.memory.server := by
  rw [found, Rivals.once, if_neg h]
  rfl

theorem found_once_self {number : Nat} {request : Request} {c : Contested}
    (h : c.calls.length = number) :
    c.found (.once number request) = request.serve c.memory.server := by
  rw [found, Rivals.once, if_pos h]
  rfl

end Contested

end DocStore
