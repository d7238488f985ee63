/-
  What the runs of a session come to.

  What an operation leaves alone depends on what it finds, so it is stated of runs and not of
  programs.  `Yields I P p m` says of the run of `p` from the memory `m` that the server it leaves
  satisfies `I`, whether it ends well or fails, and that its result, if it has one, fits that server
  as `P` says.

  1. **Rules** — one for each way to put programs together, as for `Within`.

  2. **Reading** — where `I` stands every request that writes nothing (`Stands`), a program that
     writes nothing keeps it (`yields_of_within`).
-/
import DocStore.Proofs.Session.Alone

namespace DocStore

namespace Program

variable {α β : Type}

/-- The run of a program leaves a server that satisfies `I`, and its result, if it has one, fits
    that server as `P` says. -/
def Yields (I : Server → Prop) (P : α → Server → Prop) (p : Program α) (m : Memory) : Prop :=
  I (p.run Memory.backend m).2.server ∧
    ∀ a, (p.run Memory.backend m).1 = .ok a → P a (p.run Memory.backend m).2.server

variable {I J : Server → Prop} {P P' : α → Server → Prop} {Q : β → Server → Prop} {m : Memory}

/-! ## Rules -/

/-- What is known of a run. -/
theorem yields_of_run {p : Program α} {result : Except Failure α} {m' : Memory}
    (hrun : p.run Memory.backend m = (result, m')) (hI : I m'.server)
    (hP : ∀ a, result = .ok a → P a m'.server) : p.Yields I P m := by
  rw [Yields, hrun]
  exact ⟨hI, hP⟩

theorem Yields.of_run {p : Program α} {result : Except Failure α} {m' : Memory}
    (hp : p.Yields I P m) (hrun : p.run Memory.backend m = (result, m')) :
    I m'.server ∧ ∀ a, result = .ok a → P a m'.server := by
  rwa [Yields, hrun] at hp

theorem yields_pure {a : α} (hI : I m.server) (hP : P a m.server) :
    (pure a : Program α).Yields I P m :=
  yields_of_run (run_pure Memory.backend a m) hI fun _ h => Except.ok.inj h ▸ hP

theorem yields_fail (e : Failure) (hI : I m.server) : (fail e : Program α).Yields I P m :=
  ⟨hI, fun _ h => by cases h⟩

theorem yields_lift {result : Except Failure α} (hI : I m.server)
    (hP : ∀ a, result = .ok a → P a m.server) : (liftM result : Program α).Yields I P m :=
  yields_of_run (run_liftM Memory.backend result m) hI hP

theorem yields_bind {p : Program α} {f : α → Program β} (hp : p.Yields I P m)
    (hf : ∀ a m', I m'.server → P a m'.server → (f a).Yields I Q m') : (p >>= f).Yields I Q m := by
  rcases hrun : p.run Memory.backend m with ⟨e | a, m'⟩
  · rw [Yields, hrun] at hp
    exact yields_of_run (run_bind_error hrun) hp.1 fun _ h => by cases h
  · rw [Yields, hrun] at hp
    rw [Yields, run_bind_ok hrun]
    exact hf a m' hp.1 (hp.2 a rfl)

/-- A program goes on from where its first part has ended well. -/
theorem yields_bind_of_run {p : Program α} {f : α → Program β} {a : α} {m' : Memory}
    (hrun : p.run Memory.backend m = (.ok a, m')) (hf : (f a).Yields I Q m') :
    (p >>= f).Yields I Q m := by
  rwa [Yields, run_bind_ok hrun]

/-- A program goes on from a result that is there. -/
theorem yields_bind_lift {result : Except Failure α} {f : α → Program β} {a : α}
    (h : result = .ok a) (hf : (f a).Yields I Q m) :
    ((liftM result : Program α) >>= f).Yields I Q m := by
  rwa [Yields, run_bind_lift h]

/-- A result that may be there takes no request. -/
theorem yields_lift_bind {result : Except Failure α} {f : α → Program β} (hI : I m.server)
    (hf : ∀ a, result = .ok a → (f a).Yields I Q m) :
    ((liftM result : Program α) >>= f).Yields I Q m := by
  cases result with
  | error e => exact yields_of_run (run_bind_lift_error rfl f m) hI fun _ h => by cases h
  | ok a => exact yields_bind_lift rfl (hf a rfl)

theorem yields_handle {p : Program α} {h : Failure → Program α} (hp : p.Yields I P m)
    (hh : ∀ e m', I m'.server → (h e).Yields I P m') : (p.handle h).Yields I P m := by
  rcases hrun : p.run Memory.backend m with ⟨e | a, m'⟩
  · rw [Yields, hrun] at hp
    rw [Yields, run_handle, hrun]
    exact hh e m' hp.1
  · rw [Yields, hrun] at hp
    rw [Yields, run_handle, hrun]
    exact hp

theorem yields_onRefusal {kind : Refusal} {p instead : Program α} (hp : p.Yields I P m)
    (hinstead : ∀ m', I m'.server → instead.Yields I P m') :
    (p.onRefusal kind instead).Yields I P m := by
  refine yields_handle hp fun e m' hI => ?_
  show (if e.isRefusal kind then instead else .fail e).Yields I P m'
  split
  · exact hinstead m' hI
  · exact yields_fail e hI

/-- Less may be said of a run. -/
theorem Yields.mono {p : Program α} (hp : p.Yields I P m) (hI : ∀ server, I server → J server)
    (hP : ∀ a server, I server → P a server → P' a server) : p.Yields J P' m :=
  ⟨hI _ hp.1, fun a ha => hP a _ hp.1 (hp.2 a ha)⟩

/-- What is said of a run holds of every program that runs alike. -/
theorem Yields.of_run_eq {p q : Program α} (hp : p.Yields I P m)
    (h : q.run Memory.backend m = p.run Memory.backend m) : q.Yields I P m := by
  rwa [Yields, h]

/-- A guard adds nothing. -/
theorem yields_guarded {p : Program α} (hp : p.Yields I P m) (s : Session) (op : Operation)
    (model : Value) :
    (s.guarded op model p).Yields I P m := by
  obtain ⟨m', hrun, hserver⟩ := Session.run_guarded_alone (p := p) (m := m) rfl s op model
  refine yields_of_run hrun ?_ fun a ha => ?_
  · rw [hserver]
    exact hp.1
  · rw [hserver]
    exact hp.2 a ha

/-- A diagnostic entry changes nothing on the server. -/
theorem yields_note (s : Session) (op : Operation) (level : Level) (message : String)
    (hI : I m.server) :
    (s.note op level message).Yields I (fun _ server => server = m.server) m := by
  obtain ⟨m', hrun, hserver⟩ := s.run_note_alone op level message m
  exact yields_of_run hrun (hserver ▸ hI) fun _ _ => hserver

/-! ## Reading -/

/-- A condition that every request stands which writes nothing. -/
def Stands (I : Server → Prop) : Prop :=
  ∀ (request : Request) (server : Server), request.IsReading → I server → I (request.serve server)

/-- What a request that writes nothing answers. -/
theorem yields_send (h : Stands I) {request : Request} (hreading : request.IsReading)
    (hI : I m.server) :
    (send request).Yields I
      (fun a server => (Memory.answer request m).1 = .ok a ∧
        server = request.serve m.server) m := by
  refine yields_of_run (run_send Memory.backend request m) ?_ fun a ha => ⟨ha, ?_⟩
  · show I (Memory.answer request m).2.server
    rw [Memory.answer_server]
    exact h request m.server hreading hI
  · exact Memory.answer_server request m

/-- A program that writes nothing. -/
theorem yields_of_within (h : Stands I) {p : Program α} {post : α → Prop}
    (hp : p.Within Request.IsReading post) (hI : I m.server) :
    p.Yields I (fun a _ => post a) m := by
  refine ⟨?_, fun a ha => hp.of_run ha⟩
  refine hp.run_related (R := fun m m' : Memory => I m.server → I m'.server) (fun _ => id)
    (fun _ _ _ hab hbc => hbc ∘ hab) (fun _ _ => id) (fun request m hreading hI => ?_) m hI
  show I (Memory.answer request m).2.server
  rw [Memory.answer_server]
  exact h request m.server hreading hI

/-- The home of a model is found, and nothing is written. -/
theorem yields_home (h : Stands I) {s : Session} {model : Value} {home : Home}
    (hhome : ∃ stored, s.schema.modelName model = .ok stored ∧ home = s.homeOf stored)
    (hI : I m.server) :
    (s.home model).Yields I (fun found _ => home = found) m := by
  obtain ⟨stored, hstored, rfl⟩ := hhome
  refine (yields_of_within h (s.home_within model) hI).mono (fun _ h => h) ?_
  rintro found _ - ⟨other, hother, rfl⟩
  rw [Except.ok.inj (hstored.symm.trans hother)]

end Program

end DocStore
