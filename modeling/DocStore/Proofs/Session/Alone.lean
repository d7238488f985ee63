/-
  Sessions that are alone.

  When nobody else writes, what a session finds is what it has found before.  Operations that read
  can then be followed step by step: each of their parts ends well and leaves a server that answers
  as before.

  1. **Homes** — the home of a model is found, whether its database has to be created first or not
     (`run_home`).

  2. **Notes and guards** — neither changes what a part of an operation comes to (`run_note_alone`,
     `run_guarded_ok`).

  3. **Queries** — a query is answered from what has been stored before (`run_find_answer`), so from
     what is listed (`run_find`).
-/
import DocStore.Proofs.Session.Home
import DocStore.Proofs.Store.Query

namespace DocStore

open Program

namespace Session

/-! ## Homes -/

/-- A database whose name can be a key is opened, and created if it is not there. -/
theorem run_openDatabase {name : Value} (h : name.isKey = true) (m : Memory) :
    ∃ m', (openDatabase name).run Memory.backend m = (.ok (), m') := by
  have hexists : (send (.exists name)).run Memory.backend m = (.ok (m.server.exists? name), m) := by
    rw [run_send]
    show ((if name.isKey = true then Except.ok
      (m.server.exists? name) else .error Failure.wrongKind), m) = _
    rw [if_pos h]
  have hopen : ∀ m : Memory, ∃ m',
      (send (.openDatabase name)).run Memory.backend m = (.ok (), m') :=
    fun _ => ⟨_, rfl⟩
  unfold openDatabase
  rw [run_bind_ok hexists]
  cases hknown : m.server.exists? name with
  | true => exact hopen m
  | false =>
    -- Nobody else creates it in the meantime, so creating is not refused.
    have hcreate : ∃ m', (send (.createDatabase name)).run Memory.backend m = (.ok (), m') := by
      rw [run_send]
      have hcreated : (m.server.create name).1 = .ok () := by
        have hcalled :
          ({ m.server with createCalls := m.server.createCalls ++ [name] } : Server).exists? name =
          false := hknown
        rw [Server.create]
        simp [h, hcalled]
      exact ⟨_, by rw [← hcreated]; rfl⟩
    obtain ⟨m', hm'⟩ := hcreate
    obtain ⟨m'', hm''⟩ := hopen (m'.note ⟨.resolver, .debug, "Created database " ++ name.written⟩)
    refine ⟨m'', ?_⟩
    rw [← hm'']
    refine run_bind_ok (a := ()) ?_
    rw [run_onRefusal, run_bind_ok hm']
    rfl

/-- **The home of a model is found**, and nothing changes that is stored. -/
theorem run_home {s : Session} (hs : s.schema.isTyped = true) (model : String) {home : Home}
    (hhome : ∃ stored, s.schema.modelName (.text model) = .ok stored ∧ home = s.homeOf stored)
    (m : Memory) :
    ∃ m', (s.home (.text model)).run Memory.backend m = (.ok home, m') ∧
      m.server.Alike m'.server := by
  have hok : ∃ m', (s.home (.text model)).run Memory.backend m = (.ok home, m') := by
    obtain ⟨stored, hstored, rfl⟩ := hhome
    obtain ⟨text, htext⟩ := Schema.modelName_typed hs model
    obtain rfl := Except.ok.inj (hstored.symm.trans htext)
    obtain ⟨name, hname⟩ := s.homeOf_database text
    have hkey : (s.settings.databaseOf (.text text)).isKey = true := by
      have hname : s.settings.databaseOf (.text text) = .text name := hname
      rw [hname]
      rfl
    have hisOpen : ∃ opened,
        (send (.isOpen (s.settings.databaseOf (.text text)))).run Memory.backend m =
        (.ok opened, m) := ⟨_, rfl⟩
    obtain ⟨opened, hopened⟩ := hisOpen
    unfold home
    rw [run_bind, run_liftM, hstored]
    dsimp only
    rw [if_pos hkey, run_bind_ok hopened]
    cases opened with
    | true => exact ⟨_, rfl⟩
    | false =>
      obtain ⟨m', hm'⟩ := run_openDatabase hkey m
      exact ⟨m', run_bind_ok hm'⟩
  obtain ⟨m', hm'⟩ := hok
  have halike := Memory.alike_of_within (s.home_within (.text model)) m
  rw [hm'] at halike
  exact ⟨m', hm', halike⟩

/-! ## Notes and guards -/

/-- A diagnostic entry changes nothing on the server. -/
theorem run_note_alone (s : Session) (op : Operation) (level : Level)
    (message : String) (m : Memory) :
    ∃ m', (s.note op level message).run Memory.backend m = (.ok (), m') ∧ m'.server = m.server := by
  rw [note, run_noteIf]
  split
  · exact ⟨_, rfl, rfl⟩
  · exact ⟨_, rfl, rfl⟩

/-- A part that ends well does so under guard. -/
theorem run_guarded_ok {σ α : Type} {backend : Backend σ} {p : Program α} {st st' : σ} {a : α}
    (h : p.run backend st = (.ok a, st')) (s : Session) (op : Operation) (model : Value) :
    (s.guarded op model p).run backend st = (.ok a, st') := by
  rw [run_guarded, h]

/-- A guard changes no result, and nothing on the server. -/
theorem run_guarded_alone {α : Type} {p : Program α} {m m' : Memory} {result : Except Failure α}
    (h : p.run Memory.backend m = (result, m')) (s : Session) (op : Operation) (model : Value) :
    ∃ m'', (s.guarded op model p).run Memory.backend m = (result, m'') ∧
      m''.server = m'.server := by
  rw [run_guarded, h]
  cases result with
  | ok a => exact ⟨m', rfl, rfl⟩
  | error e =>
    dsimp only
    split
    · exact ⟨_, rfl, rfl⟩
    · exact ⟨_, rfl, rfl⟩

end Session

/-! ## Queries -/

variable {old : Server} {name selector sort : Value} {keys : List SortKey} {docs : List Value}

/-- A query is answered from what has been stored before, as long as the server is alike. -/
theorem Memory.run_find_answer {m : Memory} {query : Query} {answer : Except Failure Page}
    (h : Database.answerQuery
      (old.database name).contents old.sortable m.server.defaultLimit query = answer)
    (halike : old.Alike m.server) :
    ∃ m', (send (.find name query)).run Memory.backend m = (answer, m') ∧ old.Alike m'.server := by
  rw [← halike.contents, ← halike.sortable] at h
  have hreading :=
    Server.alike_of_reading (show Request.IsReading (.find name query) from rfl) m.server
  refine ⟨_, (run_send _ _ _).trans (Prod.ext h rfl), ?_⟩
  show old.Alike (Memory.answer (.find name _) m).2.server
  rw [Memory.answer_server]
  exact halike.trans hreading

/-- **A query is answered from what is listed**, and its bookmark is the position behind the
    answer. -/
theorem Memory.run_find {m : Memory}
    (h : (old.database name).Lists old.sortable selector sort keys docs)
    (halike : old.Alike m.server) {fields : Value} {shown : List Value}
    (hshown : Database.restrict fields docs = .ok shown) {bookmark skip : Value}
    {position skipped start : Nat}
    (hposition : Database.bookmarkPosition bookmark = .ok (position : Int))
    (hskip : skip.skipped = .ok (skipped : Int)) (hstart : position + skipped = start)
    (length : Nat) :
    ∃ m', (send (.find name ⟨selector, .int length, skip, sort, bookmark, fields⟩)).run
          Memory.backend m =
        (.ok ⟨(shown.drop start).take length,
          .text (toString ((start + ((shown.drop start).take length).length : Nat) : Int)),
          .null⟩, m') ∧
      old.Alike m'.server :=
  Memory.run_find_answer
    (Database.answerQuery_eq h hshown hposition hskip hstart length m.server.defaultLimit) halike

/-- A query without an order fails as matching does. -/
theorem Memory.run_find_fails {m : Memory} {e : Failure}
    (h : Database.matching selector (old.database name).contents = .error e)
    (halike : old.Alike m.server) (limit skip bookmark fields : Value) :
    ∃ m', (send (.find name ⟨selector, limit, skip, .null, bookmark, fields⟩)).run
          Memory.backend m = (.error e, m') ∧ old.Alike m'.server :=
  Memory.run_find_answer
    (Database.answerQuery_fails rfl (.inr ⟨Database.checkIndex_nil old.sortable, h⟩)
      m.server.defaultLimit limit skip bookmark fields) halike

end DocStore
