/-
  What requests do to a server, and what every server keeps.

  Whoever sends a request, its effect on the server is the same (`Request.serve`), so runs of any
  number of clients are rows of requests.

  1. **Replacing a database** — a name may find what is kept under another (the number one and true
     are one key), so a replaced database is seen under some names and no others
     (`database_setDatabase_cases`).  Under the text that it was replaced under it is always seen.

  2. **Soundness** — all databases of a server are sound (`Server.IsSound`), and no request, and no
     clearing, changes that.  So it holds of every server that is reached (`Reached.isSound`).

  3. **What came since** — `Since` compares a server with an earlier state, database by database
     (`Database.IsNewer`).  It holds along every row of requests (`since_serveAll`).

  4. **Reading** — a request that writes nothing leaves a server that answers as before (`Alike`),
     and so does a program that sends no other requests (`Memory.alike_of_within`).
-/
import DocStore.Proofs.Store.Database
import DocStore.Proofs.Store.Program
import DocStore.Store.Server

namespace DocStore

/-- The server after a request of anyone. -/
def Request.serve (request : Request) (server : Server) : Server :=
  (Memory.answer request (Memory.start server)).2.server

/-- The server after a row of requests. -/
def Server.serveAll (requests : List Request) (server : Server) : Server :=
  requests.foldl (fun s request => request.serve s) server

/-- A session makes no difference to what its request does to the server. -/
theorem Memory.answer_server (request : Request) (m : Memory) :
    (Memory.answer request m).2.server = request.serve m.server := by
  cases request <;> rfl

namespace Server

/-! ## Replacing a database -/

/-- Under any name there is what was there before, or the database that has been entered in place of
    what was there before. -/
theorem database_setDatabase_cases (server : Server) (name other : Value) (db : Database) :
    (server.setDatabase name db).database other = server.database other ∨
      (server.setDatabase name db).database other = db ∧
        server.database other = server.database name := by
  rcases Entries.get?_put_cases server.databases name other db with h | ⟨hfound, hbefore⟩
  · left
    rw [database, setDatabase, h]
    rfl
  · right
    rw [database, setDatabase, hfound]
    exact ⟨rfl, by rw [database, database, hbefore]⟩

/-- Under a text there is the database that has been entered. -/
@[simp] theorem database_setDatabase_text (server : Server) (name : String) (db : Database) :
    (server.setDatabase (.text name) db).database (.text name) = db := by
  rw [database, setDatabase, Entries.get?_put_text]
  rfl

/-! ## Soundness -/

/-- What holds of a server. -/
def IsSound (server : Server) : Prop := ∀ name, (server.database name).IsSound server.draws

/-- Compared with an earlier state: no draw has been taken back, and whatever is stored was stored
    then or has a token drawn since. -/
structure Since (old new : Server) : Prop where
  draws : old.draws ≤ new.draws
  newer : ∀ name, (old.database name).IsNewer old.draws (new.database name)

theorem Since.refl (server : Server) : Since server server :=
  ⟨Nat.le_refl _, fun _ => Database.IsNewer.refl _ _⟩

theorem Since.trans {a b c : Server} (hab : Since a b) (hbc : Since b c) : Since a c :=
  ⟨Nat.le_trans hab.draws hbc.draws, fun name => (hab.newer name).trans (hbc.newer name) hab.draws⟩

/-- Two servers whose databases hold the same documents. -/
def SameDocuments (old new : Server) : Prop :=
  ∀ name, (new.database name).documents = (old.database name).documents

theorem SameDocuments.refl (server : Server) : SameDocuments server server := fun _ => rfl

/-- Where a database is replaced by one with the same documents, all documents are the same. -/
theorem sameDocuments_setDatabase {server : Server} {name : Value} {db : Database}
    (h : db.documents = (server.database name).documents) :
    SameDocuments server (server.setDatabase name db) := by
  intro other
  rcases database_setDatabase_cases server name other db with heq | ⟨heq, hbefore⟩
  · rw [heq]
  · rw [heq, hbefore, h]

/-- The same documents are as sound as they were, whatever has been drawn. -/
theorem IsSound.of_sameDocuments {old new : Server} (hold : old.IsSound)
    (h : SameDocuments old new) (hdraws : old.draws ≤ new.draws) : new.IsSound := by
  intro name
  obtain ⟨ordered, stored⟩ := (hold name).mono hdraws
  exact ⟨by rwa [h name], by rwa [h name]⟩

theorem Since.of_sameDocuments {old new : Server} (h : SameDocuments old new)
    (hdraws : old.draws ≤ new.draws) : Since old new := by
  refine ⟨hdraws, fun name id d hd => .inl ?_⟩
  rwa [h name] at hd

/-- A sound database in place of another leaves a server sound. -/
theorem isSound_setDatabase {server : Server} {name : Value} {db : Database} {draws : Nat}
    (hserver : server.IsSound) (hdb : db.IsSound draws) (hdraws : server.draws ≤ draws) :
    ({ server.setDatabase name db with draws := draws } : Server).IsSound := by
  intro other
  show Database.IsSound draws ((server.setDatabase name db).database other)
  rcases database_setDatabase_cases server name other db with heq | ⟨heq, _⟩
  · rw [heq]
    exact (hserver other).mono hdraws
  · rw [heq]
    exact hdb

/-- Where a database is replaced by one that is newer, the server is. -/
theorem since_setDatabase {server : Server} {name : Value} {db : Database} {draws : Nat}
    (hdb : (server.database name).IsNewer server.draws db) (hdraws : server.draws ≤ draws) :
    Since server { server.setDatabase name db with draws := draws } := by
  refine ⟨hdraws, fun other => ?_⟩
  show Database.IsNewer server.draws (server.database other)
    ((server.setDatabase name db).database other)
  rcases database_setDatabase_cases server name other db with heq | ⟨heq, hbefore⟩
  · rw [heq]
    exact Database.IsNewer.refl _ _
  · rw [heq, hbefore]
    exact hdb

/-! ## What one request does -/

/-- What a request does to the documents of a server: nothing, an accepted insert, or an accepted
    removal. -/
theorem serve_cases (request : Request) (server : Server) :
    (SameDocuments server (request.serve server) ∧ server.draws ≤ (request.serve server).draws) ∨
      (∃ name document receipt db draws, request = .insert name document ∧
        (server.database name).insert document server.draws = (.ok receipt, db, draws) ∧
        request.serve server = { server.setDatabase name db with draws := draws }) ∨
      ∃ name id revision db, request = .destroy name id revision ∧
        (server.database name).destroy id revision = (.ok (), db) ∧
        request.serve server = server.setDatabase name db := by
  cases request with
  | «exists» name => exact .inl ⟨SameDocuments.refl server, Nat.le_refl _⟩
  | get name id => exact .inl ⟨SameDocuments.refl server, Nat.le_refl _⟩
  | isOpen name => exact .inl ⟨SameDocuments.refl server, Nat.le_refl _⟩
  | openDatabase name => exact .inl ⟨sameDocuments_setDatabase rfl, Nat.le_refl _⟩
  | find name query => exact .inl ⟨sameDocuments_setDatabase rfl, Nat.le_refl _⟩
  | createDatabase name =>
    left
    show SameDocuments server (server.create name).2 ∧ server.draws ≤ (server.create name).2.draws
    rw [create]
    dsimp only
    split
    · exact ⟨SameDocuments.refl server, Nat.le_refl _⟩
    · split
      · exact ⟨SameDocuments.refl server, Nat.le_refl _⟩
      · exact ⟨sameDocuments_setDatabase rfl, Nat.le_refl _⟩
  | insert name document =>
    -- A refused insert may have drawn an identifier, but has stored nothing.
    rcases hinsert : (server.database name).insert document server.draws with ⟨answer, db, draws⟩
    have hserve : (Request.insert name document).serve server =
        { server.setDatabase name db with draws := draws } := by
      show (server.insert name document).2 = _
      rw [insert, hinsert]
    cases answer with
    | ok receipt => exact .inr (.inl ⟨name, document, receipt, db, draws, rfl, hinsert, hserve⟩)
    | error e =>
      obtain ⟨rfl, rfl, _⟩ := Database.insert_refused hinsert
      rw [hserve]
      exact .inl ⟨sameDocuments_setDatabase rfl, Database.le_identify _ _⟩
  | destroy name id revision =>
    rcases hdestroy : (server.database name).destroy id revision with ⟨answer, db⟩
    have hserve : (Request.destroy name id revision).serve server = server.setDatabase name db := by
      show (server.destroy name id revision).2 = _
      rw [destroy, hdestroy]
    cases answer with
    | ok _ => exact .inr (.inr ⟨name, id, revision, db, rfl, hdestroy, hserve⟩)
    | error e =>
      obtain rfl := Database.destroy_refused hdestroy
      rw [hserve]
      exact .inl ⟨sameDocuments_setDatabase rfl, Nat.le_refl _⟩

/-- A write to a database leaves under any name what was there before, or what it leaves under the
    name written to in place of what was there before. -/
theorem database_serve_cases {request : Request} {name : String}
    (h : (∃ document, request = .insert (.text name) document) ∨
      ∃ id revision, request = .destroy (.text name) id revision) (server : Server)
      (other : Value) :
    (request.serve server).database other = server.database other ∨
      (request.serve server).database other = (request.serve server).database (.text name) ∧
        server.database other = server.database (.text name) := by
  obtain ⟨db, draws, hserve⟩ : ∃ db draws,
      request.serve server = { server.setDatabase (.text name) db with draws := draws } := by
    rcases h with ⟨document, rfl⟩ | ⟨id, revision, rfl⟩
    · exact ⟨_, _, rfl⟩
    · exact ⟨_, _, rfl⟩
  have hwritten : (request.serve server).database (.text name) = db := by
    rw [hserve]
    exact database_setDatabase_text server name db
  rw [hwritten, hserve]
  exact database_setDatabase_cases server (.text name) other db

/-- An insert changes nothing but what is stored under its identifier. -/
theorem get?_serve_insert_ne {server : Server} {name other : String} {document : Object}
    (h : other ≠ (Database.identify document server.draws).1) :
    (((Request.insert (.text name) document).serve server).database (.text name)).documents.get?
        other = (server.database (.text name)).documents.get? other := by
  rcases hinsert :
    (server.database (.text name)).insert document server.draws with ⟨answer, db, draws⟩
  have hserve : ((Request.insert (.text name) document).serve server).database (.text name) =
      db := by
    show ((server.insert (.text name) document).2).database (.text name) = db
    rw [insert, hinsert]
    exact database_setDatabase_text server name db
  rw [hserve]
  cases answer with
  | error e =>
    obtain ⟨rfl, -, -⟩ := Database.insert_refused hinsert
    rfl
  | ok receipt =>
    obtain ⟨id, token, revision, hid, -, -, -, -, rfl⟩ := Database.insert_accepted hinsert
    rw [hid] at h
    exact Table.get?_put_ne _ h _

/-- An accepted insert draws a token, and maybe an identifier. -/
theorem le_draws_insert {db db' : Database} {document : Object} {draws draws' : Nat}
    {receipt : Receipt} (h : db.insert document draws = (.ok receipt, db', draws')) :
    draws ≤ draws' := by
  obtain ⟨id, token, _, hid, rfl, _⟩ := Database.insert_accepted h
  have hdraw := Database.le_identify document draws
  rw [hid] at hdraw
  exact Nat.le_succ_of_le hdraw

/-- No request makes a sound server unsound. -/
theorem serve_isSound {server : Server} (h : server.IsSound) (request : Request) :
    (request.serve server).IsSound := by
  rcases serve_cases request server with ⟨hsame, hdraws⟩ |
    ⟨name, document, receipt, db, draws, _, hinsert, hserve⟩ |
    ⟨name, id, revision, db, _, hdestroy, hserve⟩
  · exact h.of_sameDocuments hsame hdraws
  · rw [hserve]
    exact isSound_setDatabase h (Database.insert_isSound (h name) hinsert) (le_draws_insert hinsert)
  · rw [hserve]
    exact isSound_setDatabase h (Database.destroy_isSound (h name) hdestroy) (Nat.le_refl _)

/-- What is there after a request was there before or is new. -/
theorem since_serve {server : Server} (h : server.IsSound) (request : Request) :
    Since server (request.serve server) := by
  rcases serve_cases request server with ⟨hsame, hdraws⟩ |
    ⟨name, document, receipt, db, draws, _, hinsert, hserve⟩ |
    ⟨name, id, revision, db, _, hdestroy, hserve⟩
  · exact Since.of_sameDocuments hsame hdraws
  · rw [hserve]
    exact since_setDatabase (Database.insert_isNewer hinsert) (le_draws_insert hinsert)
  · rw [hserve]
    exact since_setDatabase (Database.destroy_isNewer (h name) hdestroy) (Nat.le_refl _)

/-! ## Rows of requests -/

theorem serveAll_isSound {server : Server} (h : server.IsSound) (requests : List Request) :
    (serveAll requests server).IsSound := by
  induction requests generalizing server with
  | nil => exact h
  | cons request rest ih => exact ih (serve_isSound h request)

theorem since_serveAll {server : Server} (h : server.IsSound) (requests : List Request) :
    Since server (serveAll requests server) := by
  induction requests generalizing server with
  | nil => exact Since.refl server
  | cons request rest ih => exact (since_serve h request).trans (ih (serve_isSound h request))

/-- A server as it may come to be: from an empty one, by requests of anyone and by clearing. -/
inductive Reached : Server → Prop
  | empty (sortable : Option (List Value)) (defaultLimit : Value) :
      Reached (.empty sortable defaultLimit)
  | serve {server : Server} (request : Request) (h : Reached server) :
      Reached (request.serve server)
  | clearDatabase {server : Server} (name : Value) (h : Reached server) :
    Reached (server.clearDatabase name)
  | clear {server : Server} (h : Reached server) : Reached server.clear

/-- **Every server that is reached is sound.** -/
theorem Reached.isSound {server : Server} (h : Reached server) : server.IsSound := by
  induction h with
  | empty sortable defaultLimit => exact fun _ => Database.empty_isSound _
  | serve request _ ih => exact serve_isSound ih request
  | clearDatabase name _ ih =>
    exact isSound_setDatabase ih (Database.empty_isSound _) (Nat.le_refl _)
  | clear _ _ => exact fun _ => Database.empty_isSound _

/-! ## Reading -/

/-- Two servers that hold the same documents and sort by the same fields. -/
structure Alike (old new : Server) : Prop where
  documents : SameDocuments old new
  sortable : new.sortable = old.sortable

theorem Alike.refl (server : Server) : Alike server server := ⟨SameDocuments.refl server, rfl⟩

theorem Alike.trans {a b c : Server} (hab : Alike a b) (hbc : Alike b c) : Alike a c :=
  ⟨fun name => (hbc.documents name).trans (hab.documents name), hbc.sortable.trans hab.sortable⟩

/-- As values, the documents are the same. -/
theorem Alike.contents {old new : Server} (h : Alike old new) (name : Value) :
    (new.database name).contents = (old.database name).contents := by
  rw [Database.contents, h.documents name, Database.contents]

/-- A request that is no write leaves a server that answers as before. -/
theorem alike_of_reading {request : Request} (h : request.IsReading) (server : Server) :
    Alike server (request.serve server) := by
  constructor
  · rcases serve_cases request server with ⟨hsame, _⟩ | ⟨_, _, _, _, _, rfl, _⟩ |
      ⟨_, _, _, _, rfl, _⟩
    · exact hsame
    · exact absurd h (by simp [Request.IsReading, Request.isWrite])
    · exact absurd h (by simp [Request.IsReading, Request.isWrite])
  · cases request with
    | createDatabase name =>
      show (server.create name).2.sortable = server.sortable
      rw [create]
      dsimp only
      split
      · rfl
      · split <;> rfl
    | _ => rfl

end Server

/-- A program that sends no writes leaves a server that answers as before. -/
theorem Memory.alike_of_within {α : Type} {p : Program α} {post : α → Prop}
    (hp : p.Within Request.IsReading post) (m : Memory) :
    m.server.Alike (p.run Memory.backend m).2.server := by
  refine hp.run_related (R := fun m m' : Memory => m.server.Alike m'.server)
    (fun m => .refl m.server)
    (fun _ _ _ => Server.Alike.trans) (fun _ m => .refl m.server) (fun request m hreading => ?_) m
  show m.server.Alike (Memory.answer request m).2.server
  rw [Memory.answer_server]
  exact Server.alike_of_reading hreading m.server

/-- Whatever is run, the server is one that is reached. -/
theorem Memory.reached_of_run {α : Type} {p : Program α} {m m' : Memory} {result : Except Failure α}
    (hm : m.server.Reached) (hrun : p.run Memory.backend m = (result, m')) : m'.server.Reached := by
  induction p generalizing m with
  | done a =>
    obtain rfl := congrArg Prod.snd hrun
    exact hm
  | fail e =>
    obtain rfl := congrArg Prod.snd hrun
    exact hm
  | log entry next ih => exact ih (show (Memory.note entry m).server.Reached from hm) hrun
  | ask request next ih =>
    refine ih _ (m := (Memory.answer request m).2) ?_ hrun
    rw [Memory.answer_server]
    exact .serve request hm

/-- Whatever is run, what is there afterwards was there before or is new. -/
theorem Memory.since_of_run {α : Type} {p : Program α} {m m' : Memory} {result : Except Failure α}
    (hm : m.server.IsSound) (hrun : p.run Memory.backend m = (result, m')) :
    m.server.Since m'.server := by
  induction p generalizing m with
  | done a =>
    obtain rfl := congrArg Prod.snd hrun
    exact .refl _
  | fail e =>
    obtain rfl := congrArg Prod.snd hrun
    exact .refl _
  | log entry next ih => exact ih (m := Memory.note entry m) hm hrun
  | ask request next ih =>
    have hstep := Server.since_serve hm request
    rw [← Memory.answer_server] at hstep
    refine hstep.trans (ih _ (m := (Memory.answer request m).2) ?_ hrun)
    rw [Memory.answer_server]
    exact Server.serve_isSound hm request

end DocStore
