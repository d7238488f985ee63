/-
  Sessions that open databases at the same time.

  Whether a database exists and to create it are two requests, so any number of calls may be told
  that it does not exist before the first of them creates it.  Nothing goes wrong then: the server
  refuses all but the first, and a call that is refused goes on as if it had created the database
  itself.

  1. **Races** — sessions with one server make calls, which take turns in any order (`Race.turn`,
     `Race.play`).  In a turn a call makes one step of its run (`Program.step`): it writes an entry
     to the log or sends a request.  What is exchanged is recorded.  Calls that are given no turn
     have not begun, so there may be as many as one likes, and some may begin when others have
     ended.

  2. **Stages** — a call that is after the home of a model has only a few places where it can be
     (`Stage`), and `Moves` says once what a turn does at each of them.  All else is derived from
     that.

  3. **What stays** — a server never takes back a database or what it holds (`Server.Keeps`).

  4. **Turns and races** — what is known of a call at its stage, what is true of all caches, and the
     creations that have been accepted are kept by every turn (`stands_turn`) and so by every race
     (`stands_play`).

  5. **Going on** — when a call has a database, only calls that had been told before that it does
     not exist try to create it once more (`Stands.later`), and one that had been told so does try
     (`play_creating`).

  Together these are `race_resolves`; `race_resolves_late` shows such a late attempt.
-/
import DocStore.Proofs.Session.Home
import Mathlib.Logic.Function.Basic

namespace DocStore

open Program

/-! ## Races -/

/-- One step of a program in a session: what it has left to do, and what it has exchanged if it sent
    a request. -/
def Program.step {α : Type} : Program α → Memory → Program α × Memory × Option Exchange
  | .done a, m => (.done a, m, none)
  | .fail e, m => (.fail e, m, none)
  | .log entry next, m => (next, m.note entry, none)
  | .ask request next, m =>
    (next (Memory.answer request m).1, (Memory.answer request m).2,
      some ⟨request, (Memory.answer request m).1⟩)

/-- A program comes to the same after a step of its run. -/
theorem Program.run_step {α : Type} (p : Program α) (m : Memory) :
    (p.step m).1.run Memory.backend (p.step m).2.1 = p.run Memory.backend m := by
  cases p <;> rfl

/-- A request is answered, and the program goes on with the answer. -/
theorem Program.step_ask {α : Type} {request : Request}
    {answer : Except Failure request.Answer} {m m' : Memory}
    (h : Memory.answer request m = (answer, m'))
    (next : Except Failure request.Answer → Program α) :
    (Program.ask request next).step m = (next answer, m', some ⟨request, answer⟩) := by
  rw [step, h]

/-- Sessions with one server, each with the databases it has opened, and calls of theirs, each with
    what it has left to do.  The record holds what has been exchanged, with the number of the call
    that sent the request. -/
structure Race (α : Type) where
  server : Server
  opened : Nat → List Value
  log : List LogEntry
  rest : Nat → Program α
  record : List (Nat × Exchange)

/-- The name of the database that has been created by an exchange, if it has created one. -/
def Exchange.created? : Exchange → Option Value
  | ⟨.createDatabase name, .ok _⟩ => some name
  | _ => none

namespace Race

variable {α : Type}

/-- A race that has not begun. -/
def start (server : Server) (calls : Nat → Program α) : Race α :=
  ⟨server, fun _ => [], [], calls, []⟩

/-- What a session sees of a race. -/
def view (race : Race α) (session : Nat) : Memory := ⟨race.server, race.opened session, race.log⟩

/-- A race after a step of a call in its session. -/
def after (race : Race α) (session call : Nat) : Program α × Memory × Option Exchange → Race α
  | (rest, m, exchange) =>
    { server := m.server
      opened := Function.update race.opened session m.opened
      log := m.log
      rest := Function.update race.rest call rest
      record := race.record ++ exchange.toList.map (call, ·) }

/-- A call has a turn. -/
def turn (caller : Nat → Nat) (race : Race α) (call : Nat) : Race α :=
  race.after (caller call) call ((race.rest call).step (race.view (caller call)))

/-- A turn makes no difference to what its call comes to if it is left alone from then on. -/
theorem run_turn (caller : Nat → Nat) (race : Race α) (call : Nat) :
    ((race.turn caller call).rest call).run Memory.backend
        ((race.turn caller call).view (caller call)) =
      (race.rest call).run Memory.backend (race.view (caller call)) := by
  rw [← Program.run_step (race.rest call)]
  simp only [turn, after, view, Function.update_self]

/-- Calls have turns in some order. -/
def play (caller : Nat → Nat) (race : Race α) (schedule : List Nat) : Race α :=
  schedule.foldl (turn caller) race

/-- Turns may be had in two parts. -/
theorem play_append (caller : Nat → Nat) (race : Race α) (first second : List Nat) :
    race.play caller (first ++ second) = (race.play caller first).play caller second :=
  List.foldl_append

/-- Whether a call has sent a request. -/
def HasBegun (race : Race α) (call : Nat) : Prop := ∃ exchange, (call, exchange) ∈ race.record

/-- Whether a call has its result. -/
def HasEnded (race : Race α) (call : Nat) : Prop := ∃ a, race.rest call = .done a

/-- Whether all calls of a session for a database that have begun have ended too. -/
def IsQuiet (caller : Nat → Nat) (home : Nat → Home) (race : Race α) (session : Nat)
    (database : Value) : Prop :=
  ∀ call, caller call = session → (home call).database = database → race.HasBegun call →
    race.HasEnded call

/-- The names of the databases that calls have created, in order. -/
def creations (race : Race α) : List Value := race.record.filterMap fun entry => entry.2.created?

end Race

/-! ## What stays -/

namespace Entries

variable {β : Type}

/-- An entry that is found stays the one that is found when there are more. -/
theorem get?_of_prefix {t u : Entries β} (h : t <+: u) {key : Value} {b : β}
    (hfound : t.get? key = some b) :
    u.get? key = some b := by
  obtain ⟨more, rfl⟩ := h
  induction t with
  | nil => exact absurd hfound (by simp [get?])
  | cons entry rest ih =>
    obtain ⟨k, b'⟩ := entry
    rw [List.cons_append, get?]
    rw [get?] at hfound
    split at hfound
    · rwa [if_pos ‹_›]
    · rw [if_neg ‹_›]
      exact ih hfound

/-- Where a key is entered with what is found under it, or with anything if there is nothing, all
    entries stay. -/
theorem prefix_put (t : Entries β) (key : Value) (b : β) :
    t <+: t.put key ((t.get? key).getD b) := by
  induction t with
  | nil => exact List.nil_prefix
  | cons entry rest ih =>
    obtain ⟨k, b'⟩ := entry
    rw [put, get?]
    split
    · exact List.prefix_rfl
    · exact (List.prefix_cons_inj _).2 ih

end Entries

namespace Server

theorem same_name_iff {names : List Value} {name : String} :
    (names.any fun v => v.same (.text name)) = true ↔ .text name ∈ names := by
  simp [Entries.same_text_iff]

/-- A text names a database that exists if it is among the names. -/
theorem exists?_text_iff {server : Server} {name : String} :
    server.exists? (.text name) = true ↔ .text name ∈ server.created := same_name_iff

/-- A database that exists is not created again. -/
theorem create_present {server : Server} {name : String} (h : .text name ∈ server.created) :
    server.create (.text name) =
      (.error (.refuse .databaseExists (Refused.messageOf .databaseExists) .null),
        { server with createCalls := server.createCalls ++ [.text name] }) :=
  if_pos (exists?_text_iff.2 h)

/-- A database that does not exist is created. -/
theorem create_absent {server : Server} {name : String} (h : .text name ∉ server.created) :
    server.create (.text name) =
      (.ok (), ({ server with
        created := server.created ++ [.text name],
        createCalls := server.createCalls ++ [.text name] } : Server).use (.text name)) :=
  if_neg (mt exists?_text_iff.1 h)

/-- Compared with an earlier state, databases may have been created and used, and nothing else has
    happened to them: none is taken back or replaced, and each holds what it held. -/
structure Keeps (old new : Server) : Prop where
  created : old.created <+: new.created
  databases : old.databases <+: new.databases
  database : ∀ name, new.database name = old.database name

theorem Keeps.refl (server : Server) : Keeps server server :=
  ⟨List.prefix_rfl, List.prefix_rfl, fun _ => rfl⟩

theorem Keeps.trans {a b c : Server} (hab : Keeps a b) (hbc : Keeps b c) : Keeps a c :=
  ⟨hab.created.trans hbc.created, hab.databases.trans hbc.databases,
    fun name => (hbc.database name).trans (hab.database name)⟩

theorem keeps_use (server : Server) (name : Value) : server.Keeps (server.use name) := by
  refine ⟨List.prefix_rfl, Entries.prefix_put _ _ _, fun other => ?_⟩
  rcases database_setDatabase_cases server name other (server.database name) with h | ⟨h, hbefore⟩
  · exact h
  · exact h.trans hbefore.symm

theorem keeps_create (server : Server) (name : String) :
    server.Keeps (server.create (.text name)).2 := by
  by_cases h : .text name ∈ server.created
  · rw [create_present h]
    exact ⟨List.prefix_rfl, List.prefix_rfl, fun _ => rfl⟩
  · rw [create_absent h]
    have hcreated : server.Keeps { server with
        created := server.created ++ [.text name],
        createCalls := server.createCalls ++ [.text name] } :=
      ⟨List.prefix_append _ _, List.prefix_rfl, fun _ => rfl⟩
    exact hcreated.trans (keeps_use _ _)

end Server

/-! ## Stages -/

/-- How far a call has come that is after the home of a model. -/
inductive Stage where
  /-- It asks whether its session has opened the database. -/
  | looking
  /-- It asks whether the database exists. -/
  | asking
  /-- It has been told that the database does not exist, and creates it. -/
  | creating
  /-- The database exists now, which the call writes to the log. -/
  | noting (message : String)
  /-- The database exists, and the call opens it. -/
  | opening
  /-- It has the home. -/
  | ended

namespace Stage

/-- How many turns a call has to have at a stage, at the most, until it has ended. -/
def left : Stage → Nat
  | .looking => 5
  | .asking => 4
  | .creating => 3
  | .noting _ => 2
  | .opening => 1
  | .ended => 0

theorem ended_of_left {stage : Stage} (h : stage.left = 0) : stage = .ended := by
  cases stage <;> first | rfl | exact nomatch h

/-- What a call has left to do at a stage. -/
def rest (home : Home) : Stage → Program Home
  | .looking => do
    if ← send (.isOpen home.database) then pure () else Session.openDatabase home.database
    return home
  | .asking => do
    Session.openDatabase home.database
    return home
  | .creating => do
    let create : Program Unit := do
      send (.createDatabase home.database)
      note .resolver .debug ("Created database " ++ home.database.written)
    -- Opening belongs to this part, as it does in `openDatabase`.
    let createAndOpen : Program Unit := do
      create.onRefusal .databaseExists
        (note .resolver .debug ("Database " ++ home.database.written ++ " created concurrently"))
      send (.openDatabase home.database)
    createAndOpen
    return home
  | .noting message => do
    note .resolver .debug message
    send (.openDatabase home.database)
    return home
  | .opening => do
    send (.openDatabase home.database)
    return home
  | .ended => return home

/-- **What a turn does**: from stage to stage and from session to session, by an exchange or without
    one. -/
inductive Moves (name : Value) : Stage → Memory → Stage → Memory → Option Exchange → Prop
  | cached {m : Memory} (h : name ∈ m.opened) :
      Moves name .looking m .ended m (some ⟨.isOpen name, .ok true⟩)
  | uncached {m : Memory} (h : name ∉ m.opened) :
      Moves name .looking m .asking m (some ⟨.isOpen name, .ok false⟩)
  | found {m : Memory} (h : name ∈ m.server.created) :
      Moves name .asking m .opening m (some ⟨.exists name, .ok true⟩)
  | missing {m : Memory} (h : name ∉ m.server.created) :
      Moves name .asking m .creating m (some ⟨.exists name, .ok false⟩)
  | creates {m : Memory} (h : name ∉ m.server.created) :
      Moves name .creating m (.noting ("Created database " ++ name.written))
        { m with server := (m.server.create name).2 } (some ⟨.createDatabase name, .ok ()⟩)
  | refused {m : Memory} (h : name ∈ m.server.created) :
      Moves name .creating m (.noting ("Database " ++ name.written ++ " created concurrently"))
        { m with server := (m.server.create name).2 }
        (some ⟨.createDatabase name,
          .error (.refuse .databaseExists (Refused.messageOf .databaseExists) .null)⟩)
  | notes {m : Memory} {message : String} :
      Moves name (.noting message) m .opening (m.note ⟨.resolver, .debug, message⟩) none
  | opens {m : Memory} :
      Moves name .opening m .ended
        { m with server := m.server.use name, opened := m.opened ++ [name] }
        (some ⟨.openDatabase name, .ok ()⟩)
  | rests {m : Memory} : Moves name .ended m .ended m none

variable {home : Home} {name : String}

theorem ended_of_rest {stage : Stage} {home result : Home} (h : stage.rest home = .done result) :
    stage = .ended ∧ result = home := by
  cases stage with
  | ended => exact ⟨rfl, (Program.done.inj h).symm⟩
  | _ => exact nomatch h

/-- Finding the home of a model begins with looking whether its database is open. -/
theorem rest_looking {s : Session} {model stored : Value}
    (hstored : s.schema.modelName model = .ok stored)
    (hname : (s.homeOf stored).database = .text name) :
    s.home model = Stage.looking.rest (s.homeOf stored) := by
  have hkey : (s.settings.databaseOf stored).isKey = true := by
    have hname : s.settings.databaseOf stored = .text name := hname
    rw [hname]
    rfl
  rw [Session.home, hstored]
  show (if (s.settings.databaseOf stored).isKey = true then _ else _) = _
  rw [if_pos hkey]
  rfl

/-- A turn at a stage makes a move, and there is no stage at which a call fails. -/
theorem step_moves (hname : home.database = .text name) (stage : Stage) (m : Memory) :
    ∃ next m' exchange, (stage.rest home).step m = (next.rest home, m', exchange) ∧
      Moves home.database stage m next m' exchange := by
  obtain ⟨database, model, tagField⟩ := home
  obtain rfl : database = .text name := hname
  cases stage with
  | looking =>
    by_cases h : .text name ∈ m.opened
    · have hanswer : Memory.answer (.isOpen (.text name)) m = (.ok true, m) := by
        rw [Memory.answer, Server.same_name_iff.2 h]
      exact ⟨.ended, m, _, Program.step_ask hanswer _, .cached h⟩
    · have hanswer : Memory.answer (.isOpen (.text name)) m = (.ok false, m) := by
        rw [Memory.answer, Bool.eq_false_iff.2 (mt Server.same_name_iff.1 h)]
      exact ⟨.asking, m, _, Program.step_ask hanswer _, .uncached h⟩
  | asking =>
    by_cases h : .text name ∈ m.server.created
    · have hanswer : Memory.answer (.exists (.text name)) m = (.ok true, m) := by
        rw [Memory.answer, Server.exists?_text_iff.2 h]
        rfl
      exact ⟨.opening, m, _, Program.step_ask hanswer _, .found h⟩
    · have hanswer : Memory.answer (.exists (.text name)) m = (.ok false, m) := by
        rw [Memory.answer, Bool.eq_false_iff.2 (mt Server.exists?_text_iff.1 h)]
        rfl
      exact ⟨.creating, m, _, Program.step_ask hanswer _, .missing h⟩
  | creating =>
    by_cases h : .text name ∈ m.server.created
    · have hanswer : Memory.answer (.createDatabase (.text name)) m =
          (.error (.refuse .databaseExists (Refused.messageOf .databaseExists) .null),
            { m with server := (m.server.create (.text name)).2 }) := by
        rw [Memory.answer, Server.create_present h]
      exact ⟨.noting _, _, _, Program.step_ask hanswer _, .refused h⟩
    · have hanswer : Memory.answer (.createDatabase (.text name)) m =
          (.ok (), { m with server := (m.server.create (.text name)).2 }) := by
        rw [Memory.answer, Server.create_absent h]
      exact ⟨.noting _, _, _, Program.step_ask hanswer _, .creates h⟩
  | noting message => exact ⟨.opening, _, _, rfl, .notes⟩
  | opening => exact ⟨.ended, _, _, rfl, .opens⟩
  | ended => exact ⟨.ended, m, none, rfl, .rests⟩

/-! ## What a turn does -/

namespace Moves

variable {stage next : Stage} {m m' : Memory} {exchange : Option Exchange}

theorem keeps (h : Moves (.text name) stage m next m' exchange) : m.server.Keeps m'.server := by
  cases h with
  | creates => exact Server.keeps_create _ _
  | refused => exact Server.keeps_create _ _
  | opens => exact Server.keeps_use _ _
  | _ => exact Server.Keeps.refl _

theorem opened_subset (h : Moves (.text name) stage m next m' exchange) : m.opened ⊆ m'.opened := by
  cases h with
  | opens => exact List.subset_append_left _ _
  | _ => exact List.Subset.refl _

/-- A turn creates the database of its call if it creates one, and that did not exist. -/
theorem created_eq (h : Moves (.text name) stage m next m' exchange) :
    m'.server.created = m.server.created ++ (exchange.bind Exchange.created?).toList ∧
      ∀ v, exchange.bind Exchange.created? = some v → v ∉ m.server.created := by
  cases h with
  | creates h =>
    rw [Server.create_absent h]
    exact ⟨rfl, fun v hv => Option.some.inj hv ▸ h⟩
  | refused h =>
    rw [Server.create_present h]
    exact ⟨(List.append_nil _).symm, fun v hv => nomatch hv⟩
  | _ => exact ⟨(List.append_nil _).symm, fun v hv => nomatch hv⟩

/-- Only a call that has been told that its database does not exist tries to create one, its own. -/
theorem creating_of_request (h : Moves (.text name) stage m next m' exchange) {e : Exchange}
    (he : exchange = some e) {v : Value} (hrequest : e.request = .createDatabase v) :
    stage = .creating ∧ v = .text name := by
  cases h with
  | creates | refused =>
    obtain rfl := Option.some.inj he
    exact ⟨rfl, (Request.createDatabase.inj hrequest).symm⟩
  | notes | rests => exact nomatch he
  | _ =>
    obtain rfl := Option.some.inj he
    exact nomatch hrequest

/-- A call is only about to create its database when it has just been told that this does not
    exist. -/
theorem told (h : Moves (.text name) stage m .creating m' exchange) :
    .text name ∉ m.server.created ∧ exchange = some ⟨.exists (.text name), .ok false⟩ := by
  cases h with
  | missing h => exact ⟨h, rfl⟩

/-- As long as a call has not ended, a turn brings it nearer to its end. -/
theorem left_le (h : Moves (.text name) stage m next m' exchange) : next.left ≤ stage.left - 1 := by
  cases h <;> simp [left]

end Moves

/-! ## What is known at a stage -/

/-- What a call knows at a stage of its session and the server. -/
def Knows (name : Value) (m : Memory) : Stage → Prop
  | .noting _ => name ∈ m.server.created
  | .opening => name ∈ m.server.created
  | .ended => name ∈ m.opened
  | _ => True

/-- What a call knows stays true, since nothing is taken back. -/
theorem Knows.mono {stage : Stage} {m m' : Memory} (h : stage.Knows (.text name) m)
    (hserver : m.server.Keeps m'.server) (hopened : m.opened ⊆ m'.opened) :
    stage.Knows (.text name) m' := by
  cases stage with
  | noting => exact hserver.created.subset h
  | opening => exact hserver.created.subset h
  | ended => exact hopened h
  | _ => trivial

/-- A turn leaves a call with what it has to know at the next stage. -/
theorem Moves.knows {stage next : Stage} {m m' : Memory} {exchange : Option Exchange}
    (h : Moves (.text name) stage m next m' exchange) (hknows : stage.Knows (.text name) m) :
    next.Knows (.text name) m' := by
  cases h with
  | cached h => exact h
  | uncached | missing => trivial
  | found h => exact h
  | creates h =>
    show Value.text name ∈ (m.server.create (.text name)).2.created
    rw [Server.create_absent h]
    exact List.mem_append_right _ List.mem_cons_self
  | refused h => exact (Server.keeps_create _ _).created.subset h
  | notes => exact hknows
  | opens => exact List.mem_append_right _ List.mem_cons_self
  | rests => exact hknows

end Stage

/-- Whether all databases that a session has opened exist and can be found. -/
def Memory.IsBacked (m : Memory) : Prop :=
  ∀ v ∈ m.opened, v ∈ m.server.created ∧ ∃ db, m.server.databases.get? v = some db

theorem Memory.IsBacked.mono {m m' : Memory} (h : m.IsBacked) (hserver : m.server.Keeps m'.server)
    (hopened : m'.opened = m.opened) : m'.IsBacked := by
  intro v hv
  obtain ⟨hcreated, db, hdb⟩ := h v (hopened ▸ hv)
  exact ⟨hserver.created.subset hcreated, db, Entries.get?_of_prefix hserver.databases hdb⟩

/-- A session opens a database when that exists, and can find it from then on. -/
theorem Stage.Moves.isBacked {stage next : Stage} {m m' : Memory}
    {exchange : Option Exchange} {name : String} (h : Moves (.text name) stage m next m' exchange)
    (hknows : stage.Knows (.text name) m) (hm : m.IsBacked) :
    m'.IsBacked := by
  cases h with
  | opens =>
    have hused : ({ m with server := m.server.use (.text name) } : Memory).IsBacked :=
      hm.mono (Server.keeps_use _ _) rfl
    intro v hv
    rcases List.mem_append.1 hv with hv | hv
    · exact hused v hv
    · obtain rfl := List.mem_singleton.1 hv
      exact ⟨hknows, _, Entries.get?_put_text _ _ _⟩
  | creates => exact hm.mono (Server.keeps_create _ _) rfl
  | refused => exact hm.mono (Server.keeps_create _ _) rfl
  | _ => exact hm

/-! ## Turns and races -/

namespace Race

variable {caller : Nat → Nat} {home : Nat → Home} {start : Server} {race race' race'' : Race Home}
  {stage stage' stage'' : Nat → Stage}

/-- Whether the databases that exist are those that existed at the start and those that calls have
    created, each of these once. -/
structure IsAccounted {α : Type} (start : Server) (race : Race α) : Prop where
  created : race.server.created = start.created ++ race.creations
  nodup : race.creations.Nodup
  absent : ∀ v ∈ race.creations, v ∉ start.created

/-- One more database is created, or none. -/
theorem IsAccounted.append {α : Type} {race race' : Race α} (h : race.IsAccounted start)
    {fresh : Option Value} (hcreated : race'.server.created = race.server.created ++ fresh.toList)
    (hcreations : race'.creations = race.creations ++ fresh.toList)
    (habsent : ∀ v, fresh = some v → v ∉ race.server.created) : race'.IsAccounted start := by
  refine ⟨?_, ?_, fun v hv => ?_⟩
  · rw [hcreated, hcreations, h.created, List.append_assoc]
  · rw [hcreations]
    refine List.nodup_append.2 ⟨h.nodup, by cases fresh <;> simp, fun v hv w hw heq => ?_⟩
    refine habsent w (Option.mem_toList.1 hw) ?_
    rw [h.created, ← heq]
    exact List.mem_append_right _ hv
  · rw [hcreations] at hv
    rcases List.mem_append.1 hv with hv | hv
    · exact h.absent v hv
    · refine fun hstart => habsent v (Option.mem_toList.1 hv) ?_
      rw [h.created]
      exact List.mem_append_left _ hstart

/-- What is true throughout a race for homes, when the calls are at some stages. -/
structure Stands (caller : Nat → Nat) (home : Nat → Home) (start : Server) (race : Race Home)
    (stage : Nat → Stage) : Prop where
  rest : ∀ i, race.rest i = (stage i).rest (home i)
  knows : ∀ i, (stage i).Knows (home i).database (race.view (caller i))
  isBacked : ∀ session, (race.view session).IsBacked
  told : ∀ i, stage i = .creating → (i, ⟨.exists (home i).database, .ok false⟩) ∈ race.record
  keeps : start.Keeps race.server
  isAccounted : race.IsAccounted start

/-- What has come between two moments of a race.  A call that is about to create a database at the
    later one was so at the earlier one if the database existed then, and it is with those calls
    that later creations are. -/
structure Since (home : Nat → Home) (race : Race Home) (stage : Nat → Stage) (race' : Race Home)
    (stage' : Nat → Stage) : Prop where
  keeps : race.server.Keeps race'.server
  creating : ∀ i, (home i).database ∈ race.server.created → stage' i = .creating →
    stage i = .creating
  record : ∃ new, race'.record = race.record ++ new ∧ ∀ entry ∈ new, ∀ name,
    entry.2.request = .createDatabase name →
    name = (home entry.1).database ∧ (name ∈ race.server.created → stage entry.1 = .creating)

theorem Since.refl (home : Nat → Home) (race : Race Home) (stage : Nat → Stage) :
    Since home race stage race stage :=
  ⟨Server.Keeps.refl _, fun _ _ h => h, [], (List.append_nil _).symm, fun _ h => nomatch h⟩

theorem Since.trans (h : Since home race stage race' stage')
    (h' : Since home race' stage' race'' stage'') :
    Since home race stage race'' stage'' := by
  obtain ⟨new, hnew, hcreate⟩ := h.record
  obtain ⟨new', hnew', hcreate'⟩ := h'.record
  refine ⟨h.keeps.trans h'.keeps, fun i hi hcreating => ?_, new ++ new', ?_,
    fun entry hmem name hname => ?_⟩
  · exact h.creating i hi (h'.creating i (h.keeps.created.subset hi) hcreating)
  · rw [hnew', hnew, List.append_assoc]
  · rcases List.mem_append.1 hmem with hmem | hmem
    · exact hcreate entry hmem name hname
    · obtain ⟨rfl, hlater⟩ := hcreate' entry hmem name hname
      exact ⟨rfl, fun hi => h.creating _ hi (hlater (h.keeps.created.subset hi))⟩

variable {call : Nat} {name : String} {next : Stage} {m : Memory} {exchange : Option Exchange}

/-- The creations of a race with one more exchange. -/
theorem creations_append (record : List (Nat × Exchange)) (call : Nat)
    (exchange : Option Exchange) :
    (record ++ exchange.toList.map (call, ·)).filterMap (fun entry => entry.2.created?) =
      record.filterMap (fun entry => entry.2.created?) ++
        (exchange.bind Exchange.created?).toList := by
  rw [List.filterMap_append]
  cases exchange with
  | none => rfl
  | some e => cases hcreated : e.created? <;> simp [hcreated]

/-- A move of a call leaves everything standing. -/
theorem stands_after (hnames : ∀ i, ∃ name, (home i).database = .text name)
    (h : Stands caller home start race stage) (hname : (home call).database = .text name)
    (hmoves : Stage.Moves (.text name) (stage call) (race.view (caller call)) next m exchange) :
    Stands caller home start (race.after (caller call) call (next.rest (home call), m, exchange))
      (Function.update stage call next) := by
  have hknows := h.knows call
  rw [hname] at hknows
  have hopened : ∀ session,
      race.opened session ⊆ Function.update race.opened (caller call) m.opened session := by
    intro session
    by_cases hsession : session = caller call
    · subst hsession
      rw [Function.update_self]
      exact hmoves.opened_subset
    · rw [Function.update_of_ne hsession]
      exact List.Subset.refl _
  refine ⟨fun i => ?_, fun i => ?_, fun session => ?_, fun i hi => ?_, h.keeps.trans hmoves.keeps,
    h.isAccounted.append hmoves.created_eq.1 (creations_append _ _ _) hmoves.created_eq.2⟩
  · -- what is left to do
    by_cases hi : i = call
    · subst hi
      simp only [after, Function.update_self]
    · simp only [after, Function.update_of_ne hi]
      exact h.rest i
  · -- what is known: the call itself has moved, and the others lose nothing by it
    by_cases hi : i = call
    · subst hi
      rw [Function.update_self, hname]
      simpa only [view, after, Function.update_self] using hmoves.knows hknows
    · rw [Function.update_of_ne hi]
      obtain ⟨other, hother⟩ := hnames i
      have hknows := h.knows i
      rw [hother] at hknows ⊢
      exact hknows.mono hmoves.keeps (hopened _)
  · -- caches
    by_cases hsession : session = caller call
    · subst hsession
      simpa only [view, after, Function.update_self] using hmoves.isBacked hknows (h.isBacked _)
    · exact (h.isBacked session).mono hmoves.keeps (Function.update_of_ne hsession _ _)
  · -- who has been told
    by_cases hcall : i = call
    · subst hcall
      rw [Function.update_self] at hi
      subst hi
      rw [hmoves.told.2, hname]
      exact List.mem_append_right _ List.mem_cons_self
    · rw [Function.update_of_ne hcall] at hi
      exact List.mem_append_left _ (h.told i hi)

/-- A call does not come to create a database that exists. -/
theorem since_after (hname : (home call).database = .text name)
    (hmoves : Stage.Moves (.text name) (stage call) (race.view (caller call)) next m exchange) :
    Since home race stage (race.after (caller call) call (next.rest (home call), m, exchange))
      (Function.update stage call next) := by
  refine ⟨hmoves.keeps, fun i hi hcreating => ?_, _, rfl, fun entry hmem v hv => ?_⟩
  · by_cases hcall : i = call
    · subst hcall
      rw [Function.update_self] at hcreating
      subst hcreating
      exact absurd (hname ▸ hi) hmoves.told.1
    · rwa [Function.update_of_ne hcall] at hcreating
  · obtain ⟨e, he, rfl⟩ := List.mem_map.1 hmem
    obtain ⟨hcreating, rfl⟩ := hmoves.creating_of_request (Option.mem_toList.1 he) hv
    exact ⟨hname.symm, fun _ => hcreating⟩

/-- **One turn**: everything still stands, and the call that had the turn is nearer to its end. -/
theorem stands_turn (hnames : ∀ i, ∃ name, (home i).database = .text name)
    (h : Stands caller home start race stage) (call : Nat) :
    ∃ next, Stands caller home start (race.turn caller call) (Function.update stage call next) ∧
      Since home race stage (race.turn caller call) (Function.update stage call next) ∧
      next.left ≤ (stage call).left - 1 := by
  obtain ⟨name, hname⟩ := hnames call
  obtain ⟨next, m, exchange, hstep, hmoves⟩ :=
    (stage call).step_moves hname (race.view (caller call))
  rw [hname] at hmoves
  rw [turn, h.rest, hstep]
  exact ⟨next, stands_after hnames h hname hmoves, since_after hname hmoves, hmoves.left_le⟩

/-- What a turn makes of the call that has it, and of the record. -/
theorem turn_moves (caller : Nat → Nat) (hname : (home call).database = .text name)
    (hrest : race.rest call = next.rest (home call)) :
    ∃ next' m exchange, Stage.Moves (.text name) next (race.view (caller call)) next' m exchange ∧
      (race.turn caller call).rest call = next'.rest (home call) ∧
      (race.turn caller call).record = race.record ++ exchange.toList.map (call, ·) := by
  obtain ⟨next', m, exchange, hstep, hmoves⟩ := next.step_moves hname (race.view (caller call))
  rw [hname] at hmoves
  rw [turn, hrest, hstep]
  exact ⟨next', m, exchange, hmoves, Function.update_self _ _ _, rfl⟩

/-- A call that has been told that its database does not exist tries to create it, whatever has
    happened since.  If the database exists by now, it is refused, and has its result three turns
    later. -/
theorem play_creating (caller : Nat → Nat) (home : Nat → Home)
    (hname : (home call).database = .text name)
    (hrest : race.rest call = Stage.creating.rest (home call))
    (hcreated : .text name ∈ race.server.created) :
    (∃ e, e.isRefusal .databaseExists = true ∧
      (race.play caller [call, call, call]).record = race.record ++
      [(call, ⟨.createDatabase (.text name), .error e⟩),
        (call, ⟨.openDatabase (.text name), .ok ()⟩)]) ∧
      (race.play caller [call, call, call]).HasEnded call := by
  obtain ⟨next₁, m₁, first, hmoves₁, hrest₁, hrecord₁⟩ := turn_moves caller hname hrest
  cases hmoves₁ with
  | creates h => exact absurd hcreated h
  | refused =>
    obtain ⟨next₂, m₂, second, hmoves₂, hrest₂, hrecord₂⟩ := turn_moves caller hname hrest₁
    cases hmoves₂
    obtain ⟨next₃, m₃, third, hmoves₃, hrest₃, hrecord₃⟩ := turn_moves caller hname hrest₂
    cases hmoves₃
    refine ⟨⟨.refuse .databaseExists (Refused.messageOf .databaseExists) .null, rfl, ?_⟩,
      home call, hrest₃⟩
    show (((race.turn caller call).turn caller call).turn caller call).record = _
    rw [hrecord₃, hrecord₂, hrecord₁, List.append_assoc, List.append_assoc]
    rfl

/-- **A whole race**: everything still stands, and every call is nearer to its end by the turns it
    has had. -/
theorem stands_play (hnames : ∀ i, ∃ name, (home i).database = .text name)
    (h : Stands caller home start race stage) (schedule : List Nat) :
    ∃ stage', Stands caller home start (race.play caller schedule) stage' ∧
      Since home race stage (race.play caller schedule) stage' ∧
      ∀ i, (stage' i).left ≤ (stage i).left - schedule.count i := by
  -- The induction is on the schedule; what has been played so far is any race that stands.
  induction schedule generalizing race stage with
  | nil => exact ⟨stage, h, .refl _ _ _, fun i => Nat.le_refl _⟩
  | cons call schedule ih =>
    obtain ⟨next, hturn, hsince, hleft⟩ := stands_turn hnames h call
    obtain ⟨stage', hplay, hsince', hleft'⟩ := ih hturn
    refine ⟨stage', hplay, hsince.trans hsince', fun i => (hleft' i).trans ?_⟩
    rw [List.count_cons]
    by_cases hi : i = call
    · subst hi
      rw [Function.update_self]
      simp
      omega
    · rw [Function.update_of_ne hi]
      simp [Ne.symm hi]

/-- A race stands when it has not begun. -/
theorem stands_start (caller : Nat → Nat) (home : Nat → Home) (server : Server) :
    Stands caller home server (Race.start server fun i => Stage.looking.rest (home i))
      fun _ => .looking where
  rest _ := rfl
  knows _ := trivial
  isBacked _ := fun _ hv => nomatch hv
  told _ h := nomatch h
  keeps := .refl _
  isAccounted := ⟨(List.append_nil _).symm, List.nodup_nil, fun _ hv => nomatch hv⟩

/-- A call that has its result has the home of its model, and has opened the database, which
    exists. -/
theorem Stands.of_hasEnded (h : Stands caller home start race stage) {i : Nat}
    (hended : race.HasEnded i) :
    stage i = .ended ∧ (home i).database ∈ race.server.created ∧
      race.server.databases.get? (home i).database = some (start.database (home i).database) := by
  obtain ⟨result, hresult⟩ := hended
  rw [h.rest] at hresult
  obtain ⟨hstage, -⟩ := Stage.ended_of_rest hresult
  have hknows := h.knows i
  rw [hstage] at hknows
  obtain ⟨hcreated, db, hdb⟩ := h.isBacked (caller i) _ hknows
  have hdb : race.server.databases.get? (home i).database = some db := hdb
  -- What is found is what has been there from the start, since nothing is replaced.
  have hkept := h.keeps.database (home i).database
  rw [Server.database, hdb, Option.getD_some] at hkept
  exact ⟨hstage, hcreated, hkept ▸ hdb⟩

/-- A call that has had five turns has its result. -/
theorem Stands.hasEnded (h : Stands caller home start race stage) {i turns : Nat}
    (hleft : (stage i).left ≤ 5 - turns) (hturns : 5 ≤ turns) : race.HasEnded i := by
  have hended : stage i = .ended := Stage.ended_of_left (by omega)
  refine ⟨home i, ?_⟩
  rw [h.rest, hended]
  rfl

/-- **However a race goes on**, no database is taken back or replaced.  When a call has got one,
    later attempts to create it come from calls that had been told before that it does not exist and
    have no result yet, and so from none of a session that is quiet. -/
theorem Stands.later (hnames : ∀ i, ∃ name, (home i).database = .text name)
    (h : Stands caller home start race stage) (more : List Nat) :
    race.server.Keeps (race.play caller more).server ∧
      ∃ new, (race.play caller more).record = race.record ++ new ∧ ∀ call, race.HasEnded call →
        (∀ entry ∈ new, entry.2.request = .createDatabase (home call).database →
          (entry.1, ⟨.exists (home call).database, .ok false⟩) ∈ race.record ∧
          ¬race.HasEnded entry.1) ∧
        (race.IsQuiet caller home (caller call) (home call).database →
          ∀ entry ∈ new, caller entry.1 = caller call →
            entry.2.request ≠ .createDatabase (home call).database) := by
  obtain ⟨stage', -, hsince, -⟩ := stands_play hnames h more
  obtain ⟨new, hnew, hcreate⟩ := hsince.record
  refine ⟨hsince.keeps, new, hnew, fun call hended => ?_⟩
  have hlate : ∀ entry ∈ new, entry.2.request = .createDatabase (home call).database →
      (home entry.1).database = (home call).database ∧
        (entry.1, ⟨.exists (home call).database, .ok false⟩) ∈ race.record ∧
        ¬race.HasEnded entry.1 := by
    intro entry hmem hrequest
    obtain ⟨hname, hcreating⟩ := hcreate entry hmem _ hrequest
    have hcreating := hcreating (h.of_hasEnded hended).2.1
    refine ⟨hname.symm, hname ▸ h.told _ hcreating, fun hentry => ?_⟩
    exact nomatch hcreating.symm.trans (h.of_hasEnded hentry).1
  refine ⟨fun entry hmem hrequest => (hlate entry hmem hrequest).2,
    fun hquiet entry hmem hcaller hrequest => ?_⟩
  obtain ⟨hname, htold, hunended⟩ := hlate entry hmem hrequest
  exact hunended (hquiet entry.1 hcaller hname ⟨_, htold⟩)

end Race

namespace Session

/-- Calls for the homes of models stand in every race for them. -/
theorem stands_home (server : Server) {sessions : Nat → Session}
    (htyped : ∀ session, (sessions session).schema.isTyped = true) (caller : Nat → Nat)
    (model : Nat → String) :
    ∃ home : Nat → Home,
      (∀ call, ∃ stored, (sessions (caller call)).schema.modelName (.text (model call)) =
        .ok stored ∧ home call = (sessions (caller call)).homeOf stored) ∧
      (∀ call, ∃ name, (home call).database = .text name) ∧
      ∀ schedule : List Nat, ∃ stage,
        Race.Stands caller home server
          ((Race.start server fun call => (sessions (caller call)).home (.text (model call))).play
            caller schedule) stage ∧
        ∀ call, (stage call).left ≤ 5 - schedule.count call := by
  choose stored hstored using fun call => Schema.modelName_typed (htyped (caller call)) (model call)
  let home : Nat → Home := fun call => (sessions (caller call)).homeOf (.text (stored call))
  have hnames : ∀ call, ∃ name, (home call).database = .text name := fun call => homeOf_database _ _
  have hcalls : (fun call => (sessions (caller call)).home (.text (model call))) =
      fun call => Stage.looking.rest (home call) := by
    funext call
    obtain ⟨name, hname⟩ := hnames call
    exact Stage.rest_looking (hstored call) hname
  refine ⟨home, fun call => ⟨_, hstored call, rfl⟩, hnames, fun schedule => ?_⟩
  obtain ⟨stage, hstands, -, hleft⟩ :=
    Race.stands_play hnames (Race.stands_start caller home server) schedule
  rw [← hcalls] at hstands
  exact ⟨stage, hstands, hleft⟩

/-- Two calls of one session for one model.  Both are told that the database does not exist, and
    then the first of them gets it.  The session is not quiet, because its second call is on its way
    still: this tries to create the database once more, and is refused.  Then the session is quiet,
    and however the race goes on, it does not try again. -/
theorem race_resolves_late :
    let calls := fun _ : Nat => standard.home (.text "user")
    let caller := fun _ : Nat => 0
    let home := fun _ : Nat => standard.homeOf (.text "user")
    let name : Value := .text "app_auth"
    let race := (Race.start (.empty none Server.standardLimit) calls).play caller
      [0, 1, 0, 1, 0, 0, 0]
    let later := race.play caller [1, 1, 1]
    (1, ⟨.exists name, .ok false⟩) ∈ race.record ∧ race.HasEnded 0 ∧
      ¬race.IsQuiet caller home 0 name ∧
      (∃ e, e.isRefusal .databaseExists = true ∧ later.record = race.record ++
        [(1, ⟨.createDatabase name, .error e⟩), (1, ⟨.openDatabase name, .ok ()⟩)]) ∧
      later.IsQuiet caller home 0 name ∧
      ∀ more, ∃ new, (later.play caller more).record = later.record ++ new ∧
        ∀ entry ∈ new, entry.2.request ≠ .createDatabase name := by
  intro calls caller home name race later
  obtain ⟨found, hfound, hnames, hplay⟩ := stands_home (.empty none Server.standardLimit)
    (fun _ => rfl : ∀ _ : Nat, standard.schema.isTyped = true) caller fun _ => "user"
  obtain rfl : found = home := by
    funext call
    obtain ⟨stored, hstored, heq⟩ := hfound call
    rw [heq, ← Except.ok.inj hstored]
  -- One call has its result, and the other is about to create the database.
  obtain ⟨stage, hrace, hleft⟩ := hplay [0, 1, 0, 1, 0, 0, 0]
  have hended : race.HasEnded 0 := hrace.hasEnded (hleft 0) (by decide)
  have hcreating : race.rest 1 = Stage.creating.rest (home 1) := rfl
  obtain ⟨⟨e, he, hlate⟩, hended₁⟩ :=
    Race.play_creating caller home rfl hcreating (hrace.of_hasEnded hended).2.1
  obtain ⟨-, new, hnew, hcreate⟩ := hrace.later hnames [1, 1, 1]
  obtain rfl := List.append_cancel_left (hlate.symm.trans hnew)
  obtain ⟨htold, hunended⟩ := (hcreate 0 hended).1 _ List.mem_cons_self rfl
  -- When that has its result too, no call is on its way.
  obtain ⟨stage, hlater, hleft⟩ := hplay ([0, 1, 0, 1, 0, 0, 0] ++ [1, 1, 1])
  rw [Race.play_append] at hlater
  have hended₀ : later.HasEnded 0 := hlater.hasEnded (hleft 0) (by decide)
  have hbegun : later.record.map Prod.fst = [0, 1, 0, 1, 0, 0, 1, 1] := by
    rw [hlate]
    rfl
  have hquiet : later.IsQuiet caller home 0 name := by
    rintro call - - ⟨exchange, hexchange⟩
    have hcall : call ∈ [0, 1, 0, 1, 0, 0, 1, 1] := hbegun ▸ List.mem_map.2 ⟨_, hexchange, rfl⟩
    have hcall : call = 0 ∨ call = 1 := by
      simp at hcall
      omega
    rcases hcall with rfl | rfl
    · exact hended₀
    · exact hended₁
  refine ⟨htold, hended, fun hquiet => hunended (hquiet 1 rfl rfl ⟨_, htold⟩), ⟨e, he, hlate⟩,
    hquiet, fun more => ?_⟩
  obtain ⟨-, new, hnew, hcreate⟩ := hlater.later hnames more
  exact ⟨new, hnew, fun entry hmem => (hcreate 0 hended₀).2 hquiet entry hmem rfl⟩

end Session

end DocStore
