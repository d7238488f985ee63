/-
  Creating documents when nobody else writes.

  A new document is inserted under its own identifier.  If that is taken, what holds it is removed
  and the document is inserted once more; it brings no revision, so the second insert is not
  refused.

  1. **Inserting** — an insert stores the document under its identifier and leaves the others alone,
     or it is refused and leaves all alone (`run_insert_cases`).

  2. **Making** — what creating may do to what is stored under one identifier: nothing, or the new
     document takes its place (`Makes`).  In between there is nothing; it stays so only if the
     document brings a revision, as it does where the revision is what tells models apart.

  3. **Creating** — it makes what it was given under one identifier and does nothing under any
     other, whether it then ends well or fails (`create_yields`).
-/
import DocStore.Proofs.Session.Amending

namespace DocStore

open Program

/-- Only a text gets a document. -/
theorem Database.exists_of_get {db : Database} {id v : Value} (h : db.get id = .ok v) :
    ∃ key d, id = .text key ∧ db.documents.get? key = some d ∧ v = .object d.fields := by
  obtain ⟨found, hlook, h⟩ := exists_of_bind_ok h
  cases found with
  | none => cases h
  | some d =>
    obtain rfl := Except.ok.inj h
    cases id with
    | text key => exact ⟨key, d, rfl, Except.ok.inj hlook, rfl⟩
    | _ =>
      simp only [look] at hlook
      split at hlook <;> cases hlook

namespace Session

variable {s : Session} {m : Memory} {home : Home} {model name key : String}
  {document : Object} {old : Server}

/-! ## Inserting -/

/-- **An insert** is accepted under the current revision, and then the document is stored under its
    identifier, in the first generation if nothing was; or it is refused for a conflict, and nothing
    is stored. -/
theorem run_insert_cases (name : String) (document : Object) (m : Memory) :
    (∃ e m', (send (.insert (.text name) document)).run Memory.backend m = (.error e, m') ∧
        e.isRefusal .conflict = true ∧
        m'.server = (Request.insert (.text name) document).serve m.server ∧
        m.server.SameDocuments m'.server ∧
        Value.same (Object.getD document "_rev") (Database.currentRevision
          ((m.server.database (.text name)).documents.get?
            (Database.identify document m.server.draws).1)) =
          false) ∨
      ∃ revision m', (send (.insert (.text name) document)).run Memory.backend m =
          (.ok ⟨(Database.identify document m.server.draws).1, revision.text⟩, m') ∧
        m'.server = (Request.insert (.text name) document).serve m.server ∧
        Value.same (Object.getD document "_rev") (Database.currentRevision
          ((m.server.database (.text name)).documents.get?
            (Database.identify document m.server.draws).1)) =
          true ∧
        ((m.server.database (.text name)).documents.get?
          (Database.identify document m.server.draws).1 = none → revision.generation = 1) ∧
        (m'.server.database (.text name)).documents.get?
            (Database.identify document m.server.draws).1 =
          some (Database.storedAs document
            (Database.identify document m.server.draws).1 revision) := by
  rcases hinsert :
    (m.server.database (.text name)).insert document m.server.draws with ⟨answer, db, draws⟩
  have hrun : (send (.insert (.text name) document)).run Memory.backend m =
      (answer, { m with
        server := { m.server.setDatabase (.text name) db with draws := draws } }) := by
    rw [run_send]
    show ((m.server.insert (.text name) document).1,
      ({ m with server := (m.server.insert (.text name) document).2 } : Memory)) = _
    rw [Server.insert, hinsert]
  have hserve : ({ m.server.setDatabase (.text name) db with draws := draws } : Server) =
      (Request.insert (.text name) document).serve m.server := by
    show _ = (m.server.insert (.text name) document).2
    rw [Server.insert, hinsert]
  cases answer with
  | error e =>
    have hcurrent : ¬Value.same (Object.getD document "_rev") (Database.currentRevision
        ((m.server.database (.text name)).documents.get?
          (Database.identify document m.server.draws).1)) =
        true := by
      intro haccepted
      rw [Database.insert] at hinsert
      dsimp only at hinsert
      rw [if_pos haccepted] at hinsert
      cases hinsert
    obtain ⟨rfl, -, hconflict⟩ := Database.insert_refused hinsert
    exact .inl ⟨e, _, hrun, hconflict, hserve,
      Server.sameDocuments_setDatabase rfl, by simpa using hcurrent⟩
  | ok receipt =>
    obtain ⟨id, token, revision, hid, -, hnext, haccepted, rfl, rfl⟩ :=
      Database.insert_accepted hinsert
    rw [hid]
    refine .inr ⟨revision, _, hrun, hserve, haccepted, fun hnone => ?_, ?_⟩
    · rw [hnext, hnone]
      rfl
    show ((m.server.setDatabase (.text name) _).database (.text name)).documents.get? id = _
    rw [Server.database_setDatabase_text]
    exact Table.get?_put_self _ _ _

/-! ## Making -/

/-- What creating a document may do to what is stored under an identifier. -/
inductive Makes (document : Object) (key : String) (before : Option Stored) : Option Stored → Prop
  /-- Nothing. -/
  | left : Makes document key before before
  /-- The document takes its place. -/
  | made (revision : Revision) :
      Makes document key before (some (Database.storedAs document key revision))
  /-- What held the identifier is gone, and the document, which brings a revision, has been
      refused. -/
  | lost (hrev : Object.getD document "_rev" ≠ .null) : Makes document key before none

theorem makes_iff {before after : Option Stored} : Makes document key before after ↔
    after = before ∨ (∃ revision, after = some (Database.storedAs document key revision)) ∨
      after = none ∧ Object.getD document "_rev" ≠ .null := by
  constructor
  · rintro (_ | revision | hrev)
    · exact .inl rfl
    · exact .inr (.inl ⟨revision, rfl⟩)
    · exact .inr (.inr ⟨rfl, hrev⟩)
  · rintro (rfl | ⟨revision, rfl⟩ | ⟨rfl, hrev⟩)
    · exact .left
    · exact .made revision
    · exact .lost hrev

/-- Compared with an earlier state, a document may have been created. -/
structure Made (home : Home) (document : Object) (key : String) (old new : Server) : Prop where
  sound : new.IsSound
  makes : Makes document key (home.stored? old key) (home.stored? new key)

theorem Made.same {server new : Server} (h : Made home document key old server)
    (hsound : new.IsSound) (hsame : home.stored? new key = home.stored? server key) :
    Made home document key old new :=
  ⟨hsound, hsame ▸ h.makes⟩

theorem stands_made (home : Home) (document : Object) (key : String) (old : Server) :
    Stands (Made home document key old) := fun request server hreading h =>
  h.same (Server.serve_isSound h.sound request)
    (Home.stored?_of_alike (Server.alike_of_reading hreading server) home key)

/-- A created document, as it is stored and answered. -/
def IsMade (home : Home) (document : Object) (v : Value) (server : Server) : Prop :=
  ∃ id revision, home.stored? server id = some (Database.storedAs document id revision) ∧
    v = .object (Database.storedAs document id revision).fields

/-- The document is inserted; where there is nothing under its identifier, only a revision that it
    brings can keep it from being accepted. -/
theorem insertAndRead_yields (hname : home.database = .text name) (hm : m.server.IsSound)
    (h : Makes document key (home.stored? old key) (home.stored? m.server key) ∨
      home.stored? m.server key = none ∧ (Database.identify document m.server.draws).1 = key) :
    (insertAndRead home document).Yields (Made home document key old) (IsMade home document) m := by
  have hstored : ∀ server id,
      home.stored? server id = (server.database (.text name)).documents.get? id :=
    fun _ _ => by rw [Home.stored?, hname]
  have hsound := Server.serve_isSound hm (.insert (.text name) document)
  unfold insertAndRead
  rw [hname]
  rcases run_insert_cases name document m with ⟨e, m', hrun, -, hserve, hsame, hcurrent⟩ |
    ⟨revision, m', hrun, hserve, -, -, hmade⟩
  · rw [← hserve] at hsound
    refine yields_of_run (run_bind_error hrun) ⟨hsound, ?_⟩ fun _ ha => by cases ha
    rw [hstored m'.server, hsame (.text name), ← hstored]
    rcases h with hmakes | ⟨hnone, hid⟩
    · exact hmakes
    · rw [hid, ← hstored, hnone] at hcurrent
      rw [hnone]
      refine .lost fun hnull => ?_
      rw [hnull] at hcurrent
      cases hcurrent
  · rw [← hserve] at hsound
    refine yields_bind_of_run hrun
      (yields_of_run (run_get ⟨.text name, home.model, home.tagField⟩ hmade)
      ⟨hsound, ?_⟩ fun v hv => ⟨_, revision, by rw [hstored, hmade], (Except.ok.inj hv).symm⟩)
    by_cases hkey : (Database.identify document m.server.draws).1 = key
    · rw [hstored m'.server, ← hkey, hmade]
      exact .made revision
    · rw [hstored m'.server, hserve, Server.get?_serve_insert_ne (Ne.symm hkey), ← hstored]
      exact h.resolve_right fun hor => hkey hor.2

/-- Under its revision a document is removed, and nothing else. -/
theorem run_destroy (hm : m.server.IsSound) {id : String} {d : Stored}
    (hd : (m.server.database (.text name)).documents.get? id = some d) :
    ∃ m', (send (.destroy (.text name) (.text id) (.text d.revision.text))).run Memory.backend m =
        (.ok (), m') ∧
      m'.server.IsSound ∧ (m'.server.database (.text name)).documents.get? id = none ∧
      ∀ other, other ≠ id → (m'.server.database (.text name)).documents.get? other =
        (m.server.database (.text name)).documents.get? other := by
  obtain ⟨db, hdb, hdestroy⟩ : ∃ db : Database,
      db.documents = (m.server.database (.text name)).documents.remove id ∧
      (m.server.database (.text name)).destroy (.text id) (.text d.revision.text) = (.ok (), db) :=
    ⟨_, rfl, (Database.destroy_stored hd d.revision.text).trans (if_pos rfl)⟩
  have hserve : (Request.destroy (.text name) (.text id) (.text d.revision.text)).serve m.server =
      m.server.setDatabase (.text name) db := by
    show (m.server.destroy (.text name) (.text id) (.text d.revision.text)).2 = _
    rw [Server.destroy, hdestroy]
  have hrun : (send (.destroy (.text name) (.text id) (.text d.revision.text))).run
        Memory.backend m = (.ok (), { m with server := m.server.setDatabase (.text name) db }) := by
    rw [run_send]
    show ((m.server.destroy (.text name) (.text id) (.text d.revision.text)).1,
      ({ m with server := (m.server.destroy (.text name) (.text id) (.text d.revision.text)).2 } :
        Memory)) = _
    rw [Server.destroy, hdestroy]
  refine ⟨_, hrun, hserve ▸ Server.serve_isSound hm _, ?_, fun other hne => ?_⟩
  · rw [Server.database_setDatabase_text, hdb]
    exact Table.get?_remove_self (hm (.text name)).ordered id
  · rw [Server.database_setDatabase_text, hdb, Table.get?_remove_ne _ hne]

/-- Whether what holds an identifier is foreign or the model's own makes a difference to the log
    only. -/
theorem run_evict_stored {σ : Type} (backend : Backend σ) (home : Home) {draws : Nat}
    {id : String} {d : Stored} (hd : d.IsSound draws id) (shown : Value) (st : σ) :
    ∃ st', (st' = st ∨ ∃ entry, st' = backend.note entry st) ∧
      (evict home shown (.object d.fields)).run backend st =
        (send (.destroy home.database (.text id) (.text d.revision.text))).run backend st' := by
  obtain ⟨hid, hrev⟩ := entry_of_stored hd
  unfold evict
  rw [run_bind_lift (home.owns_stored d)]
  cases home.isOwn d with
  | true =>
    rw [if_pos rfl]
    dsimp only
    rw [run_bind_lift hid, run_bind_lift hrev]
    exact ⟨st, .inl rfl, rfl⟩
  | false =>
    rw [if_neg Bool.false_ne_true,
      run_bind_lift (show Value.fields (.object d.fields) = .ok d.fields from rfl)]
    dsimp only
    rw [run_bind_ok (run_note _ _ _ _ _), run_bind_lift hid, run_bind_lift hrev]
    exact ⟨_, .inr ⟨_, rfl⟩, rfl⟩

/-- What holds an identifier is removed, and nothing else. -/
theorem run_evict (hname : home.database = .text name) (hm : m.server.IsSound)
    {id : String} {d : Stored} (hd : home.stored? m.server id = some d) (shown : Value) :
    ∃ m', (evict home shown (.object d.fields)).run Memory.backend m = (.ok (), m') ∧
      m'.server.IsSound ∧ home.stored? m'.server id = none ∧
      ∀ other, other ≠ id → home.stored? m'.server other = home.stored? m.server other := by
  obtain ⟨m₁, hnoted, hrun⟩ :=
    run_evict_stored Memory.backend home ((hm home.database).stored id d hd) shown m
  have hserver : m₁.server = m.server := by
    rcases hnoted with rfl | ⟨entry, rfl⟩
    · rfl
    · rfl
  rw [Home.stored?, hname, ← hserver] at hd
  rw [← hserver] at hm
  rw [hname] at hrun
  obtain ⟨m', hdestroy, hsound, hgone, hothers⟩ := run_destroy hm hd
  refine ⟨m', hrun.trans hdestroy, hsound, ?_, fun other hne => ?_⟩
  · rw [Home.stored?, hname, hgone]
  · rw [Home.stored?, Home.stored?, hname, hothers other hne, hserver]

/-- What is found in the way of a document is removed before the document is inserted. -/
theorem run_replace_found {σ : Type} {backend : Backend σ} {home : Home} {document : Object}
    {existing : Value} {st st' : σ}
    (hget : (send (.get home.database (Object.getD document "_id"))).run backend st =
      (.ok existing, st')) :
    (replace home document).run backend st =
      (do evict home (Object.getD document "_id") existing; insertAndRead home document).run
        backend st' := by
  unfold replace
  dsimp only
  rw [run_bind_ok (run_onRefusal_ok (run_bind_ok hget) _ _)]

/-- Where looking for what is in the way fails, the document is inserted if nothing has been
    found. -/
theorem run_replace_unfound {σ : Type} {backend : Backend σ} {home : Home}
    {document : Object} {e : Failure} {st st' : σ}
    (hget : (send (.get home.database (Object.getD document "_id"))).run backend st =
      (.error e, st')) :
    (replace home document).run backend st =
      if e.isRefusal .notFound = true then (insertAndRead home document).run backend st'
      else (.error e, st') := by
  have hlookUp :=
    run_bind_error (f := fun existing => (pure (some existing) : Program (Option Value))) hget
  unfold replace
  dsimp only
  cases hmissing : e.isRefusal .notFound with
  | true =>
    have hnone : ((do return some (← send (.get home.database (Object.getD document "_id"))) :
        Program (Option Value)).onRefusal .notFound (return none)).run backend st =
          (.ok none, st') := by
      rw [run_onRefusal, hlookUp]
      exact if_pos hmissing
    rw [run_bind_ok hnone, if_pos rfl]
  | false =>
    have hfails : ((do return some (← send (.get home.database (Object.getD document "_id"))) :
        Program (Option Value)).onRefusal .notFound (return none)).run backend st =
          (.error e, st') := by
      rw [run_onRefusal, hlookUp]
      exact if_neg (by simp [hmissing])
    rw [run_bind_error hfails, if_neg Bool.false_ne_true]

/-- What holds the identifier of a document gives way to it. -/
theorem replace_yields (hname : home.database = .text name)
    (h : Made home document key old m.server) :
    (replace home document).Yields (Made home document key old) (IsMade home document) m := by
  have hsend : (send (.get home.database (Object.getD document "_id"))).run Memory.backend m =
      ((m.server.database home.database).get (Object.getD document "_id"), m) := run_send _ _ _
  unfold replace
  dsimp only
  cases hget : (m.server.database home.database).get (Object.getD document "_id") with
  | error e =>
    rw [hget] at hsend
    have hnone : (do return some (← send (.get home.database (Object.getD document "_id"))) :
        Program (Option Value)).run Memory.backend m = (.error e, m) := run_bind_error hsend
    refine yields_bind (P := fun found _ => found = none)
      (yields_onRefusal ?_ fun m' h' => yields_pure h' rfl) fun found m' h' hfound => ?_
    · exact yields_of_run hnone h fun _ ha => by cases ha
    · subst hfound
      exact insertAndRead_yields hname h'.sound (.inl h'.makes)
  | ok existing =>
    rw [hget] at hsend
    obtain ⟨id, d, hid, hd, rfl⟩ := Database.exists_of_get hget
    obtain ⟨m', hevict, hsound, hgone, hothers⟩ :=
      run_evict hname h.sound hd (Object.getD document "_id")
    refine yields_bind_of_run (run_onRefusal_ok (run_bind_ok hsend) _ _)
      (yields_bind_of_run hevict ?_)
    refine insertAndRead_yields hname hsound ?_
    by_cases hkey : key = id
    · have hnamed : Object.get? document "_id" = some (.text id) := by
        rw [Object.getD] at hid
        cases hget : Object.get? document "_id" with
        | none => rw [hget] at hid; cases hid
        | some v => rw [hget] at hid; exact congrArg some hid
      obtain ⟨-, -, nonempty, -, -⟩ := (h.sound home.database).stored id d hd
      rw [Database.identify_of_text nonempty hnamed, hkey]
      exact .inr ⟨hgone, rfl⟩
    · rw [hothers key hkey]
      exact .inl h.makes

/-! ## Creating -/

/-- **Creating makes what it was given**, or nothing, and answers it if it ends well. -/
theorem create_yields (hs : s.schema.isTyped = true)
    (hhome : ∃ stored, s.schema.modelName (.text model) = .ok stored ∧ home = s.homeOf stored)
    (hm : m.server.IsSound) {data renamed : Object}
    (hrenamed : s.schema.stored (.text model) (.ofObject data) = .ok renamed) (select : Value)
    (key : String) :
    (s.create (.text model) (.object data) select).Yields
      (Made home (Document.encode data renamed home.tag) key m.server)
      (fun v server => ∃ doc, IsMade home (Document.encode data renamed home.tag) doc server ∧
        s.output home (.text model) select doc = .ok v) m := by
  obtain ⟨-, name, -, hname⟩ := home_names hs hhome
  have hstands := stands_made home (Document.encode data renamed home.tag) key m.server
  unfold create
  refine yields_bind (yields_home hstands hhome ⟨hm, .left⟩) fun _ m₁ h₁ hfound => ?_
  subst hfound
  refine yields_bind_lift (show newFields (.object data) = .ok data from rfl)
    (yields_bind_lift hrenamed ?_)
  refine yields_bind (yields_note s .create .debug _ h₁) fun _ m₂ h₂ _ => ?_
  refine yields_bind
    (yields_guarded (yields_handle (insertAndRead_yields hname h₂.sound (.inl h₂.makes))
    fun e m₃ h₃ => ?_) s _ _) fun doc m₃ h₃ hmade => yields_lift h₃ fun v hv => ⟨doc, hmade, hv⟩
  dsimp only
  split
  · exact yields_bind (yields_note s .create .warning _ h₃) fun _ m₄ h₄ _ => replace_yields hname h₄
  · exact yields_fail e h₃

end Session

end DocStore
