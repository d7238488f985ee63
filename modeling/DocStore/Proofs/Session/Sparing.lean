/-
  What an operation of a model does to the documents of the others.

  1. **Sparing** — a server `Spares` an earlier one when every foreign document is as it was and
     none has been added.  Requests that write nothing spare, and so does replacing or removing a
     document of the model's own (`Spares.step`).

  2. **Finding** — whatever a filter is, the documents found by its narrowed selector are the
     model's own (`yields_find`, `yields_collect`).

  3. **Writing** — each write looks at the tag of what is stored, or names a revision that was found
     under the model's own tag, and a revision stands for one document (`admits_spares`,
     `remove_yields`, `removeAll_yields`).
-/
import DocStore.Proofs.Session.Amending
import DocStore.Proofs.Session.Ownership

namespace DocStore

open Program

/-! ## Sparing -/

namespace Home

/-- Compared with an earlier state, no foreign document has changed and none has been added. -/
structure Spares (home : Home) (old new : Server) : Prop where
  sound : new.IsSound
  since : old.Since new
  foreign : ∀ database id d, (old.database database).documents.get? id = some d →
    home.isOwn d = false → (new.database database).documents.get? id = some d
  known : ∀ database id d, (new.database database).documents.get? id = some d →
    ∃ before, (old.database database).documents.get? id = some before

variable {home : Home} {old server new : Server} {name id : String} {d : Stored}

theorem Spares.refl (h : old.IsSound) : home.Spares old old :=
  ⟨h, Server.Since.refl old, fun _ _ _ hd _ => hd, fun _ _ d hd => ⟨d, hd⟩⟩

/-- Where the documents are the same, all are spared. -/
theorem Spares.same (h : home.Spares old server) {request : Request}
    (hsame : Server.SameDocuments server (request.serve server)) :
    home.Spares old (request.serve server) := by
  refine ⟨Server.serve_isSound h.sound request, h.since.trans (Server.since_serve h.sound request),
    ?_, ?_⟩
  · intro database other foreign hforeign htag
    rw [hsame database]
    exact h.foreign database other foreign hforeign htag
  · intro database other after hafter
    rw [hsame database] at hafter
    exact h.known database other after hafter

/-- Where a write changes only what is stored under an identifier, and that is the model's own, the
    others are spared. -/
theorem Spares.step (h : home.Spares old server) {request : Request}
    (hwrite : (∃ document, request = .insert (.text name) document) ∨
      ∃ id revision, request = .destroy (.text name) id revision)
    (hd : (server.database (.text name)).documents.get? id = some d) (hown : home.isOwn d = true)
    (hothers : ∀ other, other ≠ id →
      ((request.serve server).database (.text name)).documents.get? other =
      (server.database (.text name)).documents.get? other) :
      home.Spares old (request.serve server) := by
  have hchanged : ∀ database other,
      ((request.serve server).database database).documents.get? other =
          (server.database database).documents.get? other ∨
        (server.database database).documents.get? other = some d := by
    intro database other
    rcases Server.database_serve_cases hwrite server database with hsame | ⟨hnew, hbefore⟩
    · exact .inl (by rw [hsame])
    · by_cases hother : other = id
      · exact .inr (by rw [hbefore, hother, hd])
      · exact .inl (by rw [hnew, hbefore, hothers other hother])
  refine ⟨Server.serve_isSound h.sound request, h.since.trans (Server.since_serve h.sound request),
    ?_, ?_⟩
  · intro database other foreign hforeign htag
    have hbefore := h.foreign database other foreign hforeign htag
    rcases hchanged database other with hsame | hhere
    · rw [hsame, hbefore]
    · -- What is changed here is the model's own, and so is not the foreign document.
      obtain rfl : foreign = d := Option.some.inj (hbefore.symm.trans hhere)
      rw [hown] at htag
      cases htag
  · intro database other after hafter
    rcases hchanged database other with hsame | hhere
    · exact h.known database other after (hsame ▸ hafter)
    · exact h.known database other d hhere

/-- A request that writes nothing spares all. -/
theorem stands_spares (home : Home) (old : Server) : Stands (home.Spares old) :=
  fun _ server hreading h => h.same (Server.alike_of_reading hreading server).documents

/-- So far nothing has been written. -/
def Unwritten (home : Home) (old server : Server) : Prop :=
  home.Spares old server ∧ old.Alike server

theorem stands_unwritten (home : Home) (old : Server) : Stands (home.Unwritten old) :=
  fun request server hreading h =>
    ⟨home.stands_spares old request server hreading h.1,
      h.2.trans (Server.alike_of_reading hreading server)⟩

theorem untouched_iff :
    Session.Untouched (home.Spares old) old server ↔ home.Unwritten old server :=
  ⟨fun h => ⟨h.kept, h.alike⟩, fun h => ⟨h.1, h.1.sound, h.2, h.1.since.draws⟩⟩

/-- A document of the model's own, as it was found before. -/
def Found (home : Home) (old : Server) (doc : Value) : Prop :=
  ∃ id d, home.own? old id = some d ∧ doc = .object d.fields

end Home

namespace Session

variable {s : Session} {home : Home} {old : Server} {m : Memory} {name id : String}
  {selector : Value}

/-! ## Finding -/

/-- A document that a narrowed selector matches is the model's own. -/
theorem found_of_isStored (hagrees : home.Agrees) {doc : Value}
    (h : IsStored home old (home.scope selector) doc) : home.Found old doc := by
  obtain ⟨id, d, hd, rfl, htest⟩ := h
  have howns := Home.owns_of_test_scope hagrees htest
  rw [home.owns_stored] at howns
  exact ⟨id, d, Home.own?_eq_some.2 ⟨hd, Except.ok.inj howns⟩, rfl⟩

/-- What a query with a narrowed selector finds is the model's own. -/
theorem yields_find (hagrees : home.Agrees) {query : Query}
    (hselector : query.selector = home.scope selector) (hfields : query.fields = .null)
    (h : home.Unwritten old m.server) :
    (send (.find home.database query)).Yields (home.Unwritten old)
      (fun page _ => ∀ doc ∈ page.docs, home.Found old doc) m := by
  refine (yields_find_stored (home.stands_spares old) hfields (Home.untouched_iff.2 h)).mono
    (fun _ => Home.untouched_iff.1) fun page _ _ hdocs doc hdoc => ?_
  have hstored := hdocs doc hdoc
  rw [hselector] at hstored
  exact found_of_isStored hagrees hstored

/-- What a scan with a narrowed selector collects is the model's own. -/
theorem yields_collect (s : Session) (hagrees : home.Agrees) {scan : Scan}
    (hselector : scan.selector = home.scope selector) (hfields : scan.fields = .null)
    (h : home.Unwritten old m.server) :
    (s.collect home.database scan).Yields (home.Unwritten old)
      (fun docs _ => ∀ doc ∈ docs, home.Found old doc) m := by
  refine (yields_collect_stored s (home.stands_spares old) hfields (Home.untouched_iff.2 h)).mono
    (fun _ => Home.untouched_iff.1) fun docs _ _ hdocs doc hdoc => ?_
  have hstored := hdocs doc hdoc
  rw [hselector] at hstored
  exact found_of_isStored hagrees hstored

/-! ## Writing -/

/-- Overlaying a document of the model's own spares the others. -/
theorem admits_spares (home : Home) (changes : Object) (old : Server) :
    Admits home changes (home.Spares old) := by
  intro name id server request answer before after hname h hown hcall
  obtain ⟨merged, -, hrequest, -⟩ := hcall.overlaid
  exact h.step (.inl ⟨merged, hrequest⟩) hcall.before hown hcall.others

/-- Updates spare the documents of the others. -/
theorem invariant_spares (s : Session) (home : Home) (model data : Value) (old : Server) :
    Invariant s home model data (home.Spares old) where
  stands := home.stands_spares old
  sound _ h := h.sound
  admits changes _ := admits_spares home changes old

/-- Removing spares the others when only a document of the model's own can have the revision
    named. -/
theorem destroy_yields (hname : home.database = .text name) (h : home.Spares old m.server)
    {id rev : String} (hsafe : ∀ d, (m.server.database home.database).documents.get? id = some d →
      d.revision.text = rev → home.isOwn d = true) :
    (send (.destroy home.database (.text id) (.text rev))).Yields (home.Spares old)
      (fun _ _ => True) m := by
  refine yields_of_run (run_send Memory.backend _ m) ?_ fun _ _ => trivial
  show home.Spares old (Memory.answer (.destroy home.database (.text id) (.text rev)) m).2.server
  rw [Memory.answer_server]
  rcases Server.serve_cases (.destroy home.database (.text id) (.text rev)) m.server with
    ⟨hsame, -⟩ | ⟨_, _, _, _, _, hrequest, -⟩ |
    ⟨database, id', rev', db, hrequest, hdestroy, hserve⟩
  · exact h.same hsame
  · cases hrequest
  · obtain ⟨rfl, rfl, rfl⟩ : database = home.database ∧ id' = .text id ∧ rev' = .text rev := by
      cases hrequest
      exact ⟨rfl, rfl, rfl⟩
    obtain ⟨key, d, hkey, hd, hrev, rfl⟩ := Database.destroy_accepted hdestroy
    obtain rfl : id = key := Value.text.inj hkey
    have hown := hsafe d hd (by simpa [Value.same] using hrev)
    rw [hname] at hd hserve ⊢
    refine h.step (.inr ⟨_, _, rfl⟩) hd hown fun other hne => ?_
    rw [hserve, Server.database_setDatabase_text]
    exact Table.get?_remove_ne _ hne

/-- What is removed by its identifier is the model's own. -/
theorem remove_yields (hname : home.database = .text name)
    (h : home.Spares old m.server) (id : String) :
    (remove s home id).Yields (home.Spares old) (fun _ _ => True) m := by
  unfold remove
  cases hstored : (m.server.database home.database).documents.get? id with
  | none => exact yields_of_run (run_bind_error (run_get_absent home hstored)) h fun _ _ => trivial
  | some d =>
    obtain ⟨hid, hrev⟩ := entry_of_stored ((h.sound home.database).stored id d hstored)
    refine yields_bind_of_run (run_get home hstored) (yields_bind_lift (home.owns_stored d) ?_)
    cases hown : home.isOwn d with
    | false =>
      exact yields_bind (yields_note s .delete .debug _ h) fun _ m₁ h₁ _ => yields_pure h₁ trivial
    | true =>
      refine yields_bind_lift hid (yields_bind_lift hrev ?_)
      refine yields_bind (destroy_yields hname h fun d' hd' _ => ?_) fun _ m₁ h₁ _ =>
        yields_pure h₁ trivial
      obtain rfl : d' = d := Option.some.inj (hd'.symm.trans hstored)
      exact hown

/-- Documents that were found are removed one after the other, each under the revision found. -/
theorem removeAll_yields (hold : old.IsSound) (hname : home.database = .text name)
    (docs : List Value) (count : Nat) (m : Memory) (h : home.Spares old m.server)
    (hdocs : ∀ doc ∈ docs, home.Found old doc) :
    (removeAll s home count docs).Yields (home.Spares old) (fun _ _ => True) m := by
  induction docs generalizing count m with
  | nil => exact yields_pure h trivial
  | cons doc rest ih =>
    obtain ⟨⟨id, d, hd, rfl⟩, hrest⟩ := List.forall_mem_cons.1 hdocs
    obtain ⟨hstored, hown⟩ := Home.own?_eq_some.1 hd
    obtain ⟨hid, hrev⟩ := entry_of_stored ((hold home.database).stored id d hstored)
    rw [removeAll]
    refine yields_bind (P := fun _ _ => True) (yields_onRefusal ?_ fun m₁ h₁ => ?_)
      fun removed m₁ h₁ _ => ih _ m₁ h₁ hrest
    · refine yields_bind_lift hid (yields_bind_lift hrev ?_)
      -- What has the revision that was found is what was found.
      refine yields_bind (destroy_yields hname h fun d' hd' hsame => ?_) fun _ m₁ h₁ _ =>
        yields_pure h₁ trivial
      obtain rfl : d' = d :=
        (h.since.newer home.database).eq_of_revision (hold home.database) hstored hd' hsame
      exact hown
    · refine yields_bind_lift hid
        (yields_bind (yields_note s .deleteMany .warning _ h₁) fun _ m₂ h₂ _ => ?_)
      exact yields_pure h₂ trivial

end Session

end DocStore
