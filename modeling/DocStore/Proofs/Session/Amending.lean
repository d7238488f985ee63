/-
  Updates when nobody else writes.

  Whatever their filter, updates write in one way: they get a document by its identifier and, if it
  is the model's own, overlay it with the changes.  So a condition on the server is kept by all of
  them as soon as it is kept by requests that write nothing and by one such overlay (`Invariant`).

  1. **Amending** — one document is overlaid, or nothing is done (`Amends`).  Nobody else writes, so
     there is no conflict and no second attempt (`run_amend_unrivalled`).

  2. **Collecting** — until the first document is amended nothing has been written (`Untouched`),
     and what a scan collects are documents as they are stored (`yields_collect_stored`).

  3. **Updating** — an update overlays one document and answers it (`update_yields`), an update of
     all matches overlays any number of them and answers how many (`updateMany_yields`); both keep
     every invariant, whether they then end well or fail.
-/
import DocStore.Proofs.Session.Named
import DocStore.Proofs.Session.Yields

namespace DocStore

open Program

/-- What is stored under an identifier in the database of a home. -/
def Home.stored? (home : Home) (server : Server) (id : String) : Option Stored :=
  (server.database home.database).documents.get? id

/-- Servers that hold the same documents store the same. -/
theorem Home.stored?_of_alike {old new : Server} (h : old.Alike new) (home : Home) (id : String) :
    home.stored? new id = home.stored? old id := by
  rw [stored?, stored?, h.documents]

namespace Session

variable {s : Session} {m : Memory} {home : Home} {model : Value} {name id : String}
  {changes : Object} {I : Server → Prop}

/-! ## Amending -/

/-- A condition that stands an overlay of a document of the model's own. -/
def Admits (home : Home) (changes : Object) (I : Server → Prop) : Prop :=
  ∀ (name id : String) (server : Server) (request : Request)
      (answer : Except Failure request.Answer) (before after : Stored), home.database = .text name →
      I server → home.isOwn before = true →
    Call.Overlays ⟨request, answer, server, request.serve server⟩ name id changes before after →
    I (request.serve server)

/-- What amending a document comes to. -/
inductive Amends (home : Home) (changes : Object) (id : String) (old new : Server) :
    Option Value → Prop
  /-- It is another model's, and nothing is done. -/
  | left (hsame : new = old) : Amends home changes id old new none
  /-- It is the model's own, and overlaid with the changes under a new revision. -/
  | overlaid {before after : Stored} (hbefore : home.own? old id = some before)
      (hafter : home.stored? new id = some after) (hnew : Overlaid changes before after)
      (hfresh : old.draws < after.revision.token)
      (hothers : ∀ other, other ≠ id → home.stored? new other = home.stored? old other) :
      Amends home changes id old new (some (.object after.fields))

/-- Amending a document overlays it, or does nothing. -/
theorem amend_yields (hname : home.database = .text name) (hm : m.server.IsSound)
    (hadmits : Admits home changes I) (h : I m.server) (id : String) :
    (amend home (.text id) changes).Yields I
      (fun outcome server => Amends home changes id m.server server outcome) m := by
  have hdatabase : ∀ server key,
      home.stored? server key = (server.database (.text name)).documents.get? key :=
    fun _ _ => by rw [Home.stored?, hname]
  cases hstored : (m.server.database home.database).documents.get? id with
  | none => exact yields_of_run (run_amend_absent hstored changes) h fun _ ha => by cases ha
  | some d =>
    cases hown : home.isOwn d with
    | false =>
      refine yields_of_run (run_amend_foreign hstored hown changes) h fun outcome ha => ?_
      obtain rfl := Except.ok.inj ha
      exact .left rfl
    | true =>
      have hbefore : home.own? m.server id = some d := Home.own?_eq_some.2 ⟨hstored, hown⟩
      obtain ⟨request, answer, m', new, hcall, hrun, hserver⟩ :=
        run_amend_own hm hname hbefore changes
      refine yields_of_run hrun ?_ fun outcome ha => ?_
      · rw [hserver] at hcall ⊢
        exact hadmits name id m.server request answer d new hname h hown hcall
      · obtain rfl := Except.ok.inj ha
        obtain ⟨merged, hmerged, -, hfields⟩ := hcall.overlaid
        refine .overlaid hbefore ((hdatabase _ _).trans hcall.after) ⟨merged, hmerged, hfields⟩ ?_
          fun other hne => by rw [hdatabase, hdatabase]; exact hcall.others other hne
        rw [hcall.revision]
        exact Nat.lt_succ_self _

/-- Where nobody else writes there is no conflict, so no second attempt is made. -/
theorem run_amend_unrivalled (hname : home.database = .text name)
    (hm : m.server.IsSound) (id : String) (changes : Object) (instead : Program (Option Value)) :
    ((amend home (.text id) changes).onRefusal .conflict instead).run Memory.backend m =
      (amend home (.text id) changes).run Memory.backend m := by
  cases hstored : (m.server.database home.database).documents.get? id with
  | none =>
    rw [run_onRefusal, run_amend_absent hstored changes]
    rfl
  | some d =>
    cases hown : home.isOwn d with
    | false =>
      have hrun := run_amend_foreign hstored hown changes
      rw [run_onRefusal_ok hrun, hrun]
    | true =>
      obtain ⟨_, _, m', _, _, hrun, -⟩ :=
        run_amend_own hm hname (Home.own?_eq_some.2 ⟨hstored, hown⟩) changes
      rw [run_onRefusal_ok hrun, hrun]

/-! ## Collecting -/

/-- A condition holds, and so far nothing has been written. -/
structure Untouched (I : Server → Prop) (old server : Server) : Prop where
  kept : I server
  sound : server.IsSound
  alike : old.Alike server
  draws : old.draws ≤ server.draws

theorem Untouched.refl {server : Server} (h : I server) (hsound : server.IsSound) :
    Untouched I server server :=
  ⟨h, hsound, .refl server, Nat.le_refl _⟩

theorem stands_untouched (hstands : Stands I) (old : Server) : Stands (Untouched I old) :=
  fun request server hreading h =>
    ⟨hstands request server hreading h.kept, Server.serve_isSound h.sound request,
      h.alike.trans (Server.alike_of_reading hreading server),
      Nat.le_trans h.draws (Server.since_serve h.sound request).draws⟩

/-- As long as nothing is written, the condition is kept. -/
theorem kept_of_untouched {α : Type} {p : Program α} {P : α → Server → Prop} {old : Server}
    (h : p.Yields (Untouched I old) P m) :
    p.Yields I (fun a server => Untouched I old server ∧ P a server) m :=
  h.mono (fun _ h => h.kept) fun _ _ hI hP => ⟨hI, hP⟩

/-- A document as it is stored. -/
def IsStored (home : Home) (old : Server) (selector doc : Value) : Prop :=
  ∃ id d, home.stored? old id = some d ∧ doc = .object d.fields ∧
    Selector.test selector doc = .ok true

/-- A stored document names itself, and its revision. -/
theorem entry_of_stored {draws : Nat} {d : Stored} (hd : d.IsSound draws id) :
    Value.entry "_id" (.object d.fields) = .ok (.text id) ∧
      revisionOf (.object d.fields) = .ok (.text d.revision.text) := by
  refine ⟨by rw [Value.entry, hd.named], ?_⟩
  show Except.ok ((Object.get? d.fields "_rev").getD (.text "")) = _
  rw [hd.revised]
  rfl

/-- What holds of an accumulator all along the pages of a scan, when each page brings documents of a
    kind. -/
theorem visit_yields {β : Type} {step : β → List Value → Program β} {A : β → Prop}
    {Q : Value → Prop} {scan : Scan} {pageSize : Int}
    (hfind : ∀ (query : Query) (m : Memory), query.selector = scan.selector →
      query.fields = scan.fields →
      I m.server → (send (.find home.database query)).Yields I
        (fun page _ => ∀ doc ∈ page.docs, Q doc) m)
    (hstep : ∀ acc docs (m : Memory), I m.server → A acc → (∀ doc ∈ docs, Q doc) →
      (step acc docs).Yields I (fun acc _ => A acc) m)
    (fuel : Nat) (remaining : Quota) (bookmark : Value) (acc : β) (m : Memory) (h : I m.server)
    (hacc : A acc) :
    (Scan.visit home.database pageSize scan step fuel remaining bookmark acc).Yields I
      (fun acc _ => A acc) m := by
  induction fuel generalizing remaining bookmark acc m with
  | zero =>
    rw [Scan.visit]
    split
    · exact yields_pure h hacc
    · exact yields_fail _ h
  | succ fuel ih =>
    rw [Scan.visit]
    split
    · exact yields_pure h hacc
    · refine yields_bind (hfind _ m rfl rfl h) fun page m₁ h₁ hpage => ?_
      split
      · exact yields_pure h₁ hacc
      · refine yields_bind (hstep acc page.docs m₁ h₁ hacc hpage) fun acc' m₂ h₂ hacc' => ?_
        split
        · exact ih _ _ acc' m₂ h₂ hacc'
        · exact yields_pure h₂ hacc'

/-- What a query finds is stored, and matches. -/
theorem yields_find_stored (hstands : Stands I) {old : Server} {query : Query}
    (hfields : query.fields = .null) (h : Untouched I old m.server) :
    (send (.find home.database query)).Yields (Untouched I old)
      (fun page _ => ∀ doc ∈ page.docs, IsStored home old query.selector doc) m := by
  have hreading : Request.IsReading (.find home.database query) := rfl
  refine (yields_send (stands_untouched hstands old) hreading h).mono (fun _ h => h) ?_
  rintro page _ - ⟨hanswer, -⟩ doc hdoc
  have hanswer : Database.answerQuery (m.server.database home.database).contents m.server.sortable
      m.server.defaultLimit query = .ok page := hanswer
  obtain ⟨hmem, htest⟩ := Database.mem_answerQuery hanswer hfields hdoc
  obtain ⟨id, d, hd, rfl⟩ := (h.sound home.database).stored_of_mem hmem
  refine ⟨id, d, ?_, rfl, htest⟩
  rw [← Home.stored?_of_alike h.alike]
  exact hd

/-- What a scan collects is stored, and matches. -/
theorem yields_collect_stored (s : Session) (hstands : Stands I) {old : Server} {scan : Scan}
    (hfields : scan.fields = .null) (h : Untouched I old m.server) :
    (s.collect home.database scan).Yields (Untouched I old)
      (fun docs _ => ∀ doc ∈ docs, IsStored home old scan.selector doc) m := by
  refine visit_yields (Q := IsStored home old scan.selector)
    (fun query m₁ hquery hwanted h₁ => ?_) ?_ _ _ _ [] m h ?_
  · rw [← hquery]
    exact yields_find_stored hstands (hwanted.trans hfields) h₁
  · intro acc docs m₁ h₁ hacc hdocs
    exact yields_pure h₁ fun doc hmem => (List.mem_append.1 hmem).elim (hacc doc) (hdocs doc)
  · exact fun doc hmem => absurd hmem List.not_mem_nil

/-! ## Updating -/

/-- What updates of a model with some data keep, where nobody else writes. -/
structure Invariant (s : Session) (home : Home) (model data : Value)
    (I : Server → Prop) : Prop where
  stands : Stands I
  sound : ∀ server, I server → server.IsSound
  admits : ∀ changes, s.changesOf home model data = .ok changes → Admits home changes I

/-- Compared with an earlier state, the documents under some identifiers have got new revisions, and
    the others are as they were. -/
structure Rewritten (home : Home) (ids : List String) (old new : Server) : Prop where
  fresh : ∀ id ∈ ids, ∃ d, home.stored? new id = some d ∧ old.draws < d.revision.token
  others : ∀ id, id ∉ ids → home.stored? new id = home.stored? old id

theorem Rewritten.refl (home : Home) (server : Server) : Rewritten home [] server server :=
  ⟨fun _ hmem => absurd hmem List.not_mem_nil, fun _ _ => rfl⟩

/-- After one more document that has been overlaid before. -/
theorem Rewritten.cons {ids : List String} {old between new : Server} {after : Stored}
    (h : Rewritten home ids between new) (hdraws : old.draws ≤ between.draws)
    (hafter : home.stored? between id = some after) (hfresh : old.draws < after.revision.token)
    (hothers : ∀ other, other ≠ id → home.stored? between other = home.stored? old other) :
    Rewritten home (id :: ids) old new := by
  refine ⟨fun key hkey => ?_, fun key hkey => ?_⟩
  · by_cases hmem : key ∈ ids
    · obtain ⟨d, hd, htoken⟩ := h.fresh key hmem
      exact ⟨d, hd, Nat.lt_of_le_of_lt hdraws htoken⟩
    · obtain rfl := (List.mem_cons.1 hkey).resolve_right hmem
      exact ⟨after, (h.others key hmem).trans hafter, hfresh⟩
  · rw [List.mem_cons, not_or] at hkey
    exact (h.others key hkey.2).trans (hothers key hkey.1)

/-- Documents that name themselves are amended one after the other, and those overlaid are
    counted. -/
theorem amendAll_yields (hname : home.database = .text name)
    (hsound : ∀ server, I server → server.IsSound) (hadmits : Admits home changes I) (s : Session)
    {docs : List Value} (hdocs : ∀ doc ∈ docs, ∃ id : String, doc.entry "_id" = .ok (.text id))
    (count : Nat) (m : Memory) (h : I m.server) :
    (amendAll s home changes count docs).Yields I
      (fun n server => ∃ ids, n = count + ids.length ∧ Rewritten home ids m.server server) m := by
  induction docs generalizing count m with
  | nil => exact yields_pure h ⟨[], rfl, .refl home m.server⟩
  | cons doc rest ih =>
    obtain ⟨⟨id, hid⟩, hrest⟩ := List.forall_mem_cons.1 hdocs
    have hattempt : (do amend home (← (doc.entry "_id" : Except Failure Value)) changes :
        Program (Option Value)).run Memory.backend m =
          (amend home (.text id) changes).run Memory.backend m :=
      run_bind_lift hid _ _
    rw [amendAll]
    refine yields_bind ((amend_yields hname (hsound _ h) hadmits h id).of_run_eq
      ((run_onRefusal_congr hattempt _ _).trans
        (run_amend_unrivalled hname (hsound _ h) id changes _)))
      fun outcome m₁ h₁ hamends => ?_
    refine (ih hrest _ m₁ h₁).mono (fun _ h => h) fun n server _ ⟨ids, hn, hrewritten⟩ => ?_
    cases hamends with
    | left hsame => exact ⟨ids, hn, hsame ▸ hrewritten⟩
    | @overlaid _ after hbefore hafter hnew hfresh hothers =>
      have hdrawn := ((hsound _ h₁ home.database).stored id after hafter).drawn
      refine ⟨id :: ids, ?_, hrewritten.cons (by omega) hafter hfresh hothers⟩
      rw [hn, List.length_cons]
      show count + 1 + ids.length = _
      omega

/-- **An update overlays one document and answers it.** -/
theorem update_yields {data : Value} (hI : Invariant s home model data I)
    (hhome : ∃ stored, s.schema.modelName model = .ok stored ∧ home = s.homeOf stored)
    (hname : home.database = .text name) (h : I m.server) (filter : Value) :
    (s.update model filter data).Yields I (fun v server => ∃ changes id before after,
      s.changesOf home model data = .ok changes ∧ home.own? m.server id = some before ∧
      home.stored? server id = some after ∧ Overlaid changes before after ∧
      s.output home model .null (.object after.fields) = .ok v) m := by
  have hstands := stands_untouched hI.stands m.server
  unfold update
  refine yields_bind (kept_of_untouched (yields_home hstands hhome (.refl h (hI.sound _ h))))
    fun _ m₁ _ hfound => ?_
  obtain ⟨h₁, hfound⟩ := hfound
  subst hfound
  refine yields_bind (P := fun _ server => Untouched I m.server server)
    (yields_lift h₁.kept fun _ _ => h₁) fun f m₂ _ h₂ => ?_
  refine yields_bind (P := fun changes server => Untouched I m.server server ∧
    s.changesOf home model data =
    .ok changes) (yields_lift h₂.kept fun _ hchanges => ⟨h₂, hchanges⟩)
    fun changes m₃ _ hchanges => ?_
  obtain ⟨h₃, hchanges⟩ := hchanges
  refine yields_bind (P := fun doc server => ∃ id before after,
    home.own? m.server id = some before ∧
    home.stored? server id = some after ∧ Overlaid changes before after ∧
    doc = .object after.fields) (yields_guarded ?_ s _ _) fun doc m₄ h₄ hdoc => ?_
  · refine yields_bind (kept_of_untouched (yields_of_within hstands (target_within s home f) h₃))
      fun target m₄ _ htarget => ?_
    refine yields_bind (kept_of_untouched (yields_note s .update .debug _ htarget.1))
      fun _ m₅ h₅ huntouched => ?_
    cases target with
    | none => exact yields_fail _ h₅
    | some id =>
      have hsound := huntouched.1.sound
      refine yields_bind ((amend_yields hname hsound (hI.admits changes hchanges) h₅ id).of_run_eq
        (run_amend_unrivalled hname hsound id changes _)) fun outcome m₆ h₆ hamends => ?_
      cases hamends with
      | left _ => exact yields_fail _ h₆
      | overlaid hbefore hafter hnew _ _ =>
        rw [Home.own?_of_alike huntouched.1.alike] at hbefore
        exact yields_pure h₆ ⟨id, _, _, hbefore, hafter, hnew, rfl⟩
  · refine yields_lift h₄ fun v hv => ?_
    obtain ⟨id, before, after, hbefore, hafter, hnew, rfl⟩ := hdoc
    exact ⟨changes, id, before, after, hchanges, hbefore, hafter, hnew, hv⟩

/-- **An update of all matches overlays some documents and answers how many.** -/
theorem updateMany_yields {data : Value} (hI : Invariant s home model data I)
    (hhome : ∃ stored, s.schema.modelName model = .ok stored ∧ home = s.homeOf stored)
    (hname : home.database = .text name) (h : I m.server) (filter : Value) :
    (s.updateMany model filter data).Yields I (fun v server => ∃ ids : List String,
      v = .int ids.length ∧ Rewritten home ids m.server server) m := by
  have hstands := stands_untouched hI.stands m.server
  unfold updateMany
  refine yields_bind (kept_of_untouched (yields_home hstands hhome (.refl h (hI.sound _ h))))
    fun _ m₁ _ hfound => ?_
  obtain ⟨h₁, hfound⟩ := hfound
  subst hfound
  refine yields_bind (P := fun _ server => Untouched I m.server server)
    (yields_lift h₁.kept fun _ _ => h₁) fun f m₂ _ h₂ => ?_
  refine yields_bind (P := fun _ server => Untouched I m.server server)
    (yields_lift h₂.kept fun _ _ => h₂) fun selector m₃ _ h₃ => ?_
  refine yields_bind (P := fun changes server => Untouched I m.server server ∧
    s.changesOf home model data =
    .ok changes) (yields_lift h₃.kept fun _ hchanges => ⟨h₃, hchanges⟩)
    fun changes m₄ _ hchanges => ?_
  obtain ⟨h₄, hchanges⟩ := hchanges
  refine yields_bind (kept_of_untouched (yields_note s .updateMany .debug _ h₄))
    fun _ m₅ _ hnoted => ?_
  refine yields_bind (P := fun count server => ∃ ids : List String, count = ids.length ∧
    Rewritten home ids m.server server) (yields_guarded ?_ s _ _) fun count m₆ h₆ hcount => ?_
  · refine yields_bind (kept_of_untouched (yields_collect_stored s hI.stands rfl hnoted.1))
      fun docs m₆ h₆ hdocs => ?_
    obtain ⟨huntouched, hdocs⟩ := hdocs
    have hnamed : ∀ doc ∈ docs, ∃ id : String, doc.entry "_id" = .ok (.text id) := by
      intro doc hdoc
      obtain ⟨id, d, hd, rfl, -⟩ := hdocs doc hdoc
      rw [← Home.stored?_of_alike huntouched.alike] at hd
      exact ⟨id, (entry_of_stored ((huntouched.sound home.database).stored id d hd)).1⟩
    refine (amendAll_yields hname hI.sound (hI.admits changes hchanges) s hnamed 0 m₆ h₆).mono
      (fun _ h => h)
      fun n server _ ⟨ids, hn, hrewritten⟩ =>
        ⟨ids, hn.trans (Nat.zero_add _), fun id hid => ?_, fun id hid => ?_⟩
    · obtain ⟨d, hd, hfresh⟩ := hrewritten.fresh id hid
      exact ⟨d, hd, Nat.lt_of_le_of_lt huntouched.draws hfresh⟩
    · rw [hrewritten.others id hid, Home.stored?_of_alike huntouched.alike]
  · refine yields_bind (yields_note s .updateMany .debug _ h₆) fun _ m₇ h₇ hsame =>
      yields_pure h₇ ?_
    obtain ⟨ids, rfl, hrewritten⟩ := hcount
    exact ⟨ids, rfl, hsame ▸ hrewritten⟩

end Session

end DocStore
