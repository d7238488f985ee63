/-
  When creating a document replaces another.

  A document that is created under a taken identifier is to take the place of what stands there.
  The identifier comes in two forms.  The store keeps documents under texts and takes the text of
  whatever it is given; but what stands in the way is looked up under the identifier as the document
  brings it, and only a text gets a document.

  1. **Names** — the identifier that the fields of a new document name, and that the document then
     brings (`getD_id_encode`).  One that is given as `id` has been turned into a text, one given as
     `_id` has not.

  2. **Refusal** — where an identifier is no text, what stands in the way is not found and stays, so
     the document is refused once more (`run_insertOrReplace_refused`).

  3. **Other databases** — creating writes to the database of its model only (`create_within`), so
     nothing changes in the others (`Memory.spares_of_within`).

  4. **Replacing** — so creating takes the place it names just when that is free or named by a text;
     if not, it fails and changes nothing (`create_replaces_iff`).
-/
import DocStore.Proofs.Session.TwoRuns
import DocStore.Proofs.Session.Upsert

namespace DocStore

open Program

/-! ## Names -/

namespace Document

/-- The identifier that the fields of a new document name: `_id` if there is something to it, and
    otherwise the text of `id`, unless that says nothing. -/
def named? (fields : Object) : Option Value :=
  if (Object.getD fields "_id").truthy then some (Object.getD fields "_id")
  else if isVacant (Object.getD fields "id") then none
  else some (.text (Object.getD fields "id").written)

/-- An identifier that is named has something to it. -/
theorem truthy_of_named {fields : Object} {id : Value} (h : named? fields = some id) :
    id.truthy = true := by
  rw [named?] at h
  split at h
  · rename_i hpresent
    rwa [← Option.some.inj h]
  · split at h
    · cases h
    · rename_i hvacant
      rw [← Option.some.inj h]
      simpa [Value.truthy] using Session.written_ne_empty_of_isVacant (by simpa using hvacant)

/-- A new document brings the identifier that its fields name. -/
theorem getD_id_encode {data renamed : Object} {id : Value}
    (h : named? (data.merge renamed) = some id) {tag : Option Tag}
    (htag : ∀ t, tag = some t → t.field ≠ "_id") :
    Object.getD (encode data renamed tag) "_id" = id := by
  have hgiven : ∀ key, key ≠ "_rev" →
      Object.getD (Object.erase (data.merge renamed) "_rev") key =
        Object.getD (data.merge renamed) key := by
    intro key hkey
    rw [Object.getD, Object.get?_erase_ne _ (Ne.symm hkey)]
    rfl
  have hrest : Object.getD ((Object.erase (data.merge renamed) "_rev").erase "id") "_id" =
      Object.getD (data.merge renamed) "_id" := by
    rw [Object.getD, Object.get?_erase_ne _ (by decide)]
    exact hgiven "_id" (by decide)
  rw [named?] at h
  rw [Object.getD, get?_encode_other data renamed htag, settleIdentifier, hrest,
    hgiven "id" (by decide)]
  split at h
  · rename_i hpresent
    rw [if_pos hpresent, ← Option.some.inj h]
    exact hrest
  · rename_i hpresent
    rw [if_neg hpresent]
    split at h
    · cases h
    · rename_i hvacant
      rw [if_neg hvacant, Object.get?_set_self, ← Option.some.inj h]
      rfl

end Document

/-! ## Refusal -/

/-- What is no text gets nothing: it is looked up in vain, or cannot be looked up. -/
theorem Database.get_of_not_text (db : Database) {id : Value} (h : Entries.isText id = false) :
    db.get id = .error (if id.isKey then absent id "missing" else .wrongKind) := by
  have hlook : db.look id = if id.isKey then .ok none else .error .wrongKind := by
    cases id with
    | text _ => cases h
    | _ => rfl
  rw [get, hlook]
  cases id.isKey <;> rfl

namespace Session

variable {s : Session} {m : Memory} {home : Home} {model name key : String} {document data : Object}

section

variable (hname : home.database = .text name) (hm : m.server.IsSound)
  (hpresent : (Object.getD document "_id").truthy = true)
  (hwritten : (Object.getD document "_id").written = key)
  (hrev : Object.getD document "_rev" = .null)

include hname hm hpresent hwritten hrev

/-- What stands in the place of a document is not found by an identifier that is no text, and
    stays. -/
theorem run_replace_refused (htext : Entries.isText (Object.getD document "_id") = false)
    (htaken : home.stored? m.server key ≠ none) :
    ∃ e m', (replace home document).run Memory.backend m = (.error e, m') ∧
      ∀ id, home.stored? m'.server id = home.stored? m.server id := by
  obtain ⟨d, hd⟩ := Option.ne_none_iff_exists'.1 htaken
  have hget : (send (.get home.database (Object.getD document "_id"))).run Memory.backend m =
      (.error (if (Object.getD document "_id").isKey then Database.absent
        (Object.getD document "_id") "missing" else .wrongKind), m) := by
    rw [run_send]
    exact congrArg (·, m) (Database.get_of_not_text _ htext)
  cases hkey : (Object.getD document "_id").isKey with
  | true =>
    -- Nothing is found, so nothing is removed, and the second insert meets what the first one has
    -- met.
    rw [hkey, if_pos rfl] at hget
    obtain ⟨e, m', hrun, -, -, hsame⟩ := run_insertAndRead_taken hname hm hpresent hwritten hrev hd
    exact ⟨e, m', (run_replace_unfound hget).trans hrun, hsame⟩
  | false =>
    rw [hkey, if_neg Bool.false_ne_true] at hget
    exact ⟨.wrongKind, m, run_replace_unfound hget, fun id => rfl⟩

/-- A document with such an identifier is refused where its place is taken. -/
theorem run_insertOrReplace_refused (s : Session)
    (htext : Entries.isText (Object.getD document "_id") = false)
    (htaken : home.stored? m.server key ≠ none) :
    ∃ e m', (s.insertOrReplace home document).run Memory.backend m = (.error e, m') ∧
      ∀ id, home.stored? m'.server id = home.stored? m.server id := by
  obtain ⟨d, hd⟩ := Option.ne_none_iff_exists'.1 htaken
  obtain ⟨e, m₁, hrun, hconflict, hm₁, hsame⟩ :=
    run_insertAndRead_taken hname hm hpresent hwritten hrev hd
  obtain ⟨m₂, hnote, hserver⟩ := s.run_note_alone .create .warning
    ("id " ++ (Object.getD document "_id").written ++ " already exists, replacing it") m₁
  obtain ⟨e', m₃, hreplace, hsame'⟩ := run_replace_refused hname (m := m₂)
    (hserver.symm ▸ hm₁) hpresent hwritten hrev htext (by rwa [hserver, hsame])
  refine ⟨e', m₃, ?_, fun id => by rw [hsame', hserver, hsame]⟩
  unfold insertOrReplace
  dsimp only
  rw [run_handle, hrun]
  dsimp only
  rw [hconflict, hpresent]
  exact (run_bind_ok hnote).trans hreplace

end

end Session

/-! ## Other databases -/

/-- A request that writes to no database but one. -/
def Request.WritesTo (database : Value) (request : Request) : Prop :=
  request.IsReading ∨ (∃ document, request = .insert database document) ∨
    ∃ id revision, request = .destroy database id revision

/-- Entering a text leaves everything else alone. -/
theorem Entries.get?_put_other {α : Type} (t : Entries α) {name : String} {other : Value}
    (h : other ≠ .text name) (a : α) : (t.put (.text name) a).get? other = t.get? other := by
  have hother : (Value.text name).same other = false := by
    cases hsame : (Value.text name).same other with
    | false => rfl
    | true => exact absurd (Value.text_same_iff.1 hsame) h
  induction t with
  | nil => simp [put, get?, hother]
  | cons entry rest ih =>
    obtain ⟨k, b⟩ := entry
    by_cases hk : k.same (.text name) = true
    · obtain rfl := same_text_iff.1 hk
      simp [put, get?, same_text_iff, hother]
    · simp [put, get?, hk, ih]

/-- A request that writes to one database leaves the others as they are. -/
theorem Request.WritesTo.spares {request : Request} {name : String}
    (h : request.WritesTo (.text name)) {other : Value} (hother : other ≠ .text name)
    (server : Server) :
    ((request.serve server).database other).documents = (server.database other).documents := by
  have hset : ∀ db, (server.setDatabase (.text name) db).database other =
      server.database other := by
    intro db
    rw [Server.database, Server.setDatabase, Entries.get?_put_other _ hother]
    rfl
  rcases h with hreading | ⟨document, rfl⟩ | ⟨id, revision, rfl⟩
  · exact (Server.alike_of_reading hreading server).documents other
  · exact congrArg Database.documents (hset _)
  · exact congrArg Database.documents (hset _)

/-- A program that writes to one database leaves the others as they are. -/
theorem Memory.spares_of_within {α : Type} {p : Program α} {post : α → Prop} {name : String}
    (hp : p.Within (Request.WritesTo (.text name)) post) {other : Value}
    (hother : other ≠ .text name) (m : Memory) :
    ((p.run Memory.backend m).2.server.database other).documents =
      (m.server.database other).documents := by
  refine hp.run_related
    (R := fun m m' : Memory => (m'.server.database other).documents =
      (m.server.database other).documents)
    (fun _ => rfl) (fun _ _ _ h h' => h'.trans h) (fun _ _ => rfl) ?_ m
  intro request m hwrites
  show ((Memory.answer request m).2.server.database other).documents = _
  rw [Memory.answer_server]
  exact hwrites.spares hother m.server

namespace Session

variable {s : Session} {m : Memory} {home : Home} {model : String} {data : Object}

theorem insertAndRead_within (home : Home) (document : Object) :
    (insertAndRead home document).Within (Request.WritesTo home.database) fun _ => True := by
  unfold insertAndRead
  refine within_bind (P := fun _ => True)
    (within_send (.inr (.inl ⟨document, rfl⟩)) fun _ => trivial) ?_
  intro receipt _
  exact within_send (.inl rfl) fun _ => trivial

theorem evict_within (home : Home) (id existing : Value) :
    (evict home id existing).Within (Request.WritesTo home.database) fun _ => True := by
  have hdestroy : (do
      let existingId ← existing.entry "_id"
      send (.destroy home.database existingId (← revisionOf existing)) : Program Unit).Within
        (Request.WritesTo home.database) fun _ => True := by
    refine within_bind (P := fun _ => True) (within_lift fun _ _ => trivial) fun existingId _ => ?_
    refine within_bind (P := fun _ => True) (within_lift fun _ _ => trivial) fun revision _ => ?_
    exact within_send (.inr (.inr ⟨existingId, revision, rfl⟩)) fun _ => trivial
  unfold evict
  refine within_bind (P := fun _ => True) (within_lift fun _ _ => trivial) fun owns _ => ?_
  cases owns with
  | true => exact hdestroy
  | false =>
    refine within_bind (P := fun _ => True) (within_lift fun _ _ => trivial) fun fields _ => ?_
    exact within_bind (within_note _ _ _) fun _ _ => hdestroy

theorem replace_within (home : Home) (document : Object) :
    (replace home document).Within (Request.WritesTo home.database) fun _ => True := by
  have hlookUp : (do return some (← send (.get home.database (Object.getD document "_id"))) :
      Program (Option Value)).Within (Request.WritesTo home.database) fun _ => True :=
    within_bind (P := fun _ => True) (within_send (.inl rfl) fun _ => trivial) fun _ _ =>
      within_pure trivial
  unfold replace
  refine within_bind (P := fun _ => True)
    (within_onRefusal hlookUp (within_pure trivial)) fun found _ => ?_
  cases found with
  | none => exact insertAndRead_within home document
  | some existing =>
    exact within_bind (evict_within home _ existing) fun _ _ => insertAndRead_within home document

/-- **Creating writes to the database of its model**, and to no other. -/
theorem create_within (hhome : ∃ stored, s.schema.modelName (.text model) = .ok stored ∧
    home = s.homeOf stored) (data select : Value) :
    (s.create (.text model) data select).Within (Request.WritesTo home.database) fun _ => True := by
  obtain ⟨stored, hstored, rfl⟩ := hhome
  unfold create
  refine within_bind (P := fun home => home = s.homeOf stored)
    ((home_within s (.text model)).mono (fun _ hreading => .inl hreading) ?_) ?_
  · rintro home ⟨stored', hstored', rfl⟩
    rw [Except.ok.inj (hstored.symm.trans hstored')]
  rintro home rfl
  refine within_bind (P := fun _ => True) (within_lift fun _ _ => trivial) fun fields _ => ?_
  refine within_bind (P := fun _ => True) (within_lift fun _ _ => trivial) fun renamed _ => ?_
  refine within_bind (note_within s .create .debug _) fun _ _ => ?_
  refine within_bind (P := fun _ => True) (within_guarded ?_ s .create _) fun created _ =>
    within_lift fun _ _ => trivial
  refine within_handle (insertAndRead_within _ _) fun e => ?_
  dsimp only
  split
  · exact within_bind (note_within s .create .warning _) fun _ _ => replace_within _ _
  · exact within_fail e

/-! ## Replacing -/

/-- A document as it is stored: its identifier, its revision and the model's tag are the store's and
    the session's to write, and all other fields are those given. -/
theorem get?_storedAs_encode (hkeeps : KeepsTag home) (hnodup : data.keys.Nodup)
    (renamed : Object) (key : String) (revision : Revision) (field : String) :
    Object.get? (Database.storedAs (Document.encode data renamed home.tag) key revision).fields
        field =
      if field = "_id" then some (.text key)
      else if field = "_rev" then some (.text revision.text)
      else if home.tagField = some field then some home.model
      else if field = "id" then none
      else (data.merge renamed).get? field := by
  by_cases hid' : field = "_id"
  · rw [if_pos hid', hid', Database.get?_id_storedAs]
  by_cases hrev : field = "_rev"
  · rw [if_neg hid', if_pos hrev, hrev]
    exact Object.get?_set_self _ _ _
  by_cases htag : home.tagField = some field
  · rw [if_neg hid', if_neg hrev, if_pos htag, get?_tag_storedAs hkeeps htag]
  rw [if_neg hid', if_neg hrev, if_neg htag, Database.get?_storedAs_other _ _ _ hid' hrev]
  have hother : ∀ t, home.tag = some t → t.field ≠ field := by
    intro t ht heq
    have hfield : home.tag.map (·.field) = some field := by rw [ht, ← heq]; rfl
    exact htag (map_tag home ▸ hfield)
  rw [Document.get?_encode_other data renamed hother]
  by_cases hid : field = "id"
  · -- The caller's identifier has gone when the document's own is settled.
    have hgone : Object.get? ((Object.erase (data.merge renamed) "_rev").erase "id") "id" = none :=
      Object.get?_erase_self (((Object.grows_merge data renamed).nodup hnodup).sublist
        (Object.keys_erase_sublist _ _)) _
    rw [if_pos hid, hid]
    rcases Document.settleIdentifier_cases (Object.erase (data.merge renamed) "_rev") with heq |
      heq | ⟨v, heq⟩
    · rw [heq, hgone]
    · rw [heq, Object.get?_erase_ne _ (by decide), hgone]
    · rw [heq, Object.get?_set_ne _ _ (by decide), hgone]
  · rw [if_neg hid, Document.get?_settleIdentifier_other (Ne.symm hid) (Ne.symm hid'),
      Object.get?_erase_ne _ (Ne.symm hrev)]

/-- Where creating changes nothing under another identifier, it changes nothing but what is under
    this one. -/
theorem kept_elsewhere (hs : s.schema.isTyped = true)
    (hhome : ∃ stored, s.schema.modelName (.text model) = .ok stored ∧ home = s.homeOf stored)
    {given select : Value} {result : Except Failure Value} {m' : Memory} {key : String}
    (hrun : (s.create (.text model) given select).run Memory.backend m = (result, m'))
    (hsame : ∀ other, other ≠ key → home.stored? m'.server other = home.stored? m.server other)
    (database : Value) (other : String) (hne : database ≠ home.database ∨ other ≠ key) :
    (m'.server.database database).documents.get? other =
      (m.server.database database).documents.get? other := by
  obtain ⟨-, name, -, hname⟩ := home_names hs hhome
  by_cases hdatabase : database = home.database
  · rw [hdatabase]
    exact hsame other (hne.resolve_left (not_not_intro hdatabase))
  · have hspares := Memory.spares_of_within (hname ▸ create_within hhome given select)
      (by rwa [← hname]) m
    rw [hrun] at hspares
    rw [hspares]

/-- A document whose place is taken, and whose identifier is no text, is not created, and nothing
    changes. -/
theorem run_create_unfound (hs : s.schema.isTyped = true)
    (hhome : ∃ stored, s.schema.modelName (.text model) = .ok stored ∧ home = s.homeOf stored)
    (hm : m.server.Reached) {renamed : Object}
    (hrenamed : s.schema.stored (.text model) (.ofObject data) = .ok renamed) {id : Value}
    (hid : Object.getD (Document.encode data renamed home.tag) "_id" = id)
    (hpresent : id.truthy = true)
    (hrev : Object.getD (Document.encode data renamed home.tag) "_rev" = .null)
    (htext : Entries.isText id = false) (htaken : home.stored? m.server id.written ≠ none) :
    ∃ e m', (s.create (.text model) (.object data) .null).run Memory.backend m = (.error e, m') ∧
      ∀ key, home.stored? m'.server key = home.stored? m.server key := by
  obtain ⟨-, name, -, hname⟩ := home_names hs hhome
  obtain ⟨m₁, halike, hreached, hcreate⟩ := run_create hs hhome hrenamed rfl m .null
  have hsame : ∀ key, home.stored? m₁.server key = home.stored? m.server key :=
    Home.stored?_of_alike halike home
  obtain ⟨e, m₂, hrun, hsame'⟩ := run_insertOrReplace_refused hname (hreached hm).isSound
    (hid ▸ hpresent) (by rw [hid]) hrev s (hid ▸ htext) (by rwa [hsame])
  obtain ⟨m', hend, hserver⟩ := hcreate _ m₂ hrun
  exact ⟨e, m', hend, fun key => by rw [hserver, hsame', hsame]⟩

/-- **Creating replaces what is named by a text.**  Take any data without a key twice that names an
    identifier, any model, and anything stored.  Nothing changes under another identifier or in
    another database.  If the text of the identifier is free, or the identifier is a text itself,
    creating ends well, and the document stored under it is the new one in its first generation.  If
    it is taken and the identifier is no text, creating fails, and what stood there stays. -/
theorem create_replaces_iff (hs : s.schema.isTyped = true)
    (hhome : ∃ stored, s.schema.modelName (.text model) = .ok stored ∧ home = s.homeOf stored)
    (hkeeps : KeepsTag home) (hm : m.server.Reached) (hnodup : data.keys.Nodup) :
    ∃ renamed, s.schema.stored (.text model) (.ofObject data) = .ok renamed ∧
      ∀ id, Document.named? (data.merge renamed) = some id →
        ∃ result m', (s.create (.text model) (.object data) .null).run Memory.backend m =
            (result, m') ∧
          (∀ database other, database ≠ home.database ∨ other ≠ id.written →
            (m'.server.database database).documents.get? other =
              (m.server.database database).documents.get? other) ∧
          (home.stored? m.server id.written = none ∨ Entries.isText id = true →
            (∃ v, result = .ok v) ∧
            ∃ d, home.stored? m'.server id.written = some d ∧ d.revision.generation = 1 ∧
              ∀ field, Object.get? d.fields field =
                if field = "_id" then some (.text id.written)
                else if field = "_rev" then some (.text d.revision.text)
                else if home.tagField = some field then some home.model
                else if field = "id" then none
                else (data.merge renamed).get? field) ∧
          (home.stored? m.server id.written ≠ none → Entries.isText id = false →
            (∃ e, result = .error e) ∧
              home.stored? m'.server id.written = home.stored? m.server id.written) := by
  obtain ⟨renamed, hrenamed⟩ := Schema.stored_typed hs (.text model) data
  refine ⟨renamed, hrenamed, fun id hnamed => ?_⟩
  have hid : Object.getD (Document.encode data renamed home.tag) "_id" = id :=
    Document.getD_id_encode hnamed fun t ht => (hkeeps.tag t ht).2.1
  have hpresent := Document.truthy_of_named hnamed
  have hrev := getD_rev_encode hkeeps hnodup renamed
  by_cases hplace : home.stored? m.server id.written = none ∨ Entries.isText id = true
  · have hplace' : home.stored? m.server id.written = none ∨
        Object.getD (Document.encode data renamed home.tag) "_id" = .text id.written := by
      rcases hplace with hfree | htext
      · exact .inl hfree
      · obtain ⟨text, rfl⟩ := Entries.isText_iff.1 htext
        exact .inr hid
    obtain ⟨revision, m', hrun, hplaced⟩ := run_create_named hs hhome hm hrenamed rfl
      (hid ▸ hpresent) (by rw [hid]) hrev hplace' .null
    obtain ⟨v, hv⟩ := output_ok hs home (.text model)
      (Database.storedAs (Document.encode data renamed home.tag) id.written revision).fields
    refine ⟨_, m', hrun, kept_elsewhere hs hhome hrun hplaced.others,
      fun _ => ⟨⟨v, hv⟩, _, hplaced.stored, hplaced.first, ?_⟩, ?_⟩
    · exact get?_storedAs_encode hkeeps hnodup renamed id.written revision
    · intro htaken hnotText
      rcases hplace with hfree | htext
      · exact absurd hfree htaken
      · rw [htext] at hnotText
        cases hnotText
  · rw [not_or] at hplace
    obtain ⟨htaken, htext⟩ := hplace
    have hnotText : Entries.isText id = false := by simpa using htext
    obtain ⟨e, m', hrun, hkept⟩ :=
      run_create_unfound hs hhome hm hrenamed hid hpresent hrev hnotText htaken
    refine ⟨_, m', hrun, kept_elsewhere hs hhome hrun fun other _ => hkept other, fun hfree => ?_,
      fun _ _ => ⟨⟨e, rfl⟩, hkept _⟩⟩
    exact absurd hfree (not_or.2 ⟨htaken, htext⟩)

/-- The place of a group is taken by a user whose `id` is a number, as that is turned into a text.
    Under the same number as `_id` no user is created, and the group stays. -/
theorem create_replaces_iff_over_group :
    let m := Memory.start ((Request.insert (.text "app_auth")
      [("_id", .text "5"), ("doc_type", .text "group"), ("owner", .text "root")]).serve
        (.empty none .null))
    let home := standard.homeOf (.text "user")
    let create (data : Object) :=
      (standard.create (.text "user") (.object data) .null).run Memory.backend m
    (∃ v m' d, create [("id", .int 5), ("name", .text "Ada")] = (.ok v, m') ∧
      home.stored? m'.server "5" = some d ∧ d.revision.generation = 1 ∧
      Object.get? d.fields "name" = some (.text "Ada") ∧ Object.get? d.fields "owner" = none) ∧
    ∃ e m', create [("_id", .int 5), ("name", .text "Ada")] = (.error e, m') ∧
      home.stored? m'.server "5" = home.stored? m.server "5" := by
  intro m home create
  have hm : m.server.Reached := .serve _ (.empty none .null)
  have hhome := home_standard "user"
  have hkeeps := keepsTag_standard (s := standard) rfl (.text "user")
  have htaken : home.stored? m.server (Value.written (.int 5)) ≠ none := by
    have hsome : (home.stored? m.server (Value.written (.int 5))).isSome = true := by decide +kernel
    intro hnone
    rw [hnone] at hsome
    cases hsome
  constructor
  · have hnodup : (Object.keys [("id", .int 5), ("name", .text "Ada")]).Nodup := by decide
    obtain ⟨renamed, hrenamed, hcreate⟩ :=
      create_replaces_iff (s := standard) rfl hhome hkeeps hm hnodup
    obtain rfl := Except.ok.inj hrenamed
    obtain ⟨_, m', hrun, -, hreplaces, -⟩ := hcreate (.text "5") rfl
    obtain ⟨⟨v, rfl⟩, d, hd, hfirst, hfields⟩ := hreplaces (.inr rfl)
    exact ⟨v, m', d, hrun, hd, hfirst, (hfields "name").trans rfl, (hfields "owner").trans rfl⟩
  · have hnodup : (Object.keys [("_id", .int 5), ("name", .text "Ada")]).Nodup := by decide
    obtain ⟨renamed, hrenamed, hcreate⟩ :=
      create_replaces_iff (s := standard) rfl hhome hkeeps hm hnodup
    obtain rfl := Except.ok.inj hrenamed
    obtain ⟨_, m', hrun, -, -, hrefuses⟩ := hcreate (.int 5) rfl
    obtain ⟨⟨e, rfl⟩, hkept⟩ := hrefuses htaken rfl
    exact ⟨e, m', hrun, hkept⟩

/-- Creating a document twice under the same number fails the second time, though the data names an
    identifier: the document of the first time is not found, and stays. -/
theorem number_not_replaced :
    let create (data : Object)
      (m : Memory) := (standard.create (.text "user") (.object data) .null).run
      Memory.backend m
    let m := (create [("_id", .int 5)] (Memory.start (.empty none .null))).2
    m.server.Reached ∧ Document.named? [("_id", .int 5), ("n", .int 1)] = some (.int 5) ∧
      ((standard.homeOf (.text "user")).stored? m.server "5").isSome = true ∧
      ∃ e, (create [("_id", .int 5), ("n", .int 1)] m).1 = .error e := by
  intro create m
  refine ⟨Memory.reached_of_run (.empty none .null) rfl, rfl, by decide +kernel, ?_⟩
  have hfails : (create [("_id", .int 5), ("n", .int 1)] m).1.toOption.isNone = true := by
    decide +kernel
  cases hresult : (create [("_id", .int 5), ("n", .int 1)] m).1 with
  | error e => exact ⟨e, rfl⟩
  | ok v =>
    rw [hresult] at hfails
    cases hfails

end Session

end DocStore
