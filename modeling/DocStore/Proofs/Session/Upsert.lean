/-
  Creating documents that name themselves.

  A document that is created under an identifier of its own takes the place of whatever stands
  there.  If nothing does, it is inserted at once.  Otherwise the insert is refused, because the
  document brings no revision; what stands there is got, removed under its revision, and the
  document is inserted again, now under a free identifier.

  1. **Taking a place** — whether the place is free or taken, and by whom, creating ends well and
     leaves the same behind: the document in its first generation, and everything else as it was
     (`run_create_named`).

  2. **Finding** — so where no field is renamed, what is created is found again (`create_found`).
-/
import DocStore.Proofs.Session.LastWritten

namespace DocStore

open Program

namespace Session

variable {s : Session} {m : Memory} {home : Home} {model name key : String}
  {document data renamed : Object} {d : Stored}

/-! ## Taking a place -/

/-- Inserts a document, and where its place is taken lets it replace what stands there. -/
def insertOrReplace (s : Session) (home : Home) (document : Object) : Program Value :=
  (insertAndRead home document).handle fun e =>
    let id := Object.getD document "_id"
    if e.isRefusal .conflict && id.truthy then do
      s.note .create .warning ("id " ++ id.written ++ " already exists, replacing it")
      replace home document
    else .fail e

/-- Compared with an earlier state, a document has taken a place, and nothing else is different. -/
structure Placed (home : Home) (document : Object) (key : String) (revision : Revision)
    (old new : Server) : Prop where
  sound : new.IsSound
  stored : home.stored? new key = some (Database.storedAs document key revision)
  first : revision.generation = 1
  others : ∀ other, other ≠ key → home.stored? new other = home.stored? old other

/-- What stood in the place makes no difference. -/
theorem Placed.of_others {revision : Revision} {old between new : Server}
    (h : Placed home document key revision between new)
    (hothers : ∀ other, other ≠ key → home.stored? between other = home.stored? old other) :
    Placed home document key revision old new :=
  ⟨h.sound, h.stored, h.first, fun other hne => (h.others other hne).trans (hothers other hne)⟩

/-- A document that brings an identifier is stored under its text. -/
theorem identify_of_truthy (hpresent : (Object.getD document "_id").truthy = true) (draws : Nat) :
    Database.identify document draws = ((Object.getD document "_id").written, draws) := by
  rw [Database.identify]
  exact if_pos hpresent

section

variable (hname : home.database = .text name) (hm : m.server.IsSound)
  (hpresent : (Object.getD document "_id").truthy = true)
  (hwritten : (Object.getD document "_id").written = key)
  (hrev : Object.getD document "_rev" = .null)

include hname hm hpresent hwritten hrev

/-- Where the place is free, the document is inserted. -/
theorem run_insertAndRead_free (hfree : home.stored? m.server key = none) :
    ∃ revision m', (insertAndRead home document).run Memory.backend m =
        (.ok (.object (Database.storedAs document key revision).fields), m') ∧
      Placed home document key revision m.server m'.server := by
  have hidentify : (Database.identify document m.server.draws).1 = key := by
    rw [identify_of_truthy hpresent, hwritten]
  have hstored : ∀ server id,
      home.stored? server id = (server.database (.text name)).documents.get? id :=
    fun _ _ => by rw [Home.stored?, hname]
  have hsound := Server.serve_isSound hm (.insert (.text name) document)
  rw [hstored] at hfree
  unfold insertAndRead
  rw [hname]
  rcases run_insert_cases name document m with ⟨e, m', -, -, -, -, hcurrent⟩ |
    ⟨revision, m', hrun, hserve, -, hfirst, hmade⟩
  · -- A document without a revision is refused only where there is one.
    rw [hidentify, hfree, hrev] at hcurrent
    cases hcurrent
  · rw [hidentify] at hrun hfirst hmade
    rw [← hserve] at hsound
    refine ⟨revision, m', (run_bind_ok hrun).trans ?_, hsound, ?_,
      hfirst hfree, fun other hne => ?_⟩
    · exact run_get ⟨.text name, home.model, home.tagField⟩ hmade
    · rw [hstored, hmade]
    · rw [hstored, hstored, hserve, Server.get?_serve_insert_ne (by rw [hidentify]; exact hne)]

/-- Where the place is taken, the insert is refused, and nothing changes that is stored. -/
theorem run_insertAndRead_taken (hd : home.stored? m.server key = some d) :
    ∃ e m', (insertAndRead home document).run Memory.backend m = (.error e, m') ∧
      e.isRefusal .conflict = true ∧ m'.server.IsSound ∧
      ∀ id, home.stored? m'.server id = home.stored? m.server id := by
  have hidentify : (Database.identify document m.server.draws).1 = key := by
    rw [identify_of_truthy hpresent, hwritten]
  have hsound := Server.serve_isSound hm (.insert (.text name) document)
  rw [Home.stored?, hname] at hd
  rcases run_insert_cases name document m with ⟨e, m', hrun, hconflict, hserve, hsame, -⟩ |
    ⟨revision, m', -, -, haccepted, -⟩
  · unfold insertAndRead
    rw [hname]
    refine ⟨e, m', run_bind_error hrun, hconflict, hserve ▸ hsound, fun id => ?_⟩
    rw [Home.stored?, Home.stored?, hsame]
  · rw [hidentify, hd, hrev] at haccepted
    cases haccepted

/-- What stands in the place is removed, and the document is inserted there. -/
theorem run_replace_taken (hid : Object.getD document "_id" = .text key)
    (hd : home.stored? m.server key = some d) :
    ∃ revision m', (replace home document).run Memory.backend m =
        (.ok (.object (Database.storedAs document key revision).fields), m') ∧
      Placed home document key revision m.server m'.server := by
  have hget := run_get home
    (show (m.server.database home.database).documents.get? key = some d from hd)
  obtain ⟨m₁, hevict, hsound, hgone, hothers⟩ := run_evict hname hm hd (.text key)
  obtain ⟨revision, m₂, hinsert, hplaced⟩ :=
    run_insertAndRead_free hname hsound hpresent hwritten hrev hgone
  refine ⟨revision, m₂, ?_, hplaced.of_others hothers⟩
  rw [run_replace_found (hid ▸ hget), hid]
  exact (run_bind_ok hevict).trans hinsert

/-- Either the insert is accepted, or it is refused and the document replaces what stands in the
    place.  Then its identifier has to be a text, because what stands there is looked up by it. -/
theorem run_insertOrReplace (s : Session)
    (hplace : home.stored? m.server key = none ∨ Object.getD document "_id" = .text key) :
    ∃ revision m', (s.insertOrReplace home document).run Memory.backend m =
        (.ok (.object (Database.storedAs document key revision).fields), m') ∧
      Placed home document key revision m.server m'.server := by
  unfold insertOrReplace
  dsimp only
  cases hd : home.stored? m.server key with
  | none =>
    obtain ⟨revision, m₁, hrun, hplaced⟩ :=
      run_insertAndRead_free hname hm hpresent hwritten hrev hd
    exact ⟨revision, m₁, by rw [run_handle, hrun], hplaced⟩
  | some d =>
    have hid : Object.getD document "_id" = .text key := hplace.resolve_left (by rw [hd]; simp)
    obtain ⟨e, m₁, hrun, hconflict, hm₁, hsame⟩ :=
      run_insertAndRead_taken hname hm hpresent hwritten hrev hd
    obtain ⟨m₂, hnote, hserver⟩ := s.run_note_alone .create .warning
      ("id " ++ (Object.getD document "_id").written ++ " already exists, replacing it") m₁
    obtain ⟨revision, m₃, hreplace, hplaced⟩ := run_replace_taken hname (m := m₂)
      (hserver.symm ▸ hm₁) hpresent hwritten hrev hid (by rw [hserver, hsame, hd])
    refine ⟨revision, m₃, ?_, hplaced.of_others fun other _ => by rw [hserver, hsame]⟩
    rw [run_handle, hrun]
    dsimp only
    rw [hconflict, hpresent]
    exact (run_bind_ok hnote).trans hreplace

end

/-- Creating finds the home of the model and then inserts the document or lets it replace what
    stands there; what comes of that is shown as it goes out. -/
theorem run_create (hs : s.schema.isTyped = true)
    (hhome : ∃ stored, s.schema.modelName (.text model) = .ok stored ∧ home = s.homeOf stored)
    (hrenamed : s.schema.stored (.text model) (.ofObject data) = .ok renamed)
    (hdocument : Document.encode data renamed home.tag = document) (m : Memory) (select : Value) :
    ∃ m₁ : Memory, m.server.Alike m₁.server ∧ (m.server.Reached → m₁.server.Reached) ∧
      ∀ result m₂, (s.insertOrReplace home document).run Memory.backend m₁ = (result, m₂) →
        ∃ m' : Memory, (s.create (.text model) (.object data) select).run Memory.backend m =
            (result >>= s.output home (.text model) select, m') ∧ m'.server = m₂.server := by
  obtain ⟨m₀, hrun₀, halike⟩ := run_home hs model hhome m
  obtain ⟨m₁, hrun₁, hserver⟩ := s.run_note_alone .create .debug
    ("model=" ++ (Value.text model).written ++ " db=" ++ home.database.written ++ " doc=" ++
      (Value.object document).shown) m₀
  refine ⟨m₁, hserver ▸ halike, fun hm => hserver ▸ Memory.reached_of_run hm hrun₀,
    fun result m₂ hrun => ?_⟩
  obtain ⟨m', hguarded, hserver'⟩ := run_guarded_alone hrun s .create (.text model)
  refine ⟨m', ?_, hserver'⟩
  unfold create
  rw [run_bind_ok hrun₀, run_bind_lift (show newFields (.object data) = .ok data from rfl),
    run_bind_lift hrenamed]
  dsimp only
  rw [hdocument, run_bind_ok hrun₁]
  cases result with
  | error e => exact run_bind_error hguarded
  | ok doc => exact (run_bind_ok hguarded).trans (run_liftM _ _ _)

/-- **A document that names itself takes its place**, whatever stood there, and is answered. -/
theorem run_create_named (hs : s.schema.isTyped = true)
    (hhome : ∃ stored, s.schema.modelName (.text model) = .ok stored ∧ home = s.homeOf stored)
    (hm : m.server.Reached)
    (hrenamed : s.schema.stored (.text model) (.ofObject data) = .ok renamed)
    (hdocument : Document.encode data renamed home.tag = document)
    (hpresent : (Object.getD document "_id").truthy = true)
    (hwritten : (Object.getD document "_id").written = key)
    (hrev : Object.getD document "_rev" = .null)
    (hplace : home.stored? m.server key = none ∨ Object.getD document "_id" = .text key)
    (select : Value) :
    ∃ revision m', (s.create (.text model) (.object data) select).run Memory.backend m =
        (s.output home (.text model) select
          (.object (Database.storedAs document key revision).fields), m') ∧
      Placed home document key revision m.server m'.server := by
  obtain ⟨-, name, -, hname⟩ := home_names hs hhome
  obtain ⟨m₁, halike, hreached, hcreate⟩ := run_create hs hhome hrenamed hdocument m select
  have hsame : ∀ id, home.stored? m₁.server id = home.stored? m.server id :=
    Home.stored?_of_alike halike home
  obtain ⟨revision, m₂, hrun, hplaced⟩ := run_insertOrReplace hname
    (hreached hm).isSound hpresent hwritten hrev s (by rwa [hsame])
  obtain ⟨m', hend, hserver⟩ := hcreate _ m₂ hrun
  exact ⟨revision, m', hend, hserver ▸ hplaced.of_others fun other _ => hsame other⟩

/-! ## Finding -/

/-- A condition that the identifier equals a value names the text of the value. -/
theorem identifier_of_eq {c : Condition} (hid : c.isIdentifier = true)
    (hop : c.operator = .known .eq) (hvacant : Document.isVacant c.value = false) :
    (Filter.test c).identifier = .ok (some c.value.written) := by
  have hkey : c.field.isKey = true := by
    cases hfield : c.field with
    | text _ => rfl
    | _ => rw [Condition.isIdentifier, hfield] at hid; cases hid
  rw [Filter.identifier, if_pos hkey, Filter.identifier?, if_pos ⟨hid, hop⟩]
  split
  · rename_i hnull
    rw [hnull] at hvacant
    cases hvacant
  · rename_i hempty
    rw [hempty] at hvacant
    cases hvacant
  · rfl

/-- Where nothing is renamed, a stored document goes out as it is decoded. -/
theorem output_decoded (hschema : s.schema = .identity) (home : Home) (model : Value)
    {fields : Object} {id : Value}
    (hid : fields.get? "_id" = some id) (hnodup : fields.keys.Nodup) :
    ∃ seen : Object, s.output home model .null (.object fields) = .ok (.object seen) ∧
      seen.keys.Nodup ∧ ∀ key, seen.get? key = (Document.decode fields home.tagField).get? key := by
  have hdecoded := Document.nodup_decode hid hnodup home.tagField
  have hshown : s.schema.shown model (Document.decode fields home.tagField) =
      .ok (Document.decode fields home.tagField) := by
    rw [hschema, Schema.shown, Schema.output, Schema.fieldsOf, Entries.toObject?_ofObject]
  refine ⟨Document.restore (Document.decode fields home.tagField)
    (Document.decode fields home.tagField), ?_,
    (Document.grows_restore _ _).nodup hdecoded, fun key => ?_⟩
  · rw [output]
    show (s.schema.shown model (Document.decode fields home.tagField) >>= fun shown => _) = _
    rw [hshown]
    rfl
  · rw [Document.get?_restore hdecoded (by rw [Document.get?_decode hid]; rfl)
      (by rw [Document.get?_decode hid]; rfl), Option.or_self, ite_self]

/-- What says something as an identifier is not written as the empty text. -/
theorem written_ne_empty_of_isVacant {id : Value} (h : Document.isVacant id = false) :
    id.written ≠ "" := by
  cases id with
  | null => cases h
  | text s =>
    intro hempty
    rw [show s = "" from hempty] at h
    cases h
  | _ => exact Value.shown_ne_empty _

section

variable (hkeeps : KeepsTag home) (hnodup : data.keys.Nodup)

include hkeeps hnodup

/-- A new document brings no revision. -/
theorem getD_rev_encode (renamed : Object) :
    Object.getD (Document.encode data renamed home.tag) "_rev" = .null := by
  rw [Object.getD, Document.get?_rev_encode hnodup renamed fun t ht => (hkeeps.tag t ht).2.2]
  rfl

/-- Where nothing is renamed, a new document brings the text of the caller's identifier, and no
    revision. -/
theorem encode_names {id : Value} (hid : data.get? "id" = some id)
    (hvacant : Document.isVacant id = false) (hnamed : "_id" ∉ data.keys) :
    Object.getD (Document.encode data data home.tag) "_id" = .text id.written ∧
      Object.getD (Document.encode data data home.tag) "_rev" = .null := by
  have hmerged : ∀ key, (data.merge data).get? key = data.get? key := fun key => by
    rw [Object.get?_merge_of_nodup _ hnodup, Option.or_self]
  refine ⟨?_, getD_rev_encode hkeeps hnodup data⟩
  rw [Object.getD, Document.get?_id_encode ((hmerged "id").trans hid) hvacant
    ((hmerged "_id").trans (Object.get?_eq_none_iff.2 hnamed)) fun t ht => (hkeeps.tag t ht).2.1]
  rfl

/-- What callers see of a document that is stored as it was given: their own fields, and its
    identifier. -/
theorem get?_decode_made (key : String) (revision : Revision) (field : String) :
    (Document.decode (Database.storedAs (Document.encode data data home.tag) key revision).fields
        home.tagField).get? field =
      if field = "id" then some (.text key)
      else if field = "_id" ∨ field = "_rev" ∨ home.tagField = some field then none
      else data.get? field := by
  rw [Document.get?_decode (Database.get?_id_storedAs _ key revision)]
  by_cases hid : field = "id"
  · rw [if_pos hid.symm, if_pos hid]
  rw [if_neg (Ne.symm hid), if_neg hid]
  by_cases hhidden : field = "_id" ∨ field = "_rev" ∨ home.tagField = some field
  · rw [if_pos hhidden, if_neg]
    rcases hhidden with rfl | rfl | hfield
    · simp [Document.isVisible]
    · simp [Document.isVisible]
    · simp [Document.isVisible, Document.isTagField, hfield, (hkeeps field hfield).1]
  · obtain ⟨hid', hrev, hfield⟩ : field ≠ "_id" ∧ field ≠ "_rev" ∧ home.tagField ≠ some field := by
      simpa using hhidden
    have hother : Document.isTagField home.tagField field = false := by
      cases htag : home.tagField with
      | none => rfl
      | some other =>
        have hne : other ≠ field := fun heq => hfield (by rw [htag, heq])
        simp [Document.isTagField, hne]
    have hplain : Document.isPlain (home.tag.map (·.field)) field = true := by
      simp [map_tag, Document.isPlain, hid, hid', hrev, hother]
    have hblank : home.tag.map (·.field) ≠ some "" := fun h => (hkeeps "" (map_tag home ▸ h)).1 rfl
    rw [if_neg hhidden, if_pos (Document.isVisible_of_isPlain (map_tag home ▸ hplain)),
      Database.get?_storedAs_other _ _ _ hid' hrev, Document.get?_encode_plain hnodup hblank hplain,
      Option.or_self]

/-- **What is created is found again.**  Where no field is renamed, take any data without a key
    twice that brings an identifier, and not the store's name for it.  Whatever is stored, creating
    a document with it ends well, and so does looking it up by the identifier right after.  Both
    show the fields of the data, without a revision and the field that tells models apart, and with
    the identifier as text; and nothing else.  What is stored under the identifier is this document
    in its first generation, whatever stood there before. -/
theorem create_found (hschema : s.schema = .identity)
    (hhome : ∃ stored, s.schema.modelName (.text model) = .ok stored ∧ home = s.homeOf stored)
    (hm : m.server.Reached) {id : Value} (hid : data.get? "id" = some id)
    (hvacant : Document.isVacant id = false) (hnamed : "_id" ∉ data.keys)
    {filter : Value} {c : Condition}
    (hfilter : s.schema.filter (.text model) filter = .ok (.test c))
    (hfield : c.isIdentifier = true) (hop : c.operator = .known .eq) (hvalue : c.value = id) :
    ∃ seen revision m₁ m₂,
      (s.create (.text model) (.object data) .null).run Memory.backend m =
        (.ok (.object seen), m₁) ∧
      (s.findOne (.text model) filter .null).run Memory.backend m₁ = (.ok (.object seen), m₂) ∧
      (Object.keys seen).Nodup ∧
      (∀ key, Object.get? seen key =
        if key = "id" then some (.text id.written)
        else if key = "_id" ∨ key = "_rev" ∨ home.tagField = some key then none
        else data.get? key) ∧
      home.stored? m₁.server id.written =
        some (Database.storedAs (Document.encode data data home.tag) id.written revision) ∧
      revision.generation = 1 := by
  have hs : s.schema.isTyped = true := by rw [hschema]; rfl
  have hidentity : s.schema.stored (.text model) (.ofObject data) = .ok data := by
    rw [hschema, Schema.stored, Schema.input, Schema.fieldsOf, Entries.toObject?_ofObject]
  have hpresent : (Value.text id.written).truthy = true := by
    simpa [Value.truthy] using written_ne_empty_of_isVacant hvacant
  obtain ⟨stored, -, hmodel, -⟩ := home_names hs hhome
  obtain ⟨hgiven, hunrevised⟩ := encode_names hkeeps hnodup hid hvacant hnamed
  obtain ⟨revision, m₁, hcreate, hplaced⟩ := run_create_named hs hhome hm hidentity rfl
    (by rw [hgiven, hpresent]) (by rw [hgiven]; rfl) hunrevised (.inr hgiven) .null
  -- It is the model's own, and it goes out in the same way whether it has been created or found.
  have hown := Home.own?_eq_some.2 ⟨hplaced.stored,
    isOwn_storedAs hkeeps ⟨stored, hmodel⟩ data data _ revision⟩
  obtain ⟨seen, houtput, hseen, hget⟩ := output_decoded hschema home (.text model)
    (Database.get?_id_storedAs _ _ revision)
    ((Object.grows_set _ _ _).nodup
      ((Object.grows_set _ _ _).nodup (Document.nodup_encode hnodup data home.tag)))
  obtain ⟨m₂, hfind, -⟩ := run_findOne_named hs hhome hfilter
    (identifier_of_eq hfield hop (hvalue ▸ hvacant)) .null m₁
  rw [hvalue, hown] at hfind
  dsimp only at hfind
  rw [houtput] at hcreate hfind
  exact ⟨seen, revision, m₁, m₂, hcreate, hfind, hseen,
    fun key => (hget key).trans (get?_decode_made hkeeps hnodup _ revision key),
      hplaced.stored, hplaced.first⟩

end

/-- A user is created under the identifier of a group, and claims to be one.  He is seen as he was
    given, and nothing of the group is. -/
theorem create_found_over_group :
    ∃ seen m₁ m₂,
      (standard.create (.text "user")
        (.object [("id", .int 5), ("doc_type", .text "group"), ("name", .text "Ada")])
          .null).run Memory.backend (Memory.start ((Request.insert (.text "app_auth")
            [("_id", .text "5"), ("doc_type", .text "group"), ("owner", .text "root")]).serve
              (.empty none .null))) =
        (.ok (.object seen), m₁) ∧
      (standard.findOne (.text "user")
          (.condition (.text "id") (.int 5) (.known .eq) .and) .null).run
        Memory.backend m₁ = (.ok (.object seen), m₂) ∧
      Object.get? seen "id" = some (.text "5") ∧ Object.get? seen "name" = some (.text "Ada") ∧
      Object.get? seen "doc_type" = none ∧ Object.get? seen "owner" = none := by
  have hkeeps := keepsTag_standard (s := standard) rfl (.text "user")
  obtain ⟨seen, revision, m₁, m₂, hcreate, hfind, -, hseen, -⟩ := create_found
    (s := standard) hkeeps
    (show (Object.keys [("id", .int 5), ("doc_type", .text "group"),
      ("name", .text "Ada")]).Nodup by decide) rfl
    ⟨.text "user", rfl, rfl⟩
    (show (Memory.start _).server.Reached from .serve (.insert (.text "app_auth")
      [("_id", .text "5"), ("doc_type", .text "group"), ("owner", .text "root")])
      (.empty none .null))
    rfl rfl (by decide)
    (show standard.schema.filter (.text "user")
      (.condition (.text "id") (.int 5) (.known .eq) .and) = .ok _ from rfl) rfl rfl rfl
  refine ⟨seen, m₁, m₂, hcreate, hfind, (hseen "id").trans ?_, hseen "name",
    hseen "doc_type", hseen "owner"⟩
  exact congrArg (fun text => some (Value.text text))
    (show (Value.int 5).written = "5" by decide +kernel)

end Session

end DocStore
