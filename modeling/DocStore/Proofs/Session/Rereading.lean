/-
  What an update answers is what is found afterwards.

  An update answers the document that it has written, and a search answers the one that it has read.
  The one is put together from the document that was read before, from the changes and from the
  revision that the store gives; the other comes from the store.  Where no field is renamed both are
  shown alike.

  1. **Overlaid documents** — an overlay has the changes where callers may write, and the document's
     own fields everywhere else (`get?_overlaid`).  So callers see what they saw before with their
     data over it (`get?_decode_overlaid`).

  2. **Updating** — a document that is named and the model's own is rewritten, and no other is
     (`run_update_becomes`).  It stays the model's own, so it is found again
     (`update_answers_reread`).
-/
import DocStore.Proofs.Session.Rewriting

namespace DocStore

open Program

namespace Session

variable {s : Session} {m : Memory} {home : Home} {model id : String} {d new : Stored}
  {changes data : Object} {filter : Value} {f : Filter}

/-! ## Overlaid documents -/

section

variable {tagField : Option String} {value : Value}
  (hnew : Overlaid (Document.changes data tagField) d new)
  (hid : Object.get? d.fields "_id" = some value) (hdata : data.keys.Nodup)

include hnew hdata

/-- An overlaid document keeps its identifier, its discriminator and a field `id` of its own; all
    other fields but the revision are those of the data, or its own where the data has none. -/
theorem get?_overlaid {key : String} (hrev : key ≠ "_rev") : Object.get? new.fields key =
    if Document.isPlain tagField key = true then (data.get? key).or (Object.get? d.fields key)
    else Object.get? d.fields key := by
  obtain ⟨merged, hmerged, hfields⟩ := hnew
  have hwritten : ∀ key, (Document.changes data tagField).get? key =
      if Document.isPlain tagField key = true then data.get? key else none := fun key =>
    Object.get?_keepKeys _ _ _
  obtain ⟨-, hsame, hget⟩ := Document.overlay_fields hmerged (Object.nodup_keepKeys hdata _)
  rw [hfields, Object.get?_set_ne _ _ (Ne.symm hrev)]
  by_cases hkey : key = "_id"
  · subst hkey
    rw [hsame, if_neg (by simp [Document.isPlain])]
  · rw [hget key hkey hrev, hwritten]
    split
    · rfl
    · rw [Option.none_or]

/-- It has no field twice if it had none. -/
theorem nodup_overlaid (hnodup : (Object.keys d.fields).Nodup) :
    (Object.keys new.fields).Nodup := by
  obtain ⟨merged, hmerged, hfields⟩ := hnew
  obtain ⟨hgrows, -, -⟩ := Document.overlay_fields hmerged (Object.nodup_keepKeys hdata _)
  rw [hfields]
  exact (hgrows.trans (Object.grows_set _ _ _)).nodup hnodup

include hid in
/-- **Callers see their data over what they saw before**, but for the fields that are not theirs to
    write. -/
theorem get?_decode_overlaid (key : String) : (Document.decode new.fields tagField).get? key =
    if Document.isPlain tagField key =
    true then (data.get? key).or ((Document.decode d.fields tagField).get? key)
    else (Document.decode d.fields tagField).get? key := by
  have hnamed : Object.get? new.fields "_id" = some value := by
    rw [get?_overlaid hnew hdata (by decide), if_neg (by simp [Document.isPlain]), hid]
  by_cases hplain : Document.isPlain tagField key = true
  · have hrev : key ≠ "_rev" := by
      rintro rfl
      simp [Document.isPlain] at hplain
    rw [if_pos hplain, Document.get?_decode_plain hnamed hplain,
      Document.get?_decode_plain hid hplain, get?_overlaid hnew hdata hrev, if_pos hplain]
  · rw [if_neg hplain, Document.get?_decode hnamed, Document.get?_decode hid]
    by_cases hvisible : Document.isVisible tagField key = true
    · have hrev : key ≠ "_rev" := by
        rintro rfl
        simp [Document.isVisible] at hvisible
      rw [get?_overlaid hnew hdata hrev, if_neg hplain]
    · rw [if_neg hvisible, if_neg hvisible]

end

/-- The fields that are not the caller's to write. -/
theorem isPlain_iff_writable (hkeeps : KeepsTag home) (key : String) :
    Document.isPlain home.tagField key = true ↔
    ¬(key = "id" ∨ key = "_id" ∨ key = "_rev" ∨ home.tagField = some key) := by
  cases hfield : home.tagField with
  | none => grind [Document.isPlain, Document.isTagField]
  | some field =>
    have hempty := (hkeeps field hfield).1
    grind [Document.isPlain, Document.isTagField]

/-- Where no field is renamed, an update may write all data but the fields that are not the
    caller's. -/
theorem changesOf_identity (hschema : s.schema = .identity) (home : Home) (model : Value)
    (data : Object) :
    s.changesOf home model (.object data) = .ok (Document.changes data home.tagField) := by
  have hstored : s.schema.stored model (.ofObject data) = .ok data := by
    rw [hschema, Schema.stored, Schema.input, Schema.fieldsOf, Entries.toObject?_ofObject]
  show (s.schema.stored model (.ofObject data) >>= fun renamed => _) = _
  rw [hstored]
  rfl

/-! ## Updating -/

/-- **An update of a named document rewrites it**, if it is the model's own, and answers what it has
    become. -/
theorem run_update_becomes (hs : s.schema.isTyped = true) (hm : m.server.Reached)
    (hhome : ∃ stored, s.schema.modelName (.text model) = .ok stored ∧ home = s.homeOf stored)
    (hfilter : s.schema.filter (.text model) filter = .ok f)
    (hid : f.identifier = .ok (some id)) {data : Value}
    (hchanges : s.changesOf home (.text model) data = .ok changes)
    (hd : home.own? m.server id = some d) :
    ∃ new m', (s.update (.text model) filter data).run Memory.backend m =
        (s.output home (.text model) .null (.object new.fields), m') ∧
      home.stored? m'.server id = some new ∧
      home.Becomes (Rewrites changes) [(id, d)] m.server m'.server := by
  obtain ⟨-, name, -, hname⟩ := home_names hs hhome
  obtain ⟨m₁, halike, hreached, hupdate⟩ := run_update_amended hs hhome hfilter hid hchanges m
  obtain ⟨new, m', hrun, hnew, hbecomes⟩ := run_amend_becomes (hreached hm).isSound hname
    (by rw [Home.own?_of_alike halike, hd]) changes
  exact ⟨new, m', hupdate _ m' hrun, hnew, hbecomes.of_sameDocuments halike.documents⟩

/-- **What an update answers is what is found afterwards.**  Where no field is renamed, find a
    document of the model's own by its identifier, update it with any data, and find it again.

    The update answers the document that was found before, with the data over it but for `id`,
    `_id`, `_rev` and the discriminator, and the same is found again.  What is stored under the
    identifier keeps `_id` and the discriminator and is in its next generation, and no other
    document changes, in any database.

    Neither the stored document nor the data has a key twice. -/
theorem update_answers_reread (hschema : s.schema = .identity) (hm : m.server.Reached)
    (hhome : ∃ stored, s.schema.modelName (.text model) = .ok stored ∧ home = s.homeOf stored)
    (hkeeps : KeepsTag home) (hfilter : s.schema.filter (.text model) filter = .ok f)
    (hid : f.identifier = .ok (some id)) (hd : home.own? m.server id = some d)
    (hnodup : (Object.keys d.fields).Nodup) (hdata : data.keys.Nodup) :
    ∃ (seen seen' : Object) (m₁ m₂ m₃ : Memory) (new : Stored),
      (s.findOne (.text model) filter .null).run Memory.backend m = (.ok (.object seen), m₁) ∧
      (s.update (.text model) filter (.object data)).run Memory.backend m₁ =
        (.ok (.object seen'), m₂) ∧
      (s.findOne (.text model) filter .null).run Memory.backend m₂ = (.ok (.object seen'), m₃) ∧
      seen.keys.Nodup ∧ seen'.keys.Nodup ∧
      (∀ key, seen'.get? key =
        if key = "id" ∨ key = "_id" ∨ key = "_rev" ∨ home.tagField = some key then seen.get? key
        else (data.get? key).or (seen.get? key)) ∧
      home.stored? m₂.server id = some new ∧ new.revision.generation = d.revision.generation + 1 ∧
      (∀ key, key = "_id" ∨ home.tagField = some key →
        Object.get? new.fields key = Object.get? d.fields key) ∧
      ∀ database other, database ≠ home.database ∨ other ≠ id →
        (m₂.server.database database).documents.get? other =
          (m.server.database database).documents.get? other := by
  have hs : s.schema.isTyped = true := by rw [hschema]; rfl
  obtain ⟨hstored, -⟩ := Home.own?_eq_some.1 hd
  have hnamed := ((hm.isSound home.database).stored id d hstored).named
  obtain ⟨m₁, hfound, halike₁⟩ := run_findOne_named hs hhome hfilter hid .null m
  have hd₁ : home.own? m₁.server id = some d := by rw [Home.own?_of_alike halike₁, hd]
  obtain ⟨new, m₂, hupdate, hnew, hbecomes⟩ := run_update_becomes hs
    (Memory.reached_of_run hm hfound) hhome hfilter
    hid (changesOf_identity hschema home (.text model) data) hd₁
  obtain ⟨_, hafter, hoverlaid, hgeneration⟩ := hbecomes.became id d List.mem_cons_self
  obtain rfl := Option.some.inj (hnew.symm.trans hafter)
  -- The discriminator is not the caller's to write, so the document is still the model's own.
  have htag : ∀ field, home.tagField = some field →
      Object.get? new.fields field = Object.get? d.fields field := by
    intro field hfield
    obtain ⟨hempty, -, hrev⟩ := hkeeps field hfield
    rw [get?_overlaid hoverlaid hdata hrev, if_neg]
    simp [Document.isPlain, Document.isTagField, hfield, hempty]
  have hkept : Object.get? new.fields "_id" = Object.get? d.fields "_id" := by
    rw [get?_overlaid hoverlaid hdata (by decide), if_neg (by simp [Document.isPlain])]
  have hown : home.own? m₂.server id = some new :=
    Home.own?_eq_some.2 ⟨hnew, (Home.isOwn_of_tag htag).trans (Home.own?_eq_some.1 hd).2⟩
  obtain ⟨m₃, hagain, -⟩ := run_findOne_named hs hhome hfilter hid .null m₂
  rw [hd] at hfound
  rw [hown] at hagain
  obtain ⟨seen, hseen, hseenNodup, hget⟩ := output_decoded hschema home (.text model) hnamed hnodup
  obtain ⟨seen', hseen', hseenNodup', hget'⟩ := output_decoded hschema home (.text model)
    (hkept.trans hnamed) (nodup_overlaid hoverlaid hdata hnodup)
  refine ⟨seen, seen', m₁, m₂, m₃, new, hfound.trans (Prod.ext hseen rfl),
    hupdate.trans (Prod.ext hseen' rfl),
    hagain.trans (Prod.ext hseen' rfl), hseenNodup, hseenNodup', fun key => ?_, hnew,
    hgeneration, ?_, ?_⟩
  · rw [hget', get?_decode_overlaid hoverlaid hnamed hdata, hget]
    have hplain := isPlain_iff_writable hkeeps key
    by_cases hkey : key = "id" ∨ key = "_id" ∨ key = "_rev" ∨ home.tagField = some key
    · rw [if_pos hkey, if_neg fun h => hplain.1 h hkey]
    · rw [if_neg hkey, if_pos (hplain.2 hkey)]
  · rintro key (rfl | hfield)
    · exact hkept
    · exact htag key hfield
  · intro database other hother
    rw [hbecomes.others database other (hother.imp_right fun hne hmem =>
        hne (List.mem_singleton.1 hmem)),
      halike₁.documents database]

/-- A user whose stored document has a field `id` of its own, and a null.  The data gives a null as
    well, and claims another identifier and another model. -/
theorem update_answers_reread_user :
    let m := Memory.start
      ((Request.insert (.text "app_auth") [("_id", .text "u1"), ("doc_type", .text "user"),
      ("id", .text "x"), ("name", .text "Ada"), ("mail", .null)]).serve (.empty none .null))
    let home := standard.homeOf (.text "user")
    let filter : Value := .list [.object [("field", .text "id"), ("value", .text "u1")]]
    ∃ (seen : Object) (m₁ m₂ : Memory) (new : Stored),
      (standard.findOne (.text "user") filter .null).run Memory.backend m =
        (.ok (.object [("id", .text "u1"), ("name", .text "Ada"), ("mail", .null)]), m₁) ∧
      (standard.update (.text "user") filter
        (.object [("name", .null), ("n", .int 1), ("_id", .text "u2"),
        ("doc_type", .text "group")])).run Memory.backend m₁ = (.ok (.object seen), m₂) ∧
      (∃ m₃, (standard.findOne (.text "user") filter .null).run Memory.backend m₂ =
        (.ok (.object seen), m₃)) ∧
      seen.get? "id" = some (.text "u1") ∧ seen.get? "name" = some .null ∧
      seen.get? "mail" = some .null ∧ seen.get? "n" = some (.int 1) ∧ seen.get? "doc_type" = none ∧
      home.stored? m₂.server "u1" = some new ∧ new.revision.generation = 2 ∧
      Object.get? new.fields "_id" = some (.text "u1") ∧
      Object.get? new.fields "doc_type" = some (.text "user") := by
  intro m home filter
  have hm : m.server.Reached := .serve _ (.empty none .null)
  have hhome := home_standard "user"
  have hkeeps := keepsTag_standard (s := standard) rfl (.text "user")
  have hd : home.own? m.server "u1" =
        some ⟨⟨1, 1⟩, [("_id", .text "u1"), ("doc_type", .text "user"), ("id", .text "x"),
      ("name", .text "Ada"), ("mail", .null),
      ("_rev", .text "1-00000000000000000000000000000001")]⟩ := by
    rfl
  obtain ⟨seen, seen', m₁, m₂, m₃, new, hfound, hupdate, hagain, -, -, hseen, hnew,
      hgeneration, hkept, -⟩ :=
    update_answers_reread (s := standard) rfl hm hhome hkeeps
      (show standard.schema.filter (.text "user") filter =
        .ok (.test ⟨.text "id", .text "u1", .known .eq, .and⟩) from rfl) rfl hd (by decide)
      (show (Object.keys [("name", .null), ("n", .int 1), ("_id", .text "u2"),
          ("doc_type", .text "group")]).Nodup
        by decide)
  have hbefore : ((standard.findOne (.text "user") filter .null).run Memory.backend m).1 =
      .ok (.object [("id", .text "u1"), ("name", .text "Ada"), ("mail", .null)]) := by
    rfl
  rw [hfound] at hbefore
  obtain rfl := Value.object.inj (Except.ok.inj hbefore)
  exact ⟨seen', m₁, m₂, new, hfound, hupdate, ⟨m₃, hagain⟩, (hseen "id").trans rfl,
    (hseen "name").trans rfl,
    (hseen "mail").trans rfl, (hseen "n").trans rfl, (hseen "doc_type").trans rfl,
    hnew, hgeneration, (hkept "_id" (.inl rfl)).trans rfl, (hkept "doc_type" (.inr rfl)).trans rfl⟩

end Session

end DocStore
