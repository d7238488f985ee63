/-
  Reading a document, changing a field and writing it back, under a schema that renames fields.

  What a caller reads he may change and hand to an update, and read again.  The runs of the three
  operations come to what `Naming.seen` and `Naming.written` say of the stored document
  (`run_write_back`).  So the change is seen again just when nothing stands under the stored name of
  the field; otherwise the caller's document also holds the old value under the stored name, behind
  his own, and that is what is written (`write_back_seen`).
-/
import DocStore.Proofs.Document.RoundTrip
import DocStore.Proofs.Session.Named

namespace DocStore.Session

variable {s : Session} {m : Memory} {home : Home} {model id : String} {f : Filter} {d : Stored}
  {models : Names} {tables : Entries Names} {n : Naming}

/-! ## Under a naming -/

/-- What goes out of a document is what is wanted of what a caller sees. -/
theorem output_project (hschema : s.schema = .renaming models tables)
    (hn : s.schema.fieldNames (.text model) = n.table) (home : Home) (select : Value)
    (fields : Object) :
    s.output home (.text model) select (.object fields) =
      (Document.project (n.seen home.tagField fields) select).map Value.object := by
  have hshown := Schema.shown_eq hschema hn (Document.decode fields home.tagField)
  rw [output]
  show (s.schema.shown (.text model) (Document.decode fields home.tagField) >>= fun shown => _) = _
  rw [hshown]
  show (Document.project (n.seen home.tagField fields) select >>= fun o =>
    Except.ok (Value.object o)) = _
  cases Document.project (n.seen home.tagField fields) select <;> rfl

/-- What goes out is what a caller sees. -/
theorem output_seen (hschema : s.schema = .renaming models tables)
    (hn : s.schema.fieldNames (.text model) = n.table) (home : Home) (fields : Object) :
    s.output home (.text model) .null (.object fields) =
      .ok (.object (n.seen home.tagField fields)) := by
  rw [output_project hschema hn]
  rfl

/-- What an update is to write. -/
theorem changesOf_written (hschema : s.schema = .renaming models tables)
    (hn : s.schema.fieldNames (.text model) = n.table) (home : Home) (data : Object) :
    s.changesOf home (.text model) (.object data) = .ok (n.written home.tagField data) := by
  have hstored := Schema.stored_eq hschema hn data
  rw [changesOf]
  show (s.schema.stored (.text model) (.ofObject data) >>= fun renamed => _) = _
  rw [hstored]
  rfl

/-! ## Writing back -/

/-- One document is read, written back with a field changed, and read again. -/
def WritesBack (s : Session) (model : String) (filter : Value) (m : Memory)
    (given : String) (v : Value) (seen back : Object) : Prop :=
  ∃ m₁ m₂ m₃ answer,
    (s.findOne (.text model) filter .null).run Memory.backend m = (.ok (.object seen), m₁) ∧
    (s.update (.text model) filter (.object (Object.set seen given v))).run Memory.backend m₁ =
      (.ok answer, m₂) ∧
    (s.findOne (.text model) filter .null).run Memory.backend m₂ = (.ok (.object back), m₃)

/-- What is read, written back and read again.  The revision must not be what tells models apart,
    because the update changes it. -/
theorem run_write_back (hs : s.schema.isTyped = true) (hschema : s.schema = .renaming models tables)
    (hn : s.schema.fieldNames (.text model) = n.table)
    (hhome : ∃ stored, s.schema.modelName (.text model) = .ok stored ∧ home = s.homeOf stored)
    (havoids : n.Avoids home.tagField) (htag : home.tagField ≠ some "_rev") (hm : m.server.Reached)
    {filter : Value} (hfilter : s.schema.filter (.text model) filter = .ok f)
    (hid : f.identifier = .ok (some id)) (hd : home.own? m.server id = some d)
    (hnodup : (Object.keys d.fields).Nodup) {given stored : String}
    (hpair : (given, stored) ∈ n.pairs) (v : Value) :
    ∃ merged rev,
      Document.overlay d.fields
          (n.written home.tagField ((n.seen home.tagField d.fields).set given v)) = .ok merged ∧
      s.WritesBack model filter m given v (n.seen home.tagField d.fields)
        (n.seen home.tagField (merged.set "_rev" rev)) := by
  obtain ⟨named, -⟩ := (hm.isSound home.database).stored id d (Home.own?_eq_some.1 hd).1
  obtain ⟨m₁, hrun₁, halike₁⟩ := run_findOne_named hs hhome hfilter hid .null m
  rw [hd] at hrun₁
  dsimp only at hrun₁
  rw [output_seen hschema hn] at hrun₁
  obtain ⟨m₂, new, ⟨merged, hmerged, hfields⟩, hnew, hrun₂⟩ := run_update_named hs
    (Memory.reached_of_run hm hrun₁) hhome hfilter hid
    (changesOf_written hschema hn home ((n.seen home.tagField d.fields).set given v))
    (by rw [Home.own?_of_alike halike₁, hd])
  rw [output_seen hschema hn] at hrun₂
  -- The field that tells models apart has not been written, so the document is still the model's
  -- own.
  have htagged : home.isOwn new = home.isOwn d := Home.isOwn_of_tag fun field hfield => by
    have hfieldNames : field ∉ n.names := fun hmem => (havoids field hmem).2.2.2 hfield
    have hfieldRev : field ≠ "_rev" := fun heq => htag (by rw [hfield, heq])
    rw [hfields, Naming.get?_back_other named hnodup hpair hmerged _ hfieldNames hfieldRev]
  have hown : home.own? m₂.server id = some new :=
    Home.own?_eq_some.2 ⟨hnew, htagged.trans (Home.own?_eq_some.1 hd).2⟩
  obtain ⟨m₃, hrun₃, -⟩ := run_findOne_named hs hhome hfilter hid .null m₂
  rw [hown] at hrun₃
  dsimp only at hrun₃
  rw [output_seen hschema hn, hfields] at hrun₃
  exact ⟨merged, _, hmerged, m₁, m₂, m₃, _, hrun₁, hrun₂, hrun₃⟩

/-- **What is written back is seen again just when nothing stood in its way.**  Read a document of
    the model's own, write it back with one of the renamed fields changed, and read it again.  The
    value is there if the stored document has nothing under the stored name and no field of the
    caller's name behind it; otherwise the field shows what it has shown before.  Every other name
    of the caller's shows what it has shown before. -/
theorem write_back_seen (hs : s.schema.isTyped = true)
    (hschema : s.schema = .renaming models tables)
    (hn : s.schema.fieldNames (.text model) = n.table)
    (hhome : ∃ stored, s.schema.modelName (.text model) = .ok stored ∧ home = s.homeOf stored)
    (havoids : n.Avoids home.tagField) (htag : home.tagField ≠ some "_rev") (hm : m.server.Reached)
    {filter : Value} (hfilter : s.schema.filter (.text model) filter = .ok f)
    (hid : f.identifier = .ok (some id)) (hd : home.own? m.server id = some d)
    (hnodup : (Object.keys d.fields).Nodup) {given stored : String}
    (hpair : (given, stored) ∈ n.pairs) {v : Value} (hv : v.isNull = false) :
    ∃ seen back, s.WritesBack model filter m given v seen back ∧
      Object.get? back given =
        (if (Object.getD d.fields stored).isNull = true ∧
            ¬[stored, given].Sublist (Object.keys d.fields) then
          some v
        else Object.get? seen given) ∧
      ∀ other, other ∉ n.pairs.map Prod.snd → other ≠ given →
        Object.get? back other = Object.get? seen other := by
  obtain ⟨named, -⟩ := (hm.isSound home.database).stored id d (Home.own?_eq_some.1 hd).1
  obtain ⟨merged, rev, hmerged, hruns⟩ := run_write_back hs hschema hn hhome havoids htag
    hm hfilter hid hd hnodup hpair v
  obtain ⟨hchanged, hothers⟩ := Naming.seen_back named hnodup havoids hpair hmerged hv rev
  exact ⟨_, _, hruns, hchanged, hothers⟩

/-- A session in which the field `email` of users is stored as `email_address`. -/
def renamingEmail : Session :=
  { standard with
    schema := .renaming [] [(.text "user", .ofObject [("email", .text "email_address")])] }

/-- The names of that session. -/
def emailNaming : Naming := ⟨[("email", "email_address")], by decide⟩

theorem emailNaming_avoids : emailNaming.Avoids (renamingEmail.homeOf (.text "user")).tagField := by
  intro name hname
  rcases List.mem_pair.1 hname with rfl | rfl <;> decide

/-- A user without an address is given one. -/
theorem write_back_seen_when_vacant :
    ∃ seen back, renamingEmail.WritesBack "user"
        (.list [.object [("field", .text "id"), ("value", .text "u1")]])
        (Memory.start ((Request.insert (.text "app_auth")
          [("_id", .text "u1"), ("doc_type", .text "user"), ("name", .text "Ada")]).serve
            (.empty none .null)))
        "email" (.text "b@x.io") seen back ∧
      Object.get? back "email" = some (.text "b@x.io") ∧
      Object.get? back "name" = Object.get? seen "name" := by
  obtain ⟨seen, back, hruns, hchanged, hothers⟩ := write_back_seen (s := renamingEmail)
    (n := emailNaming) rfl rfl rfl ⟨.text "user", rfl, rfl⟩ emailNaming_avoids (by decide)
    (show (Memory.start _).server.Reached from .serve (.insert (.text "app_auth")
      [("_id", .text "u1"), ("doc_type", .text "user"), ("name", .text "Ada")]) (.empty none .null))
    (show renamingEmail.schema.filter (.text "user")
      (.list [.object [("field", .text "id"), ("value", .text "u1")]]) = .ok _ from rfl) rfl
    (show Home.own? _ _ "u1" = some ⟨⟨1, 1⟩, [("_id", .text "u1"), ("doc_type", .text "user"),
      ("name", .text "Ada"), ("_rev", .text "1-00000000000000000000000000000001")]⟩ from rfl)
    (by decide) (List.mem_singleton.2 rfl) (show (Value.text "b@x.io").isNull = false from rfl)
  exact ⟨seen, back, hruns, hchanged.trans (if_pos ⟨rfl, by decide⟩),
    hothers "name" (by decide) (by decide)⟩

/-- A user who has an address keeps it: what has been written back is lost. -/
theorem write_back_loses_change :
    ∃ seen back, renamingEmail.WritesBack "user"
        (.list [.object [("field", .text "id"), ("value", .text "u1")]])
        (Memory.start ((Request.insert (.text "app_auth") [("_id", .text "u1"),
          ("doc_type", .text "user"),
          ("email_address", .text "a@x.io")]).serve (.empty none .null)))
        "email" (.text "b@x.io") seen back ∧
      Object.get? back "email" = some (.text "a@x.io") := by
  obtain ⟨merged, rev, hmerged, hruns⟩ := run_write_back (s := renamingEmail) (n := emailNaming)
    rfl rfl rfl ⟨.text "user", rfl, rfl⟩ emailNaming_avoids (by decide)
    (show (Memory.start _).server.Reached from .serve (.insert (.text "app_auth")
      [("_id", .text "u1"), ("doc_type", .text "user"), ("email_address", .text "a@x.io")])
      (.empty none .null))
    (show renamingEmail.schema.filter (.text "user")
      (.list [.object [("field", .text "id"), ("value", .text "u1")]]) = .ok _ from rfl) rfl
    (show Home.own? _ _ "u1" = some ⟨⟨1, 1⟩, [("_id", .text "u1"), ("doc_type", .text "user"),
      ("email_address", .text "a@x.io"),
      ("_rev", .text "1-00000000000000000000000000000001")]⟩ from rfl)
    (by decide) (List.mem_singleton.2 rfl) (.text "b@x.io")
  exact ⟨_, _, hruns,
    (Naming.seen_back rfl (by decide) emailNaming_avoids (List.mem_singleton.2 rfl) hmerged
    rfl rev).1⟩

end DocStore.Session
