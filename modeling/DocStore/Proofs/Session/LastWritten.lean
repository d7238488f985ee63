/-
  What was written last is what is seen, under a naming.

  A caller creates and updates documents under his own names.  Each document has a record of what he
  has written to it since he created it last (`Record`), and a run of calls is followed together
  with the record of one document (`follow`).

  A call has written a document if it has left it under another revision, or answers it.  Only then
  the record goes on, and the stored document with it: what stands under a stored name is the last
  value on record (`Recorded`).

  1. **Calls and records** — the calls, the record of a document, and when a call has written it.

  2. **Answers** — a call answers a document by its identifier (`answers_output`), or the number of
     those it has written (`hasWritten_updateMany`).

  3. **One call** — a document that has been created holds what is on record (`recorded_made`), and
     so does one that has been overlaid any number of times with the same changes
     (`recorded_reworked`).

  4. **The run** — by induction on the calls, what is stored is what is on record
     (`follow_recorded`), so what is found is the last value written (`last_written_seen`).
-/
import DocStore.Proofs.Document.Copies
import DocStore.Proofs.Session.Create
import DocStore.Proofs.Session.WriteBack

namespace DocStore

open Program

namespace Session

/-! ## Calls and records -/

/-- A call that writes documents of a model. -/
inductive Write where
  | create (data : Object) (select : Value)
  | update (filter : Value) (data : Object)
  | updateMany (filter : Value) (data : Object)

/-- What has been written to a document: the fields it was created with, and what it was updated
    with since, the last first. -/
structure Record where
  created : Object
  updates : List Object

/-- The last value written under a name, null being none. -/
def Record.last? (r : Record) (name : String) : Option Value :=
  (r.updates ++ [r.created]).findSome? fun data => data.value? name

namespace Write

/-- The fields that a call writes. -/
def data : Write → Object
  | .create data _ => data
  | .update _ data => data
  | .updateMany _ data => data

/-- What a call does. -/
def program (s : Session) (model : Value) : Write → Program Value
  | .create data select => s.create model (.object data) select
  | .update filter data => s.update model filter (.object data)
  | .updateMany filter data => s.updateMany model filter (.object data)

/-- The record of a document that a call has written: creating begins a new one. -/
def record : Write → Option Record → Option Record
  | .create data _, _ => some ⟨data, []⟩
  | .update _ data, r => r.map fun r => { r with updates := data :: r.updates }
  | .updateMany _ data, r => r.map fun r => { r with updates := data :: r.updates }

/-- A call with the caller's names: its data uses no stored name, and no key twice. -/
structure IsLogical (n : Naming) (w : Write) : Prop where
  nodup : w.data.keys.Nodup
  logical : ∀ name ∈ n.pairs.map Prod.snd, name ∉ w.data.keys

end Write

/-- Whether a call answers the document with an identifier. -/
def answers (id : String) : Except Failure Value → Bool
  | .ok (.object fields) =>
    match Object.get? fields "id" with
    | some (.text key) => key = id
    | _ => false
  | _ => false

/-- Whether a call has written a document: it has not the revision that it had, or it is the
    answer. -/
def hasWritten (home : Home) (id : String) (result : Except Failure Value)
    (before after : Server) : Bool :=
  (home.stored? after id).map Stored.revision ≠ (home.stored? before id).map Stored.revision ||
    answers id result

/-- Makes a call and brings the record of a document up to date. -/
def follow (s : Session) (home : Home) (model : Value) (id : String)
    (st : Memory × Option Record) (w : Write) :
    Memory × Option Record :=
  let (result, m) := (w.program s model).run Memory.backend st.1
  (m, if hasWritten home id result st.1.server m.server then w.record st.2 else st.2)

/-- Whether documents keep the field that tells models apart: it has a name, and it is neither the
    identifier nor the revision, which are the store's to write. -/
def KeepsTag (home : Home) : Prop :=
  ∀ field, home.tagField = some field → field ≠ "" ∧ field ≠ "_id" ∧ field ≠ "_rev"

variable {s : Session} {m : Memory} {home : Home} {model id key : String} {n : Naming}
  {models : Names} {tables : Entries Names} {data : Object} {d : Stored} {r : Record}

/-- With the usual settings, documents keep it. -/
theorem keepsTag_standard {s : Session} (h : s.settings = standard.settings) (stored : Value) :
    KeepsTag (s.homeOf stored) := by
  intro field hfield
  have htag : (s.homeOf stored).tagField = some "doc_type" := by
    rw [homeOf, h]
    rfl
  obtain rfl := Option.some.inj (htag.symm.trans hfield)
  decide

/-- The field of the tag is the one that tells models apart. -/
theorem map_tag (home : Home) : home.tag.map (·.field) = home.tagField := by
  rw [Home.tag, Option.map_map]
  exact Option.map_id'

theorem KeepsTag.tag (hkeeps : KeepsTag home) (t : Document.Tag) (ht : home.tag = some t) :
    t.field ≠ "" ∧ t.field ≠ "_id" ∧ t.field ≠ "_rev" :=
  hkeeps t.field (by rw [← map_tag, ht]; rfl)

theorem hasWritten_iff {result : Except Failure Value} {before after : Server} :
    hasWritten home id result before after = true ↔
      (home.stored? after id).map Stored.revision ≠ (home.stored? before id).map Stored.revision ∨
        answers id result = true := by
  rw [hasWritten, Bool.or_eq_true, decide_eq_true_eq]

/-! ## Answers -/

/-- Whatever is wanted of a document, its identifier stays. -/
theorem get?_project_id {o projected : Object} {select : Value}
    (h : Document.project o select = .ok projected) :
    Object.get? projected "id" = Object.get? o "id" := by
  rw [Document.project] at h
  split at h
  · obtain ⟨wanted, -, h⟩ := exists_of_bind_ok h
    obtain rfl := Except.ok.inj h
    rw [Object.get?_keepKeys, if_pos (by simp)]
  · rw [Except.ok.inj h]

/-- **A document is answered by its identifier.** -/
theorem answers_output (hschema : s.schema = .renaming models tables)
    (hn : s.schema.fieldNames (.text model) = n.table) (havoids : n.Avoids home.tagField)
    {fields : Object} (hid : Object.get? fields "_id" = some (.text id))
    (hnodup : (Object.keys fields).Nodup) {select v : Value}
    (hv : s.output home (.text model) select (.object fields) = .ok v)
    (hanswers : answers key (.ok v) = true) :
    id = key := by
  rw [output_project hschema hn] at hv
  cases hproject : Document.project (n.seen home.tagField fields) select with
  | error e => rw [hproject] at hv; cases hv
  | ok o =>
    rw [hproject] at hv
    obtain rfl := Except.ok.inj hv
    have hget : Object.get? o "id" = some (.text id) := by
      rw [get?_project_id hproject, Naming.get?_seen_other hid hnodup _ fun hmem =>
        (havoids "id" hmem).1 rfl, Document.get?_decode hid, if_pos rfl]
    rw [answers, hget] at hanswers
    exact of_decide_eq_true hanswers

/-- **An update of all matches answers how often it has written**, and has written no other
    document. -/
theorem hasWritten_updateMany (hs : s.schema.isTyped = true)
    (hhome : ∃ stored, s.schema.modelName (.text model) = .ok stored ∧ home = s.homeOf stored)
    (hm : m.server.IsSound) {filter changes v : Value} {m' : Memory}
    (hrun : (s.updateMany (.text model) filter changes).run Memory.backend m = (.ok v, m')) :
    ∃ ids : List String, v = .int ids.length ∧
      ∀ id, hasWritten home id (.ok v) m.server m'.server = true ↔ id ∈ ids := by
  have hI : Invariant s home (.text model) changes Server.IsSound :=
    ⟨fun request _ _ h => Server.serve_isSound h request, fun _ h => h,
      fun _ _ _ _ _ request _ _ _ _ h _ _ => Server.serve_isSound h request⟩
  obtain ⟨-, name, -, hname⟩ := home_names hs hhome
  obtain ⟨-, hupdated⟩ := (updateMany_yields hI hhome hname hm filter).of_run hrun
  obtain ⟨ids, rfl, hrewritten⟩ := hupdated v rfl
  refine ⟨ids, rfl, fun id => ?_⟩
  rw [hasWritten_iff]
  constructor
  · rintro (hchanged | hanswers)
    · by_contra hmem
      exact hchanged (congrArg (Option.map Stored.revision) (hrewritten.others id hmem))
    · cases hanswers
  · intro hmem
    refine .inl fun hsame => ?_
    obtain ⟨d, hd, hfresh⟩ := hrewritten.fresh id hmem
    rw [hd] at hsame
    obtain ⟨before, hbefore, hrevision⟩ := Option.map_eq_some_iff.1 hsame.symm
    -- The token of a revision that was there before had been drawn by then.
    have hdrawn := ((hm home.database).stored id before hbefore).drawn
    rw [hrevision] at hdrawn
    exact absurd hfresh (Nat.not_lt.2 hdrawn)

/-! ## One call -/

/-- What is stored is what is on record: every renamed field has under the stored name the last
    value written, and under the caller's the one that the document was created with. -/
structure Recorded (n : Naming) (home : Home) (id : String) (server : Server)
    (r : Record) : Prop where
  holds : ∀ d, home.stored? server id = some d → ∀ given stored, (given, stored) ∈ n.pairs →
    Document.Holds given stored (Object.get? r.created given) (r.last? given) d.fields
  own : KeepsTag home → ∃ d, home.own? server id = some d

/-- A document stays as it is as long as its revision does. -/
theorem stored?_of_revision {old new : Server} (hold : old.IsSound) (hsince : old.Since new)
    (h : (home.stored? new id).map Stored.revision = (home.stored? old id).map Stored.revision) :
    home.stored? new id = home.stored? old id := by
  cases hnew : home.stored? new id with
  | none =>
    rw [hnew] at h
    exact (Option.map_eq_none_iff.1 h.symm).symm
  | some d =>
    rw [hnew] at h
    obtain ⟨d', hd', hrevision⟩ := Option.map_eq_some_iff.1 h.symm
    rw [hd', (hsince.newer home.database).eq_of_revision (hold home.database) hd' hnew
      (by rw [hrevision])]

theorem Recorded.same {old new : Server} (h : Recorded n home id old r)
    (hsame : home.stored? new id = home.stored? old id) : Recorded n home id new r := by
  refine ⟨fun d hd => h.holds d (hsame ▸ hd), fun hkeeps => ?_⟩
  obtain ⟨d, hd⟩ := h.own hkeeps
  obtain ⟨hstored, hown⟩ := Home.own?_eq_some.1 hd
  exact ⟨d, Home.own?_eq_some.2 ⟨hsame.trans hstored, hown⟩⟩

/-- A document is stored with the tag that it is created with. -/
theorem get?_tag_storedAs (hkeeps : KeepsTag home) {field : String}
    (hfield : home.tagField = some field) (data renamed : Object) (id : String)
    (revision : Revision) :
    Object.get? (Database.storedAs (Document.encode data renamed home.tag) id revision).fields
        field = some home.model := by
  obtain ⟨-, hid, hrev⟩ := hkeeps field hfield
  rw [Database.get?_storedAs_other _ _ _ hid hrev, Home.tag, hfield]
  exact Object.get?_set_self _ _ _

/-- What is created is the model's own. -/
theorem isOwn_storedAs (hkeeps : KeepsTag home) (hmodel : ∃ stored, home.model = .text stored)
    (data renamed : Object) (id : String) (revision : Revision) :
    home.isOwn (Database.storedAs (Document.encode data renamed home.tag) id revision) = true := by
  obtain ⟨database, _, tagField⟩ := home
  obtain ⟨stored, rfl⟩ := hmodel
  cases tagField with
  | none => rfl
  | some field =>
    refine Entries.same_text_iff.2 ?_
    rw [Object.getD, get?_tag_storedAs hkeeps rfl]
    rfl

section

variable (havoids : n.Avoids home.tagField) (hnodup : data.keys.Nodup)
  (hlogical : ∀ name ∈ n.pairs.map Prod.snd, name ∉ data.keys)

include havoids hnodup hlogical

/-- **A document that has been created** holds what it was created with. -/
theorem recorded_made (hmodel : ∃ stored, home.model = .text stored) {server : Server}
    (hstored : (∃ revision, home.stored? server id = some (Database.storedAs
        (Document.encode data (data.populated.rename n.rename) home.tag) id revision)) ∨
      home.stored? server id = none ∧
        Object.getD (Document.encode data (data.populated.rename n.rename) home.tag) "_rev" ≠
          .null) :
    Recorded n home id server ⟨data, []⟩ := by
  refine ⟨fun d hd given stored hpair => ?_, fun hkeeps => ?_⟩
  · have hlast : Record.last? ⟨data, []⟩ given = data.value? given := by
      show List.findSome? _ [data] = _
      rw [List.findSome?_cons]
      cases data.value? given <;> rfl
    obtain ⟨-, hid, hrev, -⟩ := havoids.pair hpair
    rcases hstored with ⟨revision, hmade⟩ | ⟨hnone, -⟩
    · obtain rfl := Option.some.inj (hd.symm.trans hmade)
      have hholds := Naming.holds_encode havoids hpair hnodup
        (hlogical stored (List.mem_map_of_mem hpair)) (map_tag home)
      rw [hlast]
      exact (hholds.set hid.1 hid.2 _).set hrev.1 hrev.2 _
    · rw [hnone] at hd
      cases hd
  · rcases hstored with ⟨revision, hmade⟩ | ⟨-, hrev⟩
    · exact ⟨_, Home.own?_eq_some.2 ⟨hmade, isOwn_storedAs hkeeps hmodel _ _ id revision⟩⟩
    · -- Only a document that is tagged by its revision brings one.
      refine absurd ?_ hrev
      rw [Object.getD, Document.get?_rev_encode hnodup _ fun t ht => (hkeeps.tag t ht).2.2]
      rfl

end

/-- What updates do to what is stored under an identifier: as long as it is the model's own it is
    overlaid with the changes, any number of times. -/
inductive Reworks (home : Home) (changes : Object) (before : Option Stored) : Option Stored → Prop
  | left : Reworks home changes before before
  | overlaid {d new : Stored} (h : Reworks home changes before (some d))
      (hown : home.isOwn d = true) (hnew : Overlaid changes d new) :
      Reworks home changes before (some new)

theorem Reworks.cases {changes : Object} {before after : Option Stored}
    (h : Reworks home changes before after) :
    after = before ∨ ∃ d new, Reworks home changes before (some d) ∧ home.isOwn d = true ∧
      Overlaid changes d new ∧ after = some new := by
  cases h with
  | left => exact .inl rfl
  | overlaid h hown hnew => exact .inr ⟨_, _, h, hown, hnew, rfl⟩

/-- Compared with an earlier state, a document may have been overlaid. -/
structure Reworked (home : Home) (changes : Object) (id : String) (old new : Server) : Prop where
  sound : new.IsSound
  reworks : Reworks home changes (home.stored? old id) (home.stored? new id)

/-- Updates overlay what is stored under an identifier, and do nothing else to it. -/
theorem invariant_reworked {value : Value} {changes : Object}
    (hchanges : s.changesOf home (.text model) value = .ok changes) (id : String) (old : Server) :
    Invariant s home (.text model) value (Reworked home changes id old) where
  stands request server hreading h := by
    refine ⟨Server.serve_isSound h.sound request, ?_⟩
    rw [Home.stored?_of_alike (Server.alike_of_reading hreading server)]
    exact h.reworks
  sound _ h := h.sound
  admits changes' hchanges' := by
    obtain rfl : changes = changes' := Except.ok.inj (hchanges.symm.trans hchanges')
    intro name key server request answer before after hname h hown hcall
    have hstored : ∀ server key, home.stored? server key =
        (server.database (.text name)).documents.get? key := fun _ _ => by rw [Home.stored?, hname]
    refine ⟨Server.serve_isSound h.sound request, ?_⟩
    by_cases hkey : id = key
    · subst hkey
      obtain ⟨merged, hmerged, -, hfields⟩ := hcall.overlaid
      rw [hstored (request.serve server), hcall.after]
      have hbefore : home.stored? server id = some before := (hstored _ _).trans hcall.before
      exact .overlaid (hbefore ▸ h.reworks) hown ⟨merged, hmerged, hfields⟩
    · rw [hstored (request.serve server), hcall.others id hkey, ← hstored]
      exact h.reworks

section

variable (havoids : n.Avoids home.tagField) (hnodup : data.keys.Nodup)
  (hlogical : ∀ name ∈ n.pairs.map Prod.snd, name ∉ data.keys)
  {before after : Option Stored} {new : Stored}

/-- An overlaid document has no key twice if it had none. -/
theorem nodup_reworks (h : Reworks home (n.written home.tagField data) before after)
    (hbefore : ∀ d, before = some d → (Object.keys d.fields).Nodup) :
    ∀ d, after = some d → (Object.keys d.fields).Nodup := by
  induction h with
  | left => exact hbefore
  | overlaid _ _ hnew ih =>
    intro d hd
    obtain rfl := Option.some.inj hd
    obtain ⟨merged, hmerged, hfields⟩ := hnew
    have hgrows := (Document.overlay_fields hmerged (Naming.nodup_written _ _ _)).1
    exact hfields ▸ (Object.grows_set _ _ _).nodup (hgrows.nodup (ih _ rfl))

/-- What tells models apart is not overlaid. -/
theorem isOwn_overlaid (hkeeps : KeepsTag home)
    (hnew : Overlaid (n.written home.tagField data) d new) :
    home.isOwn new = home.isOwn d := by
  obtain ⟨merged, hmerged, hfields⟩ := hnew
  refine Home.isOwn_of_tag fun field hfield => ?_
  obtain ⟨hne, hid, hrev⟩ := hkeeps field hfield
  have hplain : Document.isPlain home.tagField field = false := by
    simp [Document.isPlain, Document.isTagField, hfield, hne]
  obtain ⟨-, -, hget⟩ := Document.overlay_fields hmerged (Naming.nodup_written _ _ _)
  rw [hfields, Object.get?_set_ne _ _ (Ne.symm hrev), hget field hid hrev, Naming.get?_written,
    if_neg (by simp [hplain]), Option.none_or]

include havoids hnodup hlogical

/-- Along a row of overlays with the same changes a document holds what it held, or what the changes
    say. -/
theorem holds_reworks (h : Reworks home (n.written home.tagField data) before after)
    {given stored : String} (hpair : (given, stored) ∈ n.pairs) {copy current : Option Value}
    (hbefore : ∀ d, before = some d → Document.Holds given stored copy current d.fields) :
    ∀ d, after = some d → ∃ current', Document.Holds given stored copy current' d.fields ∧
      (data.value? given).or current' = (data.value? given).or current := by
  induction h with
  | left => exact fun d hd => ⟨current, hbefore d hd, rfl⟩
  | overlaid _ _ hnew ih =>
    intro d hd
    obtain rfl := Option.some.inj hd
    obtain ⟨current', hholds, hsame⟩ := ih _ rfl
    obtain ⟨merged, hmerged, hfields⟩ := hnew
    refine ⟨_, hfields ▸ Naming.holds_overlay havoids hpair hnodup
      (hlogical stored (List.mem_map_of_mem hpair)) hholds hmerged _, ?_⟩
    rw [← Option.or_assoc, Option.or_self, hsame]

/-- **A document that has been overlaid** holds what it was overlaid with, or what it held. -/
theorem recorded_reworked {old server : Server} (h : Recorded n home id old r)
    (hreworks : Reworks home (n.written home.tagField data) (home.stored? old id) (some d))
    (hown : home.isOwn d = true) (hnew : Overlaid (n.written home.tagField data) d new)
    (hafter : home.stored? server id = some new) :
    Recorded n home id server { r with updates := data :: r.updates } := by
  refine ⟨fun d' hd' given stored hpair => ?_, fun hkeeps => ?_⟩
  · obtain rfl := Option.some.inj (hafter.symm.trans hd')
    obtain ⟨current, hholds, hsame⟩ := holds_reworks havoids hnodup hlogical hreworks hpair
      (fun d hd => h.holds d hd given stored hpair) d rfl
    obtain ⟨merged, hmerged, hfields⟩ := hnew
    have hlast : Record.last? { r with updates := data :: r.updates } given =
        (data.value? given).or current := by
      rw [hsame, Record.last?, List.cons_append, List.findSome?_cons, Record.last?]
      cases data.value? given <;> rfl
    rw [hlast, hfields]
    exact Naming.holds_overlay havoids hpair hnodup
      (hlogical stored (List.mem_map_of_mem hpair)) hholds hmerged _
  · exact ⟨new, Home.own?_eq_some.2 ⟨hafter, (isOwn_overlaid hkeeps hnew).trans hown⟩⟩

end

/-! ## The run -/

/-- No stored document has a key twice. -/
def HasObjects (home : Home) (server : Server) : Prop :=
  ∀ id d, home.stored? server id = some d → (Object.keys d.fields).Nodup

/-- How a run stands: what is stored is what is on record. -/
structure Follows (n : Naming) (home : Home) (id : String)
    (st : Memory × Option Record) : Prop where
  reached : st.1.server.Reached
  objects : HasObjects home st.1.server
  recorded : ∀ r, st.2 = some r → Recorded n home id st.1.server r

/-- What one call comes to. -/
structure Followed (n : Naming) (home : Home) (id : String) (w : Write) (r : Option Record)
    (result : Except Failure Value) (old new : Server) : Prop where
  objects : HasObjects home new
  recorded : ∀ r', hasWritten home id result old new = true → w.record r = some r' →
    Recorded n home id new r'

section

variable (hs : s.schema.isTyped = true) (hschema : s.schema = .renaming models tables)
  (hn : s.schema.fieldNames (.text model) = n.table)
  (hhome : ∃ stored, s.schema.modelName (.text model) = .ok stored ∧ home = s.homeOf stored)
  (havoids : n.Avoids home.tagField)

include hs hschema hn hhome havoids

/-- A document that is created begins a new record. -/
theorem create_followed (hm : m.server.IsSound) (hobjects : HasObjects home m.server)
    {select : Value} (hw : (Write.create data select).IsLogical n)
    {result : Except Failure Value} {m' : Memory}
    (hrun : ((Write.create data select).program s (.text model)).run Memory.backend m =
      (result, m')) (old : Option Record) :
    Followed n home id (.create data select) old result m.server m'.server := by
  obtain ⟨hnodup, hlogical⟩ := hw
  obtain ⟨stored, -, hmodel, -⟩ := home_names hs hhome
  have hmade := fun key =>
    (create_yields hs hhome hm (Schema.stored_eq hschema hn data) select key).of_run hrun
  have hobjects' : HasObjects home m'.server := by
    intro key d hd
    rcases makes_iff.1 (hmade key).1.makes with hsame | ⟨revision, hstored⟩ | ⟨hnone, -⟩
    · exact hobjects key d (hsame ▸ hd)
    · obtain rfl := Option.some.inj (hd.symm.trans hstored)
      exact (Object.grows_set _ _ _).nodup
        ((Object.grows_set _ _ _).nodup (Document.nodup_encode hnodup _ home.tag))
    · rw [hnone] at hd
      cases hd
  refine ⟨hobjects', fun r' hwritten hrecord => ?_⟩
  obtain rfl := Option.some.inj hrecord
  refine recorded_made havoids hnodup hlogical ⟨stored, hmodel⟩ ?_
  rcases hasWritten_iff.1 hwritten with hchanged | hanswers
  · rcases makes_iff.1 (hmade id).1.makes with hsame | hstored
    · exact absurd (congrArg (Option.map Stored.revision) hsame) hchanged
    · exact hstored
  · cases result with
    | error e => cases hanswers
    | ok v =>
      obtain ⟨doc, ⟨key, revision, hstored, rfl⟩, hv⟩ := (hmade id).2 v rfl
      obtain ⟨named, -⟩ := ((hmade id).1.sound home.database).stored key _ hstored
      obtain rfl := answers_output hschema hn havoids named (hobjects' key _ hstored) hv hanswers
      exact .inl ⟨revision, hstored⟩

omit hs hschema hn hhome in
/-- Where a document has another revision than before, it has been overlaid. -/
theorem reworked_recorded {old new : Server} (hnodup : data.keys.Nodup)
    (hlogical : ∀ name ∈ n.pairs.map Prod.snd, name ∉ data.keys)
    (hrecorded : Recorded n home id old r)
    (h : Reworks home (n.written home.tagField data) (home.stored? old id) (home.stored? new id))
    (hchanged : (home.stored? new id).map Stored.revision ≠
      (home.stored? old id).map Stored.revision) :
    Recorded n home id new { r with updates := data :: r.updates } := by
  rcases h.cases with hsame | ⟨d, after, hreworks, hown, hnew, hafter⟩
  · exact absurd (congrArg (Option.map Stored.revision) hsame) hchanged
  · exact recorded_reworked havoids hnodup hlogical hrecorded hreworks hown hnew hafter

/-- A document that is updated goes on with its record. -/
theorem update_followed (hm : m.server.IsSound) (hobjects : HasObjects home m.server)
    {filter : Value} (hw : (Write.update filter data).IsLogical n)
    {result : Except Failure Value} {m' : Memory}
    (hrun : ((Write.update filter data).program s (.text model)).run Memory.backend m =
      (result, m')) {old : Option Record}
      (hold : ∀ r, old = some r → Recorded n home id m.server r) :
    Followed n home id (.update filter data) old result m.server m'.server := by
  obtain ⟨hnodup, hlogical⟩ := hw
  obtain ⟨-, name, -, hname⟩ := home_names hs hhome
  have hchanges := changesOf_written hschema hn home data
  have hupdated := fun key => (update_yields (invariant_reworked hchanges key m.server) hhome hname
    ⟨hm, .left⟩ filter).of_run hrun
  have hobjects' : HasObjects home m'.server := fun key =>
    nodup_reworks (hupdated key).1.reworks (hobjects key)
  refine ⟨hobjects', fun r' hwritten hrecord => ?_⟩
  obtain ⟨r, hr, rfl⟩ := Option.map_eq_some_iff.1 hrecord
  rcases hasWritten_iff.1 hwritten with hchanged | hanswers
  · exact reworked_recorded havoids hnodup hlogical (hold r hr) (hupdated id).1.reworks hchanged
  · cases result with
    | error e => cases hanswers
    | ok v =>
      obtain ⟨changes, key, before, after, hchanges', hbefore, hafter, hnew, hv⟩ :=
        (hupdated id).2 v rfl
      obtain rfl := Except.ok.inj (hchanges'.symm.trans hchanges)
      obtain ⟨named, -⟩ := ((hupdated id).1.sound home.database).stored key _ hafter
      obtain rfl := answers_output hschema hn havoids named (hobjects' key _ hafter) hv hanswers
      obtain ⟨hstored, hown⟩ := Home.own?_eq_some.1 hbefore
      have hbefore : home.stored? m.server key = some before := hstored
      exact recorded_reworked havoids hnodup hlogical (hold r hr) (hbefore ▸ .left) hown hnew hafter

/-- Documents that are updated together go on with their records. -/
theorem updateMany_followed (hm : m.server.IsSound) (hobjects : HasObjects home m.server)
    {filter : Value} (hw : (Write.updateMany filter data).IsLogical n)
    {result : Except Failure Value} {m' : Memory}
    (hrun : ((Write.updateMany filter data).program s (.text model)).run Memory.backend m =
      (result, m')) {old : Option Record}
      (hold : ∀ r, old = some r → Recorded n home id m.server r) :
    Followed n home id (.updateMany filter data) old result m.server m'.server := by
  obtain ⟨hnodup, hlogical⟩ := hw
  obtain ⟨-, name, -, hname⟩ := home_names hs hhome
  have hchanges := changesOf_written hschema hn home data
  have hupdated := fun key =>
    (updateMany_yields (invariant_reworked hchanges key m.server) hhome hname
      ⟨hm, .left⟩ filter).of_run hrun
  refine ⟨fun key => nodup_reworks (hupdated key).1.reworks (hobjects key),
    fun r' hwritten hrecord => ?_⟩
  obtain ⟨r, hr, rfl⟩ := Option.map_eq_some_iff.1 hrecord
  rcases hasWritten_iff.1 hwritten with hchanged | hanswers
  · exact reworked_recorded havoids hnodup hlogical (hold r hr) (hupdated id).1.reworks hchanged
  · -- The answer is a number, which is no document.
    cases result with
    | error e => cases hanswers
    | ok v =>
      obtain ⟨ids, rfl, -⟩ := (hupdated id).2 v rfl
      cases hanswers

/-- **One call** leaves what is stored as it is on record. -/
theorem follow_step {st : Memory × Option Record} {w : Write} (hw : w.IsLogical n)
    (h : Follows n home id st) :
    Follows n home id (s.follow home (.text model) id st w) := by
  rcases hrun : (w.program s (.text model)).run Memory.backend st.1 with ⟨result, m'⟩
  have hsound := h.reached.isSound
  have hfollowed : Followed n home id w st.2 result st.1.server m'.server := by
    cases w with
    | create data select =>
      exact create_followed hs hschema hn hhome havoids hsound h.objects hw hrun st.2
    | update filter data =>
      exact update_followed hs hschema hn hhome havoids hsound h.objects hw hrun h.recorded
    | updateMany filter data =>
      exact updateMany_followed hs hschema hn hhome havoids hsound h.objects hw hrun h.recorded
  rw [follow, hrun]
  refine ⟨Memory.reached_of_run h.reached hrun, hfollowed.objects, fun r hr => ?_⟩
  dsimp only at hr
  split at hr
  · rename_i hwritten
    exact hfollowed.recorded r hwritten hr
  · rename_i hwritten
    have hrevision := not_not.1 fun hchanged => hwritten (hasWritten_iff.2 (.inl hchanged))
    exact (h.recorded r hr).same
      (stored?_of_revision hsound (Memory.since_of_run hsound hrun) hrevision)

/-- **What is stored is what is on record**, whatever has been called. -/
theorem follow_recorded {calls : List Write} (hcalls : ∀ w ∈ calls, w.IsLogical n)
    {st : Memory × Option Record} (h : Follows n home id st) :
    Follows n home id (calls.foldl (s.follow home (.text model) id) st) := by
  induction calls generalizing st with
  | nil => exact h
  | cons w rest ih =>
    obtain ⟨hw, hrest⟩ := List.forall_mem_cons.1 hcalls
    exact ih hrest (follow_step hs hschema hn hhome havoids hw h)

end

/-- The value on record is populated. -/
theorem isNull_of_last? {name : String} {v : Value} (h : r.last? name = some v) :
    v.isNull = false := by
  obtain ⟨data, -, hdata⟩ := List.exists_of_findSome?_eq_some h
  exact Object.isNull_of_value? hdata

/-- Where no value is on record, none was given when the document was created. -/
theorem isNull_created {name : String} (h : r.last? name = none) :
    (Object.getD r.created name).isNull = true :=
  Object.isNull_of_value?_none (List.findSome?_eq_none_iff.1 h r.created (by simp))

/-- **What was written last is what is seen.**  Take any run of creating and updating, one document
    or all that match, under a naming that avoids what belongs to the store, with data that uses no
    stored name.  Take a document that has been created in it, and look it up by its identifier.  It
    is there, if documents keep what tells models apart; and under every name of the caller's it
    shows the last value written since it was created last, and none or null if there was none.  So
    it does although the stored document also has under that name what it was created with. -/
theorem last_written_seen (hs : s.schema.isTyped = true)
    (hschema : s.schema = .renaming models tables)
    (hn : s.schema.fieldNames (.text model) = n.table)
    (hhome : ∃ stored, s.schema.modelName (.text model) = .ok stored ∧ home = s.homeOf stored)
    (havoids : n.Avoids home.tagField) (hm : m.server.Reached) (hobjects : HasObjects home m.server)
    {calls : List Write} (hcalls : ∀ w ∈ calls, w.IsLogical n) {m' : Memory}
    (hrun : calls.foldl (s.follow home (.text model) id) (m, none) = (m', some r)) {filter : Value}
    {f : Filter} (hfilter : s.schema.filter (.text model) filter = .ok f)
    (hid : f.identifier = .ok (some id)) :
    ∃ result m'', (s.findOne (.text model) filter .null).run Memory.backend m' = (.ok result, m'') ∧
      (KeepsTag home → ∃ seen, result = .object seen) ∧
      ∀ seen, result = .object seen → ∃ d, home.own? m'.server id = some d ∧
        ∀ given stored, (given, stored) ∈ n.pairs →
          (∀ v, r.last? given = some v → Object.get? seen given = some v) ∧
          (r.last? given = none → (Object.getD seen given).isNull = true) ∧
          Object.get? d.fields stored = r.last? given ∧
          Object.get? d.fields given = Object.get? r.created given := by
  have hfollows : Follows n home id (m', some r) := hrun ▸
    follow_recorded hs hschema hn hhome havoids hcalls ⟨hm, hobjects, fun _ hr => by cases hr⟩
  have hrecorded := hfollows.recorded r rfl
  obtain ⟨m'', hfind, -⟩ := run_findOne_named hs hhome hfilter hid .null m'
  cases hown : home.own? m'.server id with
  | none =>
    rw [hown] at hfind
    refine ⟨.null, m'', hfind, fun hkeeps => ?_, fun seen hseen => by cases hseen⟩
    obtain ⟨d, hd⟩ := hrecorded.own hkeeps
    exact absurd (hown.symm.trans hd) (by simp)
  | some d =>
    rw [hown] at hfind
    dsimp only at hfind
    rw [output_seen hschema hn] at hfind
    refine ⟨_, m'', hfind, fun _ => ⟨_, rfl⟩, fun seen hseen =>
      ⟨d, rfl, fun given stored hpair => ?_⟩⟩
    obtain rfl := Value.object.inj hseen
    have hstored := (Home.own?_eq_some.1 hown).1
    obtain ⟨named, -⟩ := (hfollows.reached.isSound home.database).stored id d hstored
    have hholds := hrecorded.holds d hstored given stored hpair
    have hshown := Naming.get?_seen_of_holds named havoids hpair hholds fun v hv =>
      isNull_of_last? hv
    refine ⟨fun v hv => ?_, fun hnone => ?_, hholds.held, hholds.copied⟩
    · rw [hshown, hv, Option.some_or]
    · rw [Object.getD, hshown, hnone, Option.none_or]
      exact isNull_created hnone

/-- A user is created with an address and given another; then all users are given a name and no
    address. -/
def addressCalls : List Write :=
  [.create [("id", .text "u1"), ("email", .text "a@x.io")] .null,
    .update (.list [.object [("field", .text "id"), ("value", .text "u1")]])
      [("email", .text "b@x.io")],
    .updateMany .null [("email", .null), ("name", .text "Ada")]]

theorem isLogical_addressCalls : ∀ w ∈ addressCalls, w.IsLogical emailNaming := by
  refine List.forall_mem_cons.2
    ⟨?created, List.forall_mem_cons.2 ⟨?updated, List.forall_mem_singleton.2 ?named⟩⟩
  all_goals exact ⟨by decide, by decide⟩

/-- The user's second address is seen, although the stored document still has the first under the
    caller's name. -/
theorem last_written_seen_after_updates :
    ∃ m' m'' r seen d,
      addressCalls.foldl (renamingEmail.follow (renamingEmail.homeOf (.text "user"))
          (.text "user") "u1")
        (Memory.start (.empty none .null), none) = (m', some r) ∧
      (renamingEmail.findOne (.text "user")
        (.list [.object [("field", .text "id"), ("value", .text "u1")]]) .null).run
            Memory.backend m' = (.ok (.object seen), m'') ∧
      Object.get? seen "email" = some (.text "b@x.io") ∧
      (renamingEmail.homeOf (.text "user")).own? m'.server "u1" = some d ∧
      Object.get? d.fields "email_address" = some (.text "b@x.io") ∧
      Object.get? d.fields "email" = some (.text "a@x.io") := by
  have hrun : addressCalls.foldl
      (renamingEmail.follow (renamingEmail.homeOf (.text "user")) (.text "user") "u1")
      (Memory.start (.empty none .null), none) =
        (_, some ⟨[("id", .text "u1"), ("email", .text "a@x.io")],
          [[("email", .null), ("name", .text "Ada")], [("email", .text "b@x.io")]]⟩) := rfl
  obtain ⟨result, m'', hfind, hthere, hseen⟩ := last_written_seen (s := renamingEmail)
    (n := emailNaming) rfl rfl rfl ⟨.text "user", rfl, rfl⟩ emailNaming_avoids
    (show (Memory.start _).server.Reached from .empty none .null) (fun _ _ hd => by cases hd)
    isLogical_addressCalls hrun
    (show renamingEmail.schema.filter (.text "user")
      (.list [.object [("field", .text "id"), ("value", .text "u1")]]) = .ok _ from rfl) rfl
  have hkeeps := keepsTag_standard (s := renamingEmail) rfl (.text "user")
  obtain ⟨seen, rfl⟩ := hthere hkeeps
  obtain ⟨d, hd, hfields⟩ := hseen seen rfl
  obtain ⟨hlast, -, hheld, hcopied⟩ := hfields "email" "email_address" (List.mem_singleton.2 rfl)
  exact ⟨_, m'', _, seen, d, hrun, hfind, hlast _ rfl, hd, hheld, hcopied⟩

end Session

end DocStore
