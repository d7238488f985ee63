/-
  Every document belongs to the model that created it.

  A shared database is used by many models, through sessions whose schemas may differ.  Creating a
  document writes its tag last, over whatever the data brings; changes never contain the tag; and
  removing brings nothing.  So nothing but creating gives a document another tag.

  1. **Keeping tags** — compared with an earlier state, every document has the tag that stood under
     its identifier (`TagsKept`).  Requests that write nothing keep tags, and so do removals and the
     overlays of updates; hence every operation but creating (`command_keepsTags`).

  2. **Creating** — what is stored after creating was stored before, or has the tag of the model
     (`tagged_of_create`).

  3. **Runs** — a run is followed together with a record of which model has created the document
     under each identifier last (`Run`).  By induction every stored document has the tag of its
     creator (`Run.tagged`).

  4. **Counting** — a narrowed selector accepts just the documents with the tag
     (`run_count_tagged`), so the counts of all models together are the number of documents
     (`sum_countP_eq_length`).
-/
import DocStore.Proofs.Session.Isolation
import DocStore.Proofs.Session.LastWritten
import DocStore.Proofs.Session.TwoRuns
import Mathlib.Algebra.BigOperators.Group.List.Basic
import Mathlib.Algebra.GroupWithZero.Nat

namespace DocStore

open Program

namespace Session

variable {s : Session} {m m' : Memory} {home : Home} {model : Value} {old server new : Server}
  {database field stored name id : String} {d : Stored}

/-! ## Keeping tags -/

/-- Compared with an earlier state, every document has the tag that stood under its identifier. -/
structure TagsKept (field : String) (home : Home) (old new : Server) : Prop where
  sound : new.IsSound
  kept : ∀ id d, home.stored? new id = some d →
    ∃ before, home.stored? old id = some before ∧ Object.get? d.fields field =
      Object.get? before.fields field

theorem TagsKept.refl (h : old.IsSound) : TagsKept field home old old :=
  ⟨h, fun _ d hd => ⟨d, hd, rfl⟩⟩

/-- Where nothing is stored that was not, tags are kept. -/
theorem TagsKept.of_stored (h : TagsKept field home old server) (hsound : new.IsSound)
    (hstored : ∀ id d, home.stored? new id = some d → home.stored? server id = some d) :
    TagsKept field home old new :=
  ⟨hsound, fun id d hd => h.kept id d (hstored id d hd)⟩

theorem stands_tagsKept (field : String) (home : Home) (old : Server) :
    Stands (TagsKept field home old) :=
  fun request server hreading h =>
      h.of_stored (Server.serve_isSound h.sound request) fun id d hd => by
    rwa [Home.stored?_of_alike (Server.alike_of_reading hreading server)] at hd

/-- A removal brings nothing. -/
theorem stored?_of_destroy (hserver : server.IsSound) {target key revision : Value}
    (hd : home.stored? ((Request.destroy target key revision).serve server) id = some d) :
    home.stored? server id = some d := by
  rcases Server.serve_cases (.destroy target key revision) server with
    ⟨hsame, -⟩ | ⟨_, _, _, _, _, hrequest, -⟩ | ⟨_, _, _, db, hrequest, hdestroy, hserve⟩
  · rwa [Home.stored?, hsame] at hd
  · cases hrequest
  · cases hrequest
    obtain ⟨other, -, rfl, -, -, rfl⟩ := Database.destroy_accepted hdestroy
    rw [Home.stored?, hserve] at hd
    rcases Server.database_setDatabase_cases server target home.database _ with hsame |
      ⟨hnew, hbefore⟩
    · rwa [hsame] at hd
    · rw [hnew] at hd
      rw [Home.stored?, hbefore]
      exact Table.get?_remove_some (hserver target).ordered hd

theorem yields_destroy (h : TagsKept field home old m.server) (target key revision : Value) :
    (send (.destroy target key revision)).Yields (TagsKept field home old) (fun _ _ => True) m := by
  refine yields_of_run (run_send Memory.backend _ m) ?_ fun _ _ => trivial
  show TagsKept field home old (Memory.answer (.destroy target key revision) m).2.server
  rw [Memory.answer_server]
  exact h.of_stored (Server.serve_isSound h.sound _) fun _ _ hd => stored?_of_destroy h.sound hd

/-- An update does not write the tag. -/
theorem invariant_tagsKept (s : Session) (hkeeps : KeepsTag home)
    (hfield : home.tagField = some field) (model data : Value) (old : Server) :
    Invariant s home model data (TagsKept field home old) where
  stands := stands_tagsKept field home old
  sound _ h := h.sound
  admits changes hchanges := by
    intro name key server request answer before after hname h _ hcall
    obtain ⟨hne, hid, hrev⟩ := hkeeps field hfield
    have hunchanged : field ∉ Object.keys changes := by
      obtain ⟨entries, -, hchanges⟩ := exists_of_bind_ok hchanges
      obtain ⟨renamed, -, hchanges⟩ := exists_of_bind_ok hchanges
      obtain rfl := Except.ok.inj hchanges
      rw [Document.changes, Object.keys_keepKeys, List.mem_filter]
      simp [Document.isTagField, hfield, hne]
    have hstored : ∀ server id,
        home.stored? server id = (server.database (.text name)).documents.get? id :=
      fun _ _ => by rw [Home.stored?, hname]
    refine ⟨Server.serve_isSound h.sound request, fun id d hd => ?_⟩
    by_cases hkey : id = key
    · subst hkey
      obtain rfl := Option.some.inj (hd.symm.trans ((hstored _ _).trans hcall.after))
      obtain ⟨first, hfirst, htag⟩ := h.kept id before ((hstored _ _).trans hcall.before)
      exact ⟨first, hfirst, (hcall.kept field hunchanged hrev).trans htag⟩
    · refine h.kept id d ?_
      rw [hstored, ← hcall.others id hkey, ← hstored]
      exact hd

/-- A document that is removed by its identifier is removed, and no other. -/
theorem remove_keepsTags (s : Session) (h : TagsKept field home old m.server) (id : String) :
    (remove s home id).Yields (TagsKept field home old) (fun _ _ => True) m := by
  have hreading : Request.IsReading (.get home.database (.text id)) := rfl
  unfold remove
  refine yields_bind (yields_send (stands_tagsKept field home old) hreading h) fun doc m₁ h₁ _ => ?_
  refine yields_lift_bind h₁ fun own _ => ?_
  cases own with
  | false =>
    exact yields_bind (yields_note s .delete .debug _ h₁) fun _ m₂ h₂ _ => yields_pure h₂ trivial
  | true =>
    refine yields_lift_bind h₁ fun key _ => yields_lift_bind h₁ fun revision _ => ?_
    exact yields_bind (yields_destroy h₁ _ _ _) fun _ m₂ h₂ _ => yields_pure h₂ trivial

/-- Documents are removed one after the other, and no others. -/
theorem removeAll_keepsTags (s : Session) (docs : List Value) (count : Nat) (m : Memory)
    (h : TagsKept field home old m.server) :
    (removeAll s home count docs).Yields (TagsKept field home old) (fun _ _ => True) m := by
  induction docs generalizing count m with
  | nil => exact yields_pure h trivial
  | cons doc rest ih =>
    rw [removeAll]
    refine yields_bind (P := fun _ _ => True) (yields_onRefusal ?_ fun m₁ h₁ => ?_) fun _ m₁ h₁ _ =>
      ih _ m₁ h₁
    · refine yields_lift_bind h fun key _ => yields_lift_bind h fun revision _ => ?_
      exact yields_bind (yields_destroy h _ _ _) fun _ m₁ h₁ _ => yields_pure h₁ trivial
    · refine yields_lift_bind h₁ fun key _ => ?_
      exact yields_bind (yields_note s .deleteMany .warning _ h₁) fun _ m₂ h₂ _ =>
        yields_pure h₂ trivial

section

variable (hhome : ∃ stored, s.schema.modelName model = .ok stored ∧ home = s.homeOf stored)

include hhome

/-- Deleting one document keeps the tags of the others. -/
theorem delete_keepsTags (h : TagsKept field home old m.server) (filter : Value) :
    (s.delete model filter).Yields (TagsKept field home old) (fun _ _ => True) m := by
  have hstands := stands_tagsKept field home old
  unfold delete
  refine yields_bind (yields_home hstands hhome h) fun _ m₁ h₁ hfound => ?_
  subst hfound
  refine yields_lift_bind h₁ fun f _ => ?_
  refine yields_bind (P := fun _ _ => True) (yields_guarded ?_ s _ _) fun removed m₂ h₂ _ => ?_
  · refine yields_bind (yields_of_within hstands (target_within s home f) h₁)
      fun target m₂ h₂ _ => ?_
    cases target with
    | none =>
      exact yields_bind (yields_note s .delete .debug _ h₂) fun _ m₃ h₃ _ => yields_pure h₃ trivial
    | some id =>
      refine yields_bind (yields_onRefusal (remove_keepsTags s h₂ id) fun m₃ h₃ => ?_)
        fun removed m₃ h₃ _ => yields_pure h₃ trivial
      exact yields_bind (yields_note s .delete .debug _ h₃) fun _ m₄ h₄ _ => yields_pure h₄ trivial
  · cases removed with
    | none => exact yields_pure h₂ trivial
    | some id =>
      exact yields_bind (yields_note s .delete .debug _ h₂) fun _ m₃ h₃ _ => yields_pure h₃ trivial

/-- Deleting all matches keeps the tags of the others. -/
theorem deleteMany_keepsTags (h : TagsKept field home old m.server) (filter : Value) :
    (s.deleteMany model filter).Yields (TagsKept field home old) (fun _ _ => True) m := by
  have hstands := stands_tagsKept field home old
  unfold deleteMany
  refine yields_bind (yields_home hstands hhome h) fun _ m₁ h₁ hfound => ?_
  subst hfound
  refine yields_lift_bind h₁ fun f _ => yields_lift_bind h₁ fun selector _ => ?_
  refine yields_bind (yields_note s .deleteMany .debug _ h₁) fun _ m₂ h₂ _ => ?_
  refine yields_bind (P := fun _ _ => True) (yields_guarded ?_ s _ _) fun count m₃ h₃ _ => ?_
  · refine yields_bind (P := fun _ _ => True) ?_ fun docs m₃ h₃ _ =>
      removeAll_keepsTags s docs 0 m₃ h₃
    refine yields_of_within hstands
      (eachPage_within (fun _ _ => within_pure trivial) (fun _ _ _ => ?_) _) h₂
    exact (rfl : Request.IsReading (.find _ _))
  · exact yields_bind (yields_note s .deleteMany .debug _ h₃) fun _ m₄ h₄ _ =>
      yields_pure h₄ trivial

/-- **No operation but creating gives a document another tag**, whether it ends well or fails. -/
theorem command_keepsTags (hagrees : home.Agrees) (hkeeps : KeepsTag home)
    (hfield : home.tagField = some field) (hname : home.database = .text name)
    (hm : m.server.IsSound) (command : Command) :
    (command.program s model).Yields (TagsKept field home m.server) (fun _ _ => True) m := by
  have h : TagsKept field home m.server m.server := .refl hm
  have hunwritten : home.Unwritten m.server m.server := ⟨.refl hm, .refl m.server⟩
  have hreads : ∀ {p : Program Value} {P : Value → Server → Prop},
      p.Yields (home.Unwritten m.server) P m →
      p.Yields (TagsKept field home m.server) (fun _ _ => True) m := fun hp =>
    hp.mono (fun server hserver => h.of_stored hserver.1.sound fun id d hd => by
      rwa [Home.stored?_of_alike hserver.2] at hd) fun _ _ _ _ => trivial
  cases command with
  | update filter data =>
    have hyields :=
      update_yields (invariant_tagsKept s hkeeps hfield model data _) hhome hname h filter
    exact hyields.mono (fun _ h => h) fun _ _ _ _ => trivial
  | updateMany filter data =>
    have hyields :=
      updateMany_yields (invariant_tagsKept s hkeeps hfield model data _) hhome hname h filter
    exact hyields.mono (fun _ h => h) fun _ _ _ _ => trivial
  | delete filter => exact delete_keepsTags hhome h filter
  | deleteMany filter => exact deleteMany_keepsTags hhome h filter
  | findOne filter select => exact hreads (findOne_yields hhome hagrees hunwritten filter select)
  | findMany filter paging select =>
    exact hreads (findMany_yields hhome hagrees hunwritten filter paging select)
  | count filter => exact hreads (count_yields hhome hunwritten filter)

end

/-! ## Creating -/

/-- Only an object can be created. -/
theorem object_of_newFields {data : Value} {fields : Object} (h : newFields data = .ok fields) :
    data = .object fields := by
  obtain ⟨_, -, h⟩ := exists_of_bind_ok h
  cases data with
  | object _ => rw [← Except.ok.inj h]
  | _ => cases h

/-- Data that has no stored form is refused before anything is written. -/
theorem run_create_refused {model : String} (hs : s.schema.isTyped = true)
    (hhome : ∃ stored, s.schema.modelName (.text model) = .ok stored ∧ home = s.homeOf stored)
    {data : Value} (hdata : ¬∃ fields renamed, data = .object fields ∧
      s.schema.stored (.text model) (.ofObject fields) = .ok renamed)
      (select : Value) (m : Memory) :
    ∃ e m', (s.create (.text model) data select).run Memory.backend m = (.error e, m') ∧
      m.server.Alike m'.server := by
  obtain ⟨m₁, hrun, halike⟩ := run_home hs model hhome m
  unfold create
  rw [run_bind_ok hrun]
  cases hfields : newFields data with
  | error e => exact ⟨e, m₁, run_bind_lift_error rfl _ _, halike⟩
  | ok fields =>
    rw [run_bind_lift rfl]
    cases hrenamed : s.schema.stored (.text model) (.ofObject fields) with
    | error e => exact ⟨e, m₁, run_bind_lift_error rfl _ _, halike⟩
    | ok renamed => exact absurd ⟨fields, renamed, object_of_newFields hfields, hrenamed⟩ hdata

/-- **What is stored after creating** was stored before, or has the tag of the model. -/
theorem tagged_of_create {model : String} (hs : s.schema.isTyped = true)
    (hhome : ∃ stored, s.schema.modelName (.text model) = .ok stored ∧ home = s.homeOf stored)
    (hkeeps : KeepsTag home) (hfield : home.tagField = some field) (hm : m.server.IsSound)
    {data select : Value} {result : Except Failure Value}
    (hrun : (s.create (.text model) data select).run Memory.backend m = (result, m'))
    (hd : home.stored? m'.server id = some d) :
    home.stored? m.server id = some d ∨ Object.get? d.fields field = some home.model := by
  by_cases hdata : ∃ fields renamed, data = .object fields ∧
      s.schema.stored (.text model) (.ofObject fields) = .ok renamed
  · obtain ⟨fields, renamed, rfl, hrenamed⟩ := hdata
    obtain ⟨hmade, -⟩ := (create_yields hs hhome hm hrenamed select id).of_run hrun
    rcases makes_iff.1 hmade.makes with hsame | ⟨revision, hnew⟩ | ⟨hnone, -⟩
    · exact .inl (hsame.symm.trans hd)
    · obtain rfl := Option.some.inj (hd.symm.trans hnew)
      exact .inr (get?_tag_storedAs hkeeps hfield fields renamed id revision)
    · rw [hnone] at hd
      cases hd
  · obtain ⟨e, m₁, hrefused, halike⟩ := run_create_refused hs hhome hdata select m
    obtain rfl := congrArg Prod.snd (hrun.symm.trans hrefused)
    exact .inl (by rwa [Home.stored?_of_alike halike] at hd)

/-! ## Runs -/

/-- A call of an operation. -/
inductive Action where
  | create (data select : Value)
  | command (command : Command)

namespace Action

/-- What a call does. -/
def program (s : Session) (model : Value) : Action → Program Value
  | .create data select => s.create model data select
  | .command c => c.program s model

/-- Which model has created the document under an identifier last, after a call of a model: this
    one, if it has created a document there, and else the one that had before.  What is created has
    a new revision. -/
def creator (stored : String) (before after : Option Stored) (last : Option String) :
    Action → Option String
  | .create .. =>
    if after.map Stored.revision = before.map Stored.revision then last else some stored
  | .command _ => last

/-- A creator is the model of the call or has been one before. -/
theorem of_creator {stored' : String} {before after : Option Stored} {last : Option String}
    {action : Action} (h : action.creator stored before after last = some stored') :
    stored' = stored ∨ last = some stored' := by
  cases action with
  | command c => exact .inr h
  | create data select =>
    rw [creator] at h
    split at h
    · exact .inr h
    · exact .inl (Option.some.inj h).symm

end Action

/-- A session whose models share a database, where a field tells them apart. -/
structure Shares (s : Session) (database field : String) : Prop where
  typed : s.schema.isTyped = true
  together : s.settings.databasePerModel = false
  named : s.settings.database = database
  tagged : s.settings.discriminator = field

/-- The home of a model in a shared database. -/
def sharedHome (database field stored : String) : Home := ⟨.text database, .text stored, some field⟩

theorem Shares.homeOf_eq (hs : s.Shares database field) (stored : String) :
    s.homeOf (.text stored) = sharedHome database field stored := by
  rw [homeOf, Settings.databaseOf, Settings.sharedField, hs.together, hs.named, hs.tagged]
  rfl

/-- Runs that begin where a shared database is empty, with the record of which model has created the
    document under each identifier last.  Each call may be made in a session of its own, with a
    schema of its own, and may end well or fail. -/
inductive Run (database field : String) : Server → (String → Option String) → Prop
  | start {server : Server} (hserver : server.Reached)
      (hempty : (server.database (.text database)).documents = []) :
      Run database field server fun _ => none
  | step {m m' : Memory} {creator : String → Option String} {s : Session} {model stored : String}
      {action : Action} {result : Except Failure Value} (h : Run database field m.server creator)
      (hs : s.Shares database field)
      (hmodel : s.schema.modelName (.text model) = .ok (.text stored))
      (hrun : (action.program s (.text model)).run Memory.backend m = (result, m')) :
      Run database field m'.server fun id => action.creator stored
        ((m.server.database (.text database)).documents.get? id)
        ((m'.server.database (.text database)).documents.get? id) (creator id)

/-- A field that can tell models apart: it has a name, is neither the identifier nor the revision,
    and to a selector it is a field and nothing else. -/
structure IsTagField (field : String) : Prop where
  plain : '.' ∉ field.toList
  single : Selector.isCombinator field = false
  nonempty : field ≠ ""
  free : field ≠ "_id" ∧ field ≠ "_rev"

section

variable (hfield : IsTagField field)

include hfield

theorem IsTagField.keepsTag (database stored : String) :
    KeepsTag (sharedHome database field stored) := by
  intro other hother
  obtain rfl := Option.some.inj hother
  exact ⟨hfield.nonempty, hfield.free⟩

theorem IsTagField.agrees (database stored : String) :
    (sharedHome database field stored).Agrees := by
  refine Home.agrees_of_separate ⟨stored, rfl⟩ fun other hother => ?_
  obtain rfl := Option.some.inj hother
  exact ⟨hfield.plain, hfield.single⟩

/-- **One call** leaves a document the tag and the creator that it has, or creates it anew with the
    model's own. -/
theorem tag_of_action {model : String} (hs : s.Shares database field)
    (hmodel : s.schema.modelName (.text model) = .ok (.text stored)) (hm : m.server.IsSound)
    {action : Action} {result : Except Failure Value}
    (hrun : (action.program s (.text model)).run Memory.backend m = (result, m'))
    (hd : (m'.server.database (.text database)).documents.get? id = some d) :
    (∃ before, (m.server.database (.text database)).documents.get? id = some before ∧
      Object.get? d.fields field = Object.get? before.fields field ∧
      ∀ last, action.creator stored (some before) (some d) last = last) ∨
    ∃ data select, action = .create data select ∧ Object.get? d.fields field = some (.text stored) ∧
      ((m.server.database (.text database)).documents.get? id).map Stored.revision ≠
        some d.revision := by
  have hhome : ∃ stored', s.schema.modelName (.text model) = .ok stored' ∧
      sharedHome database field stored = s.homeOf stored' :=
        ⟨.text stored, hmodel, (hs.homeOf_eq stored).symm⟩
  cases action with
  | command command =>
    obtain ⟨hkept, -⟩ := (command_keepsTags hhome (hfield.agrees database stored)
      (hfield.keepsTag database stored) rfl rfl hm command).of_run hrun
    obtain ⟨before, hbefore, htag⟩ := hkept.kept id d hd
    exact .inl ⟨before, hbefore, htag, fun _ => rfl⟩
  | create data select =>
    by_cases hrevision : ((m.server.database (.text database)).documents.get? id).map
          Stored.revision = some d.revision
    · -- Under the same revision stands the same document.
      have hsame : (sharedHome database field stored).stored? m'.server id =
          (sharedHome database field stored).stored? m.server id :=
        stored?_of_revision hm (Memory.since_of_run hm hrun)
          ((congrArg (Option.map Stored.revision) hd).trans hrevision.symm)
      exact .inl ⟨d, hsame.symm.trans hd, rfl, fun _ => if_pos rfl⟩
    · refine .inr ⟨data, select, rfl, ?_, hrevision⟩
      refine (tagged_of_create hs.typed hhome
          (hfield.keepsTag database stored) rfl hm hrun hd).resolve_left
        fun hbefore => hrevision ?_
      exact congrArg (Option.map Stored.revision) hbefore

omit hfield in
/-- The server of a run is one that is reached. -/
theorem Run.reached {creator : String → Option String} (h : Run database field server creator) :
    server.Reached := by
  induction h with
  | start hserver _ => exact hserver
  | step _ _ _ hrun ih => exact Memory.reached_of_run ih hrun

/-- **Every document has the tag of its creator**, whatever has been called. -/
theorem Run.tagged {creator : String → Option String}
    (h : Run database field server creator) {id : String} {d : Stored}
    (hd : (server.database (.text database)).documents.get? id = some d) :
    ∃ stored, creator id = some stored ∧ Object.get? d.fields field = some (.text stored) := by
  induction h generalizing id d with
  | start _ hempty =>
    rw [hempty] at hd
    cases hd
  | @step m m' creator s model stored action result h hs hmodel hrun ih =>
    dsimp only
    rw [hd]
    rcases tag_of_action hfield hs hmodel h.reached.isSound hrun hd with
      ⟨before, hbefore, htag, hcreator⟩ | ⟨data, select, rfl, htag, hrevision⟩
    · obtain ⟨last, hlast, hbeforeTag⟩ := ih hbefore
      exact ⟨last, by rw [hbefore, hcreator, hlast], htag.trans hbeforeTag⟩
    · exact ⟨stored, if_neg (Ne.symm hrevision), htag⟩

end

/-! ## Counting -/

/-- Where each of a row is met by exactly one of some conditions, as many as there are meet them
    together. -/
theorem sum_countP_eq_length {α β : Type} (p : β → α → Bool) (conditions : List β) (row : List α)
    (h : ∀ a ∈ row, conditions.countP (p · a) = 1) :
    (conditions.map fun b => row.countP (p b)).sum = row.length := by
  induction row with
  | nil => simp
  | cons a rest ih =>
    obtain ⟨ha, hrest⟩ := List.forall_mem_cons.1 h
    have hfirst : (conditions.map fun b => if p b a = true then 1 else 0).sum =
        conditions.countP (p · a) := by
      clear h ha hrest ih
      induction conditions with
      | nil => rfl
      | cons b others ih => rw [List.map_cons, List.sum_cons, ih, List.countP_cons, Nat.add_comm]
    simp only [List.countP_cons]
    rw [List.sum_map_add, ih hrest, hfirst, ha, List.length_cons]

section

variable (hfield : IsTagField field)

include hfield

/-- Without a filter, all documents with the tag of a model are selected, and no others. -/
theorem test_scope_tagged (database stored : String) (d : Stored) :
    Selector.test ((sharedHome database field stored).scope (.object [])) (.object d.fields) =
      .ok ((sharedHome database field stored).isOwn d) := by
  have hown := hfield.agrees database stored (.object []) d.fields true rfl
  rw [Home.owns_stored] at hown
  have hnarrowed : (sharedHome database field stored).scope (.object []) =
    .object [(field, .text stored)] := rfl
  rw [hnarrowed, Selector.test_field hfield.single] at hown ⊢
  have htold : ∃ answer, Selector.testCondition (.text stored) ((Value.object d.fields).at? field) =
      .ok answer :=
    ⟨_, rfl⟩
  obtain ⟨answer, hanswer⟩ := htold
  rw [hanswer] at hown ⊢
  refine congrArg Except.ok (Bool.eq_iff_iff.2 ⟨fun h => ?_, fun h => ?_⟩)
  · exact Except.ok.inj (hown.1 (congrArg Except.ok h)).2
  · exact Except.ok.inj (hown.2 ⟨rfl, congrArg Except.ok h⟩)

/-- **A model counts the documents that have its tag.** -/
theorem run_count_tagged {model : String} (hs : s.Shares database field)
    (hsize : 1 ≤ s.settings.pageSize)
    (hmodel : s.schema.modelName (.text model) = .ok (.text stored))
    (hbudget : (server.database (.text database)).documents.length < s.pageBudget)
    (hdigits : (server.database (.text database)).documents.length < 10 ^ Text.digitLimit)
    (halike : server.Alike m.server) :
    ∃ m', (s.count (.text model) .null).run Memory.backend m =
        (.ok (.int ((server.database (.text database)).documents.countP fun entry =>
          (sharedHome database field stored).isOwn entry.2)), m') ∧ server.Alike m'.server := by
  have hfilter : s.schema.filter (.text model) .null = .ok .anything := by
    cases s.schema with
    | identity => rfl
    | «renaming» models fields => rfl
  have hcounted : ((server.database (.text database)).contents.filter (Selector.accepts
      ((sharedHome database field stored).scope (.object [])))).length =
        (server.database (.text database)).documents.countP fun entry =>
          (sharedHome database field stored).isOwn entry.2 := by
    rw [← List.countP_eq_length_filter, Database.contents, List.countP_map]
    refine List.countP_congr fun entry _ => ?_
    show Selector.accepts _ (.object entry.2.fields) = true ↔ _
    rw [Selector.accepts, test_scope_tagged hfield]
  rw [← hcounted]
  exact run_count hs.typed hsize ⟨.text stored, hmodel, (hs.homeOf_eq stored).symm⟩ hfilter rfl
    (Database.lists_plain _ fun doc hdoc => by
      obtain ⟨entry, -, rfl⟩ := List.mem_map.1 hdoc
      exact ⟨_, test_scope_tagged hfield database stored entry.2⟩) hbudget hdigits halike

omit hfield in
/-- A document with a tag belongs to the one model among some that has this name. -/
theorem countP_isOwn (database : String) {names : List String} (hnames : names.Nodup)
    (hmem : stored ∈ names) (hd : Object.get? d.fields field = some (.text stored)) :
    names.countP (fun name => (sharedHome database field name).isOwn d) = 1 := by
  have hown : ∀ name ∈ names, (sharedHome database field name).isOwn d = true ↔
      (name == stored) = true := by
    intro name _
    have htags : (sharedHome database field name).isOwn d = true ↔
        Object.getD d.fields field = .text name :=
      isOwn_iff (show (sharedHome database field name).tagField = some field from rfl) rfl d
    rw [htags, Object.getD, hd, beq_iff_eq]
    exact ⟨fun h => (Value.text.inj h).symm, fun h => congrArg Value.text h.symm⟩
  rw [List.countP_congr hown]
  exact List.count_eq_one_of_mem hnames hmem

/-- **Every document belongs to the model that created it.**  Take any run of calls on a shared
    database that was empty, whatever their models, schemas and data, whether they ended well or
    failed.

    Every stored document has the stored name of the model that has created it for its tag.
    Whatever is called next, a document keeps its tag, or it has been created anew, and then it has
    its creator's.  And in any session, count for some models with different stored names, among
    which is the tag of every document: each count ends well, and together they are the number of
    documents.  (The page budget of the session has to exceed this number, which has to fit into a
    bookmark.) -/
theorem tags_name_creators {creator : String → Option String}
    (h : Run database field server creator) :
    (∀ id d, (server.database (.text database)).documents.get? id = some d →
      ∃ stored, creator id = some stored ∧ Object.get? d.fields field = some (.text stored)) ∧
    (∀ (s : Session) (model stored : String) (action : Action) (m m' : Memory)
        (result : Except Failure Value),
      s.Shares database field → s.schema.modelName (.text model) = .ok (.text stored) →
      m.server = server → (action.program s (.text model)).run Memory.backend m = (result, m') →
      ∀ id before after, (server.database (.text database)).documents.get? id = some before →
        (m'.server.database (.text database)).documents.get? id = some after →
        Object.get? after.fields field = Object.get? before.fields field ∨
          ∃ data select, action = .create data select ∧ after.revision ≠ before.revision ∧
            Object.get? after.fields field = some (.text stored)) ∧
    ∀ (s : Session) (models names : List String), s.Shares database field →
      1 ≤ s.settings.pageSize → (server.database (.text database)).documents.length < s.pageBudget →
      (server.database (.text database)).documents.length < 10 ^ Text.digitLimit →
      List.Forall₂ (fun model stored => s.schema.modelName (.text model) =
        .ok (.text stored)) models names →
      names.Nodup →
      (∀ id d stored, (server.database (.text database)).documents.get? id = some d →
        creator id = some stored → stored ∈ names) →
      ∃ counts : List Nat,
        List.Forall₂ (fun model (n : Nat) => ∀ m : Memory, server.Alike m.server →
          ∃ m', (s.count (.text model) .null).run Memory.backend m = (.ok (.int n), m') ∧
            server.Alike m'.server) models counts ∧
        counts.sum = (server.database (.text database)).documents.length := by
  have hsound := h.reached.isSound
  refine ⟨fun id d hd => h.tagged hfield hd, ?_, ?_⟩
  · rintro s model stored action m m' result hs hmodel rfl hrun id before after hbefore hafter
    rcases tag_of_action hfield hs hmodel hsound hrun hafter with
      ⟨before', hbefore', htag, -⟩ | ⟨data, select, haction, htag, hrevision⟩
    · obtain rfl := Option.some.inj (hbefore.symm.trans hbefore')
      exact .inl htag
    · rw [hbefore] at hrevision
      exact .inr ⟨data, select, haction, fun hsame => hrevision (congrArg some hsame.symm), htag⟩
  · intro s models names hs hsize hbudget hdigits hmodels hnames hcover
    refine ⟨names.map fun stored => (server.database (.text database)).documents.countP fun entry =>
      (sharedHome database field stored).isOwn entry.2, ?_, ?_⟩
    · exact List.forall₂_map_right_iff.2 (hmodels.imp fun _ _ hmodel m halike =>
        run_count_tagged hfield hs hsize hmodel hbudget hdigits halike)
    · refine sum_countP_eq_length _ _ _ fun entry hentry => ?_
      obtain ⟨id, d⟩ := entry
      have hd := (Table.mem_iff_get? (hsound (.text database)).ordered).1 hentry
      obtain ⟨stored, hcreator, htag⟩ := h.tagged hfield hd
      exact countP_isOwn database hnames (hcover id d stored hd hcreator) htag

end

/-- A user is created who claims to be a group, and a group, and then all users are made to claim
    it.  The user is still one, and counting users and groups gives both documents. -/
theorem tags_name_creators_after_claims :
    let m₁ := ((standard.create (.text "user")
      (.object [("id", .text "u1"), ("doc_type", .text "group")])
      .null).run Memory.backend (.start (.empty none .null))).2
    let m₂ :=
      ((standard.create (.text "group") (.object [("id", .text "g1")]) .null).run
        Memory.backend m₁).2
    let m₃ := ((standard.updateMany (.text "user") .null
      (.object [("doc_type", .text "group")])).run
      Memory.backend m₂).2
    (∃ d, (m₃.server.database (.text "app_auth")).documents.get? "u1" = some d ∧
      Object.get? d.fields "doc_type" = some (.text "user")) ∧
    ∃ users groups : Nat,
      (∃ m', (standard.count (.text "user") .null).run Memory.backend m₃ = (.ok (.int users), m')) ∧
      (∃ m', (standard.count (.text "group") .null).run Memory.backend m₃ =
        (.ok (.int groups), m')) ∧
      users + groups = 2 := by
  intro m₁ m₂ m₃
  have hfield : IsTagField "doc_type" := ⟨by decide, by decide, by decide, by decide, by decide⟩
  have hs : standard.Shares "app_auth" "doc_type" := ⟨rfl, rfl, rfl, rfl⟩
  have hrun : ∀ (model : String) (action : Action) (m : Memory),
      (action.program standard (.text model)).run Memory.backend m =
          (((action.program standard (.text model)).run Memory.backend m).1,
        ((action.program standard (.text model)).run Memory.backend m).2) := fun _ _ _ => rfl
  obtain ⟨creator, h, huser, hcreators⟩ : ∃ creator, Run "app_auth" "doc_type" m₃.server creator ∧
      creator "u1" = some "user" ∧ ∀ id stored, creator id = some stored →
        stored ∈ ["user", "group"] := by
    refine ⟨_, .step
      (.step (.step (.start (.empty none .null) rfl) hs rfl (hrun "user" (.create _ _) _)) hs rfl
        (hrun "group" (.create _ _) _)) hs rfl (hrun "user" (.command (.updateMany _ _)) _),
      by decide +kernel, ?_⟩
    intro id stored hcreator
    rcases Action.of_creator hcreator with rfl | hcreator
    · decide
    rcases Action.of_creator hcreator with rfl | hcreator
    · decide
    rcases Action.of_creator hcreator with rfl | hcreator
    · decide
    · cases hcreator
  obtain ⟨htagged, -, hcounts⟩ := tags_name_creators hfield h
  constructor
  · obtain ⟨d, hd⟩ : ∃ d, (m₃.server.database (.text "app_auth")).documents.get? "u1" = some d :=
      Option.isSome_iff_exists.1 (by decide +kernel)
    obtain ⟨stored, hcreator, htag⟩ := htagged "u1" d hd
    obtain rfl : "user" = stored := Option.some.inj (huser.symm.trans hcreator)
    exact ⟨d, hd, htag⟩
  · obtain ⟨counts, hcounted, hsum⟩ := hcounts standard ["user", "group"]
      ["user", "group"] hs (by decide)
      (by decide +kernel) (by decide +kernel) (.cons rfl (.cons rfl .nil)) (by decide)
      fun id _ stored _ => hcreators id stored
    obtain ⟨users, others, husers, hothers, rfl⟩ := List.forall₂_cons_left_iff.1 hcounted
    obtain ⟨groups, more, hgroups, hmore, rfl⟩ := List.forall₂_cons_left_iff.1 hothers
    obtain rfl := List.forall₂_nil_left_iff.1 hmore
    obtain ⟨m', hcount, -⟩ := husers m₃ (.refl _)
    obtain ⟨m'', hcount', -⟩ := hgroups m₃ (.refl _)
    have htwo : (m₃.server.database (.text "app_auth")).documents.length = 2 := by decide +kernel
    exact ⟨users, groups, ⟨m', hcount⟩, ⟨m'', hcount'⟩, by simpa [htwo] using hsum⟩

end Session

end DocStore
