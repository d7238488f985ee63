/-
  Models in one database do not see each other.

  In a shared database a document says by its tag to which model it belongs.  No operation of a
  model but `create` changes or removes a document of another, adds one, or returns anything made of
  another's.

  1. **Operations** — what an operation does, what documents it returns and what it makes of them
     (`Command`, `Stems`).

  2. **Each operation** — it spares the documents of the others, and what it returns stems from the
     model's own (`findOne_yields`, `update_yields` and so on).

  3. **All operations** (`models_isolated`) — so it is for every filter, whether the operation then
     ends well or fails.
-/
import DocStore.Proofs.Session.Sparing

namespace DocStore

open Program

namespace Session

variable {s : Session} {home : Home} {old : Server} {m : Memory} {name id : String}
  {selector : Value}

/-! ## Operations -/

/-- An operation of a model, other than creating a document. -/
inductive Command where
  | update (filter data : Value)
  | updateMany (filter data : Value)
  | delete (filter : Value)
  | deleteMany (filter : Value)
  | findOne (filter select : Value)
  | findMany (filter : Value) (paging : Paging) (select : Value)
  | count (filter : Value)

namespace Command

/-- What an operation does. -/
def program (s : Session) (model : Value) : Command → Program Value
  | .update filter data => s.update model filter data
  | .updateMany filter data => s.updateMany model filter data
  | .delete filter => s.delete model filter
  | .deleteMany filter => s.deleteMany model filter
  | .findOne filter select => s.findOne model filter select
  | .findMany filter paging select => s.findMany model filter paging select
  | .count filter => s.count model filter

/-- The documents in the result of an operation. -/
def returned : Command → Value → List Value
  | .update .., v => [v]
  | .findOne .., v => if v.isNull then [] else [v]
  | .findMany .., .list values => values
  | _, _ => []

/-- The fields that an operation is asked for. -/
def select : Command → Value
  | .findOne _ select => select
  | .findMany _ _ select => select
  | _ => .null

/-- What an operation makes of a document that it returns: an update overlays it with the changes,
    and no other operation makes anything of it. -/
def Derives (s : Session) (home : Home) (model : Value) : Command → Stored → Stored → Prop
  | .update _ data, before, after =>
    ∃ changes, s.changesOf home model data = .ok changes ∧ Overlaid changes before after
  | _, before, after => after = before

end Command

/-- Where a returned document comes from: it shows what is now stored in place of a document of the
    model's own. -/
def Stems (s : Session) (home : Home) (model select : Value) (Derives : Stored → Stored → Prop)
    (old new : Server) (value : Value) : Prop :=
  ∃ id before after, home.own? old id = some before ∧
    (new.database home.database).documents.get? id = some after ∧ Derives before after ∧
    s.output home model select (.object after.fields) = .ok value

variable {model : Value}

/-- What is shown of a document that was found stems from it. -/
theorem stems_of_found {new : Server} (h : home.Unwritten old new) {doc value select : Value}
    (hfound : home.Found old doc) (hvalue : s.output home model select doc = .ok value) :
    s.Stems home model select (fun before after => after = before) old new value := by
  obtain ⟨id, d, hd, rfl⟩ := hfound
  refine ⟨id, d, d, hd, ?_, rfl, hvalue⟩
  rw [h.2.documents home.database]
  exact (Home.own?_eq_some.1 hd).1

/-- As long as nothing is written, all is spared. -/
theorem spares_of_unwritten {α : Type} {p : Program α} {P : α → Server → Prop}
    (h : p.Yields (home.Unwritten old) P m) :
    p.Yields (home.Spares old) (fun a server => home.Unwritten old server ∧ P a server) m :=
  h.mono (fun _ h => h.1) fun _ _ hI hP => ⟨hI, hP⟩

/-- The home of the model is found, and nothing is written. -/
theorem home_yields
    (hhome : ∃ stored, s.schema.modelName model = .ok stored ∧ home = s.homeOf stored)
    (h : home.Unwritten old m.server) :
    (s.home model).Yields (home.Unwritten old) (fun found _ => home = found) m :=
  yields_home (home.stands_unwritten old) hhome h

/-- The selector of a filter is narrowed to the home. -/
theorem selector_yields {I : Server → Prop} (h : I m.server) (f : Filter) :
    (liftM (s.selector home f) : Program Value).Yields I
      (fun selector _ => ∃ unscoped, selector = home.scope unscoped) m := by
  refine yields_lift h fun selector hselector => ?_
  obtain ⟨unscoped, -, h⟩ := exists_of_bind_ok hselector
  exact ⟨unscoped, (Except.ok.inj h).symm⟩

/-- What a filter finds first is the model's own, also when it names a document. -/
theorem lookUp_yields (hagrees : home.Agrees) (h : home.Unwritten old m.server) (f : Filter) :
    (s.lookUp home model f).Yields (home.Unwritten old)
      (fun found _ => ∀ doc, found = some doc → home.Found old doc) m := by
  cases hnamed : f.identifier with
  | error e =>
    exact yields_of_run (run_lookUp_refused s home model hnamed m) h fun _ ha => by cases ha
  | ok named =>
    cases named with
    | some id =>
      obtain ⟨m', hrun, hserver⟩ := run_lookUp_named s home model hnamed m
      refine yields_of_run hrun (hserver ▸ h) fun found ha doc hdoc => ?_
      obtain rfl := Except.ok.inj ha
      obtain ⟨d, hd, rfl⟩ := Option.map_eq_some_iff.1 hdoc
      exact ⟨id, d, by rw [← Home.own?_of_alike h.2, hd], rfl⟩
    | none =>
      unfold lookUp
      refine yields_bind_lift hnamed
        (yields_bind (selector_yields h f) fun selector m₁ h₁ hscope => ?_)
      obtain ⟨unscoped, rfl⟩ := hscope
      refine yields_bind (yields_note s .findOne .debug _ h₁) fun _ m₂ h₂ _ => ?_
      refine yields_bind (yields_find hagrees rfl rfl h₂) fun page m₃ h₃ hpage => ?_
      exact yields_pure h₃ fun doc hdoc => hpage doc (List.mem_of_head? hdoc)

/-- One document is found, if any, and it is the model's own. -/
theorem findOne_yields
    (hhome : ∃ stored, s.schema.modelName model = .ok stored ∧ home = s.homeOf stored)
    (hagrees : home.Agrees) (h : home.Unwritten old m.server) (filter select : Value) :
    (s.findOne model filter select).Yields (home.Unwritten old) (fun v server =>
      ∀ value ∈ (Command.findOne filter select).returned v,
        s.Stems home model select (fun before after => after = before) old server value) m := by
  unfold findOne
  refine yields_bind (home_yields hhome h) fun _ m₁ h₁ hfound => ?_
  subst hfound
  refine yields_bind (P := fun _ _ => True) (yields_lift h₁ fun _ _ => trivial) fun f m₂ h₂ _ => ?_
  refine yields_bind (yields_guarded (lookUp_yields hagrees h₂ f) s _ _) fun found m₃ h₃ hdoc => ?_
  cases found with
  | none => exact yields_pure h₃ fun value hmem => absurd hmem List.not_mem_nil
  | some doc =>
    refine yields_lift h₃ fun v hv value hmem => ?_
    rw [Command.returned] at hmem
    split at hmem
    · cases hmem
    · rw [List.mem_singleton.1 hmem]
      exact stems_of_found h₃ (hdoc doc rfl) hv

/-- What is shown of a row is shown of each of its documents. -/
theorem mem_outputs {select value : Value} {docs values : List Value}
    (h : s.outputs home model select docs = .ok values) (hvalue : value ∈ values) :
    ∃ doc ∈ docs, s.output home model select doc = .ok value := by
  induction docs generalizing values with
  | nil =>
    obtain rfl := Except.ok.inj h
    cases hvalue
  | cons doc rest ih =>
    obtain ⟨first, hfirst, h⟩ := exists_of_bind_ok h
    obtain ⟨others, hothers, h⟩ := exists_of_bind_ok h
    obtain rfl := Except.ok.inj h
    rcases List.mem_cons.1 hvalue with rfl | hvalue
    · exact ⟨doc, List.mem_cons_self, hfirst⟩
    · obtain ⟨other, hother, houtput⟩ := ih hothers hvalue
      exact ⟨other, List.mem_cons_of_mem _ hother, houtput⟩

/-- All documents that are found are the model's own, whether the store orders and pages them or
    not. -/
theorem findMany_yields
    (hhome : ∃ stored, s.schema.modelName model = .ok stored ∧ home = s.homeOf stored)
    (hagrees : home.Agrees) (h : home.Unwritten old m.server) (filter : Value) (paging : Paging)
    (select : Value) :
    (s.findMany model filter paging select).Yields (home.Unwritten old) (fun v server =>
      ∀ value ∈ (Command.findMany filter paging select).returned v,
        s.Stems home model select (fun before after => after = before) old server value) m := by
  unfold findMany
  refine yields_bind (home_yields hhome h) fun _ m₁ h₁ hfound => ?_
  subst hfound
  refine yields_bind (P := fun _ _ => True) (yields_lift h₁ fun _ _ => trivial) fun f m₂ h₂ _ => ?_
  refine yields_bind (selector_yields h₂ f) fun _ m₃ h₃ hscope => ?_
  obtain ⟨unscoped, rfl⟩ := hscope
  refine yields_bind (P := fun _ _ => True) (yields_lift h₃ fun _ _ => trivial)
    fun keys m₄ h₄ _ => ?_
  refine yields_bind (P := fun _ _ => True) (yields_lift h₄ fun _ _ => trivial)
    fun sort m₅ h₅ _ => ?_
  refine yields_bind (yields_note s .findMany .debug _ h₅) fun _ m₆ h₆ _ => ?_
  refine yields_bind (P := fun docs _ => ∀ doc ∈ docs, home.Found old doc) (yields_guarded ?_ s _ _)
    fun docs m₇ h₇ hdocs => ?_
  · refine yields_bind (P := fun _ _ => True) (yields_lift h₆ fun _ _ =>
      trivial) fun quota m₇ h₇ _ => ?_
    refine yields_onRefusal (yields_collect s hagrees rfl rfl h₇) fun m₈ h₈ => ?_
    -- Without an index all matches are collected, and ordering and paging only leave some out.
    refine yields_bind (yields_note s .findMany .warning _ h₈) fun _ m₉ h₉ _ => ?_
    refine yields_bind (yields_collect s hagrees rfl rfl h₉) fun all m₁₀ h₁₀ hall => ?_
    refine yields_bind (P := fun ordered _ => ∀ doc ∈ ordered, home.Found old doc)
      (yields_lift h₁₀ fun ordered hordered doc hdoc =>
        hall doc ((orderDocuments_perm hordered).mem_iff.1 hdoc)) fun ordered m₁₁ h₁₁ hordered => ?_
    exact yields_lift h₁₁ fun page hpage doc hdoc => hordered doc (mem_of_mem_pageOf hpage hdoc)
  · refine yields_bind (P := fun values _ => s.outputs home model select docs = .ok values)
      (yields_lift h₇ fun _ hvalues => hvalues) fun values m₈ h₈ hvalues => ?_
    refine yields_pure h₈ fun value hmem => ?_
    obtain ⟨doc, hdoc, hvalue⟩ := mem_outputs hvalues hmem
    exact stems_of_found h₈ (hdocs doc hdoc) hvalue

/-- Counting writes nothing. -/
theorem count_yields
    (hhome : ∃ stored, s.schema.modelName model = .ok stored ∧ home = s.homeOf stored)
    (h : home.Unwritten old m.server) (filter : Value) :
    (s.count model filter).Yields (home.Unwritten old) (fun _ _ => True) m := by
  unfold count
  refine yields_bind (home_yields hhome h) fun _ m₁ h₁ hfound => ?_
  subst hfound
  refine yields_bind (P := fun _ _ => True) (yields_lift h₁ fun _ _ => trivial) fun f m₂ h₂ _ => ?_
  refine yields_bind (selector_yields h₂ f) fun selector m₃ h₃ _ => ?_
  refine yields_bind (P := fun _ _ => True) (yields_guarded ?_ s _ _) fun total m₄ h₄ _ =>
    yields_pure h₄ trivial
  refine visit_yields (A := fun _ => True) (Q := fun _ => True) ?_ ?_ _ _ _ _ m₃ h₃ trivial
  · intro query m₄ _ _ h₄
    have hreading : Request.IsReading (.find home.database query) := rfl
    exact (yields_send (home.stands_unwritten old) hreading h₄).mono (fun _ h => h)
      fun _ _ _ _ _ _ => trivial
  · intro total docs m₄ h₄ _ _
    exact yields_bind (yields_note s .count .debug _ h₄) fun _ m₅ h₅ _ => yields_pure h₅ trivial

/-- What is deleted is the model's own. -/
theorem delete_yields
    (hhome : ∃ stored, s.schema.modelName model = .ok stored ∧ home = s.homeOf stored)
    (hname : home.database = .text name) (h : home.Unwritten old m.server) (filter : Value) :
    (s.delete model filter).Yields (home.Spares old) (fun _ _ => True) m := by
  unfold delete
  refine yields_bind (spares_of_unwritten (home_yields hhome h)) fun _ m₁ _ hfound => ?_
  obtain ⟨h₁, hfound⟩ := hfound
  subst hfound
  refine yields_bind (P := fun _ server => home.Unwritten old server)
    (yields_lift h₁.1 fun _ _ => h₁) fun f m₂ _ h₂ => ?_
  refine yields_bind (P := fun _ _ => True) (yields_guarded ?_ s _ _) fun removed m₃ h₃ _ => ?_
  · refine yields_bind (spares_of_unwritten
      (yields_of_within (home.stands_unwritten old) (target_within s home f) h₂))
      fun target m₃ h₃ _ => ?_
    cases target with
    | none =>
      exact yields_bind (yields_note s .delete .debug _ h₃) fun _ m₄ h₄ _ => yields_pure h₄ trivial
    | some id =>
      refine yields_bind (yields_onRefusal (remove_yields hname h₃ id) fun m₄ h₄ => ?_)
        fun removed m₄ h₄ _ => yields_pure h₄ trivial
      exact yields_bind (yields_note s .delete .debug _ h₄) fun _ m₅ h₅ _ => yields_pure h₅ trivial
  · cases removed with
    | none => exact yields_pure h₃ trivial
    | some id =>
      exact yields_bind (yields_note s .delete .debug _ h₃) fun _ m₄ h₄ _ => yields_pure h₄ trivial

/-- What a removal of all matches removes is the model's own. -/
theorem deleteMany_yields
    (hhome : ∃ stored, s.schema.modelName model = .ok stored ∧ home = s.homeOf stored)
    (hagrees : home.Agrees) (hold : old.IsSound) (hname : home.database = .text name)
    (h : home.Unwritten old m.server) (filter : Value) :
    (s.deleteMany model filter).Yields (home.Spares old) (fun _ _ => True) m := by
  unfold deleteMany
  refine yields_bind (spares_of_unwritten (home_yields hhome h)) fun _ m₁ _ hfound => ?_
  obtain ⟨h₁, hfound⟩ := hfound
  subst hfound
  refine yields_bind (P := fun _ server => home.Unwritten old server)
    (yields_lift h₁.1 fun _ _ => h₁) fun f m₂ _ h₂ => ?_
  refine yields_bind (spares_of_unwritten (selector_yields h₂ f)) fun _ m₃ _ hscope => ?_
  obtain ⟨h₃, unscoped, rfl⟩ := hscope
  refine yields_bind (spares_of_unwritten (yields_note s .deleteMany .debug _ h₃))
    fun _ m₄ _ hwritten => ?_
  refine yields_bind (P := fun _ _ => True) (yields_guarded ?_ s _ _) fun count m₅ h₅ _ => ?_
  · refine yields_bind (spares_of_unwritten (yields_collect s hagrees rfl rfl hwritten.1))
      fun docs m₅ h₅ hdocs => ?_
    exact removeAll_yields hold hname docs 0 m₅ h₅ hdocs.2
  · exact yields_bind (yields_note s .deleteMany .debug _ h₅) fun _ m₆ h₆ _ =>
      yields_pure h₆ trivial

/-- Every operation spares what is foreign, and what it returns stems from the model's own. -/
theorem command_yields
    (hhome : ∃ stored, s.schema.modelName model = .ok stored ∧ home = s.homeOf stored)
    (hagrees : home.Agrees) (hm : m.server.IsSound) (hname : home.database = .text name)
    (command : Command) :
    (command.program s model).Yields (home.Spares m.server) (fun v server =>
      ∀ value ∈ command.returned v,
        s.Stems home model command.select
          (command.Derives s home model) m.server server value) m := by
  have h : home.Unwritten m.server m.server := ⟨.refl hm, .refl m.server⟩
  cases command with
  | update filter data =>
    refine (update_yields (invariant_spares s home model data m.server) hhome hname h.1 filter).mono
      (fun _ h => h) fun v server _ hupdated value hmem => ?_
    obtain ⟨changes, id, before, after, hchanges, hbefore, hafter, hnew, hv⟩ := hupdated
    rw [List.mem_singleton.1 hmem]
    exact ⟨id, before, after, hbefore, hafter, ⟨changes, hchanges, hnew⟩, hv⟩
  | updateMany filter data =>
    have hyields :=
      updateMany_yields (invariant_spares s home model data m.server) hhome hname h.1 filter
    exact hyields.mono (fun _ h => h) fun v _ _ hupdated value hmem => by
        obtain ⟨ids, rfl, -⟩ := hupdated
        cases hmem
  | delete filter =>
    exact (delete_yields hhome hname h filter).mono (fun _ h => h)
      fun v _ _ _ value hmem => by cases v <;> cases hmem
  | deleteMany filter =>
    exact (deleteMany_yields hhome hagrees hm hname h filter).mono (fun _ h => h)
      fun v _ _ _ value hmem => by cases v <;> cases hmem
  | findOne filter select =>
    exact (findOne_yields hhome hagrees h filter select).mono (fun _ h => h.1) fun _ _ _ h => h
  | findMany filter paging select =>
    exact (findMany_yields hhome hagrees h filter paging select).mono
      (fun _ h => h.1) fun _ _ _ h => h
  | count filter =>
    exact (count_yields hhome h filter).mono (fun _ h => h.1)
      fun v _ _ _ value hmem => by cases v <;> cases hmem

/-- A document is the model's own when it carries the stored name of the model. -/
theorem isOwn_iff {field stored : String} (hfield : home.tagField = some field)
    (hmodel : home.model = .text stored) (d : Stored) :
    home.isOwn d = true ↔ Object.getD d.fields field = home.model := by
  rw [Home.isOwn, hfield, hmodel]
  exact Entries.same_text_iff

/-- **Models are isolated.**  In a shared database whose tag field has no dot in it and is none of
    the keys that combine selectors, take any operation of a model but creating, with any filter,
    and its run to the end, good or bad.  Every document that does not carry the stored name of the
    model is stored afterwards as it was, its revision included; none has been added; and every
    document returned shows what is now stored in place of one that carried that name: the same, or
    what an update has made of it. -/
theorem models_isolated (hs : s.schema.isTyped = true) (hm : m.server.Reached) {model : String}
    (hhome : ∃ stored, s.schema.modelName (.text model) = .ok stored ∧ home = s.homeOf stored)
    {field : String} (hfield : home.tagField = some field) (hdot : '.' ∉ field.toList)
    (hkey : Selector.isCombinator field = false) (command : Command) {result : Except Failure Value}
    {m' : Memory} (hrun : (command.program s (.text model)).run Memory.backend m = (result, m')) :
    (∀ database id d, (m.server.database database).documents.get? id = some d →
      Object.getD d.fields field ≠ home.model →
      (m'.server.database database).documents.get? id = some d) ∧
    (∀ database id d, (m'.server.database database).documents.get? id = some d →
      ∃ before, (m.server.database database).documents.get? id = some before) ∧
    ∀ v, result = .ok v → ∀ value ∈ command.returned v, ∃ id before after,
      (m.server.database home.database).documents.get? id = some before ∧
      Object.getD before.fields field = home.model ∧
      (m'.server.database home.database).documents.get? id = some after ∧
      command.Derives s home (.text model) before after ∧
      s.output home (.text model) command.select (.object after.fields) = .ok value := by
  obtain ⟨stored, name, hmodel, hname⟩ := home_names hs hhome
  have hagrees : home.Agrees := by
    refine Home.agrees_of_separate ⟨stored, hmodel⟩ fun other hother => ?_
    obtain rfl : field = other := Option.some.inj (hfield.symm.trans hother)
    exact ⟨hdot, hkey⟩
  obtain ⟨hspares, hstems⟩ := command_yields hhome hagrees hm.isSound hname command
  rw [hrun] at hspares hstems
  refine ⟨fun database id d hd htag => ?_, hspares.known, fun v hv value hmem => ?_⟩
  · refine hspares.foreign database id d hd ?_
    rw [← Bool.not_eq_true, isOwn_iff hfield hmodel]
    exact htag
  · obtain ⟨id, before, after, hbefore, hrest⟩ := hstems v hv value hmem
    obtain ⟨hstored, hown⟩ := Home.own?_eq_some.1 hbefore
    exact ⟨id, before, after, hstored, (isOwn_iff hfield hmodel before).1 hown, hrest⟩

/-- Deleting, among users, whatever is called `u1` or `g1` deletes the user, and leaves the group of
    that name as it was. -/
theorem models_isolated_from_choice :
    let m := Memory.start (Server.serveAll
      [.insert (.text "app_auth") [("_id", .text "u1"), ("doc_type", .text "user")],
        .insert (.text "app_auth") [("_id", .text "g1"), ("doc_type", .text "group")]]
          (.empty none .null))
    let filter : Value := .group .or [.condition (.text "id") (.text "u1") (.known .eq) .and,
      .condition (.text "id") (.text "g1") (.known .eq) .and]
    let m' := (((Command.deleteMany filter).program standard (.text "user")).run Memory.backend m).2
    ((m'.server.database (.text "app_auth")).documents.get? "u1").isNone = true ∧
      ∃ d, (m.server.database (.text "app_auth")).documents.get? "g1" = some d ∧
        (m'.server.database (.text "app_auth")).documents.get? "g1" = some d := by
  intro m filter m'
  have hm : m.server.Reached := .serve _ (.serve _ (.empty none .null))
  have hhome := home_standard "user"
  have hrun : ((Command.deleteMany filter).program standard (.text "user")).run Memory.backend m =
      ((((Command.deleteMany filter).program standard (.text "user")).run Memory.backend m).1,
        m') := rfl
  obtain ⟨hforeign, -, -⟩ := models_isolated (s := standard) rfl hm hhome rfl
    (by decide) (by decide) (.deleteMany filter) hrun
  have hgroup : ((m.server.database (.text "app_auth")).documents.get? "g1").map
      (standard.homeOf (.text "user")).isOwn = some false := by decide +kernel
  obtain ⟨d, hd, hown⟩ := Option.map_eq_some_iff.1 hgroup
  refine ⟨by decide +kernel, d, hd, hforeign _ _ _ hd fun htag => ?_⟩
  rw [(isOwn_iff rfl rfl d).2 htag] at hown
  cases hown

end Session

end DocStore
