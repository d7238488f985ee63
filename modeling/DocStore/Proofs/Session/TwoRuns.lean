/-
  Reading does not depend on what other models have stored.

  Two states of a shared database may hold the same documents of a model and anything else of the
  others.  What the model reads of the one is what it reads of the other.  This relates two runs, so
  it says more than that no foreign document is returned: the foreign ones must not shift a page, an
  order or a bookmark either, nor make an operation fail.

  1. **Twins** — two servers that a model should not be able to tell apart (`Home.Twins`).  Left
     with its own documents only, their databases are the same table (`Twins.own_documents`).

  2. **Agreeing** — two runs of one program agree when they come to the same and leave twins
     (`Program.Agrees`).  A query for the model's own documents is answered alike by twins, whatever
     its order, bounds and bookmark are, and a program that asks nothing else agrees
     (`agrees_of_asks`).  Looking up an identifier is no such program, because what is got may be
     foreign: there the answers differ, and only what is made of them is the same.

  3. **Reading** (`reads_alike`) — so one match, all matches and their number are the same, for all
     bounds, page sizes and page budgets, also where reading fails.

  The condition is on the fields of the filter.  A selector is evaluated on a foreign document
  before the tag is looked at, because narrowing puts the tag last.  Of a filter that names a field
  by one of the four keys that combine selectors the evaluation may fail, and then whether anything
  foreign is stored decides whether the operation fails (`foreign_seen_by_combinator`).
-/
import DocStore.Proofs.Filter.Refusal
import DocStore.Proofs.Session.FirstMatch

namespace DocStore

open Program

/-! ## Twins -/

namespace Home

/-- Two servers that hold the same documents of a model, and sort by the same fields. -/
structure Twins (home : Home) (first second : Server) : Prop where
  own : ∀ id, home.own? first id = home.own? second id
  sortable : first.sortable = second.sortable
  ordered : (first.database home.database).documents.Ordered
  ordered' : (second.database home.database).documents.Ordered

/-- Two sessions, each with one of two twins. -/
abbrev TwinStates (home : Home) (m m' : Memory) : Prop := home.Twins m.server m'.server

variable {home : Home} {first second : Server}

/-- Twins stay twins when they are read. -/
theorem Twins.of_alike (h : home.Twins first second) {first' second' : Server}
    (hfirst : first.Alike first') (hsecond : second.Alike second') : home.Twins first' second' where
  own := by
    intro id
    rw [own?_of_alike hfirst, own?_of_alike hsecond, h.own]
  sortable := by rw [hfirst.sortable, hsecond.sortable, h.sortable]
  ordered := by
    rw [hfirst.documents]
    exact h.ordered
  ordered' := by
    rw [hsecond.documents]
    exact h.ordered'

/-- What a session has noted and opened makes no difference. -/
theorem Twins.of_server {m m' n n' : Memory} (h : home.TwinStates m m') (hn : n.server = m.server)
    (hn' : n'.server = m'.server) : home.TwinStates n n' := by
  show home.Twins n.server n'.server
  rwa [hn, hn']

/-- Of the documents of twins the same ones are the model's own. -/
theorem Twins.own_documents (h : home.Twins first second) :
    ((first.database home.database).documents.filter fun entry => home.isOwn entry.2) =
      (second.database home.database).documents.filter fun entry => home.isOwn entry.2 := by
  refine Table.Ordered.ext (List.Pairwise.filter _ h.ordered) (List.Pairwise.filter _ h.ordered') ?_
  intro id
  rw [Table.get?_filter h.ordered, Table.get?_filter h.ordered']
  exact h.own id

end Home

/-! ## Agreeing -/

namespace Program

variable {α β : Type} {σ : Type}

/-- Two runs of one program come to the same and leave related states. -/
def Agrees (R : Memory → Memory → Prop) (p : Program α) (first second : Memory) : Prop :=
  (p.run Memory.backend first).1 = (p.run Memory.backend second).1 ∧
    R (p.run Memory.backend first).2 (p.run Memory.backend second).2

variable {R : Memory → Memory → Prop} {first second : Memory}

/-- What is known of two runs. -/
theorem agrees_of_runs {p : Program α} {result : Except Failure α} {first' second' : Memory}
    (hfirst : p.run Memory.backend first = (result, first'))
    (hsecond : p.run Memory.backend second = (result, second')) (h : R first' second') :
    p.Agrees R first second := by
  rw [Agrees, hfirst, hsecond]
  exact ⟨rfl, h⟩

theorem agrees_bind {p : Program α} {f : α → Program β} (hp : p.Agrees R first second)
    (hf : ∀ a first' second', (p.run Memory.backend first).1 = .ok a → R first' second' →
      (f a).Agrees R first' second') : (p >>= f).Agrees R first second := by
  obtain ⟨hsame, hnext⟩ := hp
  rcases hrun : p.run Memory.backend first with ⟨e | a, first'⟩
  · rcases hrun' : p.run Memory.backend second with ⟨result, second'⟩
    rw [hrun, hrun'] at hsame hnext
    obtain rfl : .error e = result := hsame
    exact agrees_of_runs (run_bind_error hrun) (run_bind_error hrun') hnext
  · rcases hrun' : p.run Memory.backend second with ⟨result, second'⟩
    rw [hrun, hrun'] at hsame hnext
    obtain rfl : .ok a = result := hsame
    rw [Agrees, run_bind_ok hrun, run_bind_ok hrun']
    exact hf a first' second' (by rw [hrun]) hnext

/-- A result that is there or not, whatever is stored. -/
theorem agrees_lift (result : Except Failure α) (h : R first second) :
    (liftM result : Program α).Agrees R first second :=
  agrees_of_runs (run_liftM _ _ _) (run_liftM _ _ _) h

end Program

/-! ## Asking for the model's own documents -/

/-- Where the same documents match, a query with a limit is answered alike. -/
theorem Database.answerQuery_congr {docs docs' : List Value} {query : Query}
    (h : matching query.selector docs = matching query.selector docs')
    (hlimit : query.limit.isNull = false) (sortable : Option (List Value))
    (defaultLimit defaultLimit' : Value) :
    answerQuery docs sortable defaultLimit query =
      answerQuery docs' sortable defaultLimit' query := by
  rw [answerQuery, answerQuery, h, hlimit]
  rfl

namespace Session

variable {s : Session} {home : Home} {first second : Memory}

/-- The requests by which a model reads its own documents: queries with a limit, for the selector of
    a filter whose conditions name fields. -/
def Asks (s : Session) (home : Home) (request : Request) : Prop :=
  ∃ query f, request = .find home.database query ∧ query.limit.isNull = false ∧
    s.selector home f = .ok query.selector ∧ ∀ c ∈ f.leaves, c.isNamed = true

/-- What matches the selector of a filter whose conditions name fields depends on the model's own
    documents alone. -/
theorem matching_own (hagrees : home.Agrees) (hmodel : ∃ stored, home.model = .text stored)
    (hkey : s.idKey = .text "_id")
    (htag : ∀ field, home.tagField = some field → Selector.isCombinator field = false)
    {f : Filter} {selector : Value} (hnamed : ∀ c ∈ f.leaves, c.isNamed = true)
    (hselector : s.selector home f = .ok selector) :
    ∃ accepts : Value → Bool, ∀ db : Database, Database.matching selector db.contents =
      .ok (((db.documents.filter fun entry => home.isOwn entry.2).map fun entry =>
        Value.object entry.2.fields).filter accepts) := by
  have hcombinator : Selector.isCombinator "_id" = false := by decide
  obtain ⟨unscoped, hunscoped, hscope⟩ := exists_of_bind_ok hselector
  have hplain : f.isPlain = true := f.isPlain_of_selector hnamed hunscoped
  obtain ⟨compiled, hcompiled, htest⟩ := Filter.selector_means hcombinator f hplain
  rw [hkey, hcompiled] at hunscoped
  obtain rfl := Except.ok.inj hunscoped
  obtain rfl := Except.ok.inj hscope
  refine ⟨fun doc => f.holds "_id" doc, fun db => ?_⟩
  have htold : ∀ doc ∈ db.contents, ∃ answer,
      Selector.test (home.scope compiled) doc = .ok answer :=
    fun doc _ => told_of_isPlain hplain hkey hcombinator htag hmodel hselector doc
  have haccepts : ∀ entry : String × Stored,
      Selector.accepts (home.scope compiled) (.object entry.2.fields) =
        (home.isOwn entry.2 && f.holds "_id" (.object entry.2.fields)) := by
    intro entry
    rw [Bool.eq_iff_iff, Selector.accepts_iff, hagrees compiled entry.2.fields _ (htest _),
      home.owns_stored, Bool.and_eq_true, Except.ok.injEq, and_comm]
  rw [Database.matching_eq htold, Database.contents, List.filter_map, List.filter_map,
    List.filter_filter]
  congr 2
  refine List.filter_congr fun entry _ => ?_
  exact (haccepts entry).trans (Bool.and_comm _ _)

/-- **Twins answer alike** what a model asks for its own documents. -/
theorem answer_alike (hagrees : home.Agrees) (hmodel : ∃ stored, home.model = .text stored)
    (hkey : s.idKey = .text "_id")
    (htag : ∀ field, home.tagField = some field → Selector.isCombinator field = false)
    {request : Request} (hasks : s.Asks home request) (h : home.TwinStates first second) :
    (Memory.answer request first).1 = (Memory.answer request second).1 ∧
      home.TwinStates (Memory.answer request first).2 (Memory.answer request second).2 := by
  obtain ⟨query, f, rfl, hlimit, hselector, hnamed⟩ := hasks
  obtain ⟨accepts, hmatching⟩ := matching_own hagrees hmodel hkey htag hnamed hselector
  constructor
  · show Database.answerQuery _ first.server.sortable _ query =
      Database.answerQuery _ second.server.sortable _ query
    rw [h.sortable]
    refine Database.answerQuery_congr ?_ hlimit _ _ _
    rw [hmatching, hmatching, h.own_documents]
  · show home.Twins (Memory.answer _ first).2.server (Memory.answer _ second).2.server
    rw [Memory.answer_server, Memory.answer_server]
    have hreading : Request.IsReading (.find home.database query) := rfl
    exact h.of_alike (Server.alike_of_reading hreading _) (Server.alike_of_reading hreading _)

/-- A program that asks for the model's own documents only agrees. -/
theorem agrees_of_asks (hagrees : home.Agrees) (hmodel : ∃ stored, home.model = .text stored)
    (hkey : s.idKey = .text "_id")
    (htag : ∀ field, home.tagField = some field → Selector.isCombinator field = false)
    {α : Type} {p : Program α} {P : α → Prop} (hp : p.Within (s.Asks home) P)
    (h : home.TwinStates first second) :
    p.Agrees home.TwinStates first second :=
  hp.run_lockstep (R := home.TwinStates) (fun _ _ _ h => h)
    (fun _ _ _ hasks h => answer_alike hagrees hmodel hkey htag hasks h) h

/-! ## Scans -/

/-- No quota leaves the limit to the store. -/
theorem request_isNull (pageSize : Int) (quota : Quota) :
    (quota.request pageSize).isNull = false := by
  cases quota with
  | unlimited => rfl
  | whole n => rfl
  | switch on =>
    rw [Quota.request]
    split_ifs <;> rfl
  | fraction d =>
    rw [Quota.request]
    split_ifs <;> rfl

/-- Diagnostic entries send nothing. -/
theorem note_within {allowed : Request → Prop} (s : Session) (op : Operation) (level : Level)
    (message : String) : (s.note op level message).Within allowed fun _ => True := by
  rw [note, Program.noteIf]
  split
  · exact within_note _ _ _
  · exact within_pure trivial

/-- A guard sends nothing. -/
theorem within_guarded {α : Type} {allowed : Request → Prop} {P : α → Prop} {p : Program α}
    (hp : p.Within allowed P) (s : Session) (op : Operation) (model : Value) :
    (s.guarded op model p).Within allowed P := by
  refine within_handle hp fun e => ?_
  split
  · exact within_bind (note_within s op .error _) fun _ _ => within_fail e
  · exact within_fail e

/-- A scan asks for its selector, and sends what its step sends. -/
theorem eachPage_within {β : Type} {allowed : Request → Prop} {scan : Scan}
    {step : β → List Value → Program β} {database : Value}
    (hstep : ∀ acc docs, (step acc docs).Within allowed fun _ => True)
      (hfind : ∀ query : Query, query.selector = scan.selector → query.limit.isNull = false →
      allowed (.find database query)) (acc : β) :
    (s.eachPage database scan step acc).Within allowed fun _ => True := by
  have hvisit : ∀ (fuel : Nat) (remaining : Quota) (bookmark : Value) (acc : β),
      (Scan.visit database s.settings.pageSize scan step fuel remaining bookmark acc).Within allowed
        fun _ => True := by
    intro fuel
    induction fuel with
    | zero =>
      intro remaining bookmark acc
      rw [Scan.visit]
      split
      · exact within_pure trivial
      · exact within_fail _
    | succ fuel ih =>
      intro remaining bookmark acc
      rw [Scan.visit]
      split
      · exact within_pure trivial
      · refine within_bind (P := fun _ => True)
          (within_send (hfind _ rfl (request_isNull _ _)) fun _ => trivial) fun page _ => ?_
        split
        · exact within_pure trivial
        · refine within_bind (P := fun _ => True) (hstep _ _) fun acc _ => ?_
          split
          · exact ih _ _ _
          · exact within_pure trivial
  exact hvisit _ _ _ _

/-! ## Reading -/

variable {model : String} {filter : Value} {f : Filter}

/-- The home of a model is found in both runs. -/
theorem home_agrees (hs : s.schema.isTyped = true)
    (hhome : ∃ stored, s.schema.modelName (.text model) = .ok stored ∧ home = s.homeOf stored)
    (h : home.TwinStates first second) :
    (s.home (.text model)).Agrees home.TwinStates first second := by
  obtain ⟨first', hrun, halike⟩ := run_home hs model hhome first
  obtain ⟨second', hrun', halike'⟩ := run_home hs model hhome second
  exact agrees_of_runs hrun hrun' (h.of_alike halike halike')

/-- What is made of the home of a model agrees, if it does for the home that there is. -/
theorem agrees_home_bind (hs : s.schema.isTyped = true)
    (hhome : ∃ stored, s.schema.modelName (.text model) = .ok stored ∧ home = s.homeOf stored)
    {α : Type} {rest : Home → Program α}
    (hrest : ∀ first second : Memory, home.TwinStates first second →
      (rest home).Agrees home.TwinStates first second)
    (h : home.TwinStates first second) :
    (s.home (.text model) >>= rest).Agrees home.TwinStates first second := by
  refine agrees_bind (home_agrees hs hhome h) fun found first' second' hfound h' => ?_
  obtain ⟨stored, hstored, rfl⟩ := hhome
  obtain ⟨other, hother, rfl⟩ := (s.home_within (.text model)).of_run hfound
  obtain rfl := Except.ok.inj (hstored.symm.trans hother)
  exact hrest first' second' h'

/-- A guard changes nothing of two runs that agree. -/
theorem agrees_guarded {α : Type} {p : Program α}
    (h : p.Agrees home.TwinStates first second) (op : Operation) (about : Value) :
    (s.guarded op about p).Agrees home.TwinStates first second := by
  obtain ⟨hsame, htwins⟩ := h
  obtain ⟨first', hrun, hserver⟩ := run_guarded_alone (p := p) (m := first) rfl s op about
  obtain ⟨second', hrun', hserver'⟩ := run_guarded_alone (p := p) (m := second) rfl s op about
  rw [← hsame] at hrun'
  exact agrees_of_runs hrun hrun' (Home.Twins.of_server htwins hserver hserver')

/-- What a filter finds first is the same: if it names an identifier, the document under it is the
    model's own in both or in neither. -/
theorem lookUp_agrees (hagrees : home.Agrees) (hmodel : ∃ stored, home.model = .text stored)
    (hkey : s.idKey = .text "_id")
    (htag : ∀ field, home.tagField = some field → Selector.isCombinator field = false)
    (about : Value) (hnamed : ∀ c ∈ f.leaves, c.isNamed = true) (h : home.TwinStates first second) :
    (s.lookUp home about f).Agrees home.TwinStates first second := by
  cases hid : f.identifier with
  | error e =>
    exact agrees_of_runs (run_lookUp_refused s home about hid first)
      (run_lookUp_refused s home about hid second) h
  | ok named =>
    cases named with
    | some id =>
      obtain ⟨first', hrun, hserver⟩ := run_lookUp_named s home about hid first
      obtain ⟨second', hrun', hserver'⟩ := run_lookUp_named s home about hid second
      rw [← h.own id] at hrun'
      exact agrees_of_runs hrun hrun' (Home.Twins.of_server h hserver hserver')
    | none =>
      refine agrees_of_asks (P := fun _ => True) hagrees hmodel hkey htag ?_ h
      unfold lookUp
      refine within_bind (P := fun named => named = none) (within_lift fun named hnamed => ?_) ?_
      · exact Except.ok.inj (hnamed.symm.trans hid)
      rintro _ rfl
      refine within_bind (within_lift fun _ hselector => hselector) fun selector hselector => ?_
      refine within_bind (note_within s .findOne .debug _) fun _ _ => ?_
      refine within_bind (P := fun _ => True) (within_send ?_ fun _ => trivial) fun _ _ =>
        within_pure trivial
      exact ⟨firstOnly selector, f, rfl, rfl, hselector, hnamed⟩

/-- One match is the same. -/
theorem findOne_agrees (hs : s.schema.isTyped = true) (hkey : s.idKey = .text "_id")
    (hhome : ∃ stored, s.schema.modelName (.text model) = .ok stored ∧ home = s.homeOf stored)
    (hagrees : home.Agrees) (hmodel : ∃ stored, home.model = .text stored)
    (htag : ∀ field, home.tagField = some field → Selector.isCombinator field = false)
    (hfilter : ∀ f, s.schema.filter (.text model) filter = .ok f → ∀ c ∈ f.leaves, c.isNamed = true)
    (select : Value) (h : home.TwinStates first second) :
    (s.findOne (.text model) filter select).Agrees home.TwinStates first second := by
  unfold findOne
  refine agrees_home_bind hs hhome (fun first second h => ?_) h
  refine agrees_bind (agrees_lift _ h) fun f first₁ second₁ hf h₁ => ?_
  rw [run_liftM] at hf
  have hlookUp := lookUp_agrees hagrees hmodel hkey htag (.text model) (hfilter f hf) h₁
  refine agrees_bind (agrees_guarded hlookUp .findOne (.text model))
    fun found first₂ second₂ _ h₂ => ?_
  cases found with
  | none => exact agrees_of_runs rfl rfl h₂
  | some doc => exact agrees_lift _ h₂

/-- A page of the matches is the same. -/
theorem findMany_agrees (hs : s.schema.isTyped = true) (hkey : s.idKey = .text "_id")
    (hhome : ∃ stored, s.schema.modelName (.text model) = .ok stored ∧ home = s.homeOf stored)
    (hagrees : home.Agrees) (hmodel : ∃ stored, home.model = .text stored)
    (htag : ∀ field, home.tagField = some field → Selector.isCombinator field = false)
    (hfilter : ∀ f, s.schema.filter (.text model) filter = .ok f → ∀ c ∈ f.leaves, c.isNamed = true)
    (paging : Paging) (select : Value) (h : home.TwinStates first second) :
    (s.findMany (.text model) filter paging select).Agrees home.TwinStates first second := by
  unfold findMany
  refine agrees_home_bind hs hhome (fun first second h => ?_) h
  refine agrees_of_asks (P := fun _ => True) hagrees hmodel hkey htag ?_ h
  refine within_bind (within_lift fun _ hf => hf) fun f hf => ?_
  refine within_bind (within_lift fun _ hselector => hselector) fun selector hselector => ?_
  -- Both the served scan and the one that fetches everything ask for the one selector.
  have hcollect : ∀ scan : Scan, scan.selector = selector →
      (s.collect home.database scan).Within (s.Asks home) fun _ => True := by
    intro scan hscan
    refine eachPage_within (fun _ _ => within_pure trivial) (fun query hquery hlimit => ?_) _
    exact ⟨query, f, rfl, hlimit, by rw [hquery, hscan]; exact hselector, hfilter f hf⟩
  refine within_bind (P := fun _ => True) (within_lift fun _ _ => trivial) fun keys _ => ?_
  refine within_bind (P := fun _ => True) (within_lift fun _ _ => trivial) fun sort _ => ?_
  refine within_bind (note_within s .findMany .debug _) fun _ _ => ?_
  refine within_bind (P := fun _ => True) (within_guarded ?_ s _ _) fun docs _ => ?_
  · refine within_bind (P := fun _ => True) (within_lift fun _ _ => trivial) fun quota _ => ?_
    refine within_onRefusal (hcollect _ rfl) ?_
    refine within_bind (note_within s .findMany .warning _) fun _ _ => ?_
    refine within_bind (hcollect _ rfl) fun all _ => ?_
    refine within_bind (P := fun _ => True) (within_lift fun _ _ => trivial) fun ordered _ => ?_
    exact within_lift fun _ _ => trivial
  · refine within_bind (P := fun _ => True) (within_lift fun _ _ => trivial) fun values _ => ?_
    exact within_pure trivial

/-- The number of matches is the same. -/
theorem count_agrees (hs : s.schema.isTyped = true) (hkey : s.idKey = .text "_id")
    (hhome : ∃ stored, s.schema.modelName (.text model) = .ok stored ∧ home = s.homeOf stored)
    (hagrees : home.Agrees) (hmodel : ∃ stored, home.model = .text stored)
    (htag : ∀ field, home.tagField = some field → Selector.isCombinator field = false)
    (hfilter : ∀ f, s.schema.filter (.text model) filter = .ok f → ∀ c ∈ f.leaves, c.isNamed = true)
    (h : home.TwinStates first second) :
    (s.count (.text model) filter).Agrees home.TwinStates first second := by
  unfold count
  refine agrees_home_bind hs hhome (fun first second h => ?_) h
  refine agrees_of_asks (P := fun _ => True) hagrees hmodel hkey htag ?_ h
  refine within_bind (within_lift fun _ hf => hf) fun f hf => ?_
  refine within_bind (within_lift fun _ hselector => hselector) fun selector hselector => ?_
  refine within_bind (P := fun _ => True) (within_guarded ?_ s _ _) fun total _ =>
    within_pure trivial
  refine eachPage_within (fun total docs => ?_) (fun query hquery hlimit => ?_) _
  · exact within_bind (note_within s .count .debug _) fun _ _ => within_pure trivial
  · exact ⟨query, f, rfl, hlimit, by rw [hquery]; exact hselector, hfilter f hf⟩

/-- **What a model reads does not depend on what others have stored.**  Two states of a database
    hold the same documents of the model, and of other models anything.  If every condition of a
    filter names a field, by a text that is no combinator, and states a known relation, then one
    match, all matches and their number are the same in both, or fail alike, for all bounds, orders
    and fields asked for, and for all settings.  What is left is two such states again.

    The tag field is no path and no combinator. -/
theorem reads_alike (hs : s.schema.isTyped = true) (hkey : s.idKey = .text "_id")
    (hfirst : first.server.Reached) (hsecond : second.server.Reached)
    (hhome : ∃ stored, s.schema.modelName (.text model) = .ok stored ∧ home = s.homeOf stored)
    (htag : ∀ field, home.tagField = some field →
      '.' ∉ field.toList ∧ Selector.isCombinator field = false)
    (hown : ∀ id, home.own? first.server id = home.own? second.server id)
    (hsortable : first.server.sortable = second.server.sortable)
    (hfilter : ∀ f, s.schema.filter (.text model) filter = .ok f →
      ∀ c ∈ f.leaves, c.isNamed = true) :
    (∀ select, (s.findOne (.text model) filter select).Agrees home.TwinStates first second) ∧
      (∀ paging select,
        (s.findMany (.text model) filter paging select).Agrees home.TwinStates first second) ∧
      (s.count (.text model) filter).Agrees home.TwinStates first second := by
  obtain ⟨stored, name, hstored, -⟩ := home_names hs hhome
  have hmodel : ∃ stored, home.model = .text stored := ⟨stored, hstored⟩
  have hagrees : home.Agrees := Home.agrees_of_separate hmodel htag
  have hcombinator : ∀ field, home.tagField = some field → Selector.isCombinator field = false :=
    fun field hfield => (htag field hfield).2
  have htwins : home.TwinStates first second :=
    ⟨hown, hsortable, (hfirst.isSound home.database).ordered,
      (hsecond.isSound home.database).ordered⟩
  exact ⟨fun select =>
    findOne_agrees hs hkey hhome hagrees hmodel hcombinator hfilter select htwins,
    fun paging select => findMany_agrees hs hkey hhome hagrees hmodel hcombinator hfilter
      paging select htwins,
    count_agrees hs hkey hhome hagrees hmodel hcombinator hfilter htwins⟩

/-- Storing a document of another model leaves the model's own as they are. -/
theorem own?_insert_foreign {home : Home} {server : Server} {name : String} {document : Object}
    (hname : home.database = .text name)
    (hbefore : home.own? server (Database.identify document server.draws).1 = none)
    (hafter : home.own? ((Request.insert (.text name) document).serve server)
      (Database.identify document server.draws).1 = none) (id : String) :
    home.own? server id = home.own? ((Request.insert (.text name) document).serve server) id := by
  by_cases hid : id = (Database.identify document server.draws).1
  · rw [hid, hbefore, hafter]
  · rw [Home.own?, Home.own?, hname, Server.get?_serve_insert_ne hid]

/-- A database with one user, and the same with a group beside it, whose identifier stands before
    the user's: the users behind an identifier are the same, and there is one. -/
theorem reads_alike_beside_group :
    let first := Memory.start
      (Server.serveAll
        [.insert (.text "app_auth") [("_id", .text "u1"), ("doc_type", .text "user")]]
        (.empty none .null))
    let second := Memory.start
      ((Request.insert (.text "app_auth") [("_id", .text "g1"), ("doc_type", .text "group")]).serve
        first.server)
    let filter : Value :=
      .list [.object [("field", .text "id"), ("operator", .text "gt"), ("value", .text "a")]]
    (standard.count (.text "user") filter).Agrees
        (standard.homeOf (.text "user")).TwinStates first second ∧
      (((standard.count (.text "user") filter).run Memory.backend second).1.toOption.map fun v =>
        v.same (.int 1)) = some true := by
  intro first second filter
  have hfirst : first.server.Reached := .serve _ (.empty none .null)
  have hown : ∀ id, (standard.homeOf (.text "user")).own? first.server id =
      (standard.homeOf (.text "user")).own? second.server id :=
    own?_insert_foreign rfl (by decide +kernel) (by decide +kernel)
  have hfilter : ∀ f, standard.schema.filter (.text "user") filter = .ok f →
      ∀ c ∈ f.leaves, c.isNamed = true := by
    rintro f ⟨⟩
    decide
  obtain ⟨-, -, hcount⟩ := reads_alike (s := standard) rfl rfl hfirst (.serve _ hfirst)
    ⟨.text "user", rfl, rfl⟩ (by rintro _ ⟨⟩; decide) hown rfl hfilter
  exact ⟨hcount, by decide +kernel⟩

/-- A filter that names its field by a combinator sees whether anything foreign is stored: in an
    empty database it finds no users, and beside a group it fails. -/
theorem foreign_seen_by_combinator :
    let first := Memory.start (.empty none .null)
    let second := Memory.start
      ((Request.insert (.text "app_auth") [("_id", .text "g1"), ("doc_type", .text "group")]).serve
        first.server)
    let filter : Value := .list [.object [("field", .text "$and"), ("value", .int 1)]]
    (∀ id, (standard.homeOf (.text "user")).own? first.server id =
        (standard.homeOf (.text "user")).own? second.server id) ∧
      ((standard.findMany (.text "user") filter ⟨.null, .null, .null, .null⟩ .null).run
          Memory.backend first).1 = .ok (.list []) ∧
      ((standard.findMany (.text "user") filter ⟨.null, .null, .null, .null⟩ .null).run
          Memory.backend second).1 = .error .notObject := by
  intro first second filter
  have hhome := home_standard "user"
  have hfilter : standard.schema.filter (.text "user") filter =
      .ok (.test ⟨.text "$and", .int 1, .known .eq, .and⟩) := rfl
  refine ⟨own?_insert_foreign rfl (by decide +kernel) (by decide +kernel), ?_, ?_⟩
  · obtain ⟨m, hrun, -⟩ := run_findMany (s := standard) rfl (by decide) hhome hfilter rfl
      (Database.lists_plain none fun doc hdoc => absurd hdoc List.not_mem_nil) (by decide)
      (by decide +kernel) (.refl first.server) rfl
    rw [hrun]
  · have hfails : Database.matching
        ((standard.homeOf (.text "user")).scope (.object [("$and", .object [("$eq", .int 1)])]))
        (second.server.database (.text "app_auth")).contents = .error .notObject := rfl
    obtain ⟨m, hrun, -⟩ := run_findMany_fails
      (s := standard) rfl hhome hfilter rfl hfails (by decide) (.refl second.server)
    rw [hrun]

end Session

end DocStore
