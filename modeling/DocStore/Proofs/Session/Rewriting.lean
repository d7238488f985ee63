/-
  An update of all matches rewrites the documents that matched before it.

  What an update writes may change which documents match.  This makes no difference, because all
  matches are collected before the first of them is written; and each of them is written once,
  because no identifier stands twice among them.

  1. **Becoming** — two states of a server are compared document by document: what stood under some
     identifiers has become something else, and nothing else is different (`Home.Becomes`).  Such
     steps go together as long as no identifier is met twice (`Becomes.cons`).

  2. **Amending** — one amended document is such a step (`run_amend_becomes`), and so, by induction
     on what has been collected, is the whole row (`run_amendAll_becomes`).

  3. **Updating** (`updateMany_rewrites_matches`) — so an update of all matches rewrites exactly
     what its filter selected before it, and answers how many these are; or the filter has no
     selector, or one that cannot tell, and the update fails before anything is written.  Of a
     filter that names fields only the text that one of its conditions lacks is such a reason
     (`run_updateMany_refused`).
-/
import DocStore.Proofs.Session.Matches
import DocStore.Proofs.Session.Replacing

namespace DocStore

open Program

/-! ## Becoming -/

namespace Home

/-- Compared with an earlier state, some documents have become what `R` says, and nothing else is
    different. -/
structure Becomes (home : Home) (R : Stored → Option Stored → Prop) (entries : Table Stored)
    (old new : Server) : Prop where
  sound : new.IsSound
  became : ∀ id d, (id, d) ∈ entries → R d (home.stored? new id)
  others : ∀ database id, database ≠ home.database ∨ id ∉ entries.map Prod.fst →
    (new.database database).documents.get? id = (old.database database).documents.get? id

variable {home : Home} {R : Stored → Option Stored → Prop} {entries : Table Stored}
  {old between new : Server} {name id : String} {d : Stored}

/-- Where the documents are the same, none has become anything else. -/
theorem becomes_nil (hsound : new.IsSound) (hsame : old.SameDocuments new) :
    home.Becomes R [] old new :=
  ⟨hsound, fun _ _ hmem => absurd hmem List.not_mem_nil,
    fun database id _ => by rw [hsame database]⟩

/-- The earlier state may be any with the same documents. -/
theorem Becomes.of_sameDocuments (h : home.Becomes R entries between new)
    (hsame : old.SameDocuments between) :
    home.Becomes R entries old new :=
  ⟨h.sound, h.became, fun database id hother => by rw [h.others database id hother, hsame database]⟩

/-- One more document, if it does not stand among the others. -/
theorem Becomes.cons (hfirst : home.Becomes R [(id, d)] old between)
    (hrest : home.Becomes R entries between new) (hnotMem : id ∉ entries.map Prod.fst) :
    home.Becomes R ((id, d) :: entries) old new := by
  refine ⟨hrest.sound, fun other d' hmem => ?_, fun database other hother => ?_⟩
  · rcases List.mem_cons.1 hmem with heq | hmem
    · obtain ⟨rfl, rfl⟩ := Prod.mk.inj heq
      have hlater := hrest.others home.database other (.inr hnotMem)
      rw [stored?, hlater]
      exact hfirst.became other d' List.mem_cons_self
    · exact hrest.became other d' hmem
  · have hsplit : database ≠ home.database ∨ other ≠ id ∧ other ∉ entries.map Prod.fst :=
      hother.imp_right fun hnot => not_or.1 fun h => hnot (List.mem_cons.2 h)
    rw [hrest.others database other (hsplit.imp_right And.right)]
    refine hfirst.others database other (hsplit.imp_right fun h hmem => h.1 ?_)
    exact List.mem_singleton.1 hmem

/-- What is still to come has not been touched. -/
theorem Becomes.untouched (h : home.Becomes R [(id, d)] old new)
    (hnotMem : id ∉ entries.map Prod.fst) {other : String} {d' : Stored}
    (hmem : (other, d') ∈ entries) :
    (new.database home.database).documents.get? other =
      (old.database home.database).documents.get? other := by
  refine h.others home.database other (.inr fun heq => hnotMem ?_)
  exact List.mem_map.2 ⟨(other, d'), hmem, List.mem_singleton.1 heq⟩

/-- A write to the database of the home that leaves alone all documents but one. -/
theorem becomes_of_serve (hname : home.database = .text name) {request : Request} {server : Server}
    (hserver : server.IsSound) (hwrites : request.WritesTo (.text name))
    (hbecame : R d (home.stored? (request.serve server) id))
    (hothers : ∀ other, other ≠ id →
      home.stored? (request.serve server) other = home.stored? server other) :
    home.Becomes R [(id, d)] server (request.serve server) := by
  refine ⟨Server.serve_isSound hserver request, fun other d' hmem => ?_,
    fun database other hother => ?_⟩
  · obtain ⟨rfl, rfl⟩ := Prod.mk.inj (List.mem_singleton.1 hmem)
    exact hbecame
  · by_cases hdatabase : database = home.database
    · rw [hdatabase]
      refine hothers other fun heq => (hother.resolve_left (not_not_intro hdatabase)) ?_
      rw [heq]
      exact List.mem_cons_self
    · rw [hwrites.spares (by rwa [← hname]) server]

end Home

namespace Session

variable {s : Session} {m : Memory} {home : Home} {model name id : String} {d : Stored}
  {changes data : Object} {filter : Value} {f : Filter} {found : Table Stored}

/-! ## Amending -/

/-- What an update makes of a document: it is overlaid with the changes, in the next generation. -/
def Rewrites (changes : Object) (before : Stored) (after : Option Stored) : Prop :=
  ∃ new, after = some new ∧ Overlaid changes before new ∧
    new.revision.generation = before.revision.generation + 1

/-- An amended document of the model's own is rewritten. -/
theorem run_amend_becomes (hm : m.server.IsSound) (hname : home.database = .text name)
    (hd : home.own? m.server id = some d) (changes : Object) :
    ∃ new m', (amend home (.text id) changes).run Memory.backend m =
        (.ok (some (.object new.fields)), m') ∧
      home.stored? m'.server id = some new ∧
      home.Becomes (Rewrites changes) [(id, d)] m.server m'.server := by
  have hstored : ∀ server key,
      home.stored? server key = (server.database (.text name)).documents.get? key :=
    fun _ _ => by rw [Home.stored?, hname]
  obtain ⟨request, answer, m', new, hcall, hrun, hserver⟩ := run_amend_own hm hname hd changes
  obtain ⟨merged, hmerged, hrequest, hfields⟩ := hcall.overlaid
  have hafter : home.stored? m'.server id = some new := (hstored _ _).trans hcall.after
  refine ⟨new, m', hrun, hafter, ?_⟩
  rw [hserver] at hafter ⊢
  refine Home.becomes_of_serve hname hm (.inr (.inl ⟨merged, hrequest⟩))
    ⟨new, hafter, ⟨merged, hmerged, hfields⟩, by rw [hcall.revision]⟩ fun other hne => ?_
  rw [hstored, hstored, ← hserver]
  exact hcall.others other hne

/-- Documents of the model's own are amended one after the other, and all are counted. -/
theorem run_amendAll_becomes (hname : home.database = .text name) (s : Session) (changes : Object)
    {entries : Table Stored} (hnodup : (entries.map Prod.fst).Nodup) (count : Nat) (m : Memory)
    (hm : m.server.IsSound) (hentries : ∀ id d, (id, d) ∈ entries →
      home.own? m.server id = some d) :
    ∃ m', (amendAll s home changes count (entries.map fun entry => .object entry.2.fields)).run
          Memory.backend m = (.ok (count + entries.length), m') ∧
      home.Becomes (Rewrites changes) entries m.server m'.server := by
  induction entries generalizing count m with
  | nil => exact ⟨m, rfl, Home.becomes_nil hm (.refl m.server)⟩
  | cons entry rest ih =>
    obtain ⟨id, d⟩ := entry
    obtain ⟨hnotMem, hrest⟩ := List.nodup_cons.1 hnodup
    have hd := hentries id d List.mem_cons_self
    have hid := (entry_of_stored ((hm home.database).stored id d (Home.own?_eq_some.1 hd).1)).1
    obtain ⟨new, m₁, hamend, -, hfirst⟩ := run_amend_becomes hm hname hd changes
    -- The rest is there as it was collected.
    obtain ⟨m₂, hrun, hothers⟩ := ih hrest (count + 1) m₁ hfirst.sound fun other d' hmem => by
      rw [Home.own?, hfirst.untouched hnotMem hmem]
      exact hentries other d' (List.mem_cons_of_mem _ hmem)
    refine ⟨m₂, ?_, hfirst.cons hothers hnotMem⟩
    rw [List.map_cons, amendAll,
      run_bind_ok (run_onRefusal_ok ((run_bind_lift hid _ m).trans hamend) _ _),
      Option.isSome_some, if_pos rfl, hrun, List.length_cons]
    congr 2
    omega

/-! ## Updating -/

/-- What an update may write can be told of any data. -/
theorem changesOf_ok (hs : s.schema.isTyped = true) (home : Home) (model : Value) (data : Object) :
    ∃ changes, s.changesOf home model (.object data) = .ok changes := by
  obtain ⟨renamed, hrenamed⟩ := Schema.stored_typed hs model data
  refine ⟨Document.changes renamed home.tagField, ?_⟩
  show (s.schema.stored model (.ofObject data) >>= fun renamed => _) = _
  rw [hrenamed]
  rfl

section

variable (hs : s.schema.isTyped = true)
  (hhome : ∃ stored, s.schema.modelName (.text model) = .ok stored ∧ home = s.homeOf stored)
  (hfilter : s.schema.filter (.text model) filter = .ok f)

include hs hhome hfilter

/-- Where a filter has no selector, an update fails for that, and nothing is written. -/
theorem run_updateMany_refused {e : Failure} (hselector : s.selector home f = .error e) :
    ∃ m', (s.updateMany (.text model) filter (.object data)).run Memory.backend m = (.error e, m') ∧
      m.server.Alike m'.server := by
  obtain ⟨m₁, hrun₁, halike₁⟩ := run_home hs model hhome m
  refine ⟨m₁, ?_, halike₁⟩
  unfold updateMany
  rw [run_bind_ok hrun₁, run_bind_lift hfilter]
  exact run_bind_lift_error hselector _ _

variable (hbudget : (m.server.database home.database).documents.length < s.pageBudget)
  (hchanges : s.changesOf home (.text model) (.object data) = .ok changes)

include hbudget hchanges

/-- An update of all matches rewrites what its filter selects. -/
theorem run_updateMany (hsize : 1 ≤ s.settings.pageSize) (hm : m.server.Reached)
    (htag : ∀ field, home.tagField = some field →
      '.' ∉ field.toList ∧ Selector.isCombinator field = false)
    (hdigits : (m.server.database home.database).documents.length < 10 ^ Text.digitLimit)
    (hfound : s.Selects home f m.server found) :
    ∃ m', (s.updateMany (.text model) filter (.object data)).run Memory.backend m =
        (.ok (.int found.length), m') ∧
        home.Becomes (Rewrites changes) found m.server m'.server := by
  obtain ⟨stored, name, hstored, hname⟩ := home_names hs hhome
  have hagrees := Home.agrees_of_separate ⟨stored, hstored⟩ htag
  have hown : ∀ id d, (id, d) ∈ found → home.own? m.server id = some d := fun _ _ =>
    hfound.own hagrees hm.isSound
  have hnodup := hfound.nodup hm.isSound
  obtain ⟨selector, hselector, htells, rfl⟩ := hfound
  obtain ⟨m₁, hrun₁, halike₁⟩ := run_home hs model hhome m
  obtain ⟨m₂, hnote₂, hserver₂⟩ := s.run_note_alone .updateMany .debug
    ("model=" ++ (Value.text model).written ++ " selector=" ++ selector.shown ++ " changes=" ++
      (Value.object changes).shown) m₁
  obtain ⟨m₃, hcollect, halike₃⟩ :=
    run_collect_accepted (m := m₂) hsize htells hbudget hdigits (by rwa [hserver₂])
  have hm₃ : m₃.server.IsSound :=
    (Memory.reached_of_run (Memory.reached_of_run (Memory.reached_of_run hm hrun₁) hnote₂)
      hcollect).isSound
  obtain ⟨m₄, hamend, hbecomes⟩ :=
      run_amendAll_becomes hname s changes hnodup 0 m₃ hm₃ fun id d hmem => by
    rw [Home.own?_of_alike halike₃]
    exact hown id d hmem
  obtain ⟨m₅, hnote₅, hserver₅⟩ := s.run_note_alone .updateMany .debug
    ("model=" ++ (Value.text model).written ++ " updated=" ++
      toString (0 + (home.accepted m.server selector).length)) m₄
  refine ⟨m₅, ?_, hserver₅ ▸ hbecomes.of_sameDocuments halike₃.documents⟩
  unfold updateMany
  rw [run_bind_ok hrun₁, run_bind_lift hfilter, run_bind_lift hselector,
    run_bind_lift hchanges, run_bind_ok hnote₂,
    run_bind_ok (run_guarded_ok ((run_bind_ok hcollect).trans hamend) s .updateMany (.text model)),
    run_bind_ok hnote₅, Nat.zero_add]
  rfl

/-- Where a filter selects nothing at all, not even no documents, nothing is written. -/
theorem run_updateMany_fails (hnone : ∀ found, ¬s.Selects home f m.server found) :
    ∃ e m', (s.updateMany (.text model) filter (.object data)).run Memory.backend m =
        (.error e, m') ∧
      m.server.Alike m'.server := by
  cases hselector : s.selector home f with
  | error e => exact ⟨e, run_updateMany_refused hs hhome hfilter hselector⟩
  | ok selector =>
    obtain ⟨m₁, hrun₁, halike₁⟩ := run_home hs model hhome m
    obtain ⟨m₂, hnote₂, hserver₂⟩ := s.run_note_alone .updateMany .debug
      ("model=" ++ (Value.text model).written ++ " selector=" ++ selector.shown ++ " changes=" ++
        (Value.object changes).shown) m₁
    obtain ⟨e, m₃, hguarded, halike₃⟩ := run_guarded_unselected (m := m₂) hselector hnone
      (Nat.lt_of_le_of_lt (Nat.zero_le _) hbudget) (by rwa [hserver₂]) .updateMany (.text model)
      (amendAll s home changes 0)
    refine ⟨e, m₃, ?_, halike₃⟩
    unfold updateMany
    rw [run_bind_ok hrun₁, run_bind_lift hfilter, run_bind_lift hselector, run_bind_lift hchanges,
      run_bind_ok hnote₂]
    exact run_bind_error hguarded

end

/-- **An update of all matches rewrites what matched before it.**  Take any model, any filter that
    can be read, any data, and anything stored.

    - A plain filter selects the model's own documents that meet it.
    - A filter whose conditions name fields, but ask for a relation between texts to something that
      is no text, selects nothing at all, not even no documents.
    - Whatever a filter selects before the update has been overlaid with the changes after it, each
      document in its next generation, and the update answers how many these are.
    - If a filter selects nothing at all, the update fails and writes nothing.
    - A filter whose conditions name fields, and that is not plain, is refused for a text that one
      of its conditions lacks, if nothing stands in it that is no filter.

    No other document changes, in any database.  The page budget of the session only has to exceed
    the number of documents, and this number has to fit into a bookmark. -/
theorem updateMany_rewrites_matches (hs : s.schema.isTyped = true) (hsize : 1 ≤ s.settings.pageSize)
    (hm : m.server.Reached)
    (hhome : ∃ stored, s.schema.modelName (.text model) = .ok stored ∧ home = s.homeOf stored)
    (htag : ∀ field, home.tagField = some field →
      '.' ∉ field.toList ∧ Selector.isCombinator field = false)
    (hfilter : s.schema.filter (.text model) filter = .ok f)
    (hbudget : (m.server.database home.database).documents.length < s.pageBudget)
    (hdigits : (m.server.database home.database).documents.length < 10 ^ Text.digitLimit)
    (data : Object) :
    ∃ changes, s.changesOf home (.text model) (.object data) = .ok changes ∧
      (∀ idKey, s.idKey = .text idKey → Selector.isCombinator idKey = false → f.isPlain = true →
        s.Selects home f m.server (home.meeting m.server idKey f)) ∧
      ((∀ c ∈ f.leaves, c.isNamed = true) → f.isPlain = false →
        ∀ found, ¬s.Selects home f m.server found) ∧
      (∀ found, s.Selects home f m.server found → ∃ m',
        (s.updateMany (.text model) filter (.object data)).run Memory.backend m =
          (.ok (.int found.length), m') ∧
        home.Becomes (Rewrites changes) found m.server m'.server) ∧
      ((∀ found, ¬s.Selects home f m.server found) → ∃ e m',
        (s.updateMany (.text model) filter (.object data)).run Memory.backend m = (.error e, m') ∧
        m.server.Alike m'.server) ∧
      (s.idKey.isKey = true → f.isWhole = true → (∀ c ∈ f.leaves, c.isNamed = true) →
        f.isPlain = false → ∃ relation m', f.LacksText relation ∧
          (s.updateMany (.text model) filter (.object data)).run Memory.backend m =
            (.error (.query (.textRequired relation)), m') ∧
          m.server.Alike m'.server) := by
  obtain ⟨stored, -, hstored, -⟩ := home_names hs hhome
  obtain ⟨changes, hchanges⟩ := changesOf_ok hs home (.text model) data
  refine ⟨changes, hchanges,
    fun _ hkey hid hf => selects_of_isPlain ⟨stored, hstored⟩ htag hkey hid hf m.server,
      unselected_of_isNamed,
    fun _ => run_updateMany hs hhome hfilter hbudget hchanges hsize hm htag hdigits,
    run_updateMany_fails hs hhome hfilter hbudget hchanges, fun hkey hwhole hnamed hf => ?_⟩
  obtain ⟨relation, hlacks, hselector⟩ := selector_refused home hkey hnamed hwhole hf
  obtain ⟨m', hrun, halike⟩ := run_updateMany_refused hs hhome hfilter hselector
  exact ⟨relation, m', hlacks, hrun, halike⟩

/-- Pages of one document, in a database of two models.  Of three users two have the value that the
    filter asks for; the update gives them another one, so that the second page is asked for when
    the first match has been collected and not yet written.  Both are written, and neither the third
    user nor the group is. -/
theorem updateMany_rewrites_two_users :
    let s : Session := { standard with settings := { standard.settings with pageSize := 1 } }
    let m := Memory.start (Server.serveAll
      [.insert (.text "app_auth") [("_id", .text "u1"), ("doc_type", .text "user"), ("n", .int 0)],
        .insert (.text "app_auth") [("_id", .text "u2"), ("doc_type", .text "user"), ("n", .int 1)],
        .insert (.text "app_auth") [("_id", .text "u3"), ("doc_type", .text "user"), ("n", .int 0)],
        .insert (.text "app_auth") [("_id", .text "g1"),
          ("doc_type", .text "group"), ("n", .int 0)]]
      (.empty none .null))
    let home := s.homeOf (.text "user")
    let filter : Value := .list [.object [("field", .text "n"), ("value", .int 0)]]
    ∃ m' d₁ d₃, (s.updateMany (.text "user") filter (.object [("n", .int 1)])).run
          Memory.backend m = (.ok (.int 2), m') ∧
      home.stored? m.server "u1" = some d₁ ∧
      Rewrites [("n", .int 1)] d₁ (home.stored? m'.server "u1") ∧
      home.stored? m.server "u3" = some d₃ ∧
      Rewrites [("n", .int 1)] d₃ (home.stored? m'.server "u3") ∧
      home.stored? m'.server "u2" = home.stored? m.server "u2" ∧
      home.stored? m'.server "g1" = home.stored? m.server "g1" := by
  intro s m home filter
  have hm : m.server.Reached := .serve _ (.serve _ (.serve _ (.serve _ (.empty none .null))))
  have hhome : ∃ stored, s.schema.modelName (.text "user") = .ok stored ∧ home = s.homeOf stored :=
    ⟨.text "user", rfl, rfl⟩
  have hfilter : s.schema.filter (.text "user") filter =
    .ok (.test ⟨.text "n", .int 0, .known .eq, .and⟩) := rfl
  obtain ⟨changes, hchanges, hplain, -, hupdate, -⟩ := updateMany_rewrites_matches (s := s) rfl
    (by decide) hm hhome
    (by rintro _ ⟨⟩; decide) hfilter (by decide +kernel) (by decide +kernel) [("n", .int 1)]
  obtain rfl : [("n", .int 1)] = changes := Except.ok.inj hchanges
  obtain ⟨m', hrun, hbecomes⟩ := hupdate _ (hplain "_id" rfl (by decide) rfl)
  have hnames : (home.meeting m.server "_id" (.test ⟨.text "n", .int 0, .known .eq, .and⟩)).map
        Prod.fst = ["u1", "u3"] := by decide +kernel
  have hrewritten : ∀ id ∈ ["u1", "u3"], ∃ d, home.stored? m.server id = some d ∧
      Rewrites [("n", .int 1)] d (home.stored? m'.server id) := by
    intro id hid
    obtain ⟨⟨_, d⟩, hmem, rfl⟩ := List.mem_map.1 (hnames.symm ▸ hid)
    exact ⟨d, (Table.mem_iff_get? (hm.isSound home.database).ordered).1
      (List.mem_of_mem_filter hmem), hbecomes.became _ d hmem⟩
  obtain ⟨d₁, hd₁, h₁⟩ := hrewritten "u1" (by decide)
  obtain ⟨d₃, hd₃, h₃⟩ := hrewritten "u3" (by decide)
  have hcount : (home.meeting m.server "_id" (.test ⟨.text "n", .int 0, .known .eq, .and⟩)).length =
      2 := by
    rw [← List.length_map Prod.fst, hnames]
    rfl
  rw [hcount] at hrun
  exact ⟨m', d₁, d₃, hrun, hd₁, h₁, hd₃, h₃,
    hbecomes.others home.database "u2" (.inr (by rw [hnames]; decide)),
    hbecomes.others home.database "g1" (.inr (by rw [hnames]; decide))⟩

/-- Whether a text contains a number is no question, and the update that asks it is refused; so is
    one that asks for the value of a field named like a combinator, when a document is stored. -/
theorem updateMany_refuses_number :
    let m := ((standard.create (.text "user") (.object [("id", .text "u1")]) .null).run
      Memory.backend (Memory.start (.empty none .null))).2
    let contains : Value :=
      .list [.object [("field", .text "name"), ("operator", .text "contains"), ("value", .int 5)]]
    let combined : Value := .list [.object [("field", .text "$and"), ("value", .int 1)]]
    standard.schema.filter (.text "user") contains =
        .ok (.test ⟨.text "name", .int 5, .known .contains, .and⟩) ∧
      ((standard.updateMany (.text "user") contains (.object [("n", .int 1)])).run
          Memory.backend m).1 = .error (.query (.textRequired .contains)) ∧
      standard.schema.filter (.text "user") combined =
        .ok (.test ⟨.text "$and", .int 1, .known .eq, .and⟩) ∧
      ((standard.updateMany (.text "user") combined (.object [("n", .int 1)])).run
          Memory.backend m).1 = .error .notObject := by
  refine ⟨rfl, ?_, rfl, ?_⟩
  · rfl
  · rfl

end Session

end DocStore
