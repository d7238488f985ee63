/-
  Documents that are named by their identifier.

  When nobody else writes, an operation on a document that its filter names comes to one of a few
  ends.

  1. **Own documents** — of a stored document a home can always tell whether it is the model's own
     (`Home.isOwn`), and what a model finds under an identifier is the document stored there, if it
     is its own (`Home.own?`).

  2. **Looking up** — a named document is found when it is the model's own, and else none is
     (`run_findOne_named`).

  3. **Amending** — a document that is the model's own is overlaid with the changes, and nothing
     else is touched (`run_amend_own`); any other is left alone (`run_amend_foreign`,
     `run_amend_absent`).  So an update of a named document ends with the document overlaid
     (`run_update_named`).
-/
import DocStore.Proofs.Session.Alone
import DocStore.Proofs.Session.Update
import DocStore.Session.Read

namespace DocStore

open Program

namespace Home

/-! ## Own documents -/

/-- Whether a stored document is the model's own. -/
def isOwn (home : Home) (d : Stored) : Bool :=
  match home.tagField with
  | none => true
  | some field => Value.same (Object.getD d.fields field) home.model

theorem owns_stored (home : Home) (d : Stored) :
    home.owns (.object d.fields) = .ok (home.isOwn d) := by
  obtain ⟨database, model, tagField⟩ := home
  cases tagField <;> rfl

/-- Documents with the same tag are both the model's own or neither. -/
theorem isOwn_of_tag {home : Home} {d d' : Stored}
    (h : ∀ field, home.tagField = some field →
      Object.get? d'.fields field = Object.get? d.fields field) :
    home.isOwn d' = home.isOwn d := by
  rw [isOwn, isOwn]
  cases hfield : home.tagField with
  | none => rfl
  | some field =>
    dsimp only
    rw [Object.getD, h field hfield, Object.getD]

/-- The document stored under an identifier, if it is the model's own. -/
def own? (home : Home) (server : Server) (id : String) : Option Stored :=
  ((server.database home.database).documents.get? id).filter home.isOwn

theorem own?_eq_some {home : Home} {server : Server} {id : String} {d : Stored} :
    home.own? server id = some d ↔
      (server.database home.database).documents.get? id = some d ∧ home.isOwn d = true := by
  rw [own?, Option.filter_eq_some_iff]

/-- Servers that hold the same documents hold the same own ones. -/
theorem own?_of_alike {old new : Server} (h : old.Alike new) (home : Home) (id : String) :
    home.own? new id = home.own? old id := by
  rw [own?, own?, h.documents]

end Home

namespace Session

variable {s : Session} {m : Memory} {home : Home} {model name id : String} {f : Filter} {d : Stored}

/-! ## Looking up -/

/-- A document that is there is got. -/
theorem run_get (home : Home) (h : (m.server.database home.database).documents.get? id = some d) :
    (send (.get home.database (.text id))).run Memory.backend m = (.ok (.object d.fields), m) := by
  rw [run_send]
  show ((m.server.database home.database).get (.text id), m) = _
  rw [Database.get_eq_ok.2 ⟨d, h, rfl⟩]

/-- A document that is not there is not. -/
theorem run_get_absent (home : Home)
    (h : (m.server.database home.database).documents.get? id = none) :
    (send (.get home.database (.text id))).run Memory.backend m =
      (.error (Database.absent (.text id) "missing"), m) := by
  rw [run_send]
  show ((m.server.database home.database).get (.text id), m) = _
  rw [Database.get, Database.look, h]
  rfl

/-- Where it cannot be told what a filter names, nothing is looked up. -/
theorem run_lookUp_refused (s : Session) (home : Home) (model : Value) {e : Failure}
    (h : f.identifier = .error e) (m : Memory) :
    (s.lookUp home model f).run Memory.backend m = (.error e, m) := by
  unfold lookUp
  exact run_bind_lift_error h _ _

/-- A filter that names a document finds it just when it is the model's own. -/
theorem run_lookUp_named (s : Session) (home : Home) (model : Value)
    (hid : f.identifier = .ok (some id)) (m : Memory) :
    ∃ m', (s.lookUp home model f).run Memory.backend m =
        (.ok ((home.own? m.server id).map fun d => .object d.fields), m') ∧
        m'.server = m.server := by
  obtain ⟨m₁, hnote, hserver⟩ :=
    s.run_note_alone .findOne .debug ("model=" ++ model.written ++ " get " ++ id) m
  refine ⟨m₁, ?_, hserver⟩
  unfold lookUp
  rw [run_bind_lift hid]
  dsimp only
  rw [run_bind_ok hnote, ← hserver, Home.own?]
  cases hd : (m₁.server.database home.database).documents.get? id with
  | none =>
    have hget := run_get_absent home hd
    rw [run_bind, run_onRefusal, run_bind_error hget]
    rfl
  | some d =>
    have hget := run_get home hd
    rw [run_bind_ok (run_onRefusal_ok (run_bind_ok hget) _ _)]
    dsimp only
    rw [run_bind_lift (home.owns_stored d)]
    cases hown : home.isOwn d with
    | false => rw [Option.filter_some_neg (by simp [hown])]; rfl
    | true => rw [Option.filter_some_pos hown]; rfl

/-- What a lookup comes to is what is shown of it to callers. -/
theorem run_findOne (hs : s.schema.isTyped = true)
    (hhome : ∃ stored, s.schema.modelName (.text model) = .ok stored ∧ home = s.homeOf stored)
    {filter : Value} (hfilter : s.schema.filter (.text model) filter = .ok f) (select : Value)
    {result : Except Failure (Option Value)}
    (hlookUp : ∀ m₁ : Memory, m.server.Alike m₁.server → ∃ m₂,
      (s.lookUp home (.text model) f).run Memory.backend m₁ = (result, m₂) ∧
      m.server.Alike m₂.server) :
    ∃ m', (s.findOne (.text model) filter select).run Memory.backend m =
        (result >>= fun found =>
          match found with
          | some doc => s.output home (.text model) select doc
          | none => .ok .null, m') ∧ m.server.Alike m'.server := by
  obtain ⟨m₁, hrun₁, halike₁⟩ := run_home hs model hhome m
  obtain ⟨m₂, hrun₂, halike₂⟩ := hlookUp m₁ halike₁
  obtain ⟨m₃, hrun₃, hserver₃⟩ := run_guarded_alone hrun₂ s .findOne (.text model)
  refine ⟨m₃, ?_, by rwa [hserver₃]⟩
  unfold findOne
  rw [run_bind_ok hrun₁, run_bind_lift hfilter]
  cases result with
  | error e => exact run_bind_error hrun₃
  | ok found =>
    refine (run_bind_ok hrun₃).trans ?_
    cases found with
    | none => rfl
    | some doc => exact run_liftM _ _ _

/-- **A named document is found when it is the model's own**, and shown as callers see it. -/
theorem run_findOne_named (hs : s.schema.isTyped = true)
    (hhome : ∃ stored, s.schema.modelName (.text model) = .ok stored ∧ home = s.homeOf stored)
    {filter : Value} (hfilter : s.schema.filter (.text model) filter = .ok f)
    (hid : f.identifier = .ok (some id)) (select : Value) (m : Memory) :
    ∃ m', (s.findOne (.text model) filter select).run Memory.backend m =
        (match home.own? m.server id with
          | some d => s.output home (.text model) select (.object d.fields)
          | none => .ok .null, m') ∧ m.server.Alike m'.server := by
  obtain ⟨m', hrun, halike⟩ := run_findOne hs hhome hfilter select fun m₁ halike₁ => by
    obtain ⟨m₂, hrun₂, hserver₂⟩ := run_lookUp_named s home (.text model) hid m₁
    rw [Home.own?_of_alike halike₁] at hrun₂
    exact ⟨m₂, hrun₂, by rwa [hserver₂]⟩
  refine ⟨m', hrun.trans ?_, halike⟩
  cases home.own? m.server id <;> rfl

/-! ## Amending -/

/-- A document that is the model's own is overlaid with the changes, and nothing else is touched. -/
theorem run_amend_own (hm : m.server.IsSound) (hname : home.database = .text name)
    (hd : home.own? m.server id = some d) (changes : Object) :
    ∃ request answer m' new,
      Call.Overlays ⟨request, answer, m.server, m'.server⟩ name id changes d new ∧
      (amend home (.text id) changes).run Memory.backend m = (.ok (some (.object new.fields)), m') ∧
      m'.server = request.serve m.server := by
  obtain ⟨hstored, hown⟩ := Home.own?_eq_some.1 hd
  have hget := run_get home hstored
  rw [hname] at hstored
  obtain ⟨named, revised, nonempty, -, -⟩ := (hm (.text name)).stored id d hstored
  obtain ⟨merged, hmerged, hid, hrev, -⟩ := Document.overlay_stored named revised changes
  have hgiven : Object.getD merged "_rev" = .text d.revision.text := by rw [Object.getD, hrev]; rfl
  -- Nobody has written since the document was got, so its revision is current.
  have hidentify := congrArg Prod.fst (Database.identify_of_text nonempty hid m.server.draws)
  obtain ⟨receipt, hreceipt⟩ : ∃ receipt,
      ((m.server.database (.text name)).insert merged m.server.draws).1 = .ok receipt :=
    (Database.insert_ok_iff hidentify (by rw [hgiven]; exact fun h => Value.noConfusion h)).2
      ⟨d, hstored, hgiven⟩
  rcases hinsert :
    (m.server.database (.text name)).insert merged m.server.draws with ⟨answer, db, draws⟩
  obtain rfl : answer = .ok receipt := by rw [← hreceipt, hinsert]
  obtain ⟨new, hrevision, hfields, hcall⟩ :=
    overlays_of_accepted hm hm (.refl m.server) hstored hmerged hinsert
  have hanswer : Memory.backend.answer (.insert (.text name) merged) m =
      (.ok receipt,
        { m with server := { m.server.setDatabase (.text name) db with draws := draws } }) := by
    show ((m.server.insert (.text name) merged).1,
      ({ m with server := (m.server.insert (.text name) merged).2 } : Memory)) = _
    rw [Server.insert, hinsert]
  have hserve : (Request.insert (.text name) merged).serve m.server =
      { m.server.setDatabase (.text name) db with draws := draws } := by
    show (m.server.insert (.text name) merged).2 = _
    rw [Server.insert, hinsert]
  refine ⟨_, _, { m with server := { m.server.setDatabase (.text name) db with draws := draws } },
    new, hcall, ?_, hserve.symm⟩
  unfold amend
  rw [run_bind_ok hget, run_bind_lift (home.owns_stored d), if_pos hown,
    run_bind_ok (run_pure _ d.fields m),
    run_bind_lift hmerged, hname, run_bind_ok ((run_send _ _ _).trans hanswer),
    hrevision, ← hfields]
  rfl

/-- A document of another model is left alone. -/
theorem run_amend_foreign (hd : (m.server.database home.database).documents.get? id = some d)
    (hforeign : home.isOwn d = false) (changes : Object) :
    (amend home (.text id) changes).run Memory.backend m = (.ok none, m) := by
  unfold amend
  rw [run_bind_ok (run_get home hd), run_bind_lift (home.owns_stored d), hforeign]
  rfl

/-- A document that is not there cannot be amended. -/
theorem run_amend_absent (hd : (m.server.database home.database).documents.get? id = none)
    (changes : Object) : (amend home (.text id) changes).run Memory.backend m =
      (.error (Database.absent (.text id) "missing"), m) := by
  unfold amend
  rw [run_bind_error (run_get_absent home hd)]

/-- A filter that names a document has it for its target. -/
theorem run_target_named (s : Session) (home : Home)
    (hid : f.identifier = .ok (some id)) (m : Memory) :
    (s.target home f).run Memory.backend m = (.ok (some id), m) := by
  unfold target
  rw [run_bind_lift hid]
  rfl

/-- What replaces a document that is overlaid with changes. -/
def Overlaid (changes : Object) (before after : Stored) : Prop :=
  ∃ merged, Document.overlay before.fields changes = .ok merged ∧
    after.fields = Object.set merged "_rev" (.text after.revision.text)

/-- An update of a named document amends it and answers what it has become. -/
theorem run_update_amended (hs : s.schema.isTyped = true)
    (hhome : ∃ stored, s.schema.modelName (.text model) = .ok stored ∧ home = s.homeOf stored)
    {filter data : Value} (hfilter : s.schema.filter (.text model) filter = .ok f)
    (hid : f.identifier = .ok (some id)) {changes : Object}
    (hchanges : s.changesOf home (.text model) data = .ok changes) (m : Memory) :
    ∃ m₁ : Memory, m.server.Alike m₁.server ∧ (m.server.Reached → m₁.server.Reached) ∧
      ∀ doc m', (amend home (.text id) changes).run Memory.backend m₁ = (.ok (some doc), m') →
        (s.update (.text model) filter data).run Memory.backend m =
          (s.output home (.text model) .null doc, m') := by
  obtain ⟨m₀, hrun₀, halike⟩ := run_home hs model hhome m
  obtain ⟨m₁, hnote, hserver⟩ := s.run_note_alone .update .debug
    ("model=" ++ (Value.text model).written ++ " id=" ++ (some id).getD "None" ++ " changes=" ++
      (Value.object changes).shown) m₀
  refine ⟨m₁, hserver ▸ halike, fun hm => hserver ▸ Memory.reached_of_run hm hrun₀,
    fun doc m' hamend => ?_⟩
  unfold update
  rw [run_bind_ok hrun₀, run_bind_lift hfilter, run_bind_lift hchanges]
  refine (run_bind_ok (run_guarded_ok ?_ s .update (.text model))).trans (run_liftM _ _ _)
  rw [run_bind_ok (run_target_named s home hid m₀), run_bind_ok hnote]
  exact (run_bind_ok (run_onRefusal_ok hamend _ _)).trans (run_pure _ _ _)

/-- **A named document that is the model's own is updated**: it is overlaid with the changes, and
    the new one is the result. -/
theorem run_update_named (hs : s.schema.isTyped = true) (hm : m.server.Reached)
    (hhome : ∃ stored, s.schema.modelName (.text model) = .ok stored ∧ home = s.homeOf stored)
    {filter data : Value} (hfilter : s.schema.filter (.text model) filter = .ok f)
    (hid : f.identifier = .ok (some id)) {changes : Object}
    (hchanges : s.changesOf home (.text model) data = .ok changes)
    (hd : home.own? m.server id = some d) :
    ∃ m' new, Overlaid changes d new ∧
      (m'.server.database home.database).documents.get? id = some new ∧
      (s.update (.text model) filter data).run Memory.backend m =
        (s.output home (.text model) .null (.object new.fields), m') := by
  obtain ⟨-, name, -, hname⟩ := home_names hs hhome
  obtain ⟨m₁, halike, hreached, hupdate⟩ := run_update_amended hs hhome hfilter hid hchanges m
  have hd₁ : home.own? m₁.server id = some d := by rw [Home.own?_of_alike halike, hd]
  obtain ⟨_, _, m₂, new, hcall, hrun, hserver⟩ :=
    run_amend_own (hreached hm).isSound hname hd₁ changes
  obtain ⟨merged, hmerged, -, hfields⟩ := hcall.overlaid
  refine ⟨m₂, new, ⟨merged, hmerged, hfields⟩, ?_, hupdate _ m₂ hrun⟩
  rw [hname, hserver]
  exact hserver ▸ hcall.after

end Session

end DocStore
