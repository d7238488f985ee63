/-
  Deleting removes the target of its filter, and at most that.

  A filter that names a document has this one as its target, and any other filter the first that it
  selects.  The target is read before it is removed, and nothing happens where it belongs to another
  model or is not there.

  1. **Targets** — what a filter names can be read off it as soon as it has a selector
     (`Filter.identifier_of_selector`).  Once its target is gone, an equality on the identifier has
     none any more (`target?_of_gone`).

  2. **Removing** — the model's own document under an identifier is removed, and no other
     (`run_remove`).

  3. **Deleting** — what deleting comes to is up to the target alone (`run_delete_of_target`,
     `run_delete_fails`), so there is one lemma for each way to have a target, and one for each way
     to have none.
-/
import DocStore.Proofs.Session.Removing

namespace DocStore

open Program

/-! ## Targets -/

namespace Filter

variable {f : Filter}

/-- A filter that names a document is plain: it is one equality. -/
theorem isPlain_of_named {id : String} (h : f.identifier? = some id) : f.isPlain = true := by
  cases f with
  | test c =>
    rw [identifier?] at h
    split at h
    · rename_i hc
      exact Condition.isPlain_of_isIdentifier hc.1 hc.2
    · cases h
  | _ => cases h

/-- What a filter names can be read off it, if it has a selector. -/
theorem identifier_of_selector {idKey selector : Value} (h : f.selector idKey = .ok selector) :
    f.identifier = .ok f.identifier? := by
  cases f with
  | test c =>
    rw [identifier]
    by_cases hkey : c.field.isKey = true
    · exact if_pos hkey
    · have hfails : (Filter.test c).selector idKey = .error .wrongKind := if_neg hkey
      cases hfails.symm.trans h
  | _ => rfl

end Filter

namespace Home

variable {home : Home} {R : Stored → Option Stored → Prop} {old new : Server}

/-- The target of a filter: the model's own document that it names, or if it names none, the first
    that meets it. -/
def target? (home : Home) (server : Server) (idKey : String) (f : Filter) :
    Option (String × Stored) :=
  match f.identifier? with
  | some id => (home.own? server id).map fun d => (id, d)
  | none => (home.meeting server idKey f).head?

/-- Where no document has become anything else, all documents are the same. -/
theorem Becomes.sameDocuments (h : home.Becomes R [] old new) (hold : old.IsSound) :
    old.SameDocuments new :=
  fun database => Table.Ordered.ext (h.sound database).ordered (hold database).ordered fun id =>
    h.others database id (.inr List.not_mem_nil)

end Home

namespace Session

variable {s : Session} {m : Memory} {home : Home} {server : Server} {model name : String}
  {filter : Value} {f : Filter} {found : Table Stored}

/-- An equality on the identifier that names no document is met by none: nothing stands under null
    or the empty text. -/
theorem meeting_of_unnamed {c : Condition} (hid : c.isIdentifier = true)
    (hop : c.operator = .known .eq) (hunnamed : (Filter.test c).identifier? = none)
    (hserver : server.IsSound) :
    home.meeting server "_id" (.test c) = [] := by
  have hvacant : ∀ id, id ≠ "" → (Value.text id).same c.value = false := by
    intro id hne
    rw [Filter.identifier?, if_pos ⟨hid, hop⟩] at hunnamed
    split at hunnamed
    · rename_i hnull
      rw [hnull]
      rfl
    · rename_i hempty
      rw [hempty]
      simpa [Value.same] using hne
    · cases hunnamed
  refine List.filter_eq_nil_iff.2 fun entry hmem => ?_
  have hd := (hserver home.database).stored entry.1 entry.2
    ((Table.mem_iff_get? (hserver home.database).ordered).1 hmem)
  rw [holds_named hid hop hd, hvacant entry.1 hd.nonempty]
  exact Bool.false_ne_true

/-- An equality on the identifier has no target any more when its target is gone. -/
theorem target?_of_gone {c : Condition} (hid : c.isIdentifier = true)
    (hop : c.operator = .known .eq) {old new : Server} (hold : old.IsSound)
    (hgone : home.Becomes Gone (home.target? old "_id" (.test c)).toList old new) :
    home.target? new "_id" (.test c) = none := by
  rw [Home.target?] at hgone ⊢
  cases hident : (Filter.test c).identifier? with
  | none =>
    dsimp only
    rw [meeting_of_unnamed hid hop hident hgone.sound]
    rfl
  | some id =>
    rw [hident] at hgone
    dsimp only at hgone ⊢
    cases hown : home.own? old id with
    | none =>
      rw [hown] at hgone
      rw [Home.own?] at hown ⊢
      rw [hgone.sameDocuments hold home.database, hown]
      rfl
    | some d =>
      rw [hown] at hgone
      have hafter : (new.database home.database).documents.get? id = none :=
        hgone.became id d List.mem_cons_self
      rw [Home.own?, hafter]
      rfl

/-! ## Removing -/

/-- The model's own document under an identifier is removed.  If there is none, nothing is. -/
theorem run_remove (hname : home.database = .text name) (hm : m.server.IsSound)
    (s : Session) (id : String) :
    ∃ m', ((remove s home id).onRefusal .notFound do
          s.note .delete .debug (id ++ " already gone")
          return false).run Memory.backend m = (.ok (home.own? m.server id).isSome, m') ∧
      home.Becomes Gone ((home.own? m.server id).map fun d =>
        (id, d)).toList m.server m'.server := by
  cases hstored : home.stored? m.server id with
  | none =>
    have hown : home.own? m.server id = none := by
      rw [Home.own?]
      exact congrArg (Option.filter home.isOwn) hstored
    obtain ⟨m', hnote, hserver⟩ := s.run_note_alone .delete .debug (id ++ " already gone") m
    refine ⟨m', ?_, ?_⟩
    · rw [run_onRefusal, remove, run_bind_error (run_get_absent home hstored), hown]
      exact (if_pos rfl).trans (run_bind_ok hnote)
    · rw [hown, hserver]
      exact Home.becomes_nil hm (.refl m.server)
  | some d =>
    obtain ⟨hid, hrev⟩ := entry_of_stored ((hm home.database).stored id d hstored)
    cases howned : home.isOwn d with
    | true =>
      have hown : home.own? m.server id = some d := Home.own?_eq_some.2 ⟨hstored, howned⟩
      obtain ⟨m', hsend, hgone⟩ := run_removal hname hm hstored
      refine ⟨m', run_onRefusal_ok ?_ _ _, by rw [hown]; exact hgone⟩
      rw [remove, run_bind_ok (run_get home hstored), run_bind_lift (home.owns_stored d),
        howned, if_pos rfl, run_bind_lift hid, run_bind_lift hrev, hown]
      exact run_bind_ok hsend
    | false =>
      have hown : home.own? m.server id = none := by
        rw [Home.own?]
        exact (congrArg (Option.filter home.isOwn) hstored).trans
          (Option.filter_some_neg (by simp [howned]))
      obtain ⟨m', hnote, hserver⟩ :=
        s.run_note_alone .delete .debug (id ++ " belongs to another model") m
      refine ⟨m', run_onRefusal_ok ?_ _ _, ?_⟩
      · rw [remove, run_bind_ok (run_get home hstored), run_bind_lift (home.owns_stored d), howned,
          if_neg Bool.false_ne_true, hown]
        exact run_bind_ok hnote
      · rw [hown, hserver]
        exact Home.becomes_nil hm (.refl m.server)

/-! ## Deleting -/

section

variable (hs : s.schema.isTyped = true)
  (hhome : ∃ stored, s.schema.modelName (.text model) = .ok stored ∧ home = s.homeOf stored)
  (hfilter : s.schema.filter (.text model) filter = .ok f)

include hs hhome hfilter

/-- Deleting removes the model's own document under the identifier that is the target of its
    filter. -/
theorem run_delete_of_target (hm : m.server.Reached) {key : Option String}
    (htarget : ∀ m₁, m.server.Alike m₁.server →
      ∃ m₂, (s.target home f).run Memory.backend m₁ = (.ok key, m₂) ∧ m.server.Alike m₂.server) :
    ∃ m', (s.delete (.text model) filter).run Memory.backend m = (.ok .null, m') ∧
      home.Becomes Gone (key.bind fun id => (home.own? m.server id).map fun d => (id, d)).toList
        m.server m'.server := by
  obtain ⟨-, name, -, hname⟩ := home_names hs hhome
  obtain ⟨m₁, hrun₁, halike₁⟩ := run_home hs model hhome m
  obtain ⟨m₂, hrun₂, halike₂⟩ := htarget m₁ halike₁
  have hm₂ : m₂.server.IsSound :=
    (Memory.reached_of_run (Memory.reached_of_run hm hrun₁) hrun₂).isSound
  unfold delete
  rw [run_bind_ok hrun₁, run_bind_lift hfilter]
  cases key with
  | none =>
    obtain ⟨m₃, hnote, hserver₃⟩ := s.run_note_alone .delete .debug
      ("model=" ++ (Value.text model).written ++ " nothing to delete") m₂
    refine ⟨m₃, ?_, ?_⟩
    · refine (run_bind_ok (run_guarded_ok ((run_bind_ok hrun₂).trans (run_bind_ok hnote)) s .delete
        (.text model))).trans ?_
      rfl
    · exact Home.becomes_nil (hserver₃ ▸ hm₂) (hserver₃ ▸ halike₂.documents)
  | some id =>
    obtain ⟨m₃, hremove, hgone⟩ := run_remove hname hm₂ s id
    rw [Home.own?_of_alike halike₂] at hremove hgone
    have hgone := hgone.of_sameDocuments halike₂.documents
    cases hown : home.own? m.server id with
    | none =>
      rw [hown] at hremove hgone
      refine ⟨m₃, ?_, by rwa [Option.bind_some, hown]⟩
      refine (run_bind_ok
        (run_guarded_ok ((run_bind_ok hrun₂).trans (run_bind_ok hremove)) s .delete
        (.text model))).trans ?_
      rfl
    | some d =>
      rw [hown] at hremove hgone
      obtain ⟨m₄, hnote, hserver₄⟩ := s.run_note_alone .delete .debug
        ("model=" ++ (Value.text model).written ++ " deleted " ++ id) m₃
      refine ⟨m₄, ?_, by rwa [Option.bind_some, hown, hserver₄]⟩
      refine (run_bind_ok
        (run_guarded_ok ((run_bind_ok hrun₂).trans (run_bind_ok hremove)) s .delete
        (.text model))).trans ?_
      exact run_bind_ok hnote

/-- Deleting fails where its filter has no target, not even none. -/
theorem run_delete_fails {e : Failure}
    (htarget : ∀ m₁ : Memory, m.server.Alike m₁.server →
      ∃ m₂, (s.target home f).run Memory.backend m₁ = (.error e, m₂) ∧ m.server.Alike m₂.server) :
    ∃ m', (s.delete (.text model) filter).run Memory.backend m = (.error e, m') ∧
      m.server.Alike m'.server := by
  obtain ⟨m₁, hrun₁, halike₁⟩ := run_home hs model hhome m
  obtain ⟨m₂, hrun₂, halike₂⟩ := htarget m₁ halike₁
  unfold delete
  rw [run_bind_ok hrun₁, run_bind_lift hfilter]
  obtain ⟨m₃, hguarded, hserver₃⟩ :=
    run_guarded_alone (run_bind_error hrun₂) s .delete (.text model)
  exact ⟨m₃, run_bind_error hguarded, by rwa [hserver₃]⟩

/-- Deleting by a filter that names a document removes that, if it is the model's own. -/
theorem run_delete_named (hm : m.server.Reached) {id : String} (hid : f.identifier? = some id) :
    ∃ m', (s.delete (.text model) filter).run Memory.backend m = (.ok .null, m') ∧
      home.Becomes Gone ((home.own? m.server id).map fun d =>
        (id, d)).toList m.server m'.server := by
  have hcombinator : Selector.isCombinator "_id" = false := by decide
  obtain ⟨selector, hselector, -⟩ :=
    Filter.selector_means hcombinator f (Filter.isPlain_of_named hid)
  have hnamed := Filter.identifier_of_selector hselector
  rw [hid] at hnamed
  exact run_delete_of_target hs hhome hfilter hm fun m₁ halike =>
    ⟨m₁, run_target_named s home hnamed m₁, halike⟩

/-- Deleting by a filter that names none removes the first that it selects. -/
theorem run_delete_selected (hm : m.server.Reached) (hagrees : home.Agrees)
    (hid : f.identifier? = none) (hfound : s.Selects home f m.server found) :
    ∃ m', (s.delete (.text model) filter).run Memory.backend m = (.ok .null, m') ∧
      home.Becomes Gone found.head?.toList m.server m'.server := by
  have hunnamed : f.identifier = .ok none := by
    obtain ⟨selector, hselector, -⟩ := hfound
    obtain ⟨unscoped, hunscoped, -⟩ := exists_of_bind_ok hselector
    rw [Filter.identifier_of_selector hunscoped, hid]
  obtain ⟨m', hrun, hgone⟩ := run_delete_of_target hs hhome hfilter hm fun m₁ halike =>
    run_target_selected hunnamed hm.isSound hfound halike
  have hfirst : ((found.head?.map Prod.fst).bind fun id =>
        (home.own? m.server id).map fun d => (id, d)) = found.head? := by
    cases hhead : found.head? with
    | none => rfl
    | some entry =>
      obtain ⟨id, d⟩ := entry
      rw [Option.map_some, Option.bind_some,
        hfound.own hagrees hm.isSound (List.mem_of_head? hhead)]
      rfl
  exact ⟨m', hrun, hfirst ▸ hgone⟩

/-- Deleting by a filter that names none fails, if it selects nothing at all, not even no
    documents. -/
theorem run_delete_unselected (hid : f.identifier? = none)
    (hnone : ∀ found, ¬s.Selects home f m.server found) :
    ∃ e m', (s.delete (.text model) filter).run Memory.backend m = (.error e, m') ∧
      m.server.Alike m'.server := by
  rcases f.identifier_cases with ⟨hfails, -⟩ | ⟨hunnamed, -⟩ | ⟨c, -, -, -, hnamed, -⟩
  · exact ⟨_, run_delete_fails hs hhome hfilter fun m₁ halike =>
      ⟨m₁, run_bind_lift_error hfails _ _, halike⟩⟩
  · obtain ⟨e, htarget⟩ := run_target_unselected hunnamed hnone
    exact ⟨e, run_delete_fails hs hhome hfilter htarget⟩
  · cases hid.symm.trans hnamed

/-- Deleting by a filter that names fields, and is not plain, is refused for a text that one of its
    conditions lacks. -/
theorem run_delete_refused (hkey : s.idKey.isKey = true) (hwhole : f.isWhole = true)
    (hnamed : ∀ c ∈ f.leaves, c.isNamed = true) (hf : f.isPlain = false) :
    ∃ relation m', f.LacksText relation ∧ (s.delete (.text model) filter).run Memory.backend m =
        (.error (.query (.textRequired relation)), m') ∧ m.server.Alike m'.server := by
  obtain ⟨relation, hlacks, hselector⟩ := selector_refused home hkey hnamed hwhole hf
  -- A filter without an identifier that can be read would be refused for another reason.
  have hunnamed : f.identifier = .ok none := by
    rcases f.identifier_cases with ⟨-, hfails, -⟩ | ⟨hunnamed, -⟩ | ⟨c, -, -, -, hident, -⟩
    · rw [Session.selector, hfails] at hselector
      cases hselector
    · exact hunnamed
    · cases hf.symm.trans (Filter.isPlain_of_named hident)
  obtain ⟨m', hrun, halike⟩ := run_delete_fails hs hhome hfilter fun m₁ halike =>
    ⟨m₁, run_target_refused hunnamed hselector m₁, halike⟩
  exact ⟨relation, m', hlacks, hrun, halike⟩

/-- Deleting by a plain filter removes its target. -/
theorem run_delete_plain (hm : m.server.Reached)
    (htag : ∀ field, home.tagField = some field →
      '.' ∉ field.toList ∧ Selector.isCombinator field = false)
    {idKey : String} (hkey : s.idKey = .text idKey) (hid : Selector.isCombinator idKey = false)
    (hf : f.isPlain = true) :
    ∃ m', (s.delete (.text model) filter).run Memory.backend m = (.ok .null, m') ∧
      home.Becomes Gone (home.target? m.server idKey f).toList m.server m'.server := by
  obtain ⟨stored, -, hstored, -⟩ := home_names hs hhome
  rw [Home.target?]
  cases hident : f.identifier? with
  | some id => exact run_delete_named hs hhome hfilter hm hident
  | none =>
    exact run_delete_selected hs hhome hfilter hm
      (Home.agrees_of_separate ⟨stored, hstored⟩ htag) hident
      (selects_of_isPlain ⟨stored, hstored⟩ htag hkey hid hf m.server)

end

/-- **Deleting removes the target of its filter.**  Take any model, any filter that can be read, and
    anything stored.

    - Deleting by a plain filter ends well.  It removes the model's own document under the
      identifier that the filter names, or if it names none, the first of the model's own documents
      that meet it; and if there is no such document, nothing.
    - A filter whose conditions name fields, and that is not plain, is refused, and nothing is
      removed.  What it is refused for is a text that one of its conditions lacks, if nothing stands
      in it that is no filter.
    - Whatever the filter is, at most one document is removed, and it is the model's own; or
      deleting fails, and nothing is removed.
    - By one equality on the identifier, deleting once more changes nothing.

    No other document changes, in any database. -/
theorem delete_removes_target (hs : s.schema.isTyped = true) (hm : m.server.Reached)
    (hhome : ∃ stored, s.schema.modelName (.text model) = .ok stored ∧ home = s.homeOf stored)
    (htag : ∀ field, home.tagField = some field →
      '.' ∉ field.toList ∧ Selector.isCombinator field = false)
    (hfilter : s.schema.filter (.text model) filter = .ok f) :
    (∀ idKey, s.idKey = .text idKey → Selector.isCombinator idKey = false → f.isPlain = true →
      ∃ m', (s.delete (.text model) filter).run Memory.backend m = (.ok .null, m') ∧
        home.Becomes Gone (home.target? m.server idKey f).toList m.server m'.server) ∧
    ((∀ c ∈ f.leaves, c.isNamed = true) → f.isPlain = false →
      ∃ e m', (s.delete (.text model) filter).run Memory.backend m = (.error e, m') ∧
        m.server.Alike m'.server) ∧
    (s.idKey.isKey = true → f.isWhole = true → (∀ c ∈ f.leaves, c.isNamed = true) →
      f.isPlain = false →
      ∃ relation m', f.LacksText relation ∧ (s.delete (.text model) filter).run Memory.backend m =
          (.error (.query (.textRequired relation)), m') ∧ m.server.Alike m'.server) ∧
    ((∃ target m', (s.delete (.text model) filter).run Memory.backend m = (.ok .null, m') ∧
        (∀ id d, target = some (id, d) → home.own? m.server id = some d) ∧
        home.Becomes Gone target.toList m.server m'.server) ∨
      ∃ e m', (s.delete (.text model) filter).run Memory.backend m = (.error e, m') ∧
        m.server.Alike m'.server) ∧
    (∀ c, f = .test c → c.isIdentifier = true → c.operator = .known .eq → s.idKey = .text "_id" →
      ∃ m' m'', (s.delete (.text model) filter).run Memory.backend m = (.ok .null, m') ∧
        (s.delete (.text model) filter).run Memory.backend m' = (.ok .null, m'') ∧
        m'.server.SameDocuments m''.server) := by
  obtain ⟨stored, -, hstored, -⟩ := home_names hs hhome
  have hagrees := Home.agrees_of_separate ⟨stored, hstored⟩ htag
  refine ⟨fun _ hkey hid hf =>
    run_delete_plain hs hhome hfilter hm htag hkey hid hf, fun hnamed hf => ?_,
    run_delete_refused hs hhome hfilter, ?_, ?_⟩
  · refine run_delete_unselected hs hhome hfilter ?_ fun found =>
      unselected_of_isNamed hnamed hf found
    cases hident : f.identifier? with
    | none => rfl
    | some id => cases hf.symm.trans (Filter.isPlain_of_named hident)
  · cases hident : f.identifier? with
    | some id =>
      obtain ⟨m', hrun, hgone⟩ := run_delete_named hs hhome hfilter hm hident
      refine .inl ⟨_, m', hrun, fun key d htarget => ?_, hgone⟩
      obtain ⟨d', hown, heq⟩ := Option.map_eq_some_iff.1 htarget
      obtain ⟨rfl, rfl⟩ := Prod.mk.inj heq
      exact hown
    | none =>
      by_cases hfound : ∃ found, s.Selects home f m.server found
      · obtain ⟨found, hfound⟩ := hfound
        obtain ⟨m', hrun, hgone⟩ := run_delete_selected hs hhome hfilter hm hagrees hident hfound
        exact .inl ⟨_, m', hrun, fun _ _ hhead =>
          hfound.own hagrees hm.isSound (List.mem_of_head? hhead), hgone⟩
      · exact .inr (run_delete_unselected hs hhome hfilter hident (not_exists.1 hfound))
  · rintro c rfl hid hop hkey
    have hcombinator : Selector.isCombinator "_id" = false := by decide
    have hplain : (Filter.test c).isPlain = true := Condition.isPlain_of_isIdentifier hid hop
    obtain ⟨m', hrun, hgone⟩ := run_delete_plain hs hhome hfilter hm htag hkey hcombinator hplain
    have hm' := Memory.reached_of_run hm hrun
    obtain ⟨m'', hagain, hnothing⟩ :=
      run_delete_plain hs hhome hfilter hm' htag hkey hcombinator hplain
    rw [target?_of_gone hid hop hm.isSound hgone] at hnothing
    exact ⟨m', m'', hrun, hagain, hnothing.sameDocuments hm'.isSound⟩

/-- Three users and a group, of whom all but the first user match.  Deleting removes the second
    user, because the first does not match and the third comes later.  Deleting the third user by
    name removes him, and deleting him once more changes nothing. -/
theorem delete_removes_second_user :
    let m := Memory.start (Server.serveAll
      [.insert (.text "app_auth") [("_id", .text "g1"), ("doc_type", .text "group"), ("n", .int 0)],
        .insert (.text "app_auth") [("_id", .text "u3"), ("doc_type", .text "user"), ("n", .int 0)],
        .insert (.text "app_auth") [("_id", .text "u2"), ("doc_type", .text "user"), ("n", .int 0)],
        .insert (.text "app_auth") [("_id", .text "u1"), ("doc_type", .text "user"), ("n", .int 1)]]
      (.empty none .null))
    let home := standard.homeOf (.text "user")
    let byValue : Value := .list [.object [("field", .text "n"), ("value", .int 0)]]
    let byName : Value := .list [.object [("field", .text "id"), ("value", .text "u3")]]
    (∃ m', (standard.delete (.text "user") byValue).run Memory.backend m = (.ok .null, m') ∧
      home.stored? m'.server "u2" = none ∧
      ∀ id ∈ ["u1", "u3", "g1"], home.stored? m'.server id = home.stored? m.server id) ∧
    ∃ m' m'', (standard.delete (.text "user") byName).run Memory.backend m = (.ok .null, m') ∧
      (standard.delete (.text "user") byName).run Memory.backend m' = (.ok .null, m'') ∧
      m'.server.SameDocuments m''.server := by
  intro m home byValue byName
  have hm : m.server.Reached := .serve _ (.serve _ (.serve _ (.serve _ (.empty none .null))))
  have hhome := home_standard "user"
  have htag : ∀ field, home.tagField = some field →
      '.' ∉ field.toList ∧ Selector.isCombinator field = false := by
    rintro _ ⟨⟩
    decide
  have hvalue : standard.schema.filter (.text "user") byValue =
    .ok (.test ⟨.text "n", .int 0, .known .eq, .and⟩) := rfl
  have hname : standard.schema.filter (.text "user") byName =
      .ok (.test ⟨.text "id", .text "u3", .known .eq, .and⟩) := rfl
  refine ⟨?_, (delete_removes_target (s := standard) rfl hm hhome htag hname).2.2.2.2 _
    rfl rfl rfl rfl⟩
  obtain ⟨m', hrun, hgone⟩ := (delete_removes_target (s := standard) rfl hm hhome htag hvalue).1
    "_id" rfl (by decide) rfl
  have htarget :
      (home.target? m.server "_id" (.test ⟨.text "n", .int 0, .known .eq, .and⟩)).map Prod.fst =
      some "u2" := by decide +kernel
  obtain ⟨⟨_, d⟩, hd, rfl⟩ := Option.map_eq_some_iff.1 htarget
  rw [hd] at hgone
  refine ⟨m', hrun, hgone.became "u2" d List.mem_cons_self, fun id hid =>
    hgone.others home.database id (.inr ?_)⟩
  have hne : id ≠ "u2" := by
    rintro rfl
    exact absurd hid (by decide)
  simpa using hne

/-- Whether a text contains a number is no question, and deleting by it is refused; so is deleting
    by the value of a field named like a combinator, when a document is stored. -/
theorem delete_refuses_number :
    let m := ((standard.create (.text "user") (.object [("id", .text "u1")]) .null).run
      Memory.backend (Memory.start (.empty none .null))).2
    let contains : Value :=
      .list [.object [("field", .text "name"), ("operator", .text "contains"), ("value", .int 5)]]
    let combined : Value := .list [.object [("field", .text "$and"), ("value", .int 1)]]
    standard.schema.filter (.text "user") contains =
        .ok (.test ⟨.text "name", .int 5, .known .contains, .and⟩) ∧
      ((standard.delete (.text "user") contains).run Memory.backend m).1 =
        .error (.query (.textRequired .contains)) ∧
      standard.schema.filter (.text "user") combined =
        .ok (.test ⟨.text "$and", .int 1, .known .eq, .and⟩) ∧
      ((standard.delete (.text "user") combined).run Memory.backend m).1 = .error .notObject := by
  refine ⟨rfl, ?_, rfl, ?_⟩
  · rfl
  · rfl

end Session

end DocStore
