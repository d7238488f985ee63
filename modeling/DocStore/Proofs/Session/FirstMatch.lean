/-
  One match and all matches.

  `findOne` looks a document up when a filter names it, and else asks for the first match of the
  selector.  `findMany` always goes by the selector.  The two agree, up to one kind of filter.

  1. **What names a document** — a filter either cannot be read for an identifier, and then it has
     no selector either; or it names none; or it is one equality on the identifier
     (`Filter.identifier_cases`).

  2. **Refused searches** — where a filter cannot be read or has no selector, both searches fail for
     that (`run_findMany_refused`, `run_findOne_refused`).

  3. **Selecting by identifier** — identifiers are texts, so an equality selects the one document
     under the text that it names, and nothing when it names something else (`accepted_named`).

  4. **The two together** (`findOne_is_first`) — both fail alike, or the one match is the first of
     all matches, and null if there is none (`FirstOf`).  The exception are filters that name an
     identifier by something else than a text: looking up goes by the written form of it, and
     selecting does not.
-/
import DocStore.Proofs.Session.Named
import DocStore.Proofs.Session.Scan

namespace DocStore

open Program

/-! ## What names a document -/

/-- An equality on the identifier is plain. -/
theorem Condition.isPlain_of_isIdentifier {c : Condition} (hid : c.isIdentifier = true)
    (hop : c.operator = .known .eq) : c.isPlain = true := by
  obtain ⟨field, value, operator, connector⟩ := c
  obtain rfl : operator = .known .eq := hop
  cases field with
  | text name =>
    have hname : name = "id" ∨ name = "_id" := by simpa [isIdentifier, isIdentifierField] using hid
    rcases hname with rfl | rfl <;> rfl
  | _ => cases hid

namespace Filter

/-- Whether a filter names a document by something else than a text. -/
def misnames : Filter → Bool
  | .test c => (identifier? (.test c)).isSome && !c.value.isText
  | _ => false

/-- A filter that names no identifier does not misname one. -/
theorem misnames_of_none {f : Filter} (h : f.identifier? = none) : f.misnames = false := by
  cases f with
  | test c => rw [misnames, h]; rfl
  | _ => rfl

/-- Reading a filter for the identifier that it names fails as its selector does, or gives none, or
    the filter is one equality. -/
theorem identifier_cases (f : Filter) :
    (f.identifier = .error .wrongKind ∧ (∀ idKey, f.selector idKey = .error .wrongKind) ∧
        f.misnames = false) ∨
      (f.identifier = .ok none ∧ f.misnames = false) ∨
      ∃ c, f = .test c ∧ c.isIdentifier = true ∧ c.operator = .known .eq ∧
        f.identifier? = some c.value.written ∧ f.identifier = .ok (some c.value.written) := by
  cases f with
  | test c =>
    by_cases hkey : c.field.isKey = true
    · have hident : identifier (.test c) = .ok (identifier? (.test c)) := if_pos hkey
      rw [hident]
      cases hnamed : identifier? (.test c) with
      | none => exact .inr (.inl ⟨rfl, misnames_of_none hnamed⟩)
      | some id =>
        rw [identifier?] at hnamed
        split at hnamed
        · rename_i hc
          -- Null and the empty text name nothing.
          split at hnamed
          · cases hnamed
          · cases hnamed
          · obtain rfl := Option.some.inj hnamed
            exact .inr (.inr ⟨c, rfl, hc.1, hc.2, rfl, rfl⟩)
        · cases hnamed
    · -- The fields of the identifier can be keys, so this is another one.
      have hid : ¬ c.isIdentifier = true := by
        intro hid
        obtain ⟨field, value, operator, connector⟩ := c
        cases field with
        | text name => exact hkey rfl
        | _ => cases hid
      have hnone : identifier? (.test c) = none := if_neg fun hc => hid hc.1
      exact .inl ⟨if_neg hkey, fun idKey => if_neg hkey, misnames_of_none hnone⟩
  | anything => exact .inr (.inl ⟨rfl, rfl⟩)
  | group kind members => exact .inr (.inl ⟨rfl, rfl⟩)
  | stray v => exact .inr (.inl ⟨rfl, rfl⟩)

end Filter

/-! ## Refused searches -/

variable {server : Server} {m : Memory} {name selector : Value} {e : Failure}

namespace Session

variable {s : Session} {home : Home} {model : String} {f : Filter} {filter : Value}
  {docs : List Value}

/-- A search for all matches is refused when its filter cannot be read or has no selector. -/
theorem run_findMany_refused (hs : s.schema.isTyped = true)
    (hhome : ∃ stored, s.schema.modelName (.text model) = .ok stored ∧ home = s.homeOf stored)
    (h : (s.schema.filter (.text model) filter >>= fun f => s.selector home f) = .error e)
    (m : Memory) :
    ∃ m', (s.findMany (.text model) filter ⟨.null, .null, .null, .null⟩ .null).run
          Memory.backend m = (.error e, m') ∧ m.server.Alike m'.server := by
  obtain ⟨m₁, hrun₁, halike₁⟩ := run_home hs model hhome m
  refine ⟨m₁, ?_, halike₁⟩
  unfold findMany
  rw [run_bind_ok hrun₁]
  cases hfilter : s.schema.filter (.text model) filter with
  | error e' =>
    rw [hfilter] at h
    obtain rfl := Except.error.inj h
    exact run_bind_lift_error rfl _ _
  | ok f =>
    rw [hfilter] at h
    exact (run_bind_lift rfl _ _).trans (run_bind_lift_error h _ _)

/-- A search for one match is refused when its filter cannot be read. -/
theorem run_findOne_refused (hs : s.schema.isTyped = true)
    (hhome : ∃ stored, s.schema.modelName (.text model) = .ok stored ∧ home = s.homeOf stored)
    (hfilter : s.schema.filter (.text model) filter = .error e) (m : Memory) :
    ∃ m', (s.findOne (.text model) filter .null).run Memory.backend m = (.error e, m') ∧
      m.server.Alike m'.server := by
  obtain ⟨m₁, hrun₁, halike₁⟩ := run_home hs model hhome m
  refine ⟨m₁, ?_, halike₁⟩
  unfold findOne
  rw [run_bind_ok hrun₁]
  exact run_bind_lift_error hfilter _ _

/-- A lookup that goes by its selector asks for the first match. -/
theorem run_lookUp_selected {s : Session} {home : Home} (model : Value)
    (hid : f.identifier = .ok none) (hselector : s.selector home f = .ok selector)
    {answer : Except Failure Page} (hfind : ∀ m₁ : Memory, server.Alike m₁.server → ∃ m₂,
      (send (.find home.database (firstOnly selector))).run Memory.backend m₁ = (answer, m₂) ∧
        server.Alike m₂.server)
    (halike : server.Alike m.server) :
    ∃ m', (s.lookUp home model f).run Memory.backend m =
        (answer.map fun page => page.docs.head?, m') ∧
      server.Alike m'.server := by
  obtain ⟨m₁, hrun₁, hserver₁⟩ := s.run_note_alone .findOne .debug
    ("model=" ++ model.written ++ " selector=" ++ selector.shown) m
  obtain ⟨m₂, hrun₂, halike₂⟩ := hfind m₁ (by rwa [hserver₁])
  refine ⟨m₂, ?_, halike₂⟩
  unfold lookUp
  rw [run_bind_lift hid]
  dsimp only
  rw [run_bind_lift hselector]
  refine (run_bind_ok hrun₁).trans ?_
  cases answer with
  | error e => exact run_bind_error hrun₂
  | ok page => exact run_bind_ok hrun₂

/-! ## Selecting by identifier -/

/-- An equality on the identifier holds of a document that stands under a text when that is the
    value named. -/
theorem holds_named {c : Condition} (hid : c.isIdentifier = true)
    (hop : c.operator = .known .eq) {draws : Nat} {id : String} {d : Stored}
    (hd : d.IsSound draws id) :
    (Filter.test c).holds "_id" (.object d.fields) = (Value.text id).same c.value := by
  have hat : (Value.object d.fields).at? "_id" = some (.text id) :=
    (Value.at?_object (by decide) d.fields).trans hd.named
  rw [← Value.text_equals]
  show c.holds "_id" (.object d.fields) = _
  simp [Condition.holds, Condition.storedField, hid, hop, hat, Relation.holds]

/-- A document is selected by an equality on the identifier when it stands under a text that is the
    value named, and is the model's own. -/
theorem accepts_named (hagrees : home.Agrees) (hkey : s.idKey = .text "_id") {c : Condition}
    (hid : c.isIdentifier = true) (hop : c.operator = .known .eq)
    (hselector : s.selector home (.test c) = .ok selector) {draws : Nat} {id : String} {d : Stored}
    (hd : d.IsSound draws id) :
    Selector.accepts selector (.object d.fields) =
      ((Value.text id).same c.value && home.isOwn d) := by
  have hcombinator : Selector.isCombinator "_id" = false := by decide
  obtain ⟨unscoped, hunscoped, htest⟩ :=
    Filter.selector_means hcombinator (.test c) (Condition.isPlain_of_isIdentifier hid hop)
  have hscope : home.scope unscoped = selector := by
    rw [Session.selector, hkey, hunscoped] at hselector
    exact Except.ok.inj hselector
  rw [Bool.eq_iff_iff, Selector.accepts_iff, ← hscope, hagrees _ _ _ (htest _),
    holds_named hid hop hd, home.owns_stored, Bool.and_eq_true, Except.ok.injEq]

/-- **An equality on the identifier selects what is found under it**, if it names a text, and else
    nothing. -/
theorem accepted_named (hagrees : home.Agrees) (hkey : s.idKey = .text "_id") {c : Condition}
    (hid : c.isIdentifier = true) (hop : c.operator = .known .eq)
    (hselector : s.selector home (.test c) = .ok selector) (hserver : server.IsSound) :
    (server.database home.database).contents.filter (Selector.accepts selector) =
      match c.value with
      | .text id => (home.own? server id).toList.map fun d => .object d.fields
      | _ => [] := by
  obtain ⟨hordered, hstored⟩ := hserver home.database
  have hfilter : (server.database home.database).contents.filter (Selector.accepts selector) =
      (((server.database home.database).documents.filter fun entry =>
        (Value.text entry.1).same c.value && home.isOwn entry.2).map Prod.snd).map fun d =>
          .object d.fields := by
    rw [Database.contents, List.filter_map, List.map_map]
    congr 1
    refine List.filter_congr fun entry hmem => ?_
    exact accepts_named hagrees hkey hid hop hselector
      (hstored entry.1 entry.2 ((Table.mem_iff_get? hordered).1 hmem))
  rw [hfilter]
  by_cases htext : ∃ id, c.value = .text id
  · obtain ⟨id, hvalue⟩ := htext
    rw [hvalue]
    have hname : ∀ entry : String × Stored,
        ((Value.text entry.1).same (.text id) && home.isOwn entry.2) =
        (decide (entry.1 = id) && home.isOwn entry.2) := fun entry => by simp [Value.same]
    simp only [hname]
    rw [Table.filter_name hordered]
    rfl
  · have hnone : (server.database home.database).documents.filter (fun entry =>
        (Value.text entry.1).same c.value && home.isOwn entry.2) = [] :=
      List.filter_eq_nil_iff.2 fun entry _ h =>
        htext ⟨entry.1, Value.text_same_iff.1 (Bool.and_eq_true_iff.1 h).1⟩
    rw [hnone]
    split
    · rename_i id hvalue
      exact absurd ⟨id, hvalue⟩ htext
    · rfl

/-! ## The two together -/

/-- What is shown of a document is a document. -/
theorem object_of_output {model doc v : Value} (h : s.output home model .null doc = .ok v) :
    ∃ fields, v = .object fields := by
  obtain ⟨fields, -, h⟩ := exists_of_bind_ok h
  obtain ⟨shown, -, h⟩ := exists_of_bind_ok h
  exact ⟨_, (Except.ok.inj h).symm⟩

/-- What a search for one match comes to, and what a search for all comes to after it.  Neither
    changes what is stored. -/
def Searched (s : Session) (model : String) (filter : Value) (m : Memory)
    (one many : Except Failure Value) : Prop :=
  ∃ m₁ m₂, (s.findOne (.text model) filter .null).run Memory.backend m = (one, m₁) ∧
    (s.findMany (.text model) filter ⟨.null, .null, .null, .null⟩ .null).run Memory.backend m₁ =
      (many, m₂) ∧
    m.server.Alike m₂.server

/-- When the one match and all matches agree. -/
inductive FirstOf : (one many : Except Failure Value) → Prop
  /-- Both searches fail alike. -/
  | failed (e : Failure) : FirstOf (.error e) (.error e)
  /-- There is no match. -/
  | none : FirstOf (.ok .null) (.ok (.list []))
  /-- The one match is the first of all. -/
  | first {v : Value} (hv : v ≠ .null) (rest : List Value) :
      FirstOf (.ok v) (.ok (.list (v :: rest)))

/-- What each search comes to on its own, they come to one after the other. -/
theorem searched_of_runs {one many : Except Failure Value}
    (hone : ∃ m₁, (s.findOne (.text model) filter .null).run Memory.backend m = (one, m₁) ∧
      m.server.Alike m₁.server)
    (hmany : ∀ m₁ : Memory, m.server.Alike m₁.server → ∃ m₂,
      (s.findMany (.text model) filter ⟨.null, .null, .null, .null⟩ .null).run Memory.backend m₁ =
          (many, m₂) ∧
        m.server.Alike m₂.server) : s.Searched model filter m one many := by
  obtain ⟨m₁, hone, halike₁⟩ := hone
  obtain ⟨m₂, hmany, halike₂⟩ := hmany m₁ halike₁
  exact ⟨m₁, m₂, hone, hmany, halike₂⟩

/-- Where the search for one match fails as the filter is read or its selector is made, so does that
    for all. -/
theorem searched_refused (hs : s.schema.isTyped = true)
    (hhome : ∃ stored, s.schema.modelName (.text model) = .ok stored ∧ home = s.homeOf stored)
    (hone : ∃ m₁, (s.findOne (.text model) filter .null).run Memory.backend m = (.error e, m₁) ∧
      m.server.Alike m₁.server)
    (h : (s.schema.filter (.text model) filter >>= fun f => s.selector home f) = .error e) :
    s.Searched model filter m (.error e) (.error e) := by
  refine searched_of_runs hone fun m₁ halike₁ => ?_
  obtain ⟨m₂, hmany, halike₂⟩ := run_findMany_refused hs hhome h m₁
  exact ⟨m₂, hmany, halike₁.trans halike₂⟩

/-- What is shown of the first of a row comes first. -/
theorem firstOf_outputs {model : Value} {values : List Value}
    (h : s.outputs home model .null docs = .ok values) :
    FirstOf (match docs.head? with
      | some doc => s.output home model .null doc
      | none => .ok .null) (.ok (.list values)) := by
  cases docs with
  | nil =>
    obtain rfl := Except.ok.inj h
    exact .none
  | cons doc rest =>
    obtain ⟨first, hfirst, h⟩ := exists_of_bind_ok h
    obtain ⟨others, -, h⟩ := exists_of_bind_ok h
    obtain rfl := Except.ok.inj h
    obtain ⟨fields, rfl⟩ := object_of_output hfirst
    show FirstOf (s.output home model .null doc) _
    rw [hfirst]
    exact .first (fun h => Value.noConfusion h) others

/-- A filter that names no document is searched for in one way: by its selector. -/
theorem searched_selected (hs : s.schema.isTyped = true) (hsize : 1 ≤ s.settings.pageSize)
    (hhome : ∃ stored, s.schema.modelName (.text model) = .ok stored ∧ home = s.homeOf stored)
    (hbudget : (m.server.database home.database).documents.length < s.pageBudget)
    (hdigits : (m.server.database home.database).documents.length < 10 ^ Text.digitLimit)
    (hfilter : s.schema.filter (.text model) filter = .ok f) (hid : f.identifier = .ok none) :
    ∃ one many, s.Searched model filter m one many ∧ FirstOf one many := by
  have hpositive : 0 < s.pageBudget := Nat.lt_of_le_of_lt (Nat.zero_le _) hbudget
  cases hselector : s.selector home f with
  | error e =>
    have hlookUp : ∀ m₁ : Memory, m.server.Alike m₁.server → ∃ m₂,
        (s.lookUp home (.text model) f).run Memory.backend m₁ = (.error e, m₂) ∧
          m.server.Alike m₂.server := by
      intro m₁ halike₁
      refine ⟨m₁, ?_, halike₁⟩
      unfold lookUp
      rw [run_bind_lift hid]
      exact run_bind_lift_error hselector _ _
    exact ⟨.error e, .error e,
      searched_refused hs hhome (run_findOne hs hhome hfilter .null hlookUp)
      (by rw [hfilter]; exact hselector), .failed e⟩
  | ok selector =>
    by_cases htold : ∀ doc ∈ (m.server.database home.database).contents,
        ∃ answer, Selector.test selector doc = .ok answer
    · have hlists := Database.lists_plain m.server.sortable htold
      obtain ⟨values, hvalues, -⟩ := outputs_ok hs home (.text model) hlists.objects
      have hlookUp := fun (m₁ : Memory) (halike₁ : m.server.Alike m₁.server) =>
        run_lookUp_selected (.text model) hid hselector
          (fun _ halike => Memory.run_find hlists halike (Database.restrict_null _)
            (show Database.bookmarkPosition .null = .ok ((0 : Nat) : Int) from rfl)
            (show Value.skipped .null = .ok ((0 : Nat) : Int) from rfl) rfl 1) halike₁
      refine ⟨_, _, searched_of_runs (run_findOne hs hhome hfilter .null hlookUp) fun m₁ halike₁ =>
        run_findMany hs hsize hhome hfilter hselector hlists hbudget hdigits halike₁ hvalues, ?_⟩
      have hfirst := firstOf_outputs hvalues
      generalize (m.server.database home.database).contents.filter (Selector.accepts selector) =
        docs at hfirst ⊢
      cases docs with
      | nil => exact hfirst
      | cons doc rest => exact hfirst
    · obtain ⟨e, he⟩ := Database.matching_fails htold
      have hone := run_findOne hs hhome hfilter .null fun m₁ halike₁ =>
        run_lookUp_selected (.text model) hid hselector
          (fun m₂ halike₂ => Memory.run_find_fails he halike₂ (.int 1) .null .null .null) halike₁
      exact ⟨.error e, .error e, searched_of_runs hone fun m₁ halike₁ =>
        run_findMany_fails hs hhome hfilter hselector he hpositive halike₁, .failed e⟩

/-- A filter that names a document is searched for in two ways.  They find the same when it names
    the document by a text; else selecting finds nothing. -/
theorem searched_named (hs : s.schema.isTyped = true) (hsize : 1 ≤ s.settings.pageSize)
    (hkey : s.idKey = .text "_id") (hserver : m.server.IsSound)
    (hhome : ∃ stored, s.schema.modelName (.text model) = .ok stored ∧ home = s.homeOf stored)
    (htag : ∀ field, home.tagField = some field →
      '.' ∉ field.toList ∧ Selector.isCombinator field = false)
    (hbudget : (m.server.database home.database).documents.length < s.pageBudget)
    (hdigits : (m.server.database home.database).documents.length < 10 ^ Text.digitLimit)
    {c : Condition} (hfilter : s.schema.filter (.text model) filter = .ok (.test c))
    (hid : c.isIdentifier = true) (hop : c.operator = .known .eq)
    (hnamed : (Filter.test c).identifier = .ok (some c.value.written)) :
    ∃ one many, s.Searched model filter m one many ∧
      (c.value.isText = true → FirstOf one many) ∧
      (c.value.isText = false → many = .ok (.list []) ∧
        one = match home.own? m.server c.value.written with
          | some d => s.output home (.text model) .null (.object d.fields)
          | none => .ok .null) := by
  obtain ⟨stored, -, hstored, -⟩ := home_names hs hhome
  have hmodel : ∃ stored, home.model = .text stored := ⟨stored, hstored⟩
  have hplain : (Filter.test c).isPlain = true := Condition.isPlain_of_isIdentifier hid hop
  have hcombinator : Selector.isCombinator "_id" = false := by decide
  obtain ⟨unscoped, hunscoped, -⟩ := Filter.selector_means hcombinator (.test c) hplain
  have hselector : s.selector home (.test c) = .ok (home.scope unscoped) := by
    rw [Session.selector, hkey, hunscoped]
    rfl
  have htold : ∀ doc ∈ (m.server.database home.database).contents,
      ∃ answer, Selector.test (home.scope unscoped) doc = .ok answer := fun doc _ =>
    told_of_isPlain hplain hkey hcombinator (fun field h => (htag field h).2) hmodel hselector doc
  have hlists := Database.lists_plain m.server.sortable htold
  rw [accepted_named (Home.agrees_of_separate hmodel htag) hkey hid hop hselector hserver] at hlists
  obtain ⟨values, hvalues, -⟩ := outputs_ok hs home (.text model) hlists.objects
  refine ⟨_, _, searched_of_runs (run_findOne_named hs hhome hfilter hnamed .null m)
      fun m₁ halike₁ =>
    run_findMany hs hsize hhome hfilter hselector hlists hbudget hdigits halike₁ hvalues, ?_, ?_⟩
  · intro htext
    have hfirst := firstOf_outputs hvalues
    cases hvalue : c.value with
    | text id =>
      rw [hvalue] at hfirst
      show FirstOf (match home.own? m.server id with
        | some d => s.output home (.text model) .null (.object d.fields)
        | none => .ok .null) _
      cases hown : home.own? m.server id with
      | none => simpa [hown] using hfirst
      | some d => simpa [hown] using hfirst
    | _ => rw [hvalue] at htext; cases htext
  · intro htext
    refine ⟨?_, rfl⟩
    have hnone : s.outputs home (.text model) .null [] = .ok values := by
      cases hvalue : c.value with
      | text id => rw [hvalue] at htext; cases htext
      | _ => rwa [hvalue] at hvalues
    obtain rfl := Except.ok.inj hnone
    rfl

/-- **The one match is the first of all matches.**  Search for one match and then for all.  Either
    both fail, and alike; or there is none; or the one is the first of all.  The exception are
    filters that name an identifier by something else than a text: nothing is selected by them, and
    looking up goes by the written form of what is named.

    The page budget of the session only has to exceed the number of documents, and this number has
    to fit into a bookmark. -/
theorem findOne_is_first (hs : s.schema.isTyped = true) (hsize : 1 ≤ s.settings.pageSize)
    (hkey : s.idKey = .text "_id") (hm : m.server.Reached)
    (hhome : ∃ stored, s.schema.modelName (.text model) = .ok stored ∧ home = s.homeOf stored)
    (htag : ∀ field, home.tagField = some field →
      '.' ∉ field.toList ∧ Selector.isCombinator field = false)
    (hbudget : (m.server.database home.database).documents.length < s.pageBudget)
    (hdigits : (m.server.database home.database).documents.length < 10 ^ Text.digitLimit)
    (filter : Value) :
    ∃ one many, s.Searched model filter m one many ∧
      ((∀ f, s.schema.filter (.text model) filter = .ok f → f.misnames = false) →
        FirstOf one many) ∧
      ∀ f id, s.schema.filter (.text model) filter = .ok f → f.misnames = true →
        f.identifier? = some id → many = .ok (.list []) ∧
          one = match home.own? m.server id with
            | some d => s.output home (.text model) .null (.object d.fields)
            | none => .ok .null := by
  cases hfilter : s.schema.filter (.text model) filter with
  | error e =>
    exact ⟨.error e, .error e, searched_refused hs hhome (run_findOne_refused hs hhome hfilter m)
      (by rw [hfilter]; rfl), fun _ => .failed e, fun f id h => by cases h⟩
  | ok f =>
    rcases f.identifier_cases with ⟨hunread, hnone, hmisnames⟩ | ⟨hunnamed, hmisnames⟩ |
      ⟨c, rfl, hid, hop, hidentifier, hnamed⟩
    · have hlookUp := fun (m₁ : Memory) (halike₁ : m.server.Alike m₁.server) =>
        (⟨m₁, run_lookUp_refused s home (.text model) hunread m₁, halike₁⟩ : ∃ m₂,
          (s.lookUp home (.text model) f).run Memory.backend m₁ = (.error .wrongKind, m₂) ∧
            m.server.Alike m₂.server)
      have hselector : s.selector home f = .error .wrongKind := by
        rw [Session.selector, hnone]
        rfl
      refine ⟨.error .wrongKind, .error .wrongKind, searched_refused hs hhome
        (run_findOne hs hhome hfilter .null hlookUp) (by rw [hfilter]; exact hselector),
        fun _ => .failed _, ?_⟩
      rintro _ id ⟨⟩ hmis
      rw [hmisnames] at hmis
      cases hmis
    · obtain ⟨one, many, hsearched, hfirst⟩ :=
        searched_selected hs hsize hhome hbudget hdigits hfilter hunnamed
      refine ⟨one, many, hsearched, fun _ => hfirst, ?_⟩
      rintro _ id ⟨⟩ hmis
      rw [hmisnames] at hmis
      cases hmis
    · obtain ⟨one, many, hsearched, htext, hother⟩ :=
        searched_named hs hsize hkey hm.isSound hhome htag hbudget hdigits hfilter hid hop hnamed
      have hmisnames : (Filter.test c).misnames = !c.value.isText := by
        rw [Filter.misnames, hidentifier]
        rfl
      refine ⟨one, many, hsearched, fun h => htext ?_, ?_⟩
      · simpa [hmisnames] using h _ rfl
      · rintro _ id ⟨⟩ hmis hname
        rw [hidentifier] at hname
        obtain rfl := Option.some.inj hname
        exact hother (by simpa [hmisnames] using hmis)

/-- In a database of two models, a user whose identifier is given as it is stored is the first of
    the users of that identifier, and there is one. -/
theorem findOne_is_first_by_text :
    let m := Memory.start (Server.serveAll
      [.insert (.text "app_auth") [("_id", .text "5"), ("doc_type", .text "user")],
        .insert (.text "app_auth") [("_id", .text "6"), ("doc_type", .text "group")]]
          (.empty none .null))
    let filter : Value := .list [.object [("field", .text "id"), ("value", .text "5")]]
    ∃ v rest, v ≠ .null ∧ standard.Searched "user" filter m (.ok v) (.ok (.list (v :: rest))) := by
  intro m filter
  have hm : m.server.Reached := .serve _ (.serve _ (.empty none .null))
  have hhome := home_standard "user"
  obtain ⟨one, many, hsearched, hfirst, -⟩ := findOne_is_first (s := standard) rfl
    (by decide) rfl hm hhome (by rintro _ ⟨⟩; decide) (by decide +kernel) (by decide +kernel) filter
  have hfound :
      (((standard.findOne (.text "user") filter .null).run Memory.backend m).1.toOption.map
        Value.isNull) = some false := by decide +kernel
  obtain ⟨m₁, m₂, hone, hmany, halike⟩ := hsearched
  rw [hone] at hfound
  cases hfirst (by rintro f ⟨⟩; rfl) with
  | failed e => cases hfound
  | none => cases hfound
  | first hv rest => exact ⟨_, rest, hv, m₁, m₂, hone, hmany, halike⟩

/-- A user whose identifier is given as a number is found by looking up, but is not among all users
    of that identifier. -/
theorem not_first_by_number :
    let m := Memory.start (Server.serveAll
      [.insert (.text "app_auth") [("_id", .text "5"), ("doc_type", .text "user")]]
        (.empty none .null))
    let filter : Value := .list [.object [("field", .text "id"), ("value", .int 5)]]
    ∃ v, v ≠ .null ∧ standard.Searched "user" filter m (.ok v) (.ok (.list [])) ∧
      ¬ FirstOf (.ok v) (.ok (.list [])) := by
  intro m filter
  have hm : m.server.Reached := .serve _ (.empty none .null)
  have hhome := home_standard "user"
  have hfilter : standard.schema.filter (.text "user") filter =
      .ok (.test ⟨.text "id", .int 5, .known .eq, .and⟩) := rfl
  obtain ⟨one, many, hsearched, -, hother⟩ := searched_named (s := standard) rfl
    (by decide) rfl hm.isSound
    hhome (by rintro _ ⟨⟩; decide) (by decide +kernel) (by decide +kernel) hfilter rfl rfl rfl
  obtain ⟨rfl, -⟩ := hother rfl
  have hfound :
      (((standard.findOne (.text "user") filter .null).run Memory.backend m).1.toOption.map
        Value.isNull) = some false := by decide +kernel
  obtain ⟨m₁, m₂, hone, hmany, halike⟩ := hsearched
  rw [hone] at hfound
  cases one with
  | error e => cases hfound
  | ok v =>
    have hv : v ≠ .null := by
      rintro rfl
      cases hfound
    exact ⟨v, hv, ⟨m₁, m₂, hone, hmany, halike⟩, fun h => by cases h; exact hv rfl⟩

end Session

end DocStore
