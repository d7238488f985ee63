/-
  What all operations begin and end with.

  1. **Typed schemas** — a table of names may hold anything, but names are texts as a rule.  Under a
     schema in which they are (`Schema.isTyped`) the stored name of a model is a text, and a
     document going out can always be shown (`output_ok`), so no operation fails after its work is
     done.

  2. **Homes** — finding the home of a model opens its database and writes nothing.  The home is
     known beforehand, from the settings and the stored name of the model (`homeOf`, `home_within`).

  3. **Targets** — so with the identifier of the document that an operation is about
     (`target_within`): a filter that names one is not looked up at all.

  4. **Guards** — noting a failure of the store does nothing but note it (`run_guarded`).
-/
import DocStore.Proofs.Store.Contested
import DocStore.Session.Basic

namespace DocStore

open Program

/-! ## Typed schemas -/

/-- Whether all names of a table are texts. -/
def Names.areTexts (table : Names) : Bool :=
  table.all fun entry => Entries.isText entry.1 && Entries.isText entry.2

/-- Whether all names of a schema are texts. -/
def Schema.isTyped : Schema → Bool
  | .identity => true
  | .renaming models fields =>
    models.areTexts && fields.all fun entry => Entries.isText entry.1 && entry.2.areTexts

namespace Entries

theorem isText_iff {v : Value} : isText v = true ↔ ∃ s, v = .text s := by
  cases v <;> simp [isText]

/-- What is found in a table stands in it. -/
theorem mem_of_get? {α : Type} {t : Entries α} {key : Value} {a : α} (h : t.get? key = some a) :
    ∃ k, (k, a) ∈ t := by
  induction t with
  | nil => exact absurd h (by simp [get?])
  | cons entry rest ih =>
    obtain ⟨k, b⟩ := entry
    rw [get?] at h
    split at h
    · exact ⟨k, by rw [Option.some.inj h]; exact List.mem_cons_self⟩
    · obtain ⟨k', hk'⟩ := ih h
      exact ⟨k', List.mem_cons_of_mem _ hk'⟩

/-- What holds of all keys and of all values of a table still does after entering one more. -/
theorem all_put {α : Type} {K : Value → Prop} {V : α → Prop} {t : Entries α}
    (ht : ∀ entry ∈ t, K entry.1 ∧ V entry.2) {key : Value} (hkey : K key) {a : α} (ha : V a) :
    ∀ entry ∈ t.put key a, K entry.1 ∧ V entry.2 := by
  induction t with
  | nil =>
    intro entry hmem
    rw [List.mem_singleton.1 hmem]
    exact ⟨hkey, ha⟩
  | cons first rest ih =>
    obtain ⟨k, b⟩ := first
    obtain ⟨hfirst, hrest⟩ := List.forall_mem_cons.1 ht
    rw [put]
    split
    · exact List.forall_mem_cons.2 ⟨⟨hfirst.1, ha⟩, hrest⟩
    · exact List.forall_mem_cons.2 ⟨hfirst, ih hrest⟩

/-- What holds of all first and of all second parts of pairs holds of the table made of them. -/
theorem all_ofPairs {α : Type} {K : Value → Prop} {V : α → Prop} {pairs : List (Value × α)}
    (h : ∀ pair ∈ pairs, K pair.1 ∧ V pair.2) :
    ∀ entry ∈ ofPairs pairs, K entry.1 ∧ V entry.2 := by
  -- Entering goes on from a table that may hold something already, so the induction is over any
  -- table.
  have hfold : ∀ (pairs : List (Value × α)) (t : Entries α),
      (∀ pair ∈ pairs, K pair.1 ∧ V pair.2) → (∀ entry ∈ t, K entry.1 ∧ V entry.2) →
      ∀ entry ∈ pairs.foldl (fun acc pair => acc.put pair.1 pair.2) t, K entry.1 ∧ V entry.2 := by
    intro pairs
    induction pairs with
    | nil => exact fun _ _ ht => ht
    | cons pair rest ih =>
      intro t hpairs ht
      obtain ⟨hpair, hrest⟩ := List.forall_mem_cons.1 hpairs
      exact ih _ hrest (all_put ht hpair.1 hpair.2)
  exact hfold pairs [] h fun _ hmem => absurd hmem List.not_mem_nil

/-- Entries with texts for keys are the fields of an object. -/
theorem toObject?_of_isText {t : Entries Value} (h : ∀ entry ∈ t, isText entry.1 = true) :
    ∃ o, t.toObject? = some o := by
  induction t with
  | nil => exact ⟨[], rfl⟩
  | cons entry rest ih =>
    obtain ⟨hentry, hrest⟩ := List.forall_mem_cons.1 h
    obtain ⟨key, v⟩ := entry
    obtain ⟨s, rfl⟩ := isText_iff.1 hentry
    obtain ⟨o, ho⟩ := ih hrest
    exact ⟨(s, v) :: o, by rw [toObject?, ho]; rfl⟩

end Entries

/-- Under a table of texts a text has a text for its other name. -/
theorem Names.rename_isText {table : Names}
    (h : ∀ entry ∈ table, Entries.isText entry.2 = true) (name : String) :
    Entries.isText (table.rename (.text name)) = true := by
  rw [rename]
  cases hfound : Entries.get? table (.text name) with
  | none => rfl
  | some v =>
    obtain ⟨k, hk⟩ := Entries.mem_of_get? hfound
    exact h _ hk

namespace Schema

/-- The table of a model's fields under a typed schema. -/
theorem fieldNames_areTexts {schema : Schema} (h : schema.isTyped = true) (model : Value) :
    (schema.fieldNames model).areTexts = true := by
  cases schema with
  | identity => rfl
  | «renaming» models fields =>
    rw [fieldNames]
    cases hfound : fields.get? model with
    | none => rfl
    | some table =>
      obtain ⟨k, hk⟩ := Entries.mem_of_get? hfound
      rw [isTyped, Bool.and_eq_true, List.all_eq_true] at h
      exact (Bool.and_eq_true_iff.1 (h.2 _ hk)).2

/-- The stored name of a model is a text. -/
theorem modelName_typed {schema : Schema} (h : schema.isTyped = true) (model : String) :
    ∃ stored, schema.modelName (.text model) = .ok (.text stored) := by
  cases schema with
  | identity => exact ⟨model, rfl⟩
  | «renaming» models fields =>
    rw [isTyped, Bool.and_eq_true, Names.areTexts, List.all_eq_true] at h
    obtain ⟨stored, hstored⟩ := Entries.isText_iff.1 (Names.rename_isText
      (fun entry hmem => (Bool.and_eq_true_iff.1 (h.1 entry hmem)).2) model)
    exact ⟨stored, by rw [modelName, hstored]; rfl⟩

/-- An object under other keys is an object, as long as texts have texts for their other names. -/
theorem fieldsOf_renameKeys {name : Value → Value}
    (h : ∀ key, Entries.isText (name (.text key)) = true) {entries : Entries Value}
    (htexts : ∀ entry ∈ entries, Entries.isText entry.1 = true) :
    ∃ fields, fieldsOf (renameKeys name entries) = .ok fields := by
  have hkeys : ∀ entry ∈ renameKeys name entries, Entries.isText entry.1 = true := by
    intro entry hmem
    refine (Entries.all_ofPairs (K := fun v => Entries.isText v = true) (V := fun _ => True)
      (fun pair hpair => ⟨?_, trivial⟩) entry hmem).1
    obtain ⟨field, hfield, rfl⟩ := List.mem_map.1 hpair
    obtain ⟨key, hkey⟩ := Entries.isText_iff.1 (htexts field hfield)
    show Entries.isText (name field.1) = true
    rw [hkey]
    exact h key
  obtain ⟨fields, hfields⟩ := Entries.toObject?_of_isText hkeys
  exact ⟨fields, by rw [fieldsOf, hfields]⟩

theorem isText_ofObject (o : Object) :
    ∀ entry ∈ Entries.ofObject o, Entries.isText entry.1 = true := by
  intro entry hmem
  obtain ⟨field, _, rfl⟩ := List.mem_map.1 hmem
  rfl

/-- A document can be given its stored names. -/
theorem stored_typed {schema : Schema} (h : schema.isTyped = true) (model : Value) (o : Object) :
    ∃ fields, schema.stored model (.ofObject o) = .ok fields := by
  have htable := fieldNames_areTexts h model
  rw [Names.areTexts, List.all_eq_true] at htable
  cases schema with
  | identity => exact ⟨o, by rw [stored, input, fieldsOf, Entries.toObject?_ofObject]⟩
  | «renaming» models fields =>
    exact fieldsOf_renameKeys
      (Names.rename_isText fun entry hmem => (Bool.and_eq_true_iff.1 (htable entry hmem)).2)
      fun entry hmem => isText_ofObject o entry (List.mem_of_mem_filter hmem)

/-- A stored document can be shown. -/
theorem shown_typed {schema : Schema} (h : schema.isTyped = true) (model : Value) (o : Object) :
    ∃ fields, schema.shown model o = .ok fields := by
  have htable := fieldNames_areTexts h model
  rw [Names.areTexts, List.all_eq_true] at htable
  cases schema with
  | identity => exact ⟨o, by rw [shown, output, fieldsOf, Entries.toObject?_ofObject]⟩
  | «renaming» models fields =>
    -- The table read backwards has its two sides changed, and both are texts.
    have hback : ∀ entry ∈ (fieldNames (.renaming models fields) model).reverse,
        Entries.isText entry.1 = true ∧ Entries.isText entry.2 = true := by
      refine Entries.all_ofPairs (K := fun v => Entries.isText v = true)
        (V := fun v => Entries.isText v = true) fun pair hmem => ?_
      obtain ⟨entry, hentry, rfl⟩ := List.mem_map.1 hmem
      exact (Bool.and_eq_true_iff.1 (htable entry hentry)).symm
    exact fieldsOf_renameKeys (Names.rename_isText fun entry hmem => (hback entry hmem).2)
      (isText_ofObject o)

end Schema

namespace Session

/-- A document going out of a typed schema can always be shown whole. -/
theorem output_ok {s : Session} (h : s.schema.isTyped = true) (home : Home) (model : Value)
    (fields : Object) : ∃ v, s.output home model .null (.object fields) = .ok v := by
  obtain ⟨shown, hshown⟩ := Schema.shown_typed h model (Document.decode fields home.tagField)
  refine ⟨.object (Document.restore shown (Document.decode fields home.tagField)), ?_⟩
  rw [output]
  show (s.schema.shown model (Document.decode fields home.tagField) >>= fun shown => _) = _
  rw [hshown]
  rfl

/-! ## Homes -/

/-- A session with the usual settings: models share a database, and all names are the stored
    ones. -/
def standard : Session :=
  ⟨⟨"http://localhost:5984", "app_auth", false, .everywhere false, "doc_type", 1000, none⟩,
    .identity, .text "_id", 1000⟩

/-- The home of a model with a given stored name. -/
def homeOf (s : Session) (stored : Value) : Home :=
  ⟨s.settings.databaseOf stored, stored, s.settings.sharedField⟩

/-- With the usual settings, a model's own name is the stored one. -/
theorem home_standard (model : String) :
    ∃ stored, standard.schema.modelName (.text model) = .ok stored ∧
    standard.homeOf (.text model) = standard.homeOf stored :=
  ⟨.text model, rfl, rfl⟩

/-- The home of a model whose stored name is a text lives in a database whose name is one. -/
theorem homeOf_database (s : Session) (stored : String) :
    ∃ name, (s.homeOf (.text stored)).database = .text name := by
  rw [homeOf, Settings.databaseOf]
  split
  · exact ⟨stored, rfl⟩
  · exact ⟨s.settings.database, rfl⟩

/-- The home of a model has texts for its names. -/
theorem home_names {s : Session} (hs : s.schema.isTyped = true) {model : String} {home : Home}
    (hhome : ∃ stored, s.schema.modelName (.text model) = .ok stored ∧ home = s.homeOf stored) :
    ∃ stored name, home.model = .text stored ∧ home.database = .text name := by
  obtain ⟨stored, hstored, rfl⟩ := hhome
  obtain ⟨text, htext⟩ := Schema.modelName_typed hs model
  obtain rfl := Except.ok.inj (hstored.symm.trans htext)
  obtain ⟨name, hname⟩ := s.homeOf_database text
  exact ⟨text, name, rfl, hname⟩

theorem openDatabase_within (name : Value) :
    (openDatabase name).Within Request.IsReading fun _ => True := by
  unfold openDatabase
  refine within_bind (within_send rfl fun _ => trivial) fun known _ => ?_
  have hopen : (send (.openDatabase name)).Within Request.IsReading fun _ => True :=
    within_send rfl fun _ => trivial
  dsimp only
  split
  · exact hopen
  · refine within_bind (P := fun _ => True) (within_onRefusal ?_ (within_note _ _ _))
      fun _ _ => hopen
    exact within_bind (P := fun _ => True) (within_send rfl fun _ => trivial)
      fun _ _ => within_note _ _ _

/-- Finding the home of a model writes nothing. -/
theorem home_within (s : Session) (model : Value) :
    (s.home model).Within Request.IsReading fun home =>
      ∃ stored, s.schema.modelName model = .ok stored ∧ home = s.homeOf stored := by
  unfold home
  refine within_bind (within_lift fun _ h => h) fun stored hstored => ?_
  have hhome : (pure (s.homeOf stored) : Program Home).Within Request.IsReading fun home =>
      ∃ stored, s.schema.modelName model = .ok stored ∧ home = s.homeOf stored :=
    within_pure ⟨stored, hstored, rfl⟩
  dsimp only
  split
  · refine within_bind (P := fun _ => True) (within_send rfl fun _ => trivial) fun opened _ => ?_
    split
    · exact hhome
    · exact within_bind (openDatabase_within _) fun _ _ => hhome
  · exact within_fail _

/-! ## Targets -/

/-- Finding the target of a filter writes nothing, and a filter that names it is taken at its
    word. -/
theorem target_within (s : Session) (home : Home) (filter : Filter) :
    (s.target home filter).Within Request.IsReading fun target =>
      ∀ id, filter.identifier = .ok (some id) → target = some id := by
  unfold target
  refine within_bind (within_lift fun _ h => h) fun named hnamed => ?_
  have hnamed : filter.identifier = .ok named := hnamed
  cases named with
  | some id =>
    refine within_pure fun other hother => ?_
    rw [hnamed] at hother
    exact Except.ok.inj hother
  | none =>
    -- A filter that names no identifier asks nothing of the target.
    have hnone : ∀ target : Option String, ∀ id, filter.identifier = .ok (some id) →
        target = some id :=
      fun _ _ h => absurd (hnamed.symm.trans h) (by simp)
    dsimp only
    refine within_bind (P := fun _ => True) (within_lift fun _ _ => trivial) fun selector _ => ?_
    refine within_bind (P := fun _ => True) (within_send rfl fun _ => trivial) fun page _ => ?_
    split
    · exact within_pure (hnone _)
    · exact within_bind (P := fun _ => True) (within_lift fun _ _ => trivial)
        fun _ _ => within_pure (hnone _)

/-! ## Guards -/

/-- Where a session has rivals, a diagnostic entry gives them no turn. -/
theorem run_note_contested (rivals : Rivals) (s : Session) (op : Operation) (level : Level)
    (message : String) (c : Contested) :
    ∃ c', (s.note op level message).run (Contested.backend rivals) c = (.ok (), c') ∧
      c'.memory.server = c.memory.server ∧ c'.calls = c.calls := by
  rw [note, run_noteIf]
  split
  · exact ⟨_, rfl, rfl, rfl⟩
  · exact ⟨_, rfl, rfl, rfl⟩

/-- A guarded program ends as it does without its guard, but for the note of a failure. -/
theorem run_guarded {σ α : Type} (backend : Backend σ) (s : Session)
    (op : Operation) (model : Value) (p : Program α) (st : σ) :
    (s.guarded op model p).run backend st =
      match p.run backend st with
      | (.ok a, st') => (.ok a, st')
      | (.error e, st') =>
        (.error e,
          if e.isStoreFailure = true ∧ s.settings.logs (some op) = true then
            backend.note ⟨.adapter, .error, "[" ++ op.name ++ "] " ++
              ("model=" ++ model.written ++ " failed: " ++ e.shown)⟩ st'
          else st') := by
  rw [guarded, run_handle]
  rcases p.run backend st with ⟨e | a, st'⟩
  · dsimp only
    split
    · rename_i hstore
      rw [run_bind, note, run_noteIf]
      simp only [hstore, true_and]
      rfl
    · rename_i hstore
      simp only [hstore, Bool.false_eq_true, false_and, if_false]
      rfl
  · rfl

/-- Where a session has rivals, a guard gives them no turn. -/
theorem run_guarded_contested {α : Type} (rivals : Rivals) (s : Session)
    (op : Operation) (model : Value) {p : Program α} {c c' : Contested} {result : Except Failure α}
    (h : p.run (Contested.backend rivals) c = (result, c')) :
    ∃ c'', (s.guarded op model p).run (Contested.backend rivals) c = (result, c'') ∧
      c''.memory.server = c'.memory.server ∧ c''.calls = c'.calls := by
  rw [run_guarded, h]
  cases result with
  | ok a => exact ⟨c', rfl, rfl, rfl⟩
  | error e =>
    dsimp only
    split
    · exact ⟨_, rfl, rfl, rfl⟩
    · exact ⟨_, rfl, rfl, rfl⟩

end Session

end DocStore
