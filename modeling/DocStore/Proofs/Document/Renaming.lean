/-
  Names of fields that differ outside and inside the store.

  A schema that renames fields has a table of names for each model.  As a rule no name occurs twice
  in it (`Naming`): then every field is renamed to at most one other and back, and the only fields
  that can come to one key are the two of a pair (`Naming.rename_eq_iff`).

  Documents and tables are entries under any values.  Where the names are texts, entering them is
  setting fields (`Entries.ofPairs_ofObject`), so a schema does to a document what renaming the
  fields of an object does (`Schema.shown_eq`, `Schema.stored_eq`).
-/
import DocStore.Document.Schema
import DocStore.Proofs.Document.Fields
import Mathlib.Data.List.Nodup

namespace DocStore

/-! ## Entries under texts -/

namespace Entries

theorem get?_ofObject (o : Object) (name : String) :
    (ofObject o).get? (.text name) = o.get? name := by
  induction o with
  | nil => rfl
  | cons field rest ih =>
    show (if (Value.text field.1).same (.text name) = true then _
      else get? (ofObject rest) (.text name)) = _
    rw [ih, Object.get?]
    by_cases h : field.1 = name
    · rw [if_pos h, if_pos (same_text_iff.2 (congrArg Value.text h))]
    · rw [if_neg h, if_neg fun hsame => h (Value.text.inj (same_text_iff.1 hsame))]

/-- Entering a text is setting a field. -/
theorem put_ofObject (o : Object) (name : String) (v : Value) :
    (ofObject o).put (.text name) v = ofObject (o.set name v) := by
  induction o with
  | nil => rfl
  | cons field rest ih =>
    show (if (Value.text field.1).same (.text name) = true then _
      else _ :: put (ofObject rest) _ _) = _
    rw [ih, Object.set]
    by_cases h : field.1 = name
    · rw [if_pos h, if_pos (same_text_iff.2 (congrArg Value.text h))]
      rfl
    · rw [if_neg h, if_neg fun hsame => h (Value.text.inj (same_text_iff.1 hsame))]
      rfl

theorem ofPairs_ofObject (fields : Object) :
    ofPairs (ofObject fields) = ofObject (Object.ofFields fields) := by
  have hfold : ∀ (fields o : Object),
      (ofObject fields).foldl (fun acc pair => acc.put pair.1 pair.2)
      (ofObject o) = ofObject (o.merge fields) := by
    intro fields
    induction fields with
    | nil => exact fun _ => rfl
    | cons field rest ih =>
      intro o
      show (ofObject rest).foldl _ ((ofObject o).put (.text field.1) field.2) = _
      rw [put_ofObject, ih]
      rfl
  exact hfold fields []

end Entries

/-! ## Namings -/

/-- Names of fields in pairs, the caller's and the stored one, of which no name occurs twice. -/
structure Naming where
  pairs : List (String × String)
  distinct : (pairs.map Prod.fst ++ pairs.map Prod.snd).Nodup

namespace Naming

variable {n : Naming} {given stored name : String}

/-- All names. -/
def names (n : Naming) : List String := n.pairs.map Prod.fst ++ n.pairs.map Prod.snd

/-- The names the other way round. -/
def flip (n : Naming) : Naming where
  pairs := n.pairs.map Prod.swap
  distinct := by
    rw [List.map_map, List.map_map]
    exact List.perm_append_comm.nodup_iff.1 n.distinct

/-- The other name of a field, or the name itself if it has none. -/
def rename (n : Naming) (name : String) : String := (n.pairs.lookup name).getD name

/-- The table of the names. -/
def table (n : Naming) : Names := .ofObject (n.pairs.map fun pair => (pair.1, .text pair.2))

theorem mem_flip (h : (given, stored) ∈ n.pairs) : (stored, given) ∈ n.flip.pairs :=
  List.mem_map_of_mem (f := Prod.swap) h

theorem mem_names_flip : name ∈ n.flip.names ↔ name ∈ n.names := by
  simp only [names, flip, List.mem_append, List.map_map]
  exact or_comm

theorem given_mem (h : (given, stored) ∈ n.pairs) : given ∈ n.names :=
  List.mem_append_left _ (List.mem_map_of_mem (f := Prod.fst) h)

theorem stored_mem (h : (given, stored) ∈ n.pairs) : stored ∈ n.names :=
  List.mem_append_right _ (List.mem_map_of_mem (f := Prod.snd) h)

theorem given_notMem_stored (h : (given, stored) ∈ n.pairs) :
    given ∉ n.pairs.map Prod.snd := fun hmem =>
  (List.nodup_append.1 n.distinct).2.2 given (List.mem_map_of_mem (f := Prod.fst) h) given hmem rfl

theorem stored_notMem_given (h : (given, stored) ∈ n.pairs) :
    stored ∉ n.pairs.map Prod.fst := fun hmem =>
  (List.nodup_append.1 n.distinct).2.2 stored hmem stored
    (List.mem_map_of_mem (f := Prod.snd) h) rfl

/-- A name has its other name, or it has none and stays. -/
theorem rename_cases (n : Naming) (name : String) :
    (name, n.rename name) ∈ n.pairs ∨ name ∉ n.pairs.map Prod.fst ∧ n.rename name = name := by
  rw [rename]
  cases h : n.pairs.lookup name with
  | some other =>
    obtain ⟨front, back, heq, _⟩ := List.lookup_eq_some_iff.1 h
    exact .inl (by rw [heq]; exact List.mem_append_right _ List.mem_cons_self)
  | none =>
    refine .inr ⟨fun hmem => ?_, rfl⟩
    obtain ⟨pair, hpair, heq⟩ := List.mem_map.1 hmem
    have hne := List.lookup_eq_none_iff.1 h pair hpair
    rw [heq] at hne
    simp at hne

/-- Only the two names of a pair are renamed to its second. -/
theorem rename_eq_iff (h : (given, stored) ∈ n.pairs) :
    n.rename name = stored ↔ name = given ∨ name = stored := by
  obtain ⟨hgivens, hstoreds, -⟩ := List.nodup_append.1 n.distinct
  rcases n.rename_cases name with hmem | ⟨hnone, heq⟩
  · constructor
    · intro heq
      rw [heq] at hmem
      exact .inl (congrArg Prod.fst (List.inj_on_of_nodup_map hstoreds hmem h rfl))
    · rintro (rfl | rfl)
      · exact congrArg Prod.snd (List.inj_on_of_nodup_map hgivens hmem h rfl)
      · exact absurd (List.mem_map_of_mem (f := Prod.fst) hmem) (stored_notMem_given h)
  · rw [heq]
    refine ⟨.inr, fun hor => hor.resolve_left fun hgiven => hnone ?_⟩
    rw [hgiven]
    exact List.mem_map_of_mem (f := Prod.fst) h

/-- Nothing is renamed to a name that has another. -/
theorem rename_ne (h : (given, stored) ∈ n.pairs) (name : String) : n.rename name ≠ given := by
  intro heq
  rcases n.rename_cases name with hmem | ⟨hnone, hself⟩
  · rw [heq] at hmem
    exact given_notMem_stored h (List.mem_map_of_mem (f := Prod.snd) hmem)
  · rw [← hself, heq] at hnone
    exact hnone (List.mem_map_of_mem (f := Prod.fst) h)

/-- A name in no pair stays, and nothing else is renamed to it. -/
theorem rename_eq_iff_of_notMem (h : stored ∉ n.names) :
    n.rename name = stored ↔ name = stored := by
  rw [names, List.mem_append, not_or] at h
  constructor
  · intro heq
    rcases n.rename_cases name with hmem | ⟨-, hself⟩
    · rw [heq] at hmem
      exact absurd (List.mem_map_of_mem (f := Prod.snd) hmem) h.2
    · rw [← hself, heq]
  · rintro rfl
    exact (n.rename_cases name).elim
      (fun hmem => absurd (List.mem_map_of_mem (f := Prod.fst) hmem) h.1) And.right

/-! ## The names of a schema -/

theorem table_rename (n : Naming) (name : String) :
    n.table.rename (.text name) = .text (n.rename name) := by
  have hget : ∀ pairs : List (String × String),
      Object.get? (pairs.map fun pair => (pair.1, .text pair.2)) name =
      (pairs.lookup name).map Value.text := by
    intro pairs
    induction pairs with
    | nil => rfl
    | cons pair rest ih =>
      obtain ⟨a, b⟩ := pair
      rw [List.map_cons, Object.get?, ih, List.lookup_cons]
      by_cases h : a = name
      · subst h
        simp
      · rw [if_neg h, show (name == a) = false from beq_false_of_ne (Ne.symm h)]
  rw [Names.rename, table, Entries.get?_ofObject, hget, rename]
  cases n.pairs.lookup name <;> rfl

/-- The table read backwards is the table of the names the other way round. -/
theorem table_reverse (n : Naming) : n.table.reverse = n.flip.table := by
  have hback : n.table.map (fun entry => (entry.2, entry.1)) =
      Entries.ofObject (n.flip.pairs.map fun pair => (pair.1, .text pair.2)) := by
    simp only [table, Entries.ofObject, flip, List.map_map]
    rfl
  have hnodup : (Object.keys (n.flip.pairs.map fun pair => (pair.1, Value.text pair.2))).Nodup := by
    rw [Object.keys, List.map_map]
    exact (List.nodup_append.1 n.flip.distinct).1
  show Entries.ofPairs (n.table.map fun entry => (entry.2, entry.1)) = _
  rw [hback, Entries.ofPairs_ofObject, Object.ofFields_of_nodup hnodup]
  rfl

end Naming

namespace Schema

theorem renameKeys_ofObject {rename : Value → Value} {σ : String → String}
    (h : ∀ name, rename (.text name) = .text (σ name)) (o : Object) :
    renameKeys rename (.ofObject o) = .ofObject (o.rename σ) := by
  have hmap : (Entries.ofObject o).map (fun entry => (rename entry.1, entry.2)) =
      Entries.ofObject (o.map fun field => (σ field.1, field.2)) := by
    simp only [Entries.ofObject, List.map_map]
    exact List.map_congr_left fun field _ => congrArg (·, field.2) (h field.1)
  rw [renameKeys, hmap, Entries.ofPairs_ofObject]
  rfl

variable {schema : Schema} {models : Names} {tables : Entries Names} {model : Value} {n : Naming}

/-- A stored document comes out with the caller's names. -/
theorem shown_eq (hschema : schema = .renaming models tables)
    (hn : schema.fieldNames model = n.table) (o : Object) :
    schema.shown model o = .ok (o.rename n.flip.rename) := by
  have houtput : schema.output model (.ofObject o) = .ofObject (o.rename n.flip.rename) := by
    subst hschema
    rw [output, hn, n.table_reverse]
    exact renameKeys_ofObject n.flip.table_rename o
  rw [shown, fieldsOf, houtput, Entries.toObject?_ofObject]

/-- Where all stored names are texts, a caller's document goes in with them, without the fields that
    are null. -/
theorem stored_rename (hschema : schema = .renaming models tables) {σ : String → String}
    (hσ : ∀ name, schema.fieldName model (.text name) = .text (σ name)) (o : Object) :
    schema.stored model (.ofObject o) = .ok (o.populated.rename σ) := by
  have hinput : schema.input model (.ofObject o) = .ofObject (o.populated.rename σ) := by
    have hfilter : (Entries.ofObject o).filter (fun entry => !entry.2.isNull) =
        Entries.ofObject o.populated := by
      rw [Entries.ofObject, List.filter_map]
      rfl
    subst hschema
    rw [input, hfilter]
    exact renameKeys_ofObject hσ o.populated
  rw [stored, fieldsOf, hinput, Entries.toObject?_ofObject]

/-- Under a naming it goes in with the names of that. -/
theorem stored_eq (hschema : schema = .renaming models tables)
    (hn : schema.fieldNames model = n.table) (o : Object) :
    schema.stored model (.ofObject o) = .ok (o.populated.rename n.rename) :=
  stored_rename hschema (fun name => by rw [fieldName, hn, n.table_rename]) o

end Schema

end DocStore
