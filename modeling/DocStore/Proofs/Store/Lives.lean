/-
  The lives of the documents of a database.

  A document comes to be with an accepted insert, is written by others, and ends with a removal or a
  clearing; then another one may come to be under its identifier.  Its revision shows how long it
  has lived:

  1. **Writes** — what is stored after an action was stored before, or the action has written it
     under the revision that follows what was there (`perform_cases`).  So the documents of a
     history carry their identifier and their revision (`isSound_after`), whatever they brought
     along when they were inserted.

  2. **Lives** — by induction over a history, a stored document has a last life: a row of actions at
     the end of the history, before which there was no document and in which there always was one.
     Its generation counts the writes in this row (`exists_life`), and so never exceeds the length
     of the history.

  3. **Reading a generation** — the digits up to the first dash of a revision read back as its
     generation (`generationIn?_text`), so the next one can also be had from the text alone.

  The main theorem (`lives_counted`) puts these together, and says with them what a write spares.
-/
import Mathlib.Data.List.Induction
import DocStore.Proofs.Store.History
import DocStore.Proofs.Text.Numeral

namespace DocStore

namespace Database

/-! ## Writes -/

/-- Whether an action is an insert that is accepted under an identifier. -/
def Action.writes (id : String) (db : Database) : Action → Bool
  | .insert document draws =>
    match (db.insert document draws).1 with
    | .ok receipt => receipt.id = id
    | .error _ => false
  | _ => false

/-- How often a row of actions writes under an identifier. -/
def writesIn (id : String) : Database → List Action → Nat
  | _, [] => 0
  | db, action :: rest => (action.writes id db).toNat + writesIn id (action.perform db) rest

/-- Written one after the other, rows write as often as both do. -/
theorem writesIn_append (id : String) (db : Database) (first second : List Action) :
    writesIn id db (first ++ second) = writesIn id db first +
      writesIn id (db.performAll first) second := by
  induction first generalizing db with
  | nil => exact (Nat.zero_add _).symm
  | cons action rest ih =>
    show _ + writesIn id _ (rest ++ second) = _ + writesIn id _ rest + writesIn id _ second
    rw [ih, Nat.add_assoc]
    rfl

/-- No action writes twice. -/
theorem writesIn_le_length (id : String) (db : Database) (actions : List Action) :
    writesIn id db actions ≤ actions.length := by
  induction actions generalizing db with
  | nil => exact Nat.le_refl 0
  | cons action rest ih =>
    have hone : (action.writes id db).toNat ≤ 1 := Bool.toNat_le _
    have hrest := ih (action.perform db)
    rw [writesIn, List.length_cons]
    omega

/-- What is stored after an action was stored before, and the action does not write it; or the
    action writes it, under the revision that follows what was there. -/
theorem perform_cases {db : Database} (hdb : db.documents.Ordered) {action : Action} {id : String}
    {d : Stored} (hd : (action.perform db).documents.get? id = some d) :
    (action.writes id db = false ∧ db.documents.get? id = some d) ∨
      (action.writes id db = true ∧ id ≠ "" ∧
        ∃ document token, d = storedAs document id
          (nextRevision (db.documents.get? id) token)) := by
  cases action with
  | get key => exact .inl ⟨rfl, hd⟩
  | clear => exact absurd hd (by simp [Action.perform, empty, Table.get?])
  | insert document draws =>
    rcases hinsert : db.insert document draws with ⟨e | receipt, db', draws'⟩
    · obtain ⟨rfl, -⟩ := insert_refused hinsert
      rw [Action.perform, hinsert] at hd
      exact .inl ⟨by simp [Action.writes, hinsert], hd⟩
    · obtain ⟨key, token, revision, hkey, -, rfl, -, hreceipt, rfl⟩ := insert_accepted hinsert
      have hwrites : Action.writes id db (.insert document draws) = decide (key = id) := by
        simp [Action.writes, hinsert, hreceipt]
      rw [Action.perform, hinsert] at hd
      by_cases hid : id = key
      · subst hid
        obtain rfl := Option.some.inj ((Table.get?_put_self _ _ _).symm.trans hd)
        have hne : id ≠ "" := by
          have hname := identify_ne_empty document draws
          rwa [hkey] at hname
        exact .inr ⟨by simp [hwrites], hne, document, token + 1, rfl⟩
      · exact .inl ⟨by simp [hwrites, Ne.symm hid], (Table.get?_put_ne _ hid _).symm.trans hd⟩
  | destroy key revision =>
    rcases hdestroy : db.destroy key revision with ⟨e | _, db'⟩
    · obtain rfl := destroy_refused hdestroy
      rw [Action.perform, hdestroy] at hd
      exact .inl ⟨rfl, hd⟩
    · obtain ⟨key, _, rfl, -, -, rfl⟩ := destroy_accepted hdestroy
      rw [Action.perform, hdestroy] at hd
      exact .inl ⟨rfl, Table.get?_remove_some hdb hd⟩

theorem after_append (first second : List Action) :
    after (first ++ second) = (after first).performAll second :=
      performAll_append empty first second

/-- Every document of a history is sound. -/
theorem isSound_after {history : List Action} {id : String} {d : Stored}
    (hd : (after history).documents.get? id = some d) : ∃ token, d.IsSound token id := by
  induction history using List.reverseRecOn with
  | nil => exact absurd hd (by simp [after, performAll, empty, Table.get?])
  | append_singleton history action ih =>
    rw [after_append] at hd
    rcases perform_cases (ordered_after history) hd with ⟨-, hbefore⟩ |
      ⟨-, hid, document, token, rfl⟩
    · exact ih hbefore
    · exact ⟨token, storedAs_isSound document hid _ token⟩

/-! ## Lives -/

/-- The last life of the document under an identifier: it is not there before a row of actions, and
    from the first of them on it is there all the time. -/
structure Life (id : String) (before since : List Action) : Prop where
  absent : (after before).documents.get? id = none
  present : ∀ lived rest, since = lived ++ rest → lived ≠ [] →
    ((after (before ++ lived)).documents.get? id).isSome = true

/-- A life goes on with an action that leaves a document there. -/
theorem Life.append {id : String} {before since : List Action} (h : Life id before since)
    {action : Action}
    (hthere : ((after (before ++ (since ++ [action]))).documents.get? id).isSome = true) :
    Life id before (since ++ [action]) := by
  refine ⟨h.absent, fun lived rest hsplit hlived => ?_⟩
  rcases List.eq_nil_or_concat rest with rfl | ⟨rest', last, rfl⟩
  · rw [List.append_nil] at hsplit
    rwa [← hsplit]
  · rw [List.concat_eq_append, ← List.append_assoc] at hsplit
    exact h.present lived rest' (List.append_inj' hsplit rfl).1 hlived

/-- A stored document has a last life, and its generation counts the writes in it. -/
theorem exists_life {history : List Action} {id : String} {d : Stored}
    (hd : (after history).documents.get? id = some d) :
    ∃ before since, history = before ++ since ∧ Life id before since ∧
      d.revision.generation = writesIn id (after before) since := by
  induction history using List.reverseRecOn generalizing d with
  | nil => exact absurd hd (by simp [after, performAll, empty, Table.get?])
  | append_singleton history action ih =>
    have hthere : ((after (history ++ [action])).documents.get? id).isSome = true := by rw [hd]; rfl
    rw [after_append] at hd
    -- A life that led up to the action goes on with it, and the action counts if it writes.
    have hgoes : ∀ {d' : Stored}, (after history).documents.get? id = some d' →
        d.revision.generation = d'.revision.generation + (action.writes id (after history)).toNat →
        ∃ before since, history ++ [action] = before ++ since ∧ Life id before since ∧
          d.revision.generation = writesIn id (after before) since := by
      intro d' hd' hgeneration
      obtain ⟨before, since, rfl, hlife, hcount⟩ := ih hd'
      rw [List.append_assoc] at hthere ⊢
      refine ⟨before, since ++ [action], rfl, hlife.append hthere, ?_⟩
      rw [hgeneration, hcount, writesIn_append, ← after_append]
      rfl
    rcases perform_cases (ordered_after history) hd with ⟨hkeeps, hbefore⟩ |
      ⟨hwrites, -, document, token, hdoc⟩
    · exact hgoes hbefore (by rw [hkeeps]; rfl)
    · cases hcurrent : (after history).documents.get? id with
      | some d' => exact hgoes hcurrent (by rw [hdoc, hwrites, hcurrent]; rfl)
      | none =>
        -- Here the life begins.
        refine ⟨history, [action], rfl, ⟨hcurrent, fun lived rest hsplit hlived => ?_⟩, ?_⟩
        · obtain ⟨rfl, -⟩ : lived = [action] ∧ rest = [] := by
            rcases List.append_eq_singleton_iff.1 hsplit.symm with ⟨rfl, -⟩ | h
            · exact absurd rfl hlived
            · exact h
          exact hthere
        · rw [hdoc, hcurrent, writesIn, hwrites]
          rfl

/-! ## Reading a generation -/

/-- The generation that stands in the text of a revision, before its first dash. -/
def generationIn? (rev : String) : Option Int :=
  Text.readInt? (String.ofList (rev.toList.takeWhile (· ≠ '-')))

/-- It is the generation of the revision, as long as that has no more digits than a numeral may
    have. -/
theorem generationIn?_text {revision : Revision} (h : revision.generation < 10 ^ Text.digitLimit) :
    generationIn? revision.text = some (revision.generation : Int) := by
  have hdigits : ∀ c ∈ Nat.toDigits 10 revision.generation, decide (c ≠ '-') = true := by
    intro c hc
    exact decide_eq_true fun hdash => dash_notMem_toDigits _ (hdash ▸ hc)
  have hfront : revision.text.toList.takeWhile (· ≠ '-') = Nat.toDigits 10 revision.generation := by
    rw [revision.toList_text, List.takeWhile_append_of_pos hdigits,
      List.takeWhile_cons_of_neg (by simp), List.append_nil]
  rw [generationIn?, hfront]
  exact Text.readInt?_toString h

/-! ## Together -/

/-- **A revision counts the writes of a life.**  Take any history of a database, with any documents,
    identifiers and revisions.  Every key is a text that is not empty, and the document under it
    carries it as its identifier.  The document's revision is a positive number, a dash and a token;
    the number reads back from the text, so the next one can be told; and it counts the inserts
    accepted under this key since a document last came to be there.

    An insert or a removal that is accepted then leaves every other document as it was, and one that
    is refused leaves all of them. -/
theorem lives_counted (history : List Action) :
    (∀ id d, (id, d) ∈ (after history).documents →
      id ≠ "" ∧ Object.get? d.fields "_id" = some (.text id) ∧
      ∃ generation token, 0 < generation ∧ generation ≤ history.length ∧
        Object.get? d.fields "_rev" = some (.text (toString generation ++ "-" ++ tokenText token)) ∧
        (generation < 10 ^ Text.digitLimit →
          generationIn? (toString generation ++ "-" ++ tokenText token) = some (generation : Int)) ∧
        ∃ before since, history = before ++ since ∧ Life id before since ∧
          generation = writesIn id (after before) since) ∧
    (∀ document draws receipt db draws', (after history).insert document draws =
      (.ok receipt, db, draws') →
      ∀ other, other ≠ receipt.id →
        db.documents.get? other = (after history).documents.get? other) ∧
    (∀ id revision db, (after history).destroy id revision = (.ok (), db) →
      ∃ key, id = .text key ∧
        ∀ other, other ≠ key → db.documents.get? other = (after history).documents.get? other) ∧
    (∀ document draws e db draws', (after history).insert document draws = (.error e, db, draws') →
      db.documents = (after history).documents) ∧
    ∀ id revision e db, (after history).destroy id revision = (.error e, db) →
      db.documents = (after history).documents := by
  refine ⟨fun id d hmem => ?_, ?_, ?_, ?_, ?_⟩
  · have hd := (Table.mem_iff_get? (ordered_after history)).1 hmem
    obtain ⟨token, hsound⟩ := isSound_after hd
    obtain ⟨before, since, rfl, hlife, hcount⟩ := exists_life hd
    have hlength : d.revision.generation ≤ (before ++ since).length := by
      have hle := writesIn_le_length id (after before) since
      rw [List.length_append]
      omega
    exact ⟨hsound.nonempty, hsound.named, d.revision.generation, d.revision.token,
      hsound.counted, hlength, hsound.revised, generationIn?_text, before, since, rfl, hlife,
      hcount⟩
  · intro document draws receipt db draws' h other hother
    obtain ⟨id, token, revision, -, -, -, -, rfl, rfl⟩ := insert_accepted h
    exact Table.get?_put_ne _ hother _
  · intro id revision db h
    obtain ⟨key, _, rfl, -, -, rfl⟩ := destroy_accepted h
    exact ⟨key, rfl, fun other hother => Table.get?_remove_ne _ hother⟩
  · intro document draws e db draws' h
    rw [(insert_refused h).1]
  · intro id revision e db h
    rw [destroy_refused h]

/-- A document is made under a number, removed, and made anew under it; two stale requests are
    refused, and one that names the revision is accepted.  Then the generation is the second, as the
    first life does not count and neither does what was refused. -/
theorem lives_counted_made_anew :
    let first := Value.text (Revision.text ⟨1, 1⟩)
    let second := Value.text (Revision.text ⟨1, 2⟩)
    let history : List Action := [.insert [("_id", .int 7)] 0, .destroy (.text "7") first,
      .insert [("_id", .int 7), ("_rev", .null)] 1, .insert [("_id", .text "7"), ("_rev", first)] 5,
      .destroy (.int 7) second, .insert [("_id", .text "7"), ("_rev", second), ("n", .int 1)] 2]
    ∃ d, ("7", d) ∈ (after history).documents ∧
      Object.get? d.fields "_rev" = some (.text ("2-" ++ tokenText 3)) ∧
      ∃ before since, history = before ++ since ∧ Life "7" before since ∧
        2 = writesIn "7" (after before) since := by
  intro first second history
  have hlast : ((after history).documents.get? "7").map Stored.revision = some ⟨2, 3⟩ := by
    decide +kernel
  obtain ⟨d, hd, hrevision⟩ := Option.map_eq_some_iff.1 hlast
  have hmem := (Table.mem_iff_get? (ordered_after history)).2 hd
  obtain ⟨-, -, generation, token, -, -, hrev, -, before, since, hsplit, hlife, hcount⟩ :=
    (lives_counted history).1 "7" d hmem
  -- The document carries its revision, which tells the number that the theorem speaks of.
  have hcarried : Object.get? d.fields "_rev" = some (.text (Revision.text ⟨2, 3⟩)) := by
    rw [← hrevision]
    exact (revised_after hd).2
  have hsame : (⟨generation, token⟩ : Revision) = ⟨2, 3⟩ :=
    Revision.text_injective (Value.text.inj (Option.some.inj (hrev.symm.trans hcarried)))
  obtain ⟨rfl, rfl⟩ := Revision.mk.inj hsame
  exact ⟨d, hmem, hcarried, before, since, hsplit, hlife, hcount⟩

end Database

end DocStore
