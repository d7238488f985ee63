/-
  What a write does to a database, and what every database keeps.

  1. **Writes** — an insert is accepted or refused, and `insert_accepted` and `insert_refused` say
     all there is to say about the two; `destroy_accepted` and `destroy_refused` do so for removing.
     Nothing after this file opens the definitions.

  2. **Soundness** — a stored document carries the identifier under which it stands, which is not
     empty, and the text of its revision, whose token has been drawn.  A database is sound when its
     documents are and stand in order (`Database.IsSound`).  Writes keep it so.

  3. **Newer documents** — `IsNewer` compares a database with an earlier state of it: what is stored
     was stored before or has a token drawn since.  Together with soundness this makes a revision
     stand for one document: the same revision under the same identifier is the same document
     (`IsNewer.eq_of_revision`).
-/
import DocStore.Proofs.Store.Revision
import DocStore.Proofs.Store.Table

namespace DocStore

namespace Database

/-! ## Writes -/

/-- The revision that an accepted insert gives: the generation after the current one, with the token
    drawn for it. -/
def nextRevision (current : Option Stored) (token : Nat) : Revision :=
  ⟨match current with | some d => d.revision.generation + 1 | none => 1, token⟩

/-- A document as it is stored under an identifier and a revision. -/
def storedAs (document : Object) (id : String) (revision : Revision) : Stored :=
  ⟨revision, Object.set (Object.set document "_id" (.text id)) "_rev" (.text revision.text)⟩

/-- A stored document carries the identifier that it is stored under. -/
theorem get?_id_storedAs (document : Object) (id : String) (revision : Revision) :
    Object.get? (storedAs document id revision).fields "_id" = some (.text id) :=
  (Object.get?_set_ne _ _ (by decide)).trans (Object.get?_set_self _ _ _)

/-- Its other fields are the document's own. -/
theorem get?_storedAs_other (document : Object) (id : String) (revision : Revision) {key : String}
    (hid : key ≠ "_id") (hrev : key ≠ "_rev") :
    Object.get? (storedAs document id revision).fields key = Object.get? document key :=
  (Object.get?_set_ne _ _ (Ne.symm hrev)).trans (Object.get?_set_ne _ _ (Ne.symm hid))

/-- What an accepted insert does: the document named the current revision and is stored under the
    next one. -/
theorem insert_accepted {db db' : Database} {document : Object} {draws draws' : Nat}
    {receipt : Receipt} (h : db.insert document draws = (.ok receipt, db', draws')) :
    ∃ id token revision, identify document draws = (id, token) ∧ draws' = token + 1 ∧
      revision = nextRevision (db.documents.get? id) (token + 1) ∧
      Value.same (Object.getD document "_rev") (currentRevision (db.documents.get? id)) = true ∧
      receipt = ⟨id, revision.text⟩ ∧
      db' = { db with documents := db.documents.put id (storedAs document id revision) } := by
  rcases hid : identify document draws with ⟨id, token⟩
  rw [insert, hid] at h
  dsimp only at h
  split at h
  · rename_i hrev
    simp only [Prod.mk.injEq, Except.ok.injEq] at h
    obtain ⟨rfl, rfl, rfl⟩ := h
    exact ⟨id, token, _, rfl, rfl, rfl, hrev, rfl, rfl⟩
  · exact absurd h (by simp)

/-- What a refused insert does: nothing, but for an identifier that may have been drawn. -/
theorem insert_refused {db db' : Database} {document : Object} {draws draws' : Nat} {e : Failure}
    (h : db.insert document draws = (.error e, db', draws')) :
    db' = db ∧ draws' = (identify document draws).2 ∧ e.isRefusal .conflict = true := by
  rcases hid : identify document draws with ⟨id, token⟩
  rw [insert, hid] at h
  dsimp only at h
  split at h
  · exact absurd h (by simp)
  · simp only [Prod.mk.injEq, Except.error.injEq] at h
    obtain ⟨rfl, rfl, rfl⟩ := h
    exact ⟨rfl, rfl, rfl⟩

/-- What an accepted removal does: the document named by a text, under its current revision,
    goes. -/
theorem destroy_accepted {db db' : Database} {id revision : Value}
    (h : db.destroy id revision = (.ok (), db')) :
    ∃ key d, id = .text key ∧ db.documents.get? key = some d ∧
      Value.same (.text d.revision.text) revision = true ∧
      db' = { db with documents := db.documents.remove key } := by
  unfold destroy at h
  -- The document is there, cannot be looked up, or is not there; only the first goes on.
  split at h
  · rename_i d key hlook
    split at h
    · rename_i hrev
      refine ⟨key, d, rfl, ?_, hrev, (Prod.mk.inj h).2.symm⟩
      simpa [look] using hlook
    · exact absurd h (by simp)
  · exact absurd h (by simp)
  · exact absurd h (by simp)

/-- What a refused removal does: nothing. -/
theorem destroy_refused {db db' : Database} {id revision : Value} {e : Failure}
    (h : db.destroy id revision = (.error e, db')) : db' = db := by
  unfold destroy at h
  split at h
  · split at h
    · exact absurd h (by simp)
    · exact (Prod.mk.inj h).2.symm
  · exact (Prod.mk.inj h).2.symm
  · exact (Prod.mk.inj h).2.symm

/-- What is not there cannot be removed. -/
theorem destroy_absent {db : Database} {id : String} (h : db.documents.get? id = none)
    (revision : Value) :
    db.destroy (.text id) revision = (.error (absent (.text id) "deleted"), db) := by
  have hlook : db.look (.text id) = .ok none := congrArg Except.ok h
  unfold destroy
  rw [hlook]

/-- Under its revision a document is removed, and under another one it is not. -/
theorem destroy_stored {db : Database} {id : String} {d : Stored}
    (h : db.documents.get? id = some d) (rev : String) :
    db.destroy (.text id) (.text rev) =
      if d.revision.text = rev then (.ok (), { db with documents := db.documents.remove id })
      else (.error (stale (.text id)), db) := by
  have hlook : db.look (.text id) = .ok (some d) := congrArg Except.ok h
  unfold destroy
  rw [hlook]
  exact if_congr (by rw [Entries.same_text_iff, Value.text.injEq]) rfl rfl

/-- An identifier that a document brings is not drawn. -/
theorem identify_of_text {document : Object} {id : String} (hid : id ≠ "")
    (h : Object.get? document "_id" = some (.text id)) (draws : Nat) :
    identify document draws = (id, draws) := by
  have hgiven : Object.getD document "_id" = .text id := by rw [Object.getD, h]; rfl
  have hpresent : (Value.text id).truthy = true := by
    simpa [Value.truthy] using hid
  rw [identify, hgiven]
  exact if_pos hpresent

/-- Drawing an identifier moves the counter on, if at all. -/
theorem le_identify (document : Object) (draws : Nat) : draws ≤ (identify document draws).2 := by
  rw [identify]
  split
  · exact Nat.le_refl _
  · exact Nat.le_succ _

/-- What is got is what is stored. -/
theorem get_eq_ok {db : Database} {id : String} {v : Value} :
    db.get (.text id) = .ok v ↔ ∃ d, db.documents.get? id = some d ∧ v = .object d.fields := by
  show (match db.documents.get? id with
    | some d => Except.ok (Value.object d.fields)
    | none => .error (absent (.text id) "missing")) = .ok v ↔ _
  cases db.documents.get? id with
  | none => simp
  | some d => simp [eq_comm]

/-- A revision given as a text is the current one just when there is a document under it. -/
theorem same_currentRevision {rev : String} {current : Option Stored} :
    Value.same (.text rev) (currentRevision current) = true ↔
      ∃ d, current = some d ∧ d.revision.text = rev := by
  cases current with
  | none => simp [currentRevision, Value.same, Value.units?]
  | some d => simp [currentRevision, Value.same, eq_comm]

/-- An insert under a revision is accepted just when a document is stored under that revision. -/
theorem insert_ok_iff {db : Database} {document : Object} {draws : Nat} {id : String}
    (hid : (identify document draws).1 = id) (hgiven : Object.getD document "_rev" ≠ .null) :
    (∃ receipt, (db.insert document draws).1 = .ok receipt) ↔
      ∃ d, db.documents.get? id = some d ∧ Object.getD document "_rev" = .text d.revision.text := by
  rcases hidentify : identify document draws with ⟨key, token⟩
  obtain rfl : key = id := by rw [← hid, hidentify]
  have hsame : Value.same (Object.getD document "_rev") (currentRevision (db.documents.get? key)) =
        true ↔
      ∃ d, db.documents.get? key = some d ∧ Object.getD document "_rev" =
        .text d.revision.text := by
    cases hcurrent : db.documents.get? key with
    | none =>
      rw [currentRevision]
      refine ⟨fun h => ?_, fun ⟨_, h, _⟩ => by cases h⟩
      cases hrev : Object.getD document "_rev" with
      | null => exact absurd hrev hgiven
      | _ => rw [hrev] at h; exact absurd h Bool.false_ne_true
    | some d => simp [currentRevision, Entries.same_text_iff]
  rw [← hsame, insert, hidentify]
  dsimp only
  split
  · rename_i h
    exact ⟨fun _ => h, fun _ => ⟨_, rfl⟩⟩
  · rename_i h
    exact ⟨fun ⟨_, hok⟩ => (by cases hok), fun h' => absurd h' h⟩

end Database

/-! ## Soundness -/

/-- What holds of a document stored under an identifier when so many tokens have been drawn. -/
structure Stored.IsSound (draws : Nat) (id : String) (d : Stored) : Prop where
  named : Object.get? d.fields "_id" = some (.text id)
  revised : Object.get? d.fields "_rev" = some (.text d.revision.text)
  nonempty : id ≠ ""
  drawn : d.revision.token ≤ draws
  counted : 0 < d.revision.generation

/-- What holds of a database when so many tokens have been drawn. -/
structure Database.IsSound (draws : Nat) (db : Database) : Prop where
  ordered : db.documents.Ordered
  stored : ∀ id d, db.documents.get? id = some d → d.IsSound draws id

/-- Compared with an earlier state, when so many tokens had been drawn: what is stored was stored
    then, or has a token drawn since. -/
def Database.IsNewer (draws : Nat) (old new : Database) : Prop :=
  ∀ id d, new.documents.get? id = some d →
    old.documents.get? id = some d ∨ draws < d.revision.token

namespace Database

theorem empty_isSound (draws : Nat) : empty.IsSound draws :=
  ⟨List.Pairwise.nil, fun _ _ h => absurd h (by simp [empty, Table.get?])⟩

/-- What a database contains is stored under an identifier. -/
theorem IsSound.stored_of_mem {db : Database} {draws : Nat} (h : db.IsSound draws) {doc : Value}
    (hdoc : doc ∈ db.contents) :
    ∃ id d, db.documents.get? id = some d ∧ doc = .object d.fields := by
  obtain ⟨entry, hentry, rfl⟩ := List.mem_map.1 hdoc
  exact ⟨_, _, (Table.mem_iff_get? h.ordered).1 hentry, rfl⟩

/-- Drawing tokens does no harm. -/
theorem IsSound.mono {db : Database} {draws draws' : Nat} (h : db.IsSound draws)
    (hle : draws ≤ draws') : db.IsSound draws' := by
  refine ⟨h.ordered, fun id d hd => ?_⟩
  obtain ⟨named, revised, nonempty, drawn, counted⟩ := h.stored id d hd
  exact ⟨named, revised, nonempty, Nat.le_trans drawn hle, counted⟩

/-- What is stored is sound under the token drawn for it. -/
theorem storedAs_isSound (document : Object) {id : String} (hid : id ≠ "") (current : Option Stored)
    (token : Nat) : (storedAs document id (nextRevision current token)).IsSound token id := by
  refine ⟨get?_id_storedAs document id _, Object.get?_set_self _ _ _, hid, Nat.le_refl _, ?_⟩
  cases current <;> simp [storedAs, nextRevision]

/-- An accepted insert keeps a database sound. -/
theorem insert_isSound {db db' : Database} {document : Object} {draws draws' : Nat}
    {receipt : Receipt} (hdb : db.IsSound draws)
    (h : db.insert document draws = (.ok receipt, db', draws')) : db'.IsSound draws' := by
  obtain ⟨id, token, revision, hid, rfl, rfl, _, _, rfl⟩ := insert_accepted h
  have hne : id ≠ "" := by
    have hname := identify_ne_empty document draws
    rwa [hid] at hname
  have hle : draws ≤ token := by
    have hdraw := le_identify document draws
    rwa [hid] at hdraw
  refine ⟨Table.ordered_put hdb.ordered _ _, fun other d hd => ?_⟩
  rcases Table.get?_put_some hd with ⟨rfl, rfl⟩ | hbefore
  · exact storedAs_isSound document hne _ _
  · exact (hdb.mono (by omega)).stored other d hbefore

/-- An accepted insert leaves nothing but what was stored before and the document inserted, whose
    token is new. -/
theorem insert_isNewer {db db' : Database} {document : Object} {draws draws' : Nat}
    {receipt : Receipt} (h : db.insert document draws = (.ok receipt, db', draws')) :
    db.IsNewer draws db' := by
  obtain ⟨id, token, revision, hid, rfl, rfl, _, _, rfl⟩ := insert_accepted h
  intro other d hd
  rcases Table.get?_put_some hd with ⟨rfl, rfl⟩ | hbefore
  · have hdraw := le_identify document draws
    rw [hid] at hdraw
    exact .inr (Nat.lt_succ_of_le hdraw)
  · exact .inl hbefore

/-- An accepted removal keeps a database sound. -/
theorem destroy_isSound {db db' : Database} {id revision : Value} {draws : Nat}
    (hdb : db.IsSound draws) (h : db.destroy id revision = (.ok (), db')) : db'.IsSound draws := by
  obtain ⟨key, _, rfl, _, _, rfl⟩ := destroy_accepted h
  exact ⟨Table.ordered_remove hdb.ordered _, fun other d hd =>
    hdb.stored other d (Table.get?_remove_some hdb.ordered hd)⟩

/-- An accepted removal leaves nothing but what was stored before. -/
theorem destroy_isNewer {db db' : Database} {id revision : Value} {draws : Nat}
    (hdb : db.IsSound draws) (h : db.destroy id revision = (.ok (), db')) :
    db.IsNewer draws db' := by
  obtain ⟨key, _, rfl, _, _, rfl⟩ := destroy_accepted h
  intro other d hd
  exact .inl (Table.get?_remove_some hdb.ordered hd)

/-! ## Newer documents -/

theorem IsNewer.refl (draws : Nat) (db : Database) : db.IsNewer draws db := fun _ _ h => .inl h

theorem IsNewer.trans {a b c : Database} {draws draws' : Nat} (hab : a.IsNewer draws b)
    (hbc : b.IsNewer draws' c) (hle : draws ≤ draws') : a.IsNewer draws c := by
  intro id d hd
  rcases hbc id d hd with hb | hnew
  · exact hab id d hb
  · exact .inr (Nat.lt_of_le_of_lt hle hnew)

/-- **A revision stands for one document.**  What is stored later under the same identifier and
    under a revision with the same text is the same document. -/
theorem IsNewer.eq_of_revision {old new : Database} {draws : Nat} (hold : old.IsSound draws)
    (hnew : old.IsNewer draws new) {id : String} {d d' : Stored}
    (hd : old.documents.get? id = some d) (hd' : new.documents.get? id = some d')
    (hrev : d'.revision.text = d.revision.text) : d' = d := by
  rcases hnew id d' hd' with hsame | hdrawn
  · exact Option.some.inj (hsame.symm.trans hd)
  · -- Equal texts have equal tokens, and the token of what was stored then had been drawn before.
    have hdrawn' := (hold.stored id d hd).drawn
    rw [Revision.text_injective hrev] at hdrawn
    exact absurd hdrawn' (by omega)

end Database

end DocStore
