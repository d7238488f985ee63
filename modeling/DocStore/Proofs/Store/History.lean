/-
  Histories of a database.

  A history is a row of actions: gets, inserts, removals and clearings, by any number of clients,
  one after the other.  Every insert comes with the number from which its tokens are counted, and
  nothing is asked of these numbers but that no token is drawn twice in a history.  So the tokens
  come in any order, as they do when they are drawn at random.

  Generations say little, because they begin at one again when a document has been removed and made
  anew.  What rules out a stale write are the tokens:

  1. **One action** — what is stored after an action was stored before, or has a token that the
     action has drawn (`stored_of_perform`).

  2. **Histories** — by induction, the same holds of a row of actions (`stored_of_performAll`), and
     every stored document carries its revision, whose token has been drawn (`revised_after`).  So a
     document whose token was drawn earlier, and which is stored later, has been there all the time.

  3. **Reading and writing** (`write_iff_unchanged_since_read`) — a write under a revision that was
     read is accepted exactly when the document has not been written, removed or made anew since,
     and then it replaces the very document that was read.
-/
import DocStore.Proofs.Store.Database
import DocStore.Value.Path

namespace DocStore.Database

/-- What a client may do to a database.  An insert comes with the number of the token before the
    first one that it draws. -/
inductive Action where
  | get (id : Value)
  | insert (document : Object) (draws : Nat)
  | destroy (id revision : Value)
  | clear

namespace Action

/-- The database after an action. -/
def perform (db : Database) : Action → Database
  | .get _ => db
  | .insert document draws => (db.insert document draws).2.1
  | .destroy id revision => (db.destroy id revision).2
  | .clear => .empty

/-- The tokens that an action draws. -/
def drawn (db : Database) : Action → List Nat
  | .insert document draws => List.range' (draws + 1) ((db.insert document draws).2.2 - draws)
  | _ => []

/-- An action that writes or removes the document under an identifier, and is accepted. -/
def Changes (id : String) (db : Database) : Action → Prop
  | .get _ => False
  | .insert document draws =>
    ∃ receipt, (db.insert document draws).1 = .ok receipt ∧ receipt.id = id
  | .destroy key revision => key = .text id ∧ (db.destroy key revision).1 = .ok ()
  | .clear => True

end Action

/-- The database after a row of actions. -/
def performAll (db : Database) (actions : List Action) : Database := actions.foldl Action.perform db

/-- The tokens that a row of actions draws, in the order of the actions. -/
def drawnIn : Database → List Action → List Nat
  | _, [] => []
  | db, action :: rest => action.drawn db ++ drawnIn (action.perform db) rest

/-- The database after a history. -/
def after (history : List Action) : Database := empty.performAll history

theorem performAll_append (db : Database) (first second : List Action) :
    db.performAll (first ++ second) = (db.performAll first).performAll second := List.foldl_append

theorem drawnIn_append (db : Database) (first second : List Action) :
    db.drawnIn (first ++ second) = db.drawnIn first ++ (db.performAll first).drawnIn second := by
  induction first generalizing db with
  | nil => rfl
  | cons action rest ih =>
    show action.drawn db ++ drawnIn _ (rest ++ second) = action.drawn db ++ drawnIn _ rest ++ _
    rw [ih, List.append_assoc]
    rfl

/-! ## One action -/

theorem ordered_empty : empty.documents.Ordered := List.Pairwise.nil

/-- An accepted insert draws the token of the document that it stores. -/
theorem mem_drawn_of_insert {db db' : Database} {document : Object}
    {draws draws' token : Nat} {id : String} (hid : identify document draws = (id, token))
    {receipt : Receipt} (h : db.insert document draws = (.ok receipt, db', draws')) :
    token + 1 ∈ (Action.insert document draws).drawn db := by
  have hle : draws ≤ token := by
    have hdraw := le_identify document draws
    rwa [hid] at hdraw
  obtain ⟨_, drawn, _, hid', hdraws, -⟩ := insert_accepted h
  obtain rfl : drawn = token := (Prod.mk.inj (hid'.symm.trans hid)).2
  rw [Action.drawn, h, List.mem_range'_1]
  dsimp only
  omega

/-- No action brings a table out of order. -/
theorem ordered_perform {db : Database} (hdb : db.documents.Ordered) (action : Action) :
    (action.perform db).documents.Ordered := by
  cases action with
  | get id => exact hdb
  | clear => exact ordered_empty
  | insert document draws =>
    rcases h : db.insert document draws with ⟨e | receipt, db', draws'⟩
    · obtain ⟨rfl, -⟩ := insert_refused h
      rwa [Action.perform, h]
    · obtain ⟨id, token, revision, -, -, -, -, -, rfl⟩ := insert_accepted h
      rw [Action.perform, h]
      exact Table.ordered_put hdb _ _
  | destroy id revision =>
    rcases h : db.destroy id revision with ⟨e | _, db'⟩
    · obtain rfl := destroy_refused h
      rwa [Action.perform, h]
    · obtain ⟨key, d, rfl, -, -, rfl⟩ := destroy_accepted h
      rw [Action.perform, h]
      exact Table.ordered_remove hdb _

/-- What is stored after an action was stored before; or the action has stored it, and then it
    carries its revision, whose token the action has drawn. -/
theorem stored_of_perform {db : Database} (hdb : db.documents.Ordered)
    {action : Action} {id : String} {d : Stored}
    (hd : (action.perform db).documents.get? id = some d) :
    db.documents.get? id = some d ∨
      d.revision.token ∈ action.drawn db ∧ Object.get? d.fields "_rev" =
        some (.text d.revision.text) := by
  cases action with
  | get key => exact .inl hd
  | clear => exact absurd hd (by simp [Action.perform, empty, Table.get?])
  | insert document draws =>
    rcases h : db.insert document draws with ⟨e | receipt, db', draws'⟩
    · obtain ⟨rfl, -⟩ := insert_refused h
      rw [Action.perform, h] at hd
      exact .inl hd
    · have hdrawn : (identify document draws).2 + 1 ∈ (Action.insert document draws).drawn db :=
        mem_drawn_of_insert rfl h
      obtain ⟨key, token, revision, hkey, -, rfl, -, -, rfl⟩ := insert_accepted h
      rw [hkey] at hdrawn
      rw [Action.perform, h] at hd
      rcases Table.get?_put_some hd with ⟨-, rfl⟩ | hbefore
      · exact .inr ⟨hdrawn, Object.get?_set_self _ _ _⟩
      · exact .inl hbefore
  | destroy key revision =>
    rcases h : db.destroy key revision with ⟨e | _, db'⟩
    · obtain rfl := destroy_refused h
      rw [Action.perform, h] at hd
      exact .inl hd
    · obtain ⟨key, _, rfl, -, -, rfl⟩ := destroy_accepted h
      rw [Action.perform, h] at hd
      exact .inl (Table.get?_remove_some hdb hd)

/-- An action that changes a document does not leave it as it was: what is stored under its
    identifier afterwards, if anything, has a token that the action has drawn. -/
theorem mem_drawn_of_changes {db : Database} (hdb : db.documents.Ordered)
    {action : Action} {id : String} (h : action.Changes id db) {d : Stored}
    (hd : (action.perform db).documents.get? id = some d) :
    d.revision.token ∈ action.drawn db := by
  cases action with
  | get key => exact h.elim
  | clear => exact absurd hd (by simp [Action.perform, empty, Table.get?])
  | insert document draws =>
    obtain ⟨receipt, hok, hid⟩ := h
    rcases hinsert : db.insert document draws with ⟨answer, db', draws'⟩
    obtain rfl : answer = .ok receipt := by rw [← hok, hinsert]
    obtain ⟨key, token, revision, hkey, -, hrevision, -, hreceipt, rfl⟩ := insert_accepted hinsert
    obtain rfl : key = id := by rw [← hid, hreceipt]
    rw [Action.perform, hinsert] at hd
    -- What is there is what has just been stored.
    obtain rfl := Option.some.inj ((Table.get?_put_self _ _ _).symm.trans hd)
    have htoken : revision.token = token + 1 := by rw [hrevision]; rfl
    rw [storedAs, htoken]
    exact mem_drawn_of_insert hkey hinsert
  | destroy key revision =>
    obtain ⟨rfl, hok⟩ := h
    rcases hdestroy : db.destroy (.text id) revision with ⟨answer, db'⟩
    obtain rfl : answer = .ok () := by rw [← hok, hdestroy]
    obtain ⟨key, _, hkey, -, -, rfl⟩ := destroy_accepted hdestroy
    obtain rfl : id = key := Value.text.inj hkey
    rw [Action.perform, hdestroy] at hd
    exact absurd hd (by rw [Table.get?_remove_self hdb]; simp)

/-- An action that does not change a document leaves it as it was. -/
theorem get?_perform_of_not_changes {db : Database} {action : Action} {id : String}
    (h : ¬ action.Changes id db) :
    (action.perform db).documents.get? id = db.documents.get? id := by
  cases action with
  | get key => rfl
  | clear => exact absurd trivial h
  | insert document draws =>
    rcases hinsert : db.insert document draws with ⟨e | receipt, db', draws'⟩
    · obtain ⟨rfl, -⟩ := insert_refused hinsert
      rw [Action.perform, hinsert]
    · obtain ⟨key, token, revision, hkey, -, -, -, hreceipt, rfl⟩ := insert_accepted hinsert
      have hne : id ≠ key := fun heq => h ⟨receipt, by rw [hinsert], by rw [hreceipt, heq]⟩
      rw [Action.perform, hinsert]
      exact Table.get?_put_ne _ hne _
  | destroy key revision =>
    rcases hdestroy : db.destroy key revision with ⟨e | _, db'⟩
    · obtain rfl := destroy_refused hdestroy
      rw [Action.perform, hdestroy]
    · obtain ⟨key, _, rfl, -, -, rfl⟩ := destroy_accepted hdestroy
      have hne : id ≠ key := fun heq => h ⟨by rw [heq], by rw [hdestroy]⟩
      rw [Action.perform, hdestroy]
      exact Table.get?_remove_ne _ hne

/-! ## Histories -/

theorem ordered_performAll {db : Database} (hdb : db.documents.Ordered) (actions : List Action) :
    (db.performAll actions).documents.Ordered := by
  induction actions generalizing db with
  | nil => exact hdb
  | cons action rest ih => exact ih (ordered_perform hdb action)

theorem ordered_after (history : List Action) : (after history).documents.Ordered :=
  ordered_performAll ordered_empty history

/-- What is stored after a row of actions was stored before, or carries its revision, whose token
    has been drawn in between. -/
theorem stored_of_performAll {db : Database} (hdb : db.documents.Ordered) {actions : List Action}
    {id : String} {d : Stored} (hd : (db.performAll actions).documents.get? id = some d) :
    db.documents.get? id = some d ∨
      d.revision.token ∈ db.drawnIn actions ∧
        Object.get? d.fields "_rev" = some (.text d.revision.text) := by
  induction actions generalizing db with
  | nil => exact .inl hd
  | cons action rest ih =>
    rcases ih (ordered_perform hdb action) hd with hbefore | ⟨hdrawn, hrev⟩
    · exact (stored_of_perform hdb hbefore).imp_right
        fun ⟨hdrawn, hrev⟩ => ⟨List.mem_append_left _ hdrawn, hrev⟩
    · exact .inr ⟨List.mem_append_right _ hdrawn, hrev⟩

/-- A stored document carries its revision, whose token has been drawn. -/
theorem revised_after {history : List Action} {id : String} {d : Stored}
    (hd : (after history).documents.get? id = some d) :
    d.revision.token ∈ empty.drawnIn history ∧
      Object.get? d.fields "_rev" = some (.text d.revision.text) := by
  rcases stored_of_performAll ordered_empty hd with hempty | h
  · exact absurd hempty (by simp [empty, Table.get?])
  · exact h

/-- What is stored later under a token that was drawn earlier was stored then. -/
theorem stored_of_earlier {before between : List Action}
    (hdraws : (empty.drawnIn (before ++ between)).Nodup) {id : String} {d : Stored}
    (hd : (after (before ++ between)).documents.get? id = some d)
    (hdrawn : d.revision.token ∈ empty.drawnIn before) :
    (after before).documents.get? id = some d := by
  rw [after, performAll_append] at hd
  rw [drawnIn_append] at hdraws
  rcases stored_of_performAll (ordered_after before) hd with h | ⟨hnew, -⟩
  · exact h
  · exact absurd rfl ((List.nodup_append.1 hdraws).2.2 _ hdrawn _ hnew)

/-- Where no action changes a document, it stays as it is. -/
theorem get?_performAll_of_not_changes {db : Database} {actions : List Action} {id : String}
    (h : ∀ earlier action later, actions = earlier ++ action :: later →
      ¬ action.Changes id (db.performAll earlier)) :
    (db.performAll actions).documents.get? id = db.documents.get? id := by
  induction actions generalizing db with
  | nil => rfl
  | cons action rest ih =>
    have hrest : ((action.perform db).performAll rest).documents.get? id =
        (action.perform db).documents.get? id :=
      ih fun earlier other later heq =>
        h (action :: earlier) other later (by rw [heq, List.cons_append])
    exact hrest.trans (get?_perform_of_not_changes (h [] action rest rfl))

/-! ## Reading and writing -/

/-- A document that was read, and what is stored later under the revision that was read, are the
    same, and nothing has changed the document in between. -/
theorem unchanged_of_revision {before between : List Action}
    (hdraws : (empty.drawnIn (before ++ between)).Nodup) {id : String} {d d' : Stored}
    (hd : (after before).documents.get? id = some d)
    (hd' : (after (before ++ between)).documents.get? id = some d')
    (hrev : d'.revision.text = d.revision.text) :
    d' = d ∧ ∀ earlier action later, between = earlier ++ action :: later →
      ¬ action.Changes id (after (before ++ earlier)) := by
  have hdrawn : d'.revision.token ∈ empty.drawnIn before := by
    rw [Revision.text_injective hrev]
    exact (revised_after hd).1
  refine ⟨Option.some.inj ((stored_of_earlier hdraws hd' hdrawn).symm.trans hd), ?_⟩
  rintro earlier action later rfl hchanges
  -- The document is there also right after the action, and so its token would have been drawn
  -- twice.
  have hsplit : before ++ (earlier ++ action :: later) = (before ++ earlier ++ [action]) ++
    later := by simp
  rw [hsplit] at hdraws hd'
  have hstored := stored_of_earlier hdraws hd' (by
    rw [drawnIn_append, drawnIn_append]
    exact List.mem_append_left _ (List.mem_append_left _ hdrawn))
  rw [after, performAll_append] at hstored
  have hagain : d'.revision.token ∈ action.drawn (after (before ++ earlier)) :=
    mem_drawn_of_changes (ordered_after _) hchanges hstored
  rw [drawnIn_append, drawnIn_append, drawnIn_append] at hdraws
  have hnodup := List.nodup_append.1 (List.nodup_append.1 hdraws).1
  exact absurd rfl (hnodup.2.2 _ (List.mem_append_left _ hdrawn) _ (List.mem_append_left _ hagain))

/-- **A write replaces what was read, or is refused.**  Take any history of a database in which no
    token is drawn twice, and a document that comes to be inserted under an identifier with a
    revision.  If the insert is accepted, the document stored just before is the one that every
    earlier get that returned this revision delivered.  And after any such get, the insert is
    accepted exactly when since then no write, removal or clearing that concerns the document has
    been accepted, though a document that was removed and made anew begins at the first generation
    again. -/
theorem write_iff_unchanged_since_read {history : List Action}
    (hdraws : (empty.drawnIn history).Nodup) {document : Object} {draws : Nat} {id : String}
    (hid : (identify document draws).1 = id) {rev : Value}
    (hrev : Object.getD document "_rev" = rev) (hgiven : rev ≠ .null) :
    ((∃ receipt, ((after history).insert document draws).1 = .ok receipt) →
      ∃ d, (after history).documents.get? id = some d ∧ rev = .text d.revision.text ∧
        ∀ before between read, history = before ++ .get (.text id) :: between →
          (after before).get (.text id) = .ok read → read.field? "_rev" = some rev →
          read = .object d.fields) ∧
    ∀ before between read, history = before ++ .get (.text id) :: between →
      (after before).get (.text id) = .ok read → read.field? "_rev" = some rev →
      ((∃ receipt, ((after history).insert document draws).1 = .ok receipt) ↔
        ∀ earlier action later, between = earlier ++ action :: later →
          ¬ action.Changes id (after (before ++ .get (.text id) :: earlier))) := by
  subst hrev
  rw [insert_ok_iff hid hgiven]
  -- A get changes nothing, so what it delivers is stored before it and after it.
  have hread : ∀ {before : List Action} {read : Value}, (after before).get (.text id) = .ok read →
      read.field? "_rev" = some (Object.getD document "_rev") →
      ∃ d, (after (before ++ [.get (.text id)])).documents.get? id = some d ∧
        read = .object d.fields ∧ Object.getD document "_rev" = .text d.revision.text := by
    intro before read hget hfield
    obtain ⟨d, hd, rfl⟩ := get_eq_ok.1 hget
    refine ⟨d, by rw [after, performAll_append]; exact hd, rfl, ?_⟩
    exact Option.some.inj (hfield.symm.trans (revised_after hd).2)
  constructor
  · rintro ⟨d, hd, htext⟩
    refine ⟨d, hd, htext, ?_⟩
    rintro before between read rfl hget hfield
    obtain ⟨d', hd', rfl, htext'⟩ := hread hget hfield
    rw [List.append_cons] at hdraws hd
    rw [(unchanged_of_revision hdraws hd' hd (Value.text.inj (htext.symm.trans htext'))).1]
  · rintro before between read rfl hget hfield
    obtain ⟨d', hd', rfl, htext'⟩ := hread hget hfield
    rw [List.append_cons] at hdraws ⊢
    constructor
    · rintro ⟨d, hd, htext⟩ earlier action later heq
      rw [List.append_cons]
      have hrevision := Value.text.inj (htext.symm.trans htext')
      exact (unchanged_of_revision hdraws hd' hd hrevision).2 _ _ _ heq
    · intro hsame
      refine ⟨d', ?_, htext'⟩
      rw [after, performAll_append]
      refine (get?_performAll_of_not_changes fun earlier action later heq => ?_).trans hd'
      have hnot := hsame earlier action later heq
      rwa [List.append_cons, after, performAll_append] at hnot

/-- A document that is removed and made anew as it was has the first generation both times.  A write
    under the revision of its first life is refused; one under that of its second is accepted,
    though another document has been written in between, and replaces what was read in the second
    life. -/
theorem write_iff_unchanged_since_read_made_anew :
    let doc : Object := [("_id", .text "a"), ("n", .int 1)]
    let first := Revision.text ⟨1, 1⟩
    let second := Revision.text ⟨1, 2⟩
    let history : List Action := [.insert doc 0, .get (.text "a"),
      .destroy (.text "a") (.text first),
      .insert doc 1, .get (.text "a"), .insert [("n", .int 3)] 7]
    (empty.drawnIn history).Nodup ∧
      ¬ (∃ receipt, ((after history).insert [("_id", .text "a"), ("_rev", .text first)] 4).1 =
        .ok receipt) ∧
      (∃ receipt, ((after history).insert [("_id", .text "a"), ("_rev", .text second)] 4).1 =
        .ok receipt) ∧
      ∃ d, (after history).documents.get? "a" = some d ∧
        (after (history.take 4)).get (.text "a") = .ok (.object d.fields) := by
  intro doc first second history
  have hdraws : (empty.drawnIn history).Nodup := by decide +kernel
  -- Both writes name the document by its identifier, so none is drawn for them.
  have hid₁ : (identify [("_id", .text "a"), ("_rev", .text first)] 4).1 = "a" := by decide +kernel
  have hid₂ : (identify [("_id", .text "a"), ("_rev", .text second)] 4).1 = "a" := by decide +kernel
  obtain ⟨-, hfirst⟩ :=
    write_iff_unchanged_since_read hdraws hid₁ rfl (fun h => Value.noConfusion h)
  obtain ⟨hsecond, -⟩ :=
    write_iff_unchanged_since_read hdraws hid₂ rfl (fun h => Value.noConfusion h)
  -- Each life is known by its revision, and a stored document carries its own.
  have hlife : ∀ (actions : List Action) (revision : Revision),
      ((after actions).documents.get? "a").map Stored.revision = some revision →
      ∃ d, (after actions).documents.get? "a" = some d ∧ d.revision = revision ∧
        (after actions).get (.text "a") = .ok (.object d.fields) ∧
        (Value.object d.fields).field? "_rev" = some (.text revision.text) := by
    intro actions revision h
    obtain ⟨d, hd, rfl⟩ := Option.map_eq_some_iff.1 h
    exact ⟨d, hd, rfl, get_eq_ok.2 ⟨d, hd, rfl⟩, (revised_after hd).2⟩
  obtain ⟨_, -, -, hget₁, hrev₁⟩ := hlife [.insert doc 0] ⟨1, 1⟩ (by decide +kernel)
  obtain ⟨_, -, -, hget₂, hrev₂⟩ := hlife (history.take 4) ⟨1, 2⟩ (by decide +kernel)
  obtain ⟨d₃, hd₃, hlast, -⟩ := hlife history ⟨1, 2⟩ (by decide +kernel)
  have haccepted : ∃ receipt,
      ((after history).insert [("_id", .text "a"), ("_rev", .text second)] 4).1 = .ok receipt :=
    (insert_ok_iff (by decide +kernel) (fun h => Value.noConfusion h)).2
    ⟨d₃, hd₃, by rw [hlast]; rfl⟩
  refine ⟨hdraws, fun h => ?_, haccepted, ?_⟩
  · -- The document was removed right after the first get.
    have hremoved :
        ((after ([.insert doc 0] ++ [.get (.text "a")])).destroy (.text "a")
          (.text first)).1.toBool = true := by decide +kernel
    refine (hfirst [.insert doc 0] _ _ rfl hget₁ hrev₁).1 h []
      (.destroy (.text "a") (.text first)) _ rfl ⟨rfl, ?_⟩
    generalize ((after ([.insert doc 0] ++ [.get (.text "a")])).destroy (.text "a")
        (.text first)).1 = answer
      at hremoved ⊢
    cases answer with
    | ok _ => rfl
    | error e => cases hremoved
  · obtain ⟨d, hd, -, hread⟩ := hsecond haccepted
    exact ⟨d, hd, by rw [hget₂, hread (history.take 4) _ _ rfl hget₂ hrev₂]⟩

end DocStore.Database
