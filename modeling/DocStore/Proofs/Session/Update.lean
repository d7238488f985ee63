/-
  Updates among rivals.

  An update reads a document, overlays it with the changes and inserts it under the revision it
  read; after a conflict it does so once more.  Rivals may write between any two of its calls.

  1. **The accepted insert** — an insert under the revision that was read is accepted only while the
     document that was read is still the one that is stored, because a revision stands for one
     document.  So it puts the changes over what is stored at that very moment
     (`overlays_of_accepted`).

  2. **One attempt** — an attempt either makes idle calls only, or reads and ends with an accepted
     insert (`amend_attempt`).

  3. **The update** — `update_overlays_current`: at most two inserts are tried and at most one
     accepted; an update that ends well has overlaid the current document with its changes, and one
     that fails has left all documents to the rivals.
-/
import DocStore.Proofs.Document.Overlay
import DocStore.Proofs.Session.Home
import DocStore.Proofs.Store.Contested
import DocStore.Session.Write

namespace DocStore

open Program

/-! ## The accepted insert -/

/-- A call that replaces the document stored under an identifier, as it is just before, by the
    document overlaid with changes. -/
structure Call.Overlays (call : Call) (name id : String) (changes : Object)
    (old new : Stored) : Prop where
  /-- It is an accepted insert. -/
  accepted : call.isAccepted = true
  /-- The document that is stored just before. -/
  before : (call.before.database (.text name)).documents.get? id = some old
  /-- The document that is stored just after. -/
  after : (call.after.database (.text name)).documents.get? id = some new
  /-- The new document is the old one overlaid with the changes, but for the revision. -/
  overlaid : ∃ merged, Document.overlay old.fields changes = .ok merged ∧
    call.request = .insert (.text name) merged ∧
    new.fields = Object.set merged "_rev" (.text new.revision.text)
  /-- What the changes do not name has the value that was stored just before. -/
  kept : ∀ key, key ∉ Object.keys changes → key ≠ "_rev" →
    Object.get? new.fields key = Object.get? old.fields key
  /-- The revision is of the next generation, its token the next to be drawn. -/
  revision : new.revision = ⟨old.revision.generation + 1, call.before.draws + 1⟩
  /-- No stored document has the revision of the new one. -/
  fresh : ∀ database other d, (call.before.database database).documents.get? other = some d →
    d.revision.text ≠ new.revision.text
  /-- The other documents of the database stay. -/
  others : ∀ other, other ≠ id → (call.after.database (.text name)).documents.get? other =
    (call.before.database (.text name)).documents.get? other

namespace Session

/-- An insert of an overlaid document under the revision that was read is accepted only if that
    document is still stored, and then it overlays it. -/
theorem overlays_of_accepted {snapshot found : Server} (hsnapshot : snapshot.IsSound)
    (hfound : found.IsSound) (hsince : Server.Since snapshot found) {name id : String} {d : Stored}
    (hd : (snapshot.database (.text name)).documents.get? id = some d) {changes merged : Object}
    (hoverlay : Document.overlay d.fields changes = .ok merged) {receipt : Receipt} {db : Database}
    {draws : Nat} (hinsert : (found.database (.text name)).insert merged found.draws =
      (.ok receipt, db, draws)) :
    ∃ new : Stored, receipt.revision = new.revision.text ∧
      new.fields = Object.set merged "_rev" (.text new.revision.text) ∧
      Call.Overlays ⟨.insert (.text name) merged, .ok receipt, found,
        { found.setDatabase (.text name) db with draws := draws }⟩ name id changes d new := by
  obtain ⟨named, revised, nonempty, -, -⟩ := (hsnapshot (.text name)).stored id d hd
  obtain ⟨merged', hmerged', hid, hrev, hkept⟩ := Document.overlay_stored named revised changes
  obtain rfl : merged' = merged := Except.ok.inj (hmerged'.symm.trans hoverlay)
  obtain ⟨key, token, revision, hkey, rfl, hrevision, hcurrent, rfl, rfl⟩ :=
    Database.insert_accepted hinsert
  obtain ⟨rfl, rfl⟩ : id = key ∧ found.draws = token := by
    rw [Database.identify_of_text nonempty hid] at hkey
    exact Prod.mk.inj hkey
  -- The revision that was read is current, so what was read is what is stored.
  have hgiven : Object.getD merged' "_rev" = .text d.revision.text := by rw [Object.getD, hrev]; rfl
  rw [hgiven, Database.same_currentRevision] at hcurrent
  obtain ⟨current, hstored, hsame⟩ := hcurrent
  obtain rfl : current = d :=
    (hsince.newer (.text name)).eq_of_revision (hsnapshot (.text name)) hd hstored hsame
  have hsetid : Object.set merged' "_id" (.text id) = merged' := Object.set_of_get? hid
  have hnew : Database.storedAs merged' id revision =
      ⟨revision, Object.set merged' "_rev" (.text revision.text)⟩ := by
    rw [Database.storedAs, hsetid]
  have hnext : revision = ⟨current.revision.generation + 1, found.draws + 1⟩ := by
    rw [hrevision, hstored, Database.nextRevision]
  refine ⟨⟨revision, Object.set merged' "_rev" (.text revision.text)⟩, rfl, rfl, rfl, hstored, ?_,
    ⟨merged', hoverlay, rfl, rfl⟩, ?_, hnext, ?_, ?_⟩
  · show (Server.database (found.setDatabase (.text name) _) (.text name)).documents.get? id = _
    rw [Server.database_setDatabase_text, Table.get?_put_self, hnew]
  · intro other hother hne
    rw [Object.get?_set_ne _ _ (Ne.symm hne)]
    exact hkept other hother
  -- The token was drawn just now, and that of whatever is stored had been drawn before.
  · intro database other stored hother heq
    have hdrawn := ((hfound database).stored other stored hother).drawn
    rw [Revision.text_injective heq, hnext] at hdrawn
    exact absurd hdrawn (by simp)
  · intro other hne
    show (Server.database (found.setDatabase (.text name) _) (.text name)).documents.get? other = _
    rw [Server.database_setDatabase_text, Table.get?_put_ne _ hne]

/-! ## Attempts -/

/-- What the calls of one or more attempts are, with their result, when they may try `n` inserts. -/
inductive Attempt (home : Home) (name id : String) (changes : Object) (n : Nat) :
    List Call → Except Failure (Option Value) → Prop
  /-- Idle calls only. -/
  | idle {calls : List Call} {result : Except Failure (Option Value)}
      (hcalls : ∀ call ∈ calls, call.IsIdle) (hinserts : calls.countP Call.isInsert ≤ n)
      (hresult : ∀ v, result ≠ .ok (some v)) : Attempt home name id changes n calls result
  /-- Idle calls, and then an insert that overlays a document of the model's own. -/
  | overlay {calls : List Call} {call : Call} {old new : Stored}
      (hcalls : ∀ call ∈ calls, call.IsIdle) (hinserts : calls.countP Call.isInsert < n)
      (hcall : call.Overlays name id changes old new)
      (howned : home.owns (.object old.fields) = .ok true) :
      Attempt home name id changes n (calls ++ [call]) (.ok (some (.object new.fields)))

/-- Idle calls may come first. -/
theorem Attempt.after {home : Home} {name id : String} {changes : Object} {m n : Nat}
    {before calls : List Call} {result : Except Failure (Option Value)}
    (hbefore : ∀ call ∈ before, call.IsIdle) (hinserts : before.countP Call.isInsert ≤ m)
    (h : Attempt home name id changes n calls result) :
    Attempt home name id changes (m + n) (before ++ calls) result := by
  have hboth : ∀ calls : List Call, (∀ call ∈ calls, call.IsIdle) →
      ∀ call ∈ before ++ calls, call.IsIdle := fun calls hcalls call hmem =>
    (List.mem_append.1 hmem).elim (hbefore call) (hcalls call)
  cases h with
  | idle hcalls hcount hresult =>
    exact .idle (hboth _ hcalls) (by rw [List.countP_append]; omega) hresult
  | overlay hcalls hcount hcall howned =>
    rw [← List.append_assoc]
    exact .overlay (hboth _ hcalls) (by rw [List.countP_append]; omega) hcall howned

/-- Whether a document is a model's own can be told of every document. -/
theorem owns_object (home : Home) (fields : Object) : ∃ b, home.owns (.object fields) = .ok b := by
  obtain ⟨database, model, tagField⟩ := home
  cases tagField with
  | none => exact ⟨true, rfl⟩
  | some field => exact ⟨_, rfl⟩

/-- Reading calls do not try to insert. -/
theorem countP_reading {calls : List Call} (h : ∀ call ∈ calls, call.IsReading) :
    calls.countP Call.isInsert = 0 :=
  List.countP_eq_zero.2 fun call hmem => by simp [(h call hmem).1]

variable {rivals : Rivals} {c c' : Contested}

/-- What an insert of an overlaid document comes to. -/
theorem insert_attempt {home : Home} {name id : String} {changes merged : Object}
    {snapshot : Server} {d : Stored} (hc : c.memory.server.IsSound) (hsnapshot : snapshot.IsSound)
    (hsince : Server.Since snapshot c.memory.server)
    (hd : (snapshot.database (.text name)).documents.get? id = some d)
    (howned : home.owns (.object d.fields) = .ok true)
    (hoverlay : Document.overlay d.fields changes = .ok merged) {before : List Call}
    (hbefore : ∀ call ∈ before, call.IsReading) {answer : Except Failure Receipt}
    (h : (Contested.backend rivals).answer (.insert (.text name) merged) c = (answer, c')) :
    ∃ call, c'.calls = c.calls ++ [call] ∧ Attempt home name id changes 1 (before ++ [call])
      (answer.map fun receipt =>
        some (.object (Object.set merged "_rev" (.text receipt.revision)))) := by
  obtain ⟨hanswer, -, hcalls⟩ := Contested.answered h
  refine ⟨_, hcalls, ?_⟩
  have hfound := Contested.found_isSound rivals hc
  have hsince' := hsince.trans (Contested.since_found rivals hc)
  rcases hinsert : ((c.found rivals).database (.text name)).insert merged
      (c.found rivals).draws with
    ⟨result, db, draws⟩
  -- What the call answers and what it leaves both come from this one insert.
  have hserve : (Request.insert (.text name) merged).serve (c.found rivals) =
      { (c.found rivals).setDatabase (.text name) db with draws := draws } := by
    show ((c.found rivals).insert (.text name) merged).2 = _
    rw [Server.insert, hinsert]
  have hresult : result = answer := by
    rw [← hanswer]
    show result = ((c.found rivals).insert (.text name) merged).1
    rw [Server.insert, hinsert]
  subst hresult
  cases result with
  | ok receipt =>
    obtain ⟨new, hrev, hfields, hnew⟩ :=
      overlays_of_accepted hsnapshot hfound hsince' hd hoverlay hinsert
    rw [hserve]
    show Attempt home name id changes 1 _
      (.ok (some (.object (Object.set merged "_rev" (.text receipt.revision)))))
    rw [hrev, ← hfields]
    exact .overlay (fun call hmem => (hbefore call hmem).2) (by rw [countP_reading hbefore]; omega)
      hnew howned
  | error e =>
    obtain ⟨rfl, -, -⟩ := Database.insert_refused hinsert
    have hidle : Call.IsIdle ⟨.insert (.text name) merged, .error e, c.found rivals,
        (Request.insert (.text name) merged).serve (c.found rivals)⟩ :=
      ⟨Bool.and_false _, by rw [hserve]; exact Server.sameDocuments_setDatabase rfl⟩
    refine .idle (fun call hmem => ?_) ?_ fun v hv => by cases hv
    · rcases List.mem_append.1 hmem with hmem | hmem
      · exact (hbefore call hmem).2
      · rw [List.mem_singleton.1 hmem]
        exact hidle
    · rw [List.countP_append, countP_reading hbefore]
      exact Nat.le_of_eq rfl

/-- An attempt is one of the two. -/
theorem amend_attempt (rivals : Rivals) {home : Home} {name : String}
    (hname : home.database = .text name) (id : String) (changes : Object)
    (hc : c.memory.server.IsSound) :
    ∃ result c' calls, (amend home (.text id) changes).run (Contested.backend rivals) c =
        (result, c') ∧
      c'.memory.server.IsSound ∧ c'.calls = c.calls ++ calls ∧
      Attempt home name id changes 1 calls result := by
  have hreading : Request.IsReading (.get (.text name) (.text id)) := rfl
  unfold amend
  rw [run_bind, run_send, hname]
  rcases hget : (Contested.backend rivals).answer (.get (.text name) (.text id)) c with ⟨answer, c₁⟩
  have hcall := Contested.isReading_call hreading answer (c.found rivals)
  have hlone : ∀ call ∈ [(⟨_, answer, c.found rivals, _⟩ : Call)], call.IsReading :=
    fun call hmem => List.mem_singleton.1 hmem ▸ hcall
  obtain ⟨hc₁, -, -⟩ := Contested.leads_answer hget hcall hc
  obtain ⟨hanswer, hserver, hcalls⟩ := Contested.answered hget
  -- Wherever the attempt ends before its insert, it has made one reading call.
  have hidle : ∀ result : Except Failure (Option Value), (∀ v, result ≠ .ok (some v)) →
      Attempt home name id changes 1 [⟨_, answer, c.found rivals, _⟩] result :=
        fun result hresult =>
    .idle (fun call hmem => (hlone call hmem).2) (by rw [countP_reading hlone]; omega) hresult
  cases answer with
  | error e => exact ⟨_, c₁, _, rfl, hc₁, hcalls, hidle _ fun v hv => by cases hv⟩
  | ok existing =>
    obtain ⟨d, hd, rfl⟩ : ∃ d, ((c.found rivals).database (.text name)).documents.get? id = some d ∧
      existing = .object d.fields := Database.get_eq_ok.1 hanswer
    obtain ⟨owned, howned⟩ := owns_object home d.fields
    dsimp only
    rw [run_bind_lift howned]
    cases owned with
    | false => exact ⟨_, c₁, _, rfl, hc₁, hcalls, hidle _ fun v hv => by cases hv⟩
    | true =>
      have hsound := (Contested.found_isSound rivals hc (.text name)).stored id d hd
      obtain ⟨merged, hoverlay, -⟩ := Document.overlay_stored hsound.named hsound.revised changes
      rw [if_pos rfl, run_bind_ok (run_pure _ d.fields c₁), run_bind_lift hoverlay,
        run_bind, run_send]
      rcases hinsert : (Contested.backend rivals).answer (.insert (.text name) merged) c₁ with
        ⟨receipt, c₂⟩
      have hsince : Server.Since (c.found rivals) c₁.memory.server := by
        rw [hserver]
        exact Server.Since.refl _
      obtain ⟨call, hcalls₂, hattempt⟩ := insert_attempt hc₁
        (Contested.found_isSound rivals hc) hsince hd howned hoverlay hlone hinsert
      obtain ⟨hc₂, -⟩ := Contested.leads_answer (P := fun _ => True) hinsert trivial hc₁
      refine ⟨_, c₂, _, ?_, hc₂, ?_, hattempt⟩
      · cases receipt <;> rfl
      · rw [hcalls₂, hcalls, List.append_assoc]

/-- After a conflict an attempt is made once more, so that there may be two inserts. -/
theorem amend_twice (rivals : Rivals) (s : Session) {home : Home} {name : String}
    (hname : home.database = .text name) (id : String) (changes : Object) (op : Operation)
    (message : String) (hc : c.memory.server.IsSound) :
    ∃ result c' calls, ((amend home (.text id) changes).onRefusal .conflict do
        s.note op .warning message
        amend home (.text id) changes).run (Contested.backend rivals) c = (result, c') ∧
      c'.memory.server.IsSound ∧ c'.calls = c.calls ++ calls ∧
      Attempt home name id changes 2 calls result := by
  obtain ⟨result, c₁, calls₁, hrun₁, hc₁, hcalls₁, hattempt₁⟩ :=
    amend_attempt rivals hname id changes hc
  rw [run_onRefusal, hrun₁]
  -- An attempt that has written is no conflict, so a second one starts with nothing written.
  cases hattempt₁ with
  | overlay hcalls hcount hcall howned =>
    exact ⟨_, c₁, _, rfl, hc₁, hcalls₁, .overlay hcalls (by omega) hcall howned⟩
  | idle hcalls hcount hresult =>
    have hidle : Attempt home name id changes 2 calls₁ result := .idle hcalls (by omega) hresult
    cases result with
    | ok outcome => exact ⟨_, c₁, _, rfl, hc₁, hcalls₁, hidle⟩
    | error e =>
      dsimp only
      split
      · obtain ⟨c₂, hnote, hserver, hsame⟩ := run_note_contested rivals s op .warning message c₁
        obtain ⟨result₃, c₃, calls₃, hrun₃, hc₃, hcalls₃, hattempt₃⟩ :=
          amend_attempt rivals hname id changes (show c₂.memory.server.IsSound by rwa [hserver])
        rw [run_bind, hnote]
        refine ⟨result₃, c₃, calls₁ ++ calls₃, hrun₃, hc₃, ?_, hattempt₃.after hcalls hcount⟩
        rw [hcalls₃, hsame, hcalls₁, List.append_assoc]
      · exact ⟨_, c₁, _, rfl, hc₁, hcalls₁, hidle⟩

/-! ## The update -/

/-- Finding the target and amending it. -/
theorem amend_target (rivals : Rivals) (s : Session) {home : Home} {name : String}
    (hname : home.database = .text name) (f : Filter) (model : Value) (changes : Object)
    (hc : c.memory.server.IsSound) :
    ∃ result c' calls, (do
        let target ← s.target home f
        s.note .update .debug
          ("model=" ++ model.written ++ " id=" ++ target.getD "None" ++ " changes=" ++
            (Value.object changes).shown)
        match target with
        | none => Program.fail (nothingToUpdate model)
        | some id =>
          let outcome ← (amend home (.text id) changes).onRefusal .conflict do
            s.note .update .warning ("conflict on " ++ id ++ ", retrying once with a fresh read")
            amend home (.text id) changes
          match outcome with
          | none => Program.fail (nothingToUpdate model)
          | some document => return document : Program Value).run (Contested.backend rivals) c =
        (result, c') ∧ c'.calls = c.calls ++ calls ∧
      ((∀ call ∈ calls, call.IsIdle) ∧ calls.countP Call.isInsert ≤ 2 ∧ (∃ e, result = .error e) ∨
        ∃ id v, (∀ i, f.identifier = .ok (some i) → id = i) ∧ result = .ok v ∧
          Attempt home name id changes 2 calls (.ok (some v))) := by
  have htarget := target_within s home f
  rw [run_bind]
  obtain ⟨hc₁, -, calls₁, hcalls₁, hreading₁⟩ := Contested.leads_of_within rivals htarget c hc
  have hidle₁ : ∀ call ∈ calls₁, call.IsIdle := fun call hmem => (hreading₁ call hmem).2
  have hcount₁ := countP_reading hreading₁
  rcases hrun : (s.target home f).run (Contested.backend rivals) c with ⟨e | target, c₁⟩
  · rw [hrun] at hcalls₁
    exact ⟨_, c₁, calls₁, rfl, hcalls₁, .inl ⟨hidle₁, by omega, e, rfl⟩⟩
  rw [hrun] at hc₁ hcalls₁
  dsimp only
  obtain ⟨c₂, hnote, hserver₂, hcalls₂⟩ := run_note_contested rivals s .update .debug
    ("model=" ++ model.written ++ " id=" ++ target.getD "None" ++ " changes=" ++
      (Value.object changes).shown) c₁
  rw [run_bind, hnote]
  -- Without a target nothing is called any more.
  cases target with
  | none =>
    exact ⟨_, c₂, calls₁, rfl, by rw [hcalls₂, hcalls₁], .inl ⟨hidle₁, by omega, _, rfl⟩⟩
  | some id =>
    have hid : ∀ i, f.identifier = .ok (some i) → id = i := fun i hi =>
      Option.some.inj (htarget.of_run (congrArg Prod.fst hrun) i hi)
    obtain ⟨result, c₃, calls₃, hrun₃, -, hcalls₃, hattempt⟩ :=
      amend_twice rivals s hname id changes .update
      ("conflict on " ++ id ++ ", retrying once with a fresh read")
      (show c₂.memory.server.IsSound by rwa [hserver₂])
    have hboth : c₃.calls = c.calls ++ (calls₁ ++ calls₃) := by
      rw [hcalls₃, hcalls₂, hcalls₁, List.append_assoc]
    have hattempt := hattempt.after hidle₁ (Nat.le_of_eq hcount₁)
    generalize calls₁ ++ calls₃ = calls at hboth hattempt
    rw [Nat.zero_add] at hattempt
    dsimp only
    rw [run_bind, hrun₃]
    cases hattempt with
    | idle hcalls hcount hresult =>
      refine ⟨(match result with
        | .ok (some v) => .ok v
        | .ok none => .error (nothingToUpdate model)
        | .error e => .error e), c₃, _, ?_, hboth, .inl ⟨hcalls, hcount, ?_⟩⟩
      · rcases result with e | _ | v <;> rfl
      · rcases result with e | _ | v
        · exact ⟨_, rfl⟩
        · exact ⟨_, rfl⟩
        · exact absurd rfl (hresult v)
    | overlay hcalls hcount hcall howned =>
      exact ⟨_, c₃, _, rfl, hboth, .inr ⟨id, _, hid, rfl, .overlay hcalls hcount hcall howned⟩⟩

/-- What the calls of an update are, with its result. -/
inductive Updated (s : Session) (model : String) (filter data : Value) :
    List Call → Except Failure Value → Prop
  /-- Nothing has been written. -/
  | failed {calls : List Call} {e : Failure} (hcalls : ∀ call ∈ calls, call.IsIdle)
      (hinserts : calls.countP Call.isInsert ≤ 2) : Updated s model filter data calls (.error e)
  /-- One document has been overlaid with the changes, and is the result. -/
  | done {calls : List Call} {call : Call} {old new : Stored} {stored v : Value} {f : Filter}
      {changes : Object} {name id : String}
      (hstored : s.schema.modelName (.text model) = .ok stored)
      (hname : (s.homeOf stored).database = .text name)
      (hfilter : s.schema.filter (.text model) filter = .ok f)
      (htarget : ∀ i, f.identifier = .ok (some i) → id = i)
      (hchanges : s.changesOf (s.homeOf stored) (.text model) data = .ok changes)
      (hcalls : ∀ call ∈ calls, call.IsIdle) (hinserts : calls.countP Call.isInsert < 2)
      (hcall : call.Overlays name id changes old new)
      (howned : (s.homeOf stored).owns (.object old.fields) = .ok true)
      (hv : s.output (s.homeOf stored) (.text model) .null (.object new.fields) = .ok v) :
      Updated s model filter data (calls ++ [call]) (.ok v)

/-- An update is one of the two. -/
theorem update_run (rivals : Rivals) {s : Session} (hs : s.schema.isTyped = true) (model : String)
    (filter data : Value) (hc : c.memory.server.IsSound) :
    ∃ result c' calls,
      (s.update (.text model) filter data).run (Contested.backend rivals) c = (result, c') ∧
      c'.calls = c.calls ++ calls ∧ Updated s model filter data calls result := by
  have hhome := home_within s (.text model)
  unfold update
  rw [run_bind]
  obtain ⟨hc₁, -, calls₁, hcalls₁, hreading₁⟩ := Contested.leads_of_within rivals hhome c hc
  have hidle₁ : ∀ call ∈ calls₁, call.IsIdle := fun call hmem => (hreading₁ call hmem).2
  have hcount₁ := countP_reading hreading₁
  have hread : ∀ e, Updated s model filter data calls₁ (.error e) :=
    fun e => .failed hidle₁ (by omega)
  rcases hrun : (s.home (.text model)).run (Contested.backend rivals) c with ⟨e | home, c₁⟩
  · rw [hrun] at hcalls₁
    exact ⟨_, c₁, calls₁, rfl, hcalls₁, hread e⟩
  rw [hrun] at hc₁ hcalls₁
  dsimp only at hc₁ hcalls₁
  obtain ⟨stored, hstored, rfl⟩ := hhome.of_run (congrArg Prod.fst hrun)
  obtain ⟨name, hname⟩ : ∃ name, (s.homeOf stored).database = .text name := by
    obtain ⟨text, htext⟩ := Schema.modelName_typed hs model
    rw [htext] at hstored
    obtain rfl := Except.ok.inj hstored
    exact s.homeOf_database text
  dsimp only
  rw [run_bind, run_liftM]
  -- Up to the guarded part nothing but readings has been called, wherever the update fails.
  cases hfilter : s.schema.filter (.text model) filter with
  | error e => exact ⟨_, c₁, calls₁, rfl, hcalls₁, hread e⟩
  | ok f =>
  dsimp only
  rw [run_bind, run_liftM]
  cases hchanges : s.changesOf (s.homeOf stored) (.text model) data with
  | error e => exact ⟨_, c₁, calls₁, rfl, hcalls₁, hread e⟩
  | ok changes =>
  obtain ⟨result, c₂, calls₂, hrun₂, hcalls₂, hresult⟩ :=
    amend_target rivals s hname f (.text model) changes hc₁
  obtain ⟨c₃, hrun₃, -, hcalls₃⟩ := run_guarded_contested rivals s .update (.text model) hrun₂
  have hall : c₃.calls = c.calls ++ (calls₁ ++ calls₂) := by
    rw [hcalls₃, hcalls₂, hcalls₁, List.append_assoc]
  rcases hresult with ⟨hcalls, hcount, e, rfl⟩ | ⟨id, v, htarget, rfl, hattempt⟩
  · refine ⟨_, c₃, _, run_bind_error hrun₃, hall, .failed (fun call hmem => ?_) ?_⟩
    · exact (List.mem_append.1 hmem).elim (hidle₁ call) (hcalls call)
    · rw [List.countP_append]
      omega
  · have hattempt := hattempt.after hidle₁ (Nat.le_of_eq hcount₁)
    generalize calls₁ ++ calls₂ = calls at hall hattempt
    rw [Nat.zero_add] at hattempt
    cases hattempt with
    | idle _ _ hnone => exact absurd rfl (hnone v)
    | @overlay calls call old new hcalls hcount hcall howned =>
      obtain ⟨v, hv⟩ := output_ok hs (s.homeOf stored) (.text model) new.fields
      refine ⟨.ok v, c₃, _, (run_bind_ok hrun₃).trans ?_, hall,
        .done hstored hname hfilter htarget hchanges hcalls hcount hcall howned hv⟩
      rw [run_liftM, hv]

/-- Idle calls are no accepted inserts. -/
theorem countP_idle {calls : List Call} (h : ∀ call ∈ calls, call.IsIdle) :
    calls.countP Call.isAccepted = 0 :=
  List.countP_eq_zero.2 fun call hmem => by simp [(h call hmem).1]

/-- **An update overlays the current document once, or nothing.**  Whatever rivals do between its
    calls, an update tries at most two inserts, of which at most one is accepted.  If it ends well,
    its last call is an accepted insert that replaces the document, as it is stored at that moment,
    by the document overlaid with the changes; that document is the model's own, it is the one that
    the filter names, and the new one is the result.  If it fails, none of its inserts has been
    accepted, and every call has left all documents as the rivals had left them. -/
theorem update_overlays_current {s : Session} (hs : s.schema.isTyped = true) (rivals : Rivals)
    {m : Memory} (hm : m.server.Reached) (model : String) (filter data : Value)
    {result : Except Failure Value} {c : Contested}
    (hrun : (s.update (.text model) filter data).run (Contested.backend rivals) ⟨m, []⟩ =
      (result, c)) :
    c.calls.countP Call.isInsert ≤ 2 ∧ c.calls.countP Call.isAccepted ≤ 1 ∧
      (∀ v, result = .ok v → ∃ home f changes name id calls call old new,
        (∃ stored, s.schema.modelName (.text model) = .ok stored ∧ home = s.homeOf stored) ∧
        home.database = .text name ∧ s.schema.filter (.text model) filter = .ok f ∧
        s.changesOf home (.text model) data = .ok changes ∧
        (∀ i, f.identifier = .ok (some i) → id = i) ∧
        c.calls = calls ++ [call] ∧ (∀ other ∈ calls, other.IsIdle) ∧
        call.Overlays name id changes old new ∧ home.owns (.object old.fields) = .ok true ∧
        s.output home (.text model) .null (.object new.fields) = .ok v) ∧
      ∀ e, result = .error e → ∀ call ∈ c.calls,
        call.isAccepted = false ∧ Server.SameDocuments call.before call.after := by
  obtain ⟨result', c', calls, hrun', hcalls, hupdated⟩ :=
    update_run rivals hs model filter data
      (show (⟨m, []⟩ : Contested).memory.server.IsSound from hm.isSound)
  obtain ⟨rfl, rfl⟩ := Prod.mk.inj (hrun.symm.trans hrun')
  rw [List.nil_append] at hcalls
  rw [hcalls]
  cases hupdated with
  | failed hidle hcount =>
    refine ⟨hcount, ?_, ?_, fun e _ call hmem => hidle call hmem⟩
    · rw [countP_idle hidle]
      omega
    · intro v hv
      cases hv
  | done hstored hname hfilter htarget hchanges hidle hcount hcall howned hv =>
    have hone : ∀ p : Call → Bool, ∀ call : Call, [call].countP p ≤ 1 := fun _ _ =>
      List.countP_le_length
    refine ⟨?_, ?_, ?_, ?_⟩
    · rw [List.countP_append]
      have hlast := hone Call.isInsert ‹Call›
      omega
    · rw [List.countP_append, countP_idle hidle, Nat.zero_add]
      exact hone _ _
    · intro v h
      obtain rfl := Except.ok.inj h
      exact ⟨_, _, _, _, _, _, _, _, _, ⟨_, hstored, rfl⟩, hname, hfilter, hchanges,
        htarget, rfl, hidle, hcall, howned, hv⟩
    · intro e h
      cases h

/-- What holds of every value that a run may end with holds of the one it does end with. -/
theorem exists_of_toBool {result : Except Failure Value} {P : Value → Prop}
    (h : ∀ v, result = .ok v → P v) (hok : result.toBool = true) : ∃ v, result = .ok v ∧ P v := by
  cases result with
  | error e => cases hok
  | ok v => exact ⟨v, rfl, h v rfl⟩

/-- An update of a document to which a rival writes between its read and its insert: the first
    insert comes too late, and the second overlays what the rival has left. -/
theorem update_overlays_current_after_conflict :
    ∃ result c, (standard.update (.text "user")
        (.list [.object [("field", .text "id"), ("value", .text "u1")]])
        (.object [("n", .int 2)])).run (Contested.backend (Rivals.once 5 (.insert (.text "app_auth")
          [("_id", .text "u1"), ("_rev", .text "1-00000000000000000000000000000001"),
            ("doc_type", .text "user"), ("n", .int 1), ("touched", .bool true)])))
        ⟨Memory.start ((Request.insert (.text "app_auth")
          [("_id", .text "u1"), ("doc_type", .text "user"), ("n", .int 1)]).serve
          (.empty none .null)), []⟩ = (result, c) ∧
      c.calls.countP Call.isInsert = 2 ∧ c.calls.countP Call.isAccepted ≤ 1 ∧
      ∃ v calls call name id changes old new, result = .ok v ∧ c.calls = calls ++ [call] ∧
        call.Overlays name id changes old new := by
  refine ⟨_, _, Prod.mk.eta.symm, by decide +kernel, ?_⟩
  obtain ⟨-, haccepted, hok, -⟩ := update_overlays_current
    (show standard.schema.isTyped = true from rfl) (Rivals.once 5 (.insert (.text "app_auth")
      [("_id", .text "u1"), ("_rev", .text "1-00000000000000000000000000000001"),
        ("doc_type", .text "user"), ("n", .int 1), ("touched", .bool true)]))
    (show (Memory.start _).server.Reached from .serve (.insert (.text "app_auth")
      [("_id", .text "u1"), ("doc_type", .text "user"), ("n", .int 1)]) (.empty none .null)) "user"
    (.list [.object [("field", .text "id"), ("value", .text "u1")]]) (.object [("n", .int 2)])
    Prod.mk.eta.symm
  refine ⟨haccepted, ?_⟩
  obtain ⟨v, hv, _, _, changes, name, id, calls, call, old, new, _, _, _, _, _, hcalls, _,
      hcall, _⟩ :=
    exists_of_toBool hok (by decide +kernel)
  exact ⟨v, calls, call, name, id, changes, old, new, hv, hcalls, hcall⟩

end Session

end DocStore
