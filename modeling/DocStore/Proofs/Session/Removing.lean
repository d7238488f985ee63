/-
  A removal of all matches removes the documents that matched, as they matched.

  All matches are collected first, and then each is removed under the revision that it was found
  with.  In between other clients may change, remove and make anew whatever they like.  A revision
  stands for one document, so this does no harm: what is removed is what was found, or nothing is.

  1. **One removal** — what is answered to the removal of a document found in a snapshot is up to
     what is there now: that document, none, or another one (`removal_cases`).  Only the first is
     removed (`Tries`).

  2. **Among rivals** — one step of the sweep goes on or ends in a conflict (`run_removeAll_step`).
     By induction on what has been found, all that is left is removed (`Swept`), or the sweep ends
     where a document has changed (`Stopped`).

  3. **Alone** — then every step is a removal, and all that was found is gone
     (`run_removeAll_becomes`).

  4. **Deleting** — a session is alone until its scan has ended, if its rivals come later
     (`run_deleteMany_scanned`); the rest is the sweep.

  5. **Counting** — of what a filter selected nothing is left, so it selects nothing then
     (`run_count_gone`).
-/
import DocStore.Proofs.Session.Rewriting
import DocStore.Proofs.Session.Vanishing

namespace DocStore

open Program

/-! ## One removal -/

/-- Whether the call is a removal that has been accepted. -/
def Call.isRemoval (call : Call) : Bool :=
  match call.request with
  | .destroy .. => call.answer.toBool
  | _ => false

namespace Session

variable {s : Session} {m : Memory} {home : Home} {snapshot : Server}
  {model name id : String} {d : Stored} {filter : Value} {f : Filter}
  {found : Table Stored} {c : Contested}

/-- What a removal makes of a document: it is gone. -/
def Gone (_ : Stored) (after : Option Stored) : Prop := after = none

/-- A call that is to remove a document as it has been found.  It removes that very document and
    nothing else; or there is no document, or another one, and it leaves everything as it is. -/
structure Tries (home : Home) (id : String) (d : Stored) (call : Call) : Prop where
  request : call.request = removal home id d
  removed : call.isRemoval = true →
    home.stored? call.before id = some d ∧ home.Becomes Gone [(id, d)] call.before call.after
  kept : call.isRemoval = false →
    home.stored? call.before id ≠ some d ∧ call.before.SameDocuments call.after

/-- A removal of a stored document leaves it gone, and nothing else different. -/
theorem becomes_removal (hname : home.database = .text name) {server : Server}
    (hserver : server.IsSound) (hd : home.stored? server id = some d) :
    home.Becomes Gone [(id, d)] server ((removal home id d).serve server) := by
  obtain ⟨-, hgone, hothers⟩ := serve_removal hname hserver hd
  exact Home.becomes_of_serve hname hserver
    (.inr (.inr ⟨_, _, by rw [removal, hname]⟩)) hgone hothers

/-- What is answered to the removal of a document that has been found in a snapshot. -/
theorem removal_cases (hsnapshot : snapshot.IsSound) (hd : home.stored? snapshot id = some d)
    (hsince : snapshot.Since m.server) :
    (home.stored? m.server id = some d ∧ (Memory.answer (removal home id d) m).1 = .ok ()) ∨
      (home.stored? m.server id = none ∧
        (Memory.answer (removal home id d) m).1 = .error (Database.absent (.text id) "deleted")) ∨
      ∃ other, home.stored? m.server id = some other ∧ other ≠ d ∧
        (Memory.answer (removal home id d) m).1 = .error (Database.stale (.text id)) := by
  have hanswer : (Memory.answer (removal home id d) m).1 =
    ((m.server.database home.database).destroy (.text id) (.text d.revision.text)).1 := rfl
  cases hnow : home.stored? m.server id with
  | none =>
    exact .inr (.inl ⟨rfl, hanswer.trans (congrArg Prod.fst (Database.destroy_absent hnow _))⟩)
  | some other =>
    rw [hanswer, Database.destroy_stored hnow]
    by_cases hrev : other.revision.text = d.revision.text
    · -- A revision stands for one document, so this one has not changed.
      obtain rfl : other = d :=
        (hsince.newer home.database).eq_of_revision (hsnapshot home.database) hd hnow hrev
      exact .inl ⟨rfl, congrArg Prod.fst (if_pos rfl)⟩
    · exact .inr (.inr ⟨other, rfl, fun heq => hrev (by rw [heq]), congrArg Prod.fst (if_neg hrev)⟩)

/-- The call is one that tries to remove it. -/
theorem tries_removal (hname : home.database = .text name) (hsnapshot : snapshot.IsSound)
    (hd : home.stored? snapshot id = some d) (hsince : snapshot.Since m.server)
    (hm : m.server.IsSound) :
    Tries home id d ⟨removal home id d, (Memory.answer (removal home id d) m).1, m.server,
      (removal home id d).serve m.server⟩ := by
  have hrefused : ∀ e, (Memory.answer (removal home id d) m).1 = .error e →
      m.server.SameDocuments ((removal home id d).serve m.server) := fun e he =>
    Server.sameDocuments_setDatabase
      (congrArg Database.documents (Database.destroy_refused (Prod.ext he rfl)))
  refine ⟨rfl, fun hremoval => ?_, fun hremoval => ?_⟩
  · rcases removal_cases hsnapshot hd hsince with ⟨hnow, -⟩ | ⟨-, hanswer⟩ | ⟨-, -, -, hanswer⟩
    · exact ⟨hnow, becomes_removal hname hm hnow⟩
    · cases (congrArg Except.toBool hanswer).symm.trans hremoval
    · cases (congrArg Except.toBool hanswer).symm.trans hremoval
  · rcases removal_cases hsnapshot hd hsince with ⟨-, hanswer⟩ | ⟨hnow, hanswer⟩ |
      ⟨other, hnow, hne, hanswer⟩
    · cases (congrArg Except.toBool hanswer).symm.trans hremoval
    · exact ⟨by simp [hnow], hrefused _ hanswer⟩
    · exact ⟨by simp [hnow, hne], hrefused _ hanswer⟩

/-! ## Among rivals -/

section

variable {σ : Type} {backend : Backend σ} {draws : Nat} {st st' st'' : σ}
  (hd : d.IsSound draws id) (s : Session) (count : Nat) (rest : List Value)

include hd

/-- A removal is asked for by what the document says of itself. -/
theorem run_attempt {answer : Except Failure Unit}
    (h : (send (removal home id d)).run backend st = (answer, st')) :
    (do
      let key ← Value.entry "_id" (.object d.fields)
      send (.destroy home.database key (← revisionOf (.object d.fields)))
      return true : Program Bool).run backend st = (answer.map fun _ => true, st') := by
  obtain ⟨hid, hrev⟩ := entry_of_stored hd
  rw [run_bind_lift hid, run_bind_lift hrev]
  cases answer with
  | ok _ => exact run_bind_ok h
  | error e => exact run_bind_error h

/-- A document that is removed is counted. -/
theorem run_removeAll_removed (h : (send (removal home id d)).run backend st = (.ok (), st')) :
    (removeAll s home count (.object d.fields :: rest)).run backend st =
      (removeAll s home (count + 1) rest).run backend st' := by
  rw [removeAll, run_bind_ok (run_onRefusal_ok (run_attempt hd h) _ _)]
  rfl

/-- A document that is not there is passed over. -/
theorem run_removeAll_skipped {e : Failure} (hmissing : e.isRefusal .notFound = true)
    (h : (send (removal home id d)).run backend st = (.error e, st'))
    (hnote : (s.note .deleteMany .warning (id ++ " already gone, skipping")).run backend st' =
      (.ok (), st'')) :
    (removeAll s home count (.object d.fields :: rest)).run backend st =
      (removeAll s home count rest).run backend st'' := by
  rw [removeAll, run_bind, run_onRefusal, run_attempt hd h]
  dsimp only [Except.map]
  rw [if_pos hmissing, run_bind_lift (entry_of_stored hd).1]
  dsimp only [Value.written]
  rw [run_bind_ok hnote]
  rfl

/-- Any other refusal is the end. -/
theorem run_removeAll_stopped {e : Failure} (hother : e.isRefusal .notFound = false)
    (h : (send (removal home id d)).run backend st = (.error e, st')) :
    (removeAll s home count (.object d.fields :: rest)).run backend st = (.error e, st') := by
  rw [removeAll, run_bind, run_onRefusal, run_attempt hd h]
  dsimp only [Except.map]
  rw [if_neg (by rw [hother]; decide)]

end

/-- A row of calls has tried to remove some documents, each as it has been found, and has passed
    over only those that had vanished. -/
def Swept (home : Home) : Table Stored → List Call → Prop :=
  List.Forall₂ fun entry call => Tries home entry.1 entry.2 call ∧
    (call.isRemoval = false → home.stored? call.before entry.1 = none)

/-- A row of calls has done so for the first of some documents, and has ended at one that is another
    one now. -/
def Stopped (home : Home) (entries : Table Stored) (calls : List Call) : Prop :=
  ∃ tried id d untried first last other, entries = tried ++ (id, d) :: untried ∧
    calls = first ++ [last] ∧ Swept home tried first ∧ Tries home id d last ∧
    home.stored? last.before id = some other ∧ other ≠ d

/-- One more document in front makes no difference. -/
theorem Stopped.cons {entry : String × Stored} {entries : Table Stored} {call : Call}
    {calls : List Call} (h : Stopped home entries calls) (htries : Tries home entry.1 entry.2 call)
    (hgone : call.isRemoval = false → home.stored? call.before entry.1 = none) :
    Stopped home (entry :: entries) (call :: calls) := by
  obtain ⟨tried, id, d, untried, first, last, other, rfl, rfl, hswept, hlast⟩ := h
  exact ⟨entry :: tried, id, d, untried, call :: first, last, other, rfl, rfl,
    .cons ⟨htries, hgone⟩ hswept, hlast⟩

/-- One document of a snapshot, among rivals. -/
theorem run_removeAll_step (hname : home.database = .text name) (hsnapshot : snapshot.IsSound)
    (hd : home.stored? snapshot id = some d) (hc : c.memory.server.IsSound)
    (hsince : snapshot.Since c.memory.server) (rivals : Rivals) (s : Session) (count : Nat)
    (rest : List Value) :
    ∃ call c', c'.calls = c.calls ++ [call] ∧ c'.memory.server.IsSound ∧
      snapshot.Since c'.memory.server ∧ Tries home id d call ∧
      (((call.isRemoval = false → home.stored? call.before id = none) ∧
        (removeAll s home count (.object d.fields :: rest)).run (Contested.backend rivals) c =
          (removeAll s home (count + call.isRemoval.toNat) rest).run
            (Contested.backend rivals) c') ∨
      ∃ other e, home.stored? call.before id = some other ∧ other ≠ d ∧
        e.isRefusal .conflict = true ∧
        (removeAll s home count (.object d.fields :: rest)).run (Contested.backend rivals) c =
          (.error e, c')) := by
  have hsound : (c.found rivals).IsSound := Contested.found_isSound rivals hc
  have hfound : snapshot.Since (c.found rivals) := hsince.trans (Contested.since_found rivals hc)
  have hdoc := (hsnapshot home.database).stored id d hd
  have htries :=
    tries_removal (m := { c.memory with server := c.found rivals }) hname hsnapshot hd hfound hsound
  obtain ⟨c', hanswer⟩ : ∃ c', (Contested.backend rivals).answer (removal home id d) c =
      ((Memory.answer (removal home id d) { c.memory with server := c.found rivals }).1, c') :=
    ⟨_, rfl⟩
  obtain ⟨-, hserver, hcalls⟩ := Contested.answered hanswer
  have hsound' : c'.memory.server.IsSound := hserver ▸ Server.serve_isSound hsound _
  have hsince' : snapshot.Since c'.memory.server :=
    hserver ▸ hfound.trans (Server.since_serve hsound _)
  have hsend : (send (removal home id d)).run (Contested.backend rivals) c =
      ((Memory.answer (removal home id d) { c.memory with server := c.found rivals }).1, c') :=
    (run_send _ _ _).trans hanswer
  rcases removal_cases (m := { c.memory with server := c.found rivals }) hsnapshot hd hfound with
    ⟨-, hok⟩ | ⟨hgone, habsent⟩ | ⟨other, hother, hne, hstale⟩
  · have hremoved := congrArg Except.toBool hok
    refine ⟨_, c', hcalls, hsound', hsince', htries, .inl ⟨fun hkept => ?_, ?_⟩⟩
    · cases hremoved.symm.trans hkept
    · rw [run_removeAll_removed hdoc s count rest (hsend.trans (congrArg (·, c') hok))]
      exact congrArg (fun removed : Bool => (removeAll s home (count + removed.toNat) rest).run
        (Contested.backend rivals) c') hremoved.symm
  · obtain ⟨c'', hnote, hserver', hcalls'⟩ := run_note_contested rivals s .deleteMany .warning
      (id ++ " already gone, skipping") c'
    refine ⟨_, c'', hcalls'.trans hcalls, hserver' ▸ hsound', hserver' ▸ hsince', htries,
      .inl ⟨fun _ => hgone, ?_⟩⟩
    rw [run_removeAll_skipped hdoc s count rest rfl (hsend.trans (congrArg (·, c') habsent)) hnote]
    exact congrArg (fun removed : Bool => (removeAll s home (count + removed.toNat) rest).run
      (Contested.backend rivals) c'') (congrArg Except.toBool habsent).symm
  · exact ⟨_, c', hcalls, hsound', hsince', htries, .inr ⟨other, _, hother, hne, rfl,
      run_removeAll_stopped hdoc s count rest rfl (hsend.trans (congrArg (·, c') hstale))⟩⟩

/-- **Documents of a snapshot are removed one after the other, among rivals.** -/
theorem run_removeAll_contested (hname : home.database = .text name) (hsnapshot : snapshot.IsSound)
    (rivals : Rivals) (s : Session) {entries : Table Stored}
    (hentries : ∀ id d, (id, d) ∈ entries → home.stored? snapshot id = some d)
    (count : Nat) (c : Contested) (hc : c.memory.server.IsSound)
    (hsince : snapshot.Since c.memory.server) :
    ∃ result c' calls,
        (removeAll s home count (entries.map fun entry => .object entry.2.fields)).run
          (Contested.backend rivals) c = (result, c') ∧
      c'.calls = c.calls ++ calls ∧
      (∀ call ∈ calls, ∃ id d, (id, d) ∈ entries ∧ Tries home id d call) ∧
      ((result = .ok (count + calls.countP Call.isRemoval) ∧ Swept home entries calls) ∨
        ∃ e, result = .error e ∧ e.isRefusal .conflict = true ∧ Stopped home entries calls) := by
  induction entries generalizing count c with
  | nil =>
    exact ⟨_, c, [], rfl, (List.append_nil _).symm, fun _ hmem => absurd hmem List.not_mem_nil,
      .inl ⟨rfl, .nil⟩⟩
  | cons entry rest ih =>
    obtain ⟨id, d⟩ := entry
    obtain ⟨call, c₁, hcalls₁, hc₁, hsince₁, htries, hstep⟩ := run_removeAll_step hname hsnapshot
      (hentries id d List.mem_cons_self) hc hsince rivals s count
      (rest.map fun entry => .object entry.2.fields)
    rcases hstep with ⟨hgone, hrun₁⟩ | ⟨other, e, hother, hne, hconflict, hrun₁⟩
    · obtain ⟨result, c', calls, hrun, hcalls, htried, hend⟩ := ih
        (fun other d' hmem => hentries other d' (List.mem_cons_of_mem _ hmem))
        (count + call.isRemoval.toNat) c₁ hc₁ hsince₁
      refine ⟨result, c', call :: calls,
        hrun₁.trans hrun, by rw [hcalls, hcalls₁, List.append_assoc]; rfl,
        List.forall_mem_cons.2 ⟨⟨id, d, List.mem_cons_self, htries⟩, fun later hmem => ?_⟩, ?_⟩
      · obtain ⟨other, d', hmem', htries'⟩ := htried later hmem
        exact ⟨other, d', List.mem_cons_of_mem _ hmem', htries'⟩
      · refine hend.imp (fun ⟨hresult, hswept⟩ => ⟨?_, .cons ⟨htries, hgone⟩ hswept⟩)
          fun ⟨e, hresult, hconflict, hstopped⟩ =>
            ⟨e, hresult, hconflict, hstopped.cons htries hgone⟩
        have hcount : call.isRemoval.toNat + calls.countP Call.isRemoval =
            (call :: calls).countP Call.isRemoval := by
          rw [List.countP_cons, Nat.add_comm]
          cases call.isRemoval <;> rfl
        rw [hresult, Nat.add_assoc, hcount]
    · exact ⟨_, c₁, [call], hrun₁, hcalls₁,
        List.forall_mem_singleton.2 ⟨id, d, List.mem_cons_self, htries⟩,
        .inr ⟨e, rfl, hconflict, [], id, d, rest, [], call, other, rfl, rfl, .nil,
          htries, hother, hne⟩⟩

/-! ## Alone -/

/-- When nobody else is there, a stored document is removed under its revision. -/
theorem run_removal (hname : home.database = .text name) (hm : m.server.IsSound)
    (hd : home.stored? m.server id = some d) :
    ∃ m', (send (removal home id d)).run Memory.backend m = (.ok (), m') ∧
      home.Becomes Gone [(id, d)] m.server m'.server := by
  rcases removal_cases hm hd (.refl m.server) with ⟨-, hok⟩ | ⟨hnone, -⟩ | ⟨other, hother, hne, -⟩
  · refine ⟨_, (run_send _ _ _).trans (Prod.ext hok rfl), ?_⟩
    show home.Becomes Gone [(id, d)] m.server (Memory.answer (removal home id d) m).2.server
    rw [Memory.answer_server]
    exact becomes_removal hname hm hd
  · cases hnone.symm.trans hd
  · exact absurd (Option.some.inj (hother.symm.trans hd)) hne

/-- So are documents one after the other, and they are counted. -/
theorem run_removeAll_becomes (hname : home.database = .text name) (s : Session)
    {entries : Table Stored} (hnodup : (entries.map Prod.fst).Nodup) (count : Nat) (m : Memory)
    (hm : m.server.IsSound) (hentries : ∀ id d, (id, d) ∈ entries →
      home.stored? m.server id = some d) :
    ∃ m', (removeAll s home count (entries.map fun entry => .object entry.2.fields)).run
          Memory.backend m = (.ok (count + entries.length), m') ∧
      home.Becomes Gone entries m.server m'.server := by
  induction entries generalizing count m with
  | nil => exact ⟨m, rfl, Home.becomes_nil hm (.refl m.server)⟩
  | cons entry rest ih =>
    obtain ⟨id, d⟩ := entry
    obtain ⟨hnotMem, hrest⟩ := List.nodup_cons.1 hnodup
    have hd := hentries id d List.mem_cons_self
    obtain ⟨m₁, hsend, hfirst⟩ := run_removal hname hm hd
    obtain ⟨m₂, hrun, hothers⟩ := ih hrest (count + 1) m₁ hfirst.sound fun other d' hmem => by
      rw [Home.stored?, hfirst.untouched hnotMem hmem]
      exact hentries other d' (List.mem_cons_of_mem _ hmem)
    refine ⟨m₂, ?_, hfirst.cons hothers hnotMem⟩
    rw [List.map_cons, run_removeAll_removed ((hm home.database).stored id d hd) s count _ hsend,
      hrun, List.length_cons]
    congr 2
    omega

/-! ## Deleting -/

/-- A diagnostic entry is no call. -/
theorem callsAlone_note (s : Session) (op : Operation) (level : Level)
    (message : String) (m : Memory) :
    Contested.callsAlone (s.note op level message) m = [] := by
  rw [note, noteIf]
  split <;> rfl

section

variable (hs : s.schema.isTyped = true)
  (hhome : ∃ stored, s.schema.modelName (.text model) = .ok stored ∧ home = s.homeOf stored)
  (hfilter : s.schema.filter (.text model) filter = .ok f)
  (hbudget : (m.server.database home.database).documents.length < s.pageBudget)

include hs hhome hfilter hbudget

/-- **A session is alone until its scan has ended**, if the rivals come only later.  What then comes
    of removing what the filter selects is what comes of the whole. -/
theorem run_deleteMany_scanned (hsize : 1 ≤ s.settings.pageSize) (hm : m.server.Reached)
    (hdigits : (m.server.database home.database).documents.length < 10 ^ Text.digitLimit)
    (hfound : s.Selects home f m.server found) :
    ∃ opening : List Call, (∀ call ∈ opening, call.request.IsReading) ∧
      ∀ rivals : Rivals, (∀ number < opening.length, ∀ server, rivals number server = []) →
        ∃ c : Contested, c.calls = opening ∧ m.server.Alike c.memory.server ∧
          c.memory.server.Reached ∧
          ∀ result c₁, (removeAll s home 0 (found.map fun entry => .object entry.2.fields)).run
              (Contested.backend rivals) c = (result, c₁) →
            ∃ c' : Contested, (s.deleteMany (.text model) filter).run
                  (Contested.backend rivals) ⟨m, []⟩ = (result.map fun count => .int count, c') ∧
              c'.memory.server = c₁.memory.server ∧ c'.calls = c₁.calls := by
  obtain ⟨selector, hselector, htells, rfl⟩ := hfound
  obtain ⟨m₁, hrun₁, halike₁⟩ := run_home hs model hhome m
  obtain ⟨m₂, hnote₂, hserver₂⟩ := s.run_note_alone .deleteMany .debug
    ("model=" ++ (Value.text model).written ++ " selector=" ++ selector.shown) m₁
  obtain ⟨m₃, hcollect, halike₃⟩ :=
    run_collect_accepted (m := m₂) hsize htells hbudget hdigits (by rwa [hserver₂])
  have hm₃ : m₃.server.Reached :=
    Memory.reached_of_run (Memory.reached_of_run (Memory.reached_of_run hm hrun₁) hnote₂) hcollect
  have hscan : (s.collect home.database (.whole selector)).Within Request.IsReading fun _ => True :=
    eachPage_within (fun _ _ => within_pure trivial)
      (fun _ _ _ => (rfl : Request.IsReading (.find _ _))) _
  refine ⟨Contested.callsAlone (s.home (.text model)) m ++
    Contested.callsAlone (s.collect home.database (.whole selector)) m₂,
    fun call hmem => ?_, fun rivals hquiet => ?_⟩
  · exact (List.mem_append.1 hmem).elim
      (Contested.callsAlone_within (home_within s (.text model)) m call)
      (Contested.callsAlone_within hscan m₂ call)
  rw [List.length_append] at hquiet
  have hopening : (s.home (.text model)).run (Contested.backend rivals) ⟨m, []⟩ =
      (.ok home, ⟨m₁, Contested.callsAlone (s.home (.text model)) m⟩) := by
    rw [Contested.run_quiet fun number _ hlt => hquiet number
      (Nat.lt_of_lt_of_le (by simpa using hlt) (Nat.le_add_right _ _)), hrun₁]
    rfl
  have hnoted : (s.note .deleteMany .debug
      ("model=" ++ (Value.text model).written ++ " selector=" ++ selector.shown)).run
        (Contested.backend rivals) ⟨m₁, Contested.callsAlone (s.home (.text model)) m⟩ =
      (.ok (), ⟨m₂, Contested.callsAlone (s.home (.text model)) m⟩) := by
    rw [Contested.run_quiet
      fun number hle hlt => by rw [callsAlone_note, List.length_nil] at hlt; omega,
      callsAlone_note, List.append_nil, hnote₂]
  have hcollected : (s.collect home.database (.whole selector)).run (Contested.backend rivals)
        ⟨m₂, Contested.callsAlone (s.home (.text model)) m⟩ =
      (.ok ((home.accepted m.server selector).map fun entry => .object entry.2.fields),
        ⟨m₃, Contested.callsAlone (s.home (.text model)) m ++
          Contested.callsAlone (s.collect home.database (.whole selector)) m₂⟩) := by
    rw [Contested.run_quiet fun number _ hlt => hquiet number hlt, hcollect]
  refine ⟨⟨m₃, _⟩, rfl, halike₃, hm₃, fun result c₁ hremove => ?_⟩
  obtain ⟨c₂, hguarded, hserver₂, hcalls₂⟩ := run_guarded_contested rivals s .deleteMany
    (.text model) ((run_bind_ok hcollected).trans hremove)
  unfold deleteMany
  rw [run_bind_ok hopening, run_bind_lift hfilter, run_bind_lift hselector, run_bind_ok hnoted]
  cases result with
  | error e => exact ⟨c₂, run_bind_error hguarded, hserver₂, hcalls₂⟩
  | ok count =>
    obtain ⟨c₃, hnote₃, hserver₃, hcalls₃⟩ := run_note_contested rivals s .deleteMany .debug
      ("model=" ++ (Value.text model).written ++ " deleted=" ++ toString count) c₂
    refine ⟨c₃, (run_bind_ok hguarded).trans ((run_bind_ok hnote₃).trans rfl),
      hserver₃.trans hserver₂, hcalls₃.trans hcalls₂⟩

/-- When nobody else is there, what the filter selects is removed. -/
theorem run_deleteMany (hsize : 1 ≤ s.settings.pageSize) (hm : m.server.Reached)
    (hdigits : (m.server.database home.database).documents.length < 10 ^ Text.digitLimit)
    (hfound : s.Selects home f m.server found) :
    ∃ m', (s.deleteMany (.text model) filter).run Memory.backend m = (.ok (.int found.length), m') ∧
      home.Becomes Gone found m.server m'.server := by
  obtain ⟨-, name, -, hname⟩ := home_names hs hhome
  obtain ⟨opening, -, hscanned⟩ :=
    run_deleteMany_scanned hs hhome hfilter hbudget hsize hm hdigits hfound
  -- A session whose rivals never do anything is alone.
  have halone : ∀ {α : Type} (p : Program α) (c : Contested),
      p.run (Contested.backend fun _ _ => []) c =
      ((p.run Memory.backend c.memory).1, ⟨(p.run Memory.backend c.memory).2,
        c.calls ++ Contested.callsAlone p c.memory⟩) := fun p c =>
    Contested.run_quiet fun _ _ _ _ => rfl
  obtain ⟨c, -, halike, hreached, hend⟩ := hscanned (fun _ _ => []) fun _ _ _ => rfl
  obtain ⟨m₁, hremove, hbecomes⟩ := run_removeAll_becomes hname s
    (hfound.nodup hm.isSound) 0 c.memory hreached.isSound fun id d hmem => by
      rw [Home.stored?_of_alike halike]
      exact hfound.stored hm.isSound hmem
  obtain ⟨c', hrun, hserver, -⟩ := hend _ _ ((halone _ c).trans (by rw [hremove]))
  rw [halone] at hrun
  obtain ⟨hresult, hstate⟩ := Prod.mk.inj hrun
  refine ⟨_, Prod.ext (hresult.trans ?_) rfl, ?_⟩
  · rw [Nat.zero_add]
    rfl
  · have hmemory := congrArg (fun c : Contested => c.memory.server) hstate
    dsimp only at hmemory
    rw [hmemory, hserver]
    exact hbecomes.of_sameDocuments halike.documents

/-- Where a filter selects nothing at all, not even no documents, nothing is removed. -/
theorem run_deleteMany_fails (hnone : ∀ found, ¬s.Selects home f m.server found) :
    ∃ e m', (s.deleteMany (.text model) filter).run Memory.backend m = (.error e, m') ∧
      m.server.Alike m'.server := by
  obtain ⟨m₁, hrun₁, halike₁⟩ := run_home hs model hhome m
  unfold deleteMany
  rw [run_bind_ok hrun₁, run_bind_lift hfilter]
  cases hselector : s.selector home f with
  | error e => exact ⟨e, m₁, run_bind_lift_error rfl _ _, halike₁⟩
  | ok selector =>
    obtain ⟨m₂, hnote₂, hserver₂⟩ := s.run_note_alone .deleteMany .debug
      ("model=" ++ (Value.text model).written ++ " selector=" ++ selector.shown) m₁
    obtain ⟨e, m₃, hguarded, halike₃⟩ := run_guarded_unselected (m := m₂) hselector hnone
      (Nat.lt_of_le_of_lt (Nat.zero_le _) hbudget) (by rwa [hserver₂]) .deleteMany (.text model)
      (removeAll s home 0)
    refine ⟨e, m₃, ?_, halike₃⟩
    rw [run_bind_lift rfl, run_bind_ok hnote₂]
    exact run_bind_error hguarded

end

/-! ## Counting -/

/-- Where all that a selector accepts is gone, there is what it does not accept. -/
theorem documents_of_gone {old new : Server} {selector : Value} (hold : old.IsSound)
    (h : home.Becomes Gone (home.accepted old selector) old new) :
    (new.database home.database).documents =
        (old.database home.database).documents.filter fun entry =>
      !Selector.accepts selector (.object entry.2.fields) := by
  have hordered := (hold home.database).ordered
  refine Table.Ordered.ext (h.sound home.database).ordered
    (List.Pairwise.filter _ hordered) fun id => ?_
  rw [Table.get?_filter hordered fun d => !Selector.accepts selector (.object d.fields)]
  by_cases hmem : id ∈ (home.accepted old selector).map Prod.fst
  · obtain ⟨⟨id, d⟩, hentry, rfl⟩ := List.mem_map.1 hmem
    obtain ⟨hd, haccepts⟩ := (Home.mem_accepted hold).1 hentry
    have hgone : home.stored? new id = none := h.became id d hentry
    rw [Home.stored?] at hd hgone
    rw [hgone, hd, Option.filter_some_neg (by simp [haccepts])]
  · rw [h.others home.database id (.inr hmem)]
    cases hd : (old.database home.database).documents.get? id with
    | none => rfl
    | some d =>
      refine (Option.filter_some_pos ?_).symm
      rw [Bool.not_eq_true', ← Bool.not_eq_true]
      exact fun haccepts =>
        hmem (List.mem_map.2 ⟨(id, d), (Home.mem_accepted hold).2 ⟨hd, haccepts⟩, rfl⟩)

/-- **What is gone is not counted.** -/
theorem run_count_gone (hs : s.schema.isTyped = true) (hsize : 1 ≤ s.settings.pageSize)
    (hhome : ∃ stored, s.schema.modelName (.text model) = .ok stored ∧ home = s.homeOf stored)
    (hfilter : s.schema.filter (.text model) filter = .ok f) {old : Server} (hold : old.IsSound)
    (hfound : s.Selects home f old found) (hgone : home.Becomes Gone found old m.server)
    (hbudget : (old.database home.database).documents.length < s.pageBudget)
    (hdigits : (old.database home.database).documents.length < 10 ^ Text.digitLimit) :
    ∃ m', (s.count (.text model) filter).run Memory.backend m = (.ok (.int 0), m') ∧
      m.server.Alike m'.server := by
  obtain ⟨selector, hselector, htells, rfl⟩ := hfound
  have hdocuments := documents_of_gone hold hgone
  have hlength : (m.server.database home.database).documents.length ≤
      (old.database home.database).documents.length := by
    rw [hdocuments]
    exact List.length_filter_le _ _
  have hcontents : (m.server.database home.database).contents =
      (old.database home.database).contents.filter fun doc => !Selector.accepts selector doc := by
    rw [Database.contents, hdocuments, Database.contents, List.filter_map]
    rfl
  have htells' : home.Tells m.server selector := fun doc hdoc => by
    rw [hcontents] at hdoc
    exact htells doc (List.mem_of_mem_filter hdoc)
  have hlists := Database.lists_plain m.server.sortable htells'
  have hnone : (m.server.database home.database).contents.filter (Selector.accepts selector) =
      [] := by
    rw [hcontents, List.filter_filter]
    exact List.filter_eq_nil_iff.2 fun doc _ => by simp
  rw [hnone] at hlists
  exact run_count hs hsize hhome hfilter hselector hlists (Nat.lt_of_le_of_lt hlength hbudget)
    (Nat.lt_of_le_of_lt hlength hdigits) (.refl m.server)

/-- **A removal of all matches removes what matched, as it matched.**  Take any model, any filter
    that can be read, and anything stored.

    - A plain filter selects the model's own documents that meet it.
    - Let the session be alone until its scan has ended, which it does by reading calls (`opening`),
      and let rivals do anything before each of its later calls.  Each later call is to remove a
      document that the scan has found; and it removes that very document, as it was found, or
      nothing, because it is not there any more as it was found.  If the session ends well, it has
      tried all that was found, has passed over only those that had vanished, and answers how many
      it has removed itself.  If not, it has come to a document that is another one now, and ends in
      a conflict.
    - When nobody else is there at all, it removes exactly what the filter selects, and answers how
      many these are; then a count with the same filter is zero.
    - If a filter has no selector, or one that cannot tell a stored document, the removal fails and
      removes nothing.

    The page budget of the session only has to exceed the number of documents, and this number has
    to fit into a bookmark. -/
theorem deleteMany_removes_found (hs : s.schema.isTyped = true) (hsize : 1 ≤ s.settings.pageSize)
    (hm : m.server.Reached)
    (hhome : ∃ stored, s.schema.modelName (.text model) = .ok stored ∧ home = s.homeOf stored)
    (htag : ∀ field, home.tagField = some field →
      '.' ∉ field.toList ∧ Selector.isCombinator field = false)
    (hfilter : s.schema.filter (.text model) filter = .ok f)
    (hbudget : (m.server.database home.database).documents.length < s.pageBudget)
    (hdigits : (m.server.database home.database).documents.length < 10 ^ Text.digitLimit) :
    (∀ idKey, s.idKey = .text idKey → Selector.isCombinator idKey = false → f.isPlain = true →
      s.Selects home f m.server (home.meeting m.server idKey f)) ∧
    (∀ found, s.Selects home f m.server found →
      (∃ opening : List Call, (∀ call ∈ opening, call.request.IsReading) ∧
        ∀ rivals : Rivals, (∀ number < opening.length, ∀ server, rivals number server = []) →
          ∃ result c calls, (s.deleteMany (.text model) filter).run (Contested.backend rivals)
              ⟨m, []⟩ = (result, c) ∧
            c.calls = opening ++ calls ∧
            (∀ call ∈ calls, ∃ id d, (id, d) ∈ found ∧ Tries home id d call) ∧
            ((result = .ok (.int (calls.countP Call.isRemoval)) ∧ Swept home found calls) ∨
              ∃ e, result = .error e ∧ e.isRefusal .conflict = true ∧ Stopped home found calls)) ∧
      ∃ m', (s.deleteMany (.text model) filter).run Memory.backend m =
          (.ok (.int found.length), m') ∧
        home.Becomes Gone found m.server m'.server ∧
        ∃ m'', (s.count (.text model) filter).run Memory.backend m' = (.ok (.int 0), m'')) ∧
    ((∀ found, ¬s.Selects home f m.server found) → ∃ e m',
      (s.deleteMany (.text model) filter).run Memory.backend m = (.error e, m') ∧
      m.server.Alike m'.server) := by
  obtain ⟨stored, name, hstored, hname⟩ := home_names hs hhome
  refine ⟨fun _ hkey hid hf => selects_of_isPlain ⟨stored, hstored⟩ htag hkey hid hf m.server,
    fun found hfound => ⟨?_, ?_⟩, run_deleteMany_fails hs hhome hfilter hbudget⟩
  · obtain ⟨opening, hreading, hscanned⟩ :=
      run_deleteMany_scanned hs hhome hfilter hbudget hsize hm hdigits hfound
    refine ⟨opening, hreading, fun rivals hquiet => ?_⟩
    obtain ⟨c, rfl, halike, hreached, hend⟩ := hscanned rivals hquiet
    -- What the scan has found is in the snapshot that it leaves.
    obtain ⟨result, c₁, calls, hremove, hcalls, htried, hresult⟩ :=
      run_removeAll_contested hname hreached.isSound rivals s
      (fun id d hmem => (Home.stored?_of_alike halike home id).trans
        (hfound.stored hm.isSound hmem)) 0 c
      hreached.isSound (.refl _)
    obtain ⟨c', hrun, -, hcalls'⟩ := hend result c₁ hremove
    refine ⟨_, c', calls, hrun, hcalls'.trans hcalls, htried,
      hresult.imp (fun ⟨hok, hswept⟩ => ⟨?_, hswept⟩)
      fun ⟨e, herror, hconflict, hstopped⟩ => ⟨e, by rw [herror]; rfl, hconflict, hstopped⟩⟩
    rw [hok, Nat.zero_add]
    rfl
  · obtain ⟨m', hrun, hgone⟩ := run_deleteMany hs hhome hfilter hbudget hsize hm hdigits hfound
    obtain ⟨m'', hcount, -⟩ :=
      run_count_gone (m := m') hs hsize hhome hfilter hm.isSound hfound hgone hbudget hdigits
    exact ⟨m', hrun, hgone, m'', hcount⟩

/-- Pages of one document, in a database of two models, with three users of whom two match.
    Whatever rivals do once these two have been found, only they are removed, and only as they were
    found.  Alone, the session removes both, and the third user and the group are left. -/
theorem deleteMany_removes_two_users :
    let s : Session := { standard with settings := { standard.settings with pageSize := 1 } }
    let m := Memory.start (Server.serveAll
      [.insert (.text "app_auth") [("_id", .text "u1"), ("doc_type", .text "user"), ("n", .int 0)],
        .insert (.text "app_auth") [("_id", .text "u2"), ("doc_type", .text "user"), ("n", .int 1)],
        .insert (.text "app_auth") [("_id", .text "u3"), ("doc_type", .text "user"), ("n", .int 0)],
        .insert (.text "app_auth") [("_id", .text "g1"),
          ("doc_type", .text "group"), ("n", .int 0)]]
      (.empty none .null))
    let home := s.homeOf (.text "user")
    let filter : Value := .list [.object [("field", .text "n"), ("value", .int 0)]]
    (∃ opening : List Call, ∀ rivals : Rivals,
      (∀ number < opening.length, ∀ server, rivals number server = []) →
      ∃ result c calls, (s.deleteMany (.text "user") filter).run (Contested.backend rivals)
          ⟨m, []⟩ = (result, c) ∧
        c.calls = opening ++ calls ∧ ∀ call ∈ calls, call.isRemoval = true → ∃ id ∈ ["u1", "u3"],
          home.stored? call.before id = home.stored? m.server id ∧
          home.stored? call.after id = none) ∧
    ∃ m' m'', (s.deleteMany (.text "user") filter).run Memory.backend m = (.ok (.int 2), m') ∧
      (s.count (.text "user") filter).run Memory.backend m' = (.ok (.int 0), m'') ∧
      home.stored? m'.server "u2" = home.stored? m.server "u2" ∧
      home.stored? m'.server "g1" = home.stored? m.server "g1" := by
  intro s m home filter
  have hm : m.server.Reached := .serve _ (.serve _ (.serve _ (.serve _ (.empty none .null))))
  have hhome : ∃ stored, s.schema.modelName (.text "user") = .ok stored ∧ home = s.homeOf stored :=
    ⟨.text "user", rfl, rfl⟩
  have hfilter : s.schema.filter (.text "user") filter =
    .ok (.test ⟨.text "n", .int 0, .known .eq, .and⟩) := rfl
  obtain ⟨hplain, hdelete, -⟩ := deleteMany_removes_found (s := s) rfl (by decide) hm hhome
    (by rintro _ ⟨⟩; decide) hfilter (by decide +kernel) (by decide +kernel)
  have hfound := hplain "_id" rfl (by decide) rfl
  obtain ⟨⟨opening, -, hcontested⟩, m', hrun, hgone, m'', hcount⟩ := hdelete _ hfound
  have hnames : (home.meeting m.server "_id" (.test ⟨.text "n", .int 0, .known .eq, .and⟩)).map
        Prod.fst = ["u1", "u3"] := by decide +kernel
  refine ⟨⟨opening, fun rivals hquiet => ?_⟩, m', m'', ?_, hcount,
    hgone.others home.database "u2" (.inr ?_), hgone.others home.database "g1" (.inr ?_)⟩
  · obtain ⟨result, c, calls, hrun, hcalls, htried, -⟩ := hcontested rivals hquiet
    refine ⟨result, c, calls, hrun, hcalls, fun call hcall hremoval => ?_⟩
    obtain ⟨id, d, hmem, htries⟩ := htried call hcall
    obtain ⟨hbefore, hafter⟩ := htries.removed hremoval
    exact ⟨id, hnames ▸ List.mem_map.2 ⟨(id, d), hmem, rfl⟩,
      hbefore.trans (hfound.stored hm.isSound hmem).symm, hafter.became id d List.mem_cons_self⟩
  · rw [hrun, ← List.length_map Prod.fst, hnames]
    rfl
  · rw [hnames]
    decide
  · rw [hnames]
    decide

end Session

end DocStore
