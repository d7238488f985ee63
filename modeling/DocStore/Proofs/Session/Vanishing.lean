/-
  Creating a document in the place of one that vanishes.

  A document that is created under a taken identifier is refused.  Then what stands there is read
  and removed, and the document is inserted again.  In between another client may remove what stands
  there, and there are two moments for it: before the session reads it, and after that, before the
  session removes it itself.

  1. **The removal** — what the other client does to the server (`serve_removal`).

  2. **Two moments** — what is gone before it is read is not missed, and the document is inserted
     (`run_replace_before_read`).  What is gone after it has been read is missed when it is to be
     removed, and then the document is not inserted (`run_replace_after_read`).

  3. **Creating** — a session is alone until its insert is refused (`run_create_taken`), so whether
     creating ends well or fails is up to the moment alone (`create_over_vanishing`).
-/
import DocStore.Proofs.Session.Replacing

namespace DocStore

open Program

namespace Session

variable {s : Session} {m : Memory} {home : Home} {model name key : String}
  {document data renamed : Object} {d : Stored} {c : Contested}

/-! ## The removal -/

/-- The request of a client that removes a stored document. -/
def removal (home : Home) (key : String) (d : Stored) : Request :=
  .destroy home.database (.text key) (.text d.revision.text)

/-- It removes the document, and nothing else. -/
theorem serve_removal (hname : home.database = .text name) {server : Server}
    (hserver : server.IsSound) (hd : home.stored? server key = some d) :
    ((removal home key d).serve server).IsSound ∧
      home.stored? ((removal home key d).serve server) key = none ∧ ∀ other, other ≠ key →
        home.stored? ((removal home key d).serve server) other = home.stored? server other := by
  have hstored : ∀ server id,
      home.stored? server id = (server.database (.text name)).documents.get? id :=
    fun _ _ => by rw [Home.stored?, hname]
  rw [hstored] at hd
  obtain ⟨m', hrun, hsound, hgone, hothers⟩ := run_destroy (m := Memory.start server) hserver hd
  have hserve : m'.server = (removal home key d).serve server := by
    rw [run_send] at hrun
    rw [removal, hname, ← congrArg (fun ending => ending.2.server) hrun]
    exact Memory.answer_server _ _
  rw [← hserve]
  refine ⟨hsound, by rw [hstored, hgone], fun other hne => ?_⟩
  rw [hstored, hstored, hothers other hne]
  rfl

/-- What is gone cannot be removed again. -/
theorem run_destroy_gone (hgone : home.stored? m.server key = none) (revision : Value) :
    ∃ m', (send (.destroy home.database (.text key) revision)).run Memory.backend m =
        (.error (Database.absent (.text key) "deleted"), m') ∧
        m.server.SameDocuments m'.server := by
  refine ⟨{ m with server := m.server.setDatabase home.database (m.server.database home.database) },
    ?_, Server.sameDocuments_setDatabase rfl⟩
  rw [run_send]
  show ((m.server.destroy home.database (.text key) revision).1,
    ({ m with server := (m.server.destroy home.database (.text key) revision).2 } : Memory)) = _
  rw [Server.destroy, Database.destroy_absent hgone]

/-! ## Two moments -/

section

variable (hname : home.database = .text name) (hc : c.memory.server.IsSound) (hne : key ≠ "")
  (hid : Object.getD document "_id" = .text key) (hrev : Object.getD document "_rev" = .null)

include hname hc hne hid hrev

/-- A document whose place is free is inserted in two calls. -/
theorem run_insertAndRead_quiet {rivals : Rivals}
    (hquiet : ∀ number, c.calls.length ≤ number → ∀ server, rivals number server = [])
    (hfree : home.stored? c.memory.server key = none) :
    ∃ revision c', (insertAndRead home document).run (Contested.backend rivals) c =
        (.ok (.object (Database.storedAs document key revision).fields), c') ∧
      c'.calls.map Call.request = c.calls.map Call.request ++
        [.insert home.database document, .get home.database (.text key)] ∧
      Placed home document key revision c.memory.server c'.memory.server := by
  have hpresent : (Object.getD document "_id").truthy = true := by
    rw [hid]
    simpa [Value.truthy] using hne
  have hwritten : (Object.getD document "_id").written = key := by rw [hid]; rfl
  obtain ⟨revision, m', hrun, hplaced⟩ :=
    run_insertAndRead_free hname hc hpresent hwritten hrev hfree
  have hcalls : (Contested.callsAlone (insertAndRead home document) c.memory).map Call.request =
      [.insert home.database document, .get home.database (.text key)] := by
    rcases run_insert_cases name document c.memory with ⟨e, m', hinsert, -⟩ |
      ⟨revision', m', hinsert, -⟩
    · -- An insert that is refused is the end, and this one is not.
      rw [← hname] at hinsert
      have hfails : (insertAndRead home document).run Memory.backend c.memory = (.error e, m') :=
        run_bind_error hinsert
      rw [hrun] at hfails
      cases hfails
    · rw [identify_of_truthy hpresent, hwritten, ← hname] at hinsert
      unfold insertAndRead
      rw [Contested.callsAlone_bind hinsert, Contested.callsAlone_send, Contested.callsAlone_send]
      rfl
  refine ⟨revision, ⟨m', c.calls ++ Contested.callsAlone (insertAndRead home document) c.memory⟩,
    ?_, ?_, hplaced⟩
  · rw [Contested.run_quiet fun number hle _ => hquiet number hle, hrun]
  · rw [List.map_append, hcalls]

/-- A document whose place is taken is refused at its first call, if the rivals have not come
    before. -/
theorem run_insertAndRead_refused {rivals : Rivals} (hfound : c.found rivals = c.memory.server)
    (hd : home.stored? c.memory.server key = some d) :
    ∃ e c', (insertAndRead home document).run (Contested.backend rivals) c = (.error e, c') ∧
      e.isRefusal .conflict = true ∧
      c'.calls.map Call.request = c.calls.map Call.request ++ [.insert home.database document] ∧
      c'.memory.server.IsSound ∧ ∀ id, home.stored? c'.memory.server id =
        home.stored? c.memory.server id := by
  have hidentify : (Database.identify document c.memory.server.draws).1 = key := by
    rw [identify_of_truthy (by rw [hid]; simpa [Value.truthy] using hne), hid]
    rfl
  have hsound := Server.serve_isSound hc (.insert (.text name) document)
  rw [Home.stored?, hname] at hd
  rcases run_insert_cases name document c.memory with ⟨e, m', hrun, hconflict, hserve, hsame, -⟩ |
    ⟨revision, m', -, -, haccepted, -⟩
  · have hsend : (send (.insert (.text name) document)).run Memory.backend
        { c.memory with server := c.found rivals } = (.error e, m') := by
      rw [hfound]
      exact hrun
    obtain ⟨c', hcontested, rfl, hcalls⟩ := Contested.run_send_found hsend
    unfold insertAndRead
    rw [hname]
    refine ⟨e, c', run_bind_error hcontested, hconflict, hcalls, hserve ▸ hsound, fun id => ?_⟩
    rw [Home.stored?, Home.stored?, hsame]
  · -- A document without a revision is accepted only where there is none.
    rw [hidentify, hd, hrev] at haccepted
    cases haccepted

/-- **What is gone before it is read is not missed**, and the document is inserted. -/
theorem run_replace_before_read (hd : home.stored? c.memory.server key = some d) :
    ∃ revision c', (replace home document).run
        (Contested.backend (.once c.calls.length (removal home key d))) c =
        (.ok (.object (Database.storedAs document key revision).fields), c') ∧
      c'.calls.map Call.request = c.calls.map Call.request ++ [.get home.database (.text key),
        .insert home.database document, .get home.database (.text key)] ∧
      Placed home document key revision c.memory.server c'.memory.server := by
  obtain ⟨hsound, hgone, hothers⟩ := serve_removal hname hc hd
  have hfound : c.found (.once c.calls.length (removal home key d)) =
      (removal home key d).serve c.memory.server :=
    Contested.found_once_self rfl
  -- The read comes after the removal, and finds nothing.
  have hget : (send (.get home.database (.text key))).run Memory.backend
      { c.memory with server := c.found (.once c.calls.length (removal home key d)) } =
      (.error (Database.absent (.text key) "missing"),
        { c.memory with server := (removal home key d).serve c.memory.server }) := by
    rw [hfound]
    exact run_get_absent home hgone
  obtain ⟨c₁, hsend, hmemory, hcalls⟩ := Contested.run_send_found hget
  have hserver : c₁.memory.server = (removal home key d).serve c.memory.server := by rw [hmemory]
  have hlength : c₁.calls.length = c.calls.length + 1 := by simpa using congrArg List.length hcalls
  have hquiet : ∀ number, c₁.calls.length ≤ number → ∀ server,
      Rivals.once c.calls.length (removal home key d) number server = [] :=
    fun number hle _ => if_neg (by omega)
  obtain ⟨revision, c', hinsert, hcalls', hplaced⟩ := run_insertAndRead_quiet hname
    (hserver ▸ hsound) hne hid hrev hquiet (by rw [hserver]; exact hgone)
  refine ⟨revision, c', ?_, ?_,
    hplaced.of_others fun other hother => by rw [hserver]; exact hothers other hother⟩
  · rw [← hid] at hsend
    exact (run_replace_unfound hsend).trans hinsert
  · rw [hcalls', hcalls, List.append_assoc]
    rfl

end

/-- **What is gone after it has been read is missed** when it is to be removed, and the document is
    not inserted. -/
theorem run_replace_after_read (hname : home.database = .text name) (hc : c.memory.server.IsSound)
    (hid : Object.getD document "_id" = .text key)
    (hd : home.stored? c.memory.server key = some d) :
    ∃ e c', (replace home document).run
        (Contested.backend (.once (c.calls.length + 1) (removal home key d))) c = (.error e, c') ∧
      c'.calls.map Call.request = c.calls.map Call.request ++
        [.get home.database (.text key), removal home key d] ∧
      e.isRefusal .notFound = true ∧ home.stored? c'.memory.server key = none ∧
      ∀ other, other ≠ key → home.stored? c'.memory.server other =
        home.stored? c.memory.server other := by
  obtain ⟨hsound, hgone, hothers⟩ := serve_removal hname hc hd
  have hquiet : c.found (.once (c.calls.length + 1) (removal home key d)) = c.memory.server :=
    Contested.found_once_ne (by omega)
  -- The read comes before the removal, and finds what stands there.
  have hget : (send (.get home.database (.text key))).run Memory.backend
      { c.memory with server := c.found (.once (c.calls.length + 1) (removal home key d)) } =
      (.ok (.object d.fields), c.memory) := by
    rw [hquiet]
    exact run_get home (show (c.memory.server.database home.database).documents.get? key =
      some d from hd)
  obtain ⟨c₁, hsend, hmemory, hcalls⟩ := Contested.run_send_found hget
  have hserver : c₁.memory.server = c.memory.server := by rw [hmemory]
  have hlength : c₁.calls.length = c.calls.length + 1 := by simpa using congrArg List.length hcalls
  obtain ⟨c₂, hnoted, hevict⟩ := run_evict_stored
    (Contested.backend (.once (c.calls.length + 1) (removal home key d))) home
    ((hc home.database).stored key d hd) (.text key) c₁
  have hserver₂ : c₂.memory.server = c.memory.server := by
    rcases hnoted with rfl | ⟨entry, rfl⟩
    · exact hserver
    · exact hserver
  have hcalls₂ : c₂.calls = c₁.calls := by
    rcases hnoted with rfl | ⟨entry, rfl⟩
    · rfl
    · rfl
  -- The session's own removal comes second.
  have hfound : c₂.found (.once (c.calls.length + 1) (removal home key d)) =
      (removal home key d).serve c.memory.server := by
    rw [Contested.found_once_self (by rw [hcalls₂, hlength]), hserver₂]
  have hmissing : home.stored? (c₂.found (.once (c.calls.length + 1) (removal home key d))) key =
      none := by
    rw [hfound, hgone]
  obtain ⟨m', hdestroy, hsame⟩ := run_destroy_gone
    (m := { c₂.memory with server := c₂.found (.once (c.calls.length + 1) (removal home key d)) })
    hmissing (.text d.revision.text)
  obtain ⟨c', hmissed, rfl, hcalls'⟩ := Contested.run_send_found hdestroy
  rw [hfound] at hsame
  have hkept : ∀ id, home.stored? c'.memory.server id =
      home.stored? ((removal home key d).serve c.memory.server) id :=
    fun id => congrArg (Table.get? · id) (hsame home.database)
  have hothers' : ∀ other, other ≠ key →
      home.stored? c'.memory.server other = home.stored? c.memory.server other :=
    fun other hother => (hkept other).trans (hothers other hother)
  refine ⟨Database.absent (.text key) "deleted", c', ?_, ?_, rfl, (hkept key).trans hgone, hothers'⟩
  · rw [run_replace_found (by rw [hid]; exact hsend), hid]
    exact run_bind_error (hevict.trans hmissed)
  · rw [hcalls', hcalls₂, hcalls, List.append_assoc]
    rfl

/-! ## Creating -/

/-- **A session is alone until its insert is refused**, if the rivals come only later: it finds its
    home by reading calls and tries to insert the document.  What then comes of replacing what
    stands there is what comes of creating. -/
theorem run_create_taken (hs : s.schema.isTyped = true)
    (hhome : ∃ stored, s.schema.modelName (.text model) = .ok stored ∧ home = s.homeOf stored)
    (hm : m.server.Reached)
    (hrenamed : s.schema.stored (.text model) (.ofObject data) = .ok renamed)
    (hdocument : Document.encode data renamed home.tag = document) (hne : key ≠ "")
    (hid : Object.getD document "_id" = .text key) (hrev : Object.getD document "_rev" = .null)
    (hd : home.stored? m.server key = some d) (select : Value) :
    ∃ opening : List Request, (∀ request ∈ opening, request.IsReading) ∧
      ∀ rivals : Rivals, (∀ number, number ≤ opening.length → ∀ server, rivals number server = []) →
        ∃ c : Contested, c.calls.map Call.request = opening ++ [.insert home.database document] ∧
          c.memory.server.IsSound ∧
          (∀ id, home.stored? c.memory.server id = home.stored? m.server id) ∧
          ∀ result c₁, (replace home document).run (Contested.backend rivals) c = (result, c₁) →
            ∃ c' : Contested, (s.create (.text model) (.object data) select).run
                  (Contested.backend rivals) ⟨m, []⟩ =
                (result >>= s.output home (.text model) select, c') ∧
              c'.memory.server = c₁.memory.server ∧ c'.calls = c₁.calls := by
  obtain ⟨-, name, -, hname⟩ := home_names hs hhome
  obtain ⟨m₀, hrun₀, halike⟩ := run_home hs model hhome m
  refine ⟨(Contested.callsAlone (s.home (.text model)) m).map Call.request, ?_,
    fun rivals hquiet => ?_⟩
  · intro request hmem
    obtain ⟨call, hcall, rfl⟩ := List.mem_map.1 hmem
    exact Contested.callsAlone_within (home_within s (.text model)) m call hcall
  rw [List.length_map] at hquiet
  have hopening : (s.home (.text model)).run (Contested.backend rivals) ⟨m, []⟩ =
      (.ok home, ⟨m₀, Contested.callsAlone (s.home (.text model)) m⟩) := by
    rw [Contested.run_quiet fun number _ hlt => hquiet number (by simpa using Nat.le_of_lt hlt),
      hrun₀]
    rfl
  obtain ⟨c₁, hnote₁, hserver₁, hcalls₁⟩ := run_note_contested rivals s .create .debug
    ("model=" ++ (Value.text model).written ++ " db=" ++ home.database.written ++ " doc=" ++
      (Value.object document).shown) ⟨m₀, Contested.callsAlone (s.home (.text model)) m⟩
  have hsound₁ : c₁.memory.server.IsSound := by
    rw [hserver₁]
    exact (Memory.reached_of_run hm hrun₀).isSound
  have hsame₁ : ∀ id, home.stored? c₁.memory.server id = home.stored? m.server id := fun id => by
    rw [hserver₁, Home.stored?_of_alike halike]
  have hfound : c₁.found rivals = c₁.memory.server := by
    rw [Contested.found, hquiet c₁.calls.length (by rw [hcalls₁])]
    rfl
  obtain ⟨e, c₂, hinsert, hconflict, hcalls₂, hsound₂, hsame₂⟩ :=
    run_insertAndRead_refused hname hsound₁ hne hid hrev hfound (by rw [hsame₁, hd])
  obtain ⟨c₃, hnote₃, hserver₃, hcalls₃⟩ := run_note_contested rivals s .create .warning
    ("id " ++ (Object.getD document "_id").written ++ " already exists, replacing it") c₂
  have hpresent : (Object.getD document "_id").truthy = true := by
    rw [hid]
    simpa [Value.truthy] using hne
  refine ⟨c₃, by rw [hcalls₃, hcalls₂, hcalls₁], hserver₃ ▸ hsound₂,
    fun id => by rw [hserver₃, hsame₂, hsame₁], ?_⟩
  intro result c hreplace
  have hinserted : (s.insertOrReplace home document).run (Contested.backend rivals) c₁ =
      (result, c) := by
    unfold insertOrReplace
    dsimp only
    rw [run_handle, hinsert]
    dsimp only
    rw [hconflict, hpresent]
    exact (run_bind_ok hnote₃).trans hreplace
  obtain ⟨c', hguarded, hserver', hcalls'⟩ :=
    run_guarded_contested rivals s .create (.text model) hinserted
  refine ⟨c', ?_, hserver', hcalls'⟩
  unfold create
  rw [run_bind_ok hopening, run_bind_lift (show newFields (.object data) = .ok data from rfl),
    run_bind_lift hrenamed]
  dsimp only
  rw [hdocument, run_bind_ok hnote₁]
  cases result with
  | error e => exact run_bind_error hguarded
  | ok doc => exact (run_bind_ok hguarded).trans (run_liftM _ _ _)

/-- **A document that vanishes is not missed before it is read, and missed after that.**  Take any
    data without a key twice that names a text under which a document is stored, any model, and
    anything else stored.  When nobody else is there, a session that creates the document finds its
    home by reading calls (`opening`), and its next call is the insert that is refused.

    Let another client remove what stands there, once.  If that is right after the insert was
    refused, creating ends well, and the new document is stored in its first generation.  If it is
    after the session has read what stands there, and before it removes that itself, creating fails
    because there is nothing to remove, and afterwards there is no document.  In both cases all
    others stay as they are. -/
theorem create_over_vanishing (hs : s.schema.isTyped = true)
    (hhome : ∃ stored, s.schema.modelName (.text model) = .ok stored ∧ home = s.homeOf stored)
    (hkeeps : KeepsTag home) (hm : m.server.Reached) (hnodup : data.keys.Nodup)
    (hrenamed : s.schema.stored (.text model) (.ofObject data) = .ok renamed)
    (hnamed : Document.named? (data.merge renamed) = some (.text key))
    (htaken : home.stored? m.server key = some d) :
    ∃ opening : List Request, (∀ request ∈ opening, request.IsReading) ∧
      (∃ v c revision, (s.create (.text model) (.object data) .null).run
          (Contested.backend (.once (opening.length + 1) (removal home key d))) ⟨m, []⟩ =
            (.ok v, c) ∧
        c.calls.map Call.request = opening ++
          [.insert home.database (Document.encode data renamed home.tag),
            .get home.database (.text key),
            .insert home.database (Document.encode data renamed home.tag),
            .get home.database (.text key)] ∧
        Placed home (Document.encode data renamed home.tag) key revision m.server c.memory.server) ∧
      ∃ e c, (s.create (.text model) (.object data) .null).run
          (Contested.backend (.once (opening.length + 2) (removal home key d))) ⟨m, []⟩ =
            (.error e, c) ∧
        c.calls.map Call.request = opening ++
          [.insert home.database (Document.encode data renamed home.tag),
            .get home.database (.text key), removal home key d] ∧
        e.isRefusal .notFound = true ∧ home.stored? c.memory.server key = none ∧
        ∀ other, other ≠ key → home.stored? c.memory.server other =
          home.stored? m.server other := by
  obtain ⟨-, name, -, hname⟩ := home_names hs hhome
  have hid : Object.getD (Document.encode data renamed home.tag) "_id" = .text key :=
    Document.getD_id_encode hnamed fun t ht => (hkeeps.tag t ht).2.1
  have hrev := getD_rev_encode hkeeps hnodup renamed
  have hne : key ≠ "" := by
    intro hempty
    have htruthy := Document.truthy_of_named hnamed
    rw [hempty] at htruthy
    cases htruthy
  obtain ⟨opening, hreading, hcreate⟩ :=
    run_create_taken hs hhome hm hrenamed rfl hne hid hrev htaken .null
  refine ⟨opening, hreading, ?_, ?_⟩
  -- In both cases the other client comes after the first insert, which has been refused by then.
  · obtain ⟨c, hcalls, hsound, hsame, hend⟩ := hcreate
      (.once (opening.length + 1) (removal home key d)) fun number hle server => if_neg (by omega)
    have hlength : c.calls.length = opening.length + 1 := by simpa using congrArg List.length hcalls
    obtain ⟨revision, c₁, hreplace, hcalls₁, hplaced⟩ :=
      run_replace_before_read hname hsound hne hid hrev (by rw [hsame, htaken])
    rw [hlength] at hreplace
    obtain ⟨c', hfinal, hserver, hcalls'⟩ := hend _ c₁ hreplace
    obtain ⟨v, hv⟩ := output_ok hs home (.text model)
      (Database.storedAs (Document.encode data renamed home.tag) key revision).fields
    refine ⟨v, c', revision, hfinal.trans (Prod.ext hv rfl), ?_, ?_⟩
    · rw [hcalls', hcalls₁, hcalls, List.append_assoc]
      rfl
    · rw [hserver]
      exact hplaced.of_others fun other _ => hsame other
  · obtain ⟨c, hcalls, hsound, hsame, hend⟩ := hcreate
      (.once (opening.length + 2) (removal home key d)) fun number hle server => if_neg (by omega)
    have hlength : c.calls.length = opening.length + 1 := by simpa using congrArg List.length hcalls
    obtain ⟨e, c₁, hreplace, hcalls₁, hmissing, hgone, hothers⟩ :=
      run_replace_after_read hname hsound hid (by rw [hsame, htaken])
    rw [hlength] at hreplace
    obtain ⟨c', hfinal, hserver, hcalls'⟩ := hend _ c₁ hreplace
    refine ⟨e, c', hfinal, ?_, hmissing, by rw [hserver, hgone], fun other hother => ?_⟩
    · rw [hcalls', hcalls₁, hcalls, List.append_assoc]
      rfl
    · rw [hserver, hothers other hother, hsame]

/-- A user is created once more, and vanishes.  Right after the insert has been refused this does no
    harm; after the read it makes creating fail. -/
theorem create_over_vanishing_user :
    let create (data : Object) := standard.create (.text "user") (.object data) .null
    let m := ((create [("id", .text "u1")]).run Memory.backend (Memory.start (.empty none .null))).2
    let home := standard.homeOf (.text "user")
    ∃ d, home.stored? m.server "u1" = some d ∧ ∃ opening : List Request,
      (∃ v c, (create [("id", .text "u1"), ("n", .int 1)]).run
          (Contested.backend (.once (opening.length + 1) (removal home "u1" d))) ⟨m, []⟩ =
            (.ok v, c) ∧
        (home.stored? c.memory.server "u1").isSome = true) ∧
      ∃ e c, (create [("id", .text "u1"), ("n", .int 1)]).run
          (Contested.backend (.once (opening.length + 2) (removal home "u1" d))) ⟨m, []⟩ =
            (.error e, c) ∧
        e.isRefusal .notFound = true ∧ home.stored? c.memory.server "u1" = none := by
  intro create m home
  have hkeeps := keepsTag_standard (s := standard) rfl (.text "user")
  have hm : m.server.Reached := Memory.reached_of_run (.empty none .null) rfl
  have hhome := home_standard "user"
  have hrenamed : standard.schema.stored (.text "user")
        (.ofObject [("id", .text "u1"), ("n", .int 1)]) =
      .ok [("id", .text "u1"), ("n", .int 1)] := rfl
  have hnamed : Document.named? (Object.merge [("id", .text "u1"), ("n", .int 1)]
      [("id", .text "u1"), ("n", .int 1)]) = some (.text "u1") := rfl
  have htaken : (home.stored? m.server "u1").isSome = true := by decide +kernel
  obtain ⟨d, hd⟩ := Option.isSome_iff_exists.1 htaken
  obtain ⟨opening, -, ⟨v, c, revision, hends, -, hplaced⟩, e, c', hfails, -, hmissing, hgone, -⟩ :=
    create_over_vanishing (s := standard) rfl hhome hkeeps hm (by decide) hrenamed hnamed hd
  exact ⟨d, hd, opening, ⟨v, c, hends, by rw [hplaced.stored]; rfl⟩, e, c', hfails, hmissing, hgone⟩

/-- A user is created once more and vanishes before the fourth call, with which the session would
    remove him; his insert has been the second, and was refused.  Creating fails, and afterwards
    there is no user. -/
theorem vanished_not_replaced :
    let create (data : Object) := standard.create (.text "user") (.object data) .null
    let m := ((create [("id", .text "u1")]).run Memory.backend (Memory.start (.empty none .null))).2
    let home := standard.homeOf (.text "user")
    ∃ d, home.stored? m.server "u1" = some d ∧ ∃ e c,
      (create [("id", .text "u1"), ("n", .int 1)]).run
          (Contested.backend (.once 3 (removal home "u1" d))) ⟨m, []⟩ = (.error e, c) ∧
      c.calls.map (fun call => (call.isInsert, call.answer.toBool)) =
        [(false, true), (true, false), (false, true), (false, false)] ∧
      home.stored? c.memory.server "u1" = none := by
  intro create m home
  have hfails : ∃ d, home.stored? m.server "u1" = some d ∧
      let run := (create [("id", .text "u1"), ("n", .int 1)]).run
        (Contested.backend (.once 3 (removal home "u1" d))) ⟨m, []⟩
      run.1.toBool = false ∧
        run.2.calls.map (fun call => (call.isInsert, call.answer.toBool)) =
          [(false, true), (true, false), (false, true), (false, false)] ∧
        (home.stored? run.2.memory.server "u1").isNone = true := by
    refine ⟨(home.stored? m.server "u1").get (by decide +kernel), (Option.some_get _).symm, ?_⟩
    decide +kernel
  obtain ⟨d, hd, hfailed, hcalls, hgone⟩ := hfails
  refine ⟨d, hd, ?_⟩
  generalize (create [("id", .text "u1"), ("n", .int 1)]).run
    (Contested.backend (.once 3 (removal home "u1" d))) ⟨m, []⟩ = run at hfailed hcalls hgone ⊢
  obtain ⟨result, c⟩ := run
  cases result with
  | ok v => cases hfailed
  | error e => exact ⟨e, c, rfl, hcalls, Option.isNone_iff_eq_none.1 hgone⟩

end Session

end DocStore
