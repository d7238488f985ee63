/-
  What the path of a call names.

  A document is addressed by a path of two segments, its database's and its own, both in percent
  coding.  On the way out a path loses its segments that are dots, and what is left is cut at its
  slashes and decoded at the other end.  One would want the two names to come out there whatever
  they are.

  Where the obvious statement fails: a point stands for itself in percent coding, so a name that is
  one point or two is a segment that is dropped.  A document `.` is then its database, and a
  document `..` is the root of the server:

      DELETE /app_auth/.?rev=1-a     goes to   /app_auth
      DELETE /app_auth/..?rev=1-a    goes to   /

  1. **Segments** — a path made of segments is cut into them again (`splitAt_segments`).

  2. **Names made of points** — dropping the dots of a path is settling which of its names are left
     (`normalizePath_pathTo`), and of two names both are left or one at most (`settle_pair_cases`).

  3. **What a path names** — is determined by the path (`Names.unique`), and so is the row of names
     that it was made from (`pathTo_injective`).

  4. **The client** — below a server without a path of its own, a path of names goes to where its
     names lead (`below_pathTo`).

  5. **Calls for documents** — whatever is to be done, the path is that of the document
     (`Call.For.sent_eq`), and the client sends it so (`locate_path`).

  6. **The whole** — the two names come out exactly if neither is made of points, and no other call
     goes to the same path then; otherwise the call goes to a database or to the root
     (`document_confined`).
-/
import DocStore.Http.Endpoint
import DocStore.Http.Path
import DocStore.Proofs.Http.Cutting
import DocStore.Proofs.Http.Percent
import DocStore.Proofs.Store.Query

namespace DocStore.Http

/-! ## Segments -/

/-- A path of segments is cut into them, behind what stands in front. -/
theorem splitAt_segments {front : List Char} {segments : List (List Char)} (hfront : '/' ∉ front)
    (h : ∀ s ∈ segments, '/' ∉ s) :
    Text.splitAt '/' (front ++ segments.flatMap ('/' :: ·)) = front :: segments := by
  induction segments generalizing front with
  | nil => rw [List.flatMap_nil, List.append_nil, Text.splitAt_of_notMem hfront]
  | cons s rest ih =>
    obtain ⟨hs, hrest⟩ := List.forall_mem_cons.1 h
    rw [List.flatMap_cons, List.cons_append, Text.splitAt_append_cons hfront, ih hs hrest]

/-! ## Names made of points -/

/-- The path of a row of names, each of which is a segment. -/
def pathTo (names : List String) : List Char := (names.map encodeSegment).flatMap ('/' :: ·)

theorem databasePath_eq (database : String) : databasePath database = pathTo [database] := by
  simp [databasePath, pathTo]

theorem documentPath_eq (database id : String) :
    documentPath database id = pathTo [database, id] := by
  simp [documentPath, databasePath, pathTo]

theorem splitAt_pathTo (names : List String) :
    Text.splitAt '/' (pathTo names) = [] :: names.map encodeSegment :=
  splitAt_segments List.not_mem_nil (by simpa using fun s _ => slash_notMem_encodeSegment s)

/-- Whether a name is one point or two. -/
def isDots (s : String) : Bool := s = "." || s = ".."

theorem isDots_eq_false_iff {s : String} : isDots s = false ↔ s ≠ "." ∧ s ≠ ".." := by simp [isDots]

/-- The names that are left of a row: one point is passed over, and two take the name before along.
    The names kept so far come in reverse. -/
def settle : List String → List String → List String
  | kept, [] => kept.reverse
  | kept, s :: rest =>
    if s = "." then settle kept rest
    else if s = ".." then settle kept.tail rest
    else settle (s :: kept) rest

/-- No name that is left of a row is made of points. -/
theorem isDots_of_mem_settle {kept names : List String} (hkept : ∀ s ∈ kept, isDots s = false) :
    ∀ s ∈ settle kept names, isDots s = false := by
  induction names generalizing kept with
  | nil => simpa [settle] using hkept
  | cons s rest ih =>
    rw [settle]
    split
    · exact ih hkept
    · split
      · exact ih fun t ht => hkept t (List.mem_of_mem_tail ht)
      · exact ih (List.forall_mem_cons.2 ⟨isDots_eq_false_iff.2 ⟨‹_›, ‹_›⟩, hkept⟩)

/-- A row without such names is left as it is. -/
theorem settle_of_plain {names : List String} (h : ∀ s ∈ names, isDots s = false)
    (kept : List String) :
    settle kept names = kept.reverse ++ names := by
  induction names generalizing kept with
  | nil => simp [settle]
  | cons s rest ih =>
    obtain ⟨hs, hrest⟩ := List.forall_mem_cons.1 h
    obtain ⟨hdot, hdots⟩ := isDots_eq_false_iff.1 hs
    rw [settle, if_neg hdot, if_neg hdots, ih hrest, List.reverse_cons, List.append_assoc,
      List.singleton_append]

/-- What is left of a row is left of it for good. -/
theorem settle_settle (names : List String) : settle [] (settle [] names) = settle [] names :=
  settle_of_plain (isDots_of_mem_settle (by simp)) []

/-- A segment that is one point is that of such a name. -/
theorem encodeSegment_eq_dot_iff {s : String} : encodeSegment s = ['.'] ↔ s = "." := by
  have hdot : encodeSegment "." = ['.'] := by decide +kernel
  exact ⟨fun h => encodeSegment_injective (h.trans hdot.symm), fun h => h ▸ hdot⟩

/-- A segment that is two points is that of such a name. -/
theorem encodeSegment_eq_dots_iff {s : String} : encodeSegment s = ['.', '.'] ↔ s = ".." := by
  have hdots : encodeSegment ".." = ['.', '.'] := by decide +kernel
  exact ⟨fun h => encodeSegment_injective (h.trans hdots.symm), fun h => h ▸ hdots⟩

/-- Dots are dropped from a path as points are from the names.  The first segment, the empty one
    before the first slash, is never taken along. -/
theorem dropDots_encoded (kept names : List String) :
    dropDots (kept.map encodeSegment ++ [[]]) (names.map encodeSegment) =
      [] :: (settle kept names).map encodeSegment := by
  induction names generalizing kept with
  | nil => simp [dropDots, settle]
  | cons s rest ih =>
    rw [List.map_cons, dropDots, settle]
    by_cases hdot : s = "."
    · rw [if_pos (encodeSegment_eq_dot_iff.2 hdot), if_pos hdot, ih]
    by_cases hdots : s = ".."
    · rw [if_neg (mt encodeSegment_eq_dot_iff.1 hdot), if_pos (encodeSegment_eq_dots_iff.2 hdots),
        if_neg hdot, if_pos hdots, ← ih kept.tail]
      cases kept with
      | nil => rfl
      | cons k more => rw [if_neg (by simp)]; rfl
    · rw [if_neg (mt encodeSegment_eq_dot_iff.1 hdot),
        if_neg (mt encodeSegment_eq_dots_iff.1 hdots), if_neg hdot, if_neg hdots, ← ih (s :: kept)]
      rfl

/-- **A path leads to what is left of its names.** -/
theorem normalizePath_pathTo (names : List String) :
    normalizePath (pathTo names) = pathTo (settle [] names) := by
  have hfirst : dropDots [] ([] :: names.map encodeSegment) =
      dropDots [[]] (names.map encodeSegment) := by
    rw [dropDots, if_neg (by simp), if_neg (by simp)]
  have hdrop := dropDots_encoded [] names
  rw [List.map_nil, List.nil_append] at hdrop
  rw [normalizePath, splitAt_pathTo, hfirst, hdrop, pathTo]
  -- What is put together with slashes begins with one, because the first segment is empty.
  generalize (settle [] names).map encodeSegment = segments
  induction segments with
  | nil => rfl
  | cons s rest ih =>
    cases rest with
    | nil => simp [List.intercalate]
    | cons t more => simp_all [List.intercalate]

/-- Both names of a document are left if neither is made of points, and otherwise one at most. -/
theorem settle_pair_cases (database id : String) :
    (isDots database = false ∧ isDots id = false ∧ settle [] [database, id] = [database, id]) ∨
      ((isDots database = true ∨ isDots id = true) ∧ (settle [] [database, id]).length ≤ 1) := by
  by_cases hdot : database = "." <;> by_cases hdots : database = ".." <;>
    by_cases hid : id = "." <;> by_cases hid' : id = ".." <;> simp_all [settle, isDots]

/-! ## What a path names -/

/-- A path names what its segments stand for. -/
def Names (path : List Char) (names : List String) : Prop :=
  ∃ segments, Text.splitAt '/' path = [] :: segments ∧
    segments.map percentDecode = names.map String.toList

/-- A path names one row of names at most. -/
theorem Names.unique {path : List Char} {names names' : List String} (h : Names path names)
    (h' : Names path names') : names = names' := by
  obtain ⟨segments, hcut, hnames⟩ := h
  obtain ⟨segments', hcut', hnames'⟩ := h'
  obtain rfl := (List.cons.inj (hcut.symm.trans hcut')).2
  exact List.map_injective_iff.2 (fun _ _ => String.toList_injective) (hnames.symm.trans hnames')

/-- The path of a row of names names them. -/
theorem names_pathTo (names : List String) : Names (pathTo names) names :=
  ⟨_, splitAt_pathTo names, by simp [percentDecode_encodeSegment]⟩

/-- Different rows of names have different paths. -/
theorem pathTo_injective {names names' : List String} (h : pathTo names = pathTo names') :
    names = names' :=
  (names_pathTo names).unique (h ▸ names_pathTo names')

/-! ## The client -/

/-- A path has only segments and slashes in it. -/
theorem mem_pathTo {names : List String} {c : Char} (h : c ∈ pathTo names) :
    c = '/' ∨ isSegmentChar c = true := by
  rw [pathTo, List.mem_flatMap] at h
  obtain ⟨segment, hsegment, hc⟩ := h
  obtain ⟨s, -, rfl⟩ := List.mem_map.1 hsegment
  exact (List.mem_cons.1 hc).imp_right isSegmentChar_of_mem

/-- What is in a path of names is kept as it is. -/
theorem encodePart_pathTo (names : List String) :
    encodePart isPathByte (pathTo names) = pathTo names := by
  refine encodePart_of_kept fun c hc => ?_
  have hall : ∀ n < 128, isSegmentChar (Char.ofNat n) = true →
      isPathByte (UInt8.ofNat n) = true := by
    decide +kernel
  rcases mem_pathTo hc with rfl | hchar
  · decide
  · have hascii := isSegmentChar_lt hchar
    exact ⟨hascii, hall c.toNat hascii (by rwa [Char.ofNat_toNat])⟩

/-- What is no character of segments and no slash is not in a path of names. -/
theorem notMem_pathTo {c : Char} (hslash : c ≠ '/') (h : isSegmentChar c = false)
    (names : List String) :
    c ∉ pathTo names := fun hc => by
  rcases mem_pathTo hc with hc | hc
  · exact hslash hc
  · rw [h] at hc
    cases hc

/-- An address with a scheme that is made ready keeps it, but for capitals, and its path loses the
    dots. -/
theorem ofParts_path {p : UrlParts} {u : Url} (h : Url.ofParts p = .ok u)
    (hscheme : p.scheme ≠ []) :
    u.path = encodePart isPathByte (normalizePath p.path) ∧ u.scheme ≠ [] := by
  rw [Url.ofParts] at h
  generalize p.parties = parties at h
  obtain ⟨user, hostText, portText⟩ := parties
  obtain ⟨host, -, h⟩ := exists_of_bind_ok h
  obtain ⟨port, -, h⟩ := exists_of_bind_ok h
  dsimp only at h
  split at h
  · cases h
  · simp only [List.isEmpty_eq_false_iff.2 hscheme, Bool.not_false, Bool.true_or, if_true] at h
    cases h
    exact ⟨rfl, by simpa using hscheme⟩

/-- A segment is empty only for the empty name. -/
theorem encodeSegment_eq_nil_iff {s : String} : encodeSegment s = [] ↔ s = "" :=
  ⟨fun h => encodeSegment_injective (h.trans rfl), fun h => h ▸ rfl⟩

/-- The path of a row of names begins with one slash only, unless the first name is empty. -/
theorem exists_pathTo_cons {name : String} (hname : name ≠ "") (rest : List String) :
    ∃ c more, c ≠ '/' ∧ pathTo (name :: rest) = '/' :: c :: more := by
  obtain ⟨c, more, hsegment⟩ := List.exists_cons_of_ne_nil (mt encodeSegment_eq_nil_iff.1 hname)
  have hc : c ≠ '/' := fun h =>
    slash_notMem_encodeSegment name (by rw [hsegment, h]; exact List.mem_cons_self)
  exact ⟨c, more ++ pathTo rest, hc, by simp [pathTo, hsegment]⟩

/-- The path of a row of names is read as a path and nothing else, unless the first name is empty:
    its segments would stand behind two slashes. -/
theorem ofText_pathTo {name : String} (hname : name ≠ "") (rest : List String) :
    UrlParts.ofText (pathTo (name :: rest)) = ⟨[], [], pathTo (name :: rest), none, none⟩ := by
  have hcut {c : Char} (hc : c ≠ '/' ∧ isSegmentChar c = false) :
      cut c (pathTo (name :: rest)) = (pathTo (name :: rest), none) :=
    cut_of_notMem (notMem_pathTo hc.1 hc.2 _)
  have htake : (pathTo (name :: rest)).take 2 ≠ ['/', '/'] := by
    obtain ⟨c, more, hc, hpath⟩ := exists_pathTo_cons hname rest
    simpa [hpath] using hc
  simp only [UrlParts.ofText, takePath, hcut (c := ':') (by decide +kernel),
    takeAuthority_of_take htake, hcut (c := '#') (by decide +kernel),
    hcut (c := '?') (by decide +kernel)]

/-- One slash is all that is dropped from the front of such a path. -/
theorem dropWhile_pathTo {name : String} (hname : name ≠ "") (rest : List String) :
    (pathTo (name :: rest)).dropWhile (· = '/') = (pathTo (name :: rest)).tail := by
  obtain ⟨c, more, hc, hpath⟩ := exists_pathTo_cons hname rest
  simp [hpath, hc]

/-- Read as an address of its own, the path of a row of names asks for itself. -/
theorem target_pathTo {name : String} {rest : List String} (hname : name ≠ "") {u : Url}
    (h : Url.ofText (pathTo (name :: rest)) = .ok u) : u.target = pathTo (name :: rest) := by
  rw [Url.ofText, ofText_pathTo hname] at h
  split at h
  · cases h
  · rw [Url.ofParts] at h
    change (if Url.isMisleading false false (pathTo (name :: rest)) = true then _ else _) = _ at h
    split at h
    · cases h
    · cases h
      have hsome : pathTo (name :: rest) ≠ [] := List.cons_ne_nil _ _
      simp [Url.target, encodePart_pathTo, hsome]

/-- Parts with a scheme, made ready again, have a path without dots. -/
theorem again_path {p : UrlParts} {u : Url} (h : Url.again p = .ok u) (hscheme : p.scheme ≠ []) :
    u.path = encodePart isPathByte (normalizePath p.path) ∧ u.scheme ≠ [] := by
  rw [Url.again] at h
  split at h
  · cases h
  · exact ofParts_path h hscheme

/-- Below a server with no path of its own, a row of names is where its names lead. -/
theorem below_pathTo {base u : Url} {name : String} {rest : List String} (hname : name ≠ "")
    (hscheme : base.scheme ≠ []) (hbase : base.target = ['/'])
    (h : base.below (pathTo (name :: rest)) = .ok u) :
    u.path = normalizePath (pathTo (name :: rest)) ∧ u.scheme ≠ [] := by
  obtain ⟨relative, hrelative, h⟩ := exists_of_bind_ok h
  have htarget : base.target ++ relative.target.dropWhile (· = '/') = pathTo (name :: rest) := by
    rw [hbase, target_pathTo hname hrelative, dropWhile_pathTo hname]
    rfl
  rw [htarget, Url.withTarget, cut_of_notMem (notMem_pathTo (by decide) (by decide) _)] at h
  obtain ⟨hpath, hu⟩ := again_path h hscheme
  refine ⟨hpath.trans ?_, hu⟩
  rw [normalizePath_pathTo, encodePart_pathTo]

/-! ## Calls for documents -/

/-- The path that is sent for a call. -/
def Call.sent (call : Call) : List Char := normalizePath call.path

/-- A call for a document: to get it, to store it under its identifier, or to remove it. -/
inductive Call.For (database id : String) : Call → Prop
  | get {call : Call} : Call.get (.text database) (.text id) = .ok call → Call.For database id call
  | insert {call : Call} {document : Object} : (Object.getD document "_id").truthy = true →
      (Object.getD document "_id").written = id → Call.insert (.text database) document = .ok call →
      Call.For database id call
  | destroy {call : Call} (revision : Value) :
      Call.destroy (.text database) (.text id) revision = .ok call → Call.For database id call

variable {call : Call} {database id : String}

/-- There is a call for each of the three, whatever the names are. -/
theorem Call.exists_for (database id : String) :
    (∃ call, Call.get (.text database) (.text id) = .ok call ∧ call.For database id) ∧
      (∀ revision, ∃ call, Call.destroy (.text database) (.text id) revision = .ok call ∧
        call.For database id) ∧
      ∀ document, (Object.getD document "_id").truthy = true →
        (Object.getD document "_id").written = id →
          ∃ call, Call.insert (.text database) document = .ok call ∧ call.For database id := by
  refine ⟨⟨_, rfl, .get rfl⟩, fun revision => ⟨_, rfl, .destroy revision rfl⟩,
    fun document htruthy hid => ?_⟩
  have hinsert : Call.insert (.text database) document = .ok ⟨.put,
      documentPath database (Object.getD document "_id").written, none, some (.object document)⟩ :=
    if_pos htruthy
  exact ⟨_, hinsert, .insert htruthy hid hinsert⟩

/-- Every call for a document has the path of the document. -/
theorem Call.For.path_eq (h : call.For database id) : call.path = documentPath database id := by
  cases h with
  | get h => cases h; rfl
  | insert htruthy hid h =>
    subst hid
    change (if (Object.getD _ "_id").truthy = true then _ else _) = _ at h
    rw [if_pos htruthy] at h
    cases h
    rfl
  | destroy revision h => cases h; rfl

/-- It is sent to where the two names lead. -/
theorem Call.For.sent_eq (h : call.For database id) :
    call.sent = pathTo (settle [] [database, id]) := by
  rw [Call.sent, h.path_eq, documentPath_eq, normalizePath_pathTo]

/-- **The client sends the path of a call without its dots, and nothing else.**  The server is one
    without a path of its own, and the call one for a document. -/
theorem locate_path {endpoint : Endpoint} {base url : Url} (hbase : endpoint.base = .ok base)
    (hscheme : base.scheme ≠ []) (htarget : base.target = ['/']) (h : call.For database id)
    (hdatabase : database ≠ "") (hurl : endpoint.locate call = .ok url) : url.path = call.sent := by
  obtain ⟨base', hbase', hurl⟩ := exists_of_bind_ok hurl
  obtain rfl := Except.ok.inj (hbase.symm.trans hbase')
  obtain ⟨below, hbelow, hurl⟩ := exists_of_bind_ok hurl
  rw [h.path_eq, documentPath_eq] at hbelow
  obtain ⟨hpath, hbelow⟩ := below_pathTo hdatabase hscheme htarget hbelow
  rw [normalizePath_pathTo, ← h.sent_eq] at hpath
  cases hquery : call.query with
  | none =>
    rw [hquery] at hurl
    cases hurl
    exact hpath
  | some query =>
    -- With the query in place the address is made ready once more, and no dots are left to drop.
    rw [hquery] at hurl
    refine (again_path hurl hbelow).1.trans ?_
    change encodePart isPathByte (normalizePath below.path) = call.sent
    rw [hpath, h.sent_eq, normalizePath_pathTo, settle_settle, encodePart_pathTo]

/-! ## The whole -/

/-- The paths above the documents: the root of the server and the databases, with a slash at the end
    or without. -/
def IsAbove (path : List Char) : Prop :=
  ∃ names : List String, names.length ≤ 1 ∧ (path = pathTo names ∨ path = pathTo names ++ ['/'])

/-- The path of two names, the second of which is not empty, is not above the documents. -/
theorem not_isAbove_pathTo (hid : id ≠ "") : ¬ IsAbove (pathTo [database, id]) := by
  rintro ⟨names, hlength, hpath | hpath⟩
  · rw [← pathTo_injective hpath] at hlength
    simp at hlength
  · have hslash : pathTo names ++ ['/'] = pathTo (names ++ [""]) := by
      simp [pathTo, encodeSegment_eq_nil_iff]
    have hnames := pathTo_injective (hpath.trans hslash)
    have hlast := congrArg List.getLast? hnames
    simp at hlast
    exact hid hlast

/-- **A call for a document stays with its document, unless a name is one point or two.**

    What is sent names the database and the identifier exactly if neither is made of points.  If one
    is, the call goes to a database or to the root of the server, and never otherwise.  Two calls
    are sent to one path exactly if they are for one document, provided one of them is without such
    names. -/
theorem document_confined (h : call.For database id) (hid : id ≠ "") :
    (Names call.sent [database, id] ↔ isDots database = false ∧ isDots id = false) ∧
      (IsAbove call.sent ↔ isDots database = true ∨ isDots id = true) ∧
      (isDots database = false → isDots id = false →
        ∀ {other : Call} {database' id' : String}, other.For database' id' →
          (other.sent = call.sent ↔ database' = database ∧ id' = id)) := by
  rw [h.sent_eq]
  rcases settle_pair_cases database id with ⟨hdatabase, hplain, hsettle⟩ | ⟨hdots, hlength⟩
  · rw [hsettle]
    refine ⟨iff_of_true (names_pathTo _) ⟨hdatabase, hplain⟩,
      iff_of_false (not_isAbove_pathTo hid) (by simp [hdatabase, hplain]),
      fun _ _ other database' id' h' => ?_⟩
    rw [h'.sent_eq]
    constructor
    · intro hsent
      have hnames := pathTo_injective hsent
      rcases settle_pair_cases database' id' with ⟨-, -, hsettle'⟩ | ⟨-, hlength'⟩
      · simpa [hsettle'] using hnames
      · simp [hnames] at hlength'
    · rintro ⟨rfl, rfl⟩
      rw [hsettle]
  · have hnot : ¬ (isDots database = false ∧ isDots id = false) := by
      rcases hdots with h | h <;> simp [h]
    refine ⟨iff_of_false (fun hnames => ?_) hnot, iff_of_true ⟨_, hlength, .inl rfl⟩ hdots,
      fun hdatabase hplain => absurd ⟨hdatabase, hplain⟩ hnot⟩
    rw [(names_pathTo _).unique hnames] at hlength
    simp at hlength

/-- A name may hold slashes, dots between them, percent signs, question marks and letters of several
    bytes. -/
theorem document_confined_climbing :
    ∃ call, Call.get (.text "app_auth") (.text "../%2F?é") = .ok call ∧
      Names call.sent ["app_auth", "../%2F?é"] :=
  ⟨_, rfl, (document_confined (.get rfl) (by decide)).1.2 (by decide)⟩

/-- The removal of a document `.` is sent to its database, and removes that. -/
theorem dot_removes_database :
    ∃ call, Call.destroy (.text "app_auth") (.text ".") (.text "1-a") = .ok call ∧
      call.method = .delete ∧ call.sent = databasePath "app_auth" ∧
      ¬ Names call.sent ["app_auth", "."] := by
  refine ⟨_, rfl, rfl, ?_, fun hnames => ?_⟩
  · rw [Call.For.sent_eq (.destroy _ rfl), databasePath_eq]
    rfl
  · rw [Call.For.sent_eq (.destroy _ rfl)] at hnames
    have hone : ["app_auth"] = ["app_auth", "."] := (names_pathTo ["app_auth"]).unique hnames
    simp at hone

end DocStore.Http
