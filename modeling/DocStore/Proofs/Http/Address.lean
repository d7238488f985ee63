/-
  Addresses with a scheme, taken apart and put together.

  Of a text only some characters count: not what is blank in front, and no line ends and tabulators
  (`significant`).  If a scheme and a colon come first, all else depends on what follows them
  (`split_of_scheme`, `exists_of_split`).

  Slashes at the end may be dropped: what is left has the same scheme and the same authority
  (`split_dropSlashes`).  An address with a scheme that is put together begins with it, and what
  follows has the authority that was put in, unless that is empty; then the path may take its place
  (`takeAuthority_located`).
-/
import DocStore.Proofs.Http.Cutting
import DocStore.Proofs.Text.Lowercase
import Mathlib.Data.List.DropRight

namespace DocStore.Http

variable {cs scheme rest : List Char} {text : String}

/-! ## What counts of a text -/

/-- Whether a character counts wherever it stands: it is no tabulator and no line end. -/
def counts (c : Char) : Bool := c ≠ '\t' && c ≠ '\r' && c ≠ '\n'

/-- The characters of an address that count. -/
def significant (cs : List Char) : List Char := (cs.dropWhile fun c => c.toNat ≤ 32).filter counts

theorem counts_of_mem_significant {c : Char} (h : c ∈ significant cs) : counts c = true :=
  (List.mem_filter.1 h).2

/-- Everything counts of a text that has no blank in front, and no tabulators and line ends. -/
theorem significant_eq_self (hhead : ∀ c ∈ cs.head?, 32 < c.toNat) (h : ∀ c ∈ cs, counts c = true) :
    significant cs = cs := by
  have hkept : cs.dropWhile (fun c => decide (c.toNat ≤ 32)) = cs := by
    cases cs with
    | nil => rfl
    | cons c cs => exact List.dropWhile_cons_of_neg (by simpa using hhead c rfl)
  rw [significant, hkept, List.filter_eq_self]
  exact h

/-- Slashes at the end count, whatever comes before them. -/
theorem significant_append_slashes (cs : List Char) (n : Nat) :
    significant (cs ++ List.replicate n '/') = significant cs ++ List.replicate n '/' := by
  have hslashes : (List.replicate n '/').dropWhile (fun c => decide (c.toNat ≤ 32)) =
      List.replicate n '/' := by
    cases n with
    | zero => rfl
    | succ n => rfl
  have hdrop : (cs ++ List.replicate n '/').dropWhile (fun c => decide (c.toNat ≤ 32)) =
      cs.dropWhile (fun c => decide (c.toNat ≤ 32)) ++ List.replicate n '/' := by
    rw [List.dropWhile_append]
    split
    · rename_i hnone
      rw [hslashes, List.isEmpty_iff.1 hnone, List.nil_append]
    · rfl
  have hfilter : (List.replicate n '/').filter counts = List.replicate n '/' :=
    List.filter_replicate_of_pos rfl
  rw [significant, hdrop, List.filter_append, hfilter, significant]

/-! ## Slashes at the end -/

/-- A text is what is left without the slashes at its end, and slashes. -/
theorem exists_slashes (cs : List Char) : ∃ n, cs = dropSlashes cs ++ List.replicate n '/' := by
  have hparts := List.takeWhile_append_dropWhile (p := fun c => decide (c = '/')) (l := cs.reverse)
  have hslashes : ∀ c ∈ cs.reverse.takeWhile fun c => decide (c = '/'), c = '/' := fun c hc => by
    simpa using List.mem_takeWhile_imp hc
  rw [List.eq_replicate_of_mem hslashes] at hparts
  have hends := congrArg List.reverse hparts
  rw [List.reverse_append, List.reverse_replicate, List.reverse_reverse] at hends
  exact ⟨_, hends.symm⟩

/-- There are none left to drop. -/
theorem dropSlashes_dropSlashes (cs : List Char) : dropSlashes (dropSlashes cs) = dropSlashes cs :=
  List.rdropWhile_idempotent _ cs

/-- Slashes are dropped from behind a colon, and the authority there stays as it is. -/
theorem significant_dropSlashes (h : significant cs = scheme ++ ':' :: rest) :
    ∃ rest', significant (dropSlashes cs) = scheme ++ ':' :: rest' ∧
      (takeAuthority rest').1 = (takeAuthority rest).1 := by
  obtain ⟨n, hn⟩ := exists_slashes cs
  have hboth : significant (dropSlashes cs) ++ List.replicate n '/' =
      (scheme ++ [':']) ++ rest := by
    rw [← significant_append_slashes, ← hn, h, List.append_assoc, List.singleton_append]
  obtain ⟨rest', hkept, hrest⟩ :
      ∃ rest', significant (dropSlashes cs) = (scheme ++ [':']) ++ rest' ∧
      rest = rest' ++ List.replicate n '/' := by
    rcases List.append_eq_append_iff.1 hboth with ⟨more, hfront, hslashes⟩ | ⟨rest', hkept, hrest⟩
    · -- The colon is none of the slashes.
      rcases List.eq_nil_or_concat more with rfl | ⟨init, last, rfl⟩
      · exact ⟨[], by simpa using hfront.symm, by simpa using hslashes.symm⟩
      · exfalso
        have hcolon : last = ':' := by
          have hlast := congrArg List.getLast? hfront
          simpa [← List.append_assoc] using hlast.symm
        have hslash : last ∈ List.replicate n '/' := by rw [hslashes]; simp
        exact absurd (hcolon ▸ List.eq_of_mem_replicate hslash) (by decide)
    · exact ⟨rest', hkept, hrest⟩
  refine ⟨rest', by rw [hkept, List.append_assoc, List.singleton_append], ?_⟩
  rw [hrest, takeAuthority_append_slashes]

/-! ## Schemes -/

/-- A scheme begins with a letter and has letters, digits and three marks in it. -/
theorem isScheme_iff : isScheme scheme = true ↔
    ∃ c more, scheme = c :: more ∧ c.isAlpha = true ∧
      ∀ d ∈ more, d.isAlphanum = true ∨ d = '+' ∨ d = '-' ∨ d = '.' := by
  cases scheme with
  | nil => simp [isScheme]
  | cons c more => simp [isScheme, or_assoc]

/-- What stands in a scheme. -/
theorem mem_of_isScheme (h : isScheme scheme = true) {c : Char} (hc : c ∈ scheme) :
    c.isAlphanum = true ∨ c = '+' ∨ c = '-' ∨ c = '.' := by
  obtain ⟨first, more, rfl, hfirst, hmore⟩ := isScheme_iff.1 h
  rcases List.mem_cons.1 hc with rfl | hc
  · exact .inl (by simp [Char.isAlphanum, hfirst])
  · exact hmore c hc

theorem colon_notMem_of_isScheme (h : isScheme scheme = true) : ':' ∉ scheme := fun hc => by
  have hcases := mem_of_isScheme h hc
  revert hcases
  decide

/-- A scheme is one in lower case. -/
theorem isScheme_map (h : isScheme scheme = true) : isScheme (scheme.map Char.toLower) = true := by
  obtain ⟨first, more, rfl, hfirst, hmore⟩ := isScheme_iff.1 h
  refine isScheme_iff.2 ⟨_, _, List.map_cons, by rwa [Text.isAlpha_toLower], fun d hd => ?_⟩
  obtain ⟨c, hc, rfl⟩ := List.mem_map.1 hd
  rw [Char.isAlphanum, Text.isAlpha_toLower, Text.isDigit_toLower, Text.toLower_eq_iff rfl,
    Text.toLower_eq_iff rfl, Text.toLower_eq_iff rfl]
  exact hmore c hc

/-- Everything counts in a scheme. -/
theorem counts_of_isScheme (h : isScheme scheme = true) : ∀ c ∈ scheme, counts c = true := by
  intro c hc
  have hcases := mem_of_isScheme h hc
  rw [counts, Bool.and_eq_true, Bool.and_eq_true, decide_eq_true_eq, decide_eq_true_eq,
    decide_eq_true_eq]
  refine ⟨⟨?_, ?_⟩, ?_⟩ <;> rintro rfl <;> revert hcases <;> decide

/-- No scheme begins with a blank. -/
theorem head?_of_isScheme (h : isScheme scheme = true) : ∀ c ∈ scheme.head?, 32 < c.toNat := by
  obtain ⟨first, more, rfl, hfirst, -⟩ := isScheme_iff.1 h
  intro c hc
  obtain rfl := Option.some.inj hc
  have hbounds := Text.toNat_of_isAlpha hfirst
  omega

/-! ## Taking apart -/

/-- Whether an authority is in order. -/
def isSound (authority : List Char) : Bool := bracketsInOrder authority && isUndisguised authority

/-- A text in its scheme and what follows the colon. -/
def takeScheme (cs : List Char) : List Char × List Char :=
  match cut ':' cs with
  | (before, some behind) => if isScheme before then (before.map Char.toLower, behind) else ([], cs)
  | (_, none) => ([], cs)

/-- An address is taken apart at the scheme first, and then at the authority. -/
theorem split_eq (text : String) : Address.split text =
    let (scheme, rest) := takeScheme (significant text.toList)
    let (authority, rest) := takeAuthority rest
    if isSound authority then
      let (path, query, fragment) := takePath rest
      .ok ⟨scheme, authority, path, query.getD [], fragment.getD []⟩
    else .error .badText := rfl

/-- The address of a scheme and what follows the colon. -/
def addressOf (scheme rest : List Char) : Address :=
  let (authority, rest) := takeAuthority rest
  let (path, query, fragment) := takePath rest
  ⟨scheme.map Char.toLower, authority, path, query.getD [], fragment.getD []⟩

/-- A text with a scheme is taken apart by what follows the colon. -/
theorem split_of_scheme (hscheme : isScheme scheme = true)
    (h : significant text.toList = scheme ++ ':' :: rest) :
    Address.split text =
      if isSound (takeAuthority rest).1 then .ok (addressOf scheme rest) else .error .badText := by
  have htake : takeScheme (scheme ++ ':' :: rest) = (scheme.map Char.toLower, rest) := by
    rw [takeScheme, cut_append_cons (colon_notMem_of_isScheme hscheme)]
    exact if_pos hscheme
  rw [split_eq, h, htake]
  rfl

/-- An address with a scheme is that of a text with a scheme. -/
theorem exists_of_split {a : Address} (h : Address.split text = .ok a) (hsome : a.scheme ≠ []) :
    ∃ scheme rest, isScheme scheme = true ∧ significant text.toList = scheme ++ ':' :: rest ∧
      a = addressOf scheme rest ∧ isSound (takeAuthority rest).1 = true := by
  by_cases hscheme : ∃ scheme rest, isScheme scheme = true ∧
      significant text.toList = scheme ++ ':' :: rest
  · obtain ⟨scheme, rest, hscheme, htext⟩ := hscheme
    rw [split_of_scheme hscheme htext] at h
    split at h
    · exact ⟨scheme, rest, hscheme, htext, (Except.ok.inj h).symm, ‹_›⟩
    · cases h
  · have htake : takeScheme (significant text.toList) = ([], significant text.toList) := by
      rw [takeScheme]
      rcases cut_cases ':' (significant text.toList) with ⟨-, hcut⟩ | ⟨scheme, rest, -, htext, hcut⟩
      · rw [hcut]
      · rw [hcut]
        exact if_neg fun hs => hscheme ⟨scheme, rest, hs, htext⟩
    rw [split_eq, htake] at h
    dsimp only at h
    split at h
    · rw [← Except.ok.inj h] at hsome
      exact absurd rfl hsome
    · cases h

/-- Without the slashes at its end, a text with a scheme has the same scheme and the same authority.
    It can be taken apart if that is in order. -/
theorem split_dropSlashes (hscheme : isScheme scheme = true)
    (hcs : significant cs = scheme ++ ':' :: rest) :
    (isSound (takeAuthority rest).1 = true →
      ∃ b, Address.split (String.ofList (dropSlashes cs)) = .ok b ∧
        b.scheme = scheme.map Char.toLower ∧ b.authority = (takeAuthority rest).1) ∧
    (isSound (takeAuthority rest).1 = false →
      Address.split (String.ofList (dropSlashes cs)) = .error .badText) := by
  obtain ⟨rest', hdropped, hauthority⟩ := significant_dropSlashes hcs
  rw [← hauthority, split_of_scheme hscheme (by rwa [String.toList_ofList])]
  constructor
  · intro hsound
    rw [if_pos hsound]
    exact ⟨addressOf scheme rest', rfl, rfl, rfl⟩
  · intro hsound
    rw [hsound]
    rfl

/-! ## What the parts are made of -/

section Parts

variable {P : Char → Prop}

/-- What holds of all characters of a text holds of those before a cut and behind it. -/
theorem forall_cut (sep : Char) (h : ∀ c ∈ cs, P c) :
    (∀ c ∈ (cut sep cs).1, P c) ∧ ∀ c ∈ (cut sep cs).2.getD [], P c := by
  rcases cut_cases sep cs with ⟨-, hcut⟩ | ⟨front, behind, -, rfl, hcut⟩
  · rw [hcut]
    exact ⟨h, List.forall_mem_nil _⟩
  · rw [hcut]
    rw [List.forall_mem_append, List.forall_mem_cons] at h
    exact ⟨h.1, h.2.2⟩

theorem forall_takeAuthority (h : ∀ c ∈ cs, P c) :
    (∀ c ∈ (takeAuthority cs).1, P c) ∧ ∀ c ∈ (takeAuthority cs).2, P c := by
  rcases takeAuthority_cases cs with ⟨rest, rfl, hbreak⟩ | ⟨-, hnone⟩
  · rw [List.forall_mem_cons, List.forall_mem_cons] at h
    rw [hbreak, breakAt]
    exact ⟨fun c hc => h.2.2 c (List.takeWhile_subset _ hc),
      fun c hc => h.2.2 c (List.dropWhile_subset _ hc)⟩
  · rw [hnone]
    exact ⟨List.forall_mem_nil _, h⟩

/-- What holds of all characters behind the scheme holds of all in the parts of the address. -/
theorem forall_addressOf (scheme : List Char) (h : ∀ c ∈ rest, P c) :
    (∀ c ∈ (addressOf scheme rest).authority, P c) ∧ (∀ c ∈ (addressOf scheme rest).path, P c) ∧
      (∀ c ∈ (addressOf scheme rest).query, P c) ∧ ∀ c ∈ (addressOf scheme rest).fragment, P c := by
  obtain ⟨hauthority, hrest⟩ := forall_takeAuthority h
  obtain ⟨hbefore, hfragment⟩ := forall_cut '#' hrest
  obtain ⟨hpath, hquery⟩ := forall_cut '?' hbefore
  exact ⟨hauthority, hpath, hquery, hfragment⟩

end Parts

/-! ## Putting together -/

namespace Address

/-- The path of an address, beginning with a slash if there is one. -/
def rooted (a : Address) : List Char :=
  if a.path.isEmpty || a.path.head? = some '/' then a.path else '/' :: a.path

/-- The authority of an address and its path, as they are put together. -/
def located (a : Address) : List Char :=
  if !a.authority.isEmpty ||
      (hostSchemes.contains (String.ofList a.scheme) && a.path.take 2 ≠ ['/', '/']) then
    '/' :: '/' :: (a.authority ++ a.rooted)
  else a.path

/-- The query and the fragment of an address, as they are put together. -/
def marked (a : Address) : List Char :=
  (if a.query.isEmpty then [] else '?' :: a.query) ++
    (if a.fragment.isEmpty then [] else '#' :: a.fragment)

variable {a : Address}

/-- An address with a scheme, put together. -/
theorem join_eq (h : a.scheme ≠ []) : a.join = a.scheme ++ ':' :: (a.located ++ a.marked) := by
  rw [join, if_neg (by simpa using h)]
  simp only [List.append_assoc, List.cons_append, List.nil_append, located, rooted, marked]

/-- Query and fragment do not change the authority. -/
theorem takeAuthority_append_marked (cs : List Char) :
    (takeAuthority (cs ++ a.marked)).1 = (takeAuthority cs).1 := by
  have hfragment (cs : List Char) :
      (takeAuthority (cs ++ if a.fragment.isEmpty then [] else '#' :: a.fragment)).1 =
        (takeAuthority cs).1 := by
    split
    · rw [List.append_nil]
    · exact takeAuthority_append_mark (.inr rfl) cs _
  rw [marked, ← List.append_assoc, hfragment]
  split
  · rw [List.append_nil]
  · exact takeAuthority_append_mark (.inl rfl) cs _

/-- The path behind an authority is nothing, or begins with a slash. -/
theorem endsAuthority_rooted {c : Char} (h : c ∈ a.rooted.head?) : endsAuthority c = true := by
  rw [rooted] at h
  split at h
  · rename_i hpath
    rcases Bool.or_eq_true _ _ ▸ hpath with hpath | hpath
    · rw [List.isEmpty_iff.1 hpath] at h
      cases h
    · rw [of_decide_eq_true hpath] at h
      cases h
      rfl
  · cases h
    rfl

/-- **The authority of an address put together** is the one that was put in; if that is empty, it is
    the one that the path has by itself. -/
theorem takeAuthority_located (h : ∀ c ∈ a.authority, endsAuthority c = false) :
    (takeAuthority a.located).1 =
      if a.authority = [] then (takeAuthority a.path).1 else a.authority := by
  rw [located]
  split
  · rename_i hslashes
    rw [takeAuthority_append h fun c hc => endsAuthority_rooted hc]
    split
    · rename_i hnone
      have htake : a.path.take 2 ≠ ['/', '/'] := by
        simp only [hnone, List.isEmpty_nil, Bool.not_true, Bool.false_or, Bool.and_eq_true,
          decide_eq_true_eq] at hslashes
        exact hslashes.2
      rw [takeAuthority_of_take htake, hnone]
    · rfl
  · rename_i hbare
    have hnone : a.authority = [] := by
      by_contra hsome
      simp [hsome] at hbare
    rw [if_pos hnone]

/-- What holds of all characters of the parts holds of all that stand behind the scheme. -/
theorem forall_behind {P : Char → Prop} (hmarks : ∀ c ∈ ['/', '?', '#'], P c)
    (hauthority : ∀ c ∈ a.authority, P c) (hpath : ∀ c ∈ a.path, P c) (hquery : ∀ c ∈ a.query, P c)
    (hfragment : ∀ c ∈ a.fragment, P c) : ∀ c ∈ a.located ++ a.marked, P c := by
  obtain ⟨hslash, hquestion, hsign, -⟩ : P '/' ∧ P '?' ∧ P '#' ∧ ∀ c ∈ [], P c := by
    simpa only [List.forall_mem_cons] using hmarks
  have hrooted : ∀ c ∈ a.rooted, P c := by
    rw [rooted]
    split
    · exact hpath
    · exact List.forall_mem_cons.2 ⟨hslash, hpath⟩
  rw [List.forall_mem_append, located, marked, List.forall_mem_append]
  refine ⟨?_, ?_, ?_⟩
  · split
    · exact List.forall_mem_cons.2 ⟨hslash, List.forall_mem_cons.2
        ⟨hslash, List.forall_mem_append.2 ⟨hauthority, hrooted⟩⟩⟩
    · exact hpath
  · split
    · exact List.forall_mem_nil _
    · exact List.forall_mem_cons.2 ⟨hquestion, hquery⟩
  · split
    · exact List.forall_mem_nil _
    · exact List.forall_mem_cons.2 ⟨hsign, hfragment⟩

end Address

end DocStore.Http
