/-
  Hosts in lower case.

  What stands in square brackets is an address of the sixth version, which is written in hexadecimal
  digits, colons and points, or one of a later version.  Either may be written in capitals, and both
  are the same kind of address in lower case (`isBracketable_lowerHost`), although a letter outside
  ASCII, as a later version may have, can become two.
-/
import DocStore.Proofs.Http.Cutting
import DocStore.Proofs.Text.Lowercase

namespace DocStore.Http

open Text (forall_toLower toLower_eq_iff isDigit_toLower)

variable {c sep : Char} {cs : List Char}

/-! ## Parts of a host -/

theorem isHex_toLower (c : Char) : (Json.hexValue? c.toLower).isSome = (Json.hexValue? c).isSome :=
  forall_toLower (P := fun c d => (Json.hexValue? d).isSome = (Json.hexValue? c).isSome)
    (fun _ => rfl) (by decide +kernel) c

theorem isHexGroup_map (cs : List Char) : isHexGroup (cs.map Char.toLower) = isHexGroup cs := by
  simp [isHexGroup, List.all_map, Function.comp_def, isHex_toLower]

theorem isByteNumber_map (cs : List Char) :
    isByteNumber (cs.map Char.toLower) = isByteNumber cs := by
  by_cases h : ∀ c ∈ cs, c.isDigit = true
  · have hdigit (c : Char) : c.isDigit = true → c.toLower = c :=
      forall_toLower (P := fun c d => c.isDigit = true → d = c) (fun _ _ => rfl)
        (by decide +kernel) c
    have hkept : cs.map Char.toLower = cs.map id :=
      List.map_congr_left fun c hc => hdigit c (h c hc)
    rw [hkept, List.map_id]
  · have hall : cs.all Char.isDigit = false := by simpa using h
    have hall' : (cs.map Char.toLower).all Char.isDigit = false := by
      simpa [List.all_map, Function.comp_def, isDigit_toLower] using h
    simp only [isByteNumber, hall, hall', Bool.and_false, Bool.false_and]

theorem groupCount?_cons {rest : List (List Char)} (h : rest ≠ []) (group : List Char) :
    groupCount? (group :: rest) =
      if isHexGroup group then (groupCount? rest).map (· + 1) else none := by
  rw [groupCount?]
  exact h

/-- Parts make as many groups in lower case. -/
theorem groupCount?_map (parts : List (List Char)) :
    groupCount? (parts.map (List.map Char.toLower)) = groupCount? parts := by
  induction parts with
  | nil => rfl
  | cons group rest ih =>
    cases rest with
    | nil =>
      have hpoint (c : Char) : c.toLower = '.' ↔ c = '.' := toLower_eq_iff rfl
      have hbytes := Text.splitAt_map hpoint group
      simp [groupCount?, isHexGroup_map, isByteNumber_map, hbytes, List.all_map, Function.comp_def]
    | cons next rest =>
      rw [List.map_cons, groupCount?_cons (by simp), groupCount?_cons (by simp), ih, isHexGroup_map]

theorem splitGap_cons {rest : List Char} (h : (c :: rest).take 2 ≠ [':', ':']) :
    splitGap (c :: rest) = (splitGap rest).map fun (before, behind) => (c :: before, behind) := by
  rw [splitGap]
  rintro more rfl rfl
  exact h rfl

/-- A double colon stands where it is in lower case. -/
theorem splitGap_map (cs : List Char) : splitGap (cs.map Char.toLower) =
    (splitGap cs).map fun (before, behind) =>
      (before.map Char.toLower, behind.map Char.toLower) := by
  have hcolon (c : Char) : c.toLower = ':' ↔ c = ':' := toLower_eq_iff rfl
  induction cs with
  | nil => rfl
  | cons c rest ih =>
    by_cases hgap : (c :: rest).take 2 = [':', ':']
    · obtain ⟨more, hmore⟩ : ∃ more, c :: rest = ':' :: ':' :: more :=
        ⟨(c :: rest).drop 2, by rw [← List.take_append_drop 2 (c :: rest), hgap]; rfl⟩
      rw [hmore]
      rfl
    · have hgap' : (c.toLower :: rest.map Char.toLower).take 2 ≠ [':', ':'] := by
        cases rest with
        | nil => simp
        | cons d rest => simpa [hcolon] using hgap
      rw [List.map_cons, splitGap_cons hgap', splitGap_cons hgap, ih,
        Option.map_map, Option.map_map]
      rfl

/-- **An address of the sixth version is one in lower case.** -/
theorem isSixthVersion_map (cs : List Char) :
    isSixthVersion (cs.map Char.toLower) = isSixthVersion cs := by
  have hcolon (c : Char) : c.toLower = ':' ↔ c = ':' := toLower_eq_iff rfl
  have hparts (cs : List Char) : Text.splitAt ':' (cs.map Char.toLower) =
      (Text.splitAt ':' cs).map (List.map Char.toLower) := Text.splitAt_map hcolon cs
  have hbefore (cs : List Char) : countBefore? (cs.map Char.toLower) = countBefore? cs := by
    simp [countBefore?, hparts, isHexGroup_map, List.all_map, Function.comp_def]
  have hbehind (cs : List Char) : countBehind? (cs.map Char.toLower) = countBehind? cs := by
    simp [countBehind?, hparts, groupCount?_map]
  rw [isSixthVersion, isSixthVersion, splitGap_map]
  cases splitGap cs with
  | none => simp only [Option.map_none, hparts, groupCount?_map]
  | some parts =>
    obtain ⟨before, behind⟩ := parts
    have hfirst : (behind.map Char.toLower).take 1 = [':'] ↔ behind.take 1 = [':'] := by
      cases behind <;> simp [hcolon]
    simp only [Option.map_some, hbefore, hbehind, hfirst]

/-! ## What addresses are written in -/

theorem ascii_of_isHex (h : (Json.hexValue? c).isSome = true) : c.toNat < 128 := by
  simp only [Json.hexValue?] at h
  split at h
  · omega
  · split at h
    · omega
    · split at h
      · omega
      · cases h

theorem ascii_of_isHexGroup (h : isHexGroup cs = true) : ∀ c ∈ cs, c.toNat < 128 := by
  simp only [isHexGroup, Bool.and_eq_true, List.all_eq_true] at h
  exact fun c hc => ascii_of_isHex (h.2 c hc)

theorem ascii_of_isByteNumber (h : isByteNumber cs = true) : ∀ c ∈ cs, c.toNat < 128 := by
  simp only [isByteNumber, Bool.and_eq_true, List.all_eq_true] at h
  intro c hc
  have hdigit := h.1.1.2 c hc
  simp only [Char.isDigit, Bool.and_eq_true, decide_eq_true_eq] at hdigit
  have hbound : c.toNat ≤ 57 := UInt32.le_iff_toNat_le.1 hdigit.2
  omega

/-- A text is in ASCII if the separator and the parts are. -/
theorem ascii_of_splitAt (hsep : sep.toNat < 128)
    (h : ∀ part ∈ Text.splitAt sep cs, ∀ c ∈ part, c.toNat < 128) : ∀ c ∈ cs, c.toNat < 128 := by
  intro c hc
  rcases Text.mem_splitAt sep hc with rfl | ⟨part, hpart, hc⟩
  · exact hsep
  · exact h part hpart c hc

theorem ascii_of_groupCount? {parts : List (List Char)} {n : Nat} (h : groupCount? parts = some n) :
    ∀ part ∈ parts, ∀ c ∈ part, c.toNat < 128 := by
  induction parts generalizing n with
  | nil => simp
  | cons group rest ih =>
    by_cases hrest : rest = []
    · subst hrest
      rw [groupCount?] at h
      refine List.forall_mem_singleton.2 ?_
      split at h
      · exact ascii_of_isHexGroup ‹_›
      · dsimp only at h
        split at h
        · rename_i hbytes
          have hall := List.all_eq_true.1 hbytes.2
          exact ascii_of_splitAt (show '.'.toNat < 128 by decide) fun byte hbyte =>
            ascii_of_isByteNumber (hall byte hbyte)
        · cases h
    · rw [groupCount?_cons hrest] at h
      split at h
      · obtain ⟨m, hm, -⟩ := Option.map_eq_some_iff.1 h
        exact List.forall_mem_cons.2 ⟨ascii_of_isHexGroup ‹_›, ih hm⟩
      · cases h

theorem eq_of_splitGap {before behind : List Char} (h : splitGap cs = some (before, behind)) :
    cs = before ++ ':' :: ':' :: behind := by
  induction cs generalizing before with
  | nil => cases h
  | cons c rest ih =>
    by_cases hgap : (c :: rest).take 2 = [':', ':']
    · obtain ⟨more, hmore⟩ : ∃ more, c :: rest = ':' :: ':' :: more :=
        ⟨(c :: rest).drop 2, by rw [← List.take_append_drop 2 (c :: rest), hgap]; rfl⟩
      rw [hmore] at h ⊢
      cases h
      rfl
    · rw [splitGap_cons hgap] at h
      obtain ⟨⟨front, tail⟩, hrest, heq⟩ := Option.map_eq_some_iff.1 h
      cases heq
      rw [ih hrest, List.cons_append]

theorem ascii_of_countBefore? {n : Nat} (h : countBefore? cs = some n) :
    ∀ c ∈ cs, c.toNat < 128 := by
  rw [countBefore?] at h
  split at h
  · rename_i hempty
    rw [List.isEmpty_iff.1 hempty]
    exact List.forall_mem_nil _
  · split at h
    · rename_i hgroups
      exact ascii_of_splitAt (show ':'.toNat < 128 by decide) fun part hpart =>
        ascii_of_isHexGroup (List.all_eq_true.1 hgroups part hpart)
    · cases h

theorem ascii_of_countBehind? {n : Nat} (h : countBehind? cs = some n) :
    ∀ c ∈ cs, c.toNat < 128 := by
  rw [countBehind?] at h
  split at h
  · rename_i hempty
    rw [List.isEmpty_iff.1 hempty]
    exact List.forall_mem_nil _
  · exact ascii_of_splitAt (show ':'.toNat < 128 by decide) (ascii_of_groupCount? h)

/-- An address of the sixth version is in ASCII. -/
theorem ascii_of_isSixthVersion (h : isSixthVersion cs = true) : ∀ c ∈ cs, c.toNat < 128 := by
  rw [isSixthVersion] at h
  split at h
  · exact ascii_of_splitAt (show ':'.toNat < 128 by decide)
      (ascii_of_groupCount? (of_decide_eq_true h))
  · rename_i before behind hgap
    split at h
    · rename_i hbefore hbehind
      rw [eq_of_splitGap hgap, List.forall_mem_append, List.forall_mem_cons, List.forall_mem_cons]
      exact ⟨ascii_of_countBefore? hbefore, by decide, by decide, ascii_of_countBehind? hbehind⟩
    · cases h

/-! ## Hosts -/

/-- A host in lower case, but for a zone. -/
def lowerHost (cs : List Char) : List Char :=
  match cut '%' cs with
  | (name, some zone) => Text.lower name ++ '%' :: zone
  | (name, none) => Text.lower name

theorem Address.host_eq (a : Address) : a.host = lowerHost a.hostAndPort.1 := rfl

/-- What is no small letter is in a host in lower case only if it is in the host. -/
theorem mem_of_mem_lowerHost (h : c ∈ lowerHost cs)
    (hc : Text.isSmall c.toNat = false) : c ∈ cs := by
  rw [lowerHost] at h
  rcases cut_cases '%' cs with ⟨-, hcut⟩ | ⟨name, zone, -, rfl, hcut⟩
  · rw [hcut] at h
    exact Text.mem_of_mem_lower h hc
  · rw [hcut, List.mem_append] at h
    exact List.mem_append.2 (h.imp_left fun hname => Text.mem_of_mem_lower hname hc)

/-- A sixth version stays one in lower case. -/
theorem isSixthVersion_lower (h : isSixthVersion cs = true) :
    isSixthVersion (Text.lower cs) = true := by
  rwa [Text.lower_of_ascii (ascii_of_isSixthVersion h), isSixthVersion_map]

/-- A name has no percent sign in lower case, if it has none. -/
theorem percent_notMem_lower (h : '%' ∉ cs) : '%' ∉ Text.lower cs :=
  fun hc => h (Text.mem_of_mem_lower hc (Text.isSmall_of_lt (by decide)))

theorem isScoped_lowerHost (h : isScoped cs = true) : isScoped (lowerHost cs) = true := by
  rw [isScoped] at h
  rcases cut_cases '%' cs with ⟨hpercent, hcut⟩ | ⟨name, zone, hpercent, rfl, hcut⟩
  · rw [hcut] at h
    rw [lowerHost, hcut, isScoped, cut_of_notMem (percent_notMem_lower hpercent)]
    exact isSixthVersion_lower h
  · rw [hcut] at h
    rw [lowerHost, hcut, isScoped, cut_append_cons (percent_notMem_lower hpercent)]
    simp only [Bool.and_eq_true] at h ⊢
    exact ⟨⟨isSixthVersion_lower h.1.1, h.1.2⟩, h.2⟩

/-- An address of a later version: its version is in hexadecimal digits, and something follows. -/
theorem isLaterVersion_iff : isLaterVersion cs = true ↔
    ∃ version rest, version ≠ [] ∧ (∀ c ∈ version, (Json.hexValue? c).isSome = true) ∧ rest ≠ [] ∧
      cs = 'v' :: (version ++ '.' :: rest) := by
  constructor
  · intro h
    rw [isLaterVersion.eq_def] at h
    split at h
    · rename_i inside
      rcases cut_cases '.' inside with ⟨-, hcut⟩ | ⟨version, rest, -, rfl, hcut⟩
      · rw [hcut] at h
        cases h
      · rw [hcut] at h
        cases rest with
        | nil => cases h
        | cons c rest =>
          simp only [Bool.and_eq_true, List.all_eq_true, Bool.not_eq_true',
            List.isEmpty_eq_false_iff] at h
          exact ⟨version, c :: rest, h.1, h.2, List.cons_ne_nil _ _, rfl⟩
    · cases h
  · rintro ⟨version, rest, hversion, hhex, hrest, rfl⟩
    have hpoint : '.' ∉ version := fun hc => absurd (hhex _ hc) (by decide)
    obtain ⟨c, more, rfl⟩ := List.exists_cons_of_ne_nil hrest
    rw [isLaterVersion, cut_append_cons hpoint]
    simpa [hversion] using hhex

/-- A host that begins in ASCII and without a percent sign begins with the small letters of that,
    and if something follows, something does still. -/
theorem exists_lowerHost_append {rest : List Char} (hascii : ∀ c ∈ cs, c.toNat < 128)
    (hpercent : '%' ∉ cs) (hrest : rest ≠ []) :
    ∃ tail, tail ≠ [] ∧ lowerHost (cs ++ rest) = cs.map Char.toLower ++ tail := by
  rcases cut_cases '%' rest with ⟨hnone, -⟩ | ⟨name, zone, hname, rfl, -⟩
  · refine ⟨Text.lowerBehind cs.reverse rest, Text.lowerBehind_ne_nil hrest _, ?_⟩
    rw [lowerHost, cut_of_notMem (by simp [hpercent, hnone])]
    exact Text.lower_append_of_ascii hascii rest
  · have hfront : '%' ∉ cs ++ name := by simp [hpercent, hname]
    refine ⟨Text.lowerBehind cs.reverse name ++ '%' :: zone, by simp, ?_⟩
    rw [← List.append_assoc, lowerHost, cut_append_cons hfront]
    simp only [Text.lower_append_of_ascii hascii, List.append_assoc]

theorem isLaterVersion_lowerHost (h : isLaterVersion cs = true) :
    isLaterVersion (lowerHost cs) = true := by
  obtain ⟨version, rest, hversion, hhex, hrest, rfl⟩ := isLaterVersion_iff.1 h
  have hascii : ∀ c ∈ 'v' :: (version ++ ['.']), c.toNat < 128 := by
    rw [List.forall_mem_cons, List.forall_mem_append]
    exact ⟨by decide, fun c hc => ascii_of_isHex (hhex c hc),
      List.forall_mem_singleton.2 (by decide)⟩
  have hpercent : '%' ∉ 'v' :: (version ++ ['.']) := by
    have hnot : '%' ∉ version := fun hc => absurd (hhex _ hc) (by decide)
    simpa using hnot
  obtain ⟨tail, htail, hlower⟩ := exists_lowerHost_append hascii hpercent hrest
  refine isLaterVersion_iff.2 ⟨version.map Char.toLower,
    tail, by simpa using hversion, ?_, htail, ?_⟩
  · simpa [isHex_toLower] using hhex
  · simpa using hlower

/-- **What may stand in square brackets may also in lower case.** -/
theorem isBracketable_lowerHost (h : isBracketable cs = true) :
    isBracketable (lowerHost cs) = true := by
  rw [isBracketable, Bool.or_eq_true] at h ⊢
  exact h.imp isScoped_lowerHost isLaterVersion_lowerHost

end DocStore.Http
