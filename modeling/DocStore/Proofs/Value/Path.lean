/-
  Dotted paths, and where they lead.

  A path is written with dots between its parts, and it is followed part by part.

  1. **Parts** — a path without dots is a single part (`pathParts_of_notMem`), and one with dots
     begins with something else than itself (`exists_pathParts_of_mem`).  Where paths are put
     together with dots, their parts stand one behind the other (`pathParts_dotted`).

  2. **Following** — one path behind another leads where the second leads from the end of the first
     (`follow_append`).  A path breaks off at the first value that is absent or no object, be it
     null, a single value or a list, and then nothing is found (`follow_broken`).
-/
import DocStore.Proofs.Text.Split
import DocStore.Value.Path

namespace DocStore

/-! ## Parts -/

/-- The path of a field without dots is the field alone. -/
theorem pathParts_of_notMem {field : String} (h : '.' ∉ field.toList) :
    pathParts field = [field] := by
  rw [pathParts, Text.splitAt_of_notMem h]
  simp

theorem pathParts_ne_nil (path : String) : pathParts path ≠ [] := by
  obtain ⟨part, more, hparts⟩ := Text.exists_splitAt '.' path.toList
  simp [pathParts, hparts]

/-- The path of a field with dots begins with something else than the field. -/
theorem exists_pathParts_of_mem {field : String} (h : '.' ∈ field.toList) :
    ∃ part rest, pathParts field = part :: rest ∧ part ≠ field := by
  -- The first part ends before the first dot, so there is none in it.
  obtain ⟨front, behind, hfield, hfront⟩ := List.eq_append_cons_of_mem h
  refine ⟨String.ofList front, (Text.splitAt '.' behind).map String.ofList, ?_, ?_⟩
  · rw [pathParts, hfield, Text.splitAt_append_cons hfront, List.map_cons]
  · intro heq
    apply hfront
    rwa [← heq, String.toList_ofList] at h

/-- Paths one behind the other, as one path. -/
def dotted (paths : List String) : String := ".".intercalate paths

/-- The parts of paths that are put together are those of the paths, one behind the other. -/
theorem pathParts_dotted {paths : List String} (hne : paths ≠ []) :
    pathParts (dotted paths) = paths.flatMap pathParts := by
  induction paths with
  | nil => exact absurd rfl hne
  | cons path rest ih =>
    cases rest with
    | nil => rw [dotted, String.intercalate_singleton, List.flatMap_singleton]
    | cons next rest =>
      have hjoined : (dotted (path :: next :: rest)).toList =
          path.toList ++ '.' :: (dotted (next :: rest)).toList := by simp [dotted]
      rw [pathParts, hjoined, Text.splitAt_append, List.map_append, List.flatMap_cons,
        ← ih (List.cons_ne_nil _ _), pathParts, pathParts]

/-- Texts without dots are parts as they stand. -/
theorem flatMap_pathParts {parts : List String} (h : ∀ part ∈ parts, '.' ∉ part.toList) :
    parts.flatMap pathParts = parts := by
  induction parts with
  | nil => rfl
  | cons part rest ih =>
    obtain ⟨hpart, hrest⟩ := List.forall_mem_cons.1 h
    rw [List.flatMap_cons, pathParts_of_notMem hpart, ih hrest, List.singleton_append]

/-! ## Following -/

namespace Value

/-- A field that is no path is looked up by its text. -/
theorem at?_object {field : String} (hdot : '.' ∉ field.toList) (document : Object) :
    (Value.object document).at? field = Object.get? document field := by
  rw [Value.at?, pathParts_of_notMem hdot, Value.follow, Value.field?]
  cases Object.get? document field <;> rfl

/-- A path goes on from where it has led. -/
theorem follow_append (v : Value) (front behind : List String) :
    v.follow (front ++ behind) = (v.follow front).bind fun w => w.follow behind := by
  induction front generalizing v with
  | nil => rfl
  | cons part front ih =>
    rw [List.cons_append, follow, follow]
    cases v.field? part with
    | none => rfl
    | some w => exact ih w

/-- **A path breaks off** where there is no object to go on in, and nothing is found then. -/
theorem follow_broken {v : Value} {front behind : List String}
    (hbroken : ∀ fields, v.follow front ≠ some (.object fields)) (hbehind : behind ≠ []) :
    v.follow (front ++ behind) = none := by
  rw [follow_append]
  cases hfront : v.follow front with
  | none => rfl
  | some w =>
    cases behind with
    | nil => exact absurd rfl hbehind
    | cons part behind =>
      cases w with
      | object fields => exact absurd hfront (hbroken fields)
      | _ => rfl

end Value

end DocStore
