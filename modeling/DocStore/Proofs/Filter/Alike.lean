/-
  Filters that come to the same.

  A filter is answered through its selector, and no selector is built of a filter with a faulty
  part, wherever in it the part stands.  So two filters come to the same when either neither has a
  selector, for the same reason, or both have one and the two selectors answer the same
  (`Selector.Alike`).

  Filters are rewritten part by part, so what is needed is that this is a congruence: a group whose
  members come to the same does so itself (`Filter.alike_group`).  The two sides may look at
  documents of their own.
-/
import DocStore.Proofs.Filter.Meaning

namespace DocStore

/-- What a filter answers of a document: the selector of the whole filter is built before it is
    evaluated. -/
def Filter.answer (idKey : Value) (f : Filter) (doc : Value) : Except Failure Bool := do
  Selector.test (← f.selector idKey) doc

namespace Selector

variable {doc doc' : Value}

/-- Two selectors that answer the same, the one of `doc` and the other of `doc'`; or the same
    failure to build them. -/
inductive Alike (doc doc' : Value) : Except Failure Value → Except Failure Value → Prop
  | failed (e : Failure) : Alike doc doc' (.error e) (.error e)
  | built {s s' : Value} (h : test s doc = test s' doc') : Alike doc doc' (.ok s) (.ok s')

/-- Two rows of selectors that answer the same, whether all of a row are to be met or only some. -/
inductive RowsAlike (doc doc' : Value) : Except Failure (List Value) →
    Except Failure (List Value) → Prop
  | failed (e : Failure) : RowsAlike doc doc' (.error e) (.error e)
  | built {row row' : List Value} (hall : testAll row doc = testAll row' doc')
      (hany : testAny row doc = testAny row' doc') : RowsAlike doc doc' (.ok row) (.ok row')

theorem Alike.refl (built : Except Failure Value) : Alike doc doc built built := by
  cases built with
  | error e => exact .failed e
  | ok s => exact .built rfl

theorem Alike.trans {doc'' : Value} {a b c : Except Failure Value} (h : Alike doc doc' a b)
    (h' : Alike doc' doc'' b c) : Alike doc doc'' a c := by
  cases h with
  | failed e => cases h'; exact .failed e
  | built hab =>
    cases h' with
    | built hbc => exact .built (hab.trans hbc)

/-- Filters whose selectors are alike give the same answer. -/
theorem Alike.answer_eq {idKey : Value} {f f' : Filter}
    (h : Alike doc doc' (f.selector idKey) (f'.selector idKey)) :
    f.answer idKey doc = f'.answer idKey doc' := by
  rw [Filter.answer, Filter.answer]
  generalize f.selector idKey = built, f'.selector idKey = built' at h
  cases h with
  | failed e => rfl
  | built h => exact h

end Selector

namespace Filter

open Selector

variable {doc doc' idKey : Value} {f f' : Filter} {fs fs' : List Filter}

/-- One more member on both sides. -/
theorem rowsAlike_cons (h : Alike doc doc' (f.selector idKey) (f'.selector idKey))
    (hrest : RowsAlike doc doc' (selectors idKey fs) (selectors idKey fs')) :
    RowsAlike doc doc' (selectors idKey (f :: fs)) (selectors idKey (f' :: fs')) := by
  rw [selectors, selectors]
  generalize f.selector idKey = first, f'.selector idKey = first' at h
  generalize selectors idKey fs = row, selectors idKey fs' = row' at hrest
  cases h with
  | failed e => exact .failed e
  | built hfirst =>
    cases hrest with
    | failed e => exact .failed e
    | built hall hany =>
      refine .built ?_ ?_
      · rw [testAll, testAll, hfirst, hall]
      · rw [testAny, testAny, hfirst, hany]

/-- **Groups whose members come to the same come to the same**, if they have any. -/
theorem alike_group (kind : Connector) (hempty : fs = [] ↔ fs' = [])
    (h : RowsAlike doc doc' (selectors idKey fs) (selectors idKey fs')) :
    Alike doc doc' ((group kind fs).selector idKey) ((group kind fs').selector idKey) := by
  cases fs with
  | nil =>
    obtain rfl := hempty.1 rfl
    exact .built rfl
  | cons f rest =>
    cases fs' with
    | nil => cases hempty.2 rfl
    | cons f' rest' =>
      rw [selector_group, selector_group]
      generalize selectors idKey (f :: rest) = row, selectors idKey (f' :: rest') = row' at h
      cases h with
      | failed e => exact .failed e
      | built hall hany =>
        refine .built ?_
        cases kind with
        | and => exact (test_and _ _).trans (hall.trans (test_and _ _).symm)
        | or => exact (test_or _ _).trans (hany.trans (test_or _ _).symm)

end Filter

end DocStore
