/-
  Orders as they are requested.

  An order goes to the store as a row of objects, each with the stored name of a field and a
  direction, and the store reads the row back into keys.  Where every field has a path for its
  stored name, nothing is lost on the way (`ofRequest_request`): the keys read back have the paths
  of the keys sent, and so they put documents in the same order (`orderDocuments_asStored`).  That
  holds for any comparison of documents, because both sides run the same sort on the same paths.
-/
import DocStore.Order.Sort

namespace DocStore

namespace SortKey

variable {name : Value → Value} {keys : List SortKey}

/-- Every field can be a key, and has a path for its stored name. -/
def HavePaths (name : Value → Value) (keys : List SortKey) : Prop :=
  ∀ key ∈ keys, key.field.isKey = true ∧ ∃ path, name key.field = .text path

/-- The keys with the stored names of their fields. -/
def asStored (name : Value → Value) (keys : List SortKey) : List SortKey :=
  keys.map fun key => ⟨name key.field, key.descending⟩

/-! ## There and back -/

/-- An order of paths can be requested. -/
theorem requested_eq (h : HavePaths name keys) : requested name keys = .ok (request name keys) := by
  have hall : keys.all (fun key => key.field.isKey && (name key.field).isKey) = true := by
    refine List.all_eq_true.2 fun key hkey => ?_
    obtain ⟨hfield, path, hpath⟩ := h key hkey
    rw [hfield, hpath]
    rfl
  rw [requested, if_pos hall]

/-- A direction is read back from its name. -/
theorem direction?_directionName (descending : Bool) :
    direction? (directionName descending) = some descending := by
  cases descending <;> decide +kernel

theorem make_direction (path : String) (key : SortKey) :
    make (.text path) (.text key.direction) = .ok ⟨.text path, key.descending⟩ := by
  have hread : direction? (Value.text key.direction).written = some key.descending :=
    direction?_directionName key.descending
  rw [make, hread]

theorem ofRequestItems_request (h : HavePaths name keys) :
    ofRequestItems (request name keys) = .ok (asStored name keys) := by
  induction keys with
  | nil => rfl
  | cons key rest ih =>
    obtain ⟨⟨-, path, hpath⟩, hrest⟩ := List.forall_mem_cons.1 h
    have hentry : ofRequestEntry (.single (name key.field) (.text key.direction)) =
        .ok [⟨name key.field, key.descending⟩] := by
      rw [hpath]
      show (do
        let first ← make (.text path) (.text key.direction)
        return first :: (← ofRequestFields [])) = _
      rw [make_direction]
      rfl
    show (do
      let first ← ofRequestEntry (.single (name key.field) (.text key.direction))
      return first ++ (← ofRequestItems (request name rest))) = _
    rw [hentry, ih hrest]
    rfl

/-- **An order is read back as it was requested**; none is requested where there are no keys. -/
theorem ofRequest_request (h : HavePaths name keys) :
    ofRequest (if keys.isEmpty then .null else .list (request name keys)) =
      .ok (asStored name keys) := by
  cases keys with
  | nil => rfl
  | cons key rest => exact ofRequestItems_request h

/-! ## The order that comes of it -/

theorem paths_asStored (name : Value → Value) (keys : List SortKey) :
    paths id (asStored name keys) = paths name keys := by
  induction keys with
  | nil => rfl
  | cons key rest ih =>
    show paths id (⟨name key.field, key.descending⟩ :: asStored name rest) = _
    rw [paths, paths, ih]
    rfl

theorem length_paths (h : HavePaths name keys) : (paths name keys).length = keys.length := by
  induction keys with
  | nil => rfl
  | cons key rest ih =>
    obtain ⟨⟨-, path, hpath⟩, hrest⟩ := List.forall_mem_cons.1 h
    rw [paths, hpath]
    exact congrArg Nat.succ (ih hrest)

/-- The key for a path with a direction. -/
def ofPath (path : String × Bool) : SortKey := ⟨.text path.1, path.2⟩

/-- Under a renaming of texts, an order goes by the renamed paths. -/
theorem paths_ofPath_renamed {rename : String → String}
    (h : ∀ path, name (.text path) = .text (rename path)) (order : List (String × Bool)) :
    paths name (order.map ofPath) = order.map fun path => (rename path.1, path.2) := by
  induction order with
  | nil => rfl
  | cons path rest ih =>
    rw [List.map_cons, paths, show name (ofPath path).field = .text (rename path.1) from h path.1]
    exact congrArg (_ :: ·) ih

/-- Its keys have paths. -/
theorem havePaths_ofPath {rename : String → String}
    (h : ∀ path, name (.text path) = .text (rename path)) (order : List (String × Bool)) :
    HavePaths name (order.map ofPath) := by
  intro key hkey
  obtain ⟨path, -, rfl⟩ := List.mem_map.1 hkey
  exact ⟨rfl, rename path.1, h path.1⟩

end SortKey

variable {name : Value → Value} {keys : List SortKey}

/-- By paths, all documents can be put in order. -/
theorem orderDocuments_eq (h : SortKey.HavePaths name keys) (docs : List Value) :
    orderDocuments keys name docs = .ok (sortDocuments keys name docs) := by
  have hall : (keys.all fun key => key.field.isKey) = true :=
    List.all_eq_true.2 fun key hkey => (h key hkey).1
  have hlength : ¬ (SortKey.paths name keys).length < keys.length := by
    rw [SortKey.length_paths h]
    exact Nat.lt_irrefl _
  simp [orderDocuments, hall, hlength]

/-- **The store orders as is done here**, whatever the order of documents is. -/
theorem orderDocuments_asStored (h : SortKey.HavePaths name keys) (docs : List Value) :
    orderDocuments (SortKey.asStored name keys) id docs = .ok (sortDocuments keys name docs) := by
  have hstored : SortKey.HavePaths id (SortKey.asStored name keys) := by
    intro key hkey
    obtain ⟨given, hgiven, rfl⟩ := List.mem_map.1 hkey
    obtain ⟨-, path, hpath⟩ := h given hgiven
    exact ⟨by rw [hpath]; rfl, path, hpath⟩
  rw [orderDocuments_eq hstored, sortDocuments, SortKey.paths_asStored, ← sortDocuments]

end DocStore
