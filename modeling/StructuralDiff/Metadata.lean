import StructuralDiff.Text.Order

/-!
# Metadata

Free-form attributes of nodes and edges: texts under text keys, held in the order of the keys, so that
two collections with the same attributes are equal and are written the same way.
-/

namespace StructuralDiff

/-- The keys of a list of attributes are strictly increasing. -/
def KeysIncrease (entries : List (String × String)) : Prop :=
  entries.Pairwise fun a b => Text.order a.1 b.1 = .lt

/-- Attributes under distinct keys. -/
structure Metadata where
  entries : List (String × String)
  increasing : KeysIncrease entries := by exact List.Pairwise.nil

namespace Metadata

instance : Inhabited Metadata := ⟨{ entries := [] }⟩

instance : DecidableEq Metadata := fun a b =>
  if h : a.entries = b.entries then
    isTrue (by cases a; cases b; cases h; rfl)
  else isFalse (fun hab => h (by rw [hab]))

/-- No attributes. -/
def empty : Metadata := { entries := [] }

/-- Puts an attribute at its place, over an earlier one with the same key. -/
def insertEntry (key value : String) : List (String × String) → List (String × String)
  | [] => [(key, value)]
  | (k, v) :: rest =>
    match Text.order key k with
    | .lt => (key, value) :: (k, v) :: rest
    | .eq => (key, value) :: rest
    | .gt => (k, v) :: insertEntry key value rest

theorem fst_mem_insertEntry {key value : String} {entries : List (String × String)}
    {entry : String × String} (h : entry ∈ insertEntry key value entries) :
    entry.1 = key ∨ entry ∈ entries := by
  induction entries with
  | nil => simp [insertEntry] at h; simp [h]
  | cons head rest ih =>
    obtain ⟨k, v⟩ := head
    simp only [insertEntry] at h
    split at h
    · rcases List.mem_cons.1 h with rfl | h
      · exact .inl rfl
      · exact .inr h
    · rcases List.mem_cons.1 h with rfl | h
      · exact .inl rfl
      · exact .inr (List.mem_cons_of_mem _ h)
    · rcases List.mem_cons.1 h with rfl | h
      · exact .inr List.mem_cons_self
      · exact (ih h).imp id (List.mem_cons_of_mem _)

theorem keysIncrease_insertEntry (key value : String) {entries : List (String × String)}
    (h : KeysIncrease entries) : KeysIncrease (insertEntry key value entries) := by
  induction entries with
  | nil => exact List.pairwise_singleton _ _
  | cons head rest ih =>
    obtain ⟨k, v⟩ := head
    obtain ⟨hhead, hrest⟩ := List.pairwise_cons.1 h
    simp only [insertEntry]
    split
    · next hlt =>
      refine List.pairwise_cons.2 ⟨fun entry hentry => ?_, h⟩
      rcases List.mem_cons.1 hentry with rfl | hentry
      · exact hlt
      · exact Text.order_trans hlt (hhead entry hentry)
    · next heq =>
      rw [Text.order_eq_iff.1 heq]
      exact List.pairwise_cons.2 ⟨hhead, hrest⟩
    · next hgt =>
      refine List.pairwise_cons.2 ⟨fun entry hentry => ?_, ih hrest⟩
      rcases fst_mem_insertEntry hentry with hkey | hentry
      · rw [hkey]
        exact Text.order_eq_gt_iff.1 hgt
      · exact hhead entry hentry

/-- Gives a key a text, in place of the one it had. -/
def insert (m : Metadata) (key value : String) : Metadata :=
  { entries := insertEntry key value m.entries
    increasing := keysIncrease_insertEntry key value m.increasing }

/-- The attributes of a list; of a repeated key the last text counts. -/
def ofList (entries : List (String × String)) : Metadata :=
  entries.foldl (fun m entry => m.insert entry.1 entry.2) empty

/-- The text under a key. -/
def get? (m : Metadata) (key : String) : Option String :=
  m.entries.lookup key

end Metadata

end StructuralDiff
