import Mathlib.Data.List.Basic
import StructuralDiff.Disk
import StructuralDiff.Proofs.Table

/-!
# What disk operations do

* `entry?_put`, `entry?_removeBelow`: what stands where after writing and removing.
* `read_eq_ok`, `write_eq_ok`: when a file can be read and written.
* `resolve`, `eq_resolve_of_walk`: a walk that succeeds ends where its names lead, whatever the disk is.
* `read_of_write`, `exists_write_of_read`: what was written is read, and can be written over.
* `Grows`, `grows_makeWay`: making directories changes nothing that was there.
* `makeWay_again`: directories that are there need not be made.
* `Passable`, `exists_makeWay`, `walk_makeWay`: where no file is in the way, directories can be made, and then
  walked along.
-/

namespace StructuralDiff.Disk

variable {disk : Disk} {place : List String}

/-! ### Entries -/

theorem entry?_root : disk.entry? [] = some .directory := rfl

theorem entry?_of_ne_nil {other : List String} (h : other ≠ []) :
    disk.entry? other = disk.entries.lookup other :=
  if_neg (by simpa using h)

theorem entry?_put {entry : DiskEntry} (hplace : place ≠ []) (other : List String) :
    Disk.entry? (disk.put place entry) other = if other = place then some entry else disk.entry? other := by
  by_cases hroot : other = []
  · rw [hroot, if_neg (Ne.symm hplace), entry?_root, entry?_root]
  · rw [entry?_of_ne_nil hroot, entry?_of_ne_nil hroot]
    simpa [put] using Table.lookup_replace disk.entries place other entry

theorem entry?_removeBelow {other : List String} (hother : other ≠ []) :
    Disk.entry? (disk.removeBelow place) other = if place <+: other then none else disk.entry? other := by
  have hkeeps (entry : List String × DiskEntry) : (!place.isPrefixOf entry.1) = true ↔ ¬place <+: entry.1 := by
    rw [Bool.not_eq_true', Bool.eq_false_iff, ne_eq, List.isPrefixOf_iff_prefix]
  rw [entry?_of_ne_nil hother, entry?_of_ne_nil hother]
  show (disk.entries.filter fun entry => !place.isPrefixOf entry.1).lookup other = _
  by_cases hprefix : place <+: other
  · rw [if_pos hprefix, List.lookup_eq_none_iff]
    intro entry hentry
    have hkept := (hkeeps entry).1 (List.mem_filter.1 hentry).2
    refine bne_iff_ne.2 ?_
    rintro rfl
    exact hkept hprefix
  · rw [if_neg hprefix]
    refine Table.lookup_filter disk.entries fun entry _ hkey => (hkeeps entry).2 ?_
    rwa [hkey]

/-! ### Single files -/

theorem read_eq_ok {here : List String} {path : String} {bytes : ByteArray} :
    disk.read here path = .ok bytes ↔
      ∃ found, disk.place here path = .ok found ∧ disk.entry? found = some (.file bytes) := by
  rw [read]
  cases hplace : disk.place here path with
  | error cause => simp
  | ok found =>
    cases hentry : disk.entry? found with
    | none => simp [hentry]
    | some entry => cases entry <;> simp [hentry]

theorem write_eq_ok {here : List String} {path : String} {bytes : ByteArray} {written : Disk} :
    disk.write here path bytes = .ok written ↔ ∃ found, disk.place here path = .ok found ∧
      disk.entry? found ≠ some .directory ∧ written = disk.put found (.file bytes) := by
  rw [write]
  cases hplace : disk.place here path with
  | error cause => simp
  | ok found =>
    cases hentry : disk.entry? found with
    | none => simp [hentry, eq_comm]
    | some entry => cases entry <;> simp [hentry, eq_comm]

/-! ### Walks -/

/-- Where names lead from a place. -/
def resolve : (place names : List String) → List String
  | place, [] => place
  | place, name :: rest => resolve (if name = ".." then place.dropLast else place ++ [name]) rest

theorem resolve_append (place names more : List String) :
    resolve place (names ++ more) = resolve (resolve place names) more := by
  induction names generalizing place with
  | nil => rfl
  | cons name rest ih => rw [List.cons_append, resolve, resolve, ih]

/-- One step of a walk: the place is a directory, and the name one that it can have. -/
theorem walk_cons_eq_ok {name : String} {rest found : List String} :
    disk.walk place (name :: rest) = .ok found ↔ disk.entry? place = some .directory ∧
      (name ≠ ".." → isBadName name = false) ∧
        disk.walk (if name = ".." then place.dropLast else place ++ [name]) rest = .ok found := by
  rw [walk]
  cases hentry : disk.entry? place with
  | none => simp
  | some entry =>
    cases entry with
    | file bytes => simp
    | directory => by_cases hparent : name = ".." <;> by_cases hbad : isBadName name <;> simp [hparent, hbad]

/-- **A walk that succeeds ends where its names lead.** -/
theorem eq_resolve_of_walk {names found : List String} (h : disk.walk place names = .ok found) :
    found = resolve place names := by
  induction names generalizing place with
  | nil => exact (Except.ok.inj h).symm
  | cons name rest ih => exact ih (walk_cons_eq_ok.1 h).2.2

/-- A walk goes along the first names, and from there along the others. -/
theorem walk_append_eq_ok {names more found : List String} :
    disk.walk place (names ++ more) = .ok found ↔
      disk.walk place names = .ok (resolve place names) ∧
        disk.walk (resolve place names) more = .ok found := by
  induction names generalizing place with
  | nil => exact ⟨fun h => ⟨rfl, h⟩, fun h => h.2⟩
  | cons name rest ih => rw [List.cons_append, walk_cons_eq_ok, walk_cons_eq_ok, ih, resolve]; tauto

/-- A walk depends on directories only. -/
theorem walk_mono {other : Disk} {names found : List String}
    (h : ∀ place, disk.entry? place = some .directory → other.entry? place = some .directory)
    (hwalk : disk.walk place names = .ok found) : other.walk place names = .ok found := by
  induction names generalizing place with
  | nil => exact hwalk
  | cons name rest ih =>
    obtain ⟨hentry, hname, hrest⟩ := walk_cons_eq_ok.1 hwalk
    exact walk_cons_eq_ok.2 ⟨h _ hentry, hname, ih hrest⟩

/-- So does where a path leads to. -/
theorem place_mono {other : Disk} {here found : List String} {path : String}
    (h : ∀ place, disk.entry? place = some .directory → other.entry? place = some .directory)
    (hplace : disk.place here path = .ok found) : other.place here path = .ok found := by
  rw [Disk.place] at hplace ⊢
  split at hplace
  · cases hplace
  · next hnamed =>
    split at hplace
    · cases hplace
    · next hgood =>
      rw [if_neg hnamed, if_neg hgood]
      exact walk_mono h hplace

/-! ### Writing and reading -/

section Written

variable {here : List String} {path : String} {bytes : ByteArray} {written : Disk}

/-- A file that can be written is not the root. -/
theorem entry?_put_of_ne_directory (hentry : disk.entry? place ≠ some .directory) (other : List String) :
    Disk.entry? (disk.put place (.file bytes)) other =
      if other = place then some (.file bytes) else disk.entry? other := by
  refine entry?_put (fun hroot => hentry ?_) other
  rw [hroot, entry?_root]

/-- **Writing a file** leaves the directories as they are. -/
theorem directory_of_write (h : disk.write here path bytes = .ok written)
    (hplace : disk.entry? place = some .directory) : written.entry? place = some .directory := by
  obtain ⟨found, -, hentry, rfl⟩ := write_eq_ok.1 h
  rw [entry?_put_of_ne_directory hentry, if_neg, hplace]
  rintro rfl
  exact hentry hplace

/-- **What was written is read.** -/
theorem read_of_write (h : disk.write here path bytes = .ok written) : written.read here path = .ok bytes := by
  have hwritten := h
  obtain ⟨found, hplace, hentry, rfl⟩ := write_eq_ok.1 h
  refine read_eq_ok.2 ⟨found, place_mono (fun _ => directory_of_write hwritten) hplace, ?_⟩
  rw [entry?_put_of_ne_directory hentry, if_pos rfl]

/-- **What can be read can be written over.** -/
theorem exists_write_of_read (h : disk.read here path = .ok bytes) (more : ByteArray) :
    ∃ again, disk.write here path more = .ok again := by
  obtain ⟨found, hplace, hfile⟩ := read_eq_ok.1 h
  exact ⟨_, write_eq_ok.2 ⟨found, hplace, by simp [hfile], rfl⟩⟩

end Written

/-! ### Making directories -/

/-- What the disk `a` has is also on the disk `b`, which may have more directories. -/
def Grows (a b : Disk) : Prop :=
  ∀ place, b.entry? place = a.entry? place ∨ a.entry? place = none ∧ b.entry? place = some .directory

namespace Grows

variable {a b c : Disk}

theorem refl (a : Disk) : Grows a a := fun _ => .inl rfl

theorem trans (hab : Grows a b) (hbc : Grows b c) : Grows a c := by
  intro place
  rcases hbc place with hsame | ⟨hnone, hdirectory⟩
  · rw [hsame]
    exact hab place
  · rcases hab place with hsame | ⟨-, hfirst⟩
    · exact .inr ⟨hsame ▸ hnone, hdirectory⟩
    · rw [hnone] at hfirst
      exact nomatch hfirst

theorem directory (h : Grows a b) (hplace : a.entry? place = some .directory) :
    b.entry? place = some .directory := by
  rcases h place with hsame | ⟨hnone, -⟩
  · rw [hsame, hplace]
  · rw [hplace] at hnone
    exact nomatch hnone

/-- There are no new files. -/
theorem file_iff (h : Grows a b) {bytes : ByteArray} :
    b.entry? place = some (.file bytes) ↔ a.entry? place = some (.file bytes) := by
  rcases h place with hsame | ⟨hnone, hdirectory⟩
  · rw [hsame]
  · simp [hnone, hdirectory]

end Grows

theorem grows_put_directory (hnone : disk.entry? place = none) : Grows disk (disk.put place .directory) := by
  have hplace : place ≠ [] := by
    rintro rfl
    exact nomatch hnone
  intro other
  rw [entry?_put hplace]
  split
  · next hsame => exact .inr ⟨hsame ▸ hnone, rfl⟩
  · exact .inl rfl

/-- **Making directories changes nothing that was there.** -/
theorem grows_makeWay {names : List String} {made : Disk} (h : disk.makeWay place names = .ok made) :
    Grows disk made := by
  induction names generalizing disk place with
  | nil =>
    obtain rfl := Except.ok.inj h
    exact .refl _
  | cons name rest ih =>
    rw [makeWay] at h
    split at h
    · exact ih h
    · split at h
      · exact nomatch h
      · dsimp only at h
        split at h
        · exact nomatch h
        · exact ih h
        · next hnone => exact (grows_put_directory hnone).trans (ih h)

theorem grows_makeDirectories {here : List String} {path : String} {made : Disk}
    (h : disk.makeDirectories here path = .ok made) : Grows disk made := by
  rw [makeDirectories] at h
  split at h
  · exact nomatch h
  · exact grows_makeWay h

/-- Directories that are there need not be made. -/
theorem makeWay_again {names : List String} {made other : Disk} (h : disk.makeWay place names = .ok made)
    (hmore : ∀ place, made.entry? place = some .directory → other.entry? place = some .directory) :
    other.makeWay place names = .ok other := by
  induction names generalizing disk place with
  | nil => rfl
  | cons name rest ih =>
    rw [makeWay] at h ⊢
    split at h
    · next hparent =>
      rw [if_pos hparent]
      exact ih h
    · next hparent =>
      split at h
      · cases h
      · next hname =>
        rw [if_neg hparent, if_neg hname]
        -- found or made, the next directory is on the disk in the end, and so on the other one
        dsimp only at h ⊢
        split at h
        · cases h
        · next hthere =>
          rw [hmore _ ((grows_makeWay h).directory hthere)]
          exact ih h
        · have hplace : place ++ [name] ≠ [] := by simp
          have hnew : Disk.entry? (disk.put (place ++ [name]) .directory) (place ++ [name]) = some .directory := by
            rw [entry?_put hplace, if_pos rfl]
          rw [hmore _ ((grows_makeWay h).directory hnew)]
          exact ih h

theorem makeDirectories_again {here : List String} {path : String} {made other : Disk}
    (h : disk.makeDirectories here path = .ok made)
    (hmore : ∀ place, made.entry? place = some .directory → other.entry? place = some .directory) :
    other.makeDirectories here path = .ok other := by
  rw [makeDirectories] at h ⊢
  split at h
  · cases h
  · next hgood =>
    rw [if_neg hgood]
    exact makeWay_again h hmore

/-- Going back at the end makes no directory. -/
theorem makeWay_concat_parent (names : List String) :
    disk.makeWay place (names ++ [".."]) = disk.makeWay place names := by
  induction names generalizing disk place with
  | nil => rfl
  | cons name rest ih => rw [List.cons_append, makeWay, makeWay]; simp only [ih]

/-! ### Ways without files -/

/-- A name of an entry below the place where it is looked up. -/
structure IsPlain (name : String) : Prop where
  ne_parent : name ≠ ".."
  notBad : isBadName name = false

instance (name : String) : Decidable (IsPlain name) :=
  decidable_of_iff (name ≠ ".." ∧ isBadName name = false) ⟨fun h => ⟨h.1, h.2⟩, fun h => ⟨h.1, h.2⟩⟩

/-- From a place on along the names there is no file. -/
def Passable (disk : Disk) (place names : List String) : Prop :=
  ∀ front, front <+: names → ∀ bytes, disk.entry? (place ++ front) ≠ some (.file bytes)

theorem passable_cons {name : String} {rest : List String} (h : disk.Passable place (name :: rest)) :
    (∀ bytes, disk.entry? place ≠ some (.file bytes)) ∧ disk.Passable (place ++ [name]) rest := by
  refine ⟨fun bytes => ?_, fun front hfront bytes => ?_⟩
  · simpa using h [] List.nil_prefix bytes
  · simpa using h (name :: front) ((List.prefix_cons_inj name).2 hfront) bytes

theorem Grows.passable {other : Disk} {names : List String} (hgrows : Grows disk other)
    (h : disk.Passable place names) : other.Passable place names :=
  fun front hfront bytes hfile => h front hfront bytes (hgrows.file_iff.1 hfile)

variable {names : List String}

theorem resolve_of_plain (hnames : ∀ name ∈ names, IsPlain name) : resolve place names = place ++ names := by
  induction names generalizing place with
  | nil => exact (List.append_nil place).symm
  | cons name rest ih =>
    rw [List.forall_mem_cons] at hnames
    rw [resolve, if_neg hnames.1.ne_parent, ih hnames.2, List.append_assoc, List.singleton_append]

/-- One step on the way: the next place is a directory, or it becomes one. -/
theorem makeWay_cons_of_plain {name : String} (rest : List String) (hname : IsPlain name)
    (hnone : ∀ bytes, disk.entry? (place ++ [name]) ≠ some (.file bytes)) :
    ∃ next, Grows disk next ∧ next.entry? (place ++ [name]) = some .directory ∧
      (∀ other, other ≠ place ++ [name] → next.entry? other = disk.entry? other) ∧
        disk.makeWay place (name :: rest) = next.makeWay (place ++ [name]) rest := by
  have hplace : place ++ [name] ≠ [] := by simp
  rw [makeWay, if_neg (by simpa using hname.ne_parent), if_neg (by simp [hname.notBad])]
  cases hentry : disk.entry? (place ++ [name]) with
  | none =>
    refine ⟨_, grows_put_directory hentry, ?_, fun other hother => ?_, by simp only [hentry]⟩
    · rw [entry?_put hplace, if_pos rfl]
    · rw [entry?_put hplace, if_neg hother]
  | some entry =>
    cases entry with
    | file bytes => exact absurd hentry (hnone bytes)
    | directory => exact ⟨disk, .refl disk, hentry, fun _ _ => rfl, by simp only [hentry]⟩

/-- **Where no file is in the way, directories can be made.** Only places on the way change. -/
theorem exists_makeWay (hnames : ∀ name ∈ names, IsPlain name) (h : disk.Passable place names) :
    ∃ made, disk.makeWay place names = .ok made ∧
      ∀ other, ¬other <+: place ++ names → made.entry? other = disk.entry? other := by
  induction names generalizing disk place with
  | nil => exact ⟨disk, rfl, fun _ _ => rfl⟩
  | cons name rest ih =>
    rw [List.forall_mem_cons] at hnames
    have hrest := (passable_cons h).2
    obtain ⟨next, hgrows, -, hothers, hway⟩ := makeWay_cons_of_plain rest hnames.1 fun bytes => by
      simpa using hrest [] List.nil_prefix bytes
    obtain ⟨made, hmade, hsame⟩ := ih hnames.2 (hgrows.passable hrest)
    refine ⟨made, hway.trans hmade, fun other hother => ?_⟩
    rw [← List.append_cons] at hsame
    rw [hsame other hother]
    refine hothers other ?_
    rintro rfl
    exact hother (by simp)

/-- **After directories were made, a walk along them succeeds**, and goes on to any name in the last one. -/
theorem walk_makeWay {made : Disk} {last : String} (hnames : ∀ name ∈ names, IsPlain name)
    (hlast : IsPlain last) (hplace : disk.entry? place = some .directory) (h : disk.Passable place names)
    (hmade : disk.makeWay place names = .ok made) :
    made.walk place (names ++ [last]) = .ok (place ++ (names ++ [last])) := by
  induction names generalizing disk place with
  | nil =>
    obtain rfl := Except.ok.inj hmade
    exact walk_cons_eq_ok.2 ⟨hplace, fun _ => hlast.notBad, by rw [if_neg hlast.ne_parent]; rfl⟩
  | cons name rest ih =>
    rw [List.forall_mem_cons] at hnames
    have hrest := (passable_cons h).2
    obtain ⟨next, hgrows, hnext, -, hway⟩ := makeWay_cons_of_plain rest hnames.1 fun bytes => by
      simpa using hrest [] List.nil_prefix bytes
    rw [hway] at hmade
    have hwalk := ih hnames.2 hnext (hgrows.passable hrest) hmade
    refine walk_cons_eq_ok.2 ⟨(hgrows.trans (grows_makeWay hmade)).directory hplace,
      fun _ => hnames.1.notBad, ?_⟩
    rw [List.append_assoc] at hwalk
    rwa [if_neg hnames.1.ne_parent]

/-- One step of a walk that meets no file. -/
theorem walk_cons_of_plain {name : String} (more : List String) (hname : IsPlain name)
    (hfile : ∀ bytes, disk.entry? place ≠ some (.file bytes)) :
    disk.walk place (name :: more) = disk.walk (place ++ [name]) more ∨
      disk.walk place (name :: more) = .error .notFound := by
  rw [walk]
  cases hentry : disk.entry? place with
  | none => exact .inr rfl
  | some entry =>
    cases entry with
    | file bytes => exact absurd hentry (hfile bytes)
    | directory => exact .inl (by simp [hname.ne_parent, hname.notBad])

/-- **Where no file is in the way, a walk succeeds or finds nothing.** -/
theorem walk_of_passable {last : String} (hnames : ∀ name ∈ names, IsPlain name) (hlast : IsPlain last)
    (h : disk.Passable place names) :
    disk.walk place (names ++ [last]) = .ok (place ++ (names ++ [last])) ∨
      disk.walk place (names ++ [last]) = .error .notFound := by
  induction names generalizing place with
  | nil => exact walk_cons_of_plain [] hlast fun bytes => by simpa using h [] List.nil_prefix bytes
  | cons name rest ih =>
    rw [List.forall_mem_cons] at hnames
    obtain ⟨hfile, hrest⟩ := passable_cons h
    rcases walk_cons_of_plain (rest ++ [last]) hnames.1 hfile with hstep | hnone
    · have hlater := ih hnames.2 hrest
      rw [List.append_assoc] at hlater
      rwa [List.cons_append, hstep]
    · exact .inr hnone

end StructuralDiff.Disk
