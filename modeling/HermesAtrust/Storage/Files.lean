import Mathlib.Logic.Function.Basic

/-!
# Files under the names of one directory

A directory gives names to files.  What is read and written goes to a file,
whatever names it has; creating, renaming and removing change what a name
stands for.  A crash keeps what a file holds when the file has been
synchronised since it last changed, and what a name stands for when the
directory has been.  Until then a crash may bring back anything that the name
has stood for since the directory was last synchronised.
-/

namespace HermesAtrust.Storage

universe u v

structure File where
  content : List UInt8
  permissions : BitVec 9
  synced : Bool
  deriving DecidableEq

structure Directory (Name : Type u) (Identity : Type v) where
  entries : Name → Option Identity
  files : Identity → Option File
  /-- What a name has stood for since the directory was last synchronised, the
  latest first, up to what it stands for now. -/
  replaced : Name → List (Option Identity)

namespace Directory

variable {Name : Type u} {Identity : Type v}

/-- What a name may stand for after a crash, what it stands for now first. -/
def possible (directory : Directory Name Identity) (name : Name) :
    List (Option Identity) :=
  directory.entries name :: directory.replaced name

/-- The second directory may be what a crash leaves of the first. -/
structure Survives (directory image : Directory Name Identity) : Prop where
  entry : ∀ name, image.entries name ∈ directory.possible name
  file :
    ∀ identity file, directory.files identity = some file →
      file.synced = true → image.files identity = some file

/-- The crash may come when there is nothing to lose. -/
theorem survives_self (directory : Directory Name Identity) :
    Survives directory directory where
  entry _ := List.mem_cons_self
  file _ _ held _ := held

/-- `File::sync_all` on the directory. -/
def synchronise (directory : Directory Name Identity) :
    Directory Name Identity :=
  { directory with replaced := fun _ => [] }

section

variable [DecidableEq Name]

/-- From now on the name stands for the given file, or for none. -/
def relink (directory : Directory Name Identity) (name : Name)
    (entry : Option Identity) : Directory Name Identity :=
  { directory with
    entries := Function.update directory.entries name entry
    replaced :=
      Function.update directory.replaced name (directory.possible name) }

def rename (directory : Directory Name Identity) (source target : Name) :
    Option (Directory Name Identity) :=
  match directory.entries source with
  | none => none
  | some identity =>
      if source = target then
        some directory
      else
        some ((directory.relink target (some identity)).relink source none)

def remove (directory : Directory Name Identity) (name : Name) :
    Option (Directory Name Identity) :=
  match directory.entries name with
  | none => none
  | some _ => some (directory.relink name none)

end

section

variable [DecidableEq Identity]

def place (directory : Directory Name Identity) (identity : Identity)
    (file : File) : Directory Name Identity :=
  { directory with
    files := Function.update directory.files identity (some file) }

def modify (directory : Directory Name Identity) (identity : Identity)
    (change : File → File) : Directory Name Identity :=
  { directory with
    files :=
      Function.update directory.files identity
        ((directory.files identity).map change) }

def append (directory : Directory Name Identity) (identity : Identity)
    (bytes : List UInt8) : Directory Name Identity :=
  directory.modify identity fun file =>
    { file with content := file.content ++ bytes, synced := false }

def setPermissions (directory : Directory Name Identity)
    (identity : Identity) (permissions : BitVec 9) :
    Directory Name Identity :=
  directory.modify identity fun file =>
    { file with permissions := permissions, synced := false }

/-- `File::sync_all` on a file. -/
def synchroniseFile (directory : Directory Name Identity)
    (identity : Identity) : Directory Name Identity :=
  directory.modify identity fun file => { file with synced := true }

end

/-- Opening with `create_new`: the name must be free, and the file that it
stands for from now on is a new one. -/
def createNew [DecidableEq Name] [DecidableEq Identity]
    (directory : Directory Name Identity) (name : Name) (identity : Identity)
    (permissions : BitVec 9) : Option (Directory Name Identity) :=
  match directory.entries name, directory.files identity with
  | none, none =>
      some
        ((directory.relink name (some identity)).place identity
          ⟨[], permissions, false⟩)
  | _, _ => none

section

variable {directory after : Directory Name Identity} {name other : Name}
  {identity : Identity} {entry : Option Identity}

@[simp]
theorem files_synchronise :
    directory.synchronise.files = directory.files :=
  rfl

@[simp]
theorem entries_synchronise :
    directory.synchronise.entries = directory.entries :=
  rfl

@[simp]
theorem possible_synchronise :
    directory.synchronise.possible name = [directory.entries name] :=
  rfl

theorem entries_mem_possible :
    directory.entries name ∈ directory.possible name :=
  List.mem_cons_self

section

variable [DecidableEq Name]

@[simp]
theorem files_relink :
    (directory.relink name entry).files = directory.files :=
  rfl

@[simp]
theorem entries_relink_self :
    (directory.relink name entry).entries name = entry :=
  Function.update_self ..

theorem entries_relink_of_ne (different : other ≠ name) :
    (directory.relink name entry).entries other = directory.entries other :=
  Function.update_of_ne different ..

@[simp]
theorem possible_relink_self :
    (directory.relink name entry).possible name =
      entry :: directory.possible name := by
  simp [possible, relink]

theorem possible_relink_of_ne (different : other ≠ name) :
    (directory.relink name entry).possible other =
      directory.possible other := by
  simp [possible, relink, different]

/-- What a rename does: the target takes over the file, and the source is
free. -/
theorem rename_eq_some {source target : Name} (different : source ≠ target)
    (renamed : directory.rename source target = some after) :
    ∃ identity, directory.entries source = some identity ∧
      after =
        (directory.relink target (some identity)).relink source none := by
  unfold rename at renamed
  cases entry : directory.entries source with
  | none => simp [entry] at renamed
  | some identity =>
      refine ⟨identity, rfl, ?_⟩
      simpa [entry, different] using renamed.symm

theorem rename_of_entries {source target : Name} (moved : Identity)
    (different : source ≠ target)
    (entry : directory.entries source = some moved) :
    directory.rename source target =
      some ((directory.relink target (some moved)).relink source none) := by
  simp only [rename, entry, if_neg different]

/-- Removing a name that stands for nothing changes nothing. -/
theorem remove_getD (directory : Directory Name Identity) (name : Name) :
    (directory.entries name = none ∧
        (directory.remove name).getD directory = directory) ∨
      (directory.remove name).getD directory =
        directory.relink name none := by
  unfold remove
  cases entry : directory.entries name with
  | none => exact Or.inl ⟨rfl, rfl⟩
  | some identity => exact Or.inr rfl

end

section

variable [DecidableEq Identity] {change : File → File} {file : File}

@[simp]
theorem possible_place :
    (directory.place identity file).possible = directory.possible :=
  rfl

@[simp]
theorem entries_place :
    (directory.place identity file).entries = directory.entries :=
  rfl

@[simp]
theorem files_place_self :
    (directory.place identity file).files identity = some file :=
  Function.update_self ..

theorem files_place_of_ne {another : Identity}
    (different : another ≠ identity) :
    (directory.place identity file).files another =
      directory.files another :=
  Function.update_of_ne different ..

@[simp]
theorem possible_modify :
    (directory.modify identity change).possible = directory.possible :=
  rfl

@[simp]
theorem entries_modify :
    (directory.modify identity change).entries = directory.entries :=
  rfl

@[simp]
theorem files_modify_self :
    (directory.modify identity change).files identity =
      (directory.files identity).map change :=
  Function.update_self ..

theorem files_modify_of_ne {another : Identity}
    (different : another ≠ identity) :
    (directory.modify identity change).files another =
      directory.files another :=
  Function.update_of_ne different ..

end

theorem createNew_of_free [DecidableEq Name] [DecidableEq Identity]
    (permissions : BitVec 9) (free : directory.entries name = none)
    (unused : directory.files identity = none) :
    directory.createNew name identity permissions =
      some
        ((directory.relink name (some identity)).place identity
          ⟨[], permissions, false⟩) := by
  simp only [createNew, free, unused]

theorem createNew_eq_some [DecidableEq Name] [DecidableEq Identity]
    {permissions : BitVec 9}
    (created : directory.createNew name identity permissions = some after) :
    directory.entries name = none ∧ directory.files identity = none ∧
      after =
        (directory.relink name (some identity)).place identity
          ⟨[], permissions, false⟩ := by
  unfold createNew at created
  cases entry : directory.entries name with
  | some present => simp [entry] at created
  | none =>
      cases held : directory.files identity with
      | some file => simp [entry, held] at created
      | none =>
          simp only [entry, held, Option.some.injEq] at created
          exact ⟨rfl, rfl, created.symm⟩

end

end Directory

end HermesAtrust.Storage
