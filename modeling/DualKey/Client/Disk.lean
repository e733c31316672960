import DualKey.Client.Keys
import DualKey.Foundations.Crash
import DualKey.Foundations.Files

/-!
# Commands on a disk

A file store as the surroundings of a session. An operation that succeeds has its effect
(`FileOp.apply`); one that fails may have done part of it. A read returns what is there or fails.
The generator of Falcon keys returns keys of its own format.

The rules for reading and writing key files follow; a write that is stopped anywhere has left a
prefix of the bytes, with the mode the file had or was created with (`writeWithMode_safe`).
-/

namespace DualKey

open Dialogue Session Transition

namespace FileOp

variable (umask : UInt32) (s : FileStore)

/-- What an operation does when it succeeds. -/
def apply : FileOp → FileStore
  | openFile p mode => s.openFile umask p mode
  | writeAll p bytes => s.write p bytes
  | syncAll _ => s
  | setPermissions p mode => s.chmod p mode
  | createDirAll p => s.mkdirAll umask p

/-- What the operation finds where it succeeds. -/
inductive Admitted : FileOp → Prop where
  | openFile {p : PathBuf} {mode : UInt32} (hdir : s.dir p = none) : Admitted (openFile p mode)
  | writeAll {p : PathBuf} {bytes : List UInt8} (hfile : s.file p ≠ none) :
    Admitted (writeAll p bytes)
  | syncAll {p : PathBuf} : Admitted (syncAll p)
  | setPermissions {p : PathBuf} {mode : UInt32} (h : s.file p ≠ none ∨ s.dir p ≠ none) :
    Admitted (setPermissions p mode)
  | createDirAll {p : PathBuf} (hfile : ∀ d, d <+: p → s.file d = none) :
    Admitted (createDirAll p)

instance (op : FileOp) : Decidable (op.Admitted s) :=
  match op with
  | openFile p mode =>
    decidable_of_iff (s.dir p = none) ⟨fun h => .openFile h, fun h => by cases h; assumption⟩
  | writeAll p bytes =>
    decidable_of_iff (s.file p ≠ none) ⟨fun h => .writeAll h, fun h => by cases h; assumption⟩
  | syncAll p => .isTrue .syncAll
  | setPermissions p mode =>
    decidable_of_iff (s.file p ≠ none ∨ s.dir p ≠ none)
      ⟨fun h => .setPermissions h, fun h => by cases h; assumption⟩
  | createDirAll p =>
    decidable_of_iff (∀ d ∈ p.inits, s.file d = none)
      ⟨fun h => .createDirAll fun d hd => h d (List.mem_inits d p |>.mpr hd),
        fun h => by
          cases h with
          | createDirAll hfile => exact fun d hd => hfile d (List.mem_inits d p |>.mp hd)⟩

/-- What an operation may have done when it fails. -/
inductive Partly : FileOp → FileStore → Prop where
  | nothing (op : FileOp) : Partly op s
  | written {p : PathBuf} {bytes front : List UInt8} (h : front <+: bytes) :
    Partly (writeAll p bytes) (s.write p front)
  | created {p d : PathBuf} (h : d <+: p) : Partly (createDirAll p) (s.mkdirAll umask d)

end FileOp

variable {Coins : Type}

/-- A key pair of the format of the Falcon implementation. -/
structure FalconKeypair.WellFormed (crypto : Crypto Coins) (sdk : Sdk) (falcon : FalconKeypair) :
    Prop where
  secretLength : falcon.secretKey.length = falconSecretKeyLen
  publicLength : falcon.publicKey.length = falconWirePubkeyLen
  secretOk : sdk.falconSecretKeyOk falcon.secretKey = true
  publicOk : crypto.falcon.publicKeyOk falcon.publicKey = true

variable (crypto : Crypto Coins) (sdk : Sdk) (umask : UInt32)

/-- One question to a disk, to the generators, or to the network. -/
inductive DiskStep : FileStore → (Σ q, Io.Answer Coins q) → FileStore → Prop where
  | read {s : FileStore} {p : PathBuf} {f : File} (h : s.file p = some f) :
    DiskStep s ⟨.readFile p, (.ok f.bytes : Except String (List UInt8))⟩ s
  | unread {s : FileStore} (p : PathBuf) (e : String) :
    DiskStep s ⟨.readFile p, (.error e : Except String (List UInt8))⟩ s
  | done {s : FileStore} {op : FileOp} (h : op.Admitted s) :
    DiskStep s ⟨.file op, (.ok () : Except String Unit)⟩ (op.apply umask s)
  | failed {s t : FileStore} {op : FileOp} (e : String) (h : op.Partly umask s t) :
    DiskStep s ⟨.file op, (.error e : Except String Unit)⟩ t
  | fillBytes {s : FileStore} (seed : ByteVec 32) : DiskStep s ⟨.fillBytes, seed⟩ s
  | falconKeypair {s : FileStore} {falcon : FalconKeypair} (h : falcon.WellFormed crypto sdk) :
    DiskStep s ⟨.falconKeypair, falcon⟩ s
  | falconCoins {s : FileStore} (coins : Coins) : DiskStep s ⟨.falconCoins, coins⟩ s
  | post {s : FileStore} (url : String) (body : Json) (reply : Except String JsonRpcResponse) :
    DiskStep s ⟨.post url body, reply⟩ s
  | sleep {s : FileStore} (millis : ℕ) : DiskStep s ⟨.sleep millis, ()⟩ s

/-- The world of a session; any store can be the first. -/
def disk : World (Io.Answer Coins) FileStore where
  init _ := True
  step := DiskStep crypto sdk umask

section Rules

variable {crypto sdk umask} {α : Type} {I : FileStore → Prop} {s : FileStore}
  {E : CommandError → Prop} {p : PathBuf} {bytes : List UInt8} {mode : UInt32}

/-! ### Primitives -/

theorem safe_file {op : FileOp} {P : Unit → FileStore → Prop}
    (hdone : op.Admitted s → I (op.apply umask s) ∧ P () (op.apply umask s))
    (hpart : ∀ t, op.Partly umask s t → I t) (herror : ∀ e, E (.io op.path e)) :
    Safe (disk crypto sdk umask) I s (file op) P E := by
  refine Safe.bind (P := fun answer t => I t ∧ (answer = .ok () → P () t)) ?_ ?_
  · refine Safe.question ?_
    intro answer t hstep
    cases hstep with
    | done h =>
      obtain ⟨hI, hP⟩ := hdone h
      exact ⟨hI, hI, fun _ => hP⟩
    | failed e h => exact ⟨hpart t h, hpart t h, fun hok => nomatch hok⟩
  · rintro answer t ⟨-, hP⟩
    refine Safe.lift ?_ ?_
    · intro u hu
      exact hP (mapError_eq_ok.mp hu)
    · intro e he
      cases answer with
      | ok u => cases he
      | error text =>
        cases he
        exact herror text

/-- **A write that can stop anywhere.** On the way the file has the mode it had, or was created
with, and a prefix of the bytes; in the end it has the bytes and the mode. -/
theorem writeWithMode_safe {P : Unit → FileStore → Prop} (hs : I s)
    (hI : ∀ f : File, f.bytes <+: bytes → f.mode = s.openMode umask p mode ∨ f.mode = mode →
      I (s.store p f))
    (hP : P () (s.store p ⟨bytes, mode⟩)) (herror : ∀ e, E (.io p e)) :
    Safe (disk crypto sdk umask) I s (writeWithMode p bytes mode) P E := by
  -- the store after each of the four operations
  have hopened : I (s.openFile umask p mode) := hI _ (List.nil_prefix) (Or.inl rfl)
  have hwritten (front : List UInt8) :
      (s.openFile umask p mode).write p front =
        s.store p ⟨front, s.openMode umask p mode⟩ := FileStore.write_store
  refine Safe.bind (P := fun _ t => s.dir p = none ∧ t = s.openFile umask p mode) ?_ ?_
  · refine safe_file ?_ ?_ herror
    · intro hadmitted
      cases hadmitted with
      | openFile hdir => exact ⟨hopened, hdir, rfl⟩
    · intro t hpart
      cases hpart
      exact hs
  rintro _ _ ⟨hdir, rfl⟩
  refine Safe.bind (P := fun _ t => t = s.store p ⟨bytes, s.openMode umask p mode⟩) ?_ ?_
  · refine safe_file ?_ ?_ herror
    · intro _
      rw [FileOp.apply, hwritten]
      exact ⟨hI _ (List.prefix_refl bytes) (Or.inl rfl), rfl⟩
    · intro t hpart
      cases hpart with
      | nothing => exact hopened
      | written hfront =>
        rw [hwritten]
        exact hI _ hfront (Or.inl rfl)
  rintro _ _ rfl
  have hfull : I (s.store p ⟨bytes, s.openMode umask p mode⟩) :=
    hI _ (List.prefix_refl bytes) (Or.inl rfl)
  refine Safe.bind (P := fun _ t => t = s.store p ⟨bytes, s.openMode umask p mode⟩) ?_ ?_
  · refine safe_file (fun _ => ⟨hfull, rfl⟩) ?_ herror
    intro t hpart
    cases hpart
    exact hfull
  rintro _ _ rfl
  refine safe_file ?_ ?_ herror
  · intro _
    rw [FileOp.apply, FileStore.chmod_store hdir]
    exact ⟨hI _ (List.prefix_refl bytes) (Or.inr rfl), hP⟩
  · intro t hpart
    cases hpart
    exact hfull

/-- An operation that succeeds was admitted, and has had its effect. -/
theorem enacted_file_ok {op : FileOp} {s' : FileStore}
    {tr : List (Edge FileStore (Σ q, Io.Answer Coins q))} {u : Unit}
    (h : Enacted (disk crypto sdk umask) (file op) s tr (.ok u) s') :
    op.Admitted s ∧ s' = op.apply umask s ∧
      tr = [⟨s, ⟨.file op, .ok ()⟩, op.apply umask s⟩] := by
  obtain ⟨e, rfl, hlabel⟩ := List.map_eq_singleton_iff.mp (path_file.mp h.path)
  have hrun := h.run
  cases hrun with
  | @cons _ t _ l _ hstep hrest =>
    obtain rfl : l = ⟨.file op, (.ok () : Except String Unit)⟩ := hlabel
    cases hrest
    cases hstep with
    | done hadmitted => exact ⟨hadmitted, rfl, rfl⟩

end Rules

end DualKey
