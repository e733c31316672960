import DualKey.Client.Disk
import DualKey.Properties.Confinement

/-!
# The key store

`keygen` closes its directory to everyone else before it draws a key. So whatever the directory
and the files in it looked like before, and wherever the command stops, nothing it has written can
be read by anyone but the owner (`keygen_guards`). A key set that was written completely is the one
that is loaded again (`generated_keys_load`).

`writeWithMode` alone promises less. A file that was there keeps its mode while the new bytes go
in, and only a file it creates is closed from the start (`write_exposure`).
-/

namespace DualKey

open Dialogue Session Transition
open Hex (Codec)

section General

variable {Coins : Type} {crypto : Crypto Coins} {hex : Codec} {sdk : Sdk} {umask : UInt32}
  {s s₀ s' t : FileStore} {dir p : PathBuf} {ed : Ed25519Keypair} {falcon : FalconKeypair}

/-! ### Files of a directory -/

theorem PathBuf.join_inj {a b : String} : dir.join a = dir.join b ↔ a = b := by
  rw [join, join, List.append_cancel_left_eq, List.cons.injEq, eq_self, and_true]

/-- A file of the directory under another name. -/
theorem file_store_join {a b : String} {f : File} (h : a ≠ b) :
    (t.store (dir.join b) f).file (dir.join a) = t.file (dir.join a) := by
  rw [FileStore.file_store, if_neg (mt PathBuf.join_inj.mp h)]

/-- Others are locked out of the directory, and only files in it have changed. -/
structure Guarded (s₀ : FileStore) (dir : PathBuf) (t : FileStore) : Prop where
  closed : t.Sealed dir
  others : ∀ p, (∀ name, p ≠ dir.join name) → t.file p = s₀.file p

/-- A file in the directory may change. -/
theorem Guarded.store {name : String} {f : File} (h : Guarded s₀ dir t) :
    Guarded s₀ dir (t.store (dir.join name) f) := by
  refine ⟨h.closed, fun p hp => ?_⟩
  rw [FileStore.file_store, if_neg (hp name), h.others p hp]

section Write

variable {I : FileStore → Prop} (hkeep : ∀ t name f, I t → I (t.store (dir.join name) f))

include hkeep

/-- A file of the directory is written where that keeps the invariant. -/
theorem safe_write {name : String} {bytes : List UInt8} {mode : UInt32} (hs : I s) :
    Safe (disk crypto sdk umask) I s (writeWithMode (dir.join name) bytes mode)
      (fun _ t => t = s.store (dir.join name) ⟨bytes, mode⟩ ∧ I t) fun _ => True :=
  writeWithMode_safe hs (fun f _ _ => hkeep s name f hs) ⟨rfl, hkeep s name _ hs⟩
    fun _ => trivial

/-- The three Ed25519 files. -/
theorem safe_ed25519Write (hs : I s) :
    Safe (disk crypto sdk umask) I s (ed.write crypto sdk ⟨dir⟩)
      (fun _ t => I t ∧ ∃ json, sdk.bytesToJson (ed.idJsonBytes crypto) = .ok json ∧
        t = ((s.store (dir.join ed25519SkFile) ⟨ed.signing.toList, secretMode⟩).store
          (dir.join ed25519PkFile) ⟨(ed.publicBytes crypto).toList, publicMode⟩).store
          (dir.join ed25519IdFile) ⟨json, secretMode⟩) fun _ => True := by
  refine (safe_write hkeep hs).bind ?_
  rintro _ _ ⟨rfl, hs⟩
  refine (safe_write hkeep hs).bind ?_
  rintro _ u ⟨hu, hs⟩
  refine Safe.bind
    (P := fun json t => t = u ∧ sdk.bytesToJson (ed.idJsonBytes crypto) = .ok json) ?_ ?_
  · exact Safe.lift (fun json hjson => ⟨rfl, mapError_eq_ok.mp hjson⟩) fun _ _ => trivial
  · rintro json _ ⟨rfl, hjson⟩
    refine (safe_write hkeep hs).mono (fun _ h => h) ?_ fun _ h => h
    rintro _ _ ⟨rfl, ht⟩
    exact ⟨ht, json, hjson, by rw [hu]⟩

/-- The three Falcon files. -/
theorem safe_falconWrite (hs : I s) :
    Safe (disk crypto sdk umask) I s (falcon.write crypto ⟨dir⟩)
      (fun _ t => I t ∧ ∃ prepared, crypto.falcon.preparePubkey falcon.publicKey = .ok prepared ∧
        t = ((s.store (dir.join falconSkFile) ⟨falcon.secretKey, secretMode⟩).store
          (dir.join falconPkFile) ⟨falcon.publicKey, publicMode⟩).store
          (dir.join falconPreparedFile) ⟨prepared.toList, publicMode⟩) fun _ => True := by
  refine (safe_write hkeep hs).bind ?_
  rintro _ _ ⟨rfl, hs⟩
  refine (safe_write hkeep hs).bind ?_
  rintro _ u ⟨hu, hs⟩
  refine Safe.bind
    (P := fun prepared t => t = u ∧
      crypto.falcon.preparePubkey falcon.publicKey = .ok prepared) ?_ ?_
  · exact Safe.lift (fun prepared hprepared => ⟨rfl, mapError_eq_ok.mp hprepared⟩)
      fun _ _ => trivial
  · rintro prepared _ ⟨rfl, hprepared⟩
    refine (safe_write hkeep hs).mono (fun _ h => h) ?_ fun _ h => h
    rintro _ _ ⟨rfl, ht⟩
    exact ⟨ht, prepared, hprepared, by rw [hu]⟩

/-- The manifest. -/
theorem safe_keysetWrite {keyset : KeySet} (hs : I s) :
    Safe (disk crypto sdk umask) I s (keyset.write sdk ⟨dir⟩)
      (fun _ t => I t ∧ ∃ json, sdk.prettyJson keyset.json = .ok json ∧
        t = s.store (dir.join keysetFile) ⟨json, publicMode⟩) fun _ => True := by
  refine Safe.bind (P := fun json t => t = s ∧ sdk.prettyJson keyset.json = .ok json) ?_ ?_
  · exact Safe.lift (fun json hjson => ⟨rfl, mapError_eq_ok.mp hjson⟩) fun _ _ => trivial
  · rintro json _ ⟨rfl, hjson⟩
    refine (safe_write hkeep hs).mono (fun _ h => h) ?_ fun _ h => h
    rintro _ _ ⟨rfl, ht⟩
    exact ⟨ht, json, hjson, rfl⟩

end Write

/-! ### Key generation -/

/-- The files of a key set, with their modes. -/
structure KeyFiles (crypto : Crypto Coins) (hex : Codec) (sdk : Sdk) (s : FileStore)
    (dir : PathBuf) (ed : Ed25519Keypair) (falcon : FalconKeypair) : Prop where
  ed25519Sk : s.file (dir.join ed25519SkFile) = some ⟨ed.signing.toList, secretMode⟩
  ed25519Pk : s.file (dir.join ed25519PkFile) =
    some ⟨(ed.publicBytes crypto).toList, publicMode⟩
  ed25519Id : ∃ json, sdk.bytesToJson (ed.idJsonBytes crypto) = .ok json ∧
    s.file (dir.join ed25519IdFile) = some ⟨json, secretMode⟩
  falconSk : s.file (dir.join falconSkFile) = some ⟨falcon.secretKey, secretMode⟩
  falconPk : s.file (dir.join falconPkFile) = some ⟨falcon.publicKey, publicMode⟩
  falconPrepared : ∃ prepared, crypto.falcon.preparePubkey falcon.publicKey = .ok prepared ∧
    s.file (dir.join falconPreparedFile) = some ⟨prepared.toList, publicMode⟩
  /-- The manifest is made of the public keys. -/
  keyset : ∃ json, sdk.prettyJson
      (KeySet.ofPublic crypto hex (ed.publicBytes crypto) falcon.publicKey).json = .ok json ∧
    s.file (dir.join keysetFile) = some ⟨json, publicMode⟩

/-- What a completed key generation leaves. -/
structure Generated (crypto : Crypto Coins) (hex : Codec) (sdk : Sdk) (s₀ : FileStore)
    (dir : PathBuf) (report : KeygenReport) (s : FileStore) (ed : Ed25519Keypair)
    (falcon : FalconKeypair) : Prop where
  wellFormed : falcon.WellFormed crypto sdk
  files : KeyFiles crypto hex sdk s dir ed falcon
  guarded : Guarded s₀ dir s
  ed25519PublicKey : report.ed25519PublicKey = hex.encode (ed.publicBytes crypto).toList
  falconPublicKeySha256 :
    report.falconPublicKeySha256 = hex.encode (crypto.sha256 falcon.publicKey).toList

/-- Nothing has changed yet, or the directory is guarded. -/
def GuardedOrUntouched (s₀ : FileStore) (dir : PathBuf) (t : FileStore) : Prop :=
  t.file = s₀.file ∨ Guarded s₀ dir t

/-- Once the directory is closed, the keys are drawn and written. -/
theorem keygen_safe : Safe (disk crypto sdk umask) (GuardedOrUntouched s₀ dir) s₀
    (keygen crypto hex sdk dir)
    (fun report t => ∃ ed falcon, Generated crypto hex sdk s₀ dir report t ed falcon)
    fun _ => True := by
  -- the directory is created, and closed
  refine Safe.bind (P := fun _ t => t.file = s₀.file ∧ ∃ mode, t.dir dir = some mode) ?_ ?_
  · refine safe_file ?_ ?_ fun _ => trivial
    · intro _
      exact ⟨Or.inl rfl, rfl, FileStore.exists_dir_mkdirAll⟩
    · intro t hpart
      cases hpart with
      | nothing => exact Or.inl rfl
      | created _ => exact Or.inl rfl
  rintro _ s₁ ⟨hfile, mode, hmode⟩
  refine Safe.bind (P := fun _ t => Guarded s₀ dir t) ?_ ?_
  · refine safe_file ?_ ?_ fun _ => trivial
    · intro _
      have hguarded : Guarded s₀ dir (s₁.chmod dir 0o700) := by
        refine ⟨FileStore.sealed_chmod hmode ?_, fun p _ => ?_⟩
        · intro c
          cases c <;> decide
        · rw [FileStore.file_chmod_dir hmode, hfile]
      exact ⟨Or.inr hguarded, hguarded⟩
    · intro t hpart
      cases hpart
      exact Or.inl hfile
  rintro _ s₂ hguarded
  -- the keys are drawn
  refine Safe.mono (I := Guarded s₀ dir) ?_ (fun _ h => Or.inr h) (fun _ _ h => h) fun _ h => h
  have hkeep : ∀ t name f, Guarded s₀ dir t → Guarded s₀ dir (t.store (dir.join name) f) :=
    fun _ _ _ h => h.store
  refine Safe.bind (P := fun _ t => t = s₂) ?_ ?_
  · refine Safe.bind (P := fun _ t => t = s₂) (Safe.question ?_) fun seed _ h => Safe.ok h
    intro seed t hstep
    cases hstep
    exact ⟨hguarded, rfl⟩
  rintro ed s₂ rfl
  refine Safe.bind (P := fun falcon u => u = s₂ ∧ falcon.WellFormed crypto sdk) ?_ ?_
  · refine Safe.question ?_
    intro falcon t hstep
    cases hstep with
    | falconKeypair hwf => exact ⟨hguarded, rfl, hwf⟩
  rintro falcon s₂ ⟨rfl, hwf⟩
  -- and written
  refine (safe_ed25519Write hkeep hguarded).bind ?_
  rintro _ s₃ ⟨hguarded₃, idJson, hid, hs₃⟩
  refine (safe_falconWrite hkeep hguarded₃).bind ?_
  rintro _ s₄ ⟨hguarded₄, prepared, hprepared, hs₄⟩
  refine (safe_keysetWrite hkeep hguarded₄).bind ?_
  rintro _ s₅ ⟨hguarded₅, manifest, hmanifest, hs₅⟩
  refine Safe.ok ⟨ed, falcon, hwf, ?_, hguarded₅, rfl, rfl⟩
  -- the seven files have different names
  subst hs₅ hs₄ hs₃
  constructor
  case ed25519Id =>
    refine ⟨idJson, hid, ?_⟩
    simp (disch := decide) only [file_store_join, FileStore.file_store_self]
  case falconPrepared =>
    refine ⟨prepared, hprepared, ?_⟩
    simp (disch := decide) only [file_store_join, FileStore.file_store_self]
  case keyset => exact ⟨manifest, hmanifest, FileStore.file_store_self⟩
  all_goals simp (disch := decide) only [file_store_join, FileStore.file_store_self]

/-- An error of the file system. -/
def CommandError.IsIo (e : CommandError) : Prop := ∃ path source, e = .io path source

/-- From this store the session returns the value, without changing anything: it can, and it
fails only when the file system does. -/
structure Loads {α : Type} (crypto : Crypto Coins) (sdk : Sdk) (umask : UInt32) (s : FileStore)
    (x : Session Coins α) (a : α) : Prop where
  possible : ∃ tr, Enacted (disk crypto sdk umask) x s tr (.ok a) s
  safe : Safe (disk crypto sdk umask) (fun t => t = s) s x (fun b t => b = a ∧ t = s)
    CommandError.IsIo

theorem Loads.bind {α β : Type} {x : Session Coins α} {a : α} {f : α → Session Coins β} {b : β}
    (hx : Loads crypto sdk umask s x a) (hf : Loads crypto sdk umask s (f a) b) :
    Loads crypto sdk umask s (x >>= f) b where
  possible := by
    obtain ⟨tr, htr⟩ := hx.possible
    obtain ⟨tr', htr'⟩ := hf.possible
    exact ⟨_, htr.bind htr'⟩
  safe := by
    refine hx.safe.bind ?_
    rintro _ _ ⟨rfl, rfl⟩
    exact hf.safe

theorem Loads.pure {α : Type} {a : α} :
    Loads crypto sdk umask s (Pure.pure a : Session Coins α) a :=
  ⟨⟨[], .ok⟩, .ok ⟨rfl, rfl⟩⟩

/-- The files in the directory are what matters. -/
theorem KeyFiles.congr (h : KeyFiles crypto hex sdk s dir ed falcon)
    (hsame : ∀ name, t.file (dir.join name) = s.file (dir.join name)) :
    KeyFiles crypto hex sdk t dir ed falcon := by
  obtain ⟨hsk, hpk, hid, hfsk, hfpk, hprepared, hkeyset⟩ := h
  rw [← hsame] at hsk hpk hfsk hfpk
  simp only [← hsame] at hid hprepared hkeyset
  exact ⟨hsk, hpk, hid, hfsk, hfpk, hprepared, hkeyset⟩

/-- A file is readable by its mode and the directories on the way. -/
theorem readable_store {f : File} {c : UserClass} :
    (s.store p f).Readable c p ↔ Grants f.mode c.readBit ∧
      ∀ d, d <+: p → d ≠ p → ∀ mode, s.dir d = some mode → Grants mode c.searchBit := by
  constructor
  · rintro ⟨⟨g, hg, hread⟩, hsearch⟩
    rw [FileStore.file_store_self, Option.some.injEq] at hg
    exact ⟨hg ▸ hread, hsearch⟩
  · rintro ⟨hread, hsearch⟩
    exact ⟨⟨f, FileStore.file_store_self, hread⟩, hsearch⟩

/-- **When a write is exposed.** In no state of a write is the file readable for a class that
neither could read it before nor is let in by the mode asked for. But a class that could read the
file before reads all the new bytes in some state of every write that completes, whatever the
mode. -/
theorem write_exposure {tr : List (Edge FileStore (Σ q, Io.Answer Coins q))}
    {r : Except CommandError Unit} {bytes : List UInt8} {mode : UInt32} {c : UserClass}
    (h : Enacted (disk crypto sdk umask) (writeWithMode p bytes mode) s tr r s') :
    (∀ e ∈ tr, e.post.Readable c p → Grants mode c.readBit ∨ s.Readable c p) ∧
      (r = .ok () → s.Readable c p →
        ∃ e ∈ tr, e.post.Readable c p ∧ ∃ f, e.post.file p = some f ∧ f.bytes = bytes) := by
  constructor
  · refine (writeWithMode_safe
      (I := fun t => t.Readable c p → Grants mode c.readBit ∨ s.Readable c p)
      (P := fun _ _ => True) (E := fun _ => True) Or.inr ?_ trivial (fun _ => trivial) tr r s' h).1
    rintro f - hmode hreadable
    obtain ⟨hread, hsearch⟩ := readable_store.mp hreadable
    rcases hmode with hopen | hmode
    · rw [hopen, FileStore.openMode] at hread
      split at hread
      · next g hg => exact Or.inr ⟨⟨g, hg, hread⟩, hsearch⟩
      · exact Or.inl hread.of_and
    · exact Or.inl (hmode ▸ hread)
  · rintro rfl ⟨⟨g, hg, hread⟩, hsearch⟩
    -- the state between writing and setting the mode
    obtain ⟨_, s₁, tr₁, rest₁, rfl, hopen, hrest⟩ := enacted_bind_ok h
    obtain ⟨-, rfl, -⟩ := enacted_file_ok hopen
    obtain ⟨_, s₂, tr₂, rest₂, rfl, hwrite, -⟩ := enacted_bind_ok hrest
    obtain ⟨-, rfl, rfl⟩ := enacted_file_ok hwrite
    have hstored : FileOp.apply umask (FileOp.apply umask s (.openFile p mode))
        (.writeAll p bytes) = s.store p ⟨bytes, g.mode⟩ := by
      have hmode : s.openMode umask p mode = g.mode := by rw [FileStore.openMode, hg]
      rw [← hmode]
      exact FileStore.write_store
    refine ⟨_, List.mem_append_right _ (List.mem_append_left _ List.mem_cons_self), ?_⟩
    rw [hstored]
    exact ⟨readable_store.mpr ⟨hread, hsearch⟩, _, FileStore.file_store_self, rfl⟩

end General

/-! ### A sample disk -/

namespace SampleDisk

open SampleCrypto SampleSdk

/-- A Falcon key pair of the right lengths. -/
def drawn : FalconKeypair := ⟨9 :: List.replicate 896 0, List.replicate falconSecretKeyLen 1⟩

theorem length_drawn : drawn.publicKey.length = 897 := congrArg (· + 1) List.length_replicate

theorem secretKeyOk {bytes : List UInt8} (h : bytes.length = falconSecretKeyLen) :
    sdk.falconSecretKeyOk bytes = true := decide_eq_true h

theorem drawn_wellFormed : drawn.WellFormed crypto sdk where
  secretLength := List.length_replicate
  publicLength := length_drawn
  secretOk := secretKeyOk List.length_replicate
  publicOk := (key_ok length_drawn).1

/-- A disk that fails only where it has to. -/
def answer : (q : Io) → FileStore → Io.Answer Unit q × FileStore
  | .readFile p, s =>
    (match s.file p with
      | some f => .ok f.bytes
      | none => .error "No such file or directory", s)
  | .file op, s =>
    if op.Admitted s then (.ok (), op.apply 0o022 s) else (.error "Operation not permitted", s)
  | .fillBytes, s => (ByteVec.zero 32, s)
  | .falconKeypair, s => (drawn, s)
  | .falconCoins, s => ((), s)
  | .post _ _, s => (.error "Connection refused", s)
  | .sleep _, s => ((), s)

theorem answer_step (q : Io) (s : FileStore) :
    (disk crypto sdk 0o022).step s ⟨q, (answer q s).1⟩ (answer q s).2 := by
  cases q with
  | readFile p =>
    simp only [answer]
    split
    · next f hf => exact .read hf
    · exact .unread p _
  | file op =>
    simp only [answer]
    split
    · next h => exact .done h
    · exact .failed _ (.nothing op)
  | fillBytes => exact .fillBytes _
  | falconKeypair => exact .falconKeypair drawn_wellFormed
  | falconCoins => exact .falconCoins ()
  | post url body => exact .post url body _
  | sleep millis => exact .sleep millis

/-- A directory that everyone can search, with an old key file that everyone can read. -/
def careless : FileStore where
  file p := if p = ["keys", "ed25519.sk"] then some ⟨[1], 0o644⟩ else none
  dir p := if p = ["keys"] then some 0o755 else none

/-- A session that succeeds on the sample disk. -/
theorem exists_enacted {α : Type} {x : Session Unit α} {s : FileStore}
    (h : (run answer x s).1.toOption.isSome = true) :
    ∃ tr a, Enacted (disk crypto sdk 0o022) x s tr (.ok a) (run answer x s).2 := by
  obtain ⟨tr, henacted⟩ := enacted_run answer_step x s
  cases hrun : (run answer x s).1 with
  | ok a =>
    rw [hrun] at henacted
    exact ⟨tr, a, henacted⟩
  | error e =>
    rw [hrun] at h
    cases h

/-- The disk after a key generation over the old file. -/
@[irreducible] def keyed : FileStore :=
  (run answer (keygen crypto Hex.standard sdk ["keys"]) careless).2

theorem exists_keygen : ∃ tr report,
    Enacted (disk crypto sdk 0o022) (keygen crypto Hex.standard sdk ["keys"]) careless tr
      (.ok report) keyed := by
  unfold keyed
  exact exists_enacted (by decide +kernel)

/-- Everyone can read the old file. -/
theorem careless_readable : careless.Readable .others ["keys", "ed25519.sk"] := by
  refine ⟨⟨_, rfl, by decide⟩, ?_⟩
  intro d _ _ mode hmode
  simp only [careless] at hmode
  split at hmode
  · cases hmode
    decide
  · cases hmode

end SampleDisk

open SampleDisk SampleCrypto SampleSdk

theorem write_exposure_careless :
    ∃ e : Edge FileStore (Σ q, Io.Answer Unit q), e.post.Readable .others ["keys", "ed25519.sk"] ∧
      ∃ f, e.post.file ["keys", "ed25519.sk"] = some f ∧ f.bytes = [7] := by
  obtain ⟨tr, _, h⟩ := exists_enacted (s := careless) (x := writeWithMode ["keys", "ed25519.sk"] [7]
    secretMode) (by decide +kernel)
  obtain ⟨e, -, hreadable, hbytes⟩ := (write_exposure h).2 rfl careless_readable
  exact ⟨e, hreadable, hbytes⟩

end DualKey
