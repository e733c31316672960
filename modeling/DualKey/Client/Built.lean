import DualKey.Client.Cli

/-!
# What a command has built

A command that succeeds has built its instructions from what it read. Here its paths are read
backwards: the addresses are the ones its flags spell, the keys the ones in its key directories,
and the Falcon signature one of the digest of the intent.
-/

namespace DualKey

open Dialogue Session Client
open Hex (Codec)

variable {Coins : Type}

/-! ### Keys and signatures -/

/-- Every read of the file that succeeded returned these bytes. -/
def Reads (log : Log (Io.Answer Coins)) (path : PathBuf) (bytes : List UInt8) : Prop :=
  ∀ got, (⟨Io.readFile path, (.ok got : Except String (List UInt8))⟩ : Σ q, Io.Answer Coins q) ∈
    log → got = bytes

/-- The Ed25519 key file of the directory held this key pair. -/
def HoldsEd25519 (log : Log (Io.Answer Coins)) (dir : PathBuf) (ed : Ed25519Keypair) : Prop :=
  Reads log (KeyPaths.ed25519Sk ⟨dir⟩) ed.signing.toList

/-- The Falcon key files of the directory held this key pair. -/
structure HoldsFalcon (log : Log (Io.Answer Coins)) (dir : PathBuf) (falcon : FalconKeypair) :
    Prop where
  secretKey : Reads log (KeyPaths.falconSk ⟨dir⟩) falcon.secretKey
  publicKey : Reads log (KeyPaths.falconPk ⟨dir⟩) falcon.publicKey

/-- The public key files of the directory held these keys. -/
structure HoldsPublic (log : Log (Io.Answer Coins)) (dir : PathBuf) (owner : Pubkey)
    (wireKey : List UInt8) : Prop where
  ed25519 : Reads log (KeyPaths.ed25519Pk ⟨dir⟩) owner.toList
  falcon : Reads log (KeyPaths.falconPk ⟨dir⟩) wireKey

variable {P : Platform} {crypto : Crypto Coins} {hex : Codec} {sdk : Sdk}

/-- A Falcon signature of the key pair over the digest, padded for the wire. -/
def FalconKeypair.Signed (crypto : Crypto Coins) (falcon : FalconKeypair) (digest : Digest)
    (sig : List UInt8) : Prop :=
  ∃ coins wire, WireSignature.fromEncodedBytes
      (crypto.falcon.detachedSign coins digest.toList falcon.secretKey) = .ok wire ∧
    wire.asWireBytes.toList = sig

/-! ### Reading a path backwards -/

/-- Somewhere in the log the session has gone through with this result. -/
def Succeeds {α : Type} (log : Log (Io.Answer Coins)) (x : Session Coins α) (a : α) : Prop :=
  ∃ part, part ⊆ log ∧ Path x part (.ok a)

section Succeeds

variable {α β : Type} {log : Log (Io.Answer Coins)} {dir : PathBuf} {ed : Ed25519Keypair}
  {falcon : FalconKeypair} {x : Session Coins α} {f : α → Session Coins β} {b : β}

theorem Succeeds.of_path (h : Path x log (.ok a)) : Succeeds log x a := ⟨log, fun _ h => h, h⟩

/-- Both parts of a sequence have gone through. -/
theorem Succeeds.bind (h : Succeeds log (x >>= f) b) :
    ∃ a, Succeeds log x a ∧ Succeeds log (f a) b := by
  obtain ⟨part, hpart, hpath⟩ := h
  obtain ⟨a, before, after, rfl, hx, hf⟩ := path_bind_ok.mp hpath
  obtain ⟨hbefore, hafter⟩ := List.append_subset.mp hpart
  exact ⟨a, ⟨before, hbefore, hx⟩, after, hafter, hf⟩

/-- The first part does not matter. -/
theorem Succeeds.skip (h : Succeeds log (x >>= f) b) : ∃ a, Succeeds log (f a) b := by
  obtain ⟨a, -, hf⟩ := h.bind
  exact ⟨a, hf⟩

theorem Succeeds.pure {b' : β} (h : Succeeds log (Pure.pure b' : Session Coins β) b) : b' = b := by
  obtain ⟨_, -, hpath⟩ := h
  exact Except.ok.inj (path_pure.mp hpath).2

/-- An operation without questions. -/
theorem Succeeds.client {y : ClientRes α} (h : Succeeds log (Session.client y >>= f) b) :
    ∃ a, y = .ok a ∧ Succeeds log (f a) b := by
  obtain ⟨a, ⟨_, -, hpath⟩, hf⟩ := h.bind
  exact ⟨a, (path_client.mp hpath).2, hf⟩

/-- The flag spells this address. -/
theorem Succeeds.parse {field value : String} {key : Pubkey} {f : Pubkey → Session Coins β}
    (hkey : sdk.parsePubkey value = some key)
    (h : Succeeds log (parsePubkey sdk field value >>= f) b) : Succeeds log (f key) b := by
  obtain ⟨key', ⟨_, -, hpath⟩, hf⟩ := h.bind
  obtain rfl := Option.some.inj (hkey.symm.trans (path_okOr.mp hpath).2)
  exact hf

theorem Succeeds.readExactLen {path : PathBuf} {expected : ℕ} {bytes : List UInt8}
    {f : List UInt8 → Session Coins β} (hread : Reads log path bytes)
    (h : Succeeds log (DualKey.readExactLen path expected >>= f) b) : Succeeds log (f bytes) b := by
  obtain ⟨got, ⟨part, hpart, hpath⟩, hf⟩ := h.bind
  simp only [DualKey.readExactLen, path_bind_ok, path_readFile, path_failIf, path_pure,
    Except.ok.injEq] at hpath
  obtain ⟨_, _, _, rfl, rfl, _, _, _, rfl, ⟨rfl, -⟩, rfl, rfl⟩ := hpath
  have hgot := hread _ (hpart (List.mem_singleton_self _))
  exact hgot ▸ hf

/-- The key pair that was loaded is the one in the file. -/
theorem HoldsEd25519.load {f : Ed25519Keypair → Session Coins β} (hkey : HoldsEd25519 log dir ed)
    (h : Succeeds log (Ed25519Keypair.load ⟨dir⟩ >>= f) b) : Succeeds log (f ed) b := by
  obtain ⟨ed', hload, hf⟩ := h.bind
  have hseed := Succeeds.readExactLen hkey hload
  rw [Ed25519Keypair.fromSeed, dif_pos ed.signing.toList_length] at hseed
  obtain rfl : ed = ed' := hseed.pure
  exact hf

theorem HoldsFalcon.load {f : FalconKeypair → Session Coins β}
    (hkey : HoldsFalcon log dir falcon)
    (h : Succeeds log (FalconKeypair.load crypto sdk ⟨dir⟩ >>= f) b) :
    Succeeds log (f falcon) b := by
  obtain ⟨falcon', hload, hf⟩ := h.bind
  have hpublic := Succeeds.readExactLen hkey.publicKey
    (Succeeds.readExactLen hkey.secretKey hload)
  -- the two checks that follow return nothing
  obtain ⟨_, hchecked⟩ := hpublic.skip
  obtain ⟨_, hchecked⟩ := hchecked.skip
  obtain rfl : falcon = falcon' := hchecked.pure
  exact hf

theorem HoldsPublic.load {owner : Pubkey} {wireKey : List UInt8} {f : PublicKeys → Session Coins β}
    (hkeys : HoldsPublic log dir owner wireKey)
    (h : Succeeds log (PublicKeys.load ⟨dir⟩ >>= f) b) :
    Succeeds log (f ⟨owner, wireKey⟩) b := by
  obtain ⟨keys, hload, hf⟩ := h.bind
  have hboth := Succeeds.readExactLen hkeys.falcon (Succeeds.readExactLen hkeys.ed25519 hload)
  rw [dif_pos owner.toList_length] at hboth
  obtain rfl : (⟨owner, wireKey⟩ : PublicKeys) = keys := hboth.pure
  exact hf

theorem Succeeds.signFalcon {digest : Digest} {f : List UInt8 → Session Coins β}
    (h : Succeeds log (DualKey.signFalcon crypto falcon digest >>= f) b) :
    ∃ sig, falcon.Signed crypto digest sig ∧ Succeeds log (f sig) b := by
  obtain ⟨sig, ⟨part, -, hpath⟩, hf⟩ := h.bind
  simp only [DualKey.signFalcon, path_bind_ok, path_client, path_pure, Except.ok.injEq,
    Prod.exists, FalconCrates.signToWire_eq_ok] at hpath
  obtain ⟨coins, _, _, -, -, _, wire, _, _, -, ⟨-, rfl, hwire⟩, -, hsig⟩ := hpath
  exact ⟨sig, ⟨coins, wire, hwire, hsig⟩, hf⟩

end Succeeds

/-! ### The instructions of a command -/

/-- The command has built an instruction that carries the intent and a Falcon signature of its
digest, behind the given instructions. -/
structure BuiltFrom (crypto : Crypto Coins) (falcon : FalconKeypair) (intent : AuthorizationIntent)
    (buildIx : List UInt8 → ClientRes Instruction) (before : List Instruction) (built : Built) :
    Prop where
  nonce : built.nonce = some intent.nonce
  signed : ∃ sig ix, falcon.Signed crypto (canonicalDigest crypto intent) sig ∧
    buildIx sig = .ok ix ∧ built.instructions = before ++ [ix]

section Commands

variable {log : Log (Io.Answer Coins)} {ed guardian : Ed25519Keypair}
  {falcon newFalcon : FalconKeypair} {params : LifecycleParams} {built : Built}
  {programId hybridAccount key : Pubkey}
  (hprogram : sdk.parsePubkey params.programId = some programId)
  (hvault : sdk.parsePubkey params.hybridAccount = some hybridAccount)
  (hed : HoldsEd25519 log params.keysDir ed) (hfalcon : HoldsFalcon log params.keysDir falcon)

include hprogram hvault

end Commands

/-! ### Transfers -/

theorem path_transfer {log : Log (Io.Answer Coins)} {ed : Ed25519Keypair} {falcon : FalconKeypair}
    {params : TransferParams} {built : Built} {programId hybridAccount recipient : Pubkey}
    (hprogram : sdk.parsePubkey params.programId = some programId)
    (hvault : sdk.parsePubkey params.hybridAccount = some hybridAccount)
    (hrecipient : sdk.parsePubkey params.recipient = some recipient)
    (hed : HoldsEd25519 log params.keysDir ed) (hfalcon : HoldsFalcon log params.keysDir falcon)
    (h : Path (transfer crypto hex sdk params) log (.ok built)) :
    ∃ nonce,
      let intent := signingIntent programId hybridAccount nonce params.expirySlot
        (.transferSol recipient params.lamports)
      BuiltFrom crypto falcon intent (executeInstruction programId hybridAccount intent)
        [ed25519PrecompileInstruction crypto sdk ed (canonicalDigest crypto intent)] built := by
  have hkeys := hed.load
    ((Succeeds.of_path h).parse hprogram |>.parse hvault |>.parse hrecipient)
  obtain ⟨nonce, hrest⟩ := (hfalcon.load hkeys).skip
  obtain ⟨sig, hsigned, hrest⟩ := hrest.signFalcon
  obtain ⟨ix, hix, hrest⟩ := hrest.client
  obtain ⟨_, hrest⟩ := hrest.skip
  obtain ⟨_, hrest⟩ := hrest.skip
  obtain rfl := hrest.pure
  exact ⟨nonce, rfl, sig, ix, hsigned, hix, rfl⟩

/-! ### The guardian's commands -/

section Guardian

variable {log : Log (Io.Answer Coins)} {guardian : Ed25519Keypair} {built : Built}
  {programId hybridAccount key : Pubkey}

end Guardian

end DualKey
