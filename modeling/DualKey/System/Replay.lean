import DualKey.System.Authority
import DualKey.System.Record

/-!
# Replaying submissions

A run can be computed: `submit` runs the processor on one invocation and rolls back when
it fails, and `replay` submits a list of them. Under the runtime's one promise, that the
precompiles of every transaction were accepted, a replay is a run of the chain
(`run_replay`), so statements about runs can be tried on given transactions.

The second half of the file is a small deployment to replay on. Its keys, addresses,
digests and signatures are the values the real schemes and the real address derivation
give for the transactions listed there; the functions of its platform are tables of them.
-/

namespace DualKey

open Transition

section Replay

variable (P : Platform) (m : Machine)

/-- Submit an invocation: it runs, or it fails and is rolled back. -/
def submit (inv : Invocation) : Edge Machine Label :=
  match Processor.process P inv.accounts inv.data inv.enter m.begin with
  | .ok (_, m') => ⟨m, .executed inv, m'⟩
  | .error _ => ⟨m, .rejected inv, m.begin⟩

/-- Submit one invocation after the other. -/
def replay : Machine → List Invocation → List (Edge Machine Label)
  | _, [] => []
  | m, inv :: invs => submit P m inv :: replay (submit P m inv).post invs

/-- The state after a replay. -/
def replayed : Machine → List Invocation → Machine
  | m, [] => m
  | m, inv :: invs => replayed (submit P m inv).post invs

end Replay

variable {P : Platform} {m : Machine}

theorem submit_eq {inv : Invocation} :
    submit P m inv = ⟨m, (submit P m inv).label, (submit P m inv).post⟩ := by
  unfold submit
  split <;> rfl

@[simp]
theorem submit_pre {inv : Invocation} : (submit P m inv).pre = m := by
  rw [submit_eq]

/-- A submission is executed or rejected. -/
theorem submit_label {inv : Invocation} :
    (submit P m inv).label = .executed inv ∨ (submit P m inv).label = .rejected inv := by
  unfold submit
  split
  · exact Or.inl rfl
  · exact Or.inr rfl

/-- A submission is a step of the chain. -/
theorem submit_step (m : Machine) {inv : Invocation} (hruntime : inv.PrecompilesAccepted P) :
    Step P m (submit P m inv).label (submit P m inv).post := by
  unfold submit
  split
  · next u m' h => exact .executed hruntime h
  · next fault h =>
    refine .rejected ?_
    intro m' hok
    rw [h] at hok
    cases hok

/-- A submission that calls an instruction has executed. -/
theorem submit_executed {inv : Invocation} {c : DualKeyInstruction × Pubkey}
    (h : (submit P m inv).label.call = some c) :
    (submit P m inv).label = .executed inv ∧ inv.call = some c := by
  unfold submit at h ⊢
  split at h
  · exact ⟨rfl, h⟩
  · cases h

/-- **A replay is a run.** -/
theorem run_replay (m : Machine) {invs : List Invocation}
    (h : ∀ inv ∈ invs, inv.PrecompilesAccepted P) :
    Run (chain P) m (replay P m invs) (replayed P m invs) := by
  induction invs generalizing m with
  | nil => exact .nil m
  | cons inv invs ih =>
    have hstep : Step P m (submit P m inv).label (submit P m inv).post :=
      submit_step m (h inv List.mem_cons_self)
    have htail := ih (submit P m inv).post fun inv' h' => h inv' (List.mem_cons_of_mem _ h')
    rw [replay, replayed, submit_eq]
    exact .cons hstep htail

/-- A replay that ends with one more submission. -/
theorem run_replay_submit (m : Machine) {invs : List Invocation} {inv : Invocation}
    (h : ∀ inv ∈ invs, inv.PrecompilesAccepted P) (hlast : inv.PrecompilesAccepted P) :
    Run (chain P) m (replay P m invs ++ [submit P (replayed P m invs) inv])
      (submit P (replayed P m invs) inv).post := by
  have hsingle := Run.single (T := chain P) (submit_step (replayed P m invs) hlast)
  rw [← submit_eq] at hsingle
  exact (run_replay m h).append hsingle

/-- Each step of a replay executes or rejects one of its invocations. -/
theorem replay_label {invs : List Invocation} {e : Edge Machine Label}
    (h : e ∈ replay P m invs) :
    ∃ inv ∈ invs, e.label = .executed inv ∨ e.label = .rejected inv := by
  induction invs generalizing m with
  | nil => exact absurd h List.not_mem_nil
  | cons inv invs ih =>
    rcases List.mem_cons.mp h with rfl | h
    · exact ⟨inv, List.mem_cons_self, submit_label⟩
    · obtain ⟨inv', hinv', hlabel⟩ := ih h
      exact ⟨inv', List.mem_cons_of_mem _ hinv', hlabel⟩

/-- A replay from the deployment of the program ends in a reachable state. -/
theorem reachable_replayed {invs : List Invocation} (hinit : Genesis P m)
    (h : ∀ inv ∈ invs, inv.PrecompilesAccepted P) : Reachable (chain P) (replayed P m invs) :=
  ⟨m, _, hinit, run_replay m h⟩

/-- Policy and recovery flag of a vault, read off its record. -/
theorem exists_vaultAt_of_settings {v : Pubkey} {policy : AuthorizationPolicy} {recovery : Bool}
    (h : (recordOf P m v).map (fun r => (r.policy, r.recovery)) = some (policy, recovery)) :
    ∃ a, VaultAt P m v a ∧ AuthorizationPolicy.fromU8 a.fields.policy = some policy ∧
      a.fields.recovery = recovery := by
  obtain ⟨r, hr, hsettings⟩ := Option.map_eq_some_iff.mp h
  obtain ⟨a, policy', hv, hpolicy, rfl⟩ := exists_vaultAt_of_recordOf hr
  obtain ⟨rfl, rfl⟩ := Prod.mk.inj hsettings
  exact ⟨a, hv, hpolicy, rfl⟩

/-- Another program replaces an account of its own, or hands a zeroed one over. -/
theorem Step.environment_set {k : Pubkey} {a : Account} (hk : m.owner k ≠ P.programId)
    (hpda : ¬ P.IsPda k) (ha : a.owner = P.programId → ∀ b ∈ a.data, b = 0) :
    Step P m .environment (m.set k a).begin := by
  refine .environment ?_ rfl
  intro k'
  by_cases hk' : k' = k
  · subst hk'
    have hset : (m.set k' a).begin.accounts k' = a := Function.update_self _ _ _
    rw [hset]
    exact
      { ours := fun howner _ => absurd howner hk
        derived := fun h _ => absurd h hpda
        handed := fun howner => Or.inr (ha howner) }
  · have hset : (m.set k a).begin.accounts k' = m.accounts k' := Function.update_of_ne hk' _ _
    rw [hset]
    exact
      { ours := fun howner _ => ⟨howner, rfl, UInt64.le_refl _⟩
        derived := fun _ _ => ⟨rfl, rfl, UInt64.le_refl _⟩
        handed := fun howner => Or.inl ⟨howner, rfl⟩ }

/-! ### A deployment -/

namespace Sample

/-- The bytes of a big-endian number. -/
def ofHex (n x : ℕ) : ByteVec n :=
  ⟨(leBytes n x).reverse, by rw [List.length_reverse, length_leBytes]⟩

def programId : Pubkey := ⟨List.replicate 32 7, rfl⟩

/-! The Ed25519 keys of the seeds that repeat the byte 4, 1, 2 and 3. -/

def creator : Pubkey := ofHex 32 0xca93ac1705187071d67b83c7ff0efe8108e8ec4530575d7726879333dbdabe7c
def owner : Pubkey := ofHex 32 0x8a88e3dd7409f195fd52db2d3cba5d72ca6709bf1d94121bf3748801b40f6f5c
def guardian : Pubkey :=
  ofHex 32 0x8139770ea87d175f56a35466c34c7ecccb8d8a91b4ee37a25df60f5b8fc9b394
def successor : Pubkey :=
  ofHex 32 0xed4928c628d1c2c6eae90338905995612959273a5c63f93636c14614ac8737d1

/-! The vaults of the creator with index 0, 1 and 2, and the recovery config of the first. -/

def ed25519Vault : Pubkey :=
  ofHex 32 0xca534e754efd9999a57db60baf5812e8008a4afe6003fa2cc471f53c590561ac
def hybridVault : Pubkey :=
  ofHex 32 0xf9135841825d369f468d10ebc7d5959d39726b9755a5376b90afbd0e6aa865d5
def privilegedVault : Pubkey :=
  ofHex 32 0x3f50dae7b99380fceed1f9ea9517d0815355105f7e95a85dc1c8627e7438d6bb
def recoveryConfig : Pubkey :=
  ofHex 32 0x834838b91a6d5630e7deb0d059b344b5b90e2dc2a24b4b037c1b38b73c4d06b6

/-- A derived address: its seeds, the address and the bump. -/
structure Derived where
  seeds : List (List UInt8)
  address : Pubkey
  bump : UInt8

def derived : List Derived :=
  [⟨pdaSeeds creator (u32ToLe 0), ed25519Vault, 255⟩,
    ⟨pdaSeeds creator (u32ToLe 1), hybridVault, 254⟩,
    ⟨pdaSeeds creator (u32ToLe 2), privilegedVault, 255⟩,
    ⟨recoveryPdaSeeds ed25519Vault, recoveryConfig, 255⟩]

/-- The Falcon wire key of the zero polynomial. -/
def falconKey : List UInt8 := 9 :: List.replicate 896 0

def falconKeyHash : Digest :=
  ofHex 32 0x06fe612ba011845e2d57d88dc774680a782bbac566f94c41a1d936a476668e45

/-! ### Signed messages -/

/-- A preimage with its digest, and a signature over the digest. -/
structure SignedMessage where
  signer : Pubkey
  preimage : List UInt8
  digest : Digest
  signature : ByteVec 64

/-- An intent of the owner, valid up to slot 1000. -/
def intent (account : Pubkey) (nonce : UInt64) (action : Action) : AuthorizationIntent where
  version := intentVersion
  chainDomain := Cluster.localnet.chainDomain
  programId := programId
  account := account
  nonce := nonce
  expirySlot := 1000
  action := action

/-- A signed intent: digest and the two halves of the signature. -/
def signedIntent (i : AuthorizationIntent) (digest r s : ℕ) : SignedMessage where
  signer := owner
  preimage := (canonicalPreimage i).toList
  digest := ofHex 32 digest
  signature := ofHex 64 (r * 2 ^ 256 + s)

def setConfigIntent : AuthorizationIntent := intent ed25519Vault 0 (.setRecoveryConfig guardian 10)
def enableIntent : AuthorizationIntent :=
  intent ed25519Vault 1 (.recoverAccount .enable (ByteVec.zero 32))
def disableIntent : AuthorizationIntent :=
  intent ed25519Vault 2 (.recoverAccount .disable (ByteVec.zero 32))
def enableAgainIntent : AuthorizationIntent :=
  intent ed25519Vault 3 (.recoverAccount .enable (ByteVec.zero 32))
def destination : Pubkey := ⟨List.replicate 32 38, rfl⟩
def tokenIntent : AuthorizationIntent := intent ed25519Vault 0 (.transferSpl destination 100)
def hybridIntent : AuthorizationIntent := intent hybridVault 0 (.transferSol creator 1000000)
def privilegedIntent : AuthorizationIntent :=
  intent privilegedVault 0 (.transferSol creator 1000000)
def rotateToZeroIntent : AuthorizationIntent :=
  intent ed25519Vault 0 (.rotateEd25519Key (ByteVec.zero 32))
def rotateIntent : AuthorizationIntent := intent ed25519Vault 2 (.rotateEd25519Key successor)
def cancelIntent : AuthorizationIntent := intent ed25519Vault 2 .cancelSocialRecovery

def signedSetConfig : SignedMessage := signedIntent setConfigIntent
  0x897744dd66306a85a8ae7ada922dfa03bf4b7487d4424a0545168e39a6225681
  0x9e976b7b1c573ace8baa5fc6efe94f11d0988598ef8dfcb24c6de3100c0e15a9
  0x51b5db156da2b42bb19d0f25ae1a298e671ddacf7dd8f2705d31153e23bd5a03

def signedEnable : SignedMessage := signedIntent enableIntent
  0x084d4990526cc6fea12574154d1849fc6a9efe4ad6b39b1a7ebffdc7f130477b
  0x3a83f91fd3b43defcec751a585bd9b6e634c3e2e1e8476cc6d3ee095e34c0dcb
  0x9f9d45cedeb89d54f022b2b247ad6c49c4df74376af0ac5bd184ae994448b00d

def signedDisable : SignedMessage := signedIntent disableIntent
  0xe56b1c90019a38f65cd925a0fea936b20bdfaf1eb1a4352dfda9046b90e51268
  0x822018cee810b641ed02970aa26299a8c072bf7b24fed9dac67a6e71b3f0bf33
  0x736be9effd9987b7026cab10a1a9a01e3a36d9c298a64f3ef0d345146acded06

def signedEnableAgain : SignedMessage := signedIntent enableAgainIntent
  0x181dad766f10d11cc0093b28b0f382f5138fd0b543daf44680b8cee1d80993f5
  0x38172eac9d0f7d712d136d5eb12b31913d188cb807938cc95b04ea56a925feec
  0xa8ecdde41f113be51e6360488ba948dee919ebb33497dcc8452b871ea7a7950f

def signedTokenTransfer : SignedMessage := signedIntent tokenIntent
  0x1a052c1b5ec35e0b6c2784d1e06e48d5bc79e1e370892cd6c940c92cbef7ae03
  0xdad0551ba01ab99a5c1a5ded5d4a4130d5ce5d3413c10c1a84e49121760f8749
  0xbb337ec0f6bde91349ac1edd06c9ae15482d465caa5fac95593e27616af4620f

def signedHybridTransfer : SignedMessage := signedIntent hybridIntent
  0x2481fa77879086563de8a39aa22a1331b28fa6cb41a5672641027ac10f447c4d
  0x5b20cd30ef6bd2984322f22cb676e23f330d19b01c4e4b1f25a7dfbbadf9851a
  0xa2c37b9e319eeffeba61f848c158890700d107b970bf3f6379c84240c253cd0b

def signedPrivilegedTransfer : SignedMessage := signedIntent privilegedIntent
  0x6eb8be274fa67c01e6ca699ef329139244e706802212a5d5798d53461307f457
  0x139154b3cf76d010773f5bad3c17b212eb7060cd0ea77b9a3010fc52acf511ff
  0x9d556adfd06405e6979a393c93f60d97ef11686e6b68dd8b811cc49d99bf460e

def signedRotateToZero : SignedMessage := signedIntent rotateToZeroIntent
  0x631d2b9fc64b1ecb310d1c3a8bca846960e7c2662ef274787eee375e6f38e58f
  0x31b51220796e171a99d5e642e3b9f57eaeed3a3f6a883ae014fd6be4dee020e8
  0x8f1996db97c9c02bcc56f479c67283b5e7bd87677e50758a660b38141192390d

def signedRotate : SignedMessage := signedIntent rotateIntent
  0xce37cbc7267b3d974281dbcd0768a752b30dab4715ed6140169c72b76fa3e8fa
  0x94800a7f52d0269d0e558559149a1b0d14d278cd9eacd37da8c21f66d1f9d848
  0x4b21d513e53bb6b3ce02d0c451976b9cc8f194c38d8e340fd9e28d4c3cca8d06

def signedCancel : SignedMessage := signedIntent cancelIntent
  0xf5949fd79d152be13ee5d037cd4ad416026d413a9aaa49dfa77dc3dfed11a869
  0xf37ab5bfc885e098952085508c10fb08ccf50ef125187dec95697978009dd612
  0x92cdff3b05cb993bff27e49daf7cc2b79866fdcceb96cfd974388e842b432b0c

/-- The guardian's signature over the proposal of the successor at nonce 2. -/
def signedProposal : SignedMessage where
  signer := guardian
  preimage :=
    (socialRecoverPreimage Cluster.localnet.chainDomain programId ed25519Vault successor 2).toList
  digest := ofHex 32 0xa736304dac972e182b12930653495860a8794abb58d8f04cddc4437c01fb0602
  signature := ofHex 64
    (0x5b11969cf578a56697bf74b227d4bd8533d2a2365ce4c6d20424f4d18a6b96f2 * 2 ^ 256 +
      0x3dd3e60916780ee020b822db1e4952d10dfd88192795298514b492481fc71303)

def signedMessages : List SignedMessage :=
  [signedSetConfig, signedEnable, signedProposal, signedDisable, signedEnableAgain,
    signedTokenTransfer, signedHybridTransfer, signedPrivilegedTransfer, signedRotateToZero,
    signedRotate, signedCancel]

/-! ### The platform -/

def sha256 (bytes : List UInt8) : Digest :=
  if bytes = falconKey then falconKeyHash
  else ((signedMessages.find? fun s => decide (s.preimage = bytes)).map
    SignedMessage.digest).getD (ByteVec.zero 32)

def ed25519Verify (key : Pubkey) (message : List UInt8) (signature : ByteVec 64) : Bool :=
  signedMessages.any fun s =>
    decide (s.signer = key) && decide (s.digest.toList = message) &&
      decide (s.signature = signature)

/-- `TransferChecked` on accounts without extensions: mint, authority and decimals must be
those of the accounts, and the amount moves. -/
def transferChecked (ix : Instruction) (source mint destination : Account) :
    Option (TokenState × TokenState) := do
  let [_, mintMeta, _, authority] := ix.accounts | none
  let amount := Buffer.readVec 8 ix.data 1
  guard (ix.data.length = 10 ∧ Buffer.byteAt ix.data 0 = 12)
  guard (Buffer.read source.data 0 32 = mintMeta.pubkey.toList)
  guard (Buffer.read destination.data 0 32 = mintMeta.pubkey.toList)
  guard (Buffer.read source.data 32 32 = authority.pubkey.toList)
  guard (Buffer.byteAt ix.data 9 = Buffer.byteAt mint.data 44)
  let rest ← checkedSub (u64FromLe (Buffer.readVec 8 source.data 64)) (u64FromLe amount)
  let total ← checkedAdd (u64FromLe (Buffer.readVec 8 destination.data 64)) (u64FromLe amount)
  some (⟨source.lamports, Buffer.writeVec source.data 64 (u64ToLe rest)⟩,
    ⟨destination.lamports, Buffer.writeVec destination.data 64 (u64ToLe total)⟩)

/-- The tables of derived addresses agree with each other. -/
theorem createdFrom_derived :
    ∀ d ∈ derived, (derived.find? fun d' => decide (d'.seeds ++ [[d'.bump]] =
      d.seeds ++ [[d.bump]])).map Derived.address = some d.address := by
  decide +kernel

def platform : Platform where
  programId := programId
  cluster := .localnet
  sha256 := sha256
  tryFindProgramAddress seeds _ :=
    (derived.find? fun d => decide (d.seeds = seeds)).map fun d => (d.address, d.bump)
  createProgramAddress seeds _ :=
    (derived.find? fun d => decide (d.seeds ++ [[d.bump]] = seeds)).map Derived.address
  find_spec := by
    intro seeds address bump h
    obtain ⟨d, hfind, hd⟩ := Option.map_eq_some_iff.mp h
    have hmem : d ∈ derived := List.mem_of_find?_eq_some hfind
    have hseeds : d.seeds = seeds := by
      simpa only [decide_eq_true_eq] using List.find?_some hfind
    obtain ⟨haddress, hbump⟩ := Prod.mk.inj hd
    rw [← hseeds, ← haddress, ← hbump]
    exact createdFrom_derived d hmem
  falconPreparedOk _ := true
  falconPubkeyOk key := decide (key = falconKey)
  -- no Falcon signature is ever submitted: the field is 666 zeros, which do not parse
  falconSignatureOk _ := false
  falconVerifyWithPrepared _ _ _ := false
  falconVerify _ _ _ := false
  tryPreparePubkey key :=
    if key = falconKey then some (ByteVec.zero preparedFalconPubkeyLen) else none
  ed25519Verify := ed25519Verify
  transferChecked := transferChecked
  transferChecked_lamports := by
    intro ix source mint destination source' destination' h
    unfold transferChecked at h
    split at h
    · simp only [Option.bind_eq_bind, Option.bind_eq_some_iff, Option.some.injEq,
        Prod.mk.injEq] at h
      obtain ⟨-, -, -, -, -, -, -, -, -, -, rest, -, total, -, rfl, rfl⟩ := h
      rfl
    · cases h
  programId_ne_system := by decide
  programId_ne_token := by decide

/-- The rent schedule of the clusters: 6960 lamports a byte, 128 bytes of overhead. -/
def rent : Rent where
  minimumBalance n := UInt64.ofNat (min ((n + 128) * 6960) (2 ^ 64 - 1))

theorem rent_pos (n : ℕ) : 0 < rent.minimumBalance n := by
  have hlt : min ((n + 128) * 6960) (2 ^ 64 - 1) < UInt64.size := by
    show _ < 2 ^ 64
    omega
  rw [rent, UInt64.lt_iff_toNat_lt, UInt64.toNat_ofNat_of_lt' hlt, UInt64.toNat_zero]
  omega

/-! ### The accounts before the deployment -/

def mintA : Pubkey := ⟨List.replicate 32 33, rfl⟩
def mintB : Pubkey := ⟨List.replicate 32 34, rfl⟩
def firstSourceA : Pubkey := ⟨List.replicate 32 35, rfl⟩
def secondSourceA : Pubkey := ⟨List.replicate 32 36, rfl⟩
def sourceB : Pubkey := ⟨List.replicate 32 37, rfl⟩

/-- A mint of six decimals. -/
def mintAccount : Account where
  lamports := 1461600
  owner := tokenProgramId
  data := List.replicate 44 0 ++ [6, 1] ++ List.replicate 36 0

/-- A token account: mint, owner, amount, no delegate, initialized. -/
def tokenAccount (mint owner : Pubkey) (amount : UInt64) : Account where
  lamports := 2039280
  owner := tokenProgramId
  data := mint.toList ++ owner.toList ++ (u64ToLe amount).toList ++ List.replicate 36 0 ++ [1] ++
    List.replicate 56 0

def funded : List (Pubkey × Account) :=
  [(creator, ⟨1000000000, systemProgramId, []⟩),
    (privilegedVault, ⟨10000000, systemProgramId, []⟩),
    (mintA, mintAccount), (mintB, mintAccount),
    (firstSourceA, tokenAccount mintA ed25519Vault 500),
    (secondSourceA, tokenAccount mintA ed25519Vault 300),
    (sourceB, tokenAccount mintB ed25519Vault 900),
    (destination, tokenAccount mintA guardian 0)]

def genesis : Machine where
  accounts k := ((funded.find? fun entry => decide (entry.1 = k)).map Prod.snd).getD
    ⟨0, systemProgramId, []⟩
  cpis := []

theorem genesis_init : Genesis platform genesis := by
  have hours : ∀ entry ∈ funded, entry.2.owner ≠ programId := by decide +kernel
  have hderived : ∀ d ∈ derived, genesis.owner d.address = systemProgramId ∧
      genesis.data d.address = [] := by
    decide +kernel
  constructor
  · intro k
    show (((funded.find? fun entry => decide (entry.1 = k)).map Prod.snd).getD
      ⟨0, systemProgramId, []⟩).owner ≠ programId
    cases hfind : funded.find? fun entry => decide (entry.1 = k) with
    | none => exact platform.programId_ne_system.symm
    | some entry => exact hours entry (List.mem_of_find?_eq_some hfind)
  · intro k hpda
    obtain ⟨seeds, hcreate⟩ := hpda
    obtain ⟨d, hfind, rfl⟩ := Option.map_eq_some_iff.mp hcreate
    exact hderived d (List.mem_of_find?_eq_some hfind)

/-- Only the tabulated addresses are derived. -/
theorem not_isPda {k : Pubkey} (h : ∀ d ∈ derived, d.address ≠ k) : ¬ platform.IsPda k := by
  rintro ⟨seeds, hcreate⟩
  obtain ⟨d, hfind, hd⟩ := Option.map_eq_some_iff.mp hcreate
  exact h d (List.mem_of_find?_eq_some hfind) hd

/-- No other vault has the recovery address of the first vault. -/
theorem own_recovery_address : OwnRecoveryAddress platform ed25519Vault := by
  intro w k bump bump' _ hw
  obtain ⟨d, hfind, -⟩ := Option.map_eq_some_iff.mp hw
  have hmem : d ∈ derived := List.mem_of_find?_eq_some hfind
  have hseeds : d.seeds = recoveryPdaSeeds w := by
    simpa only [decide_eq_true_eq] using List.find?_some hfind
  -- the only seeds of two slices are those of the first vault's config
  have htable : ∀ d ∈ derived, d.seeds.length = 2 → d.seeds = recoveryPdaSeeds ed25519Vault := by
    decide +kernel
  have hlen : d.seeds.length = 2 := by
    rw [hseeds]
    rfl
  have hsame : recoveryPdaSeeds w = recoveryPdaSeeds ed25519Vault :=
    hseeds.symm.trans (htable d hmem hlen)
  obtain ⟨-, hkey⟩ := List.cons.inj hsame
  exact Subtype.ext (List.cons.inj hkey).1

/-! ### Transactions -/

def signerInfo (key : Pubkey) : AccountInfo := ⟨key, true, true⟩
def writableInfo (key : Pubkey) : AccountInfo := ⟨key, false, true⟩
def readonlyInfo (key : Pubkey) : AccountInfo := ⟨key, false, false⟩

/-- The precompile instruction of a signature: one record, then key, signature and digest. -/
def precompileInstruction (s : SignedMessage) : Instruction where
  programId := ed25519ProgramId
  accounts := []
  data := [1, 0, 48, 0, 255, 255, 16, 0, 255, 255, 112, 0, 32, 0, 255, 255] ++ s.signer.toList ++
    s.signature.toList ++ s.digest.toList

/-- A transaction with an instruction of the program behind the given instructions. -/
def transaction (ix : DualKeyInstruction) (payload : List UInt8) (accounts : List AccountInfo)
    (slot : UInt64) (before : List Instruction) : Invocation where
  accounts := accounts
  data := ix.asU8 :: payload
  slot := slot
  rent := rent
  instructions := before ++ [⟨programId, [], []⟩]
  current := before.length
  rentPos := rent_pos

/-- A transaction that presents an intent signed with Ed25519 alone: the Falcon field is
zero. -/
def signedTransaction (ix : DualKeyInstruction) (i : AuthorizationIntent) (s : SignedMessage)
    (accounts : List AccountInfo) (slot : UInt64) : Invocation :=
  transaction ix ((ExecuteIntentWire.encode (.fromIntent i)).toList ++
    List.replicate falconSignatureLen 0) accounts slot [precompileInstruction s]

def createVault (accountIndex : UInt32) (vault : Pubkey) (policy : AuthorizationPolicy) :
    Invocation :=
  transaction .initializeAccount
    ((u32ToLe accountIndex).toList ++ owner.toList ++ [policy.asU8] ++ falconKey)
    [signerInfo creator, writableInfo vault, readonlyInfo systemProgramId] 1 []

def createEd25519Vault : Invocation := createVault 0 ed25519Vault .ed25519Only
def createHybridVault : Invocation := createVault 1 hybridVault .hybridAnd
def createPrivilegedVault : Invocation := createVault 2 privilegedVault .falconForPrivileged

def setConfig : Invocation :=
  signedTransaction .setRecoveryConfig setConfigIntent signedSetConfig
    [writableInfo ed25519Vault, writableInfo recoveryConfig, signerInfo creator,
      readonlyInfo systemProgramId, readonlyInfo instructionsSysvarId] 2

/-- Switch recovery of the first vault on or off. -/
def switchRecovery (i : AuthorizationIntent) (s : SignedMessage) (slot : UInt64) : Invocation :=
  signedTransaction .recoverAccount i s
    [writableInfo ed25519Vault, readonlyInfo instructionsSysvarId] slot

def enable : Invocation := switchRecovery enableIntent signedEnable 3
def disable : Invocation := switchRecovery disableIntent signedDisable 5
/-- The guardian proposes the successor; the delay of ten slots ends at slot 14. -/
def propose : Invocation :=
  transaction .initiateSocialRecovery successor.toList
    [writableInfo ed25519Vault, writableInfo recoveryConfig, readonlyInfo instructionsSysvarId] 4
    [precompileInstruction signedProposal]

def finalize : Invocation :=
  transaction .finalizeSocialRecovery []
    [writableInfo ed25519Vault, writableInfo recoveryConfig] 21 []

/-- An intent of the first vault that may clear a pending proposal. -/
def clearProposal (ix : DualKeyInstruction) (i : AuthorizationIntent) (s : SignedMessage)
    (slot : UInt64) : Invocation :=
  signedTransaction ix i s
    [writableInfo ed25519Vault, writableInfo recoveryConfig, readonlyInfo instructionsSysvarId] slot

def rotateToZero : Invocation :=
  clearProposal .rotateEd25519Key rotateToZeroIntent signedRotateToZero 2
def rotate : Invocation := clearProposal .rotateEd25519Key rotateIntent signedRotate 5
def cancel : Invocation := clearProposal .cancelSocialRecovery cancelIntent signedCancel 5

/-- Spend from a token account of the first vault, as the relayer fills in the accounts. -/
def spendToken (source mint : Pubkey) : Invocation :=
  signedTransaction .execute tokenIntent signedTokenTransfer
    [writableInfo ed25519Vault, readonlyInfo creator, writableInfo source, readonlyInfo mint,
      writableInfo destination, readonlyInfo tokenProgramId, readonlyInfo instructionsSysvarId] 2

/-- Transfer lamports to the creator. -/
def spendSol (vault : Pubkey) (i : AuthorizationIntent) (s : SignedMessage) : Invocation :=
  signedTransaction .execute i s
    [writableInfo vault, writableInfo creator, readonlyInfo instructionsSysvarId] 2

def spendHybrid : Invocation := spendSol hybridVault hybridIntent signedHybridTransfer
def spendPrivileged : Invocation :=
  spendSol privilegedVault privilegedIntent signedPrivilegedTransfer

/-! The states in which one of the vaults has just been created, and that in which the
successor is proposed. -/

def ed25519Created : Machine := replayed platform genesis [createEd25519Vault]
def hybridCreated : Machine := replayed platform genesis [createHybridVault]
def privilegedCreated : Machine := replayed platform genesis [createPrivilegedVault]

def proposed : Machine :=
  replayed platform genesis [createEd25519Vault, setConfig, enable, propose]

theorem createEd25519Vault_call :
    createEd25519Vault.call = some (.initializeAccount, ed25519Vault) := by
  decide +kernel

theorem parse_createEd25519Vault :
    Initialize.parse createEd25519Vault.payload = .ok ⟨0, owner, .ed25519Only, falconKey⟩ := by
  decide +kernel

/-- The first vault is created by a step of the chain. -/
theorem createEd25519Vault_step :
    Step platform genesis (.executed createEd25519Vault) ed25519Created := by
  have hcall : (submit platform genesis createEd25519Vault).label.call =
      some (.initializeAccount, ed25519Vault) := by
    decide +kernel
  rw [← (submit_executed hcall).1]
  exact submit_step genesis (by decide +kernel)

theorem ed25519Created_reachable : Reachable (chain platform) ed25519Created :=
  reachable_replayed genesis_init (by decide +kernel)

theorem hybridCreated_reachable : Reachable (chain platform) hybridCreated :=
  reachable_replayed genesis_init (by decide +kernel)

theorem privilegedCreated_reachable : Reachable (chain platform) privilegedCreated :=
  reachable_replayed genesis_init (by decide +kernel)

/-- No Falcon signature verifies. -/
theorem not_offersFalcon {v : Pubkey} {e : Edge Machine Label} : ¬ OffersFalcon platform v e := by
  rintro ⟨inv, ix, a, wire, falconSig, -, -, -, -, hvalid⟩
  have hrejected : ∀ key message, verifyFalconPrepared platform key message falconSig =
      Res.fail .malformedFalcon := fun _ _ => rfl
  rw [FalconValid, hrejected] at hvalid
  cases hvalid

end Sample

end DualKey
