import DualKey.Core.Policy

/-!
# The canonical preimage

Both schemes sign `SHA256(canonical_preimage(intent))`. The preimage is a buffer of
fixed width:

```text
Offset  Size  Field
0       1     tag length (17)
1       17    DUALKEY_SOLANA_V1
18      1     version
19      32    chain_domain
51      32    program_id
83      32    account
115     8     nonce (u64 LE)
123     8     expiry_slot (u64 LE)
131     1     action_tag
132     40    action_body
172           end
```

The leading tag carries its length, so no other tag can run into the fields behind it.
-/

namespace DualKey

open ByteVec

/-- Width of an action body. -/
@[simp] abbrev actionBodyLen : ℕ := 40

/-- Width of the canonical preimage. -/
@[simp] abbrev canonicalPreimageLen : ℕ := 172

/-- ASCII `DUALKEY_SOLANA_V1`. -/
def domainTag : ByteVec 17 :=
  ⟨[68, 85, 65, 76, 75, 69, 89, 95, 83, 79, 76, 65, 78, 65, 95, 86, 49], rfl⟩

/-- The Cargo feature that selects the cluster a binary is built for. -/
inductive Cluster where
  | mainnet
  | devnet
  | localnet
deriving DecidableEq, Repr

/-- The compile-time cluster domain: an ASCII label, zero-padded to 32 bytes. -/
def Cluster.chainDomain : Cluster → ByteVec 32
  | mainnet =>
    -- `dualkey:mainnet`
    ⟨[100, 117, 97, 108, 107, 101, 121, 58, 109, 97, 105, 110, 110, 101, 116] ++
      List.replicate 17 0, rfl⟩
  | devnet =>
    -- `dualkey:devnet`
    ⟨[100, 117, 97, 108, 107, 101, 121, 58, 100, 101, 118, 110, 101, 116] ++
      List.replicate 18 0, rfl⟩
  | localnet =>
    -- `dualkey:localnet`
    ⟨[100, 117, 97, 108, 107, 101, 121, 58, 108, 111, 99, 97, 108, 110, 101, 116] ++
      List.replicate 16 0, rfl⟩

/-- The signing preimage of an intent: the header fields, then the action body at its
offset. Bytes a body does not use stay zero. -/
def canonicalPreimage (intent : AuthorizationIntent) : ByteVec canonicalPreimageLen :=
  let out := (ByteVec.zero canonicalPreimageLen).putByte 0 17 (by decide)
  let out := out.putVec 1 domainTag (by decide)
  let out := out.putByte 18 intent.version (by decide)
  let out := out.putVec 19 intent.chainDomain (by decide)
  let out := out.putVec 51 intent.programId (by decide)
  let out := out.putVec 83 intent.account (by decide)
  let out := out.putVec 115 (u64ToLe intent.nonce) (by decide)
  let out := out.putVec 123 (u64ToLe intent.expirySlot) (by decide)
  let out := out.putByte 131 intent.action.tag (by decide)
  -- a body that starts with a single byte is padded up to its position 8
  match intent.action with
  | .transferSol recipient lamports =>
    (out.putVec 132 recipient (by decide)).putVec 164 (u64ToLe lamports) (by decide)
  | .rotateEd25519Key newPubkey => out.putVec 132 newPubkey (by decide)
  | .rotateFalconKey newPubkeyHash => out.putVec 132 newPubkeyHash (by decide)
  | .transferSpl destination amount =>
    (out.putVec 132 destination (by decide)).putVec 164 (u64ToLe amount) (by decide)
  | .changePolicy newPolicy threshold =>
    (out.putByte 132 newPolicy (by decide)).putVec 140 (u64ToLe threshold) (by decide)
  | .recoverAccount op newEd25519 =>
    (out.putByte 132 op.asU8 (by decide)).putVec 140 newEd25519 (by decide)
  | .setRecoveryConfig guardianEd25519 delaySlots =>
    (out.putVec 132 guardianEd25519 (by decide)).putVec 164 (u64ToLe delaySlots) (by decide)
  | .cancelSocialRecovery => out

/-- The intent of the known-answer vectors. -/
def testVectorIntent : AuthorizationIntent where
  version := intentVersion
  chainDomain := List.Vector.replicate 32 0x11
  programId := List.Vector.replicate 32 0x22
  account := List.Vector.replicate 32 0x33
  nonce := 7
  expirySlot := 1234567
  action := .transferSol (List.Vector.replicate 32 0x44) 5000000000

/-! ### What a preimage determines -/

/-- The vault address is read back from its own range, which no later field touches. -/
theorem getVec_account_canonicalPreimage (i : AuthorizationIntent) :
    getVec 32 (canonicalPreimage i) 83 = i.account := by
  unfold canonicalPreimage
  cases i.action <;>
    simp [getVec_putVec_of_disjoint, getVec_putByte_of_disjoint]

/-- The nonce is read back from its own range, which no later field touches. -/
theorem getVec_nonce_canonicalPreimage (i : AuthorizationIntent) :
    getVec 8 (canonicalPreimage i) 115 = u64ToLe i.nonce := by
  unfold canonicalPreimage
  cases i.action <;>
    simp [getVec_putVec_of_disjoint, getVec_putByte_of_disjoint]

/-- Equal preimages name one vault and one nonce. -/
theorem canonicalPreimage_account_nonce {i j : AuthorizationIntent}
    (h : canonicalPreimage i = canonicalPreimage j) :
    i.account = j.account ∧ i.nonce = j.nonce := by
  refine ⟨?_, u64ToLe_injective ?_⟩
  · rw [← getVec_account_canonicalPreimage i, h, getVec_account_canonicalPreimage]
  · rw [← getVec_nonce_canonicalPreimage i, h, getVec_nonce_canonicalPreimage]

end DualKey
