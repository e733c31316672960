import DualKey.Properties.Authorization
import DualKey.System.Provenance

/-!
# The representation of a vault

Policy, threshold and threshold flag of a vault are stored in three places, and only a policy
change writes them. `HybridFields.Coherent` says that they agree, that the bits and bytes nobody
uses are zero, and that version and policy are known. A fresh vault is coherent and every
operation keeps it so. Index and bump are never written again, so with the creator that signed
`Initialize` they rebuild the address of the vault in every later state: its tokens cannot be
stranded.
-/

namespace DualKey

open Transition Buffer

/-- The fields of a vault agree with each other. -/
structure HybridFields.Coherent (f : HybridFields) : Prop where
  version : f.version = accountVersion
  policy : f.policy ≤ 5
  /-- Bits 2 to 7 of the flags are not used. -/
  flags : f.flags &&& 0xFC = 0
  /-- The threshold is set under one policy only. -/
  threshold : f.flags &&& flagFalconThresholdSet ≠ 0 →
    f.policy = AuthorizationPolicy.falconAboveThreshold.asU8
  unset : f.flags &&& flagFalconThresholdSet = 0 → f.falconRequiredAbove = 0
  reserved : f.reserved = ByteVec.zero 8

/-- The operation sets a threshold exactly under the policy that has one. -/
def VaultOp.ThresholdFits : VaultOp → Prop
  | changePolicy target threshold => threshold.isSome → target = .falconAboveThreshold
  | _ => True

variable {P : Platform} {m m' : Machine} {v : Pubkey} {l : Label} {op : VaultOp}

/-- Both setters of flags leave the unused bits alone. -/
theorem unused_flag_laws (b : UInt8) :
    (b ||| 1) &&& 0xFC = b &&& 0xFC ∧ (b &&& ~~~1) &&& 0xFC = b &&& 0xFC ∧
      (b ||| 2) &&& 0xFC = b &&& 0xFC ∧ (b &&& ~~~2) &&& 0xFC = b &&& 0xFC := by
  revert b
  refine forall_byte ?_
  decide +kernel

theorem PerformsOn.thresholdFits (h : PerformsOn P m v op l m') : op.ThresholdFits := by
  cases h with
  | mk _ _ _ h =>
    cases h with
    | @changePolicy sysvar wire falconSig newPolicy threshold target a auth hpresents hc =>
      intro hsome
      unfold ChangePolicy.resultingThreshold at hsome
      split at hsome
      · next htarget => exact htarget
      · exact absurd hsome (by decide)
    | _ => trivial

theorem HybridFields.coherent_fresh {bump : UInt8} {accountIndex : UInt32}
    {ownerEd25519 : Pubkey} {falconPublicKeyHash : Digest} {policy : AuthorizationPolicy}
    {prepared : PreparedFalconPubkey} :
    (HybridAccount.freshFields bump accountIndex ownerEd25519 falconPublicKeyHash policy
      prepared).Coherent where
  version := rfl
  policy := AuthorizationPolicy.exists_fromU8.mp ⟨policy, policy.fromU8_asU8⟩
  flags := show (0 : UInt8) &&& 0xFC = 0 by decide
  threshold hne := absurd (show (0 : UInt8) &&& 2 = 0 by decide) hne
  unset _ := rfl
  reserved := rfl

/-- An operation keeps the fields coherent. -/
theorem VaultOp.onFields_coherent {f : HybridFields} (hfits : op.ThresholdFits)
    (h : f.Coherent) : (op.onFields f).Coherent := by
  cases op with
  | changePolicy target threshold =>
    have hpolicy : target.asU8 ≤ 5 :=
      AuthorizationPolicy.exists_fromU8.mp ⟨target, target.fromU8_asU8⟩
    obtain ⟨-, -, hset, hclear, -⟩ := HybridFields.flag_laws f.flags
    obtain ⟨-, -, hset', hclear'⟩ := unused_flag_laws f.flags
    cases threshold with
    | some t =>
      -- the flag is set, under the one policy
      obtain rfl : target = .falconAboveThreshold := hfits rfl
      exact ⟨h.version, hpolicy, hset'.trans h.flags, fun _ => rfl, fun hzero => absurd hzero hset,
        h.reserved⟩
    | none =>
      -- flag and value are cleared together
      exact ⟨h.version, hpolicy, hclear'.trans h.flags, fun hne => absurd hclear hne, fun _ => rfl,
        h.reserved⟩
  | setRecovery enabled =>
    obtain ⟨-, -, -, -, hset, hclear, -⟩ := HybridFields.flag_laws f.flags
    obtain ⟨hset', hclear', -⟩ := unused_flag_laws f.flags
    cases enabled with
    | true =>
      refine ⟨h.version, h.policy, hset'.trans h.flags, fun hne => h.threshold ?_,
        fun hzero => h.unset ?_, h.reserved⟩
      · intro hzero
        exact hne (hset.trans hzero)
      · exact hset.symm.trans hzero
    | false =>
      refine ⟨h.version, h.policy, hclear'.trans h.flags, fun hne => h.threshold ?_,
        fun hzero => h.unset ?_, h.reserved⟩
      · intro hzero
        exact hne (hclear.trans hzero)
      · exact hclear.symm.trans hzero
  | _ => exact ⟨h.version, h.policy, h.flags, h.threshold, h.unset, h.reserved⟩

/-! ### The bytes of a vault -/

/-- The address check of `transferSpl`. -/
def addressCheck (P : Platform) (hybridAccount creator : AccountInfo) : Prog Unit := do
  let (bump, accountIndex) ← hybridAccount.tryBorrowData SplToken.seedParts
  let seeds := Pda.signerSeeds creator.key accountIndex bump
  let derived ← Exec.okOr (P.createProgramAddress seeds P.programId) .invalidPda
  Exec.failIf (derived ≠ hybridAccount.key) .invalidPda

/-- The data of the vault at `v` that the signer `creator` initialized. -/
structure VaultBytes (P : Platform) (creator v : Pubkey) (data : List UInt8) : Prop where
  length : data.length = 1120
  version : byteAt data 0 = 1
  policy : byteAt data 2 ≤ 5
  flags : byteAt data 3 &&& 0xFC = 0
  threshold : byteAt data 3 &&& 2 ≠ 0 → byteAt data 2 = 5
  unset : byteAt data 3 &&& 2 = 0 → ∀ j < 8, byteAt data (80 + j) = 0
  reserved : ∀ j < 8, byteAt data (88 + j) = 0
  /-- Creator, stored index and stored bump rebuild the address. -/
  seeds : P.createProgramAddress
    (Pda.signerSeeds creator (u32FromLe (readVec 4 data 4)) (byteAt data 1)) P.programId = some v

theorem addressCheck_eq_ok {inv : Invocation} {vault creator : AccountInfo} {u : Unit} :
    addressCheck P vault creator inv.enter m = .ok (u, m') ↔
      m = m' ∧ ∃ a : HybridAccount, m.data vault.key = a.data ∧
        P.createProgramAddress (Pda.signerSeeds creator.key a.fields.accountIndex a.fields.bump)
          P.programId = some vault.key := by
  simp only [addressCheck, Exec.bind_eq_ok, AccountInfo.tryBorrowData_eq_ok, Prod.exists,
    SplToken.seedParts_eq_ok, Exec.okOr_eq_ok, Exec.failIf_eq_ok, not_not]
  constructor
  · rintro ⟨_, _, _, ⟨⟨a, ha, rfl, rfl⟩, rfl⟩, derived, _, ⟨hseeds, rfl⟩, hderived, rfl⟩
    exact ⟨rfl, a, ha, hderived ▸ hseeds⟩
  · rintro ⟨rfl, a, ha, hseeds⟩
    exact ⟨_, _, m, ⟨⟨a, ha, rfl, rfl⟩, rfl⟩, vault.key, m, ⟨hseeds, rfl⟩, rfl, rfl⟩

/-- Coherent fields with seeds for the address, as bytes. -/
theorem HybridFields.Coherent.bytes {a : HybridAccount} {creator : Pubkey}
    (h : a.fields.Coherent)
    (hseeds : P.createProgramAddress
      (Pda.signerSeeds creator a.fields.accountIndex a.fields.bump) P.programId = some v) :
    VaultBytes P creator v a.data where
  length := a.length_eq
  version := h.version
  policy := h.policy
  flags := h.flags
  threshold := h.threshold
  unset hclear j hj := by
    have hzero : u64FromLe (readVec 8 a.data 80) = u64FromLe (ByteVec.zero 8) :=
      (h.unset hclear).trans u64FromLe_zero.symm
    exact ByteVec.byteAt_of_readVec_zero (u64FromLe_injective hzero) hj
  reserved j hj := ByteVec.byteAt_of_readVec_zero h.reserved hj
  seeds := hseeds

/-- **The representation of a vault.** An account that a successful `Initialize` has created is
owned by the program in every later state, and its bytes are those of a coherent vault whose index
and bump rebuild its address with the creator that signed. So the address check of a token
transfer succeeds for that creator at any time. -/
theorem vault_representation {m₀ m₁ : Machine} {tr : List (Edge Machine Label)}
    (hreach : Reachable (chain P) m₀) (hinit : Step P m₀ l m₁)
    (hcall : l.call = some (.initializeAccount, v)) (hrun : Run (chain P) m₁ tr m) :
    ∃ inv creator, l = .executed inv ∧ inv.accounts.head? = some creator ∧
      creator.isSigner = true ∧ m.owner v = P.programId ∧
      VaultBytes P creator.key v (m.data v) ∧
      ∀ (inv' : Invocation) (vault' creator' : AccountInfo), vault'.key = v →
        creator'.key = creator.key → addressCheck P vault' creator' inv'.enter m = .ok ((), m) := by
  have hwf := (Reachable.wellFormed hreach)
  obtain ⟨inv, creator, vault, args, bump, m₂, a, hs, hl, hkey, hpost⟩ := hinit.created_cases hcall
  obtain ⟨prepared, -, hfields⟩ := hs.fields
  obtain ⟨systemProgram, haccounts, -⟩ := hs.accounts
  -- coherence, with the identity of the vault fixed
  have hfresh : VaultFields P v (fun f => f.Coherent ∧ f.accountIndex = args.accountIndex ∧
      f.bump = bump) m₁ := by
    refine ⟨a, ?_, ?_⟩
    · rw [← hkey, ← hpost]
      exact hs.creates.vaultAt hs.valid
    · rw [hfields]
      exact ⟨HybridFields.coherent_fresh, rfl, rfl⟩
  obtain ⟨⟨b, hb, hcoherent, hindex, hbump⟩, -⟩ := Run.vaultFields (hinit.wellFormed hwf) hrun
    (fun e _ a' op _ hop ⟨hcoherent, hindex, hbump⟩ =>
      ⟨op.onFields_coherent hop.thresholdFits hcoherent, (op.onFields_seeds _).1.trans hindex,
        (op.onFields_seeds _).2.trans hbump⟩) hfresh
  have hseeds : P.createProgramAddress
      (Pda.signerSeeds creator.key b.fields.accountIndex b.fields.bump) P.programId = some v := by
    rw [hindex, hbump, ← hkey]
    exact Initialize.signerSeeds_create hs.address
  refine ⟨inv, creator, hl, by rw [haccounts]; rfl, hs.signer, hb.owner, ?_, ?_⟩
  · rw [hb.data]
    exact hcoherent.bytes hseeds
  · intro inv' vault' creator' hv hc
    refine addressCheck_eq_ok.mpr ⟨rfl, b, ?_, ?_⟩
    · rw [hv]
      exact hb.data
    · rw [hv, hc]
      exact hseeds

/-- The first vault of the sample deployment, with a proposal pending. -/
theorem vault_representation_replayed :
    ∃ creator, VaultBytes Sample.platform creator Sample.ed25519Vault
      ((replayed Sample.platform Sample.ed25519Created
        [Sample.setConfig, Sample.enable, Sample.propose]).data Sample.ed25519Vault) := by
  have hcall : (Label.executed Sample.createEd25519Vault).call =
      some (.initializeAccount, Sample.ed25519Vault) := Sample.createEd25519Vault_call
  have hruntime : ∀ inv ∈ [Sample.setConfig, Sample.enable, Sample.propose],
      inv.PrecompilesAccepted Sample.platform := by
    decide +kernel
  obtain ⟨-, creator, -, -, -, -, hbytes, -⟩ := vault_representation
    (Reachable.of_init Sample.genesis_init) Sample.createEd25519Vault_step hcall
    (run_replay Sample.ed25519Created hruntime)
  exact ⟨creator.key, hbytes⟩

end DualKey
