import DualKey.Properties.AccountCreation
import DualKey.Properties.Commands
import DualKey.Properties.ConfigRepresentation

/-!
# The founding of a vault by command

`init` reads public keys alone and builds one instruction. It is executed exactly when creator and
index have no vault yet, the Falcon key can be prepared, and the creator can pay what the address
lacks of the rent minimum (`Foundable`). The record of the new vault is then the one the command
line and the key files spell, with no guardian and no nonce consumed.

A new vault starts without a guardian because the recovery address of a vault is empty before the
vault exists, which is an invariant of the runs.
-/

namespace DualKey

open Dialogue Session Client Transition
open Hex (Codec)

/-- Creator and index have no vault at `v`, and one can be made with this Falcon key. -/
structure Foundable (P : Platform) (m : Machine) (rent : Rent) (creator v : Pubkey)
    (wireKey : List UInt8) : Prop where
  absent : recordOf P m v = none
  key : ∃ prepared, prepareFalconKey P wireKey = .ok prepared
  /-- Only a system account without data is debited by a transfer. -/
  pays : (m.lamports v).toNat < (rent.minimumBalance accountDataLen).toNat →
    m.data creator = [] ∧ m.owner creator = systemProgramId ∧
      (rent.minimumBalance accountDataLen).toNat ≤
        (m.lamports v).toNat + (m.lamports creator).toNat

/-- The record of a vault that has just been founded. -/
def VaultRecord.founded (hash : List UInt8 → Digest) (policy : AuthorizationPolicy)
    (index : UInt32) (owner : Pubkey) (wireKey : List UInt8) (prepared : PreparedFalconPubkey)
    (bump : UInt8) : VaultRecord where
  policy := policy
  threshold := none
  recovery := false
  owner := owner
  falconHash := hash wireKey
  prepared := prepared
  nonce := 0
  bump := bump
  index := index
  guardianship := none

/-- The vault at `v` has been founded with the record `r`, at the expense of its creator. -/
structure Founded (P : Platform) (m : Machine) (rent : Rent) (creator v : Pubkey)
    (r : VaultRecord) (m' : Machine) : Prop where
  record : recordOf P m' v = some r
  balance : (m'.lamports v).toNat =
    max (m.lamports v).toNat (rent.minimumBalance accountDataLen).toNat
  paid : (m'.lamports creator).toNat +
    ((rent.minimumBalance accountDataLen).toNat - (m.lamports v).toNat) =
      (m.lamports creator).toNat
  others : ∀ k, k ≠ v → m'.owner k = m.owner k ∧ m'.data k = m.data k ∧
    (k ≠ creator → m'.lamports k = m.lamports k)

section General

variable {Coins : Type} {P : Platform} {crypto : Crypto Coins} {hex : Codec} {sdk : Sdk}
  {inv : Invocation} {m m' : Machine} {creator v owner : Pubkey} {bump : UInt8}
  {wireKey : List UInt8}

/-! ### Before the founding -/

/-- The recovery address of `v` holds a config only if there is a vault at `v`. -/
def GuardedByVault (P : Platform) (v : Pubkey) (m : Machine) : Prop :=
  recoveryConfigOf P m v = none ∨ IsVault P m v

theorem Step.guardedByVault {l : Label} (hown : OwnRecoveryAddress P v) (hwf : WellFormed P m)
    (h : Step P m l m') (hguarded : GuardedByVault P v m) : GuardedByVault P v m' := by
  rcases hguarded with hnone | hvault
  · rcases h.config_cases hown hwf with hsame | ⟨op, hop⟩
    · exact Or.inl (hsame.trans hnone)
    · -- a step that changes the config performs an operation, and so finds a vault
      cases hop with
      | mk _ hkey _ hp =>
        obtain ⟨a, _, heffect, _, hvalid⟩ := hp.effect_valid (m := m.begin) hwf
        subst hkey
        have hvault : IsVault P m _ := ⟨hwf, a, heffect.owner, heffect.data, hvalid.1⟩
        exact Or.inr (h.isVault hvault)
  · exact Or.inr (h.isVault hvault)

/-- **The recovery address of a vault is empty before the vault exists.** -/
theorem Reachable.guardedByVault (hreach : Reachable (chain P) m) (hown : OwnRecoveryAddress P v) :
    GuardedByVault P v m := by
  have hboth : WellFormed P m ∧ GuardedByVault P v m := by
    refine hreach.invariant (I := fun s => WellFormed P s ∧ GuardedByVault P v s) ?_ ?_
    · intro s hg
      refine ⟨fun k hk => absurd hk (hg.notOurs k), Or.inl ?_⟩
      have hnone : guardianshipOf P s v = none := hg.guardianship
      rwa [guardianshipOf, Option.map_eq_none_iff] at hnone
    · rintro s l s' hstep ⟨hwf, hguarded⟩
      exact ⟨Step.wellFormed hstep hwf, Step.guardedByVault hown hwf hstep hguarded⟩
  exact hboth.2

/-- A vault has a record. -/
theorem recordOf_ne_none {a : HybridAccount} (hwf : WellFormed P m) (hva : VaultAt P m v a) :
    recordOf P m v ≠ none := by
  obtain ⟨-, hvalid⟩ := hwf.vault hva
  obtain ⟨policy, hpolicy⟩ := hvalid.2
  rw [recordOf_eq hva hpolicy]
  exact Option.some_ne_none _

/-- Where there is no vault, no step leaves a guardian. -/
theorem Step.unguarded {l : Label} (hreach : Reachable (chain P) m)
    (hown : OwnRecoveryAddress P v) (h : Step P m l m') (habsent : recordOf P m v = none) :
    guardianshipOf P m' v = none := by
  have hwf := Reachable.wellFormed hreach
  have hno : ¬ ∃ a, VaultAt P m v a := fun ⟨_, hva⟩ => recordOf_ne_none hwf hva habsent
  have hbefore : recoveryConfigOf P m v = none :=
    (Reachable.guardedByVault hreach hown).resolve_right fun hvault => hno hvault.2
  rcases h.config_cases hown hwf with hsame | ⟨op, hop⟩
  · rw [guardianshipOf, hsame, hbefore]
    rfl
  · -- an operation would have found a vault
    cases hop with
    | mk _ hkey _ hp =>
      obtain ⟨a, _, heffect, _, hvalid⟩ := hp.effect_valid (m := m.begin) hwf
      subst hkey
      exact absurd ⟨a, heffect.owner, heffect.data, hvalid.1⟩ hno

/-- The address of a vault holds the vault, or nothing at all. -/
theorem recordOf_eq_none_iff (hprov : Provenance P m) (hdisjoint : DisjointRanges P)
    {index : UInt32} (hv : P.tryFindProgramAddress (pdaSeeds creator (u32ToLe index)) P.programId =
      some (v, bump)) :
    recordOf P m v = none ↔ m.owner v = systemProgramId ∧ m.data v = [] := by
  constructor
  · intro hnone
    cases hprov.derived v ⟨_, P.find_spec _ _ _ hv⟩ with
    | untouched howner hdata => exact ⟨howner, hdata⟩
    | vault hva _ => exact absurd hnone (recordOf_ne_none hprov.wellFormed hva)
    | config _ _ haddress =>
      obtain ⟨w, bump', haddress⟩ := haddress
      exact absurd haddress (hdisjoint _ _ _ _ _ _ hv)
  · rintro ⟨howner, -⟩
    rw [recordOf, if_neg]
    intro hours
    exact P.programId_ne_system (hours.symm.trans howner)

/-- The record of fresh fields. -/
theorem record_freshFields {hash : List UInt8 → Digest} {policy : AuthorizationPolicy}
    {index : UInt32} {prepared : PreparedFalconPubkey} :
    (HybridAccount.freshFields bump index owner (hash wireKey) policy prepared).record policy none =
      .founded hash policy index owner wireKey prepared bump := by
  ext1 <;> try rfl
  · -- no flag is set, so there is no threshold
    have hclear : (0 : UInt8) &&& flagFalconThresholdSet = 0 := by decide
    exact if_pos hclear
  · exact HybridAccount.recovery_freshFields

/-! ### The instruction -/

/-- The invocation asks for a vault: the arguments of `Initialize`, and the accounts of payer and
vault with the privileges they need. -/
structure AsksVault (P : Platform) (inv : Invocation) (payer vault : AccountInfo) (bump : UInt8)
    (args : Initialize.Args) : Prop where
  instruction : inv.instruction = some .initializeAccount
  parsed : Initialize.parse inv.payload = .ok args
  accounts : ∃ systemProgram : AccountInfo,
    inv.accounts = [payer, vault, systemProgram] ∧ systemProgram.key = systemProgramId
  address : P.tryFindProgramAddress (pdaSeeds payer.key (u32ToLe args.accountIndex))
    P.programId = some (vault.key, bump)
  signer : payer.isSigner = true
  payerWritable : payer.isWritable = true
  vaultWritable : vault.isWritable = true

section Asks

variable {payer vault : AccountInfo} {args : Initialize.Args}

/-- Payer and vault are two accounts: one signs, and the other cannot. -/
theorem AsksVault.ne (h : AsksVault P inv payer vault bump args)
    (hsigners : (Label.executed inv).NoPdaSigns P) : payer.key ≠ vault.key := by
  obtain ⟨systemProgram, haccounts, -⟩ := h.accounts
  intro heq
  refine hsigners payer (by rw [haccounts]; exact List.mem_cons_self) h.signer ?_
  rw [heq]
  exact ⟨_, P.find_spec _ _ _ h.address⟩

/-- What is asked for is accepted where a vault can be founded. -/
theorem AsksVault.accepts_iff (h : AsksVault P inv payer vault bump args) (hprov : Provenance P m)
    (hdisjoint : DisjointRanges P) :
    (∃ creator' vault' bump' prepared,
      Initialize.Accepts P inv m.begin creator' vault' bump' prepared) ↔
      Foundable P m inv.rent payer.key vault.key args.falconWirePubkey := by
  obtain ⟨systemProgram, haccounts, hsystem⟩ := h.accounts
  obtain ⟨hlen, hindex, howner, hpolicy, hkey⟩ := Initialize.parse_eq_ok.mp h.parsed
  have hpayer : payer ∈ inv.accounts := by rw [haccounts]; exact List.mem_cons_self
  have hvault : vault ∈ inv.accounts := by
    rw [haccounts]
    exact List.mem_cons_of_mem _ List.mem_cons_self
  have haddress := h.address
  rw [hindex, u32ToLe_u32FromLe] at haddress
  constructor
  · rintro ⟨payer', vault', bump', prepared, ha⟩
    obtain ⟨_, haccounts', -⟩ := ha.accounts
    rw [haccounts, List.cons.injEq, List.cons.injEq] at haccounts'
    obtain ⟨rfl, rfl, -⟩ := haccounts'
    have hpays := ha.pays
    refine ⟨(recordOf_eq_none_iff hprov hdisjoint h.address).mpr ⟨ha.system, ha.fresh⟩, ?_, ?_⟩
    · rw [hkey]
      exact ⟨prepared, ha.key⟩
    · intro hlt
      obtain ⟨hdata, howner', -, hbalance⟩ := hpays hlt
      exact ⟨hdata, howner', hbalance⟩
  · intro hf
    obtain ⟨hsystemOwner, hfresh⟩ := (recordOf_eq_none_iff hprov hdisjoint h.address).mp hf.absent
    obtain ⟨prepared, hprepared⟩ := hf.key
    rw [hkey] at hprepared
    refine ⟨payer, vault, bump, prepared, ?_⟩
    exact
      { length := hlen, accounts := ⟨systemProgram, haccounts, hsystem⟩, signer := h.signer
        address := haddress, fresh := hfresh, system := hsystemOwner
        writable := ⟨vault, hvault, rfl, h.vaultWritable⟩
        policy := AuthorizationPolicy.exists_fromU8.mp ⟨_, hpolicy⟩, key := hprepared
        pays := by
          intro hlt
          obtain ⟨hdata, howner', hbalance⟩ := hf.pays hlt
          exact ⟨hdata, howner', ⟨payer, hpayer, rfl, h.payerWritable⟩, hbalance⟩ }

/-- The record of the new vault has no guardian. -/
theorem AsksVault.founded (h : AsksVault P inv payer vault bump args)
    (hreach : Reachable (chain P) m) (hown : OwnRecoveryAddress P vault.key)
    (hsigners : (Label.executed inv).NoPdaSigns P) (hstep : Step P m (.executed inv) m')
    (habsent : recordOf P m vault.key = none) :
    ∃ prepared, prepareFalconKey P args.falconWirePubkey = .ok prepared ∧
      Founded P m inv.rent payer.key vault.key (.founded P.sha256 args.policy args.accountIndex
        args.ownerEd25519 args.falconWirePubkey prepared bump) m' := by
  have hwf := Reachable.wellFormed hreach
  have hcall : (Label.executed inv).call = some (.initializeAccount, vault.key) := by
    obtain ⟨systemProgram, haccounts, -⟩ := h.accounts
    rw [Label.call, Invocation.call, h.instruction, haccounts]
    rfl
  obtain ⟨inv', payer', vault', args', bump', m₁, a, hs, hl, -, rfl⟩ := hstep.created_cases hcall
  obtain rfl := Label.executed.inj hl
  -- arguments and accounts of the step are those of the instruction
  obtain rfl : args = args' := Except.ok.inj (h.parsed.symm.trans hs.parsed)
  obtain ⟨_, haccounts, -⟩ := h.accounts
  obtain ⟨_, haccounts', -⟩ := hs.accounts
  rw [haccounts, List.cons.injEq, List.cons.injEq] at haccounts'
  obtain ⟨rfl, rfl, -⟩ := haccounts'
  have haddress := h.address.symm.trans hs.address
  rw [Option.some.injEq, Prod.mk.injEq] at haddress
  obtain ⟨-, rfl⟩ := haddress
  obtain ⟨prepared, hprepared, hfields⟩ := hs.fields
  refine ⟨prepared, hprepared, ?_⟩
  obtain ⟨-, -, -, -, hkey⟩ := Initialize.parse_eq_ok.mp hs.parsed
  have hcreated := hs.vaultCreated (h.ne hsigners) (hkey ▸ hprepared)
  have hva := hs.creates.vaultAt hs.valid
  have hpolicy : AuthorizationPolicy.fromU8 a.fields.policy = some args.policy := by
    rw [hfields]
    exact AuthorizationPolicy.fromU8_asU8 args.policy
  refine ⟨?_, hcreated.lamports, hcreated.paid, hcreated.frame⟩
  rw [recordOf_eq hva hpolicy, hstep.unguarded hreach hown habsent, hfields, record_freshFields]

/-- **A vault is founded exactly where it can be.** -/
theorem AsksVault.fate (h : AsksVault P inv payer vault bump args)
    (hruntime : inv.PrecompilesAccepted P) (hreach : Reachable (chain P) m)
    (hdisjoint : DisjointRanges P) (hown : OwnRecoveryAddress P vault.key)
    (hsigners : (Label.executed inv).NoPdaSigns P) :
    ((∃ m', Step P m (.executed inv) m') ↔
      Foundable P m inv.rent payer.key vault.key args.falconWirePubkey) ∧
    ∀ m', Step P m (.executed inv) m' →
      ∃ prepared, prepareFalconKey P args.falconWirePubkey = .ok prepared ∧
        Founded P m inv.rent payer.key vault.key (.founded P.sha256 args.policy args.accountIndex
          args.ownerEd25519 args.falconWirePubkey prepared bump) m' := by
  have haccepts := h.accepts_iff (Reachable.provenance hreach) hdisjoint
  have hexact := (Initialize.creation_exact (m := m.begin) h.instruction hsigners).1
  have hexecuted : (∃ m', Step P m (.executed inv) m') ↔
      Foundable P m inv.rent payer.key vault.key args.falconWirePubkey := by
    rw [← haccepts, ← hexact]
    constructor
    · rintro ⟨m', hstep⟩
      cases hstep with
      | executed _ h => exact ⟨m', h⟩
    · rintro ⟨m', h⟩
      exact ⟨m', .executed hruntime h⟩
  refine ⟨hexecuted, fun m' hstep => ?_⟩
  exact h.founded hreach hown hsigners hstep (hexecuted.mp ⟨m', hstep⟩).absent

end Asks

/-! ### The command -/

end General

namespace SampleDeployment

open Sample

/-- The first vault of the creator, for the keys of the directory. -/
def initParams : InitParams where
  keysDir := ["keys"]
  accountIndex := 0
  programId := "US517G5965aydkZ46HS38QLi7UQiSojurfbQfKCELFx"
  creator := "EdmxWPmx2WH6WgFfTdu9xfkYf3k1g5wD1zccTVySEEh1"
  policy := .hybridAnd
  out := none
  broadcast := ⟨false, none, none⟩

end SampleDeployment

end DualKey
