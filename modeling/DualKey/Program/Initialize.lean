import DualKey.Runtime.Cpi
import DualKey.Core.Wire

/-!
# Vault addresses and `Initialize`

`Initialize` creates a vault at the canonical address of its creator and index: it
tops the address up to the rent minimum, allocates and assigns it through the system
program, and writes the initial state. The bump is derived, never supplied.
-/

namespace DualKey

open Buffer

variable (P : Platform)

/-- Derive the prepared Falcon key from the wire key. -/
def prepareFalconKey (falconWirePubkey : List UInt8) : DkRes PreparedFalconPubkey := do
  Res.failIf (P.falconPubkeyOk falconWirePubkey = false) .malformedFalcon
  Res.okOr (P.tryPreparePubkey falconWirePubkey) .malformedFalcon

/-! ### Vault addresses -/

namespace Pda

/-- Derive a vault address and its canonical bump. -/
def derive (creator : Pubkey) (accountIndex : UInt32) : DkRes (Pubkey × UInt8) :=
  Res.okOr (P.tryFindProgramAddress (pdaSeeds creator (u32ToLe accountIndex)) P.programId)
    .invalidPda

/-- Check that `expected` is the canonical vault address, and return the bump. -/
def verify (creator : Pubkey) (accountIndex : UInt32) (expected : Pubkey) : DkRes UInt8 := do
  let (address, bump) ← derive P creator accountIndex
  Res.failIf (address ≠ expected) .invalidPda
  pure bump

/-- The seeds that sign for a vault: the address seeds and the bump. -/
def signerSeeds (creator : Pubkey) (accountIndex : UInt32) (bump : UInt8) : List (List UInt8) :=
  pdaSeeds creator (u32ToLe accountIndex) ++ [[bump]]

end Pda

namespace Initialize

/-! ### Instruction data -/

/-- Parsed `Initialize` arguments. -/
structure Args where
  accountIndex : UInt32
  ownerEd25519 : Pubkey
  policy : AuthorizationPolicy
  falconWirePubkey : List UInt8
deriving DecidableEq

/-- Payload length after the discriminator: index, owner, policy byte and wire key. -/
@[simp] abbrev payloadLen : ℕ := 934

def parse (payload : List UInt8) : DkRes Args := do
  Res.failIf (payload.length ≠ payloadLen) .malformedInstructionData
  let indexLe ← sliceVec 4 payload 0
  let ownerEd25519 ← sliceVec 32 payload 4
  let policyByte ← index payload 36
  let policy ← Res.okOr (AuthorizationPolicy.fromU8 policyByte) .policyRejected
  Res.failIf (policy.isImplemented = false) .policyNotImplemented
  let falconWirePubkey ← slice payload 37 falconWirePubkeyLen
  pure { accountIndex := u32FromLe indexLe, ownerEd25519, policy, falconWirePubkey }

/-! ### The handler -/

/-- Transfer what the vault address lacks, if anything. -/
def payShortfall (creator hybridAccount : AccountInfo) (shortfall : UInt64)
    (seeds : List (List UInt8)) : Prog Unit :=
  if 0 < shortfall then
    invokeSigned P (.transfer creator.key hybridAccount.key shortfall) [creator, hybridAccount]
      [seeds] .insufficientFunds
  else
    pure ()

/-- Fund, allocate and assign the vault address. Only the shortfall is transferred, so an
address that already holds lamports does not block creation. -/
def createPdaAccount (creator hybridAccount : AccountInfo) (accountIndex : UInt32)
    (bump : UInt8) : Prog Unit := do
  let env ← Exec.ask
  let required := env.rent.minimumBalance accountDataLen
  let seeds := Pda.signerSeeds creator.key accountIndex bump
  let balance ← hybridAccount.lamports
  let shortfall := if balance ≤ required then required - balance else 0
  payShortfall P creator hybridAccount shortfall seeds
  invokeSigned P (.allocate hybridAccount.key (UInt64.ofNat accountDataLen)) [hybridAccount]
    [seeds] .accountAlreadyInitialized
  invokeSigned P (.assign hybridAccount.key P.programId) [hybridAccount] [seeds]
    .invalidProgramAccount

/-- Create the vault and write its initial state. -/
def process (accounts : List AccountInfo) (payload : List UInt8) : Prog Unit := do
  let args ← parse payload
  let (creator, hybridAccount, systemProgram) ← threeAccounts accounts
  Exec.failIf (creator.isSigner = false) .missingSigner
  Exec.failIf (systemProgram.key ≠ systemProgramId) .invalidProgramAccount
  let bump ← Pda.verify P creator.key args.accountIndex hybridAccount.key
  let isEmpty ← hybridAccount.dataIsEmpty
  Exec.failIf (isEmpty = false) .accountAlreadyInitialized
  let falconPublicKeyHash := P.sha256 args.falconWirePubkey
  createPdaAccount P creator hybridAccount args.accountIndex bump
  hybridAccount.tryBorrowMutData fun data => do
    let account ← HybridAccount.initializeWithoutFalconKey data bump args.accountIndex
      args.ownerEd25519 falconPublicKeyHash args.policy
    let prepared ← prepareFalconKey P args.falconWirePubkey
    pure ((account.setPreparedFalconPublicKey prepared).data, ())

/-! ### What a successful `Initialize` did -/

/-- How the vault address reached its rent minimum: it held enough, or the creator paid
the shortfall. -/
inductive Funded (inv : InvokeContext) (m : Machine) (creator vault : Pubkey)
    (seeds : List (List UInt8)) : Machine → Prop where
  | held (h : inv.rent.minimumBalance accountDataLen ≤ m.lamports vault) :
    Funded inv m creator vault seeds m
  | paid {shortfall : UInt64} {m₁ : Machine}
    (hshort : (m.lamports vault).toNat + shortfall.toNat =
      (inv.rent.minimumBalance accountDataLen).toNat)
    (hpos : 0 < shortfall)
    (hpriv : ∀ entry ∈ (CpiInstruction.transfer creator vault shortfall).metas,
      Privileged P inv [seeds] entry)
    (htransfer : systemTransfer m creator vault shortfall = some m₁) :
    Funded inv m creator vault seeds (m₁.log ⟨.transfer creator vault shortfall, [seeds]⟩)

/-- Everything a successful `Initialize` checked, with the machine `m₁` after funding and
the written account `a`. -/
structure Succeeds (inv : InvokeContext) (payload : List UInt8) (m : Machine)
    (creator vault : AccountInfo) (args : Args) (bump : UInt8) (m₁ : Machine)
    (a : HybridAccount) : Prop where
  parsed : parse payload = .ok args
  accounts : ∃ systemProgram : AccountInfo,
    inv.accounts = [creator, vault, systemProgram] ∧ systemProgram.key = systemProgramId
  signer : creator.isSigner = true
  address : P.tryFindProgramAddress (pdaSeeds creator.key (u32ToLe args.accountIndex))
    P.programId = some (vault.key, bump)
  funded : Funded P inv m creator.key vault.key
    (Pda.signerSeeds creator.key args.accountIndex bump) m₁
  privileged : Privileged P inv [Pda.signerSeeds creator.key args.accountIndex bump]
    ⟨vault.key, true, true⟩
  fresh : m.data vault.key = []
  system : m.owner vault.key = systemProgramId
  written : ∃ prepared account, prepareFalconKey P args.falconWirePubkey = .ok prepared ∧
    HybridAccount.initializeWithoutFalconKey (List.replicate accountDataLen 0) bump
      args.accountIndex args.ownerEd25519 (P.sha256 args.falconWirePubkey) args.policy =
        .ok account ∧
    account.setPreparedFalconPublicKey prepared = a

section Specs

variable {P} {inv : InvokeContext} {m m' : Machine}

theorem verify_eq_ok {creator expected : Pubkey} {accountIndex : UInt32} {bump : UInt8} :
    Pda.verify P creator accountIndex expected = .ok bump ↔
      P.tryFindProgramAddress (pdaSeeds creator (u32ToLe accountIndex)) P.programId =
        some (expected, bump) := by
  simp only [Pda.verify, Pda.derive, Res.bind_eq_ok, Res.okOr_eq_ok, Prod.exists,
    Res.failIf_eq_ok, Res.pure_eq_ok, not_not]
  constructor
  · rintro ⟨address, bump, hfind, -, rfl, rfl⟩
    exact hfind
  · intro hfind
    exact ⟨expected, bump, hfind, (), rfl, rfl⟩

theorem parse_eq_ok {payload : List UInt8} {args : Args} :
    parse payload = .ok args ↔ payload.length = payloadLen ∧
      args.accountIndex = u32FromLe (readVec 4 payload 0) ∧
      args.ownerEd25519 = readVec 32 payload 4 ∧
      AuthorizationPolicy.fromU8 (byteAt payload 36) = some args.policy ∧
      args.falconWirePubkey = Buffer.read payload 37 falconWirePubkeyLen := by
  simp only [parse, Res.bind_eq_ok, Res.failIf_eq_ok, not_not, sliceVec_eq_ok, index_eq_ok,
    Res.okOr_eq_ok, AuthorizationPolicy.isImplemented_eq_true, slice_eq_ok, Res.pure_eq_ok]
  constructor
  · rintro ⟨-, hlen, _, ⟨-, rfl⟩, _, ⟨-, rfl⟩, _, ⟨-, rfl⟩, policy, hpolicy, -, -, _, ⟨-, rfl⟩, rfl⟩
    exact ⟨hlen, rfl, rfl, hpolicy, rfl⟩
  · obtain ⟨accountIndex, ownerEd25519, policy, falconWirePubkey⟩ := args
    rintro ⟨hlen, rfl, rfl, hpolicy, rfl⟩
    have hlen' : payload.length = 934 := hlen
    exact ⟨(), hlen, _, ⟨by omega, rfl⟩, _, ⟨by omega, rfl⟩, _, ⟨by omega, rfl⟩, policy, hpolicy,
      (), by decide, _, ⟨by show 37 + 897 ≤ _; omega, rfl⟩, rfl⟩

theorem Succeeds.fields {payload : List UInt8} {creator vault : AccountInfo} {args : Args}
    {bump : UInt8} {m₁ : Machine} {a : HybridAccount}
    (h : Succeeds P inv payload m creator vault args bump m₁ a) :
    ∃ prepared, prepareFalconKey P args.falconWirePubkey = .ok prepared ∧
      a.fields = HybridAccount.freshFields bump args.accountIndex args.ownerEd25519
        (P.sha256 args.falconWirePubkey) args.policy prepared := by
  obtain ⟨prepared, account, hprepared, haccount, rfl⟩ := h.written
  exact ⟨prepared, hprepared, HybridAccount.fields_initializeWithoutFalconKey haccount prepared⟩

theorem Funded.frame {creator vault : Pubkey} {seeds : List (List UInt8)} {m₁ : Machine}
    (h : Funded P inv m creator vault seeds m₁) :
    (∀ k, m₁.data k = m.data k) ∧ (∀ k, m₁.owner k = m.owner k) := by
  cases h with
  | held _ => exact ⟨fun _ => rfl, fun _ => rfl⟩
  | paid _ _ _ htransfer =>
    obtain ⟨hdata, howner, -⟩ := systemTransfer_frame htransfer
    exact ⟨hdata, howner⟩

/-- The shortfall is what the balance lacks of the rent minimum. -/
theorem payShortfall_eq_ok {creator vault : AccountInfo} {seeds : List (List UInt8)} {u : Unit}
    (hseeds : ∃ k, P.createProgramAddress seeds P.programId = some k) :
    payShortfall P creator vault
        (if m.lamports vault.key ≤ inv.rent.minimumBalance accountDataLen then
          inv.rent.minimumBalance accountDataLen - m.lamports vault.key else 0) seeds inv.enter m =
        .ok (u, m') ↔
      Funded P inv m creator.key vault.key seeds m' := by
  generalize hrequired : inv.rent.minimumBalance accountDataLen = required
  generalize hshort : (if m.lamports vault.key ≤ required then required - m.lamports vault.key
    else 0) = shortfall
  have hvalue : shortfall.toNat = required.toNat - (m.lamports vault.key).toNat := by
    rw [← hshort]
    exact toNat_truncatedSub
  unfold payShortfall
  constructor
  · intro h
    split at h
    · next hpos =>
      obtain ⟨-, hpriv, m₁, htransfer, rfl⟩ := invokeSigned_eq_ok.mp h
      have hpos' : 0 < shortfall.toNat := UInt64.lt_iff_toNat_lt.mp hpos
      exact Funded.paid (by rw [hrequired]; omega) hpos hpriv htransfer
    · next hpos =>
      obtain ⟨-, rfl⟩ := Exec.pure_eq_ok.mp h
      rw [UInt64.lt_iff_toNat_lt, UInt64.toNat_zero] at hpos
      exact Funded.held (by rw [hrequired, UInt64.le_iff_toNat_le]; omega)
  · intro h
    cases h with
    | held hle =>
      rw [hrequired, UInt64.le_iff_toNat_le] at hle
      have hnone : ¬ 0 < shortfall := by
        rw [UInt64.lt_iff_toNat_lt, UInt64.toNat_zero]
        omega
      rw [if_neg hnone]
      exact Exec.pure_eq_ok.mpr ⟨rfl, rfl⟩
    | @paid shortfall' m₁ hshort' hpos hpriv htransfer =>
      -- the amount paid is determined by balance and minimum
      have heq : shortfall' = shortfall := by
        rw [hrequired] at hshort'
        rw [← UInt64.toNat_inj, hvalue]
        omega
      rw [heq] at hpos hpriv htransfer ⊢
      rw [if_pos hpos]
      obtain ⟨k, hk⟩ := hseeds
      refine invokeSigned_eq_ok.mpr ⟨?_, hpriv, m₁, htransfer, rfl⟩
      rintro seeds' hmem
      rw [List.mem_singleton.mp hmem]
      exact ⟨k, hk⟩

/-- Account creation funds the address, then allocates and assigns it. -/
theorem createPdaAccount_eq_ok {creator vault : AccountInfo} {accountIndex : UInt32}
    {bump : UInt8} {u : Unit} :
    createPdaAccount P creator vault accountIndex bump inv.enter m = .ok (u, m') ↔
      ∃ m₁, Funded P inv m creator.key vault.key (Pda.signerSeeds creator.key accountIndex bump)
          m₁ ∧
        (∃ k, P.createProgramAddress (Pda.signerSeeds creator.key accountIndex bump) P.programId =
          some k) ∧
        Privileged P inv [Pda.signerSeeds creator.key accountIndex bump] ⟨vault.key, true, true⟩ ∧
        m₁.data vault.key = [] ∧ m₁.owner vault.key = systemProgramId ∧
        m₁.allot P.programId vault.key (UInt64.ofNat accountDataLen)
          (Pda.signerSeeds creator.key accountIndex bump) = m' := by
  unfold createPdaAccount
  constructor
  · intro h
    obtain ⟨env, _, hask, h⟩ := Exec.bind_eq_ok.mp h
    obtain ⟨rfl, rfl⟩ := Exec.ask_eq_ok.mp hask
    obtain ⟨balance, _, hbalance, h⟩ := Exec.bind_eq_ok.mp h
    obtain ⟨rfl, rfl⟩ := AccountInfo.lamports_eq_ok.mp hbalance
    obtain ⟨_, m₁, hpay, h⟩ := Exec.bind_eq_ok.mp h
    obtain ⟨hseeds, hpriv, hdata, howner, -, hpost⟩ := invokeSigned_allocate_assign.mp h
    exact ⟨m₁, (payShortfall_eq_ok hseeds).mp hpay, hseeds, hpriv, hdata, howner, hpost⟩
  · rintro ⟨m₁, hfunded, hseeds, hpriv, hdata, howner, hpost⟩
    refine Exec.bind_eq_ok.mpr ⟨_, _, Exec.ask_eq_ok.mpr ⟨rfl, rfl⟩, ?_⟩
    refine Exec.bind_eq_ok.mpr ⟨_, _, AccountInfo.lamports_eq_ok.mpr ⟨rfl, rfl⟩, ?_⟩
    refine Exec.bind_eq_ok.mpr ⟨(), m₁, (payShortfall_eq_ok hseeds).mpr hfunded, ?_⟩
    exact invokeSigned_allocate_assign.mpr ⟨hseeds, hpriv, hdata, howner, by decide, hpost⟩

/-- The canonical seeds of a vault sign for it. -/
theorem signerSeeds_create {creator vault : Pubkey} {accountIndex : UInt32} {bump : UInt8}
    (h : P.tryFindProgramAddress (pdaSeeds creator (u32ToLe accountIndex)) P.programId =
      some (vault, bump)) :
    P.createProgramAddress (Pda.signerSeeds creator accountIndex bump) P.programId = some vault :=
  P.find_spec _ _ _ h

/-- **Exactness of `Initialize`.** -/
theorem process_eq_ok {payload : List UInt8} {u : Unit} :
    process P inv.accounts payload inv.enter m = .ok (u, m') ↔
      ∃ creator vault args bump m₁ a,
        Succeeds P inv payload m creator vault args bump m₁ a ∧
        (m₁.allot P.programId vault.key (UInt64.ofNat accountDataLen)
          (Pda.signerSeeds creator.key args.accountIndex bump)).setData vault.key a.data = m' := by
  simp only [process, Exec.bind_eq_ok, Exec.liftM_eq_ok, Prod.exists, createPdaAccount_eq_ok,
    threeAccounts_eq_ok, Exec.failIf_eq_ok, not_not, verify_eq_ok, AccountInfo.dataIsEmpty_eq_ok,
    AccountInfo.tryBorrowMutData_eq_ok, Res.bind_eq_ok, Res.pure_eq_ok, Prod.mk.injEq, and_true]
  constructor
  · intro h
    obtain ⟨args, _, ⟨hparse, rfl⟩, creator, vault, systemProgram, _, ⟨haccounts, rfl⟩, h⟩ := h
    obtain ⟨_, _, ⟨hsigner, rfl⟩, _, _, ⟨hsystem, rfl⟩, bump, _, ⟨haddress, rfl⟩, h⟩ := h
    obtain ⟨_, _, ⟨rfl, rfl⟩, _, _, ⟨hempty, rfl⟩, h⟩ := h
    obtain ⟨_, _, ⟨m₁, hfunded, -, hpriv, hdata, howner, rfl⟩, h⟩ := h
    obtain ⟨_, ⟨account, haccount, prepared, hprepared, rfl⟩, rfl⟩ := h
    -- funding does not touch the address, so it was fresh before as well
    obtain ⟨hframeData, hframeOwner⟩ := hfunded.frame
    rw [Machine.data_allot, if_pos rfl] at haccount
    refine ⟨creator, vault, args, bump, m₁, account.setPreparedFalconPublicKey prepared, ?_, rfl⟩
    exact
      { parsed := hparse, accounts := ⟨systemProgram, haccounts, hsystem⟩
        signer := by simpa using hsigner, address := haddress, funded := hfunded
        privileged := hpriv, fresh := by rw [← hframeData, hdata]
        system := by rw [← hframeOwner, howner]
        written := ⟨prepared, account, hprepared, haccount, rfl⟩ }
  · rintro ⟨creator, vault, args, bump, m₁, a, h, rfl⟩
    obtain ⟨systemProgram, haccounts, hsystem⟩ := h.accounts
    obtain ⟨prepared, account, hprepared, haccount, rfl⟩ := h.written
    obtain ⟨hframeData, hframeOwner⟩ := h.funded.frame
    refine ⟨args, m, ⟨h.parsed, rfl⟩, creator, vault, systemProgram, m, ⟨haccounts, rfl⟩, (), m,
      ⟨by simp [h.signer], rfl⟩, (), m, ⟨hsystem, rfl⟩, bump, m, ⟨h.address, rfl⟩, true, m,
      ⟨by simp [h.fresh], rfl⟩, (), m, ⟨by simp, rfl⟩, (), _,
      ⟨m₁, h.funded, ⟨_, signerSeeds_create h.address⟩, h.privileged, ?_, ?_, rfl⟩, _,
      ⟨account, ?_, prepared, hprepared, rfl⟩, rfl⟩
    · rw [hframeData, h.fresh]
    · rw [hframeOwner, h.system]
    · rw [Machine.data_allot, if_pos rfl]
      exact haccount

end Specs

end Initialize

end DualKey
