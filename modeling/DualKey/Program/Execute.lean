import DualKey.Program.Authorize
import DualKey.Program.SplToken

/-!
# `Execute`

Authorize an intent, consume the nonce, then perform the signed transfer: of lamports
out of the vault itself, or of tokens with the vault as authority.
-/

namespace DualKey

variable (P : Platform)

namespace Execute

/-- Store the next nonce. -/
def bumpNonce (hybridAccount : AccountInfo) (nextNonce : UInt64) : Prog Unit :=
  hybridAccount.updateVault fun account => pure (account.setNonce nextNonce)

/-- Debit the vault and credit the recipient, keeping the vault rent-exempt. -/
def transferSol (hybridAccount recipient : AccountInfo) (amount : UInt64) : Prog Unit :=
  if amount = 0 then
    pure ()
  else do
    let env ← Exec.ask
    let rentMin := env.rent.minimumBalance accountDataLen
    let balance ← hybridAccount.lamports
    let remaining ← Exec.okOr (checkedSub balance amount) .insufficientFunds
    Exec.failIf (remaining < rentMin) .insufficientFunds
    -- the vault's cell stays borrowed while the recipient is credited
    hybridAccount.tryBorrowMutLamports fun _ => do
      recipient.tryBorrowMutLamports fun credited =>
        Exec.okOr (checkedAdd credited amount) .mathOverflow
      pure remaining

def processTransferSol (accounts : List AccountInfo) (wire : ExecuteIntentWire)
    (falconSig : List UInt8) (expectedRecipient : Pubkey) (lamports : UInt64) : Prog Unit := do
  let (hybridAccount, recipient, instructionsSysvar) ← threeAccounts accounts
  Exec.failIf (hybridAccount.isWritable = false ∨ recipient.isWritable = false)
    .invalidAccountData
  Exec.failIf (recipient.key ≠ expectedRecipient) .invalidAccountData
  Exec.failIf (recipient.key = hybridAccount.key) .invalidAccountData
  let auth ← authorize P hybridAccount instructionsSysvar wire falconSig
  bumpNonce hybridAccount auth.nextNonce
  transferSol hybridAccount recipient lamports

def processTransferSpl (accounts : List AccountInfo) (wire : ExecuteIntentWire)
    (falconSig : List UInt8) (expectedDestination : Pubkey) (amount : UInt64) : Prog Unit := do
  let (hybridAccount, creator, source, mint, destination, tokenProgram, instructionsSysvar) ←
    sevenAccounts accounts
  Exec.failIf (hybridAccount.isWritable = false) .invalidAccountData
  let auth ← authorize P hybridAccount instructionsSysvar wire falconSig
  bumpNonce hybridAccount auth.nextNonce
  SplToken.transferSpl P hybridAccount creator source mint destination tokenProgram amount
    expectedDestination

/-- Authorize the payload and execute its transfer; other actions are refused. -/
def process (accounts : List AccountInfo) (payload : List UInt8) : Prog Unit := do
  Exec.failIf (payload.length ≠ authPayloadLen) .malformedInstructionData
  let (wireBytes, falconSig) ← splitWireAndFalcon payload
  let wire ← ExecuteIntentWire.decode wireBytes
  match wire.action with
  | .transferSol recipient lamports =>
    processTransferSol P accounts wire falconSig recipient lamports
  | .transferSpl destination amount =>
    processTransferSpl P accounts wire falconSig destination amount
  | _ => Exec.fail .unsupportedAction

/-! ### What a successful `Execute` did -/

/-- The lamport movement of a transfer, on the machine with the new nonce. -/
inductive MovesSol (inv : InvokeContext) (m : Machine) (vault recipient : Pubkey)
    (amount : UInt64) : Machine → Prop where
  | none (h : amount = 0) : MovesSol inv m vault recipient amount m
  | moved {remaining total : UInt64} (h : amount ≠ 0)
    (hremaining : remaining.toNat + amount.toNat = (m.lamports vault).toNat)
    (hrent : inv.rent.minimumBalance accountDataLen ≤ remaining)
    (htotal : (m.lamports recipient).toNat + amount.toNat = total.toNat) :
    MovesSol inv m vault recipient amount
      ((m.setLamports recipient total).setLamports vault remaining)

/-- Everything a successful lamport transfer checked. -/
structure SolChecks (inv : InvokeContext) (m : Machine) (vault recipient sysvar : AccountInfo)
    (wire : ExecuteIntentWire) (falconSig : List UInt8) (amount : UInt64) (a : HybridAccount)
    (auth : Authorization) : Prop where
  accounts : inv.accounts = [vault, recipient, sysvar]
  vaultWritable : vault.isWritable = true
  recipientWritable : recipient.isWritable = true
  action : wire.action = .transferSol recipient.key amount
  distinct : recipient.key ≠ vault.key
  authorized : Authorized P inv m vault sysvar wire falconSig a auth

/-- Everything a successful token transfer checked before it reached the token program. -/
structure SplChecks (inv : InvokeContext) (m : Machine)
    (vault creator source mint destination tokenProgram sysvar : AccountInfo)
    (wire : ExecuteIntentWire) (falconSig : List UInt8) (amount : UInt64) (a : HybridAccount)
    (auth : Authorization) (decimals : UInt8) : Prop where
  accounts : inv.accounts =
    [vault, creator, source, mint, destination, tokenProgram, sysvar]
  vaultWritable : vault.isWritable = true
  action : wire.action = .transferSpl destination.key amount
  authorized : Authorized P inv m vault sysvar wire falconSig a auth
  checks : SplToken.Checks P (m.setData vault.key (a.setNonce auth.nextNonce).data) vault creator
    source mint destination tokenProgram amount (a.setNonce auth.nextNonce) decimals

/-- The one invocation a token transfer makes. -/
def splCpi (vault creator source mint destination tokenProgram : AccountInfo) (amount : UInt64)
    (a : HybridAccount) (decimals : UInt8) : Cpi where
  instruction := .token (SplToken.transferCheckedInstruction tokenProgram.key source.key mint.key
    destination.key vault.key amount decimals)
  signers := [Pda.signerSeeds creator.key a.fields.accountIndex a.fields.bump]

/-- The token movement of a transfer. -/
inductive MovesSpl (inv : InvokeContext) (m : Machine) (amount : UInt64) (cpi : Cpi) :
    Machine → Prop where
  | none (h : amount = 0) : MovesSpl inv m amount cpi m
  | moved {m₁ : Machine} (h : amount ≠ 0)
    (hpriv : ∀ entry ∈ cpi.instruction.metas, Privileged P inv cpi.signers entry)
    (hcall : runCallee P cpi.instruction m = some m₁) :
    MovesSpl inv m amount cpi (m₁.log cpi)

section Specs

variable {P} {inv : InvokeContext} {m m' : Machine}

theorem bumpNonce_eq_ok {vault : AccountInfo} {next : UInt64} {u : Unit} {a : HybridAccount}
    (ha : m.data vault.key = a.data) :
    bumpNonce vault next inv.enter m = .ok (u, m') ↔
      m.setData vault.key (a.setNonce next).data = m' := by
  simp only [bumpNonce, AccountInfo.updateVault_of_data ha, Res.pure_eq_ok, exists_eq_left']

/-- Moving lamports between two accounts. -/
theorem transferSol_eq_ok {vault recipient : AccountInfo} {amount : UInt64} {u : Unit}
    (hne : recipient.key ≠ vault.key) :
    transferSol vault recipient amount inv.enter m = .ok (u, m') ↔
      MovesSol inv m vault.key recipient.key amount m' := by
  unfold transferSol
  constructor
  · intro h
    split at h
    · next hzero =>
      obtain ⟨-, rfl⟩ := Exec.pure_eq_ok.mp h
      exact MovesSol.none hzero
    · next hzero =>
      simp only [Exec.bind_eq_ok, Exec.ask_eq_ok, AccountInfo.lamports_eq_ok, Exec.okOr_eq_ok,
        Exec.failIf_eq_ok, AccountInfo.tryBorrowMutLamports_eq_ok, checkedSub_eq_some,
        checkedAdd_eq_some, Exec.pure_eq_ok, UInt64.not_lt] at h
      obtain ⟨_, _, ⟨rfl, rfl⟩, _, _, ⟨rfl, rfl⟩, remaining, _, ⟨hremaining, rfl⟩, h⟩ := h
      obtain ⟨_, _, ⟨hrent, rfl⟩, -, _, _, h, rfl⟩ := h
      obtain ⟨_, _, ⟨-, total, _, ⟨htotal, rfl⟩, rfl⟩, rfl, rfl⟩ := h
      exact MovesSol.moved hzero hremaining hrent htotal
  · intro h
    cases h with
    | none hzero =>
      rw [if_pos hzero]
      exact Exec.pure_eq_ok.mpr ⟨rfl, rfl⟩
    | @moved remaining total hzero hremaining hrent htotal =>
      rw [if_neg hzero]
      simp only [Exec.bind_eq_ok, Exec.ask_eq_ok, AccountInfo.lamports_eq_ok, Exec.okOr_eq_ok,
        Exec.failIf_eq_ok, AccountInfo.tryBorrowMutLamports_eq_ok, checkedSub_eq_some,
        checkedAdd_eq_some, Exec.pure_eq_ok, UInt64.not_lt]
      -- with distinct keys the cell of the recipient is free
      refine ⟨_, _, ⟨rfl, rfl⟩, _, _, ⟨rfl, rfl⟩, remaining, _, ⟨hremaining, rfl⟩, (), _,
        ⟨hrent, rfl⟩, by simp, remaining, _, ⟨(), _, ⟨?_, total, _, ⟨htotal, rfl⟩, rfl⟩, rfl, rfl⟩,
        rfl⟩
      simpa using hne

theorem processTransferSol_eq_ok {wire : ExecuteIntentWire} {falconSig : List UInt8}
    {expected : Pubkey} {amount : UInt64} {u : Unit}
    (haction : wire.action = .transferSol expected amount) :
    processTransferSol P inv.accounts wire falconSig expected amount inv.enter m = .ok (u, m') ↔
      ∃ vault recipient sysvar a auth,
        SolChecks P inv m vault recipient sysvar wire falconSig amount a auth ∧
        MovesSol inv (m.setData vault.key (a.setNonce auth.nextNonce).data) vault.key
          recipient.key amount m' := by
  simp only [processTransferSol, Exec.bind_eq_ok, Exec.liftM_eq_ok, Prod.exists,
    threeAccounts_eq_ok, Exec.failIf_eq_ok, not_or, not_not, authorize_eq_ok]
  constructor
  · intro h
    obtain ⟨vault, recipient, sysvar, _, ⟨haccounts, rfl⟩, h⟩ := h
    obtain ⟨_, _, ⟨⟨hvault, hrecipient⟩, rfl⟩, h⟩ := h
    obtain ⟨_, _, ⟨hexpected, rfl⟩, _, _, ⟨hdistinct, rfl⟩, auth, _, ⟨rfl, a, hauth⟩, h⟩ := h
    obtain ⟨_, _, hbump, h⟩ := h
    obtain rfl := (bumpNonce_eq_ok hauth.data).mp hbump
    refine ⟨vault, recipient, sysvar, a, auth, ?_, (transferSol_eq_ok hdistinct).mp h⟩
    exact
      { accounts := haccounts, vaultWritable := by simpa using hvault
        recipientWritable := by simpa using hrecipient, action := by rw [haction, hexpected]
        distinct := hdistinct, authorized := hauth }
  · rintro ⟨vault, recipient, sysvar, a, auth, hc, hmoves⟩
    have hexpected : recipient.key = expected := by
      have := hc.action.symm.trans haction
      rw [Action.transferSol.injEq] at this
      exact this.1
    exact ⟨vault, recipient, sysvar, m, ⟨hc.accounts, rfl⟩, (), m,
      ⟨⟨by simp [hc.vaultWritable], by simp [hc.recipientWritable]⟩, rfl⟩, (), m,
      ⟨hexpected, rfl⟩, (), m, ⟨hc.distinct, rfl⟩, auth, m, ⟨rfl, a, hc.authorized⟩, (), _,
      (bumpNonce_eq_ok hc.authorized.data).mpr rfl, (transferSol_eq_ok hc.distinct).mpr hmoves⟩

theorem processTransferSpl_eq_ok {wire : ExecuteIntentWire} {falconSig : List UInt8}
    {expected : Pubkey} {amount : UInt64} {u : Unit}
    (haction : wire.action = .transferSpl expected amount) :
    processTransferSpl P inv.accounts wire falconSig expected amount inv.enter m = .ok (u, m') ↔
      ∃ vault creator source mint destination tokenProgram sysvar a auth decimals,
        SplChecks P inv m vault creator source mint destination tokenProgram sysvar wire falconSig
          amount a auth decimals ∧
        MovesSpl P inv (m.setData vault.key (a.setNonce auth.nextNonce).data) amount
          (splCpi vault creator source mint destination tokenProgram amount a decimals) m' := by
  simp only [processTransferSpl, Exec.bind_eq_ok, Exec.liftM_eq_ok, Prod.exists,
    sevenAccounts_eq_ok, Exec.failIf_eq_ok, authorize_eq_ok, SplToken.transferSpl_eq_ok,
    invokeSigned_eq_ok]
  constructor
  · intro h
    obtain ⟨vault, creator, source, mint, destination, tokenProgram, sysvar, _, ⟨haccounts, rfl⟩,
      h⟩ := h
    obtain ⟨_, _, ⟨hvault, rfl⟩, auth, _, ⟨rfl, a, hauth⟩, _, _, hbump, h⟩ := h
    obtain rfl := (bumpNonce_eq_ok hauth.data).mp hbump
    obtain ⟨hexpected, a', decimals, ha', hchecks, h⟩ := h
    -- the transfer reads back the account that now carries the next nonce
    have hview : a' = a.setNonce auth.nextNonce := by
      rw [Machine.data_setData, if_pos rfl] at ha'
      exact (HybridAccount.data_injective ha').symm
    subst hview
    refine ⟨vault, creator, source, mint, destination, tokenProgram, sysvar, a, auth, decimals,
      ?_, ?_⟩
    · exact
        { accounts := haccounts, vaultWritable := by simpa using hvault
          action := by rw [haction, hexpected], authorized := hauth, checks := hchecks }
    · rw [HybridAccount.fields_setNonce] at h
      rcases h with ⟨hzero, rfl⟩ | ⟨hne, -, hpriv, m₁, hcall, rfl⟩
      · exact MovesSpl.none hzero
      · exact MovesSpl.moved hne hpriv hcall
  · rintro ⟨vault, creator, source, mint, destination, tokenProgram, sysvar, a, auth, decimals, hc,
      hmoves⟩
    have hexpected : destination.key = expected := by
      have := hc.action.symm.trans haction
      rw [Action.transferSpl.injEq] at this
      exact this.1
    -- that the seeds derive an address has been checked before the invocation
    have hseeds := hc.checks.seeds
    refine ⟨vault, creator, source, mint, destination, tokenProgram, sysvar, m,
      ⟨hc.accounts, rfl⟩, (), m, ⟨by simp [hc.vaultWritable], rfl⟩, auth, m,
      ⟨rfl, a, hc.authorized⟩, (), _, (bumpNonce_eq_ok hc.authorized.data).mpr rfl, hexpected,
      a.setNonce auth.nextNonce, decimals, by simp, hc.checks, ?_⟩
    rw [HybridAccount.fields_setNonce] at hseeds ⊢
    cases hmoves with
    | none hzero => exact Or.inl ⟨hzero, rfl⟩
    | @moved m₁ hne hpriv hcall =>
      refine Or.inr ⟨hne, ?_, hpriv, m₁, hcall, rfl⟩
      intro seeds hmem
      rw [List.mem_singleton.mp hmem]
      exact ⟨_, hseeds⟩

/-- **Exactness of `Execute`.** -/
theorem process_eq_ok {payload : List UInt8} {u : Unit} :
    process P inv.accounts payload inv.enter m = .ok (u, m') ↔
      payload.length = authPayloadLen ∧
      ∃ wire falconSig, Presents payload wire falconSig ∧
        ((∃ amount vault recipient sysvar a auth,
          SolChecks P inv m vault recipient sysvar wire falconSig amount a auth ∧
          MovesSol inv (m.setData vault.key (a.setNonce auth.nextNonce).data) vault.key
            recipient.key amount m') ∨
        (∃ amount vault creator source mint destination tokenProgram sysvar a auth decimals,
          SplChecks P inv m vault creator source mint destination tokenProgram sysvar wire
            falconSig amount a auth decimals ∧
          MovesSpl P inv (m.setData vault.key (a.setNonce auth.nextNonce).data) amount
            (splCpi vault creator source mint destination tokenProgram amount a decimals) m')) := by
  simp only [process, Exec.bind_eq_ok, Exec.failIf_eq_ok, Exec.liftM_eq_ok, Prod.exists, not_not]
  constructor
  · intro h
    obtain ⟨_, _, ⟨hlen, rfl⟩, wireBytes, falconSig, _, ⟨hsplit, rfl⟩, wire, _, ⟨hdecode, rfl⟩,
      h⟩ := h
    obtain ⟨-, hpresents⟩ := (splitWireAndFalcon_eq_ok hlen).mp ⟨hsplit, hdecode⟩
    refine ⟨hlen, wire, falconSig, hpresents, ?_⟩
    cases haction : wire.action with
    | transferSol recipient lamports =>
      simp only [haction] at h
      exact Or.inl ⟨lamports, (processTransferSol_eq_ok haction).mp h⟩
    | transferSpl destination amount =>
      simp only [haction] at h
      exact Or.inr ⟨amount, (processTransferSpl_eq_ok haction).mp h⟩
    | _ =>
      -- `Execute` refuses everything but a transfer
      simp only [haction] at h
      exact absurd h Exec.fail_ne_ok
  · rintro ⟨hlen, wire, falconSig, hpresents, h⟩
    obtain ⟨hsplit, hdecode⟩ := (splitWireAndFalcon_eq_ok hlen).mpr ⟨rfl, hpresents⟩
    refine ⟨(), m, ⟨hlen, rfl⟩, _, falconSig, m, ⟨hsplit, rfl⟩, wire, m, ⟨hdecode, rfl⟩, ?_⟩
    rcases h with ⟨amount, vault, recipient, sysvar, a, auth, hc, hmoves⟩ |
      ⟨amount, vault, creator, source, mint, destination, tokenProgram, sysvar, a, auth, decimals,
        hc, hmoves⟩
    · simp only [hc.action]
      exact (processTransferSol_eq_ok hc.action).mpr
        ⟨vault, recipient, sysvar, a, auth, hc, hmoves⟩
    · simp only [hc.action]
      exact (processTransferSpl_eq_ok hc.action).mpr
        ⟨vault, creator, source, mint, destination, tokenProgram, sysvar, a, auth, decimals, hc,
          hmoves⟩

end Specs

end Execute

end DualKey
