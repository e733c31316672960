import DualKey.Program.Initialize

/-!
# Token transfers with the vault as authority

`transferSpl` checks the five accounts of a token transfer and lends the vault's
signature to one `TransferChecked`. Token-2022 accounts may carry extensions behind
their base bytes; `rejectIfTransferHook` walks them and refuses transfer hooks.
-/

namespace DualKey

open Buffer

namespace SplToken

/-- Length of a token account without extensions. -/
@[simp] abbrev tokenAccountLen : ℕ := 165

/-- Length of a mint without extensions. -/
@[simp] abbrev mintLen : ℕ := 82

/-- Length of a multisig, up to which base bytes may be padded. -/
@[simp] abbrev multisigLen : ℕ := 355

/-- Extension type of a mint's transfer hook. -/
def extTransferHook : UInt16 := 14

/-- Extension type of a token account's transfer hook. -/
def extTransferHookAccount : UInt16 := 15

def isSupportedTokenProgram (id : Pubkey) : Bool :=
  decide (id = tokenProgramId) || decide (id = token2022ProgramId)

/-! ### The extension walk -/

/-- Walk the entries from position `i`: two bytes of type, two of length, the value. A
zero entry ends the walk. -/
def scanTlv (data : List UInt8) (i : ℕ) : DkRes Unit :=
  if _h : i + 4 ≤ data.length then do
    let ty ← sliceVec 2 data i
    let len ← sliceVec 2 data (i + 2)
    let extType := u16FromLe ty
    let extLen := (u16FromLe len).toNat
    -- an entry that runs past the end is refused before its type is looked at
    Res.failIf (data.length < i + 4 + extLen) .invalidAccountData
    Res.failIf (extType = extTransferHook ∨ extType = extTransferHookAccount) .invalidAccountData
    if extType = 0 ∧ extLen = 0 then
      pure ()
    else
      scanTlv data (i + 4 + extLen)
  else
    pure ()
termination_by data.length - i
decreasing_by omega

/-- Refuse an account whose extensions contain a transfer hook. The walk starts behind
the account-type byte, which follows the base bytes or their padding. -/
def rejectIfTransferHook (data : List UInt8) (baseLen : ℕ) : DkRes Unit :=
  if data.length ≤ baseLen then
    pure ()
  else do
    -- a base padded with zeros to the length of a multisig has its entries behind the padding
    let padded ← if multisigLen < data.length ∧ baseLen < multisigLen then do
        let padding ← slice data baseLen (multisigLen - baseLen)
        pure (padding.all (· = 0))
      else
        pure false
    let tlvStart := if padded then multisigLen else baseLen
    if data.length ≤ tlvStart then
      pure ()
    else
      scanTlv data (tlvStart + 1)

/-! ### The transfer -/

/-- The `TransferChecked` instruction: opcode 12, amount, decimals. -/
def transferCheckedInstruction (tokenProgram source mint destination authority : Pubkey)
    (amount : UInt64) (decimals : UInt8) : Instruction where
  programId := tokenProgram
  accounts :=
    [⟨source, false, true⟩, ⟨mint, false, false⟩, ⟨destination, false, true⟩,
      ⟨authority, true, false⟩]
  data := 12 :: (u64ToLe amount).toList ++ [decimals]

theorem transferCheckedInstruction_accounts
    (tokenProgram source mint destination authority : Pubkey) (amount : UInt64)
    (decimals : UInt8) :
    (transferCheckedInstruction tokenProgram source mint destination authority amount
      decimals).accounts = [⟨source, false, true⟩, ⟨mint, false, false⟩,
        ⟨destination, false, true⟩, ⟨authority, true, false⟩] := rfl

/-- What a token account must look like for `mint`: long enough, hook-free, and recorded
for that mint. -/
def checkTokenAccount (data : List UInt8) (mint : Pubkey) : DkRes Unit := do
  Res.failIf (data.length < tokenAccountLen) .invalidAccountData
  rejectIfTransferHook data tokenAccountLen
  let recorded ← slice data 0 32
  Res.failIf (recorded ≠ mint.toList) .invalidAccountData

/-- The source must also be controlled by the vault and hold the amount. -/
def checkSource (data : List UInt8) (mint authority : Pubkey) (amount : UInt64) :
    DkRes Unit := do
  checkTokenAccount data mint
  let owner ← slice data 32 32
  Res.failIf (owner ≠ authority.toList) .invalidAccountData
  let balance ← sliceVec 8 data 64
  Res.failIf (u64FromLe balance < amount) .insufficientFunds

/-- A mint must be long enough and hook-free; its decimals enter the instruction. -/
def mintDecimals (data : List UInt8) : DkRes UInt8 := do
  Res.failIf (data.length < mintLen) .invalidAccountData
  rejectIfTransferHook data mintLen
  index data 44

/-- Index and bump of the vault, from which its signer seeds are rebuilt. -/
def seedParts (data : List UInt8) : DkRes (UInt8 × UInt32) := do
  let bump ← index data 1
  let accountIndex ← HybridAccount.accountIndexFromSlice data
  pure (bump, accountIndex)

variable (P : Platform)

/-- Check the accounts of a token transfer and invoke `TransferChecked` with the vault as
authority. A zero amount passes the same checks and invokes nothing. -/
def transferSpl (hybridAccount creator source mint destination tokenProgram : AccountInfo)
    (amount : UInt64) (expectedDestination : Pubkey) : Prog Unit := do
  Exec.failIf (destination.key ≠ expectedDestination) .invalidAccountData
  Exec.failIf (source.key = destination.key) .invalidAccountData
  Exec.failIf (isSupportedTokenProgram tokenProgram.key = false) .invalidProgramAccount
  let sourceOwner ← source.owner
  let destinationOwner ← destination.owner
  let mintOwner ← mint.owner
  Exec.failIf (sourceOwner ≠ tokenProgram.key ∨ destinationOwner ≠ tokenProgram.key ∨
    mintOwner ≠ tokenProgram.key) .invalidAccountData
  Exec.failIf (source.isWritable = false ∨ destination.isWritable = false) .invalidAccountData
  let (bump, accountIndex) ← hybridAccount.tryBorrowData seedParts
  let seeds := Pda.signerSeeds creator.key accountIndex bump
  let derived ← Exec.okOr (P.createProgramAddress seeds P.programId) .invalidPda
  Exec.failIf (derived ≠ hybridAccount.key) .invalidPda
  let decimals ← mint.tryBorrowData mintDecimals
  source.tryBorrowData fun sourceData => checkSource sourceData mint.key hybridAccount.key amount
  destination.tryBorrowData fun destData => checkTokenAccount destData mint.key
  if amount = 0 then
    pure ()
  else
    invokeSigned P
      (.token (transferCheckedInstruction tokenProgram.key source.key mint.key destination.key
        hybridAccount.key amount decimals))
      [source, mint, destination, hybridAccount, tokenProgram] [seeds] .insufficientFunds

/-- The part of `transferSpl` in front of the invocation. It yields the signer seeds and the
decimals of the mint. -/
def transferSplChecks (hybridAccount creator source mint destination tokenProgram : AccountInfo)
    (amount : UInt64) (expectedDestination : Pubkey) : Prog (List (List UInt8) × UInt8) := do
  Exec.failIf (destination.key ≠ expectedDestination) .invalidAccountData
  Exec.failIf (source.key = destination.key) .invalidAccountData
  Exec.failIf (isSupportedTokenProgram tokenProgram.key = false) .invalidProgramAccount
  let sourceOwner ← source.owner
  let destinationOwner ← destination.owner
  let mintOwner ← mint.owner
  Exec.failIf (sourceOwner ≠ tokenProgram.key ∨ destinationOwner ≠ tokenProgram.key ∨
    mintOwner ≠ tokenProgram.key) .invalidAccountData
  Exec.failIf (source.isWritable = false ∨ destination.isWritable = false) .invalidAccountData
  let (bump, accountIndex) ← hybridAccount.tryBorrowData seedParts
  let seeds := Pda.signerSeeds creator.key accountIndex bump
  let derived ← Exec.okOr (P.createProgramAddress seeds P.programId) .invalidPda
  Exec.failIf (derived ≠ hybridAccount.key) .invalidPda
  let decimals ← mint.tryBorrowData mintDecimals
  source.tryBorrowData fun sourceData => checkSource sourceData mint.key hybridAccount.key amount
  destination.tryBorrowData fun destData => checkTokenAccount destData mint.key
  pure (seeds, decimals)

/-- A transfer is its checks, followed by the invocation. -/
theorem transferSpl_eq (hybridAccount creator source mint destination tokenProgram : AccountInfo)
    (amount : UInt64) (expectedDestination : Pubkey) :
    transferSpl P hybridAccount creator source mint destination tokenProgram amount
        expectedDestination =
      transferSplChecks P hybridAccount creator source mint destination tokenProgram amount
        expectedDestination >>= fun p =>
      if amount = 0 then pure ()
      else invokeSigned P
        (.token (transferCheckedInstruction tokenProgram.key source.key mint.key destination.key
          hybridAccount.key amount p.2))
        [source, mint, destination, hybridAccount, tokenProgram] [p.1] .insufficientFunds := by
  unfold transferSpl transferSplChecks
  simp only [Exec.bind_assoc, Exec.pure_bind]

/-! ### What a successful transfer has checked -/

/-- Everything `transferSpl` checks before it invokes the token program, with the vault
`a` it read and the mint's decimals. -/
structure Checks (m : Machine) (vault creator source mint destination tokenProgram : AccountInfo)
    (amount : UInt64) (a : HybridAccount) (decimals : UInt8) : Prop where
  distinct : source.key ≠ destination.key
  program : isSupportedTokenProgram tokenProgram.key = true
  sourceOwner : m.owner source.key = tokenProgram.key
  destinationOwner : m.owner destination.key = tokenProgram.key
  mintOwner : m.owner mint.key = tokenProgram.key
  sourceWritable : source.isWritable = true
  destinationWritable : destination.isWritable = true
  /-- Creator, stored index and stored bump rebuild the vault address. -/
  seeds : P.createProgramAddress
    (Pda.signerSeeds creator.key a.fields.accountIndex a.fields.bump) P.programId = some vault.key
  mintAccount : mintDecimals (m.data mint.key) = .ok decimals
  sourceAccount : checkSource (m.data source.key) mint.key vault.key amount = .ok ()
  destinationAccount : checkTokenAccount (m.data destination.key) mint.key = .ok ()

section Specs

variable {P} {inv : InvokeContext} {m m' : Machine}

/-- A token account that passes is at least as long as its base and records the mint. -/
theorem checkTokenAccount_eq_ok {data : List UInt8} {mint : Pubkey} {u : Unit} :
    checkTokenAccount data mint = .ok u ↔
      tokenAccountLen ≤ data.length ∧ rejectIfTransferHook data tokenAccountLen = .ok () ∧
      Buffer.read data 0 32 = mint.toList := by
  simp only [checkTokenAccount, Res.bind_eq_ok, Res.failIf_eq_ok, slice_eq_ok, not_lt, not_not]
  constructor
  · rintro ⟨-, hlen, ⟨⟩, hhook, recorded, ⟨-, hread⟩, hmint⟩
    exact ⟨hlen, hhook, hread.trans hmint⟩
  · rintro ⟨hlen, hhook, hmint⟩
    exact ⟨(), hlen, (), hhook, _, ⟨Nat.le_trans (by decide) hlen, rfl⟩, hmint⟩

/-- A source that passes is a token account of the mint that records the vault as owner
and holds the amount. -/
theorem checkSource_eq_ok {data : List UInt8} {mint authority : Pubkey} {amount : UInt64}
    {u : Unit} :
    checkSource data mint authority amount = .ok u ↔
      checkTokenAccount data mint = .ok () ∧ Buffer.read data 32 32 = authority.toList ∧
      amount ≤ u64FromLe (readVec 8 data 64) := by
  simp only [checkSource, Res.bind_eq_ok, Res.failIf_eq_ok, slice_eq_ok, sliceVec_eq_ok, not_not,
    UInt64.not_lt]
  constructor
  · rintro ⟨⟨⟩, haccount, owner, ⟨-, howner⟩, _, hauthority, balance, ⟨-, hread⟩, hbalance⟩
    exact ⟨haccount, howner.trans hauthority, hread ▸ hbalance⟩
  · rintro ⟨haccount, hauthority, hbalance⟩
    have hlen := (checkTokenAccount_eq_ok.mp haccount).1
    exact ⟨(), haccount, _, ⟨Nat.le_trans (by decide) hlen, rfl⟩, (), hauthority, _,
      ⟨Nat.le_trans (by decide) hlen, rfl⟩, hbalance⟩

/-- On a vault account the seed parts are its stored bump and index. -/
theorem seedParts_eq_ok {data : List UInt8} {bump : UInt8} {accountIndex : UInt32} :
    seedParts data = .ok (bump, accountIndex) ↔
      ∃ a : HybridAccount, data = a.data ∧ a.fields.bump = bump ∧
        a.fields.accountIndex = accountIndex := by
  simp only [seedParts, Res.bind_eq_ok, index_eq_ok, Res.pure_eq_ok, Prod.mk.injEq,
    HybridAccount.accountIndexFromSlice_eq_ok]
  constructor
  · rintro ⟨b, ⟨-, hb⟩, i, ⟨a, rfl, hi⟩, rfl, rfl⟩
    exact ⟨a, rfl, hb, hi⟩
  · rintro ⟨a, rfl, hb, hi⟩
    have hlen : a.data.length = 1120 := a.length_eq
    exact ⟨bump, ⟨by omega, hb⟩, accountIndex, ⟨a, rfl, hi⟩, rfl, rfl⟩

/-- Exactness of the checks. -/
theorem transferSplChecks_eq_ok
    {vault creator source mint destination tokenProgram : AccountInfo} {amount : UInt64}
    {expectedDestination : Pubkey} {seeds : List (List UInt8)} {decimals : UInt8} :
    transferSplChecks P vault creator source mint destination tokenProgram amount
        expectedDestination inv.enter m = .ok ((seeds, decimals), m') ↔
      m = m' ∧ destination.key = expectedDestination ∧
      ∃ a, m.data vault.key = a.data ∧
        Checks P m vault creator source mint destination tokenProgram amount a decimals ∧
        Pda.signerSeeds creator.key a.fields.accountIndex a.fields.bump = seeds := by
  simp only [transferSplChecks, Exec.bind_eq_ok, Exec.failIf_eq_ok, not_not, not_or,
    AccountInfo.owner_eq_ok, AccountInfo.tryBorrowData_eq_ok, Prod.exists, Exec.okOr_eq_ok,
    seedParts_eq_ok, Exec.pure_eq_ok, Prod.mk.injEq]
  constructor
  · intro h
    obtain ⟨_, _, ⟨hexpected, rfl⟩, _, _, ⟨hdistinct, rfl⟩, _, _, ⟨hprogram, rfl⟩, h⟩ := h
    -- the three owners are read before they are compared
    obtain ⟨_, _, ⟨rfl, rfl⟩, _, _, ⟨rfl, rfl⟩, _, _, ⟨rfl, rfl⟩, h⟩ := h
    obtain ⟨_, _, ⟨⟨hsource, hdestination, hmint⟩, rfl⟩, h⟩ := h
    obtain ⟨_, _, ⟨⟨hsourceW, hdestinationW⟩, rfl⟩, h⟩ := h
    obtain ⟨_, _, _, ⟨⟨a, ha, rfl, rfl⟩, rfl⟩, h⟩ := h
    obtain ⟨derived, _, ⟨hseeds, rfl⟩, _, _, ⟨hderived, rfl⟩, h⟩ := h
    obtain ⟨_, _, ⟨hmintAccount, rfl⟩, h⟩ := h
    obtain ⟨⟨⟩, _, ⟨hsourceAccount, rfl⟩, ⟨⟩, _, ⟨hdestinationAccount, rfl⟩, h⟩ := h
    obtain ⟨⟨hsigners, rfl⟩, rfl⟩ := h
    refine ⟨rfl, hexpected, a, ha, ?_, hsigners⟩
    exact
      { distinct := hdistinct, program := by simpa using hprogram, sourceOwner := hsource
        destinationOwner := hdestination, mintOwner := hmint
        sourceWritable := by simpa using hsourceW
        destinationWritable := by simpa using hdestinationW
        seeds := hderived ▸ hseeds, mintAccount := hmintAccount
        sourceAccount := hsourceAccount, destinationAccount := hdestinationAccount }
  · rintro ⟨rfl, hexpected, a, ha, hc, hsigners⟩
    exact ⟨(), m, ⟨hexpected, rfl⟩, (), m, ⟨hc.distinct, rfl⟩, (), m,
      ⟨by simp [hc.program], rfl⟩, _, m, ⟨hc.sourceOwner, rfl⟩, _, m, ⟨hc.destinationOwner, rfl⟩,
      _, m, ⟨hc.mintOwner, rfl⟩, (), m, ⟨⟨rfl, rfl, rfl⟩, rfl⟩, (), m,
      ⟨⟨by simp [hc.sourceWritable], by simp [hc.destinationWritable]⟩, rfl⟩, a.fields.bump,
      a.fields.accountIndex, m, ⟨⟨a, ha, rfl, rfl⟩, rfl⟩, vault.key, m, ⟨hc.seeds, rfl⟩, (), m,
      ⟨rfl, rfl⟩, decimals, m, ⟨hc.mintAccount, rfl⟩, (), m, ⟨hc.sourceAccount, rfl⟩, (), m,
      ⟨hc.destinationAccount, rfl⟩, ⟨hsigners, rfl⟩, rfl⟩

/-- **Exactness of `transfer_spl`.** -/
theorem transferSpl_eq_ok {vault creator source mint destination tokenProgram : AccountInfo}
    {amount : UInt64} {expectedDestination : Pubkey} {u : Unit} :
    transferSpl P vault creator source mint destination tokenProgram amount expectedDestination
        inv.enter m = .ok (u, m') ↔
      destination.key = expectedDestination ∧
      ∃ a decimals, m.data vault.key = a.data ∧
        Checks P m vault creator source mint destination tokenProgram amount a decimals ∧
        ((amount = 0 ∧ m = m') ∨
          (amount ≠ 0 ∧ invokeSigned P
            (.token (transferCheckedInstruction tokenProgram.key source.key mint.key
              destination.key vault.key amount decimals))
            [source, mint, destination, vault, tokenProgram]
            [Pda.signerSeeds creator.key a.fields.accountIndex a.fields.bump] .insufficientFunds
            inv.enter m = .ok (u, m'))) := by
  rw [transferSpl_eq, Exec.bind_eq_ok]
  simp only [Prod.exists, transferSplChecks_eq_ok]
  constructor
  · rintro ⟨_, decimals, _, ⟨rfl, hexpected, a, ha, hc, rfl⟩, h⟩
    refine ⟨hexpected, a, decimals, ha, hc, ?_⟩
    split at h
    · next hzero => exact Or.inl ⟨hzero, (Exec.pure_eq_ok.mp h).2⟩
    · next hne => exact Or.inr ⟨hne, h⟩
  · rintro ⟨hexpected, a, decimals, ha, hc, h⟩
    refine ⟨_, decimals, m, ⟨rfl, hexpected, a, ha, hc, rfl⟩, ?_⟩
    rcases h with ⟨hzero, rfl⟩ | ⟨hne, h⟩
    · rw [if_pos hzero]
      exact Exec.pure_eq_ok.mpr ⟨rfl, rfl⟩
    · rw [if_neg hne]
      exact h

end Specs

end SplToken

end DualKey
