import DualKey.Properties.NonceAccounting

/-!
# What a signed token transfer fixes

The digest of a token transfer covers the destination's address and the amount. Source,
mint and token program are accounts of the instruction, picked by whoever submits it. What
ties them down is the destination as it is when the transfer runs: the mint must be the one
the destination records, and the source must record that mint and the vault as its owner
(`AuthorizedBy.spendsToken`).

So two submissions of one intent move the same amount to the same address, and spend the
same mint as long as the destination records the same mint. Which of the vault's token
accounts of that mint pays is not signed, and whoever closes the destination and creates it
again for another mint has the transfer spend that mint.
-/

namespace DualKey

open Transition

/-- The step spends `amount` of `mint` from the token account `source` of the vault at `v`,
towards `destination`: one `TransferChecked` signed for the vault, or none for a zero
amount. -/
structure SpendsToken (P : Platform) (v source mint destination tokenProgram : Pubkey)
    (amount : UInt64) (m m' : Machine) : Prop where
  supported : SplToken.isSupportedTokenProgram tokenProgram = true
  sourceOwner : m.owner source = tokenProgram
  destinationOwner : m.owner destination = tokenProgram
  mintOwner : m.owner mint = tokenProgram
  /-- The source records the vault as its owner. -/
  authority : Buffer.read (m.data source) 32 32 = v.toList
  sourceMint : Buffer.read (m.data source) 0 32 = mint.toList
  destinationMint : Buffer.read (m.data destination) 0 32 = mint.toList
  balance : amount ≤ u64FromLe (Buffer.readVec 8 (m.data source) 64)
  cpis : ∃ decimals seeds, P.createProgramAddress seeds P.programId = some v ∧
    m'.cpis = if amount = 0 then [] else
      [⟨.token (SplToken.transferCheckedInstruction tokenProgram source mint destination v amount
        decimals), [seeds]⟩]
  /-- No other account changes. -/
  frame : ∀ k, k ≠ v → k ≠ source → k ≠ destination → m'.accounts k = m.accounts k

variable {P : Platform} {m m' : Machine} {v : Pubkey}

/-- The invocations a token transfer makes. -/
theorem Execute.MovesSpl.cpis {inv : Invocation} {amount : UInt64} {cpi : Cpi} {ix : Instruction}
    (h : MovesSpl P inv m amount cpi m') (hix : cpi.instruction = .token ix) :
    m'.cpis = m.cpis ++ if amount = 0 then [] else [cpi] := by
  cases h with
  | none hzero => rw [if_pos hzero, List.append_nil]
  | @moved m₁ hne _ hcall =>
    rw [hix] at hcall
    have hsame : m₁.cpis = m.cpis := (tokenTransferChecked_frame hcall).2.1
    rw [if_neg hne, Machine.cpis_log, hsame]

/-- A token program changes the source and the destination of a transfer only. -/
theorem tokenTransferChecked_accounts {ix : Instruction}
    {source mint destination authority : AccountMeta} {k : Pubkey}
    (hix : ix.accounts = [source, mint, destination, authority])
    (h : tokenTransferChecked P m ix = some m') (hsource : k ≠ source.pubkey)
    (hdestination : k ≠ destination.pubkey) : m'.accounts k = m.accounts k := by
  obtain ⟨s', d', -, -, -, rfl⟩ := tokenTransferChecked_of_accounts hix h
  simp only [Machine.setData, Machine.setLamports, Machine.accounts_set, if_neg hsource,
    if_neg hdestination]

theorem Execute.MovesSpl.accounts {inv : Invocation}
    {vault creator source mint destination tokenProgram : AccountInfo} {amount : UInt64}
    {a : HybridAccount} {decimals : UInt8} {k : Pubkey}
    (h : MovesSpl P inv m amount
      (splCpi vault creator source mint destination tokenProgram amount a decimals) m')
    (hsource : k ≠ source.key) (hdestination : k ≠ destination.key) :
    m'.accounts k = m.accounts k := by
  rcases h.transferred with rfl | ⟨m₁, htransfer, rfl⟩
  · rfl
  · show m₁.accounts k = m.accounts k
    exact tokenTransferChecked_accounts (SplToken.transferCheckedInstruction_accounts ..) htransfer
      hsource hdestination

/-- What the checks of a token transfer say about its accounts, the vault's own account not
being one of the token program's. -/
theorem Execute.SplChecks.spendsToken {inv : Invocation}
    {vault creator source mint destination tokenProgram sysvar : AccountInfo}
    {wire : ExecuteIntentWire} {falconSig : List UInt8} {amount : UInt64} {a : HybridAccount}
    {auth : Authorization} {decimals : UInt8}
    (hc : SplChecks P inv m.begin vault creator source mint destination tokenProgram sysvar wire
      falconSig amount a auth decimals)
    (hmoves : MovesSpl P inv (m.begin.setData vault.key (a.setNonce auth.nextNonce).data) amount
      (splCpi vault creator source mint destination tokenProgram amount a decimals) m') :
    SpendsToken P vault.key source.key mint.key destination.key tokenProgram.key amount m m' := by
  have hchecks := hc.checks
  have hprogram : tokenProgram.key ≠ P.programId :=
    (SplToken.supported_ne_program hchecks.program).symm
  have hsourceOwner : m.owner source.key = tokenProgram.key := by
    simpa using hchecks.sourceOwner
  have hdestinationOwner : m.owner destination.key = tokenProgram.key := by
    simpa using hchecks.destinationOwner
  have hmintOwner : m.owner mint.key = tokenProgram.key := by
    simpa using hchecks.mintOwner
  -- the new nonce is written to an account of the program, so the token accounts are as before
  have hdata (k : Pubkey) (hk : m.owner k = tokenProgram.key) :
      (m.begin.setData vault.key (a.setNonce auth.nextNonce).data).data k = m.data k := by
    have hne : k ≠ vault.key := by
      rintro rfl
      exact hprogram (hk.symm.trans hc.authorized.owner)
    rw [Machine.data_setData, if_neg hne, Machine.data_begin]
  have hseeds := hchecks.seeds
  rw [HybridAccount.fields_setNonce] at hseeds
  have hsource := hchecks.sourceAccount
  have hdestination := hchecks.destinationAccount
  rw [hdata source.key hsourceOwner, SplToken.checkSource_eq_ok] at hsource
  rw [hdata destination.key hdestinationOwner] at hdestination
  obtain ⟨hsourceAccount, hauthority, hbalance⟩ := hsource
  obtain ⟨-, -, hsourceMint⟩ := SplToken.checkTokenAccount_eq_ok.mp hsourceAccount
  obtain ⟨-, -, hdestinationMint⟩ := SplToken.checkTokenAccount_eq_ok.mp hdestination
  refine ⟨hchecks.program, hsourceOwner, hdestinationOwner, hmintOwner, hauthority, hsourceMint,
    hdestinationMint, hbalance, ⟨decimals, _, hseeds, ?_⟩, ?_⟩
  · have hcpis := hmoves.cpis rfl
    rw [Machine.cpis_setData, Machine.cpis_begin, List.nil_append] at hcpis
    exact hcpis
  · intro k hvault hsource hdestination
    rw [hmoves.accounts hsource hdestination, Machine.setData, Machine.accounts_set, if_neg hvault]
    rfl

/-- **What one submission spends**: the signed amount, to the signed destination, of the mint
the destination records. -/
theorem AuthorizedBy.spendsToken {i : AuthorizationIntent} {destination : Pubkey} {amount : UInt64}
    {e : Edge Machine Label} (h : AuthorizedBy P i e)
    (haction : i.action = .transferSpl destination amount) :
    ∃ source mint tokenProgram,
      SpendsToken P i.account source mint destination tokenProgram amount e.pre e.post := by
  cases h with
  | @mk m m' inv vault sysvar op wire falconSig a auth hperforms hpresents hsigns hauth hintent =>
    subst hintent
    have hwire : wire.action = .transferSpl destination amount := haction
    rw [hwire] at hsigns
    obtain rfl : op = .transferSpl destination amount := hsigns.eq_of_transfer rfl rfl
    cases hperforms with
    | @mk _ vault' _ hruntime hkey hix hp =>
      cases hp with
      | @transferSpl creator source mint dest tokenProgram sysvar' wire' falconSig' amount' a' auth'
          decimals _ hpresents' hc hmoves =>
        have hspends := hc.spendsToken hmoves
        rw [hkey] at hspends
        exact ⟨source.key, mint.key, tokenProgram.key, hspends⟩

/-! ### A transfer and its continuations -/

section Replay

open Sample

/-- The state in which the destination of the signed transfer, an account of the recipient, has
been closed and created again for another mint. -/
def recreated : Machine := (ed25519Created.set destination (tokenAccount mintB guardian 0)).begin

theorem recreated_step : Step platform ed25519Created .environment recreated := by
  have htoken : (tokenAccount mintB guardian 0).owner ≠ platform.programId := by decide +kernel
  exact Step.environment_set (by decide +kernel) (not_isPda (by decide +kernel))
    fun howner => absurd howner htoken

/-- The one invocation a submission of the signed transfer makes. -/
def spent (source mint : Pubkey) : Cpi where
  instruction := .token (SplToken.transferCheckedInstruction tokenProgramId source mint destination
    ed25519Vault 100 6)
  signers := [Pda.signerSeeds creator 0 255]

/-- From the state `m` a submission of the signed transfer spends `mint` from `source`. -/
def CanSpend (m : Machine) (source mint : Pubkey) : Prop :=
  ∃ m', Step platform m (.executed (spendToken source mint)) m' ∧
    AuthorizedBy platform tokenIntent ⟨m, .executed (spendToken source mint), m'⟩ ∧
    m'.cpis = [spent source mint]

/-- What a submission spends is seen by replaying it. -/
theorem canSpend {source mint : Pubkey}
    (hruntime : (spendToken source mint).PrecompilesAccepted platform)
    (h : (recordOf platform m ed25519Vault).map VaultRecord.nonce = some 0 ∧
      (submit platform m (spendToken source mint)).label.call = some (.execute, ed25519Vault) ∧
      (submit platform m (spendToken source mint)).post.cpis = [spent source mint]) :
    CanSpend m source mint := by
  obtain ⟨hrecord, hcall, hcpis⟩ := h
  obtain ⟨r, hr, hnonce⟩ := Option.map_eq_some_iff.mp hrecord
  obtain ⟨a, policy, hv, -, rfl⟩ := exists_vaultAt_of_recordOf hr
  -- the intent names nonce zero, which is that of the record
  have hzero : a.fields.nonce = 0 := UInt64.toNat_inj.mp hnonce
  have hstep := submit_step m hruntime
  have hlabel := (submit_executed hcall).1
  obtain ⟨op, hop, hix⟩ := hstep.performsOn_of_call hcall (by decide)
  have hsigned : op.isSigned = true := by
    cases op <;> first | rfl | cases hix
  have hpresents : Presents (spendToken source mint).payload (.fromIntent tokenIntent)
      (List.replicate falconSignatureLen 0) := by
    show Presents ((ExecuteIntentWire.encode (.fromIntent tokenIntent)).toList ++
      List.replicate falconSignatureLen 0) _ _
    exact ⟨by decide +kernel, by decide +kernel⟩
  rw [hlabel] at hstep hop
  have hauthorized := hop.authorizedBy_of_presents hsigned hv.data hpresents
  rw [hzero] at hauthorized
  exact ⟨_, hstep, hauthorized, hcpis⟩

theorem canSpend_firstSourceA : CanSpend ed25519Created firstSourceA mintA :=
  canSpend (by decide +kernel) (by decide +kernel)

theorem canSpend_secondSourceA : CanSpend ed25519Created secondSourceA mintA :=
  canSpend (by decide +kernel) (by decide +kernel)

theorem canSpend_sourceB : CanSpend recreated sourceB mintB :=
  canSpend (by decide +kernel) (by decide +kernel)

end Replay

/-! ### What the signature fixes -/

/-- **What the signature of a token transfer fixes.** Any two steps authorized by one
`TransferSpl` intent, in whatever states and with whatever accounts, spend the signed amount
from token accounts of the signing vault towards the signed destination. They spend the same
mint if the destination account records the same mint in both states, and go through the same
token program if it belongs to the same program. -/
theorem token_transfer_fixed {i : AuthorizationIntent} {destination : Pubkey} {amount : UInt64}
    {e e' : Edge Machine Label} (haction : i.action = .transferSpl destination amount)
    (h : AuthorizedBy P i e) (h' : AuthorizedBy P i e') :
    ∃ source mint tokenProgram source' mint' tokenProgram',
      SpendsToken P i.account source mint destination tokenProgram amount e.pre e.post ∧
      SpendsToken P i.account source' mint' destination tokenProgram' amount e'.pre e'.post ∧
      (Buffer.read (e.pre.data destination) 0 32 = Buffer.read (e'.pre.data destination) 0 32 →
        mint = mint') ∧
      (e.pre.owner destination = e'.pre.owner destination → tokenProgram = tokenProgram') := by
  obtain ⟨source, mint, tokenProgram, hs⟩ := h.spendsToken haction
  obtain ⟨source', mint', tokenProgram', hs'⟩ := h'.spendsToken haction
  refine ⟨source, mint, tokenProgram, source', mint', tokenProgram', hs, hs', ?_, ?_⟩
  · -- the mint spent is the one the destination records
    intro hrecorded
    rw [hs.destinationMint, hs'.destinationMint] at hrecorded
    exact Subtype.ext hrecorded
  · intro howner
    calc tokenProgram
        = e.pre.owner destination := hs.destinationOwner.symm
      _ = e'.pre.owner destination := howner
      _ = tokenProgram' := hs'.destinationOwner

open Sample in
/-- Both submissions from the first state spend the mint that the destination records there. -/
theorem token_transfer_fixed_replayed :
    ∃ m₁ m₂ source mint tokenProgram source' tokenProgram',
      SpendsToken platform ed25519Vault source mint destination tokenProgram 100 ed25519Created m₁ ∧
      SpendsToken platform ed25519Vault source' mint destination tokenProgram' 100 ed25519Created
        m₂ ∧
      m₁.cpis = [spent firstSourceA mintA] ∧ m₂.cpis = [spent secondSourceA mintA] := by
  obtain ⟨m₁, -, h₁, hcpis₁⟩ := canSpend_firstSourceA
  obtain ⟨m₂, -, h₂, hcpis₂⟩ := canSpend_secondSourceA
  have haction : tokenIntent.action = .transferSpl destination 100 := rfl
  obtain ⟨source, mint, tokenProgram, source', mint', tokenProgram', hs, hs', hmint, -⟩ :=
    token_transfer_fixed haction h₁ h₂
  obtain rfl := hmint rfl
  have haccount : tokenIntent.account = ed25519Vault := rfl
  simp only [haccount] at hs hs'
  exact ⟨m₁, m₂, source, mint, tokenProgram, source', tokenProgram', hs, hs', hcpis₁, hcpis₂⟩

open Sample in
/-- **The asset is not signed.** From one reachable state, with the vault's data as they were
when the intent was signed, three submissions of the intent succeed: two that spend one mint
from different token accounts of the vault, and one, after the recipient has created the
destination again, that spends another mint. -/
theorem token_asset_not_fixed :
    Reachable (chain platform) ed25519Created ∧
      CanSpend ed25519Created firstSourceA mintA ∧ CanSpend ed25519Created secondSourceA mintA ∧
      Step platform ed25519Created .environment recreated ∧
      recreated.data ed25519Vault = ed25519Created.data ed25519Vault ∧
      CanSpend recreated sourceB mintB ∧ firstSourceA ≠ secondSourceA ∧ mintA ≠ mintB := by
  refine ⟨ed25519Created_reachable, canSpend_firstSourceA, canSpend_secondSourceA, recreated_step,
    ?_, canSpend_sourceB, by decide, by decide⟩
  have hne : ed25519Vault ≠ destination := by decide +kernel
  rw [recreated, Machine.data_begin, Machine.data, Machine.accounts_set, if_neg hne, Machine.data]

end DualKey
