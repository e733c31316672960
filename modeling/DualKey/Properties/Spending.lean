import DualKey.Properties.Commands

/-!
# Transfers by command

The transaction that `transfer` has built moves exactly the lamports it names. It is executed
when vault and recipient can take it (`Machine.CanPay`), whatever the policy of the vault, and
then the two balances change by the amount, no other does, and one nonce is consumed.
-/

namespace DualKey

open Dialogue Session Client Transition
open Hex (Codec)

/-- The vault can pay the recipient: it keeps the rent of its account, and the recipient's balance
does not overflow. Nothing has to move for an amount of zero. -/
structure Machine.CanPay (m : Machine) (rent : Rent) (vault recipient : Pubkey) (amount : UInt64) :
    Prop where
  distinct : recipient ≠ vault
  funds : amount ≠ 0 →
    (rent.minimumBalance accountDataLen).toNat + amount.toNat ≤ (m.lamports vault).toNat
  room : amount ≠ 0 → (m.lamports recipient).toNat + amount.toNat < 2 ^ 64

/-- The amount has moved from the one account to the other. -/
structure Paid (m : Machine) (vault recipient : Pubkey) (amount : UInt64) (m' : Machine) :
    Prop where
  debit : (m'.lamports vault).toNat + amount.toNat = (m.lamports vault).toNat
  credit : (m'.lamports recipient).toNat = (m.lamports recipient).toNat + amount.toNat
  others : ∀ k, k ≠ vault → k ≠ recipient → m'.lamports k = m.lamports k

section General

variable {Coins : Type} {P : Platform} {crypto : Crypto Coins} {hex : Codec} {sdk : Sdk}
  {inv : Invocation} {m m' : Machine}

/-! ### The movement -/

section Moves

variable {vault recipient : Pubkey} {amount : UInt64}

theorem exists_movesSol_iff {inv : InvokeContext} (hdistinct : recipient ≠ vault) :
    (∃ m', Execute.MovesSol inv m vault recipient amount m') ↔
      m.CanPay inv.rent vault recipient amount := by
  constructor
  · rintro ⟨m', hmoves⟩
    cases hmoves with
    | none hzero => exact ⟨hdistinct, fun h => absurd hzero h, fun h => absurd hzero h⟩
    | @moved remaining total _ hremaining hrent htotal =>
      rw [UInt64.le_iff_toNat_le] at hrent
      have hlt := total.toNat_lt
      exact ⟨hdistinct, fun _ => by omega, fun _ => by omega⟩
  · intro h
    by_cases hzero : amount = 0
    · exact ⟨m, .none hzero⟩
    · have hfunds := h.funds hzero
      have hlt := (m.lamports vault).toNat_lt
      obtain ⟨remaining, hremaining⟩ := exists_toNat_eq
        (show (m.lamports vault).toNat - amount.toNat < 2 ^ 64 by omega)
      obtain ⟨total, htotal⟩ := exists_toNat_eq (h.room hzero)
      have hmoved : Execute.MovesSol inv m vault recipient amount
          ((m.setLamports recipient total).setLamports vault remaining) :=
        .moved hzero (by omega) (UInt64.le_iff_toNat_le.mpr (by omega)) htotal.symm
      exact ⟨_, hmoved⟩

theorem Execute.MovesSol.paid {inv : InvokeContext} (hdistinct : recipient ≠ vault)
    (h : MovesSol inv m vault recipient amount m') : Paid m vault recipient amount m' := by
  cases h with
  | none hzero =>
    rw [hzero]
    exact ⟨rfl, rfl, fun _ _ _ => rfl⟩
  | @moved remaining total _ hremaining _ htotal =>
    refine ⟨?_, ?_, fun k hv hr => ?_⟩
    · simpa using hremaining
    · rw [htotal]
      simp [hdistinct]
    · simp [hv, hr]

/-- Only balances matter. -/
theorem Machine.CanPay.congr {m₁ : Machine} {rent : Rent} (h : ∀ k, m₁.lamports k = m.lamports k) :
    m₁.CanPay rent vault recipient amount ↔ m.CanPay rent vault recipient amount := by
  constructor
  · rintro ⟨hdistinct, hfunds, hroom⟩
    rw [h] at hfunds hroom
    exact ⟨hdistinct, hfunds, hroom⟩
  · rintro ⟨hdistinct, hfunds, hroom⟩
    exact ⟨hdistinct, by rwa [h], by rwa [h]⟩

theorem Paid.congr {m₁ : Machine} (h : ∀ k, m₁.lamports k = m.lamports k)
    (hpaid : Paid m₁ vault recipient amount m') : Paid m vault recipient amount m' := by
  constructor
  · rw [hpaid.debit, h]
  · rw [hpaid.credit, h]
  · intro k hv hr
    rw [hpaid.others k hv hr, h]

end Moves

/-! ### The handler -/

section Handler

variable {v recipient : Pubkey} {amount : UInt64} {r : VaultRecord} {intent : AuthorizationIntent}
  {sig : List UInt8} {digest : Digest} {a : HybridAccount} {policy : AuthorizationPolicy}
  {vault target sysvar : AccountInfo}

/-- What `Execute` does with an endorsed transfer. -/
theorem Endorsed.transferSol (h : Endorsed P inv m v r intent sig digest a policy)
    (hlen : inv.payload.length = authPayloadLen)
    (haction : intent.action = .transferSol target.key amount)
    (haccounts : inv.accounts = [vault, target, sysvar]) (hkey : vault.key = v)
    (hwritable : vault.isWritable = true) (htarget : target.isWritable = true)
    (hsysvar : sysvar.key = instructionsSysvarId) :
    ((∃ m', Processor.handler P .execute inv.accounts inv.payload inv.enter m.begin =
      .ok ((), m')) ↔ m.CanPay inv.rent v target.key amount) ∧
    ∀ m', Processor.handler P .execute inv.accounts inv.payload inv.enter m.begin = .ok ((), m') →
      Paid m v target.key amount m' := by
  subst hkey
  have hbalances : ∀ next k, (m.begin.setData vault.key (a.setNonce next).data).lamports k =
      m.lamports k := by
    intro next k
    rw [Machine.lamports_setData]
    rfl
  -- a success is a movement on the machine with the new nonce
  have hsuccess : ∀ m', Processor.handler P .execute inv.accounts inv.payload inv.enter m.begin =
      .ok ((), m') → target.key ≠ vault.key ∧ ∃ next, Execute.MovesSol inv.toInvokeContext
        (m.begin.setData vault.key (a.setNonce next).data) vault.key target.key amount m' := by
    intro m' hprocess
    obtain ⟨-, wire, sig', hpresents, hcase⟩ := Execute.process_eq_ok.mp hprocess
    rcases hcase with ⟨amount', vault', target', sysvar', a', auth, hc, hmoves⟩ | hcase
    · obtain ⟨rfl, rfl, rfl⟩ : vault' = vault ∧ target' = target ∧ sysvar' = sysvar := by
        simpa using hc.accounts.symm.trans haccounts
      obtain ⟨rfl, rfl, -⟩ := h.same rfl hpresents hc.authorized
      have hsame : amount' = amount := by simpa [haction] using hc.action.symm.trans haction
      exact ⟨hc.distinct, auth.nextNonce, hsame ▸ hmoves⟩
    · -- the signed action transfers no tokens
      obtain ⟨amount', _, _, _, _, destination, _, _, _, _, _, hc, -⟩ := hcase
      obtain ⟨hwire, -⟩ := hpresents.unique h.presents
      have hsame := (hwire ▸ hc.action).symm.trans haction
      cases hsame
  refine ⟨⟨?_, ?_⟩, ?_⟩
  · rintro ⟨m', hprocess⟩
    obtain ⟨hdistinct, next, hmoves⟩ := hsuccess m' hprocess
    exact (Machine.CanPay.congr (hbalances next)).mp
      ((exists_movesSol_iff hdistinct).mp ⟨m', hmoves⟩)
  · intro hpay
    obtain ⟨auth, -, -, hauth⟩ := h.authorized vault sysvar rfl hsysvar (by simp [haction])
    have hc : Execute.SolChecks P inv m.begin vault target sysvar (.fromIntent intent) sig amount a
        auth :=
      { accounts := haccounts, vaultWritable := hwritable, recipientWritable := htarget
        action := haction, distinct := hpay.distinct, authorized := hauth }
    obtain ⟨m', hmoves⟩ := (exists_movesSol_iff hpay.distinct).mpr
      ((Machine.CanPay.congr (hbalances auth.nextNonce)).mpr hpay)
    exact ⟨m', Execute.process_eq_ok.mpr ⟨hlen, _, sig, h.presents,
      Or.inl ⟨amount, vault, target, sysvar, a, auth, hc, hmoves⟩⟩⟩
  · intro m' hprocess
    obtain ⟨hdistinct, next, hmoves⟩ := hsuccess m' hprocess
    exact (hmoves.paid hdistinct).congr (hbalances next)

end Handler

/-! ### The command -/

/-- **A transfer moves what it names.** Where `transfer` succeeds for the vault of its keys and
the nonce of the vault, the precompile accepts the transaction it has built. The program executes
it before the expiry slot if and only if the vault can pay, under whatever policy, and then
exactly the named lamports have moved and one nonce is consumed. -/
theorem transfer_fate {params : TransferParams} {log : Log (Io.Answer Coins)} {built : Built}
    {v recipient : Pubkey} {r : VaultRecord} {ed : Ed25519Keypair} {falcon : FalconKeypair}
    (hdeployed : Deployed P crypto) (hdoc : sdk.Documented) (hreach : Reachable (chain P) m)
    (hrun : Path (transfer crypto hex sdk params) log (.ok built))
    (hprogram : sdk.parsePubkey params.programId = some P.programId)
    (hvault : sdk.parsePubkey params.hybridAccount = some v)
    (hrecipient : sdk.parsePubkey params.recipient = some recipient)
    (hed : HoldsEd25519 log params.keysDir ed) (hfalcon : HoldsFalcon log params.keysDir falcon)
    (hbelongs : BelongsTo P crypto m v r ed falcon)
    (hnonce : built.nonce.map UInt64.toNat = some r.nonce) (hslot : inv.slot ≤ params.expirySlot)
    (hhosts : inv.Hosts built.instructions) :
    Fate P m inv v r (m.CanPay inv.rent v recipient params.lamports) .execute ∧
      ∀ m', Step P m (.executed inv) m' → Paid m v recipient params.lamports m' := by
  obtain ⟨nonce, hbuilt⟩ := path_transfer hprogram hvault hrecipient hed hfalcon hrun
  have hbuild : ∀ {sig ix}, executeInstruction P.programId v (signingIntent P.programId v nonce
      params.expirySlot (.transferSol recipient params.lamports)) sig = .ok ix →
      sig.length = falconSignatureLen ∧ ix = {
        programId := P.programId
        data := signedData executeDiscriminator (signingIntent P.programId v nonce
          params.expirySlot (.transferSol recipient params.lamports)) sig
        accounts := [.new v false, .new recipient false,
          .newReadonly instructionsSysvarId false] } := by
    intro sig ix hix
    obtain ⟨hsig, recipient', lamports, haction, rfl⟩ := executeInstruction_ok hix
    obtain ⟨rfl, -⟩ := Action.transferSol.inj haction
    exact ⟨hsig, rfl⟩
  obtain ⟨sig, ix, -, hix, hgiven⟩ := BuiltFrom.given_of_pair hbuilt hbelongs hdeployed hdoc hhosts
    hnonce hslot
    (fun sig ix hix => by
      obtain ⟨hsig, rfl⟩ := hbuild hix
      exact ⟨rfl, fun hdata => presents_of_signedData hdata rfl hsig⟩)
    (fun _ _ hchange => by cases hchange)
  obtain ⟨hsig, rfl⟩ := hbuild hix
  obtain ⟨a, policy, hend⟩ := hgiven.endorsed
  have hpresented := hgiven.presented
  simp only [Instruction.Presented, List.forall₂_cons_left_iff, List.forall₂_nil_left_iff]
    at hpresented
  obtain ⟨vault, _, hvaultInfo, ⟨target, _, htarget, ⟨sysvar, _, hsysvar, rfl, rfl⟩, rfl⟩,
    haccounts⟩ := hpresented
  obtain rfl : target.key = recipient := htarget.key
  have hinstruction : inv.instruction = some .execute := instruction_of_data hgiven.data rfl
  obtain ⟨hiff, hpaid⟩ := hend.transferSol (presents_signedData hgiven.data hsig).1 rfl haccounts
    hvaultInfo.key (hvaultInfo.writable rfl) (htarget.writable rfl) hsysvar.key
  refine ⟨?_, fun m' hstep => hpaid m' ?_⟩
  · refine hgiven.fate hbelongs hreach hinstruction (by decide) rfl haccounts hvaultInfo.key ?_ hiff
    rw [Invocation.command, hinstruction]
  · cases hstep with
    | executed _ hprocess =>
      rw [← process_of_instruction (P := P) hinstruction]
      exact hprocess

end General

namespace SampleDeployment

open Sample

/-- The vault with lamports of its own, under a policy that asks Ed25519 for transfers. -/
def funded : Machine := replayed platform genesis [createPrivilegedVault]

theorem funded_reachable : Reachable (chain platform) funded :=
  reachable_replayed ⟨genesis_init.1, genesis_init.2⟩ (by decide +kernel)

/-- A million lamports for the creator of the vault. -/
def transferParams : TransferParams where
  keysDir := ["keys"]
  programId := "US517G5965aydkZ46HS38QLi7UQiSojurfbQfKCELFx"
  hybridAccount := "5GACELAFdGK61jnoQ7mVR61K1QJYunUwBQM916qsy41p"
  recipient := "EdmxWPmx2WH6WgFfTdu9xfkYf3k1g5wD1zccTVySEEh1"
  lamports := 1000000
  nonce := some 0
  expirySlot := 100
  out := none
  broadcast := ⟨false, none, none⟩

end SampleDeployment

open SampleDeployment SampleCrypto SampleSdk Sample in
theorem transfer_fate_million :
    ∃ inv m', Step SampleDeployment.platform SampleDeployment.funded (.executed inv) m' ∧
      Paid SampleDeployment.funded privilegedVault creator 1000000 m' := by
  have hrecord : (recordOf SampleDeployment.platform SampleDeployment.funded privilegedVault).map
      (fun r => (r.owner, r.nonce, r.recovery)) = some (owner, 0, false) := by
    decide +kernel
  obtain ⟨r, hnonce, -, hbelongs⟩ := exists_belongsTo hrecord
  have hrun : ((run answer (transfer crypto Hex.standard sdk transferParams)
      ()).1.toOption.map Built.nonce) = some (some 0) := by
    decide +kernel
  obtain ⟨built, log, hbuiltNonce, hpath, hreads⟩ := exists_path hrun
  have hed : HoldsEd25519 log transferParams.keysDir ownerEd25519 := hreads _ _ (by decide +kernel)
  have hfalcon : HoldsFalcon log transferParams.keysDir ownerFalcon :=
    ⟨hreads _ _ (by decide +kernel), hreads _ _ (by decide +kernel)⟩
  have hprogram : sdk.parsePubkey transferParams.programId =
      some SampleDeployment.platform.programId := by
    decide +kernel
  have hvault : sdk.parsePubkey transferParams.hybridAccount = some privilegedVault := by
    decide +kernel
  have hrecipient : sdk.parsePubkey transferParams.recipient = some creator := by decide +kernel
  obtain ⟨nonce, hbuilt⟩ := path_transfer hprogram hvault hrecipient hed hfalcon hpath
  obtain ⟨sig, ix, -, -, hixs⟩ := hbuilt.signed
  have hslot : (5 : UInt64) ≤ transferParams.expirySlot := by decide
  have hhosts : (hosting 5 built.instructions).Hosts built.instructions :=
    hixs ▸ hosting_hosts 5 [_] ix
  obtain ⟨hfate, hpaid⟩ := transfer_fate deployed sdk_documented funded_reachable hpath hprogram
    hvault hrecipient hed hfalcon hbelongs (by rw [hbuiltNonce, hnonce]; rfl) hslot hhosts
  have hpay : SampleDeployment.funded.CanPay rent privilegedVault creator
      transferParams.lamports :=
    ⟨by decide +kernel, fun _ => by decide +kernel, fun _ => by decide +kernel⟩
  obtain ⟨m', hstep⟩ := hfate.executed.mpr hpay
  exact ⟨_, m', hstep, hpaid m' hstep⟩

end DualKey
