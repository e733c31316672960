import DualKey.Foundations.Settle
import DualKey.Program.MachineWords
import DualKey.Program.Processor
import DualKey.Properties.TokenExtensions
import DualKey.Properties.WireFormat

/-!
# No input aborts the program

Whatever the instruction data, the account list and the accounts are, `Processor.process` returns
a value or an error code, or a program it has invoked fails (`process_settles`). The panics of the
model are the accesses of `Buffer` out of bounds and the accessors of an account whose cell is
mutably borrowed.

* A reader tests the length before it reads (`guard_returns`). The one access without a test of
  its own is the bump in `seedParts`: the nonce has been stored by then, and storing it leaves
  data of a vault's length.
* A handler starts with nothing borrowed, and the accessors that panic are called outside every
  borrow. Cells belong to addresses, so this covers an account that is listed twice.
* The sums that depend on untrusted bytes fit a machine word, as `Program.MachineWords` shows.
-/

namespace DualKey

open Buffer

/-! ### Readers -/

section Readers

variable {data : List UInt8}

/-- What follows a length test may use it. -/
theorem guard_returns {α : Type} {n : ℕ} {e : DualKeyError} {f : Unit → DkRes α}
    (h : data.length = n → (f ()).Returns) : (Res.failIf (data.length ≠ n) e >>= f).Returns :=
  (Res.returns_failIf _ _).bind fun _ hlen => h (not_not.mp (Res.failIf_eq_ok.mp hlen))

namespace HybridAccount

theorem ownerEd25519FromSlice_returns : (ownerEd25519FromSlice data).Returns :=
  guard_returns fun hlen => sliceVec_returns (hlen ▸ by decide)

theorem preparedFalconPublicKeyFromSlice_returns :
    (preparedFalconPublicKeyFromSlice data).Returns :=
  guard_returns fun hlen => sliceVec_returns (hlen ▸ by decide)

theorem falconPublicKeyHashFromSlice_returns : (falconPublicKeyHashFromSlice data).Returns :=
  guard_returns fun hlen => sliceVec_returns (hlen ▸ by decide)

theorem versionFromSlice_returns : (versionFromSlice data).Returns :=
  guard_returns fun hlen => index_returns (hlen ▸ by decide)

theorem nonceFromSlice_returns : (nonceFromSlice data).Returns :=
  guard_returns fun hlen => (sliceVec_returns (hlen ▸ by decide)).bind fun _ _ => Res.returns_ok _

theorem accountIndexFromSlice_returns : (accountIndexFromSlice data).Returns :=
  guard_returns fun hlen => (sliceVec_returns (hlen ▸ by decide)).bind fun _ _ => Res.returns_ok _

theorem policyFromSlice_returns : (policyFromSlice data).Returns :=
  guard_returns fun hlen => (index_returns (hlen ▸ by decide)).bind fun _ _ => Res.returns_okOr _ _

theorem recoveryEnabledFromSlice_returns : (recoveryEnabledFromSlice data).Returns :=
  guard_returns fun hlen => (index_returns (hlen ▸ by decide)).bind fun _ _ => Res.returns_ok _

theorem falconRequiredAboveFromSlice_returns : (falconRequiredAboveFromSlice data).Returns := by
  refine guard_returns fun hlen => (index_returns (hlen ▸ by decide)).bind fun flags _ => ?_
  split
  · exact Res.returns_ok _
  · exact (sliceVec_returns (hlen ▸ by decide)).bind fun _ _ => Res.returns_ok _

theorem tryFromBytes_returns : (tryFromBytes data).Returns := by
  unfold tryFromBytes
  split
  · exact Res.returns_ok _
  · exact Res.returns_fail _

theorem initializeWithoutFalconKey_returns {bump : UInt8} {accountIndex : UInt32}
    {owner : Pubkey} {falconHash : Digest} {policy : AuthorizationPolicy} :
    (initializeWithoutFalconKey data bump accountIndex owner falconHash policy).Returns :=
  (Res.returns_failIf _ _).bind fun _ _ => Res.returns_ok _

end HybridAccount

namespace RecoveryConfig

theorem guardianFromSlice_returns : (guardianFromSlice data).Returns :=
  guard_returns fun hlen => (index_returns (hlen ▸ by decide)).bind fun _ _ =>
    (Res.returns_failIf _ _).bind fun _ _ => sliceVec_returns (hlen ▸ by decide)

theorem tryFromBytes_returns : (tryFromBytes data).Returns := by
  unfold tryFromBytes
  split
  · split
    · exact Res.returns_ok _
    · exact Res.returns_fail _
  · exact Res.returns_fail _

theorem initializeConfig_returns {bump : UInt8} {guardian : Pubkey} {delaySlots : UInt64} :
    (initializeConfig data bump guardian delaySlots).Returns :=
  (Res.returns_failIf _ _).bind fun _ _ => Res.returns_ok _

end RecoveryConfig

end Readers

/-! ### Parsers and checks -/

section Checks

variable {P : Platform}

theorem twoAccounts_returns (l : List AccountInfo) : (twoAccounts l).Returns := by
  unfold twoAccounts
  split
  · exact Res.returns_ok _
  · exact Res.returns_fail _

theorem threeAccounts_returns (l : List AccountInfo) : (threeAccounts l).Returns := by
  unfold threeAccounts
  split
  · exact Res.returns_ok _
  · exact Res.returns_fail _

theorem fiveAccounts_returns (l : List AccountInfo) : (fiveAccounts l).Returns := by
  unfold fiveAccounts
  split
  · exact Res.returns_ok _
  · exact Res.returns_fail _

theorem sevenAccounts_returns (l : List AccountInfo) : (sevenAccounts l).Returns := by
  unfold sevenAccounts
  split
  · exact Res.returns_ok _
  · exact Res.returns_fail _

theorem splitWireAndFalcon_returns (payload : List UInt8) : (splitWireAndFalcon payload).Returns :=
  (Res.returns_failIf _ _).bind fun _ _ => Res.returns_ok _

theorem Rotate.splitFalconPayload_returns (payload : List UInt8) :
    (splitFalconPayload payload).Returns :=
  (Res.returns_okOr _ _).bind fun _ _ => (Res.returns_okOr _ _).bind fun _ _ =>
    (Res.returns_okOr _ _).bind fun _ _ => (Res.returns_failIf _ _).bind fun _ _ =>
    Res.returns_ok _

theorem Initialize.parse_returns (payload : List UInt8) : (parse payload).Returns :=
  guard_returns fun hlen => (sliceVec_returns (hlen ▸ by decide)).bind fun _ _ =>
    (sliceVec_returns (hlen ▸ by decide)).bind fun _ _ =>
    (index_returns (hlen ▸ by decide)).bind fun _ _ => (Res.returns_okOr _ _).bind fun _ _ =>
    (Res.returns_failIf _ _).bind fun _ _ => (slice_returns (hlen ▸ by decide)).bind fun _ _ =>
    Res.returns_ok _

theorem digestCanonicalPreimage_returns (preimage : List UInt8) :
    (digestCanonicalPreimage P preimage).Returns :=
  (Res.returns_failIf _ _).bind fun _ _ => Res.returns_ok _

theorem prepareFalconKey_returns (falconWirePubkey : List UInt8) :
    (prepareFalconKey P falconWirePubkey).Returns :=
  (Res.returns_failIf _ _).bind fun _ _ => Res.returns_okOr _ _

theorem verifyFalconRaw_returns (pubkeyWire message signature : List UInt8) :
    (verifyFalconRaw P pubkeyWire message signature).Returns :=
  (Res.returns_failIf _ _).bind fun _ _ => (Res.returns_failIf _ _).bind fun _ _ =>
    Res.returns_failIf _ _

theorem Pda.verify_returns (creator : Pubkey) (accountIndex : UInt32) (expected : Pubkey) :
    (verify P creator accountIndex expected).Returns :=
  (Res.returns_okOr _ _).bind fun _ _ => (Res.returns_failIf _ _).bind fun _ _ => Res.returns_ok _

theorem SocialRecovery.verifyRecoveryConfigPda_returns (hybridAccount recoveryConfig : Pubkey) :
    (verifyRecoveryConfigPda P hybridAccount recoveryConfig).Returns :=
  (Res.returns_okOr _ _).bind fun _ _ => (Res.returns_failIf _ _).bind fun _ _ => Res.returns_ok _

theorem effectiveRequirement_returns (current : AuthorizationPolicy)
    (currentThreshold : Option UInt64) (recoveryEnabled : Bool) (action : Action) :
    (effectiveRequirement current currentThreshold recoveryEnabled action).Returns := by
  unfold effectiveRequirement
  split
  · split
    · exact Res.returns_ok _
    · exact Res.returns_fail _
  · exact (Res.returns_okOr _ _).bind fun _ _ => (Res.returns_failIf _ _).bind fun _ _ =>
      Res.returns_ok _
  · exact Res.returns_ok _

/-- A scheme is verified or probed, and both verifiers return. -/
theorem collectSignatures_returns (inv : InvokeContext) (req : SignatureRequirement)
    (sysvar : AccountInfo) (owner : Pubkey) (prepared : PreparedFalconPubkey) (digest : Digest)
    (falconSig : List UInt8) :
    (collectSignatures P inv req sysvar owner prepared digest falconSig).Returns := by
  have hed : (verifyEd25519Precompile inv sysvar owner digest).Returns :=
    verifyEd25519Precompile_returns
  have hfalcon : (verifyFalconPrepared P prepared.toList digest.toList falconSig).Returns :=
    verifyFalconPrepared_returns
  cases req with
  | either => exact hed.attempt.bind fun _ _ => hfalcon.attempt.bind fun _ _ => Res.returns_ok _
  | ed25519 => exact hed.bind fun _ _ => Res.returns_ok _
  | falcon => exact hfalcon.bind fun _ _ => Res.returns_ok _
  | both => exact hed.bind fun _ _ => hfalcon.bind fun _ _ => Res.returns_ok _

theorem evaluateRequirement_returns (req : SignatureRequirement) (sigs : SignatureValidity) :
    (evaluateRequirement req sigs).Returns := by
  have hite (c : Prop) [Decidable c] (e : DualKeyError) :
      (if c then pure () else Res.fail e : DkRes Unit).Returns := by
    split
    · exact Res.returns_ok _
    · exact Res.returns_fail _
  cases req with
  | ed25519 => exact hite _ _
  | falcon => exact hite _ _
  | both => exact (Res.returns_failIf _ _).bind fun _ _ => Res.returns_failIf _ _
  | either => exact hite _ _

namespace SplToken

/-- A length test from below. -/
theorem lower_guard_returns {α : Type} {data : List UInt8} {n : ℕ} {e : DualKeyError}
    {f : Unit → DkRes α} (h : n ≤ data.length → (f ()).Returns) :
    (Res.failIf (data.length < n) e >>= f).Returns :=
  (Res.returns_failIf _ _).bind fun _ hlen => h (Nat.le_of_not_lt (Res.failIf_eq_ok.mp hlen))

theorem mintDecimals_returns (data : List UInt8) : (mintDecimals data).Returns :=
  lower_guard_returns fun hlen => (rejectIfTransferHook_returns _ _).bind fun _ _ =>
    index_returns (Nat.lt_of_lt_of_le (by decide) hlen)

theorem checkTokenAccount_returns (data : List UInt8) (mint : Pubkey) :
    (checkTokenAccount data mint).Returns :=
  lower_guard_returns fun hlen => (rejectIfTransferHook_returns _ _).bind fun _ _ =>
    (slice_returns (Nat.le_trans (by decide) hlen)).bind fun _ _ => Res.returns_failIf _ _

/-- The owner and the balance lie inside the base bytes, whose length the first check tests. -/
theorem checkSource_returns (data : List UInt8) (mint authority : Pubkey) (amount : UInt64) :
    (checkSource data mint authority amount).Returns := by
  refine (checkTokenAccount_returns data mint).bind fun _ h => ?_
  have hlen : tokenAccountLen ≤ data.length := (checkTokenAccount_eq_ok.mp h).1
  exact (slice_returns (Nat.le_trans (by decide) hlen)).bind fun _ _ =>
    (Res.returns_failIf _ _).bind fun _ _ =>
    (sliceVec_returns (Nat.le_trans (by decide) hlen)).bind fun _ _ => Res.returns_failIf _ _

/-- The bump is read without a test: it is there when the data is a vault's. -/
theorem seedParts_returns {data : List UInt8} (hlen : data.length = accountDataLen) :
    (seedParts data).Returns :=
  (index_returns (hlen ▸ by decide)).bind fun _ _ =>
    HybridAccount.accountIndexFromSlice_returns.bind fun _ _ => Res.returns_ok _

end SplToken

end Checks

/-! ### Accounts -/

section Accounts

variable {P : Platform} {calls : Prop} {inv : InvokeContext} {r : Env} {m : Machine}
  {a : AccountInfo} {α : Type}

/-- The unchecked accessors need their cell to be free. -/
theorem settles_dataIsEmpty (h : Cell.data a.key ∉ r.held) : Exec.Settles calls a.dataIsEmpty r m :=
  .ask_bind <| .bind (.panicUnless h) fun _ _ _ => .gets _

theorem settles_dataLen (h : Cell.data a.key ∉ r.held) : Exec.Settles calls a.dataLen r m :=
  .ask_bind <| .bind (.panicUnless h) fun _ _ _ => .gets _

theorem settles_lamports (h : Cell.lamports a.key ∉ r.held) : Exec.Settles calls a.lamports r m :=
  .ask_bind <| .bind (.panicUnless h) fun _ _ _ => .gets _

/-- On entry every cell is free. -/
theorem free_enter (c : Cell) : c ∉ inv.enter.held := List.not_mem_nil

/-- A reader of the data it finds. -/
theorem settles_tryBorrowData {k : List UInt8 → DkRes α} (hk : (k (m.data a.key)).Returns) :
    Exec.Settles calls (a.tryBorrowData k) r m :=
  .ask_bind <| .failIf_bind fun _ => .gets_bind <| .lift hk

theorem settles_tryBorrowMutData {k : List UInt8 → DkRes (List UInt8 × α)}
    (hk : ∀ data, (k data).Returns) : Exec.Settles calls (a.tryBorrowMutData k) r m :=
  .ask_bind <| .failIf_bind fun _ => .gets_bind <| .lift_bind (hk _) fun ⟨_, _⟩ _ =>
    .bind (.modify _) fun _ _ _ => .pure _

theorem settles_tryBorrowMutLamports {k : UInt64 → Prog UInt64}
    (hk : ∀ l, Exec.Settles calls (k l) { r with held := .lamports a.key :: r.held } m) :
    Exec.Settles calls (a.tryBorrowMutLamports k) r m :=
  .ask_bind <| .failIf_bind fun _ => .gets_bind <| .bind (.withEnv (hk _)) fun _ _ _ => .modify _

theorem settles_updateVault {f : HybridAccount → DkRes HybridAccount}
    (hf : ∀ account, (f account).Returns) : Exec.Settles calls (a.updateVault f) r m :=
  settles_tryBorrowMutData fun _ => HybridAccount.tryFromBytes_returns.bind fun account _ =>
    (hf account).bind fun _ _ => Res.returns_ok _

theorem settles_updateConfig {f : RecoveryConfig → DkRes (RecoveryConfig × α)}
    (hf : ∀ config, (f config).Returns) : Exec.Settles calls (a.updateConfig f) r m :=
  settles_tryBorrowMutData fun _ => RecoveryConfig.tryFromBytes_returns.bind fun config _ =>
    (hf config).bind fun _ _ => Res.returns_ok _

/-- An invocation fails with the code of its borrow check or with the callee. -/
theorem settles_invokeSigned (hcalls : calls) (c : CpiInstruction) (infos : List AccountInfo)
    (signers : List (List (List UInt8))) (e : DualKeyError) :
    Exec.Settles calls (invokeSigned P c infos signers e) r m :=
  .ask_bind <| .failIf_bind fun _ => .bind (.calleeUnless _ hcalls) fun _ _ _ =>
    .bind (.calleeUnless _ hcalls) fun _ _ _ => .bind (.callee _ hcalls) fun _ _ _ => .modify _

theorem settles_reconstructAndDigest (wire : ExecuteIntentWire) :
    Exec.Settles calls (reconstructAndDigest P a wire) r m := by
  refine .gets_bind <| .failIf_bind fun _ => .bind ?_ fun nonce _ _ => ?_
  · exact settles_tryBorrowData <| HybridAccount.versionFromSlice_returns.bind fun _ _ =>
      (Res.returns_failIf _ _).bind fun _ _ => HybridAccount.nonceFromSlice_returns
  · exact .lift_bind (digestCanonicalPreimage_returns _) fun _ _ => .pure _

theorem settles_authorize (sysvar : AccountInfo) (wire : ExecuteIntentWire)
    (falconSig : List UInt8) : Exec.Settles calls (authorize P a sysvar wire falconSig) r m := by
  refine .failIf_bind fun _ => .ask_bind <| .failIf_bind fun _ => ?_
  refine .bind (settles_reconstructAndDigest wire) ?_
  rintro ⟨digest, ctx⟩ - -
  refine .bind (settles_tryBorrowData ?_) ?_
  · -- each reader tests the length again
    exact HybridAccount.policyFromSlice_returns.bind fun _ _ =>
      HybridAccount.ownerEd25519FromSlice_returns.bind fun _ _ =>
      HybridAccount.preparedFalconPublicKeyFromSlice_returns.bind fun _ _ =>
      HybridAccount.nonceFromSlice_returns.bind fun _ _ =>
      HybridAccount.falconRequiredAboveFromSlice_returns.bind fun _ _ =>
      HybridAccount.recoveryEnabledFromSlice_returns.bind fun _ _ => Res.returns_ok _
  rintro ⟨policy, owner, prepared, nonce, threshold, enabled⟩ - -
  refine .failIf_bind fun _ => .okOr_bind fun next _ => ?_
  refine .lift_bind (effectiveRequirement_returns _ _ _ _) fun req _ => ?_
  refine .lift_bind (collectSignatures_returns _ _ _ _ _ _ _) fun sigs _ => ?_
  exact .lift_bind (evaluateRequirement_returns _ _) fun _ _ => .pure _

end Accounts

/-! ### Transfers -/

section Handlers

variable {P : Platform} {calls : Prop} {inv : InvokeContext} {m : Machine}

namespace Execute

/-- While the vault's balance is borrowed, the recipient's is borrowed with the checked accessor:
were the two one account, that would be an error. -/
theorem settles_transferSol (vault recipient : AccountInfo) (amount : UInt64) :
    Exec.Settles calls (transferSol vault recipient amount) inv.enter m := by
  refine .ite (fun _ => .pure _) fun _ => .ask_bind ?_
  refine .bind (settles_lamports (free_enter _)) fun balance _ _ => ?_
  refine .okOr_bind fun remaining _ => .failIf_bind fun _ => ?_
  refine settles_tryBorrowMutLamports fun _ => .bind ?_ fun _ _ _ => .pure _
  exact settles_tryBorrowMutLamports fun _ => .okOr _ _

theorem settles_processTransferSol (accounts : List AccountInfo) (wire : ExecuteIntentWire)
    (falconSig : List UInt8) (expected : Pubkey) (amount : UInt64) :
    Exec.Settles calls (processTransferSol P accounts wire falconSig expected amount) inv.enter
      m := by
  refine .lift_bind (threeAccounts_returns _) ?_
  rintro ⟨vault, recipient, sysvar⟩ -
  refine .failIf_bind fun _ => .failIf_bind fun _ => .failIf_bind fun _ => ?_
  refine .bind (settles_authorize _ _ _) fun auth _ _ => ?_
  refine .bind (settles_updateVault fun _ => Res.returns_ok _) fun _ _ _ => ?_
  exact settles_transferSol _ _ _

end Execute

/-- On the data of a vault every access of a token transfer is in bounds. -/
theorem SplToken.settles_transferSpl (hcalls : calls)
    {vault creator source mint destination tokenProgram : AccountInfo} {amount : UInt64}
    {expected : Pubkey} (hlen : (m.data vault.key).length = accountDataLen) :
    Exec.Settles calls (transferSpl P vault creator source mint destination tokenProgram amount
      expected) inv.enter m := by
  refine .failIf_bind fun _ => .failIf_bind fun _ => .failIf_bind fun _ => ?_
  refine .gets_bind <| .gets_bind <| .gets_bind <| .failIf_bind fun _ => .failIf_bind fun _ => ?_
  -- the bump and the index are read where a vault is
  refine .bind (settles_tryBorrowData (seedParts_returns hlen)) ?_
  rintro ⟨bump, accountIndex⟩ - -
  refine .okOr_bind fun derived _ => .failIf_bind fun _ => ?_
  -- mint, source and destination test their own lengths
  refine .bind (settles_tryBorrowData (mintDecimals_returns _)) fun decimals _ _ => ?_
  refine .bind (settles_tryBorrowData (checkSource_returns _ _ _ _)) fun _ _ _ => ?_
  refine .bind (settles_tryBorrowData (checkTokenAccount_returns _ _)) fun _ _ _ => ?_
  exact .ite (fun _ => .pure _) fun _ => settles_invokeSigned hcalls _ _ _ _

namespace Execute

/-- Storing the nonce leaves the data of a vault, whatever was there before. -/
theorem settles_processTransferSpl (hcalls : calls) (accounts : List AccountInfo)
    (wire : ExecuteIntentWire) (falconSig : List UInt8) (expected : Pubkey) (amount : UInt64) :
    Exec.Settles calls (processTransferSpl P accounts wire falconSig expected amount) inv.enter
      m := by
  refine .lift_bind (sevenAccounts_returns _) ?_
  rintro ⟨vault, creator, source, mint, destination, tokenProgram, sysvar⟩ -
  refine .failIf_bind fun _ => .bind (settles_authorize _ _ _) fun auth m₁ _ =>
    .bind (settles_updateVault fun _ => Res.returns_ok _) fun _ m₂ hbump => ?_
  obtain ⟨v, v', -, -, rfl⟩ := AccountInfo.updateVault_eq_ok.mp hbump
  refine SplToken.settles_transferSpl hcalls ?_
  rw [Machine.data_setData, if_pos rfl]
  exact v'.length_eq

theorem settles_process (hcalls : calls) (accounts : List AccountInfo) (payload : List UInt8) :
    Exec.Settles calls (process P accounts payload) inv.enter m := by
  refine .failIf_bind fun _ => .lift_bind (splitWireAndFalcon_returns _) ?_
  rintro ⟨wireBytes, falconSig⟩ -
  refine .lift_bind (ExecuteIntentWire.decode_returns _) fun wire _ => ?_
  cases wire.action with
  | transferSol recipient lamports => exact settles_processTransferSol _ _ _ _ _
  | transferSpl destination amount => exact settles_processTransferSpl hcalls _ _ _ _ _
  | _ => exact .fail _

end Execute

/-! ### Keys, policy and recovery -/

theorem SocialRecovery.settles_clearPending (vault : Pubkey) (config : AccountInfo) :
    Exec.Settles calls (clearPendingAfterEd25519OwnerChange P vault config) inv.enter m := by
  refine .lift_bind (verifyRecoveryConfigPda_returns _ _) fun bump _ => ?_
  refine .bind (settles_dataIsEmpty (free_enter _)) fun isEmpty _ _ => ?_
  refine .ite (fun _ => .pure _) fun _ => .gets_bind ?_
  refine .failIf_bind fun _ => .failIf_bind fun _ => ?_
  exact settles_updateConfig fun _ => Res.returns_ok _

namespace Rotate

theorem settles_processRotateEd25519 (accounts : List AccountInfo) (payload : List UInt8) :
    Exec.Settles calls (processRotateEd25519 P accounts payload) inv.enter m := by
  refine .failIf_bind fun _ => .lift_bind (threeAccounts_returns _) ?_
  rintro ⟨vault, config, sysvar⟩ -
  refine .failIf_bind fun _ => .lift_bind (splitWireAndFalcon_returns _) ?_
  rintro ⟨wireBytes, falconSig⟩ -
  refine .lift_bind (ExecuteIntentWire.decode_returns _) fun wire _ => ?_
  refine .okOr_bind fun newPubkey _ => ?_
  refine .bind (settles_tryBorrowData HybridAccount.ownerEd25519FromSlice_returns) ?_
  rintro current - -
  refine .failIf_bind fun _ => .bind (settles_authorize _ _ _) fun auth _ _ => ?_
  refine .bind (settles_updateVault fun _ => Res.returns_ok _) fun _ _ _ => ?_
  exact SocialRecovery.settles_clearPending _ _

theorem settles_processRotateFalcon (accounts : List AccountInfo) (payload : List UInt8) :
    Exec.Settles calls (processRotateFalcon P accounts payload) inv.enter m := by
  refine .failIf_bind fun _ => .lift_bind (twoAccounts_returns _) ?_
  rintro ⟨vault, sysvar⟩ -
  refine .failIf_bind fun _ => .lift_bind (splitFalconPayload_returns _) ?_
  rintro ⟨wireBytes, falconAuth, newWirePk, falconPop⟩ -
  refine .lift_bind (ExecuteIntentWire.decode_returns _) fun wire _ => ?_
  refine .okOr_bind fun newPubkeyHash _ => .failIf_bind fun _ => ?_
  refine .bind (settles_tryBorrowData HybridAccount.falconPublicKeyHashFromSlice_returns) ?_
  rintro currentHash - -
  refine .failIf_bind fun _ => .bind (settles_authorize _ _ _) fun auth _ _ => ?_
  refine .lift_bind (verifyFalconRaw_returns _ _ _) fun _ _ => ?_
  refine .lift_bind (prepareFalconKey_returns _) fun prepared _ => ?_
  exact settles_updateVault fun _ => Res.returns_ok _

end Rotate

theorem ChangePolicy.settles_process (accounts : List AccountInfo) (payload : List UInt8) :
    Exec.Settles calls (process P accounts payload) inv.enter m := by
  refine .failIf_bind fun _ => .lift_bind (twoAccounts_returns _) ?_
  rintro ⟨vault, sysvar⟩ -
  refine .failIf_bind fun _ => .lift_bind (splitWireAndFalcon_returns _) ?_
  rintro ⟨wireBytes, falconSig⟩ -
  refine .lift_bind (ExecuteIntentWire.decode_returns _) fun wire _ => .okOr_bind ?_
  rintro ⟨newPolicy, threshold⟩ -
  refine .okOr_bind fun target _ => .failIf_bind fun _ => ?_
  refine .bind (settles_tryBorrowData ?_) ?_
  · exact HybridAccount.policyFromSlice_returns.bind fun _ _ =>
      HybridAccount.falconRequiredAboveFromSlice_returns.bind fun _ _ => Res.returns_ok _
  rintro ⟨current, currentThreshold⟩ - -
  refine .failIf_bind fun _ => .bind (settles_authorize _ _ _) fun auth _ _ => ?_
  exact settles_updateVault fun _ => Res.returns_ok _

namespace Recover

theorem settles_applyRecovery (vault : AccountInfo) (op : RecoveryOp) (newEd25519 : Pubkey)
    (auth : Authorization) :
    Exec.Settles calls (applyRecovery vault op newEd25519 auth) inv.enter m := by
  refine settles_updateVault fun account => ?_
  cases op with
  | enable => exact (Res.returns_failIf _ _).bind fun _ _ => Res.returns_ok _
  | disable => exact (Res.returns_failIf _ _).bind fun _ _ => Res.returns_ok _
  | rotateEd25519 => exact Res.returns_ok _

theorem settles_processFlag (accounts : List AccountInfo) (wire : ExecuteIntentWire)
    (falconSig : List UInt8) (op : RecoveryOp) (newEd25519 : Pubkey) :
    Exec.Settles calls (processFlag P accounts wire falconSig op newEd25519) inv.enter m := by
  refine .lift_bind (twoAccounts_returns _) ?_
  rintro ⟨vault, sysvar⟩ -
  refine .failIf_bind fun _ => .failIf_bind fun _ => ?_
  exact .bind (settles_authorize _ _ _) fun _ _ _ => settles_applyRecovery _ _ _ _

theorem settles_processRotate (accounts : List AccountInfo) (wire : ExecuteIntentWire)
    (falconSig : List UInt8) (op : RecoveryOp) (newEd25519 : Pubkey) :
    Exec.Settles calls (processRotate P accounts wire falconSig op newEd25519) inv.enter m := by
  refine .lift_bind (threeAccounts_returns _) ?_
  rintro ⟨vault, config, sysvar⟩ -
  refine .failIf_bind fun _ => ?_
  refine .bind (settles_tryBorrowData HybridAccount.ownerEd25519FromSlice_returns) ?_
  rintro current - -
  refine .failIf_bind fun _ => .bind (settles_authorize _ _ _) fun auth _ _ => ?_
  refine .bind (settles_applyRecovery _ _ _ _) fun _ _ _ => ?_
  exact SocialRecovery.settles_clearPending _ _

theorem settles_process (accounts : List AccountInfo) (payload : List UInt8) :
    Exec.Settles calls (process P accounts payload) inv.enter m := by
  refine .failIf_bind fun _ => .lift_bind (splitWireAndFalcon_returns _) ?_
  rintro ⟨wireBytes, falconSig⟩ -
  refine .lift_bind (ExecuteIntentWire.decode_returns _) fun wire _ => .okOr_bind ?_
  rintro ⟨op, newEd25519⟩ -
  cases op with
  | enable => exact settles_processFlag _ _ _ _ _
  | disable => exact settles_processFlag _ _ _ _ _
  | rotateEd25519 => exact settles_processRotate _ _ _ _ _

end Recover

/-! ### Social recovery -/

namespace SocialRecovery

theorem settles_createRecoveryConfigAccount (hcalls : calls) (payer config : AccountInfo)
    (vault : Pubkey) (bump : UInt8) :
    Exec.Settles calls (createRecoveryConfigAccount P payer config vault bump) inv.enter m := by
  refine .bind (settles_dataIsEmpty (free_enter _)) fun isEmpty _ _ => ?_
  refine .failIf_bind fun _ => .ask_bind ?_
  refine .bind (settles_invokeSigned hcalls _ _ _ _) fun _ _ _ => ?_
  refine .bind (settles_invokeSigned hcalls _ _ _ _) fun _ _ _ => ?_
  exact settles_invokeSigned hcalls _ _ _ _

theorem settles_storeRecoveryConfig (hcalls : calls) (payer config : AccountInfo) (vault : Pubkey)
    (bump : UInt8) (guardian : Pubkey) (delay : UInt64) :
    Exec.Settles calls (storeRecoveryConfig P payer config vault bump guardian delay) inv.enter
      m := by
  refine .bind (settles_dataIsEmpty (free_enter _)) fun isEmpty _ _ => ?_
  refine .ite (fun _ => ?_) fun _ => ?_
  · refine .bind (settles_createRecoveryConfigAccount hcalls _ _ _ _) fun _ _ _ => ?_
    exact settles_tryBorrowMutData fun _ => RecoveryConfig.initializeConfig_returns.bind
      fun _ _ => Res.returns_ok _
  · refine .gets_bind <| .failIf_bind fun _ => ?_
    exact settles_updateConfig fun _ => (Res.returns_failIf _ _).bind fun _ _ => Res.returns_ok _

theorem settles_processSetRecoveryConfig (hcalls : calls) (accounts : List AccountInfo)
    (payload : List UInt8) :
    Exec.Settles calls (processSetRecoveryConfig P accounts payload) inv.enter m := by
  refine .failIf_bind fun _ => .lift_bind (fiveAccounts_returns _) ?_
  rintro ⟨vault, config, payer, systemProgram, sysvar⟩ -
  refine .failIf_bind fun _ => .failIf_bind fun _ => .failIf_bind fun _ => ?_
  refine .gets_bind <| .failIf_bind fun _ => ?_
  refine .bind (settles_dataLen (free_enter _)) fun dataLen _ _ => .failIf_bind fun _ => ?_
  refine .lift_bind (verifyRecoveryConfigPda_returns _ _) fun bump _ => ?_
  refine .lift_bind (splitWireAndFalcon_returns _) ?_
  rintro ⟨wireBytes, falconSig⟩ -
  refine .lift_bind (ExecuteIntentWire.decode_returns _) fun wire _ => .okOr_bind ?_
  rintro ⟨guardian, delaySlots⟩ -
  refine .failIf_bind fun _ => .failIf_bind fun _ => ?_
  refine .bind (settles_authorize _ _ _) fun auth _ _ => ?_
  refine .bind (settles_storeRecoveryConfig hcalls _ _ _ _ _ _) fun _ _ _ => ?_
  exact settles_updateVault fun _ => Res.returns_ok _

/-- The payload is a key by its length. -/
theorem settles_processInitiateSocialRecovery (accounts : List AccountInfo)
    (payload : List UInt8) :
    Exec.Settles calls (processInitiateSocialRecovery P accounts payload) inv.enter m := by
  refine .failIf_bind fun hlen => .lift_bind (threeAccounts_returns _) ?_
  rintro ⟨vault, config, sysvar⟩ -
  refine .failIf_bind fun _ => .gets_bind <| .gets_bind <| .failIf_bind fun _ => ?_
  refine .lift_bind (verifyRecoveryConfigPda_returns _ _) fun bump _ => ?_
  have hkey : 0 + 32 ≤ payload.length := (not_not.mp hlen).ge
  refine .lift_bind (sliceVec_returns hkey) fun newEd25519 _ => .failIf_bind fun _ => ?_
  refine .bind (settles_tryBorrowData ?_) ?_
  · exact (Res.returns_failIf _ _).bind fun _ _ =>
      HybridAccount.recoveryEnabledFromSlice_returns.bind fun _ _ =>
      (Res.returns_failIf _ _).bind fun _ _ =>
      HybridAccount.ownerEd25519FromSlice_returns.bind fun _ _ =>
      HybridAccount.nonceFromSlice_returns.bind fun _ _ => Res.returns_ok _
  rintro ⟨currentOwner, nonce⟩ - -
  refine .failIf_bind fun _ => ?_
  refine .bind (settles_tryBorrowData RecoveryConfig.guardianFromSlice_returns) ?_
  rintro guardian - -
  refine .ask_bind <| .lift_bind verifyEd25519Precompile_returns fun _ _ => ?_
  -- the ready slot is a checked sum
  exact settles_updateConfig fun _ => (Res.returns_failIf _ _).bind fun _ _ =>
    (Res.returns_okOr _ _).bind fun _ _ => Res.returns_ok _

theorem settles_requireRecoveryEnabled (vault : AccountInfo) :
    Exec.Settles calls (requireRecoveryEnabled vault) inv.enter m :=
  settles_tryBorrowData <| HybridAccount.recoveryEnabledFromSlice_returns.bind fun _ _ =>
    Res.returns_failIf _ _

theorem settles_processFinalizeSocialRecovery (accounts : List AccountInfo)
    (payload : List UInt8) :
    Exec.Settles calls (processFinalizeSocialRecovery P accounts payload) inv.enter m := by
  refine .failIf_bind fun _ => .lift_bind (twoAccounts_returns _) ?_
  rintro ⟨vault, config⟩ -
  refine .failIf_bind fun _ => .gets_bind <| .gets_bind <| .failIf_bind fun _ => ?_
  refine .lift_bind (verifyRecoveryConfigPda_returns _ _) fun bump _ => ?_
  refine .bind (settles_requireRecoveryEnabled _) fun _ _ _ => .ask_bind ?_
  refine .bind (settles_updateConfig fun _ => ?_) fun pending _ _ => ?_
  · exact (Res.returns_failIf _ _).bind fun _ _ => (Res.returns_failIf _ _).bind fun _ _ =>
      Res.returns_ok _
  · -- the next nonce is a checked sum
    exact settles_updateVault fun _ => (Res.returns_okOr _ _).bind fun _ _ => Res.returns_ok _

theorem settles_processCancelSocialRecovery (accounts : List AccountInfo) (payload : List UInt8) :
    Exec.Settles calls (processCancelSocialRecovery P accounts payload) inv.enter m := by
  refine .failIf_bind fun _ => .lift_bind (threeAccounts_returns _) ?_
  rintro ⟨vault, config, sysvar⟩ -
  refine .failIf_bind fun _ => .gets_bind <| .gets_bind <| .failIf_bind fun _ => ?_
  refine .lift_bind (verifyRecoveryConfigPda_returns _ _) fun bump _ => ?_
  refine .bind (settles_requireRecoveryEnabled _) fun _ _ _ => ?_
  refine .lift_bind (splitWireAndFalcon_returns _) ?_
  rintro ⟨wireBytes, falconSig⟩ -
  refine .lift_bind (ExecuteIntentWire.decode_returns _) fun wire _ => .failIf_bind fun _ => ?_
  refine .bind (settles_authorize _ _ _) fun auth _ _ => ?_
  refine .bind (settles_updateConfig fun _ => ?_) fun _ _ _ => ?_
  · exact (Res.returns_failIf _ _).bind fun _ _ => Res.returns_ok _
  · exact settles_updateVault fun _ => Res.returns_ok _

end SocialRecovery

/-! ### Creation, harness and dispatch -/

namespace Initialize

theorem settles_payShortfall (hcalls : calls) (creator vault : AccountInfo) (shortfall : UInt64)
    (seeds : List (List UInt8)) :
    Exec.Settles calls (payShortfall P creator vault shortfall seeds) inv.enter m :=
  .ite (fun _ => settles_invokeSigned hcalls _ _ _ _) fun _ => .pure _

theorem settles_createPdaAccount (hcalls : calls) (creator vault : AccountInfo)
    (accountIndex : UInt32) (bump : UInt8) :
    Exec.Settles calls (createPdaAccount P creator vault accountIndex bump) inv.enter m := by
  refine .ask_bind <| .bind (settles_lamports (free_enter _)) fun balance _ _ => ?_
  refine .bind (settles_payShortfall hcalls _ _ _ _) fun _ _ _ => ?_
  refine .bind (settles_invokeSigned hcalls _ _ _ _) fun _ _ _ => ?_
  exact settles_invokeSigned hcalls _ _ _ _

theorem settles_process (hcalls : calls) (accounts : List AccountInfo) (payload : List UInt8) :
    Exec.Settles calls (process P accounts payload) inv.enter m := by
  refine .lift_bind (parse_returns _) fun args _ => .lift_bind (threeAccounts_returns _) ?_
  rintro ⟨creator, vault, systemProgram⟩ -
  refine .failIf_bind fun _ => .failIf_bind fun _ => ?_
  refine .lift_bind (Pda.verify_returns _ _ _) fun bump _ => ?_
  refine .bind (settles_dataIsEmpty (free_enter _)) fun isEmpty _ _ => .failIf_bind fun _ => ?_
  refine .bind (settles_createPdaAccount hcalls _ _ _ _) fun _ _ _ => ?_
  exact settles_tryBorrowMutData fun _ =>
    HybridAccount.initializeWithoutFalconKey_returns.bind fun _ _ =>
    (prepareFalconKey_returns _).bind fun _ _ => Res.returns_ok _

end Initialize

theorem settles_processReconstructCanonicalDigest (accounts : List AccountInfo)
    (payload : List UInt8) :
    Exec.Settles calls (processReconstructCanonicalDigest P accounts payload) inv.enter m := by
  refine .failIf_bind fun _ => .okOr_bind fun account _ => .okOr_bind ?_
  rintro ⟨wireBytes, expected⟩ -
  refine .lift_bind (ExecuteIntentWire.decode_returns _) fun wire _ => .failIf_bind fun _ => ?_
  refine .bind (settles_reconstructAndDigest _) ?_
  rintro ⟨digest, ctx⟩ - -
  exact .failIf _ _

theorem settles_processVerifyFalconPrepared (accounts : List AccountInfo) (payload : List UInt8) :
    Exec.Settles calls (processVerifyFalconPrepared P accounts payload) inv.enter m := by
  refine .okOr_bind fun account _ => .okOr_bind ?_
  rintro ⟨signature, message⟩ -
  exact settles_tryBorrowData <| (Res.returns_okOr _ _).bind fun _ _ =>
    verifyFalconPrepared_returns

theorem settles_processVerifyFalconRaw (payload : List UInt8) :
    Exec.Settles calls (processVerifyFalconRaw P payload) inv.enter m := by
  refine .okOr_bind ?_
  rintro ⟨signature, rest⟩ -
  refine .okOr_bind ?_
  rintro ⟨pubkey, message⟩ -
  exact .lift (verifyFalconRaw_returns _ _ _)

theorem settles_processVerifyCanonicalDigest (payload : List UInt8) :
    Exec.Settles calls (processVerifyCanonicalDigest P payload) inv.enter m :=
  .failIf_bind fun _ => .lift_bind (digestCanonicalPreimage_returns _) fun _ _ => .failIf _ _

/-- The instructions whose handlers invoke other programs. -/
def DualKeyInstruction.invokes : DualKeyInstruction → Bool
  | .initializeAccount => true
  | .execute => true
  | .setRecoveryConfig => true
  | _ => false

namespace Processor

theorem settles_handler (ix : DualKeyInstruction) (accounts : List AccountInfo)
    (payload : List UInt8) :
    Exec.Settles (ix.invokes = true) (handler P ix accounts payload) inv.enter m := by
  cases ix with
  | initializeAccount => exact Initialize.settles_process rfl _ _
  | execute => exact Execute.settles_process rfl _ _
  | rotateEd25519Key => exact Rotate.settles_processRotateEd25519 _ _
  | rotateFalconKey => exact Rotate.settles_processRotateFalcon _ _
  | changePolicy => exact ChangePolicy.settles_process _ _
  | recoverAccount => exact Recover.settles_process _ _
  | setRecoveryConfig => exact SocialRecovery.settles_processSetRecoveryConfig rfl _ _
  | initiateSocialRecovery => exact SocialRecovery.settles_processInitiateSocialRecovery _ _
  | finalizeSocialRecovery => exact SocialRecovery.settles_processFinalizeSocialRecovery _ _
  | cancelSocialRecovery => exact SocialRecovery.settles_processCancelSocialRecovery _ _
  | verifyFalconPrepared => exact settles_processVerifyFalconPrepared _ _
  | verifyFalconRaw => exact settles_processVerifyFalconRaw _
  | verifyCanonicalDigest => exact settles_processVerifyCanonicalDigest _
  | reconstructCanonicalDigest => exact settles_processReconstructCanonicalDigest _ _

/-- Only an instruction that invokes other programs can end with the failure of one. -/
theorem settles_process (accounts : List AccountInfo) (data : List UInt8) :
    Exec.Settles (∃ b payload ix, data = b :: payload ∧ DualKeyInstruction.fromU8 b = some ix ∧
      ix.invokes = true) (process P accounts data) inv.enter m := by
  cases data with
  | nil => exact .fail _
  | cons b payload =>
    refine .okOr_bind fun ix hix => (settles_handler ix accounts payload).mono fun hinvokes => ?_
    exact ⟨b, payload, ix, rfl, hix, hinvokes⟩

end Processor

end Handlers

/-- **No input aborts the program.** For all instruction data, account lists, accounts, slots,
rent schedules and preceding instructions the program returns a value or an error code, unless a
program it has invoked fails; only three instructions invoke any. On slices of the lengths a
machine can hold, the positions that are computed from untrusted bytes with additions that panic on
overflow are those of the model. -/
theorem process_never_aborts (P : Platform) (inv : InvokeContext) (m : Machine)
    (accounts : List AccountInfo) (data : List UInt8) :
    ((Processor.process P accounts data inv.enter m).Returns ∨
      Processor.process P accounts data inv.enter m = .error .callee ∧
        ∃ b payload ix, data = b :: payload ∧ DualKeyInstruction.fromU8 b = some ix ∧
          ix.invokes = true) ∧
    (∀ (xs : Slice) (baseLen : UInt64),
      SplToken.rejectIfTransferHookUsize xs baseLen =
        SplToken.rejectIfTransferHook xs.bytes baseLen.toNat) ∧
    (∀ (xs : Slice) (offset : UInt16),
      sliceAtUsize xs offset 32 = sliceAt xs.bytes offset 32 ∧
      sliceAtUsize xs offset 64 = sliceAt xs.bytes offset 64) ∧
    ∀ (xs : Slice) (i : UInt8), readU16Usize xs i.toUInt64 = readU16 xs.bytes i.toNat := by
  refine ⟨?_, SplToken.rejectIfTransferHookUsize_eq, fun xs offset =>
    ⟨sliceAtUsize_eq (by decide), sliceAtUsize_eq (by decide)⟩, fun xs i => ?_⟩
  · exact (Processor.settles_process accounts data).returns_or_callee
  · have hi := i.toNat_lt
    have hword : i.toUInt64.toNat = i.toNat := UInt8.toNat_toUInt64 i
    rw [readU16Usize_eq (by omega), hword]

end DualKey
