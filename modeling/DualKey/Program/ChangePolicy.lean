import DualKey.Program.Authorize

/-!
# `ChangePolicy`

Replace the policy and the threshold of a vault. The change is authorized under the
stricter of the current and the target requirement, and a change to what is already
set is refused.
-/

namespace DualKey

variable (P : Platform)

namespace ChangePolicy

/-- The threshold a change to `target` leaves: only `falconAboveThreshold` has one. -/
def resultingThreshold (target : AuthorizationPolicy) (threshold : UInt64) : Option UInt64 :=
  if target = .falconAboveThreshold then some threshold else none

/-! ### The handler -/

def applyPolicyChange (hybridAccount : AccountInfo) (target : AuthorizationPolicy)
    (threshold : Option UInt64) (auth : Authorization) : Prog Unit :=
  hybridAccount.updateVault fun account => do
    let account := account.setNonce auth.nextNonce
    let account := account.setPolicy target
    pure (account.setFalconRequiredAbove threshold)

def process (accounts : List AccountInfo) (payload : List UInt8) : Prog Unit := do
  Exec.failIf (payload.length ≠ authPayloadLen) .malformedInstructionData
  let (hybridAccount, instructionsSysvar) ← twoAccounts accounts
  Exec.failIf (hybridAccount.isWritable = false) .invalidAccountData
  let (wireBytes, falconSig) ← splitWireAndFalcon payload
  let wire ← ExecuteIntentWire.decode wireBytes
  let (newPolicy, threshold) ← Exec.okOr wire.action.changePolicy? .unsupportedAction
  let target ← Exec.okOr (AuthorizationPolicy.fromU8 newPolicy) .invalidAccountData
  Exec.failIf (target.isImplemented = false) .policyNotImplemented
  let threshold := resultingThreshold target threshold
  let (current, currentThreshold) ← hybridAccount.tryBorrowData fun data => do
    let current ← HybridAccount.policyFromSlice data
    let currentThreshold ← HybridAccount.falconRequiredAboveFromSlice data
    pure (current, currentThreshold)
  Exec.failIf (current = target ∧ currentThreshold = threshold) .invalidAccountData
  let auth ← authorize P hybridAccount instructionsSysvar wire falconSig
  applyPolicyChange hybridAccount target threshold auth

/-! ### What a successful `ChangePolicy` did -/

/-- Everything a successful `ChangePolicy` checked. -/
structure Checks (inv : InvokeContext) (m : Machine) (vault sysvar : AccountInfo)
    (wire : ExecuteIntentWire) (falconSig : List UInt8) (newPolicy : UInt8) (threshold : UInt64)
    (target : AuthorizationPolicy) (a : HybridAccount) (auth : Authorization) : Prop where
  accounts : inv.accounts = [vault, sysvar]
  vaultWritable : vault.isWritable = true
  action : wire.action = .changePolicy newPolicy threshold
  parsed : AuthorizationPolicy.fromU8 newPolicy = some target
  change : ¬ (auth.policy = target ∧ a.fields.threshold = resultingThreshold target threshold)
  authorized : Authorized P inv m vault sysvar wire falconSig a auth

/-- The vault account after a policy change. -/
def changed (a : HybridAccount) (auth : Authorization) (target : AuthorizationPolicy)
    (threshold : UInt64) : HybridAccount :=
  ((a.setNonce auth.nextNonce).setPolicy target).setFalconRequiredAbove
    (resultingThreshold target threshold)

section Specs

variable {P} {inv : InvokeContext} {m m' : Machine}

/-- A policy change writes the nonce, the policy and the threshold with its flag. -/
theorem fields_changed {a : HybridAccount} {auth : Authorization} {target : AuthorizationPolicy}
    {threshold : UInt64} :
    (changed a auth target threshold).fields =
      { a.fields with
        policy := target.asU8
        flags := a.fields.flagsWithThreshold (resultingThreshold target threshold)
        nonce := auth.nextNonce
        falconRequiredAbove := (resultingThreshold target threshold).getD 0 } := by
  unfold changed
  rw [HybridAccount.fields_setFalconRequiredAbove, HybridAccount.fields_setPolicy,
    HybridAccount.fields_setNonce]
  rfl

/-- **Exactness of `ChangePolicy`.** -/
theorem process_eq_ok {payload : List UInt8} {u : Unit} :
    process P inv.accounts payload inv.enter m = .ok (u, m') ↔
      payload.length = authPayloadLen ∧
      ∃ wire falconSig, Presents payload wire falconSig ∧
        ∃ vault sysvar newPolicy threshold target a auth,
          Checks P inv m vault sysvar wire falconSig newPolicy threshold target a auth ∧
          m.setData vault.key (changed a auth target threshold).data = m' := by
  simp only [process, Exec.bind_eq_ok, Exec.failIf_eq_ok, Exec.liftM_eq_ok, Prod.exists,
    not_not, twoAccounts_eq_ok, Exec.okOr_eq_ok, Action.changePolicy?_eq_some,
    AccountInfo.tryBorrowData_eq_ok, Res.bind_eq_ok, Res.pure_eq_ok, Prod.mk.injEq,
    authorize_eq_ok, applyPolicyChange]
  constructor
  · intro h
    obtain ⟨_, _, ⟨hlen, rfl⟩, vault, sysvar, _, ⟨haccounts, rfl⟩, h⟩ := h
    obtain ⟨_, _, ⟨hvault, rfl⟩, wireBytes, falconSig, _, ⟨hsplit, rfl⟩, h⟩ := h
    obtain ⟨wire, _, ⟨hdecode, rfl⟩, newPolicy, threshold, _, ⟨haction, rfl⟩, h⟩ := h
    obtain ⟨target, _, ⟨htarget, rfl⟩, _, _, ⟨-, rfl⟩, current, currentThreshold, _, ⟨hread, rfl⟩,
      h⟩ := h
    obtain ⟨_, _, ⟨hchange, rfl⟩, auth, _, ⟨rfl, a, hauth⟩, h⟩ := h
    obtain ⟨current', hcurrent, threshold', hthreshold, rfl, rfl⟩ := hread
    -- the policy the handler compared is the one that authorized
    rw [hauth.data, HybridAccount.policyFromSlice_data, Res.okOr_eq_ok, hauth.policy,
      Option.some.injEq] at hcurrent
    rw [hauth.data, HybridAccount.falconRequiredAboveFromSlice_data, Except.ok.injEq] at hthreshold
    rw [AccountInfo.updateVault_of_data hauth.data] at h
    simp only [Res.pure_eq_ok, exists_eq_left'] at h
    obtain ⟨-, hpresents⟩ := (splitWireAndFalcon_eq_ok hlen).mp ⟨hsplit, hdecode⟩
    refine ⟨hlen, wire, falconSig, hpresents, vault, sysvar, newPolicy, threshold, target, a, auth,
      ?_, h⟩
    exact
      { accounts := haccounts, vaultWritable := by simpa using hvault, action := haction
        parsed := htarget, change := by rw [hcurrent, hthreshold]; exact hchange
        authorized := hauth }
  · rintro ⟨hlen, wire, falconSig, hpresents, vault, sysvar, newPolicy, threshold, target, a, auth,
      hc, hpost⟩
    obtain ⟨hsplit, hdecode⟩ := (splitWireAndFalcon_eq_ok hlen).mpr ⟨rfl, hpresents⟩
    refine ⟨(), m, ⟨hlen, rfl⟩, vault, sysvar, m, ⟨hc.accounts, rfl⟩, (), m,
      ⟨by simp [hc.vaultWritable], rfl⟩, _, falconSig, m, ⟨hsplit, rfl⟩, wire, m, ⟨hdecode, rfl⟩,
      newPolicy, threshold, m, ⟨hc.action, rfl⟩, target, m, ⟨hc.parsed, rfl⟩, (), m,
      ⟨by simp, rfl⟩, auth.policy, a.fields.threshold, m, ⟨?_, rfl⟩, (), m, ⟨hc.change, rfl⟩, auth,
      m, ⟨rfl, a, hc.authorized⟩, ?_⟩
    · rw [hc.authorized.data, HybridAccount.policyFromSlice_data,
        HybridAccount.falconRequiredAboveFromSlice_data]
      exact ⟨_, Res.okOr_eq_ok.mpr hc.authorized.policy, _, rfl, rfl, rfl⟩
    · rw [AccountInfo.updateVault_of_data hc.authorized.data]
      simp only [Res.pure_eq_ok, exists_eq_left']
      exact hpost

end Specs

end ChangePolicy

end DualKey
