import DualKey.Properties.Solvency
import DualKey.System.Provenance
import DualKey.System.Replay

/-!
# Relayers

Anyone can submit what the owner or the guardian of a vault has signed. A relayer chooses who
pays, which accounts are passed with which privileges, the Falcon signature bytes, the precompile
instruction and everything else around the request that it carries.

None of this reaches the vault. The operation that a submission performs is a function of the
request, the clock and the vault's recovery config (`Request.operation`), except for the wire key
of a Falcon rotation, of which the request has the hash. The vault's account, its lamports and its
recovery config afterwards are functions of that operation and of what they were before. So two
submissions of one request cannot be told apart by what they do to the vault
(`relayer_noninterference`).
-/

namespace DualKey

open Transition

/-! ### What a vault has and what it is sent -/

/-- What the chain holds for a vault: its data, its lamports and the data of its recovery
config. -/
@[ext] structure VaultView where
  data : List UInt8
  lamports : UInt64
  config : Option (List UInt8)

/-- The view of the vault at `v`. -/
def viewOf (P : Platform) (m : Machine) (v : Pubkey) : VaultView where
  data := m.data v
  lamports := m.lamports v
  config := (P.tryFindProgramAddress (recoveryPdaSeeds v) P.programId).map fun p => m.data p.1

/-- The recovery config in a view. -/
def VaultView.recoveryConfig (view : VaultView) : Option RecoveryConfig := view.config.bind configIn

/-- What a submission carries for a vault: an intent of the owner with the slot up to which it is
valid, a proposal of the guardian, or the finalization of one. -/
inductive Request where
  | intent (expirySlot : UInt64) (action : Action)
  | proposal (newEd25519 : Pubkey)
  | finalization
deriving DecidableEq

/-- The instructions that carry an intent of the owner. -/
def DualKeyInstruction.carriesIntent : DualKeyInstruction → Bool
  | execute => true
  | rotateEd25519Key => true
  | rotateFalconKey => true
  | changePolicy => true
  | recoverAccount => true
  | setRecoveryConfig => true
  | cancelSocialRecovery => true
  | _ => false

/-- The wire key that a Falcon rotation presents behind the signed fragment. -/
def Invocation.wireKey (inv : Invocation) : List UInt8 :=
  (inv.payload.drop authPayloadLen).take falconWirePubkeyLen

/-- The invocation carries the request to the vault at `v`. -/
def Invocation.Carries (inv : Invocation) (v : Pubkey) : Request → Prop
  | .intent expirySlot action =>
    ∃ ix wire, inv.call = some (ix, v) ∧ ix.carriesIntent = true ∧
      ExecuteIntentWire.decode (inv.payload.take executeIntentWireLen) = .ok wire ∧
      wire.expirySlot = expirySlot ∧ wire.action = action
  | .proposal newEd25519 =>
    inv.call = some (.initiateSocialRecovery, v) ∧ inv.payload = newEd25519.toList
  | .finalization => inv.call = some (.finalizeSocialRecovery, v)

/-! ### The operation of a request -/

section Operation

variable (P : Platform)

/-- The operation an action asks for, given the wire key a Falcon rotation presents. -/
def Action.operation (wireKey : List UInt8) : Action → Option VaultOp
  | .transferSol recipient lamports => some (.transferSol recipient lamports)
  | .transferSpl destination amount => some (.transferSpl destination amount)
  | .rotateEd25519Key newPubkey => some (.rotateEd25519 newPubkey)
  | .rotateFalconKey newPubkeyHash =>
    match prepareFalconKey P wireKey with
    | .ok prepared => some (.rotateFalcon newPubkeyHash prepared)
    | .error _ => none
  | .changePolicy newPolicy threshold =>
    (AuthorizationPolicy.fromU8 newPolicy).map fun target =>
      .changePolicy target (ChangePolicy.resultingThreshold target threshold)
  | .recoverAccount .enable _ => some (.setRecovery true)
  | .recoverAccount .disable _ => some (.setRecovery false)
  | .recoverAccount .rotateEd25519 newEd25519 => some (.recoverEd25519 newEd25519)
  | .setRecoveryConfig guardian delay => some (.setConfig guardian delay)
  | .cancelSocialRecovery => some .cancel

/-- The operation a request asks for, given the clock and the vault's recovery config. -/
def Request.operation (wireKey : List UInt8) (slot : UInt64) (config : Option RecoveryConfig) :
    Request → Option VaultOp
  | .intent _ action => action.operation P wireKey
  | .proposal newEd25519 =>
    config.bind fun c =>
      (checkedAdd slot c.fields.delaySlots).map fun ready => .initiate newEd25519 ready
  | .finalization => config.bind fun c => c.fields.pending.map fun p => .finalize p.1

end Operation

variable {P : Platform} {m m' : Machine} {v : Pubkey} {inv : Invocation} {vault : AccountInfo}
  {op : VaultOp}

/-- Only a Falcon rotation looks at the wire key. -/
theorem Request.operation_congr {req : Request} {w w' : List UInt8} {slot : UInt64}
    {config : Option RecoveryConfig}
    (h : ∀ expirySlot hash, req = .intent expirySlot (.rotateFalconKey hash) → w = w') :
    req.operation P w slot config = req.operation P w' slot config := by
  cases req with
  | intent expirySlot action =>
    cases action with
    | rotateFalconKey hash => rw [h expirySlot hash rfl]
    | recoverAccount op _ => cases op <;> rfl
    | _ => rfl
  | proposal _ => rfl
  | finalization => rfl

/-- An operation of the owner is the one its action asks for. -/
theorem Performs.operation {wire : ExecuteIntentWire} (h : Performs P inv m vault op m')
    (hsigned : op.isSigned = true)
    (hdecode : ExecuteIntentWire.decode (inv.payload.take executeIntentWireLen) = .ok wire) :
    wire.action.operation P inv.wireKey = some op := by
  have hsame {wire' : ExecuteIntentWire} {falconSig : List UInt8}
      (hp : Presents inv.payload wire' falconSig) : wire = wire' :=
    Except.ok.inj (hdecode.symm.trans hp.wire)
  cases h with
  | transferSol hp hc _ => rw [hsame hp, hc.action]; rfl
  | transferSpl hp hc _ => rw [hsame hp, hc.action]; rfl
  | rotateEd25519 hp hc _ => rw [hsame hp, hc.action]; rfl
  | rotateFalcon hp hkey hc =>
    -- the stored key is prepared from the wire key in the payload
    have hwireKey : inv.wireKey = _ := hkey.key
    rw [hsame hp, hc.action, hwireKey, Action.operation, hc.prepared]
  | changePolicy hp hc =>
    rw [hsame hp, hc.action, Action.operation, hc.parsed]
    rfl
  | @setRecovery _ _ _ enabled _ _ hp hc =>
    rw [hsame hp, hc.action]
    cases enabled <;> rfl
  | recoverEd25519 hp hc _ => rw [hsame hp, hc.action]; rfl
  | setConfig hp hc _ => rw [hsame hp, hc.action]; rfl
  -- no action asks for the guardian's proposal and its execution
  | initiate _ _ => cases hsigned
  | finalize _ => cases hsigned
  | cancel hp hc => rw [hsame hp, hc.action]; rfl

/-- The hash of a Falcon rotation is that of the presented wire key. -/
theorem PerformsOn.wireKey {hash : Digest} {prepared : PreparedFalconPubkey}
    (h : PerformsOn P m v (.rotateFalcon hash prepared) (.executed inv) m') :
    P.sha256 inv.wireKey = hash := by
  cases h with
  | mk _ _ _ hp =>
    cases hp with
    | rotateFalcon _ hkey _ =>
      have hwireKey : inv.wireKey = _ := hkey.key
      rw [hwireKey]

/-- The recovery config in the view is the one at the recovery address. -/
theorem recoveryConfig_viewOf {k : Pubkey} {c : RecoveryConfig}
    (haddress : ∃ bump, SocialRecovery.IsRecoveryAddress P v k bump) (hdata : m.data k = c.data) :
    (viewOf P m v).recoveryConfig = some c := by
  obtain ⟨bump, haddress⟩ := haddress
  have hconfig : (viewOf P m v).config = some (m.data k) := by
    rw [viewOf, show P.tryFindProgramAddress _ _ = some (k, bump) from haddress]
    rfl
  rw [VaultView.recoveryConfig, hconfig, hdata]
  exact configIn_data c

/-- **The operation is the one the request asks for.** -/
theorem PerformsOn.operation {req : Request} (h : PerformsOn P m v op (.executed inv) m')
    (hcarries : inv.Carries v req) :
    req.operation P inv.wireKey inv.slot (viewOf P m v).recoveryConfig = some op := by
  have hcall : inv.call = some (op.instruction, v) := h.call
  cases h with
  | @mk _ vault _ hruntime hkey hix hp =>
    subst hkey
    cases req with
    | intent expirySlot action =>
      obtain ⟨ix, wire, hcall', hintent, hdecode, -, rfl⟩ := hcarries
      rw [hcall, Option.some.injEq, Prod.mk.injEq] at hcall'
      obtain ⟨rfl, -⟩ := hcall'
      -- the instruction is one of the owner's, hence so is the operation
      have hsigned : op.isSigned = true := by
        cases op <;> first | rfl | cases hintent
      exact hp.operation hsigned hdecode
    | proposal newEd25519 =>
      obtain ⟨hcall', hpayload⟩ := hcarries
      rw [hcall, Option.some.injEq, Prod.mk.injEq] at hcall'
      cases hp with
      | @initiate config sysvar k ready a c hk hc =>
        have hkey : k = newEd25519 := Subtype.ext (hk.trans hpayload)
        -- the ready slot is computed from the clock and the stored delay
        have hready : checkedAdd inv.slot c.fields.delaySlots = some ready :=
          checkedAdd_eq_some.mpr hc.ready
        have hdata : m.data config.key = c.data := hc.configData
        rw [recoveryConfig_viewOf hc.address hdata, ← hkey]
        simp only [Request.operation, Option.bind_some, hready, Option.map_some]
      | _ => cases hcall'.1
    | finalization =>
      have hcall' : inv.call = some (.finalizeSocialRecovery, vault.key) := hcarries
      rw [hcall, Option.some.injEq, Prod.mk.injEq] at hcall'
      cases hp with
      | @finalize config pending ready next a c hc =>
        -- the new owner is the key that is pending
        have hdata : m.data config.key = c.data := hc.configData
        rw [recoveryConfig_viewOf hc.address hdata]
        simp only [Request.operation, Option.bind_some, hc.pending, Option.map_some]
      | _ => cases hcall'.1

/-- A successful submission of a request performs an operation on the vault. -/
theorem Step.performsOn_of_carries {req : Request} (h : Step P m (.executed inv) m')
    (hcarries : inv.Carries v req) : ∃ op, PerformsOn P m v op (.executed inv) m' := by
  have hcall : ∃ ix, (Label.executed inv).call = some (ix, v) ∧ ix ≠ .initializeAccount := by
    cases req with
    | intent expirySlot action =>
      obtain ⟨ix, wire, hcall, hintent, -⟩ := hcarries
      refine ⟨ix, hcall, ?_⟩
      rintro rfl
      cases hintent
    | proposal newEd25519 => exact ⟨_, hcarries.1, by decide⟩
    | finalization => exact ⟨_, hcarries, by decide⟩
  obtain ⟨ix, hcall, hix⟩ := hcall
  obtain ⟨op, hop, -⟩ := h.performsOn_of_call hcall hix
  exact ⟨op, hop⟩

/-- A Falcon rotation is asked for by its hash. -/
theorem Request.operation_rotateFalcon {expirySlot slot : UInt64} {hash : Digest}
    {w : List UInt8} {config : Option RecoveryConfig}
    (h : (Request.intent expirySlot (.rotateFalconKey hash)).operation P w slot config =
      some op) : ∃ prepared, op = .rotateFalcon hash prepared := by
  simp only [Request.operation, Action.operation] at h
  split at h
  · next prepared _ => exact ⟨prepared, (Option.some.inj h).symm⟩
  · cases h

/-! ### The view after an operation -/

/-- Rewrite the recovery config in account data, if there is one. -/
def overConfig (f : RecoveryConfig → RecoveryConfig) (data : List UInt8) : List UInt8 :=
  match configIn data with
  | some c => (f c).data
  | none => data

@[simp] theorem overConfig_data (f : RecoveryConfig → RecoveryConfig) (c : RecoveryConfig) :
    overConfig f c.data = (f c).data := by
  rw [overConfig, configIn_data]

@[simp] theorem overConfig_nil (f : RecoveryConfig → RecoveryConfig) : overConfig f [] = [] := by
  rw [overConfig, configIn_eq_none (by decide)]

/-- The data at the recovery address after an operation. -/
def VaultOp.onConfigData (op : VaultOp) (bump : UInt8) (data : List UInt8) : List UInt8 :=
  match op with
  | rotateEd25519 _ | recoverEd25519 _ | finalize _ | cancel =>
    overConfig RecoveryConfig.clearPending data
  | initiate newEd25519 ready =>
    overConfig (fun c => (c.setPendingNewEd25519 newEd25519).setPendingReadySlot ready) data
  | setConfig guardian delay =>
    if data = [] then
      (((RecoveryConfig.zeroed.setBump bump).setGuardianEd25519 guardian).setDelaySlots delay).data
    else overConfig (fun c => (c.setGuardianEd25519 guardian).setDelaySlots delay) data
  | _ => data

theorem VaultOp.onConfigData_setConfig {guardian : Pubkey} {delay : UInt64} {bump : UInt8}
    {data : List UInt8} :
    (setConfig guardian delay).onConfigData bump data =
      if data = [] then
        (((RecoveryConfig.zeroed.setBump bump).setGuardianEd25519 guardian).setDelaySlots
          delay).data
      else overConfig (fun c => (c.setGuardianEd25519 guardian).setDelaySlots delay) data :=
  rfl

theorem SocialRecovery.ClearsPending.configData {config : AccountInfo} {a : HybridAccount}
    (h : ClearsPending P (m.setData v a.data) config m') :
    m'.data config.key = overConfig RecoveryConfig.clearPending (m.data config.key) := by
  have hne : config.key ≠ v := h.ne_vault
  cases h with
  | absent hnil =>
    -- no data, and none afterwards
    rw [Machine.data_setData, if_neg hne] at hnil
    simp [hne, hnil]
  | cleared _ _ hdata =>
    rw [Machine.data_setData, if_neg hne] at hdata
    simp [hdata]

theorem SocialRecovery.StoresConfig.configData {payer config : AccountInfo}
    {guardian : Pubkey} {bump : UInt8} {delay : UInt64}
    (h : StoresConfig P inv m payer config v bump guardian delay m') :
    m'.data config.key = (VaultOp.setConfig guardian delay).onConfigData bump
      (m.data config.key) := by
  cases h with
  | created hnil _ _ _ _ _ hinit =>
    -- a fresh config is written over zeros, with the canonical bump
    obtain ⟨-, hc⟩ := RecoveryConfig.initializeConfig_eq_ok.mp hinit
    rw [VaultOp.onConfigData_setConfig, if_pos hnil, hc, Machine.data_setData, if_pos rfl]
  | @updated c _ hdata _ =>
    rw [VaultOp.onConfigData_setConfig, hdata, if_neg c.data_ne_nil, overConfig_data,
      Machine.data_setData, if_pos rfl]

/-- An operation that does not write the config writes no account of the program or the system
program but the vault. -/
theorem Performs.data_of_not_touches {k : Pubkey} (h : Performs P inv m vault op m')
    (hno : op.touchesConfig = false) (hk : m.owner k = systemProgramId ∨ m.owner k = P.programId)
    (hne : k ≠ vault.key) : m'.data k = m.data k := by
  have hf := h.frame
  rcases hk with hsystem | hprogram
  · rcases h.system hsystem with hprogram' | ⟨-, hdata⟩
    · -- only `SetRecoveryConfig` takes an account from the system program
      have hother : m.owner k ≠ P.programId := fun hk =>
        P.programId_ne_system (hk.symm.trans hsystem)
      obtain ⟨⟨_, _, rfl⟩, -⟩ := hf.fresh k hother hprogram'
      cases hno
    · exact hdata
  · rcases hf.data k hne hprogram with hsame | ⟨htouches, -⟩
    · exact hsame
    · exact absurd (hno.symm.trans htouches) Bool.false_ne_true

/-- **What an operation does to the data at the recovery address.** -/
theorem Performs.configData {k : Pubkey} {bump : UInt8} (h : Performs P inv m vault op m')
    (haddress : SocialRecovery.IsRecoveryAddress P vault.key k bump) (hne : k ≠ vault.key)
    (hk : m.owner k = systemProgramId ∨ m.owner k = P.programId) :
    m'.data k = op.onConfigData bump (m.data k) := by
  have huntouched := h.data_of_not_touches (k := k)
  cases h with
  -- operations that do not touch the recovery config
  | transferSol _ _ _ => exact huntouched rfl hk hne
  | transferSpl _ _ _ => exact huntouched rfl hk hne
  | rotateFalcon _ _ _ => exact huntouched rfl hk hne
  | changePolicy _ _ => exact huntouched rfl hk hne
  | setRecovery _ _ => exact huntouched rfl hk hne
  | rotateEd25519 _ hc hclears =>
    obtain ⟨_, haddress'⟩ := hc.address
    -- a vault has one recovery address, so the config that was checked is the one at `k`
    rw [haddress.unique haddress']
    exact hclears.configData
  | recoverEd25519 _ hc hclears =>
    obtain ⟨_, haddress'⟩ := hc.address
    rw [haddress.unique haddress']
    exact hclears.configData
  | @setConfig config payer _ _ _ guardian delay bump' a auth m₁ _ hc hstores =>
    obtain ⟨rfl, rfl⟩ : k = config.key ∧ bump = bump' := by
      have heq := haddress.symm.trans hc.address
      rwa [Option.some.injEq, Prod.mk.injEq] at heq
    rw [Machine.data_setData, if_neg hne]
    exact hstores.configData
  | @initiate config _ newEd25519 ready _ c _ hc =>
    obtain ⟨_, haddress'⟩ := hc.address
    obtain rfl := haddress.unique haddress'
    rw [hc.configData, Machine.data_setData, if_pos rfl]
    exact (overConfig_data (fun c => (c.setPendingNewEd25519 newEd25519).setPendingReadySlot ready)
      c).symm
  | finalize hc =>
    obtain ⟨_, haddress'⟩ := hc.address
    obtain rfl := haddress.unique haddress'
    rw [hc.configData, Machine.data_setData, if_neg hne, Machine.data_setData, if_pos rfl]
    exact (overConfig_data _ _).symm
  | cancel _ hc =>
    obtain ⟨_, haddress'⟩ := hc.address
    obtain rfl := haddress.unique haddress'
    rw [hc.configData, Machine.data_setData, if_neg hne, Machine.data_setData, if_pos rfl]
    exact (overConfig_data _ _).symm

/-- Only a lamport transfer changes the lamports of the vault. -/
theorem Performs.lamports_eq (h : Performs P inv m vault op m')
    (htransfer : ∀ recipient amount, op ≠ .transferSol recipient amount) :
    m'.lamports vault.key = m.lamports vault.key := by
  obtain ⟨_, _, heffect⟩ := h.effect
  cases h with
  | transferSol _ _ _ => exact absurd rfl (htransfer _ _)
  | transferSpl _ hc hmoves =>
    -- a token program settles no account of the program
    obtain ⟨-, hframe, -⟩ := hmoves.frame hc.checks.program
    rw [(hframe vault.key (Or.inr (by rw [Machine.owner_setData, heffect.owner]))).2,
      Machine.lamports_setData]
  | rotateEd25519 _ _ hclears =>
    rw [hclears.frame.2.1, Machine.lamports_setData]
  | recoverEd25519 _ _ hclears =>
    rw [hclears.frame.2.1, Machine.lamports_setData]
  | setConfig _ hc hstores =>
    -- the payer is an account of the system program
    obtain ⟨-, -, -, -, hlamports⟩ := hstores.frame
    rw [Machine.lamports_setData, hlamports vault.key hc.authorized.owner]
  | rotateFalcon _ _ _ => simp
  | changePolicy _ _ => simp
  | setRecovery _ _ => simp
  | initiate _ _ => simp
  | finalize _ => simp
  | cancel _ _ => simp

/-- The vault pays what the operation says. -/
theorem PerformsOn.debit {l : Label} (h : PerformsOn P m v op l m') :
    (m'.lamports v).toNat + op.paid = (m.lamports v).toNat := by
  by_cases htransfer : ∃ recipient amount, op = .transferSol recipient amount
  · obtain ⟨recipient, amount, rfl⟩ := htransfer
    exact h.pays.debit
  · push Not at htransfer
    have hpaid : op.paid = 0 := by
      cases op with
      | transferSol recipient amount => exact absurd rfl (htransfer recipient amount)
      | _ => rfl
    cases h with
    | mk _ hkey _ hp =>
      subst hkey
      rw [hpaid, hp.lamports_eq htransfer, Machine.lamports_begin, Nat.add_zero]

/-! ### Two relayers -/

/-- A recovery address belongs to the system program or to the program. -/
theorem Provenance.recovery_owner {k : Pubkey} {bump : UInt8} (h : Provenance P m)
    (haddress : SocialRecovery.IsRecoveryAddress P v k bump) :
    m.owner k = systemProgramId ∨ m.owner k = P.programId := by
  cases h.derived k haddress.isPda with
  | untouched howner _ => exact Or.inl howner
  | vault hv _ => exact Or.inr hv.owner
  | config howner _ _ => exact Or.inr howner

theorem PerformsOn.configData {k : Pubkey} {bump : UInt8} {l : Label} (hprov : Provenance P m)
    (h : PerformsOn P m v op l m') (haddress : SocialRecovery.IsRecoveryAddress P v k bump)
    (hne : k ≠ v) : m'.data k = op.onConfigData bump (m.data k) := by
  cases h with
  | mk _ hkey _ hp =>
    subst hkey
    exact hp.configData haddress hne (hprov.recovery_owner haddress)

section TwoRuns

variable {m₁ m₁' m₂ m₂' : Machine}

/-- One operation on one view leaves one view. -/
theorem PerformsOn.view {l₁ l₂ : Label} (hprov₁ : Provenance P m₁) (hprov₂ : Provenance P m₂)
    (hview : viewOf P m₁ v = viewOf P m₂ v) (h₁ : PerformsOn P m₁ v op l₁ m₁')
    (h₂ : PerformsOn P m₂ v op l₂ m₂') : viewOf P m₁' v = viewOf P m₂' v := by
  obtain ⟨a, a', he₁, -, -⟩ := h₁.effect hprov₁.wellFormed
  obtain ⟨b, b', he₂, -, -⟩ := h₂.effect hprov₂.wellFormed
  have hdata : m₁.data v = m₂.data v := congrArg VaultView.data hview
  have hlamports : m₁.lamports v = m₂.lamports v := congrArg VaultView.lamports hview
  have hconfig := congrArg VaultView.config hview
  -- the vault's bytes are its fields, and the operation determines these
  have hdata' : m₁'.data v = m₂'.data v := by
    have hbefore : a.data = b.data :=
      calc a.data
          = m₁.data v := he₁.data.symm
        _ = m₂.data v := hdata
        _ = b.data := he₂.data
    obtain rfl := HybridAccount.data_injective hbefore
    have hfields : a' = b' := HybridAccount.fields_injective (he₁.fields.trans he₂.fields.symm)
    rw [he₁.data', he₂.data', hfields]
  refine VaultView.ext hdata' ?_ ?_
  · -- both pay the same from the same balance
    show m₁'.lamports v = m₂'.lamports v
    have hdebit₁ := h₁.debit
    have hdebit₂ := h₂.debit
    rw [hlamports] at hdebit₁
    rw [← UInt64.toNat_inj]
    omega
  · simp only [viewOf] at hconfig ⊢
    cases hfind : P.tryFindProgramAddress (recoveryPdaSeeds v) P.programId with
    | none => rfl
    | some p =>
      obtain ⟨k, bump⟩ := p
      rw [hfind, Option.map_some, Option.map_some, Option.some.injEq] at hconfig
      rw [Option.map_some, Option.map_some, Option.some.injEq]
      by_cases hne : k = v
      · -- a vault at its own recovery address has been compared already
        rw [hne]
        exact hdata'
      · rw [h₁.configData hprov₁ hfind hne, h₂.configData hprov₂ hfind hne, hconfig]

/-- **Relayers do not matter.** From reachable states in which a vault looks the same, at one slot,
two submissions that carry the same request to the vault and succeed leave it looking the same:
its data, its lamports and the data of its recovery config. A signed lamport transfer moreover
pays the same recipient the same amount in both. The two wire keys that a Falcon rotation presents
are assumed to be no collision of SHA-256. -/
theorem relayer_noninterference {inv₁ inv₂ : Invocation} {req : Request}
    (hreach₁ : Reachable (chain P) m₁) (hreach₂ : Reachable (chain P) m₂)
    (hview : viewOf P m₁ v = viewOf P m₂ v) (hslot : inv₁.slot = inv₂.slot)
    (hstep₁ : Step P m₁ (.executed inv₁) m₁') (hstep₂ : Step P m₂ (.executed inv₂) m₂')
    (hcarries₁ : inv₁.Carries v req) (hcarries₂ : inv₂.Carries v req)
    (hcollision : P.sha256 inv₁.wireKey = P.sha256 inv₂.wireKey → inv₁.wireKey = inv₂.wireKey) :
    viewOf P m₁' v = viewOf P m₂' v ∧
      ∀ expirySlot recipient amount, req = .intent expirySlot (.transferSol recipient amount) →
        Pays P v recipient amount ⟨m₁, .executed inv₁, m₁'⟩ ∧
        Pays P v recipient amount ⟨m₂, .executed inv₂, m₂'⟩ := by
  obtain ⟨op₁, hop₁⟩ := hstep₁.performsOn_of_carries hcarries₁
  obtain ⟨op₂, hop₂⟩ := hstep₂.performsOn_of_carries hcarries₂
  have hreq₁ := hop₁.operation hcarries₁
  have hreq₂ := hop₂.operation hcarries₂
  rw [← hview, ← hslot] at hreq₂
  -- the wire key matters to a rotation to its hash only
  have hkey : ∀ expirySlot hash, req = .intent expirySlot (.rotateFalconKey hash) →
      inv₁.wireKey = inv₂.wireKey := by
    rintro expirySlot hash rfl
    obtain ⟨prepared₁, rfl⟩ := Request.operation_rotateFalcon hreq₁
    obtain ⟨prepared₂, rfl⟩ := Request.operation_rotateFalcon hreq₂
    exact hcollision (hop₁.wireKey.trans hop₂.wireKey.symm)
  -- so both submissions perform one operation
  rw [Request.operation_congr hkey] at hreq₁
  obtain rfl : op₁ = op₂ := Option.some.inj (hreq₁.symm.trans hreq₂)
  refine ⟨hop₁.view (Reachable.provenance hreach₁) (Reachable.provenance hreach₂) hview hop₂, ?_⟩
  rintro expirySlot recipient amount rfl
  obtain rfl : .transferSol recipient amount = op₁ := Option.some.inj hreq₁
  exact ⟨hop₁.pays, hop₂.pays⟩

end TwoRuns

section Replay

open Sample

/-- The recovery config of the first vault, set by a relayer with bytes of its own in the Falcon
field, another instruction at the front, and all accounts writable. -/
def relayedSetConfig : Invocation :=
  transaction .setRecoveryConfig
    ((ExecuteIntentWire.encode (.fromIntent setConfigIntent)).toList ++
      List.replicate falconSignatureLen 1)
    [writableInfo ed25519Vault, writableInfo recoveryConfig, signerInfo creator,
      writableInfo systemProgramId, writableInfo instructionsSysvarId] 2
    [⟨systemProgramId, [], [2]⟩, precompileInstruction signedSetConfig]

/-- Both relayers leave the same vault and the same recovery config behind. -/
theorem relayer_noninterference_replayed :
    viewOf platform (submit platform ed25519Created setConfig).post ed25519Vault =
      viewOf platform (submit platform ed25519Created relayedSetConfig).post ed25519Vault := by
  have hcall : (submit platform ed25519Created setConfig).label.call =
      some (.setRecoveryConfig, ed25519Vault) := by
    decide +kernel
  have hcall' : (submit platform ed25519Created relayedSetConfig).label.call =
      some (.setRecoveryConfig, ed25519Vault) := by
    decide +kernel
  have hkey : setConfig.wireKey = relayedSetConfig.wireKey := by decide +kernel
  have hdecode : ExecuteIntentWire.decode (setConfig.payload.take executeIntentWireLen) =
      .ok (.fromIntent setConfigIntent) := by
    decide +kernel
  have hdecode' : ExecuteIntentWire.decode (relayedSetConfig.payload.take executeIntentWireLen) =
      .ok (.fromIntent setConfigIntent) := by
    decide +kernel
  have hruntime : setConfig.PrecompilesAccepted platform := by decide +kernel
  have hruntime' : relayedSetConfig.PrecompilesAccepted platform := by decide +kernel
  -- both submissions are executed
  have hstep := submit_step ed25519Created hruntime
  have hstep' := submit_step ed25519Created hruntime'
  rw [(submit_executed hcall).1] at hstep
  rw [(submit_executed hcall').1] at hstep'
  have hcarries : setConfig.Carries ed25519Vault (.intent 1000 (.setRecoveryConfig guardian 10)) :=
    ⟨_, _, (submit_executed hcall).2, rfl, hdecode, rfl, rfl⟩
  have hcarries' : relayedSetConfig.Carries ed25519Vault
      (.intent 1000 (.setRecoveryConfig guardian 10)) :=
    ⟨_, _, (submit_executed hcall').2, rfl, hdecode', rfl, rfl⟩
  have hslot : setConfig.slot = relayedSetConfig.slot := rfl
  have hreach := ed25519Created_reachable
  -- no machine is evaluated below
  generalize ed25519Created = m at hstep hstep' hreach ⊢
  exact (relayer_noninterference hreach hreach rfl hslot hstep hstep' hcarries hcarries'
    fun _ => hkey).1

end Replay

end DualKey
