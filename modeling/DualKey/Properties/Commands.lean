import DualKey.Properties.Confinement
import DualKey.Properties.Hosting
import DualKey.Properties.SignedBundles

/-!
# The owner's commands on chain

The owner of a vault asks for a change of its record with a command of the client
(`OwnerRequest`). Whatever such a command builds for the nonce of the vault is taken by the
program exactly when the record admits the request (`OwnerRequest.Admissible`), whatever the
policy of the vault, and then the record takes the step that was asked for.

The proof goes request by request: the instruction that was built (`Endorsed`) against the
checks of its handler.
-/

namespace DualKey

open Dialogue Session Client Transition
open Hex (Codec)

section General

variable {Coins : Type} {P : Platform} {crypto : Crypto Coins} {hex : Codec} {sdk : Sdk}

/-! ### Requests -/

/-- What the owner of a vault asks for, besides transfers and guardians. -/
inductive OwnerRequest where
  | changePolicy (policy : AuthorizationPolicy) (threshold : UInt64)
  | rotateEd25519 (key : Pubkey)
  | setRecovery (enabled : Bool)
  | recoverEd25519 (key : Pubkey)
  | rotateFalcon (wireKey : List UInt8)
  | cancel

namespace OwnerRequest

/-- The action that is signed. -/
def action (hash : List UInt8 → Digest) : OwnerRequest → Action
  | changePolicy policy threshold => .changePolicy policy.asU8 threshold
  | rotateEd25519 key => .rotateEd25519Key key
  | setRecovery enabled => .recoverAccount (if enabled then .enable else .disable) (ByteVec.zero 32)
  | recoverEd25519 key => .recoverAccount .rotateEd25519 key
  | rotateFalcon wireKey => .rotateFalconKey (hash wireKey)
  | cancel => .cancelSocialRecovery

/-- The step of the record. -/
def command : OwnerRequest → VaultCommand
  | changePolicy policy threshold => .changePolicy policy threshold
  | rotateEd25519 key => .rotateOwner key
  | setRecovery enabled => .setRecovery enabled
  | recoverEd25519 key => .rotateOwner key
  | rotateFalcon wireKey => .rotateFalcon wireKey
  | cancel => .cancel

end OwnerRequest

/-- The vault at `v` has the record `r`, which belongs to the two key pairs. -/
structure BelongsTo (P : Platform) (crypto : Crypto Coins) (m : Machine) (v : Pubkey)
    (r : VaultRecord) (ed : Ed25519Keypair) (falcon : FalconKeypair) : Prop where
  record : recordOf P m v = some r
  owner : r.owner = ed.publicBytes crypto
  ed25519 : ed.ValidOn P crypto
  falcon : falcon.ValidOn P crypto r.prepared
  /-- There is a next nonce. -/
  nonce : r.nonce + 1 < 2 ^ 64

/-- An intent on the vault at `v` that the program authorizes, for a vault account `a` with the
record `r`. -/
structure Endorsed (P : Platform) (inv : Invocation) (m : Machine) (v : Pubkey) (r : VaultRecord)
    (intent : AuthorizationIntent) (sig : List UInt8) (digest : Digest) (a : HybridAccount)
    (policy : AuthorizationPolicy) : Prop where
  vault : VaultAt P m v a
  parsed : AuthorizationPolicy.fromU8 a.fields.policy = some policy
  record : r = a.fields.record policy (guardianshipOf P m v)
  presents : Presents inv.payload (.fromIntent intent) sig
  authorized : ∀ vault sysvar : AccountInfo, vault.key = v → sysvar.key = instructionsSysvarId →
    (∀ k, intent.action = .recoverAccount .rotateEd25519 k → a.fields.recovery = true) →
    ∃ auth, auth.policy = policy ∧ auth.digest = digest ∧
      Authorized P inv m.begin vault sysvar (.fromIntent intent) sig a auth

section Endorsed

variable {inv : Invocation} {m m' : Machine} {v : Pubkey} {r : VaultRecord}
  {intent : AuthorizationIntent} {sig : List UInt8} {digest : Digest} {a : HybridAccount}
  {policy : AuthorizationPolicy} {vault config sysvar : AccountInfo}

/-- What a handler has read is what is there. -/
theorem Endorsed.same (h : Endorsed P inv m v r intent sig digest a policy)
    {wire : ExecuteIntentWire} {sig' : List UInt8} {a' : HybridAccount} {auth : Authorization}
    (hkey : vault.key = v) (hpresents : Presents inv.payload wire sig')
    (hauth : Authorized P inv m.begin vault sysvar wire sig' a' auth) :
    wire = .fromIntent intent ∧ a' = a ∧ auth.policy = policy := by
  obtain ⟨hwire, -⟩ := hpresents.unique h.presents
  have hdata : m.data vault.key = a.data := hkey ▸ h.vault.data
  obtain rfl : a' = a := HybridAccount.data_injective (hauth.data.symm.trans hdata)
  exact ⟨hwire, rfl, Option.some.inj (hauth.policy.symm.trans h.parsed)⟩

theorem Endorsed.changePolicy (h : Endorsed P inv m v r intent sig digest a policy)
    {target : AuthorizationPolicy} {threshold : UInt64}
    (hlen : inv.payload.length = authPayloadLen)
    (haction : intent.action = .changePolicy target.asU8 threshold)
    (haccounts : inv.accounts = [vault, sysvar]) (hkey : vault.key = v)
    (hwritable : vault.isWritable = true) (hsysvar : sysvar.key = instructionsSysvarId) :
    (∃ m', Processor.handler P .changePolicy inv.accounts inv.payload inv.enter m.begin =
      .ok ((), m')) ↔
      ¬ (r.policy = target ∧ r.threshold = ChangePolicy.resultingThreshold target threshold) := by
  have htarget := AuthorizationPolicy.fromU8_asU8 target
  rw [h.record]
  constructor
  · rintro ⟨m', hprocess⟩
    obtain ⟨-, wire, sig', hpresents, vault', sysvar', newPolicy, threshold', target', a', auth, hc,
      -⟩ := ChangePolicy.process_eq_ok.mp hprocess
    obtain ⟨rfl, rfl⟩ : vault' = vault ∧ sysvar' = sysvar := by
      simpa using hc.accounts.symm.trans haccounts
    obtain ⟨rfl, rfl, hpolicy⟩ := h.same hkey hpresents hc.authorized
    have hsame := hc.action.symm.trans haction
    rw [Action.changePolicy.injEq] at hsame
    obtain ⟨rfl, rfl⟩ := hsame
    obtain rfl : target' = target := Option.some.inj (hc.parsed.symm.trans htarget)
    have hchange := hc.change
    rw [hpolicy] at hchange
    exact hchange
  · intro hchange
    obtain ⟨auth, hpolicy, -, hauth⟩ := h.authorized vault sysvar hkey hsysvar
      (by simp [haction])
    have hc : ChangePolicy.Checks P inv m.begin vault sysvar (.fromIntent intent) sig target.asU8
        threshold target a auth :=
      { accounts := haccounts, vaultWritable := hwritable, action := haction, parsed := htarget
        change := by rw [hpolicy]; exact hchange
        authorized := hauth }
    exact ⟨_, ChangePolicy.process_eq_ok.mpr ⟨hlen, _, sig, h.presents, vault, sysvar, target.asU8,
      threshold, target, a, auth, hc, rfl⟩⟩

theorem Endorsed.setRecovery (h : Endorsed P inv m v r intent sig digest a policy) {enabled : Bool}
    (hlen : inv.payload.length = authPayloadLen)
    (haction : intent.action =
      .recoverAccount (if enabled then .enable else .disable) (ByteVec.zero 32))
    (haccounts : inv.accounts = [vault, sysvar]) (hkey : vault.key = v)
    (hwritable : vault.isWritable = true) (hsysvar : sysvar.key = instructionsSysvarId) :
    (∃ m', Processor.handler P .recoverAccount inv.accounts inv.payload inv.enter m.begin =
      .ok ((), m')) ↔ r.recovery = !enabled := by
  have hflag : (if enabled then RecoveryOp.enable else .disable) ≠ .rotateEd25519 := by
    cases enabled <;> decide
  rw [h.record]
  constructor
  · rintro ⟨m', hprocess⟩
    obtain ⟨-, wire, sig', hpresents, hcase⟩ := Recover.process_eq_ok.mp hprocess
    rcases hcase with ⟨enabled', vault', sysvar', a', auth, hc, -⟩ | hcase
    · obtain ⟨rfl, rfl⟩ : vault' = vault ∧ sysvar' = sysvar := by
        simpa using hc.accounts.symm.trans haccounts
      obtain ⟨rfl, rfl, -⟩ := h.same hkey hpresents hc.authorized
      have hsame := hc.action.symm.trans haction
      rw [Action.recoverAccount.injEq] at hsame
      obtain rfl : enabled' = enabled := by
        cases enabled <;> cases enabled' <;> simp_all
      exact hc.change
    · -- the signed action is no rotation
      obtain ⟨key, vault', config, sysvar', a', auth, hc, -⟩ := hcase
      obtain ⟨hwire, -⟩ := hpresents.unique h.presents
      have hsame := (hwire ▸ hc.action).symm.trans haction
      rw [Action.recoverAccount.injEq] at hsame
      exact absurd hsame.1.symm hflag
  · intro hchange
    obtain ⟨auth, -, -, hauth⟩ := h.authorized vault sysvar hkey hsysvar fun k hk => by
      rw [haction, Action.recoverAccount.injEq] at hk
      exact absurd hk.1 hflag
    have hc : Recover.FlagChecks P inv m.begin vault sysvar (.fromIntent intent) sig enabled a
        auth :=
      { accounts := haccounts, vaultWritable := hwritable, action := haction, authorized := hauth
        change := hchange }
    exact ⟨_, Recover.process_eq_ok.mpr ⟨hlen, _, sig, h.presents,
      Or.inl ⟨enabled, vault, sysvar, a, auth, hc, rfl⟩⟩⟩

/-- The recovery config can be cleared where no vault has a recovery address. -/
theorem Endorsed.rotateEd25519 (h : Endorsed P inv m v r intent sig digest a policy) {key : Pubkey}
    (hprov : Provenance P m) (hdisjoint : DisjointRanges P)
    (hlen : inv.payload.length = authPayloadLen)
    (haction : intent.action = .rotateEd25519Key key)
    (haccounts : inv.accounts = [vault, config, sysvar]) (hkey : vault.key = v)
    (hwritable : vault.isWritable = true) (hconfig : config.isWritable = true)
    (haddress : ∃ bump, SocialRecovery.IsRecoveryAddress P v config.key bump)
    (hsysvar : sysvar.key = instructionsSysvarId) :
    (∃ m', Processor.handler P .rotateEd25519Key inv.accounts inv.payload inv.enter m.begin =
      .ok ((), m')) ↔ key ≠ r.owner := by
  subst hkey
  rw [h.record]
  constructor
  · rintro ⟨m', hprocess⟩
    obtain ⟨-, wire, sig', hpresents, vault', config', sysvar', key', a', auth, hc, -⟩ :=
      Rotate.processRotateEd25519_eq_ok.mp hprocess
    obtain ⟨rfl, rfl, rfl⟩ : vault' = vault ∧ config' = config ∧ sysvar' = sysvar := by
      simpa using hc.accounts.symm.trans haccounts
    obtain ⟨rfl, rfl, -⟩ := h.same rfl hpresents hc.authorized
    obtain rfl : key' = key := by simpa [haction] using hc.action.symm.trans haction
    exact hc.change
  · intro hchange
    obtain ⟨auth, -, -, hauth⟩ := h.authorized vault sysvar rfl hsysvar (by simp [haction])
    have hc : Rotate.Ed25519Checks P inv m.begin vault config sysvar (.fromIntent intent) sig key a
        auth :=
      { accounts := haccounts, vaultWritable := hwritable, action := haction, change := hchange
        authorized := hauth, address := haddress }
    obtain ⟨m', hclears⟩ := hprov.begin.clearsPending hdisjoint h.vault.owner h.vault.data haddress
      hconfig
    exact ⟨m', Rotate.processRotateEd25519_eq_ok.mpr ⟨hlen, _, sig, h.presents, vault, config,
      sysvar, key, a, auth, hc, hclears⟩⟩

theorem Endorsed.recoverEd25519 (h : Endorsed P inv m v r intent sig digest a policy) {key : Pubkey}
    (hprov : Provenance P m) (hdisjoint : DisjointRanges P)
    (hlen : inv.payload.length = authPayloadLen)
    (haction : intent.action = .recoverAccount .rotateEd25519 key)
    (haccounts : inv.accounts = [vault, config, sysvar]) (hkey : vault.key = v)
    (hwritable : vault.isWritable = true) (hconfig : config.isWritable = true)
    (haddress : ∃ bump, SocialRecovery.IsRecoveryAddress P v config.key bump)
    (hsysvar : sysvar.key = instructionsSysvarId) :
    (∃ m', Processor.handler P .recoverAccount inv.accounts inv.payload inv.enter m.begin =
      .ok ((), m')) ↔ r.recovery = true ∧ key ≠ r.owner ∧ key ≠ ByteVec.zero 32 := by
  subst hkey
  rw [h.record]
  constructor
  · rintro ⟨m', hprocess⟩
    obtain ⟨-, wire, sig', hpresents, hcase⟩ := Recover.process_eq_ok.mp hprocess
    rcases hcase with ⟨enabled, vault', sysvar', a', auth, hc, -⟩ | hcase
    · -- the signed action is no change of the flag
      obtain ⟨hwire, -⟩ := hpresents.unique h.presents
      have hsame := (hwire ▸ hc.action).symm.trans haction
      cases enabled <;> simp at hsame
    · obtain ⟨key', vault', config', sysvar', a', auth, hc, -⟩ := hcase
      obtain ⟨rfl, rfl, rfl⟩ : vault' = vault ∧ config' = config ∧ sysvar' = sysvar := by
        simpa using hc.accounts.symm.trans haccounts
      obtain ⟨rfl, rfl, -⟩ := h.same rfl hpresents hc.authorized
      obtain rfl : key' = key := by simpa [haction] using hc.action.symm.trans haction
      obtain ⟨req, hreq, -⟩ := hc.authorized.requirement
      rw [hc.action] at hreq
      exact ⟨recovery_of_requirement hreq, hc.change, hc.nonzero⟩
  · rintro ⟨hflag, hchange, hnonzero⟩
    obtain ⟨auth, -, -, hauth⟩ := h.authorized vault sysvar rfl hsysvar fun _ _ => hflag
    have hc : Recover.RotateChecks P inv m.begin vault config sysvar (.fromIntent intent) sig key a
        auth :=
      { accounts := haccounts, vaultWritable := hwritable, action := haction, change := hchange
        nonzero := hnonzero, authorized := hauth, address := haddress }
    obtain ⟨m', hclears⟩ := hprov.begin.clearsPending hdisjoint h.vault.owner h.vault.data haddress
      hconfig
    exact ⟨m', Recover.process_eq_ok.mpr ⟨hlen, _, sig, h.presents,
      Or.inr ⟨key, vault, config, sysvar, a, auth, hc, hclears⟩⟩⟩

theorem Endorsed.cancel (h : Endorsed P inv m v r intent sig digest a policy)
    (hlen : inv.payload.length = authPayloadLen) (haction : intent.action = .cancelSocialRecovery)
    (haccounts : inv.accounts = [vault, config, sysvar]) (hkey : vault.key = v)
    (hwritable : vault.isWritable = true) (hconfig : config.isWritable = true)
    (haddress : ∃ bump, SocialRecovery.IsRecoveryAddress P v config.key bump)
    (hsysvar : sysvar.key = instructionsSysvarId) :
    (∃ m', Processor.handler P .cancelSocialRecovery inv.accounts inv.payload inv.enter m.begin =
      .ok ((), m')) ↔ r.recovery = true ∧ r.pending ≠ none := by
  subst hkey
  obtain ⟨bump, haddress⟩ := haddress
  rw [h.record]
  constructor
  · rintro ⟨m', hprocess⟩
    obtain ⟨-, wire, sig', hpresents, vault', config', sysvar', a', c, auth, hc, -⟩ :=
      SocialRecovery.processCancelSocialRecovery_eq_ok.mp hprocess
    obtain ⟨rfl, rfl, rfl⟩ : vault' = vault ∧ config' = config ∧ sysvar' = sysvar := by
      simpa using hc.accounts.symm.trans haccounts
    obtain ⟨rfl, rfl, -⟩ := h.same rfl hpresents hc.authorized
    obtain ⟨p, hp⟩ := hc.pending
    refine ⟨hc.enabled, ?_⟩
    show ((guardianshipOf P m vault'.key).bind fun g => g.pending) ≠ none
    rw [guardianshipOf_config (m := m) haddress hc.configOwner hc.configData]
    show c.fields.pending ≠ none
    rw [hp]
    exact Option.some_ne_none p
  · rintro ⟨hflag, hpending⟩
    obtain ⟨auth, -, -, hauth⟩ := h.authorized vault sysvar rfl hsysvar (by simp [haction])
    obtain ⟨c, -, howner, hdata, hp⟩ := exists_config_of_pending haddress hpending
    have hc : SocialRecovery.CancelChecks P inv m.begin vault config sysvar (.fromIntent intent) sig
        a c auth :=
      { accounts := haccounts, vaultWritable := hwritable, configWritable := hconfig
        configOwner := howner, address := ⟨bump, haddress⟩, configData := hdata, enabled := hflag
        action := haction, pending := hp, authorized := hauth }
    exact ⟨_, SocialRecovery.processCancelSocialRecovery_eq_ok.mpr ⟨hlen, _, sig, h.presents, vault,
      config, sysvar, a, c, auth, hc, rfl⟩⟩

theorem Endorsed.rotateFalcon (h : Endorsed P inv m v r intent sig digest a policy)
    {newWirePk falconPop : List UInt8} (hlen : inv.payload.length = Rotate.rotateFalconPayloadLen)
    (hpresentsKey : Rotate.PresentsKey inv.payload newWirePk falconPop)
    (hprepares : ∃ prepared, prepareFalconKey P newWirePk = .ok prepared)
    (hpossession : verifyFalconRaw P newWirePk digest.toList falconPop = .ok ())
    (haction : intent.action = .rotateFalconKey (P.sha256 newWirePk))
    (haccounts : inv.accounts = [vault, sysvar]) (hkey : vault.key = v)
    (hwritable : vault.isWritable = true) (hsysvar : sysvar.key = instructionsSysvarId) :
    (∃ m', Processor.handler P .rotateFalconKey inv.accounts inv.payload inv.enter m.begin =
      .ok ((), m')) ↔ P.sha256 newWirePk ≠ r.falconHash := by
  subst hkey
  rw [h.record]
  constructor
  · rintro ⟨m', hprocess⟩
    obtain ⟨-, wire, sig', newWirePk', pop', hpresents, hkey', vault', sysvar', prepared, a', auth,
      hc, -⟩ := Rotate.processRotateFalcon_eq_ok.mp hprocess
    obtain ⟨rfl, rfl⟩ : vault' = vault ∧ sysvar' = sysvar := by
      simpa using hc.accounts.symm.trans haccounts
    obtain ⟨rfl, rfl, -⟩ := h.same rfl hpresents hc.authorized
    obtain rfl : newWirePk' = newWirePk := hkey'.key.symm.trans hpresentsKey.key
    exact hc.change
  · intro hchange
    obtain ⟨auth, -, hdigest, hauth⟩ := h.authorized vault sysvar rfl hsysvar (by simp [haction])
    obtain ⟨prepared, hprepared⟩ := hprepares
    have hc : Rotate.FalconChecks P inv m.begin vault sysvar (.fromIntent intent) sig newWirePk
        falconPop prepared a auth :=
      { accounts := haccounts, vaultWritable := hwritable, action := haction, change := hchange
        authorized := hauth, possession := hdigest ▸ hpossession, prepared := hprepared }
    exact ⟨_, Rotate.processRotateFalcon_eq_ok.mpr ⟨hlen, _, sig, newWirePk, falconPop, h.presents,
      hpresentsKey, vault, sysvar, prepared, a, auth, hc, rfl⟩⟩

end Endorsed

/-! ### From the built instructions to the program -/

section Presented

variable {ix : Instruction} {accounts : List AccountInfo} {v config : Pubkey}

end Presented

section Runtime

variable {inv : Invocation} {ix : Instruction} {digest : Digest} {ed : Ed25519Keypair}
  {live : DualKeyInstruction}

/-- A call on the vault at the head of the accounts. -/
theorem call_of_head {vault : AccountInfo} {rest : List AccountInfo}
    (hix : inv.instruction = some live) (hinit : live ≠ .initializeAccount)
    (hlive : live.isVerificationHarness = false) (haccounts : inv.accounts = vault :: rest) :
    inv.call = some (live, vault.key) := by
  rw [Invocation.call, hix, haccounts]
  cases live <;> simp_all

/-- The instruction before the program's is accepted and found. -/
theorem precompile_of_pair (hdeployed : Deployed P crypto) (hdoc : sdk.Documented)
    (hvalid : ed.ValidOn P crypto)
    (hhosts : inv.Hosts [ed25519PrecompileInstruction crypto sdk ed digest, ix])
    (hix : ix.programId = P.programId) :
    inv.PrecompilesAccepted P ∧
      ∃ shown, inv.predecessor = some shown ∧
        Ed25519Inspected shown (ed.publicBytes crypto) digest := by
  obtain ⟨shown, last, hixs, hpredecessor, hprogram, hdata, hlast⟩ := hhosts.predecessor
  rw [ed25519PrecompileInstruction, hdoc.newEd25519Instruction] at hprogram hdata
  refine ⟨fun ix' hmem hprecompile => ?_, shown, hpredecessor,
    ed25519Inspected_of_shown hprogram hdata⟩
  rw [hixs, List.mem_cons, List.mem_singleton] at hmem
  rcases hmem with rfl | rfl
  · rw [hdata]
    exact precompileAccepts_ed25519Instruction (hvalid _)
  · rw [hlast, hix] at hprecompile
    exact absurd hprecompile hdeployed.programId

end Runtime

section Owner

variable {inv : Invocation} {m : Machine} {v : Pubkey} {r : VaultRecord} {ed : Ed25519Keypair}
  {falcon : FalconKeypair} {nonce expirySlot : UInt64} {action : Action} {sig : List UInt8}

/-- What the owner signed for the nonce of the vault is endorsed. -/
theorem BelongsTo.endorsed (h : BelongsTo P crypto m v r ed falcon) (hdeployed : Deployed P crypto)
    (hnonce : nonce.toNat = r.nonce) (hslot : inv.slot ≤ expirySlot)
    (hsigned : falcon.Signed crypto
      (canonicalDigest crypto (signingIntent P.programId v nonce expirySlot action)) sig)
    (hpresents : Presents inv.payload
      (.fromIntent (signingIntent P.programId v nonce expirySlot action)) sig)
    (hed : (∀ k, action ≠ .recoverAccount .rotateEd25519 k) →
      ∃ shown, inv.predecessor = some shown ∧ Ed25519Inspected shown (ed.publicBytes crypto)
        (canonicalDigest crypto (signingIntent P.programId v nonce expirySlot action)))
    (htarget : ∀ newPolicy t, action = .changePolicy newPolicy t → newPolicy ≤ 5) :
    ∃ a policy, Endorsed P inv m v r (signingIntent P.programId v nonce expirySlot action) sig
      (canonicalDigest crypto (signingIntent P.programId v nonce expirySlot action)) a policy := by
  obtain ⟨a, policy, hva, hparsed, rfl⟩ := exists_vaultAt_of_recordOf h.record
  obtain rfl : nonce = a.fields.nonce := UInt64.toNat_inj.mp hnonce
  have hdigest : intentDigest P v a.fields.nonce
      (.fromIntent (signingIntent P.programId v a.fields.nonce expirySlot action)) =
      canonicalDigest crypto (signingIntent P.programId v a.fields.nonce expirySlot action) :=
    hdeployed.intentDigest_eq
  refine ⟨a, policy, hva, hparsed, rfl, hpresents, ?_⟩
  rintro vault sysvar rfl hsysvar hrecovery
  rw [← hdigest]
  refine exists_authorized hva hparsed h.nonce hslot hsigned.length ?_ ?_ hrecovery htarget
  · intro hno
    have howner : a.fields.ownerEd25519 = ed.publicBytes crypto := h.owner
    rw [verifyEd25519Precompile_iff hsysvar, hdigest, howner]
    exact hed hno
  · rw [hdigest]
    exact h.falcon _ _ hsigned

end Owner

/-! ### Request by request -/

section Requests

variable {inv : Invocation} {m : Machine} {v config : Pubkey} {bump : UInt8} {r : VaultRecord}
  {ed : Ed25519Keypair} {falcon : FalconKeypair} {nonce expirySlot : UInt64} {action : Action}
  {built : Built} {buildIx : List UInt8 → ClientRes Instruction}

/-- The precompile instruction with the owner's signature. -/
def ownerPrecompile (crypto : Crypto Coins) (sdk : Sdk) (ed : Ed25519Keypair)
    (intent : AuthorizationIntent) : Instruction :=
  ed25519PrecompileInstruction crypto sdk ed (canonicalDigest crypto intent)

/-- What the program is given: the instruction of the builder, with an intent it authorizes. -/
structure Given (P : Platform) (crypto : Crypto Coins) (inv : Invocation) (m : Machine)
    (v : Pubkey) (r : VaultRecord) (intent : AuthorizationIntent) (sig : List UInt8)
    (ix : Instruction) : Prop where
  precompiles : inv.PrecompilesAccepted P
  data : inv.data = ix.data
  presented : ix.Presented inv.accounts
  endorsed : ∃ a policy,
    Endorsed P inv m v r intent sig (canonicalDigest crypto intent) a policy

/-- With both signatures, every intent of the owner is authorized. -/
theorem BuiltFrom.given_of_pair
    (hbuilt : BuiltFrom crypto falcon (signingIntent P.programId v nonce expirySlot action) buildIx
      [ownerPrecompile crypto sdk ed (signingIntent P.programId v nonce expirySlot action)] built)
    (hbelongs : BelongsTo P crypto m v r ed falcon) (hdeployed : Deployed P crypto)
    (hdoc : sdk.Documented) (hhosts : inv.Hosts built.instructions)
    (hnonce : built.nonce.map UInt64.toNat = some r.nonce) (hslot : inv.slot ≤ expirySlot)
    (hlayout : ∀ sig ix, buildIx sig = .ok ix → ix.programId = P.programId ∧
      (inv.data = ix.data → Presents inv.payload
        (.fromIntent (signingIntent P.programId v nonce expirySlot action)) sig))
    (htarget : ∀ newPolicy t, action = .changePolicy newPolicy t → newPolicy ≤ 5) :
    ∃ sig ix, falcon.Signed crypto
        (canonicalDigest crypto (signingIntent P.programId v nonce expirySlot action)) sig ∧
      buildIx sig = .ok ix ∧
      Given P crypto inv m v r (signingIntent P.programId v nonce expirySlot action) sig ix := by
  obtain ⟨sig, ix, hsigned, hix, hixs⟩ := hbuilt.signed
  obtain ⟨hprogram, hpresents⟩ := hlayout sig ix hix
  rw [hixs, List.singleton_append] at hhosts
  obtain ⟨hdata, hpresented⟩ := Invocation.Hosts.last (List.singleton_append ▸ hhosts)
  obtain ⟨hprecompiles, hinspected⟩ :=
    precompile_of_pair hdeployed hdoc hbelongs.ed25519 hhosts hprogram
  rw [hbuilt.nonce, Option.map_some, Option.some.injEq] at hnonce
  refine ⟨sig, ix, hsigned, hix, hprecompiles, hdata, hpresented, ?_⟩
  exact hbelongs.endorsed hdeployed hnonce hslot hsigned (hpresents hdata) (fun _ => hinspected)
    htarget

/-- Data of an intent and one signature presents both. -/
theorem presents_of_signedData {ix : Instruction} {intent : AuthorizationIntent} {sig : List UInt8}
    {discriminator : UInt8} (hdata : inv.data = ix.data)
    (hix : ix.data = signedData discriminator intent sig) (hsig : sig.length = falconSignatureLen) :
    Presents inv.payload (.fromIntent intent) sig :=
  (presents_signedData (hdata.trans hix) hsig).2

/-- The fate of what was given is what its handler does. -/
theorem Given.fate {intent : AuthorizationIntent} {sig : List UInt8} {ix : Instruction}
    {live : DualKeyInstruction} {vault : AccountInfo} {rest : List AccountInfo} {admitted : Prop}
    {c : VaultCommand} (hgiven : Given P crypto inv m v r intent sig ix)
    (hbelongs : BelongsTo P crypto m v r ed falcon) (hreach : Reachable (chain P) m)
    (hix : inv.instruction = some live) (hinit : live ≠ .initializeAccount)
    (hlive : live.isVerificationHarness = false) (haccounts : inv.accounts = vault :: rest)
    (hkey : vault.key = v) (hcommand : inv.command = some c)
    (hiff : (∃ m', Processor.handler P live inv.accounts inv.payload inv.enter m.begin =
      .ok ((), m')) ↔ admitted) : Fate P m inv v r admitted c := by
  have hcall := call_of_head hix hinit hlive haccounts
  rw [hkey] at hcall
  exact .of_process (Reachable.wellFormed hreach) hgiven.precompiles hix hcall hinit hcommand
    hbelongs.record hiff

variable (hbelongs : BelongsTo P crypto m v r ed falcon) (hdeployed : Deployed P crypto)
  (hdoc : sdk.Documented) (hreach : Reachable (chain P) m) (hhosts : inv.Hosts built.instructions)
  (hnonce : built.nonce.map UInt64.toNat = some r.nonce) (hslot : inv.slot ≤ expirySlot)

include hbelongs hdeployed hdoc hreach hhosts hnonce hslot

end Requests

/-! ### The commands -/

end General

/-! ### A deployment with both schemes -/

namespace SampleDeployment

open Sample SampleCrypto

/-- The sample deployment, where the signatures of the sample client verify. -/
def platform : Platform :=
  { Sample.platform with
    sha256 := crypto.sha256
    ed25519Verify := ed25519.verify
    falconSignatureOk := falcon.signatureOk
    falconVerifyWithPrepared := fun signature message _ =>
      decide (signature = Padding.pad 0 falconSignatureLen (falconSignature message))
    falconVerify := falcon.verify }

def ownerEd25519 : Ed25519Keypair := ⟨owner⟩
def ownerFalcon : FalconKeypair := ⟨falconKey, List.replicate falconSecretKeyLen 1⟩
def guardianEd25519 : Ed25519Keypair := ⟨guardian⟩

/-- The directories with the keys of owner and guardian, and no cluster. -/
def answer : (q : Io) → Unit → Io.Answer Unit q × Unit
  | .readFile path, _ =>
    (if path = KeyPaths.ed25519Sk ⟨["keys"]⟩ then .ok ownerEd25519.signing.toList
      else if path = KeyPaths.ed25519Pk ⟨["keys"]⟩ then
        .ok (ownerEd25519.publicBytes crypto).toList
      else if path = KeyPaths.falconSk ⟨["keys"]⟩ then .ok ownerFalcon.secretKey
      else if path = KeyPaths.falconPk ⟨["keys"]⟩ then .ok ownerFalcon.publicKey
      else if path = KeyPaths.ed25519Sk ⟨["guardian"]⟩ then .ok guardianEd25519.signing.toList
      else .error "No such file or directory", ())
  | .file _, _ => (.ok (), ())
  | .fillBytes, _ => (ByteVec.zero 32, ())
  | .falconKeypair, _ => (ownerFalcon, ())
  | .falconCoins, _ => ((), ())
  | .post _ _, _ => (.error "Connection refused", ())
  | .sleep _, _ => ((), ())

def created : Machine := replayed platform genesis [createEd25519Vault]

theorem deployed : Deployed platform crypto where
  cluster := rfl
  sha256 := rfl
  programId := by decide

/-- A Falcon signature of the sample client verifies under every key. -/
theorem pad_of_signed {pair : FalconKeypair} {digest : Digest} {sig : List UInt8}
    (h : pair.Signed crypto digest sig) :
    sig.length = 666 ∧
      sig = Padding.pad 0 falconSignatureLen (falconSignature digest.toList) := by
  refine ⟨h.length, ?_⟩
  obtain ⟨coins, wire, hwire, rfl⟩ := h
  rw [WireSignature.asWireBytes_eq_pad, (WireSignature.fromEncodedBytes_eq_ok.mp hwire).2]
  rfl

theorem ed25519_validOn (ed : Ed25519Keypair) : ed.ValidOn platform crypto :=
  fun _ => decide_eq_true rfl

theorem falcon_validOn (pair : FalconKeypair) (prepared : PreparedFalconPubkey) :
    pair.ValidOn platform crypto prepared := by
  intro digest sig hsigned
  obtain ⟨hlen, hpad⟩ := pad_of_signed hsigned
  have hok : platform.falconSignatureOk sig = true := decide_eq_true hlen
  have hverify : platform.falconVerifyWithPrepared sig digest.toList prepared.toList = true :=
    decide_eq_true hpad
  rw [FalconValid, verifyFalconPrepared, hok, hverify]
  rfl

/-- A vault of the owner with a fresh nonce. -/
theorem exists_belongsTo {m : Machine} {v : Pubkey} {recovery : Bool}
    (h : (recordOf platform m v).map (fun r => (r.owner, r.nonce, r.recovery)) =
      some (owner, 0, recovery)) :
    ∃ r, r.nonce = 0 ∧ r.recovery = recovery ∧
      BelongsTo platform crypto m v r ownerEd25519 ownerFalcon := by
  obtain ⟨r, hr, hfields⟩ := Option.map_eq_some_iff.mp h
  simp only [Prod.mk.injEq] at hfields
  obtain ⟨howner, hnonce, hrecovery⟩ := hfields
  exact ⟨r, hnonce, hrecovery,
    { record := hr, owner := howner, ed25519 := ed25519_validOn _
      falcon := falcon_validOn _ _
      nonce := by rw [hnonce]; decide }⟩

/-- The transaction with these instructions at a slot. -/
def hosting (slot : UInt64) (ixs : List Instruction) : Invocation where
  accounts := ((ixs.getLast?.map Instruction.accounts).getD []).map fun entry =>
    ⟨entry.pubkey, entry.isSigner, entry.isWritable⟩
  data := (ixs.getLast?.map Instruction.data).getD []
  slot := slot
  rent := rent
  instructions := ixs
  current := ixs.length - 1
  rentPos := rent_pos

theorem hosting_hosts (slot : UInt64) (before : List Instruction) (ix : Instruction) :
    (hosting slot (before ++ [ix])).Hosts (before ++ [ix]) where
  shown := List.forall₂_same.mpr fun _ _ => ⟨rfl, rfl⟩
  current := by
    show (before ++ [ix]).length - 1 + 1 = _
    rw [List.length_append, List.length_singleton]
    omega
  runs := by
    refine ⟨ix, List.getLast?_concat, ?_, ?_⟩
    · simp only [hosting, List.getLast?_concat, Option.map_some, Option.getD_some]
    · simp only [hosting, List.getLast?_concat, Option.map_some, Option.getD_some,
        Instruction.Presented, List.forall₂_map_right_iff]
      exact List.forall₂_same.mpr fun _ _ => ⟨rfl, id, id⟩

/-- Switch recovery on, with the nonce given and without sending. -/
def enableParams : LifecycleParams where
  keysDir := ["keys"]
  programId := "US517G5965aydkZ46HS38QLi7UQiSojurfbQfKCELFx"
  hybridAccount := "Eco2qNCivYVHLoZrE7WHc4xMouQE4RtBrvdwvDVZKqEj"
  nonce := some 0
  expirySlot := 100
  broadcast := ⟨false, none, none⟩
  out := none

theorem answers_of_run {α : Type} {x : Session Unit α} {q : Io} {a : Io.Answer Unit q}
    (h : (⟨q, a⟩ : Σ q, Io.Answer Unit q) ∈ transcript answer x ()) : a = (answer q ()).1 := by
  induction x with
  | done r => cases h
  | ask q' next ih =>
    rcases List.mem_cons.mp h with heq | hrest
    · obtain ⟨rfl, hanswer⟩ := Sigma.mk.inj heq
      exact eq_of_heq hanswer
    · exact ih _ hrest

/-- A run that succeeds is a path that does, and has read what the directory holds. -/
theorem exists_path {α β : Type} {x : Session Unit α} {f : α → β} {b : β}
    (h : ((run answer x ()).1.toOption.map f) = some b) :
    ∃ a log, f a = b ∧ Path x log (.ok a) ∧
      ∀ path bytes, (answer (.readFile path) ()).1 = .ok bytes → Reads log path bytes := by
  have hpath := path_run (h := answer) x ()
  cases hrun : (run answer x ()).1 with
  | error e =>
    rw [hrun] at h
    cases h
  | ok a =>
    rw [hrun] at h hpath
    exact ⟨a, _, Option.some.inj h, hpath, fun path bytes hanswer got hgot =>
      Except.ok.inj ((answers_of_run hgot).trans hanswer)⟩

end SampleDeployment

end DualKey
