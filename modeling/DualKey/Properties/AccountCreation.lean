import DualKey.Properties.Authorization
import DualKey.Properties.Solvency
import DualKey.System.Replay

/-!
# The creation of accounts

The program creates accounts at two kinds of derived addresses, which anyone can compute and send
lamports to before they exist. A vault is topped up to the rent minimum, so its creator pays what
is missing, if anything. A recovery config is paid for in full, whatever its address holds. Neither
can be blocked by a prefund: `Initialize.Accepts` lists what decides an `Initialize`, and the
balance of the address occurs there only in what the creator has to be able to pay.
-/

namespace DualKey

open Buffer

/-- What an `Initialize` is accepted for. The creator has to be an account the system program
debits only when it has something to pay. -/
structure Initialize.Accepts (P : Platform) (inv : Invocation) (m : Machine)
    (creator vault : AccountInfo) (bump : UInt8) (prepared : PreparedFalconPubkey) : Prop where
  length : inv.payload.length = 934
  accounts : ∃ systemProgram : AccountInfo,
    inv.accounts = [creator, vault, systemProgram] ∧ systemProgram.key = systemProgramId
  signer : creator.isSigner = true
  /-- The canonical address of creator and index. -/
  address : P.tryFindProgramAddress (pdaSeeds creator.key (readVec 4 inv.payload 0)) P.programId =
    some (vault.key, bump)
  fresh : m.data vault.key = []
  system : m.owner vault.key = systemProgramId
  writable : ∃ a ∈ inv.accounts, a.key = vault.key ∧ a.isWritable = true
  policy : byteAt inv.payload 36 ≤ 5
  key : prepareFalconKey P (Buffer.read inv.payload 37 897) = .ok prepared
  pays : (m.lamports vault.key).toNat < (inv.rent.minimumBalance 1120).toNat →
    m.data creator.key = [] ∧ m.owner creator.key = systemProgramId ∧
    (∃ a ∈ inv.accounts, a.key = creator.key ∧ a.isWritable = true) ∧
    (inv.rent.minimumBalance 1120).toNat ≤
      (m.lamports vault.key).toNat + (m.lamports creator.key).toNat

/-- The state after the creation of a vault. -/
structure VaultCreated (P : Platform) (inv : Invocation) (m : Machine) (creator vault : Pubkey)
    (bump : UInt8) (prepared : PreparedFalconPubkey) (m' : Machine) : Prop where
  owner : m'.owner vault = P.programId
  /-- Version, bump, policy and flags, index, owner key, hash of the Falcon key, then nonce,
  threshold and reserved bytes, all zero, and the prepared Falcon key. -/
  data : m'.data vault = [1, bump, byteAt inv.payload 36, 0] ++ Buffer.read inv.payload 0 4 ++
    Buffer.read inv.payload 4 32 ++ (P.sha256 (Buffer.read inv.payload 37 897)).toList ++
    List.replicate 24 0 ++ prepared.toList
  lamports : (m'.lamports vault).toNat =
    max (m.lamports vault).toNat (inv.rent.minimumBalance 1120).toNat
  paid : (m'.lamports creator).toNat +
    ((inv.rent.minimumBalance 1120).toNat - (m.lamports vault).toNat) =
      (m.lamports creator).toNat
  frame : ∀ k, k ≠ vault → m'.owner k = m.owner k ∧ m'.data k = m.data k ∧
    (k ≠ creator → m'.lamports k = m.lamports k)

/-- A recovery config that can be created at the expense of the payer. The two balances are part
of one supply of lamports. -/
structure SocialRecovery.Fundable (inv : Invocation) (m : Machine) (config payer : AccountInfo) :
    Prop where
  fresh : m.data config.key = []
  system : m.owner config.key = systemProgramId
  payerData : m.data payer.key = []
  payerOwner : m.owner payer.key = systemProgramId
  payerWritable : payer.isWritable = true
  affords : (inv.rent.minimumBalance 128).toNat ≤ (m.lamports payer.key).toNat
  supply : (m.lamports config.key).toNat + (m.lamports payer.key).toNat < 2 ^ 64

/-- The state after the creation of a recovery config for the vault `a`. -/
structure ConfigCreated (P : Platform) (inv : Invocation) (m : Machine)
    (vault config payer : Pubkey) (bump : UInt8) (guardian : Pubkey) (delay : UInt64)
    (a : HybridAccount) (m' : Machine) : Prop where
  owner : m'.owner config = P.programId
  /-- Version, bump, guardian and delay; everything else is zero. -/
  data : m'.data config = [1, bump, 0, 0] ++ guardian.toList ++ (u64ToLe delay).toList ++
    List.replicate 84 0
  lamports : (m'.lamports config).toNat =
    (m.lamports config).toNat + (inv.rent.minimumBalance 128).toNat
  paid : (m'.lamports payer).toNat + (inv.rent.minimumBalance 128).toNat =
    (m.lamports payer).toNat
  /-- The vault has consumed a nonce. -/
  nonce : m'.data vault = (a.setNonce (a.fields.nonce + 1)).data
  frame : ∀ k, k ≠ config → m'.owner k = m.owner k ∧ (k ≠ vault → m'.data k = m.data k) ∧
    (k ≠ payer → m'.lamports k = m.lamports k)

variable {P : Platform} {inv : Invocation} {m m' : Machine}
  {creator vault config payer sysvar : AccountInfo} {bump : UInt8}
  {prepared : PreparedFalconPubkey} {wire : ExecuteIntentWire} {falconSig : List UInt8}
  {guardian : Pubkey} {delay : UInt64} {a : HybridAccount} {auth : Authorization}

namespace Initialize

/-! ### Funding a vault -/

/-- The balances after funding. -/
theorem Funded.balances {v c : Pubkey} {seeds : List (List UInt8)} (hne : c ≠ v)
    (h : Funded P inv m c v seeds m') :
    (m'.lamports v).toNat = max (m.lamports v).toNat (inv.rent.minimumBalance 1120).toNat ∧
    (m'.lamports c).toNat + ((inv.rent.minimumBalance 1120).toNat - (m.lamports v).toNat) =
      (m.lamports c).toNat ∧
    ∀ k, k ≠ c → k ≠ v → m'.lamports k = m.lamports k := by
  cases h with
  | held hle =>
    have hle' : (inv.rent.minimumBalance 1120).toNat ≤ (m.lamports v).toNat :=
      UInt64.le_iff_toNat_le.mp hle
    refine ⟨(max_eq_left hle').symm, ?_, fun _ _ _ => rfl⟩
    rw [Nat.sub_eq_zero_of_le hle', Nat.add_zero]
  | @paid shortfall m₁ hshort _ _ htransfer =>
    obtain ⟨hsource, htarget, hother⟩ := systemTransfer_balances hne htransfer
    -- the shortfall is what is missing
    have hrent : (m.lamports v).toNat + shortfall.toNat =
        (inv.rent.minimumBalance 1120).toNat := hshort
    simp only [Machine.lamports_log]
    refine ⟨?_, ?_, hother⟩
    · rw [htarget, hrent, max_eq_right (by omega)]
    · rw [← hsource]
      omega

/-- A creator that can pay the shortfall funds the vault. -/
theorem Accepts.exists_funded {seeds : List (List UInt8)} (hne : creator.key ≠ vault.key)
    (h : Accepts P inv m creator vault bump prepared) :
    ∃ m₁, Funded P inv m creator.key vault.key seeds m₁ := by
  obtain ⟨systemProgram, haccounts, -⟩ := h.accounts
  by_cases hheld : inv.rent.minimumBalance 1120 ≤ m.lamports vault.key
  · exact ⟨m, .held hheld⟩
  · have hlt : (m.lamports vault.key).toNat < (inv.rent.minimumBalance 1120).toNat := by
      rw [UInt64.le_iff_toNat_le] at hheld
      omega
    obtain ⟨hdata, howner, hwritable, hbalance⟩ := h.pays hlt
    have hle : m.lamports vault.key ≤ inv.rent.minimumBalance 1120 :=
      UInt64.le_iff_toNat_le.mpr (by omega)
    have hshort := UInt64.toNat_sub_of_le _ _ hle
    have hrent := (inv.rent.minimumBalance 1120).toNat_lt
    obtain ⟨m₁, htransfer⟩ : ∃ m₁, systemTransfer m creator.key vault.key
        (inv.rent.minimumBalance 1120 - m.lamports vault.key) = some m₁ :=
      exists_systemTransfer hne hdata howner (by omega) (by omega)
    refine ⟨_, .paid ?_ ?_ ?_ htransfer⟩
    · show _ = (inv.rent.minimumBalance 1120).toNat
      omega
    · rw [UInt64.lt_iff_toNat_lt, UInt64.toNat_zero]
      omega
    · -- the creator signs, and both accounts are writable
      intro entry hentry
      rcases List.mem_cons.mp hentry with rfl | hentry
      · refine ⟨⟨creator, by simp [haccounts], rfl⟩, fun _ => hwritable, fun _ => Or.inl ?_⟩
        exact ⟨creator, by simp [haccounts], rfl, h.signer⟩
      · rw [List.mem_singleton.mp hentry]
        exact ⟨⟨vault, by simp [haccounts], rfl⟩, fun _ => h.writable, fun hs => by cases hs⟩

/-! ### `Initialize` -/

theorem Accepts.succeeds (hne : creator.key ≠ vault.key)
    (h : Accepts P inv m creator vault bump prepared) :
    ∃ args m₁ a, Succeeds P inv inv.payload m creator vault args bump m₁ a := by
  obtain ⟨policy, hpolicy⟩ := AuthorizationPolicy.exists_fromU8.mpr h.policy
  obtain ⟨m₁, hfunded⟩ := h.exists_funded hne
  obtain ⟨systemProgram, haccounts, hsystem⟩ := h.accounts
  -- the index goes through the payload and back into the seeds
  have haddress : P.tryFindProgramAddress
      (pdaSeeds creator.key (u32ToLe (u32FromLe (readVec 4 inv.payload 0)))) P.programId =
        some (vault.key, bump) := by
    rw [u32ToLe_u32FromLe]
    exact h.address
  have hsigned : signedBy P [Pda.signerSeeds creator.key (u32FromLe (readVec 4 inv.payload 0)) bump]
      vault.key = true := by
    simp [signedBy, signerSeeds_create haddress]
  obtain ⟨account, haccount⟩ : ∃ account, HybridAccount.initializeWithoutFalconKey
      (List.replicate accountDataLen 0) bump (u32FromLe (readVec 4 inv.payload 0))
      (readVec 32 inv.payload 4) (P.sha256 (Buffer.read inv.payload 37 897)) policy = .ok account :=
    HybridAccount.exists_initializeWithoutFalconKey List.length_replicate
  refine ⟨⟨u32FromLe (readVec 4 inv.payload 0), readVec 32 inv.payload 4, policy,
    Buffer.read inv.payload 37 897⟩, m₁, account.setPreparedFalconPublicKey prepared, ?_⟩
  exact
    { parsed := parse_eq_ok.mpr ⟨h.length, rfl, rfl, hpolicy, rfl⟩
      accounts := ⟨systemProgram, haccounts, hsystem⟩, signer := h.signer, address := haddress
      funded := hfunded, fresh := h.fresh, system := h.system
      privileged :=
        ⟨⟨vault, by simp [haccounts], rfl⟩, fun _ => h.writable, fun _ => Or.inr hsigned⟩
      written := ⟨prepared, account, h.key, haccount, rfl⟩ }

/-- An `Initialize` that succeeds is accepted. -/
theorem Succeeds.accepts {args : Args} {m₁ : Machine}
    (h : Succeeds P inv inv.payload m creator vault args bump m₁ a) :
    ∃ prepared, Accepts P inv m creator vault bump prepared := by
  obtain ⟨hlen, hindex, howner, hpolicy, hkey⟩ := parse_eq_ok.mp h.parsed
  obtain ⟨prepared, hprepared, -⟩ := h.fields
  obtain ⟨-, hwritable, -⟩ := h.privileged
  have haddress := h.address
  rw [hindex, u32ToLe_u32FromLe] at haddress
  rw [hkey] at hprepared
  refine ⟨prepared, ?_⟩
  exact
    { length := hlen, accounts := h.accounts, signer := h.signer, address := haddress
      fresh := h.fresh, system := h.system, writable := hwritable rfl
      policy := AuthorizationPolicy.exists_fromU8.mp ⟨_, hpolicy⟩, key := hprepared
      pays := by
        intro hlt
        cases h.funded with
        | held hle =>
          have hle' := UInt64.le_iff_toNat_le.mp hle
          exact absurd hlt (Nat.not_lt.mpr hle')
        | @paid shortfall m₂ hshort hpos hpriv htransfer =>
          obtain ⟨hdata, howner, rest, -, hrest, -⟩ := systemTransfer_eq_some.mp htransfer
          obtain ⟨-, hpayer, -⟩ := hpriv _ (List.mem_cons_self ..)
          -- the payer has no data, and only a system account can be debited
          have hshort' : _ = (inv.rent.minimumBalance 1120).toNat := hshort
          exact ⟨hdata, howner.resolve_right (ne_zero_of_pos hpos), hpayer rfl, by omega⟩ }

/-- The state after a successful `Initialize`. -/
theorem Succeeds.vaultCreated {args : Args} {m₁ : Machine} (hne : creator.key ≠ vault.key)
    (h : Succeeds P inv inv.payload m creator vault args bump m₁ a)
    (hkey : prepareFalconKey P (Buffer.read inv.payload 37 897) = .ok prepared) :
    VaultCreated P inv m creator.key vault.key bump prepared
      ((m₁.allot P.programId vault.key (UInt64.ofNat accountDataLen)
        (Pda.signerSeeds creator.key args.accountIndex bump)).setData vault.key a.data) := by
  obtain ⟨-, hindex, howner, hpolicy, hwire⟩ := parse_eq_ok.mp h.parsed
  obtain ⟨prepared', hprepared, hfields⟩ := h.fields
  obtain ⟨hlamports, hpaid, hother⟩ := h.funded.balances hne
  obtain ⟨hframeData, hframeOwner⟩ := h.funded.frame
  rw [hwire] at hprepared hfields
  rw [hkey, Except.ok.injEq] at hprepared
  subst hprepared
  refine ⟨by simp, ?_, by simpa using hlamports, by simpa using hpaid, fun k hk => ?_⟩
  · rw [Machine.data_setData, if_pos rfl, a.data_eq_layout, hfields, hindex, howner]
    have hbyte := AuthorizationPolicy.eq_asU8 hpolicy
    rw [hbyte, HybridFields.layout]
    simp only [HybridAccount.freshFields, u32ToLe_u32FromLe, List.append_assoc]
    rfl
  · refine ⟨by simp [hk, hframeOwner], by simp [hk, hframeData], fun hc => ?_⟩
    simpa using hother k hc hk

/-- **Exactness of the creation of a vault.** -/
theorem creation_exact (hix : inv.instruction = some .initializeAccount)
    (hsigners : (Label.executed inv).NoPdaSigns P) :
    ((∃ m', Processor.process P inv.accounts inv.data inv.enter m = .ok ((), m')) ↔
      ∃ creator vault bump prepared, Accepts P inv m creator vault bump prepared) ∧
    ∀ creator vault bump prepared m', Accepts P inv m creator vault bump prepared →
      Processor.process P inv.accounts inv.data inv.enter m = .ok ((), m') →
      VaultCreated P inv m creator.key vault.key bump prepared m' := by
  rw [process_of_instruction hix]
  -- the creator signs, and the address of a vault cannot
  have hne {creator vault : AccountInfo} {bump : UInt8} {prepared : PreparedFalconPubkey}
      (h : Accepts P inv m creator vault bump prepared) : creator.key ≠ vault.key := by
    obtain ⟨systemProgram, haccounts, -⟩ := h.accounts
    intro heq
    refine hsigners creator (by simp [haccounts]) h.signer ?_
    rw [heq]
    exact ⟨_, P.find_spec _ _ _ h.address⟩
  refine ⟨⟨?_, ?_⟩, ?_⟩
  · rintro ⟨m', h⟩
    obtain ⟨creator, vault, args, bump, m₁, a, hs, -⟩ := process_eq_ok.mp h
    obtain ⟨prepared, haccepts⟩ := hs.accepts
    exact ⟨creator, vault, bump, prepared, haccepts⟩
  · rintro ⟨creator, vault, bump, prepared, h⟩
    obtain ⟨args, m₁, a, hs⟩ := h.succeeds (hne h)
    exact ⟨_, process_eq_ok.mpr ⟨creator, vault, args, bump, m₁, a, hs, rfl⟩⟩
  · intro creator vault bump prepared m' h hprocess
    obtain ⟨creator', vault', args, bump', m₁, a, hs, rfl⟩ := process_eq_ok.mp hprocess
    obtain ⟨prepared', h'⟩ := hs.accepts
    -- accounts and address of the call are those of the inputs
    obtain ⟨systemProgram, haccounts, -⟩ := h.accounts
    obtain ⟨systemProgram', haccounts', -⟩ := h'.accounts
    rw [haccounts, List.cons.injEq, List.cons.injEq] at haccounts'
    obtain ⟨rfl, rfl, -⟩ := haccounts'
    have haddress := h.address.symm.trans h'.address
    rw [Option.some.injEq, Prod.mk.injEq] at haddress
    obtain ⟨-, rfl⟩ := haddress
    exact hs.vaultCreated (hne h) h.key

end Initialize

/-! ### `SetRecoveryConfig` -/

namespace SocialRecovery

/-- A recovery config is created whatever its address holds. -/
theorem Fundable.exists_storesConfig (hne : payer.key ≠ config.key)
    (h : Fundable inv m config payer)
    (hc : SetChecks P inv m vault config payer sysvar wire falconSig guardian delay bump a auth) :
    ∃ m₁, StoresConfig P inv m payer config vault.key bump guardian delay m₁ ∧
      m₁.owner config.key = P.programId ∧
      m₁.data config.key = [1, bump, 0, 0] ++ guardian.toList ++ (u64ToLe delay).toList ++
        List.replicate 84 0 ∧
      (m₁.lamports config.key).toNat =
        (m.lamports config.key).toNat + (inv.rent.minimumBalance 128).toNat ∧
      (m₁.lamports payer.key).toNat + (inv.rent.minimumBalance 128).toNat =
        (m.lamports payer.key).toNat ∧
      ∀ k, k ≠ config.key → m₁.owner k = m.owner k ∧ m₁.data k = m.data k ∧
        (k ≠ payer.key → m₁.lamports k = m.lamports k) := by
  obtain ⟨systemProgram, -, haccounts⟩ := hc.accounts
  have hpayer : payer ∈ inv.accounts := by simp [haccounts]
  have hconfig : config ∈ inv.accounts := by simp [haccounts]
  have haffords := h.affords
  have hsupply := h.supply
  -- the full minimum is paid, whatever the address holds already
  obtain ⟨m₁, htransfer⟩ : ∃ m₁, systemTransfer m payer.key config.key
      (inv.rent.minimumBalance recoveryConfigLen) = some m₁ :=
    exists_systemTransfer hne h.payerData h.payerOwner haffords
      (by show _ + (inv.rent.minimumBalance 128).toNat < _; omega)
  obtain ⟨c, hinit⟩ : ∃ c, RecoveryConfig.initializeConfig (List.replicate recoveryConfigLen 0) bump
      guardian delay = .ok c :=
    ⟨_, RecoveryConfig.initializeConfig_eq_ok.mpr ⟨List.length_replicate, rfl⟩⟩
  -- the program signs for the address with its seeds
  have hcreate := hc.address.create
  have hsigned : signedBy P [recoverySignerSeeds vault.key bump] config.key = true := by
    simp [signedBy, hcreate]
  refine ⟨_, .created h.fresh h.system ?_ htransfer ⟨_, hcreate⟩ ?_ hinit, ?_⟩
  · intro entry hentry
    rcases List.mem_cons.mp hentry with rfl | hentry
    · exact ⟨⟨payer, hpayer, rfl⟩, fun _ => ⟨payer, hpayer, rfl, h.payerWritable⟩,
        fun _ => Or.inl ⟨payer, hpayer, rfl, hc.payerSigner⟩⟩
    · rw [List.mem_singleton.mp hentry]
      exact ⟨⟨config, hconfig, rfl⟩, fun _ => ⟨config, hconfig, rfl, hc.configWritable⟩,
        fun hs => by cases hs⟩
  · exact ⟨⟨config, hconfig, rfl⟩, fun _ => ⟨config, hconfig, rfl, hc.configWritable⟩,
      fun _ => Or.inr hsigned⟩
  · obtain ⟨hsource, htarget, hother⟩ := systemTransfer_balances hne htransfer
    obtain ⟨hframeData, hframeOwner, -⟩ := systemTransfer_frame htransfer
    refine ⟨by simp, ?_, by simpa using htarget, by simpa using hsource, fun k hk => ?_⟩
    · rw [Machine.data_setData, if_pos rfl, c.data_eq_layout,
        RecoveryConfig.fields_initializeConfig hinit, RecoveryFields.layout]
      simp only [RecoveryConfig.freshFields, List.append_assoc]
      rfl
    · refine ⟨by simp [hk, hframeOwner], by simp [hk, hframeData], fun hp => ?_⟩
      simpa using hother k hp hk

/-- An authorized `SetRecoveryConfig` creates a recovery config. -/
theorem SetChecks.creates (hix : inv.instruction = some .setRecoveryConfig)
    (hsigners : (Label.executed inv).NoPdaSigns P) (hlen : inv.payload.length = authPayloadLen)
    (hpresents : Presents inv.payload wire falconSig)
    (hc : SetChecks P inv m vault config payer sysvar wire falconSig guardian delay bump a auth)
    (hfund : Fundable inv m config payer) :
    ∃ m', Processor.process P inv.accounts inv.data inv.enter m = .ok ((), m') ∧
      ConfigCreated P inv m vault.key config.key payer.key bump guardian delay a m' := by
  obtain ⟨systemProgram, -, haccounts⟩ := hc.accounts
  -- the payer signs, and the address of a recovery config cannot
  have hne : payer.key ≠ config.key := by
    intro heq
    refine hsigners payer (by simp [haccounts]) hc.payerSigner ?_
    rw [heq]
    exact ⟨_, hc.address.create⟩
  have hvault : config.key ≠ vault.key := by
    intro heq
    have hnil := hfund.fresh
    rw [heq, hc.authorized.data] at hnil
    exact a.data_ne_nil hnil
  obtain ⟨m₁, hstores, howner, hdata, hlamports, hpaid, hframe⟩ := hfund.exists_storesConfig hne hc
  refine ⟨m₁.setData vault.key (a.setNonce auth.nextNonce).data, ?_, ?_⟩
  · rw [process_of_instruction hix]
    exact processSetRecoveryConfig_eq_ok.mpr ⟨hlen, wire, falconSig, hpresents, vault, config,
      payer, sysvar, guardian, delay, bump, a, auth, m₁, hc, hstores, rfl⟩
  · refine ⟨by simpa using howner, by simpa [hvault] using hdata, by simpa using hlamports,
      by simpa using hpaid, ?_, fun k hk => ?_⟩
    · rw [Machine.data_setData, if_pos rfl, eq_add_one hc.authorized.nextNonce]
    · obtain ⟨howner', hdata', hlamports'⟩ := hframe k hk
      exact ⟨by simpa using howner', fun hv => by simpa [hv] using hdata',
        by simpa using hlamports'⟩

end SocialRecovery

/-- **The creation of accounts.** `Initialize` succeeds exactly on what it accepts, for every
balance of the address, and then the vault has the layout of the inputs and the larger of its
balance and the rent minimum, of which the creator has paid the difference, and no other account
has changed. An authorized `SetRecoveryConfig` whose payer can afford the rent minimum succeeds for
every balance of the recovery address as well, and adds the rent minimum to it. No derived address
signs a transaction. -/
theorem account_creation (hsigners : (Label.executed inv).NoPdaSigns P) :
    (inv.instruction = some .initializeAccount →
      ((∃ m', Processor.process P inv.accounts inv.data inv.enter m = .ok ((), m')) ↔
        ∃ creator vault bump prepared, Initialize.Accepts P inv m creator vault bump prepared) ∧
      ∀ creator vault bump prepared m', Initialize.Accepts P inv m creator vault bump prepared →
        Processor.process P inv.accounts inv.data inv.enter m = .ok ((), m') →
        VaultCreated P inv m creator.key vault.key bump prepared m') ∧
    (inv.instruction = some .setRecoveryConfig → inv.payload.length = authPayloadLen →
      ∀ vault config payer sysvar wire falconSig guardian delay bump a auth,
        Presents inv.payload wire falconSig →
        SocialRecovery.SetChecks P inv m vault config payer sysvar wire falconSig guardian delay bump
          a auth →
        SocialRecovery.Fundable inv m config payer →
        ∃ m', Processor.process P inv.accounts inv.data inv.enter m = .ok ((), m') ∧
          ConfigCreated P inv m vault.key config.key payer.key bump guardian delay a m') := by
  refine ⟨fun hix => Initialize.creation_exact hix hsigners, ?_⟩
  intro hix hlen vault config payer sysvar wire falconSig guardian delay bump a auth hpresents hc
    hfund
  exact hc.creates hix hsigners hlen hpresents hfund

/-- The third vault of the sample deployment holds more than the rent minimum before it is
created. It keeps its balance, and the creator pays nothing. -/
theorem account_creation_prefunded :
    ∃ bump prepared m', VaultCreated Sample.platform Sample.createPrivilegedVault Sample.genesis
        Sample.creator Sample.privilegedVault bump prepared m' ∧
      (m'.lamports Sample.privilegedVault).toNat = 10000000 := by
  have hsigners : (Label.executed Sample.createPrivilegedVault).NoPdaSigns Sample.platform := by
    have haddresses : ∀ a ∈ Sample.createPrivilegedVault.accounts, a.isSigner = true →
        ∀ d ∈ Sample.derived, d.address ≠ a.key := by
      decide +kernel
    exact fun a ha hsigner => Sample.not_isPda (haddresses a ha hsigner)
  have hix : Sample.createPrivilegedVault.instruction = some .initializeAccount := by
    decide +kernel
  have hkey : prepareFalconKey Sample.platform
      (Buffer.read Sample.createPrivilegedVault.payload 37 897) = .ok (ByteVec.zero 1024) := by
    decide +kernel
  have haccepts : Initialize.Accepts Sample.platform Sample.createPrivilegedVault Sample.genesis
      (Sample.signerInfo Sample.creator) (Sample.writableInfo Sample.privilegedVault) 255
      (ByteVec.zero 1024) :=
    { length := by decide +kernel
      accounts := ⟨_, rfl, rfl⟩
      signer := rfl
      address := by decide +kernel
      fresh := by decide +kernel
      system := by decide +kernel
      writable := by decide +kernel
      policy := by decide +kernel
      key := hkey
      pays := fun hlt => absurd hlt (by decide +kernel) }
  obtain ⟨hiff, heffect⟩ := (account_creation hsigners (m := Sample.genesis)).1 hix
  obtain ⟨m', hprocess⟩ := hiff.mpr ⟨_, _, _, _, haccepts⟩
  have hcreated := heffect _ _ _ _ m' haccepts hprocess
  refine ⟨255, ByteVec.zero 1024, m', hcreated, ?_⟩
  have hmax : max (Sample.genesis.lamports Sample.privilegedVault).toNat
      (Sample.createPrivilegedVault.rent.minimumBalance 1120).toNat = 10000000 := by
    decide +kernel
  exact hcreated.lamports.trans hmax

end DualKey
