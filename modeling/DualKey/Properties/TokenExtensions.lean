import DualKey.Properties.TransferHook

/-!
# The transfer-hook scan on Token-2022 token accounts

A token account needs no padding: its 165 base bytes are followed by the account type and the
extension entries. The account type is not zero, so the walk starts right behind it, steps from
entry to entry, and stops at a hook (`rejectIfTransferHook_extendedTokenAccount`) or at the
zeros behind the last entry. The walk is by induction on the list of entries.

For `transferSpl` this means that its checks depend on the extensions of source and destination
only through the question whether one of them is a hook.
-/

namespace DualKey

open Buffer

namespace SplToken

/-! ### The walk over entries -/

section Walk

variable {data ys zs : List UInt8} {i : ℕ}

/-- A read of what is in front at `i`. -/
theorem read_of_drop (h : data.drop i = ys ++ zs) : Buffer.read data i ys.length = ys := by
  unfold Buffer.read
  rw [h, List.takeD_left]

theorem drop_of_drop (h : data.drop i = ys ++ zs) : data.drop (i + ys.length) = zs := by
  rw [← List.drop_drop, h, List.drop_left]

theorem length_le_of_drop (hne : ys ≠ []) (h : data.drop i = ys ++ zs) :
    i + ys.length ≤ data.length := by
  have hlen := congrArg List.length h
  rw [List.length_drop, List.length_append] at hlen
  have hpos := List.length_pos_of_ne_nil hne
  omega

/-- In front of zeros the walk ends. -/
theorem scanTlv_zeros {n : ℕ} (h : data.drop i = List.replicate n 0) : scanTlv data i = .ok () := by
  refine scanTlv_zero_entry fun j _ => ?_
  have hdrop : byteAt data (i + j) = byteAt (data.drop i) j := by
    unfold byteAt
    rw [List.getD_eq_getElem?_getD, List.getD_eq_getElem?_getD, List.getElem?_drop]
  rw [hdrop, h, byteAt_replicate_zero]

end Walk

namespace TlvEntry

variable (e : TlvEntry)

theorem length_encode : e.encode.length = 4 + e.value.length := by
  simp only [encode, List.length_append, List.Vector.toList_length]
  omega

theorem encode_ne_nil : e.encode ≠ [] := by
  intro hnil
  have hlen := e.length_encode
  rw [hnil, List.length_nil] at hlen
  omega

/-- The length bytes of an entry give the length of its value. -/
theorem toNat_length : (UInt16.ofNat e.value.length).toNat = e.value.length :=
  UInt16.toNat_ofNat_of_lt' e.fits

instance : DecidablePred IsHook := fun e => by
  unfold IsHook
  infer_instance

end TlvEntry

/-- In front of an entry the walk ends at a hook, and goes on behind any other entry. -/
theorem scanTlv_entry {e : TlvEntry} {data zs : List UInt8} {i : ℕ}
    (h : data.drop i = e.encode ++ zs) :
    scanTlv data i =
      if e.IsHook then Res.fail .invalidAccountData else scanTlv data (i + e.encode.length) := by
  have hfits := length_le_of_drop e.encode_ne_nil h
  rw [e.length_encode] at hfits ⊢
  -- the two header fields are those of the entry
  have htype : readVec 2 data i = u16ToLe e.extType := by
    rw [TlvEntry.encode, List.append_assoc] at h
    exact readVec_eq_iff.mpr (read_of_drop h)
  have hlength : readVec 2 data (i + 2) = u16ToLe (UInt16.ofNat e.value.length) := by
    rw [TlvEntry.encode, List.append_assoc] at h
    have hnext := drop_of_drop h
    rw [List.append_assoc] at hnext
    exact readVec_eq_iff.mpr (read_of_drop hnext)
  rw [scanTlv, dif_pos (by omega), sliceVec_of_le (by omega), sliceVec_of_le (by omega), htype,
    hlength]
  show (Res.failIf (data.length < i + 4 + (u16FromLe (u16ToLe (UInt16.ofNat _))).toNat) _ >>=
    fun _ => Res.failIf (u16FromLe (u16ToLe e.extType) = _ ∨ u16FromLe (u16ToLe e.extType) = _) _
      >>= fun _ => if u16FromLe (u16ToLe e.extType) = 0 ∧ _ then _ else scanTlv data (i + 4 + _)) = _
  rw [u16FromLe_u16ToLe, u16FromLe_u16ToLe, e.toNat_length, Res.failIf, if_neg (by omega)]
  show (Res.failIf e.IsHook _ >>= fun _ => if e.extType = 0 ∧ _ then _ else _) = _
  -- the type is tested for a hook first, and is not zero
  by_cases hhook : e.IsHook
  · rw [Res.failIf, if_pos hhook, if_pos hhook]
    rfl
  · rw [Res.failIf, if_neg hhook, if_neg hhook, if_neg (fun h => e.extType_ne h.1), Nat.add_assoc]
    rfl

/-- The walk refuses exactly the lists with a hook. The induction is on the entries, with the
position of the walk at the head of the list. -/
theorem scanTlv_entries (entries : List TlvEntry) {data : List UInt8} {i n : ℕ}
    (h : data.drop i = entries.flatMap TlvEntry.encode ++ List.replicate n 0) :
    scanTlv data i =
      if ∃ e ∈ entries, e.IsHook then Res.fail .invalidAccountData else .ok () := by
  induction entries generalizing i with
  | nil =>
    rw [scanTlv_zeros h, if_neg]
    rintro ⟨e, he, -⟩
    exact List.not_mem_nil he
  | cons e entries ih =>
    rw [List.flatMap_cons, List.append_assoc] at h
    rw [scanTlv_entry h]
    by_cases hhook : e.IsHook
    · rw [if_pos hhook, if_pos ⟨e, List.mem_cons_self, hhook⟩]
    · rw [if_neg hhook, ih (drop_of_drop h)]
      -- the head is no hook, so a hook is in the tail
      have htail : (∃ e' ∈ e :: entries, e'.IsHook) ↔ ∃ e' ∈ entries, e'.IsHook := by
        simp [hhook]
      simp only [htail]

/-- The walk returns on every string: each entry it steps over is inside the data. -/
theorem scanTlv_returns (data : List UInt8) (i : ℕ) : (scanTlv data i).Returns := by
  fun_induction scanTlv data i with
  | case1 i hlen ih =>
    rw [sliceVec_of_le (by omega), sliceVec_of_le (by omega)]
    refine (Res.returns_failIf _ _).bind fun _ _ => (Res.returns_failIf _ _).bind fun _ _ => ?_
    split
    · exact Res.returns_ok _
    · exact ih _
  | case2 i hlen => exact Res.returns_ok _

/-- The scan returns on every string. -/
theorem rejectIfTransferHook_returns (data : List UInt8) (baseLen : ℕ) :
    (rejectIfTransferHook data baseLen).Returns := by
  unfold rejectIfTransferHook
  split
  · exact Res.returns_ok _
  · have hwalk (start : ℕ) : (if data.length ≤ start then pure ()
        else scanTlv data (start + 1) : DkRes Unit).Returns := by
      split
      · exact Res.returns_ok _
      · exact scanTlv_returns _ _
    split
    · next hlen =>
      rw [slice_eq_ok.mpr ⟨by omega, rfl⟩]
      exact hwalk _
    · exact hwalk _

/-! ### Extended token accounts -/

/-- The data of a token account with extensions: base, account type, entries, and zeros to the
end. -/
def extendedTokenAccount (base : ByteVec tokenAccountLen) (accountType : UInt8)
    (entries : List TlvEntry) (padding : ℕ) : List UInt8 :=
  base.toList ++ accountType :: (entries.flatMap TlvEntry.encode ++ List.replicate padding 0)

/-- The base bytes alone are always accepted. -/
theorem rejectIfTransferHook_base {data : List UInt8} (h : data.length = tokenAccountLen) :
    rejectIfTransferHook data tokenAccountLen = .ok () := by
  unfold rejectIfTransferHook
  rw [if_pos h.le]
  rfl

/-- **The scan of a token account is exact.** -/
theorem rejectIfTransferHook_extendedTokenAccount (base : ByteVec tokenAccountLen)
    {accountType : UInt8} (htype : accountType ≠ 0) (entries : List TlvEntry) (padding : ℕ) :
    rejectIfTransferHook (extendedTokenAccount base accountType entries padding)
      tokenAccountLen =
      if ∃ e ∈ entries, e.IsHook then Res.fail .invalidAccountData else .ok () := by
  generalize hdata : extendedTokenAccount base accountType entries padding = data
  have hbase : base.toList.length = 165 := base.toList_length
  have hlen : 165 < data.length := by
    rw [← hdata, extendedTokenAccount, List.length_append, List.length_cons, hbase]
    omega
  -- the account type stands where padding would begin
  have hbyte : byteAt data 165 = accountType := by
    rw [← hdata, ← hbase]
    exact byteAt_append_right (i := 0)
  have hpadded : ¬ (multisigLen < data.length ∧
      (Buffer.read data tokenAccountLen (multisigLen - tokenAccountLen)).all (· = 0) = true) := by
    rintro ⟨-, hall⟩
    have hzero : ∀ b ∈ Buffer.read data 165 190, b = 0 := by simpa using hall
    have hread : byteAt (Buffer.read data 165 190) 0 = byteAt data 165 := by
      rw [byteAt_read, if_pos (by omega)]
    rw [byteAt_of_all_zero hzero, hbyte] at hread
    exact htype hread.symm
  rw [rejectIfTransferHook_eq (by decide), if_neg (by show ¬ data.length ≤ 165; omega),
    if_neg hpadded]
  refine scanTlv_entries entries (n := padding) ?_
  have hdrop : data.drop 165 =
      accountType :: (entries.flatMap TlvEntry.encode ++ List.replicate padding 0) := by
    rw [← hdata, ← hbase]
    exact List.drop_left
  show data.drop (165 + 1) = _
  rw [← List.drop_drop, hdrop]
  rfl

/-! ### What it means for a transfer -/

/-- The extensions of a token account. -/
structure Extensions where
  accountType : UInt8
  accountType_ne : accountType ≠ 0
  entries : List TlvEntry
  padding : ℕ

/-- The data of a token account: the base alone, or with extensions behind it. -/
def tokenAccountData (base : ByteVec tokenAccountLen) (extensions : Option Extensions) :
    List UInt8 :=
  match extensions with
  | none => base.toList
  | some x => extendedTokenAccount base x.accountType x.entries x.padding

/-- One of the entries is a hook. -/
def HasHook (extensions : Option Extensions) : Prop :=
  ∃ x, extensions = some x ∧ ∃ e ∈ x.entries, e.IsHook

section Transfer

variable {base : ByteVec tokenAccountLen} {extensions : Option Extensions} {mint authority : Pubkey}
  {amount : UInt64}

theorem exists_tokenAccountData (base : ByteVec tokenAccountLen) (extensions : Option Extensions) :
    ∃ rest, tokenAccountData base extensions = base.toList ++ rest := by
  cases extensions with
  | none => exact ⟨[], (List.append_nil _).symm⟩
  | some x => exact ⟨_, rfl⟩

/-- The base bytes are where they are without extensions. -/
theorem readVec_tokenAccountData {n off : ℕ} (h : off + n ≤ tokenAccountLen) :
    readVec n (tokenAccountData base extensions) off = ByteVec.getVec n base off := by
  obtain ⟨rest, hrest⟩ := exists_tokenAccountData base extensions
  refine ByteVec.ext_getByte fun i hi => ?_
  show byteAt (Buffer.read _ off n) i = byteAt (Buffer.read base.toList off n) i
  rw [hrest, byteAt_read, byteAt_read, if_pos hi, if_pos hi, byteAt_append_left]
  rw [base.toList_length]
  omega

/-- A token account passes when it records the mint and has no hook. -/
theorem checkTokenAccount_tokenAccountData :
    checkTokenAccount (tokenAccountData base extensions) mint = .ok () ↔
      ByteVec.getVec 32 base 0 = mint ∧ ¬ HasHook extensions := by
  have hbase : base.toList.length = 165 := base.toList_length
  have hlen : tokenAccountLen ≤ (tokenAccountData base extensions).length := by
    obtain ⟨rest, hrest⟩ := exists_tokenAccountData base extensions
    rw [hrest, List.length_append, hbase]
    exact Nat.le_add_right _ _
  have hscan : rejectIfTransferHook (tokenAccountData base extensions) tokenAccountLen = .ok () ↔
      ¬ HasHook extensions := by
    cases extensions with
    | none =>
      simp only [tokenAccountData, rejectIfTransferHook_base hbase, HasHook, true_iff]
      rintro ⟨_, hnone, -⟩
      cases hnone
    | some x =>
      simp only [tokenAccountData, HasHook, Option.some.injEq, exists_eq_left',
        rejectIfTransferHook_extendedTokenAccount base x.accountType_ne]
      split
      · next hhook => simp [hhook]
      · next hhook => simp [hhook]
  rw [checkTokenAccount_eq_ok, hscan, ← readVec_eq_iff, readVec_tokenAccountData (by decide)]
  constructor
  · rintro ⟨-, hhook, hmint⟩
    exact ⟨hmint, hhook⟩
  · rintro ⟨hmint, hhook⟩
    exact ⟨hlen, hhook, hmint⟩

/-- A source passes when it also records the vault and holds the amount. -/
theorem checkSource_tokenAccountData :
    checkSource (tokenAccountData base extensions) mint authority amount = .ok () ↔
      ByteVec.getVec 32 base 0 = mint ∧ ByteVec.getVec 32 base 32 = authority ∧
        amount ≤ u64FromLe (ByteVec.getVec 8 base 64) ∧ ¬ HasHook extensions := by
  rw [checkSource_eq_ok, checkTokenAccount_tokenAccountData, ← readVec_eq_iff,
    readVec_tokenAccountData (by decide), readVec_tokenAccountData (by decide)]
  constructor
  · rintro ⟨⟨hmint, hhook⟩, howner, hamount⟩
    exact ⟨hmint, howner, hamount, hhook⟩
  · rintro ⟨hmint, howner, hamount, hhook⟩
    exact ⟨⟨hmint, hhook⟩, howner, hamount⟩

end Transfer

/-- What a transfer checks of accounts whose token data have the given bases: nothing of it is
about extensions. -/
structure BaseChecks (P : Platform) (m : Machine)
    (vault creator source mint destination tokenProgram : AccountInfo) (amount : UInt64)
    (expectedDestination : Pubkey) (sourceBase destinationBase : ByteVec tokenAccountLen) :
    Prop where
  expected : destination.key = expectedDestination
  distinct : source.key ≠ destination.key
  program : isSupportedTokenProgram tokenProgram.key = true
  sourceProgram : m.owner source.key = tokenProgram.key
  destinationProgram : m.owner destination.key = tokenProgram.key
  mintProgram : m.owner mint.key = tokenProgram.key
  sourceWritable : source.isWritable = true
  destinationWritable : destination.isWritable = true
  /-- Creator, stored index and stored bump rebuild the vault address. -/
  vaultSeeds : ∃ a : HybridAccount, m.data vault.key = a.data ∧ P.createProgramAddress
    (Pda.signerSeeds creator.key a.fields.accountIndex a.fields.bump) P.programId = some vault.key
  mintAccount : ∃ decimals, mintDecimals (m.data mint.key) = .ok decimals
  sourceMint : ByteVec.getVec 32 sourceBase 0 = mint.key
  sourceOwner : ByteVec.getVec 32 sourceBase 32 = vault.key
  sourceAmount : amount ≤ u64FromLe (ByteVec.getVec 8 sourceBase 64)
  destinationMint : ByteVec.getVec 32 destinationBase 0 = mint.key

section Transfer

variable {P : Platform} {inv : Invocation} {m : Machine}
  {vault creator source mint destination tokenProgram : AccountInfo} {amount : UInt64}
  {expectedDestination : Pubkey} {sourceBase destinationBase : ByteVec tokenAccountLen}
  {sourceExtensions destinationExtensions : Option Extensions}

/-- The checks of a transfer, for two token accounts with or without extensions. -/
theorem transferSplChecks_iff
    (hsource : m.data source.key = tokenAccountData sourceBase sourceExtensions)
    (hdestination : m.data destination.key =
      tokenAccountData destinationBase destinationExtensions) :
    (∃ p, transferSplChecks P vault creator source mint destination tokenProgram amount
        expectedDestination inv.enter m = .ok (p, m)) ↔
      BaseChecks P m vault creator source mint destination tokenProgram amount
          expectedDestination sourceBase destinationBase ∧
        ¬ HasHook sourceExtensions ∧ ¬ HasHook destinationExtensions := by
  constructor
  · rintro ⟨⟨seeds, decimals⟩, h⟩
    obtain ⟨-, hexpected, a, ha, hc, -⟩ := transferSplChecks_eq_ok.mp h
    -- the hook test is the last conjunct of the account checks
    have hs := hc.sourceAccount
    have hd := hc.destinationAccount
    rw [hsource, checkSource_tokenAccountData] at hs
    rw [hdestination, checkTokenAccount_tokenAccountData] at hd
    obtain ⟨hsourceMint, hsourceOwner, hamount, hsourceHook⟩ := hs
    obtain ⟨hdestinationMint, hdestinationHook⟩ := hd
    exact ⟨⟨hexpected, hc.distinct, hc.program, hc.sourceOwner, hc.destinationOwner, hc.mintOwner,
      hc.sourceWritable, hc.destinationWritable, ⟨a, ha, hc.seeds⟩, ⟨decimals, hc.mintAccount⟩,
      hsourceMint, hsourceOwner, hamount, hdestinationMint⟩, hsourceHook, hdestinationHook⟩
  · rintro ⟨hb, hsourceHook, hdestinationHook⟩
    obtain ⟨a, ha, hseeds⟩ := hb.vaultSeeds
    obtain ⟨decimals, hmint⟩ := hb.mintAccount
    refine ⟨(_, decimals), transferSplChecks_eq_ok.mpr ⟨rfl, hb.expected, a, ha, ?_, rfl⟩⟩
    exact
      { distinct := hb.distinct
        program := hb.program
        sourceOwner := hb.sourceProgram
        destinationOwner := hb.destinationProgram
        mintOwner := hb.mintProgram
        sourceWritable := hb.sourceWritable
        destinationWritable := hb.destinationWritable
        seeds := hseeds
        mintAccount := hmint
        sourceAccount := by
          rw [hsource, checkSource_tokenAccountData]
          exact ⟨hb.sourceMint, hb.sourceOwner, hb.sourceAmount, hsourceHook⟩
        destinationAccount := by
          rw [hdestination, checkTokenAccount_tokenAccountData]
          exact ⟨hb.destinationMint, hdestinationHook⟩ }

/-- With a hook on the source or the destination the checks fail, whatever the other accounts
are, and the transfer ends there. -/
theorem transferSpl_of_hook
    (hhook : ∃ base extensions, HasHook extensions ∧
      (m.data source.key = tokenAccountData base extensions ∨
        m.data destination.key = tokenAccountData base extensions)) :
    ∃ fault,
      transferSplChecks P vault creator source mint destination tokenProgram amount
        expectedDestination inv.enter m = .error fault ∧
      transferSpl P vault creator source mint destination tokenProgram amount
        expectedDestination inv.enter m = .error fault := by
  cases hchecks : transferSplChecks P vault creator source mint destination tokenProgram amount
      expectedDestination inv.enter m with
  | error fault => exact ⟨fault, rfl, by rw [transferSpl_eq]; exact Exec.bind_eq_error hchecks⟩
  | ok p =>
    obtain ⟨⟨seeds, decimals⟩, m'⟩ := p
    obtain ⟨-, -, a, -, hc, -⟩ := transferSplChecks_eq_ok.mp hchecks
    -- either account has passed the check that excludes a hook
    obtain ⟨base, extensions, hext, hdata | hdata⟩ := hhook
    · have hs := hc.sourceAccount
      rw [hdata, checkSource_tokenAccountData] at hs
      exact absurd hext hs.2.2.2
    · have hd := hc.destinationAccount
      rw [hdata, checkTokenAccount_tokenAccountData] at hd
      exact absurd hext hd.2

end Transfer

/-- **The token-account scan is exact.** On a token account with extensions it fails exactly
when one of the entries is a hook; it passes the base bytes alone; and it returns on every
string. So a transfer whose source or destination has a hook ends in its checks, before the
invocation, and two token accounts without one are refused for nothing their extensions
contain. -/
theorem token_account_scan_exact :
    (∀ (base : ByteVec tokenAccountLen) (accountType : UInt8) (entries : List TlvEntry)
      (padding : ℕ), accountType ≠ 0 →
      ((∃ e, rejectIfTransferHook (extendedTokenAccount base accountType entries padding)
        tokenAccountLen = Res.fail e) ↔
        ∃ e ∈ entries, e.extType = 14 ∨ e.extType = 15)) ∧
    (∀ data : List UInt8, data.length = 165 →
      rejectIfTransferHook data tokenAccountLen = .ok ()) ∧
    (∀ data : List UInt8, (rejectIfTransferHook data tokenAccountLen).Returns) ∧
    ∀ (P : Platform) (inv : Invocation) (m : Machine)
      (vault creator source mint destination tokenProgram : AccountInfo) (amount : UInt64)
      (expectedDestination : Pubkey),
      ((∃ base extensions, HasHook extensions ∧
          (m.data source.key = tokenAccountData base extensions ∨
            m.data destination.key = tokenAccountData base extensions)) →
        ∃ fault,
          transferSplChecks P vault creator source mint destination tokenProgram amount
            expectedDestination inv.enter m = .error fault ∧
          transferSpl P vault creator source mint destination tokenProgram amount
            expectedDestination inv.enter m = .error fault) ∧
      ∀ sourceBase destinationBase sourceExtensions destinationExtensions,
        ¬ HasHook sourceExtensions → ¬ HasHook destinationExtensions →
        m.data source.key = tokenAccountData sourceBase sourceExtensions →
        m.data destination.key = tokenAccountData destinationBase destinationExtensions →
        ((∃ p, transferSplChecks P vault creator source mint destination tokenProgram amount
            expectedDestination inv.enter m = .ok (p, m)) ↔
          BaseChecks P m vault creator source mint destination tokenProgram amount
            expectedDestination sourceBase destinationBase) := by
  refine ⟨?_, fun _ h => rejectIfTransferHook_base h,
    fun data => rejectIfTransferHook_returns data _, ?_⟩
  · intro base accountType entries padding htype
    rw [rejectIfTransferHook_extendedTokenAccount base htype]
    show _ ↔ ∃ e ∈ entries, e.IsHook
    split
    · next hhook => exact ⟨fun _ => hhook, fun _ => ⟨_, rfl⟩⟩
    · next hhook => exact ⟨fun ⟨_, h⟩ => absurd h.symm Res.fail_ne_ok, fun h => absurd h hhook⟩
  · intro P inv m vault creator source mint destination tokenProgram amount expectedDestination
    refine ⟨transferSpl_of_hook, ?_⟩
    intro sourceBase destinationBase sourceExtensions destinationExtensions hs hd hsource
      hdestination
    rw [transferSplChecks_iff hsource hdestination]
    exact ⟨fun h => h.1, fun h => ⟨h, hs, hd⟩⟩

end SplToken

end DualKey
