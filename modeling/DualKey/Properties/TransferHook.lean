import DualKey.Program.SplToken

/-!
# The transfer-hook scan on Token-2022 mints

Token-2022 pads the 82 base bytes of an extended mint with zeros up to position 165,
where the account type follows, and writes the extension entries behind it. The walk
of `rejectIfTransferHook` starts behind position 82 or 355. On a mint it therefore
reads padding, takes it for the zero entry that ends the walk, and never reaches an
entry: every extended mint is accepted (`rejectIfTransferHook_extendedMint`).
-/

namespace DualKey

open Buffer

namespace SplToken

/-! ### The layout of an extended mint -/

/-- An extension entry: a non-zero type and a value whose length fits two bytes. -/
structure TlvEntry where
  extType : UInt16
  value : List UInt8
  extType_ne : extType ≠ 0
  fits : value.length < 2 ^ 16

namespace TlvEntry

/-- Two bytes of type, two of length, the value. -/
def encode (e : TlvEntry) : List UInt8 :=
  (u16ToLe e.extType).toList ++ ((u16ToLe (UInt16.ofNat e.value.length)).toList ++ e.value)

/-- The entry is a transfer hook, of a mint or of a token account. -/
def IsHook (e : TlvEntry) : Prop :=
  e.extType = extTransferHook ∨ e.extType = extTransferHookAccount

/-- The type bytes of an entry are not both zero. -/
theorem type_bytes_ne (e : TlvEntry) : ¬ ∀ j < 2, byteAt e.encode j = 0 := by
  intro h
  have htype : u16ToLe e.extType = ByteVec.zero 2 := by
    refine Subtype.ext (ext_byteAt ?_ fun j hj => ?_)
    · exact (u16ToLe e.extType).toList_length.trans (ByteVec.zero 2).toList_length.symm
    · have hj2 : j < 2 := (u16ToLe e.extType).toList_length ▸ hj
      have hbyte := (byteAt_append_left hj).symm.trans (h j hj2)
      exact hbyte.trans ByteVec.byteAt_zero.symm
  have hzero : e.extType = u16FromLe (ByteVec.zero 2) := by rw [← htype, u16FromLe_u16ToLe]
  exact e.extType_ne (hzero.trans (by decide))

end TlvEntry

/-- The bytes between the base of a mint and its account type. -/
@[simp] abbrev mintPaddingLen : ℕ := 83

/-- The data of a mint with extensions: base, zero padding up to the length of a token
account, account type, entries, and zeros to the end. -/
def extendedMint (base : ByteVec mintLen) (accountType : UInt8) (entries : List TlvEntry)
    (padding : ℕ) : List UInt8 :=
  base.toList ++ (List.replicate mintPaddingLen 0 ++
    accountType :: (entries.flatMap TlvEntry.encode ++ List.replicate padding 0))

section Layout

variable {base : ByteVec mintLen} {accountType : UInt8} {entries : List TlvEntry} {padding : ℕ}

theorem length_extendedMint :
    (extendedMint base accountType entries padding).length =
      166 + (entries.flatMap TlvEntry.encode).length + padding := by
  have hbase : base.toList.length = 82 := base.toList_length
  have hzeros : (List.replicate mintPaddingLen (0 : UInt8)).length = 83 := List.length_replicate
  simp only [extendedMint, List.length_append, List.length_cons, hbase, hzeros]
  rw [List.length_replicate]
  omega

/-- The padding of a mint is zero. -/
theorem byteAt_mintPadding {i : ℕ} (h : 82 ≤ i) (h' : i < 165) :
    byteAt (extendedMint base accountType entries padding) i = 0 := by
  have hbase : base.toList.length = 82 := base.toList_length
  -- 83 zero bytes follow the 82 of the mint
  obtain ⟨j, rfl⟩ := Nat.exists_eq_add_of_le h
  have hzeros : (List.replicate mintPaddingLen (0 : UInt8)).length = 83 := List.length_replicate
  rw [← hbase, extendedMint, byteAt_append_right, byteAt_append_left (by omega),
    byteAt_replicate_zero]

/-- The bytes behind the account type. -/
theorem byteAt_mintEntries {j : ℕ} :
    byteAt (extendedMint base accountType entries padding) (166 + j) =
      byteAt (entries.flatMap TlvEntry.encode ++ List.replicate padding 0) j := by
  have hbase : base.toList.length = 82 := base.toList_length
  have hzeros : (List.replicate mintPaddingLen (0 : UInt8)).length = 83 := List.length_replicate
  have hpos : 166 + j = base.toList.length +
      ((List.replicate mintPaddingLen (0 : UInt8)).length + (1 + j)) := by
    rw [hbase, hzeros]
    omega
  rw [hpos, extendedMint, byteAt_append_right, byteAt_append_right]
  exact @byteAt_append_right [accountType] _ _

end Layout

/-! ### The walk -/

/-- A zero entry ends the walk. -/
theorem scanTlv_zero_entry {data : List UInt8} {i : ℕ}
    (hzero : ∀ j < 4, byteAt data (i + j) = 0) : scanTlv data i = .ok () := by
  rw [scanTlv]
  split
  · next hlen =>
    -- type zero, length zero: the walk takes this for the end
    have htype : readVec 2 data i = ByteVec.zero 2 := readVec_eq_zero fun j hj =>
      hzero j (by omega)
    have hvalue : readVec 2 data (i + 2) = ByteVec.zero 2 := readVec_eq_zero fun j hj => by
      rw [Nat.add_assoc]
      exact hzero (2 + j) (by omega)
    rw [sliceVec_of_le (by omega), sliceVec_of_le (by omega), htype, hvalue]
    show (Res.failIf (data.length < i + 4 + 0) _ >>= fun _ => _) = _
    rw [Res.failIf, if_neg (by omega)]
    rfl
  · rfl

/-- The walk starts behind position 355 when the bytes up to there are zero, and behind the
base bytes otherwise. -/
theorem rejectIfTransferHook_eq {data : List UInt8} {baseLen : ℕ} (hbase : baseLen < multisigLen) :
    rejectIfTransferHook data baseLen =
      if data.length ≤ baseLen then .ok ()
      else if multisigLen < data.length ∧
          (read data baseLen (multisigLen - baseLen)).all (· = 0) = true
        then scanTlv data (multisigLen + 1)
      else scanTlv data (baseLen + 1) := by
  unfold rejectIfTransferHook
  split
  · rfl
  · next hshort =>
    by_cases hlen : multisigLen < data.length
    · -- the padding is there to be read, and what it holds decides where the walk starts
      have hslice : (slice data baseLen (multisigLen - baseLen) : DkRes (List UInt8)) =
          .ok (read data baseLen (multisigLen - baseLen)) :=
        slice_eq_ok.mpr ⟨by omega, rfl⟩
      rw [if_pos ⟨hlen, hbase⟩, hslice]
      by_cases hall : (read data baseLen (multisigLen - baseLen)).all (· = 0) = true
      · rw [if_pos ⟨hlen, hall⟩]
        show (if data.length ≤ (if (read data baseLen (multisigLen - baseLen)).all (· = 0) = true
          then multisigLen else baseLen) then _
            else scanTlv data ((if _ = true then _ else _) + 1)) = _
        rw [if_pos hall, if_neg (by omega)]
      · rw [if_neg (fun h => hall h.2)]
        show (if data.length ≤ (if (read data baseLen (multisigLen - baseLen)).all (· = 0) = true
          then multisigLen else baseLen) then _
            else scanTlv data ((if _ = true then _ else _) + 1)) = _
        rw [if_neg hall, if_neg hshort]
    · rw [if_neg (fun h => hlen h.1), if_neg (fun h => hlen h.1)]
      show (if data.length ≤ baseLen then _ else scanTlv data (baseLen + 1)) = _
      rw [if_neg hshort]

/-- The walk starts behind position 355 only on a mint without entries. -/
theorem extendedMint_entries_nil {base : ByteVec mintLen} {accountType : UInt8}
    {entries : List TlvEntry} {padding : ℕ}
    (hzero : ∀ j < 2, byteAt (extendedMint base accountType entries padding) (166 + j) = 0) :
    entries = [] := by
  cases entries with
  | nil => rfl
  | cons e entries =>
    -- the first entry would have a type other than zero at 166
    refine absurd (fun j hj => ?_) e.type_bytes_ne
    have hbyte := hzero j hj
    have hlen : j < e.encode.length := by
      rw [TlvEntry.encode, List.length_append, (u16ToLe e.extType).toList_length]
      omega
    rwa [byteAt_mintEntries, List.flatMap_cons, List.append_assoc, byteAt_append_left hlen] at hbyte

/-- **Every extended mint is accepted.** The walk behind position 82 meets the padding of
the mint, and the walk behind position 355 meets the zeros at its end. -/
theorem rejectIfTransferHook_extendedMint (base : ByteVec mintLen) (accountType : UInt8)
    (entries : List TlvEntry) (padding : ℕ) :
    rejectIfTransferHook (extendedMint base accountType entries padding) mintLen = .ok () := by
  generalize hdata : extendedMint base accountType entries padding = data
  have hlen := @length_extendedMint base accountType entries padding
  rw [hdata] at hlen
  -- started behind the base bytes, the walk is in the padding
  have hnear : scanTlv data 83 = .ok () := scanTlv_zero_entry fun j hj => by
    rw [← hdata]
    exact byteAt_mintPadding (by omega) (by omega)
  -- started behind 355, it has skipped zeros where the first entry would be
  have hfar : (∀ i, 82 ≤ i → i < 355 → byteAt data i = 0) → scanTlv data 356 = .ok () := by
    intro hzero
    have hentries : entries = [] := extendedMint_entries_nil fun j hj => by
      rw [hdata]
      exact hzero (166 + j) (by omega) (by omega)
    subst hentries
    refine scanTlv_zero_entry fun j _ => ?_
    rw [← hdata, show 356 + j = 166 + (190 + j) by omega, byteAt_mintEntries]
    exact byteAt_replicate_zero
  rw [rejectIfTransferHook_eq (by decide), if_neg (by show ¬ data.length ≤ 82; omega)]
  split
  · next hpad =>
    refine hfar fun i h h' => ?_
    obtain ⟨j, rfl⟩ := Nat.exists_eq_add_of_le h
    have hread : byteAt (read data 82 273) j = byteAt data (82 + j) := by
      rw [byteAt_read, if_pos (by omega)]
    have hzero : ∀ b ∈ read data 82 273, b = 0 := by simpa using hpad.2
    rw [← hread]
    exact byteAt_of_all_zero hzero
  · exact hnear

/-- **When the mint check is exact.** Refusing exactly the mints with a transfer hook is
what the check does on a mint without one, and on no other mint. -/
theorem mintCheck_exact_iff (base : ByteVec mintLen) (accountType : UInt8)
    (entries : List TlvEntry) (padding : ℕ) :
    ((∃ e, rejectIfTransferHook (extendedMint base accountType entries padding) mintLen =
        Res.fail e) ↔ ∃ entry ∈ entries, entry.IsHook) ↔
      ¬ ∃ entry ∈ entries, entry.IsHook := by
  have hnever : ¬ ∃ e, rejectIfTransferHook (extendedMint base accountType entries padding)
      mintLen = Res.fail e := by
    rintro ⟨e, he⟩
    rw [rejectIfTransferHook_extendedMint] at he
    cases he
  constructor
  · intro h hhook
    exact hnever (h.mpr hhook)
  · intro hhook
    exact ⟨fun h => absurd h hnever, fun h => absurd h hhook⟩

/-- The transfer-hook entry of a mint: the authority and the hook program. -/
def transferHookEntry (authority hookProgram : Pubkey) : TlvEntry where
  extType := extTransferHook
  value := authority.toList ++ hookProgram.toList
  extType_ne := by decide
  fits := by
    rw [List.length_append, authority.toList_length, hookProgram.toList_length]
    decide

/-- A mint with six decimals whose one extension is a transfer hook is accepted. -/
theorem mintCheck_accepts_hook :
    ¬ ((∃ e, rejectIfTransferHook (extendedMint
        (((ByteVec.zero mintLen).putByte 44 6 (by decide)).putByte 45 1 (by decide)) 1
        [transferHookEntry (ByteVec.zero 32) systemProgramId] 0) mintLen = Res.fail e) ↔
      ∃ entry ∈ [transferHookEntry (ByteVec.zero 32) systemProgramId], entry.IsHook) := by
  intro h
  obtain ⟨e, he⟩ := h.mpr ⟨_, List.mem_singleton_self _, Or.inl rfl⟩
  rw [rejectIfTransferHook_extendedMint] at he
  cases he

end SplToken

end DualKey
