import DualKey.Runtime.Platform

/-!
# Ed25519 verification through the precompile

The program never verifies an Ed25519 signature itself. The runtime runs the
Ed25519 precompile for every instruction of a transaction that names it, and
`verifyEd25519Precompile` inspects the instruction right before the current one and
binds it to a key and a digest.

`PrecompileAccepts` is what the runtime checked, `RecordCertifies` what one record of
an accepted instruction vouches for, and `Ed25519Presented` says that some record of
the preceding instruction vouches for a key and a message. The program's test
together with the runtime's is sound (`verifyEd25519Precompile_sound`).
-/

namespace DualKey

open Buffer

/-- One signature record: where signature, key and message are, and in which
instruction of the transaction (`0xFFFF`: in the precompile instruction itself). -/
structure Ed25519Offsets where
  signatureOffset : UInt16
  signatureIxIndex : UInt16
  publicKeyOffset : UInt16
  publicKeyIxIndex : UInt16
  messageDataOffset : UInt16
  messageDataSize : UInt16
  messageIxIndex : UInt16
deriving DecidableEq

/-- Record `i` of a precompile instruction: 14 bytes behind a header of 2. -/
def ed25519Record (data : List UInt8) (i : ℕ) : Ed25519Offsets where
  signatureOffset := u16At data (2 + 14 * i)
  signatureIxIndex := u16At data (2 + 14 * i + 2)
  publicKeyOffset := u16At data (2 + 14 * i + 4)
  publicKeyIxIndex := u16At data (2 + 14 * i + 6)
  messageDataOffset := u16At data (2 + 14 * i + 8)
  messageDataSize := u16At data (2 + 14 * i + 10)
  messageIxIndex := u16At data (2 + 14 * i + 12)

/-- The bytes a record points at. -/
def precompileSlice (instructions : List Instruction) (data : List UInt8)
    (ixIndex offset : UInt16) (size : ℕ) : Option (List UInt8) := do
  let source ← if ixIndex = 0xFFFF then some data
    else (instructions[ixIndex.toNat]?).map Instruction.data
  readRange source offset.toNat size

variable (P : Platform)

/-- A record whose signature range verifies under its key range over its message range,
the last two being `key` and `message`. -/
def RecordCertifies (instructions : List Instruction) (data : List UInt8) (r : Ed25519Offsets)
    (key : Pubkey) (message : List UInt8) : Prop :=
  precompileSlice instructions data r.publicKeyIxIndex r.publicKeyOffset 32 = some key.toList ∧
  precompileSlice instructions data r.messageIxIndex r.messageDataOffset
    r.messageDataSize.toNat = some message ∧
  ∃ signature : ByteVec 64,
    precompileSlice instructions data r.signatureIxIndex r.signatureOffset 64 =
      some signature.toList ∧
    P.ed25519Verify key message signature = true

/-- The precompile accepts an instruction when it carries all the records it announces
and each of them verifies. -/
def PrecompileAccepts (instructions : List Instruction) (data : List UInt8) : Prop :=
  2 + 14 * (byteAt data 0).toNat ≤ data.length ∧
  ∀ i < (byteAt data 0).toNat, ∃ key message,
    RecordCertifies P instructions data (ed25519Record data i) key message

/-- The runtime has run the precompile on every instruction of the transaction that
names it. -/
def InvokeContext.PrecompilesAccepted (inv : InvokeContext) : Prop :=
  ∀ ix ∈ inv.instructions, ix.programId = ed25519ProgramId →
    PrecompileAccepts P inv.instructions ix.data

section Decidable

variable {P} {instructions : List Instruction} {data : List UInt8} {r : Ed25519Offsets}

/-- The precompile's check of one record. -/
def recordVerifies (P : Platform) (instructions : List Instruction) (data : List UInt8)
    (r : Ed25519Offsets) : Bool :=
  match precompileSlice instructions data r.publicKeyIxIndex r.publicKeyOffset 32,
    precompileSlice instructions data r.messageIxIndex r.messageDataOffset r.messageDataSize.toNat,
    precompileSlice instructions data r.signatureIxIndex r.signatureOffset 64 with
  | some key, some message, some signature =>
    if h : key.length = 32 ∧ signature.length = 64 then
      P.ed25519Verify ⟨key, h.1⟩ message ⟨signature, h.2⟩
    else false
  | _, _, _ => false

theorem recordVerifies_iff :
    recordVerifies P instructions data r = true ↔
      ∃ key message, RecordCertifies P instructions data r key message := by
  unfold recordVerifies
  constructor
  · intro h
    split at h
    · next key message signature hkey hmessage hsignature =>
      split at h
      · next hlen =>
        exact ⟨⟨key, hlen.1⟩, message, hkey, hmessage, ⟨signature, hlen.2⟩, hsignature, h⟩
      · cases h
    · cases h
  · intro h
    obtain ⟨key, message, hkey, hmessage, signature, hsignature, hverify⟩ := h
    have hlen : key.toList.length = 32 ∧ signature.toList.length = 64 :=
      ⟨key.toList_length, signature.toList_length⟩
    rw [hkey, hmessage, hsignature]
    show (if h : key.toList.length = 32 ∧ signature.toList.length = 64 then _ else false) = true
    rw [dif_pos hlen]
    exact hverify

instance : Decidable (∃ key message, RecordCertifies P instructions data r key message) :=
  decidable_of_iff _ recordVerifies_iff

instance : Decidable (PrecompileAccepts P instructions data) :=
  inferInstanceAs (Decidable (_ ∧ ∀ i < (byteAt data 0).toNat, ∃ key message,
    RecordCertifies P instructions data (ed25519Record data i) key message))

instance (inv : InvokeContext) : Decidable (inv.PrecompilesAccepted P) :=
  inferInstanceAs (Decidable (∀ ix ∈ inv.instructions, ix.programId = ed25519ProgramId →
    PrecompileAccepts P inv.instructions ix.data))

end Decidable

/-- The instruction right before the current one is a precompile instruction with a
record that is valid for `key` over `message`. -/
def Ed25519Presented (inv : InvokeContext) (key : Pubkey) (message : List UInt8) : Prop :=
  ∃ ix, inv.predecessor = some ix ∧ ix.programId = ed25519ProgramId ∧
    ∃ i < (byteAt ix.data 0).toNat,
      RecordCertifies P inv.instructions ix.data (ed25519Record ix.data i) key message

/-! ### The program's inspection -/

/-- `u16` at `i`, checked. -/
def readU16 (data : List UInt8) (i : ℕ) : DkRes UInt16 := do
  let bytes ← Res.okOr (readRange data i 2) .malformedEd25519Precompile
  pure (u16FromLe (readVec 2 bytes 0))

/-- The range of `len` bytes at `offset`, checked. -/
def sliceAt (data : List UInt8) (offset : UInt16) (len : ℕ) : DkRes (List UInt8) :=
  Res.okOr (readRange data offset.toNat len) .malformedEd25519Precompile

/-- Bind the preceding precompile instruction to a key and a digest. -/
def verifyEd25519Precompile (inv : InvokeContext) (instructionsSysvar : AccountInfo)
    (expectedPubkey : Pubkey) (expectedDigest : Digest) : DkRes Unit := do
  Res.failIf (instructionsSysvar.key ≠ instructionsSysvarId) .invalidProgramAccount
  let ix ← Res.okOr inv.predecessor .malformedEd25519Precompile
  Res.failIf (ix.programId ≠ ed25519ProgramId) .malformedEd25519Precompile
  let data := ix.data
  Res.failIf (data.length < 16) .malformedEd25519Precompile
  let numSignatures ← index data 0
  let pad ← index data 1
  Res.failIf (numSignatures ≠ 1 ∨ pad ≠ 0) .malformedEd25519Precompile
  let offsets ← slice data 2 14
  let signatureOffset ← readU16 offsets 0
  let signatureIxIndex ← readU16 offsets 2
  let publicKeyOffset ← readU16 offsets 4
  let publicKeyIxIndex ← readU16 offsets 6
  let messageDataOffset ← readU16 offsets 8
  let messageDataSize ← readU16 offsets 10
  let messageIxIndex ← readU16 offsets 12
  Res.failIf (signatureIxIndex ≠ 0xFFFF ∨ publicKeyIxIndex ≠ 0xFFFF ∨ messageIxIndex ≠ 0xFFFF)
    .malformedEd25519Precompile
  Res.failIf (messageDataSize.toNat ≠ 32) .malformedEd25519Precompile
  let pubkey ← sliceAt data publicKeyOffset 32
  let _signature ← sliceAt data signatureOffset 64
  let message ← sliceAt data messageDataOffset 32
  Res.failIf (pubkey ≠ expectedPubkey.toList) .invalidEd25519
  Res.failIf (message ≠ expectedDigest.toList) .invalidEd25519

section Soundness

variable {P} {inv : InvokeContext} {sysvar : AccountInfo} {key : Pubkey} {digest : Digest}

/-- A field read from the 14 bytes of the first record is the record's field. -/
theorem readU16_slice {data : List UInt8} {i : ℕ} {v : UInt16} (hi : i + 2 ≤ 14) :
    readU16 (read data 2 14) i = .ok v ↔ u16At data (2 + i) = v := by
  -- two bytes of the 14 are two bytes of the data, 2 further
  have hread : read (read data 2 14) i 2 = read data (2 + i) 2 := by
    refine ext_byteAt (by simp) fun j hj => ?_
    rw [length_read] at hj
    simp only [byteAt_read, if_pos hj, if_pos (show i + j < 14 by omega), Nat.add_assoc]
  have hrange : readRange (read data 2 14) i 2 = some (read data (2 + i) 2) := by
    rw [readRange_eq_some, length_read]
    exact ⟨hi, hread⟩
  have hvec : readVec 2 (read data (2 + i) 2) 0 = readVec 2 data (2 + i) := by
    rw [readVec_eq_iff, toList_readVec]
    refine ext_byteAt (by simp) fun j hj => ?_
    rw [length_read] at hj
    simp only [byteAt_read, if_pos hj, Nat.zero_add]
  rw [readU16, hrange]
  simp [Res.okOr, hvec, u16At]

theorem sliceAt_eq_ok {data ys : List UInt8} {offset : UInt16} {len : ℕ} :
    sliceAt data offset len = .ok ys ↔ readRange data offset.toNat len = some ys :=
  Res.okOr_eq_ok

/-- What the inspection establishes: the preceding instruction is a precompile
instruction with a single record that points into the instruction itself, at the
expected key and digest. -/
theorem verifyEd25519Precompile_eq_ok {u : Unit} :
    verifyEd25519Precompile inv sysvar key digest = .ok u ↔
      sysvar.key = instructionsSysvarId ∧
      ∃ ix, inv.predecessor = some ix ∧ ix.programId = ed25519ProgramId ∧
        16 ≤ ix.data.length ∧ byteAt ix.data 0 = 1 ∧ byteAt ix.data 1 = 0 ∧
        (ed25519Record ix.data 0).signatureIxIndex = 0xFFFF ∧
        (ed25519Record ix.data 0).publicKeyIxIndex = 0xFFFF ∧
        (ed25519Record ix.data 0).messageIxIndex = 0xFFFF ∧
        (ed25519Record ix.data 0).messageDataSize.toNat = 32 ∧
        readRange ix.data (ed25519Record ix.data 0).publicKeyOffset.toNat 32 =
          some key.toList ∧
        (∃ signature,
          readRange ix.data (ed25519Record ix.data 0).signatureOffset.toNat 64 = some signature) ∧
        readRange ix.data (ed25519Record ix.data 0).messageDataOffset.toNat 32 =
          some digest.toList := by
  simp only [verifyEd25519Precompile, Res.bind_eq_ok, Res.failIf_eq_ok, Res.okOr_eq_ok,
    index_eq_ok, slice_eq_ok, sliceAt_eq_ok, not_not, not_or, not_lt]
  constructor
  · rintro ⟨-, hsysvar, ix, hix, -, hprogram, -, hlen, -, ⟨-, rfl⟩, -, ⟨-, rfl⟩, -, ⟨hnum, hpad⟩,
      -, ⟨-, rfl⟩, h⟩
    -- the seven words of the header are the fields of record 0
    simp (disch := decide) only [readU16_slice] at h
    obtain ⟨-, rfl, -, rfl, -, rfl, -, rfl, -, rfl, -, rfl, -, rfl, -, ⟨hsig, hkey, hmsg⟩, -,
      hsize, -, hpubkey, signature, hsignature, -, hmessage, -, rfl, rfl⟩ := h
    exact ⟨hsysvar, ix, hix, hprogram, hlen, hnum, hpad, hsig, hkey, hmsg, hsize, hpubkey,
      ⟨signature, hsignature⟩, hmessage⟩
  · rintro ⟨hsysvar, ix, hix, hprogram, hlen, hnum, hpad, hsig, hkey, hmsg, hsize, hpubkey,
      ⟨signature, hsignature⟩, hmessage⟩
    refine ⟨(), hsysvar, ix, hix, (), hprogram, (), hlen, _, ⟨by omega, rfl⟩, _, ⟨by omega, rfl⟩,
      (), ⟨hnum, hpad⟩, _, ⟨by omega, rfl⟩, ?_⟩
    simp (disch := decide) only [readU16_slice]
    exact ⟨_, rfl, _, rfl, _, rfl, _, rfl, _, rfl, _, rfl, _, rfl, (), ⟨hsig, hkey, hmsg⟩, (),
      hsize, _, hpubkey, signature, hsignature, _, hmessage, (), rfl, rfl⟩

/-- The inspection indexes only data whose length it has tested. -/
theorem verifyEd25519Precompile_returns :
    (verifyEd25519Precompile inv sysvar key digest).Returns := by
  unfold verifyEd25519Precompile
  refine (Res.returns_failIf _ _).bind fun _ _ => ?_
  refine (Res.returns_okOr _ _).bind fun ix _ => ?_
  refine (Res.returns_failIf _ _).bind fun _ _ => ?_
  refine (Res.returns_failIf _ _).bind fun _ hlen => ?_
  rw [Res.failIf_eq_ok, not_lt] at hlen
  -- from here on there are 16 bytes, which is all that is indexed unchecked
  have hindex (i : ℕ) (hi : i < 16) : (index ix.data i : DkRes UInt8).Returns :=
    index_returns (by omega)
  have hslice : (slice ix.data 2 14 : DkRes (List UInt8)).Returns := slice_returns (by omega)
  have hread (offsets : List UInt8) (i : ℕ) : (readU16 offsets i).Returns :=
    (Res.returns_okOr _ _).bind fun _ _ => Res.returns_ok _
  refine (hindex 0 (by decide)).bind fun _ _ => (hindex 1 (by decide)).bind fun _ _ => ?_
  refine (Res.returns_failIf _ _).bind fun _ _ => hslice.bind fun offsets _ => ?_
  refine (hread _ _).bind fun _ _ => (hread _ _).bind fun _ _ => (hread _ _).bind fun _ _ => ?_
  refine (hread _ _).bind fun _ _ => (hread _ _).bind fun _ _ => (hread _ _).bind fun _ _ => ?_
  refine (hread _ _).bind fun _ _ => ?_
  refine (Res.returns_failIf _ _).bind fun _ _ => (Res.returns_failIf _ _).bind fun _ _ => ?_
  refine (Res.returns_okOr _ _).bind fun _ _ => (Res.returns_okOr _ _).bind fun _ _ => ?_
  refine (Res.returns_okOr _ _).bind fun _ _ => (Res.returns_failIf _ _).bind fun _ _ => ?_
  exact Res.returns_failIf _ _

/-- A record that names its own instruction certifies what lies at its offsets there. -/
theorem RecordCertifies.own {instructions : List Instruction} {data message : List UInt8}
    {r : Ed25519Offsets} (h : RecordCertifies P instructions data r key message)
    (hkeyIx : r.publicKeyIxIndex = 0xFFFF) (hmsgIx : r.messageIxIndex = 0xFFFF)
    (hsigIx : r.signatureIxIndex = 0xFFFF) (hsize : r.messageDataSize.toNat = 32) :
    readRange data r.publicKeyOffset.toNat 32 = some key.toList ∧
      readRange data r.messageDataOffset.toNat 32 = some message ∧
      ∃ signature : ByteVec 64,
        readRange data r.signatureOffset.toNat 64 = some signature.toList ∧
        P.ed25519Verify key message signature = true := by
  obtain ⟨hkey, hmessage, signature, hsignature, hverify⟩ := h
  rw [precompileSlice, if_pos hkeyIx] at hkey
  rw [precompileSlice, if_pos hmsgIx, hsize] at hmessage
  rw [precompileSlice, if_pos hsigIx] at hsignature
  exact ⟨hkey, hmessage, signature, hsignature, hverify⟩

/-- **Soundness of the inspection.** When the runtime has accepted the precompile
instructions, a successful inspection means that the preceding instruction carries a
record valid for the expected key over the expected digest. -/
theorem verifyEd25519Precompile_sound {u : Unit} (hruntime : inv.PrecompilesAccepted P)
    (h : verifyEd25519Precompile inv sysvar key digest = .ok u) :
    Ed25519Presented P inv key digest.toList := by
  obtain ⟨-, ix, hix, hprogram, -, hnum, -, hsigIx, hkeyIx, hmsgIx, hsize, hpubkey, -, hmessage⟩ :=
    verifyEd25519Precompile_eq_ok.mp h
  -- the predecessor is one of the transaction, so the runtime has run the precompile on it
  have hmem : ix ∈ inv.instructions := by
    unfold InvokeContext.predecessor at hix
    split at hix
    · cases hix
    · exact List.mem_of_getElem? hix
  have hpos : 0 < (byteAt ix.data 0).toNat := by
    rw [hnum]
    decide
  refine ⟨ix, hix, hprogram, 0, hpos, ?_⟩
  obtain ⟨key', message', hcertifies⟩ := (hruntime ix hmem hprogram).2 0 hpos
  -- the record the precompile verified is the one the program read
  obtain ⟨hkey', hmessage', -⟩ := hcertifies.own hkeyIx hmsgIx hsigIx hsize
  obtain rfl : key' = key := Subtype.ext (Option.some.inj (hkey'.symm.trans hpubkey))
  obtain rfl : message' = digest.toList := Option.some.inj (hmessage'.symm.trans hmessage)
  exact hcertifies

end Soundness

end DualKey
