import DualKey.Core.Wire
import DualKey.Program.SocialRecovery

/-!
# Signed messages are unambiguous

Owners sign intents, guardians sign approvals, and both sign the digest of a preimage. All
fields of a preimage have a fixed width and a fixed place, so each is read back from its
own range: the header fields of an intent directly, its action from tag and body by the
decoder of the wire (`fromWire_body`). The two kinds of preimage differ in length.

`Message.preimage_injective` puts this together: no two messages share a preimage. A
signature that is valid for two messages shows two byte strings with one digest.
-/

namespace DualKey

open ByteVec Buffer

/-! ### Intents -/

section Intents

variable (i : AuthorizationIntent)

theorem getByte_version_canonicalPreimage : (canonicalPreimage i).getByte 18 = i.version := by
  unfold canonicalPreimage
  cases i.action <;> simp [getByte_putVec_of_disjoint, getByte_putByte_of_ne]

theorem getVec_chainDomain_canonicalPreimage :
    getVec 32 (canonicalPreimage i) 19 = i.chainDomain := by
  unfold canonicalPreimage
  cases i.action <;> simp [getVec_putVec_of_disjoint, getVec_putByte_of_disjoint]

theorem getVec_programId_canonicalPreimage : getVec 32 (canonicalPreimage i) 51 = i.programId := by
  unfold canonicalPreimage
  cases i.action <;> simp [getVec_putVec_of_disjoint, getVec_putByte_of_disjoint]

theorem getVec_expirySlot_canonicalPreimage :
    getVec 8 (canonicalPreimage i) 123 = u64ToLe i.expirySlot := by
  unfold canonicalPreimage
  cases i.action <;> simp [getVec_putVec_of_disjoint, getVec_putByte_of_disjoint]

theorem getByte_tag_canonicalPreimage : (canonicalPreimage i).getByte 131 = i.action.tag := by
  unfold canonicalPreimage
  cases i.action <;> simp [getByte_putVec_of_disjoint, getByte_putByte_of_ne]

end Intents

/-- Two actions with one tag and one body are equal. -/
theorem Action.eq_of_tag_body {a b : Action} (htag : a.tag = b.tag) (hbody : a.body = b.body) :
    a = b := by
  have ha := fromWire_body a
  rw [htag, hbody, fromWire_body] at ha
  exact (Except.ok.inj ha).symm

/-- An intent is determined by its preimage. -/
theorem canonicalPreimage_injective : Function.Injective canonicalPreimage := by
  intro i j h
  have hversion : i.version = j.version := by
    rw [← getByte_version_canonicalPreimage, h, getByte_version_canonicalPreimage]
  have hchainDomain : i.chainDomain = j.chainDomain := by
    rw [← getVec_chainDomain_canonicalPreimage, h, getVec_chainDomain_canonicalPreimage]
  have hprogramId : i.programId = j.programId := by
    rw [← getVec_programId_canonicalPreimage, h, getVec_programId_canonicalPreimage]
  have hexpirySlot : i.expirySlot = j.expirySlot := by
    refine u64ToLe_injective ?_
    rw [← getVec_expirySlot_canonicalPreimage, h, getVec_expirySlot_canonicalPreimage]
  have haction : i.action = j.action := by
    refine Action.eq_of_tag_body ?_ ?_
    · rw [← getByte_tag_canonicalPreimage, h, getByte_tag_canonicalPreimage]
    · rw [← getVec_body_canonicalPreimage, h, getVec_body_canonicalPreimage]
  obtain ⟨haccount, hnonce⟩ := canonicalPreimage_account_nonce h
  exact AuthorizationIntent.ext hversion hchainDomain hprogramId haccount hnonce hexpirySlot haction

/-! ### Approvals -/

/-- The arguments of an approval are determined by its preimage. -/
theorem socialRecoverPreimage_inj {chainDomain chainDomain' : ByteVec 32}
    {programId programId' account account' newEd25519 newEd25519' : Pubkey} {nonce nonce' : UInt64}
    (h : socialRecoverPreimage chainDomain programId account newEd25519 nonce =
      socialRecoverPreimage chainDomain' programId' account' newEd25519' nonce') :
    chainDomain = chainDomain' ∧ programId = programId' ∧ account = account' ∧
      newEd25519 = newEd25519' ∧ nonce = nonce' := by
  have hvec (k off : ℕ) := congrArg (fun p => getVec k p off) h
  have hchainDomain := hvec 32 33
  have hprogramId := hvec 32 65
  have haccount := hvec 32 97
  have hnewEd25519 := hvec 32 129
  have hnonce := hvec 8 161
  simp only [socialRecoverPreimage, getVec_putVec_self] at hnonce
  simp only [socialRecoverPreimage] at hchainDomain hprogramId haccount hnewEd25519
  refine ⟨?_, ?_, ?_, ?_, u64ToLe_injective hnonce⟩
  · simpa [getVec_putVec_of_disjoint] using hchainDomain
  · simpa [getVec_putVec_of_disjoint] using hprogramId
  · simpa [getVec_putVec_of_disjoint] using haccount
  · simpa [getVec_putVec_of_disjoint] using hnewEd25519

/-! ### Messages -/

/-- What is signed: an intent by an owner, or an approval by a guardian. -/
inductive Message where
  | intent (i : AuthorizationIntent)
  | approval (chainDomain : ByteVec 32) (programId account newEd25519 : Pubkey) (nonce : UInt64)
deriving DecidableEq

/-- The bytes whose digest is signed. -/
def Message.preimage : Message → List UInt8
  | intent i => (canonicalPreimage i).toList
  | approval chainDomain programId account newEd25519 nonce =>
    (socialRecoverPreimage chainDomain programId account newEd25519 nonce).toList

/-- No preimage of an intent is one of an approval. -/
theorem canonicalPreimage_ne_socialRecoverPreimage {i : AuthorizationIntent}
    {chainDomain : ByteVec 32} {programId account newEd25519 : Pubkey} {nonce : UInt64} :
    (canonicalPreimage i).toList ≠
      (socialRecoverPreimage chainDomain programId account newEd25519 nonce).toList := by
  intro h
  have hlen := congrArg List.length h
  rw [List.Vector.toList_length, List.Vector.toList_length] at hlen
  exact absurd hlen (by decide)

theorem Message.preimage_injective : Function.Injective Message.preimage := by
  intro x y h
  cases x with
  | intent i =>
    cases y with
    | intent j => rw [canonicalPreimage_injective (Subtype.ext h)]
    | approval _ _ _ _ _ => exact absurd h canonicalPreimage_ne_socialRecoverPreimage
  | approval chainDomain programId account newEd25519 nonce =>
    cases y with
    | intent j => exact absurd h.symm canonicalPreimage_ne_socialRecoverPreimage
    | approval _ _ _ _ _ =>
      obtain ⟨rfl, rfl, rfl, rfl, rfl⟩ := socialRecoverPreimage_inj (Subtype.ext h)
      rfl

/-- Two byte strings with one digest. -/
def Collision (sha256 : List UInt8 → Digest) (x y : List UInt8) : Prop :=
  x ≠ y ∧ sha256 x = sha256 y

section Digests

variable (P : Platform)

/-- The digest owners sign. -/
theorem intentDigest_eq (vault : Pubkey) (nonce : UInt64) (wire : ExecuteIntentWire) :
    intentDigest P vault nonce wire = P.sha256 (Message.intent (reconstructIntent
      { chainDomain := P.chainDomain, programId := P.programId, account := vault, nonce }
      wire)).preimage := rfl

end Digests

/-- **Signed messages are unambiguous.** An intent is determined by its canonical preimage, an
approval by its preimage, and no preimage is one of both. So different messages, of owners or
of guardians, have different digests, or else their preimages are a collision. -/
theorem signed_messages_unambiguous :
    (∀ i j : AuthorizationIntent, canonicalPreimage i = canonicalPreimage j → i = j) ∧
    (∀ (chainDomain chainDomain' : ByteVec 32)
      (programId programId' account account' newEd25519 newEd25519' : Pubkey)
      (nonce nonce' : UInt64),
      socialRecoverPreimage chainDomain programId account newEd25519 nonce =
        socialRecoverPreimage chainDomain' programId' account' newEd25519' nonce' →
      chainDomain = chainDomain' ∧ programId = programId' ∧ account = account' ∧
        newEd25519 = newEd25519' ∧ nonce = nonce') ∧
    (∀ (i : AuthorizationIntent) (chainDomain : ByteVec 32) (programId account newEd25519 : Pubkey)
      (nonce : UInt64), (canonicalPreimage i).toList ≠
        (socialRecoverPreimage chainDomain programId account newEd25519 nonce).toList) ∧
    ∀ (sha256 : List UInt8 → Digest) (x y : Message), x ≠ y →
      sha256 x.preimage ≠ sha256 y.preimage ∨ Collision sha256 x.preimage y.preimage := by
  refine ⟨fun _ _ h => canonicalPreimage_injective h, ?_, ?_, ?_⟩
  · intro _ _ _ _ _ _ _ _ _ _ h
    exact socialRecoverPreimage_inj h
  · intro _ _ _ _ _ _
    exact canonicalPreimage_ne_socialRecoverPreimage
  · intro sha256 x y hne
    by_cases hdigest : sha256 x.preimage = sha256 y.preimage
    · exact Or.inr ⟨fun h => hne (Message.preimage_injective h), hdigest⟩
    · exact Or.inl hdigest

end DualKey
