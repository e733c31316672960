import DualKey.Client.Built
import DualKey.Client.Message
import DualKey.Properties.Authorization
import DualKey.Properties.ClientBuilders
import DualKey.Properties.Refinement
import DualKey.Properties.Veto
import DualKey.Properties.WireFormat

/-!
# Client transactions on chain

The runtime runs an instruction of the client as the last of a transaction
(`Invocation.Hosts`). The precompile instruction before it is accepted and passes the program's
inspection when its signature is valid, and an intent that was signed for the record of a vault
is authorized there, whatever the policy: both schemes have signed.
-/

namespace DualKey

open Buffer Client

variable {Coins : Type} {P : Platform} {crypto : Crypto Coins} {inv : Invocation}

/-! ### Transactions -/

/-- The runtime runs the last of the instructions, behind the others. The instructions sysvar
shows program and data of each of them; the privileges it shows depend on the whole
transaction. -/
structure Invocation.Hosts (inv : Invocation) (ixs : List Instruction) : Prop where
  shown : List.Forall₂ (fun ix shown => shown.programId = ix.programId ∧ shown.data = ix.data)
    ixs inv.instructions
  current : inv.current + 1 = ixs.length
  runs : ∃ ix, ixs.getLast? = some ix ∧ inv.data = ix.data ∧ ix.Presented inv.accounts

section Hosts

variable {before ix : Instruction}

/-- The last instruction is the one that runs. -/
theorem Invocation.Hosts.last {ixs : List Instruction} (h : inv.Hosts (ixs ++ [ix])) :
    inv.data = ix.data ∧ ix.Presented inv.accounts := by
  obtain ⟨ix', hlast, hrest⟩ := h.runs
  rw [List.getLast?_concat, Option.some.injEq] at hlast
  exact hlast ▸ hrest

/-- Of two instructions, the first is right before the one that runs. -/
theorem Invocation.Hosts.predecessor (h : inv.Hosts [before, ix]) :
    ∃ shown last, inv.instructions = [shown, last] ∧ inv.predecessor = some shown ∧
      shown.programId = before.programId ∧ shown.data = before.data ∧
      last.programId = ix.programId := by
  have hshown := h.shown
  simp only [List.forall₂_cons_left_iff, List.forall₂_nil_left_iff] at hshown
  obtain ⟨shown, _, ⟨hprogram, hdata⟩, ⟨last, _, ⟨hlast, -⟩, rfl, rfl⟩, hixs⟩ := hshown
  refine ⟨shown, last, hixs, ?_, hprogram, hdata, hlast⟩
  have hcurrent : inv.current = 1 := Nat.succ.inj h.current
  rw [InvokeContext.predecessor, hcurrent, hixs]
  rfl

end Hosts

/-! ### The precompile instruction -/

section Precompile

variable {digest : Digest} {signature : ByteVec 64} {key : Pubkey}

/-- The sixteen bytes in front: one record, which points at key, signature and digest behind. -/
def ed25519Header : List UInt8 :=
  [1, 0, 48, 0, 0xFF, 0xFF, 16, 0, 0xFF, 0xFF, 112, 0, 32, 0, 0xFF, 0xFF]

theorem data_ed25519Instruction : (ed25519Instruction digest signature key).data =
    ed25519Header ++ (key.toList ++ (signature.toList ++ digest.toList)) := rfl

variable (digest signature key) in
theorem ed25519Record_ed25519Instruction :
    ed25519Record (ed25519Instruction digest signature key).data 0 =
      { signatureOffset := 48, signatureIxIndex := 0xFFFF, publicKeyOffset := 16
        publicKeyIxIndex := 0xFFFF, messageDataOffset := 112, messageDataSize := 32
        messageIxIndex := 0xFFFF } := by
  have hword (off : ℕ) (hoff : off + 2 ≤ ed25519Header.length) :
      u16At (ed25519Instruction digest signature key).data off = u16At ed25519Header off := by
    rw [u16At, u16At, data_ed25519Instruction, readVec_append_left hoff]
  simp (disch := decide) only [ed25519Record, hword]
  decide

theorem length_ed25519Instruction :
    (ed25519Instruction digest signature key).data.length = 144 := by
  simp only [data_ed25519Instruction, List.length_append, List.Vector.toList_length]
  rfl

variable (digest signature key) in
/-- The three ranges. -/
theorem readRange_ed25519Instruction :
    readRange (ed25519Instruction digest signature key).data 16 32 = some key.toList ∧
    readRange (ed25519Instruction digest signature key).data 48 64 = some signature.toList ∧
    readRange (ed25519Instruction digest signature key).data 112 32 = some digest.toList := by
  simp only [readRange_eq_some, length_ed25519Instruction]
  refine ⟨⟨by decide, ?_⟩, ⟨by decide, ?_⟩, ⟨by decide, ?_⟩⟩
  · exact read_segment rfl key.toList_length
  · have hfront : (ed25519Header ++ key.toList).length = 48 := by
      rw [List.length_append, key.toList_length]
      rfl
    rw [data_ed25519Instruction, ← List.append_assoc]
    exact read_segment hfront signature.toList_length
  · have hfront : (ed25519Header ++ key.toList ++ signature.toList).length = 112 := by
      rw [List.length_append, List.length_append, key.toList_length, signature.toList_length]
      rfl
    have hwhole : read (ed25519Header ++ key.toList ++ signature.toList ++ (digest.toList ++ []))
        112 32 = digest.toList := read_segment hfront digest.toList_length
    rw [List.append_nil] at hwhole
    rw [data_ed25519Instruction, ← List.append_assoc, ← List.append_assoc]
    exact hwhole

/-- The program's inspection finds key and digest. -/
theorem ed25519Inspected_of_shown {shown : Instruction}
    (hprogram : shown.programId = ed25519ProgramId)
    (hdata : shown.data = (ed25519Instruction digest signature key).data) :
    Ed25519Inspected shown key digest := by
  obtain ⟨hkey, hsignature, hmessage⟩ := readRange_ed25519Instruction digest signature key
  have hrecord := ed25519Record_ed25519Instruction digest signature key
  simp only [ed25519Record, Ed25519Offsets.mk.injEq] at hrecord
  obtain ⟨hsigOff, hsigIx, hkeyOff, hkeyIx, hmsgOff, hmsgSize, hmsgIx⟩ := hrecord
  have hcount : byteAt shown.data 0 = 1 := by rw [hdata]; rfl
  have hpadding : byteAt shown.data 1 = 0 := by rw [hdata]; rfl
  rw [readRange_eq_some, ← hdata] at hkey hsignature hmessage
  rw [← hdata] at hsigOff hsigIx hkeyOff hkeyIx hmsgOff hmsgSize hmsgIx
  exact
    { program := hprogram
      length := by omega
      count := hcount
      padding := hpadding
      signatureIx := hsigIx
      publicKeyIx := hkeyIx
      messageIx := hmsgIx
      messageSize := by rw [hmsgSize]; rfl
      keyInside := by rw [hkeyOff]; exact hkey.1
      signatureInside := by rw [hsigOff]; exact hsignature.1
      messageInside := by rw [hmsgOff]; exact hmessage.1
      key := by rw [hkeyOff]; exact hkey.2
      message := by rw [hmsgOff]; exact hmessage.2 }

/-- The runtime accepts the precompile instruction of a valid signature. -/
theorem precompileAccepts_ed25519Instruction {instructions : List Instruction}
    (hvalid : P.ed25519Verify key digest.toList signature = true) :
    PrecompileAccepts P instructions (ed25519Instruction digest signature key).data := by
  obtain ⟨hkey, hsignature, hmessage⟩ := readRange_ed25519Instruction digest signature key
  have hcount : (byteAt (ed25519Instruction digest signature key).data 0).toNat = 1 := rfl
  refine ⟨?_, fun i hi => ?_⟩
  · rw [hcount, length_ed25519Instruction]
    decide
  · obtain rfl : i = 0 := by omega
    rw [ed25519Record_ed25519Instruction]
    exact ⟨key, digest.toList, hkey, hmessage, signature, hsignature, hvalid⟩

end Precompile

/-! ### Authorization -/

/-- The program is deployed where a client without a cluster feature takes it to be, and hashes
as the client does. -/
structure Deployed (P : Platform) (crypto : Crypto Coins) : Prop where
  cluster : P.cluster = .localnet
  sha256 : crypto.sha256 = P.sha256
  programId : P.programId ≠ ed25519ProgramId

/-- What the key pair signs is valid for the precompile. -/
def Ed25519Keypair.ValidOn (P : Platform) (crypto : Crypto Coins) (ed : Ed25519Keypair) : Prop :=
  ∀ message, P.ed25519Verify (ed.publicBytes crypto) message
    (crypto.ed25519.sign ed.signing message) = true

/-- What the key pair signs is valid under the prepared key, if it fits the wire. -/
def FalconKeypair.ValidOn (P : Platform) (crypto : Crypto Coins) (falcon : FalconKeypair)
    (prepared : PreparedFalconPubkey) : Prop :=
  ∀ digest sig, falcon.Signed crypto digest sig → FalconValid P prepared digest.toList sig

theorem FalconKeypair.Signed.length {falcon : FalconKeypair} {digest : Digest} {sig : List UInt8}
    (h : falcon.Signed crypto digest sig) : sig.length = falconSignatureLen := by
  obtain ⟨coins, wire, -, rfl⟩ := h
  exact wire.asWireBytes.toList_length

/-- The program rebuilds the digest the client has signed. -/
theorem Deployed.intentDigest_eq (h : Deployed P crypto) {v : Pubkey} {nonce expirySlot : UInt64}
    {action : Action} :
    intentDigest P v nonce (.fromIntent (signingIntent P.programId v nonce expirySlot action)) =
      canonicalDigest crypto (signingIntent P.programId v nonce expirySlot action) := by
  rw [intentDigest, canonicalDigest, h.sha256, Platform.chainDomain, h.cluster]
  rfl

section Requirement

variable {action : Action} {b : UInt8} {threshold : UInt64} {e f : Prop}

theorem SignatureRequirement.SatisfiedBy.of_both {req : SignatureRequirement} (he : e) (hf : f) :
    req.SatisfiedBy e f := by
  cases req with
  | ed25519 => exact he
  | falcon => exact hf
  | both => exact ⟨he, hf⟩
  | either => exact Or.inl he

/-- Two valid signatures are enough for every policy. -/
theorem PolicyMet.of_both (hb : b ≤ 5) (he : e) (hf : f) : PolicyMet b threshold action e f := by
  obtain ⟨p, hp⟩ := AuthorizationPolicy.exists_fromU8.mpr hb
  have hmet : PolicyMet b ((some threshold).getD 0) action e f :=
    (policyMet_iff hp).mpr (.of_both he hf)
  exact hmet

/-- The recovery rotation asks for Falcon alone. -/
theorem SignaturesMeet.of_signed (hb : b ≤ 5) (hf : f)
    (he : (∀ k, action ≠ .recoverAccount .rotateEd25519 k) → e)
    (htarget : ∀ newPolicy t, action = .changePolicy newPolicy t → newPolicy ≤ 5) :
    SignaturesMeet b threshold action e f := by
  unfold SignaturesMeet
  split
  · exact hf
  · exact ⟨.of_both hb (he (by simp)) hf, .of_both (htarget _ _ rfl) (he (by simp)) hf⟩
  · next hrotation _ => exact .of_both hb (he hrotation) hf

end Requirement

section Authorized

variable {m : Machine} {vault sysvar : AccountInfo} {a : HybridAccount}
  {policy : AuthorizationPolicy} {wire : ExecuteIntentWire} {falconSig : List UInt8}

/-- Signatures of both schemes authorize a fresh intent for the stored nonce. -/
theorem exists_authorized (hva : VaultAt P m vault.key a)
    (hpolicy : AuthorizationPolicy.fromU8 a.fields.policy = some policy)
    (hnonce : a.fields.nonce.toNat + 1 < 2 ^ 64) (hslot : inv.slot ≤ wire.expirySlot)
    (hlen : falconSig.length = falconSignatureLen)
    (hed : (∀ k, wire.action ≠ .recoverAccount .rotateEd25519 k) →
      verifyEd25519Precompile inv sysvar a.fields.ownerEd25519
        (intentDigest P vault.key a.fields.nonce wire) = .ok ())
    (hfalcon : FalconValid P a.fields.preparedFalconPublicKey
      (intentDigest P vault.key a.fields.nonce wire).toList falconSig)
    (hrecovery : ∀ k, wire.action = .recoverAccount .rotateEd25519 k → a.fields.recovery = true)
    (htarget : ∀ newPolicy t, wire.action = .changePolicy newPolicy t → newPolicy ≤ 5) :
    ∃ auth, auth.policy = policy ∧ auth.digest = intentDigest P vault.key a.fields.nonce wire ∧
      Authorized P inv m.begin vault sysvar wire falconSig a auth := by
  have hnext : a.fields.nonce.toNat + 1 = (a.fields.nonce + 1).toNat := by
    rw [UInt64.toNat_add]
    show _ = (a.fields.nonce.toNat + 1) % 2 ^ 64
    omega
  have hbyte : a.fields.policy ≤ 5 := AuthorizationPolicy.exists_fromU8.mp ⟨policy, hpolicy⟩
  have hmeet : SignaturesMeet a.fields.policy (a.fields.threshold.getD 0) wire.action _ _ :=
    .of_signed hbyte hfalcon hed htarget
  have hreq := (effectiveRequirement_iff hpolicy).mpr ⟨hrecovery, htarget, hmeet⟩
  exact ⟨{ digest := intentDigest P vault.key a.fields.nonce wire, policy := policy
           accountNonce := a.fields.nonce, nextNonce := a.fields.nonce + 1 }, rfl, rfl,
    { sigLen := hlen, unexpired := hslot, owner := hva.owner, data := hva.data
      version := hva.version, policy := hpolicy, accountNonce := rfl, nextNonce := hnext
      digest := rfl, requirement := hreq }⟩

end Authorized

/-! ### What is presented -/

section Presented

variable {ix : DualKeyInstruction} {intent : AuthorizationIntent} {sig : List UInt8}
  {discriminator : UInt8}

theorem instruction_of_data {tail : List UInt8} (hdata : inv.data = discriminator :: tail)
    (hd : DualKeyInstruction.fromU8 discriminator = some ix) : inv.instruction = some ix := by
  rw [Invocation.instruction, hdata]
  exact hd

/-- The payload of signed data presents intent and signature. -/
theorem presents_signedData (hdata : inv.data = signedData discriminator intent sig)
    (hsig : sig.length = falconSignatureLen) :
    inv.payload.length = authPayloadLen ∧
      Presents inv.payload (.fromIntent intent) sig := by
  have hpayload : inv.payload = (ExecuteIntentWire.fromIntent intent).encode.toList ++ sig := by
    rw [Invocation.payload, hdata]
    rfl
  have hlen := (ExecuteIntentWire.fromIntent intent).encode.toList_length
  rw [hpayload]
  refine ⟨authPayload_length _ hsig, ?_, ?_⟩
  · rw [List.take_left' hlen]
    exact ExecuteIntentWire.decode_encode _
  · rw [List.drop_left' hlen, ← hsig, List.take_length]

theorem Presents.unique {payload sig' : List UInt8} {wire wire' : ExecuteIntentWire}
    (h : Presents payload wire sig) (h' : Presents payload wire' sig') :
    wire = wire' ∧ sig = sig' :=
  ⟨Except.ok.inj (h.wire.symm.trans h'.wire), h.sig.symm.trans h'.sig⟩

end Presented

/-! ### The fate of a transaction -/

/-- What becomes of a transaction on the vault at `v` with record `r`: the runtime's precompile
accepts it; it is executed exactly under the condition; and then the record has taken the step of
the command. -/
structure Fate (P : Platform) (m : Machine) (inv : Invocation) (v : Pubkey) (r : VaultRecord)
    (admitted : Prop) (c : VaultCommand) : Prop where
  precompiles : inv.PrecompilesAccepted P
  executed : (∃ m', Step P m (.executed inv) m') ↔ admitted
  record : ∀ m', Step P m (.executed inv) m' →
    ∃ r', r.step P.sha256 P.tryPreparePubkey c = some r' ∧ recordOf P m' v = some r'

theorem Fate.of_process {m : Machine} {v : Pubkey} {r : VaultRecord} {admitted : Prop}
    {c : VaultCommand} {ix : DualKeyInstruction} (hwf : WellFormed P m)
    (hruntime : inv.PrecompilesAccepted P) (hix : inv.instruction = some ix)
    (hcall : inv.call = some (ix, v)) (hinit : ix ≠ .initializeAccount)
    (hcommand : inv.command = some c) (hrecord : recordOf P m v = some r)
    (hiff : (∃ m', Processor.handler P ix inv.accounts inv.payload inv.enter m.begin =
      .ok ((), m')) ↔ admitted) : Fate P m inv v r admitted c := by
  have hprocess := process_of_instruction (P := P) hix
  refine ⟨hruntime, ?_, fun m' hstep => ?_⟩
  · rw [← hiff]
    constructor
    · rintro ⟨m', hstep⟩
      cases hstep with
      | executed _ h => exact ⟨m', by rw [← hprocess]; exact h⟩
    · rintro ⟨m', h⟩
      exact ⟨m', .executed hruntime (by rw [hprocess]; exact h)⟩
  · obtain ⟨op, hop, -⟩ := hstep.performsOn_of_call hcall hinit
    obtain ⟨c', r₁, r', hc', hr₁, hr', hafter⟩ := hop.refines hwf hstep
    obtain rfl : c' = c := Option.some.inj (hc'.symm.trans hcommand)
    obtain rfl : r₁ = r := Option.some.inj (hr₁.symm.trans hrecord)
    exact ⟨r', hr', hafter⟩

end DualKey
