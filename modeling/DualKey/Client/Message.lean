import DualKey.Client.Session
import DualKey.Runtime.Platform
import Mathlib.Algebra.Ring.Nat
import Mathlib.Data.Finset.Card
import Mathlib.Data.List.Dedup

/-!
# The legacy transaction format

The documented behaviour of the transaction library: how the instructions of a message are
compiled into a list of account keys and indices into it, the bytes of a message and of a
transaction, and the precompile instruction for one signature. `Sdk.Documented` says that the
library behaves so.

The keys are the payer, then everything else the instructions name, each once: signers before
others, writable before read-only, by key within a group.
-/

namespace DualKey

/-! ### Compiling a message -/

section Compile

variable (ixs : List Instruction) (payer : Pubkey)

/-- The accounts the instructions name, programs included. -/
def namedKeys : List Pubkey :=
  (ixs.flatMap Instruction.accounts).map AccountMeta.pubkey ++ ixs.map Instruction.programId

/-- Some instruction asks for a signature of the account. -/
def asksSigner (k : Pubkey) : Bool :=
  (ixs.flatMap Instruction.accounts).any fun entry => decide (entry.pubkey = k) && entry.isSigner

/-- Some instruction asks to write the account. -/
def asksWritable (k : Pubkey) : Bool :=
  (ixs.flatMap Instruction.accounts).any fun entry => decide (entry.pubkey = k) && entry.isWritable

/-- The keys besides the payer, each once, in key order. -/
def otherKeys : List Pubkey :=
  (((namedKeys ixs).filter fun k => k ≠ payer).dedup).mergeSort fun a b =>
    decide (a.toList ≤ b.toList)

/-- The other keys with the given privileges. -/
def keyGroup (signer writable : Bool) : List Pubkey :=
  (otherKeys ixs payer).filter fun k => asksSigner ixs k == signer && asksWritable ixs k == writable

/-- The account keys of a message: the payer, then the four groups. -/
def accountKeys : List Pubkey :=
  payer :: (keyGroup ixs payer true true ++ keyGroup ixs payer true false ++
    keyGroup ixs payer false true ++ keyGroup ixs payer false false)

/-- How many of the keys must sign: the payer and the first two groups. -/
def numSigners : ℕ := 1 + (keyGroup ixs payer true true).length +
  (keyGroup ixs payer true false).length

/-- `Message::new`. -/
def compileMessage : LegacyMessage where
  numRequiredSignatures := UInt8.ofNat (numSigners ixs payer)
  numReadonlySignedAccounts := UInt8.ofNat (keyGroup ixs payer true false).length
  numReadonlyUnsignedAccounts := UInt8.ofNat (keyGroup ixs payer false false).length
  accountKeys := accountKeys ixs payer
  recentBlockhash := ByteVec.zero 32
  instructions := ixs.map fun ix =>
    { programIdIndex := UInt8.ofNat ((accountKeys ixs payer).idxOf ix.programId)
      accounts := ix.accounts.map fun entry =>
        UInt8.ofNat ((accountKeys ixs payer).idxOf entry.pubkey)
      data := ix.data }

end Compile

/-! ### Bytes -/

/-- The compact length prefix: seven bits a byte, the high bit set on all but the last. -/
def compactLen (n : ℕ) : List UInt8 :=
  if n < 128 then [UInt8.ofNat n]
  else if n < 16384 then [UInt8.ofNat (n % 128 + 128), UInt8.ofNat (n / 128)]
  else [UInt8.ofNat (n % 128 + 128), UInt8.ofNat (n / 128 % 128 + 128), UInt8.ofNat (n / 16384)]

def CompiledInstruction.bytes (ix : CompiledInstruction) : List UInt8 :=
  ix.programIdIndex :: (compactLen ix.accounts.length ++ ix.accounts ++
    (compactLen ix.data.length ++ ix.data))

def LegacyMessage.bytes (message : LegacyMessage) : List UInt8 :=
  [message.numRequiredSignatures, message.numReadonlySignedAccounts,
    message.numReadonlyUnsignedAccounts] ++
  (compactLen message.accountKeys.length ++ message.accountKeys.flatMap fun k => k.toList) ++
  message.recentBlockhash.toList ++
  (compactLen message.instructions.length ++
    message.instructions.flatMap CompiledInstruction.bytes)

def Transaction.bytes (tx : Transaction) : List UInt8 :=
  (compactLen tx.signatures.length ++ tx.signatures.flatMap fun sig => sig.toList) ++
    tx.message.bytes

/-- The precompile instruction for one signature of a digest: a header, one record that points
into the instruction itself, key, signature and digest. It names no accounts. -/
def ed25519Instruction (digest : Digest) (signature : ByteVec 64) (key : ByteVec 32) :
    Instruction where
  programId := ed25519ProgramId
  accounts := []
  data := [1, 0, 48, 0, 0xFF, 0xFF, 16, 0, 0xFF, 0xFF, 112, 0, 32, 0, 0xFF, 0xFF] ++
    (key.toList ++ (signature.toList ++ digest.toList))

/-- The library behaves as documented. A message has room for 255 accounts. -/
structure Sdk.Documented (sdk : Sdk) : Prop where
  newMessage : ∀ ixs payer, (namedKeys ixs).length < 255 →
    sdk.newMessage ixs payer = compileMessage ixs payer
  serializeMessage : ∀ message, sdk.serializeMessage message = .ok message.bytes
  serializeTransaction : ∀ tx, sdk.serializeTransaction tx = .ok tx.bytes
  newEd25519Instruction : ∀ (digest : Digest) (signature : ByteVec 64) (key : ByteVec 32),
    sdk.newEd25519Instruction digest.toList signature key =
      ed25519Instruction digest signature key

/-! ### Facts about compiled messages -/

section Facts

variable {ixs : List Instruction} {payer k : Pubkey}

theorem length_namedKeys :
    (namedKeys ixs).length = (ixs.flatMap Instruction.accounts).length + ixs.length := by
  rw [namedKeys, List.length_append, List.length_map, List.length_map]

theorem mem_otherKeys : k ∈ otherKeys ixs payer ↔ k ∈ namedKeys ixs ∧ k ≠ payer := by
  rw [otherKeys, List.mem_mergeSort, List.mem_dedup, List.mem_filter, decide_eq_true_iff]

theorem length_otherKeys :
    (otherKeys ixs payer).length = ((namedKeys ixs).filter fun k => k ≠ payer).dedup.length := by
  rw [otherKeys, List.length_mergeSort]

/-- Two tests divide a list in four. -/
theorem length_filter_groups {α : Type} (p q : α → Bool) (l : List α) :
    (l.filter fun a => p a == true && q a == true).length +
      (l.filter fun a => p a == true && q a == false).length +
      (l.filter fun a => p a == false && q a == true).length +
      (l.filter fun a => p a == false && q a == false).length = l.length := by
  induction l with
  | nil => rfl
  | cons a l ih =>
    rw [List.length_cons, ← ih]
    cases hp : p a <;> cases hq : q a <;> simp [hp, hq] <;> omega

/-- The four groups are all the other keys. -/
theorem length_accountKeys : (accountKeys ixs payer).length = 1 + (otherKeys ixs payer).length := by
  rw [accountKeys, List.length_cons, List.length_append, List.length_append, List.length_append,
    Nat.add_comm]
  exact congrArg (1 + ·) (length_filter_groups _ _ _)

/-- Where only the payer is asked for a signature, nobody else must sign. -/
theorem keyGroup_signer_eq_nil {writable : Bool}
    (h : ∀ entry ∈ ixs.flatMap Instruction.accounts, entry.isSigner = true →
      entry.pubkey = payer) : keyGroup ixs payer true writable = [] := by
  rw [keyGroup, List.filter_eq_nil_iff]
  intro k hk hgroup
  rw [Bool.and_eq_true, beq_iff_eq, asksSigner, List.any_eq_true] at hgroup
  obtain ⟨⟨entry, hentry, hsigner⟩, -⟩ := hgroup
  rw [Bool.and_eq_true, decide_eq_true_iff] at hsigner
  obtain ⟨rfl, hsigner⟩ := hsigner
  exact (mem_otherKeys.mp hk).2 (h entry hentry hsigner)

/-! ### Sizes -/

/-- How many bytes a length prefix takes. -/
def compactWidth (n : ℕ) : ℕ := if n < 128 then 1 else if n < 16384 then 2 else 3

theorem length_compactLen {n : ℕ} : (compactLen n).length = compactWidth n := by
  unfold compactLen compactWidth
  split
  · rfl
  · split <;> rfl

/-- How many accounts an instruction names, and how many bytes of data it carries. -/
def Instruction.shape (ix : Instruction) : ℕ × ℕ := (ix.accounts.length, ix.data.length)

/-- The bytes of a compiled instruction of this shape: a program index, an index for each account,
the data, and two length prefixes. -/
def shapeBytes (shape : ℕ × ℕ) : ℕ :=
  1 + (compactWidth shape.1 + shape.1) + (compactWidth shape.2 + shape.2)

/-- The keys of a message, each once. -/
def messageKeys (ixs : List Instruction) (payer : Pubkey) : Finset Pubkey :=
  insert payer (namedKeys ixs).toFinset

theorem CompiledInstruction.length_bytes (ix : CompiledInstruction) :
    ix.bytes.length = shapeBytes (ix.accounts.length, ix.data.length) := by
  simp only [bytes, List.length_cons, List.length_append, length_compactLen, shapeBytes]
  omega

theorem LegacyMessage.length_bytes (message : LegacyMessage) :
    message.bytes.length = 35 +
      (compactWidth message.accountKeys.length + 32 * message.accountKeys.length) +
      (compactWidth message.instructions.length +
        (message.instructions.map fun ix => ix.bytes.length).sum) := by
  have hkeys : (message.accountKeys.flatMap fun k => k.toList).length =
      32 * message.accountKeys.length := by
    rw [List.length_flatMap, List.map_congr_left fun k _ => k.toList_length, List.map_const',
      List.sum_replicate_nat, Nat.mul_comm]
  simp only [bytes, List.length_append, List.length_cons, List.length_nil, length_compactLen,
    hkeys, List.Vector.toList_length, List.length_flatMap]
  omega

theorem Transaction.length_bytes (tx : Transaction) :
    tx.bytes.length = compactWidth tx.signatures.length + 64 * tx.signatures.length +
      tx.message.bytes.length := by
  have hsigs : (tx.signatures.flatMap fun sig => sig.toList).length =
      64 * tx.signatures.length := by
    rw [List.length_flatMap, List.map_congr_left fun sig _ => sig.toList_length, List.map_const',
      List.sum_replicate_nat, Nat.mul_comm]
  rw [bytes, List.length_append, List.length_append, length_compactLen, hsigs]

/-- A compiled message lists every key once. -/
theorem length_accountKeys_eq_card :
    (accountKeys ixs payer).length = (messageKeys ixs payer).card := by
  have hothers : (otherKeys ixs payer).length = ((namedKeys ixs).toFinset.erase payer).card := by
    rw [length_otherKeys, ← List.card_toFinset, List.toFinset_filter]
    congr 1
    ext k
    simp [and_comm]
  rw [length_accountKeys, hothers, messageKeys, Nat.add_comm,
    ← Finset.erase_insert_eq_erase (namedKeys ixs).toFinset payer,
    Finset.card_erase_add_one (Finset.mem_insert_self _ _)]

theorem sum_compiled_bytes :
    ((compileMessage ixs payer).instructions.map fun ix => ix.bytes.length).sum =
      ((ixs.map Instruction.shape).map shapeBytes).sum := by
  rw [compileMessage, List.map_map, List.map_map]
  refine congrArg List.sum (List.map_congr_left fun ix _ => ?_)
  simp only [Function.comp_apply, CompiledInstruction.length_bytes, List.length_map,
    Instruction.shape]

/-- The payer is one more key than the instructions name, at most. -/
theorem card_messageKeys_le : (messageKeys ixs payer).card ≤ 1 + (namedKeys ixs).length := by
  have hinsert := Finset.card_insert_le payer (namedKeys ixs).toFinset
  have hdistinct := List.toFinset_card_le (namedKeys ixs)
  rw [messageKeys]
  omega

end Facts

end DualKey
