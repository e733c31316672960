import DualKey.Client.Intent
import DualKey.Properties.Preimages

/-!
# Intent files lose nothing

`toIntent` and `fromIntent` are inverse to each other, up to the letter case of the text a file
was written with. The two conversions of an action are compared kind by kind; each kind has at
most one field of text, so one lemma on a field settles it.

A file is refused for one of two reasons, a field that is not 64 digits long or an unknown
operation, and the error names the field. Since an intent is determined by its preimage, what
is signed determines the file up to letter case.
-/

namespace DualKey

open Hex (Codec IsHex)

namespace ActionSpec

/-- The key of an action, with its path in the file. -/
def key? : ActionSpec → Option (String × String)
  | transferSol recipient _ => some ("action.recipient", recipient)
  | transferSpl destination _ => some ("action.destination", destination)
  | rotateEd25519Key newPubkey => some ("action.new_pubkey", newPubkey)
  | rotateFalconKey newPubkeyHash => some ("action.new_pubkey_hash", newPubkeyHash)
  | changePolicy _ _ => none
  | recoverAccount _ newEd25519 => some ("action.new_ed25519", newEd25519)
  | setRecoveryConfig guardianEd25519 _ => some ("action.guardian_ed25519", guardianEd25519)
  | cancelSocialRecovery => none

/-- Rewrite the key of an action. -/
def mapKey (f : String → String) : ActionSpec → ActionSpec
  | transferSol recipient lamports => transferSol (f recipient) lamports
  | transferSpl destination amount => transferSpl (f destination) amount
  | rotateEd25519Key newPubkey => rotateEd25519Key (f newPubkey)
  | rotateFalconKey newPubkeyHash => rotateFalconKey (f newPubkeyHash)
  | changePolicy newPolicy threshold => changePolicy newPolicy threshold
  | recoverAccount op newEd25519 => recoverAccount op (f newEd25519)
  | setRecoveryConfig guardianEd25519 delaySlots =>
    setRecoveryConfig (f guardianEd25519) delaySlots
  | cancelSocialRecovery => cancelSocialRecovery

/-- A recovery operation with no meaning. -/
def UnknownOp (spec : ActionSpec) : Prop := ∃ op key, spec = recoverAccount op key ∧ 2 < op

end ActionSpec

namespace IntentSpec

/-- The hexadecimal fields of a file, with their paths, in the order they are read. -/
def hexFields (spec : IntentSpec) : List (String × String) :=
  spec.action.key?.toList ++ [("chain_domain", spec.chainDomain),
    ("program_id", spec.programId), ("account", spec.account)]

/-- Rewrite the hexadecimal fields of a file. -/
def mapHex (f : String → String) (spec : IntentSpec) : IntentSpec :=
  { spec with
    chainDomain := f spec.chainDomain
    programId := f spec.programId
    account := f spec.account
    action := spec.action.mapKey f }

/-- Equal but for the letter case of the hexadecimal fields. -/
def SameUpToCase (s t : IntentSpec) : Prop := s.mapHex String.toLower = t.mapHex String.toLower

/-- The error names a field of the file that is at fault. -/
def Blames (spec : IntentSpec) (e : ClientError) : Prop :=
  (∃ p ∈ spec.hexFields, ¬ IsHex 64 p.2 ∧ e.path? = some p.1) ∨
    (spec.action.UnknownOp ∧ e.path? = some "action.op")

end IntentSpec

section Conversions

variable {hex : Codec} (hhex : hex.Lawful)

include hhex

/-! ### Actions -/

theorem ActionSpec.toAction_fromAction (a : Action) :
    (ActionSpec.fromAction hex a).toAction hex = .ok a := by
  cases a with
  | changePolicy newPolicy threshold => rfl
  | cancelSocialRecovery => rfl
  | recoverAccount op newEd25519 =>
    rw [fromAction, toAction, recoveryOp_eq_ok.mpr rfl, hex32_encode hhex]
    rfl
  | _ =>
    rw [fromAction, toAction, hex32_encode hhex]
    rfl

theorem ActionSpec.fromAction_toAction {spec : ActionSpec} {a : Action}
    (h : spec.toAction hex = .ok a) :
    (ActionSpec.fromAction hex a).mapKey String.toLower = spec.mapKey String.toLower := by
  cases spec with
  | transferSol recipient lamports =>
    obtain ⟨k, hk, ⟨⟩⟩ := ClientRes.bind_eq_ok.mp h
    exact congrArg (transferSol · lamports) (hex32_toLower hhex hk)
  | transferSpl destination amount =>
    obtain ⟨k, hk, ⟨⟩⟩ := ClientRes.bind_eq_ok.mp h
    exact congrArg (transferSpl · amount) (hex32_toLower hhex hk)
  | rotateEd25519Key newPubkey =>
    obtain ⟨k, hk, ⟨⟩⟩ := ClientRes.bind_eq_ok.mp h
    exact congrArg rotateEd25519Key (hex32_toLower hhex hk)
  | rotateFalconKey newPubkeyHash =>
    obtain ⟨k, hk, ⟨⟩⟩ := ClientRes.bind_eq_ok.mp h
    exact congrArg rotateFalconKey (hex32_toLower hhex hk)
  | changePolicy newPolicy threshold =>
    cases h
    rfl
  | recoverAccount op newEd25519 =>
    obtain ⟨op', hop, h⟩ := ClientRes.bind_eq_ok.mp h
    obtain ⟨k, hk, ⟨⟩⟩ := ClientRes.bind_eq_ok.mp h
    obtain rfl := recoveryOp_eq_ok.mp hop
    exact congrArg (recoverAccount op'.asU8) (hex32_toLower hhex hk)
  | setRecoveryConfig guardianEd25519 delaySlots =>
    obtain ⟨k, hk, ⟨⟩⟩ := ClientRes.bind_eq_ok.mp h
    exact congrArg (setRecoveryConfig · delaySlots) (hex32_toLower hhex hk)
  | cancelSocialRecovery =>
    cases h
    rfl

/-- An action is accepted when its key is 64 digits long and its operation is known. -/
theorem ActionSpec.valid_of_toAction {spec : ActionSpec} {a : Action}
    (h : spec.toAction hex = .ok a) :
    (∀ p ∈ spec.key?, IsHex 64 p.2) ∧ ¬ spec.UnknownOp := by
  cases spec with
  | changePolicy newPolicy threshold => exact ⟨nofun, nofun⟩
  | cancelSocialRecovery => exact ⟨nofun, nofun⟩
  | recoverAccount op newEd25519 =>
    obtain ⟨op', hop, h⟩ := ClientRes.bind_eq_ok.mp h
    obtain ⟨k, hk, -⟩ := ClientRes.bind_eq_ok.mp h
    constructor
    · rintro p ⟨⟩
      exact (hex32_isOk hhex).mp ⟨k, hk⟩
    · rintro ⟨_, _, ⟨⟩, hlarge⟩
      exact absurd (RecoveryOp.exists_asU8.mp ⟨op', recoveryOp_eq_ok.mp hop⟩)
        (UInt8.not_le.mpr hlarge)
  | _ =>
    obtain ⟨k, hk, -⟩ := ClientRes.bind_eq_ok.mp h
    refine ⟨?_, nofun⟩
    rintro p ⟨⟩
    exact (hex32_isOk hhex).mp ⟨k, hk⟩

theorem ActionSpec.blames_of_toAction {spec : ActionSpec} {e : ClientError}
    (h : spec.toAction hex = .error e) :
    (∃ p ∈ spec.key?, ¬ IsHex 64 p.2 ∧ e.path? = some p.1) ∨
      (spec.UnknownOp ∧ e.path? = some "action.op") := by
  cases spec with
  | changePolicy newPolicy threshold => cases h
  | cancelSocialRecovery => cases h
  | recoverAccount op newEd25519 =>
    rcases ClientRes.bind_eq_error.mp h with hop | ⟨op', -, h⟩
    · obtain ⟨hpath, hlarge⟩ := recoveryOp_eq_error hop
      exact Or.inr ⟨⟨op, newEd25519, rfl, hlarge⟩, hpath⟩
    · rcases ClientRes.bind_eq_error.mp h with hk | ⟨k, -, ⟨⟩⟩
      obtain ⟨hpath, hbad⟩ := hex32_eq_error hhex hk
      exact Or.inl ⟨_, rfl, hbad, hpath⟩
  | _ =>
    rcases ClientRes.bind_eq_error.mp h with hk | ⟨k, -, ⟨⟩⟩
    obtain ⟨hpath, hbad⟩ := hex32_eq_error hhex hk
    exact Or.inl ⟨_, rfl, hbad, hpath⟩

/-! ### Files -/

namespace IntentSpec

theorem toIntent_fromIntent (i : AuthorizationIntent) :
    (fromIntent hex i).toIntent hex = .ok i := by
  simp only [toIntent, fromIntent, ActionSpec.toAction_fromAction hhex, hex32_encode hhex]
  rfl

omit hhex in
theorem toIntent_eq_ok {spec : IntentSpec} {i : AuthorizationIntent} :
    spec.toIntent hex = .ok i ↔
      spec.action.toAction hex = .ok i.action ∧
      hex32 hex "chain_domain" spec.chainDomain = .ok i.chainDomain ∧
      hex32 hex "program_id" spec.programId = .ok i.programId ∧
      hex32 hex "account" spec.account = .ok i.account ∧
      spec.version = i.version ∧ spec.nonce = i.nonce ∧ spec.expirySlot = i.expirySlot := by
  simp only [toIntent, ClientRes.bind_eq_ok, ClientRes.pure_eq_ok]
  constructor
  · rintro ⟨action, haction, chainDomain, hdomain, programId, hprogram, account, haccount, rfl⟩
    exact ⟨haction, hdomain, hprogram, haccount, rfl, rfl, rfl⟩
  · rintro ⟨haction, hdomain, hprogram, haccount, hversion, hnonce, hexpiry⟩
    exact ⟨_, haction, _, hdomain, _, hprogram, _, haccount,
      AuthorizationIntent.ext hversion rfl rfl rfl hnonce hexpiry rfl⟩

theorem fromIntent_toIntent {spec : IntentSpec} {i : AuthorizationIntent}
    (h : spec.toIntent hex = .ok i) : (fromIntent hex i).SameUpToCase spec := by
  obtain ⟨haction, hdomain, hprogram, haccount, hversion, hnonce, hexpiry⟩ := toIntent_eq_ok.mp h
  exact IntentSpec.ext hversion.symm (hex32_toLower hhex hdomain) (hex32_toLower hhex hprogram)
    (hex32_toLower hhex haccount) hnonce.symm hexpiry.symm
    (ActionSpec.fromAction_toAction hhex haction)

theorem valid_of_toIntent {spec : IntentSpec} {i : AuthorizationIntent}
    (h : spec.toIntent hex = .ok i) :
    (∀ p ∈ spec.hexFields, IsHex 64 p.2) ∧ ¬ spec.action.UnknownOp := by
  obtain ⟨haction, hdomain, hprogram, haccount, -⟩ := toIntent_eq_ok.mp h
  obtain ⟨hkey, hop⟩ := ActionSpec.valid_of_toAction hhex haction
  refine ⟨fun p hp => ?_, hop⟩
  simp only [hexFields, List.mem_append, Option.mem_toList, List.mem_cons, List.not_mem_nil,
    or_false] at hp
  rcases hp with hp | rfl | rfl | rfl
  · exact hkey p hp
  · exact (hex32_isOk hhex).mp ⟨_, hdomain⟩
  · exact (hex32_isOk hhex).mp ⟨_, hprogram⟩
  · exact (hex32_isOk hhex).mp ⟨_, haccount⟩

/-- Every refusal names a field at fault. -/
theorem blames_of_toIntent {spec : IntentSpec} {e : ClientError}
    (h : spec.toIntent hex = .error e) : spec.Blames e := by
  have hfield {path value : String} (hp : (path, value) ∈ spec.hexFields)
      (hread : hex32 hex path value = .error e) : spec.Blames e := by
    obtain ⟨hpath, hbad⟩ := hex32_eq_error hhex hread
    exact Or.inl ⟨_, hp, hbad, hpath⟩
  -- the fields in the order they are read
  rcases ClientRes.bind_eq_error.mp h with haction | ⟨action, -, h⟩
  · rcases ActionSpec.blames_of_toAction hhex haction with ⟨p, hp, hbad⟩ | hop
    · exact Or.inl ⟨p, List.mem_append_left _ (Option.mem_toList.mpr hp), hbad⟩
    · exact Or.inr hop
  rcases ClientRes.bind_eq_error.mp h with hdomain | ⟨chainDomain, -, h⟩
  · exact hfield (by simp [hexFields]) hdomain
  rcases ClientRes.bind_eq_error.mp h with hprogram | ⟨programId, -, h⟩
  · exact hfield (by simp [hexFields]) hprogram
  rcases ClientRes.bind_eq_error.mp h with haccount | ⟨account, -, ⟨⟩⟩
  exact hfield (by simp [hexFields]) haccount

/-- A file is refused exactly when a field is not 64 digits long or the operation is unknown. -/
theorem toIntent_error_iff {spec : IntentSpec} :
    (∃ e, spec.toIntent hex = .error e) ↔
      (∃ p ∈ spec.hexFields, ¬ IsHex 64 p.2) ∨ spec.action.UnknownOp := by
  constructor
  · rintro ⟨e, he⟩
    rcases blames_of_toIntent hhex he with ⟨p, hp, hbad, -⟩ | ⟨hop, -⟩
    · exact Or.inl ⟨p, hp, hbad⟩
    · exact Or.inr hop
  · intro hbad
    cases hok : spec.toIntent hex with
    | error e => exact ⟨e, rfl⟩
    | ok i =>
      obtain ⟨hfields, hop⟩ := valid_of_toIntent hhex hok
      rcases hbad with ⟨p, hp, hbad⟩ | hunknown
      · exact absurd (hfields p hp) hbad
      · exact absurd hunknown hop

end IntentSpec

end Conversions

open IntentSpec

/-- **Intent files neither lose nor change what is signed.** With a lawful codec, the file of an
intent is read as that intent, and the file of what was read is the file it was read from, up to
letter case. A file is refused exactly when one of its hexadecimal fields is not 64 digits long
or its recovery operation exceeds 2. Two accepted files that differ in more than letter case
have different preimages. -/
theorem intent_files_faithful (hex : Codec) (hhex : hex.Lawful) :
    (∀ i : AuthorizationIntent, (fromIntent hex i).toIntent hex = .ok i) ∧
    (∀ (s : IntentSpec) (i : AuthorizationIntent),
      s.toIntent hex = .ok i → (fromIntent hex i).SameUpToCase s) ∧
    (∀ s : IntentSpec, (∃ e, s.toIntent hex = .error e) ↔
      (∃ p ∈ s.hexFields, ¬ IsHex 64 p.2) ∨ s.action.UnknownOp) ∧
    ∀ (s t : IntentSpec) (i j : AuthorizationIntent),
      s.toIntent hex = .ok i → t.toIntent hex = .ok j → ¬ s.SameUpToCase t →
        canonicalPreimage i ≠ canonicalPreimage j := by
  refine ⟨toIntent_fromIntent hhex, fun _ _ h => fromIntent_toIntent hhex h,
    fun _ => toIntent_error_iff hhex, ?_⟩
  intro s t i j hs ht hdiff hpre
  obtain rfl := canonicalPreimage_injective hpre
  have hsi : (fromIntent hex i).SameUpToCase s := fromIntent_toIntent hhex hs
  have hti : (fromIntent hex i).SameUpToCase t := fromIntent_toIntent hhex ht
  exact hdiff (hsi.symm.trans hti)

theorem intent_files_faithful_standard :
    (fromIntent Hex.standard testVectorIntent).toIntent Hex.standard = .ok testVectorIntent :=
  (intent_files_faithful Hex.standard Hex.standard_lawful).1 testVectorIntent

end DualKey
