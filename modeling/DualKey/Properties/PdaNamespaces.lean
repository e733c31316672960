import DualKey.Program.SocialRecovery

/-!
# The seeds of vaults and recovery configs

The platform derives an address from the concatenation of the seeds. Each of the two
seed lists determines its arguments, since all parts have a fixed width. The two kinds
overlap: both concatenations are 44 bytes long and the prefix `dualkey-rec` extends
`dualkey`, so the seeds of a vault whose creator starts with `-rec` are also the seeds
of a recovery config.
-/

namespace DualKey

open Buffer

/-- ASCII `-rec`: what the prefix of a recovery config adds to that of a vault. -/
def recoverySuffix : List UInt8 := [45, 114, 101, 99]

theorem recoveryPdaSeed_eq : recoveryPdaSeed = pdaSeed ++ recoverySuffix := rfl

/-! ### Concatenations with parts of fixed width -/

section Concatenation

variable {n k : ℕ} {v v' : ByteVec n} {w w' : ByteVec k} {b b' : UInt8}

/-- Two arrays and a byte are determined by their concatenation. -/
theorem append_inj_of_width (h : v.toList ++ (w.toList ++ [b]) = v'.toList ++ (w'.toList ++ [b'])) :
    v = v' ∧ w = w' ∧ b = b' := by
  have hv : v.toList.length = v'.toList.length := v.toList_length.trans v'.toList_length.symm
  obtain ⟨hvv, hrest⟩ := List.append_inj h hv
  have hw : w.toList.length = w'.toList.length := w.toList_length.trans w'.toList_length.symm
  obtain ⟨hww, hbb⟩ := List.append_inj hrest hw
  exact ⟨Subtype.ext hvv, Subtype.ext hww, List.singleton_inj.mp hbb⟩

end Concatenation

/-- The seeds of a vault, concatenated. -/
theorem flatten_signerSeeds (c : Pubkey) (i : UInt32) (b : UInt8) :
    (Pda.signerSeeds c i b).flatten = pdaSeed ++ (c.toList ++ ((u32ToLe i).toList ++ [b])) := by
  simp [Pda.signerSeeds, pdaSeeds]

/-- The seeds of a recovery config, concatenated. -/
theorem flatten_recoverySignerSeeds (h : Pubkey) (b : UInt8) :
    (SocialRecovery.recoverySignerSeeds h b).flatten =
      pdaSeed ++ (recoverySuffix ++ (h.toList ++ [b])) := by
  simp [SocialRecovery.recoverySignerSeeds, recoveryPdaSeeds, recoveryPdaSeed_eq]

/-- The seeds of a vault determine its creator, its index and the bump. -/
theorem signerSeeds_inj {c c' : Pubkey} {i i' : UInt32} {b b' : UInt8}
    (h : (Pda.signerSeeds c i b).flatten = (Pda.signerSeeds c' i' b').flatten) :
    c = c' ∧ i = i' ∧ b = b' := by
  rw [flatten_signerSeeds, flatten_signerSeeds] at h
  obtain ⟨hc, hi, hb⟩ := append_inj_of_width (List.append_cancel_left h)
  exact ⟨hc, u32ToLe_injective hi, hb⟩

/-- The seeds of a recovery config determine the vault and the bump. -/
theorem recoverySignerSeeds_inj {h h' : Pubkey} {b b' : UInt8}
    (heq : (SocialRecovery.recoverySignerSeeds h b).flatten =
      (SocialRecovery.recoverySignerSeeds h' b').flatten) : h = h' ∧ b = b' := by
  rw [flatten_recoverySignerSeeds, flatten_recoverySignerSeeds] at heq
  have hrest := List.append_cancel_left (List.append_cancel_left heq)
  have hh : h.toList.length = h'.toList.length := h.toList_length.trans h'.toList_length.symm
  obtain ⟨hhh, hb⟩ := List.append_inj hrest hh
  exact ⟨Subtype.ext hhh, List.singleton_inj.mp hb⟩

/-- The vault whose recovery config has the seeds of a vault created by `-rec ++ tail`: the
other 28 bytes of the creator and the account index. -/
def overlappingVault (c : Pubkey) (i : UInt32) : Pubkey :=
  ⟨c.toList.drop 4 ++ (u32ToLe i).toList, by
    rw [List.length_append, List.length_drop, c.toList_length, (u32ToLe i).toList_length]⟩

/-- The seeds of a vault are seeds of a recovery config exactly when the creator starts
with `-rec`. -/
theorem overlap_iff (c : Pubkey) (i : UInt32) (b : UInt8) :
    (∃ h b', (Pda.signerSeeds c i b).flatten =
        (SocialRecovery.recoverySignerSeeds h b').flatten) ↔
      c.toList.take 4 = recoverySuffix := by
  constructor
  · rintro ⟨h, b', heq⟩
    rw [flatten_signerSeeds, flatten_recoverySignerSeeds] at heq
    have hrest := congrArg (List.take 4) (List.append_cancel_left heq)
    rwa [List.take_append_of_le_length (by rw [c.toList_length]; decide)] at hrest
  · intro hprefix
    refine ⟨overlappingVault c i, b, ?_⟩
    rw [flatten_signerSeeds, flatten_recoverySignerSeeds, ← hprefix]
    show _ = pdaSeed ++ (c.toList.take 4 ++ ((c.toList.drop 4 ++ (u32ToLe i).toList) ++ [b]))
    rw [List.append_assoc (c.toList.drop 4), ← List.append_assoc (c.toList.take 4),
      List.take_append_drop]

/-- **When the namespaces are separate.** For every creator, index and bump: the seeds of the
vault determine the three, the seeds of a recovery config determine the vault it belongs to and
the bump, and the former meet no seeds of a recovery config exactly when the creator does not
start with `-rec`. -/
theorem pda_namespaces_separate_iff (c : Pubkey) (i : UInt32) (b : UInt8) :
    (∀ c' i' b', (Pda.signerSeeds c i b).flatten = (Pda.signerSeeds c' i' b').flatten →
      c = c' ∧ i = i' ∧ b = b') ∧
    (∀ h h' d d', (SocialRecovery.recoverySignerSeeds h d).flatten =
      (SocialRecovery.recoverySignerSeeds h' d').flatten → h = h' ∧ d = d') ∧
    ((∀ h d, (Pda.signerSeeds c i b).flatten ≠
      (SocialRecovery.recoverySignerSeeds h d).flatten) ↔
        ¬ c.toList.take 4 = recoverySuffix) := by
  refine ⟨?_, ?_, ?_⟩
  · intro c' i' b' heq
    exact signerSeeds_inj heq
  · intro h h' d d' heq
    exact recoverySignerSeeds_inj heq
  · rw [← overlap_iff c i b]
    push Not
    rfl

/-- The creator `-rec` followed by zeros: its vault 0 has the seeds of the recovery config of
the zero address. -/
theorem pda_namespaces_meet :
    ¬ ∀ (c h : Pubkey) (i : UInt32) (b b' : UInt8), (Pda.signerSeeds c i b).flatten ≠
      (SocialRecovery.recoverySignerSeeds h b').flatten := by
  intro hdisjoint
  refine hdisjoint ⟨recoverySuffix ++ List.replicate 28 0, rfl⟩ (ByteVec.zero 32) 0 255 255 ?_
  decide +kernel

end DualKey
