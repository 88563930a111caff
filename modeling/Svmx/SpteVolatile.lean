/-
Lockless updates of an SPTE against `kvm_tdp_mmu_write_spte` (`tdp_iter.h`).

A caller reads an entry, and before it writes the new one other agents may change it without the MMU
lock: the processor sets accessed and dirty bits, and the fast path sets the writable bit or restores
an entry that is tracked by its access bits. `kvm_tdp_mmu_write_spte` decides from the value that was
read whether it exchanges or stores.

Where it stores, every update that is still possible leaves the value as it was
(`LocklessUpdate.stays`): each sets bits of one mask of at most one bit, which `spte_has_volatile_bits`
has found set. So the value returned is the one in memory either way.
-/
import Mathlib.Logic.Relation
import Svmx.FastFault

set_option autoImplicit false

namespace Svmx.Tdp

open Blend PageFault

/-! ## The agents -/

/-- One update of an entry without the MMU lock. -/
inductive LocklessUpdate (masks : SpteMasks) : BitVec 64 → BitVec 64 → Prop where
  /-- The processor has used the entry. -/
  | accessed {spte : BitVec 64} (had : spte_ad_enabled spte = true) :
      LocklessUpdate masks spte (spte ||| masks.shadow_accessed_mask)
  /-- The processor has written through the entry. -/
  | dirty {spte : BitVec 64} (had : spte_ad_enabled spte = true)
      (hwritable : is_writable_pte spte = true) :
      LocklessUpdate masks spte (spte ||| masks.shadow_dirty_mask)
  /-- The fast path makes the entry writable. -/
  | writable {spte : BitVec 64} (hmmu : is_mmu_writable_spte masks spte = true) :
      LocklessUpdate masks spte (spte ||| PT_WRITABLE_MASK)
  /-- The fast path restores the access bits. -/
  | restore {spte : BitVec 64} (htrack : is_access_track_spte masks spte = true) :
      LocklessUpdate masks spte (restore_acc_track_spte masks spte)
  /-- The fast path does both at once. -/
  | restore_writable {spte : BitVec 64} (htrack : is_access_track_spte masks spte = true)
      (hmmu : is_mmu_writable_spte masks spte = true) :
      LocklessUpdate masks spte (restore_acc_track_spte masks spte ||| PT_WRITABLE_MASK)

/-- Such an update of the entry in memory. -/
def LocklessStep (masks : SpteMasks) (sptep : Sptep) (m m' : PtMem) : Prop :=
  ∃ spte spte', kvm_tdp_mmu_read_spte m sptep = some spte ∧ LocklessUpdate masks spte spte' ∧
    m' = m.write sptep spte'

/-! ## The masks -/

/-- The accessed and the dirty bit are one bit each, or none. -/
theorem established_one_bit {masks : PteMasks} (h : Established masks) :
    OneBit masks.shadow_accessed_mask ∧ OneBit masks.shadow_dirty_mask := by
  induction h with
  | reset allow phys_bits masks =>
    have haccessed : (kvm_mmu_reset_all_pte_masks allow phys_bits masks).shadow_accessed_mask =
        BitVec.twoPow 64 5 := rfl
    have hdirty : (kvm_mmu_reset_all_pte_masks allow phys_bits masks).shadow_dirty_mask =
        BitVec.twoPow 64 6 := rfl
    rw [haccessed, hdirty]
    exact ⟨oneBit_twoPow 5, oneBit_twoPow 6⟩
  | ept allow has_ad_bits has_exec_only masks _ _ =>
    cases has_ad_bits with
    | true => exact ⟨oneBit_twoPow 8, oneBit_twoPow 9⟩
    | false => exact ⟨oneBit_zero, oneBit_zero⟩

theorem oneBit_writable : OneBit PT_WRITABLE_MASK := oneBit_twoPow 1

/-! ## An entry without volatile bits -/

/-- **An entry without volatile bits stays as it is** under every lockless update. -/
theorem LocklessUpdate.stays {masks : PteMasks} (hmasks : Established masks) {spte spte' : BitVec 64}
    (h : LocklessUpdate masks.toSpteMasks spte spte')
    (hvolatile : spte_has_volatile_bits masks.toSpteMasks spte = false) : spte' = spte := by
  obtain ⟨haccessed, hdirty⟩ := established_one_bit hmasks
  unfold spte_has_volatile_bits at hvolatile
  split at hvolatile
  · cases hvolatile
  · next hwritable =>
    split at hvolatile
    · cases hvolatile
    · next htrack =>
      cases h with
      | accessed had =>
        rw [if_pos had, Bool.or_eq_false_iff, beq_eq_false_iff_ne] at hvolatile
        exact (haccessed spte hvolatile.1).or_eq_self
      | dirty had hw =>
        rw [if_pos had, Bool.or_eq_false_iff, hw, Bool.true_and, beq_eq_false_iff_ne,
          beq_eq_false_iff_ne] at hvolatile
        exact (hdirty spte hvolatile.2).or_eq_self
      | writable hmmu =>
        rw [hmmu, Bool.and_true, Bool.not_eq_true', Bool.not_eq_false] at hwritable
        unfold is_writable_pte at hwritable
        exact (oneBit_writable spte (bne_iff_ne.mp hwritable)).or_eq_self
      | restore h => exact absurd h htrack
      | restore_writable h _ => exact absurd h htrack

/-! ## The write -/

section Write

variable {masks : PteMasks} {m m' : PtMem} {sptep : Sptep} {old_spte : BitVec 64}

theorem read_write_self {spte : BitVec 64} (h : (kvm_tdp_mmu_read_spte m sptep).isSome) :
    kvm_tdp_mmu_read_spte (m.write sptep spte) sptep = some spte := by
  obtain ⟨pt, i⟩ := sptep
  unfold kvm_tdp_mmu_read_spte at h ⊢
  dsimp only at h ⊢
  split at h
  · next hi =>
    obtain ⟨t, ht⟩ := Option.isSome_iff_exists.mp (Option.isSome_map ▸ h)
    simp only [hi, dite_true, PtMem.write, if_true, ht, Option.map_some]
  · cases h

/-- After any updates the entry can be read still, and where it had no volatile bits it is the same. -/
theorem lockless_run (hmasks : Established masks) (hread : kvm_tdp_mmu_read_spte m sptep = some old_spte)
    (hrun : Relation.ReflTransGen (LocklessStep masks.toSpteMasks sptep) m m') :
    ∃ spte, kvm_tdp_mmu_read_spte m' sptep = some spte ∧
      (spte_has_volatile_bits masks.toSpteMasks old_spte = false → spte = old_spte) := by
  induction hrun with
  | refl => exact ⟨old_spte, hread, fun _ => rfl⟩
  | tail _ hstep ih =>
    obtain ⟨spte, hspte, hsame⟩ := ih
    obtain ⟨cur, next, hcur, hupdate, rfl⟩ := hstep
    obtain rfl : spte = cur := Option.some.inj (hspte.symm.trans hcur)
    refine ⟨next, read_write_self (by rw [hspte]; rfl), fun hvolatile => ?_⟩
    obtain rfl := hsame hvolatile
    exact hupdate.stays hmasks hvolatile

/-- **No lockless update is lost.** Under every configuration of the masks, whatever updates hit a
present last-level entry after it was read, `kvm_tdp_mmu_write_spte` returns the value that it
overwrites. -/
theorem kvm_tdp_mmu_write_spte_exact {level : ℕ} (hmasks : Established masks)
    (hread : kvm_tdp_mmu_read_spte m sptep = some old_spte)
    (hpresent : is_shadow_present_pte old_spte = true) (hleaf : is_last_spte old_spte level = true)
    (hrun : Relation.ReflTransGen (LocklessStep masks.toSpteMasks sptep) m m')
    (new_spte : BitVec 64) :
    ∃ spte, kvm_tdp_mmu_read_spte m' sptep = some spte ∧
      kvm_tdp_mmu_write_spte masks.toSpteMasks m' sptep old_spte new_spte level =
        some (spte, m'.write sptep new_spte) := by
  obtain ⟨spte, hspte, hsame⟩ := lockless_run hmasks hread hrun
  refine ⟨spte, hspte, ?_⟩
  unfold kvm_tdp_mmu_write_spte kvm_tdp_mmu_spte_need_atomic_write
  rw [hpresent, hleaf, Bool.and_true, Bool.true_and]
  cases hvolatile : spte_has_volatile_bits masks.toSpteMasks old_spte with
  | true =>
    -- the exchange reads the entry itself
    rw [if_pos rfl, kvm_tdp_mmu_write_spte_atomic, hspte]
    rfl
  | false =>
    rw [if_neg Bool.false_ne_true, __kvm_tdp_mmu_write_spte, hspte, hsame hvolatile]
    rfl

end Write

/-- The masks of VMX with accessed and dirty bits. -/
def adMasks : PteMasks :=
  kvm_mmu_set_ept_pte_masks true true false (kvm_mmu_reset_all_pte_masks true 46 bootMasks)

/-- The processor writes to the page of 1 GB, and the write of the entry returns both bits. -/
theorem accessed_dirty_kept :
    ∃ m', Relation.ReflTransGen (LocklessStep adMasks.toSpteMasks ⟨0x2000, 0⟩) leafTables m' ∧
      ∃ spte, kvm_tdp_mmu_read_spte m' ⟨0x2000, 0⟩ = some spte ∧
        kvm_tdp_mmu_write_spte adMasks.toSpteMasks m' ⟨0x2000, 0⟩ 0x887 0 3 =
          some (spte, m'.write ⟨0x2000, 0⟩ 0) := by
  have hmasks : Established adMasks := .ept true true false _ (.reset true 46 bootMasks)
  have haccessed : LocklessStep adMasks.toSpteMasks ⟨0x2000, 0⟩ leafTables
      (leafTables.write ⟨0x2000, 0⟩ 0x987) := ⟨0x887, 0x987, rfl, .accessed (by decide), rfl⟩
  have hdirty : LocklessStep adMasks.toSpteMasks ⟨0x2000, 0⟩
      (leafTables.write ⟨0x2000, 0⟩ 0x987)
      ((leafTables.write ⟨0x2000, 0⟩ 0x987).write ⟨0x2000, 0⟩ 0xb87) :=
    ⟨0x987, 0xb87, rfl, .dirty (by decide) (by decide), rfl⟩
  have hrun := (Relation.ReflTransGen.single haccessed).tail hdirty
  exact ⟨_, hrun, kvm_tdp_mmu_write_spte_exact hmasks rfl (by decide) (by decide) hrun 0⟩

end Svmx.Tdp
