/-
What an MMIO entry holds: `make_mmio_spte` (`spte.c`) puts the generation of the memslots, the frame,
the MMIO value of the masks and the access bits into one word.

The generation is split over bits 3 to 10 and 52 to 62, around the address, which reaches from bit 12
to the width of a physical address. That width comes from CPUID and is 52 at most; below 52, bit 51 is
free and the masks of a reset take it for the MMIO value. So the four fields share no bit, and the
frame, the generation and the access can be read back off the word.

The masks are those of a loaded vendor module: a reset of all masks, and with VMX the EPT masks after
it. `hardware_setup` refuses a processor without EPT, so `tdp_enabled` is never false then, and
`kvm_mmu_max_gfn` is the limit of the processor.
-/
import Svmx.Blend
import Svmx.SpteMake

set_option autoImplicit false

namespace Svmx

open Blend

/-! ## Loading a vendor module -/

/-- The globals that decide what an MMIO entry looks like. -/
structure MmuConfig where
  tdp_enabled : Bool
  shadow_phys_bits : BitVec 8
  masks : PteMasks

/-- `kvm_mmu_vendor_module_init`, on a processor with `phys_bits` physical address bits. -/
def kvm_mmu_vendor_module_init (phys_bits : BitVec 8) (allow_mmio_caching : Bool)
    (config : MmuConfig) : MmuConfig :=
  { config with
    shadow_phys_bits := phys_bits
    masks := kvm_mmu_reset_all_pte_masks allow_mmio_caching phys_bits config.masks }

/-- `kvm_configure_mmu`. -/
def kvm_configure_mmu (enable_tdp : Bool) (config : MmuConfig) : MmuConfig :=
  { config with tdp_enabled := enable_tdp }

/-- `hardware_setup` of VMX; `none` is `STATUS_NOT_SUPPORTED`. -/
def hardware_setup (enable_ept allow_mmio_caching enable_ept_ad_bits execute_only : Bool)
    (config : MmuConfig) : Option MmuConfig :=
  if !enable_ept then none
  else some (kvm_configure_mmu enable_ept
    { config with
      masks := kvm_mmu_set_ept_pte_masks allow_mmio_caching enable_ept_ad_bits execute_only
        config.masks })

/-- The configurations: the module is initialised, with any masks before, and after that it may be set
up by VMX (SVM changes none of these) and initialised again. -/
inductive Loaded (phys_bits : BitVec 8) : MmuConfig → Prop where
  | first (allow_mmio_caching : Bool) (masks : PteMasks) :
      Loaded phys_bits (kvm_mmu_vendor_module_init phys_bits allow_mmio_caching ⟨true, 0, masks⟩)
  | again {config : MmuConfig} (allow_mmio_caching : Bool) (h : Loaded phys_bits config) :
      Loaded phys_bits (kvm_mmu_vendor_module_init phys_bits allow_mmio_caching config)
  | vmx {config config' : MmuConfig}
      (enable_ept allow_mmio_caching enable_ept_ad_bits execute_only : Bool)
      (h : Loaded phys_bits config)
      (hsetup : hardware_setup enable_ept allow_mmio_caching enable_ept_ad_bits execute_only config =
        some config') : Loaded phys_bits config'

/-- `kvm_mmu_max_gfn`; a 64-bit shift takes its count modulo 64. -/
def kvm_mmu_max_gfn (config : MmuConfig) : BitVec 64 :=
  let max_gpa_bits := if config.tdp_enabled then config.shadow_phys_bits.toNat else 52
  ((1 : BitVec 64) <<< ((max_gpa_bits + 64 - PAGE_SHIFT) % 64)) - 1

/-! ## The fields -/

/-- The bits of an MMIO entry that hold the generation. -/
def mmio_gen_bits : BitVec 64 := MMIO_SPTE_GEN_LOW_MASK ||| MMIO_SPTE_GEN_HIGH_MASK

/-- The bits of an address, on a processor with `bits` of them. -/
def gpa_bits (bits : ℕ) : BitVec 64 := GENMASK_ULL (bits - 1) 12

theorem getLsbD_GENMASK_ULL {h l : ℕ} (hh : h < 64) (i : ℕ) :
    (GENMASK_ULL h l).getLsbD i = decide (l ≤ i ∧ i ≤ h) := by
  unfold GENMASK_ULL
  rw [BitVec.getLsbD_and, BitVec.getLsbD_shiftLeft, BitVec.getLsbD_ushiftRight,
    BitVec.getLsbD_allOnes, BitVec.getLsbD_allOnes]
  by_cases hl : l ≤ i
  · by_cases hi : i ≤ h
    · have h1 : i < 64 := by omega
      have h2 : i - l < 64 := by omega
      have h3 : 63 - h + i < 64 := by omega
      have h4 : ¬ i < l := by omega
      simp only [h1, h2, h3, h4, hl, hi, decide_true, decide_false, Bool.not_false, Bool.and_true,
        and_self]
    · have h3 : ¬ 63 - h + i < 64 := by omega
      simp only [hi, h3, decide_false, Bool.and_false, and_false]
  · have h1 : i < l := by omega
    simp only [h1, hl, decide_true, Bool.not_true, Bool.and_false, Bool.false_and, false_and,
      decide_false]

/-- The masks of an MMIO entry leave the generation and the address alone. -/
structure MmioFields (bits : ℕ) (masks : PteMasks) : Prop where
  rsvd : masks.shadow_nonpresent_or_rsvd_mask = 0
  access : masks.shadow_mmio_access_mask = 0 ∨
    masks.shadow_mmio_access_mask = ACC_WRITE_MASK ||| ACC_USER_MASK
  value_access : masks.shadow_mmio_value &&& masks.shadow_mmio_access_mask = 0
  value : masks.shadow_mmio_value = 0 ∨ masks.shadow_mmio_value = VMX_EPT_MISCONFIG_WX_VALUE ∨
    bits < 52 ∧ masks.shadow_mmio_value = 1 <<< 51 ||| PT_PRESENT_MASK

/-- The values that `kvm_mmu_set_mmio_spte_mask` leaves. -/
theorem kvm_mmu_set_mmio_spte_mask_value (allow : Bool) (value mask access : BitVec 64)
    (masks : PteMasks) :
    (kvm_mmu_set_mmio_spte_mask allow value mask access masks).shadow_mmio_value = 0 ∨
      (kvm_mmu_set_mmio_spte_mask allow value mask access masks).shadow_mmio_value = value := by
  unfold kvm_mmu_set_mmio_spte_mask
  dsimp only
  split
  · exact Or.inl rfl
  · split
    · exact Or.inl rfl
    · exact Or.inr rfl

/-- A reset. -/
theorem mmio_fields_reset (allow : Bool) (phys_bits : BitVec 8) (masks : PteMasks) :
    MmioFields phys_bits.toNat (kvm_mmu_reset_all_pte_masks allow phys_bits masks) := by
  have haccess : (kvm_mmu_reset_all_pte_masks allow phys_bits masks).shadow_mmio_access_mask =
      ACC_WRITE_MASK ||| ACC_USER_MASK := rfl
  have hvalue : (kvm_mmu_reset_all_pte_masks allow phys_bits masks).shadow_mmio_value = 0 ∨
      phys_bits.toNat < 52 ∧
        (kvm_mmu_reset_all_pte_masks allow phys_bits masks).shadow_mmio_value =
          1 <<< 51 ||| PT_PRESENT_MASK := by
    unfold kvm_mmu_reset_all_pte_masks
    dsimp only
    split
    · next hlt =>
      exact (kvm_mmu_set_mmio_spte_mask_value ..).imp_right fun h => ⟨hlt, h⟩
    · exact Or.inl ((kvm_mmu_set_mmio_spte_mask_value ..).elim id id)
  refine ⟨rfl, Or.inr haccess, ?_, hvalue.imp_right Or.inr⟩
  rw [haccess]
  rcases hvalue with h | ⟨-, h⟩
  · rw [h]
    decide
  · rw [h]
    decide

/-- The EPT masks after that. -/
theorem MmioFields.ept {bits : ℕ} {masks : PteMasks} (h : MmioFields bits masks)
    (allow has_ad_bits has_exec_only : Bool) :
    MmioFields bits (kvm_mmu_set_ept_pte_masks allow has_ad_bits has_exec_only masks) := by
  refine ⟨h.rsvd, Or.inl rfl, BitVec.and_zero, ?_⟩
  exact (kvm_mmu_set_mmio_spte_mask_value ..).imp_right Or.inl

/-- **Every loaded configuration** has TDP enabled and its fields apart. -/
theorem Loaded.config {phys_bits : BitVec 8} {config : MmuConfig} (h : Loaded phys_bits config) :
    config.tdp_enabled = true ∧ config.shadow_phys_bits = phys_bits ∧
      MmioFields phys_bits.toNat config.masks := by
  induction h with
  | first allow masks => exact ⟨rfl, rfl, mmio_fields_reset allow phys_bits masks⟩
  | again allow _ ih => exact ⟨ih.1, rfl, mmio_fields_reset allow phys_bits _⟩
  | vmx enable_ept allow ad exec_only _ hsetup ih =>
    unfold hardware_setup at hsetup
    split at hsetup
    · cases hsetup
    · next hept =>
      rw [← Option.some.inj hsetup]
      exact ⟨by simpa [kvm_configure_mmu] using hept, ih.2.1, ih.2.2.ept allow ad exec_only⟩

/-! ## No two fields share a bit -/

/-- The bits of a narrower address. -/
theorem gpa_bits_inside {bits n : ℕ} (hbits : bits ≤ n) (hn : n ≤ 64) (hpos : 0 < bits) :
    Inside (gpa_bits bits) (gpa_bits n) := by
  intro i hi
  unfold gpa_bits at hi ⊢
  rw [getLsbD_GENMASK_ULL (by omega), decide_eq_true_eq] at hi ⊢
  omega

/-- The address, the generation, the MMIO value and the access are apart. -/
structure FieldsApart (bits : ℕ) (masks : PteMasks) : Prop where
  gpa_gen : gpa_bits bits &&& mmio_gen_bits = 0
  gpa_value : gpa_bits bits &&& masks.shadow_mmio_value = 0
  gpa_access : gpa_bits bits &&& masks.shadow_mmio_access_mask = 0
  gen_value : mmio_gen_bits &&& masks.shadow_mmio_value = 0
  gen_access : mmio_gen_bits &&& masks.shadow_mmio_access_mask = 0
  value_access : masks.shadow_mmio_value &&& masks.shadow_mmio_access_mask = 0

theorem MmioFields.apart {bits : ℕ} {masks : PteMasks} (h : MmioFields bits masks)
    (hlo : 12 ≤ bits) (hhi : bits ≤ 52) : FieldsApart bits masks := by
  have hwide : Inside (gpa_bits bits) (gpa_bits 52) :=
    gpa_bits_inside hhi (by omega) (by omega)
  constructor
  · exact hwide.apart (by decide)
  · rcases h.value with hv | hv | ⟨hlt, hv⟩
    · rw [hv]
      exact BitVec.and_zero
    · rw [hv]
      exact hwide.apart (by decide)
    · -- bit 51 is above the address here
      have hnarrow : Inside (gpa_bits bits) (gpa_bits 51) :=
        gpa_bits_inside (by omega) (by omega) (by omega)
      rw [hv]
      exact hnarrow.apart (by decide)
  · rcases h.access with ha | ha
    · rw [ha]
      exact BitVec.and_zero
    · rw [ha]
      exact hwide.apart (by decide)
  · rcases h.value with hv | hv | ⟨-, hv⟩
    · rw [hv]
      exact BitVec.and_zero
    · rw [hv]
      decide
    · rw [hv]
      decide
  · rcases h.access with ha | ha
    · rw [ha]
      exact BitVec.and_zero
    · rw [ha]
      decide
  · exact h.value_access

/-! ## What is read back -/

/-- The largest frame of a processor. -/
theorem kvm_mmu_max_gfn_toNat {config : MmuConfig} (htdp : config.tdp_enabled = true)
    (hlo : 12 ≤ config.shadow_phys_bits.toNat) (hhi : config.shadow_phys_bits.toNat ≤ 52) :
    (kvm_mmu_max_gfn config).toNat = 2 ^ (config.shadow_phys_bits.toNat - 12) - 1 := by
  unfold kvm_mmu_max_gfn PAGE_SHIFT
  rw [htdp]
  dsimp only
  rw [if_pos rfl]
  generalize config.shadow_phys_bits.toNat = n at hlo hhi
  have hmod : (n + 64 - 12) % 64 = n - 12 := by omega
  have hpow : 2 ^ (n - 12) ≤ 2 ^ 40 := Nat.pow_le_pow_right (by omega) (by omega)
  have hpos : 0 < 2 ^ (n - 12) := Nat.two_pow_pos _
  have hone : ((1 : BitVec 64) <<< (n - 12)).toNat = 2 ^ (n - 12) := by
    rw [BitVec.toNat_shiftLeft, Nat.shiftLeft_eq]
    change 1 * 2 ^ (n - 12) % 2 ^ 64 = _
    rw [Nat.one_mul, Nat.mod_eq_of_lt (by omega)]
  rw [hmod, BitVec.toNat_sub, hone]
  change (2 ^ 64 - 1 + 2 ^ (n - 12)) % 2 ^ 64 = _
  omega

/-- The address of a frame lies in its bits. -/
theorem gpa_inside {config : MmuConfig} (htdp : config.tdp_enabled = true)
    (hlo : 12 ≤ config.shadow_phys_bits.toNat) (hhi : config.shadow_phys_bits.toNat ≤ 52)
    {gfn : BitVec 64} (hgfn : gfn ≤ kvm_mmu_max_gfn config) :
    Inside (gfn <<< PAGE_SHIFT) (gpa_bits config.shadow_phys_bits.toNat) := by
  have hle : gfn.toNat ≤ _ := BitVec.le_def.mp hgfn
  rw [kvm_mmu_max_gfn_toNat htdp hlo hhi] at hle
  have hpos : 0 < 2 ^ (config.shadow_phys_bits.toNat - 12) := Nat.two_pow_pos _
  intro i hi
  rw [BitVec.getLsbD_shiftLeft, show PAGE_SHIFT = 12 from rfl, Bool.and_eq_true, Bool.and_eq_true,
    Bool.not_eq_true', decide_eq_false_iff_not] at hi
  obtain ⟨⟨-, hge⟩, hbit⟩ := hi
  have hsmall : i - 12 < config.shadow_phys_bits.toNat - 12 := by
    by_contra hcon
    have hpow : 2 ^ (config.shadow_phys_bits.toNat - 12) ≤ 2 ^ (i - 12) :=
      Nat.pow_le_pow_right (by omega) (by omega)
    have hzero : gfn.toNat.testBit (i - 12) = false := Nat.testBit_lt_two_pow (by omega)
    rw [BitVec.getLsbD, hzero] at hbit
    cases hbit
  unfold gpa_bits
  rw [getLsbD_GENMASK_ULL (by omega), decide_eq_true_eq]
  omega

/-- The frame is determined by its address. -/
theorem gfn_of_gpa {config : MmuConfig} (htdp : config.tdp_enabled = true)
    (hlo : 12 ≤ config.shadow_phys_bits.toNat) (hhi : config.shadow_phys_bits.toNat ≤ 52)
    {gfn gfn' : BitVec 64} (hgfn : gfn ≤ kvm_mmu_max_gfn config)
    (hgfn' : gfn' ≤ kvm_mmu_max_gfn config) (h : gfn <<< PAGE_SHIFT = gfn' <<< PAGE_SHIFT) :
    gfn = gfn' := by
  have hle : gfn.toNat ≤ _ := BitVec.le_def.mp hgfn
  have hle' : gfn'.toNat ≤ _ := BitVec.le_def.mp hgfn'
  rw [kvm_mmu_max_gfn_toNat htdp hlo hhi] at hle hle'
  have hpow : 2 ^ (config.shadow_phys_bits.toNat - 12) ≤ 2 ^ 40 :=
    Nat.pow_le_pow_right (by omega) (by omega)
  have hshift := congrArg BitVec.toNat h
  rw [BitVec.toNat_shiftLeft, BitVec.toNat_shiftLeft, Nat.shiftLeft_eq, Nat.shiftLeft_eq,
    show PAGE_SHIFT = 12 from rfl] at hshift
  apply BitVec.eq_of_toNat_eq
  omega

/-- A bit of the generation field. -/
theorem getLsbD_generation (gen : BitVec 64) {i : ℕ} (hi : i < 19) :
    (generation_mmio_spte_mask gen).getLsbD (if i < 8 then i + 3 else i + 44) = gen.getLsbD i := by
  unfold generation_mmio_spte_mask MMIO_SPTE_GEN_LOW_MASK MMIO_SPTE_GEN_HIGH_MASK
    MMIO_SPTE_GEN_LOW_SHIFT MMIO_SPTE_GEN_HIGH_SHIFT
  rw [BitVec.getLsbD_or, BitVec.getLsbD_and, BitVec.getLsbD_and, BitVec.getLsbD_shiftLeft,
    BitVec.getLsbD_shiftLeft, getLsbD_GENMASK_ULL (by omega), getLsbD_GENMASK_ULL (by omega)]
  by_cases h8 : i < 8
  · have h1 : i + 3 < 64 := by omega
    have h2 : ¬ i + 3 < 3 := by omega
    have h3 : 3 ≤ i + 3 ∧ i + 3 ≤ 10 := by omega
    have h4 : ¬ (52 ≤ i + 3 ∧ i + 3 ≤ 62) := by omega
    rw [if_pos h8]
    simp only [h1, h2, h3, h4, decide_true, decide_false, Bool.not_false, Bool.true_and,
      Bool.and_true, Bool.and_false, Bool.or_false, and_self, Nat.add_sub_cancel]
  · have h1 : i + 44 < 64 := by omega
    have h2 : ¬ i + 44 < 52 - 8 := by omega
    have h3 : ¬ (3 ≤ i + 44 ∧ i + 44 ≤ 10) := by omega
    have h4 : 52 ≤ i + 44 ∧ i + 44 ≤ 62 := by omega
    have h5 : i + 44 - (52 - 8) = i := by omega
    rw [if_neg h8]
    simp only [h1, h2, h3, h4, h5, decide_true, decide_false, Bool.not_false, Bool.true_and,
      Bool.and_true, Bool.and_false, Bool.false_or, and_self]

theorem generation_inside (gen : BitVec 64) : Inside (generation_mmio_spte_mask gen) mmio_gen_bits := by
  unfold generation_mmio_spte_mask mmio_gen_bits
  intro i hi
  rw [BitVec.getLsbD_or, BitVec.getLsbD_and, BitVec.getLsbD_and, Bool.or_eq_true, Bool.and_eq_true,
    Bool.and_eq_true] at hi
  rw [BitVec.getLsbD_or, Bool.or_eq_true]
  exact hi.imp And.right And.right

/-- The generation, modulo 2^19, is determined by its field. -/
theorem generation_of_field {generation generation' : BitVec 64}
    (h : generation_mmio_spte_mask (generation &&& MMIO_SPTE_GEN_MASK) =
      generation_mmio_spte_mask (generation' &&& MMIO_SPTE_GEN_MASK)) :
    generation.toNat % 2 ^ 19 = generation'.toNat % 2 ^ 19 := by
  have hbit : ∀ i, i < 19 → generation.getLsbD i = generation'.getLsbD i := by
    intro i hi
    have hmask : MMIO_SPTE_GEN_MASK.getLsbD i = true := by
      unfold MMIO_SPTE_GEN_MASK
      rw [getLsbD_GENMASK_ULL (by omega), decide_eq_true_eq]
      omega
    have hfield := congrArg (BitVec.getLsbD · (if i < 8 then i + 3 else i + 44)) h
    rw [getLsbD_generation _ hi, getLsbD_generation _ hi, BitVec.getLsbD_and, BitVec.getLsbD_and,
      hmask, Bool.and_true, Bool.and_true] at hfield
    exact hfield
  apply Nat.eq_of_testBit_eq
  intro i
  rw [Nat.testBit_mod_two_pow, Nat.testBit_mod_two_pow]
  by_cases hi : i < 19
  · rw [show generation.toNat.testBit i = generation'.toNat.testBit i from hbit i hi]
  · simp only [hi, decide_false, Bool.false_and]

/-- The access bits of an entry. -/
theorem access_inside (access : BitVec 32) (mask : BitVec 64) :
    Inside ((access &&& mask.setWidth 32).setWidth 64) mask := by
  intro i hi
  rw [BitVec.getLsbD_setWidth, BitVec.getLsbD_and, BitVec.getLsbD_setWidth, Bool.and_eq_true,
    Bool.and_eq_true, Bool.and_eq_true] at hi
  exact hi.2.2.2

theorem access_of_field {access access' : BitVec 32} {mask : BitVec 64}
    (h : (access &&& mask.setWidth 32).setWidth 64 = (access' &&& mask.setWidth 32).setWidth 64) :
    access &&& mask.setWidth 32 = access' &&& mask.setWidth 32 := by
  have hnat := congrArg BitVec.toNat h
  rw [BitVec.toNat_setWidth_of_le (by omega), BitVec.toNat_setWidth_of_le (by omega)] at hnat
  exact BitVec.eq_of_toNat_eq hnat

/-- **The fields of an MMIO entry**, each behind its mask. -/
theorem make_mmio_spte_spec {config : MmuConfig} (htdp : config.tdp_enabled = true)
    (hlo : 12 ≤ config.shadow_phys_bits.toNat) (hhi : config.shadow_phys_bits.toNat ≤ 52)
    (hmasks : MmioFields config.shadow_phys_bits.toNat config.masks) (generation : BitVec 64)
    {gfn : BitVec 64} (hgfn : gfn ≤ kvm_mmu_max_gfn config) (access : BitVec 32) :
    make_mmio_spte config.masks generation gfn access &&& gpa_bits config.shadow_phys_bits.toNat =
        gfn <<< PAGE_SHIFT ∧
      make_mmio_spte config.masks generation gfn access &&& mmio_gen_bits =
        generation_mmio_spte_mask (generation &&& MMIO_SPTE_GEN_MASK) ∧
      make_mmio_spte config.masks generation gfn access &&& config.masks.shadow_mmio_access_mask =
        (access &&& config.masks.shadow_mmio_access_mask.setWidth 32).setWidth 64 := by
  have hapart := hmasks.apart hlo hhi
  have hgpa := gpa_inside htdp hlo hhi hgfn
  have hgen := generation_inside (generation &&& MMIO_SPTE_GEN_MASK)
  have haccess := access_inside access config.masks.shadow_mmio_access_mask
  have hspte : make_mmio_spte config.masks generation gfn access =
      generation_mmio_spte_mask (generation &&& MMIO_SPTE_GEN_MASK) |||
        (config.masks.shadow_mmio_value |||
          (access &&& config.masks.shadow_mmio_access_mask.setWidth 32).setWidth 64) |||
        gfn <<< PAGE_SHIFT := by
    unfold make_mmio_spte
    simp only [hmasks.rsvd, BitVec.ofNat_eq_ofNat, BitVec.and_zero, BitVec.zero_shiftLeft, BitVec.or_zero]
  rw [hspte]
  -- from here on only where the four fields lie matters, not what they hold
  generalize generation_mmio_spte_mask (generation &&& MMIO_SPTE_GEN_MASK) = gen at hgen ⊢
  generalize (access &&& config.masks.shadow_mmio_access_mask.setWidth 32).setWidth 64 = acc
    at haccess ⊢
  generalize gfn <<< PAGE_SHIFT = gpa at hgpa ⊢
  refine ⟨?_, ?_, ?_⟩
  · rw [BitVec.or_comm]
    apply hgpa.read_back
    rw [BitVec.and_or_distrib_right, BitVec.and_or_distrib_right,
      hgen.apart (BitVec.and_comm .. ▸ hapart.gpa_gen),
      BitVec.and_comm config.masks.shadow_mmio_value, hapart.gpa_value,
      haccess.apart (BitVec.and_comm .. ▸ hapart.gpa_access)]
    rfl
  · rw [BitVec.or_assoc]
    apply hgen.read_back
    rw [BitVec.and_or_distrib_right, BitVec.and_or_distrib_right, hgpa.apart hapart.gpa_gen,
      BitVec.and_comm config.masks.shadow_mmio_value, hapart.gen_value,
      haccess.apart (BitVec.and_comm .. ▸ hapart.gen_access)]
    rfl
  · rw [BitVec.or_comm gen, BitVec.or_comm config.masks.shadow_mmio_value, BitVec.or_assoc,
      BitVec.or_assoc]
    apply haccess.read_back
    rw [BitVec.and_or_distrib_right, BitVec.and_or_distrib_right, hapart.value_access,
      hgen.apart hapart.gen_access, hgpa.apart hapart.gpa_access]
    rfl

/-- **An MMIO entry can be read back** under every configuration of a processor with at most 52
physical address bits, the most that the architecture has: its four fields are apart, and two entries
are equal only for one frame, one generation modulo 2^19 and one access. -/
theorem make_mmio_spte_injective {phys_bits : BitVec 8} {config : MmuConfig}
    (hloaded : Loaded phys_bits config) (hlo : 12 ≤ phys_bits.toNat) (hhi : phys_bits.toNat ≤ 52) :
    FieldsApart phys_bits.toNat config.masks ∧
      ∀ (generation generation' gfn gfn' : BitVec 64) (access access' : BitVec 32),
        gfn ≤ kvm_mmu_max_gfn config → gfn' ≤ kvm_mmu_max_gfn config →
        make_mmio_spte config.masks generation gfn access =
          make_mmio_spte config.masks generation' gfn' access' →
        gfn = gfn' ∧ generation.toNat % 2 ^ 19 = generation'.toNat % 2 ^ 19 ∧
          access &&& config.masks.shadow_mmio_access_mask.setWidth 32 =
            access' &&& config.masks.shadow_mmio_access_mask.setWidth 32 := by
  obtain ⟨htdp, hbits, hmasks⟩ := hloaded.config
  refine ⟨hmasks.apart hlo hhi, ?_⟩
  intro generation generation' gfn gfn' access access' hgfn hgfn' hspte
  rw [← hbits] at hlo hhi hmasks
  obtain ⟨hgpa, hgen, hacc⟩ := make_mmio_spte_spec htdp hlo hhi hmasks generation hgfn access
  obtain ⟨hgpa', hgen', hacc'⟩ := make_mmio_spte_spec htdp hlo hhi hmasks generation' hgfn' access'
  rw [hspte] at hgpa hgen hacc
  refine ⟨?_, ?_, ?_⟩
  · apply gfn_of_gpa htdp hlo hhi hgfn hgfn'
    exact hgpa.symm.trans hgpa'
  · apply generation_of_field
    exact hgen.symm.trans hgen'
  · apply access_of_field
    exact hacc.symm.trans hacc'

/-- The masks before anything is loaded. -/
def bootMasks : PteMasks := ⟨⟨0, 0, 0, 0, 0, 0, 0, 0⟩, 0, 0, 0, 0, 0, 0, false⟩

/-- VMX, with 46 address bits, accessed and dirty bits and MMIO caching. -/
def vmxConfig : MmuConfig :=
  kvm_configure_mmu true
    { kvm_mmu_vendor_module_init 46 true ⟨true, 0, bootMasks⟩ with
      masks := kvm_mmu_set_ept_pte_masks true true true
        (kvm_mmu_vendor_module_init 46 true ⟨true, 0, bootMasks⟩).masks }

/-- There, the largest frame is read back from its entry. -/
theorem vmx_largest_frame : Loaded 46 vmxConfig ∧
    ∀ gfn' ≤ kvm_mmu_max_gfn vmxConfig,
      make_mmio_spte vmxConfig.masks 0 0x3FFFFFFFF 0 = make_mmio_spte vmxConfig.masks 0 gfn' 0 →
      0x3FFFFFFFF = gfn' := by
  have hloaded : Loaded 46 vmxConfig := .vmx true true true true (.first true bootMasks) rfl
  refine ⟨hloaded, fun gfn' hgfn' hspte => ?_⟩
  have hinj := (make_mmio_spte_injective hloaded (by decide) (by decide)).2
  exact (hinj 0 0 _ gfn' 0 0 (by decide) hgfn' hspte).1

end Svmx
