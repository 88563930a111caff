/-
What a successful `setup_vmcs_config` guarantees of the words it stores.

Entry and exit controls that belong together are enabled together (`VmcsConfig.Paired`), in the stored
words and, when PT is used by the host, in the ones that `vmx_vmentry_ctrl` and `vmx_vmexit_ctrl` make
of them. The required controls are all there: what is cleared later is none of them. The controls that
virtualise the APIC are off where the TPR shadow or the secondary word is, and posted interrupts are
where virtual-interrupt delivery is (`setup_vmcs_config_sound`).
-/
import Svmx.InitVmcs

set_option autoImplicit false

namespace Svmx.VmcsControls

open Blend

/-- No tertiary control is required. -/
def KVM_REQUIRED_VMX_TERTIARY_VM_EXEC_CONTROL : BitVec 64 := 0

/-! ## The pairs after the loop -/

section Pairs

variable {ctrl pair pair' : BitVec 32 × BitVec 32} {pairs : List (BitVec 32 × BitVec 32)}

theorem Apart.symm (h : Apart pair pair') : Apart pair' pair := by
  obtain ⟨hentry, hexit⟩ := h
  constructor
  · rw [BitVec.and_comm, hentry]
  · rw [BitVec.and_comm, hexit]

/-- One turn of the loop matches its pair. -/
theorem match_pair_matched (ctrl pair : BitVec 32 × BitVec 32) :
    ¬ Unmatched (match_pair ctrl pair) pair := by
  have hclear : ∀ x mask : BitVec 32, x &&& ~~~mask &&& mask = 0 := by
    intro x mask
    rw [BitVec.and_assoc, BitVec.and_comm (~~~mask), BitVec.and_not_self]
    exact BitVec.and_zero
  unfold match_pair
  split
  · next hmatched => exact not_not.mpr hmatched
  · apply not_not.mpr
    rw [hclear, hclear]

/-- The turns for other pairs leave a pair as it is. -/
theorem unmatched_foldl (h : ∀ pair' ∈ pairs, Apart pair' pair) :
    Unmatched (pairs.foldl match_pair ctrl) pair ↔ Unmatched ctrl pair := by
  induction pairs generalizing ctrl with
  | nil => rfl
  | cons pair' pairs ih =>
    rw [List.foldl_cons, ih fun other hother => h other (List.mem_cons_of_mem _ hother)]
    exact unmatched_match_pair ctrl (h pair' List.mem_cons_self)

/-- **The loop matches every pair.** No later turn undoes an earlier one, the pairs being apart. -/
theorem foldl_match_pair_matched (hapart : pairs.Pairwise Apart) (hpair : pair ∈ pairs) :
    ¬ Unmatched (pairs.foldl match_pair ctrl) pair := by
  induction pairs generalizing ctrl with
  | nil => exact absurd hpair List.not_mem_nil
  | cons first pairs ih =>
    obtain ⟨hfirst, hrest⟩ := List.pairwise_cons.mp hapart
    rw [List.foldl_cons]
    rcases List.mem_cons.mp hpair with rfl | hpair
    · rw [unmatched_foldl fun other hother => (hfirst other hother).symm]
      exact match_pair_matched ctrl pair
    · exact ih hrest hpair

theorem inside_clearing {w : ℕ} {x mask : BitVec w} (c : Prop) [Decidable c] (h : mask &&& x = 0#w) :
    Inside x (clearing c mask) := by
  unfold clearing
  split
  · intro i hi
    have hmask : mask.getLsbD i = false := and_eq_zero_iff.mp h i hi
    rw [BitVec.getLsbD_not, hmask, decide_eq_true (BitVec.lt_of_getLsbD hi)]
    rfl
  · intro i hi
    rw [BitVec.getLsbD_allOnes, decide_eq_true (BitVec.lt_of_getLsbD hi)]

/-- The loop clears nothing but the controls of the pairs. -/
theorem inside_matched {required : BitVec 32} {word : BitVec 32 × BitVec 32 → BitVec 32}
    (h : ∀ pair ∈ pairs, word pair &&& required = 0) :
    Inside required (matched ctrl word pairs) := by
  induction pairs with
  | nil =>
    apply inside_iff.mpr
    exact BitVec.and_allOnes
  | cons pair pairs ih =>
    have hhead : Inside required (clearing (Unmatched ctrl pair) (word pair)) :=
      inside_clearing _ (h pair List.mem_cons_self)
    apply hhead.and
    exact ih fun other hother => h other (List.mem_cons_of_mem _ hother)

end Pairs

/-- Each of the five pairs is enabled on entry if and only if it is on exit. -/
def Paired (vmentry_ctrl vmexit_ctrl : BitVec 32) : Prop :=
  ∀ pair ∈ vmcs_entry_exit_pairs, vmentry_ctrl &&& pair.1 ≠ 0 ↔ vmexit_ctrl &&& pair.2 ≠ 0

variable {cpu : Processor} {vmcs_config : VmcsConfig} {cap : VmxCapability} {g : Globals}

theorem paired_stored (h : Configured cpu vmcs_config) :
    Paired vmcs_config.vmentry_ctrl vmcs_config.vmexit_ctrl := by
  intro pair hpair
  have hmatched : ¬ Unmatched (vmcs_config.vmentry_ctrl, vmcs_config.vmexit_ctrl) pair := by
    rw [h.ctrls]
    exact foldl_match_pair_matched (by decide) hpair
  exact not_congr (not_not.mp hmatched)

/-! ## The words that are written -/

/-- The bits of the stored entry word that `vmx_vmentry_ctrl` keeps with PT in system mode. -/
def vmentry_kept : BitVec 32 :=
  ~~~(VM_ENTRY_PT_CONCEAL_PIP ||| VM_ENTRY_LOAD_IA32_RTIT_CTL) &&&
    (~~~(VM_ENTRY_LOAD_IA32_PERF_GLOBAL_CTRL ||| VM_ENTRY_LOAD_IA32_EFER ||| VM_ENTRY_IA32E_MODE) &&&
      ~~~(VM_ENTRY_LOAD_IA32_PAT ||| VM_ENTRY_LOAD_IA32_EFER))

/-- The bits of the stored exit word that `vmx_vmexit_ctrl` keeps with PT in system mode. -/
def vmexit_kept : BitVec 32 :=
  ~~~(VM_EXIT_SAVE_IA32_PAT ||| VM_EXIT_SAVE_IA32_EFER ||| VM_EXIT_SAVE_VMX_PREEMPTION_TIMER) &&&
    (~~~(VM_EXIT_PT_CONCEAL_PIP ||| VM_EXIT_CLEAR_IA32_RTIT_CTL) &&&
      (~~~(VM_EXIT_LOAD_IA32_PERF_GLOBAL_CTRL ||| VM_EXIT_LOAD_IA32_EFER) &&&
        ~~~(VM_EXIT_LOAD_IA32_PAT ||| VM_EXIT_ACK_INTR_ON_EXIT ||| VM_EXIT_SAVE_DEBUG_CONTROLS)))

theorem vmx_vmentry_ctrl_system (h : g.pt_mode = PT_MODE_SYSTEM) : vmx_vmentry_ctrl vmcs_config g =
    (vmcs_config.vmentry_ctrl &&& vmentry_kept) ||| VM_ENTRY_IA32E_MODE := by
  have hsystem : vmx_pt_mode_is_system g = true := decide_eq_true h
  simp only [vmx_vmentry_ctrl, vmentry_kept, hsystem, if_true, BitVec.and_assoc]

theorem vmx_vmexit_ctrl_system (h : g.pt_mode = PT_MODE_SYSTEM) : vmx_vmexit_ctrl vmcs_config g =
    vmcs_config.vmexit_ctrl &&& vmexit_kept := by
  have hsystem : vmx_pt_mode_is_system g = true := decide_eq_true h
  simp only [vmx_vmexit_ctrl, vmexit_kept, hsystem, if_true, BitVec.and_assoc]

/-- A property of the pairs is checked pair by pair. -/
theorem of_pairs {p : BitVec 32 × BitVec 32 → Prop} [DecidablePred p]
    (h : (vmcs_entry_exit_pairs.all fun pair => decide (p pair)) = true) :
    ∀ pair ∈ vmcs_entry_exit_pairs, p pair := by
  intro pair hpair
  exact of_decide_eq_true (List.all_eq_true.mp h pair hpair)

/-- Of each pair both controls are kept, or neither is. -/
theorem kept_together : ∀ pair ∈ vmcs_entry_exit_pairs, VM_ENTRY_IA32E_MODE &&& pair.1 = 0 ∧
    (vmentry_kept &&& pair.1 = pair.1 ∧ vmexit_kept &&& pair.2 = pair.2 ∨
      vmentry_kept &&& pair.1 = 0 ∧ vmexit_kept &&& pair.2 = 0) :=
  of_pairs (by decide)

theorem paired_written (h : Configured cpu vmcs_config) (hpt : g.pt_mode = PT_MODE_SYSTEM) :
    Paired (vmx_vmentry_ctrl vmcs_config g) (vmx_vmexit_ctrl vmcs_config g) := by
  intro pair hpair
  obtain ⟨hia32e, hkept⟩ := kept_together pair hpair
  rw [vmx_vmentry_ctrl_system hpt, vmx_vmexit_ctrl_system hpt, or_and_of_disjoint _ hia32e,
    BitVec.and_assoc, BitVec.and_assoc]
  rcases hkept with ⟨hentry, hexit⟩ | ⟨hentry, hexit⟩
  · -- BNDCFGS: the words agree because the stored ones do.
    rw [hentry, hexit]
    exact paired_stored h pair hpair
  · -- The other four are toggled later, or belong to the host.
    rw [hentry, hexit]
    apply iff_of_false
    · exact not_not.mpr BitVec.and_zero
    · exact not_not.mpr BitVec.and_zero

/-! ## The required controls -/

/-- What `Configured` does not say of the words that succeeded. -/
theorem setup_vmcs_config_required (h : setup_vmcs_config cpu = some (vmcs_config, cap)) :
    Inside KVM_REQUIRED_VMX_VM_EXIT_CONTROLS (vmexit_adjusted cpu) ∧
      Inside KVM_REQUIRED_VMX_PIN_BASED_VM_EXEC_CONTROL (pin_adjusted cpu) ∧
      (primary_adjusted cpu &&& CPU_BASED_ACTIVATE_SECONDARY_CONTROLS = 0 →
        vmcs_config.cpu_based_2nd_exec_ctrl = 0) := by
  obtain ⟨secondary, hsecondary, -, hvmexit_req, hpin_req, -, -, hcleared, -, -⟩ :=
    setup_vmcs_config_words cpu h
  refine ⟨hvmexit_req, hpin_req, fun hactivate => ?_⟩
  -- Without the activation bit the secondary word starts from 0, and bits are only cleared.
  rw [if_neg (not_not.mpr hactivate)] at hsecondary
  obtain rfl : (0 : BitVec 32) = secondary := Option.some.inj hsecondary
  rw [hcleared, BitVec.and_assoc]
  exact BitVec.zero_and

/-- **What the stored configuration guarantees**, and the words that are written from it. -/
structure Sound (vmcs_config : VmcsConfig) (g : Globals) : Prop where
  stored_pairs : Paired vmcs_config.vmentry_ctrl vmcs_config.vmexit_ctrl
  written_pairs : Paired (vmx_vmentry_ctrl vmcs_config g) (vmx_vmexit_ctrl vmcs_config g)
  pin_based : Inside KVM_REQUIRED_VMX_PIN_BASED_VM_EXEC_CONTROL vmcs_config.pin_based_exec_ctrl
  cpu_based : Inside KVM_REQUIRED_VMX_CPU_BASED_VM_EXEC_CONTROL vmcs_config.cpu_based_exec_ctrl
  cpu_based_2nd : Inside KVM_REQUIRED_VMX_SECONDARY_VM_EXEC_CONTROL
    vmcs_config.cpu_based_2nd_exec_ctrl
  cpu_based_3rd : Inside KVM_REQUIRED_VMX_TERTIARY_VM_EXEC_CONTROL
    vmcs_config.cpu_based_3rd_exec_ctrl
  vmexit : Inside KVM_REQUIRED_VMX_VM_EXIT_CONTROLS vmcs_config.vmexit_ctrl
  vmentry : Inside KVM_REQUIRED_VMX_VM_ENTRY_CONTROLS vmcs_config.vmentry_ctrl
  needs_secondary : vmcs_config.cpu_based_exec_ctrl &&& CPU_BASED_ACTIVATE_SECONDARY_CONTROLS = 0 →
    vmcs_config.cpu_based_2nd_exec_ctrl = 0
  needs_tpr_shadow : vmcs_config.cpu_based_exec_ctrl &&& CPU_BASED_TPR_SHADOW = 0 →
    vmcs_config.cpu_based_2nd_exec_ctrl &&& (SECONDARY_EXEC_APIC_REGISTER_VIRT |||
      SECONDARY_EXEC_VIRTUALIZE_X2APIC_MODE ||| SECONDARY_EXEC_VIRTUAL_INTR_DELIVERY) = 0
  needs_virtual_intr : vmcs_config.cpu_based_2nd_exec_ctrl &&& SECONDARY_EXEC_VIRTUAL_INTR_DELIVERY = 0 →
    vmcs_config.pin_based_exec_ctrl &&& PIN_BASED_POSTED_INTR = 0

/-- A word from which `mask` was cleared has none of it. -/
theorem and_clearing_and {w : ℕ} {c : Prop} [Decidable c] (hc : c) (x mask : BitVec w) :
    x &&& clearing c mask &&& mask = 0#w := by
  rw [clearing, if_pos hc, BitVec.and_assoc, BitVec.and_comm (~~~mask), BitVec.and_not_self]
  exact BitVec.and_zero

/-- **The configuration is sound**, whatever the capability MSRs say, once the setup succeeds. -/
theorem setup_vmcs_config_sound (h : setup_vmcs_config cpu = some (vmcs_config, cap))
    (hpt : g.pt_mode = PT_MODE_SYSTEM) : Sound vmcs_config g := by
  have hconf : Configured cpu vmcs_config := setup_vmcs_config_spec cpu h
  obtain ⟨hvmexit, hpin, hsecondary⟩ := setup_vmcs_config_required h
  obtain ⟨hentry_word, hexit_word⟩ := ctrls_matched cpu hconf
  have hapart : ∀ pair ∈ vmcs_entry_exit_pairs, pair.1 &&& KVM_REQUIRED_VMX_VM_ENTRY_CONTROLS = 0 ∧
      pair.2 &&& KVM_REQUIRED_VMX_VM_EXIT_CONTROLS = 0 :=
    of_pairs (by decide)
  exact
    { stored_pairs := paired_stored hconf
      written_pairs := paired_written hconf hpt
      pin_based := by
        -- Neither the preemption timer nor posted interrupts are required.
        rw [hconf.pin]
        apply Inside.and
        · apply Inside.and hpin
          exact inside_clearing _ (by decide)
        · exact inside_clearing _ (by decide)
      cpu_based := by
        rw [hconf.primary]
        exact hconf.primary_required
      cpu_based_2nd := inside_zero
      cpu_based_3rd := inside_zero
      vmexit := by
        rw [hexit_word]
        apply Inside.and hvmexit
        exact inside_matched fun pair hpair => (hapart pair hpair).2
      vmentry := by
        rw [hentry_word]
        apply Inside.and hconf.vmentry_required
        exact inside_matched fun pair hpair => (hapart pair hpair).1
      needs_secondary := by
        rw [hconf.primary]
        exact hsecondary
      needs_tpr_shadow := by
        intro htpr
        by_cases hactivate : primary_adjusted cpu &&& CPU_BASED_ACTIVATE_SECONDARY_CONTROLS = 0
        · rw [hsecondary hactivate]
          exact BitVec.zero_and
        · -- SGX takes more bits away, after the three.
          rw [hconf.primary] at htpr
          rw [hconf.secondary hactivate]
          apply Inside.apart (Inside.and_left (inside_refl _) _)
          exact and_clearing_and htpr _ _
      needs_virtual_intr := by
        intro hvid
        rw [hconf.pin]
        exact and_clearing_and hvid _ _ }

/-- On a processor with EPT and without VM_ENTRY_LOAD_BNDCFGS, VM_EXIT_CLEAR_BNDCFGS is not used. -/
theorem setup_vmcs_config_sound_bndcfgs : ∃ vmcs_config cap,
    setup_vmcs_config with_io_bitmaps = some (vmcs_config, cap) ∧ Sound vmcs_config default_globals := by
  obtain ⟨⟨vmcs_config, cap⟩, hsetup⟩ : ∃ conf, setup_vmcs_config with_io_bitmaps = some conf :=
    Option.isSome_iff_exists.mp (by decide +kernel)
  exact ⟨vmcs_config, cap, hsetup, setup_vmcs_config_sound hsetup rfl⟩

end Svmx.VmcsControls
