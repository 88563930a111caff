/-
The control words that `init_vmcs` writes.

Each of the five words starts from the configuration and loses bits, so it keeps the bits of the
capability MSR that must be 1 and have not been cleared. Two bits are set that the configuration was
not required to have: `vmx_exec_control` sets CPU_BASED_USE_IO_BITMAPS and
`vmx_secondary_exec_control` SECONDARY_EXEC_DESC, both optional in `setup_vmcs_config`. On a processor
without one of them the VMCS gets a control that is not supported (`init_vmcs_supported_iff`,
`io_bitmaps_forced`).
-/
import Mathlib.Data.Int.Notation
import Svmx.VmcsControls

set_option autoImplicit false

namespace Svmx.VmcsControls

open Blend

/-! ## The vCPU -/

/-- The module parameters that the words depend on. -/
structure Globals where
  pt_mode : ℤ
  enable_ept : Bool
  enable_unrestricted_guest : Bool
deriving DecidableEq

/-- `struct kvm_arch`, as far as the words depend on it. -/
structure KvmArch where
  mwait_in_guest : Bool
  hlt_in_guest : Bool
  bus_lock_detection_enabled : Bool
  notify_vmexit_flags : BitVec 32
deriving DecidableEq

/-- The control fields of the VMCS. -/
inductive ControlField where
  | VM_ENTRY_CONTROLS
  | VM_EXIT_CONTROLS
  | PIN_BASED_VM_EXEC_CONTROL
  | CPU_BASED_VM_EXEC_CONTROL
  | SECONDARY_VM_EXEC_CONTROL
deriving DecidableEq

open ControlField

/-- `controls_shadow`, and the VMWRITEs to the control fields so far. -/
structure LoadedVmcs where
  controls_shadow : ControlField → BitVec 32
  written : List (ControlField × BitVec 32)

/-- `struct vcpu_vmx`, as far as the words depend on it. -/
structure VcpuVmx where
  kvm : KvmArch
  vpid : BitVec 32
  switch_db_regs : BitVec 32
  xsaves_enabled : Bool
  loaded_vmcs : LoadedVmcs

/-- The body of `BUILD_CONTROLS_SHADOW`. -/
def controls_set (uname : ControlField) (vmx : VcpuVmx) (val : BitVec 32) : VcpuVmx :=
  if vmx.loaded_vmcs.controls_shadow uname ≠ val then
    { vmx with loaded_vmcs :=
      { controls_shadow := Function.update vmx.loaded_vmcs.controls_shadow uname val
        written := vmx.loaded_vmcs.written ++ [(uname, val)] } }
  else vmx

def vm_entry_controls_set := controls_set VM_ENTRY_CONTROLS
def vm_exit_controls_set := controls_set VM_EXIT_CONTROLS
def pin_controls_set := controls_set PIN_BASED_VM_EXEC_CONTROL
def exec_controls_set := controls_set CPU_BASED_VM_EXEC_CONTROL
def secondary_exec_controls_set := controls_set SECONDARY_VM_EXEC_CONTROL

/-- `alloc_loaded_vmcs`: the shadows are zero. -/
def alloc_loaded_vmcs : LoadedVmcs where
  controls_shadow _ := 0
  written := []

/-! ## The five words -/

def PT_MODE_SYSTEM : ℤ := 0
def KVM_DEBUGREG_WONT_EXIT : BitVec 32 := 2
def KVM_X86_NOTIFY_VMEXIT_ENABLED : BitVec 32 := 1

variable (vmcs_config : VmcsConfig) (g : Globals) (vmx : VcpuVmx)

def cpu_has_secondary_exec_ctrls : Bool :=
  vmcs_config.cpu_based_exec_ctrl &&& CPU_BASED_ACTIVATE_SECONDARY_CONTROLS ≠ 0

def cpu_has_vmx_tpr_shadow : Bool := vmcs_config.cpu_based_exec_ctrl &&& CPU_BASED_TPR_SHADOW ≠ 0

def cpu_has_vmx_xsaves : Bool := vmcs_config.cpu_based_2nd_exec_ctrl &&& SECONDARY_EXEC_XSAVES ≠ 0

def cpu_has_vmx_rdtscp : Bool :=
  vmcs_config.cpu_based_2nd_exec_ctrl &&& SECONDARY_EXEC_ENABLE_RDTSCP ≠ 0

def cpu_has_vmx_invpcid : Bool :=
  vmcs_config.cpu_based_2nd_exec_ctrl &&& SECONDARY_EXEC_ENABLE_INVPCID ≠ 0

def cpu_has_vmx_rdrand : Bool :=
  vmcs_config.cpu_based_2nd_exec_ctrl &&& SECONDARY_EXEC_RDRAND_EXITING ≠ 0

def cpu_has_vmx_rdseed : Bool :=
  vmcs_config.cpu_based_2nd_exec_ctrl &&& SECONDARY_EXEC_RDSEED_EXITING ≠ 0

def cpu_has_vmx_waitpkg : Bool :=
  vmcs_config.cpu_based_2nd_exec_ctrl &&& SECONDARY_EXEC_ENABLE_USR_WAIT_PAUSE ≠ 0

def vmx_pt_mode_is_system : Bool := g.pt_mode = PT_MODE_SYSTEM

def lapic_in_kernel : Bool := true

def cpu_need_tpr_shadow : Bool := cpu_has_vmx_tpr_shadow vmcs_config && lapic_in_kernel

def kvm_mwait_in_guest (kvm : KvmArch) : Bool := kvm.mwait_in_guest

def kvm_hlt_in_guest (kvm : KvmArch) : Bool := kvm.hlt_in_guest

def kvm_notify_vmexit_enabled (kvm : KvmArch) : Bool :=
  kvm.notify_vmexit_flags &&& KVM_X86_NOTIFY_VMEXIT_ENABLED ≠ 0

/-- `vmx_pin_based_exec_ctrl`. -/
def vmx_pin_based_exec_ctrl : BitVec 32 :=
  let pin_based_exec_ctrl := vmcs_config.pin_based_exec_ctrl
  let pin_based_exec_ctrl := pin_based_exec_ctrl &&& ~~~PIN_BASED_POSTED_INTR
  let pin_based_exec_ctrl := pin_based_exec_ctrl &&& ~~~PIN_BASED_VIRTUAL_NMIS
  let pin_based_exec_ctrl := pin_based_exec_ctrl &&& ~~~PIN_BASED_VMX_PREEMPTION_TIMER
  pin_based_exec_ctrl &&& ~~~(PIN_BASED_NMI_EXITING ||| PIN_BASED_EXT_INTR_MASK)

/-- `vmx_exec_control`, on Win64. -/
def vmx_exec_control : BitVec 32 :=
  let exec_control := vmcs_config.cpu_based_exec_ctrl
  let exec_control := exec_control &&& ~~~(CPU_BASED_RDTSC_EXITING ||| CPU_BASED_USE_IO_BITMAPS |||
    CPU_BASED_MONITOR_TRAP_FLAG ||| CPU_BASED_PAUSE_EXITING)
  let exec_control := exec_control &&& ~~~(CPU_BASED_INTR_WINDOW_EXITING |||
    CPU_BASED_NMI_WINDOW_EXITING)
  let exec_control := if vmx.switch_db_regs &&& KVM_DEBUGREG_WONT_EXIT ≠ 0 then
      exec_control &&& ~~~CPU_BASED_MOV_DR_EXITING else exec_control
  let exec_control := if ¬ cpu_need_tpr_shadow vmcs_config then
      exec_control &&& ~~~CPU_BASED_TPR_SHADOW else exec_control
  let exec_control := if exec_control &&& CPU_BASED_TPR_SHADOW ≠ 0 then
      exec_control &&& ~~~(CPU_BASED_CR8_LOAD_EXITING ||| CPU_BASED_CR8_STORE_EXITING)
    else exec_control ||| (CPU_BASED_CR8_STORE_EXITING ||| CPU_BASED_CR8_LOAD_EXITING)
  let exec_control := if g.enable_ept then
      exec_control &&& ~~~(CPU_BASED_CR3_LOAD_EXITING ||| CPU_BASED_CR3_STORE_EXITING |||
        CPU_BASED_INVLPG_EXITING) else exec_control
  let exec_control := if kvm_mwait_in_guest vmx.kvm then
      exec_control &&& ~~~(CPU_BASED_MWAIT_EXITING ||| CPU_BASED_MONITOR_EXITING) else exec_control
  let exec_control := if kvm_hlt_in_guest vmx.kvm then
      exec_control &&& ~~~CPU_BASED_HLT_EXITING else exec_control
  let exec_control := exec_control &&& ~~~(CPU_BASED_MONITOR_EXITING |||
    CPU_BASED_UNCOND_IO_EXITING ||| CPU_BASED_TPR_SHADOW ||| CPU_BASED_MWAIT_EXITING |||
    CPU_BASED_RDPMC_EXITING ||| CPU_BASED_HLT_EXITING ||| CPU_BASED_USE_TSC_OFFSETTING)
  exec_control ||| (CPU_BASED_CR3_LOAD_EXITING ||| CPU_BASED_MOV_DR_EXITING |||
    CPU_BASED_USE_IO_BITMAPS)

/-- `vmx_adjust_secondary_exec_control`, without the MSRs for nesting. -/
def vmx_adjust_secondary_exec_control (exec_control control : BitVec 32) (enabled exiting : Bool) :
    BitVec 32 :=
  if enabled = exiting then exec_control &&& ~~~control else exec_control

/-- `vmx_adjust_sec_exec_control`; `has` is what `cpu_has_vmx_##name` returns. -/
def vmx_adjust_sec_exec_control (has : Bool) (exec_control control : BitVec 32) (exiting : Bool) :
    BitVec 32 :=
  if has then vmx_adjust_secondary_exec_control exec_control control true exiting else exec_control

/-- `vmx_secondary_exec_control`: the word, and what it does to the globals and to the vCPU. -/
def vmx_secondary_exec_control : BitVec 32 × Globals × VcpuVmx :=
  let exec_control := vmcs_config.cpu_based_2nd_exec_ctrl
  let exec_control := if vmx_pt_mode_is_system g then
      exec_control &&& ~~~(SECONDARY_EXEC_PT_USE_GPA ||| SECONDARY_EXEC_PT_CONCEAL_VMX)
    else exec_control
  let exec_control := if vmx.vpid = 0 then
      exec_control &&& ~~~SECONDARY_EXEC_ENABLE_VPID else exec_control
  let exec_control := if ¬ g.enable_ept then
      exec_control &&& ~~~SECONDARY_EXEC_ENABLE_EPT else exec_control
  let g := if ¬ g.enable_ept then { g with enable_unrestricted_guest := false } else g
  let exec_control := if ¬ g.enable_unrestricted_guest then
      exec_control &&& ~~~SECONDARY_EXEC_UNRESTRICTED_GUEST else exec_control
  let exec_control := exec_control &&& ~~~SECONDARY_EXEC_VIRTUALIZE_X2APIC_MODE
  let exec_control := exec_control &&& ~~~SECONDARY_EXEC_ENABLE_VMFUNC
  let exec_control := exec_control &&& ~~~SECONDARY_EXEC_DESC
  let exec_control := exec_control &&& ~~~SECONDARY_EXEC_SHADOW_VMCS
  let vmx := if cpu_has_vmx_xsaves vmcs_config then { vmx with xsaves_enabled := true } else vmx
  let exec_control := if cpu_has_vmx_xsaves vmcs_config then
      vmx_adjust_secondary_exec_control exec_control SECONDARY_EXEC_XSAVES true false
    else exec_control
  let exec_control := if cpu_has_vmx_rdtscp vmcs_config then
      vmx_adjust_secondary_exec_control exec_control SECONDARY_EXEC_ENABLE_RDTSCP true false
    else exec_control
  let exec_control := vmx_adjust_sec_exec_control (cpu_has_vmx_invpcid vmcs_config) exec_control
    SECONDARY_EXEC_ENABLE_INVPCID false
  let exec_control := vmx_adjust_sec_exec_control (cpu_has_vmx_rdrand vmcs_config) exec_control
    SECONDARY_EXEC_RDRAND_EXITING true
  let exec_control := vmx_adjust_sec_exec_control (cpu_has_vmx_rdseed vmcs_config) exec_control
    SECONDARY_EXEC_RDSEED_EXITING true
  let exec_control := vmx_adjust_sec_exec_control (cpu_has_vmx_waitpkg vmcs_config) exec_control
    SECONDARY_EXEC_ENABLE_USR_WAIT_PAUSE false
  let exec_control := if ¬ vmx.kvm.bus_lock_detection_enabled then
      exec_control &&& ~~~SECONDARY_EXEC_BUS_LOCK_DETECTION else exec_control
  let exec_control := if ¬ kvm_notify_vmexit_enabled vmx.kvm then
      exec_control &&& ~~~SECONDARY_EXEC_NOTIFY_VM_EXITING else exec_control
  let exec_control := exec_control &&& ~~~(SECONDARY_EXEC_WBINVD_EXITING |||
    SECONDARY_EXEC_PAUSE_LOOP_EXITING)
  (exec_control ||| SECONDARY_EXEC_DESC, g, vmx)

/-- `vmx_vmexit_ctrl`. -/
def vmx_vmexit_ctrl : BitVec 32 :=
  let vmexit_ctrl := vmcs_config.vmexit_ctrl
  let vmexit_ctrl := vmexit_ctrl &&& ~~~(VM_EXIT_SAVE_IA32_PAT ||| VM_EXIT_SAVE_IA32_EFER |||
    VM_EXIT_SAVE_VMX_PREEMPTION_TIMER)
  let vmexit_ctrl := if vmx_pt_mode_is_system g then
      vmexit_ctrl &&& ~~~(VM_EXIT_PT_CONCEAL_PIP ||| VM_EXIT_CLEAR_IA32_RTIT_CTL) else vmexit_ctrl
  let vmexit_ctrl := vmexit_ctrl &&& ~~~(VM_EXIT_LOAD_IA32_PERF_GLOBAL_CTRL |||
    VM_EXIT_LOAD_IA32_EFER)
  vmexit_ctrl &&& ~~~(VM_EXIT_LOAD_IA32_PAT ||| VM_EXIT_ACK_INTR_ON_EXIT |||
    VM_EXIT_SAVE_DEBUG_CONTROLS)

/-- `vmx_vmentry_ctrl`. -/
def vmx_vmentry_ctrl : BitVec 32 :=
  let vmentry_ctrl := vmcs_config.vmentry_ctrl
  let vmentry_ctrl := if vmx_pt_mode_is_system g then
      vmentry_ctrl &&& ~~~(VM_ENTRY_PT_CONCEAL_PIP ||| VM_ENTRY_LOAD_IA32_RTIT_CTL)
    else vmentry_ctrl
  let vmentry_ctrl := vmentry_ctrl &&& ~~~(VM_ENTRY_LOAD_IA32_PERF_GLOBAL_CTRL |||
    VM_ENTRY_LOAD_IA32_EFER ||| VM_ENTRY_IA32E_MODE)
  let vmentry_ctrl := vmentry_ctrl &&& ~~~(VM_ENTRY_LOAD_IA32_PAT ||| VM_ENTRY_LOAD_IA32_EFER)
  vmentry_ctrl ||| VM_ENTRY_IA32E_MODE

/-- `init_vmcs`, as far as it writes control words. -/
def init_vmcs : Globals × VcpuVmx :=
  let vmx := pin_controls_set vmx (vmx_pin_based_exec_ctrl vmcs_config)
  let vmx := exec_controls_set vmx (vmx_exec_control vmcs_config g vmx)
  let (g, vmx) := if cpu_has_secondary_exec_ctrls vmcs_config then
      let (exec_control, g, vmx) := vmx_secondary_exec_control vmcs_config g vmx
      (g, secondary_exec_controls_set vmx exec_control)
    else (g, vmx)
  let vmx := vm_exit_controls_set vmx (vmx_vmexit_ctrl vmcs_config g)
  let vmx := vm_entry_controls_set vmx (vmx_vmentry_ctrl vmcs_config g)
  (g, vmx)

/-! ## What is left of the adjusted words -/

variable (cpu : Processor)

/-- The bits that the pin-based word keeps. -/
def pin_left : BitVec 32 :=
  ~~~(PIN_BASED_POSTED_INTR ||| PIN_BASED_VIRTUAL_NMIS ||| PIN_BASED_VMX_PREEMPTION_TIMER |||
    PIN_BASED_NMI_EXITING ||| PIN_BASED_EXT_INTR_MASK)

/-- The bits that the primary word keeps, or sets although they may be missing in the MSR. -/
def primary_left : BitVec 32 :=
  ~~~(CPU_BASED_RDTSC_EXITING ||| CPU_BASED_USE_IO_BITMAPS ||| CPU_BASED_MONITOR_TRAP_FLAG |||
    CPU_BASED_PAUSE_EXITING ||| CPU_BASED_INTR_WINDOW_EXITING ||| CPU_BASED_NMI_WINDOW_EXITING |||
    CPU_BASED_MONITOR_EXITING ||| CPU_BASED_UNCOND_IO_EXITING ||| CPU_BASED_TPR_SHADOW |||
    CPU_BASED_MWAIT_EXITING ||| CPU_BASED_RDPMC_EXITING ||| CPU_BASED_HLT_EXITING |||
    CPU_BASED_USE_TSC_OFFSETTING) &&&
  clearing g.enable_ept (CPU_BASED_CR3_STORE_EXITING ||| CPU_BASED_INVLPG_EXITING) &&&
  clearing (Offers cpu MSR_IA32_VMX_PROCBASED_CTLS CPU_BASED_TPR_SHADOW)
    (CPU_BASED_CR8_LOAD_EXITING ||| CPU_BASED_CR8_STORE_EXITING)

def secondary_left : BitVec 32 :=
  ~~~(SECONDARY_EXEC_VIRTUALIZE_X2APIC_MODE ||| SECONDARY_EXEC_ENABLE_VMFUNC |||
    SECONDARY_EXEC_DESC ||| SECONDARY_EXEC_SHADOW_VMCS ||| SECONDARY_EXEC_RDRAND_EXITING |||
    SECONDARY_EXEC_RDSEED_EXITING ||| SECONDARY_EXEC_WBINVD_EXITING |||
    SECONDARY_EXEC_PAUSE_LOOP_EXITING) &&&
  clearing (¬ Offers cpu MSR_IA32_VMX_PROCBASED_CTLS CPU_BASED_TPR_SHADOW)
    (SECONDARY_EXEC_APIC_REGISTER_VIRT ||| SECONDARY_EXEC_VIRTUALIZE_X2APIC_MODE |||
      SECONDARY_EXEC_VIRTUAL_INTR_DELIVERY) &&&
  clearing (¬ cpu_has_sgx cpu) SECONDARY_EXEC_ENCLS_EXITING &&&
  clearing (vmx_pt_mode_is_system g) (SECONDARY_EXEC_PT_USE_GPA ||| SECONDARY_EXEC_PT_CONCEAL_VMX) &&&
  clearing (vmx.vpid = 0) SECONDARY_EXEC_ENABLE_VPID &&&
  clearing (¬ g.enable_ept) SECONDARY_EXEC_ENABLE_EPT &&&
  clearing (¬ (g.enable_ept ∧ g.enable_unrestricted_guest)) SECONDARY_EXEC_UNRESTRICTED_GUEST &&&
  clearing (¬ vmx.kvm.bus_lock_detection_enabled) SECONDARY_EXEC_BUS_LOCK_DETECTION &&&
  clearing (¬ kvm_notify_vmexit_enabled vmx.kvm) SECONDARY_EXEC_NOTIFY_VM_EXITING

/-- The MSRs offer one control of the pair and not the other. -/
def Unpaired (pair : BitVec 32 × BitVec 32) : Prop :=
  ¬ (Offers cpu MSR_IA32_VMX_ENTRY_CTLS pair.1 ↔ Offers cpu MSR_IA32_VMX_EXIT_CTLS pair.2)

instance (pair : BitVec 32 × BitVec 32) : Decidable (Unpaired cpu pair) :=
  inferInstanceAs (Decidable (¬ _))

def vmexit_left : BitVec 32 :=
  ~~~(VM_EXIT_SAVE_IA32_PAT ||| VM_EXIT_SAVE_IA32_EFER ||| VM_EXIT_SAVE_VMX_PREEMPTION_TIMER |||
    VM_EXIT_LOAD_IA32_PERF_GLOBAL_CTRL ||| VM_EXIT_LOAD_IA32_EFER ||| VM_EXIT_LOAD_IA32_PAT |||
    VM_EXIT_ACK_INTR_ON_EXIT ||| VM_EXIT_SAVE_DEBUG_CONTROLS) &&&
  clearing (vmx_pt_mode_is_system g) (VM_EXIT_PT_CONCEAL_PIP ||| VM_EXIT_CLEAR_IA32_RTIT_CTL) &&&
  clearing (Unpaired cpu (VM_ENTRY_LOAD_BNDCFGS, VM_EXIT_CLEAR_BNDCFGS)) VM_EXIT_CLEAR_BNDCFGS &&&
  clearing (Unpaired cpu (VM_ENTRY_LOAD_IA32_RTIT_CTL, VM_EXIT_CLEAR_IA32_RTIT_CTL))
    VM_EXIT_CLEAR_IA32_RTIT_CTL

def vmentry_left : BitVec 32 :=
  ~~~(VM_ENTRY_LOAD_IA32_PERF_GLOBAL_CTRL ||| VM_ENTRY_LOAD_IA32_EFER ||| VM_ENTRY_LOAD_IA32_PAT) &&&
  clearing (vmx_pt_mode_is_system g) (VM_ENTRY_PT_CONCEAL_PIP ||| VM_ENTRY_LOAD_IA32_RTIT_CTL) &&&
  clearing (Unpaired cpu (VM_ENTRY_LOAD_BNDCFGS, VM_EXIT_CLEAR_BNDCFGS)) VM_ENTRY_LOAD_BNDCFGS &&&
  clearing (Unpaired cpu (VM_ENTRY_LOAD_IA32_RTIT_CTL, VM_EXIT_CLEAR_IA32_RTIT_CTL))
    VM_ENTRY_LOAD_IA32_RTIT_CTL

theorem pin_word {vmcs_config : VmcsConfig} (h : Configured cpu vmcs_config) :
    vmx_pin_based_exec_ctrl vmcs_config = pin_adjusted cpu &&& pin_left := by
  unfold vmx_pin_based_exec_ctrl
  rw [h.pin]
  simp only [BitVec.and_assoc]
  congr 1
  unfold clearing
  split_ifs <;> decide

theorem offers_tpr_shadow_iff : primary_adjusted cpu &&& CPU_BASED_TPR_SHADOW ≠ 0 ↔
    Offers cpu MSR_IA32_VMX_PROCBASED_CTLS CPU_BASED_TPR_SHADOW :=
  adjusted_and_ne_zero cpu (by decide)

/-- The primary word before the CR8 exiting controls are decided on. -/
def primary_start : BitVec 32 :=
  ~~~(CPU_BASED_RDTSC_EXITING ||| CPU_BASED_USE_IO_BITMAPS ||| CPU_BASED_MONITOR_TRAP_FLAG |||
    CPU_BASED_PAUSE_EXITING) &&&
  ~~~(CPU_BASED_INTR_WINDOW_EXITING ||| CPU_BASED_NMI_WINDOW_EXITING) &&&
  clearing (vmx.switch_db_regs &&& KVM_DEBUGREG_WONT_EXIT ≠ 0) CPU_BASED_MOV_DR_EXITING &&&
  clearing (¬ Offers cpu MSR_IA32_VMX_PROCBASED_CTLS CPU_BASED_TPR_SHADOW) CPU_BASED_TPR_SHADOW

/-- **The primary word.** The bits that are set at the end are required ones, but for
CPU_BASED_USE_IO_BITMAPS. -/
theorem primary_word {vmcs_config : VmcsConfig} (h : Configured cpu vmcs_config) :
    vmx_exec_control vmcs_config g vmx =
      (primary_adjusted cpu &&& primary_left g cpu) ||| CPU_BASED_USE_IO_BITMAPS := by
  have hneed : cpu_need_tpr_shadow vmcs_config
      = decide (Offers cpu MSR_IA32_VMX_PROCBASED_CTLS CPU_BASED_TPR_SHADOW) := by
    rw [cpu_need_tpr_shadow, cpu_has_vmx_tpr_shadow, h.primary, lapic_in_kernel, Bool.and_true]
    exact decide_eq_decide.mpr (offers_tpr_shadow_iff cpu)
  have hforced : Inside (CPU_BASED_CR3_LOAD_EXITING ||| CPU_BASED_MOV_DR_EXITING)
      (primary_adjusted cpu) := Inside.trans (by decide) h.primary_required
  have hcr8 : Inside (CPU_BASED_CR8_LOAD_EXITING ||| CPU_BASED_CR8_STORE_EXITING)
      (primary_adjusted cpu &&& primary_start vmx cpu) := by
    refine Inside.and (Inside.trans (by decide) h.primary_required) ?_
    unfold primary_start clearing
    split_ifs <;> decide
  have htpr : primary_adjusted cpu &&& primary_start vmx cpu &&& CPU_BASED_TPR_SHADOW ≠ 0 ↔
      Offers cpu MSR_IA32_VMX_PROCBASED_CTLS CPU_BASED_TPR_SHADOW := by
    rw [← offers_tpr_shadow_iff, BitVec.and_assoc]
    by_cases hoffers : Offers cpu MSR_IA32_VMX_PROCBASED_CTLS CPU_BASED_TPR_SHADOW
    · have hmask : primary_start vmx cpu &&& CPU_BASED_TPR_SHADOW = CPU_BASED_TPR_SHADOW := by
        unfold primary_start clearing
        split_ifs <;> decide
      rw [hmask]
    · have hmask : primary_start vmx cpu &&& CPU_BASED_TPR_SHADOW = 0 := by
        unfold primary_start clearing
        split_ifs <;> decide
      rw [hmask, offers_tpr_shadow_iff]
      simp [hoffers]
  unfold vmx_exec_control
  rw [h.primary, hneed, BitVec.or_comm CPU_BASED_CR8_STORE_EXITING]
  simp only [ite_clear, decide_eq_true_eq]
  have hstart : primary_adjusted cpu &&& ~~~(CPU_BASED_RDTSC_EXITING ||| CPU_BASED_USE_IO_BITMAPS |||
        CPU_BASED_MONITOR_TRAP_FLAG ||| CPU_BASED_PAUSE_EXITING) &&&
      ~~~(CPU_BASED_INTR_WINDOW_EXITING ||| CPU_BASED_NMI_WINDOW_EXITING) &&&
      clearing (vmx.switch_db_regs &&& KVM_DEBUGREG_WONT_EXIT ≠ 0) CPU_BASED_MOV_DR_EXITING &&&
      clearing (¬ Offers cpu MSR_IA32_VMX_PROCBASED_CTLS CPU_BASED_TPR_SHADOW) CPU_BASED_TPR_SHADOW
      = primary_adjusted cpu &&& primary_start vmx cpu := by
    simp only [primary_start, BitVec.and_assoc]
  rw [hstart, ite_clear_or _ hcr8,
    ← BitVec.or_assoc _ (CPU_BASED_CR3_LOAD_EXITING ||| CPU_BASED_MOV_DR_EXITING)]
  simp only [htpr]
  simp only [BitVec.and_assoc]
  rw [and_or_of_inside hforced]
  congr 2
  unfold primary_start primary_left clearing
  split_ifs <;> decide

@[simp] theorem adjust_enabled (exec_control control : BitVec 32) :
    vmx_adjust_secondary_exec_control exec_control control true false = exec_control := rfl

@[simp] theorem adjust_sec_feature (has : Bool) (exec_control control : BitVec 32) :
    vmx_adjust_sec_exec_control has exec_control control false = exec_control := by
  rw [vmx_adjust_sec_exec_control, adjust_enabled, ite_self]

@[simp] theorem adjust_sec_exiting (has : Bool) (exec_control control : BitVec 32) :
    vmx_adjust_sec_exec_control has exec_control control true
      = exec_control &&& clearing has control :=
  ite_clear _ _ _

/-- **The secondary word.** SECONDARY_EXEC_DESC is not a required bit. -/
theorem secondary_word {vmcs_config : VmcsConfig} (h : Configured cpu vmcs_config)
    (hactivate : primary_adjusted cpu &&& CPU_BASED_ACTIVATE_SECONDARY_CONTROLS ≠ 0) :
    (vmx_secondary_exec_control vmcs_config g vmx).1 =
      (secondary_adjusted cpu &&& secondary_left g vmx cpu) ||| SECONDARY_EXEC_DESC := by
  have htpr : primary_adjusted cpu &&& CPU_BASED_TPR_SHADOW = 0 ↔
      ¬ Offers cpu MSR_IA32_VMX_PROCBASED_CTLS CPU_BASED_TPR_SHADOW := by
    rw [← offers_tpr_shadow_iff, not_not]
  have hunrestricted : ¬ (if ¬ g.enable_ept = true then
        { g with enable_unrestricted_guest := false } else g).enable_unrestricted_guest = true ↔
      ¬ (g.enable_ept ∧ g.enable_unrestricted_guest) := by
    cases g.enable_ept <;> simp
  have hkvm : (if cpu_has_vmx_xsaves vmcs_config = true then { vmx with xsaves_enabled := true }
      else vmx).kvm = vmx.kvm := by
    split <;> rfl
  have hrdrand : cpu_has_vmx_rdrand vmcs_config = true ↔
      vmcs_config.cpu_based_2nd_exec_ctrl &&& SECONDARY_EXEC_RDRAND_EXITING ≠ 0 :=
    decide_eq_true_iff
  have hrdseed : cpu_has_vmx_rdseed vmcs_config = true ↔
      vmcs_config.cpu_based_2nd_exec_ctrl &&& SECONDARY_EXEC_RDSEED_EXITING ≠ 0 :=
    decide_eq_true_iff
  unfold vmx_secondary_exec_control
  simp only [ite_clear, adjust_enabled, adjust_sec_feature, adjust_sec_exiting, ite_self]
  rw [hkvm, clearing_congr hunrestricted, and_clearing_of_iff hrdrand, and_clearing_of_iff hrdseed,
    h.secondary hactivate, clearing_congr htpr]
  rotate_left
  -- The word is inside the configured one when RDRAND and RDSEED are looked at.
  · iterate 9 apply Inside.and_left
    exact inside_refl _
  · iterate 8 apply Inside.and_left
    exact inside_refl _
  congr 1
  unfold secondary_left
  simp only [BitVec.not_or]
  ac_rfl

/-- The loop clears a pair that the MSRs do not offer together. -/
theorem unmatched_iff {pair : BitVec 32 × BitVec 32} (h : pair ∈ vmcs_entry_exit_pairs) :
    Unmatched (vmentry_adjusted cpu, vmexit_adjusted cpu) pair ↔ Unpaired cpu pair := by
  have hinside :
      Inside pair.1 (KVM_REQUIRED_VMX_VM_ENTRY_CONTROLS ||| KVM_OPTIONAL_VMX_VM_ENTRY_CONTROLS) ∧
      Inside pair.2 (KVM_REQUIRED_VMX_VM_EXIT_CONTROLS ||| KVM_OPTIONAL_VMX_VM_EXIT_CONTROLS) := by
    simp only [vmcs_entry_exit_pairs, List.mem_cons, List.not_mem_nil, or_false] at h
    rcases h with rfl | rfl | rfl | rfl | rfl <;> decide
  obtain ⟨hentry, hexit⟩ := hinside
  have hentry_iff : vmentry_adjusted cpu &&& pair.1 ≠ 0 ↔ Offers cpu MSR_IA32_VMX_ENTRY_CTLS pair.1 :=
    adjusted_and_ne_zero cpu hentry
  have hexit_iff : vmexit_adjusted cpu &&& pair.2 ≠ 0 ↔ Offers cpu MSR_IA32_VMX_EXIT_CTLS pair.2 :=
    adjusted_and_ne_zero cpu hexit
  rw [Unmatched, Unpaired, ← hentry_iff, ← hexit_iff]
  exact not_congr not_iff_not.symm

theorem ctrls_matched {vmcs_config : VmcsConfig} (h : Configured cpu vmcs_config) :
    vmcs_config.vmentry_ctrl = vmentry_adjusted cpu &&&
        matched (vmentry_adjusted cpu, vmexit_adjusted cpu) Prod.fst vmcs_entry_exit_pairs ∧
      vmcs_config.vmexit_ctrl = vmexit_adjusted cpu &&&
        matched (vmentry_adjusted cpu, vmexit_adjusted cpu) Prod.snd vmcs_entry_exit_pairs := by
  have hctrls := h.ctrls
  rw [foldl_match_pair _ (by decide)] at hctrls
  exact Prod.mk.inj hctrls

theorem vmexit_word {vmcs_config : VmcsConfig} (h : Configured cpu vmcs_config) :
    vmx_vmexit_ctrl vmcs_config g = vmexit_adjusted cpu &&& vmexit_left g cpu := by
  have hbndcfgs : _ ↔ Unpaired cpu (VM_ENTRY_LOAD_BNDCFGS, VM_EXIT_CLEAR_BNDCFGS) :=
    unmatched_iff cpu (by decide)
  have hrtit : _ ↔ Unpaired cpu (VM_ENTRY_LOAD_IA32_RTIT_CTL, VM_EXIT_CLEAR_IA32_RTIT_CTL) :=
    unmatched_iff cpu (by decide)
  unfold vmx_vmexit_ctrl
  rw [(ctrls_matched cpu h).2]
  simp only [ite_clear, matched, vmcs_entry_exit_pairs, List.foldr_cons, List.foldr_nil]
  rw [clearing_congr hbndcfgs, clearing_congr hrtit]
  simp only [BitVec.and_assoc]
  congr 1
  unfold vmexit_left clearing
  split_ifs <;> decide

theorem vmentry_word {vmcs_config : VmcsConfig} (h : Configured cpu vmcs_config) :
    vmx_vmentry_ctrl vmcs_config g = vmentry_adjusted cpu &&& vmentry_left g cpu := by
  have hia32e : Inside VM_ENTRY_IA32E_MODE (vmentry_adjusted cpu) :=
    Inside.trans (by decide) h.vmentry_required
  have hbndcfgs : _ ↔ Unpaired cpu (VM_ENTRY_LOAD_BNDCFGS, VM_EXIT_CLEAR_BNDCFGS) :=
    unmatched_iff cpu (by decide)
  have hrtit : _ ↔ Unpaired cpu (VM_ENTRY_LOAD_IA32_RTIT_CTL, VM_EXIT_CLEAR_IA32_RTIT_CTL) :=
    unmatched_iff cpu (by decide)
  unfold vmx_vmentry_ctrl
  rw [(ctrls_matched cpu h).1]
  simp only [ite_clear, matched, vmcs_entry_exit_pairs, List.foldr_cons, List.foldr_nil]
  rw [clearing_congr hbndcfgs, clearing_congr hrtit]
  simp only [BitVec.and_assoc]
  rw [and_or_of_inside hia32e]
  congr 1
  unfold vmentry_left clearing
  split_ifs <;> decide

/-! ## What is written -/

/-- The capability MSR of a control field. -/
def capability : ControlField → BitVec 32
  | VM_ENTRY_CONTROLS => MSR_IA32_VMX_ENTRY_CTLS
  | VM_EXIT_CONTROLS => MSR_IA32_VMX_EXIT_CTLS
  | PIN_BASED_VM_EXEC_CONTROL => MSR_IA32_VMX_PINBASED_CTLS
  | CPU_BASED_VM_EXEC_CONTROL => MSR_IA32_VMX_PROCBASED_CTLS
  | SECONDARY_VM_EXEC_CONTROL => MSR_IA32_VMX_PROCBASED_CTLS2

/-- Every control word that was written sets only bits that its MSR allows to be 1. -/
def WritesSupported (lv : LoadedVmcs) : Prop :=
  ∀ write ∈ lv.written, Inside write.2 (cpu.high (capability write.1))

@[simp] theorem controls_set_kvm (uname : ControlField) (val : BitVec 32) :
    (controls_set uname vmx val).kvm = vmx.kvm := by
  unfold controls_set
  split <;> rfl

@[simp] theorem controls_set_vpid (uname : ControlField) (val : BitVec 32) :
    (controls_set uname vmx val).vpid = vmx.vpid := by
  unfold controls_set
  split <;> rfl

theorem controls_set_shadow {uname uname' : ControlField} (hne : uname' ≠ uname) (val : BitVec 32) :
    (controls_set uname vmx val).loaded_vmcs.controls_shadow uname'
      = vmx.loaded_vmcs.controls_shadow uname' := by
  unfold controls_set
  split
  · exact Function.update_of_ne hne _ _
  · rfl

/-- A word equal to its shadow is not written; the shadow of a new VMCS is zero. -/
theorem writes_supported_set {uname : ControlField} {vmx : VcpuVmx}
    (hzero : vmx.loaded_vmcs.controls_shadow uname = 0) (val : BitVec 32) :
    WritesSupported cpu (controls_set uname vmx val).loaded_vmcs ↔
      WritesSupported cpu vmx.loaded_vmcs ∧ Inside val (cpu.high (capability uname)) := by
  unfold controls_set
  split
  · constructor
    · intro h
      exact ⟨fun write hwrite => h write (List.mem_append_left _ hwrite),
        h (uname, val) (List.mem_append_right _ List.mem_cons_self)⟩
    · rintro ⟨hold, hnew⟩ write hwrite
      rcases List.mem_append.mp hwrite with hwrite | hwrite
      · exact hold write hwrite
      · rw [List.mem_singleton.mp hwrite]
        exact hnew
  · next hval =>
    obtain rfl : val = 0 := by rw [← not_not.mp hval, hzero]
    exact (and_iff_left inside_zero).symm

theorem secondary_pt_mode :
    (vmx_secondary_exec_control vmcs_config g vmx).2.1.pt_mode = g.pt_mode := by
  unfold vmx_secondary_exec_control
  dsimp only
  split <;> rfl

theorem secondary_loaded_vmcs :
    (vmx_secondary_exec_control vmcs_config g vmx).2.2.loaded_vmcs = vmx.loaded_vmcs := by
  unfold vmx_secondary_exec_control
  dsimp only
  split <;> rfl

theorem left_of_pt_mode {g' : Globals} (h : g'.pt_mode = g.pt_mode) :
    vmexit_left g' cpu = vmexit_left g cpu ∧ vmentry_left g' cpu = vmentry_left g cpu := by
  have hsystem : vmx_pt_mode_is_system g' = vmx_pt_mode_is_system g := by
    rw [vmx_pt_mode_is_system, vmx_pt_mode_is_system, h]
  unfold vmexit_left vmentry_left
  rw [hsystem]
  exact ⟨rfl, rfl⟩

/-! ## The condition -/

/-- **When the words are supported.** The two controls that are set although they are optional may be
1, and so may every control that must be 1 and is not cleared. -/
structure Supported : Prop where
  io_bitmaps : Inside CPU_BASED_USE_IO_BITMAPS (cpu.high MSR_IA32_VMX_PROCBASED_CTLS)
  desc : Offers cpu MSR_IA32_VMX_PROCBASED_CTLS CPU_BASED_ACTIVATE_SECONDARY_CONTROLS →
    Inside SECONDARY_EXEC_DESC (cpu.high MSR_IA32_VMX_PROCBASED_CTLS2)
  pin : Inside (cpu.low MSR_IA32_VMX_PINBASED_CTLS &&& pin_left)
    (cpu.high MSR_IA32_VMX_PINBASED_CTLS)
  primary : Inside (cpu.low MSR_IA32_VMX_PROCBASED_CTLS &&& primary_left g cpu)
    (cpu.high MSR_IA32_VMX_PROCBASED_CTLS)
  secondary : Offers cpu MSR_IA32_VMX_PROCBASED_CTLS CPU_BASED_ACTIVATE_SECONDARY_CONTROLS →
    Inside (cpu.low MSR_IA32_VMX_PROCBASED_CTLS2 &&& secondary_left g vmx cpu)
      (cpu.high MSR_IA32_VMX_PROCBASED_CTLS2)
  vmexit : Inside (cpu.low MSR_IA32_VMX_EXIT_CTLS &&& vmexit_left g cpu)
    (cpu.high MSR_IA32_VMX_EXIT_CTLS)
  vmentry : Inside (cpu.low MSR_IA32_VMX_ENTRY_CTLS &&& vmentry_left g cpu)
    (cpu.high MSR_IA32_VMX_ENTRY_CTLS)

theorem offers_secondary_iff {vmcs_config : VmcsConfig} (h : Configured cpu vmcs_config) :
    cpu_has_secondary_exec_ctrls vmcs_config = true ↔
      Offers cpu MSR_IA32_VMX_PROCBASED_CTLS CPU_BASED_ACTIVATE_SECONDARY_CONTROLS := by
  rw [cpu_has_secondary_exec_ctrls, h.primary, decide_eq_true_iff]
  exact adjusted_and_ne_zero cpu (by decide)

section Words

variable {cpu g vmx vmcs_config}

theorem pin_inside (h : Configured cpu vmcs_config) :
    Inside (vmx_pin_based_exec_ctrl vmcs_config) (cpu.high MSR_IA32_VMX_PINBASED_CTLS) ↔
      Inside (cpu.low MSR_IA32_VMX_PINBASED_CTLS &&& pin_left)
        (cpu.high MSR_IA32_VMX_PINBASED_CTLS) := by
  rw [pin_word cpu h]
  exact inside_adjusted

theorem primary_inside (h : Configured cpu vmcs_config) :
    Inside (vmx_exec_control vmcs_config g vmx) (cpu.high MSR_IA32_VMX_PROCBASED_CTLS) ↔
      Inside (cpu.low MSR_IA32_VMX_PROCBASED_CTLS &&& primary_left g cpu)
          (cpu.high MSR_IA32_VMX_PROCBASED_CTLS) ∧
        Inside CPU_BASED_USE_IO_BITMAPS (cpu.high MSR_IA32_VMX_PROCBASED_CTLS) := by
  rw [primary_word g vmx cpu h, inside_or]
  exact and_congr_left' inside_adjusted

theorem secondary_inside (h : Configured cpu vmcs_config)
    (hactivate : primary_adjusted cpu &&& CPU_BASED_ACTIVATE_SECONDARY_CONTROLS ≠ 0) :
    Inside (vmx_secondary_exec_control vmcs_config g vmx).1
        (cpu.high MSR_IA32_VMX_PROCBASED_CTLS2) ↔
      Inside (cpu.low MSR_IA32_VMX_PROCBASED_CTLS2 &&& secondary_left g vmx cpu)
          (cpu.high MSR_IA32_VMX_PROCBASED_CTLS2) ∧
        Inside SECONDARY_EXEC_DESC (cpu.high MSR_IA32_VMX_PROCBASED_CTLS2) := by
  rw [secondary_word g vmx cpu h hactivate, inside_or]
  exact and_congr_left' inside_adjusted

theorem vmexit_inside (h : Configured cpu vmcs_config) :
    Inside (vmx_vmexit_ctrl vmcs_config g) (cpu.high MSR_IA32_VMX_EXIT_CTLS) ↔
      Inside (cpu.low MSR_IA32_VMX_EXIT_CTLS &&& vmexit_left g cpu)
        (cpu.high MSR_IA32_VMX_EXIT_CTLS) := by
  rw [vmexit_word g cpu h]
  exact inside_adjusted

theorem vmentry_inside (h : Configured cpu vmcs_config) :
    Inside (vmx_vmentry_ctrl vmcs_config g) (cpu.high MSR_IA32_VMX_ENTRY_CTLS) ↔
      Inside (cpu.low MSR_IA32_VMX_ENTRY_CTLS &&& vmentry_left g cpu)
        (cpu.high MSR_IA32_VMX_ENTRY_CTLS) := by
  rw [vmentry_word g cpu h]
  exact inside_adjusted

/-- The pin-based and the primary word, on a new VMCS. -/
theorem writes_start (h : Configured cpu vmcs_config)
    (hnew : vmx.loaded_vmcs = alloc_loaded_vmcs) {vmx₂ : VcpuVmx}
    (hvmx₂ : vmx₂ = exec_controls_set
      (pin_controls_set vmx (vmx_pin_based_exec_ctrl vmcs_config))
      (vmx_exec_control vmcs_config g
        (pin_controls_set vmx (vmx_pin_based_exec_ctrl vmcs_config)))) :
    (WritesSupported cpu vmx₂.loaded_vmcs ↔
      Inside (cpu.low MSR_IA32_VMX_PINBASED_CTLS &&& pin_left)
          (cpu.high MSR_IA32_VMX_PINBASED_CTLS) ∧
        Inside (cpu.low MSR_IA32_VMX_PROCBASED_CTLS &&& primary_left g cpu)
          (cpu.high MSR_IA32_VMX_PROCBASED_CTLS) ∧
        Inside CPU_BASED_USE_IO_BITMAPS (cpu.high MSR_IA32_VMX_PROCBASED_CTLS)) ∧
    ∀ uname, uname ≠ PIN_BASED_VM_EXEC_CONTROL → uname ≠ CPU_BASED_VM_EXEC_CONTROL →
      vmx₂.loaded_vmcs.controls_shadow uname = 0 := by
  subst hvmx₂
  have hzero : ∀ uname, vmx.loaded_vmcs.controls_shadow uname = 0 := by
    rw [hnew]
    exact fun _ => rfl
  have hempty : WritesSupported cpu vmx.loaded_vmcs := by
    rw [hnew]
    exact fun write hwrite => absurd hwrite List.not_mem_nil
  constructor
  · rw [exec_controls_set, pin_controls_set,
      writes_supported_set cpu ((controls_set_shadow vmx (by decide) _).trans (hzero _)),
      writes_supported_set cpu (hzero _), and_iff_right hempty]
    exact and_congr (pin_inside h) (primary_inside h)
  · intro uname hpin hexec
    exact (controls_set_shadow _ hexec _).trans ((controls_set_shadow _ hpin _).trans (hzero _))

/-- The exit and the entry word. -/
theorem writes_end (h : Configured cpu vmcs_config)
    (hexit : vmx.loaded_vmcs.controls_shadow VM_EXIT_CONTROLS = 0)
    (hentry : vmx.loaded_vmcs.controls_shadow VM_ENTRY_CONTROLS = 0) :
    WritesSupported cpu (vm_entry_controls_set
        (vm_exit_controls_set vmx (vmx_vmexit_ctrl vmcs_config g))
        (vmx_vmentry_ctrl vmcs_config g)).loaded_vmcs ↔
      WritesSupported cpu vmx.loaded_vmcs ∧
        Inside (cpu.low MSR_IA32_VMX_EXIT_CTLS &&& vmexit_left g cpu)
          (cpu.high MSR_IA32_VMX_EXIT_CTLS) ∧
        Inside (cpu.low MSR_IA32_VMX_ENTRY_CTLS &&& vmentry_left g cpu)
          (cpu.high MSR_IA32_VMX_ENTRY_CTLS) := by
  rw [vm_entry_controls_set, vm_exit_controls_set,
    writes_supported_set cpu ((controls_set_shadow vmx (by decide) _).trans hentry),
    writes_supported_set cpu hexit, and_assoc]
  exact and_congr_right' (and_congr (vmexit_inside h) (vmentry_inside h))

end Words

/-- **The control words of `init_vmcs`.** After a successful setup, the words written to a new VMCS
set only bits that the processor supports if and only if the MSRs are as `Supported` says. -/
theorem init_vmcs_supported_iff {vmcs_config : VmcsConfig} {cap : VmxCapability}
    (hsetup : setup_vmcs_config cpu = some (vmcs_config, cap)) :
    WritesSupported cpu
        (init_vmcs vmcs_config g { vmx with loaded_vmcs := alloc_loaded_vmcs }).2.loaded_vmcs ↔
      Supported g vmx cpu := by
  have h := setup_vmcs_config_spec cpu hsetup
  unfold init_vmcs
  dsimp only
  generalize hvmx₂ : exec_controls_set _ _ = vmx₂
  obtain ⟨hstart, hzero⟩ := writes_start h rfl hvmx₂.symm
  have hkvm : vmx₂.kvm = vmx.kvm := by
    rw [← hvmx₂, exec_controls_set, pin_controls_set, controls_set_kvm, controls_set_kvm]
  have hvpid : vmx₂.vpid = vmx.vpid := by
    rw [← hvmx₂, exec_controls_set, pin_controls_set, controls_set_vpid, controls_set_vpid]
  -- the secondary word is written only if the processor has it
  by_cases hsec : Offers cpu MSR_IA32_VMX_PROCBASED_CTLS CPU_BASED_ACTIVATE_SECONDARY_CONTROLS
  · have hactivate : primary_adjusted cpu &&& CPU_BASED_ACTIVATE_SECONDARY_CONTROLS ≠ 0 :=
      (adjusted_and_ne_zero cpu (by decide)).mpr hsec
    have hleft : secondary_left g vmx₂ cpu = secondary_left g vmx cpu := by
      unfold secondary_left
      rw [hkvm, hvpid]
    have hpt := secondary_pt_mode vmcs_config g vmx₂
    have hlv := secondary_loaded_vmcs vmcs_config g vmx₂
    have hword : Inside (vmx_secondary_exec_control vmcs_config g vmx₂).1
        (cpu.high (capability SECONDARY_VM_EXEC_CONTROL)) ↔ _ := secondary_inside h hactivate
    simp only [if_pos ((offers_secondary_iff cpu h).mpr hsec)]
    generalize vmx_secondary_exec_control vmcs_config g vmx₂ = second at hpt hlv hword ⊢
    obtain ⟨exec_control, g₃, vmx₃⟩ := second
    dsimp only at hpt hlv hword ⊢
    have hzero₃ : ∀ uname, uname ≠ PIN_BASED_VM_EXEC_CONTROL → uname ≠ CPU_BASED_VM_EXEC_CONTROL →
        vmx₃.loaded_vmcs.controls_shadow uname = 0 := by
      rw [hlv]
      exact hzero
    rw [secondary_exec_controls_set, writes_end h
        ((controls_set_shadow _ (by decide) _).trans (hzero₃ _ (by decide) (by decide)))
        ((controls_set_shadow _ (by decide) _).trans (hzero₃ _ (by decide) (by decide))),
      writes_supported_set cpu (hzero₃ _ (by decide) (by decide)), hlv, hstart, hword, hleft,
      (left_of_pt_mode g cpu hpt).1, (left_of_pt_mode g cpu hpt).2]
    constructor
    · rintro ⟨⟨⟨hpin, hprimary, hio⟩, hsecond, hdesc⟩, hexit, hentry⟩
      exact ⟨hio, fun _ => hdesc, hpin, hprimary, fun _ => hsecond, hexit, hentry⟩
    · intro hs
      exact ⟨⟨⟨hs.pin, hs.primary, hs.io_bitmaps⟩, hs.secondary hsec, hs.desc hsec⟩, hs.vmexit,
        hs.vmentry⟩
  · simp only [if_neg (mt (offers_secondary_iff cpu h).mp hsec)]
    rw [writes_end h (hzero _ (by decide) (by decide)) (hzero _ (by decide) (by decide)), hstart]
    constructor
    · rintro ⟨⟨hpin, hprimary, hio⟩, hexit, hentry⟩
      exact ⟨hio, (absurd · hsec), hpin, hprimary, (absurd · hsec), hexit, hentry⟩
    · intro hs
      exact ⟨⟨hs.pin, hs.primary, hs.io_bitmaps⟩, hs.vmexit, hs.vmentry⟩

/-- A processor with EPT, by the primary controls that it has. -/
def with_primary (procbased_ctls : BitVec 64) : Processor where
  readmsr msr :=
    if msr = MSR_IA32_VMX_BASIC then 0x0018100000000001
    else if msr = MSR_IA32_VMX_PINBASED_CTLS then 0x0000007f00000016
    else if msr = MSR_IA32_VMX_PROCBASED_CTLS then procbased_ctls
    else if msr = MSR_IA32_VMX_PROCBASED_CTLS2 then 0x005fffff00000000
    else if msr = MSR_IA32_VMX_EXIT_CTLS then 0x007fffff00036dff
    else if msr = MSR_IA32_VMX_ENTRY_CTLS then 0x0000ffff000011ff
    else if msr = MSR_IA32_VMX_EPT_VPID_CAP then 0x00000f0106334141
    else 0
  cpuid_eax _ := 0

def with_io_bitmaps : Processor := with_primary 0xfff9fffe0401e172

def no_io_bitmaps : Processor := with_primary 0xfdf9fffe0401e172

/-- The parameters of the module as it is loaded. -/
def default_globals : Globals where
  pt_mode := PT_MODE_SYSTEM
  enable_ept := true
  enable_unrestricted_guest := false

/-- A new vCPU. -/
def new_vcpu : VcpuVmx where
  kvm := ⟨false, false, false, 0⟩
  vpid := 1
  switch_db_regs := 0
  xsaves_enabled := false
  loaded_vmcs := alloc_loaded_vmcs

theorem init_vmcs_supported_io_bitmaps : ∃ vmcs_config cap,
    setup_vmcs_config with_io_bitmaps = some (vmcs_config, cap) ∧
      WritesSupported with_io_bitmaps (init_vmcs vmcs_config default_globals
        { new_vcpu with loaded_vmcs := alloc_loaded_vmcs }).2.loaded_vmcs := by
  obtain ⟨⟨vmcs_config, cap⟩, hsetup⟩ : ∃ conf, setup_vmcs_config with_io_bitmaps = some conf :=
    Option.isSome_iff_exists.mp (by decide +kernel)
  refine ⟨vmcs_config, cap, hsetup, (init_vmcs_supported_iff _ _ _ hsetup).mpr ?_⟩
  exact
    { io_bitmaps := by decide
      desc := fun _ => by decide
      pin := by decide
      primary := by decide
      secondary := fun _ => by decide
      vmexit := by decide
      vmentry := by decide }

theorem no_io_bitmaps_setup : (setup_vmcs_config no_io_bitmaps).isSome := by
  decide +kernel

/-- The setup succeeds without I/O bitmaps, and `init_vmcs` asks for them. -/
theorem io_bitmaps_forced : ∃ vmcs_config cap,
    setup_vmcs_config no_io_bitmaps = some (vmcs_config, cap) ∧
      ∃ val, (CPU_BASED_VM_EXEC_CONTROL, val) ∈ (init_vmcs vmcs_config default_globals
          { new_vcpu with loaded_vmcs := alloc_loaded_vmcs }).2.loaded_vmcs.written ∧
        ¬ Inside val (no_io_bitmaps.high (capability CPU_BASED_VM_EXEC_CONTROL)) := by
  refine ⟨((setup_vmcs_config no_io_bitmaps).get no_io_bitmaps_setup).1,
    ((setup_vmcs_config no_io_bitmaps).get no_io_bitmaps_setup).2,
    (Option.some_get no_io_bitmaps_setup).symm, 0x9680e172, ?_, ?_⟩
  · decide +kernel
  · decide

end Svmx.VmcsControls
