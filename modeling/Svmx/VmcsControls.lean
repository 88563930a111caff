/-
The controls of the VMCS that the processor supports (`setup_vmcs_config`).

A capability MSR says of each control whether it may be 0 (low half) and whether it may be 1 (high
half). `adjust_vmx_controls` takes from the controls that are asked for those that may be 1 and adds
those that must be; `setup_vmcs_config` does this for the five words and then clears controls that
need others.

No word is checked against the high half again, so a control that must be 1 and may not be stays
(`adjust_vmx_controls_spec`).
-/
import Svmx.Blend

set_option autoImplicit false

namespace Svmx.VmcsControls

open Blend

/-! ## The bits -/

/-- `VMCS_CONTROL_BIT`, for a bit of the word of the feature. -/
def VMCS_CONTROL_BIT (bit : ℕ) : BitVec 32 := (1 : BitVec 32) <<< bit

def PIN_BASED_EXT_INTR_MASK := VMCS_CONTROL_BIT 0
def PIN_BASED_NMI_EXITING := VMCS_CONTROL_BIT 3
def PIN_BASED_VIRTUAL_NMIS := VMCS_CONTROL_BIT 5
def PIN_BASED_VMX_PREEMPTION_TIMER := VMCS_CONTROL_BIT 6
def PIN_BASED_POSTED_INTR := VMCS_CONTROL_BIT 7

def CPU_BASED_INTR_WINDOW_EXITING := VMCS_CONTROL_BIT 2
def CPU_BASED_USE_TSC_OFFSETTING := VMCS_CONTROL_BIT 3
def CPU_BASED_HLT_EXITING := VMCS_CONTROL_BIT 7
def CPU_BASED_INVLPG_EXITING := VMCS_CONTROL_BIT 9
def CPU_BASED_MWAIT_EXITING := VMCS_CONTROL_BIT 10
def CPU_BASED_RDPMC_EXITING := VMCS_CONTROL_BIT 11
def CPU_BASED_RDTSC_EXITING := VMCS_CONTROL_BIT 12
def CPU_BASED_CR3_LOAD_EXITING := VMCS_CONTROL_BIT 15
def CPU_BASED_CR3_STORE_EXITING := VMCS_CONTROL_BIT 16
def CPU_BASED_ACTIVATE_TERTIARY_CONTROLS := VMCS_CONTROL_BIT 17
def CPU_BASED_CR8_LOAD_EXITING := VMCS_CONTROL_BIT 19
def CPU_BASED_CR8_STORE_EXITING := VMCS_CONTROL_BIT 20
def CPU_BASED_TPR_SHADOW := VMCS_CONTROL_BIT 21
def CPU_BASED_NMI_WINDOW_EXITING := VMCS_CONTROL_BIT 22
def CPU_BASED_MOV_DR_EXITING := VMCS_CONTROL_BIT 23
def CPU_BASED_UNCOND_IO_EXITING := VMCS_CONTROL_BIT 24
def CPU_BASED_USE_IO_BITMAPS := VMCS_CONTROL_BIT 25
def CPU_BASED_MONITOR_TRAP_FLAG := VMCS_CONTROL_BIT 27
def CPU_BASED_USE_MSR_BITMAPS := VMCS_CONTROL_BIT 28
def CPU_BASED_MONITOR_EXITING := VMCS_CONTROL_BIT 29
def CPU_BASED_PAUSE_EXITING := VMCS_CONTROL_BIT 30
def CPU_BASED_ACTIVATE_SECONDARY_CONTROLS := VMCS_CONTROL_BIT 31

def SECONDARY_EXEC_VIRTUALIZE_APIC_ACCESSES := VMCS_CONTROL_BIT 0
def SECONDARY_EXEC_ENABLE_EPT := VMCS_CONTROL_BIT 1
def SECONDARY_EXEC_DESC := VMCS_CONTROL_BIT 2
def SECONDARY_EXEC_ENABLE_RDTSCP := VMCS_CONTROL_BIT 3
def SECONDARY_EXEC_VIRTUALIZE_X2APIC_MODE := VMCS_CONTROL_BIT 4
def SECONDARY_EXEC_ENABLE_VPID := VMCS_CONTROL_BIT 5
def SECONDARY_EXEC_WBINVD_EXITING := VMCS_CONTROL_BIT 6
def SECONDARY_EXEC_UNRESTRICTED_GUEST := VMCS_CONTROL_BIT 7
def SECONDARY_EXEC_APIC_REGISTER_VIRT := VMCS_CONTROL_BIT 8
def SECONDARY_EXEC_VIRTUAL_INTR_DELIVERY := VMCS_CONTROL_BIT 9
def SECONDARY_EXEC_PAUSE_LOOP_EXITING := VMCS_CONTROL_BIT 10
def SECONDARY_EXEC_RDRAND_EXITING := VMCS_CONTROL_BIT 11
def SECONDARY_EXEC_ENABLE_INVPCID := VMCS_CONTROL_BIT 12
def SECONDARY_EXEC_ENABLE_VMFUNC := VMCS_CONTROL_BIT 13
def SECONDARY_EXEC_SHADOW_VMCS := VMCS_CONTROL_BIT 14
def SECONDARY_EXEC_ENCLS_EXITING := VMCS_CONTROL_BIT 15
def SECONDARY_EXEC_RDSEED_EXITING := VMCS_CONTROL_BIT 16
def SECONDARY_EXEC_ENABLE_PML := VMCS_CONTROL_BIT 17
def SECONDARY_EXEC_PT_CONCEAL_VMX := VMCS_CONTROL_BIT 19
def SECONDARY_EXEC_XSAVES := VMCS_CONTROL_BIT 20
def SECONDARY_EXEC_PT_USE_GPA := VMCS_CONTROL_BIT 24
def SECONDARY_EXEC_TSC_SCALING := VMCS_CONTROL_BIT 25
def SECONDARY_EXEC_ENABLE_USR_WAIT_PAUSE := VMCS_CONTROL_BIT 26
def SECONDARY_EXEC_BUS_LOCK_DETECTION := VMCS_CONTROL_BIT 30
def SECONDARY_EXEC_NOTIFY_VM_EXITING := VMCS_CONTROL_BIT 31

def TERTIARY_EXEC_IPI_VIRT : BitVec 64 := 1 <<< 4

def VM_EXIT_SAVE_DEBUG_CONTROLS : BitVec 32 := 0x00000004
def VM_EXIT_HOST_ADDR_SPACE_SIZE : BitVec 32 := 0x00000200
def VM_EXIT_LOAD_IA32_PERF_GLOBAL_CTRL : BitVec 32 := 0x00001000
def VM_EXIT_ACK_INTR_ON_EXIT : BitVec 32 := 0x00008000
def VM_EXIT_SAVE_IA32_PAT : BitVec 32 := 0x00040000
def VM_EXIT_LOAD_IA32_PAT : BitVec 32 := 0x00080000
def VM_EXIT_SAVE_IA32_EFER : BitVec 32 := 0x00100000
def VM_EXIT_LOAD_IA32_EFER : BitVec 32 := 0x00200000
def VM_EXIT_SAVE_VMX_PREEMPTION_TIMER : BitVec 32 := 0x00400000
def VM_EXIT_CLEAR_BNDCFGS : BitVec 32 := 0x00800000
def VM_EXIT_PT_CONCEAL_PIP : BitVec 32 := 0x01000000
def VM_EXIT_CLEAR_IA32_RTIT_CTL : BitVec 32 := 0x02000000

def VM_ENTRY_LOAD_DEBUG_CONTROLS : BitVec 32 := 0x00000004
def VM_ENTRY_IA32E_MODE : BitVec 32 := 0x00000200
def VM_ENTRY_LOAD_IA32_PERF_GLOBAL_CTRL : BitVec 32 := 0x00002000
def VM_ENTRY_LOAD_IA32_PAT : BitVec 32 := 0x00004000
def VM_ENTRY_LOAD_IA32_EFER : BitVec 32 := 0x00008000
def VM_ENTRY_LOAD_BNDCFGS : BitVec 32 := 0x00010000
def VM_ENTRY_PT_CONCEAL_PIP : BitVec 32 := 0x00020000
def VM_ENTRY_LOAD_IA32_RTIT_CTL : BitVec 32 := 0x00040000

def KVM_REQUIRED_VMX_CPU_BASED_VM_EXEC_CONTROL : BitVec 32 :=
  CPU_BASED_HLT_EXITING ||| CPU_BASED_CR3_LOAD_EXITING ||| CPU_BASED_CR3_STORE_EXITING |||
    CPU_BASED_UNCOND_IO_EXITING ||| CPU_BASED_MOV_DR_EXITING ||| CPU_BASED_USE_TSC_OFFSETTING |||
    CPU_BASED_MWAIT_EXITING ||| CPU_BASED_MONITOR_EXITING ||| CPU_BASED_INVLPG_EXITING |||
    CPU_BASED_RDPMC_EXITING ||| CPU_BASED_INTR_WINDOW_EXITING ||| CPU_BASED_CR8_LOAD_EXITING |||
    CPU_BASED_CR8_STORE_EXITING

def KVM_OPTIONAL_VMX_CPU_BASED_VM_EXEC_CONTROL : BitVec 32 :=
  CPU_BASED_RDTSC_EXITING ||| CPU_BASED_TPR_SHADOW ||| CPU_BASED_USE_IO_BITMAPS |||
    CPU_BASED_MONITOR_TRAP_FLAG ||| CPU_BASED_USE_MSR_BITMAPS ||| CPU_BASED_NMI_WINDOW_EXITING |||
    CPU_BASED_PAUSE_EXITING ||| CPU_BASED_ACTIVATE_SECONDARY_CONTROLS |||
    CPU_BASED_ACTIVATE_TERTIARY_CONTROLS

def KVM_REQUIRED_VMX_SECONDARY_VM_EXEC_CONTROL : BitVec 32 := 0

def KVM_OPTIONAL_VMX_SECONDARY_VM_EXEC_CONTROL : BitVec 32 :=
  SECONDARY_EXEC_VIRTUALIZE_APIC_ACCESSES ||| SECONDARY_EXEC_VIRTUALIZE_X2APIC_MODE |||
    SECONDARY_EXEC_WBINVD_EXITING ||| SECONDARY_EXEC_ENABLE_VPID ||| SECONDARY_EXEC_ENABLE_EPT |||
    SECONDARY_EXEC_UNRESTRICTED_GUEST ||| SECONDARY_EXEC_PAUSE_LOOP_EXITING |||
    SECONDARY_EXEC_DESC ||| SECONDARY_EXEC_ENABLE_RDTSCP ||| SECONDARY_EXEC_ENABLE_INVPCID |||
    SECONDARY_EXEC_APIC_REGISTER_VIRT ||| SECONDARY_EXEC_VIRTUAL_INTR_DELIVERY |||
    SECONDARY_EXEC_SHADOW_VMCS ||| SECONDARY_EXEC_XSAVES ||| SECONDARY_EXEC_RDSEED_EXITING |||
    SECONDARY_EXEC_RDRAND_EXITING ||| SECONDARY_EXEC_ENABLE_PML ||| SECONDARY_EXEC_TSC_SCALING |||
    SECONDARY_EXEC_ENABLE_USR_WAIT_PAUSE ||| SECONDARY_EXEC_PT_USE_GPA |||
    SECONDARY_EXEC_PT_CONCEAL_VMX ||| SECONDARY_EXEC_ENABLE_VMFUNC |||
    SECONDARY_EXEC_BUS_LOCK_DETECTION ||| SECONDARY_EXEC_NOTIFY_VM_EXITING |||
    SECONDARY_EXEC_ENCLS_EXITING

def KVM_OPTIONAL_VMX_TERTIARY_VM_EXEC_CONTROL : BitVec 64 := TERTIARY_EXEC_IPI_VIRT

def KVM_REQUIRED_VMX_VM_EXIT_CONTROLS : BitVec 32 :=
  VM_EXIT_SAVE_DEBUG_CONTROLS ||| VM_EXIT_ACK_INTR_ON_EXIT ||| VM_EXIT_HOST_ADDR_SPACE_SIZE

def KVM_OPTIONAL_VMX_VM_EXIT_CONTROLS : BitVec 32 :=
  VM_EXIT_LOAD_IA32_PERF_GLOBAL_CTRL ||| VM_EXIT_SAVE_IA32_PAT ||| VM_EXIT_LOAD_IA32_PAT |||
    VM_EXIT_SAVE_IA32_EFER ||| VM_EXIT_SAVE_VMX_PREEMPTION_TIMER ||| VM_EXIT_LOAD_IA32_EFER |||
    VM_EXIT_CLEAR_BNDCFGS ||| VM_EXIT_PT_CONCEAL_PIP ||| VM_EXIT_CLEAR_IA32_RTIT_CTL

def KVM_REQUIRED_VMX_PIN_BASED_VM_EXEC_CONTROL : BitVec 32 :=
  PIN_BASED_EXT_INTR_MASK ||| PIN_BASED_NMI_EXITING

def KVM_OPTIONAL_VMX_PIN_BASED_VM_EXEC_CONTROL : BitVec 32 :=
  PIN_BASED_VIRTUAL_NMIS ||| PIN_BASED_POSTED_INTR ||| PIN_BASED_VMX_PREEMPTION_TIMER

def KVM_REQUIRED_VMX_VM_ENTRY_CONTROLS : BitVec 32 :=
  VM_ENTRY_LOAD_DEBUG_CONTROLS ||| VM_ENTRY_IA32E_MODE

def KVM_OPTIONAL_VMX_VM_ENTRY_CONTROLS : BitVec 32 :=
  VM_ENTRY_LOAD_IA32_PERF_GLOBAL_CTRL ||| VM_ENTRY_LOAD_IA32_PAT ||| VM_ENTRY_LOAD_IA32_EFER |||
    VM_ENTRY_LOAD_BNDCFGS ||| VM_ENTRY_PT_CONCEAL_PIP ||| VM_ENTRY_LOAD_IA32_RTIT_CTL

/-! ## The processor -/

def MSR_IA32_VMX_BASIC : BitVec 32 := 0x480
def MSR_IA32_VMX_PINBASED_CTLS : BitVec 32 := 0x481
def MSR_IA32_VMX_PROCBASED_CTLS : BitVec 32 := 0x482
def MSR_IA32_VMX_EXIT_CTLS : BitVec 32 := 0x483
def MSR_IA32_VMX_ENTRY_CTLS : BitVec 32 := 0x484
def MSR_IA32_VMX_MISC : BitVec 32 := 0x485
def MSR_IA32_VMX_PROCBASED_CTLS2 : BitVec 32 := 0x48b
def MSR_IA32_VMX_EPT_VPID_CAP : BitVec 32 := 0x48c
def MSR_IA32_VMX_PROCBASED_CTLS3 : BitVec 32 := 0x492

/-- What a processor answers to RDMSR, and to CPUID in EAX. -/
structure Processor where
  readmsr : BitVec 32 → BitVec 64
  cpuid_eax : BitVec 32 → BitVec 32

variable (cpu : Processor)

/-- The low half of an MSR: in a capability MSR, the controls that must be 1. -/
def Processor.low (msr : BitVec 32) : BitVec 32 := (cpu.readmsr msr).truncate 32

/-- The high half of an MSR: in a capability MSR, the controls that may be 1. -/
def Processor.high (msr : BitVec 32) : BitVec 32 := (cpu.readmsr msr >>> 32).truncate 32

/-- `adjust_vmx_controls`. -/
def adjust_vmx_controls (ctl_min ctl_opt msr : BitVec 32) : Option (BitVec 32) :=
  let ctl := ctl_min ||| ctl_opt
  let ctl := ctl &&& cpu.high msr
  let ctl := ctl ||| cpu.low msr
  if ctl_min &&& ~~~ctl ≠ 0 then none else some ctl

def adjust_vmx_controls64 (ctl_opt : BitVec 64) (msr : BitVec 32) : BitVec 64 :=
  ctl_opt &&& cpu.readmsr msr

def cpu_has_sgx : Bool := cpu.cpuid_eax 0 ≥ 0x12 ∧ cpu.cpuid_eax 0x12 &&& 1 ≠ 0

def vmx_preemption_cpu_tfms : List (BitVec 32) :=
  [0x000206E6, 0x00020652, 0x00020655, 0x000106E5, 0x000106A0, 0x000106A1, 0x000106A4, 0x000106A5,
    0x000306A8]

def cpu_has_broken_vmx_preemption_timer : Bool :=
  cpu.cpuid_eax 1 &&& ~~~((3 : BitVec 32) <<< 14 ||| (0xf : BitVec 32) <<< 28) ∈ vmx_preemption_cpu_tfms

/-- The word that `adjust_vmx_controls` makes. -/
def adjusted (ctl_min ctl_opt msr : BitVec 32) : BitVec 32 :=
  ((ctl_min ||| ctl_opt) &&& cpu.high msr) ||| cpu.low msr

theorem adjust_vmx_controls_spec {ctl_min ctl_opt msr ctl : BitVec 32}
    (h : adjust_vmx_controls cpu ctl_min ctl_opt msr = some ctl) :
    ctl = adjusted cpu ctl_min ctl_opt msr ∧ Inside ctl_min ctl := by
  simp only [adjust_vmx_controls] at h
  split at h
  · cases h
  · next hmin =>
    cases h
    exact ⟨rfl, and_not_eq_zero_iff.mp (not_not.mp hmin)⟩

/-- The MSR lets some of the controls `ctl` be 1, or demands it. -/
def Offers (msr ctl : BitVec 32) : Prop := (cpu.high msr ||| cpu.low msr) &&& ctl ≠ 0

instance (msr ctl : BitVec 32) : Decidable (Offers cpu msr ctl) :=
  inferInstanceAs (Decidable (_ ≠ _))

/-- A control that is asked for is taken if the MSR offers it. -/
theorem adjusted_and_ne_zero {ctl_min ctl_opt msr ctl : BitVec 32}
    (h : Inside ctl (ctl_min ||| ctl_opt)) :
    adjusted cpu ctl_min ctl_opt msr &&& ctl ≠ 0 ↔ Offers cpu msr ctl := by
  have hsame : adjusted cpu ctl_min ctl_opt msr &&& ctl
      = (cpu.high msr ||| cpu.low msr) &&& ctl := by
    rw [and_eq_and_iff]
    intro i hi
    rw [adjusted, BitVec.getLsbD_or, BitVec.getLsbD_and, h i hi, Bool.true_and, BitVec.getLsbD_or]
  rw [hsame, Offers]

/-! ## The configuration -/

/-- `struct vmcs_config`, without the part for nesting. -/
structure VmcsConfig where
  size : BitVec 32
  basic_cap : BitVec 32
  revision_id : BitVec 32
  pin_based_exec_ctrl : BitVec 32
  cpu_based_exec_ctrl : BitVec 32
  cpu_based_2nd_exec_ctrl : BitVec 32
  cpu_based_3rd_exec_ctrl : BitVec 64
  vmexit_ctrl : BitVec 32
  vmentry_ctrl : BitVec 32
  misc : BitVec 64
deriving DecidableEq

/-- `struct vmx_capability`. -/
structure VmxCapability where
  ept : BitVec 32
  vpid : BitVec 32
deriving DecidableEq

/-- `vmcs_entry_exit_pairs`: entry and exit controls that are set together or not at all. -/
def vmcs_entry_exit_pairs : List (BitVec 32 × BitVec 32) :=
  [(VM_ENTRY_LOAD_IA32_PERF_GLOBAL_CTRL, VM_EXIT_LOAD_IA32_PERF_GLOBAL_CTRL),
    (VM_ENTRY_LOAD_IA32_PAT, VM_EXIT_LOAD_IA32_PAT),
    (VM_ENTRY_LOAD_IA32_EFER, VM_EXIT_LOAD_IA32_EFER),
    (VM_ENTRY_LOAD_BNDCFGS, VM_EXIT_CLEAR_BNDCFGS),
    (VM_ENTRY_LOAD_IA32_RTIT_CTL, VM_EXIT_CLEAR_IA32_RTIT_CTL)]

/-- The loop body over `vmcs_entry_exit_pairs`, on the entry and the exit word. -/
def match_pair (ctrl pair : BitVec 32 × BitVec 32) : BitVec 32 × BitVec 32 :=
  if ctrl.1 &&& pair.1 = 0 ↔ ctrl.2 &&& pair.2 = 0 then ctrl
  else (ctrl.1 &&& ~~~pair.1, ctrl.2 &&& ~~~pair.2)

def PAGE_SIZE : BitVec 32 := 0x1000

/-- `setup_vmcs_config`, on Win64. -/
def setup_vmcs_config : Option (VmcsConfig × VmxCapability) := do
  let _cpu_based_exec_control ← adjust_vmx_controls cpu KVM_REQUIRED_VMX_CPU_BASED_VM_EXEC_CONTROL
    KVM_OPTIONAL_VMX_CPU_BASED_VM_EXEC_CONTROL MSR_IA32_VMX_PROCBASED_CTLS
  let _cpu_based_2nd_exec_control ←
    (if _cpu_based_exec_control &&& CPU_BASED_ACTIVATE_SECONDARY_CONTROLS ≠ 0 then
      adjust_vmx_controls cpu KVM_REQUIRED_VMX_SECONDARY_VM_EXEC_CONTROL
        KVM_OPTIONAL_VMX_SECONDARY_VM_EXEC_CONTROL MSR_IA32_VMX_PROCBASED_CTLS2
    else some 0)
  let _cpu_based_2nd_exec_control :=
    if _cpu_based_exec_control &&& CPU_BASED_TPR_SHADOW = 0 then
      _cpu_based_2nd_exec_control &&& ~~~(SECONDARY_EXEC_APIC_REGISTER_VIRT |||
        SECONDARY_EXEC_VIRTUALIZE_X2APIC_MODE ||| SECONDARY_EXEC_VIRTUAL_INTR_DELIVERY)
    else _cpu_based_2nd_exec_control
  let ept := cpu.low MSR_IA32_VMX_EPT_VPID_CAP
  let vpid := cpu.high MSR_IA32_VMX_EPT_VPID_CAP
  let ept := if _cpu_based_2nd_exec_control &&& SECONDARY_EXEC_ENABLE_EPT = 0 ∧ ept ≠ 0 then 0
    else ept
  let vpid := if _cpu_based_2nd_exec_control &&& SECONDARY_EXEC_ENABLE_VPID = 0 ∧ vpid ≠ 0 then 0
    else vpid
  let _cpu_based_2nd_exec_control :=
    if ¬ cpu_has_sgx cpu then _cpu_based_2nd_exec_control &&& ~~~SECONDARY_EXEC_ENCLS_EXITING
    else _cpu_based_2nd_exec_control
  let _cpu_based_3rd_exec_control :=
    if _cpu_based_exec_control &&& CPU_BASED_ACTIVATE_TERTIARY_CONTROLS ≠ 0 then
      adjust_vmx_controls64 cpu KVM_OPTIONAL_VMX_TERTIARY_VM_EXEC_CONTROL
        MSR_IA32_VMX_PROCBASED_CTLS3
    else 0
  let _vmexit_control ← adjust_vmx_controls cpu KVM_REQUIRED_VMX_VM_EXIT_CONTROLS
    KVM_OPTIONAL_VMX_VM_EXIT_CONTROLS MSR_IA32_VMX_EXIT_CTLS
  let _pin_based_exec_control ← adjust_vmx_controls cpu KVM_REQUIRED_VMX_PIN_BASED_VM_EXEC_CONTROL
    KVM_OPTIONAL_VMX_PIN_BASED_VM_EXEC_CONTROL MSR_IA32_VMX_PINBASED_CTLS
  let _pin_based_exec_control :=
    if cpu_has_broken_vmx_preemption_timer cpu then
      _pin_based_exec_control &&& ~~~PIN_BASED_VMX_PREEMPTION_TIMER
    else _pin_based_exec_control
  let _pin_based_exec_control :=
    if _cpu_based_2nd_exec_control &&& SECONDARY_EXEC_VIRTUAL_INTR_DELIVERY = 0 then
      _pin_based_exec_control &&& ~~~PIN_BASED_POSTED_INTR
    else _pin_based_exec_control
  let _vmentry_control ← adjust_vmx_controls cpu KVM_REQUIRED_VMX_VM_ENTRY_CONTROLS
    KVM_OPTIONAL_VMX_VM_ENTRY_CONTROLS MSR_IA32_VMX_ENTRY_CTLS
  let (_vmentry_control, _vmexit_control) :=
    vmcs_entry_exit_pairs.foldl match_pair (_vmentry_control, _vmexit_control)
  let vmx_msr_low := cpu.low MSR_IA32_VMX_BASIC
  let vmx_msr_high := cpu.high MSR_IA32_VMX_BASIC
  if (vmx_msr_high &&& 0x1fff) > PAGE_SIZE then none
  else if vmx_msr_high &&& ((1 : BitVec 32) <<< 16) ≠ 0 then none
  else if (vmx_msr_high >>> 18) &&& 15 ≠ 6 then none
  else
    let vmcs_conf : VmcsConfig :=
      { size := vmx_msr_high &&& 0x1fff
        basic_cap := vmx_msr_high &&& ~~~0x1fff
        revision_id := vmx_msr_low
        pin_based_exec_ctrl := _pin_based_exec_control
        cpu_based_exec_ctrl := _cpu_based_exec_control
        cpu_based_2nd_exec_ctrl := _cpu_based_2nd_exec_control
        cpu_based_3rd_exec_ctrl := _cpu_based_3rd_exec_control
        vmexit_ctrl := _vmexit_control
        vmentry_ctrl := _vmentry_control
        misc := cpu.readmsr MSR_IA32_VMX_MISC }
    some (vmcs_conf, { ept, vpid })

/-! ## Entry and exit controls in pairs -/

/-- One control of the pair is set and the other is not. -/
def Unmatched (ctrl pair : BitVec 32 × BitVec 32) : Prop :=
  ¬ (ctrl.1 &&& pair.1 = 0 ↔ ctrl.2 &&& pair.2 = 0)

instance (ctrl pair : BitVec 32 × BitVec 32) : Decidable (Unmatched ctrl pair) :=
  inferInstanceAs (Decidable (¬ _))

theorem match_pair_eq (ctrl pair : BitVec 32 × BitVec 32) : match_pair ctrl pair =
    (ctrl.1 &&& clearing (Unmatched ctrl pair) pair.1,
      ctrl.2 &&& clearing (Unmatched ctrl pair) pair.2) := by
  rw [← ite_clear, ← ite_clear]
  by_cases h : Unmatched ctrl pair
  · rw [if_pos h, if_pos h, match_pair, if_neg h]
  · rw [if_neg h, if_neg h, match_pair, if_pos (not_not.mp h)]

/-- The controls of two pairs are different bits. -/
def Apart (pair pair' : BitVec 32 × BitVec 32) : Prop :=
  pair.1 &&& pair'.1 = 0 ∧ pair.2 &&& pair'.2 = 0

instance (pair pair' : BitVec 32 × BitVec 32) : Decidable (Apart pair pair') :=
  inferInstanceAs (Decidable (_ ∧ _))

theorem unmatched_match_pair (ctrl : BitVec 32 × BitVec 32) {pair pair' : BitVec 32 × BitVec 32}
    (h : Apart pair pair') :
    Unmatched (match_pair ctrl pair) pair' ↔ Unmatched ctrl pair' := by
  have hentry : (match_pair ctrl pair).1 &&& pair'.1 = ctrl.1 &&& pair'.1 := by
    rw [match_pair_eq, and_clearing_of_disjoint _ h.1]
  have hexit : (match_pair ctrl pair).2 &&& pair'.2 = ctrl.2 &&& pair'.2 := by
    rw [match_pair_eq, and_clearing_of_disjoint _ h.2]
  rw [Unmatched, Unmatched, hentry, hexit]

/-- What the loop leaves of one of the two words; `word` takes its control from a pair. -/
def matched (ctrl : BitVec 32 × BitVec 32) (word : BitVec 32 × BitVec 32 → BitVec 32)
    (pairs : List (BitVec 32 × BitVec 32)) : BitVec 32 :=
  pairs.foldr (fun pair left => clearing (Unmatched ctrl pair) (word pair) &&& left)
    (BitVec.allOnes 32)

theorem matched_match_pair (ctrl pair : BitVec 32 × BitVec 32)
    (word : BitVec 32 × BitVec 32 → BitVec 32) (pairs : List (BitVec 32 × BitVec 32))
    (h : ∀ pair' ∈ pairs, Apart pair pair') :
    matched (match_pair ctrl pair) word pairs = matched ctrl word pairs := by
  induction pairs with
  | nil => rfl
  | cons pair' pairs ih =>
    have hrest := ih fun other hother => h other (List.mem_cons_of_mem _ hother)
    have hhead := unmatched_match_pair ctrl (h pair' List.mem_cons_self)
    simp only [matched, List.foldr_cons] at hrest ⊢
    rw [hrest]
    simp only [clearing, hhead]

/-- **The pairs.** Every pair is judged on the words before the loop. -/
theorem foldl_match_pair (pairs : List (BitVec 32 × BitVec 32)) (hapart : pairs.Pairwise Apart)
    (ctrl : BitVec 32 × BitVec 32) : pairs.foldl match_pair ctrl =
      (ctrl.1 &&& matched ctrl Prod.fst pairs, ctrl.2 &&& matched ctrl Prod.snd pairs) := by
  induction pairs generalizing ctrl with
  | nil => simp only [matched, List.foldl_nil, List.foldr_nil, BitVec.and_allOnes]
  | cons pair pairs ih =>
    obtain ⟨hpair, hrest⟩ := List.pairwise_cons.mp hapart
    rw [List.foldl_cons, ih hrest, matched_match_pair _ _ _ _ hpair, matched_match_pair _ _ _ _ hpair,
      match_pair_eq]
    simp only [matched, List.foldr_cons, BitVec.and_assoc]

/-! ## What the configuration holds -/

def primary_adjusted : BitVec 32 :=
  adjusted cpu KVM_REQUIRED_VMX_CPU_BASED_VM_EXEC_CONTROL KVM_OPTIONAL_VMX_CPU_BASED_VM_EXEC_CONTROL
    MSR_IA32_VMX_PROCBASED_CTLS

def secondary_adjusted : BitVec 32 :=
  adjusted cpu KVM_REQUIRED_VMX_SECONDARY_VM_EXEC_CONTROL
    KVM_OPTIONAL_VMX_SECONDARY_VM_EXEC_CONTROL MSR_IA32_VMX_PROCBASED_CTLS2

def vmexit_adjusted : BitVec 32 :=
  adjusted cpu KVM_REQUIRED_VMX_VM_EXIT_CONTROLS KVM_OPTIONAL_VMX_VM_EXIT_CONTROLS
    MSR_IA32_VMX_EXIT_CTLS

def pin_adjusted : BitVec 32 :=
  adjusted cpu KVM_REQUIRED_VMX_PIN_BASED_VM_EXEC_CONTROL KVM_OPTIONAL_VMX_PIN_BASED_VM_EXEC_CONTROL
    MSR_IA32_VMX_PINBASED_CTLS

def vmentry_adjusted : BitVec 32 :=
  adjusted cpu KVM_REQUIRED_VMX_VM_ENTRY_CONTROLS KVM_OPTIONAL_VMX_VM_ENTRY_CONTROLS
    MSR_IA32_VMX_ENTRY_CTLS

/-- The words of a configuration are the adjusted ones without the bits that were cleared. -/
structure Configured (cfg : VmcsConfig) : Prop where
  primary : cfg.cpu_based_exec_ctrl = primary_adjusted cpu
  primary_required : Inside KVM_REQUIRED_VMX_CPU_BASED_VM_EXEC_CONTROL (primary_adjusted cpu)
  secondary : primary_adjusted cpu &&& CPU_BASED_ACTIVATE_SECONDARY_CONTROLS ≠ 0 →
    cfg.cpu_based_2nd_exec_ctrl = secondary_adjusted cpu &&&
      clearing (primary_adjusted cpu &&& CPU_BASED_TPR_SHADOW = 0)
        (SECONDARY_EXEC_APIC_REGISTER_VIRT ||| SECONDARY_EXEC_VIRTUALIZE_X2APIC_MODE |||
          SECONDARY_EXEC_VIRTUAL_INTR_DELIVERY) &&&
      clearing (¬ cpu_has_sgx cpu) SECONDARY_EXEC_ENCLS_EXITING
  pin : cfg.pin_based_exec_ctrl = pin_adjusted cpu &&&
    clearing (cpu_has_broken_vmx_preemption_timer cpu) PIN_BASED_VMX_PREEMPTION_TIMER &&&
    clearing (cfg.cpu_based_2nd_exec_ctrl &&& SECONDARY_EXEC_VIRTUAL_INTR_DELIVERY = 0)
      PIN_BASED_POSTED_INTR
  ctrls : (cfg.vmentry_ctrl, cfg.vmexit_ctrl) =
    vmcs_entry_exit_pairs.foldl match_pair (vmentry_adjusted cpu, vmexit_adjusted cpu)
  vmentry_required : Inside KVM_REQUIRED_VMX_VM_ENTRY_CONTROLS (vmentry_adjusted cpu)

/-- A setup that succeeds adjusted every word, and only cleared bits after that. -/
theorem setup_vmcs_config_words {cfg : VmcsConfig} {cap : VmxCapability}
    (h : setup_vmcs_config cpu = some (cfg, cap)) : ∃ secondary,
      (if primary_adjusted cpu &&& CPU_BASED_ACTIVATE_SECONDARY_CONTROLS ≠ 0 then
        adjust_vmx_controls cpu KVM_REQUIRED_VMX_SECONDARY_VM_EXEC_CONTROL
          KVM_OPTIONAL_VMX_SECONDARY_VM_EXEC_CONTROL MSR_IA32_VMX_PROCBASED_CTLS2
        else some 0) = some secondary ∧
      Inside KVM_REQUIRED_VMX_CPU_BASED_VM_EXEC_CONTROL (primary_adjusted cpu) ∧
      Inside KVM_REQUIRED_VMX_VM_EXIT_CONTROLS (vmexit_adjusted cpu) ∧
      Inside KVM_REQUIRED_VMX_PIN_BASED_VM_EXEC_CONTROL (pin_adjusted cpu) ∧
      Inside KVM_REQUIRED_VMX_VM_ENTRY_CONTROLS (vmentry_adjusted cpu) ∧
      cfg.cpu_based_exec_ctrl = primary_adjusted cpu ∧
      cfg.cpu_based_2nd_exec_ctrl = secondary &&&
        clearing (primary_adjusted cpu &&& CPU_BASED_TPR_SHADOW = 0)
          (SECONDARY_EXEC_APIC_REGISTER_VIRT ||| SECONDARY_EXEC_VIRTUALIZE_X2APIC_MODE |||
            SECONDARY_EXEC_VIRTUAL_INTR_DELIVERY) &&&
        clearing (¬ cpu_has_sgx cpu) SECONDARY_EXEC_ENCLS_EXITING ∧
      cfg.pin_based_exec_ctrl = pin_adjusted cpu &&&
        clearing (cpu_has_broken_vmx_preemption_timer cpu) PIN_BASED_VMX_PREEMPTION_TIMER &&&
        clearing (cfg.cpu_based_2nd_exec_ctrl &&& SECONDARY_EXEC_VIRTUAL_INTR_DELIVERY = 0)
          PIN_BASED_POSTED_INTR ∧
      (cfg.vmentry_ctrl, cfg.vmexit_ctrl) =
        vmcs_entry_exit_pairs.foldl match_pair (vmentry_adjusted cpu, vmexit_adjusted cpu) := by
  simp only [setup_vmcs_config, Option.bind_eq_bind, Option.bind_eq_some_iff] at h
  obtain ⟨primary, hprimary, secondary, hsecondary, vmexit, hvmexit, pin, hpin, vmentry, hvmentry, h⟩ := h
  obtain ⟨rfl, hprimary_req⟩ := adjust_vmx_controls_spec cpu hprimary
  obtain ⟨rfl, hvmexit_req⟩ := adjust_vmx_controls_spec cpu hvmexit
  obtain ⟨rfl, hpin_req⟩ := adjust_vmx_controls_spec cpu hpin
  obtain ⟨rfl, hvmentry_req⟩ := adjust_vmx_controls_spec cpu hvmentry
  -- The three checks of the VMCS region refuse the processor and change no word.
  split at h
  · cases h
  split at h
  · cases h
  split at h
  · cases h
  simp only [Option.some.injEq, Prod.mk.injEq] at h
  obtain ⟨rfl, -⟩ := h
  refine ⟨secondary, hsecondary, hprimary_req, hvmexit_req, hpin_req, hvmentry_req, rfl, ?_, ?_, rfl⟩
  · simp only [ite_clear]
    rfl
  · simp only [ite_clear]
    rfl

theorem setup_vmcs_config_spec {cfg : VmcsConfig} {cap : VmxCapability}
    (h : setup_vmcs_config cpu = some (cfg, cap)) : Configured cpu cfg := by
  obtain ⟨secondary, hsecondary, hprimary_req, -, -, hvmentry_req, hprimary, hcleared, hpin, hctrls⟩ :=
    setup_vmcs_config_words cpu h
  exact
    { primary := hprimary
      primary_required := hprimary_req
      secondary := by
        intro hactivate
        rw [if_pos hactivate] at hsecondary
        obtain rfl : secondary = secondary_adjusted cpu :=
          (adjust_vmx_controls_spec cpu hsecondary).1
        exact hcleared
      pin := hpin
      ctrls := hctrls
      vmentry_required := hvmentry_req }

end Svmx.VmcsControls
