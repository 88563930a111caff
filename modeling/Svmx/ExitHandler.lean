/-
VM exits: `vmx_handle_exit`, its table of handlers, and the loop of `vcpu_run`.

A handler returns 1 where the guest may go on; otherwise it is to say in `kvm_run` why not. Most
handlers that return 0 say nothing, and the table has holes through which the dispatch jumps. `judge`
is what becomes of an exit, by its reason; `vcpu_run_judged` is that the loop goes by it, over every
sequence of exits.

The vCPU is runnable: `mp_state` is never written but with KVM_MP_STATE_RUNNABLE. `dump_vmcs`, which
only logs, the debug registers and what `handle_cr` does to CR0 are left out.
-/
import Mathlib.Data.BitVec
import Mathlib.Tactic.Common

set_option autoImplicit false

namespace Svmx.ExitHandler

/-! ## Exit reasons -/

abbrev EXIT_REASON_EXCEPTION_NMI : ℕ := 0
abbrev EXIT_REASON_EXTERNAL_INTERRUPT : ℕ := 1
abbrev EXIT_REASON_TRIPLE_FAULT : ℕ := 2
abbrev EXIT_REASON_INTERRUPT_WINDOW : ℕ := 7
abbrev EXIT_REASON_NMI_WINDOW : ℕ := 8
abbrev EXIT_REASON_TASK_SWITCH : ℕ := 9
abbrev EXIT_REASON_CPUID : ℕ := 10
abbrev EXIT_REASON_HLT : ℕ := 12
abbrev EXIT_REASON_INVD : ℕ := 13
abbrev EXIT_REASON_INVLPG : ℕ := 14
abbrev EXIT_REASON_RDPMC : ℕ := 15
abbrev EXIT_REASON_VMCALL : ℕ := 18
abbrev EXIT_REASON_VMCLEAR : ℕ := 19
abbrev EXIT_REASON_VMLAUNCH : ℕ := 20
abbrev EXIT_REASON_VMPTRLD : ℕ := 21
abbrev EXIT_REASON_VMPTRST : ℕ := 22
abbrev EXIT_REASON_VMREAD : ℕ := 23
abbrev EXIT_REASON_VMRESUME : ℕ := 24
abbrev EXIT_REASON_VMWRITE : ℕ := 25
abbrev EXIT_REASON_VMOFF : ℕ := 26
abbrev EXIT_REASON_VMON : ℕ := 27
abbrev EXIT_REASON_CR_ACCESS : ℕ := 28
abbrev EXIT_REASON_DR_ACCESS : ℕ := 29
abbrev EXIT_REASON_IO_INSTRUCTION : ℕ := 30
abbrev EXIT_REASON_MSR_READ : ℕ := 31
abbrev EXIT_REASON_MSR_WRITE : ℕ := 32
abbrev EXIT_REASON_MWAIT_INSTRUCTION : ℕ := 36
abbrev EXIT_REASON_MONITOR_TRAP_FLAG : ℕ := 37
abbrev EXIT_REASON_MONITOR_INSTRUCTION : ℕ := 39
abbrev EXIT_REASON_PAUSE_INSTRUCTION : ℕ := 40
abbrev EXIT_REASON_MCE_DURING_VMENTRY : ℕ := 41
abbrev EXIT_REASON_TPR_BELOW_THRESHOLD : ℕ := 43
abbrev EXIT_REASON_APIC_ACCESS : ℕ := 44
abbrev EXIT_REASON_EOI_INDUCED : ℕ := 45
abbrev EXIT_REASON_GDTR_IDTR : ℕ := 46
abbrev EXIT_REASON_LDTR_TR : ℕ := 47
abbrev EXIT_REASON_EPT_VIOLATION : ℕ := 48
abbrev EXIT_REASON_EPT_MISCONFIG : ℕ := 49
abbrev EXIT_REASON_INVEPT : ℕ := 50
abbrev EXIT_REASON_PREEMPTION_TIMER : ℕ := 52
abbrev EXIT_REASON_INVVPID : ℕ := 53
abbrev EXIT_REASON_WBINVD : ℕ := 54
abbrev EXIT_REASON_XSETBV : ℕ := 55
abbrev EXIT_REASON_APIC_WRITE : ℕ := 56
abbrev EXIT_REASON_RDRAND : ℕ := 57
abbrev EXIT_REASON_INVPCID : ℕ := 58
abbrev EXIT_REASON_VMFUNC : ℕ := 59
abbrev EXIT_REASON_ENCLS : ℕ := 60
abbrev EXIT_REASON_RDSEED : ℕ := 61
abbrev EXIT_REASON_PML_FULL : ℕ := 62
abbrev EXIT_REASON_BUS_LOCK : ℕ := 74
abbrev EXIT_REASON_NOTIFY : ℕ := 75

/-- `union vmx_exit_reason`: the basic reason is the low half, and three of the high bits are used. -/
abbrev ExitReason := BitVec 32

namespace ExitReason

def basic (r : ExitReason) : ℕ := (r.setWidth 16).toNat

def bus_lock_detected (r : ExitReason) : Bool := r.getLsbD 26

def enclave_mode (r : ExitReason) : Bool := r.getLsbD 27

def failed_vmentry (r : ExitReason) : Bool := r.getLsbD 31

end ExitReason

/-- EXIT_REASON_INVALID_STATE with `failed_vmentry`. -/
def INVALID_STATE : ExitReason := 33 ||| 0x80000000

def KVM_EXIT_SHUTDOWN : BitVec 32 := 8
def KVM_EXIT_FAIL_ENTRY : BitVec 32 := 9
def KVM_EXIT_INTERNAL_ERROR : BitVec 32 := 17
def KVM_EXIT_X86_BUS_LOCK : BitVec 32 := 33
def KVM_RUN_X86_BUS_LOCK : BitVec 16 := 2

def CPU_BASED_NMI_WINDOW_EXITING : BitVec 32 := 1 <<< 22

/-! ## The state -/

/-- `struct kvm_run`, as far as an exit writes it. -/
structure KvmRun where
  exit_reason : BitVec 32
  flags : BitVec 16
  hardware_entry_failure_reason : BitVec 64
  cpu : ℤ
deriving DecidableEq

/-- `struct kvm_vcpu`, as far as an exit reads or writes it. -/
structure Vcpu where
  exit_reason : ExitReason
  fail : Bool
  guest_mode : Bool
  exec_control : BitVec 32
  cpu : ℤ
  last_vmentry_cpu : ℤ
  exit_qualification : BitVec 64
  irq_exits : ℕ
  nmi_window_exits : ℕ
  exits : ℕ
  run : KvmRun
deriving DecidableEq

/-- One pass of `vcpu_enter_guest`: what `kvm_mmu_reload` returns, whether the guest has to be
emulated, whether the entry fails, the fields of the VMCS after the exit, and what
`kvm_mmu_page_fault` returns for an address and an error code. -/
structure Pass where
  reload : ℤ
  emulation_required : Bool
  fail : Bool
  reason : ExitReason
  instruction_error : BitVec 32
  exit_qualification : BitVec 64
  guest_physical_address : BitVec 64
  page_fault : BitVec 64 → BitVec 64 → ℤ

/-! ## The handlers -/

/-- The functions in `kvm_vmx_exit_handlers`. -/
inductive Handler where
  | handle_exception_nmi | handle_external_interrupt | handle_triple_fault | handle_nmi_window
  | handle_io | handle_cr | handle_dr | kvm_emulate_cpuid | kvm_emulate_rdmsr | kvm_emulate_wrmsr
  | handle_interrupt_window | kvm_emulate_halt | kvm_emulate_invd | handle_invlpg
  | kvm_emulate_rdpmc | kvm_emulate_hypercall | handle_vmx_instruction
  | handle_tpr_below_threshold | handle_apic_access | handle_apic_write | handle_apic_eoi_induced
  | kvm_emulate_wbinvd | kvm_emulate_xsetbv | handle_task_switch | handle_machine_check
  | handle_desc | handle_ept_violation | handle_ept_misconfig | handle_pause | kvm_emulate_mwait
  | handle_monitor_trap | kvm_emulate_monitor | kvm_handle_invalid_op | handle_pml_full
  | handle_invpcid | handle_preemption_timer | handle_encls | handle_bus_lock_vmexit
  | handle_notify
deriving DecidableEq

/-- `kvm_vmx_exit_handlers`, in the order of its initialiser. -/
def kvm_vmx_exit_handlers : List (ℕ × Handler) :=
  [(EXIT_REASON_EXCEPTION_NMI, .handle_exception_nmi),
    (EXIT_REASON_EXTERNAL_INTERRUPT, .handle_external_interrupt),
    (EXIT_REASON_TRIPLE_FAULT, .handle_triple_fault),
    (EXIT_REASON_NMI_WINDOW, .handle_nmi_window),
    (EXIT_REASON_IO_INSTRUCTION, .handle_io),
    (EXIT_REASON_CR_ACCESS, .handle_cr),
    (EXIT_REASON_DR_ACCESS, .handle_dr),
    (EXIT_REASON_CPUID, .kvm_emulate_cpuid),
    (EXIT_REASON_MSR_READ, .kvm_emulate_rdmsr),
    (EXIT_REASON_MSR_WRITE, .kvm_emulate_wrmsr),
    (EXIT_REASON_INTERRUPT_WINDOW, .handle_interrupt_window),
    (EXIT_REASON_HLT, .kvm_emulate_halt),
    (EXIT_REASON_INVD, .kvm_emulate_invd),
    (EXIT_REASON_INVLPG, .handle_invlpg),
    (EXIT_REASON_RDPMC, .kvm_emulate_rdpmc),
    (EXIT_REASON_VMCALL, .kvm_emulate_hypercall),
    (EXIT_REASON_VMCLEAR, .handle_vmx_instruction),
    (EXIT_REASON_VMLAUNCH, .handle_vmx_instruction),
    (EXIT_REASON_VMPTRLD, .handle_vmx_instruction),
    (EXIT_REASON_VMPTRST, .handle_vmx_instruction),
    (EXIT_REASON_VMREAD, .handle_vmx_instruction),
    (EXIT_REASON_VMRESUME, .handle_vmx_instruction),
    (EXIT_REASON_VMWRITE, .handle_vmx_instruction),
    (EXIT_REASON_VMOFF, .handle_vmx_instruction),
    (EXIT_REASON_VMON, .handle_vmx_instruction),
    (EXIT_REASON_TPR_BELOW_THRESHOLD, .handle_tpr_below_threshold),
    (EXIT_REASON_APIC_ACCESS, .handle_apic_access),
    (EXIT_REASON_APIC_WRITE, .handle_apic_write),
    (EXIT_REASON_EOI_INDUCED, .handle_apic_eoi_induced),
    (EXIT_REASON_WBINVD, .kvm_emulate_wbinvd),
    (EXIT_REASON_XSETBV, .kvm_emulate_xsetbv),
    (EXIT_REASON_TASK_SWITCH, .handle_task_switch),
    (EXIT_REASON_MCE_DURING_VMENTRY, .handle_machine_check),
    (EXIT_REASON_GDTR_IDTR, .handle_desc),
    (EXIT_REASON_LDTR_TR, .handle_desc),
    (EXIT_REASON_EPT_VIOLATION, .handle_ept_violation),
    (EXIT_REASON_EPT_MISCONFIG, .handle_ept_misconfig),
    (EXIT_REASON_PAUSE_INSTRUCTION, .handle_pause),
    (EXIT_REASON_MWAIT_INSTRUCTION, .kvm_emulate_mwait),
    (EXIT_REASON_MONITOR_TRAP_FLAG, .handle_monitor_trap),
    (EXIT_REASON_MONITOR_INSTRUCTION, .kvm_emulate_monitor),
    (EXIT_REASON_INVEPT, .handle_vmx_instruction),
    (EXIT_REASON_INVVPID, .handle_vmx_instruction),
    (EXIT_REASON_RDRAND, .kvm_handle_invalid_op),
    (EXIT_REASON_RDSEED, .kvm_handle_invalid_op),
    (EXIT_REASON_PML_FULL, .handle_pml_full),
    (EXIT_REASON_INVPCID, .handle_invpcid),
    (EXIT_REASON_VMFUNC, .handle_vmx_instruction),
    (EXIT_REASON_PREEMPTION_TIMER, .handle_preemption_timer),
    (EXIT_REASON_ENCLS, .handle_encls),
    (EXIT_REASON_BUS_LOCK, .handle_bus_lock_vmexit),
    (EXIT_REASON_NOTIFY, .handle_notify)]

/-- `kvm_vmx_max_exit_handlers`: the array ends at its highest index. -/
def kvm_vmx_max_exit_handlers : ℕ := 76

def PFERR_PRESENT_MASK : BitVec 64 := 1
def PFERR_WRITE_MASK : BitVec 64 := 1 <<< 1
def PFERR_USER_MASK : BitVec 64 := 1 <<< 2
def PFERR_RSVD_MASK : BitVec 64 := 1 <<< 3
def PFERR_FETCH_MASK : BitVec 64 := 1 <<< 4
def PFERR_GUEST_FINAL_MASK : BitVec 64 := 1 <<< 32
def PFERR_GUEST_PAGE_MASK : BitVec 64 := 1 <<< 33

def EPT_VIOLATION_ACC_READ : BitVec 64 := 1
def EPT_VIOLATION_ACC_WRITE : BitVec 64 := 1 <<< 1
def EPT_VIOLATION_ACC_INSTR : BitVec 64 := 1 <<< 2
def EPT_VIOLATION_RWX_MASK : BitVec 64 := 7 <<< 3
def EPT_VIOLATION_GVA_TRANSLATED : BitVec 64 := 1 <<< 8

/-- The error code that `handle_ept_violation` makes of an exit qualification. -/
def ept_error_code (exit_qualification : BitVec 64) : BitVec 64 :=
  (if exit_qualification &&& EPT_VIOLATION_ACC_READ ≠ 0 then PFERR_USER_MASK else 0) |||
    (if exit_qualification &&& EPT_VIOLATION_ACC_WRITE ≠ 0 then PFERR_WRITE_MASK else 0) |||
    (if exit_qualification &&& EPT_VIOLATION_ACC_INSTR ≠ 0 then PFERR_FETCH_MASK else 0) |||
    (if exit_qualification &&& EPT_VIOLATION_RWX_MASK ≠ 0 then PFERR_PRESENT_MASK else 0) |||
    (if exit_qualification &&& EPT_VIOLATION_GVA_TRANSLATED ≠ 0 then PFERR_GUEST_FINAL_MASK
      else PFERR_GUEST_PAGE_MASK)

/-- `handle_ept_violation`. -/
def handle_ept_violation (p : Pass) (v : Vcpu) : ℤ × Vcpu :=
  (p.page_fault p.guest_physical_address (ept_error_code p.exit_qualification),
    { v with exit_qualification := p.exit_qualification })

/-- `handle_ept_misconfig`; `kvm_skip_emulated_instruction` skips nothing and returns 1. -/
def handle_ept_misconfig (p : Pass) (v : Vcpu) : ℤ × Vcpu :=
  if v.exit_reason.enclave_mode then (1, v)
  else if !v.guest_mode then (1, v)
  else (p.page_fault p.guest_physical_address PFERR_RSVD_MASK, v)

def Handler.call (p : Pass) (v : Vcpu) : Handler → ℤ × Vcpu
  | .handle_external_interrupt => (1, { v with irq_exits := v.irq_exits + 1 })
  | .handle_triple_fault => (0, { v with run := { v.run with exit_reason := KVM_EXIT_SHUTDOWN } })
  | .handle_nmi_window => (1, { v with
      exec_control := v.exec_control &&& ~~~CPU_BASED_NMI_WINDOW_EXITING
      nmi_window_exits := v.nmi_window_exits + 1 })
  | .handle_ept_violation => Svmx.ExitHandler.handle_ept_violation p v
  | .handle_ept_misconfig => Svmx.ExitHandler.handle_ept_misconfig p v
  | .handle_bus_lock_vmexit => (1, { v with exit_reason := v.exit_reason ||| (1 <<< 26) })
  | .handle_interrupt_window | .handle_vmx_instruction | .handle_tpr_below_threshold
  | .handle_machine_check | .handle_monitor_trap | .handle_pml_full | .handle_invpcid
  | .handle_encls | .handle_notify => (1, v)
  | _ => (0, v)

/-! ## The dispatch -/

/-- `dump_vmcs` and the report of a failed entry. -/
def fail_entry (reason : BitVec 64) (v : Vcpu) : Vcpu :=
  { v with run := { v.run with
      exit_reason := KVM_EXIT_FAIL_ENTRY
      hardware_entry_failure_reason := reason
      cpu := v.last_vmentry_cpu } }

/-- `unexpected_vmexit`. -/
def unexpected_vmexit (v : Vcpu) : ℤ × Vcpu :=
  (0, { v with run := { v.run with exit_reason := KVM_EXIT_INTERNAL_ERROR } })

/-- `__vmx_handle_exit`; the fastpath of an exit is always EXIT_FASTPATH_NONE. `none` is a call through
an entry of the table that is NULL. -/
def __vmx_handle_exit (p : Pass) (v : Vcpu) : Option (ℤ × Vcpu) :=
  if v.guest_mode && v.exit_reason.basic == EXIT_REASON_PML_FULL then some (unexpected_vmexit v)
  else if v.exit_reason.failed_vmentry then
    some (0, fail_entry (v.exit_reason.setWidth 64) v)
  else if v.fail then some (0, fail_entry (p.instruction_error.setWidth 64) v)
  else if kvm_vmx_max_exit_handlers ≤ v.exit_reason.basic then some (unexpected_vmexit v)
  else (kvm_vmx_exit_handlers.lookup v.exit_reason.basic).map (Handler.call p v)

/-- The part of `vmx_handle_exit` after the handler. -/
def after_handler (x : ℤ × Vcpu) : ℤ × Vcpu :=
  if x.2.exit_reason.bus_lock_detected then
    (0, { x.2 with run := { x.2.run with
      exit_reason := if 0 < x.1 then KVM_EXIT_X86_BUS_LOCK else x.2.run.exit_reason
      flags := x.2.run.flags ||| KVM_RUN_X86_BUS_LOCK } })
  else x

/-- `vmx_handle_exit`. -/
def vmx_handle_exit (p : Pass) (v : Vcpu) : Option (ℤ × Vcpu) :=
  (__vmx_handle_exit p v).map after_handler

/-- `vmx_vcpu_run`, as far as it reports how the entry ended. -/
def vmx_vcpu_run (p : Pass) (v : Vcpu) : Vcpu :=
  if p.emulation_required then { v with fail := false, exit_reason := INVALID_STATE }
  else { v with fail := p.fail, exit_reason := if p.fail then 0xdead else p.reason }

/-- `vcpu_enter_guest`. -/
def vcpu_enter_guest (p : Pass) (v : Vcpu) : Option (ℤ × Vcpu) :=
  if p.reload ≠ 0 then some (p.reload, v)
  else
    let v := vmx_vcpu_run p v
    vmx_handle_exit p { v with last_vmentry_cpu := v.cpu, exits := v.exits + 1 }

/-- How far the loop has come when the passes are used up: it has returned, it has jumped through
NULL, or it goes on. -/
inductive Progress where
  | returned (r : ℤ) (v : Vcpu)
  | null_call
  | running (v : Vcpu)

/-- The loop of `vcpu_run`. -/
def vcpu_run : List Pass → Vcpu → Progress
  | [], v => .running v
  | p :: ps, v =>
    match vcpu_enter_guest p v with
    | none => .null_call
    | some (r, v) => if r ≤ 0 then .returned r v else vcpu_run ps v

/-! ## What becomes of an exit -/

/-- The reasons after which the guest goes on, whatever it did. -/
def resumed : List ℕ :=
  [EXIT_REASON_EXTERNAL_INTERRUPT, EXIT_REASON_INTERRUPT_WINDOW, EXIT_REASON_NMI_WINDOW,
    EXIT_REASON_VMCLEAR, EXIT_REASON_VMLAUNCH, EXIT_REASON_VMPTRLD, EXIT_REASON_VMPTRST,
    EXIT_REASON_VMREAD, EXIT_REASON_VMRESUME, EXIT_REASON_VMWRITE, EXIT_REASON_VMOFF,
    EXIT_REASON_VMON, EXIT_REASON_MONITOR_TRAP_FLAG, EXIT_REASON_MCE_DURING_VMENTRY,
    EXIT_REASON_TPR_BELOW_THRESHOLD, EXIT_REASON_INVEPT, EXIT_REASON_INVVPID, EXIT_REASON_INVPCID,
    EXIT_REASON_VMFUNC, EXIT_REASON_ENCLS, EXIT_REASON_PML_FULL, EXIT_REASON_NOTIFY]

/-- The reasons that end the loop without a word to user space. -/
def silent : List ℕ :=
  [EXIT_REASON_EXCEPTION_NMI, EXIT_REASON_TASK_SWITCH, EXIT_REASON_CPUID, EXIT_REASON_HLT,
    EXIT_REASON_INVD, EXIT_REASON_INVLPG, EXIT_REASON_RDPMC, EXIT_REASON_VMCALL,
    EXIT_REASON_CR_ACCESS, EXIT_REASON_DR_ACCESS, EXIT_REASON_IO_INSTRUCTION, EXIT_REASON_MSR_READ,
    EXIT_REASON_MSR_WRITE, EXIT_REASON_MWAIT_INSTRUCTION, EXIT_REASON_MONITOR_INSTRUCTION,
    EXIT_REASON_PAUSE_INSTRUCTION, EXIT_REASON_APIC_ACCESS, EXIT_REASON_EOI_INDUCED,
    EXIT_REASON_GDTR_IDTR, EXIT_REASON_LDTR_TR, EXIT_REASON_PREEMPTION_TIMER, EXIT_REASON_WBINVD,
    EXIT_REASON_XSETBV, EXIT_REASON_APIC_WRITE, EXIT_REASON_RDRAND, EXIT_REASON_RDSEED]

/-- The guest goes on, or the loop returns `r` and tells user space `told` or nothing, or the dispatch
jumps through NULL. -/
inductive Verdict where
  | resume
  | stop (r : ℤ) (told : Option (BitVec 32))
  | null_call

/-- A handler that returned `r` and told nothing, with the bus-lock bit of the exit. -/
def judge_return (bus_lock : Bool) (r : ℤ) : Verdict :=
  if bus_lock then .stop 0 (if 0 < r then some KVM_EXIT_X86_BUS_LOCK else none)
  else if 0 < r then .resume
  else .stop r none

/-- What becomes of an exit that is not a failed entry, by its reason. -/
def judge_reason (guest_mode : Bool) (p : Pass) : Verdict :=
  if p.reason.basic ∈ resumed then judge_return p.reason.bus_lock_detected 1
  else if p.reason.basic ∈ silent then judge_return p.reason.bus_lock_detected 0
  else if p.reason.basic = EXIT_REASON_TRIPLE_FAULT then .stop 0 (some KVM_EXIT_SHUTDOWN)
  else if p.reason.basic = EXIT_REASON_BUS_LOCK then .stop 0 (some KVM_EXIT_X86_BUS_LOCK)
  else if p.reason.basic = EXIT_REASON_EPT_VIOLATION then
    judge_return p.reason.bus_lock_detected
      (p.page_fault p.guest_physical_address (ept_error_code p.exit_qualification))
  else if p.reason.basic = EXIT_REASON_EPT_MISCONFIG then
    judge_return p.reason.bus_lock_detected
      (if p.reason.enclave_mode ∨ guest_mode = false then 1
        else p.page_fault p.guest_physical_address PFERR_RSVD_MASK)
  else if p.reason.basic < kvm_vmx_max_exit_handlers then .null_call
  else .stop 0 (some KVM_EXIT_INTERNAL_ERROR)

/-- What becomes of a pass. -/
def judge (guest_mode : Bool) (p : Pass) : Verdict :=
  if p.reload ≠ 0 then judge_return false p.reload
  else if p.emulation_required ∨ p.fail then .stop 0 (some KVM_EXIT_FAIL_ENTRY)
  else if guest_mode ∧ p.reason.basic = EXIT_REASON_PML_FULL then
    .stop 0 (some KVM_EXIT_INTERNAL_ERROR)
  else if p.reason.failed_vmentry then .stop 0 (some KVM_EXIT_FAIL_ENTRY)
  else judge_reason guest_mode p

/-! ## The table -/

/-- A handler that returns `r` and writes nothing that decides on the exit. -/
def Handler.Returns (h : Handler) (r : ℤ) : Prop :=
  ∀ p v, (h.call p v).1 = r ∧ (h.call p v).2.run = v.run ∧
    (h.call p v).2.exit_reason = v.exit_reason ∧ (h.call p v).2.guest_mode = v.guest_mode

/-- The handlers that return 1 at once. -/
def Handler.goesOn : Handler → Bool
  | .handle_external_interrupt | .handle_nmi_window | .handle_interrupt_window
  | .handle_vmx_instruction | .handle_tpr_below_threshold | .handle_machine_check
  | .handle_monitor_trap | .handle_pml_full | .handle_invpcid | .handle_encls | .handle_notify =>
    true
  | _ => false

/-- The handlers whose result depends on the exit, or that say something. -/
def Handler.special : Handler → Bool
  | .handle_triple_fault | .handle_ept_violation | .handle_ept_misconfig | .handle_bus_lock_vmexit =>
    true
  | _ => false

theorem Handler.returns_one {h : Handler} (hh : h.goesOn = true) : h.Returns 1 := by
  intro p v
  cases h with
  | handle_external_interrupt | handle_nmi_window | handle_interrupt_window
  | handle_vmx_instruction | handle_tpr_below_threshold | handle_machine_check
  | handle_monitor_trap | handle_pml_full | handle_invpcid | handle_encls | handle_notify =>
    exact ⟨rfl, rfl, rfl, rfl⟩
  | _ => cases hh

theorem Handler.returns_zero {h : Handler} (hh : h.goesOn = false) (hs : h.special = false) :
    h.Returns 0 := by
  intro p v
  cases h with
  | handle_external_interrupt | handle_nmi_window | handle_interrupt_window
  | handle_vmx_instruction | handle_tpr_below_threshold | handle_machine_check
  | handle_monitor_trap | handle_pml_full | handle_invpcid | handle_encls | handle_notify =>
    cases hh
  | handle_triple_fault | handle_ept_violation | handle_ept_misconfig | handle_bus_lock_vmexit =>
    cases hs
  | _ => exact ⟨rfl, rfl, rfl, rfl⟩

/-- The array ends where its highest index does. -/
theorem max_exit_handlers : (∀ x ∈ kvm_vmx_exit_handlers, x.1 < kvm_vmx_max_exit_handlers) ∧
    ∃ x ∈ kvm_vmx_exit_handlers, x.1 + 1 = kvm_vmx_max_exit_handlers := by
  decide

theorem table_resumed : ∀ i ∈ resumed, i < kvm_vmx_max_exit_handlers ∧
    (kvm_vmx_exit_handlers.lookup i).any Handler.goesOn = true := by
  decide

theorem table_silent : ∀ i ∈ silent, i < kvm_vmx_max_exit_handlers ∧
    (kvm_vmx_exit_handlers.lookup i).any (fun h => !h.goesOn && !h.special) = true := by
  decide

/-- The reasons whose handler looks at the exit or says something. -/
def special : List ℕ :=
  [EXIT_REASON_TRIPLE_FAULT, EXIT_REASON_BUS_LOCK, EXIT_REASON_EPT_VIOLATION,
    EXIT_REASON_EPT_MISCONFIG]

/-- The other entries are NULL. -/
theorem table_holes : ∀ i < kvm_vmx_max_exit_handlers, i ∉ resumed ++ silent ++ special →
    kvm_vmx_exit_handlers.lookup i = none := by
  decide

/-! ## One pass -/

/-- A pass ends as the verdict says, with nothing written to `kvm_run` where the guest goes on. -/
def Judged (v : Vcpu) : Verdict → Option (ℤ × Vcpu) → Prop
  | .resume, x => ∃ r v', x = some (r, v') ∧ 0 < r ∧ v'.run = v.run ∧ v'.guest_mode = v.guest_mode
  | .stop r told, x => ∃ v', x = some (r, v') ∧ r ≤ 0 ∧
      v'.run.exit_reason = told.getD v.run.exit_reason
  | .null_call, x => x = none

variable {p : Pass} {v v' : Vcpu} {r : ℤ}

/-- After a handler that said nothing. -/
theorem judged_return (v v' : Vcpu) (r : ℤ) (hrun : v'.run = v.run)
    (hmode : v'.guest_mode = v.guest_mode) :
    Judged v (judge_return v'.exit_reason.bus_lock_detected r) (some (after_handler (r, v'))) := by
  unfold judge_return after_handler
  cases v'.exit_reason.bus_lock_detected with
  | true =>
    simp only [if_true]
    refine ⟨_, rfl, le_refl 0, ?_⟩
    by_cases hr : 0 < r
    · simp [hr]
    · simp [hr, hrun]
  | false =>
    simp only [Bool.false_eq_true, if_false]
    by_cases hr : 0 < r
    · rw [if_pos hr]
      exact ⟨r, v', rfl, hr, hrun, hmode⟩
    · rw [if_neg hr]
      exact ⟨v', rfl, by omega, by rw [hrun]; rfl⟩

/-- After a failed entry or an unexpected exit. -/
theorem judged_stop {told : BitVec 32} (htold : v'.run.exit_reason = told) :
    Judged v (.stop 0 (some told)) (some (after_handler (0, v'))) := by
  unfold after_handler
  by_cases hb : v'.exit_reason.bus_lock_detected = true
  · rw [if_pos hb]
    exact ⟨_, rfl, le_refl 0, htold⟩
  · rw [if_neg hb]
    exact ⟨v', rfl, le_refl 0, htold⟩

/-- After the handler of a bus lock, which sets the bit that `vmx_handle_exit` tests. -/
theorem judged_bus_lock :
    Judged v (.stop 0 (some KVM_EXIT_X86_BUS_LOCK))
      (some (after_handler (Handler.call p v' .handle_bus_lock_vmexit))) := by
  have hb : (v'.exit_reason ||| (1 <<< 26 : BitVec 32)).getLsbD 26 = true := by
    simp
  refine ⟨_, congrArg some (if_pos hb), le_refl 0, ?_⟩
  rfl

/-- What `vmx_handle_exit` does with an exit whose reason has an entry in the table. -/
def dispatch (p : Pass) (v : Vcpu) : Option (ℤ × Vcpu) :=
  ((kvm_vmx_exit_handlers.lookup v.exit_reason.basic).map (Handler.call p v)).map after_handler

theorem dispatch_eq {h : Handler}
    (hh : kvm_vmx_exit_handlers.lookup v.exit_reason.basic = some h) :
    dispatch p v = some (after_handler (h.call p v)) := by
  rw [dispatch, hh]
  rfl

theorem dispatch_returns {h : Handler} (hreason : v.exit_reason = p.reason) (hret : h.Returns r)
    (hh : kvm_vmx_exit_handlers.lookup v.exit_reason.basic = some h) :
    Judged v (judge_return p.reason.bus_lock_detected r) (dispatch p v) := by
  obtain ⟨h1, hrun, hexit, hmode⟩ := hret p v
  have hpair : h.call p v = (r, (h.call p v).2) := Prod.ext h1 rfl
  rw [dispatch_eq hh, hpair, ← hreason, ← hexit]
  exact judged_return _ _ _ hrun hmode

theorem dispatch_ept_violation (hreason : v.exit_reason = p.reason)
    (hi : p.reason.basic = EXIT_REASON_EPT_VIOLATION) :
    Judged v (judge_return p.reason.bus_lock_detected
      (p.page_fault p.guest_physical_address (ept_error_code p.exit_qualification)))
      (dispatch p v) := by
  have hh : kvm_vmx_exit_handlers.lookup v.exit_reason.basic = some .handle_ept_violation := by
    rw [hreason, hi]
    decide
  have h := judged_return v { v with exit_qualification := p.exit_qualification }
    (p.page_fault p.guest_physical_address (ept_error_code p.exit_qualification)) rfl rfl
  rw [dispatch_eq hh, ← hreason]
  exact h

theorem dispatch_ept_misconfig (hreason : v.exit_reason = p.reason)
    (hi : p.reason.basic = EXIT_REASON_EPT_MISCONFIG) :
    Judged v (judge_return p.reason.bus_lock_detected
      (if p.reason.enclave_mode ∨ v.guest_mode = false then 1
        else p.page_fault p.guest_physical_address PFERR_RSVD_MASK)) (dispatch p v) := by
  have hh : kvm_vmx_exit_handlers.lookup v.exit_reason.basic = some .handle_ept_misconfig := by
    rw [hreason, hi]
    decide
  have hcall : Handler.call p v .handle_ept_misconfig =
      (if p.reason.enclave_mode ∨ v.guest_mode = false then 1
        else p.page_fault p.guest_physical_address PFERR_RSVD_MASK, v) := by
    rw [← hreason]
    show handle_ept_misconfig p v = _
    unfold handle_ept_misconfig
    -- inside an enclave; outside of it, by the mode of the guest
    cases v.exit_reason.enclave_mode with
    | true => simp
    | false => cases v.guest_mode <;> simp
  rw [dispatch_eq hh, hcall, ← hreason]
  exact judged_return _ _ _ rfl rfl

/-- **The dispatch** of an exit that is no failed entry, by its reason. -/
theorem judged_reason (hreason : v.exit_reason = p.reason)
    (hlt : p.reason.basic < kvm_vmx_max_exit_handlers) :
    Judged v (judge_reason v.guest_mode p) (dispatch p v) := by
  unfold judge_reason
  by_cases h1 : p.reason.basic ∈ resumed
  · rw [if_pos h1]
    obtain ⟨h, hh, hgoes⟩ := (Option.any_eq_true _ _).mp (table_resumed _ h1).2
    exact dispatch_returns hreason (Handler.returns_one hgoes) (hreason ▸ hh)
  rw [if_neg h1]
  by_cases h2 : p.reason.basic ∈ silent
  · rw [if_pos h2]
    obtain ⟨h, hh, hnot⟩ := (Option.any_eq_true _ _).mp (table_silent _ h2).2
    rw [Bool.and_eq_true, Bool.not_eq_true', Bool.not_eq_true'] at hnot
    exact dispatch_returns hreason (Handler.returns_zero hnot.1 hnot.2) (hreason ▸ hh)
  rw [if_neg h2]
  by_cases h3 : p.reason.basic = EXIT_REASON_TRIPLE_FAULT
  · rw [if_pos h3]
    have hh : kvm_vmx_exit_handlers.lookup v.exit_reason.basic = some .handle_triple_fault := by
      rw [hreason, h3]
      decide
    rw [dispatch_eq hh]
    exact judged_stop rfl
  rw [if_neg h3]
  by_cases h4 : p.reason.basic = EXIT_REASON_BUS_LOCK
  · rw [if_pos h4]
    have hh : kvm_vmx_exit_handlers.lookup v.exit_reason.basic = some .handle_bus_lock_vmexit := by
      rw [hreason, h4]
      decide
    rw [dispatch_eq hh]
    exact judged_bus_lock
  rw [if_neg h4]
  by_cases h5 : p.reason.basic = EXIT_REASON_EPT_VIOLATION
  · rw [if_pos h5]
    exact dispatch_ept_violation hreason h5
  rw [if_neg h5]
  by_cases h6 : p.reason.basic = EXIT_REASON_EPT_MISCONFIG
  · rw [if_pos h6]
    exact dispatch_ept_misconfig hreason h6
  -- no other index of the array is set
  rw [if_neg h6, if_pos hlt]
  show dispatch p v = none
  have hnone : kvm_vmx_exit_handlers.lookup v.exit_reason.basic = none := by
    rw [hreason]
    apply table_holes _ hlt
    simp only [special, List.mem_append, List.mem_cons, List.not_mem_nil, or_false]
    tauto
  rw [dispatch, hnone]
  rfl

/-- A reason past the end of the array is judged by none of the lists. -/
theorem judge_reason_past {guest_mode : Bool} (hle : kvm_vmx_max_exit_handlers ≤ p.reason.basic) :
    judge_reason guest_mode p = .stop 0 (some KVM_EXIT_INTERNAL_ERROR) := by
  have h1 : p.reason.basic ∉ resumed := fun h => absurd (table_resumed _ h).1 (by omega)
  have h2 : p.reason.basic ∉ silent := fun h => absurd (table_silent _ h).1 (by omega)
  have hne : ∀ i < kvm_vmx_max_exit_handlers, p.reason.basic ≠ i := by
    intro i hi
    omega
  unfold judge_reason
  rw [if_neg h1, if_neg h2, if_neg (hne _ (by decide)), if_neg (hne _ (by decide)),
    if_neg (hne _ (by decide)), if_neg (hne _ (by decide)), if_neg (by omega)]

/-- **One exit**: `vmx_handle_exit` on an exit of the guest. -/
theorem vmx_handle_exit_judged (p : Pass) (v : Vcpu) (hreason : v.exit_reason = p.reason)
    (hfail : v.fail = false) :
    Judged v
      (if v.guest_mode ∧ p.reason.basic = EXIT_REASON_PML_FULL then
          .stop 0 (some KVM_EXIT_INTERNAL_ERROR)
        else if p.reason.failed_vmentry then .stop 0 (some KVM_EXIT_FAIL_ENTRY)
        else judge_reason v.guest_mode p)
      (vmx_handle_exit p v) := by
  unfold vmx_handle_exit __vmx_handle_exit
  rw [hreason]
  have hpml : (v.guest_mode && p.reason.basic == EXIT_REASON_PML_FULL) = true ↔
      v.guest_mode = true ∧ p.reason.basic = EXIT_REASON_PML_FULL := by
    rw [Bool.and_eq_true, beq_iff_eq]
  by_cases h1 : v.guest_mode = true ∧ p.reason.basic = EXIT_REASON_PML_FULL
  · rw [if_pos h1, if_pos (hpml.mpr h1)]
    exact judged_stop rfl
  rw [if_neg h1, if_neg (mt hpml.mp h1)]
  by_cases h2 : p.reason.failed_vmentry = true
  · rw [if_pos h2, if_pos h2]
    exact judged_stop rfl
  rw [if_neg h2, if_neg h2, hfail, if_neg Bool.false_ne_true]
  by_cases h3 : kvm_vmx_max_exit_handlers ≤ p.reason.basic
  · rw [if_pos h3, judge_reason_past h3]
    exact judged_stop rfl
  · have h := judged_reason hreason (Nat.lt_of_not_le h3)
    rw [dispatch, hreason] at h
    rw [if_neg h3]
    exact h

/-- A failed entry, whatever the reason it leaves. -/
theorem vmx_handle_exit_fail (hml : v.exit_reason.basic ≠ EXIT_REASON_PML_FULL)
    (hfail : v.exit_reason.failed_vmentry = true ∨ v.fail = true) :
    Judged v (.stop 0 (some KVM_EXIT_FAIL_ENTRY)) (vmx_handle_exit p v) := by
  unfold vmx_handle_exit __vmx_handle_exit
  rw [if_neg (by simp [hml])]
  by_cases h2 : v.exit_reason.failed_vmentry = true
  · rw [if_pos h2]
    exact judged_stop rfl
  · rw [if_neg h2, if_pos (hfail.resolve_left h2)]
    exact judged_stop rfl

/-- What a pass leaves of a verdict does not depend on what was written before the dispatch. -/
theorem Judged.of_run {w : Vcpu} {d : Verdict} {x : Option (ℤ × Vcpu)} (hrun : w.run = v.run)
    (hmode : w.guest_mode = v.guest_mode) (h : Judged w d x) : Judged v d x := by
  cases d with
  | resume =>
    obtain ⟨r, v', hx, hr, hrun', hmode'⟩ := h
    exact ⟨r, v', hx, hr, hrun'.trans hrun, hmode'.trans hmode⟩
  | stop r told =>
    obtain ⟨v', hx, hr, htold⟩ := h
    exact ⟨v', hx, hr, by rw [htold, hrun]⟩
  | null_call => exact h

/-- **One pass**. -/
theorem vcpu_enter_guest_judged (p : Pass) (v : Vcpu) :
    Judged v (judge v.guest_mode p) (vcpu_enter_guest p v) := by
  unfold judge vcpu_enter_guest
  by_cases h1 : p.reload ≠ 0
  · rw [if_pos h1, if_pos h1]
    unfold judge_return
    rw [if_neg (by decide)]
    by_cases hr : 0 < p.reload
    · rw [if_pos hr]
      exact ⟨_, v, rfl, hr, rfl, rfl⟩
    · rw [if_neg hr]
      exact ⟨v, rfl, by omega, rfl⟩
  rw [if_neg h1, if_neg h1]
  by_cases h2 : p.emulation_required = true
  · rw [if_pos (Or.inl h2), vmx_vcpu_run, if_pos h2]
    have hbasic : INVALID_STATE.basic ≠ EXIT_REASON_PML_FULL := by decide
    have hfailed : INVALID_STATE.failed_vmentry = true := by decide
    exact Judged.of_run rfl rfl (vmx_handle_exit_fail hbasic (Or.inl hfailed))
  by_cases h3 : p.fail = true
  · rw [if_pos (Or.inr h3), vmx_vcpu_run, if_neg h2, if_pos h3]
    have hbasic : ExitReason.basic 0xdead ≠ EXIT_REASON_PML_FULL := by decide
    exact Judged.of_run rfl rfl (vmx_handle_exit_fail hbasic (Or.inr h3))
  rw [if_neg (by tauto), vmx_vcpu_run, if_neg h2, if_neg h3]
  have hfail : p.fail = false := Bool.eq_false_iff.mpr h3
  have h := vmx_handle_exit_judged p
    { v with fail := p.fail, exit_reason := p.reason, last_vmentry_cpu := v.cpu, exits := v.exits + 1 }
    rfl hfail
  exact Judged.of_run rfl rfl h

/-! ## The loop -/

/-- Whether the loop ends. -/
def Verdict.ends : Verdict → Bool
  | .resume => false
  | _ => true

/-- The loop has come to the first verdict that ends it. -/
def Settled (v : Vcpu) : Option Verdict → Progress → Prop
  | none, x => ∃ v', x = .running v' ∧ v'.run = v.run
  | some .resume, _ => False
  | some (.stop r told), x => ∃ v', x = .returned r v' ∧ r ≤ 0 ∧
      v'.run.exit_reason = told.getD v.run.exit_reason
  | some .null_call, x => x = .null_call

theorem Settled.of_run {w : Vcpu} {d : Option Verdict} {x : Progress} (hrun : w.run = v.run)
    (h : Settled w d x) : Settled v d x := by
  rcases d with _ | _ | ⟨r, told⟩ | _
  · obtain ⟨v', hx, hrun'⟩ := h
    exact ⟨v', hx, hrun'.trans hrun⟩
  · exact h
  · obtain ⟨v', hx, hr, htold⟩ := h
    exact ⟨v', hx, hr, by rw [htold, hrun]⟩
  · exact h

/-- **The loop of `vcpu_run`** goes by the verdicts: over any sequence of passes it comes to the first
one that does not let the guest go on. What it then returns is not positive, and `kvm_run` holds the
exit reason of that verdict, or the one it held before the loop where the handler said nothing. -/
theorem vcpu_run_judged (ps : List Pass) (v : Vcpu) :
    Settled v ((ps.map (judge v.guest_mode)).find? Verdict.ends) (vcpu_run ps v) := by
  induction ps generalizing v with
  | nil => exact ⟨v, rfl, rfl⟩
  | cons p ps ih =>
    have hstep := vcpu_enter_guest_judged p v
    rw [List.map_cons, List.find?_cons]
    unfold vcpu_run
    cases hj : judge v.guest_mode p with
    | resume =>
      rw [hj] at hstep
      obtain ⟨r, v', hx, hr, hrun, hmode⟩ := hstep
      rw [hx]
      simp only [Verdict.ends]
      rw [if_neg (by omega), ← hmode]
      exact (ih v').of_run hrun
    | stop r told =>
      rw [hj] at hstep
      obtain ⟨v', hx, hr, htold⟩ := hstep
      rw [hx]
      simp only [Verdict.ends]
      rw [if_pos hr]
      exact ⟨v', rfl, hr, htold⟩
    | null_call =>
      rw [hj] at hstep
      have hx : vcpu_enter_guest p v = none := hstep
      rw [hx]
      exact rfl

end Svmx.ExitHandler
