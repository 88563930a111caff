/-
`vm_save_state` and `vm_restore_state` of vm.asm, and the state a guest is entered in.

`vm_save_state` runs the vCPU from the stack of its caller, and the guest starts at `vm_restore_state`
on that same stack: both return to the same place. The guest's registers come from the variables of
`__vmx_vcpu_run`, its RSP from `guest_stack_pointer`; each is one for all vCPUs, and
`vmx_vcpu_enter_exit` writes GUEST_RSP before every entry.
-/
import Svmx.Transition
import Svmx.VmxEnter

set_option autoImplicit false

namespace Svmx.VmSaveState

open AsmBlock StackMemory X64 VmxEnter

/-! ## The code -/

inductive Global where
  | guest_stack_pointer
deriving DecidableEq

inductive Proc where
  | vm_save_state | vm_restore_state

inductive Callee where
  | call_kvm_arch_vcpu_ioctl_run

def code : Proc → List (Instr Global Callee Proc)
  | .vm_save_state =>
    [.subRsp 8, .mov (.var .guest_stack_pointer) (.reg .rsp), .ext .call_kvm_arch_vcpu_ioctl_run,
      .movImm .rax 0xC0000001, .addRsp 8, .ret]
  | .vm_restore_state => [.nop, .addRsp 8, .ret]

abbrev SaveCpu := Cpu Global Unit

/-- The code, where `ioctl_run` is what `kvm_arch_vcpu_ioctl_run` does. -/
def program (ioctl_run : SaveCpu → SaveCpu) : Program Proc (Instr Global Callee Proc) SaveCpu where
  code := code
  fall _ := none
  exec := exec fun _ s => .step (ioctl_run s)

/-- The processor where `vm_save_state` calls `kvm_arch_vcpu_ioctl_run`. -/
def saved (s : SaveCpu) : SaveCpu :=
  let t := { s.set .rsp (s.rsp - 8) with zf := decide (s.rsp - 8 = 0) }
  t.put (.var .guest_stack_pointer) t.rsp

theorem saved_guest_stack_pointer (s : SaveCpu) :
    (saved s).data .guest_stack_pointer = s.rsp - 8 := by
  simp [saved, Cpu.put, Cpu.rsp, Cpu.set]

variable (ioctl_run : SaveCpu → SaveCpu) {depth : Nat}

/-- A run of `__vmx_vcpu_run`. -/
structure StubRun where
  depth : Nat
  world : World depth
  before : VmxCpu
  after : VmxCpu
  depth_le : 80 + depth ≤ 2 ^ 64
  vmcs : Transition.Run HostState.hostSystem (fun _ _ => True) before.env.vmcs
  returns : world.program.Returns .vmx_vcpu_run before after

/-- The variables that the vCPUs share, and for each of the two what has been put in: RSP at the calls
of `vm_save_state`, and the guests' registers at the VM exits, the last first. -/
structure Guests (P : Type*) where
  guest_stack_pointer : BitVec 64
  vars : Var → BitVec 64
  saves : List (P × BitVec 64)
  exits : List (P × (Reg → BitVec 64))

variable {P : Type*}

/-- A processor calls `vm_save_state`, or runs its vCPU. -/
inductive Event (P : Type*) where
  | save (p : P) (s : SaveCpu)
  | run (p : P) (r : StubRun)

/-- The VM exits, with that of an entry if it is one. -/
def Guests.exited (g : Guests P) (p : P) (e : Entry) : List (P × (Reg → BitVec 64)) :=
  match e.outcome with
  | .exit regs => (p, regs) :: g.exits
  | .fail _ => g.exits

/-- The variables before the first call. -/
def newGuests : Guests P := ⟨0, fun _ => 0, [], []⟩

/-- The runs of the stub come one after another; `vm_save_state` is called at any time between. -/
def guestSystem (P : Type*) : Transition.System (Guests P) (Event P) where
  init g := g = newGuests
  step g e g' :=
    match e with
    | .save p s => g' = { g with
        guest_stack_pointer := (saved s).data .guest_stack_pointer, saves := (p, s.rsp) :: g.saves }
    | .run p r => r.before.data = g.vars ∧ ∃ e, r.after.env.entries = e :: r.before.env.entries ∧
        g' = { g with vars := r.after.data, exits := g.exited p e }

/-- The registers at the last VM exit of any vCPU, and RSP as the last `vm_save_state` left it. -/
def Guests.last (g : Guests P) : Reg → BitVec 64 :=
  Function.update ((g.exits.head?.map Prod.snd).getD fun _ => 0) .rsp
    ((g.saves.head?.map fun x => x.2 - 8).getD 0)

/-- The variables hold what was put in last. -/
structure Guests.Holds (g : Guests P) : Prop where
  vars : ∀ v : Var, g.vars v = g.last v.reg
  rsp : g.guest_stack_pointer = g.last .rsp

/-- **One event** keeps the variables. -/
theorem Guests.Holds.step {g g' : Guests P} (h : g.Holds) (e : Event P)
    (hstep : (guestSystem P).step g e g') : g'.Holds := by
  cases e with
  | save p s =>
    obtain rfl := hstep
    refine ⟨fun v => ?_, ?_⟩
    · have hne : v.reg ≠ .rsp := by cases v <;> decide
      have hlast := h.vars v
      simp only [Guests.last, Function.update_of_ne hne] at hlast ⊢
      exact hlast
    · simp [Guests.last, saved_guest_stack_pointer]
  | run p r =>
    obtain ⟨hvars, e, he, rfl⟩ := hstep
    obtain ⟨t, s', hret, hran⟩ := run_stub r.world r.before r.depth_le r.vmcs
    obtain rfl := hret.unique r.returns
    have hhead := hran.entries.symm.trans he
    rw [List.cons.injEq] at hhead
    obtain ⟨rfl, -⟩ := hhead
    have houtcome := hran.outcome
    refine ⟨fun v => ?_, ?_⟩
    · have hne : v.reg ≠ .rsp := by cases v <;> decide
      have hlast := h.vars v
      simp only [Guests.last, Function.update_of_ne hne] at hlast ⊢
      cases ho : r.world.guest (resumes (r.before.regs .r8)) t with
      | fail zf =>
        rw [ho] at houtcome
        simp only [Guests.exited]
        rw [houtcome.2, hvars]
        exact hlast
      | exit regs =>
        rw [ho] at houtcome
        simp only [Guests.exited, List.head?_cons, Option.map_some, Option.getD_some]
        exact houtcome.2 v
    · have hrsp := h.rsp
      simp only [Guests.last, Function.update_self] at hrsp ⊢
      exact hrsp

end Svmx.VmSaveState
