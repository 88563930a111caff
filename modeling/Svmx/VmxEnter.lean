/-
`__vmx_vcpu_run` of vmxenter.asm, instruction by instruction.

The stub saves registers on the stack, loads the guest's registers from the variables `VCPU_RAX` ..
`VCPU_R15` of its data segment, enters the guest, and on a VM exit stores the guest's registers back
there. What the C functions and the guest do is a `World`. The stub calls without home space, so a
callee may write over the saved RBX and R12 to R14; RSI and RDI are not saved at all.
-/
import Svmx.HostState
import Svmx.X64

set_option autoImplicit false

namespace Svmx.VmxEnter

open AsmBlock StackMemory X64 HostState

/-! ## The code -/

/-- The variables of `.data`. -/
inductive Var where
  | VCPU_RAX | VCPU_RCX | VCPU_RDX | VCPU_RBX | VCPU_RBP | VCPU_RSI | VCPU_RDI
  | VCPU_R8 | VCPU_R9 | VCPU_R10 | VCPU_R11 | VCPU_R12 | VCPU_R13 | VCPU_R14 | VCPU_R15
deriving DecidableEq

/-- The register that a variable is for. -/
def Var.reg : Var → Reg
  | .VCPU_RAX => .rax
  | .VCPU_RCX => .rcx
  | .VCPU_RDX => .rdx
  | .VCPU_RBX => .rbx
  | .VCPU_RBP => .rbp
  | .VCPU_RSI => .rsi
  | .VCPU_RDI => .rdi
  | .VCPU_R8 => .r8
  | .VCPU_R9 => .r9
  | .VCPU_R10 => .r10
  | .VCPU_R11 => .r11
  | .VCPU_R12 => .r12
  | .VCPU_R13 => .r13
  | .VCPU_R14 => .r14
  | .VCPU_R15 => .r15

/-- `VMX_RUN_VMRESUME DD 1`; nothing writes it. -/
def VMX_RUN_VMRESUME : BitVec 32 := 1

inductive Label where
  | vmx_vcpu_run | Lspec_ctrl_done | Lvmresume | Lvmlaunch | vmx_vmexit | Lclear_regs | Lvmfail
deriving DecidableEq

/-- What is not an instruction of the stub's own: the calls, and the two ways into the guest. -/
inductive Outside where
  | call_vmx_update_host_rsp
  | call_vmx_spec_ctrl_restore_host
  | vmlaunch
  | vmresume

/-- Every general-purpose register but RSP and RBX. -/
def cleared : List Reg :=
  [.rax, .rcx, .rdx, .rbp, .rsi, .rdi, .r8, .r9, .r10, .r11, .r12, .r13, .r14, .r15]

def clear_regs : List (Instr Var Outside Label) :=
  [.xor32 .rax, .xor32 .rcx, .xor32 .rdx, .xor32 .rbp, .xor32 .rsi, .xor32 .rdi, .xor32 .r8,
    .xor32 .r9, .xor32 .r10, .xor32 .r11, .xor32 .r12, .xor32 .r13, .xor32 .r14, .xor32 .r15]

/-- The end that `Lclear_regs` and `Lvmfail` share. -/
def restore : List (Instr Var Outside Label) :=
  [.pop (.reg .rax)] ++ clear_regs ++
  [.pop (.reg .rdx), .pop (.reg .rcx), .ext .call_vmx_spec_ctrl_restore_host,
    .mov (.reg .rax) (.reg .rbx), .pop (.reg .rbx), .pop (.reg .r12), .pop (.reg .r13),
    .pop (.reg .r14), .pop (.reg .r15), .pop (.reg .rbp), .ret]

/-- `__vmx_vcpu_run`. -/
def code : Label → List (Instr Var Outside Label)
  | .vmx_vcpu_run =>
    [.push .rbp, .push .r15, .push .r14, .push .r13, .push .r12, .push .rbx, .push .rcx, .push .r8,
      .push .rdx, .mov32 .rbx .r8, .leaTop .rdx, .ext .call_vmx_update_host_rsp,
      .jmp .Lspec_ctrl_done]
  | .Lspec_ctrl_done =>
    [.loadTop .rax, .test32 .rbx VMX_RUN_VMRESUME, .mov (.reg .rcx) (.var .VCPU_RCX),
      .mov (.reg .rdx) (.var .VCPU_RDX), .mov (.reg .rbx) (.var .VCPU_RBX),
      .mov (.reg .rbp) (.var .VCPU_RBP), .mov (.reg .rsi) (.var .VCPU_RSI),
      .mov (.reg .rdi) (.var .VCPU_RDI), .mov (.reg .r8) (.var .VCPU_R8),
      .mov (.reg .r9) (.var .VCPU_R9), .mov (.reg .r10) (.var .VCPU_R10),
      .mov (.reg .r11) (.var .VCPU_R11), .mov (.reg .r12) (.var .VCPU_R12),
      .mov (.reg .r13) (.var .VCPU_R13), .mov (.reg .r14) (.var .VCPU_R14),
      .mov (.reg .r15) (.var .VCPU_R15), .mov (.reg .rax) (.var .VCPU_RAX), .jz .Lvmlaunch]
  | .Lvmresume => [.ext .vmresume, .jmp .Lvmfail]
  | .Lvmlaunch => [.ext .vmlaunch, .jmp .Lvmfail]
  | .vmx_vmexit =>
    [.push .rax, .loadTop .rax, .pop (.var .VCPU_RAX), .mov (.var .VCPU_RCX) (.reg .rcx),
      .mov (.var .VCPU_RDX) (.reg .rdx), .mov (.var .VCPU_RBX) (.reg .rbx),
      .mov (.var .VCPU_RBP) (.reg .rbp), .mov (.var .VCPU_RSI) (.reg .rsi),
      .mov (.var .VCPU_RDI) (.reg .rdi), .mov (.var .VCPU_R8) (.reg .r8),
      .mov (.var .VCPU_R9) (.reg .r9), .mov (.var .VCPU_R10) (.reg .r10),
      .mov (.var .VCPU_R11) (.reg .r11), .mov (.var .VCPU_R12) (.reg .r12),
      .mov (.var .VCPU_R13) (.reg .r13), .mov (.var .VCPU_R14) (.reg .r14),
      .mov (.var .VCPU_R15) (.reg .r15), .xor32 .rbx]
  | .Lclear_regs => restore
  | .Lvmfail => .movImm .rbx 1 :: restore

/-- `vmx_vmexit` runs into `Lclear_regs`, and `Lspec_ctrl_done` into `Lvmresume`. -/
def fall : Label → Option Label
  | .Lspec_ctrl_done => some .Lvmresume
  | .vmx_vmexit => some .Lclear_regs
  | _ => none

/-! ## What is outside the stub -/

/-- What a VM entry ends in: VM-fail, with ZF, or a VM exit with the registers of the guest. -/
inductive EntryEnd where
  | fail (zf : Bool)
  | exit (regs : Reg → BitVec 64)

/-- A VM entry as the stub makes it: VMRESUME or VMLAUNCH, the registers, and what it ended in. -/
structure Entry where
  resume : Bool
  regs : Reg → BitVec 64
  outcome : EntryEnd

/-- The current VMCS, and what has been done: the VM entries, and the arguments of the last call of
`vmx_spec_ctrl_restore_host`. -/
structure Machine where
  vmcs : LoadedVmcs
  entries : List Entry
  restored : Option (BitVec 64 × BitVec 64)

abbrev VmxCpu := Cpu Var Machine

/-- The guest and the two C functions. The functions keep to the calling convention and use `depth`
bytes of stack, their return address among them. -/
structure World (depth : Nat) where
  guest : Bool → VmxCpu → EntryEnd
  update_host_rsp : VmxCpu → VmxCpu
  spec_ctrl_restore_host : VmxCpu → VmxCpu
  update_abi : ∀ s, Abi depth s (update_host_rsp s)
  update_env : ∀ s, (update_host_rsp s).env =
    { s.env with vmcs := vmx_update_host_rsp (s.regs .rdx) s.env.vmcs }
  update_data : ∀ s, (update_host_rsp s).data = s.data
  restore_abi : ∀ s, Abi depth s (spec_ctrl_restore_host s)
  restore_env : ∀ s, (spec_ctrl_restore_host s).env =
    { s.env with restored := some (s.regs .rcx, s.regs .rdx) }
  restore_data : ∀ s, (spec_ctrl_restore_host s).data = s.data
  depth_ge : 8 ≤ depth

namespace World

variable {depth : Nat} (w : World depth)

/-- VMLAUNCH or VMRESUME. A VM exit loads RSP from HOST_RSP and goes on at HOST_RIP, `vmx_vmexit`. -/
def enter (resume : Bool) (s : VmxCpu) : Next Label VmxCpu :=
  let outcome := w.guest resume s
  let t := { s with env := { s.env with entries := ⟨resume, s.regs, outcome⟩ :: s.env.entries } }
  match outcome with
  | .fail zf => .step { t with zf := zf }
  | .exit regs => .jump .vmx_vmexit
      { t with regs := Function.update regs .rsp s.env.vmcs.vmcs.HOST_RSP, zf := false }

def outside : Outside → VmxCpu → Next Label VmxCpu
  | .call_vmx_update_host_rsp, s => .step (w.update_host_rsp s)
  | .call_vmx_spec_ctrl_restore_host, s => .step (w.spec_ctrl_restore_host s)
  | .vmlaunch, s => w.enter false s
  | .vmresume, s => w.enter true s

def program : Program Label (Instr Var Outside Label) VmxCpu where
  code := code
  fall := fall
  exec := exec w.outside

end World

/-! ## The frame -/

/-- The last four quadwords that the stub pushes. They are the home space of the first call. -/
structure Home where
  regs : BitVec 64
  flags : BitVec 64
  vmx : BitVec 64
  rbx : BitVec 64

def Home.quads (x : Home) : List (BitVec 64) := [x.regs, x.flags, x.vmx, x.rbx]

/-- What is in the home space. -/
def Home.at (m : Mem) (a : Addr) : Home :=
  ⟨read m a, read m (a + 8), read m (a + 8 + 8), read m (a + 8 + 8 + 8)⟩

/-- What the stub pushes there. -/
def Home.pushed (s₀ : VmxCpu) : Home := ⟨s₀.regs .rdx, s₀.regs .r8, s₀.regs .rcx, s₀.regs .rbx⟩

/-- The frame of the stub, with `x` in the home space, and the caller's memory. -/
structure Frame (depth : Nat) (s₀ : VmxCpu) (x : Home) (s : VmxCpu) : Prop where
  rsp : s.rsp = s₀.rsp - 72
  holds : Holds s.mem s.rsp
    (x.quads ++ [s₀.regs .r12, s₀.regs .r13, s₀.regs .r14, s₀.regs .r15, s₀.regs .rbp])
  keeps : Keeps (s₀.rsp - BitVec.ofNat 64 (72 + depth)) (72 + depth) s₀.mem s.mem

variable {depth : Nat} {w : World depth} {s₀ s : VmxCpu} {home : Home}

/-- The bytes of a call at `d` bytes above the bottom of the frame lie in the frame. -/
theorem call_within {a : Addr} {d : Nat} (hd : d ≤ 40)
    (ha : a = s₀.rsp - 72 + BitVec.ofNat 64 d) {x : Addr}
    (hx : Within (a - BitVec.ofNat 64 depth) (depth + 32) x) :
    Within (s₀.rsp - BitVec.ofNat 64 (72 + depth)) (72 + depth) x := by
  apply hx.shift (d := d) _ (by omega)
  have h72 : (72 : BitVec 64) = BitVec.ofNat 64 72 := rfl
  rw [ha, h72, ← sub_ofNat_ofNat]
  ring

/-- The home space of the two calls is left alone. -/
structure World.KeepsHome (w : World depth) : Prop where
  update : ∀ s, Keeps (s.rsp - BitVec.ofNat 64 depth) depth s.mem (w.update_host_rsp s).mem
  restore : ∀ s, Keeps (s.rsp - BitVec.ofNat 64 depth) depth s.mem (w.spec_ctrl_restore_host s).mem

/-- **The entry block** sets up the frame and passes its stack pointer to `vmx_update_host_rsp`. -/
theorem run_entry (s₀ : VmxCpu) (hdepth : 72 + depth ≤ 2 ^ 64) :
    ∃ t home, w.program.runBlock (code .vmx_vcpu_run) s₀ = .jump .Lspec_ctrl_done t ∧
      Frame depth s₀ home t ∧ (w.KeepsHome → home = Home.pushed s₀) ∧
      t.regs .rbx = ((s₀.regs .r8).setWidth 32).setWidth 64 ∧ t.data = s₀.data ∧
      t.env = { s₀.env with vmcs := vmx_update_host_rsp (s₀.rsp - 72) s₀.env.vmcs } := by
  have hge := w.depth_ge
  obtain ⟨mem, hrun, hholds, hkeeps⟩ := runBlock_pushes w.program w.outside rfl
    [.rbp, .r15, .r14, .r13, .r12, .rbx, .rcx, .r8, .rdx] (by decide) s₀ [] (holds_nil _ _)
    (by simp)
  simp only [List.length_cons, List.length_nil, Nat.zero_add, Nat.reduceAdd, Nat.reduceMul,
    List.append_nil] at hrun hholds hkeeps
  -- the processor at the call
  let u : VmxCpu := { (s₀.set .rsp (s₀.rsp - 72)) with mem := mem }
  let c : VmxCpu := (u.set .rbx (((s₀.regs .r8).setWidth 32).setWidth 64)).set .rdx (s₀.rsp - 72)
  have hc : c.rsp = s₀.rsp - 72 := by simp [c, u, Cpu.rsp, Cpu.set]
  have hcall : w.program.runBlock (code .vmx_vcpu_run) s₀ =
      .jump .Lspec_ctrl_done (w.update_host_rsp c) := by
    rw [show code .vmx_vcpu_run = pushes [.rbp, .r15, .r14, .r13, .r12, .rbx, .rcx, .r8, .rdx] ++
      [.mov32 .rbx .r8, .leaTop .rdx, .ext .call_vmx_update_host_rsp, .jmp .Lspec_ctrl_done] from rfl,
      Program.runBlock_append _ hrun]
    rfl
  have habi := w.update_abi c
  have hframe : Holds c.mem c.rsp ((Home.pushed s₀).quads ++
      [s₀.regs .r12, s₀.regs .r13, s₀.regs .r14, s₀.regs .r15, s₀.regs .rbp]) := by
    rw [hc]
    exact hholds
  refine ⟨w.update_host_rsp c, Home.at (w.update_host_rsp c).mem (w.update_host_rsp c).rsp, hcall,
    ⟨?_, ?_, ?_⟩, ?_, ?_, ?_, ?_⟩
  · rw [habi.rsp, hc]
  · apply habi.holds (by rfl) hframe
    simp only [List.length_cons, List.length_nil]
    omega
  · apply Keeps.trans _ (habi.mem.mono _)
    · apply hkeeps.mono
      intro x hx
      apply hx.shift (d := depth) _ (by omega)
      exact (sub_ofNat_add s₀.rsp 72 depth).symm
    · intro x hx
      exact call_within (d := 0) (by omega) (by simp [hc]) hx
  · intro hw
    obtain ⟨h0, h1, h2, h3, -⟩ := habi.holds_of_keeps (hw.update c) hframe
      (by simp only [Home.quads, List.length_append, List.length_cons, List.length_nil]; omega)
    rw [Home.at, h0, h1, h2, h3]
  · rw [habi.regs .rbx (by decide)]
    rfl
  · rw [w.update_data c]
    rfl
  · rw [w.update_env c]
    rfl

/-! ## Loading and storing the guest's registers -/

/-- The variables but for that of RAX, in the order in which the stub goes through them. -/
def Var.butRax : List Var :=
  [.VCPU_RCX, .VCPU_RDX, .VCPU_RBX, .VCPU_RBP, .VCPU_RSI, .VCPU_RDI, .VCPU_R8, .VCPU_R9, .VCPU_R10,
    .VCPU_R11, .VCPU_R12, .VCPU_R13, .VCPU_R14, .VCPU_R15]

theorem Var.mem_butRax {v : Var} (h : v ≠ .VCPU_RAX) : v ∈ Var.butRax := by
  cases v with
  | VCPU_RAX => exact absurd rfl h
  | _ => decide

/-- The registers after the loads. -/
def loaded (regs : Reg → BitVec 64) (data : Var → BitVec 64) : Reg → BitVec 64 :=
  Function.update (assign regs (Var.butRax.map fun v => (v.reg, data v))) .rax (data .VCPU_RAX)

theorem loaded_reg (regs : Reg → BitVec 64) (data : Var → BitVec 64) (v : Var) :
    loaded regs data v.reg = data v := by
  unfold loaded
  by_cases hrax : v = .VCPU_RAX
  · subst hrax
    exact Function.update_self Reg.rax _ _
  · have hne : v.reg ≠ .rax := by
      cases v with
      | VCPU_RAX => exact absurd rfl hrax
      | _ => decide
    rw [Function.update_of_ne hne]
    apply assign_of_mem
    · rw [List.map_map]
      exact (by decide : (Var.butRax.map Var.reg).Nodup)
    · exact List.mem_map_of_mem (Var.mem_butRax hrax)

theorem loaded_rsp (regs : Reg → BitVec 64) (data : Var → BitVec 64) :
    loaded regs data .rsp = regs .rsp := by
  unfold loaded
  rw [Function.update_of_ne (by decide : Reg.rsp ≠ .rax)]
  apply assign_of_notMem
  rw [List.map_map]
  exact (by decide : Reg.rsp ∉ Var.butRax.map Var.reg)

/-- The stores, after that of RAX. -/
theorem stored_var (regs : Reg → BitVec 64) (data : Var → BitVec 64)
    (hrax : data .VCPU_RAX = regs .rax) (v : Var) :
    assign data (Var.butRax.map fun v => (v, regs v.reg)) v = regs v.reg := by
  have hkeys : (Var.butRax.map fun v => (v, regs v.reg)).map Prod.fst = Var.butRax := by
    rw [List.map_map]
    exact List.map_id _
  by_cases hv : v = .VCPU_RAX
  · subst hv
    rw [assign_of_notMem]
    · exact hrax
    · rw [hkeys]
      decide
  · apply assign_of_mem
    · rw [hkeys]
      decide
    · exact List.mem_map_of_mem (Var.mem_butRax hv)

/-! ## The blocks -/

/-- The flags ask for VMRESUME. -/
def resumes (flags : BitVec 64) : Bool := decide (flags.setWidth 32 &&& VMX_RUN_VMRESUME ≠ 0)

/-- The processor where the guest is entered, out of one at `Lspec_ctrl_done`. -/
def atEntry (t : VmxCpu) : VmxCpu :=
  { t with
    regs := loaded (Function.update t.regs .rax (read t.mem t.rsp)) t.data
    zf := !resumes (t.regs .rbx) }

/-- **The load block** gives the guest the registers in the variables and chooses the instruction. -/
theorem run_load (t : VmxCpu) :
    w.program.runBlock (code .Lspec_ctrl_done) t =
      if resumes (t.regs .rbx) then .step (atEntry t) else .jump .Lvmlaunch (atEntry t) := by
  let a : VmxCpu := { t.set .rax (read t.mem t.rsp) with
    zf := decide ((t.regs .rbx).setWidth 32 &&& VMX_RUN_VMRESUME = 0) }
  have hloads := runBlock_loads w.program w.outside rfl Var.reg Var.butRax a
  have hcut : w.program.runBlock (code .Lspec_ctrl_done) t =
      w.program.runBlock (loads Var.reg Var.butRax ++
        [.mov (.reg .rax) (.var .VCPU_RAX), .jz .Lvmlaunch]) a := rfl
  have hzf : a.zf = !resumes (t.regs .rbx) := by simp [a, resumes]
  have hmov : w.program.exec (.mov (.reg .rax) (.var .VCPU_RAX))
      { a with regs := assign a.regs (Var.butRax.map fun v => (v.reg, a.data v)) } =
      .step { atEntry t with zf := a.zf } := rfl
  rw [hcut, Program.runBlock_append _ hloads, Program.runBlock_cons_step _ hmov, hzf]
  -- ZF is still that of the test
  cases hr : resumes (t.regs .rbx) with
  | false =>
    rw [if_neg (by simp), Program.runBlock_cons_jump (t := atEntry t) (l := .Lvmlaunch)]
    simp [World.program, exec, atEntry, hr]
  | true =>
    rw [if_pos rfl, Program.runBlock_cons_step (t := atEntry t), Program.runBlock_nil]
    simp [World.program, exec, atEntry, hr]

/-- **The exit block** stores the guest's registers in the variables. -/
theorem run_vmexit (s : VmxCpu) :
    ∃ t : VmxCpu, w.program.runBlock (code .vmx_vmexit) s = .step t ∧
      t.mem = write s.mem (s.rsp - 8) (s.regs .rax) ∧ t.rsp = s.rsp ∧ t.regs .rbx = 0 ∧
      (∀ v, t.data v = s.regs v.reg) ∧ t.env = s.env := by
  let b : VmxCpu := s.push (s.regs .rax)
  let c : VmxCpu := b.set .rax (read b.mem b.rsp)
  let a : VmxCpu := (c.set .rsp (c.rsp + 8)).put (.var .VCPU_RAX) (read c.mem c.rsp)
  have hb : b.rsp = s.rsp - 8 := by simp [b, Cpu.push, Cpu.rsp, Cpu.set]
  have hread : read b.mem b.rsp = s.regs .rax := by
    rw [hb]
    exact read_write _ _ _
  have hc : c.rsp = s.rsp - 8 := by
    rw [← hb]
    exact Cpu.set_rsp_of_ne b (by decide) _
  have hregs (v : Var) : a.regs v.reg = s.regs v.reg := by
    by_cases hv : v.reg = .rax
    · rw [hv]
      simp [a, c, Cpu.put, Cpu.set, hread]
    · have hne : v.reg ≠ .rsp := by cases v <;> decide
      simp [a, c, b, Cpu.put, Cpu.set, Cpu.push, hv, hne]
  have hdata : a.data .VCPU_RAX = a.regs .rax := by
    have hval : a.data .VCPU_RAX = read c.mem c.rsp := by simp [a, Cpu.put]
    rw [hval, hc, ← hb]
    exact hread.trans (hregs .VCPU_RAX).symm
  have hstores := runBlock_stores w.program w.outside rfl Var.reg Var.butRax a
  have hcut : w.program.runBlock (code .vmx_vmexit) s =
      w.program.runBlock (stores Var.reg Var.butRax ++ [.xor32 .rbx]) a := rfl
  refine ⟨{ a.set .rbx 0 with
    data := assign a.data (Var.butRax.map fun v => (v, a.regs v.reg)), zf := true }, ?_, ?_, ?_, ?_,
    ?_, rfl⟩
  · rw [hcut, Program.runBlock_append _ hstores]
    rfl
  · rfl
  · have hrsp : a.rsp = c.rsp + 8 := by simp [a, Cpu.put, Cpu.rsp, Cpu.set]
    simp only [Cpu.rsp, Cpu.set]
    rw [Function.update_of_ne (by decide : Reg.rsp ≠ .rbx)]
    exact hrsp.trans (by rw [hc, BitVec.sub_add_cancel]; rfl)
  · simp [Cpu.set]
  · intro v
    exact (stored_var a.regs a.data hdata v).trans (hregs v)

/-- A write right below the frame. -/
theorem Frame.write_below (h : Frame depth s₀ home s) (hge : 8 ≤ depth)
    (hdepth : 80 + depth ≤ 2 ^ 64) {t : VmxCpu} {x : BitVec 64}
    (hmem : t.mem = write s.mem (s.rsp - 8) x) (hrsp : t.rsp = s.rsp) : Frame depth s₀ home t := by
  have hkeeps := keeps_write s.mem (s.rsp - 8) x
  rw [← hmem] at hkeeps
  refine ⟨hrsp.trans h.rsp, ?_, ?_⟩
  · rw [hrsp]
    apply h.holds.of_keeps_below hkeeps (d := 8) _ (le_refl _)
    · simp only [Home.quads, List.length_append, List.length_cons, List.length_nil]
      omega
    · exact (BitVec.sub_add_cancel _ _).symm
  · apply h.keeps.trans (hkeeps.mono _)
    intro y hy
    apply hy.shift (d := depth - 8) _ (by omega)
    obtain ⟨k, rfl⟩ := Nat.exists_eq_add_of_le hge
    rw [h.rsp, Nat.add_sub_cancel_left, ← Nat.add_assoc]
    exact (sub_ofNat_ofNat s₀.rsp 72 8).trans (sub_ofNat_add s₀.rsp (72 + 8) k).symm

/-- The return of the stub from a processor `s` at its end, where it holds the value to return in
RBX. -/
structure Restored (w : World depth) (s₀ s s' : VmxCpu) (home : Home) : Prop where
  rip : s'.rip = read s₀.mem s₀.rsp
  rsp : s'.rsp = s₀.rsp + 8
  rax : s'.regs .rax = s.regs .rbx
  rbp : s'.regs .rbp = s₀.regs .rbp
  r15 : s'.regs .r15 = s₀.regs .r15
  rsi : s'.regs .rsi = 0
  rdi : s'.regs .rdi = 0
  saved : w.KeepsHome → [s'.regs .rbx, s'.regs .r12, s'.regs .r13, s'.regs .r14] =
    [home.rbx, s₀.regs .r12, s₀.regs .r13, s₀.regs .r14]
  keeps : Keeps (s₀.rsp - BitVec.ofNat 64 (72 + depth)) (72 + depth) s₀.mem s'.mem
  data : s'.data = s.data
  vmcs : s'.env.vmcs = s.env.vmcs
  entries : s'.env.entries = s.env.entries
  restored : s'.env.restored = some (home.vmx, home.flags)

/-- **The end of the stub.** -/
theorem run_restore (h : Frame depth s₀ home s) (hdepth : 80 + depth ≤ 2 ^ 64) :
    ∃ s', w.program.runBlock restore s = .ret s' ∧ Restored w s₀ s s' home := by
  -- @regs is dropped
  obtain ⟨hrun1, hholds1⟩ := runBlock_pops w.program w.outside rfl [.rax] (by decide) [home.regs] rfl
    s _ h.holds
  let a : VmxCpu := { s with
    regs := assign (Function.update s.regs .rsp (s.rsp + 8)) [(.rax, home.regs)] }
  let b : VmxCpu := { a with regs := assign a.regs (cleared.map fun r => (r, 0)), zf := true }
  have hrun2 : w.program.runBlock clear_regs a = .step b :=
    runBlock_xors w.program w.outside rfl cleared (by decide) a
  have hb : b.rsp = s.rsp + 8 := by simp [b, cleared, a, Cpu.rsp, assign]
  -- @flags and @vmx
  have hholds2 : Holds b.mem b.rsp ([home.flags, home.vmx] ++ [home.rbx, s₀.regs .r12, s₀.regs .r13,
      s₀.regs .r14, s₀.regs .r15, s₀.regs .rbp]) := by
    rw [hb]
    exact hholds1
  obtain ⟨hrun3, hholds3⟩ := runBlock_pops w.program w.outside rfl [.rdx, .rcx] (by decide)
    [home.flags, home.vmx] rfl b _ hholds2
  let c : VmxCpu := { b with
    regs := assign (Function.update b.regs .rsp (b.rsp + 16)) [(.rdx, home.flags), (.rcx, home.vmx)] }
  have hc : c.rsp = s₀.rsp - 72 + BitVec.ofNat 64 24 := by
    have hsum : c.rsp = b.rsp + 16 := by simp [c, Cpu.rsp, assign]
    rw [hsum, hb, h.rsp]
    exact add_ofNat_ofNat _ 8 16
  -- the call
  let d : VmxCpu := w.spec_ctrl_restore_host c
  have habi := w.restore_abi c
  have hholds4 : Holds c.mem c.rsp ([home.rbx, s₀.regs .r12, s₀.regs .r13, s₀.regs .r14] ++
      [s₀.regs .r15, s₀.regs .rbp]) := by
    have hsum : c.rsp = b.rsp + 16 := by simp [c, Cpu.rsp, assign]
    rw [hsum]
    exact hholds3
  have hholds5 := habi.holds (by rfl) hholds4 (by simp only [List.length_cons, List.length_nil]; omega)
  let e : VmxCpu := d.set .rax (d.regs .rbx)
  have he : e.rsp = d.rsp := Cpu.set_rsp_of_ne d (by decide) _
  obtain ⟨hrun6, -⟩ := runBlock_pops w.program w.outside rfl [.rbx, .r12, .r13, .r14, .r15, .rbp]
    (by decide) (reads d.mem d.rsp 4 ++ [s₀.regs .r15, s₀.regs .rbp]) rfl e [] (by
      rw [he, List.append_nil]
      exact hholds5)
  let f : VmxCpu := { e with
    regs := assign (Function.update e.regs .rsp (e.rsp + 48))
      ([Reg.rbx, .r12, .r13, .r14, .r15, .rbp].zip
        (reads d.mem d.rsp 4 ++ [s₀.regs .r15, s₀.regs .rbp])) }
  have hf : f.rsp = s₀.rsp := by
    have hsum : f.rsp = e.rsp + 48 := by simp [f, Cpu.rsp, assign, reads]
    rw [hsum, he, habi.rsp, hc]
    have h24 : s₀.rsp - 72 + BitVec.ofNat 64 24 + 48 = s₀.rsp - 72 + 72 :=
      add_ofNat_ofNat (s₀.rsp - 72) 24 48
    rw [h24, BitVec.sub_add_cancel]
  have hkeeps : Keeps (s₀.rsp - BitVec.ofNat 64 (72 + depth)) (72 + depth) s₀.mem f.mem := by
    apply h.keeps.trans (habi.mem.mono _)
    intro x hx
    exact call_within (by omega) hc hx
  refine ⟨{ f.set .rsp (f.rsp + 8) with rip := read f.mem f.rsp }, ?_, ?_, ?_, ?_, ?_, ?_, ?_, ?_, ?_,
    hkeeps, ?_, ?_, ?_, ?_⟩
  · have hcut : (restore : List (Instr Var Outside Label)) = pops [.rax] ++ (clear_regs ++
        (pops [.rdx, .rcx] ++ (.ext .call_vmx_spec_ctrl_restore_host ::
          .mov (.reg .rax) (.reg .rbx) :: (pops [.rbx, .r12, .r13, .r14, .r15, .rbp] ++
            [.ret])))) := rfl
    rw [hcut, Program.runBlock_append _ hrun1]
    refine (Program.runBlock_append _ hrun2).trans ?_
    refine (Program.runBlock_append _ hrun3).trans ?_
    refine (Program.runBlock_cons_step _ (t := d) rfl).trans ?_
    refine (Program.runBlock_cons_step _ (t := e) rfl).trans ?_
    exact (Program.runBlock_append _ hrun6).trans rfl
  · -- the return address is above the frame
    rw [hf]
    apply read_congr
    intro x hx
    apply hkeeps
    intro hframe
    refine hframe.apart (d := 72 + depth) ?_ (le_refl _) ?_ hx
    · exact (BitVec.sub_add_cancel _ _).symm
    · omega
  · rw [Cpu.rsp, Cpu.set, hf]
    simp
  · have hrbx : d.regs .rbx = c.regs .rbx := habi.regs .rbx (by decide)
    have hrax : (f.set .rsp (f.rsp + 8)).regs .rax = d.regs .rbx := by
      simp [Cpu.set, f, assign, reads, e]
    rw [hrax, hrbx]
    simp [c, b, a, cleared, assign]
  · simp [Cpu.set, f, assign, reads]
  · simp [Cpu.set, f, assign, reads]
  · have hrsi : d.regs .rsi = c.regs .rsi := habi.regs .rsi (by decide)
    have hkept : (f.set .rsp (f.rsp + 8)).regs .rsi = d.regs .rsi := by
      simp [Cpu.set, f, assign, reads, e]
    rw [hkept, hrsi]
    simp [c, b, a, cleared, assign]
  · have hrdi : d.regs .rdi = c.regs .rdi := habi.regs .rdi (by decide)
    have hkept : (f.set .rsp (f.rsp + 8)).regs .rdi = d.regs .rdi := by
      simp [Cpu.set, f, assign, reads, e]
    rw [hkept, hrdi]
    simp [c, b, a, cleared, assign]
  · intro hw
    have hkept := habi.holds_of_keeps (hw.restore c) hholds4
      (by simp only [List.length_append, List.length_cons, List.length_nil]; omega)
    have hreads : reads d.mem d.rsp 4 = [home.rbx, s₀.regs .r12, s₀.regs .r13, s₀.regs .r14] :=
      hkept.reads_eq
    simp [Cpu.set, f, hreads, assign]
  · exact w.restore_data c
  · have henv := congrArg Machine.vmcs (w.restore_env c)
    exact henv
  · have henv := congrArg Machine.entries (w.restore_env c)
    exact henv
  · have henv := congrArg Machine.restored (w.restore_env c)
    refine henv.trans ?_
    simp [c, assign]

/-! ## The whole stub -/

/-- HOST_RSP and its cached value agree, in every history of the VMCS. -/
theorem host_rsp_cached {lv : LoadedVmcs} (h : Transition.Run hostSystem (fun _ _ => True) lv) :
    lv.vmcs.HOST_RSP = lv.host_state.rsp := by
  refine h.invariant (fun lv => lv.vmcs.HOST_RSP = lv.host_state.rsp) ?_ ?_
  · rintro lv rfl
    rfl
  · rintro lv c lv' hrsp - rfl
    have hupdate (lv : LoadedVmcs) (h : lv.vmcs.HOST_RSP = lv.host_state.rsp) (r : BitVec 64) :
        (vmx_update_host_rsp r lv).vmcs.HOST_RSP = (vmx_update_host_rsp r lv).host_state.rsp := by
      unfold vmx_update_host_rsp
      split
      · rfl
      · exact h
    cases c with
    | init_vmcs host cr3 cr4 => exact hrsp
    | prepare_switch_to_guest host =>
      simp only [call, vmx_prepare_switch_to_guest, set_host_fs_gs_fields]
      exact hrsp
    | set_host_fs_gs host =>
      simp only [call, set_host_fs_gs_fields]
      exact hrsp
    | update_host_rsp host_rsp => exact hupdate lv hrsp host_rsp
    | vcpu_run cr3 cr4 host_rsp =>
      apply hupdate
      split <;> split <;> exact hrsp

/-- After `vmx_update_host_rsp` HOST_RSP is the value passed. -/
theorem host_rsp_updated {lv : LoadedVmcs} (h : lv.vmcs.HOST_RSP = lv.host_state.rsp)
    (host_rsp : BitVec 64) : (vmx_update_host_rsp host_rsp lv).vmcs.HOST_RSP = host_rsp := by
  unfold vmx_update_host_rsp
  split
  · rfl
  · next heq => rw [h, ← not_not.mp heq]

/-- What the guest's end makes of the value returned and of the variables. -/
def Outcome (s₀ s' : VmxCpu) : EntryEnd → Prop
  | .fail _ => s'.regs .rax = 1 ∧ s'.data = s₀.data
  | .exit regs => s'.regs .rax = 0 ∧ ∀ v : Var, s'.data v = regs v.reg

/-- A run of the stub from `s₀` to `s'`, with the processor `t` where the guest is entered. -/
structure Ran (w : World depth) (s₀ t s' : VmxCpu) : Prop where
  entry_regs : ∀ v : Var, t.regs v.reg = s₀.data v
  entries : s'.env.entries =
    ⟨resumes (s₀.regs .r8), t.regs, w.guest (resumes (s₀.regs .r8)) t⟩ :: s₀.env.entries
  outcome : Outcome s₀ s' (w.guest (resumes (s₀.regs .r8)) t)
  rip : s'.rip = read s₀.mem s₀.rsp
  rsp : s'.rsp = s₀.rsp + 8
  rbp : s'.regs .rbp = s₀.regs .rbp
  r15 : s'.regs .r15 = s₀.regs .r15
  rsi : s'.regs .rsi = 0
  rdi : s'.regs .rdi = 0
  saved : w.KeepsHome → [s'.regs .rbx, s'.regs .r12, s'.regs .r13, s'.regs .r14] =
    [s₀.regs .rbx, s₀.regs .r12, s₀.regs .r13, s₀.regs .r14]
  keeps : Keeps (s₀.rsp - BitVec.ofNat 64 (72 + depth)) (72 + depth) s₀.mem s'.mem
  vmcs : s'.env.vmcs = vmx_update_host_rsp (s₀.rsp - 72) s₀.env.vmcs
  restored : w.KeepsHome → s'.env.restored = some (s₀.regs .rcx, s₀.regs .r8)

/-- From the end of the stub to the whole of it. -/
theorem Restored.ran {s' t : VmxCpu} (h : Restored w s₀ s s' home)
    (hhome : w.KeepsHome → home = Home.pushed s₀) (hregs : ∀ v : Var, t.regs v.reg = s₀.data v)
    (hentries : s.env.entries =
      ⟨resumes (s₀.regs .r8), t.regs, w.guest (resumes (s₀.regs .r8)) t⟩ :: s₀.env.entries)
    (hvmcs : s.env.vmcs = vmx_update_host_rsp (s₀.rsp - 72) s₀.env.vmcs)
    (houtcome : Outcome s₀ s' (w.guest (resumes (s₀.regs .r8)) t)) : Ran w s₀ t s' where
  entry_regs := hregs
  entries := h.entries.trans hentries
  outcome := houtcome
  rip := h.rip
  rsp := h.rsp
  rbp := h.rbp
  r15 := h.r15
  rsi := h.rsi
  rdi := h.rdi
  saved hw := by
    rw [h.saved hw, hhome hw]
    rfl
  keeps := h.keeps
  vmcs := h.vmcs.trans hvmcs
  restored hw := by
    rw [h.restored, hhome hw]
    rfl

/-- The label of the instruction that enters the guest. -/
def entryLabel (resume : Bool) : Label := if resume then .Lvmresume else .Lvmlaunch

/-- **From the VM entry on.** A VM-fail goes to `Lvmfail`, a VM exit to `vmx_vmexit`. -/
theorem run_guest (resume : Bool) {t : VmxCpu} (h : Frame depth s₀ home t)
    (hdepth : 80 + depth ≤ 2 ^ 64) (hhost : t.env.vmcs.vmcs.HOST_RSP = t.rsp) :
    ∃ s s', w.program.Returns (entryLabel resume) t s' ∧ Restored w s₀ s s' home ∧
      s.env = { t.env with entries := ⟨resume, t.regs, w.guest resume t⟩ :: t.env.entries } ∧
      ∀ s₁ : VmxCpu, s₁.data = t.data → Outcome s₁ s' (w.guest resume t) := by
  let t' (o : EntryEnd) : VmxCpu :=
    { t with env := { t.env with entries := ⟨resume, t.regs, o⟩ :: t.env.entries } }
  have hblock : w.program.runBlock (code (entryLabel resume)) t =
      w.program.runBlock [.ext (if resume then .vmresume else .vmlaunch), .jmp .Lvmfail] t := by
    cases resume <;> rfl
  have hext : w.program.exec (.ext (if resume then .vmresume else .vmlaunch)) t =
      w.enter resume t := by
    cases resume <;> rfl
  cases hg : w.guest resume t with
  | fail zf =>
    let u : VmxCpu := { t' (.fail zf) with zf := zf }
    let s : VmxCpu := u.set .rbx 1
    have henter : w.enter resume t = .step u := by rw [World.enter, hg]
    have hs : s.rsp = t.rsp := Cpu.set_rsp_of_ne u (by decide) 1
    have hframe : Frame depth s₀ home s := ⟨hs.trans h.rsp, by rw [hs]; exact h.holds, h.keeps⟩
    obtain ⟨s', hrun, hrestored⟩ := run_restore (w := w) hframe hdepth
    refine ⟨s, s', ?_, hrestored, rfl, ?_⟩
    · rw [henter] at hext
      rw [Program.runBlock_cons_step _ hext, Program.runBlock_cons_jump _ (t := u) rfl] at hblock
      apply Program.Returns.jump hblock
      apply Program.Returns.ret
      exact (Program.runBlock_cons_step _ (t := s) rfl).trans hrun
    · intro s₁ hs₁
      refine ⟨hrestored.rax.trans ?_, hrestored.data.trans hs₁.symm⟩
      simp [s, Cpu.set]
  | exit regs =>
    let u : VmxCpu := { t' (.exit regs) with
      regs := Function.update regs .rsp t.env.vmcs.vmcs.HOST_RSP, zf := false }
    have henter : w.enter resume t = .jump .vmx_vmexit u := by rw [World.enter, hg]
    have hu : u.rsp = t.rsp := by
      rw [← hhost]
      simp [u, Cpu.rsp]
    have huframe : Frame depth s₀ home u := ⟨hu.trans h.rsp, by rw [hu]; exact h.holds, h.keeps⟩
    obtain ⟨s, hexit, hmem, hrsp, hrbx, hdata, henv⟩ := run_vmexit (w := w) u
    have hframe := huframe.write_below w.depth_ge hdepth hmem hrsp
    obtain ⟨s', hrun, hrestored⟩ := run_restore (w := w) hframe hdepth
    refine ⟨s, s', ?_, hrestored, henv, ?_⟩
    · rw [henter] at hext
      rw [Program.runBlock_cons_jump _ hext] at hblock
      apply Program.Returns.jump hblock
      apply Program.Returns.fall hexit rfl
      exact Program.Returns.ret hrun
    · intro s₁ _
      refine ⟨hrestored.rax.trans hrbx, fun v => ?_⟩
      have hne : v.reg ≠ .rsp := by cases v <;> decide
      rw [hrestored.data, hdata v]
      exact Function.update_of_ne hne _ _

/-- **A run of the stub**, from the return address on the stack back to it. -/
theorem run_stub (w : World depth) (s₀ : VmxCpu) (hdepth : 80 + depth ≤ 2 ^ 64)
    (hvmcs : Transition.Run hostSystem (fun _ _ => True) s₀.env.vmcs) :
    ∃ t s', w.program.Returns .vmx_vcpu_run s₀ s' ∧ Ran w s₀ t s' := by
  obtain ⟨a, home, hentry, hframe, hhome, hrbx, hdata, henv⟩ := run_entry (w := w) s₀ (by omega)
  have hresumes : resumes (a.regs .rbx) = resumes (s₀.regs .r8) := by
    rw [hrbx]
    simp [resumes]
  have hload := run_load (w := w) a
  rw [hresumes] at hload
  let t := atEntry a
  have hregs (v : Var) : t.regs v.reg = s₀.data v := by
    rw [← hdata]
    exact loaded_reg _ a.data v
  have hrsp : t.rsp = a.rsp := by
    refine (loaded_rsp _ a.data).trans ?_
    exact Function.update_of_ne (by decide : Reg.rsp ≠ .rax) (read a.mem a.rsp) a.regs
  have hhost : t.env.vmcs.vmcs.HOST_RSP = t.rsp := by
    rw [hrsp, hframe.rsp]
    refine (congrArg (fun e : Machine => e.vmcs.vmcs.HOST_RSP) henv).trans ?_
    exact host_rsp_updated (host_rsp_cached hvmcs) _
  have htframe : Frame depth s₀ home t :=
    ⟨hrsp.trans hframe.rsp, by rw [hrsp]; exact hframe.holds, hframe.keeps⟩
  obtain ⟨s, s', hreturns, hrestored, hs, houtcome⟩ :=
    run_guest (w := w) (resumes (s₀.regs .r8)) htframe hdepth hhost
  have hte : t.env = { s₀.env with vmcs := vmx_update_host_rsp (s₀.rsp - 72) s₀.env.vmcs } := henv
  refine ⟨t, s', Program.Returns.jump hentry ?_, hrestored.ran hhome hregs ?_ ?_ ?_⟩
  · cases hr : resumes (s₀.regs .r8) with
    | false =>
      rw [hr] at hload hreturns
      exact Program.Returns.jump hload hreturns
    | true =>
      rw [hr] at hload hreturns
      exact Program.Returns.fall hload rfl hreturns
  · rw [hs, hte]
  · rw [hs, hte]
  · exact houtcome s₀ hdata.symm

/-- Callees that touch no register and no memory, and a guest. -/
def leafWorld (guest : Bool → VmxCpu → EntryEnd) : World 8 where
  guest := guest
  update_host_rsp s := { s with
    env := { s.env with vmcs := vmx_update_host_rsp (s.regs .rdx) s.env.vmcs } }
  spec_ctrl_restore_host s := { s with
    env := { s.env with restored := some (s.regs .rcx, s.regs .rdx) } }
  update_abi _ := ⟨fun _ _ => rfl, Keeps.refl _ _ _⟩
  update_env _ := rfl
  update_data _ := rfl
  restore_abi _ := ⟨fun _ _ => rfl, Keeps.refl _ _ _⟩
  restore_env _ := rfl
  restore_data _ := rfl
  depth_ge := le_refl 8

theorem leafWorld_keepsHome (guest : Bool → VmxCpu → EntryEnd) : (leafWorld guest).KeepsHome :=
  ⟨fun _ => Keeps.refl _ _ _, fun _ => Keeps.refl _ _ _⟩

/-- A processor that has 7 in RSI, in a new VMCS. -/
def sampleCpu : VmxCpu where
  regs := Function.update (fun _ => 0) .rsi 7
  zf := false
  rip := 0
  mem := fun _ => 0
  data := fun _ => 0
  env := ⟨alloc_loaded_vmcs, [], none⟩

/-- **The stub returns to its caller.** With HOST_RSP and its cache as any history of the VMCS leaves
them, `__vmx_vcpu_run` enters the guest once, with the registers in the variables, by VMRESUME if the
flags say so, and returns in one state only: with 0 after a VM exit and 1 after a VM-fail, at the
return address on the stack and with the caller's stack as it was. -/
theorem vmx_vcpu_run_returns (w : World depth) (s₀ : VmxCpu) (hdepth : 80 + depth ≤ 2 ^ 64)
    (hvmcs : Transition.Run hostSystem (fun _ _ => True) s₀.env.vmcs) :
    ∃ t s', (∀ u, w.program.Returns .vmx_vcpu_run s₀ u ↔ u = s') ∧ Ran w s₀ t s' := by
  obtain ⟨t, s', hret, hran⟩ := run_stub w s₀ hdepth hvmcs
  refine ⟨t, s', fun u => ⟨fun hu => hu.unique hret, ?_⟩, hran⟩
  rintro rfl
  exact hret

/-- A guest that exits at once with 5 in every register. -/
theorem vmx_vcpu_run_returns_sample : ∃ t s',
    (∀ u, (leafWorld fun _ _ => .exit fun _ => 5).program.Returns .vmx_vcpu_run sampleCpu u ↔
        u = s') ∧ Ran (leafWorld fun _ _ => .exit fun _ => 5) sampleCpu t s' :=
  vmx_vcpu_run_returns _ sampleCpu (by omega) (.start _ rfl)

/-- **RSI and RDI are lost.** The caller finds its nonvolatile registers as they were, RSI and RDI
among them, exactly if RSI and RDI were 0, also where the callees leave their home space alone. -/
theorem vmx_vcpu_run_nonvolatile (w : World depth) (hw : w.KeepsHome) (s₀ s' : VmxCpu)
    (hdepth : 80 + depth ≤ 2 ^ 64)
    (hvmcs : Transition.Run hostSystem (fun _ _ => True) s₀.env.vmcs)
    (hret : w.program.Returns .vmx_vcpu_run s₀ s') :
    (∀ r ∈ Reg.nonvolatile, r ≠ .rsp → s'.regs r = s₀.regs r) ↔
      s₀.regs .rsi = 0 ∧ s₀.regs .rdi = 0 := by
  obtain ⟨t, s, hret', hran⟩ := run_stub w s₀ hdepth hvmcs
  obtain rfl := hret.unique hret'
  have hsaved := hran.saved hw
  simp only [List.cons.injEq, and_true] at hsaved
  obtain ⟨hrbx, hr12, hr13, hr14⟩ := hsaved
  constructor
  · intro h
    refine ⟨?_, ?_⟩
    · rw [← h .rsi (by decide) (by decide), hran.rsi]
    · rw [← h .rdi (by decide) (by decide), hran.rdi]
  · rintro ⟨hrsi, hrdi⟩ r hr hne
    have hcases : ∀ q ∈ Reg.nonvolatile, q = .rbx ∨ q = .rbp ∨ q = .rdi ∨ q = .rsi ∨ q = .rsp ∨
        q = .r12 ∨ q = .r13 ∨ q = .r14 ∨ q = .r15 := by decide
    rcases hcases r hr with rfl | rfl | rfl | rfl | rfl | rfl | rfl | rfl | rfl
    · exact hrbx
    · exact hran.rbp
    · exact hran.rdi.trans hrdi.symm
    · exact hran.rsi.trans hrsi.symm
    · exact absurd rfl hne
    · exact hr12
    · exact hr13
    · exact hr14
    · exact hran.r15

/-- The caller had 7 in RSI. -/
theorem vmx_vcpu_run_nonvolatile_sample : ∃ s',
    (leafWorld fun _ _ => .exit fun _ => 5).program.Returns .vmx_vcpu_run sampleCpu s' ∧
      ¬ ∀ r ∈ Reg.nonvolatile, r ≠ .rsp → s'.regs r = sampleCpu.regs r := by
  have hvmcs : Transition.Run hostSystem (fun _ _ => True) sampleCpu.env.vmcs := .start _ rfl
  obtain ⟨-, s', hret, -⟩ := run_stub (leafWorld fun _ _ => .exit fun _ => 5) sampleCpu (by omega) hvmcs
  refine ⟨s', hret, fun h => ?_⟩
  have hrsi := ((vmx_vcpu_run_nonvolatile _ (leafWorld_keepsHome _) sampleCpu s' (by omega) hvmcs
    hret).mp h).1
  exact absurd hrsi (by decide)

end Svmx.VmxEnter
