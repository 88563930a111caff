/-
The x86-64 instructions that entry stubs are written in: moves, pushes and pops, calls.

A `Cpu` has the general-purpose registers, ZF, a stack memory, named quadword variables and the rest of
the machine in `env`. The effect of anything else, a call of a C function with its `ret` included, is
the parameter `ext`. The rules are those of a stub: a run of pushes (`runBlock_pushes`), a run of pops
(`runBlock_pops`), and what a callee that follows the Windows x64 convention leaves alone (`Abi`).
-/
import Svmx.AsmBlock
import Svmx.StackMemory
import Mathlib.Logic.Function.Basic

set_option autoImplicit false

namespace X64

open AsmBlock StackMemory

variable {V E F L : Type*}

/-! ## The processor -/

inductive Reg where
  | rax | rcx | rdx | rbx | rsp | rbp | rsi | rdi
  | r8 | r9 | r10 | r11 | r12 | r13 | r14 | r15
deriving DecidableEq

/-- `rip` is where the last `ret` went. -/
structure Cpu (V E : Type*) where
  regs : Reg → BitVec 64
  zf : Bool
  rip : BitVec 64
  mem : Mem
  data : V → BitVec 64
  env : E

inductive Operand (V : Type*) where
  | reg (r : Reg)
  | var (v : V)

inductive Instr (V F L : Type*) where
  | push (r : Reg)
  | pop (dst : Operand V)
  | mov (dst src : Operand V)
  | movImm (dst : Reg) (n : BitVec 64)
  | mov32 (dst src : Reg)
  | loadTop (dst : Reg)
  | leaTop (dst : Reg)
  | xor32 (r : Reg)
  | test32 (r : Reg) (n : BitVec 32)
  | addRsp (n : BitVec 64)
  | subRsp (n : BitVec 64)
  | nop
  | jmp (l : L)
  | jz (l : L)
  | ret
  | ext (f : F)

/-! ## Execution -/

namespace Cpu

def rsp (s : Cpu V E) : Addr := s.regs .rsp

def set (s : Cpu V E) (r : Reg) (v : BitVec 64) : Cpu V E :=
  { s with regs := Function.update s.regs r v }

def get (s : Cpu V E) : Operand V → BitVec 64
  | .reg r => s.regs r
  | .var v => s.data v

def put [DecidableEq V] (s : Cpu V E) (o : Operand V) (x : BitVec 64) : Cpu V E :=
  match o with
  | .reg r => s.set r x
  | .var v => { s with data := Function.update s.data v x }

def push (s : Cpu V E) (x : BitVec 64) : Cpu V E :=
  { s.set .rsp (s.rsp - 8) with mem := write s.mem (s.rsp - 8) x }

@[simp] theorem set_mem (s : Cpu V E) (r : Reg) (v : BitVec 64) : (s.set r v).mem = s.mem := rfl

@[simp] theorem set_data (s : Cpu V E) (r : Reg) (v : BitVec 64) : (s.set r v).data = s.data := rfl

@[simp] theorem set_env (s : Cpu V E) (r : Reg) (v : BitVec 64) : (s.set r v).env = s.env := rfl

@[simp] theorem set_zf (s : Cpu V E) (r : Reg) (v : BitVec 64) : (s.set r v).zf = s.zf := rfl

@[simp] theorem set_rip (s : Cpu V E) (r : Reg) (v : BitVec 64) : (s.set r v).rip = s.rip := rfl

@[simp] theorem set_rsp_rsp (s : Cpu V E) (v : BitVec 64) : (s.set .rsp v).rsp = v := by
  simp [rsp, set]

theorem set_rsp_of_ne (s : Cpu V E) {r : Reg} (h : r ≠ .rsp) (v : BitVec 64) :
    (s.set r v).rsp = s.rsp := by
  simp [rsp, set, Function.update_of_ne h.symm]

end Cpu

variable [DecidableEq V]

/-- An instruction; `ext` is what the machine around the stub does. -/
def exec (ext : F → Cpu V E → Next L (Cpu V E)) : Instr V F L → Cpu V E → Next L (Cpu V E)
  | .push r, s => .step (s.push (s.regs r))
  | .pop dst, s => .step ((s.set .rsp (s.rsp + 8)).put dst (read s.mem s.rsp))
  | .mov dst src, s => .step (s.put dst (s.get src))
  | .movImm dst n, s => .step (s.set dst n)
  | .mov32 dst src, s => .step (s.set dst ((s.regs src).setWidth 32 |>.setWidth 64))
  | .loadTop dst, s => .step (s.set dst (read s.mem s.rsp))
  | .leaTop dst, s => .step (s.set dst s.rsp)
  | .xor32 r, s => .step { s.set r 0 with zf := true }
  | .test32 r n, s => .step { s with zf := decide ((s.regs r).setWidth 32 &&& n = 0) }
  | .addRsp n, s => .step { s.set .rsp (s.rsp + n) with zf := decide (s.rsp + n = 0) }
  | .subRsp n, s => .step { s.set .rsp (s.rsp - n) with zf := decide (s.rsp - n = 0) }
  | .nop, s => .step s
  | .jmp l, s => .jump l s
  | .jz l, s => if s.zf then .jump l s else .step s
  | .ret, s => .ret { s.set .rsp (s.rsp + 8) with rip := read s.mem s.rsp }
  | .ext f, s => ext f s

/-! ## Assignments -/

section Assign

variable {K β : Type*} [DecidableEq K]

/-- Keys are given values, one after another. -/
def assign (f : K → β) : List (K × β) → K → β
  | [] => f
  | (k, b) :: l => assign (Function.update f k b) l

theorem assign_of_notMem {f : K → β} {l : List (K × β)} {k : K} (h : k ∉ l.map Prod.fst) :
    assign f l k = f k := by
  induction l generalizing f with
  | nil => rfl
  | cons x l ih =>
    rw [List.map_cons, List.mem_cons, not_or] at h
    rw [assign, ih h.2, Function.update_of_ne h.1]

theorem assign_of_mem {f : K → β} {l : List (K × β)} (hl : (l.map Prod.fst).Nodup) {k : K} {b : β}
    (h : (k, b) ∈ l) : assign f l k = b := by
  induction l generalizing f with
  | nil => exact absurd h List.not_mem_nil
  | cons x l ih =>
    rw [List.map_cons, List.nodup_cons] at hl
    rcases List.mem_cons.mp h with rfl | h
    · rw [assign, assign_of_notMem hl.1, Function.update_self]
    · exact ih hl.2 h

end Assign

/-! ## Pushes and pops -/

/-- The pushes of a list of registers. -/
def pushes (rs : List Reg) : List (Instr V F L) := rs.map .push

/-- The pops into a list of registers. -/
def pops (rs : List Reg) : List (Instr V F L) := rs.map fun r => .pop (.reg r)

/-- The loads of a list of variables, each into its register. -/
def loads (g : V → Reg) (vs : List V) : List (Instr V F L) :=
  vs.map fun v => .mov (.reg (g v)) (.var v)

/-- The stores of registers to a list of variables. -/
def stores (g : V → Reg) (vs : List V) : List (Instr V F L) :=
  vs.map fun v => .mov (.var v) (.reg (g v))

/-- The zeroing of a list of registers. -/
def xors (rs : List Reg) : List (Instr V F L) := rs.map .xor32

variable (p : Program L (Instr V F L) (Cpu V E)) (ext : F → Cpu V E → Next L (Cpu V E))

/-- **A run of pushes** puts the registers on the live stack and moves nothing but RSP. -/
theorem runBlock_pushes (hp : p.exec = exec ext) (rs : List Reg) (hrs : Reg.rsp ∉ rs)
    (s : Cpu V E) (xs : List (BitVec 64)) (hs : Holds s.mem s.rsp xs)
    (hlen : 8 * (rs.length + xs.length) ≤ 2 ^ 64) :
    ∃ mem, p.runBlock (pushes rs) s =
        .step { s.set .rsp (s.rsp - BitVec.ofNat 64 (8 * rs.length)) with mem := mem } ∧
      Holds mem (s.rsp - BitVec.ofNat 64 (8 * rs.length)) (rs.reverse.map s.regs ++ xs) ∧
      Keeps (s.rsp - BitVec.ofNat 64 (8 * rs.length)) (8 * rs.length) s.mem mem := by
  induction rs generalizing s xs with
  | nil =>
    refine ⟨s.mem, ?_, ?_, Keeps.refl _ _ _⟩
    · simp [pushes, Cpu.set, Cpu.rsp]
    · simpa using hs
  | cons r rs ih =>
    rw [List.length_cons] at hlen
    have hr : r ≠ .rsp := fun h => hrs (by simp [h])
    have htop : (s.push (s.regs r)).rsp = s.rsp - 8 := by simp [Cpu.push, Cpu.set, Cpu.rsp]
    have hmem : (s.push (s.regs r)).mem = write s.mem (s.rsp - 8) (s.regs r) := rfl
    have hpush : Holds (s.push (s.regs r)).mem (s.push (s.regs r)).rsp (s.regs r :: xs) := by
      rw [htop, hmem]
      exact hs.push (s.regs r) (by omega)
    obtain ⟨mem, hrun, hholds, hkeeps⟩ := ih (fun h => hrs (by simp [h])) (s.push (s.regs r))
      (s.regs r :: xs) hpush (by simp only [List.length_cons]; omega)
    have haddr : s.rsp - 8 - BitVec.ofNat 64 (8 * rs.length) =
        s.rsp - BitVec.ofNat 64 (8 * (r :: rs).length) := by
      rw [sub_eight, List.length_cons]
    rw [htop, haddr] at hrun hholds hkeeps
    refine ⟨mem, ?_, ?_, ?_⟩
    · rw [pushes, List.map_cons, p.runBlock_cons_step (t := s.push (s.regs r)) (by rw [hp]; rfl)]
      rw [pushes] at hrun
      rw [hrun]
      simp [Cpu.push, Cpu.set]
    · have hregs : rs.reverse.map (s.push (s.regs r)).regs = rs.reverse.map s.regs := by
        apply List.map_congr_left
        intro q hq
        have hne : q ≠ .rsp := fun h => hrs (by simp_all)
        simp [Cpu.push, Cpu.set, hne]
      rw [hregs] at hholds
      simpa using hholds
    · apply Keeps.trans _ (hkeeps.mono _)
      · rw [hmem]
        apply (keeps_write s.mem (s.rsp - 8) (s.regs r)).mono
        intro x hx
        apply hx.shift (d := 8 * rs.length) _ (by simp only [List.length_cons]; omega)
        rw [← haddr]
        exact (BitVec.sub_add_cancel _ _).symm
      · intro x hx
        exact hx.shift (d := 0) (by simp) (by simp only [List.length_cons]; omega)

/-- **A run of pops** takes the registers from the live stack. -/
theorem runBlock_pops (hp : p.exec = exec ext) (rs : List Reg) (hrs : Reg.rsp ∉ rs)
    (vs : List (BitVec 64)) (hvs : vs.length = rs.length) (s : Cpu V E) (xs : List (BitVec 64))
    (hs : Holds s.mem s.rsp (vs ++ xs)) :
    p.runBlock (pops rs) s = .step { s with
        regs := assign (Function.update s.regs .rsp
          (s.rsp + BitVec.ofNat 64 (8 * rs.length))) (rs.zip vs) } ∧
      Holds s.mem (s.rsp + BitVec.ofNat 64 (8 * rs.length)) xs := by
  induction rs generalizing vs s with
  | nil =>
    obtain rfl : vs = [] := List.eq_nil_of_length_eq_zero hvs
    refine ⟨?_, by simpa using hs⟩
    simp [pops, assign, Cpu.rsp]
  | cons r rs ih =>
    obtain ⟨v, vs, rfl⟩ := List.exists_cons_of_length_eq_add_one hvs
    have hr : Reg.rsp ≠ r := fun h => hrs (by simp [h])
    let t := (s.set .rsp (s.rsp + 8)).set r v
    have htop : t.rsp = s.rsp + 8 := by
      rw [Cpu.set_rsp_of_ne _ hr.symm, Cpu.set_rsp_rsp]
    have hstep : p.exec (.pop (.reg r)) s = .step t := by
      rw [hp]
      simp only [exec, Cpu.put]
      rw [hs.1]
    have haddr : s.rsp + 8 + BitVec.ofNat 64 (8 * rs.length) =
        s.rsp + BitVec.ofNat 64 (8 * (r :: rs).length) := by
      rw [add_eight, List.length_cons]
    obtain ⟨hrun, hholds⟩ := ih (fun h => hrs (by simp [h])) vs (by simpa using hvs) t
      (by rw [htop]; exact hs.2)
    rw [htop, haddr] at hrun hholds
    refine ⟨?_, hholds⟩
    rw [pops, List.map_cons, p.runBlock_cons_step hstep]
    rw [pops] at hrun
    rw [hrun]
    have hregs : Function.update t.regs .rsp (s.rsp + BitVec.ofNat 64 (8 * (r :: rs).length)) =
        Function.update (Function.update s.regs .rsp
          (s.rsp + BitVec.ofNat 64 (8 * (r :: rs).length))) r v := by
      simp only [t, Cpu.set]
      rw [Function.update_comm hr.symm, Function.update_idem, Function.update_comm hr]
    rw [hregs]
    rfl

/-! ## Loads and stores -/

/-- **A run of loads.** -/
theorem runBlock_loads (hp : p.exec = exec ext) (g : V → Reg) (vs : List V) (s : Cpu V E) :
    p.runBlock (loads g vs) s =
      .step { s with regs := assign s.regs (vs.map fun v => (g v, s.data v)) } := by
  induction vs generalizing s with
  | nil => rfl
  | cons v vs ih =>
    rw [loads, List.map_cons, p.runBlock_cons_step (t := s.set (g v) (s.data v)) (by rw [hp]; rfl)]
    exact ih (s.set (g v) (s.data v))

/-- **A run of stores.** -/
theorem runBlock_stores (hp : p.exec = exec ext) (g : V → Reg) (vs : List V) (s : Cpu V E) :
    p.runBlock (stores g vs) s =
      .step { s with data := assign s.data (vs.map fun v => (v, s.regs (g v))) } := by
  induction vs generalizing s with
  | nil => rfl
  | cons v vs ih =>
    rw [stores, List.map_cons, p.runBlock_cons_step
      (t := { s with data := Function.update s.data v (s.regs (g v)) }) (by rw [hp]; rfl)]
    exact ih _

/-- **A run of zeroings.** -/
theorem runBlock_xors (hp : p.exec = exec ext) (rs : List Reg) (hrs : rs ≠ []) (s : Cpu V E) :
    p.runBlock (xors rs) s =
      .step { s with regs := assign s.regs (rs.map fun r => (r, 0)), zf := true } := by
  induction rs generalizing s with
  | nil => exact absurd rfl hrs
  | cons r rs ih =>
    rw [xors, List.map_cons, p.runBlock_cons_step (t := { s.set r 0 with zf := true })
      (by rw [hp]; rfl)]
    by_cases hnil : rs = []
    · subst hnil
      rfl
    · exact ih hnil { s.set r 0 with zf := true }

/-! ## Callees -/

/-- The registers that a function keeps on Windows x64. -/
def Reg.nonvolatile : List Reg := [.rbx, .rbp, .rdi, .rsi, .rsp, .r12, .r13, .r14, .r15]

/-- A call that keeps to the convention: it writes below RSP, at most `depth` bytes deep, and in the
four quadwords of home space at RSP. -/
structure Abi (depth : Nat) (s s' : Cpu V E) : Prop where
  regs : ∀ r ∈ Reg.nonvolatile, s'.regs r = s.regs r
  mem : Keeps (s.rsp - BitVec.ofNat 64 depth) (depth + 32) s.mem s'.mem

omit [DecidableEq V] in
/-- RSP is as before the call. -/
theorem Abi.rsp {depth : Nat} {s s' : Cpu V E} (h : Abi depth s s') : s'.rsp = s.rsp :=
  h.regs .rsp (by decide)

omit [DecidableEq V] in
/-- **A call** keeps the stack but for the home space. -/
theorem Abi.holds {depth : Nat} {s s' : Cpu V E} (h : Abi depth s s') {home ys : List (BitVec 64)}
    (hhome : home.length = 4) (hs : Holds s.mem s.rsp (home ++ ys))
    (hlen : depth + 32 + 8 * ys.length ≤ 2 ^ 64) :
    Holds s'.mem s'.rsp (reads s'.mem s'.rsp 4 ++ ys) := by
  apply holds_reads_append
  rw [h.rsp]
  have hys := hs.append_right
  rw [hhome] at hys
  apply hys.of_keeps_below h.mem (d := depth + 32) _ (le_refl _) hlen
  rw [← add_ofNat_ofNat, BitVec.sub_add_cancel]

omit [DecidableEq V] in
/-- A call that leaves its home space alone keeps the whole stack. -/
theorem Abi.holds_of_keeps {depth : Nat} {s s' : Cpu V E} (h : Abi depth s s')
    (hkeeps : Keeps (s.rsp - BitVec.ofNat 64 depth) depth s.mem s'.mem) {xs : List (BitVec 64)}
    (hs : Holds s.mem s.rsp xs) (hlen : depth + 8 * xs.length ≤ 2 ^ 64) :
    Holds s'.mem s'.rsp xs := by
  rw [h.rsp]
  apply hs.of_keeps_below hkeeps (d := depth) _ (le_refl _) hlen
  exact (BitVec.sub_add_cancel _ _).symm

end X64
