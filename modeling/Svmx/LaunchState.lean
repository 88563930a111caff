/-
The launch state of the VMCSs, and the instruction that `__vmx_vcpu_run` enters the guest with.

The processor keeps for every VMCS whether it is clear or launched; VMLAUNCH fails with a launched one
and VMRESUME with a clear one. The driver has no way to read it and keeps `launched` beside it. The two
agree in every history in which a vCPU is run only while its VMCS is the current one
(`launch_state_agrees`).
-/
import Svmx.VmcsLoad
import Svmx.VmxEnter

set_option autoImplicit false

namespace Svmx.LaunchState

open VmcsLoad

variable {V P : Type*} [DecidableEq V] [DecidableEq P] {n : ℕ}

/-! ## The launch state -/

/-- The driver's side, and the launch state of each region: launched or clear. -/
structure Machine (V P : Type*) (n : ℕ) where
  host : Host V P n
  launched : P → Bool

/-- VMCLEAR makes the launch state clear; of the region at 0 it fails. -/
def VMCLEAR (vmcs : Option P) (launched : P → Bool) : P → Bool :=
  match vmcs with
  | none => launched
  | some p => Function.update launched p false

def VMX_RUN_SAVE_SPEC_CTRL : BitVec 32 := 2

/-- `__vmx_vcpu_run_flags`. -/
def __vmx_vcpu_run_flags (lv : LoadedVmcs P n) (msr_write_intercepted : Bool) : BitVec 32 :=
  (if lv.launched then VmxEnter.VMX_RUN_VMRESUME else 0) |||
    (if msr_write_intercepted then 0 else VMX_RUN_SAVE_SPEC_CTRL)

/-- The instruction that `__vmx_vcpu_run` chooses is VMRESUME. -/
def vmresume (lv : LoadedVmcs P n) (msr_write_intercepted : Bool) : Bool :=
  VmxEnter.resumes ((__vmx_vcpu_run_flags lv msr_write_intercepted).setWidth 64)

/-- `vmx_vcpu_run` of `v` on its processor: the entry is one of the current VMCS, it fails if the launch
state is not the one for the instruction, and otherwise if one of the other checks does. -/
def run (v : V) (checks msr_write_intercepted : Bool) (m : Machine V P n) : Machine V P n :=
  match m.host.loaded_vmcs v with
  | none => m
  | some lv =>
    match m.host.vmptr lv.vcpu_id with
    | none => m
    | some p =>
      if checks && (vmresume lv msr_write_intercepted == m.launched p) then
        ⟨vmx_vcpu_run v true m.host, Function.update m.launched p true⟩
      else m

/-- `vcpu_load`: a VMCS that was loaded on another processor is cleared first. -/
def load (v : V) (m : Machine V P n) : Machine V P n :=
  match m.host.loaded_vmcs v with
  | none => m
  | some lv => ⟨vcpu_load v m.host,
      if lv.cpu ≠ some lv.vcpu_id then
        (if lv.cpu ≠ none then VMCLEAR lv.vmcs m.launched else m.launched)
      else m.launched⟩

/-- `free_loaded_vmcs`. -/
def free (v : V) (m : Machine V P n) : Machine V P n :=
  match m.host.loaded_vmcs v with
  | none => m
  | some lv => ⟨free_loaded_vmcs v m.host,
      if lv.vmcs ≠ none ∧ lv.cpu ≠ none then VMCLEAR lv.vmcs m.launched else m.launched⟩

/-- `vmx_vcpu_create`: `alloc_loaded_vmcs` clears the new region. -/
def create (v : V) (vcpu_id : Fin n) (p : P) (m : Machine V P n) : Machine V P n :=
  ⟨vmx_vcpu_create v vcpu_id p m.host, VMCLEAR (some p) m.launched⟩

/-! ## Histories -/

/-- One operation. -/
inductive Op (V P : Type*) (n : ℕ) where
  | create (v : V) (vcpu_id : Fin n) (p : P)
  | load (v : V)
  | run (v : V) (checks msr_write_intercepted : Bool)
  | free (v : V)

/-- The preconditions are those of the operations on the driver's side. -/
def Op.Valid (h : Host V P n) : Op V P n → Prop
  | .create v vcpu_id p => VmcsLoad.Op.Valid h (.create v vcpu_id p)
  | .load v => VmcsLoad.Op.Valid h (.load v : VmcsLoad.Op V P n)
  | .run v _ _ => VmcsLoad.Op.Valid h (.run v true : VmcsLoad.Op V P n)
  | .free v => VmcsLoad.Op.Valid h (.free v : VmcsLoad.Op V P n)

def apply (m : Machine V P n) : Op V P n → Machine V P n
  | .create v vcpu_id p => create v vcpu_id p m
  | .load v => load v m
  | .run v checks msr_write_intercepted => run v checks msr_write_intercepted m
  | .free v => free v m

/-- After the driver was loaded; nothing is known of the launch state of memory. -/
def launchSystem (V P : Type*) [DecidableEq V] [DecidableEq P] (n : ℕ) :
    Transition.System (Machine V P n) (Op V P n) where
  init m := m.host = initial
  step m op m' := op.Valid m.host ∧ m' = apply m op

/-- A vCPU that is run was the last one to be loaded on its processor. -/
def RunsCurrent (m : Machine V P n) : Op V P n → Prop
  | .run v _ _ => ∀ lv, m.host.loaded_vmcs v = some lv → m.host.vmptr lv.vcpu_id = lv.vmcs
  | _ => True

/-! ## The invariant -/

omit [DecidableEq P] in
/-- The flags ask for VMRESUME exactly if `launched` is set. -/
theorem vmresume_eq (lv : LoadedVmcs P n) (msr_write_intercepted : Bool) :
    vmresume lv msr_write_intercepted = lv.launched := by
  unfold vmresume __vmx_vcpu_run_flags
  cases lv.launched <;> cases msr_write_intercepted <;> decide

/-- `launched` is the launch state. -/
structure Agrees (m : Machine V P n) : Prop where
  tracked : Tracked m.host
  launched : ∀ v lv p, m.host.loaded_vmcs v = some lv → lv.vmcs = some p →
    m.launched p = lv.launched

variable {m : Machine V P n} {v : V}

theorem Agrees.after_create (h : Agrees m) (vcpu_id : Fin n) {p : P}
    (hvalid : (Op.create v vcpu_id p).Valid m.host) : Agrees (create v vcpu_id p m) := by
  refine ⟨create_tracked h.tracked hvalid.1 vcpu_id hvalid.2, ?_⟩
  intro v' lv' q hv' hq
  have hvcpus : (vmx_vcpu_create v vcpu_id p m.host).loaded_vmcs =
      Function.update m.host.loaded_vmcs v (some ⟨some p, none, false, vcpu_id⟩) := by
    rw [vmx_vcpu_create, ipi_clear, vmcs_clear_eq]
  simp only [create, hvcpus] at hv'
  simp only [create, VMCLEAR]
  rcases update_eq_some hv' with ⟨rfl, rfl⟩ | ⟨-, hold⟩
  · obtain rfl := Option.some.inj hq
    exact Function.update_self _ _ _
  · -- the new region is none that another vCPU has
    have hne : q ≠ p := by
      rintro rfl
      exact hvalid.2 ⟨v', lv', hold, hq⟩
    rw [Function.update_of_ne hne]
    exact h.launched v' lv' q hold hq

theorem Agrees.after_load (h : Agrees m) {lv : LoadedVmcs P n} (hv : m.host.loaded_vmcs v = some lv) :
    Agrees (load v m) := by
  -- a vCPU is never loaded on another processor, so nothing is cleared
  have hkeep : load v m = ⟨loaded v lv m.host, m.launched⟩ := by
    have hcases : lv.cpu = none ∨ lv.cpu = some lv.vcpu_id := by
      cases hcpu : lv.cpu with
      | none => exact .inl rfl
      | some cpu => exact .inr (by rw [h.tracked.own_cpu v lv cpu hv hcpu])
    simp only [load, hv, vcpu_load_eq h.tracked hv]
    rcases hcases with hcpu | hcpu <;> simp [hcpu]
  rw [hkeep]
  refine ⟨loaded_tracked h.tracked hv, ?_⟩
  intro v' lv' q hv' hq
  rcases update_eq_some hv' with ⟨rfl, rfl⟩ | ⟨-, hold⟩
  · exact h.launched v' lv q hv hq
  · exact h.launched v' lv' q hold hq

theorem Agrees.after_free (h : Agrees m) {lv : LoadedVmcs P n} (hv : m.host.loaded_vmcs v = some lv) :
    Agrees (free v m) := by
  by_cases hvmcs : lv.vmcs = none
  · have hnop : free v m = m := by
      simp [free, hv, free_loaded_vmcs, hvmcs]
    rw [hnop]
    exact h
  · have hfree : (free v m).host = freed v lv m.host := by
      simp only [free, hv, free_loaded_vmcs_eq h.tracked hv hvmcs]
    refine ⟨hfree ▸ freed_tracked h.tracked hv, ?_⟩
    intro v' lv' q hv' hq
    rw [hfree] at hv'
    rcases update_eq_some hv' with ⟨-, rfl⟩ | ⟨hne, hold⟩
    · cases hq
    · have hq' : lv.vmcs ≠ some q := fun hp => hne (h.tracked.distinct v' v lv' lv q hold hv hq hp)
      have hlaunched : (free v m).launched q = m.launched q := by
        obtain ⟨p, hp⟩ := Option.ne_none_iff_exists'.mp hvmcs
        have hqp : q ≠ p := by
          rintro rfl
          exact hq' hp
        simp only [free, hv, hp, VMCLEAR]
        split
        · exact Function.update_of_ne hqp _ _
        · rfl
      rw [hlaunched]
      exact h.launched v' lv' q hold hq

theorem Agrees.after_run (h : Agrees m) (checks msr_write_intercepted : Bool)
    (hvalid : m.host.vcpu_loaded v = true)
    (hcurrent : ∀ lv, m.host.loaded_vmcs v = some lv → m.host.vmptr lv.vcpu_id = lv.vmcs) :
    Agrees (run v checks msr_write_intercepted m) := by
  obtain ⟨lv, hv, -⟩ := h.tracked.was_loaded v hvalid
  have hptr := hcurrent lv hv
  unfold run
  rw [hv]
  dsimp only
  cases hp : m.host.vmptr lv.vcpu_id with
  | none => exact h
  | some p =>
    dsimp only
    split
    · refine ⟨run_tracked h.tracked hvalid true, ?_⟩
      intro v' lv' q hv' hq
      have hwrite : (vmx_vcpu_run v true m.host).loaded_vmcs =
          Function.update m.host.loaded_vmcs v (some { lv with launched := true }) := by
        simp only [vmx_vcpu_run, if_true, write, hv, Option.map_some]
      rw [hwrite] at hv'
      rcases update_eq_some hv' with ⟨rfl, rfl⟩ | ⟨hne, hold⟩
      · obtain rfl : q = p := Option.some.inj (hq.symm.trans (hptr.symm.trans hp))
        exact Function.update_self _ _ _
      · have hqp : q ≠ p := by
          rintro rfl
          exact hne (h.tracked.distinct v' v lv' lv q hold hv hq (hptr.symm.trans hp))
        exact (Function.update_of_ne hqp _ _).trans (h.launched v' lv' q hold hq)
    · exact h

theorem Agrees.after_apply (h : Agrees m) (op : Op V P n) (hvalid : op.Valid m.host)
    (hcurrent : RunsCurrent m op) : Agrees (apply m op) := by
  cases op with
  | create v vcpu_id p => exact h.after_create vcpu_id hvalid
  | load v =>
    obtain ⟨lv, hv⟩ := Option.ne_none_iff_exists'.mp hvalid
    exact h.after_load hv
  | run v checks msr_write_intercepted => exact h.after_run checks msr_write_intercepted hvalid hcurrent
  | free v =>
    obtain ⟨lv, hv⟩ := Option.ne_none_iff_exists'.mp hvalid
    exact h.after_free hv

/-- **The launch state is known.** In every history of creations, loads, runs and frees in which a
vCPU is run only while its VMCS is the current one of its processor, `launched` is the launch state of
every VMCS. So at each run the flags choose the instruction that the current VMCS needs exactly if the
vCPU it belongs to has the same `launched`, as the vCPU itself has when it was loaded last. -/
theorem launch_state_agrees
    (hrun : Transition.Run (launchSystem V P n) RunsCurrent m) :
    (∀ v lv p, m.host.loaded_vmcs v = some lv → lv.vmcs = some p → m.launched p = lv.launched) ∧
    ∀ v lv p intercepted, m.host.loaded_vmcs v = some lv → m.host.vmptr lv.vcpu_id = some p →
      ∃ v' lv', m.host.loaded_vmcs v' = some lv' ∧ lv'.vmcs = some p ∧
        (vmresume lv intercepted = m.launched p ↔ lv.launched = lv'.launched) := by
  have h : Agrees m := by
    refine hrun.invariant Agrees ?_ ?_
    · intro m hm
      refine ⟨hm ▸ initial_tracked, ?_⟩
      intro v lv p hv
      rw [show m.host = initial from hm] at hv
      exact absurd hv (Option.some_ne_none _).symm
    · rintro m op m' h hcurrent ⟨hvalid, rfl⟩
      exact h.after_apply op hvalid hcurrent
  refine ⟨h.launched, ?_⟩
  intro v lv p intercepted hv hp
  obtain ⟨v', lv', hv', hp', -⟩ := h.tracked.owned _ p hp
  refine ⟨v', lv', hv', hp', ?_⟩
  rw [vmresume_eq, h.launched v' lv' p hv' hp']

/-- A vCPU is created in memory that held a launched VMCS, loaded, and has been entered once. -/
theorem launch_state_agrees_one :
    let m : Machine ℕ ℕ 1 := apply (apply (apply ⟨initial, fun _ => true⟩ (.create 1 0 10)) (.load 1))
      (.run 1 true true)
    ∀ v lv p, m.host.loaded_vmcs v = some lv → lv.vmcs = some p → m.launched p = lv.launched := by
  intro m
  have hcreate : (Op.create 1 0 10).Valid (initial : Host ℕ ℕ 1) := by
    refine ⟨rfl, ?_⟩
    rintro ⟨_, _, hv, _⟩
    exact absurd hv (Option.some_ne_none _).symm
  have h₀ : Transition.Run (launchSystem ℕ ℕ 1) RunsCurrent ⟨initial, fun _ => true⟩ := .start _ rfl
  have h₁ := Transition.Run.step _ (Op.create 1 0 10) _ h₀ trivial ⟨hcreate, rfl⟩
  have h₂ := Transition.Run.step _ (Op.load 1) _ h₁ trivial ⟨Option.some_ne_none _, rfl⟩
  have hcurrent : RunsCurrent (apply (apply (⟨initial, fun _ => true⟩ : Machine ℕ ℕ 1)
      (.create 1 0 10)) (.load 1)) (.run 1 true true) := by
    intro lv hlv
    obtain rfl := Option.some.inj hlv
    rfl
  exact (launch_state_agrees (.step _ (Op.run 1 true true) _ h₂ hcurrent ⟨rfl, rfl⟩)).1

end Svmx.LaunchState
