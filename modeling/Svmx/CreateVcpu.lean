/-
The creation of vCPUs (`kvm_vm_ioctl_create_vcpu`, `kvm_arch_vcpu_create`, `vmx_vcpu_create`).

The attempt reserves its place in `created_vcpus` before it allocates anything, and no failure
gives the place back. `kvm_arch_vcpu_create` does not look at the status of the vendor's
`vcpu_create`: without a VMCS `vcpu_load` reads through the NULL `loaded_vmcs`, and the host stops
(`none`). `create_vcpu_exact` says which attempts count what they create, over whole sequences of
attempts; `failed_attempt_counted` is an attempt that does not.

Every allocation of the attempt is answered by one field of `VcpuAnswers`. Left out is what neither
the count nor the array depends on: what is written into the vCPU and its `run` page, and
`kvm_vcpu_reset` and `kvm_init_mmu`, which return nothing.
-/
import Mathlib.Data.Finset.Card
import Mathlib.Data.Fintype.Card
import Svmx.Transition

set_option autoImplicit false

namespace Svmx.Vcpu

/-! ## Statuses -/

/-- An `NTSTATUS` as a C `int`: the error codes are negative. -/
def ntstatus (code : ℕ) : ℤ := (BitVec.ofNat 32 code).toInt

def STATUS_SUCCESS : ℤ := ntstatus 0x00000000
def STATUS_INVALID_PARAMETER : ℤ := ntstatus 0xC000000D
def STATUS_NO_MEMORY : ℤ := ntstatus 0xC0000017
def STATUS_INSUFFICIENT_RESOURCES : ℤ := ntstatus 0xC000009A

/-- `NT_SUCCESS`. -/
def NT_SUCCESS (status : ℤ) : Prop := 0 ≤ status

instance (status : ℤ) : Decidable (NT_SUCCESS status) := inferInstanceAs (Decidable (0 ≤ status))

/-! ## The state -/

/-- What `kvm_vm_ioctl_create_vcpu` uses of `struct kvm`. `max_vcpus` and the length of
`vcpu_array` are both the number `n` of processors. -/
structure Kvm (n : ℕ) where
  created_vcpus : ℤ
  vcpu_array : Fin n → Option ℕ

/-- The flags of the module and the processor that decide which pages are allocated. -/
structure VcpuConfig where
  tdp_enabled : Bool
  tdp_level : ℕ
  has_msr_bitmap : Bool
  has_io_bitmap : Bool

/-- What the pool answers to one attempt: the address of the vCPU, and whether each of the other
allocations succeeds. -/
structure VcpuAnswers where
  vcpu : Option ℕ
  page : Bool
  buckets : Bool
  guest_pae_root : Bool
  root_pae_root : Bool
  vmcs : Bool
  msr_bitmap : Bool
  io_bitmap_a : Bool
  io_bitmap_b : Bool

/-! ## The MMU of the vCPU -/

def PT32E_ROOT_LEVEL : ℕ := 3

/-- `__kvm_mmu_create`, for `guest_mmu` or for `root_mmu`. -/
def __kvm_mmu_create (cfg : VcpuConfig) (guest_mmu : Bool) (pae_root : Bool) : ℤ :=
  if !cfg.tdp_enabled && guest_mmu then 0
  else if cfg.tdp_enabled && cfg.tdp_level > PT32E_ROOT_LEVEL then 0
  else if !pae_root then STATUS_NO_MEMORY
  else STATUS_SUCCESS

/-- `kvm_mmu_create`. -/
def kvm_mmu_create (cfg : VcpuConfig) (ans : VcpuAnswers) : ℤ :=
  if !ans.buckets then STATUS_INSUFFICIENT_RESOURCES
  else
    let ret := __kvm_mmu_create cfg true ans.guest_pae_root
    if ret ≠ 0 then ret
    else __kvm_mmu_create cfg false ans.root_pae_root

/-! ## The VMCS of the vCPU -/

/-- `alloc_loaded_vmcs`. -/
def alloc_loaded_vmcs (cfg : VcpuConfig) (ans : VcpuAnswers) : ℤ :=
  if !ans.vmcs then STATUS_NO_MEMORY
  else if cfg.has_msr_bitmap && !ans.msr_bitmap then STATUS_NO_MEMORY
  else if cfg.has_io_bitmap && !ans.io_bitmap_a then STATUS_NO_MEMORY
  else if cfg.has_io_bitmap && !ans.io_bitmap_b then STATUS_NO_MEMORY
  else STATUS_SUCCESS

/-- `vmx_vcpu_create`: the status, and whether `loaded_vmcs` points to the VMCS. -/
def vmx_vcpu_create (cfg : VcpuConfig) (ans : VcpuAnswers) : ℤ × Bool :=
  let status := alloc_loaded_vmcs cfg ans
  if ¬ NT_SUCCESS status then (status, false) else (STATUS_SUCCESS, true)

/-- `vcpu_load`, down to `vmx_vcpu_load_vmcs`, which reads `loaded_vmcs->cpu`. -/
def vcpu_load (loaded_vmcs : Bool) : Option Unit := if loaded_vmcs then some () else none

/-- `kvm_arch_vcpu_create`. -/
def kvm_arch_vcpu_create (cfg : VcpuConfig) (ans : VcpuAnswers) : Option ℤ := do
  let r := kvm_mmu_create cfg ans
  if r < 0 then return r
  let (r, loaded_vmcs) := vmx_vcpu_create cfg ans
  vcpu_load loaded_vmcs
  return r

/-! ## The attempt -/

/-- `vmx_vcpu_precreate`. -/
def kvm_arch_vcpu_precreate : ℤ := 0

/-- `kvm->vcpu_array[id] = vcpu`; there is no entry behind the array. -/
def store_vcpu {n : ℕ} (kvm : Kvm n) (id : ℕ) (vcpu : ℕ) : Option (Kvm n) :=
  if h : id < n then
    some { kvm with vcpu_array := Function.update kvm.vcpu_array ⟨id, h⟩ (some vcpu) }
  else none

/-- `kvm_vm_ioctl_create_vcpu`. -/
def kvm_vm_ioctl_create_vcpu {n : ℕ} (cfg : VcpuConfig) (ans : VcpuAnswers) (id : ℕ)
    (kvm : Kvm n) : Option (ℤ × Kvm n) := do
  if kvm.created_vcpus ≥ n then return (STATUS_INVALID_PARAMETER, kvm)
  let r := kvm_arch_vcpu_precreate
  if r ≠ 0 then return (r, kvm)
  let kvm := { kvm with created_vcpus := kvm.created_vcpus + 1 }
  let some vcpu := ans.vcpu | return (STATUS_NO_MEMORY, kvm)
  if !ans.page then return (STATUS_NO_MEMORY, kvm)
  let r ← kvm_arch_vcpu_create cfg ans
  if r ≠ 0 then return (r, kvm)
  let kvm ← store_vcpu kvm id vcpu
  return (r, kvm)

/-! ## Sequences of attempts -/

/-- A VM and the ids of the attempts made so far. -/
structure AttemptState (n : ℕ) where
  kvm : Kvm n
  ids : List ℕ

/-- An attempt: its id and what the pool answers. -/
structure Attempt where
  id : ℕ
  ans : VcpuAnswers

/-- The attempts on a new VM, each with an id of its own. -/
def vcpuSystem (n : ℕ) (cfg : VcpuConfig) : Transition.System (AttemptState n) Attempt where
  init s := s.kvm.created_vcpus = 0 ∧ (∀ i, s.kvm.vcpu_array i = none) ∧ s.ids = []
  step s a s' := a.id ∉ s.ids ∧ s'.ids = a.id :: s.ids ∧
    ∃ r, kvm_vm_ioctl_create_vcpu cfg a.ans a.id s.kvm = some (r, s'.kvm)

/-- The number of vCPUs: the entries of `vcpu_array` that are not NULL. -/
def vcpus {n : ℕ} (kvm : Kvm n) : ℕ :=
  (Finset.univ.filter fun i => (kvm.vcpu_array i).isSome).card

/-- What an attempt should do: it returns, and either creates and counts its vCPU and succeeds, or
changes nothing and returns an error status; and it is refused for the limit only when there are
`max_vcpus` vCPUs. -/
structure AttemptOk {n : ℕ} (kvm : Kvm n) (id : ℕ) (r : ℤ) (kvm' : Kvm n) : Prop where
  outcome : (NT_SUCCESS r ∧ (∃ h : id < n, ∃ vcpu, kvm'.vcpu_array =
      Function.update kvm.vcpu_array ⟨id, h⟩ (some vcpu)) ∧
      kvm'.created_vcpus = kvm.created_vcpus + 1) ∨
    (¬ NT_SUCCESS r ∧ kvm' = kvm)
  counted : kvm'.created_vcpus = vcpus kvm'
  limit : vcpus kvm < n → r ≠ STATUS_INVALID_PARAMETER

/-- The allocations of `kvm_mmu_create` that are made succeed. -/
def MmuGranted (cfg : VcpuConfig) (ans : VcpuAnswers) : Prop :=
  ans.buckets = true ∧
    (cfg.tdp_enabled = true → cfg.tdp_level ≤ PT32E_ROOT_LEVEL → ans.guest_pae_root = true) ∧
    ((cfg.tdp_enabled = true → cfg.tdp_level ≤ PT32E_ROOT_LEVEL) → ans.root_pae_root = true)

/-- The allocations of `alloc_loaded_vmcs` that are made succeed. -/
def VmcsGranted (cfg : VcpuConfig) (ans : VcpuAnswers) : Prop :=
  ans.vmcs = true ∧ (cfg.has_msr_bitmap = true → ans.msr_bitmap = true) ∧
    (cfg.has_io_bitmap = true → ans.io_bitmap_a = true ∧ ans.io_bitmap_b = true)

/-- Every allocation that the attempt makes succeeds. -/
structure AllGranted (cfg : VcpuConfig) (ans : VcpuAnswers) : Prop where
  vcpu : ans.vcpu ≠ none
  page : ans.page = true
  mmu : MmuGranted cfg ans
  vmcs : VmcsGranted cfg ans

/-- The attempts that count what they create: those refused because `max_vcpus` places are taken,
and those for an entry of the array to which the pool gives everything. -/
def KeepsVcpus {n : ℕ} (cfg : VcpuConfig) (s : AttemptState n) (a : Attempt) : Prop :=
  (n : ℤ) ≤ s.kvm.created_vcpus ∨ (a.id < n ∧ AllGranted cfg a.ans)

/-- What holds along the attempts that meet it: the vCPUs are counted, and stand at ids that were
attempted. -/
structure VcpuInv {n : ℕ} (s : AttemptState n) : Prop where
  counted : s.kvm.created_vcpus = vcpus s.kvm
  attempted : ∀ i, (s.kvm.vcpu_array i).isSome → (i : ℕ) ∈ s.ids

/-! ## The nested creation routines -/

theorem status_values : STATUS_SUCCESS = 0 ∧ STATUS_INVALID_PARAMETER < 0 ∧ STATUS_NO_MEMORY < 0 ∧
    STATUS_INSUFFICIENT_RESOURCES < 0 ∧ STATUS_NO_MEMORY ≠ STATUS_INVALID_PARAMETER := by
  decide

theorem __kvm_mmu_create_spec (cfg : VcpuConfig) (guest_mmu pae_root : Bool) :
    __kvm_mmu_create cfg guest_mmu pae_root =
      if (cfg.tdp_enabled = false ∧ guest_mmu = true) ∨
          (cfg.tdp_enabled = true ∧ PT32E_ROOT_LEVEL < cfg.tdp_level) ∨ pae_root = true
      then 0 else STATUS_NO_MEMORY := by
  unfold __kvm_mmu_create
  rw [status_values.1]
  cases cfg.tdp_enabled <;> cases guest_mmu <;> cases pae_root <;> simp

/-- `kvm_mmu_create` succeeds when it gets its pages, and returns a negative status else. -/
theorem kvm_mmu_create_spec (cfg : VcpuConfig) (ans : VcpuAnswers) :
    (MmuGranted cfg ans ∧ kvm_mmu_create cfg ans = 0) ∨
      (¬ MmuGranted cfg ans ∧ kvm_mmu_create cfg ans < 0) := by
  obtain ⟨-, -, hmem, hres, -⟩ := status_values
  unfold kvm_mmu_create MmuGranted
  rw [__kvm_mmu_create_spec, __kvm_mmu_create_spec]
  cases hb : ans.buckets with
  | false => simp [hres]
  | true =>
    by_cases hl : PT32E_ROOT_LEVEL < cfg.tdp_level
    · have hnot : ¬ cfg.tdp_level ≤ PT32E_ROOT_LEVEL := by omega
      cases ht : cfg.tdp_enabled <;> cases hr : ans.root_pae_root <;> simp [hl, hnot, hmem]
    · have hle : cfg.tdp_level ≤ PT32E_ROOT_LEVEL := by omega
      cases ht : cfg.tdp_enabled <;> cases hg : ans.guest_pae_root <;>
        cases hr : ans.root_pae_root <;> simp [hl, hle, hmem, hmem.ne]

/-- `vmx_vcpu_create` points `loaded_vmcs` to the VMCS when it gets its pages, and returns a
negative status else. -/
theorem vmx_vcpu_create_spec (cfg : VcpuConfig) (ans : VcpuAnswers) :
    (VmcsGranted cfg ans ∧ vmx_vcpu_create cfg ans = (0, true)) ∨
      (¬ VmcsGranted cfg ans ∧ vmx_vcpu_create cfg ans = (STATUS_NO_MEMORY, false)) := by
  obtain ⟨hzero, -, hmem, -, -⟩ := status_values
  have hsuccess : NT_SUCCESS 0 := le_refl 0
  have hfailure : ¬ NT_SUCCESS STATUS_NO_MEMORY := not_le.mpr hmem
  unfold vmx_vcpu_create alloc_loaded_vmcs VmcsGranted
  rw [hzero]
  cases ans.vmcs <;> cases cfg.has_msr_bitmap <;> cases ans.msr_bitmap <;>
    cases cfg.has_io_bitmap <;> cases ans.io_bitmap_a <;> cases ans.io_bitmap_b <;>
    simp [hsuccess, hfailure]

/-- **The nested creation.** Without the pages of the MMU it fails, without those of the VMCS the
host stops, and else it succeeds. -/
theorem kvm_arch_vcpu_create_spec (cfg : VcpuConfig) (ans : VcpuAnswers) :
    (MmuGranted cfg ans ∧ VmcsGranted cfg ans ∧ kvm_arch_vcpu_create cfg ans = some 0) ∨
      (MmuGranted cfg ans ∧ ¬ VmcsGranted cfg ans ∧ kvm_arch_vcpu_create cfg ans = none) ∨
      (¬ MmuGranted cfg ans ∧ ∃ r < 0, kvm_arch_vcpu_create cfg ans = some r) := by
  unfold kvm_arch_vcpu_create
  rcases kvm_mmu_create_spec cfg ans with ⟨hmmu, hr⟩ | ⟨hmmu, hr⟩
  · rcases vmx_vcpu_create_spec cfg ans with ⟨hvmcs, hv⟩ | ⟨hvmcs, hv⟩
    · refine Or.inl ⟨hmmu, hvmcs, ?_⟩
      simp [hr, hv, vcpu_load]
    · refine Or.inr (Or.inl ⟨hmmu, hvmcs, ?_⟩)
      simp [hr, hv, vcpu_load]
  · refine Or.inr (Or.inr ⟨hmmu, kvm_mmu_create cfg ans, hr, ?_⟩)
    simp [hr]

/-! ## One attempt -/

variable {n : ℕ}

/-- A VM with one more place reserved. -/
def reserve (kvm : Kvm n) : Kvm n := { kvm with created_vcpus := kvm.created_vcpus + 1 }

theorem create_vcpu_refused (cfg : VcpuConfig) (ans : VcpuAnswers) (id : ℕ) {kvm : Kvm n}
    (hfull : (n : ℤ) ≤ kvm.created_vcpus) :
    kvm_vm_ioctl_create_vcpu cfg ans id kvm = some (STATUS_INVALID_PARAMETER, kvm) := by
  unfold kvm_vm_ioctl_create_vcpu
  rw [if_pos hfull]
  rfl

/-- With memory for everything the vCPU is stored, where the array has the entry. -/
theorem create_vcpu_granted {cfg : VcpuConfig} {ans : VcpuAnswers} (hg : AllGranted cfg ans)
    (id : ℕ) {kvm : Kvm n} (hfree : kvm.created_vcpus < n) :
    ∃ vcpu, kvm_vm_ioctl_create_vcpu cfg ans id kvm =
      (store_vcpu (reserve kvm) id vcpu).map fun kvm => (0, kvm) := by
  obtain ⟨vcpu, hvcpu⟩ := Option.ne_none_iff_exists'.mp hg.vcpu
  have harch : kvm_arch_vcpu_create cfg ans = some 0 := by
    rcases kvm_arch_vcpu_create_spec cfg ans with ⟨-, -, h⟩ | ⟨-, hvmcs, -⟩ | ⟨hmmu, -⟩
    · exact h
    · exact absurd hg.vmcs hvmcs
    · exact absurd hg.mmu hmmu
  refine ⟨vcpu, ?_⟩
  unfold kvm_vm_ioctl_create_vcpu
  rw [if_neg (not_le.mpr hfree)]
  simp only [hvcpu, hg.page, harch, kvm_arch_vcpu_precreate, Option.bind_eq_bind,
    Option.bind_some, ne_eq, not_true_eq_false, if_false, Bool.not_true, Bool.false_eq_true]
  rw [← reserve, Option.map_eq_bind]
  rfl

/-- Without it the place stays reserved, if the host survives. -/
theorem create_vcpu_failed {cfg : VcpuConfig} {ans : VcpuAnswers} (hg : ¬ AllGranted cfg ans)
    (id : ℕ) {kvm : Kvm n} (hfree : kvm.created_vcpus < n) :
    kvm_vm_ioctl_create_vcpu cfg ans id kvm = none ∨
      ∃ r < 0, kvm_vm_ioctl_create_vcpu cfg ans id kvm = some (r, reserve kvm) := by
  have hmem : STATUS_NO_MEMORY < 0 := status_values.2.2.1
  unfold kvm_vm_ioctl_create_vcpu
  rw [if_neg (not_le.mpr hfree)]
  cases hvcpu : ans.vcpu with
  | none => exact Or.inr ⟨STATUS_NO_MEMORY, hmem, rfl⟩
  | some vcpu =>
    cases hpage : ans.page with
    | false => exact Or.inr ⟨STATUS_NO_MEMORY, hmem, rfl⟩
    | true =>
      rcases kvm_arch_vcpu_create_spec cfg ans with ⟨hmmu, hvmcs, -⟩ | ⟨-, -, h⟩ | ⟨-, r, hr, h⟩
      · exact absurd ⟨by simp [hvcpu], hpage, hmmu, hvmcs⟩ hg
      · refine Or.inl ?_
        rw [h]
        rfl
      · refine Or.inr ⟨r, hr, ?_⟩
        rw [h]
        simp [hr.ne, kvm_arch_vcpu_precreate, reserve]

/-- A vCPU stored where there was none is one more. -/
theorem vcpus_update {kvm kvm' : Kvm n} {i : Fin n} {vcpu : ℕ} (hi : kvm.vcpu_array i = none)
    (h : kvm'.vcpu_array = Function.update kvm.vcpu_array i (some vcpu)) :
    vcpus kvm' = vcpus kvm + 1 := by
  have hfilter : (Finset.univ.filter fun j => (kvm'.vcpu_array j).isSome) =
      insert i (Finset.univ.filter fun j => (kvm.vcpu_array j).isSome) := by
    ext j
    rw [h]
    by_cases hj : j = i
    · subst hj
      simp
    · simp [hj]
  unfold vcpus
  rw [hfilter, Finset.card_insert_of_notMem (by simp [hi])]

/-- **One attempt.** It does what it should exactly when it is refused at the limit or gets
everything it asks for. -/
theorem attempt_ok_iff {s : AttemptState n} (h : VcpuInv s) (cfg : VcpuConfig) (a : Attempt)
    (hid : a.id ∉ s.ids) :
    (∃ r kvm', kvm_vm_ioctl_create_vcpu cfg a.ans a.id s.kvm = some (r, kvm') ∧
      AttemptOk s.kvm a.id r kvm') ↔ KeepsVcpus cfg s a := by
  obtain ⟨-, hinvalid, -⟩ := status_values
  by_cases hfull : (n : ℤ) ≤ s.kvm.created_vcpus
  · refine iff_of_true ⟨_, _, create_vcpu_refused cfg a.ans a.id hfull, ?_⟩ (Or.inl hfull)
    refine ⟨Or.inr ⟨not_le.mpr hinvalid, rfl⟩, h.counted, fun hlt => ?_⟩
    have := h.counted
    omega
  · have hfree : s.kvm.created_vcpus < n := not_le.mp hfull
    constructor
    · rintro ⟨r, kvm', hres, hok⟩
      refine Or.inr ?_
      by_cases hg : AllGranted cfg a.ans
      · obtain ⟨vcpu, hcreate⟩ := create_vcpu_granted hg a.id hfree
        -- an id from the number of places on is written behind the array
        refine ⟨by_contra fun hlt => ?_, hg⟩
        rw [hcreate, store_vcpu, dif_neg hlt] at hres
        cases hres
      · -- a failed attempt keeps its place, so the count is not what it was
        exfalso
        rcases create_vcpu_failed hg a.id hfree with hnone | ⟨r', hr', hsome⟩
        · rw [hnone] at hres
          cases hres
        · obtain ⟨rfl, rfl⟩ := Prod.mk.inj (Option.some.inj (hsome.symm.trans hres))
          rcases hok.outcome with ⟨hr, -⟩ | ⟨-, heq⟩
          · exact absurd hr (not_le.mpr hr')
          · have hcount := congrArg Kvm.created_vcpus heq
            simp only [reserve] at hcount
            omega
    · rintro (hle | ⟨hlt, hg⟩)
      · exact absurd hle hfull
      · obtain ⟨vcpu, hcreate⟩ := create_vcpu_granted hg a.id hfree
        rw [store_vcpu, dif_pos hlt] at hcreate
        refine ⟨_, _, hcreate, ?_⟩
        have hempty : s.kvm.vcpu_array ⟨a.id, hlt⟩ = none := by
          by_contra hne
          exact hid (h.attempted ⟨a.id, hlt⟩ (Option.isSome_iff_ne_none.mpr hne))
        refine ⟨Or.inl ⟨le_refl 0, ⟨hlt, vcpu, rfl⟩, rfl⟩, ?_, fun _ => hinvalid.ne'⟩
        rw [vcpus_update hempty rfl]
        have := h.counted
        simp only [reserve]
        omega

/-! ## Sequences of attempts -/

theorem VcpuInv.step {s s' : AttemptState n} {cfg : VcpuConfig} {a : Attempt} (h : VcpuInv s)
    (hkeeps : KeepsVcpus cfg s a) (hstep : (vcpuSystem n cfg).step s a s') : VcpuInv s' := by
  obtain ⟨hid, hids, r, hr⟩ := hstep
  obtain ⟨r', kvm', hr', hok⟩ := (attempt_ok_iff h cfg a hid).mpr hkeeps
  obtain ⟨rfl, rfl⟩ := Prod.mk.inj (Option.some.inj (hr'.symm.trans hr))
  refine ⟨hok.counted, fun i hi => ?_⟩
  rw [hids]
  rcases hok.outcome with ⟨-, ⟨hlt, vcpu, harray⟩, -⟩ | ⟨-, heq⟩
  · by_cases hia : i = ⟨a.id, hlt⟩
    · rw [hia]
      exact List.mem_cons_self
    · rw [harray, Function.update_of_ne hia] at hi
      exact List.mem_cons_of_mem _ (h.attempted i hi)
  · rw [heq] at hi
    exact List.mem_cons_of_mem _ (h.attempted i hi)

/-- **The vCPUs are counted.** After any attempts that are refused at the limit or get everything
they ask for, `created_vcpus` is the number of vCPUs; and the next attempt does what it should
(it creates and counts, or fails with an error status and changes nothing, and is not refused while
there is room) exactly when it is one of these. -/
theorem create_vcpu_exact {cfg : VcpuConfig} {s : AttemptState n}
    (h : Transition.Run (vcpuSystem n cfg) (KeepsVcpus cfg) s) :
    s.kvm.created_vcpus = vcpus s.kvm ∧ ∀ a : Attempt, a.id ∉ s.ids →
      ((∃ r kvm', kvm_vm_ioctl_create_vcpu cfg a.ans a.id s.kvm = some (r, kvm') ∧
        AttemptOk s.kvm a.id r kvm') ↔ KeepsVcpus cfg s a) := by
  have hinv : VcpuInv s := by
    refine h.invariant VcpuInv ?_ fun s a s' hs hok hstep => hs.step hok hstep
    rintro s ⟨hzero, harray, -⟩
    refine ⟨?_, fun i hi => ?_⟩
    · rw [hzero, vcpus]
      simp [harray]
    · rw [harray i] at hi
      cases hi
  exact ⟨hinv.counted, fun a hid => attempt_ok_iff hinv cfg a hid⟩

/-- EPT with four levels, no bitmaps. -/
def four_level_config : VcpuConfig := ⟨true, 4, false, false⟩

/-- A new VM on a machine with two processors. -/
def new_vm : AttemptState 2 := ⟨⟨0, fun _ => none⟩, []⟩

/-- A pool that has memory for everything. -/
def all_granted (vcpu : ℕ) : VcpuAnswers :=
  ⟨some vcpu, true, true, true, true, true, true, true, true⟩

/-- The state after a first attempt with memory for everything. -/
def first_created : AttemptState 2 := ⟨⟨1, fun i => if i.val = 0 then some 16 else none⟩, [0]⟩

theorem create_vcpu_first :
    first_created.kvm.created_vcpus = vcpus first_created.kvm ∧
      ∀ a : Attempt, a.id ∉ first_created.ids →
        ((∃ r kvm', kvm_vm_ioctl_create_vcpu four_level_config a.ans a.id first_created.kvm =
          some (r, kvm') ∧ AttemptOk first_created.kvm a.id r kvm') ↔
          KeepsVcpus four_level_config first_created a) := by
  have hgranted : AllGranted four_level_config (all_granted 16) := by
    constructor <;> simp [four_level_config, all_granted, MmuGranted, VmcsGranted]
  have harray : Function.update (fun _ => none) 0 (some 16) = first_created.kvm.vcpu_array := by
    funext i
    match i with
    | 0 => rfl
    | 1 => rfl
  refine create_vcpu_exact (Transition.Run.step new_vm ⟨0, all_granted 16⟩ first_created
    (Transition.Run.start _ ⟨rfl, fun _ => rfl, rfl⟩) (Or.inr ⟨by decide, hgranted⟩) ?_)
  exact ⟨by decide, rfl, 0, congrArg (fun array => some (0, Kvm.mk 1 array)) harray⟩

/-- The first attempt on a new VM does not get its vCPU: it fails, and one vCPU is counted that is
not there. And where the VMCS cannot be allocated the host stops. -/
theorem failed_attempt_counted :
    (∃ kvm', kvm_vm_ioctl_create_vcpu four_level_config { all_granted 16 with vcpu := none } 0
        new_vm.kvm = some (STATUS_NO_MEMORY, kvm') ∧
      kvm'.created_vcpus = 1 ∧ vcpus kvm' = 0 ∧
      ¬ AttemptOk new_vm.kvm 0 STATUS_NO_MEMORY kvm' ∧
      Transition.Run (vcpuSystem 2 four_level_config) (fun _ _ => True) ⟨kvm', [0]⟩) ∧
    kvm_vm_ioctl_create_vcpu four_level_config { all_granted 16 with vmcs := false } 0
      new_vm.kvm = none := by
  refine ⟨⟨reserve new_vm.kvm, rfl, rfl, by decide, ?_, ?_⟩, rfl⟩
  · intro hok
    have hcounted := hok.counted
    revert hcounted
    decide
  · refine Transition.Run.step new_vm ⟨0, { all_granted 16 with vcpu := none }⟩ _
      (Transition.Run.start _ ⟨rfl, fun _ => rfl, rfl⟩) trivial ?_
    exact ⟨by decide, rfl, STATUS_NO_MEMORY, rfl⟩

end Svmx.Vcpu
