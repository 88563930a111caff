/-
The requests of the driver over a whole run (`DriverDeviceControl`): `KVM_CREATE_VM`,
`KVM_CREATE_VCPU`, `KVM_RELEASE_VM` and `KVM_RUN`.

Every request works on the one VM that `g_kvm` points to, and none looks at what became of it: the
pointer is NULL before the first creation, it stays after the VM is released, and the entries of
`vcpu_array` are followed without a test. `Life` is what the requests make of the VM, told without
its memory: the places that its attempts took, whether every vCPU is there, whether it is linked,
and whether a creation gave its block back while it was linked. `Follows` relates the two, and
`request_faults_iff` says for every state that is reached which requests fault (`none`).

A fault is one of what the requests do with `g_kvm`, `vcpu_array`, `loaded_vmcs` and `vm_list`: a
NULL pointer that is followed, an entry that is not linked, a neighbour that was given back. The
VMX side of a request is left out (`HwDisable` has what a release does to the VMCSs), also what a
vCPU does once `vm_save_state` has it; `run` only answers with the status.
-/
import Svmx.CreateVcpu
import Svmx.HwEnable

set_option autoImplicit false

namespace Svmx.DriverRun

open Svmx.Hardware Svmx.Vcpu

variable {n : ℕ}

/-! ## The requests -/

def STATUS_UNSUCCESSFUL : ℤ := ntstatus 0xC0000001

/-- The globals that the requests share. With `g_kvm` stands the `struct kvm` that it points to. -/
structure Driver (n : ℕ) where
  hw : HwState n
  g_kvm : Option (ℕ × Kvm n)

/-- A request, with what the pool and the processors answer to it. -/
inductive Request (n : ℕ) where
  | create_vm (ret : Fin n → ℤ) (alloc_vm : Option ℕ) (vcpu_array : Bool)
  | create_vcpu (ans : ℕ → VcpuAnswers)
  | release_vm (cpu : Fin n)
  | run (ret : ℤ)

/-- `kvm_dev_ioctl_create_vm`: without a VM `g_kvm` stays what it was. -/
def kvm_dev_ioctl_create_vm (ret : Fin n → ℤ) (alloc_vm : Option ℕ) (vcpu_array : Bool)
    (d : Driver n) : Option (ℤ × Driver n) := do
  let (kvm, hw) ← kvm_create_vm ret alloc_vm vcpu_array d.hw
  match kvm with
  | none => some (STATUS_UNSUCCESSFUL, { d with hw := hw })
  | some kvm => some (STATUS_SUCCESS, ⟨hw, some (kvm, ⟨0, fun _ => none⟩)⟩)

/-- The loop of `KVM_CREATE_VCPU`, with `left` processors to go from `cpu` on. -/
def create_vcpus (cfg : VcpuConfig) (ans : ℕ → VcpuAnswers) :
    ℕ → ℕ → ℤ → Kvm n → Option (ℤ × Kvm n)
  | 0, _, status, kvm => some (status, kvm)
  | left + 1, cpu, _, kvm => do
    let (status, kvm) ← kvm_vm_ioctl_create_vcpu cfg (ans cpu) cpu kvm
    if ¬ NT_SUCCESS status then some (status, kvm)
    else create_vcpus cfg ans left (cpu + 1) status kvm

/-- `vcpu_array[cpu]` for every processor, each of them followed. -/
def read_vcpus (kvm : Kvm n) : Option (List ℕ) := (List.finRange n).mapM kvm.vcpu_array

/-- `kvm_destroy_vcpus`: it reads the `loaded_vmcs` of each vCPU. -/
def kvm_destroy_vcpus (kvm : Kvm n) : Option Unit := (read_vcpus kvm).map fun _ => ()

/-- `kvm_put_kvm` on processor `cpu`. -/
def kvm_put_kvm (cpu : Fin n) (d : Driver n) : Option (Driver n) := do
  let (kvm, s) ← d.g_kvm
  let vm_list ← RemoveEntryList d.hw.pool kvm none d.hw.vm_list
  kvm_destroy_vcpus s
  some { d with hw := hardware_disable_all cpu { d.hw with vm_list := vm_list } }

/-- `KeIpiGenericCall(RunKvm, 0)`, up to the call of `vm_save_state` on each processor. -/
def RunKvm (ret : ℤ) (d : Driver n) : Option ℤ := do
  let (_, s) ← d.g_kvm
  let _ ← read_vcpus s
  some ret

/-- `DriverDeviceControl`, for the requests on the VM. -/
def DriverDeviceControl (cfg : VcpuConfig) (d : Driver n) : Request n → Option (ℤ × Driver n)
  | .create_vm ret alloc_vm vcpu_array => kvm_dev_ioctl_create_vm ret alloc_vm vcpu_array d
  | .create_vcpu ans => do
    let (kvm, s) ← d.g_kvm
    let (status, s) ← create_vcpus cfg ans n 0 STATUS_SUCCESS s
    some (status, { d with g_kvm := some (kvm, s) })
  | .release_vm cpu => (kvm_put_kvm cpu d).map fun d => (STATUS_SUCCESS, d)
  | .run ret => (RunKvm ret d).map fun status => (status, d)

/-! ## The life of a VM -/

/-- What is left of a VM when its memory is forgotten. -/
structure VmLife where
  /-- The places that attempts to create a vCPU took, whether they failed or not. -/
  attempts : ℕ
  /-- Every processor has its vCPU. -/
  ready : Bool
  /-- It was not released yet. -/
  linked : Bool

/-- The VM that `g_kvm` points to, and whether a creation gave back a block that is linked. -/
structure Life where
  dangling : Bool
  vm : Option VmLife

/-- The attempt gets everything up to the VMCS, and that it does not get. -/
def NoVmcs (cfg : VcpuConfig) (ans : VcpuAnswers) : Prop :=
  ans.vcpu ≠ none ∧ ans.page = true ∧ MmuGranted cfg ans ∧ ¬ VmcsGranted cfg ans

open Classical in
/-- The attempts from `cpu` on, `left` at most, that get everything before one does not. -/
noncomputable def granted (cfg : VcpuConfig) (ans : ℕ → VcpuAnswers) : ℕ → ℕ → ℕ
  | 0, _ => 0
  | left + 1, cpu => if AllGranted cfg (ans cpu) then granted cfg ans left (cpu + 1) + 1 else 0

/-- The attempts from `cpu` on, while there is `room`, come to one without a VMCS. -/
def MeetsNoVmcs (cfg : VcpuConfig) (ans : ℕ → VcpuAnswers) (cpu room : ℕ) : Prop :=
  ∃ k < room, (∀ j < k, AllGranted cfg (ans (cpu + j))) ∧ NoVmcs cfg (ans (cpu + k))

/-- What a request makes of the life of the VM. The first failed attempt ends the request and keeps
its place, so a VM is ready only if its first request created every vCPU. -/
noncomputable def Life.next (cfg : VcpuConfig) (l : Life) : Request n → Life
  | .create_vm _ alloc_vm vcpu_array =>
    if alloc_vm = none then l
    else if vcpu_array then { l with vm := some ⟨0, false, true⟩ }
    else { l with dangling := true }
  | .create_vcpu ans =>
    { l with vm := l.vm.map fun v =>
      { v with
        attempts := min n (v.attempts + granted cfg ans n 0 + 1)
        ready := v.ready || (v.attempts == 0 && granted cfg ans n 0 == n) } }
  | .release_vm _ => { l with vm := l.vm.map fun v => { v with linked := false } }
  | .run _ => l

/-- The requests that fault. -/
def Faults (cfg : VcpuConfig) (l : Life) : Request n → Prop
  | .create_vm _ alloc_vm _ => alloc_vm ≠ none ∧ l.dangling = true
  | .create_vcpu ans => ∀ v ∈ l.vm, MeetsNoVmcs cfg ans 0 (n - v.attempts)
  | .release_vm _ => ∀ v ∈ l.vm, v.ready = true → v.linked = true → l.dangling = true
  | .run _ => ∀ v ∈ l.vm, v.ready = false

/-- The pool gives memory that is not in use. -/
def Request.Valid (d : Driver n) : Request n → Prop
  | .create_vm _ alloc_vm _ => ∀ kvm ∈ alloc_vm, kvm ∉ d.hw.pool
  | _ => True

/-- The driver beside the life of its VM, from its loading on. -/
def driverSystem (n : ℕ) (cfg : VcpuConfig) :
    Transition.System (Driver n × Life) (Request n) where
  init p := HwLoaded p.1.hw ∧ p.1.g_kvm = none ∧ p.2 = ⟨false, none⟩
  step p req p' := req.Valid p.1 ∧
    (∃ status, DriverDeviceControl cfg p.1 req = some (status, p'.1)) ∧ p'.2 = p.2.next cfg req

/-! ## The relation -/

/-- The `struct kvm` of a VM and its life. An attempt that failed leaves the last entry NULL, and no
later request reaches it. -/
structure VmFollows (s : Kvm n) (v : VmLife) : Prop where
  count : s.created_vcpus = v.attempts
  places : v.attempts ≤ n
  full : v.ready = true → v.attempts = n ∧ ∀ i, (s.vcpu_array i).isSome
  last : v.ready = false → ∀ i : Fin n, i.val + 1 = n → s.vcpu_array i = none

/-- The list of VMs: the block that dangles, the VM of `g_kvm` while it is linked, and `older`, the
VMs that `g_kvm` pointed to before. -/
structure ListFollows (d : Driver n) (l : Life) (dangling current older : List ℕ) : Prop where
  list : d.hw.vm_list = dangling ++ (current ++ older)
  freed : (l.dangling = false ∧ dangling = []) ∨
    l.dangling = true ∧ ∃ a, dangling = [a] ∧ a ∉ d.hw.pool
  live : ∀ a ∈ current ++ older, a ∈ d.hw.pool

/-- The driver and the life of its VM. -/
inductive Follows (d : Driver n) (l : Life) : Prop where
  | empty (dangling : List ℕ) (hkvm : d.g_kvm = none) (hvm : l.vm = none)
      (hlist : ListFollows d l dangling [] [])
  | vm (dangling older : List ℕ) (kvm : ℕ) (s : Kvm n) (v : VmLife) (hkvm : d.g_kvm = some (kvm, s))
      (hvm : l.vm = some v) (hs : VmFollows s v) (hpool : kvm ∈ d.hw.pool) (hold : kvm ∉ older)
      (hlist : ListFollows d l dangling (if v.linked then [kvm] else []) older)

/-! ## One attempt -/

theorem not_allGranted_of_noVmcs {cfg : VcpuConfig} {ans : VcpuAnswers} (h : NoVmcs cfg ans) :
    ¬ AllGranted cfg ans := fun hg => h.2.2.2 hg.vmcs

/-- Without a VMCS the attempt faults in `vcpu_load`. -/
theorem create_vcpu_no_vmcs {cfg : VcpuConfig} {ans : VcpuAnswers} (h : NoVmcs cfg ans) (id : ℕ)
    {kvm : Kvm n} (hfree : kvm.created_vcpus < n) :
    kvm_vm_ioctl_create_vcpu cfg ans id kvm = none := by
  obtain ⟨hvcpu, hpage, hmmu, hvmcs⟩ := h
  obtain ⟨vcpu, hvcpu⟩ := Option.ne_none_iff_exists'.mp hvcpu
  have harch : kvm_arch_vcpu_create cfg ans = none := by
    rcases kvm_arch_vcpu_create_spec cfg ans with ⟨-, h, -⟩ | ⟨-, -, h⟩ | ⟨h, -⟩
    · exact absurd h hvmcs
    · exact h
    · exact absurd hmmu h
  unfold kvm_vm_ioctl_create_vcpu
  rw [if_neg (not_le.mpr hfree)]
  simp [hvcpu, hpage, harch, kvm_arch_vcpu_precreate]

/-- Any other attempt that does not get everything fails, and keeps its place. -/
theorem create_vcpu_fails {cfg : VcpuConfig} {ans : VcpuAnswers} (hg : ¬ AllGranted cfg ans)
    (hv : ¬ NoVmcs cfg ans) (id : ℕ) {kvm : Kvm n} (hfree : kvm.created_vcpus < n) :
    ∃ r < 0, kvm_vm_ioctl_create_vcpu cfg ans id kvm = some (r, reserve kvm) := by
  refine (create_vcpu_failed hg id hfree).resolve_left fun hnone => hv ?_
  unfold kvm_vm_ioctl_create_vcpu at hnone
  rw [if_neg (not_le.mpr hfree)] at hnone
  cases hvcpu : ans.vcpu with
  | none => simp [hvcpu, kvm_arch_vcpu_precreate] at hnone
  | some vcpu =>
    cases hpage : ans.page with
    | false => simp [hvcpu, hpage, kvm_arch_vcpu_precreate] at hnone
    | true =>
      rcases kvm_arch_vcpu_create_spec cfg ans with
        ⟨hmmu, hvmcs, -⟩ | ⟨hmmu, hvmcs, -⟩ | ⟨-, r, hr, h⟩
      · exact absurd ⟨by simp [hvcpu], hpage, hmmu, hvmcs⟩ hg
      · exact ⟨by simp [hvcpu], hpage, hmmu, hvmcs⟩
      · simp [hvcpu, hpage, h, hr.ne, kvm_arch_vcpu_precreate] at hnone

/-! ## The loop over the processors -/

theorem granted_succ_of_allGranted {cfg : VcpuConfig} {ans : ℕ → VcpuAnswers} {cpu : ℕ}
    (h : AllGranted cfg (ans cpu)) (left : ℕ) :
    granted cfg ans (left + 1) cpu = granted cfg ans left (cpu + 1) + 1 := if_pos h

theorem granted_succ_of_not {cfg : VcpuConfig} {ans : ℕ → VcpuAnswers} {cpu : ℕ}
    (h : ¬ AllGranted cfg (ans cpu)) (left : ℕ) : granted cfg ans (left + 1) cpu = 0 := if_neg h

theorem granted_le (cfg : VcpuConfig) (ans : ℕ → VcpuAnswers) (left cpu : ℕ) :
    granted cfg ans left cpu ≤ left := by
  induction left generalizing cpu with
  | zero => exact le_refl 0
  | succ left ih =>
    by_cases hg : AllGranted cfg (ans cpu)
    · rw [granted_succ_of_allGranted hg]
      exact Nat.succ_le_succ (ih (cpu + 1))
    · rw [granted_succ_of_not hg]
      exact Nat.zero_le _

theorem not_meetsNoVmcs_zero (cfg : VcpuConfig) (ans : ℕ → VcpuAnswers) (cpu : ℕ) :
    ¬ MeetsNoVmcs cfg ans cpu 0 := by
  rintro ⟨k, hk, -⟩
  exact absurd hk (Nat.not_lt_zero k)

theorem meetsNoVmcs_of_allGranted {cfg : VcpuConfig} {ans : ℕ → VcpuAnswers} {cpu : ℕ}
    (h : AllGranted cfg (ans cpu)) (room : ℕ) :
    MeetsNoVmcs cfg ans cpu (room + 1) ↔ MeetsNoVmcs cfg ans (cpu + 1) room := by
  constructor
  · rintro ⟨k, hk, hbefore, hv⟩
    cases k with
    | zero => exact absurd h (not_allGranted_of_noVmcs hv)
    | succ k =>
      refine ⟨k, by omega, fun j hj => ?_, ?_⟩
      · have := hbefore (j + 1) (by omega)
        rwa [← Nat.add_assoc, Nat.add_right_comm] at this
      · rwa [← Nat.add_assoc, Nat.add_right_comm] at hv
  · rintro ⟨k, hk, hbefore, hv⟩
    refine ⟨k + 1, by omega, fun j hj => ?_, ?_⟩
    · cases j with
      | zero => exact h
      | succ j =>
        have := hbefore j (by omega)
        rwa [Nat.add_right_comm, Nat.add_assoc] at this
    · rwa [Nat.add_right_comm, Nat.add_assoc] at hv

theorem meetsNoVmcs_of_not {cfg : VcpuConfig} {ans : ℕ → VcpuAnswers} {cpu : ℕ}
    (h : ¬ AllGranted cfg (ans cpu)) (room : ℕ) :
    MeetsNoVmcs cfg ans cpu (room + 1) ↔ NoVmcs cfg (ans cpu) := by
  constructor
  · rintro ⟨k, -, hbefore, hv⟩
    cases k with
    | zero => exact hv
    | succ k => exact absurd (hbefore 0 k.succ_pos) h
  · exact fun hv => ⟨0, room.succ_pos, fun j hj => absurd hj (Nat.not_lt_zero j), hv⟩

/-- What the loop makes of the VM: it takes a place for every vCPU that it stores and for the
failure that ends it, and stores the vCPUs from `cpu` on. -/
structure LoopDone (cfg : VcpuConfig) (ans : ℕ → VcpuAnswers) (left cpu attempts : ℕ)
    (kvm kvm' : Kvm n) : Prop where
  count : kvm'.created_vcpus = ((min n (attempts + granted cfg ans left cpu + 1) : ℕ) : ℤ)
  stored : ∀ i : Fin n, cpu ≤ i → i < cpu + min (n - attempts) (granted cfg ans left cpu) →
    (kvm'.vcpu_array i).isSome
  kept : ∀ i : Fin n, i < cpu ∨ cpu + min (n - attempts) (granted cfg ans left cpu) ≤ i →
    kvm'.vcpu_array i = kvm.vcpu_array i

/-- The VM with one more place taken and a vCPU stored for it. -/
def with_vcpu (kvm : Kvm n) (cpu : Fin n) (vcpu : ℕ) : Kvm n :=
  { reserve kvm with vcpu_array := Function.update kvm.vcpu_array cpu (some vcpu) }

/-- Without a place left nothing changes. -/
theorem loopDone_full (cfg : VcpuConfig) (ans : ℕ → VcpuAnswers) (left cpu : ℕ) {kvm : Kvm n}
    (hcount : kvm.created_vcpus = n) : LoopDone cfg ans left cpu n kvm kvm := by
  refine ⟨?_, fun i hi hlt => ?_, fun i _ => rfl⟩
  · rw [hcount, min_eq_left (by omega)]
  · rw [Nat.sub_self, Nat.zero_min] at hlt
    omega

/-- A failure takes one place. -/
theorem loopDone_failed {cfg : VcpuConfig} {ans : ℕ → VcpuAnswers} {cpu attempts : ℕ}
    (hg : ¬ AllGranted cfg (ans cpu)) (left : ℕ) {kvm : Kvm n}
    (hcount : kvm.created_vcpus = attempts) (hfree : attempts < n) :
    LoopDone cfg ans (left + 1) cpu attempts kvm (reserve kvm) := by
  have hgranted := granted_succ_of_not hg left
  refine ⟨?_, fun i hi hlt => ?_, fun i _ => rfl⟩
  · rw [hgranted, min_eq_right (by omega)]
    simp [reserve, hcount]
  · rw [hgranted, Nat.min_zero] at hlt
    omega

/-- A vCPU is stored, and the loop goes on behind it. -/
theorem LoopDone.stored_first {cfg : VcpuConfig} {ans : ℕ → VcpuAnswers} {left attempts vcpu : ℕ}
    {kvm kvm' : Kvm n} (cpu : Fin n) (hg : AllGranted cfg (ans cpu)) (hfree : attempts < n)
    (h : LoopDone cfg ans left (cpu + 1) (attempts + 1) (with_vcpu kvm cpu vcpu) kvm') :
    LoopDone cfg ans (left + 1) cpu attempts kvm kvm' := by
  obtain ⟨hcount, hstored, hkept⟩ := h
  have hgranted := granted_succ_of_allGranted hg left
  -- the vCPUs stored are this one and those that the rest of the loop stores
  have hmin : min (n - attempts) (granted cfg ans (left + 1) cpu) =
      min (n - (attempts + 1)) (granted cfg ans left (cpu + 1)) + 1 := by
    omega
  refine ⟨?_, fun i hi hlt => ?_, fun i hi => ?_⟩
  · rw [hcount, hgranted]
    congr 2
    omega
  · by_cases hic : i = cpu
    · rw [hkept i (Or.inl (by omega)), hic]
      simp [with_vcpu]
    · have hne : i.val ≠ cpu := fun heq => hic (Fin.ext heq)
      exact hstored i (by omega) (by omega)
  · have hic : i ≠ cpu := by
      rintro rfl
      omega
    rw [hkept i (by omega)]
    simp [with_vcpu, hic, reserve]

/-- **The loop.** It faults exactly if it comes to an attempt without a VMCS while there is room. -/
theorem create_vcpus_spec (cfg : VcpuConfig) (ans : ℕ → VcpuAnswers) (left cpu attempts : ℕ)
    (status : ℤ) (kvm : Kvm n) (hleft : cpu + left = n) (hcount : kvm.created_vcpus = attempts)
    (hcpu : cpu ≤ attempts) (hle : attempts ≤ n) :
    (MeetsNoVmcs cfg ans cpu (n - attempts) ∧ create_vcpus cfg ans left cpu status kvm = none) ∨
      (¬ MeetsNoVmcs cfg ans cpu (n - attempts) ∧
        ∃ r kvm', create_vcpus cfg ans left cpu status kvm = some (r, kvm') ∧
          LoopDone cfg ans left cpu attempts kvm kvm') := by
  induction left generalizing cpu attempts status kvm with
  | zero =>
    obtain rfl : attempts = n := by omega
    refine Or.inr ⟨?_, status, kvm, rfl, loopDone_full cfg ans 0 cpu hcount⟩
    rw [Nat.sub_self]
    exact not_meetsNoVmcs_zero cfg ans cpu
  | succ left ih =>
    rw [create_vcpus]
    rcases hle.eq_or_lt with rfl | hlt
    · -- no place is left: the request ends at once
      have hrefused := create_vcpu_refused cfg (ans cpu) cpu hcount.ge
      have hinvalid : ¬ NT_SUCCESS STATUS_INVALID_PARAMETER := not_le.mpr status_values.2.1
      refine Or.inr ⟨?_, STATUS_INVALID_PARAMETER, kvm, ?_, loopDone_full cfg ans _ cpu hcount⟩
      · rw [Nat.sub_self]
        exact not_meetsNoVmcs_zero cfg ans cpu
      · simp [hrefused, hinvalid]
    · have hfree : kvm.created_vcpus < n := by omega
      obtain ⟨room, hroom⟩ : ∃ room, n - attempts = room + 1 := ⟨n - attempts - 1, by omega⟩
      have hrest : n - (attempts + 1) = room := by omega
      rw [hroom]
      by_cases hg : AllGranted cfg (ans cpu)
      · have hcpun : cpu < n := by omega
        obtain ⟨vcpu, hcreate⟩ := create_vcpu_granted hg cpu hfree
        rw [store_vcpu, dif_pos hcpun, Option.map_some] at hcreate
        have hsuccess : NT_SUCCESS 0 := le_refl 0
        have hnext := ih (cpu + 1) (attempts + 1) 0 (with_vcpu kvm ⟨cpu, hcpun⟩ vcpu) (by omega)
          (by simp [with_vcpu, reserve, hcount]) (by omega) (by omega)
        rw [hrest] at hnext
        rw [meetsNoVmcs_of_allGranted hg, hcreate, Option.bind_eq_bind, Option.bind_some]
        dsimp only
        rw [if_neg (not_not.mpr hsuccess)]
        rcases hnext with hnone | ⟨hno, r, kvm', hres, hdone⟩
        · exact Or.inl hnone
        · exact Or.inr ⟨hno, r, kvm', hres, hdone.stored_first ⟨cpu, hcpun⟩ hg hlt⟩
      · rw [meetsNoVmcs_of_not hg]
        by_cases hv : NoVmcs cfg (ans cpu)
        · refine Or.inl ⟨hv, ?_⟩
          rw [create_vcpu_no_vmcs hv cpu hfree]
          rfl
        · obtain ⟨r, hr, hfails⟩ := create_vcpu_fails hg hv cpu hfree
          have hnot : ¬ NT_SUCCESS r := not_le.mpr hr
          refine Or.inr ⟨hv, r, reserve kvm, ?_, loopDone_failed hg left hcount hlt⟩
          simp [hfails, hnot]

/-! ## Reading every vCPU -/

/-- Every entry of a list is found exactly if all are there. -/
theorem mapM_isSome {α β : Type*} (f : α → Option β) (l : List α) :
    (l.mapM f).isSome ↔ ∀ a ∈ l, (f a).isSome := by
  induction l with
  | nil => simp
  | cons a l ih =>
    rw [List.mapM_cons, List.forall_mem_cons, ← ih]
    cases f a with
    | none => simp
    | some b => cases l.mapM f <;> simp

theorem read_vcpus_isSome (kvm : Kvm n) :
    (read_vcpus kvm).isSome ↔ ∀ i, (kvm.vcpu_array i).isSome := by
  rw [read_vcpus, mapM_isSome]
  simp [List.mem_finRange]

/-- The vCPUs can all be read exactly if the VM is ready. -/
theorem VmFollows.read_vcpus {s : Kvm n} {v : VmLife} (h : VmFollows s v) (hn : 0 < n) :
    (read_vcpus s).isSome ↔ v.ready = true := by
  rw [read_vcpus_isSome]
  constructor
  · intro hall
    by_contra hready
    have hlast := h.last (by simpa using hready) ⟨n - 1, by omega⟩ (Nat.sub_add_cancel hn)
    have := hall ⟨n - 1, by omega⟩
    rw [hlast] at this
    cases this
  · exact fun hready => (h.full hready).2

theorem VmFollows.new : VmFollows (⟨0, fun _ => none⟩ : Kvm n) ⟨0, false, true⟩ :=
  ⟨rfl, Nat.zero_le n, nofun, fun _ _ _ => rfl⟩

/-- **The creation of the vCPUs.** The VM is ready afterwards if it was before, or if this was its
first request and every attempt got everything. -/
theorem VmFollows.create_vcpus {s s' : Kvm n} {v : VmLife} {cfg : VcpuConfig}
    {ans : ℕ → VcpuAnswers} (hn : 0 < n) (h : VmFollows s v)
    (hdone : LoopDone cfg ans n 0 v.attempts s s') :
    VmFollows s' { v with
      attempts := min n (v.attempts + granted cfg ans n 0 + 1)
      ready := v.ready || (v.attempts == 0 && granted cfg ans n 0 == n) } := by
  have hgranted := granted_le cfg ans n 0
  refine ⟨hdone.count, Nat.min_le_left _ _, fun hready => ?_, fun hready i hi => ?_⟩
  · cases hv : v.ready with
    | true =>
      obtain ⟨hfull, hall⟩ := h.full hv
      refine ⟨by simp only [hfull]; omega, fun i => ?_⟩
      rw [hdone.kept i (Or.inr (by simp [hfull]))]
      exact hall i
    | false =>
      obtain ⟨hfirst, hevery⟩ : v.attempts = 0 ∧ granted cfg ans n 0 = n := by
        simpa [hv] using hready
      refine ⟨by simp only [hfirst, hevery]; omega, fun i => ?_⟩
      refine hdone.stored i (Nat.zero_le _) ?_
      rw [hfirst, hevery]
      simp
  · -- a place is gone, or an attempt fails: the last entry is out of reach
    have hv : v.ready = false := (Bool.or_eq_false_iff.mp hready).1
    have hfew : v.attempts = 0 → granted cfg ans n 0 ≠ n := by simpa [hv] using hready
    rw [hdone.kept i (Or.inr (by omega)), h.last hv i hi]

/-! ## The list of VMs -/

theorem hardware_enable_all_list (ret : Fin n → ℤ) (s : HwState n) :
    (hardware_enable_all ret s).vm_list = s.vm_list ∧
      (hardware_enable_all ret s).pool = s.pool := by
  unfold hardware_enable_all
  dsimp only
  split <;> exact ⟨rfl, rfl⟩

theorem hardware_disable_all_list (cpu : Fin n) (s : HwState n) :
    (hardware_disable_all cpu s).vm_list = s.vm_list ∧
      (hardware_disable_all cpu s).pool = s.pool := by
  unfold hardware_disable_all hardware_disable_all_nolock hardware_disable_nolock
  dsimp only
  split
  · split <;> exact ⟨rfl, rfl⟩
  · exact ⟨rfl, rfl⟩

/-- A creation that gets its block: whether it is linked decides whether it returns. -/
theorem kvm_create_vm_linked (ret : Fin n → ℤ) (kvm : ℕ) (vcpu_array : Bool) (s : HwState n) :
    (InsertHeadList (insert kvm s.pool) kvm s.vm_list = none ∧
      kvm_create_vm ret (some kvm) vcpu_array s = none) ∨
    ∃ vm_list hw, InsertHeadList (insert kvm s.pool) kvm s.vm_list = some vm_list ∧
      hw.vm_list = vm_list ∧
      hw.pool = (if vcpu_array then insert kvm s.pool else (insert kvm s.pool).erase kvm) ∧
      kvm_create_vm ret (some kvm) vcpu_array s =
        some (if vcpu_array then some kvm else none, hw) := by
  obtain ⟨hlist, hpool⟩ := hardware_enable_all_list ret { s with pool := insert kvm s.pool }
  unfold kvm_create_vm
  dsimp only at hlist hpool ⊢
  rw [hlist, hpool]
  cases hinsert : InsertHeadList (insert kvm s.pool) kvm s.vm_list with
  | none => exact Or.inl ⟨rfl, rfl⟩
  | some vm_list =>
    refine Or.inr ⟨vm_list, ?_⟩
    cases vcpu_array with
    | true => exact ⟨_, rfl, rfl, rfl, rfl⟩
    | false => exact ⟨_, rfl, rfl, rfl, rfl⟩

/-- On the globals a release that returns is the destruction of the VM that `g_kvm` points to. -/
theorem kvm_put_kvm_destroys {cpu : Fin n} {d d' : Driver n} {kvm : ℕ} {s : Kvm n}
    (hkvm : d.g_kvm = some (kvm, s)) (h : kvm_put_kvm cpu d = some d') :
    kvm_destroy_vm cpu kvm d.hw = some d'.hw := by
  unfold kvm_put_kvm at h
  rw [hkvm, Option.bind_eq_bind, Option.bind_some] at h
  obtain ⟨vm_list, hremove, h⟩ := Option.bind_eq_some_iff.mp h
  obtain ⟨_, -, hd'⟩ := Option.bind_eq_some_iff.mp h
  rw [kvm_destroy_vm, hremove, ← Option.some.inj hd']
  rfl

theorem RemoveEntryList_not_mem {pool : Finset ℕ} {kvm : ℕ} {l : List ℕ} (hk : kvm ∉ l)
    (prev : Option ℕ) : RemoveEntryList pool kvm prev l = none := by
  induction l generalizing prev with
  | nil => rfl
  | cons a l ih =>
    have ha : a ≠ kvm := fun heq => hk (heq ▸ List.mem_cons_self)
    have hl : kvm ∉ l := fun hmem => hk (List.mem_cons_of_mem a hmem)
    rw [RemoveEntryList, if_neg ha, ih hl]
    rfl

variable {d : Driver n} {l : Life} {dangling current older : List ℕ}

/-- A new block can be linked exactly if nothing dangles. -/
theorem ListFollows.insert (h : ListFollows d l dangling current older) {kvm : ℕ}
    (hk : kvm ∉ d.hw.pool) :
    InsertHeadList (insert kvm d.hw.pool) kvm d.hw.vm_list =
      if l.dangling then none else some (kvm :: (current ++ older)) := by
  have hlive : ∀ a ∈ current ++ older, a ∈ Insert.insert kvm d.hw.pool := fun a ha =>
    Finset.mem_insert_of_mem (h.live a ha)
  have hnew : kvm ∉ current ++ older := fun hmem => hk (h.live kvm hmem)
  rw [h.list]
  rcases h.freed with ⟨hno, rfl⟩ | ⟨hyes, a, rfl, ha⟩
  · rw [hno, List.nil_append]
    exact InsertHeadList_spec hlive hnew
  · unfold InsertHeadList
    by_cases hka : kvm = a
    · simp [hyes, hka]
    · simp [hyes, ha, Ne.symm hka]

/-- The entry at the head of the live list can be unlinked exactly if nothing dangles. -/
theorem ListFollows.remove {kvm : ℕ} (h : ListFollows d l dangling [kvm] older) :
    RemoveEntryList d.hw.pool kvm none d.hw.vm_list = if l.dangling then none else some older := by
  have hkvm : kvm ∈ d.hw.pool := h.live kvm (by simp)
  rw [h.list]
  rcases h.freed with ⟨hno, rfl⟩ | ⟨hyes, a, rfl, ha⟩
  · rw [hno, List.nil_append, RemoveEntryList_spec none (by simp) h.live (by simp)]
    simp
  · have hne : a ≠ kvm := fun heq => ha (heq ▸ hkvm)
    simp [hyes, RemoveEntryList, hne, ha]

/-- A VM that was released is in the list no more. -/
theorem ListFollows.not_mem {kvm : ℕ} (h : ListFollows d l dangling [] older)
    (hpool : kvm ∈ d.hw.pool) (hold : kvm ∉ older) : kvm ∉ d.hw.vm_list := by
  rw [h.list]
  rcases h.freed with ⟨-, rfl⟩ | ⟨-, a, rfl, ha⟩
  · simpa using hold
  · have hne : kvm ≠ a := fun heq => ha (heq ▸ hpool)
    simpa [hne] using hold

/-! ## One request -/

/-- Only the list and the pool matter. -/
theorem ListFollows.congr {d' : Driver n} {l' : Life}
    (h : ListFollows d l dangling current older) (hlist : d'.hw.vm_list = d.hw.vm_list)
    (hpool : d'.hw.pool = d.hw.pool) (hl : l'.dangling = l.dangling) :
    ListFollows d' l' dangling current older := by
  refine ⟨hlist.trans h.list, ?_, ?_⟩
  · rw [hpool, hl]
    exact h.freed
  · rw [hpool]
    exact h.live

/-- A request faults as its condition says, and else leads to the next life. -/
def RequestOk (cfg : VcpuConfig) (d : Driver n) (l : Life) (req : Request n) : Prop :=
  (Faults cfg l req ∧ DriverDeviceControl cfg d req = none) ∨
    (¬ Faults cfg l req ∧ ∃ status d', DriverDeviceControl cfg d req = some (status, d') ∧
      Follows d' (l.next cfg req))

/-- The VMs that are in the list below what dangles. -/
theorem Follows.lists (h : Follows d l) :
    ∃ dangling current older, ListFollows d l dangling current older := by
  cases h with
  | empty dangling _ _ hlist => exact ⟨dangling, [], [], hlist⟩
  | vm dangling older kvm _ v _ _ _ _ _ hlist => exact ⟨dangling, _, older, hlist⟩

/-- A creation that fails at its array leaves its block in front of the list. -/
theorem Follows.dangle (h : Follows d l) (hno : l.dangling = false) {kvm : ℕ}
    (hk : kvm ∉ d.hw.pool) {hw : HwState n} (hlist : hw.vm_list = kvm :: d.hw.vm_list)
    (hpool : hw.pool = d.hw.pool) :
    Follows { d with hw := hw } { l with dangling := true } := by
  have hfront : ∀ {dangling current older : List ℕ}, ListFollows d l dangling current older →
      ListFollows { d with hw := hw } { l with dangling := true } [kvm] current older := by
    intro dangling current older hl
    have hnil : dangling = [] := by simpa [hno] using hl.freed
    refine ⟨?_, Or.inr ⟨rfl, kvm, rfl, by rwa [hpool]⟩, by rw [hpool]; exact hl.live⟩
    rw [hlist, hl.list, hnil]
    rfl
  cases h with
  | empty dangling hkvm hvm hl => exact .empty [kvm] hkvm hvm (hfront hl)
  | vm dangling older a s v hkvm hvm hs hp hold hl =>
    exact .vm [kvm] older a s v hkvm hvm hs (by rwa [hpool]) hold (hfront hl)

/-- A creation that gets everything puts its VM in front of the list. -/
theorem Follows.new_vm (h : Follows d l) (hno : l.dangling = false) {kvm : ℕ}
    (hk : kvm ∉ d.hw.pool) {hw : HwState n} (hlist : hw.vm_list = kvm :: d.hw.vm_list)
    (hpool : hw.pool = insert kvm d.hw.pool) :
    Follows ⟨hw, some (kvm, ⟨0, fun _ => none⟩)⟩ { l with vm := some ⟨0, false, true⟩ } := by
  obtain ⟨dangling, current, older, hl⟩ := h.lists
  have hnil : dangling = [] := by simpa [hno] using hl.freed
  have hmem : kvm ∈ hw.pool := by
    rw [hpool]
    exact Finset.mem_insert_self kvm d.hw.pool
  refine .vm [] (current ++ older) kvm _ ⟨0, false, true⟩ rfl rfl .new hmem
    (fun hin => hk (hl.live kvm hin)) ⟨?_, Or.inl ⟨hno, rfl⟩, ?_⟩
  · rw [hlist, hl.list, hnil]
    rfl
  · intro a ha
    rcases List.mem_cons.mp ha with rfl | ha
    · exact hmem
    · rw [hpool]
      exact Finset.mem_insert_of_mem (hl.live a ha)

theorem create_vm_ok (cfg : VcpuConfig) (h : Follows d l) (ret : Fin n → ℤ) (alloc_vm : Option ℕ)
    (vcpu_array : Bool) (hv : (Request.create_vm ret alloc_vm vcpu_array).Valid d) :
    RequestOk cfg d l (.create_vm ret alloc_vm vcpu_array) := by
  cases alloc_vm with
  | none => exact Or.inr ⟨fun hs => hs.1 rfl, _, _, rfl, h⟩
  | some kvm =>
    have hk : kvm ∉ d.hw.pool := hv kvm rfl
    obtain ⟨dangling, current, older, hl⟩ := h.lists
    have hinsert := hl.insert hk
    cases hd : l.dangling with
    | true =>
      refine Or.inl ⟨⟨by simp, hd⟩, ?_⟩
      rcases kvm_create_vm_linked ret kvm vcpu_array d.hw with ⟨-, hnone⟩ | ⟨_, _, hsome, -⟩
      · simp [DriverDeviceControl, kvm_dev_ioctl_create_vm, hnone]
      · rw [hinsert, hd] at hsome
        cases hsome
    | false =>
      have hgo : ¬ Faults cfg l (.create_vm ret (some kvm) vcpu_array : Request n) := by
        simp [Faults, hd]
      have hnil : dangling = [] := by simpa [hd] using hl.freed
      rcases kvm_create_vm_linked ret kvm vcpu_array d.hw with
        ⟨hnone, -⟩ | ⟨vm_list, hw, hsome, hlist, hpool, hcreate⟩
      · rw [hinsert, hd] at hnone
        cases hnone
      · have hlinked : hw.vm_list = kvm :: d.hw.vm_list := by
          rw [hlist, hl.list, hnil]
          simpa [hd] using hsome.symm.trans hinsert
        refine Or.inr ⟨hgo, ?_⟩
        cases vcpu_array with
        | true =>
          refine ⟨STATUS_SUCCESS, ⟨hw, some (kvm, ⟨0, fun _ => none⟩)⟩, ?_, ?_⟩
          · simp [DriverDeviceControl, kvm_dev_ioctl_create_vm, hcreate]
          · exact h.new_vm hd hk hlinked hpool
        | false =>
          refine ⟨STATUS_UNSUCCESSFUL, { d with hw := hw }, ?_, ?_⟩
          · simp [DriverDeviceControl, kvm_dev_ioctl_create_vm, hcreate]
          · exact h.dangle hd hk hlinked (hpool.trans (Finset.erase_insert hk))

theorem create_vcpu_ok (cfg : VcpuConfig) (hn : 0 < n) (h : Follows d l)
    (ans : ℕ → VcpuAnswers) : RequestOk cfg d l (.create_vcpu ans) := by
  cases h with
  | empty dangling hkvm hvm hl =>
    refine Or.inl ⟨by simp [Faults, hvm], ?_⟩
    simp [DriverDeviceControl, hkvm]
  | vm dangling older kvm s v hkvm hvm hs hp hold hl =>
    have hfaults : Faults cfg l (.create_vcpu ans : Request n) ↔
        MeetsNoVmcs cfg ans 0 (n - v.attempts) := by
      simp [Faults, hvm]
    rcases create_vcpus_spec cfg ans n 0 v.attempts STATUS_SUCCESS s (Nat.zero_add n) hs.count
      (Nat.zero_le _) hs.places with ⟨hmeets, hnone⟩ | ⟨hnot, status, s', hsome, hdone⟩
    · refine Or.inl ⟨hfaults.mpr hmeets, ?_⟩
      simp [DriverDeviceControl, hkvm, hnone]
    · refine Or.inr ⟨mt hfaults.mp hnot, status, { d with g_kvm := some (kvm, s') }, ?_, ?_⟩
      · simp [DriverDeviceControl, hkvm, hsome]
      · exact .vm dangling older kvm s' _ rfl (by simp [Life.next, hvm]) (hs.create_vcpus hn hdone)
          hp hold (hl.congr rfl rfl rfl)

theorem release_vm_ok (cfg : VcpuConfig) (hn : 0 < n) (h : Follows d l) (cpu : Fin n) :
    RequestOk cfg d l (.release_vm cpu) := by
  cases h with
  | empty dangling hkvm hvm hl =>
    refine Or.inl ⟨by simp [Faults, hvm], ?_⟩
    simp [DriverDeviceControl, kvm_put_kvm, hkvm]
  | vm dangling older kvm s v hkvm hvm hs hp hold hl =>
    have hread := hs.read_vcpus hn
    have hfaults : Faults cfg l (.release_vm cpu : Request n) ↔
        (v.ready = true → v.linked = true → l.dangling = true) := by
      simp [Faults, hvm]
    cases hlinked : v.linked with
    | false =>
      -- it was released before
      refine Or.inl ⟨hfaults.mpr (by simp [hlinked]), ?_⟩
      have hnot : kvm ∉ d.hw.vm_list := by
        rw [hlinked, if_neg (by simp)] at hl
        exact hl.not_mem hp hold
      simp [DriverDeviceControl, kvm_put_kvm, hkvm, RemoveEntryList_not_mem hnot]
    | true =>
      rw [hlinked, if_pos rfl] at hl
      have hremove := hl.remove
      cases hd : l.dangling with
      | true =>
        refine Or.inl ⟨hfaults.mpr (by simp [hd]), ?_⟩
        rw [hd, if_pos rfl] at hremove
        simp [DriverDeviceControl, kvm_put_kvm, hkvm, hremove]
      | false =>
        rw [hd, if_neg (by simp)] at hremove
        cases hready : v.ready with
        | false =>
          refine Or.inl ⟨hfaults.mpr (by simp [hready]), ?_⟩
          have hnone : read_vcpus s = none := by simpa [hready] using hread
          simp [DriverDeviceControl, kvm_put_kvm, kvm_destroy_vcpus, hkvm, hremove, hnone]
        | true =>
          refine Or.inr ⟨mt hfaults.mp (by simp [hready, hlinked, hd]), STATUS_SUCCESS, ?_⟩
          obtain ⟨vcpus, hvcpus⟩ := Option.isSome_iff_exists.mp (hread.mpr hready)
          obtain ⟨hlist, hpool⟩ := hardware_disable_all_list cpu { d.hw with vm_list := older }
          refine ⟨{ d with hw := hardware_disable_all cpu { d.hw with vm_list := older } }, ?_, ?_⟩
          · simp [DriverDeviceControl, kvm_put_kvm, kvm_destroy_vcpus, hkvm, hremove, hvcpus]
          · have hlive : ∀ a ∈ older, a ∈ d.hw.pool := fun a ha =>
              hl.live a (List.mem_cons_of_mem kvm ha)
            refine .vm [] older kvm s { v with linked := false } hkvm (by simp [Life.next, hvm])
              ⟨hs.count, hs.places, hs.full, hs.last⟩ (by rwa [hpool]) hold
              ⟨hlist, Or.inl ⟨hd, rfl⟩, ?_⟩
            rw [hpool]
            exact hlive

theorem run_ok (cfg : VcpuConfig) (hn : 0 < n) (h : Follows d l) (ret : ℤ) :
    RequestOk cfg d l (.run ret : Request n) := by
  cases h with
  | empty dangling hkvm hvm hl =>
    refine Or.inl ⟨by simp [Faults, hvm], ?_⟩
    simp [DriverDeviceControl, RunKvm, hkvm]
  | vm dangling older kvm s v hkvm hvm hs hp hold hl =>
    have hread := hs.read_vcpus hn
    cases hready : v.ready with
    | false =>
      refine Or.inl ⟨by simp [Faults, hvm, hready], ?_⟩
      have hnone : read_vcpus s = none := by simpa [hready] using hread
      simp [DriverDeviceControl, RunKvm, hkvm, hnone]
    | true =>
      obtain ⟨vcpus, hvcpus⟩ := Option.isSome_iff_exists.mp (hread.mpr hready)
      refine Or.inr ⟨by simp [Faults, hvm, hready], ret, d, ?_, ?_⟩
      · simp [DriverDeviceControl, RunKvm, hkvm, hvcpus]
      · exact .vm dangling older kvm s v hkvm hvm hs hp hold hl

/-- **One request.** It faults exactly when its condition on the life of the VM holds, and else the
driver follows the next life. -/
theorem request_ok (cfg : VcpuConfig) (hn : 0 < n) (h : Follows d l) (req : Request n)
    (hv : req.Valid d) : RequestOk cfg d l req := by
  cases req with
  | create_vm ret alloc_vm vcpu_array => exact create_vm_ok cfg h ret alloc_vm vcpu_array hv
  | create_vcpu ans => exact create_vcpu_ok cfg hn h ans
  | release_vm cpu => exact release_vm_ok cfg hn h cpu
  | run ret => exact run_ok cfg hn h ret

/-! ## Runs -/

theorem follows_loaded {d : Driver n} (hd : HwLoaded d.hw) (hkvm : d.g_kvm = none) :
    Follows d ⟨false, none⟩ :=
  .empty [] hkvm rfl ⟨hd.2.2, Or.inl ⟨rfl, rfl⟩, by simp⟩

theorem Follows.step {cfg : VcpuConfig} (hn : 0 < n) {p p' : Driver n × Life} {req : Request n}
    (h : Follows p.1 p.2) (hstep : (driverSystem n cfg).step p req p') : Follows p'.1 p'.2 := by
  obtain ⟨hv, ⟨status, hreq⟩, hnext⟩ := hstep
  rcases request_ok cfg hn h req hv with ⟨-, hnone⟩ | ⟨-, status', d', hsome, hfollows⟩
  · rw [hreq] at hnone
    cases hnone
  · obtain ⟨-, heq⟩ := Prod.mk.inj (Option.some.inj (hreq.symm.trans hsome))
    rwa [hnext, heq]

/-- The driver follows the life of its VM along every run. -/
theorem follows_of_run {cfg : VcpuConfig} (hn : 0 < n) {p : Driver n × Life}
    (h : Transition.Run (driverSystem n cfg) (fun _ _ => True) p) : Follows p.1 p.2 := by
  refine h.invariant (fun p => Follows p.1 p.2) ?_ fun _ _ _ hp _ hstep => hp.step hn hstep
  rintro ⟨d, l⟩ ⟨hd, hkvm, hl⟩
  rw [show l = ⟨false, none⟩ from hl]
  exact follows_loaded hd hkvm

/-- A driver with `n` processors, as it is loaded. -/
def loaded (n : ℕ) : Driver n × Life := (⟨driver_loaded n, none⟩, ⟨false, none⟩)

/-- A machine with two processors after the first creation. -/
def first_vm : Driver 2 × Life :=
  (⟨created (driver_loaded 2) 4, some (4, ⟨0, fun _ => none⟩)⟩, ⟨false, some ⟨0, false, true⟩⟩)

/-- A pool that has no memory for a vCPU. -/
def no_vcpu : VcpuAnswers := { all_granted 16 with vcpu := none }

/-- The same machine after a `KVM_CREATE_VCPU` that got no memory for its first vCPU. -/
def failed_vm : Driver 2 × Life :=
  (⟨created (driver_loaded 2) 4, some (4, ⟨1, fun _ => none⟩)⟩, ⟨false, some ⟨1, false, true⟩⟩)

theorem run_first_vm :
    Transition.Run (driverSystem 2 four_level_config) (fun _ _ => True) first_vm := by
  have hstart : Transition.Run (driverSystem 2 four_level_config) (fun _ _ => True) (loaded 2) :=
    Transition.Run.start _ ⟨driver_loaded_spec, rfl, rfl⟩
  refine Transition.Run.step _ (.create_vm (fun _ => 0) (some 4) true) _ hstart trivial
    ⟨?_, ⟨STATUS_SUCCESS, ?_⟩, ?_⟩
  · rintro _ ⟨⟩
    simp [loaded, driver_loaded]
  · have hcreate := @kvm_create_vm_spec 2 _ driver_loaded_spec.inv 4 (by decide) true
    simp [DriverDeviceControl, kvm_dev_ioctl_create_vm, loaded, hcreate, first_vm]
  · simp [Life.next, loaded, first_vm]

theorem run_failed_vm :
    Transition.Run (driverSystem 2 four_level_config) (fun _ _ => True) failed_vm := by
  have hnot : ¬ AllGranted four_level_config no_vcpu := fun hg => hg.vcpu rfl
  have hnone : granted four_level_config (fun _ => no_vcpu) 2 0 = 0 := granted_succ_of_not hnot 1
  have hstep : (driverSystem 2 four_level_config).step first_vm (.create_vcpu fun _ => no_vcpu)
      failed_vm := by
    refine ⟨True.intro, ⟨STATUS_NO_MEMORY, rfl⟩, ?_⟩
    simp [Life.next, first_vm, failed_vm, hnone]
  exact Transition.Run.step first_vm _ failed_vm run_first_vm trivial hstep

/-- **Which requests fault.** After any requests that came before, `KVM_CREATE_VM` does where it gets
memory and an earlier creation left its block in the list; `KVM_CREATE_VCPU` where there is no VM,
or where an attempt gets everything up to its VMCS and that it does not get; `KVM_RELEASE_VM` unless
there is a VM with all its vCPUs that was not released, and nothing dangles; `KVM_RUN` unless there
is a VM with all its vCPUs. -/
theorem request_faults_iff {cfg : VcpuConfig} (hn : 0 < n) {p : Driver n × Life}
    (h : Transition.Run (driverSystem n cfg) (fun _ _ => True) p) (req : Request n)
    (hv : req.Valid p.1) : DriverDeviceControl cfg p.1 req = none ↔ Faults cfg p.2 req := by
  rcases request_ok cfg hn (follows_of_run hn h) req hv with
    ⟨hfaults, hnone⟩ | ⟨hgoes, status, d', hsome, -⟩
  · exact iff_of_true hnone hfaults
  · refine iff_of_false ?_ hgoes
    rw [hsome]
    exact nofun

/-- The first request for vCPUs fails without a fault, and the release after it faults. -/
theorem request_faults_first :
    DriverDeviceControl four_level_config first_vm.1
        (.create_vcpu fun _ => no_vcpu) ≠ none ∧
      DriverDeviceControl four_level_config failed_vm.1 (.release_vm 0) = none := by
  constructor
  · intro hnone
    have hfaults := (request_faults_iff Nat.two_pos run_first_vm (.create_vcpu fun _ => no_vcpu)
      True.intro).mp hnone
    obtain ⟨k, -, -, hvcpu, -⟩ := hfaults _ rfl
    exact hvcpu rfl
  · refine (request_faults_iff Nat.two_pos run_failed_vm (.release_vm 0) True.intro).mpr ?_
    simp [Faults, failed_vm]

/-! ## A VM whose first request failed -/

/-- Places are gone, and vCPUs are missing. -/
def Stuck (l : Life) : Prop := ∃ v, l.vm = some v ∧ v.attempts ≠ 0 ∧ v.ready = false

theorem Stuck.faults {l : Life} (h : Stuck l) (cfg : VcpuConfig) (cpu : Fin n) (ret : ℤ) :
    Faults cfg l (.release_vm cpu : Request n) ∧ Faults cfg l (.run ret : Request n) := by
  obtain ⟨v, hvm, -, hready⟩ := h
  simp [Faults, hvm, hready]

/-- Only a new VM helps. -/
theorem Stuck.next {l : Life} (h : Stuck l) (hn : 0 < n) (cfg : VcpuConfig) {req : Request n}
    (hreq : ∀ ret kvm, req ≠ .create_vm ret (some kvm) true) : Stuck (l.next cfg req) := by
  obtain ⟨v, hvm, hplaces, hready⟩ := h
  cases req with
  | create_vm ret alloc_vm vcpu_array =>
    cases alloc_vm with
    | none => exact ⟨v, hvm, hplaces, hready⟩
    | some kvm =>
      cases vcpu_array with
      | true => exact absurd rfl (hreq ret kvm)
      | false => exact ⟨v, hvm, hplaces, hready⟩
  | create_vcpu ans =>
    refine ⟨_, by rw [Life.next, hvm, Option.map_some], ?_, by simp [hready, hplaces]⟩
    simp only
    omega
  | release_vm cpu => exact ⟨{ v with linked := false }, by simp [Life.next, hvm], hplaces, hready⟩
  | run ret => exact ⟨v, hvm, hplaces, hready⟩

/-- **A failed `KVM_CREATE_VCPU` is for good.** Once places are taken and a vCPU is missing, the VM
can be neither released nor run without a fault, whatever is requested in between, short of a new
VM. -/
theorem failed_vm_lost {cfg : VcpuConfig} (hn : 0 < n) {p q : Driver n × Life}
    (h : Transition.Run (driverSystem n cfg) (fun _ _ => True) p) (hp : Stuck p.2)
    (hq : Transition.Run ⟨(· = p), (driverSystem n cfg).step⟩
      (fun _ req => ∀ ret kvm, req ≠ .create_vm ret (some kvm) true) q) (cpu : Fin n) (ret : ℤ) :
    DriverDeviceControl cfg q.1 (.release_vm cpu) = none ∧
      DriverDeviceControl cfg q.1 (.run ret) = none := by
  have hinv : Follows q.1 q.2 ∧ Stuck q.2 := by
    refine hq.invariant (fun q => Follows q.1 q.2 ∧ Stuck q.2) ?_ ?_
    · rintro _ rfl
      exact ⟨follows_of_run hn h, hp⟩
    · intro s req s' hs hreq hstep
      refine ⟨hs.1.step hn hstep, ?_⟩
      rw [hstep.2.2]
      exact hs.2.next hn cfg hreq
  obtain ⟨hrelease, hrun⟩ := hinv.2.faults cfg cpu ret
  constructor
  · rcases request_ok cfg hn hinv.1 (.release_vm cpu) trivial with ⟨-, hnone⟩ | ⟨hgoes, -⟩
    · exact hnone
    · exact absurd hrelease hgoes
  · rcases request_ok cfg hn hinv.1 (.run ret) trivial with ⟨-, hnone⟩ | ⟨hgoes, -⟩
    · exact hnone
    · exact absurd hrun hgoes

/-- The machine after a second `KVM_CREATE_VCPU`, with memory for everything. -/
def retried_vm : Driver 2 × Life :=
  (⟨created (driver_loaded 2) 4,
    some (4, ⟨2, Function.update (fun _ => none) ⟨0, Nat.two_pos⟩ (some 16)⟩)⟩,
    ⟨false, some ⟨2, false, true⟩⟩)

/-- The second request gets everything, and it is too late. -/
theorem failed_vm_lost_sample :
    DriverDeviceControl four_level_config retried_vm.1 (.release_vm 0) = none ∧
      DriverDeviceControl four_level_config retried_vm.1 (.run 0) = none := by
  refine failed_vm_lost Nat.two_pos run_failed_vm ⟨_, rfl, one_ne_zero, rfl⟩
    (Transition.Run.step failed_vm (.create_vcpu fun _ => all_granted 16) retried_vm
      (Transition.Run.start failed_vm rfl) (fun _ _ => nofun)
      ⟨True.intro, ⟨STATUS_INVALID_PARAMETER, rfl⟩, ?_⟩) 0 0
  simp [Life.next, failed_vm, retried_vm]

end Svmx.DriverRun
