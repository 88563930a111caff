/-
Hardware virtualization over VM creation and destruction (`kvm_main.c`).

`kvm_usage_count` counts the VMs, `hardware_enabled` says for each processor whether it is in VMX
operation, and `vm_list` links the `struct kvm` of every VM. The first creation enables the
hardware on every processor by an IPI; the last destruction disables it, but only on the processor
that runs it, and a creation that fails at its last allocation frees the VM and leaves both the
count and the list entry behind. `hardware_enabled_exact` is the invariant over the runs that do
neither, `hardware_left_enabled` a creation and a destruction that break it.

Left out is what the count, the array and the list do not depend on: the locks (each operation
runs to its end), the memslots, and `kvm_arch_init_vm` and `kvm_arch_post_init_vm`, whose status
`kvm_create_vm` overwrites.
-/
import Mathlib.Data.Finset.Basic
import Mathlib.Data.Fintype.Basic
import Mathlib.Data.List.FinRange
import Svmx.Transition

set_option autoImplicit false

namespace Svmx.Hardware

variable {n : ℕ}

/-! ## The state -/

/-- The globals of `kvm_main.c` on a machine with `n` processors. `kvm_usage_count` is a C `int`;
its range is no concern, as the pool does not hold 2³¹ blocks of the size of a `struct kvm`. -/
structure HwState (n : ℕ) where
  kvm_usage_count : ℤ
  hardware_enabled : Fin n → Bool
  /-- The addresses of the linked `struct kvm`, from the list head on. -/
  vm_list : List ℕ
  /-- The blocks of the pool that hold a `struct kvm`. -/
  pool : Finset ℕ

/-! ## Enabling and disabling -/

/-- `__hardware_enable_nolock` on `cpu`, where the vendor's `hardware_enable` returns `ret`. -/
def __hardware_enable_nolock (ret : ℤ) (cpu : Fin n) (hardware_enabled : Fin n → Bool) :
    ℤ × (Fin n → Bool) :=
  if hardware_enabled cpu then (0, hardware_enabled)
  else if ret ≠ 0 then (-1, hardware_enabled)
  else (0, Function.update hardware_enabled cpu true)

/-- `hardware_enable_nolock`: the result is dropped. -/
def hardware_enable_nolock (ret : ℤ) (cpu : Fin n) (hardware_enabled : Fin n → Bool) :
    Fin n → Bool :=
  (__hardware_enable_nolock ret cpu hardware_enabled).2

/-- `KeIpiGenericCall(EnableHardware, 0)`: the routine runs once on every processor. -/
def ipi_enable (ret : Fin n → ℤ) (hardware_enabled : Fin n → Bool) : Fin n → Bool :=
  (List.finRange n).foldl (fun enabled cpu => hardware_enable_nolock (ret cpu) cpu enabled)
    hardware_enabled

/-- `hardware_enable_all`. -/
def hardware_enable_all (ret : Fin n → ℤ) (s : HwState n) : HwState n :=
  let s := { s with kvm_usage_count := s.kvm_usage_count + 1 }
  if s.kvm_usage_count = 1 then
    { s with hardware_enabled := ipi_enable ret s.hardware_enabled }
  else s

/-- `hardware_disable_nolock` on `cpu`. -/
def hardware_disable_nolock (cpu : Fin n) (s : HwState n) : HwState n :=
  if s.hardware_enabled cpu = false then s
  else { s with hardware_enabled := Function.update s.hardware_enabled cpu false }

/-- `hardware_disable_all_nolock` on `cpu`. -/
def hardware_disable_all_nolock (cpu : Fin n) (s : HwState n) : HwState n :=
  let s := { s with kvm_usage_count := s.kvm_usage_count - 1 }
  if s.kvm_usage_count = 0 then hardware_disable_nolock cpu s else s

/-- `hardware_disable_all`. -/
def hardware_disable_all (cpu : Fin n) (s : HwState n) : HwState n :=
  hardware_disable_all_nolock cpu s

/-! ## The list of VMs

`InsertHeadList` writes to the entry that was first, `RemoveEntryList` to both neighbours of the
entry. A write to a block that was given back to the pool has no defined effect, which is `none`. -/

/-- `InsertHeadList(&vm_list, &kvm->vm_list)`; a block that is still linked corrupts the list. -/
def InsertHeadList (pool : Finset ℕ) (kvm : ℕ) (l : List ℕ) : Option (List ℕ) :=
  if kvm ∈ l then none
  else match l with
    | [] => some [kvm]
    | first :: rest => if first ∈ pool then some (kvm :: first :: rest) else none

/-- `RemoveEntryList(&kvm->vm_list)`, where `prev` is the entry before the list. -/
def RemoveEntryList (pool : Finset ℕ) (kvm : ℕ) : Option ℕ → List ℕ → Option (List ℕ)
  | _, [] => none
  | prev, a :: l =>
    if a = kvm then
      if (∀ p ∈ prev, p ∈ pool) ∧ ∀ p ∈ l.head?, p ∈ pool then some l else none
    else (RemoveEntryList pool kvm (some a) l).map (a :: ·)

/-! ## Creation and destruction -/

/-- `kvm_create_vm`, where `alloc_vm` is the block `kvm_arch_alloc_vm` gets from the pool and
`vcpu_array` says whether the array of vCPUs can be allocated. The processor that runs it does not
matter. -/
def kvm_create_vm (ret : Fin n → ℤ) (alloc_vm : Option ℕ) (vcpu_array : Bool) (s : HwState n) :
    Option (Option ℕ × HwState n) :=
  match alloc_vm with
  | none => some (none, s)
  | some kvm => do
    let s := hardware_enable_all ret { s with pool := insert kvm s.pool }
    let vm_list ← InsertHeadList s.pool kvm s.vm_list
    let s := { s with vm_list := vm_list }
    if vcpu_array then some (some kvm, s)
    else some (none, { s with pool := s.pool.erase kvm })

/-- `kvm_destroy_vm` on processor `cpu`. The block of the VM stays allocated. -/
def kvm_destroy_vm (cpu : Fin n) (kvm : ℕ) (s : HwState n) : Option (HwState n) := do
  let vm_list ← RemoveEntryList s.pool kvm none s.vm_list
  some (hardware_disable_all cpu { s with vm_list := vm_list })

/-! ## Runs -/

/-- An operation with the processor that issues it and what the pool answers. -/
inductive HwOp (n : ℕ) where
  | create (cpu : Fin n) (alloc_vm : Option ℕ) (vcpu_array : Bool)
  | destroy (cpu : Fin n) (kvm : ℕ)

/-- The VMs that exist: the linked blocks that hold a `struct kvm`. -/
def vms (s : HwState n) : List ℕ := s.vm_list.filter (· ∈ s.pool)

/-- The pool gives memory that is not in use, and only a VM that exists is destroyed. -/
def HwOp.Valid (s : HwState n) : HwOp n → Prop
  | .create _ alloc_vm _ => ∀ kvm ∈ alloc_vm, kvm ∉ s.pool
  | .destroy _ kvm => kvm ∈ vms s

/-- One operation, every vendor `hardware_enable` succeeding. -/
def hwStep (s : HwState n) : HwOp n → Option (HwState n)
  | .create _ alloc_vm vcpu_array => (kvm_create_vm (fun _ => 0) alloc_vm vcpu_array s).map (·.2)
  | .destroy cpu kvm => kvm_destroy_vm cpu kvm s

/-- The state after the driver is loaded. -/
def HwLoaded (s : HwState n) : Prop :=
  s.kvm_usage_count = 0 ∧ (∀ cpu, s.hardware_enabled cpu = false) ∧ s.vm_list = []

/-- The system of creations and destructions. -/
def hwSystem (n : ℕ) : Transition.System (HwState n) (HwOp n) where
  init := HwLoaded
  step s op s' := op.Valid s ∧ hwStep s op = some s'

/-- The hardware is enabled on every processor while there is a VM and on none otherwise, and the
VMs are counted. -/
structure HardwareOk (s : HwState n) : Prop where
  on : vms s ≠ [] → ∀ cpu, s.hardware_enabled cpu = true
  off : vms s = [] → ∀ cpu, s.hardware_enabled cpu = false
  count : s.kvm_usage_count = (vms s).length

/-- What holds in every state of a run that keeps the hardware: also, every entry of the list is a
`struct kvm` of the pool, linked once. -/
structure HwInv (s : HwState n) : Prop where
  ok : HardwareOk s
  live : ∀ kvm ∈ s.vm_list, kvm ∈ s.pool
  nodup : s.vm_list.Nodup

/-! ## What the helpers do -/

theorem hardware_enable_nolock_apply (cpu c : Fin n) (enabled : Fin n → Bool) :
    hardware_enable_nolock 0 cpu enabled c = (enabled c || decide (c = cpu)) := by
  unfold hardware_enable_nolock __hardware_enable_nolock
  by_cases hc : c = cpu
  · subst hc
    by_cases he : enabled c = true
    · simp [he]
    · simp [he]
  · by_cases he : enabled cpu = true
    · simp [he, hc]
    · simp [he, hc]

/-- The broadcast reaches the processors it names. -/
theorem ipi_foldl_apply (cpus : List (Fin n)) (c : Fin n) (enabled : Fin n → Bool) :
    cpus.foldl (fun enabled cpu => hardware_enable_nolock 0 cpu enabled) enabled c =
      (enabled c || decide (c ∈ cpus)) := by
  induction cpus generalizing enabled with
  | nil => simp
  | cons cpu cpus ih =>
    rw [List.foldl_cons, ih, hardware_enable_nolock_apply]
    simp [Bool.or_assoc]

/-- After the broadcast the hardware is enabled on every processor. -/
theorem ipi_enable_apply (c : Fin n) (enabled : Fin n → Bool) :
    ipi_enable (fun _ => 0) enabled c = true := by
  unfold ipi_enable
  rw [ipi_foldl_apply]
  simp

theorem InsertHeadList_spec {pool : Finset ℕ} {kvm : ℕ} {l : List ℕ} (hl : ∀ a ∈ l, a ∈ pool)
    (hk : kvm ∉ l) : InsertHeadList pool kvm l = some (kvm :: l) := by
  unfold InsertHeadList
  rw [if_neg hk]
  cases l with
  | nil => rfl
  | cons first rest => simp [hl first List.mem_cons_self]

theorem RemoveEntryList_spec {pool : Finset ℕ} {kvm : ℕ} {l : List ℕ} (prev : Option ℕ)
    (hprev : ∀ p ∈ prev, p ∈ pool) (hl : ∀ a ∈ l, a ∈ pool) (hk : kvm ∈ l) :
    RemoveEntryList pool kvm prev l = some (l.erase kvm) := by
  induction l generalizing prev with
  | nil => simp at hk
  | cons a l ih =>
    unfold RemoveEntryList
    by_cases ha : a = kvm
    · have hhead : ∀ p ∈ l.head?, p ∈ pool := fun p hp =>
        hl p (List.mem_cons_of_mem a (List.mem_of_mem_head? hp))
      rw [if_pos ha, if_pos ⟨hprev, hhead⟩, ha, List.erase_cons_head]
    · have hkl : kvm ∈ l := by simpa [Ne.symm ha] using hk
      have hrest := ih (some a) (by simpa using hl a List.mem_cons_self)
        (fun b hb => hl b (List.mem_cons_of_mem a hb)) hkl
      rw [if_neg ha, hrest, List.erase_cons_tail (by simpa using ha)]
      rfl

/-- A list whose entries are all in the pool holds VMs only. -/
theorem vms_eq_vm_list {s : HwState n} (h : ∀ kvm ∈ s.vm_list, kvm ∈ s.pool) :
    vms s = s.vm_list := by
  unfold vms
  rw [List.filter_eq_self]
  simpa using h

/-! ## One operation -/

/-- A creation that gets its `struct kvm`, up to the allocation of the array. -/
def created (s : HwState n) (kvm : ℕ) : HwState n where
  kvm_usage_count := s.kvm_usage_count + 1
  hardware_enabled := fun _ => true
  vm_list := kvm :: s.vm_list
  pool := insert kvm s.pool

/-- The first VM switches the hardware on, any later one finds it on. -/
theorem hardware_enable_all_spec {s : HwState n} (h : HwInv s) (pool : Finset ℕ) :
    hardware_enable_all (fun _ => 0) { s with pool := pool } =
      { s with
        kvm_usage_count := s.kvm_usage_count + 1, hardware_enabled := fun _ => true,
        pool := pool } := by
  have hvms := vms_eq_vm_list h.live
  have hcount := h.ok.count
  unfold hardware_enable_all
  by_cases hl : s.vm_list = []
  · rw [hvms, hl, List.length_nil] at hcount
    have hipi : ipi_enable (fun _ => 0) s.hardware_enabled = fun _ => true :=
      funext fun c => ipi_enable_apply c s.hardware_enabled
    simp [hcount, hipi]
  · have hon : s.hardware_enabled = fun _ => true :=
      funext (h.ok.on (by rwa [hvms]))
    have hpos := List.length_pos_of_ne_nil hl
    rw [hvms] at hcount
    have hne : ¬ s.kvm_usage_count + 1 = 1 := by omega
    simp [hne, hon]

/-- **Creation.** It does nothing without memory for the VM; else it counts, enables and links, and
when the array fails it takes back the memory only. -/
theorem kvm_create_vm_spec {s : HwState n} (h : HwInv s) {kvm : ℕ} (hk : kvm ∉ s.pool)
    (vcpu_array : Bool) :
    kvm_create_vm (fun _ => 0) (some kvm) vcpu_array s =
      if vcpu_array then some (some kvm, created s kvm)
      else some (none, { created s kvm with pool := (insert kvm s.pool).erase kvm }) := by
  have hnot : kvm ∉ s.vm_list := fun hmem => hk (h.live kvm hmem)
  have hinsert : InsertHeadList (insert kvm s.pool) kvm s.vm_list = some (kvm :: s.vm_list) :=
    InsertHeadList_spec (fun a ha => Finset.mem_insert_of_mem (h.live a ha)) hnot
  unfold kvm_create_vm
  simp only [hardware_enable_all_spec h, hinsert, Option.bind_eq_bind, Option.bind_some]
  rfl

/-- A VM is created, and everything holds as before. -/
theorem HwInv.created {s : HwState n} (h : HwInv s) {kvm : ℕ} (hk : kvm ∉ s.pool) :
    HwInv (created s kvm) := by
  have hlive : ∀ a ∈ kvm :: s.vm_list, a ∈ insert kvm s.pool := by
    intro a ha
    rcases List.mem_cons.mp ha with rfl | ha
    · exact Finset.mem_insert_self a s.pool
    · exact Finset.mem_insert_of_mem (h.live a ha)
  have hvms : vms (Hardware.created s kvm) = kvm :: s.vm_list := vms_eq_vm_list hlive
  refine ⟨⟨fun _ _ => rfl, fun hnil => ?_, ?_⟩, hlive, ?_⟩
  · rw [hvms] at hnil
    cases hnil
  · have hcount := h.ok.count
    rw [vms_eq_vm_list h.live] at hcount
    rw [hvms]
    simp [Hardware.created, hcount]
  · exact List.nodup_cons.mpr ⟨fun hmem => hk (h.live kvm hmem), h.nodup⟩

theorem HwLoaded.inv {s : HwState n} (h : HwLoaded s) : HwInv s := by
  obtain ⟨hcount, hoff, hlist⟩ := h
  have hvms : vms s = [] := by
    rw [vms, hlist]
    rfl
  refine ⟨⟨fun hne => absurd hvms hne, fun _ => hoff, ?_⟩, ?_, ?_⟩
  · rw [hvms, hcount]
    rfl
  · rw [hlist]
    simp
  · rw [hlist]
    exact List.nodup_nil

/-- The state after the driver is loaded, with an empty pool. -/
def driver_loaded (n : ℕ) : HwState n := ⟨0, fun _ => false, [], ∅⟩

theorem driver_loaded_spec : HwLoaded (driver_loaded n) := ⟨rfl, fun _ => rfl, rfl⟩

/-- One creation of a run that has memory for it. -/
theorem Run.create {ok : HwState n → HwOp n → Prop} {s : HwState n}
    (h : Transition.Run (hwSystem n) ok s) (hs : HwInv s) (cpu : Fin n) (kvm : ℕ)
    (hk : kvm ∉ s.pool) (hok : ok s (.create cpu (some kvm) true)) :
    Transition.Run (hwSystem n) ok (Hardware.created s kvm) := by
  refine Transition.Run.step s (.create cpu (some kvm) true) _ h hok ⟨?_, ?_⟩
  · rintro _ ⟨⟩
    exact hk
  · rw [hwStep, kvm_create_vm_spec hs hk]
    rfl

end Svmx.Hardware
