/-
Which processor has which VMCS (`vmx_vcpu_load_vmcs`, `loaded_vmcs_clear`, `free_loaded_vmcs`).

A `loaded_vmcs` is linked in the list of the processor on which it was loaded last, `current_vmcs`
caches the current VMCS of every processor, and the processor has its own pointer. They are written by
load, by clear and by free, on the processor that the vCPU has by its number. `loaded_vmcs_tracked`
is the invariant over every sequence of loads, runs and frees of any number of vCPUs.

Left out is what these do not depend on: the shadow VMCS, which is always NULL, the bitmaps, and the
host fields that `vmx_vcpu_load_vmcs` writes. A vCPU is named by the address of its `loaded_vmcs`; it
exists after its VMCS was allocated, and its memory is not given back when the VMCS is.
-/
import Mathlib.Data.List.FinRange
import Mathlib.Logic.Function.Basic
import Svmx.Transition

set_option autoImplicit false

namespace Svmx.VmcsLoad

variable {V P : Type*} [DecidableEq V] [DecidableEq P] {n : ℕ}

/-! ## The state -/

/-- `struct loaded_vmcs` without its link; `none` for the `cpu` is -1. -/
structure LoadedVmcs (P : Type*) (n : ℕ) where
  vmcs : Option P
  cpu : Option (Fin n)
  launched : Bool
  vcpu_id : Fin n

/-- The vCPUs and the `n` processors. -/
structure Host (V P : Type*) (n : ℕ) where
  loaded_vmcs : V → Option (LoadedVmcs P n)
  /-- The linked vCPUs, from the list head on. -/
  loaded_vmcss_on_cpu : Fin n → List V
  current_vmcs : Fin n → Option P
  /-- The current-VMCS pointer of the processor itself. -/
  vmptr : Fin n → Option P
  /-- The vCPU was loaded since it was created or freed last. -/
  vcpu_loaded : V → Bool

/-! ## The functions -/

/-- `vmcs_clear` on `cpu`: VMCLEAR of the current VMCS leaves the processor without one. -/
def vmcs_clear (cpu : Fin n) (vmcs : Option P) (h : Host V P n) : Host V P n :=
  if h.vmptr cpu = vmcs then { h with vmptr := Function.update h.vmptr cpu none } else h

/-- `vmcs_load` on `cpu`: VMPTRLD of the region at 0 fails and leaves the pointer as it is. -/
def vmcs_load (cpu : Fin n) (vmcs : Option P) (h : Host V P n) : Host V P n :=
  match vmcs with
  | none => h
  | some p => { h with vmptr := Function.update h.vmptr cpu (some p) }

/-- `RemoveEntryList`: the entry goes out of the list it is in. -/
def RemoveEntryList (v : V) (h : Host V P n) : Host V P n :=
  { h with loaded_vmcss_on_cpu := fun cpu => (h.loaded_vmcss_on_cpu cpu).erase v }

/-- `InsertHeadList(&loaded_vmcss_on_cpu[cpu], …)`. -/
def InsertHeadList (cpu : Fin n) (v : V) (h : Host V P n) : Host V P n :=
  { h with loaded_vmcss_on_cpu :=
      Function.update h.loaded_vmcss_on_cpu cpu (v :: h.loaded_vmcss_on_cpu cpu) }

/-- Writes to fields of a `loaded_vmcs`. -/
def write (v : V) (f : LoadedVmcs P n → LoadedVmcs P n) (h : Host V P n) : Host V P n :=
  { h with loaded_vmcs := Function.update h.loaded_vmcs v ((h.loaded_vmcs v).map f) }

/-- `KeIpiGenericCall`: the routine runs once on every processor. -/
def KeIpiGenericCall (routine : Fin n → Host V P n → Host V P n) (h : Host V P n) : Host V P n :=
  (List.finRange n).foldl (fun h cpu => routine cpu h) h

/-- `__loaded_vmcs_clear` on `cpu`. -/
def __loaded_vmcs_clear (cpu : Fin n) (v : V) (lv : LoadedVmcs P n) (h : Host V P n) : Host V P n :=
  let h := if h.current_vmcs cpu = lv.vmcs then
      { h with current_vmcs := Function.update h.current_vmcs cpu none } else h
  let h := vmcs_clear cpu lv.vmcs h
  let h := RemoveEntryList v h
  write v (fun lv => { lv with cpu := none, launched := false }) h

/-- `RunOnTargetCore` on `cpu`. -/
def RunOnTargetCore (v : V) (cpu : Fin n) (h : Host V P n) : Host V P n :=
  match h.loaded_vmcs v with
  | none => h
  | some lv =>
    if cpu ≠ lv.vcpu_id then h
    else if lv.cpu ≠ none then __loaded_vmcs_clear cpu v lv h
    else h

/-- `loaded_vmcs_clear`. -/
def loaded_vmcs_clear (v : V) (lv : LoadedVmcs P n) (h : Host V P n) : Host V P n :=
  if lv.cpu ≠ none then KeIpiGenericCall (RunOnTargetCore v) h else h

/-- `VmcsLoadOnSpecificCore` on `cpu`. -/
def VmcsLoadOnSpecificCore (lv : LoadedVmcs P n) (cpu : Fin n) (h : Host V P n) : Host V P n :=
  if cpu = lv.vcpu_id then vmcs_load cpu lv.vmcs h else h

/-- `VmcsClearOnSpecificCore` on `cpu`. -/
def VmcsClearOnSpecificCore (lv : LoadedVmcs P n) (cpu : Fin n) (h : Host V P n) : Host V P n :=
  if cpu = lv.vcpu_id then vmcs_clear cpu lv.vmcs h else h

/-- `vmx_vcpu_load_vmcs`. -/
def vmx_vcpu_load_vmcs (v : V) (lv : LoadedVmcs P n) (cpu : Fin n) (h : Host V P n) : Host V P n :=
  let h := if lv.cpu ≠ some cpu then InsertHeadList cpu v (loaded_vmcs_clear v lv h) else h
  let h := if h.current_vmcs cpu ≠ lv.vmcs then
      KeIpiGenericCall (VmcsLoadOnSpecificCore lv)
        { h with current_vmcs := Function.update h.current_vmcs cpu lv.vmcs }
    else h
  if lv.cpu ≠ some cpu then write v (fun lv => { lv with cpu := some cpu }) h else h

/-- `vcpu_load`. -/
def vcpu_load (v : V) (h : Host V P n) : Host V P n :=
  match h.loaded_vmcs v with
  | none => h
  | some lv =>
    let h := vmx_vcpu_load_vmcs v lv lv.vcpu_id h
    { h with vcpu_loaded := Function.update h.vcpu_loaded v true }

/-- `vmx_vcpu_run`, as far as it writes to the `loaded_vmcs`; `entered` says whether it gets past
`emulation_required`, `vmx->fail` and `failed_vmentry`. -/
def vmx_vcpu_run (v : V) (entered : Bool) (h : Host V P n) : Host V P n :=
  if entered then write v (fun lv => { lv with launched := true }) h else h

/-- `free_loaded_vmcs`. -/
def free_loaded_vmcs (v : V) (h : Host V P n) : Host V P n :=
  match h.loaded_vmcs v with
  | none => h
  | some lv =>
    if lv.vmcs = none then h
    else
      let h := loaded_vmcs_clear v lv h
      let h := write v (fun lv => { lv with vmcs := none }) h
      { h with vcpu_loaded := Function.update h.vcpu_loaded v false }

/-- `vmx_vcpu_create` with `alloc_loaded_vmcs`, where the pool gives `p` for the VMCS. -/
def vmx_vcpu_create (v : V) (vcpu_id : Fin n) (p : P) (h : Host V P n) : Host V P n :=
  let lv : LoadedVmcs P n := ⟨some p, none, false, vcpu_id⟩
  let h := KeIpiGenericCall (VmcsClearOnSpecificCore lv) h
  { h with loaded_vmcs := Function.update h.loaded_vmcs v (some lv) }

/-! ## Histories -/

/-- One operation. -/
inductive Op (V P : Type*) (n : ℕ) where
  | create (v : V) (vcpu_id : Fin n) (p : P)
  | load (v : V)
  | run (v : V) (entered : Bool)
  | free (v : V)

/-- A VMCS that was allocated and not freed. -/
def Allocated (h : Host V P n) (p : P) : Prop :=
  ∃ v lv, h.loaded_vmcs v = some lv ∧ lv.vmcs = some p

/-- A new vCPU gets memory that is not in use, and `kvm_arch_vcpu_ioctl_run` loads a vCPU before it
runs it. -/
def Op.Valid (h : Host V P n) : Op V P n → Prop
  | .create v _ p => h.loaded_vmcs v = none ∧ ¬ Allocated h p
  | .load v => h.loaded_vmcs v ≠ none
  | .run v _ => h.vcpu_loaded v = true
  | .free v => h.loaded_vmcs v ≠ none

def apply (h : Host V P n) : Op V P n → Host V P n
  | .create v vcpu_id p => vmx_vcpu_create v vcpu_id p h
  | .load v => vcpu_load v h
  | .run v entered => vmx_vcpu_run v entered h
  | .free v => free_loaded_vmcs v h

/-- After the driver was loaded: no vCPU, empty lists, no VMCS. -/
def initial : Host V P n where
  loaded_vmcs _ := none
  loaded_vmcss_on_cpu _ := []
  current_vmcs _ := none
  vmptr _ := none
  vcpu_loaded _ := false

/-- Every sequence of creations, loads, runs and frees. -/
def vmcsSystem (V P : Type*) [DecidableEq V] [DecidableEq P] (n : ℕ) :
    Transition.System (Host V P n) (Op V P n) where
  init h := h = initial
  step h op h' := op.Valid h ∧ h' = apply h op

/-! ## An IPI that one processor answers -/

section Fold

variable {σ C : Type*} (routine : C → σ → σ)

theorem foldl_settled (s : σ) (cpus : List C) (hsettled : ∀ cpu ∈ cpus, routine cpu s = s) :
    cpus.foldl (fun s cpu => routine cpu s) s = s := by
  induction cpus with
  | nil => rfl
  | cons cpu cpus ih =>
    rw [List.foldl_cons, hsettled cpu List.mem_cons_self]
    exact ih fun other hother => hsettled other (List.mem_cons_of_mem _ hother)

theorem foldl_at {s s' : σ} {target : C} (hat : routine target s = s')
    (hbefore : ∀ cpu, cpu ≠ target → routine cpu s = s)
    (hafter : ∀ cpu, cpu ≠ target → routine cpu s' = s') (cpus : List C)
    (hnodup : cpus.Nodup) (hmem : target ∈ cpus) :
    cpus.foldl (fun s cpu => routine cpu s) s = s' := by
  induction cpus with
  | nil => exact absurd hmem List.not_mem_nil
  | cons cpu cpus ih =>
    obtain ⟨hnot, hrest⟩ := List.nodup_cons.mp hnodup
    rw [List.foldl_cons]
    by_cases hcpu : cpu = target
    · rw [hcpu, hat]
      refine foldl_settled routine s' cpus fun other hother => hafter other ?_
      rintro rfl
      exact hnot (hcpu ▸ hother)
    · rw [hbefore cpu hcpu]
      exact ih hrest ((List.mem_cons.mp hmem).resolve_left (Ne.symm hcpu))

end Fold

omit [DecidableEq V] [DecidableEq P] in
/-- **The target core.** A routine that does nothing on the other processors, neither before nor
after it ran on `target`. -/
theorem ipi_at {routine : Fin n → Host V P n → Host V P n} {h h' : Host V P n} (target : Fin n)
    (hat : routine target h = h') (hbefore : ∀ cpu, cpu ≠ target → routine cpu h = h)
    (hafter : ∀ cpu, cpu ≠ target → routine cpu h' = h') : KeIpiGenericCall routine h = h' :=
  foldl_at routine hat hbefore hafter _ (List.nodup_finRange n) (List.mem_finRange target)

/-! ## What one operation does -/

variable {v : V} {lv : LoadedVmcs P n} {h : Host V P n}

omit [DecidableEq V] [DecidableEq P] in
theorem ipi_load : KeIpiGenericCall (VmcsLoadOnSpecificCore lv) h = vmcs_load lv.vcpu_id lv.vmcs h :=
  ipi_at lv.vcpu_id (if_pos rfl) (fun _ hne => if_neg hne) (fun _ hne => if_neg hne)

omit [DecidableEq V] in
theorem ipi_clear :
    KeIpiGenericCall (VmcsClearOnSpecificCore lv) h = vmcs_clear lv.vcpu_id lv.vmcs h :=
  ipi_at lv.vcpu_id (if_pos rfl) (fun _ hne => if_neg hne) (fun _ hne => if_neg hne)

omit [DecidableEq V] in
theorem vmcs_clear_eq (cpu : Fin n) (vmcs : Option P) : vmcs_clear cpu vmcs h =
    { h with vmptr := if h.vmptr cpu = vmcs then Function.update h.vmptr cpu none else h.vmptr } := by
  unfold vmcs_clear
  split <;> rfl

omit [DecidableEq V] [DecidableEq P] in
theorem vmcs_load_eq (cpu : Fin n) (vmcs : Option P) : vmcs_load cpu vmcs h =
    { h with vmptr := Function.update h.vmptr cpu (vmcs.or (h.vmptr cpu)) } := by
  cases vmcs with
  | none =>
    simp only [vmcs_load, Option.none_or, Function.update_eq_self]
  | some p => rfl

/-- The state after `__loaded_vmcs_clear`. -/
def cleared (cpu : Fin n) (v : V) (lv : LoadedVmcs P n) (h : Host V P n) : Host V P n where
  loaded_vmcs := Function.update h.loaded_vmcs v (some { lv with cpu := none, launched := false })
  loaded_vmcss_on_cpu c := (h.loaded_vmcss_on_cpu c).erase v
  current_vmcs := if h.current_vmcs cpu = lv.vmcs then Function.update h.current_vmcs cpu none
    else h.current_vmcs
  vmptr := if h.vmptr cpu = lv.vmcs then Function.update h.vmptr cpu none else h.vmptr
  vcpu_loaded := h.vcpu_loaded

theorem loaded_vmcs_clear_eq (cpu : Fin n) (hv : h.loaded_vmcs v = some lv) :
    __loaded_vmcs_clear cpu v lv h = cleared cpu v lv h := by
  unfold __loaded_vmcs_clear cleared
  simp only [vmcs_clear_eq, RemoveEntryList, write]
  split <;> simp only [hv, Option.map_some]

theorem ipi_run_on_target (hv : h.loaded_vmcs v = some lv) (hcpu : lv.cpu ≠ none) :
    KeIpiGenericCall (RunOnTargetCore v) h = cleared lv.vcpu_id v lv h := by
  refine ipi_at lv.vcpu_id ?_ ?_ ?_
  · simp only [RunOnTargetCore, hv]
    rw [if_neg (not_not_intro rfl), if_pos hcpu, loaded_vmcs_clear_eq _ hv]
  · intro cpu hne
    simp only [RunOnTargetCore, hv]
    exact if_pos hne
  · intro cpu hne
    simp only [RunOnTargetCore, cleared, Function.update_self]
    exact if_pos hne

/-! ## The invariant -/

/-- The VMCS `p` belongs to a vCPU that is loaded on `cpu`. -/
def OwnedOn (h : Host V P n) (cpu : Fin n) (p : P) : Prop :=
  ∃ v lv, h.loaded_vmcs v = some lv ∧ lv.vmcs = some p ∧ lv.cpu = some cpu

/-- A vCPU is loaded only on the processor of its number, and what is current on a processor is the
VMCS of a vCPU that is loaded there. -/
structure Tracked (h : Host V P n) : Prop where
  own_cpu : ∀ v lv cpu, h.loaded_vmcs v = some lv → lv.cpu = some cpu → cpu = lv.vcpu_id
  linked : ∀ v lv, h.loaded_vmcs v = some lv →
    ∀ cpu, (h.loaded_vmcss_on_cpu cpu).count v = if lv.cpu = some cpu then 1 else 0
  strangers : ∀ v, h.loaded_vmcs v = none → ∀ cpu, v ∉ h.loaded_vmcss_on_cpu cpu
  launched : ∀ v lv, h.loaded_vmcs v = some lv → lv.launched = true → lv.cpu ≠ none
  distinct : ∀ v v' lv lv' p, h.loaded_vmcs v = some lv → h.loaded_vmcs v' = some lv' →
    lv.vmcs = some p → lv'.vmcs = some p → v = v'
  current : ∀ cpu p, h.current_vmcs cpu = some p → h.vmptr cpu = some p
  owned : ∀ cpu p, h.vmptr cpu = some p → OwnedOn h cpu p
  was_loaded : ∀ v, h.vcpu_loaded v = true → ∃ lv, h.loaded_vmcs v = some lv ∧ lv.cpu ≠ none

omit [DecidableEq P] in
theorem initial_tracked : Tracked (initial : Host V P n) where
  own_cpu _ _ _ hv := absurd hv (Option.some_ne_none _).symm
  linked _ _ hv := absurd hv (Option.some_ne_none _).symm
  strangers _ _ _ := List.not_mem_nil
  launched _ _ hv := absurd hv (Option.some_ne_none _).symm
  distinct _ _ _ _ _ hv := absurd hv (Option.some_ne_none _).symm
  current _ _ hc := absurd hc (Option.some_ne_none _).symm
  owned _ _ hc := absurd hc (Option.some_ne_none _).symm
  was_loaded _ hv := absurd hv Bool.false_ne_true

/-! ## Loading -/

/-- The state after `vcpu_load`. -/
def loaded (v : V) (lv : LoadedVmcs P n) (h : Host V P n) : Host V P n where
  loaded_vmcs := Function.update h.loaded_vmcs v (some { lv with cpu := some lv.vcpu_id })
  loaded_vmcss_on_cpu := if lv.cpu = none then
      Function.update h.loaded_vmcss_on_cpu lv.vcpu_id (v :: h.loaded_vmcss_on_cpu lv.vcpu_id)
    else h.loaded_vmcss_on_cpu
  current_vmcs := Function.update h.current_vmcs lv.vcpu_id lv.vmcs
  vmptr := Function.update h.vmptr lv.vcpu_id (lv.vmcs.or (h.vmptr lv.vcpu_id))
  vcpu_loaded := Function.update h.vcpu_loaded v true

omit [DecidableEq V] in
/-- The second part of `vmx_vcpu_load_vmcs`: a VMCS that is cached as current is the current one. -/
theorem load_current (hcurrent : ∀ cpu p, h.current_vmcs cpu = some p → h.vmptr cpu = some p) :
    (if h.current_vmcs lv.vcpu_id ≠ lv.vmcs then
      KeIpiGenericCall (VmcsLoadOnSpecificCore lv)
        { h with current_vmcs := Function.update h.current_vmcs lv.vcpu_id lv.vmcs }
      else h) =
    { h with
      current_vmcs := Function.update h.current_vmcs lv.vcpu_id lv.vmcs
      vmptr := Function.update h.vmptr lv.vcpu_id (lv.vmcs.or (h.vmptr lv.vcpu_id)) } := by
  by_cases hprev : h.current_vmcs lv.vcpu_id = lv.vmcs
  · have hvmptr : lv.vmcs.or (h.vmptr lv.vcpu_id) = h.vmptr lv.vcpu_id := by
      cases hvmcs : lv.vmcs with
      | none => rfl
      | some p => exact (hcurrent _ p (hprev.trans hvmcs)).symm
    rw [if_neg (not_not_intro hprev), hvmptr, ← hprev, Function.update_eq_self,
      Function.update_eq_self]
  · rw [if_pos hprev, ipi_load, vmcs_load_eq]

theorem vcpu_load_eq (ht : Tracked h) (hv : h.loaded_vmcs v = some lv) :
    vcpu_load v h = loaded v lv h := by
  have hcases : lv.cpu = none ∨ lv.cpu = some lv.vcpu_id := by
    cases hcpu : lv.cpu with
    | none => exact .inl rfl
    | some cpu => exact .inr (by rw [ht.own_cpu v lv cpu hv hcpu])
  simp only [vcpu_load, hv, vmx_vcpu_load_vmcs, loaded_vmcs_clear]
  rcases hcases with hcpu | hcpu
  · simp only [hcpu, ne_eq, reduceCtorEq, not_false_eq_true, not_true_eq_false, if_true, if_false]
    rw [load_current (h := InsertHeadList lv.vcpu_id v h) ht.current]
    simp only [loaded, InsertHeadList, write, hv, hcpu, if_true, Option.map_some]
  · have hsame : ({ lv with cpu := some lv.vcpu_id } : LoadedVmcs P n) = lv := by rw [← hcpu]
    simp only [hcpu, ne_eq, not_true_eq_false, if_false]
    rw [load_current ht.current]
    simp only [loaded, hsame, hcpu, reduceCtorEq, if_false]
    rw [← hv, Function.update_eq_self]

omit [DecidableEq P] in
/-- The vCPUs after one of them was written. -/
theorem update_eq_some {v' : V} {new lv' : LoadedVmcs P n}
    {m : V → Option (LoadedVmcs P n)} (hv' : Function.update m v (some new) v' = some lv') :
    (v' = v ∧ lv' = new) ∨ (v' ≠ v ∧ m v' = some lv') := by
  by_cases hvv : v' = v
  · subst hvv
    rw [Function.update_self, Option.some.injEq] at hv'
    exact .inl ⟨rfl, hv'.symm⟩
  · rw [Function.update_of_ne hvv] at hv'
    exact .inr ⟨hvv, hv'⟩

omit [DecidableEq P] in
theorem update_eq_none {v' : V} {new : LoadedVmcs P n} {m : V → Option (LoadedVmcs P n)}
    (hv' : Function.update m v (some new) v' = none) : v' ≠ v ∧ m v' = none := by
  have hvv : v' ≠ v := by
    rintro rfl
    rw [Function.update_self] at hv'
    cases hv'
  rw [Function.update_of_ne hvv] at hv'
  exact ⟨hvv, hv'⟩

omit [DecidableEq P] in
/-- No two vCPUs have one VMCS after a write either, unless it gives `v` the VMCS of another vCPU. -/
theorem Tracked.distinct_update (ht : Tracked h) {new : LoadedVmcs P n}
    (hnew : ∀ v' lv' p, v' ≠ v → h.loaded_vmcs v' = some lv' → new.vmcs = some p →
      lv'.vmcs ≠ some p)
    {v₁ v₂ : V} {lv₁ lv₂ : LoadedVmcs P n} {p : P}
    (hv₁ : Function.update h.loaded_vmcs v (some new) v₁ = some lv₁)
    (hv₂ : Function.update h.loaded_vmcs v (some new) v₂ = some lv₂)
    (hp₁ : lv₁.vmcs = some p) (hp₂ : lv₂.vmcs = some p) : v₁ = v₂ := by
  rcases update_eq_some hv₁ with ⟨rfl, rfl⟩ | ⟨hne₁, hold₁⟩
  · rcases update_eq_some hv₂ with ⟨rfl, -⟩ | ⟨hne₂, hold₂⟩
    · rfl
    · exact absurd hp₂ (hnew v₂ lv₂ p hne₂ hold₂ hp₁)
  · rcases update_eq_some hv₂ with ⟨rfl, rfl⟩ | ⟨-, hold₂⟩
    · exact absurd hp₁ (hnew v₁ lv₁ p hne₁ hold₁ hp₂)
    · exact ht.distinct v₁ v₂ lv₁ lv₂ p hold₁ hold₂ hp₁ hp₂

omit [DecidableEq P] in
/-- A vCPU that keeps its VMCS, and is loaded if it was, keeps owning what it owned. -/
theorem OwnedOn.update {h h' : Host V P n} (hv : h.loaded_vmcs v = some lv) (new : LoadedVmcs P n)
    (hnew : h'.loaded_vmcs = Function.update h.loaded_vmcs v (some new)) (hvmcs : new.vmcs = lv.vmcs)
    (hcpu : ∀ cpu, lv.cpu = some cpu → new.cpu = some cpu) {cpu : Fin n} {p : P}
    (ho : OwnedOn h cpu p) : OwnedOn h' cpu p := by
  obtain ⟨v', lv', hv', hp, hc⟩ := ho
  by_cases hvv : v' = v
  · subst hvv
    rw [hv, Option.some.injEq] at hv'
    subst hv'
    exact ⟨v', new, by rw [hnew, Function.update_self], hvmcs.trans hp, hcpu cpu hc⟩
  · exact ⟨v', lv', by rw [hnew, Function.update_of_ne hvv, hv'], hp, hc⟩

omit [DecidableEq P] in
theorem Tracked.count_eq_zero (ht : Tracked h) (hv : h.loaded_vmcs v = some lv) (hcpu : lv.cpu = none)
    (cpu : Fin n) : (h.loaded_vmcss_on_cpu cpu).count v = 0 := by
  rw [ht.linked v lv hv cpu, hcpu, if_neg (Option.some_ne_none cpu).symm]

omit [DecidableEq P] in
theorem loaded_linked (ht : Tracked h) (hv : h.loaded_vmcs v = some lv) (cpu : Fin n) :
    ((loaded v lv h).loaded_vmcss_on_cpu cpu).count v = if some lv.vcpu_id = some cpu then 1 else 0 := by
  simp only [loaded]
  cases hcpu : lv.cpu with
  | none =>
    rw [if_pos rfl]
    by_cases hc : cpu = lv.vcpu_id
    · rw [hc, Function.update_self, List.count_cons_self, ht.count_eq_zero hv hcpu, if_pos rfl]
    · rw [Function.update_of_ne hc, ht.count_eq_zero hv hcpu,
        if_neg fun hs => hc (Option.some.inj hs).symm]
  | some old =>
    rw [if_neg (Option.some_ne_none old), ht.linked v lv hv cpu, hcpu, ht.own_cpu v lv old hv hcpu]

omit [DecidableEq P] in
theorem loaded_others {v' : V} (hne : v' ≠ v) (cpu : Fin n) :
    ((loaded v lv h).loaded_vmcss_on_cpu cpu).count v' = (h.loaded_vmcss_on_cpu cpu).count v' := by
  simp only [loaded]
  split
  · by_cases hc : cpu = lv.vcpu_id
    · rw [hc, Function.update_self, List.count_cons_of_ne (Ne.symm hne)]
    · rw [Function.update_of_ne hc]
  · rfl

omit [DecidableEq P] in
/-- A load moves the list entry, the pointers and the `cpu` together. -/
theorem loaded_tracked (ht : Tracked h) (hv : h.loaded_vmcs v = some lv) :
    Tracked (loaded v lv h) where
  own_cpu v' lv' cpu hv' hcpu := by
    rcases update_eq_some hv' with ⟨-, rfl⟩ | ⟨-, hold⟩
    · exact (Option.some.inj hcpu).symm
    · exact ht.own_cpu v' lv' cpu hold hcpu
  linked v' lv' hv' cpu := by
    rcases update_eq_some hv' with ⟨rfl, rfl⟩ | ⟨hne, hold⟩
    · exact loaded_linked ht hv cpu
    · rw [loaded_others hne, ht.linked v' lv' hold cpu]
  strangers v' hv' cpu := by
    obtain ⟨hne, hold⟩ := update_eq_none hv'
    rw [← List.count_eq_zero, loaded_others hne, List.count_eq_zero]
    exact ht.strangers v' hold cpu
  launched v' lv' hv' hl := by
    rcases update_eq_some hv' with ⟨-, rfl⟩ | ⟨-, hold⟩
    · exact Option.some_ne_none _
    · exact ht.launched v' lv' hold hl
  distinct _ _ _ _ _ hv₁ hv₂ hp₁ hp₂ := by
    refine ht.distinct_update (fun v' lv' p hne hold hp hp' => hne ?_) hv₁ hv₂ hp₁ hp₂
    exact ht.distinct v' v lv' lv p hold hv hp' hp
  current cpu p hc := by
    simp only [loaded] at hc ⊢
    by_cases hcpu : cpu = lv.vcpu_id
    · rw [hcpu, Function.update_self] at hc ⊢
      rw [hc]
      rfl
    · rw [Function.update_of_ne hcpu] at hc ⊢
      exact ht.current cpu p hc
  owned cpu p hc := by
    have hkeep : ∀ {q}, OwnedOn h cpu q → OwnedOn (loaded v lv h) cpu q := fun ho =>
      ho.update hv { lv with cpu := some lv.vcpu_id } rfl rfl fun old hold => by
        rw [ht.own_cpu v lv old hv hold]
    simp only [loaded] at hc
    by_cases hcpu : cpu = lv.vcpu_id
    · -- on the processor of the vCPU it is the VMCS that was loaded, or there was none to load
      subst hcpu
      rw [Function.update_self, Option.or_eq_some_iff] at hc
      rcases hc with hvmcs | ⟨-, hvmptr⟩
      · exact ⟨v, { lv with cpu := some lv.vcpu_id }, Function.update_self _ _ _, hvmcs, rfl⟩
      · exact hkeep (ht.owned _ p hvmptr)
    · rw [Function.update_of_ne hcpu] at hc
      exact hkeep (ht.owned cpu p hc)
  was_loaded v' hl := by
    by_cases hvv : v' = v
    · subst hvv
      exact ⟨_, Function.update_self _ _ _, Option.some_ne_none _⟩
    · simp only [loaded, Function.update_of_ne hvv] at hl ⊢
      exact ht.was_loaded v' hl

/-! ## Freeing -/

/-- The state after `free_loaded_vmcs`. -/
def freed (v : V) (lv : LoadedVmcs P n) (h : Host V P n) : Host V P n where
  loaded_vmcs := Function.update h.loaded_vmcs v
    (some { lv with vmcs := none, cpu := none, launched := false })
  loaded_vmcss_on_cpu cpu := (h.loaded_vmcss_on_cpu cpu).erase v
  current_vmcs := if h.current_vmcs lv.vcpu_id = lv.vmcs then
      Function.update h.current_vmcs lv.vcpu_id none else h.current_vmcs
  vmptr := if h.vmptr lv.vcpu_id = lv.vmcs then Function.update h.vmptr lv.vcpu_id none else h.vmptr
  vcpu_loaded := Function.update h.vcpu_loaded v false

omit [DecidableEq P] in
/-- The VMCS of a vCPU that is loaded nowhere is not current. -/
theorem Tracked.not_current (ht : Tracked h) (hv : h.loaded_vmcs v = some lv) (hcpu : lv.cpu = none)
    {p : P} (hp : lv.vmcs = some p) (cpu : Fin n) : h.vmptr cpu ≠ some p := by
  intro hc
  obtain ⟨v', lv', hv', hp', hcpu'⟩ := ht.owned cpu p hc
  obtain rfl : v = v' := ht.distinct v v' lv lv' p hv hv' hp hp'
  rw [hv, Option.some.injEq] at hv'
  subst hv'
  rw [hcpu] at hcpu'
  cases hcpu'

theorem free_loaded_vmcs_eq (ht : Tracked h) (hv : h.loaded_vmcs v = some lv)
    (hvmcs : lv.vmcs ≠ none) : free_loaded_vmcs v h = freed v lv h := by
  obtain ⟨p, hp⟩ := Option.ne_none_iff_exists'.mp hvmcs
  simp only [free_loaded_vmcs, hv, if_neg hvmcs, loaded_vmcs_clear]
  by_cases hcpu : lv.cpu = none
  · -- a vCPU that is loaded nowhere has nothing to clear
    have hvmptr : h.vmptr lv.vcpu_id ≠ lv.vmcs := by
      rw [hp]
      exact ht.not_current hv hcpu hp _
    have hcurrent : h.current_vmcs lv.vcpu_id ≠ lv.vmcs := by
      rw [hp]
      exact fun hc => ht.not_current hv hcpu hp _ (ht.current _ p hc)
    have herase : (fun cpu => (h.loaded_vmcss_on_cpu cpu).erase v) = h.loaded_vmcss_on_cpu := by
      funext cpu
      exact List.erase_of_not_mem (List.count_eq_zero.mp (ht.count_eq_zero hv hcpu cpu))
    have hlaunched : lv.launched = false := by
      cases hl : lv.launched with
      | false => rfl
      | true => exact absurd hcpu (ht.launched v lv hv hl)
    rw [if_neg (not_not_intro hcpu)]
    simp only [freed, write, hv, if_neg hvmptr, if_neg hcurrent, herase, Option.map_some, ← hcpu,
      ← hlaunched]
  · rw [if_pos hcpu, ipi_run_on_target hv hcpu]
    simp only [cleared, freed, write, Function.update_self, Option.map_some, Function.update_idem]

theorem freed_count (ht : Tracked h) (hv : h.loaded_vmcs v = some lv) (cpu : Fin n) :
    ((freed v lv h).loaded_vmcss_on_cpu cpu).count v = 0 := by
  have hle : (h.loaded_vmcss_on_cpu cpu).count v ≤ 1 := by
    rw [ht.linked v lv hv cpu]
    split <;> omega
  simp only [freed]
  rw [List.count_erase_self]
  omega

theorem freed_others {v' : V} (hne : v' ≠ v) (cpu : Fin n) :
    ((freed v lv h).loaded_vmcss_on_cpu cpu).count v' = (h.loaded_vmcss_on_cpu cpu).count v' := by
  simp only [freed]
  exact List.count_erase_of_ne hne

/-- A pointer that is left was there before, and is not the VMCS that was freed. -/
theorem clear_pointer {m : Fin n → Option P} {target cpu : Fin n} {vmcs : Option P} {p : P}
    (hc : (if m target = vmcs then Function.update m target none else m) cpu = some p) :
    m cpu = some p ∧ (cpu = target → vmcs ≠ some p) := by
  split at hc
  · by_cases hcpu : cpu = target
    · subst hcpu
      rw [Function.update_self] at hc
      cases hc
    · rw [Function.update_of_ne hcpu] at hc
      exact ⟨hc, fun heq => absurd heq hcpu⟩
  · next hne =>
    refine ⟨hc, ?_⟩
    rintro rfl hvmcs
    exact hne (hc.trans hvmcs.symm)

theorem freed_tracked (ht : Tracked h) (hv : h.loaded_vmcs v = some lv) : Tracked (freed v lv h) where
  own_cpu v' lv' cpu hv' hcpu := by
    rcases update_eq_some hv' with ⟨-, rfl⟩ | ⟨-, hold⟩
    · cases hcpu
    · exact ht.own_cpu v' lv' cpu hold hcpu
  linked v' lv' hv' cpu := by
    rcases update_eq_some hv' with ⟨rfl, rfl⟩ | ⟨hne, hold⟩
    · rw [freed_count ht hv, if_neg (Option.some_ne_none cpu).symm]
    · rw [freed_others hne, ht.linked v' lv' hold cpu]
  strangers v' hv' cpu := by
    obtain ⟨hne, hold⟩ := update_eq_none hv'
    rw [← List.count_eq_zero, freed_others hne, List.count_eq_zero]
    exact ht.strangers v' hold cpu
  launched v' lv' hv' hl := by
    rcases update_eq_some hv' with ⟨-, rfl⟩ | ⟨-, hold⟩
    · cases hl
    · exact ht.launched v' lv' hold hl
  distinct _ _ _ _ _ hv₁ hv₂ hp₁ hp₂ := by
    -- the vCPU has no VMCS left
    refine ht.distinct_update (fun _ _ _ _ _ hp => ?_) hv₁ hv₂ hp₁ hp₂
    cases hp
  current cpu p hc := by
    obtain ⟨hold, hne⟩ := clear_pointer hc
    have hvmptr := ht.current cpu p hold
    simp only [freed]
    split
    · next hclear =>
      have hcpu : cpu ≠ lv.vcpu_id := by
        rintro rfl
        exact hne rfl (hclear.symm.trans hvmptr)
      rw [Function.update_of_ne hcpu, hvmptr]
    · exact hvmptr
  owned cpu p hc := by
    obtain ⟨hold, hne⟩ := clear_pointer hc
    obtain ⟨v', lv', hv', hp, hcpu⟩ := ht.owned cpu p hold
    have hvv : v' ≠ v := by
      rintro rfl
      rw [hv, Option.some.injEq] at hv'
      subst hv'
      exact hne (ht.own_cpu _ _ cpu hv hcpu) hp
    exact ⟨v', lv', (Function.update_of_ne hvv _ _).trans hv', hp, hcpu⟩
  was_loaded v' hl := by
    have hvv : v' ≠ v := by
      rintro rfl
      simp only [freed, Function.update_self] at hl
      cases hl
    simp only [freed, Function.update_of_ne hvv] at hl ⊢
    exact ht.was_loaded v' hl

/-! ## Creating and running -/

omit [DecidableEq V] [DecidableEq P] in
theorem OwnedOn.allocated {cpu : Fin n} {p : P} (ho : OwnedOn h cpu p) : Allocated h p := by
  obtain ⟨v, lv, hv, hp, -⟩ := ho
  exact ⟨v, lv, hv, hp⟩

theorem create_tracked (ht : Tracked h) (hv : h.loaded_vmcs v = none) (vcpu_id : Fin n) {p : P}
    (hp : ¬ Allocated h p) : Tracked (vmx_vcpu_create v vcpu_id p h) := by
  have hvmptr : h.vmptr vcpu_id ≠ some p := fun hc => hp (ht.owned _ p hc).allocated
  have heq : vmx_vcpu_create v vcpu_id p h = { h with
      loaded_vmcs := Function.update h.loaded_vmcs v (some ⟨some p, none, false, vcpu_id⟩) } := by
    rw [vmx_vcpu_create, ipi_clear, vmcs_clear, if_neg hvmptr]
  have hother : ∀ {v' lv'}, h.loaded_vmcs v' = some lv' → v' ≠ v := by
    rintro v' lv' hv' rfl
    rw [hv] at hv'
    cases hv'
  rw [heq]
  exact
    { own_cpu := by
        intro v' lv' cpu hv' hcpu
        rcases update_eq_some hv' with ⟨-, rfl⟩ | ⟨-, hold⟩
        · cases hcpu
        · exact ht.own_cpu v' lv' cpu hold hcpu
      linked := by
        intro v' lv' hv' cpu
        rcases update_eq_some hv' with ⟨rfl, rfl⟩ | ⟨-, hold⟩
        · rw [if_neg (Option.some_ne_none cpu).symm]
          exact List.count_eq_zero.mpr (ht.strangers _ hv cpu)
        · exact ht.linked v' lv' hold cpu
      strangers := fun v' hv' => ht.strangers v' (update_eq_none hv').2
      launched := by
        intro v' lv' hv' hl
        rcases update_eq_some hv' with ⟨-, rfl⟩ | ⟨-, hold⟩
        · cases hl
        · exact ht.launched v' lv' hold hl
      distinct := by
        intro _ _ _ _ _ hv₁ hv₂ hp₁ hp₂
        refine ht.distinct_update (fun v' lv' q _ hold hq hq' => ?_) hv₁ hv₂ hp₁ hp₂
        -- the new VMCS is one that no vCPU has
        cases hq
        exact hp ⟨v', lv', hold, hq'⟩
      current := ht.current
      owned := by
        intro cpu q hc
        obtain ⟨v', lv', hv', hq, hcpu⟩ := ht.owned cpu q hc
        exact ⟨v', lv', (Function.update_of_ne (hother hv') _ _).trans hv', hq, hcpu⟩
      was_loaded := by
        intro v' hl
        obtain ⟨lv', hv', hcpu⟩ := ht.was_loaded v' hl
        exact ⟨lv', (Function.update_of_ne (hother hv') _ _).trans hv', hcpu⟩ }

omit [DecidableEq P] in
/-- An entry marks a VMCS as launched that is loaded somewhere. -/
theorem run_tracked (ht : Tracked h) (hl : h.vcpu_loaded v = true) (entered : Bool) :
    Tracked (vmx_vcpu_run v entered h) := by
  obtain ⟨lv, hv, hcpu⟩ := ht.was_loaded v hl
  unfold vmx_vcpu_run
  split
  · have heq : write v (fun lv => { lv with launched := true }) h = { h with
        loaded_vmcs := Function.update h.loaded_vmcs v (some { lv with launched := true }) } := by
      rw [write, hv, Option.map_some]
    -- the entry changes `launched` and nothing else
    have hback : ∀ {v' lv'}, (Function.update h.loaded_vmcs v (some { lv with launched := true })) v'
        = some lv' → ∃ lv₀, h.loaded_vmcs v' = some lv₀ ∧ lv₀.cpu = lv'.cpu ∧
          lv₀.vcpu_id = lv'.vcpu_id := by
      intro v' lv' hv'
      rcases update_eq_some hv' with ⟨rfl, rfl⟩ | ⟨-, hold⟩
      · exact ⟨lv, hv, rfl, rfl⟩
      · exact ⟨lv', hold, rfl, rfl⟩
    rw [heq]
    exact
      { own_cpu := by
          intro v' lv' cpu hv' hc
          obtain ⟨lv₀, hv₀, hcpu₀, hid₀⟩ := hback hv'
          rw [← hid₀]
          exact ht.own_cpu v' lv₀ cpu hv₀ (hcpu₀.trans hc)
        linked := by
          intro v' lv' hv' cpu
          obtain ⟨lv₀, hv₀, hcpu₀, -⟩ := hback hv'
          rw [← hcpu₀]
          exact ht.linked v' lv₀ hv₀ cpu
        strangers := fun v' hv' => ht.strangers v' (update_eq_none hv').2
        launched := by
          intro v' lv' hv' hl'
          rcases update_eq_some hv' with ⟨-, rfl⟩ | ⟨-, hold⟩
          · exact hcpu
          · exact ht.launched v' lv' hold hl'
        distinct := by
          intro _ _ _ _ _ hv₁ hv₂ hp₁ hp₂
          refine ht.distinct_update (fun v' lv' p hne hold hp hp' => hne ?_) hv₁ hv₂ hp₁ hp₂
          exact ht.distinct v' v lv' lv p hold hv hp' hp
        current := ht.current
        owned := fun cpu p hc =>
          (ht.owned cpu p hc).update hv { lv with launched := true } rfl rfl fun _ hold => hold
        was_loaded := by
          intro v' hl'
          obtain ⟨lv', hv', hcpu'⟩ := ht.was_loaded v' hl'
          by_cases hvv : v' = v
          · subst hvv
            exact ⟨_, Function.update_self _ _ _, hcpu⟩
          · exact ⟨lv', (Function.update_of_ne hvv _ _).trans hv', hcpu'⟩ }
  · exact ht

/-! ## Runs -/

theorem apply_tracked (ht : Tracked h) (op : Op V P n) (hvalid : op.Valid h) :
    Tracked (apply h op) := by
  cases op with
  | create v vcpu_id p => exact create_tracked ht hvalid.1 vcpu_id hvalid.2
  | load v =>
    obtain ⟨lv, hv⟩ := Option.ne_none_iff_exists'.mp hvalid
    rw [apply, vcpu_load_eq ht hv]
    exact loaded_tracked ht hv
  | run v entered => exact run_tracked ht hvalid entered
  | free v =>
    obtain ⟨lv, hv⟩ := Option.ne_none_iff_exists'.mp hvalid
    by_cases hvmcs : lv.vmcs = none
    · have hnop : free_loaded_vmcs v h = h := by
        simp only [free_loaded_vmcs, hv, if_pos hvmcs]
      rw [apply, hnop]
      exact ht
    · rw [apply, free_loaded_vmcs_eq ht hv hvmcs]
      exact freed_tracked ht hv

theorem run_is_tracked (hrun : Transition.Run (vmcsSystem V P n) (fun _ _ => True) h) : Tracked h := by
  refine hrun.invariant Tracked ?_ ?_
  · rintro h rfl
    exact initial_tracked
  · rintro h op h' ht - ⟨hvalid, rfl⟩
    exact apply_tracked ht op hvalid

/-- What the lists, the `cpu` fields and the pointers say of each other. -/
structure Consistent (h : Host V P n) : Prop where
  /-- A VMCS with a `cpu` is linked exactly once, in the list of that processor; one without is linked
  nowhere. -/
  linked : ∀ v lv, h.loaded_vmcs v = some lv →
    ∀ cpu, (h.loaded_vmcss_on_cpu cpu).count v = if lv.cpu = some cpu then 1 else 0
  launched : ∀ v lv, h.loaded_vmcs v = some lv → lv.launched = true → lv.cpu ≠ none
  /-- `current_vmcs` is NULL or the VMCS of an entry of the list. -/
  current : ∀ cpu p, h.current_vmcs cpu = some p →
    ∃ v ∈ h.loaded_vmcss_on_cpu cpu, ∃ lv, h.loaded_vmcs v = some lv ∧ lv.vmcs = some p
  /-- No VMCS is current on two processors, neither by `current_vmcs` nor by their own pointers. -/
  once : ∀ cpu cpu' p, h.current_vmcs cpu = some p ∨ h.vmptr cpu = some p →
    h.current_vmcs cpu' = some p ∨ h.vmptr cpu' = some p → cpu = cpu'
  /-- What is current was allocated and not freed. -/
  allocated : ∀ cpu p, h.current_vmcs cpu = some p ∨ h.vmptr cpu = some p → Allocated h p

omit [DecidableEq P] in
theorem Tracked.consistent (ht : Tracked h) : Consistent h := by
  have howned : ∀ {cpu p}, h.current_vmcs cpu = some p ∨ h.vmptr cpu = some p → OwnedOn h cpu p := by
    rintro cpu p (hc | hc)
    · exact ht.owned cpu p (ht.current cpu p hc)
    · exact ht.owned cpu p hc
  refine ⟨ht.linked, ht.launched, ?_, ?_, fun cpu p hc => (howned hc).allocated⟩
  · intro cpu p hc
    obtain ⟨v, lv, hv, hp, hcpu⟩ := howned (.inl hc)
    have hcount := ht.linked v lv hv cpu
    rw [if_pos hcpu] at hcount
    exact ⟨v, List.one_le_count_iff.mp hcount.ge, lv, hv, hp⟩
  · intro cpu cpu' p hc hc'
    obtain ⟨v, lv, hv, hp, hcpu⟩ := howned hc
    obtain ⟨v', lv', hv', hp', hcpu'⟩ := howned hc'
    obtain rfl : v = v' := ht.distinct v v' lv lv' p hv hv' hp hp'
    rw [hv, Option.some.injEq] at hv'
    subst hv'
    exact Option.some.inj (hcpu.symm.trans hcpu')

/-- **Every VMCS is tracked.** After every sequence of creations, loads, runs and frees. -/
theorem loaded_vmcs_tracked (hrun : Transition.Run (vmcsSystem V P n) (fun _ _ => True) h) :
    Consistent h :=
  (run_is_tracked hrun).consistent

theorem run_apply (hrun : Transition.Run (vmcsSystem V P n) (fun _ _ => True) h) (op : Op V P n)
    (hvalid : op.Valid h) : Transition.Run (vmcsSystem V P n) (fun _ _ => True) (apply h op) :=
  .step h op _ hrun trivial ⟨hvalid, rfl⟩

/-- Two vCPUs of the same number: one is loaded and entered, then the other one is loaded, and the
first is freed while it is not the current one. -/
theorem loaded_vmcs_tracked_two : Consistent (apply (apply (apply (apply (apply (apply
    (initial : Host ℕ ℕ 2) (.create 1 0 10)) (.create 2 0 20)) (.load 1)) (.run 1 true)) (.load 2))
    (.free 1)) := by
  have hfirst : (Op.create 1 0 10).Valid (initial : Host ℕ ℕ 2) :=
    ⟨rfl, fun ⟨_, _, hv, _⟩ => absurd hv (Option.some_ne_none _).symm⟩
  have hsecond : (Op.create 2 0 20).Valid (apply (initial : Host ℕ ℕ 2) (.create 1 0 10)) := by
    refine ⟨rfl, ?_⟩
    rintro ⟨v, lv, hv, hp⟩
    rcases update_eq_some hv with ⟨-, rfl⟩ | ⟨-, hold⟩
    · exact absurd (Option.some.inj hp) (by decide)
    · cases hold
  have h₂ := run_apply (run_apply (.start _ rfl) _ hfirst) _ hsecond
  have h₃ := run_apply h₂ (.load 1) (Option.some_ne_none _)
  have h₄ := run_apply h₃ (.run 1 true) rfl
  have h₅ := run_apply h₄ (.load 2) (Option.some_ne_none _)
  exact loaded_vmcs_tracked (run_apply h₅ (.free 1) (Option.some_ne_none _))

end Svmx.VmcsLoad
