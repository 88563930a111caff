/-
Which VMCS the setup of a vCPU is written to (`KVM_CREATE_VCPU` and `KVM_RUN`).

VMWRITE goes to the current VMCS of the processor that executes it. `KVM_CREATE_VCPU` creates the
vCPUs of all processors in one loop of the calling thread; `vcpu_load` makes the VMCS of each current
on the processor of its number, by an IPI, and what `kvm_vcpu_reset` then writes for it goes to the
VMCS that is current where the thread runs, or is lost. `KVM_RUN` runs every vCPU on its own
processor. `vmcs_contents` is what each VMCS holds after the loop and any interleaving of the runs.

The writes that are made for a vCPU are an input, each with the processor it is executed on, as the
thread may be moved between any two of them. An attempt that fails ends the loop before it has written
anything; the attempts here are the ones that succeed.
-/
import Svmx.VmcsLoad
import Svmx.WriteLog

set_option autoImplicit false

namespace Svmx.VcpuSetup

open VmcsLoad WriteLog

variable {V P F X : Type*} [DecidableEq V] [DecidableEq P] [DecidableEq F] {n : ℕ}

/-! ## The machine -/

/-- One VMWRITE and the processor that executes it. -/
structure Write (F X : Type*) (n : ℕ) where
  cpu : Fin n
  field : F
  value : X
deriving DecidableEq

/-- The driver's side and the processors, and what is in the VMCS regions. -/
structure Machine (V P F X : Type*) (n : ℕ) where
  host : Host V P n
  vmcs : P → F → Option X

/-- `vmcs_write16`, `vmcs_write32`, `vmcs_write64` and `vmcs_writel`. Without a current VMCS the
instruction fails, and nobody looks at that. -/
def vmcs_write (w : Write F X n) (m : Machine V P F X n) : Machine V P F X n :=
  match m.host.vmptr w.cpu with
  | none => m
  | some p => { m with
      vmcs := Function.update m.vmcs p (Function.update (m.vmcs p) w.field (some w.value)) }

def vmcs_writes (ws : List (Write F X n)) (m : Machine V P F X n) : Machine V P F X n :=
  ws.foldl (fun m w => vmcs_write w m) m

/-! ## Creating the vCPUs -/

/-- One successful attempt: what the pool gave, and what is written for the vCPU from
`vmx_vcpu_load_vmcs` to the end of `kvm_vcpu_reset`. -/
structure Attempt (V P F X : Type*) (n : ℕ) where
  vcpu : V
  vmcs : P
  writes : List (Write F X n)

/-- `kvm_arch_vcpu_create`; `alloc_vmcs` zeroes the new region. -/
def kvm_arch_vcpu_create (vcpu_id : Fin n) (a : Attempt V P F X n) (m : Machine V P F X n) :
    Machine V P F X n :=
  let host := vcpu_load a.vcpu (vmx_vcpu_create a.vcpu vcpu_id a.vmcs m.host)
  vmcs_writes a.writes { host := host, vmcs := Function.update m.vmcs a.vmcs fun _ => none }

/-- The loop of `KVM_CREATE_VCPU` from processor `cpu` on. -/
def create_vcpus : ℕ → List (Attempt V P F X n) → Machine V P F X n → Machine V P F X n
  | _, [], m => m
  | cpu, a :: as, m =>
    if h : cpu < n then create_vcpus (cpu + 1) as (kvm_arch_vcpu_create ⟨cpu, h⟩ a m) else m

/-- `vcpu_array` after the loop, if no attempt failed. -/
def vcpu_array (as : List (Attempt V P F X n)) (h : as.length = n) (cpu : Fin n) : V :=
  (as.get (cpu.cast h.symm)).vcpu

/-! ## Running them -/

/-- What `RunKvm` does on a processor, as far as the VMCSs depend on it: it loads the vCPU of the
processor, and writes to VMCS fields. A VM exit writes the guest's state, which is a write too. -/
inductive Event (F X : Type*) (n : ℕ) where
  | load (cpu : Fin n)
  | write (w : Write F X n)

def run_event (array : Fin n → V) (m : Machine V P F X n) : Event F X n → Machine V P F X n
  | .load cpu => { m with host := vcpu_load (array cpu) m.host }
  | .write w => vmcs_write w m

/-- Any number of `KVM_RUN` requests, the processors interleaved in any way. -/
def run_events (array : Fin n → V) (es : List (Event F X n)) (m : Machine V P F X n) :
    Machine V P F X n :=
  es.foldl (run_event array) m

def Event.write? : Event F X n → Option (Write F X n)
  | .load _ => none
  | .write w => some w

/-! ## Where the writes go -/

/-- The writes that processor `cpu` executes. -/
def onCpu (cpu : Fin n) (ws : List (Write F X n)) : List (F × X) :=
  (ws.filter fun w => decide (w.cpu = cpu)).map fun w => (w.field, w.value)

omit [DecidableEq F] in
theorem onCpu_append (cpu : Fin n) (ws ws' : List (Write F X n)) :
    onCpu cpu (ws ++ ws') = onCpu cpu ws ++ onCpu cpu ws' := by
  rw [onCpu, List.filter_append, List.map_append]
  rfl

/-- Nothing that has been written by a log is kept in a new region. -/
def blank : F → Option X := fun _ => none

section Writes

variable {m : Machine V P F X n} {p : P} {i : Fin n}

omit [DecidableEq V] in
@[simp] theorem vmcs_write_host (w : Write F X n) (m : Machine V P F X n) :
    (vmcs_write w m).host = m.host := by
  unfold vmcs_write
  split <;> rfl

omit [DecidableEq V] in
theorem vmcs_writes_host (ws : List (Write F X n)) (m : Machine V P F X n) :
    (vmcs_writes ws m).host = m.host := by
  induction ws generalizing m with
  | nil => rfl
  | cons w ws ih => exact (ih (vmcs_write w m)).trans (vmcs_write_host w m)

omit [DecidableEq V] in
/-- A VMCS that is current on one processor takes that processor's writes. -/
theorem vmcs_writes_current (hp : ∀ cpu, m.host.vmptr cpu = some p ↔ cpu = i)
    (ws : List (Write F X n)) :
    (vmcs_writes ws m).vmcs p = replay (onCpu i ws) (m.vmcs p) := by
  induction ws generalizing m with
  | nil => rfl
  | cons w ws ih =>
    have hrest : (vmcs_writes ws (vmcs_write w m)).vmcs p =
        replay (onCpu i ws) ((vmcs_write w m).vmcs p) :=
      ih (by rw [vmcs_write_host]; exact hp)
    refine hrest.trans ?_
    by_cases hw : w.cpu = i
    · have hcons : onCpu i (w :: ws) = (w.field, w.value) :: onCpu i ws := by simp [onCpu, hw]
      rw [hcons, replay_cons, vmcs_write, (hp w.cpu).mpr hw]
      simp only [Function.update_self]
    · have hcons : onCpu i (w :: ws) = onCpu i ws := by simp [onCpu, hw]
      rw [hcons]
      -- the write goes to another region, or nowhere
      unfold vmcs_write
      cases hq : m.host.vmptr w.cpu with
      | none => rfl
      | some q =>
        have hne : p ≠ q := by
          rintro rfl
          exact hw ((hp w.cpu).mp hq)
        simp only [Function.update_of_ne hne]

end Writes

/-! ## One attempt -/

section Create

variable {h : Host V P n} {v : V} {p : P} {i : Fin n}

/-- The driver's side after a vCPU was created and loaded. -/
structure Created (v : V) (p : P) (i : Fin n) (h h' : Host V P n) : Prop where
  tracked : Tracked h'
  loaded_vmcs : ∀ u, h'.loaded_vmcs u =
    if u = v then some ⟨some p, some i, false, i⟩ else h.loaded_vmcs u
  vmptr : ∀ cpu, h'.vmptr cpu = if cpu = i then some p else h.vmptr cpu

theorem create_load (ht : Tracked h) (hv : h.loaded_vmcs v = none) (hp : ¬ Allocated h p) :
    Created v p i h (vcpu_load v (vmx_vcpu_create v i p h)) := by
  set lv : LoadedVmcs P n := ⟨some p, none, false, i⟩ with hlv
  -- the new region is current nowhere, and so VMCLEAR leaves the processors as they are
  have hptr : h.vmptr i ≠ some p := fun hc => hp (ht.owned _ _ hc).allocated
  have hcreate : vmx_vcpu_create v i p h =
      { h with loaded_vmcs := Function.update h.loaded_vmcs v (some lv) } := by
    rw [vmx_vcpu_create, ipi_clear, vmcs_clear, if_neg hptr]
  have htracked := create_tracked ht hv i hp
  rw [hcreate] at htracked ⊢
  have hown : (Function.update h.loaded_vmcs v (some lv)) v = some lv := Function.update_self _ _ _
  rw [vcpu_load_eq htracked hown]
  refine ⟨loaded_tracked htracked hown, fun u => ?_, fun cpu => ?_⟩
  · by_cases hu : u = v
    · rw [if_pos hu, hu]
      exact Function.update_self _ _ _
    · rw [if_neg hu]
      simp only [loaded, Function.update_of_ne hu]
  · by_cases hcpu : cpu = i
    · rw [if_pos hcpu, hcpu]
      exact Function.update_self _ _ _
    · rw [if_neg hcpu]
      exact Function.update_of_ne hcpu _ _

end Create

/-! ## The loop -/

/-- The VMCS of each attempt of `as` is current on its own processor. -/
structure Placed (as : List (Attempt V P F X n)) (h : Host V P n) : Prop where
  tracked : Tracked h
  known : ∀ v, h.loaded_vmcs v ≠ none → v ∈ as.map Attempt.vcpu
  numbered : ∀ (i : Fin n) a, as[i.val]? = some a →
    ∃ lv, h.loaded_vmcs a.vcpu = some lv ∧ lv.vmcs = some a.vmcs ∧ lv.vcpu_id = i
  current : ∀ i : Fin n, h.vmptr i = (as[i.val]?).map Attempt.vmcs

/-- The machine after the attempts `as`: each VMCS has what its processor has written since it was
made. -/
structure SetUp (as : List (Attempt V P F X n)) (m : Machine V P F X n) : Prop where
  placed : Placed as m.host
  contents : ∀ (i : Fin n) a, as[i.val]? = some a →
    m.vmcs a.vmcs = replay (onCpu i ((as.drop i).flatMap Attempt.writes)) blank

section Loop

variable {as : List (Attempt V P F X n)} {a : Attempt V P F X n} {m : Machine V P F X n}

omit [DecidableEq P] in
theorem initial_setUp (hm : m.host = initial) : SetUp [] m where
  placed :=
    { tracked := hm ▸ initial_tracked
      known := fun v => by simp [hm, initial]
      numbered := fun i a ha => by cases ha
      current := fun i => by simp [hm, initial] }
  contents i a ha := by cases ha

omit [DecidableEq P] [DecidableEq F] in
theorem Placed.allocated {h' : Host V P n} (h : Placed as h') (hle : as.length ≤ n) {p : P}
    (hp : Allocated h' p) : p ∈ as.map Attempt.vmcs := by
  obtain ⟨v, lv, hv, hvmcs⟩ := hp
  have hmem : v ∈ as.map Attempt.vcpu := h.known v (by rw [hv]; exact Option.some_ne_none lv)
  obtain ⟨a, ha, rfl⟩ := List.mem_map.mp hmem
  obtain ⟨i, hi, hget⟩ := List.mem_iff_getElem.mp ha
  obtain ⟨lv', hlv, hown, -⟩ := h.numbered ⟨i, by omega⟩ a (List.getElem?_eq_some_iff.mpr ⟨hi, hget⟩)
  have hsame : lv = lv' := Option.some.inj (hv.symm.trans hlv)
  subst hsame
  have heq : p = a.vmcs := Option.some.inj (hvmcs.symm.trans hown)
  exact heq ▸ List.mem_map_of_mem ha

omit [DecidableEq V] [DecidableEq P] [DecidableEq F] in
/-- A VMCS is that of one attempt. -/
theorem vmcs_at (hnodup : (as.map Attempt.vmcs).Nodup) {i j : ℕ} (ha : as[i]? = some a) :
    (as[j]?).map Attempt.vmcs = some a.vmcs ↔ j = i := by
  rw [← List.getElem?_map]
  have hi : (as.map Attempt.vmcs)[i]? = some a.vmcs := by rw [List.getElem?_map, ha]; rfl
  have hlt : i < (as.map Attempt.vmcs).length := (List.getElem?_eq_some_iff.mp hi).1
  constructor
  · intro hj
    exact ((List.getElem?_inj hlt hnodup).mp (hi.trans hj.symm)).symm
  · rintro rfl
    exact hi

omit [DecidableEq V] [DecidableEq P] [DecidableEq F] in
/-- An attempt of the longer list is an old one or the new one. -/
theorem getElem?_concat {b : Attempt V P F X n} {i : ℕ} (h : (as ++ [a])[i]? = some b) :
    as[i]? = some b ∨ (i = as.length ∧ b = a) := by
  by_cases hi : i < as.length
  · rw [List.getElem?_append_left hi] at h
    exact Or.inl h
  · have hle : as.length ≤ i := by omega
    have hlt := (List.getElem?_eq_some_iff.mp h).1
    rw [List.length_append, List.length_singleton] at hlt
    have heq : i = as.length := by omega
    rw [heq, List.getElem?_concat_length, Option.some.injEq] at h
    exact Or.inr ⟨heq, h.symm⟩

/-- **One attempt.** -/
theorem SetUp.create (h : SetUp as m) (hlt : as.length < n)
    (hvcpu : ((as ++ [a]).map Attempt.vcpu).Nodup) (hvmcs : ((as ++ [a]).map Attempt.vmcs).Nodup) :
    SetUp (as ++ [a]) (kvm_arch_vcpu_create ⟨as.length, hlt⟩ a m) := by
  have hnewv : a.vcpu ∉ as.map Attempt.vcpu := by
    rw [List.map_append, List.nodup_append] at hvcpu
    exact fun hmem => hvcpu.2.2 _ hmem _ (by simp) rfl
  have hnewp : a.vmcs ∉ as.map Attempt.vmcs := by
    rw [List.map_append, List.nodup_append] at hvmcs
    exact fun hmem => hvmcs.2.2 _ hmem _ (by simp) rfl
  have hnone : m.host.loaded_vmcs a.vcpu = none := by
    by_contra hsome
    exact hnewv (h.placed.known a.vcpu hsome)
  have hmade : Created a.vcpu a.vmcs ⟨as.length, hlt⟩ m.host
      (kvm_arch_vcpu_create ⟨as.length, hlt⟩ a m).host := by
    rw [kvm_arch_vcpu_create, vmcs_writes_host]
    exact create_load h.placed.tracked hnone fun hp => hnewp (h.placed.allocated hlt.le hp)
  have hcurrent : ∀ i : Fin n, (kvm_arch_vcpu_create ⟨as.length, hlt⟩ a m).host.vmptr i =
      ((as ++ [a])[i.val]?).map Attempt.vmcs := by
    intro i
    rw [hmade.vmptr, h.placed.current]
    by_cases hi : i = ⟨as.length, hlt⟩
    · rw [if_pos hi, hi]
      simp
    · have hval : i.val ≠ as.length := fun hc => hi (Fin.ext hc)
      rw [if_neg hi]
      by_cases hin : i.val < as.length
      · rw [List.getElem?_append_left hin]
      · rw [List.getElem?_eq_none (by omega), List.getElem?_eq_none (by simp; omega)]
  have hwrites : ∀ (i : Fin n) b, (as ++ [a])[i.val]? = some b →
      (kvm_arch_vcpu_create ⟨as.length, hlt⟩ a m).vmcs b.vmcs =
        replay (onCpu i a.writes) (Function.update m.vmcs a.vmcs blank b.vmcs) := by
    intro i b hb
    refine vmcs_writes_current (fun cpu => ?_) a.writes
    rw [kvm_arch_vcpu_create, vmcs_writes_host] at hcurrent
    rw [hcurrent, vmcs_at hvmcs hb, Fin.val_inj]
  refine ⟨⟨hmade.tracked, fun v hv => ?_, fun i b hb => ?_, hcurrent⟩, fun i b hb => ?_⟩
  · rw [hmade.loaded_vmcs] at hv
    by_cases hva : v = a.vcpu
    · simp [hva]
    · rw [if_neg hva] at hv
      rw [List.map_append]
      exact List.mem_append_left _ (h.placed.known v hv)
  · rcases getElem?_concat hb with hold | ⟨hi, rfl⟩
    · obtain ⟨lv, hlv, hrest⟩ := h.placed.numbered i b hold
      have hne : b.vcpu ≠ a.vcpu := fun hc => by rw [hc, hnone] at hlv; cases hlv
      exact ⟨lv, by rw [hmade.loaded_vmcs, if_neg hne]; exact hlv, hrest⟩
    · exact ⟨_, by rw [hmade.loaded_vmcs, if_pos rfl], rfl, Fin.ext hi.symm⟩
  · rw [hwrites i b hb]
    rcases getElem?_concat hb with hold | ⟨hi, rfl⟩
    · -- an older VMCS takes what its processor writes for the new vCPU
      have hlt' := (List.getElem?_eq_some_iff.mp hold).1
      have hne : b.vmcs ≠ a.vmcs := fun hc =>
        hnewp (hc ▸ List.mem_map_of_mem (List.mem_of_getElem? hold))
      rw [Function.update_of_ne hne, h.contents i b hold, ← replay_append, ← onCpu_append,
        List.drop_append_of_le_length (by omega), List.flatMap_append]
      simp
    · rw [Function.update_self, hi, List.drop_left']
      · simp
      · rfl

/-- **The loop.** -/
theorem create_vcpus_setUp (h : SetUp as m) {bs : List (Attempt V P F X n)}
    (hlen : (as ++ bs).length ≤ n) (hvcpu : ((as ++ bs).map Attempt.vcpu).Nodup)
    (hvmcs : ((as ++ bs).map Attempt.vmcs).Nodup) :
    SetUp (as ++ bs) (create_vcpus as.length bs m) := by
  induction bs generalizing as m with
  | nil => rwa [List.append_nil]
  | cons b bs ih =>
    have hlt : as.length < n := by
      rw [List.length_append, List.length_cons] at hlen
      omega
    have happend : as ++ b :: bs = (as ++ [b]) ++ bs := by simp
    rw [happend] at hlen hvcpu hvmcs ⊢
    rw [List.map_append] at hvcpu hvmcs
    have hone := h.create hlt hvcpu.of_append_left hvmcs.of_append_left
    rw [← List.map_append] at hvcpu hvmcs
    have hrest := ih hone hlen hvcpu hvmcs
    rw [create_vcpus, dif_pos hlt]
    rwa [List.length_append, List.length_singleton] at hrest

/-! ## The runs -/

omit [DecidableEq V] [DecidableEq P] [DecidableEq F] in
theorem getElem?_cast (hlen : as.length = n) (i : Fin n) :
    as[i.val]? = some (as.get (i.cast hlen.symm)) :=
  List.getElem?_eq_some_iff.mpr ⟨by omega, rfl⟩

omit [DecidableEq F] in
/-- A vCPU that is loaded again is loaded where it is. -/
theorem Placed.load {h' : Host V P n} (h : Placed as h') {i : Fin n} (ha : as[i.val]? = some a) :
    Placed as (vcpu_load a.vcpu h') := by
  obtain ⟨lv, hlv, hown, hid⟩ := h.numbered i a ha
  rw [vcpu_load_eq h.tracked hlv]
  have hkeep : ∀ v lv', h'.loaded_vmcs v = some lv' → ∃ lv'',
      (loaded a.vcpu lv h').loaded_vmcs v = some lv'' ∧ lv''.vmcs = lv'.vmcs ∧
        lv''.vcpu_id = lv'.vcpu_id := by
    intro v lv' hlv'
    by_cases hv : v = a.vcpu
    · subst hv
      have hsame : lv = lv' := Option.some.inj (hlv.symm.trans hlv')
      subst hsame
      exact ⟨_, Function.update_self _ _ _, rfl, rfl⟩
    · exact ⟨lv', (Function.update_of_ne hv _ _).trans hlv', rfl, rfl⟩
  refine ⟨loaded_tracked h.tracked hlv, fun v hv => ?_, fun j b hb => ?_, fun j => ?_⟩
  · by_cases hva : v = a.vcpu
    · exact hva ▸ List.mem_map_of_mem (List.mem_of_getElem? ha)
    · simp only [loaded, Function.update_of_ne hva] at hv
      exact h.known v hv
  · obtain ⟨lv', hlv', hown', hid'⟩ := h.numbered j b hb
    obtain ⟨lv'', hlv'', hvmcs, hnum⟩ := hkeep _ lv' hlv'
    exact ⟨lv'', hlv'', hvmcs.trans hown', hnum.trans hid'⟩
  · simp only [loaded, hown, hid, Option.some_or]
    by_cases hj : j = i
    · rw [hj, Function.update_self, ha]
      rfl
    · rw [Function.update_of_ne hj]
      exact h.current j

/-- **The runs**: every write goes to the VMCS of the processor that executes it. -/
theorem run_events_contents (hnodup : (as.map Attempt.vmcs).Nodup) (hlen : as.length = n)
    (h : Placed as m.host) (es : List (Event F X n)) {i : Fin n} (ha : as[i.val]? = some a) :
    (run_events (vcpu_array as hlen) es m).vmcs a.vmcs =
      replay (onCpu i (es.filterMap Event.write?)) (m.vmcs a.vmcs) := by
  induction es generalizing m with
  | nil => rfl
  | cons e es ih =>
    cases e with
    | load cpu =>
      exact ih (h.load (getElem?_cast hlen cpu))
    | write w =>
      have hone : (vmcs_write w m).vmcs a.vmcs = replay (onCpu i [w]) (m.vmcs a.vmcs) := by
        refine vmcs_writes_current (fun cpu => ?_) [w]
        rw [h.current, vmcs_at hnodup ha, Fin.val_inj]
      have hrest := ih (m := vmcs_write w m) (by rw [vmcs_write_host]; exact h)
      rw [hone, ← replay_append, ← onCpu_append] at hrest
      exact hrest

end Loop

/-! ## What a VMCS holds -/

section Contents

variable {as : List (Attempt V P F X n)} {m : Machine V P F X n}

/-- The machine when all attempts have succeeded. -/
theorem create_all (hlen : as.length = n) (hvcpu : (as.map Attempt.vcpu).Nodup)
    (hvmcs : (as.map Attempt.vmcs).Nodup) (hm : m.host = initial) :
    SetUp as (create_vcpus 0 as m) := by
  have hsetup : SetUp ([] ++ as) (create_vcpus 0 as m) :=
    create_vcpus_setUp (initial_setUp hm) hlen.le hvcpu hvmcs
  rwa [List.nil_append] at hsetup

omit [DecidableEq V] [DecidableEq P] in
/-- The values of a field that is written once for each vCPU, as a processor has written them. -/
theorem written_onCpu {f : F} {c : Attempt V P F X n → Fin n} {x : Attempt V P F X n → X}
    (hone : ∀ a ∈ as, (a.writes.filter fun w => decide (w.field = f)) = [⟨c a, f, x a⟩])
    (i : Fin n) : written f (onCpu i (as.flatMap Attempt.writes)) =
      (as.filter fun a => decide (c a = i)).map x := by
  have hvalues : ∀ ws : List (Write F X n), written f (onCpu i ws) =
      ((ws.filter fun w => decide (w.field = f)).filter fun w => decide (w.cpu = i)).map
        Write.value := by
    intro ws
    simp only [written, onCpu, List.filter_map, List.map_map, List.filter_filter,
      Function.comp_def, Bool.and_comm]
  induction as with
  | nil => rfl
  | cons a as ih =>
    have hrest := ih fun b hb => hone b (List.mem_cons_of_mem _ hb)
    rw [List.flatMap_cons, onCpu_append, written_append, hrest, hvalues,
      hone a List.mem_cons_self]
    by_cases hc : c a = i
    · simp [hc]
    · simp [hc]

/-- The last one of a list that meets a condition is the first of the list. -/
theorem getLast_filter_head {A Y : Type*} {a : A} {l : List A} {x : A → Y} {c : A → Bool}
    (ha : ∀ b ∈ l, x b ≠ x a) :
    (((a :: l).filter c).map x).getLast? = some (x a) ↔ c a = true ∧ ∀ b ∈ l, c b = false := by
  by_cases hl : ∀ b ∈ l, c b = false
  · have hnil : l.filter c = [] := by
      rw [List.filter_eq_nil_iff]
      intro b hb
      rw [hl b hb]
      exact Bool.false_ne_true
    rw [List.filter_cons, hnil]
    by_cases hca : c a = true
    · simpa [hca] using hl
    · simp [hca]
  · -- a later one meets it, and has another value
    obtain ⟨b, hb, hcb⟩ : ∃ b ∈ l, c b = true := by
      by_contra hno
      refine hl fun b hb => ?_
      by_contra hcb
      exact hno ⟨b, hb, by simpa using hcb⟩
    have hne : l.filter c ≠ [] := List.ne_nil_of_mem (List.mem_filter.mpr ⟨hb, hcb⟩)
    have hlast : (((a :: l).filter c).map x).getLast? = ((l.filter c).map x).getLast? := by
      rw [List.filter_cons]
      split
      · rw [List.map_cons, List.getLast?_cons_of_ne_nil (by simpa using hne)]
      · rfl
    rw [hlast]
    refine iff_of_false (fun hsome => ?_) (fun hc => hl hc.2)
    obtain ⟨b', hb', hx⟩ := List.mem_map.mp (List.mem_of_getLast? hsome)
    exact ha b' (List.mem_filter.mp hb').1 hx

/-- The VMCS of vCPU `i` has, in a field, what was written to the field for that vCPU. -/
def OwnValue (as : List (Attempt V P F X n)) (hlen : as.length = n) (f : F)
    (x : Attempt V P F X n → X) (m : Machine V P F X n) (i : Fin n) : Prop :=
  m.vmcs (as.get (i.cast hlen.symm)).vmcs f = some (x (as.get (i.cast hlen.symm)))

theorem own_value_iff (hlen : as.length = n) (hvcpu : (as.map Attempt.vcpu).Nodup)
    (hvmcs : (as.map Attempt.vmcs).Nodup) (hm : m.host = initial) {es : List (Event F X n)} {f : F}
    {c : Attempt V P F X n → Fin n} {x : Attempt V P F X n → X}
    (hone : ∀ a ∈ as, (a.writes.filter fun w => decide (w.field = f)) = [⟨c a, f, x a⟩])
    (hx : (as.map x).Nodup) (hes : ∀ w ∈ es.filterMap Event.write?, w.field ≠ f) (i : Fin n) :
    OwnValue as hlen f x (run_events (vcpu_array as hlen) es (create_vcpus 0 as m)) i ↔
      c (as.get (i.cast hlen.symm)) = i ∧ ∀ j, i < j → c (as.get (j.cast hlen.symm)) ≠ i := by
  have hi : i.val < as.length := by omega
  have hdrop : as.drop i = as.get (i.cast hlen.symm) :: as.drop (i + 1) :=
    List.drop_eq_getElem_cons hi
  have hruns : written f (onCpu i (es.filterMap Event.write?)) = [] := by
    refine written_eq_nil ?_
    intro w hw
    obtain ⟨w', hw', rfl⟩ := List.mem_map.mp hw
    exact hes w' (List.mem_filter.mp hw').1
  have hlater : ∀ b ∈ as.drop (i + 1), x b ≠ x (as.get (i.cast hlen.symm)) := by
    intro b hb hsame
    have hnodup : ((as.drop i).map x).Nodup := (hx.sublist ((List.drop_sublist _ _).map x))
    rw [hdrop, List.map_cons, List.nodup_cons] at hnodup
    exact hnodup.1 (hsame ▸ List.mem_map_of_mem hb)
  have hsetup := create_all hlen hvcpu hvmcs hm
  have hat := getElem?_cast hlen i
  rw [OwnValue, run_events_contents hvmcs hlen hsetup.placed es hat, replay_eq_getLast, hruns,
    List.getLast?_nil, Option.none_or, hsetup.contents i _ hat, replay_eq_getLast,
    written_onCpu fun a ha => hone a (List.mem_of_mem_drop ha), hdrop, blank, Option.or_none,
    getLast_filter_head hlater, decide_eq_true_eq]
  refine and_congr_right fun _ => ⟨fun h j hj => ?_, fun h b hb => ?_⟩
  · have hmem : as.get (j.cast hlen.symm) ∈ as.drop (i + 1) :=
      List.mem_drop_iff_getElem.mpr ⟨j - (i + 1), by omega, by
        simp only [List.get_eq_getElem, Fin.val_cast]
        congr 1
        omega⟩
    exact of_decide_eq_false (h _ hmem)
  · obtain ⟨k, hk, rfl⟩ := List.mem_drop_iff_getElem.mp hb
    exact decide_eq_false (h ⟨i + 1 + k, by omega⟩ (Fin.lt_def.mpr (by simp only; omega)))

/-- **What each VMCS holds**, after the loop and any interleaving of the runs: what its processor has
written since the VMCS was made, for whichever vCPU. -/
theorem vmcs_contents (hlen : as.length = n) (hvcpu : (as.map Attempt.vcpu).Nodup)
    (hvmcs : (as.map Attempt.vmcs).Nodup) (hm : m.host = initial) (es : List (Event F X n))
    (i : Fin n) :
    (run_events (vcpu_array as hlen) es (create_vcpus 0 as m)).vmcs
        (as.get (i.cast hlen.symm)).vmcs =
      replay (onCpu i ((as.drop i).flatMap Attempt.writes ++ es.filterMap Event.write?)) blank := by
  have hsetup := create_all hlen hvcpu hvmcs hm
  have hat := getElem?_cast hlen i
  rw [run_events_contents hvmcs hlen hsetup.placed es hat, hsetup.contents i _ hat, onCpu_append,
    replay_append]

/-- **A field of the vCPU's own**, as MSR_BITMAP is: it is written once for each vCPU, another value
for each. All VMCSs have their own values exactly if each was written on the processor of its vCPU; if
the thread stays on one processor, only the VMCS of that processor may have its own, and only if it is
the last. -/
theorem own_values_iff (hlen : as.length = n) (hvcpu : (as.map Attempt.vcpu).Nodup)
    (hvmcs : (as.map Attempt.vmcs).Nodup) (hm : m.host = initial) {es : List (Event F X n)} {f : F}
    {c : Attempt V P F X n → Fin n} {x : Attempt V P F X n → X}
    (hone : ∀ a ∈ as, (a.writes.filter fun w => decide (w.field = f)) = [⟨c a, f, x a⟩])
    (hx : (as.map x).Nodup) (hes : ∀ w ∈ es.filterMap Event.write?, w.field ≠ f) :
    ((∀ i, OwnValue as hlen f x (run_events (vcpu_array as hlen) es (create_vcpus 0 as m)) i) ↔
      ∀ i : Fin n, c (as.get (i.cast hlen.symm)) = i) ∧
    ∀ k, (∀ i : Fin n, c (as.get (i.cast hlen.symm)) = k) → ∀ i,
      (OwnValue as hlen f x (run_events (vcpu_array as hlen) es (create_vcpus 0 as m)) i ↔
        i = k ∧ i.val + 1 = n) := by
  have hiff := own_value_iff hlen hvcpu hvmcs hm hone hx hes
  refine ⟨⟨fun h i => ((hiff i).mp (h i)).1, fun h i => (hiff i).mpr ⟨h i, fun j hj => ?_⟩⟩, ?_⟩
  · rw [h j]
    exact (ne_of_lt hj).symm
  · intro k hk i
    rw [hiff i, hk i]
    constructor
    · rintro ⟨rfl, hlast⟩
      refine ⟨rfl, ?_⟩
      by_contra hne
      have hnext : k.val + 1 < n := by omega
      exact hlast ⟨k + 1, hnext⟩ (Fin.lt_def.mpr (Nat.lt_succ_self _)) (hk _)
    · rintro ⟨rfl, hlast⟩
      refine ⟨rfl, fun j hj => ?_⟩
      have := Fin.lt_def.mp hj
      omega

/-- Two vCPUs that a thread on the first processor creates; then both are run. -/
def twoAttempts : List (Attempt ℕ ℕ Bool ℕ 2) :=
  [⟨1, 10, [⟨⟨0, Nat.two_pos⟩, true, 100⟩]⟩, ⟨2, 20, [⟨⟨0, Nat.two_pos⟩, true, 200⟩]⟩]

/-- The machine before. -/
def noVcpus : Machine ℕ ℕ Bool ℕ 2 := ⟨initial, fun _ _ => none⟩

/-- The first VMCS has what was written for the second vCPU. -/
theorem vmcs_contents_two : (run_events (vcpu_array twoAttempts rfl) [.load 0, .write ⟨1, false, 7⟩]
      (create_vcpus 0 twoAttempts noVcpus)).vmcs 10 =
    replay [(true, 100), (true, 200)] blank :=
  vmcs_contents rfl (by decide) (by decide) rfl [.load 0, .write ⟨1, false, 7⟩] 0

/-- Both writes went to the first processor: neither VMCS has its own value. -/
theorem own_values_iff_two :
    ¬ OwnValue twoAttempts rfl true (fun a => 100 * a.vcpu)
      (run_events (vcpu_array twoAttempts rfl) [] (create_vcpus 0 twoAttempts noVcpus)) 0 ∧
    ¬ OwnValue twoAttempts rfl true (fun a => 100 * a.vcpu)
      (run_events (vcpu_array twoAttempts rfl) [] (create_vcpus 0 twoAttempts noVcpus)) 1 := by
  have hiff : ∀ i, OwnValue twoAttempts rfl true (fun a => 100 * a.vcpu)
      (run_events (vcpu_array twoAttempts rfl) [] (create_vcpus 0 twoAttempts noVcpus)) i ↔
        i = 0 ∧ i.val + 1 = 2 :=
    (own_values_iff (c := fun _ => 0) rfl (by decide) (by decide) rfl (by decide) (by decide)
      (by decide)).2 0 fun _ => rfl
  exact ⟨fun hown => absurd ((hiff 0).mp hown).2 (by decide),
    fun hown => absurd ((hiff 1).mp hown).1 (by decide)⟩

end Contents

end Svmx.VcpuSetup
