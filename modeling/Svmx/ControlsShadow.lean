/-
The shadows of the VM-execution, exit and entry controls (`BUILD_CONTROLS_SHADOW`).

A `loaded_vmcs` keeps a copy of six control fields. `*_controls_set` writes the field only if the copy
differs, and `*_controls_get` reads the copy, so both rely on the copy being right. VMWRITE goes to the
VMCS that is current on the processor that executes it. `vcpu_load` makes a VMCS current on the
processor that the vCPU has by its number, and the thread that called it stays where it is:
KVM_CREATE_VCPU creates every vCPU from one thread, and the controls of the second one are written to
the VMCS of the first. `controls_shadow_right` says that this is the only way in which a copy goes
wrong, and what each call does otherwise.

The assumption about the processor is that control fields of a region are 0 after VMCLEAR.
-/
import Svmx.VmcsControls
import Svmx.VmcsLoad

set_option autoImplicit false

namespace Svmx.ControlsShadow

open VmcsLoad VmcsControls Blend

variable {V P : Type*} [DecidableEq V] [DecidableEq P] {n : ℕ}

/-! ## The families -/

/-- The `lname` of a family. -/
inductive Control where
  | vm_entry
  | vm_exit
  | pin
  | exec
  | secondary_exec
  | tertiary_exec
deriving DecidableEq

/-- The `bits` of a family. -/
def Control.bits : Control → ℕ
  | vm_entry | vm_exit | pin | exec | secondary_exec => 32
  | tertiary_exec => 64

/-- The `uname` of a family: the encoding of its field. -/
def Control.uname : Control → ℕ
  | vm_entry => 0x4012
  | vm_exit => 0x400c
  | pin => 0x4000
  | exec => 0x4002
  | secondary_exec => 0x401e
  | tertiary_exec => 0x2034

theorem Control.uname_injective : Function.Injective uname := by
  intro lname lname'
  cases lname <;> cases lname' <;> decide

theorem Control.bits_le (lname : Control) : lname.bits ≤ 64 := by
  cases lname <;> decide

/-- The vCPUs and the processors, the copies of every vCPU, and the fields of every region. -/
structure Driver (V P : Type*) (n : ℕ) where
  host : Host V P n
  controls_shadow : V → (lname : Control) → BitVec lname.bits
  fields : P → ℕ → BitVec 64

/-! ## The functions -/

/-- VMWRITE on `cpu`; without a current VMCS it fails. -/
def vmwrite (cpu : Fin n) (field : ℕ) (value : BitVec 64) (s : Driver V P n) : Driver V P n :=
  match s.host.vmptr cpu with
  | none => s
  | some p => { s with fields := Function.update s.fields p (Function.update (s.fields p) field value) }

/-- VMREAD on `cpu`, if there is a current VMCS. -/
def vmread (cpu : Fin n) (field : ℕ) (s : Driver V P n) : Option (BitVec 64) :=
  (s.host.vmptr cpu).map fun p => s.fields p field

section Family

variable (cpu : Fin n) (v : V) (lname : Control)

/-- `vmcs_write32` or `vmcs_write64`, by the width of the family. -/
def vmcs_write (value : BitVec lname.bits) (s : Driver V P n) : Driver V P n :=
  vmwrite cpu lname.uname (value.setWidth 64) s

/-- `vmcs_read32` or `vmcs_read64`, by the width of the family. -/
def vmcs_read (s : Driver V P n) : Option (BitVec lname.bits) :=
  (vmread cpu lname.uname s).map fun value => value.setWidth lname.bits

/-- `lname##_controls_get`. -/
def controls_get (s : Driver V P n) : BitVec lname.bits := s.controls_shadow v lname

/-- `lname##_controls_set`, on `cpu`. -/
def controls_set (val : BitVec lname.bits) (s : Driver V P n) : Driver V P n :=
  if s.controls_shadow v lname ≠ val then
    let s := vmcs_write cpu lname val s
    { s with controls_shadow :=
        Function.update s.controls_shadow v (Function.update (s.controls_shadow v) lname val) }
  else s

/-- `lname##_controls_setbit`. -/
def controls_setbit (val : BitVec lname.bits) (s : Driver V P n) : Driver V P n :=
  controls_set cpu v lname (controls_get v lname s ||| val) s

/-- `lname##_controls_clearbit`. -/
def controls_clearbit (val : BitVec lname.bits) (s : Driver V P n) : Driver V P n :=
  controls_set cpu v lname (controls_get v lname s &&& ~~~val) s

end Family

/-- The bits that `vmcs_set_secondary_exec_control` leaves alone. -/
def dynamic_bits : BitVec 32 :=
  SECONDARY_EXEC_SHADOW_VMCS ||| SECONDARY_EXEC_VIRTUALIZE_X2APIC_MODE |||
    SECONDARY_EXEC_VIRTUALIZE_APIC_ACCESSES ||| SECONDARY_EXEC_DESC

/-- `vmcs_set_secondary_exec_control`. -/
def vmcs_set_secondary_exec_control (cpu : Fin n) (v : V) (new_ctl : BitVec 32) (s : Driver V P n) :
    Driver V P n :=
  let cur_ctl : BitVec 32 := controls_get v .secondary_exec s
  controls_set cpu v .secondary_exec ((new_ctl &&& ~~~dynamic_bits) ||| (cur_ctl &&& dynamic_bits)) s

/-- What the pool gives to `alloc_loaded_vmcs`. -/
structure PoolAnswers (P : Type*) where
  vmcs : Option P
  msr_bitmap : Bool
  io_bitmap_a : Bool
  io_bitmap_b : Bool

/-- `alloc_loaded_vmcs` returns STATUS_SUCCESS after the region was allocated. -/
def PoolAnswers.ok (pool : PoolAnswers P) (cpu_has_vmx_msr_bitmap cpu_has_vmx_io_bitmap : Bool) : Bool :=
  (!cpu_has_vmx_msr_bitmap || pool.msr_bitmap) &&
    (!cpu_has_vmx_io_bitmap || (pool.io_bitmap_a && pool.io_bitmap_b))

/-- `vmx_vcpu_create` with `alloc_loaded_vmcs`; VMCLEAR leaves `cleared` in the region. Without the
bitmaps the region stays allocated, and the vCPU has no `loaded_vmcs`. -/
def alloc_loaded_vmcs (cpu_has_vmx_msr_bitmap cpu_has_vmx_io_bitmap : Bool) (v : V) (vcpu_id : Fin n)
    (pool : PoolAnswers P) (cleared : ℕ → BitVec 64) (s : Driver V P n) : Driver V P n :=
  match pool.vmcs with
  | none => s
  | some p =>
    let lv : LoadedVmcs P n := ⟨some p, none, false, vcpu_id⟩
    let s := { s with
      host := KeIpiGenericCall (VmcsClearOnSpecificCore lv) s.host
      fields := Function.update s.fields p cleared }
    if pool.ok cpu_has_vmx_msr_bitmap cpu_has_vmx_io_bitmap then
      { s with
        host := { s.host with loaded_vmcs := Function.update s.host.loaded_vmcs v (some lv) }
        controls_shadow := Function.update s.controls_shadow v fun _ => 0 }
    else s

/-! ## Histories -/

/-- A call of one family. -/
inductive Access (w : ℕ) where
  | set (val : BitVec w)
  | setbit (val : BitVec w)
  | clearbit (val : BitVec w)

/-- The word that the call asks for, by the word before it. -/
def Access.word {w : ℕ} (old : BitVec w) : Access w → BitVec w
  | set val => val
  | setbit val => old ||| val
  | clearbit val => old &&& ~~~val

/-- The call, executed on `cpu`. -/
def access (cpu : Fin n) (v : V) (lname : Control) : Access lname.bits → Driver V P n → Driver V P n
  | .set val => controls_set cpu v lname val
  | .setbit val => controls_setbit cpu v lname val
  | .clearbit val => controls_clearbit cpu v lname val

/-- One operation. -/
inductive Op (V P : Type*) (n : ℕ) where
  | alloc (v : V) (vcpu_id : Fin n) (pool : PoolAnswers P) (cleared : ℕ → BitVec 64)
  | load (v : V)
  | free (v : V)
  | access (cpu : Fin n) (v : V) (lname : Control) (a : Access lname.bits)
  /-- Another VMWRITE of the driver. -/
  | vmwrite (cpu : Fin n) (field : ℕ) (value : BitVec 64)

/-- The vCPU has a VMCS, in the region `p`. -/
def Owns (s : Driver V P n) (v : V) (p : P) : Prop :=
  ∃ lv, s.host.loaded_vmcs v = some lv ∧ lv.vmcs = some p

/-- A new vCPU gets memory that is not in use, whose control fields read as 0 after VMCLEAR. The calls
are for vCPUs that have a VMCS, and nothing else in the driver writes a control field. -/
def Op.Valid (s : Driver V P n) : Op V P n → Prop
  | .alloc v _ pool cleared => s.host.loaded_vmcs v = none ∧
      (∀ p, pool.vmcs = some p → ¬ Allocated s.host p) ∧ ∀ lname : Control, cleared lname.uname = 0
  | .load v => s.host.loaded_vmcs v ≠ none
  | .free v => s.host.loaded_vmcs v ≠ none
  | .access _ v _ _ => ∃ p, Owns s v p
  | .vmwrite _ field _ => ∀ lname : Control, field ≠ lname.uname

variable (cpu_has_vmx_msr_bitmap cpu_has_vmx_io_bitmap : Bool)

def step (s : Driver V P n) : Op V P n → Driver V P n
  | .alloc v vcpu_id pool cleared =>
    alloc_loaded_vmcs cpu_has_vmx_msr_bitmap cpu_has_vmx_io_bitmap v vcpu_id pool cleared s
  | .load v => { s with host := vcpu_load v s.host }
  | .free v => { s with host := free_loaded_vmcs v s.host }
  | .access cpu v lname a => access cpu v lname a s
  | .vmwrite cpu field value => vmwrite cpu field value s

/-- Every sequence of operations, from a driver that was just loaded. -/
def driverSystem : Transition.System (Driver V P n) (Op V P n) where
  init s := s.host = initial
  step s op s' := op.Valid s ∧ s' = step cpu_has_vmx_msr_bitmap cpu_has_vmx_io_bitmap s op

/-- The call finds the word it asks for in the copy, or the VMCS of the vCPU is current on the
processor that executes it. -/
def Settled (s : Driver V P n) (cpu : Fin n) (v : V) (lname : Control) (a : Access lname.bits) : Prop :=
  a.word (controls_get v lname s) = controls_get v lname s ∨
    ∃ p, Owns s v p ∧ s.host.vmptr cpu = some p

/-- The calls of the history are settled. -/
def AtHome (s : Driver V P n) : Op V P n → Prop
  | .access cpu v lname a => Settled s cpu v lname a
  | _ => True

/-- Every copy is what its field holds. -/
def Truthful (s : Driver V P n) : Prop :=
  ∀ v p, Owns s v p → ∀ lname : Control,
    s.fields p lname.uname = (controls_get v lname s).setWidth 64

/-- What a call does to the vCPU `v` with the region `p`: its copy and its field change to `word`,
and nothing else does. -/
structure Exact (s s' : Driver V P n) (v : V) (p : P) (lname : Control) (word : BitVec lname.bits) :
    Prop where
  get : controls_get v lname s' = word
  field : s'.fields p lname.uname = word.setWidth 64
  other_shadows : ∀ v' lname', (v', lname') ≠ (v, lname) →
    controls_get v' lname' s' = controls_get v' lname' s
  other_fields : ∀ p' field, (p', field) ≠ (p, lname.uname) → s'.fields p' field = s.fields p' field
  host : s'.host = s.host

/-! ## One call -/

section Call

variable {s : Driver V P n} {cpu : Fin n} {v : V} {p : P} {lname : Control}

theorem access_eq (a : Access lname.bits) :
    access cpu v lname a s = controls_set cpu v lname (a.word (controls_get v lname s)) s := by
  cases a with
  | set val => rfl
  | setbit val => rfl
  | clearbit val => rfl

theorem set_same {val : BitVec lname.bits}
    (h : val = controls_get v lname s) : controls_set cpu v lname val s = s := by
  rw [controls_set, if_neg]
  exact not_not.mpr h.symm

/-- The copy changes wherever the call is executed. -/
theorem get_set (val : BitVec lname.bits) :
    controls_get v lname (controls_set cpu v lname val s) = val := by
  unfold controls_set controls_get
  split
  · simp only [Function.update_self]
  · next hsame => exact not_not.mp hsame

theorem get_set_other {v' : V} {lname' : Control} (hne : (v', lname') ≠ (v, lname))
    (val : BitVec lname.bits) : controls_get v' lname' (controls_set cpu v lname val s)
      = controls_get v' lname' s := by
  have hshadow : (vmcs_write cpu lname val s).controls_shadow = s.controls_shadow := by
    unfold vmcs_write vmwrite
    split <;> rfl
  unfold controls_set controls_get
  split
  · simp only [hshadow]
    by_cases hv : v' = v
    · subst hv
      have hlname : lname' ≠ lname := fun heq => hne (by rw [heq])
      rw [Function.update_self, Function.update_of_ne hlname]
    · rw [Function.update_of_ne hv]
  · rfl

theorem host_set (val : BitVec lname.bits) : (controls_set cpu v lname val s).host = s.host := by
  unfold controls_set vmcs_write vmwrite
  split
  · dsimp only
    split <;> rfl
  · rfl

/-- The fields after a call that writes. -/
theorem fields_set {val : BitVec lname.bits} (hval : val ≠ controls_get v lname s) :
    (controls_set cpu v lname val s).fields = (vmcs_write cpu lname val s).fields := by
  rw [controls_set, if_pos]
  exact hval.symm

omit [DecidableEq V] in
/-- A write goes to the region that is current, if there is one. -/
theorem fields_write {val : BitVec lname.bits} {p' : P} {field : ℕ}
    (hne : ¬ (s.host.vmptr cpu = some p' ∧ field = lname.uname)) :
    (vmcs_write cpu lname val s).fields p' field = s.fields p' field := by
  unfold vmcs_write vmwrite
  split
  · rfl
  · next q hvmptr =>
    dsimp only
    by_cases hq : p' = q
    · subst hq
      have hfield : field ≠ lname.uname := fun heq => hne ⟨hvmptr, heq⟩
      rw [Function.update_self, Function.update_of_ne hfield]
    · rw [Function.update_of_ne hq]

/-- **A settled call is exact.** -/
theorem access_exact (ht : Truthful s) (hp : Owns s v p) {a : Access lname.bits}
    (hdistinct : ∀ p', Owns s v p' → p' = p) (hsettled : Settled s cpu v lname a) :
    Exact s (access cpu v lname a s) v p lname (a.word (controls_get v lname s)) := by
  rw [access_eq]
  by_cases hsame : a.word (controls_get v lname s) = controls_get v lname s
  · -- Nothing is written, and the field holds the word already.
    rw [set_same hsame]
    exact
      { get := hsame.symm
        field := by
          rw [hsame]
          exact ht v p hp lname
        other_shadows := fun _ _ _ => rfl
        other_fields := fun _ _ _ => rfl
        host := rfl }
  · obtain ⟨p', hp', hvmptr⟩ := hsettled.resolve_left hsame
    obtain rfl : p' = p := hdistinct p' hp'
    exact
      { get := get_set _
        field := by
          rw [fields_set hsame, vmcs_write, vmwrite, hvmptr]
          dsimp only
          rw [Function.update_self, Function.update_self]
        other_shadows := fun _ _ hne => get_set_other hne _
        other_fields := by
          intro q field hne
          rw [fields_set hsame]
          apply fields_write
          rintro ⟨hq, rfl⟩
          obtain rfl : p' = q := Option.some.inj (hvmptr.symm.trans hq)
          exact hne rfl
        host := host_set _ }

/-- A call that is not settled changes the copy, and leaves the field of the vCPU as it is. -/
theorem access_unsettled (hp : Owns s v p) {a : Access lname.bits}
    (hsettled : ¬ Settled s cpu v lname a) :
    (access cpu v lname a s).fields p lname.uname = s.fields p lname.uname ∧
      controls_get v lname (access cpu v lname a s) ≠ controls_get v lname s := by
  obtain ⟨hword, haway⟩ := not_or.mp hsettled
  rw [access_eq]
  constructor
  · rw [fields_set hword]
    apply fields_write
    rintro ⟨hvmptr, -⟩
    exact haway ⟨p, hp, hvmptr⟩
  · rw [get_set]
    exact hword

theorem setWidth_inj {x y : BitVec lname.bits} (h : x.setWidth 64 = y.setWidth 64) : x = y := by
  apply BitVec.eq_of_toNat_eq
  have hle : lname.bits ≤ 64 := lname.bits_le
  rw [← BitVec.toNat_setWidth_of_le hle, h, BitVec.toNat_setWidth_of_le hle]

/-- **A call is exact if and only if it is settled.** -/
theorem access_exact_iff (ht : Truthful s) (hp : Owns s v p)
    (hdistinct : ∀ p', Owns s v p' → p' = p) (a : Access lname.bits) :
    Exact s (access cpu v lname a s) v p lname (a.word (controls_get v lname s)) ↔
      Settled s cpu v lname a := by
  constructor
  · intro hexact
    by_contra hsettled
    obtain ⟨hfield, hget⟩ := access_unsettled hp hsettled
    rw [hexact.field, ht v p hp lname] at hfield
    rw [hexact.get] at hget
    exact hget (setWidth_inj hfield)
  · exact access_exact ht hp hdistinct

/-- The dynamic bits of the secondary word stay, the others are the new ones. -/
theorem set_secondary_exec_control_blends (new_ctl : BitVec 32) :
    controls_get v .secondary_exec (vmcs_set_secondary_exec_control cpu v new_ctl s) =
      blend dynamic_bits (controls_get v .secondary_exec s) new_ctl :=
  get_set _

end Call

/-! ## The invariant -/

/-- The copies are right, and no two vCPUs have one region. -/
structure Inv (s : Driver V P n) : Prop where
  tracked : Tracked s.host
  truthful : Truthful s

section Steps

variable {s : Driver V P n} {v v' : V} {p p' : P}

omit [DecidableEq P] in
theorem Inv.distinct (h : Inv s) (hp : Owns s v p) (hp' : Owns s v' p) : v = v' := by
  obtain ⟨lv, hv, hvmcs⟩ := hp
  obtain ⟨lv', hv', hvmcs'⟩ := hp'
  exact h.tracked.distinct v v' lv lv' p hv hv' hvmcs hvmcs'

omit [DecidableEq V] [DecidableEq P] in
theorem Owns.unique (hp : Owns s v p) (hp' : Owns s v p') : p' = p := by
  obtain ⟨lv, hv, hvmcs⟩ := hp
  obtain ⟨lv', hv', hvmcs'⟩ := hp'
  obtain rfl : lv = lv' := Option.some.inj (hv.symm.trans hv')
  exact Option.some.inj (hvmcs'.symm.trans hvmcs)

omit [DecidableEq V] [DecidableEq P] in
theorem Owns.allocated (hp : Owns s v p) : Allocated s.host p := by
  obtain ⟨lv, hv, hvmcs⟩ := hp
  exact ⟨v, lv, hv, hvmcs⟩

/-- VMCLEAR of a region that no vCPU has changes no pointer. -/
theorem clear_unowned (ht : Tracked s.host) (vcpu_id : Fin n) (hfree : ¬ Allocated s.host p) :
    KeIpiGenericCall (VmcsClearOnSpecificCore ⟨some p, none, false, vcpu_id⟩) s.host = s.host := by
  rw [ipi_clear, vmcs_clear, if_neg]
  intro hc
  exact hfree (ht.owned _ p hc).allocated

theorem alloc_inv (h : Inv s) {vcpu_id : Fin n} {pool : PoolAnswers P} {cleared : ℕ → BitVec 64}
    (hvalid : (Op.alloc v vcpu_id pool cleared).Valid s) :
    Inv (alloc_loaded_vmcs cpu_has_vmx_msr_bitmap cpu_has_vmx_io_bitmap v vcpu_id pool cleared s) := by
  obtain ⟨hnew, hfree, hcleared⟩ := hvalid
  unfold alloc_loaded_vmcs
  cases hpool : pool.vmcs with
  | none => exact h
  | some p =>
    have hp : ¬ Allocated s.host p := hfree p hpool
    have hclear := clear_unowned h.tracked vcpu_id hp
    dsimp only
    split
    · constructor
      · exact create_tracked h.tracked hnew vcpu_id hp
      · -- The new vCPU has zero copies of a cleared region, the others have other regions.
        rintro v' q ⟨lv, hv', hvmcs⟩ lname
        rw [hclear] at hv'
        rcases update_eq_some hv' with ⟨rfl, rfl⟩ | ⟨hne, hold⟩
        · obtain rfl : p = q := Option.some.inj hvmcs
          simp only [controls_get, Function.update_self, hcleared lname]
          exact (BitVec.setWidth_zero _ _).symm
        · have hq : q ≠ p := by
            rintro rfl
            exact hp ⟨v', lv, hold, hvmcs⟩
          simp only [controls_get, Function.update_of_ne hq, Function.update_of_ne hne]
          exact h.truthful v' q ⟨lv, hold, hvmcs⟩ lname
    · rw [hclear]
      refine ⟨h.tracked, ?_⟩
      intro v' q hq lname
      have hne : q ≠ p := by
        rintro rfl
        exact hp (Owns.allocated hq)
      simp only [controls_get, Function.update_of_ne hne]
      exact h.truthful v' q hq lname

/-- A load keeps the region of every vCPU. -/
theorem load_inv (h : Inv s) (hvalid : (Op.load v : Op V P n).Valid s) :
    Inv { s with host := vcpu_load v s.host } := by
  obtain ⟨lv, hv⟩ := Option.ne_none_iff_exists'.mp hvalid
  rw [vcpu_load_eq h.tracked hv]
  refine ⟨loaded_tracked h.tracked hv, ?_⟩
  rintro v' p ⟨lv', hv', hvmcs⟩ lname
  rcases update_eq_some hv' with ⟨rfl, rfl⟩ | ⟨-, hold⟩
  · exact h.truthful _ p ⟨lv, hv, hvmcs⟩ lname
  · exact h.truthful v' p ⟨lv', hold, hvmcs⟩ lname

/-- A freed vCPU has no region. -/
theorem free_inv (h : Inv s) (hvalid : (Op.free v : Op V P n).Valid s) :
    Inv { s with host := free_loaded_vmcs v s.host } := by
  obtain ⟨lv, hv⟩ := Option.ne_none_iff_exists'.mp hvalid
  by_cases hnone : lv.vmcs = none
  · have hsame : free_loaded_vmcs v s.host = s.host := by
      simp only [free_loaded_vmcs, hv, if_pos hnone]
    rw [hsame]
    exact h
  · rw [free_loaded_vmcs_eq h.tracked hv hnone]
    refine ⟨freed_tracked h.tracked hv, ?_⟩
    rintro v' p ⟨lv', hv', hvmcs⟩ lname
    rcases update_eq_some hv' with ⟨-, rfl⟩ | ⟨-, hold⟩
    · cases hvmcs
    · exact h.truthful v' p ⟨lv', hold, hvmcs⟩ lname

omit [DecidableEq P] in
/-- An exact call leaves every copy right. -/
theorem Exact.inv (h : Inv s) {s' : Driver V P n} {lname : Control} {word : BitVec lname.bits}
    (hp : Owns s v p) (hexact : Exact s s' v p lname word) : Inv s' := by
  constructor
  · rw [hexact.host]
    exact h.tracked
  · intro v' q hq lname'
    replace hq : Owns s v' q := by
      rw [Owns, ← hexact.host]
      exact hq
    by_cases hsame : (v', lname') = (v, lname)
    · obtain ⟨rfl, rfl⟩ := Prod.mk.inj hsame
      obtain rfl : q = p := hp.unique hq
      rw [hexact.field, hexact.get]
    · -- Another copy has another field: of another region, or of another family.
      have hother : (q, lname'.uname) ≠ (p, lname.uname) := by
        intro heq
        obtain ⟨rfl, huname⟩ := Prod.mk.inj heq
        obtain rfl : v' = v := h.distinct hq hp
        exact hsame (by rw [Control.uname_injective huname])
      rw [hexact.other_fields q _ hother, hexact.other_shadows v' lname' hsame]
      exact h.truthful v' q hq lname'

theorem vmwrite_inv (h : Inv s) {cpu : Fin n} {field : ℕ} {value : BitVec 64}
    (hvalid : (Op.vmwrite cpu field value : Op V P n).Valid s) : Inv (vmwrite cpu field value s) := by
  unfold vmwrite
  split
  · exact h
  · next q hvmptr =>
    refine ⟨h.tracked, ?_⟩
    intro v' p hp lname
    have hfield : lname.uname ≠ field := fun heq => hvalid lname heq.symm
    have hkeep : Function.update s.fields q (Function.update (s.fields q) field value) p lname.uname
        = s.fields p lname.uname := by
      by_cases hq : p = q
      · subst hq
        rw [Function.update_self, Function.update_of_ne hfield]
      · rw [Function.update_of_ne hq]
    exact hkeep.trans (h.truthful v' p hp lname)

theorem step_inv (h : Inv s) {op : Op V P n} (hvalid : op.Valid s) (hhome : AtHome s op) :
    Inv (step cpu_has_vmx_msr_bitmap cpu_has_vmx_io_bitmap s op) := by
  cases op with
  | alloc v vcpu_id pool cleared => exact alloc_inv _ _ h hvalid
  | load v => exact load_inv h hvalid
  | free v => exact free_inv h hvalid
  | access cpu v lname a =>
    obtain ⟨p, hp⟩ := hvalid
    exact (access_exact h.truthful hp (fun _ hp' => hp.unique hp') hhome).inv h hp
  | vmwrite cpu field value => exact vmwrite_inv h hvalid

theorem run_inv (hrun : Transition.Run (driverSystem cpu_has_vmx_msr_bitmap cpu_has_vmx_io_bitmap)
    AtHome s) : Inv s := by
  apply hrun.invariant Inv
  · intro s hinit
    obtain hinit : s.host = initial := hinit
    constructor
    · rw [hinit]
      exact initial_tracked
    · rintro v p ⟨lv, hv, -⟩
      rw [hinit] at hv
      cases hv
  · rintro s op s' h hhome ⟨hvalid, rfl⟩
    exact step_inv _ _ h hvalid hhome

end Steps

/-- **The shadows of the controls.** As long as every call that writes is executed where the VMCS of
its vCPU is current, every copy is what its field holds, and a VMREAD of that VMCS returns what `get`
does. The next call changes exactly the bits it asks for, in the copy and in the field, and nothing
else, if and only if it is executed there too or has nothing to write. -/
theorem controls_shadow_right {s : Driver V P n}
    (hrun : Transition.Run (driverSystem cpu_has_vmx_msr_bitmap cpu_has_vmx_io_bitmap) AtHome s) :
    Truthful s ∧ ∀ v p, Owns s v p → ∀ cpu lname,
      (s.host.vmptr cpu = some p → vmcs_read cpu lname s = some (controls_get v lname s)) ∧
      ∀ a, Exact s (access cpu v lname a s) v p lname (a.word (controls_get v lname s)) ↔
        Settled s cpu v lname a := by
  have hinv : Inv s := run_inv _ _ hrun
  refine ⟨hinv.truthful, fun v p hp cpu lname => ⟨fun hvmptr => ?_, fun a => ?_⟩⟩
  · have hfield := hinv.truthful v p hp lname
    rw [vmcs_read, vmread, hvmptr]
    simp only [Option.map_some, hfield, BitVec.setWidth_setWidth_of_le _ lname.bits_le]
    exact congrArg some (BitVec.setWidth_eq _)
  · exact access_exact_iff hinv.truthful hp (fun _ hp' => hp.unique hp') a

/-! ## KVM_CREATE_VCPU on two processors -/

theorem run_step {ok : Driver V P n → Op V P n → Prop} {s : Driver V P n}
    (hrun : Transition.Run (driverSystem cpu_has_vmx_msr_bitmap cpu_has_vmx_io_bitmap) ok s)
    (op : Op V P n) (hok : ok s op) (hvalid : op.Valid s) :
    Transition.Run (driverSystem cpu_has_vmx_msr_bitmap cpu_has_vmx_io_bitmap) ok
      (step cpu_has_vmx_msr_bitmap cpu_has_vmx_io_bitmap s op) :=
  .step s op _ hrun hok ⟨hvalid, rfl⟩

/-- The driver before the first vCPU. -/
def new_driver : Driver ℕ ℕ 2 where
  host := initial
  controls_shadow _ _ := 0
  fields _ _ := 0

/-- The allocation of the VMCS `p`, with all bitmaps. -/
def alloc_at (v : ℕ) (vcpu_id : Fin 2) (p : ℕ) : Op ℕ ℕ 2 :=
  .alloc v vcpu_id ⟨some p, true, true, true⟩ fun _ => 0

/-- A thread on a processor creates the first vCPU there: its VMCS is allocated and loaded, and
`init_vmcs` sets its pin-based controls. -/
def first_created (cpu : Fin 2) : Driver ℕ ℕ 2 :=
  step true true (step true true (step true true new_driver (alloc_at 1 cpu 10)) (.load 1))
    (.access cpu 1 .pin (.set 0x16))

/-- The thread creates the second one, whose VMCS is loaded on another processor. -/
def second_created (cpu other : Fin 2) : Driver ℕ ℕ 2 :=
  step true true (step true true (step true true (first_created cpu) (alloc_at 2 other 20)) (.load 2))
    (.access cpu 2 .pin (.set 0x16))

theorem first_created_run {ok : Driver ℕ ℕ 2 → Op ℕ ℕ 2 → Prop}
    (hok : ∀ s op, AtHome s op → ok s op) :
    Transition.Run (driverSystem true true) ok (first_created 0) := by
  have hstart : Transition.Run (driverSystem true true) ok new_driver := .start _ rfl
  have hvalid : (alloc_at 1 0 10).Valid new_driver :=
    ⟨rfl, fun _ _ ⟨_, _, hv, _⟩ => absurd hv (Option.some_ne_none _).symm, fun _ => rfl⟩
  have halloc := run_step true true hstart _ (hok _ (alloc_at 1 0 10) trivial) hvalid
  have hload := run_step true true halloc _ (hok _ (.load 1) trivial) (Option.some_ne_none _)
  apply run_step true true hload
  · exact hok _ (.access 0 1 .pin (.set 0x16)) (.inr ⟨10, ⟨_, rfl, rfl⟩, rfl⟩)
  · exact ⟨10, _, rfl, rfl⟩

theorem controls_shadow_right_first : Truthful (first_created 0) ∧
    Exact (first_created 0) (access 0 1 .pin (.clearbit 0x2) (first_created 0)) 1 10 .pin 0x14 := by
  have hright := controls_shadow_right true true (first_created_run fun _ _ hhome => hhome)
  have howns : Owns (first_created 0) 1 10 := ⟨_, rfl, rfl⟩
  refine ⟨hright.1, ?_⟩
  exact ((hright.2 1 10 howns 0 .pin).2 (.clearbit 0x2)).mpr (.inr ⟨10, howns, rfl⟩)

/-- The second vCPU has 0x16 in its copy, and 0 in its VMCS. -/
theorem second_vcpu_elsewhere :
    Transition.Run (driverSystem true true) (fun _ _ => True) (second_created 0 1) ∧
      ¬ Truthful (second_created 0 1) := by
  constructor
  · have hvalid : (alloc_at 2 1 20).Valid (first_created 0) := by
      refine ⟨rfl, ?_, fun _ => rfl⟩
      rintro p hp ⟨v, lv, hv, hvmcs⟩
      cases hp
      -- The first vCPU has the region 10, and there is no other.
      rcases update_eq_some hv with ⟨-, rfl⟩ | ⟨-, hold⟩
      · exact absurd (Option.some.inj hvmcs) (by decide)
      · rcases update_eq_some hold with ⟨-, rfl⟩ | ⟨-, hnone⟩
        · exact absurd (Option.some.inj hvmcs) (by decide)
        · cases hnone
    have hfirst := first_created_run fun _ _ _ => trivial
    have halloc := run_step true true hfirst _ trivial hvalid
    have hload := run_step true true halloc (.load 2) trivial (Option.some_ne_none _)
    exact run_step true true hload _ trivial ⟨20, _, rfl, rfl⟩
  · intro ht
    have hfield := ht 2 20 ⟨_, rfl, rfl⟩ .pin
    exact absurd hfield (by decide)

end Svmx.ControlsShadow
