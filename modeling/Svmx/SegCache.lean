/-
The segment cache of a vCPU (`vmx_get_segment`, `vmx_set_segment`, `vmx_set_msr`, `vmx_vcpu_reset`).

The fields of the guest's segments are in the VMCS. What `vmx_get_segment` has read once it keeps in
`segment_cache`, with one bit of `bitmask` for each field of each segment; an exit makes the whole
cache invalid through `VCPU_EXREG_SEGMENTS`, and `vmx_set_segment` through the bitmask.
`vmx_set_msr` writes the bases of FS and GS into the VMCS and leaves the cache: it is stale from there
on, exactly if it held another base (`set_msr_coherent_iff`, `segments_fresh`).
-/
import Mathlib.Data.BitVec
import Mathlib.Data.Fin.Basic
import Mathlib.Tactic.Common
import Svmx.Transition

set_option autoImplicit false

namespace Svmx.SegCache

/-! ## Segments -/

/-- `enum segment_cache_field`. -/
inductive SegField where
  | SEG_FIELD_SEL
  | SEG_FIELD_BASE
  | SEG_FIELD_LIMIT
  | SEG_FIELD_AR
deriving DecidableEq

open SegField

def SegField.idx : SegField → ℕ
  | SEG_FIELD_SEL => 0
  | SEG_FIELD_BASE => 1
  | SEG_FIELD_LIMIT => 2
  | SEG_FIELD_AR => 3

def SEG_FIELD_NR : ℕ := 4

/-- The width of a field. -/
@[reducible] def SegField.width : SegField → ℕ
  | SEG_FIELD_SEL => 16
  | SEG_FIELD_BASE => 64
  | SEG_FIELD_LIMIT => 32
  | SEG_FIELD_AR => 32

/-- The four fields of a segment, in the VMCS or in the cache. -/
abbrev SegFields := (field : SegField) → BitVec field.width

def VCPU_SREG_ES : Fin 8 := 0
def VCPU_SREG_CS : Fin 8 := 1
def VCPU_SREG_SS : Fin 8 := 2
def VCPU_SREG_DS : Fin 8 := 3
def VCPU_SREG_FS : Fin 8 := 4
def VCPU_SREG_GS : Fin 8 := 5
def VCPU_SREG_TR : Fin 8 := 6
def VCPU_SREG_LDTR : Fin 8 := 7

/-- `struct kvm_segment`. -/
structure KvmSegment where
  base : BitVec 64
  limit : BitVec 32
  selector : BitVec 16
  type : BitVec 8
  present : BitVec 8
  dpl : BitVec 8
  db : BitVec 8
  s : BitVec 8
  l : BitVec 8
  g : BitVec 8
  avl : BitVec 8
  unusable : BitVec 8
deriving DecidableEq

/-- `vmx_segment_access_rights`. -/
def vmx_segment_access_rights (var : KvmSegment) : BitVec 32 :=
  (var.type &&& 15).zeroExtend 32 |||
    ((var.s &&& 1).zeroExtend 32 <<< 4) |||
    ((var.dpl &&& 3).zeroExtend 32 <<< 5) |||
    ((var.present &&& 1).zeroExtend 32 <<< 7) |||
    ((var.avl &&& 1).zeroExtend 32 <<< 12) |||
    ((var.l &&& 1).zeroExtend 32 <<< 13) |||
    ((var.db &&& 1).zeroExtend 32 <<< 14) |||
    ((var.g &&& 1).zeroExtend 32 <<< 15) |||
    ((if var.unusable ≠ 0 ∨ var.present = 0 then 1 else 0) <<< 16)

/-- The segment that `vmx_get_segment` makes of four fields; `present` is the complement of
`unusable`, whatever the access rights say. -/
def segment_of_fields (base : BitVec 64) (limit : BitVec 32) (selector : BitVec 16)
    (ar : BitVec 32) : KvmSegment :=
  let unusable := ((ar >>> 16) &&& 1).truncate 8
  { base := base
    limit := limit
    selector := selector
    unusable := unusable
    type := (ar &&& 15).truncate 8
    s := ((ar >>> 4) &&& 1).truncate 8
    dpl := ((ar >>> 5) &&& 3).truncate 8
    present := if unusable = 0 then 1 else 0
    avl := ((ar >>> 12) &&& 1).truncate 8
    l := ((ar >>> 13) &&& 1).truncate 8
    db := ((ar >>> 14) &&& 1).truncate 8
    g := ((ar >>> 15) &&& 1).truncate 8 }

/-! ## The vCPU -/

/-- The part of `struct vcpu_vmx` that has to do with segments: the availability of
`VCPU_EXREG_SEGMENTS`, the segment cache, the guest's segment fields in the VMCS, and `rmode`. -/
structure VcpuVmx where
  segments_avail : Bool
  bitmask : BitVec 32
  seg : Fin 8 → SegFields
  vmcs : Fin 8 → SegFields
  vm86_active : Bool
  segs : Fin 8 → KvmSegment

/-- What the functions ask of the rest of the vCPU and of the module parameters. -/
structure Config where
  is_unrestricted_guest : Bool
  emulate_invalid_guest_state : Bool

/-- `vmcs_write16`, `vmcs_writel` or `vmcs_write32` of a segment field. -/
def vmcs_write (seg : Fin 8) (field : SegField) (value : BitVec field.width) (vmx : VcpuVmx) :
    VcpuVmx :=
  { vmx with
    vmcs := Function.update vmx.vmcs seg (Function.update (vmx.vmcs seg) field value) }

/-- The bit of a field in `bitmask`. -/
def cacheBit (seg : Fin 8) (field : SegField) : ℕ := seg.val * SEG_FIELD_NR + field.idx

/-- `vmx_segment_cache_test_set`. -/
def vmx_segment_cache_test_set (seg : Fin 8) (field : SegField) (vmx : VcpuVmx) : Bool × VcpuVmx :=
  let mask : BitVec 32 := 1#32 <<< cacheBit seg field
  let vmx := if vmx.segments_avail = false then
      { vmx with segments_avail := true, bitmask := 0 } else vmx
  (vmx.bitmask &&& mask != 0, { vmx with bitmask := vmx.bitmask ||| mask })

/-- `vmx_read_guest_seg_selector`, `_base`, `_limit` and `_ar`. -/
def vmx_read_guest_seg (field : SegField) (seg : Fin 8) (vmx : VcpuVmx) :
    BitVec field.width × VcpuVmx :=
  let (hit, vmx) := vmx_segment_cache_test_set seg field vmx
  let vmx := if hit then vmx else
    { vmx with
      seg := Function.update vmx.seg seg (Function.update (vmx.seg seg) field (vmx.vmcs seg field)) }
  (vmx.seg seg field, vmx)

def vmx_read_guest_seg_selector (seg : Fin 8) (vmx : VcpuVmx) : BitVec 16 × VcpuVmx :=
  vmx_read_guest_seg SEG_FIELD_SEL seg vmx

def vmx_read_guest_seg_base (seg : Fin 8) (vmx : VcpuVmx) : BitVec 64 × VcpuVmx :=
  vmx_read_guest_seg SEG_FIELD_BASE seg vmx

def vmx_read_guest_seg_limit (seg : Fin 8) (vmx : VcpuVmx) : BitVec 32 × VcpuVmx :=
  vmx_read_guest_seg SEG_FIELD_LIMIT seg vmx

def vmx_read_guest_seg_ar (seg : Fin 8) (vmx : VcpuVmx) : BitVec 32 × VcpuVmx :=
  vmx_read_guest_seg SEG_FIELD_AR seg vmx

/-- `vmx_get_segment`. -/
def vmx_get_segment (seg : Fin 8) (vmx : VcpuVmx) : KvmSegment × VcpuVmx :=
  if vmx.vm86_active ∧ seg ≠ VCPU_SREG_LDTR then
    let var := vmx.segs seg
    if seg = VCPU_SREG_TR then (var, vmx)
    else
      let (selector, vmx) := vmx_read_guest_seg_selector seg vmx
      if var.selector = selector then (var, vmx)
      else
        let (base, vmx) := vmx_read_guest_seg_base seg vmx
        let (selector, vmx) := vmx_read_guest_seg_selector seg vmx
        ({ var with base := base, selector := selector }, vmx)
  else
    let (base, vmx) := vmx_read_guest_seg_base seg vmx
    let (limit, vmx) := vmx_read_guest_seg_limit seg vmx
    let (selector, vmx) := vmx_read_guest_seg_selector seg vmx
    let (ar, vmx) := vmx_read_guest_seg_ar seg vmx
    (segment_of_fields base limit selector ar, vmx)

/-- `vmx_segment_cache_clear`. -/
def vmx_segment_cache_clear (vmx : VcpuVmx) : VcpuVmx := { vmx with bitmask := 0 }

/-- `fix_rmode_seg`. -/
def fix_rmode_seg (cfg : Config) (seg : Fin 8) (save : KvmSegment) (vmx : VcpuVmx) : VcpuVmx :=
  let var := { save with dpl := 0x3 }
  let var := if seg = VCPU_SREG_CS then { var with type := 0x3 } else var
  let var := if !cfg.emulate_invalid_guest_state then
      { var with
        selector := (var.base >>> 4).truncate 16, base := var.base &&& 0xffff0, limit := 0xffff
        g := 0, db := 0, present := 1, s := 1, l := 0, unusable := 0, type := 0x3, avl := 0 }
    else var
  let vmx := vmcs_write seg SEG_FIELD_SEL var.selector vmx
  let vmx := vmcs_write seg SEG_FIELD_BASE var.base vmx
  let vmx := vmcs_write seg SEG_FIELD_LIMIT var.limit vmx
  vmcs_write seg SEG_FIELD_AR (vmx_segment_access_rights var) vmx

/-- `__vmx_set_segment`, which is `vmx_set_segment`. -/
def vmx_set_segment (cfg : Config) (var : KvmSegment) (seg : Fin 8) (vmx : VcpuVmx) : VcpuVmx :=
  let vmx := vmx_segment_cache_clear vmx
  let vmx := if vmx.vm86_active ∧ seg ≠ VCPU_SREG_LDTR then
      let vmx := { vmx with segs := Function.update vmx.segs seg var }
      if seg = VCPU_SREG_TR then vmcs_write seg SEG_FIELD_SEL var.selector vmx
      else if var.s ≠ 0 then fix_rmode_seg cfg seg (vmx.segs seg) vmx
      else vmx
    else vmx
  let vmx := vmcs_write seg SEG_FIELD_BASE var.base vmx
  let vmx := vmcs_write seg SEG_FIELD_LIMIT var.limit vmx
  let vmx := vmcs_write seg SEG_FIELD_SEL var.selector vmx
  let var := if cfg.is_unrestricted_guest ∧ seg ≠ VCPU_SREG_LDTR then
      { var with type := var.type ||| 0x1 } else var
  vmcs_write seg SEG_FIELD_AR (vmx_segment_access_rights var) vmx

def MSR_FS_BASE : BitVec 32 := 0xc0000100
def MSR_GS_BASE : BitVec 32 := 0xc0000101

/-- `vmx_set_msr`, as far as the segments depend on it. -/
def vmx_set_msr (index : BitVec 32) (data : BitVec 64) (vmx : VcpuVmx) : VcpuVmx :=
  if index = MSR_FS_BASE then vmcs_write VCPU_SREG_FS SEG_FIELD_BASE data vmx
  else if index = MSR_GS_BASE then vmcs_write VCPU_SREG_GS SEG_FIELD_BASE data vmx
  else vmx

/-- What `vmx_vcpu_reset` reads from the host. -/
structure HostSegments where
  segment : Fin 8 → KvmSegment
  cs_selector : BitVec 16
  tr : KvmSegment
  ldtr : KvmSegment
  fs_base : BitVec 64
  gs_base : BitVec 64

/-- `init_vmcs`, as far as the segments depend on it. -/
def init_vmcs (vmx : VcpuVmx) : VcpuVmx :=
  let vmx := vmcs_write VCPU_SREG_ES SEG_FIELD_BASE 0 vmx
  let vmx := vmcs_write VCPU_SREG_SS SEG_FIELD_BASE 0 vmx
  vmcs_write VCPU_SREG_DS SEG_FIELD_BASE 0 vmx

/-- The order in which `__vmx_vcpu_reset` sets the segments. -/
def reset_order : List (Fin 8) :=
  [VCPU_SREG_TR, VCPU_SREG_ES, VCPU_SREG_CS, VCPU_SREG_SS, VCPU_SREG_DS, VCPU_SREG_FS,
    VCPU_SREG_GS, VCPU_SREG_LDTR]

/-- `__vmx_vcpu_reset`. -/
def vcpu_reset_segments (cfg : Config) (host : HostSegments) (vmx : VcpuVmx) : VcpuVmx :=
  init_vmcs (reset_order.foldl (fun vmx seg => vmx_set_segment cfg (host.segment seg) seg vmx) vmx)

/-- `vmx_vcpu_reset`. -/
def vmx_vcpu_reset (cfg : Config) (host : HostSegments) (init_event : Bool) (vmx : VcpuVmx) :
    VcpuVmx :=
  let vmx := if !init_event then vcpu_reset_segments cfg host vmx else vmx
  let vmx := { vmx with vm86_active := false }
  let vmx := vmcs_write VCPU_SREG_CS SEG_FIELD_SEL host.cs_selector vmx
  let vmx := vmcs_write VCPU_SREG_CS SEG_FIELD_BASE 0 vmx
  let vmx := vmx_set_segment cfg host.tr VCPU_SREG_TR vmx
  let vmx := vmx_set_segment cfg host.ldtr VCPU_SREG_LDTR vmx
  let vmx := vmcs_write VCPU_SREG_FS SEG_FIELD_BASE host.fs_base vmx
  vmcs_write VCPU_SREG_GS SEG_FIELD_BASE host.gs_base vmx

/-! ## Runs -/

/-- One call, or an exit that leaves `vmcs` in the segment fields. -/
inductive Call where
  | set_segment (cfg : Config) (var : KvmSegment) (seg : Fin 8)
  | get_segment (seg : Fin 8)
  | set_msr (index : BitVec 32) (data : BitVec 64)
  | reset (cfg : Config) (host : HostSegments) (init_event : Bool)
  | exit (vmcs : Fin 8 → SegFields)

def call (vmx : VcpuVmx) : Call → VcpuVmx
  | .set_segment cfg var seg => vmx_set_segment cfg var seg vmx
  | .get_segment seg => (vmx_get_segment seg vmx).2
  | .set_msr index data => vmx_set_msr index data vmx
  | .reset cfg host init_event => vmx_vcpu_reset cfg host init_event vmx
  | .exit vmcs => { vmx with segments_avail := false, vmcs := vmcs }

/-- The sequences of calls from a new vCPU on, whose memory is zero. -/
def segSystem : Transition.System VcpuVmx Call where
  init vmx := vmx.bitmask = 0 ∧ vmx.vm86_active = false
  step vmx c vmx' := vmx' = call vmx c

/-- The field of a segment is taken from the cache. -/
def Cached (vmx : VcpuVmx) (seg : Fin 8) (field : SegField) : Prop :=
  vmx.segments_avail = true ∧ vmx.bitmask.getLsbD (cacheBit seg field) = true

/-- A write of MSR_FS_BASE or MSR_GS_BASE finds no base of that segment in the cache, or writes the
base that the VMCS has already. -/
def Meets (vmx : VcpuVmx) : Call → Prop
  | .set_msr index data =>
    (index = MSR_FS_BASE → Cached vmx VCPU_SREG_FS SEG_FIELD_BASE →
      data = vmx.vmcs VCPU_SREG_FS SEG_FIELD_BASE) ∧
    (index = MSR_GS_BASE → Cached vmx VCPU_SREG_GS SEG_FIELD_BASE →
      data = vmx.vmcs VCPU_SREG_GS SEG_FIELD_BASE)
  | _ => True

/-- The segment in the VMCS. -/
def vmcsSegment (seg : Fin 8) (vmx : VcpuVmx) : KvmSegment :=
  segment_of_fields (vmx.vmcs seg SEG_FIELD_BASE) (vmx.vmcs seg SEG_FIELD_LIMIT)
    (vmx.vmcs seg SEG_FIELD_SEL) (vmx.vmcs seg SEG_FIELD_AR)

/-- `vmx_get_segment` returns every segment as the VMCS has it. -/
def Fresh (vmx : VcpuVmx) : Prop := ∀ seg, (vmx_get_segment seg vmx).1 = vmcsSegment seg vmx

/-- What the cache holds is what the VMCS has. -/
def Coherent (vmx : VcpuVmx) : Prop :=
  ∀ seg field, Cached vmx seg field → vmx.seg seg field = vmx.vmcs seg field

/-! ## The bitmap -/

theorem cacheBit_lt (seg : Fin 8) (field : SegField) : cacheBit seg field < 32 := by
  unfold cacheBit SEG_FIELD_NR SegField.idx
  have hseg := seg.isLt
  cases field <;> simp only <;> omega

theorem cacheBit_inj {seg seg' : Fin 8} {field field' : SegField}
    (h : cacheBit seg field = cacheBit seg' field') : seg = seg' ∧ field = field' := by
  have hidx : ∀ f : SegField, f.idx < 4 := fun f => by cases f <;> decide
  have hf := hidx field
  have hf' := hidx field'
  unfold cacheBit SEG_FIELD_NR at h
  have hseg : seg = seg' := Fin.ext (by omega)
  have hfield : field.idx = field'.idx := by omega
  refine ⟨hseg, ?_⟩
  cases field <;> cases field' <;> first | rfl | cases hfield

/-- The bit of a field, tested and set. -/
theorem bit_mask (word : BitVec 32) (seg : Fin 8) (field : SegField) :
    (word &&& (1#32 <<< cacheBit seg field) != 0) = word.getLsbD (cacheBit seg field) ∧
    ∀ i, (word ||| (1#32 <<< cacheBit seg field)).getLsbD i =
      (word.getLsbD i || decide (i = cacheBit seg field)) := by
  have hlt := cacheBit_lt seg field
  rw [← BitVec.twoPow_eq]
  constructor
  · rw [BitVec.and_twoPow]
    cases hbit : word.getLsbD (cacheBit seg field) with
    | true =>
      have hne : BitVec.twoPow 32 (cacheBit seg field) ≠ 0 := by
        intro hzero
        have hone := congrArg (BitVec.getLsbD · (cacheBit seg field)) hzero
        simp [hlt] at hone
      simpa using hne
    | false => rfl
  · intro i
    rw [BitVec.getLsbD_or, BitVec.getLsbD_twoPow]
    by_cases hi : i = cacheBit seg field
    · simp [hi, hlt]
    · simp [hi, Ne.symm hi]

section Cache

variable {v : VcpuVmx} {seg : Fin 8} {field : SegField}

/-- **Test and set**: whether the field was cached, and it is now. -/
theorem test_set_spec (seg : Fin 8) (field : SegField) (v : VcpuVmx) :
    ((vmx_segment_cache_test_set seg field v).1 = true ↔ Cached v seg field) ∧
    (∀ seg' field', Cached (vmx_segment_cache_test_set seg field v).2 seg' field' ↔
      Cached v seg' field' ∨ (seg' = seg ∧ field' = field)) ∧
    (vmx_segment_cache_test_set seg field v).2.seg = v.seg ∧
    (vmx_segment_cache_test_set seg field v).2.vmcs = v.vmcs ∧
    (vmx_segment_cache_test_set seg field v).2.vm86_active = v.vm86_active := by
  have hbit : ∀ (word : BitVec 32) seg' field',
      (word ||| (1#32 <<< cacheBit seg field)).getLsbD (cacheBit seg' field') = true ↔
        word.getLsbD (cacheBit seg' field') = true ∨ (seg' = seg ∧ field' = field) := by
    intro word seg' field'
    rw [(bit_mask word seg field).2, Bool.or_eq_true, decide_eq_true_eq]
    refine or_congr_right ⟨cacheBit_inj, ?_⟩
    rintro ⟨rfl, rfl⟩
    rfl
  unfold vmx_segment_cache_test_set Cached
  dsimp only
  cases ha : v.segments_avail with
  | true =>
    simp only [Bool.true_eq_false, if_false]
    refine ⟨?_, fun seg' field' => ?_, trivial, trivial, trivial⟩
    · rw [(bit_mask _ seg field).1]
      simp
    · rw [hbit]
      simp [ha]
  | false =>
    simp only [if_true]
    refine ⟨?_, fun seg' field' => ?_, trivial, trivial, trivial⟩
    · rw [(bit_mask _ seg field).1]
      simp
    · rw [hbit]
      simp

/-- What a read leaves of the vCPU: all but the cache. -/
structure Kept (v v' : VcpuVmx) : Prop where
  coherent : Coherent v'
  vmcs : v'.vmcs = v.vmcs
  vm86_active : v'.vm86_active = v.vm86_active

/-- **A read** through a coherent cache returns the field of the VMCS. -/
theorem read_guest_seg_spec (h : Coherent v) (seg : Fin 8) (field : SegField) :
    (vmx_read_guest_seg field seg v).1 = v.vmcs seg field ∧
      Kept v (vmx_read_guest_seg field seg v).2 := by
  obtain ⟨hhit, hcached, hseg, hvmcs, hvm86⟩ := test_set_spec seg field v
  unfold vmx_read_guest_seg
  dsimp only
  generalize vmx_segment_cache_test_set seg field v = r at hhit hcached hseg hvmcs hvm86 ⊢
  cases hr : r.1 with
  | true =>
    -- a hit: the field is the one of the VMCS because it was coherent before
    have hold := hhit.mp hr
    simp only [if_true]
    refine ⟨by rw [hseg]; exact h seg field hold, ?_, hvmcs, hvm86⟩
    intro seg' field' hc
    rw [hseg, hvmcs]
    rcases (hcached seg' field').mp hc with hc | ⟨rfl, rfl⟩
    · exact h seg' field' hc
    · exact h seg' field' hold
  | false =>
    -- a miss: the field is read, and becomes the one that is cached in addition
    simp only [Bool.false_eq_true, if_false]
    refine ⟨by rw [Function.update_self, Function.update_self, hvmcs], ?_, hvmcs, hvm86⟩
    intro seg' field' hc
    dsimp only
    by_cases hs : seg' = seg
    · subst hs
      rw [Function.update_self]
      by_cases hf : field' = field
      · subst hf
        rw [Function.update_self]
      · rw [Function.update_of_ne hf, hseg, hvmcs]
        rcases (hcached seg' field').mp hc with hc | ⟨-, hf'⟩
        · exact h seg' field' hc
        · exact absurd hf' hf
    · rw [Function.update_of_ne hs, hseg, hvmcs]
      rcases (hcached seg' field').mp hc with hc | ⟨hs', -⟩
      · exact h seg' field' hc
      · exact absurd hs' hs

theorem Kept.trans {v v' v'' : VcpuVmx} (h : Kept v v') (h' : Kept v' v'') : Kept v v'' :=
  ⟨h'.coherent, h'.vmcs.trans h.vmcs, h'.vm86_active.trans h.vm86_active⟩

/-- **`vmx_get_segment`** through a coherent cache returns the segment in the VMCS. -/
theorem vmx_get_segment_spec (h : Coherent v) (hvm86 : v.vm86_active = false) (seg : Fin 8) :
    (vmx_get_segment seg v).1 = vmcsSegment seg v ∧ Kept v (vmx_get_segment seg v).2 := by
  unfold vmx_get_segment vmx_read_guest_seg_base vmx_read_guest_seg_limit
    vmx_read_guest_seg_selector vmx_read_guest_seg_ar
  rw [if_neg (by rw [hvm86]; simp)]
  obtain ⟨hbase, h₁⟩ := read_guest_seg_spec h seg SEG_FIELD_BASE
  obtain ⟨hlimit, h₂⟩ := read_guest_seg_spec h₁.coherent seg SEG_FIELD_LIMIT
  obtain ⟨hsel, h₃⟩ := read_guest_seg_spec h₂.coherent seg SEG_FIELD_SEL
  obtain ⟨har, h₄⟩ := read_guest_seg_spec h₃.coherent seg SEG_FIELD_AR
  refine ⟨?_, h₁.trans (h₂.trans (h₃.trans h₄))⟩
  dsimp only
  rw [hbase, hlimit, hsel, har, h₃.vmcs, h₂.vmcs, h₁.vmcs]
  rfl

/-- With nothing in the cache it is coherent. -/
theorem coherent_of_empty (h : v.bitmask = 0) : Coherent v := by
  rintro seg field ⟨-, hbit⟩
  rw [h] at hbit
  simp at hbit

@[simp] theorem vmcs_write_bitmask (seg : Fin 8) (field : SegField) (value : BitVec field.width)
    (v : VcpuVmx) : (vmcs_write seg field value v).bitmask = v.bitmask := rfl

@[simp] theorem vmcs_write_vm86_active (seg : Fin 8) (field : SegField)
    (value : BitVec field.width) (v : VcpuVmx) :
    (vmcs_write seg field value v).vm86_active = v.vm86_active := rfl

theorem vmcs_write_self (seg : Fin 8) (field : SegField) (value : BitVec field.width)
    (v : VcpuVmx) : (vmcs_write seg field value v).vmcs seg field = value := by
  unfold vmcs_write
  dsimp only
  rw [Function.update_self, Function.update_self]

theorem vmcs_write_ne {seg seg' : Fin 8} {field field' : SegField}
    (h : seg' = seg → field' ≠ field) (value : BitVec field.width) (v : VcpuVmx) :
    (vmcs_write seg field value v).vmcs seg' field' = v.vmcs seg' field' := by
  unfold vmcs_write
  dsimp only
  by_cases hs : seg' = seg
  · subst hs
    rw [Function.update_self, Function.update_of_ne (h rfl)]
  · rw [Function.update_of_ne hs]

/-- `vmx_set_segment` empties the cache. -/
theorem vmx_set_segment_empty (cfg : Config) (var : KvmSegment) (seg : Fin 8) (v : VcpuVmx) :
    (vmx_set_segment cfg var seg v).bitmask = 0 ∧
      (vmx_set_segment cfg var seg v).vm86_active = v.vm86_active := by
  have hfix : ∀ save u, (fix_rmode_seg cfg seg save u).bitmask = u.bitmask ∧
      (fix_rmode_seg cfg seg save u).vm86_active = u.vm86_active := fun _ _ => ⟨rfl, rfl⟩
  unfold vmx_set_segment
  simp only [vmcs_write_bitmask, vmcs_write_vm86_active]
  split
  · split
    · exact ⟨rfl, rfl⟩
    · split
      · rw [(hfix _ _).1, (hfix _ _).2]
        exact ⟨rfl, rfl⟩
      · exact ⟨rfl, rfl⟩
  · exact ⟨rfl, rfl⟩

/-- **A reset** empties the cache and leaves virtual-8086 mode. -/
theorem vmx_vcpu_reset_empty (cfg : Config) (host : HostSegments) (init_event : Bool)
    (v : VcpuVmx) : (vmx_vcpu_reset cfg host init_event v).bitmask = 0 ∧
      (vmx_vcpu_reset cfg host init_event v).vm86_active = false := by
  unfold vmx_vcpu_reset
  dsimp only
  simp only [vmcs_write_bitmask, vmcs_write_vm86_active, (vmx_set_segment_empty cfg _ _ _).1,
    (vmx_set_segment_empty cfg _ _ _).2, and_self]

/-- A field that is written past the cache keeps it coherent exactly if it was not cached or is the
same. -/
theorem write_coherent_iff (h : Coherent v) (seg : Fin 8) (field : SegField)
    (value : BitVec field.width) : Coherent (vmcs_write seg field value v) ↔
      (Cached v seg field → value = v.vmcs seg field) := by
  constructor
  · intro hafter hc
    have heq : v.seg seg field = _ := hafter seg field hc
    rw [vmcs_write_self] at heq
    rw [← heq]
    exact h seg field hc
  · intro hsame seg' field' hc
    have hc' : Cached v seg' field' := hc
    change v.seg seg' field' = _
    by_cases hat : seg' = seg ∧ field' = field
    · obtain ⟨rfl, rfl⟩ := hat
      rw [vmcs_write_self, hsame hc']
      exact h _ _ hc'
    · rw [vmcs_write_ne fun hs hf => hat ⟨hs, hf⟩]
      exact h _ _ hc'

/-- **A write of an MSR** keeps the cache coherent exactly if it meets the condition. -/
theorem set_msr_coherent_iff (h : Coherent v) (index : BitVec 32) (data : BitVec 64) :
    Coherent (vmx_set_msr index data v) ↔ Meets v (.set_msr index data) := by
  unfold vmx_set_msr Meets
  by_cases hfs : index = MSR_FS_BASE
  · have hgs : index ≠ MSR_GS_BASE := by
      rw [hfs]
      decide
    rw [if_pos hfs, write_coherent_iff h]
    exact ⟨fun hc => ⟨fun _ => hc, fun hno => absurd hno hgs⟩, fun hc => hc.1 hfs⟩
  · by_cases hgs : index = MSR_GS_BASE
    · rw [if_neg hfs, if_pos hgs, write_coherent_iff h]
      exact ⟨fun hc => ⟨fun hno => absurd hno hfs, fun _ => hc⟩, fun hc => hc.2 hgs⟩
    · rw [if_neg hfs, if_neg hgs]
      exact ⟨fun _ => ⟨fun hno => absurd hno hfs, fun hno => absurd hno hgs⟩, fun _ => h⟩

/-- **One call** that meets the condition keeps the cache coherent. -/
theorem call_coherent (h : Coherent v) (hvm86 : v.vm86_active = false) (c : Call)
    (hmeets : Meets v c) : Coherent (call v c) ∧ (call v c).vm86_active = false := by
  cases c with
  | set_segment cfg var seg =>
    obtain ⟨hempty, hsame⟩ := vmx_set_segment_empty cfg var seg v
    exact ⟨coherent_of_empty hempty, hsame.trans hvm86⟩
  | get_segment seg =>
    obtain ⟨-, hkept⟩ := vmx_get_segment_spec h hvm86 seg
    exact ⟨hkept.coherent, hkept.vm86_active.trans hvm86⟩
  | set_msr index data =>
    refine ⟨(set_msr_coherent_iff h index data).mpr hmeets, ?_⟩
    have hsame : (vmx_set_msr index data v).vm86_active = v.vm86_active := by
      unfold vmx_set_msr
      split
      · rfl
      · split
        · rfl
        · rfl
    exact hsame.trans hvm86
  | reset cfg host init_event =>
    obtain ⟨hempty, hoff⟩ := vmx_vcpu_reset_empty cfg host init_event v
    exact ⟨coherent_of_empty hempty, hoff⟩
  | exit vmcs =>
    refine ⟨?_, hvm86⟩
    rintro seg field ⟨hno, -⟩
    cases hno

end Cache

/-- **No stale segments.** In every sequence of `vmx_set_segment`, `vmx_get_segment`, `vmx_set_msr`,
`vmx_vcpu_reset` and exits from a new vCPU on, in which every write of MSR_FS_BASE or MSR_GS_BASE
finds no base of that segment in the cache or writes the base that is there: in every state
`vmx_get_segment` returns every segment as the VMCS has it. -/
theorem segments_fresh {s : VcpuVmx} (hrun : Transition.Run segSystem Meets s) : Fresh s := by
  have hinv : Coherent s ∧ s.vm86_active = false := by
    refine hrun.invariant (fun s => Coherent s ∧ s.vm86_active = false) ?_ ?_
    · rintro s ⟨hempty, hoff⟩
      exact ⟨coherent_of_empty hempty, hoff⟩
    · rintro s c s' ⟨hs, hoff⟩ hmeets rfl
      exact call_coherent hs hoff c hmeets
  exact fun seg => (vmx_get_segment_spec hinv.1 hinv.2 seg).1

/-- A vCPU whose memory is zero. -/
def zeroVcpu : VcpuVmx :=
  ⟨false, 0, fun _ _ => 0, fun _ _ => 0, false, fun _ => ⟨0, 0, 0, 0, 0, 0, 0, 0, 0, 0, 0, 0⟩⟩

/-- The base of FS is written, and then read. -/
theorem segments_fresh_fs : Fresh (call zeroVcpu (.set_msr MSR_FS_BASE 0x1000)) := by
  have hnot : ¬ Cached zeroVcpu VCPU_SREG_FS SEG_FIELD_BASE := fun h => by cases h.1
  have hmeets : Meets zeroVcpu (.set_msr MSR_FS_BASE 0x1000) :=
    ⟨fun _ hc => absurd hc hnot, fun hno => absurd hno (by decide)⟩
  exact segments_fresh (.step zeroVcpu (Call.set_msr MSR_FS_BASE 0x1000) _
    (.start _ ⟨rfl, rfl⟩) hmeets rfl)

/-- The base of FS is read, then written through the MSR, and read again: the old one. -/
theorem fs_base_stale :
    Transition.Run segSystem (fun _ _ => True)
      (call (call zeroVcpu (.get_segment VCPU_SREG_FS)) (.set_msr MSR_FS_BASE 0x1000)) ∧
    (vmx_get_segment VCPU_SREG_FS (call (call zeroVcpu (.get_segment VCPU_SREG_FS))
      (.set_msr MSR_FS_BASE 0x1000))).1.base = 0 ∧
    ¬ Fresh (call (call zeroVcpu (.get_segment VCPU_SREG_FS)) (.set_msr MSR_FS_BASE 0x1000)) := by
  have hstale : (vmx_get_segment VCPU_SREG_FS (call (call zeroVcpu (.get_segment VCPU_SREG_FS))
      (.set_msr MSR_FS_BASE 0x1000))).1.base = 0 := by decide
  refine ⟨?_, hstale, fun hfresh => ?_⟩
  · exact .step _ (Call.set_msr MSR_FS_BASE 0x1000) _
      (.step _ (Call.get_segment VCPU_SREG_FS) _ (.start zeroVcpu ⟨rfl, rfl⟩) trivial rfl)
      trivial rfl
  · rw [hfresh VCPU_SREG_FS] at hstale
    exact absurd hstale (by decide)

end Svmx.SegCache
