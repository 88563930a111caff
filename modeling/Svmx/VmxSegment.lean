/-
Setting a segment and getting it again (`vmx_set_segment` and `vmx_get_segment`).

Outside virtual-8086 mode, and for LDTR in it, a segment comes back through the VMCS, with `present`
and `unusable` made to exclude each other (`normalise`). In virtual-8086 mode the other registers come
back from `rmode.segs`, where they are kept as they were set. `vmx_set_segment` empties the whole
cache, so what is got of the other registers stays the same if the cache held what the VMCS holds
(`vmx_segment_comes_back`).
-/
import Svmx.BitFields
import Svmx.SegCache

set_option autoImplicit false

namespace Svmx.SegCache

open BitFields SegField

/-! ## What is set and what is got -/

/-- A segment whose fields are in their ranges. -/
structure KvmSegment.InRange (v : KvmSegment) : Prop where
  type : v.type.toNat < 16
  present : v.present.toNat < 2
  dpl : v.dpl.toNat < 4
  db : v.db.toNat < 2
  s : v.s.toNat < 2
  l : v.l.toNat < 2
  g : v.g.toNat < 2
  avl : v.avl.toNat < 2
  unusable : v.unusable.toNat < 2

/-- A segment that is unusable or not present becomes unusable and not present. -/
def normalise (v : KvmSegment) : KvmSegment :=
  if v.unusable ≠ 0 ∨ v.present = 0 then { v with unusable := 1, present := 0 }
  else { v with unusable := 0, present := 1 }

/-- The segment that `vmx_get_segment` returns if the cache holds what the VMCS holds. -/
def segmentOf (seg : Fin 8) (vmx : VcpuVmx) : KvmSegment :=
  if vmx.vm86_active ∧ seg ≠ VCPU_SREG_LDTR then
    let var := vmx.segs seg
    if seg = VCPU_SREG_TR ∨ var.selector = vmx.vmcs seg SEG_FIELD_SEL then var
    else { var with base := vmx.vmcs seg SEG_FIELD_BASE, selector := vmx.vmcs seg SEG_FIELD_SEL }
  else vmcsSegment seg vmx

theorem normalise_idem (v : KvmSegment) : normalise (normalise v) = normalise v := by
  unfold normalise
  by_cases h : v.unusable ≠ 0 ∨ v.present = 0
  · rw [if_pos h]
    exact if_pos (Or.inr rfl)
  · rw [if_neg h]
    refine if_neg ?_
    rintro (hno | hno)
    · exact hno rfl
    · cases hno

/-! ## The access rights -/

section AccessRights

variable {v : KvmSegment}

/-- The bit that says that a segment is unusable. -/
def unusableBit (v : KvmSegment) : BitVec 8 := if v.unusable ≠ 0 ∨ v.present = 0 then 1 else 0

/-- The access rights as values at their places. -/
theorem access_rights_eq (v : KvmSegment) : vmx_segment_access_rights v =
    put 32 0 4 v.type ||| put 32 4 1 v.s ||| put 32 5 2 v.dpl ||| put 32 7 1 v.present |||
      put 32 12 1 v.avl ||| put 32 13 1 v.l ||| put 32 14 1 v.db ||| put 32 15 1 v.g |||
      put 32 16 1 (unusableBit v) := by
  have htype : put 32 0 4 v.type = (v.type &&& 15).zeroExtend 32 := BitVec.shiftLeft_zero _
  have hun : put 32 16 1 (unusableBit v) =
      ((if v.unusable ≠ 0 ∨ v.present = 0 then 1 else 0 : ℕ) <<< 16 : ℕ) := by
    unfold unusableBit
    split
    · rfl
    · rfl
  have hbit : ∀ (off : ℕ) (x : BitVec 8), put 32 off 1 x = (x &&& 1).zeroExtend 32 <<< off :=
    fun _ _ => rfl
  have hdpl : put 32 5 2 v.dpl = (v.dpl &&& 3).zeroExtend 32 <<< 5 := rfl
  rw [htype, hun, hdpl, hbit, hbit, hbit, hbit, hbit, hbit, vmx_segment_access_rights]

/-- A value in its range is read back from the access rights. -/
theorem take_access_rights (h : v.InRange) :
    take 8 0 4 (vmx_segment_access_rights v) = v.type ∧
    take 8 4 1 (vmx_segment_access_rights v) = v.s ∧
    take 8 5 2 (vmx_segment_access_rights v) = v.dpl ∧
    take 8 12 1 (vmx_segment_access_rights v) = v.avl ∧
    take 8 13 1 (vmx_segment_access_rights v) = v.l ∧
    take 8 14 1 (vmx_segment_access_rights v) = v.db ∧
    take 8 15 1 (vmx_segment_access_rights v) = v.g ∧
    take 8 16 1 (vmx_segment_access_rights v) = unusableBit v := by
  have htype : Fits 4 v.type := fits_of_lt h.type
  have hs : Fits 1 v.s := fits_of_lt h.s
  have hdpl : Fits 2 v.dpl := fits_of_lt h.dpl
  have havl : Fits 1 v.avl := fits_of_lt h.avl
  have hl : Fits 1 v.l := fits_of_lt h.l
  have hdb : Fits 1 v.db := fits_of_lt h.db
  have hg : Fits 1 v.g := fits_of_lt h.g
  have hun : Fits 1 (unusableBit v) := by
    unfold unusableBit
    split
    · exact fits_of_lt (by decide)
    · exact fits_of_lt (by decide)
  rw [access_rights_eq]
  simp (disch := omega) only [take_or, take_put_apart]
  simp (disch := omega) only [take_put htype, take_put hs, take_put hdpl, take_put havl,
    take_put hl, take_put hdb, take_put hg, take_put hun, BitVec.or_zero, BitVec.zero_or, and_self]

/-- **The access rights, read back** as a segment, are the normalised segment. -/
theorem segment_of_access_rights (h : v.InRange) :
    segment_of_fields v.base v.limit v.selector (vmx_segment_access_rights v) = normalise v := by
  have htake := take_access_rights h
  generalize vmx_segment_access_rights v = ar at htake
  obtain ⟨htype, hs, hdpl, havl, hl, hdb, hg, hun⟩ := htake
  have htype' : ((ar &&& 15).truncate 8 : BitVec 8) = v.type := by
    rw [← htype, take_bottom]
    rfl
  have hfields : segment_of_fields v.base v.limit v.selector ar =
      { v with unusable := unusableBit v, present := if unusableBit v = 0 then 1 else 0 } := by
    have hs' : (((ar >>> 4) &&& 1).truncate 8 : BitVec 8) = v.s := hs
    have hdpl' : (((ar >>> 5) &&& 3).truncate 8 : BitVec 8) = v.dpl := hdpl
    have havl' : (((ar >>> 12) &&& 1).truncate 8 : BitVec 8) = v.avl := havl
    have hl' : (((ar >>> 13) &&& 1).truncate 8 : BitVec 8) = v.l := hl
    have hdb' : (((ar >>> 14) &&& 1).truncate 8 : BitVec 8) = v.db := hdb
    have hg' : (((ar >>> 15) &&& 1).truncate 8 : BitVec 8) = v.g := hg
    have hun' : (((ar >>> 16) &&& 1).truncate 8 : BitVec 8) = unusableBit v := hun
    unfold segment_of_fields
    dsimp only
    rw [htype', hs', hdpl', havl', hl', hdb', hg', hun']
  rw [hfields]
  unfold normalise unusableBit
  split
  · rfl
  · rfl

end AccessRights

/-! ## Through the VMCS and the cache -/

section Segments

variable {v : VcpuVmx} {cfg : Config} {seg seg' : Fin 8}

/-- **`vmx_get_segment`** through a coherent cache, in any mode. -/
theorem vmx_get_segment_eq (h : Coherent v) (seg : Fin 8) :
    (vmx_get_segment seg v).1 = segmentOf seg v := by
  by_cases hmode : v.vm86_active ∧ seg ≠ VCPU_SREG_LDTR
  · unfold vmx_get_segment segmentOf vmx_read_guest_seg_selector vmx_read_guest_seg_base
    rw [if_pos hmode, if_pos hmode]
    dsimp only
    by_cases htr : seg = VCPU_SREG_TR
    · rw [if_pos htr, if_pos (Or.inl htr)]
    · obtain ⟨hsel, h₁⟩ := read_guest_seg_spec h seg SEG_FIELD_SEL
      obtain ⟨hbase, h₂⟩ := read_guest_seg_spec h₁.coherent seg SEG_FIELD_BASE
      obtain ⟨hsel', -⟩ := read_guest_seg_spec h₂.coherent seg SEG_FIELD_SEL
      rw [h₂.vmcs, h₁.vmcs] at hsel'
      rw [h₁.vmcs] at hbase
      rw [if_neg htr, hsel, hbase, hsel']
      by_cases hsame : (v.segs seg).selector = v.vmcs seg SEG_FIELD_SEL
      · rw [if_pos hsame, if_pos (Or.inr hsame)]
      · rw [if_neg hsame, if_neg (not_or.mpr ⟨htr, hsame⟩)]
  · unfold vmx_get_segment segmentOf vmx_read_guest_seg_base vmx_read_guest_seg_limit
      vmx_read_guest_seg_selector vmx_read_guest_seg_ar
    rw [if_neg hmode, if_neg hmode]
    obtain ⟨hbase, h₁⟩ := read_guest_seg_spec h seg SEG_FIELD_BASE
    obtain ⟨hlimit, h₂⟩ := read_guest_seg_spec h₁.coherent seg SEG_FIELD_LIMIT
    obtain ⟨hsel, h₃⟩ := read_guest_seg_spec h₂.coherent seg SEG_FIELD_SEL
    obtain ⟨har, -⟩ := read_guest_seg_spec h₃.coherent seg SEG_FIELD_AR
    dsimp only
    rw [hbase, hlimit, hsel, har, h₃.vmcs, h₂.vmcs, h₁.vmcs]
    rfl

/-- What two vCPUs have of one register. -/
structure SameSegment (seg : Fin 8) (v v' : VcpuVmx) : Prop where
  vm86_active : v'.vm86_active = v.vm86_active
  segs : v'.segs seg = v.segs seg
  vmcs : ∀ field, v'.vmcs seg field = v.vmcs seg field

theorem SameSegment.segmentOf_eq {v' : VcpuVmx} (h : SameSegment seg v v') :
    segmentOf seg v' = segmentOf seg v := by
  unfold segmentOf vmcsSegment
  simp only [h.vm86_active, h.segs, h.vmcs]

theorem vmcs_write_other (h : seg' ≠ seg) (field : SegField) (value : BitVec field.width)
    (v : VcpuVmx) : SameSegment seg' v (vmcs_write seg field value v) :=
  ⟨rfl, rfl, fun _ => vmcs_write_ne (fun hs => absurd hs h) value v⟩

theorem SameSegment.trans {v' v'' : VcpuVmx} (h : SameSegment seg v v')
    (h' : SameSegment seg v' v'') : SameSegment seg v v'' :=
  ⟨h'.vm86_active.trans h.vm86_active, h'.segs.trans h.segs,
    fun field => (h'.vmcs field).trans (h.vmcs field)⟩

/-- The first part of `vmx_set_segment`, which is for virtual-8086 mode. -/
def set_rmode_segment (cfg : Config) (var : KvmSegment) (seg : Fin 8) (vmx : VcpuVmx) : VcpuVmx :=
  let vmx := vmx_segment_cache_clear vmx
  if vmx.vm86_active ∧ seg ≠ VCPU_SREG_LDTR then
    let vmx := { vmx with segs := Function.update vmx.segs seg var }
    if seg = VCPU_SREG_TR then vmcs_write seg SEG_FIELD_SEL var.selector vmx
    else if var.s ≠ 0 then fix_rmode_seg cfg seg (vmx.segs seg) vmx
    else vmx
  else vmx

/-- The second part, without unrestricted guest. -/
theorem vmx_set_segment_eq (hcfg : cfg.is_unrestricted_guest = false) (var : KvmSegment)
    (seg : Fin 8) (v : VcpuVmx) : vmx_set_segment cfg var seg v =
      vmcs_write seg SEG_FIELD_AR (vmx_segment_access_rights var)
        (vmcs_write seg SEG_FIELD_SEL var.selector
          (vmcs_write seg SEG_FIELD_LIMIT var.limit
            (vmcs_write seg SEG_FIELD_BASE var.base (set_rmode_segment cfg var seg v)))) := by
  unfold vmx_set_segment
  dsimp only
  rw [if_neg (by rw [hcfg]; simp)]
  rfl

/-- The first part leaves the other registers alone. -/
theorem set_rmode_segment_other (h : seg' ≠ seg) (var : KvmSegment) (v : VcpuVmx) :
    SameSegment seg' v (set_rmode_segment cfg var seg v) := by
  have hclear : SameSegment seg' v (vmx_segment_cache_clear v) := ⟨rfl, rfl, fun _ => rfl⟩
  have hsave : SameSegment seg' v { vmx_segment_cache_clear v with
      segs := Function.update (vmx_segment_cache_clear v).segs seg var } :=
    ⟨rfl, Function.update_of_ne h .., fun _ => rfl⟩
  unfold set_rmode_segment
  dsimp only
  split
  · split
    · exact hsave.trans (vmcs_write_other h ..)
    · split
      · unfold fix_rmode_seg
        exact (((hsave.trans (vmcs_write_other h ..)).trans (vmcs_write_other h ..)).trans
          (vmcs_write_other h ..)).trans (vmcs_write_other h ..)
      · exact hsave
  · exact hclear

/-- In virtual-8086 mode the first part keeps the segment. -/
theorem set_rmode_segment_segs (hmode : v.vm86_active ∧ seg ≠ VCPU_SREG_LDTR) (var : KvmSegment) :
    (set_rmode_segment cfg var seg v).segs seg = var := by
  have hself : Function.update v.segs seg var seg = var := Function.update_self ..
  have hmode' : (vmx_segment_cache_clear v).vm86_active ∧ seg ≠ VCPU_SREG_LDTR := hmode
  unfold set_rmode_segment
  dsimp only
  rw [if_pos hmode']
  split
  · exact hself
  · split
    · exact hself
    · exact hself

/-- **The segment in the VMCS** after it was set. -/
theorem vmx_set_segment_vmcs (hcfg : cfg.is_unrestricted_guest = false) (var : KvmSegment)
    (seg : Fin 8) (v : VcpuVmx) :
    (vmx_set_segment cfg var seg v).vmcs seg SEG_FIELD_BASE = var.base ∧
    (vmx_set_segment cfg var seg v).vmcs seg SEG_FIELD_LIMIT = var.limit ∧
    (vmx_set_segment cfg var seg v).vmcs seg SEG_FIELD_SEL = var.selector ∧
    (vmx_set_segment cfg var seg v).vmcs seg SEG_FIELD_AR = vmx_segment_access_rights var := by
  have hne : ∀ {field field' : SegField}, field' ≠ field → seg = seg → field' ≠ field :=
    fun h _ => h
  rw [vmx_set_segment_eq hcfg]
  refine ⟨?_, ?_, ?_, vmcs_write_self ..⟩
  · rw [vmcs_write_ne (hne (by decide)), vmcs_write_ne (hne (by decide)),
      vmcs_write_ne (hne (by decide))]
    exact vmcs_write_self ..
  · rw [vmcs_write_ne (hne (by decide)), vmcs_write_ne (hne (by decide))]
    exact vmcs_write_self ..
  · rw [vmcs_write_ne (hne (by decide))]
    exact vmcs_write_self ..

/-- The other registers, after one was set. -/
theorem vmx_set_segment_other (hcfg : cfg.is_unrestricted_guest = false) (h : seg' ≠ seg)
    (var : KvmSegment) (v : VcpuVmx) : SameSegment seg' v (vmx_set_segment cfg var seg v) := by
  rw [vmx_set_segment_eq hcfg]
  exact ((((set_rmode_segment_other h var v).trans (vmcs_write_other h ..)).trans
    (vmcs_write_other h ..)).trans (vmcs_write_other h ..)).trans (vmcs_write_other h ..)

end Segments

/-- **A segment comes back.** Without unrestricted guest, for every register, every segment whose
fields are in their ranges and every vCPU: in virtual-8086 mode a register other than LDTR comes back
as it was set, and otherwise normalised; normalising again changes nothing; and if the cache held what
the VMCS holds, what is got of every other register stays the same. -/
theorem vmx_segment_comes_back {cfg : Config} (hcfg : cfg.is_unrestricted_guest = false)
    {v : KvmSegment} (hv : v.InRange) (seg : Fin 8) (vmx : VcpuVmx) :
    (vmx_get_segment seg (vmx_set_segment cfg v seg vmx)).1 =
        (if vmx.vm86_active ∧ seg ≠ VCPU_SREG_LDTR then v else normalise v) ∧
      normalise (normalise v) = normalise v ∧
      (Coherent vmx → ∀ seg', seg' ≠ seg →
        (vmx_get_segment seg' (vmx_set_segment cfg v seg vmx)).1 = (vmx_get_segment seg' vmx).1) := by
  obtain ⟨hempty, hvm86⟩ := vmx_set_segment_empty cfg v seg vmx
  have hcoherent := coherent_of_empty hempty
  obtain ⟨hbase, hlimit, hsel, har⟩ := vmx_set_segment_vmcs hcfg v seg vmx
  refine ⟨?_, normalise_idem v, fun h seg' hne => ?_⟩
  · rw [vmx_get_segment_eq hcoherent]
    unfold segmentOf
    rw [hvm86]
    by_cases hmode : vmx.vm86_active ∧ seg ≠ VCPU_SREG_LDTR
    · have hsegs : (vmx_set_segment cfg v seg vmx).segs seg = v := by
        rw [vmx_set_segment_eq hcfg]
        exact set_rmode_segment_segs hmode v
      rw [if_pos hmode, if_pos hmode]
      dsimp only
      rw [hsegs, hsel, if_pos (Or.inr rfl)]
    · rw [if_neg hmode, if_neg hmode, vmcsSegment, hbase, hlimit, hsel, har]
      exact segment_of_access_rights hv
  · rw [vmx_get_segment_eq hcoherent, vmx_get_segment_eq h]
    exact (vmx_set_segment_other hcfg hne v vmx).segmentOf_eq

/-- Without unrestricted guest, and with emulation of invalid guest state. -/
def plainConfig : Config := ⟨false, true⟩

/-- A data segment that is present and unusable. -/
def oddSegment : KvmSegment where
  base := 0x1000
  limit := 0xffff
  selector := 0x10
  type := 3
  present := 1
  dpl := 0
  db := 0
  s := 1
  l := 0
  g := 0
  avl := 0
  unusable := 1

theorem oddSegment_inRange : oddSegment.InRange :=
  ⟨by decide, by decide, by decide, by decide, by decide, by decide, by decide, by decide, by decide⟩

/-- It comes back in DS as not present, and SS is as before. -/
theorem odd_segment_normalised :
    (vmx_get_segment VCPU_SREG_DS (vmx_set_segment plainConfig oddSegment VCPU_SREG_DS
      zeroVcpu)).1 = { oddSegment with present := 0 } ∧
    (vmx_get_segment VCPU_SREG_SS (vmx_set_segment plainConfig oddSegment VCPU_SREG_DS
      zeroVcpu)).1 = (vmx_get_segment VCPU_SREG_SS zeroVcpu).1 := by
  have hcfg : plainConfig.is_unrestricted_guest = false := rfl
  obtain ⟨hback, -, hothers⟩ :=
    vmx_segment_comes_back hcfg oddSegment_inRange VCPU_SREG_DS zeroVcpu
  exact ⟨hback, hothers (coherent_of_empty rfl) VCPU_SREG_SS (by decide)⟩

/-- In virtual-8086 mode it comes back as it was set; and where `vmx_set_msr` has left a stale base of
FS in the cache, setting DS changes what is got of FS. -/
theorem odd_segment_kept :
    (vmx_get_segment VCPU_SREG_DS (vmx_set_segment plainConfig oddSegment VCPU_SREG_DS
      { zeroVcpu with vm86_active := true })).1 = oddSegment ∧ normalise oddSegment ≠ oddSegment ∧
    (vmx_get_segment VCPU_SREG_FS (vmx_set_segment plainConfig oddSegment VCPU_SREG_DS
      (call (call zeroVcpu (.get_segment VCPU_SREG_FS)) (.set_msr MSR_FS_BASE 0x1000)))).1 ≠
    (vmx_get_segment VCPU_SREG_FS
      (call (call zeroVcpu (.get_segment VCPU_SREG_FS)) (.set_msr MSR_FS_BASE 0x1000))).1 := by
  refine ⟨by decide, by decide, by decide⟩

end Svmx.SegCache
