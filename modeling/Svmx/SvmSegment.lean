/-
The segments of an SVM guest (`svm_get_segment`, `svm_set_segment` and `svm_get_cpl`).

`svm_set_segment` packs the attributes of a segment into one word of the VMCB and `svm_get_segment`
takes them out again. The word has no bit for `unusable`: a segment counts as unusable if it is not
present or its type is 0, and type 0, a read-only data segment, is legal. The selector is written and
never read. So a usable segment comes back exactly if the caller had its selector already and its
type is not 0 (`svm_segment_right_iff`).
-/
import Svmx.BitFields
import Svmx.SegCache

set_option autoImplicit false

namespace Svmx.SvmSegment

open BitFields SegCache

/-! ## The VMCB -/

/-- `struct vmcb_seg`. -/
structure VmcbSeg where
  selector : BitVec 16
  attrib : BitVec 16
  limit : BitVec 32
  base : BitVec 64

/-- The part of `struct vmcb_save_area` that is about segments: each segment by its register, as
`svm_seg` finds it, and the CPL. -/
structure VmcbSaveArea where
  seg : Fin 8 → VmcbSeg
  cpl : BitVec 8

def SVM_SELECTOR_S_SHIFT : ℕ := 4
def SVM_SELECTOR_DPL_SHIFT : ℕ := 5
def SVM_SELECTOR_P_SHIFT : ℕ := 7
def SVM_SELECTOR_AVL_SHIFT : ℕ := 8
def SVM_SELECTOR_L_SHIFT : ℕ := 9
def SVM_SELECTOR_DB_SHIFT : ℕ := 10
def SVM_SELECTOR_G_SHIFT : ℕ := 11

/-- `svm_get_segment`; `var` is what the caller's variable held. -/
def svm_get_segment (var : KvmSegment) (seg : Fin 8) (save : VmcbSaveArea) : KvmSegment :=
  let s := save.seg seg
  let type : BitVec 8 := (s.attrib &&& 0xf).truncate 8
  let present : BitVec 8 := ((s.attrib >>> SVM_SELECTOR_P_SHIFT) &&& 1).truncate 8
  { var with
    base := s.base
    limit := s.limit
    type := type
    s := ((s.attrib >>> SVM_SELECTOR_S_SHIFT) &&& 1).truncate 8
    dpl := ((s.attrib >>> SVM_SELECTOR_DPL_SHIFT) &&& 3).truncate 8
    present := present
    avl := ((s.attrib >>> SVM_SELECTOR_AVL_SHIFT) &&& 1).truncate 8
    l := ((s.attrib >>> SVM_SELECTOR_L_SHIFT) &&& 1).truncate 8
    db := ((s.attrib >>> SVM_SELECTOR_DB_SHIFT) &&& 1).truncate 8
    g := ((s.attrib >>> SVM_SELECTOR_G_SHIFT) &&& 1).truncate 8
    unusable := if present = 0 ∨ type = 0 then 1 else 0 }

/-- The attributes of a segment that is not unusable. -/
def svm_attrib (var : KvmSegment) : BitVec 16 :=
  (var.type &&& 0xf).zeroExtend 16 |||
    ((var.s &&& 1).zeroExtend 16 <<< SVM_SELECTOR_S_SHIFT) |||
    ((var.dpl &&& 3).zeroExtend 16 <<< SVM_SELECTOR_DPL_SHIFT) |||
    ((var.present &&& 1).zeroExtend 16 <<< SVM_SELECTOR_P_SHIFT) |||
    ((var.avl &&& 1).zeroExtend 16 <<< SVM_SELECTOR_AVL_SHIFT) |||
    ((var.l &&& 1).zeroExtend 16 <<< SVM_SELECTOR_L_SHIFT) |||
    ((var.db &&& 1).zeroExtend 16 <<< SVM_SELECTOR_DB_SHIFT) |||
    ((var.g &&& 1).zeroExtend 16 <<< SVM_SELECTOR_G_SHIFT)

/-- `svm_set_segment`. -/
def svm_set_segment (var : KvmSegment) (seg : Fin 8) (save : VmcbSaveArea) : VmcbSaveArea :=
  let save := { save with
    seg := Function.update save.seg seg
      { base := var.base
        limit := var.limit
        selector := var.selector
        attrib := if var.unusable ≠ 0 then 0 else svm_attrib var } }
  if seg = VCPU_SREG_CS then
    { save with
      cpl := (((save.seg VCPU_SREG_CS).attrib >>> SVM_SELECTOR_DPL_SHIFT) &&& 3).truncate 8 }
  else save

/-- `svm_get_cpl`. -/
def svm_get_cpl (save : VmcbSaveArea) : BitVec 8 := save.cpl

/-! ## Reading back -/

/-- A usable segment: present, and every field in its range. -/
structure Usable (v : KvmSegment) : Prop where
  type : v.type.toNat < 16
  s : v.s.toNat < 2
  dpl : v.dpl.toNat < 4
  present : v.present = 1
  avl : v.avl.toNat < 2
  l : v.l.toNat < 2
  db : v.db.toNat < 2
  g : v.g.toNat < 2
  unusable : v.unusable = 0

/-- `svm_get_segment` after `svm_set_segment` returns the segment, whose DPL is the CPL if it was
CS. -/
def SegmentRight (var v : KvmSegment) (seg : Fin 8) (save : VmcbSaveArea) : Prop :=
  svm_get_segment var seg (svm_set_segment v seg save) = v ∧
    (seg = VCPU_SREG_CS → svm_get_cpl (svm_set_segment v seg save) = v.dpl)

section Attrib

variable {v : KvmSegment}

/-- The attributes as values at their places. -/
theorem svm_attrib_eq (v : KvmSegment) : svm_attrib v =
    put 16 0 4 v.type ||| put 16 4 1 v.s ||| put 16 5 2 v.dpl ||| put 16 7 1 v.present |||
      put 16 8 1 v.avl ||| put 16 9 1 v.l ||| put 16 10 1 v.db ||| put 16 11 1 v.g := by
  have htype : put 16 0 4 v.type = (v.type &&& 0xf).zeroExtend 16 := BitVec.shiftLeft_zero _
  rw [htype]
  rfl

/-- A value in its range is read back from the attributes. -/
theorem take_attrib (h : Usable v) :
    take 8 0 4 (svm_attrib v) = v.type ∧ take 8 4 1 (svm_attrib v) = v.s ∧
    take 8 5 2 (svm_attrib v) = v.dpl ∧ take 8 7 1 (svm_attrib v) = v.present ∧
    take 8 8 1 (svm_attrib v) = v.avl ∧ take 8 9 1 (svm_attrib v) = v.l ∧
    take 8 10 1 (svm_attrib v) = v.db ∧ take 8 11 1 (svm_attrib v) = v.g := by
  have htype : Fits 4 v.type := fits_of_lt h.type
  have hs : Fits 1 v.s := fits_of_lt h.s
  have hdpl : Fits 2 v.dpl := fits_of_lt h.dpl
  have hpresent : Fits 1 v.present := by
    rw [h.present]
    exact fits_of_lt (by decide)
  have havl : Fits 1 v.avl := fits_of_lt h.avl
  have hl : Fits 1 v.l := fits_of_lt h.l
  have hdb : Fits 1 v.db := fits_of_lt h.db
  have hg : Fits 1 v.g := fits_of_lt h.g
  rw [svm_attrib_eq]
  simp (disch := omega) only [take_or, take_put_apart]
  simp (disch := omega) only [take_put htype, take_put hs, take_put hdpl, take_put hpresent,
    take_put havl, take_put hl, take_put hdb, take_put hg, BitVec.or_zero, BitVec.zero_or, and_self]

end Attrib

/-- **What comes back.** Every field of a usable segment but the selector, which is the caller's, and
`unusable`, which is the type being 0. -/
theorem svm_get_set_segment {v : KvmSegment} (h : Usable v) (var : KvmSegment) (seg : Fin 8)
    (save : VmcbSaveArea) : svm_get_segment var seg (svm_set_segment v seg save) =
      { v with selector := var.selector, unusable := if v.type = 0 then 1 else 0 } := by
  have hseg : (svm_set_segment v seg save).seg seg =
      { base := v.base, limit := v.limit, selector := v.selector, attrib := svm_attrib v } := by
    have hself : (svm_set_segment v seg save).seg seg =
        { base := v.base, limit := v.limit, selector := v.selector,
          attrib := if v.unusable ≠ 0 then 0 else svm_attrib v } := by
      by_cases hcs : seg = VCPU_SREG_CS
      · simp only [svm_set_segment, if_pos hcs, Function.update_self]
      · simp only [svm_set_segment, if_neg hcs, Function.update_self]
    rw [hself, if_neg (not_not.mpr h.unusable)]
  obtain ⟨htype, hs, hdpl, hpresent, havl, hl, hdb, hg⟩ := take_attrib h
  have htype' : (((svm_attrib v) &&& 0xf).truncate 8 : BitVec 8) = v.type := by
    rw [← htype, take_bottom]
    rfl
  have hpresent' : (((svm_attrib v >>> SVM_SELECTOR_P_SHIFT) &&& 1).truncate 8 : BitVec 8) =
      v.present := hpresent
  unfold svm_get_segment
  rw [hseg]
  dsimp only
  rw [htype', hpresent', h.present]
  congr 1
  exact if_congr (or_iff_right (by decide)) rfl rfl

/-- **When a usable segment comes back.** For every register, every usable segment and whatever the
caller's variable and the VMCB held before: exactly if the variable held the selector already and the
type is not 0. -/
theorem svm_segment_right_iff {v : KvmSegment} (h : Usable v) (var : KvmSegment) (seg : Fin 8)
    (save : VmcbSaveArea) :
    SegmentRight var v seg save ↔ var.selector = v.selector ∧ v.type ≠ 0 := by
  unfold SegmentRight
  rw [svm_get_set_segment h]
  have hcpl : seg = VCPU_SREG_CS → svm_get_cpl (svm_set_segment v seg save) = v.dpl := by
    rintro rfl
    have hdpl := (take_attrib h).2.2.1
    unfold svm_get_cpl svm_set_segment
    rw [if_pos rfl]
    dsimp only
    rw [Function.update_self, if_neg (not_not.mpr h.unusable)]
    exact hdpl
  constructor
  · rintro ⟨hsame, -⟩
    have hsel := congrArg KvmSegment.selector hsame
    refine ⟨hsel, fun hzero => ?_⟩
    have hun := congrArg KvmSegment.unusable hsame
    dsimp only at hun
    rw [if_pos hzero, h.unusable] at hun
    cases hun
  · rintro ⟨hsel, htype⟩
    refine ⟨?_, hcpl⟩
    rw [hsel, if_neg htype, ← h.unusable]

/-- A flat code segment of ring 3. -/
def userCode : KvmSegment where
  base := 0
  limit := 0xffffffff
  selector := 0x33
  type := 11
  present := 1
  dpl := 3
  db := 0
  s := 1
  l := 1
  g := 1
  avl := 0
  unusable := 0

/-- A VMCB whose memory is zero. -/
def zeroSave : VmcbSaveArea := ⟨fun _ => ⟨0, 0, 0, 0⟩, 0⟩

theorem userCode_usable : Usable userCode :=
  ⟨by decide, by decide, by decide, rfl, by decide, by decide, by decide, by decide, rfl⟩

/-- It comes back in a variable that holds its selector. -/
theorem user_code_comes_back : SegmentRight userCode userCode VCPU_SREG_CS zeroSave :=
  (svm_segment_right_iff userCode_usable userCode VCPU_SREG_CS zeroSave).mpr ⟨rfl, by decide⟩

/-- A variable that holds selector 0 keeps it. -/
theorem user_code_loses_selector :
    (svm_get_segment { userCode with selector := 0 } VCPU_SREG_CS
      (svm_set_segment userCode VCPU_SREG_CS zeroSave)).selector = 0 ∧
    ¬ SegmentRight { userCode with selector := 0 } userCode VCPU_SREG_CS zeroSave := by
  have hsel : (svm_get_segment { userCode with selector := 0 } VCPU_SREG_CS
      (svm_set_segment userCode VCPU_SREG_CS zeroSave)).selector = 0 := rfl
  refine ⟨hsel, fun hright => ?_⟩
  rw [hright.1] at hsel
  cases hsel

end Svmx.SvmSegment
