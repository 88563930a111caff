/-
Virtual processor identifiers (`allocate_vpid` and the part of `hardware_setup` before it).

The identifiers are the bits of `vmx_vpid_bitmap`. `BITS_TO_ULONG` divides by the 4 bytes of a ULONG
and not by its 32 bits, and its result is taken for the bytes of the buffer and for the bits of the
bitmap alike: the bitmap has 16384 bits where `VMX_NR_VPIDS` is 65536, and nothing clears the buffer.
So `allocate_vpid` returns 0 as soon as the clear bits of the buffer are used up
(`vpids_right_iff`).

`RtlFindClearBits` is the kernel's and taken as documented.
-/
import Mathlib.Order.Interval.Finset.Nat
import Svmx.BitFind

set_option autoImplicit false

namespace Svmx.Vpid

open BitFind

/-! ## The bitmap -/

def VMX_NR_VPIDS : ℕ := 1 <<< 16

def DIV_ROUND_UP (x y : ℕ) : ℕ := (x + (y - 1)) / y

def sizeof_BYTE : ℕ := 1
def sizeof_ULONG : ℕ := 4

def BITS_TO_ULONG (nr : ℕ) : ℕ := DIV_ROUND_UP nr (sizeof_BYTE * sizeof_ULONG)

/-- `RTL_BITMAP`. -/
structure RtlBitmap where
  SizeOfBitMap : ℕ
  Buffer : ℕ → Bool

/-- `RtlSetBit`. -/
def RtlSetBit (b : RtlBitmap) (i : ℕ) : RtlBitmap :=
  { b with Buffer := Function.update b.Buffer i true }

/-- The bits of the bitmap that are clear. -/
def clearBits (b : RtlBitmap) : Finset ℕ := setBits b.SizeOfBitMap fun i => !b.Buffer i

/-- What the documentation says of `RtlFindClearBits` for one bit: an index of a clear bit of the
bitmap, or `0xFFFFFFFF` if there is none. -/
structure FindsClearBit (RtlFindClearBits : RtlBitmap → ℕ → ℕ → ℕ) : Prop where
  found : ∀ b hint, (clearBits b).Nonempty → RtlFindClearBits b 1 hint ∈ clearBits b
  none : ∀ b hint, clearBits b = ∅ → RtlFindClearBits b 1 hint = 0xFFFFFFFF

/-- `hardware_setup`, as far as it sets up the bitmap; `buffer` is what the pool left in the
buffer. -/
def hardware_setup (buffer : ℕ → Bool) : RtlBitmap :=
  let size := BITS_TO_ULONG VMX_NR_VPIDS
  RtlSetBit { SizeOfBitMap := size, Buffer := buffer } 0

section Calls

variable (RtlFindClearBits : RtlBitmap → ℕ → ℕ → ℕ)

/-- `allocate_vpid`. -/
def allocate_vpid (enable_vpid : Bool) (vmx_vpid_bitmap : RtlBitmap) : ℕ × RtlBitmap :=
  if !enable_vpid then (0, vmx_vpid_bitmap)
  else
    let vpid := RtlFindClearBits vmx_vpid_bitmap 1 1
    -- the search starts at bit 1; a failure is the number 0xFFFFFFFF
    if vpid < VMX_NR_VPIDS then (vpid, RtlSetBit vmx_vpid_bitmap vpid)
    else (0, vmx_vpid_bitmap)

/-- What a number of calls return, with VPIDs enabled. -/
def allocate_vpids : ℕ → RtlBitmap → List ℕ
  | 0, _ => []
  | calls + 1, b =>
    let (vpid, b) := allocate_vpid RtlFindClearBits true b
    vpid :: allocate_vpids calls b

end Calls

/-- The identifiers are in order: those that are not 0 are different from each other and below
`VMX_NR_VPIDS`, and 0 only comes after all the others. -/
structure VpidsRight (vpids : List ℕ) : Prop where
  nodup : (vpids.filter (· ≠ 0)).Nodup
  below : ∀ vpid ∈ vpids, vpid < VMX_NR_VPIDS
  exhausted : ∀ before after, vpids = before ++ 0 :: after →
    (before.filter (· ≠ 0)).length = VMX_NR_VPIDS - 1

/-! ## Allocation -/

section Allocation

variable {RtlFindClearBits : RtlBitmap → ℕ → ℕ → ℕ} {b : RtlBitmap}

/-- Setting a clear bit takes it off the clear ones. -/
theorem clearBits_set (b : RtlBitmap) (i : ℕ) :
    clearBits (RtlSetBit b i) = (clearBits b).erase i := by
  have hnot : (fun j => !(RtlSetBit b i).Buffer j) =
      Function.update (fun j => !b.Buffer j) i false := by
    funext j
    by_cases hj : j = i
    · subst hj
      simp [RtlSetBit]
    · simp [RtlSetBit, Function.update_of_ne hj]
  unfold clearBits
  rw [hnot]
  exact setBits_clear _ _ i

/-- A bitmap whose bit 0 is set, and that is no larger than there are identifiers. -/
structure Reserved (b : RtlBitmap) : Prop where
  zero : 0 ∉ clearBits b
  small : b.SizeOfBitMap ≤ VMX_NR_VPIDS

theorem hardware_setup_reserved (buffer : ℕ → Bool) : Reserved (hardware_setup buffer) where
  zero := by
    unfold hardware_setup
    rw [clearBits_set]
    exact Finset.notMem_erase 0 _
  small := by
    change BITS_TO_ULONG VMX_NR_VPIDS ≤ VMX_NR_VPIDS
    decide

/-- **One call.** It returns a clear bit and sets it, or there is none and it returns 0. -/
theorem allocate_vpid_spec (hfind : FindsClearBit RtlFindClearBits) (hb : Reserved b) :
    (∃ vpid ∈ clearBits b, vpid ≠ 0 ∧ vpid < VMX_NR_VPIDS ∧
      allocate_vpid RtlFindClearBits true b = (vpid, RtlSetBit b vpid) ∧
      Reserved (RtlSetBit b vpid)) ∨
    (clearBits b = ∅ ∧ allocate_vpid RtlFindClearBits true b = (0, b)) := by
  rcases (clearBits b).eq_empty_or_nonempty with hempty | hsome
  · right
    refine ⟨hempty, ?_⟩
    have hlarge : ¬ 0xFFFFFFFF < VMX_NR_VPIDS := by decide
    simp only [allocate_vpid, hfind.none b 1 hempty, if_neg hlarge]
    rfl
  · left
    have hmem := hfind.found b 1 hsome
    have hlt : RtlFindClearBits b 1 1 < VMX_NR_VPIDS :=
      Nat.lt_of_lt_of_le (mem_setBits.mp hmem).1 hb.small
    have hne : RtlFindClearBits b 1 1 ≠ 0 := by
      intro hzero
      rw [hzero] at hmem
      exact hb.zero hmem
    refine ⟨_, hmem, hne, hlt, ?_, ?_, hb.small⟩
    · simp only [allocate_vpid, if_pos hlt]
      rfl
    · rw [clearBits_set, Finset.mem_erase, not_and]
      exact fun _ => hb.zero

/-- **The calls that find a clear bit.** While there are clear bits left, the identifiers are
different ones of them. -/
theorem allocate_vpids_some (hfind : FindsClearBit RtlFindClearBits) (calls : ℕ) :
    ∀ {b : RtlBitmap}, Reserved b → calls ≤ (clearBits b).card →
      (allocate_vpids RtlFindClearBits calls b).Nodup ∧
      ∀ vpid ∈ allocate_vpids RtlFindClearBits calls b,
        vpid ∈ clearBits b ∧ vpid ≠ 0 ∧ vpid < VMX_NR_VPIDS := by
  induction calls with
  | zero =>
    intro b hb hle
    refine ⟨List.nodup_nil, fun vpid hvpid => ?_⟩
    cases hvpid
  | succ calls ih =>
    intro b hb hle
    rcases allocate_vpid_spec hfind hb with ⟨vpid, hmem, hne, hlt, hcall, hb'⟩ | ⟨hempty, -⟩
    · -- the first call takes its bit off the clear ones, so no later one returns it
      have hcard : (clearBits (RtlSetBit b vpid)).card + 1 = (clearBits b).card := by
        rw [clearBits_set]
        exact Finset.card_erase_add_one hmem
      obtain ⟨hnd, hrest⟩ := ih hb' (by omega)
      rw [allocate_vpids, hcall]
      have herase : ∀ v ∈ allocate_vpids RtlFindClearBits calls (RtlSetBit b vpid),
          v ≠ vpid ∧ v ∈ clearBits b := by
        intro v hv
        have hclear := (hrest v hv).1
        rwa [clearBits_set, Finset.mem_erase] at hclear
      refine ⟨List.nodup_cons.mpr ⟨fun hv => (herase vpid hv).1 rfl, hnd⟩, fun v hv => ?_⟩
      rcases List.mem_cons.mp hv with rfl | hv
      · exact ⟨hmem, hne, hlt⟩
      · exact ⟨(herase v hv).2, (hrest v hv).2⟩
    · rw [hempty, Finset.card_empty] at hle
      omega

/-- **The call after them** returns 0. -/
theorem allocate_vpids_zero (hfind : FindsClearBit RtlFindClearBits) (calls : ℕ) :
    ∀ {b : RtlBitmap}, Reserved b → (clearBits b).card < calls →
      ∃ before after, allocate_vpids RtlFindClearBits calls b = before ++ 0 :: after ∧
        before.length = (clearBits b).card := by
  induction calls with
  | zero =>
    intro b hb hlt
    omega
  | succ calls ih =>
    intro b hb hlt
    rcases allocate_vpid_spec hfind hb with ⟨vpid, hmem, -, -, hcall, hb'⟩ | ⟨hempty, hcall⟩
    · have hcard : (clearBits (RtlSetBit b vpid)).card + 1 = (clearBits b).card := by
        rw [clearBits_set]
        exact Finset.card_erase_add_one hmem
      obtain ⟨before, after, hrest, hlen⟩ := ih hb' (by omega)
      refine ⟨vpid :: before, after, ?_, ?_⟩
      · rw [allocate_vpids, hcall]
        dsimp only
        rw [hrest]
        rfl
      · rw [List.length_cons, hlen]
        exact hcard
    · refine ⟨[], allocate_vpids RtlFindClearBits calls b, ?_, ?_⟩
      · rw [allocate_vpids, hcall]
        rfl
      · rw [hempty, Finset.card_empty]
        rfl

end Allocation

/-- **When the identifiers are right.** For every buffer that the pool gives and every number of
calls after `hardware_setup`, the identifiers are in order exactly when there are no more calls than
clear bits among the bits 1 to 16383 of the buffer. -/
theorem vpids_right_iff {RtlFindClearBits : RtlBitmap → ℕ → ℕ → ℕ}
    (hfind : FindsClearBit RtlFindClearBits) (buffer : ℕ → Bool) (calls : ℕ) :
    VpidsRight (allocate_vpids RtlFindClearBits calls (hardware_setup buffer)) ↔
      calls ≤ ((Finset.Ico 1 16384).filter fun i => buffer i = false).card := by
  have hb := hardware_setup_reserved buffer
  have hclear : clearBits (hardware_setup buffer) =
      (Finset.Ico 1 16384).filter fun i => buffer i = false := by
    have hsize : BITS_TO_ULONG VMX_NR_VPIDS = 16384 := by decide
    unfold hardware_setup
    rw [clearBits_set]
    ext i
    rw [Finset.mem_erase, clearBits, mem_setBits, Finset.mem_filter, Finset.mem_Ico, hsize,
      Bool.not_eq_true']
    constructor
    · rintro ⟨hne, hlt, hbit⟩
      exact ⟨⟨Nat.one_le_iff_ne_zero.mpr hne, hlt⟩, hbit⟩
    · rintro ⟨⟨hpos, hlt⟩, hbit⟩
      exact ⟨Nat.one_le_iff_ne_zero.mp hpos, hlt, hbit⟩
  have hcard : (clearBits (hardware_setup buffer)).card < VMX_NR_VPIDS - 1 := by
    have hle : (clearBits (hardware_setup buffer)).card ≤ (Finset.range 16384).card :=
      Finset.card_le_card fun i hi => Finset.mem_range.mpr (mem_setBits.mp hi).1
    rw [Finset.card_range] at hle
    have hnr : VMX_NR_VPIDS = 65536 := by decide
    omega
  rw [← hclear]
  constructor
  · -- after more calls than clear bits there is a 0, and a quarter of the identifiers before it
    intro hright
    by_contra hmore
    obtain ⟨before, after, heq, hlen⟩ := allocate_vpids_zero hfind calls hb (by omega)
    have hall := hright.exhausted before after heq
    have hfew := List.length_filter_le (· ≠ 0) before
    omega
  · intro hle
    obtain ⟨hnd, hmem⟩ := allocate_vpids_some hfind calls hb hle
    refine ⟨hnd.filter _, fun vpid hvpid => (hmem vpid hvpid).2.2, fun before after heq => ?_⟩
    have hzero := hmem 0 (by rw [heq]; simp)
    exact absurd rfl hzero.2.1

/-- `RtlFindClearBits`, bit by bit. -/
def findClearBits (b : RtlBitmap) (_NumberToFind HintIndex : ℕ) : ℕ :=
  (search b.SizeOfBitMap (fun i => !b.Buffer i) HintIndex).getD 0xFFFFFFFF

theorem findClearBits_finds : FindsClearBit findClearBits where
  found b hint hsome := by
    unfold findClearBits
    cases hfind : search b.SizeOfBitMap (fun i => !b.Buffer i) hint with
    | none =>
      have hempty : clearBits b = ∅ := (search_searches _).empty hfind
      rw [hempty] at hsome
      exact absurd hsome Finset.not_nonempty_empty
    | some i => exact (search_searches _).mem hfind
  none b hint hempty := by
    unfold findClearBits
    cases hfind : search b.SizeOfBitMap (fun i => !b.Buffer i) hint with
    | none => rfl
    | some i =>
      have hmem : i ∈ clearBits b := (search_searches _).mem hfind
      rw [hempty] at hmem
      exact absurd hmem (Finset.notMem_empty i)

/-- A buffer with the bits 1 and 2 clear: two calls are right. -/
theorem vpids_right_two :
    VpidsRight (allocate_vpids findClearBits 2 (hardware_setup fun i => i ≠ 1 ∧ i ≠ 2)) := by
  rw [vpids_right_iff findClearBits_finds]
  have hsub : ({1, 2} : Finset ℕ) ⊆
      (Finset.Ico 1 16384).filter fun i => (decide (i ≠ 1 ∧ i ≠ 2)) = false := by
    intro i hi
    rw [Finset.mem_insert, Finset.mem_singleton] at hi
    rcases hi with rfl | rfl
    · simp
    · simp
  exact Finset.card_le_card hsub

/-- A buffer that the pool left full of ones: the first call returns 0, and no identifier has been
handed out. -/
theorem dirty_buffer_no_vpid :
    ¬ VpidsRight (allocate_vpids findClearBits 1 (hardware_setup fun _ => true)) := by
  intro hright
  have hcalls : allocate_vpids findClearBits 1 (hardware_setup fun _ => true) = [] ++ [0] := by
    have hempty : clearBits (hardware_setup fun _ => true) = ∅ := by
      rw [clearBits, setBits_eq_empty_iff]
      intro i _
      simp [hardware_setup, RtlSetBit]
    have hfull : findClearBits (hardware_setup fun _ => true) 1 1 = 0xFFFFFFFF :=
      findClearBits_finds.none _ _ hempty
    have hlarge : ¬ 0xFFFFFFFF < VMX_NR_VPIDS := by decide
    simp [allocate_vpids, allocate_vpid, hfull, hlarge]
  have hall := hright.exhausted [] [] hcalls
  cases hall

end Svmx.Vpid
