/-
The TDP iterator (`tdp_iter.c`, `tdp_iter.h`): a pre-order walk over a paging structure that keeps
only a path of page tables and two gfns.

The page tables are pages of 512 entries at virtual addresses; a pointer to an entry is a page
and an index, and reading past the page, or in a page that is no page table, faults (`none`).
All functions take the huge-page macros as a parameter (`Hpage`), so that the same text is the
walk of the Windows build and the walk with exact numbers. `gfn_t` is a 64-bit word: additions and
shifts of it are taken modulo `2^64`.
-/
import Mathlib.Logic.Function.Basic
import Svmx.Spte

set_option autoImplicit false

namespace Svmx.Tdp

/-! ## Page tables -/

/-- A `tdp_ptep_t` into a page table: the page and the index in it. -/
structure Sptep where
  pt : ℕ
  idx : ℕ
deriving DecidableEq

/-- The page tables of the host, by virtual address; there is none at `NULL`. -/
structure PtMem where
  spt : ℕ → Option (Fin 512 → BitVec 64)
  spt_null : spt 0 = none

/-- `kvm_tdp_mmu_read_spte`. -/
def kvm_tdp_mmu_read_spte (m : PtMem) (sptep : Sptep) : Option (BitVec 64) :=
  if h : sptep.idx < 512 then (m.spt sptep.pt).map (fun t => t ⟨sptep.idx, h⟩) else none

/-! ## The iterator -/

/-- `struct tdp_iter`. -/
structure TdpIter where
  next_last_level_gfn : ℕ
  yielded_gfn : ℕ
  pt_path : ℕ → ℕ
  sptep : Sptep
  gfn : ℕ
  root_level : ℕ
  min_level : ℤ
  level : ℕ
  as_id : ℕ
  old_spte : BitVec 64
  valid : Bool
  yielded : Bool

section Walk

variable (hp : Hpage) (mm : Mm) (m : PtMem)

/-- `iter->gfn << PAGE_SHIFT`. -/
def gfn_to_gpa (gfn : ℕ) : ℕ := gfn * 4096 % 2 ^ 64

/-- `tdp_iter_refresh_sptep`. -/
def tdp_iter_refresh_sptep (iter : TdpIter) : Option TdpIter := do
  let sptep : Sptep :=
    ⟨iter.pt_path (iter.level - 1), SPTE_INDEX (gfn_to_gpa iter.gfn) iter.level⟩
  let old_spte ← kvm_tdp_mmu_read_spte m sptep
  some { iter with sptep := sptep, old_spte := old_spte }

/-- `tdp_iter_restart`. -/
def tdp_iter_restart (iter : TdpIter) : Option TdpIter := do
  let iter := { iter with
    yielded := false
    yielded_gfn := iter.next_last_level_gfn
    level := iter.root_level
    gfn := gfn_round_for_level hp iter.next_last_level_gfn iter.root_level }
  let iter ← tdp_iter_refresh_sptep m iter
  some { iter with valid := true }

/-- `tdp_iter_start`, on an iterator whose fields hold anything. -/
def tdp_iter_start (iter : TdpIter) (root : KvmMmuPage) (min_level : ℤ)
    (next_last_level_gfn : ℕ) : Option TdpIter :=
  tdp_iter_restart hp m { iter with
    next_last_level_gfn := next_last_level_gfn
    root_level := root.role.level
    min_level := min_level
    pt_path := Function.update iter.pt_path (root.role.level - 1) root.spt
    as_id := kvm_mmu_page_as_id root }

/-- The second half of `try_step_down`: enter the child page table unless it is `NULL`. -/
def step_into_child (iter : TdpIter) (child_pt : ℕ) : Option (Bool × TdpIter) :=
  if child_pt = 0 then some (false, iter) else do
    let level := iter.level - 1
    let iter ← tdp_iter_refresh_sptep m { iter with
      level := level
      pt_path := Function.update iter.pt_path (level - 1) child_pt
      gfn := gfn_round_for_level hp iter.next_last_level_gfn level }
    some (true, iter)

/-- `try_step_down`. -/
def try_step_down (iter : TdpIter) : Option (Bool × TdpIter) :=
  if (iter.level : ℤ) = iter.min_level then some (false, iter) else do
    let old_spte ← kvm_tdp_mmu_read_spte m iter.sptep
    step_into_child hp m { iter with old_spte := old_spte }
      (spte_to_child_pt mm old_spte iter.level)

/-- `try_step_side`. -/
def try_step_side (iter : TdpIter) : Option (Bool × TdpIter) :=
  if SPTE_INDEX (gfn_to_gpa iter.gfn) iter.level = SPTE_ENT_PER_PAGE - 1 then
    some (false, iter)
  else do
    let gfn := (iter.gfn + hp.pages iter.level) % 2 ^ 64
    let sptep : Sptep := ⟨iter.sptep.pt, iter.sptep.idx + 1⟩
    let old_spte ← kvm_tdp_mmu_read_spte m sptep
    some (true, { iter with
      gfn := gfn
      next_last_level_gfn := gfn
      sptep := sptep
      old_spte := old_spte })

/-- `try_step_up`. -/
def try_step_up (iter : TdpIter) : Option (Bool × TdpIter) :=
  if iter.level = iter.root_level then some (false, iter) else do
    let level := iter.level + 1
    let iter ← tdp_iter_refresh_sptep m { iter with
      level := level
      gfn := gfn_round_for_level hp iter.gfn level }
    some (true, iter)

/-- The `do … while` loop of `tdp_iter_next`. Every round that does not return climbs one level
and the root level stops it, so the fuel of `tdp_iter_next` is enough for an iterator below its
root level. -/
def step_side_or_up : ℕ → TdpIter → Option TdpIter
  | 0, _ => none
  | fuel + 1, iter => do
    match ← try_step_side hp m iter with
    | (true, iter) => some iter
    | (false, iter) =>
      match ← try_step_up hp m iter with
      | (true, iter) => step_side_or_up fuel iter
      | (false, iter) => some { iter with valid := false }

/-- `tdp_iter_next`. -/
def tdp_iter_next (iter : TdpIter) : Option TdpIter :=
  if iter.yielded then tdp_iter_restart hp m iter else do
    match ← try_step_down hp mm m iter with
    | (true, iter) => some iter
    | (false, iter) => step_side_or_up hp m (iter.root_level - iter.level + 1) iter

/-- The rounds of `for_each_tdp_pte_min_level` from a started iterator: the iterator at each
visit. `none` is a fault or too little fuel. -/
def for_each_tdp_pte (end_gfn : ℕ) : ℕ → TdpIter → Option (List TdpIter)
  | 0, _ => none
  | fuel + 1, iter =>
    if iter.valid && iter.gfn < end_gfn then do
      let next ← tdp_iter_next hp mm m iter
      let rest ← for_each_tdp_pte end_gfn fuel next
      some (iter :: rest)
    else some []

/-- `for_each_tdp_pte_min_level(iter, root, min_level, start, end)`. -/
def for_each_tdp_pte_min_level (fuel : ℕ) (iter : TdpIter) (root : KvmMmuPage) (min_level : ℤ)
    (start end_gfn : ℕ) : Option (List TdpIter) := do
  let iter ← tdp_iter_start hp m iter root min_level start
  for_each_tdp_pte hp mm m end_gfn fuel iter

end Walk

end Svmx.Tdp
