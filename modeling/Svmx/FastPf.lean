/-
The two walkers of the fast page-fault path: the shadow walk of `mmu.c`
(`fast_pf_get_last_sptep`) goes straight down to the last entry of an address, and
`kvm_tdp_mmu_fast_pf_get_last_sptep` of `tdp_mmu.c` runs the TDP iterator over one gfn and keeps the
last entry it shows.

The shadow walk returns the last entry of the address on every tree
(`fast_pf_get_last_sptep_spec`). What the iterator does is the subject of `WinWalk`.
-/
import Svmx.TdpWalk

set_option autoImplicit false

namespace Svmx.Tdp

/-! ## The shadow walk -/

/-- The fields of `struct kvm_mmu` that the shadow walk reads. -/
structure KvmMmu where
  root_role : KvmMmuPageRole
  cpu_role_level : ℕ
  pae_root : ℕ → BitVec 64

/-- `struct kvm_shadow_walk_iterator`. -/
structure KvmShadowWalkIterator where
  addr : ℕ
  shadow_addr : BitVec 64
  sptep : Sptep
  level : ℕ
  index : ℕ

/-- The PAE half of `shadow_walk_init_using_root`. -/
def shadow_walk_init_pae (mmu : KvmMmu) (iterator : KvmShadowWalkIterator) :
    KvmShadowWalkIterator :=
  if iterator.level = 3 then
    let shadow_addr := mmu.pae_root (iterator.addr / 2 ^ 30 % 4) &&& SPTE_BASE_ADDR_MASK
    { iterator with
      shadow_addr := shadow_addr
      level := if shadow_addr = 0 then 0 else 2 }
  else iterator

/-- `shadow_walk_init_using_root`. -/
def shadow_walk_init_using_root (mmu : KvmMmu) (root : BitVec 64) (addr : ℕ) :
    KvmShadowWalkIterator :=
  let level := mmu.root_role.level
  shadow_walk_init_pae mmu
    { addr := addr
      shadow_addr := root
      sptep := ⟨0, 0⟩
      level := if 4 ≤ level ∧ mmu.cpu_role_level < 4 ∧ mmu.root_role.direct = false then 3
        else level
      index := 0 }

/-- `shadow_walk_okay`. -/
def shadow_walk_okay (mm : Mm) (iterator : KvmShadowWalkIterator) :
    Bool × KvmShadowWalkIterator :=
  if iterator.level < PG_LEVEL_4K then (false, iterator)
  else
    let index := SPTE_INDEX iterator.addr iterator.level
    (true, { iterator with index := index, sptep := ⟨mm.virt iterator.shadow_addr, index⟩ })

/-- `shadow_walk_next`, that is `__shadow_walk_next` with the entry the loop has just read. -/
def shadow_walk_next (iterator : KvmShadowWalkIterator) (spte : BitVec 64) :
    KvmShadowWalkIterator :=
  if !is_shadow_present_pte spte || is_last_spte spte iterator.level then
    { iterator with level := 0 }
  else
    { iterator with
      shadow_addr := spte &&& SPTE_BASE_ADDR_MASK
      level := iterator.level - 1 }

/-- `for_each_shadow_entry` with the body of `fast_pf_get_last_sptep`: the last entry pointer and
its value, `none` inside for `NULL`. -/
def fast_pf_loop (mm : Mm) (m : PtMem) : ℕ → KvmShadowWalkIterator → Option (Sptep × BitVec 64) →
    Option (Option (Sptep × BitVec 64))
  | 0, _, _ => none
  | fuel + 1, iterator, last =>
    match shadow_walk_okay mm iterator with
    | (false, _) => some last
    | (true, iterator) => do
      let old_spte ← kvm_tdp_mmu_read_spte m iterator.sptep
      fast_pf_loop mm m fuel (shadow_walk_next iterator old_spte) (some (iterator.sptep, old_spte))

/-- `fast_pf_get_last_sptep` from the root table at `root`. The level falls in every round, so
the fuel is enough. -/
def fast_pf_get_last_sptep (mm : Mm) (m : PtMem) (mmu : KvmMmu) (root : BitVec 64) (gpa : ℕ) :
    Option (Option (Sptep × BitVec 64)) :=
  let iterator := shadow_walk_init_using_root mmu root gpa
  fast_pf_loop mm m (iterator.level + 1) iterator none

/-- `kvm_tdp_mmu_fast_pf_get_last_sptep` over the root page `root`. -/
def kvm_tdp_mmu_fast_pf_get_last_sptep (mm : Mm) (m : PtMem) (fuel : ℕ) (iter : TdpIter)
    (root : KvmMmuPage) (addr : ℕ) : Option (Option (Sptep × BitVec 64)) := do
  let gfn := addr / 4096
  let visits ← for_each_tdp_pte_min_level winHpage mm m fuel iter root PG_LEVEL_4K gfn
    ((gfn + 1) % 2 ^ 64)
  some (visits.foldl (fun _ iter => some (iter.sptep, iter.old_spte)) none)

variable {mm : Mm} {m : PtMem}

/-- The last entry of an address and its value. -/
def lastEntry (mm : Mm) (m : PtMem) (level pt gfn : ℕ) : Sptep × BitVec 64 :=
  let e := (radix mm m).descend level pt gfn
  (⟨e.node, e.idx⟩, m.entry e.node e.idx)

/-- The walk stands at the entry of the address in its table. -/
theorem shadow_walk_okay_at {iterator : KvmShadowWalkIterator} {l pt : ℕ}
    (hlevel : iterator.level = l + 1) (hpt : mm.virt iterator.shadow_addr = pt) :
    shadow_walk_okay mm iterator = (true, { iterator with
      index := iterator.addr / 4096 / 512 ^ l % 512
      sptep := ⟨pt, iterator.addr / 4096 / 512 ^ l % 512⟩ }) := by
  have hidx : SPTE_INDEX iterator.addr iterator.level = iterator.addr / 4096 / 512 ^ l % 512 := by
    have hpow : 2 ^ (PAGE_SHIFT + (l + 1 - 1) * 9) = 4096 * 512 ^ l := by
      rw [Nat.add_sub_cancel, PAGE_SHIFT, Nat.pow_add, Nat.mul_comm l 9, Nat.pow_mul]
    rw [SPTE_INDEX, hlevel, hpow, Nat.div_div_eq_div_mul]
  have hok : ¬ iterator.level < PG_LEVEL_4K := by
    rw [hlevel, PG_LEVEL_4K]
    omega
  unfold shadow_walk_okay
  rw [if_neg hok, hidx, hpt]

/-- An entry without a child ends the walk. -/
theorem shadow_walk_next_last {iterator : KvmShadowWalkIterator} {l pt i : ℕ}
    (hlevel : iterator.level = l + 1) (hc : (radix mm m).child (l + 1) pt i = none) :
    shadow_walk_next iterator (m.entry pt i) = { iterator with level := 0 } := by
  have hstop : (!is_shadow_present_pte (m.entry pt i) || is_last_spte (m.entry pt i) (l + 1)) =
      true := by
    by_contra hgo
    simp only [radix] at hc
    simp only [Bool.not_eq_true, Bool.or_eq_false_iff, Bool.not_eq_false'] at hgo
    simp [hgo.1, hgo.2] at hc
  unfold shadow_walk_next
  rw [hlevel, if_pos hstop]

/-- From an entry with a child the walk goes on in it. -/
theorem shadow_walk_next_child {iterator : KvmShadowWalkIterator} {l pt i c : ℕ}
    (hlevel : iterator.level = l + 1) (hc : (radix mm m).child (l + 1) pt i = some c) :
    1 ≤ l ∧ is_shadow_present_pte (m.entry pt i) = true ∧
      is_last_spte (m.entry pt i) (l + 1) = false ∧
      mm.virt (m.entry pt i &&& SPTE_BASE_ADDR_MASK) = c ∧
      shadow_walk_next iterator (m.entry pt i) =
        { iterator with shadow_addr := m.entry pt i &&& SPTE_BASE_ADDR_MASK, level := l } := by
  have hgo : is_shadow_present_pte (m.entry pt i) = true ∧
      is_last_spte (m.entry pt i) (l + 1) = false ∧
      mm.virt (m.entry pt i &&& SPTE_BASE_ADDR_MASK) = c := by
    simp only [radix] at hc
    split at hc
    · rename_i h
      simp only [Bool.and_eq_true, Bool.not_eq_true'] at h
      exact ⟨h.1, h.2, Option.some.inj hc⟩
    · exact absurd hc (by simp)
  have hl1 : 1 ≤ l := by
    by_contra h0
    have : l = 0 := by omega
    subst this
    rw [(radix mm m).child_one] at hc
    exact absurd hc (by simp)
  refine ⟨hl1, hgo.1, hgo.2.1, hgo.2.2, ?_⟩
  unfold shadow_walk_next
  rw [hlevel, hgo.1, hgo.2.1]
  rfl

/-- The shadow walk from a table of level `l` is at the last entry of the address when it ends. -/
theorem fast_pf_loop_spec (addr l : ℕ) :
    ∀ (pt fuel : ℕ) (iterator : KvmShadowWalkIterator) (last : Option (Sptep × BitVec 64)),
    1 ≤ l → Allocated mm m l pt → l < fuel → iterator.level = l → iterator.addr = addr →
    mm.virt iterator.shadow_addr = pt →
    fast_pf_loop mm m fuel iterator last = some (some (lastEntry mm m l pt (addr / 4096))) := by
  induction l with
  | zero =>
    intro pt fuel iterator last hl
    omega
  | succ l ih =>
    intro pt fuel iterator last hl halloc hfuel hlevel hit hpt
    obtain ⟨fuel, rfl⟩ : ∃ k, fuel = k + 1 := ⟨fuel - 1, by omega⟩
    have hi : addr / 4096 / 512 ^ l % 512 < 512 := Nat.mod_lt _ (by omega)
    have hread := read_spte halloc.self hi
    simp only [fast_pf_loop, shadow_walk_okay_at hlevel hpt, hit, hread, Option.bind_eq_bind,
      Option.bind_some]
    have hlevel' : (KvmShadowWalkIterator.mk addr iterator.shadow_addr
        ⟨pt, addr / 4096 / 512 ^ l % 512⟩ iterator.level (addr / 4096 / 512 ^ l % 512)).level =
        l + 1 := hlevel
    rcases hc : (radix mm m).child (l + 1) pt (addr / 4096 / 512 ^ l % 512) with _ | c
    · obtain ⟨fuel, rfl⟩ : ∃ k, fuel = k + 1 := ⟨fuel - 1, by omega⟩
      have hlast : lastEntry mm m (l + 1) pt (addr / 4096) =
          (⟨pt, addr / 4096 / 512 ^ l % 512⟩, m.entry pt (addr / 4096 / 512 ^ l % 512)) := by
        simp [lastEntry, Radix.descend, hc]
      rw [hlast, shadow_walk_next_last hlevel' hc]
      simp [fast_pf_loop, shadow_walk_okay, PG_LEVEL_4K]
    · obtain ⟨hl1, -, -, hchild, hnext⟩ := shadow_walk_next_child hlevel' hc
      have hlast : lastEntry mm m (l + 1) pt (addr / 4096) = lastEntry mm m l c (addr / 4096) := by
        simp [lastEntry, Radix.descend, hc]
      rw [hlast, hnext]
      exact ih c fuel _ _ hl1 (halloc.child hi hc) (by omega) rfl rfl hchild

/-- A direct MMU of level 4 or 5 has no PAE root. -/
theorem shadow_walk_init_direct (mmu : KvmMmu) (root : BitVec 64) (addr : ℕ)
    (hlevel : mmu.root_role.level = 4 ∨ mmu.root_role.level = 5)
    (hdirect : mmu.root_role.direct = true) : shadow_walk_init_using_root mmu root addr =
      { addr := addr, shadow_addr := root, sptep := ⟨0, 0⟩, level := mmu.root_role.level,
        index := 0 } := by
  have hne : mmu.root_role.level ≠ 3 := by omega
  simp [shadow_walk_init_using_root, shadow_walk_init_pae, hdirect, hne]

/-- **The shadow walk.** Over the root table of a direct MMU of level 4 or 5 it returns the last
entry of the address and its value. -/
theorem fast_pf_get_last_sptep_spec (mmu : KvmMmu) (root : BitVec 64) (addr pt : ℕ)
    (hlevel : mmu.root_role.level = 4 ∨ mmu.root_role.level = 5)
    (hdirect : mmu.root_role.direct = true) (halloc : Allocated mm m mmu.root_role.level pt)
    (hroot : mm.virt root = pt) :
    fast_pf_get_last_sptep mm m mmu root addr =
      some (some (lastEntry mm m mmu.root_role.level pt (addr / 4096))) := by
  rw [fast_pf_get_last_sptep, shadow_walk_init_direct mmu root addr hlevel hdirect]
  exact fast_pf_loop_spec addr mmu.root_role.level pt _ _ none (by omega) halloc
    (by simp) rfl rfl hroot

end Svmx.Tdp
