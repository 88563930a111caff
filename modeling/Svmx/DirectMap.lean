/-
Handling a page fault without the TDP MMU (`direct_map` of `mmu.c`), and the pages it takes.

The walk goes down the shadow walk of `FastPf` and links a new shadow page where the tables end above
the level of the fault. The page headers are looked up in the table `g_Table` of `ShadowPage`. For each
new page the pool is asked for an `spt_info` before the caches are, and where it has none
`kvm_mmu_alloc_shadow_page` returns `NULL`. As in `FaultPages`, what the call has taken is kept also
when it faults.

`mmu_spte_clear_track_bits`, `mmu_spte_update` and the reverse maps change nothing, and the result of the
lookup in `drop_large_spte` is not used.
-/
import Svmx.FaultPages
import Svmx.FaultPfn
import Svmx.FastPf

set_option autoImplicit false

namespace Svmx.Tdp

open RetPf
open ShadowPage (SpState)

/-! ## Shadow pages -/

/-- A `struct kvm_page_fault` with the two fields that `direct_map` reads beside the others. -/
structure DirectFault extends KvmPageFault where
  addr : ℕ
  write : Bool

/-- The page tables, and the page headers with the table `g_Table`. -/
structure DirectState where
  m : PtMem
  sps : SpState

/-- `width` bits of a role from bit `shift` on. -/
def role_field (word : BitVec 32) (shift width : ℕ) (v : BitVec 32) : BitVec 32 :=
  let mask := BitVec.ofNat 32 (2 ^ width - 1)
  (word &&& ~~~(mask <<< shift)) ||| ((v &&& mask) <<< shift)

/-- `kvm_mmu_child_role` under a parent of role `role`. -/
def kvm_mmu_child_role (role : KvmMmuPageRole) (sptep : Sptep) (direct : Bool)
    (access : BitVec 32) : KvmMmuPageRole :=
  let word := (role_level_dec role).word
  let word := role_field word 8 3 access
  let word := role_field word 7 1 (if direct then 1 else 0)
  let word := role_field word 18 1 0
  if word.getLsbD 4 then ⟨role_field word 5 2 (BitVec.ofNat 32 sptep.idx &&& 1)⟩ else ⟨word⟩

section Map

variable (mm : Mm) (masks : PteMasks) (host : SpteHost) (fuel mmu_valid_gen : ℕ)

/-- `sptep_to_sp(sptep)->…`. -/
def shadow_page_of (st : DirectState) (sptep : Sptep) : Option KvmMmuPage := do
  let sp ← ShadowPage.sptep_to_sp fuel st.sps (sptep.pt + 8 * sptep.idx)
  if sp = 0 then none else st.sps.pages sp

/-- `kvm_mmu_alloc_shadow_page`; `0` is `NULL`. -/
def kvm_mmu_alloc_shadow_page (gfn : ℕ) (role : KvmMmuPageRole) (st : DirectState) (a : SpAlloc) :
    Option (ℕ × DirectState) × SpAlloc :=
  let (info, pool) := ExAllocatePoolWithTag a.pool
  if info = 0 then (some (0, st), { a with pool := pool, taken := a.taken ++ [⟨0, 0⟩] })
  else
    let (b, a) := tdp_mmu_alloc_sp { a with pool := pool }
    let (shadowed_translation, a) :=
      if role.direct then (0, a)
      else
        let (p, cache, pool) := kvm_mmu_memory_cache_alloc a.mmu_shadowed_info_cache a.pool
        (p, { a with mmu_shadowed_info_cache := cache, pool := pool })
    ((ShadowPage.kvm_mmu_alloc_shadow_page mmu_valid_gen gfn role
      ⟨info, b.sp, b.spt, shadowed_translation⟩ st.sps).map
        fun (sp, sps) => (sp, ⟨st.m.alloc b.spt, sps⟩), a)

/-- `kvm_mmu_get_child_sp`, where `kvm_mmu_find_shadow_page` finds no page; `none` inside stands for
`STATUS_ALREADY_COMMITTED`. -/
def kvm_mmu_get_child_sp (sptep : Sptep) (gfn : ℕ) (direct : Bool) (access : BitVec 32)
    (st : DirectState) (a : SpAlloc) : Option (Option ℕ × DirectState) × SpAlloc :=
  match kvm_tdp_mmu_read_spte st.m sptep with
  | none => (none, a)
  | some spte =>
    if is_shadow_present_pte spte && !is_large_pte spte then (some (none, st), a)
    else
      match shadow_page_of fuel st sptep with
      | none => (none, a)
      | some parent_sp =>
        let (res, a) := kvm_mmu_alloc_shadow_page mmu_valid_gen gfn
          (kvm_mmu_child_role parent_sp.role sptep direct access) st a
        (res.map fun (sp, st) => (some sp, st), a)

/-- `link_shadow_page`. -/
def link_shadow_page (sptep : Sptep) (sp : ℕ) (st : DirectState) : Option DirectState :=
  if sp = 0 then none
  else do
    let page ← st.sps.pages sp
    let spte := make_nonleaf_spte mm masks.toSpteMasks page.spt page.role.ad_disabled
    some { st with m := st.m.write sptep spte }

/-- `mmu_set_spte`. The child that is unlinked is read; the new entry is built and not stored. -/
def mmu_set_spte (sptep : Sptep) (pte_access : BitVec 32) (pfn : BitVec 64) (fault : DirectFault)
    (st : DirectState) : Option RetPf := do
  let sp ← shadow_page_of fuel st sptep
  if PageFault.is_noslot_pfn pfn then some RET_PF_EMULATE
  else
    let old_spte ← kvm_tdp_mmu_read_spte st.m sptep
    if is_shadow_present_pte old_spte && PG_LEVEL_4K < sp.role.level && !is_large_pte old_spte then
      let _child ← st.sps.pages (ShadowPage.spte_to_child_sp mm old_spte)
    let (wrprot, spte) := make_spte host masks sp pte_access pfn fault.prefetch fault.map_writable
    let ret := if old_spte = spte then RET_PF_SPURIOUS else RET_PF_FIXED
    some (if wrprot && fault.write then RET_PF_EMULATE else ret)

/-! ## The map -/

/-- The end of one round: the new page is linked, unless the table was there. -/
def link_new_page (sptep : Sptep) : Option ℕ × DirectState → Option DirectState
  | (none, st) => some st
  | (some sp, st) => link_shadow_page mm masks sptep sp st

/-- Where the loop of `direct_map` has come to: the walk, the gfn rounded for its level, and the fault
with the level it has been adjusted to. -/
structure DirectWalk where
  it : KvmShadowWalkIterator
  base_gfn : ℕ
  fault : DirectFault

/-- The adjustment at the head of the loop. -/
def direct_adjust (fault : DirectFault) (it : KvmShadowWalkIterator) (st : DirectState) :
    Option DirectFault :=
  if fault.nx_huge_page_workaround_enabled then do
    let spte ← kvm_tdp_mmu_read_spte st.m it.sptep
    let adjusted ← disallowed_hugepage_adjust mm st.sps.pages fault.toKvmPageFault spte it.level
    some { fault with toKvmPageFault := adjusted }
  else some fault

/-- What one round of the loop comes to. -/
inductive DirectStep where
  | fault
  | done (w : DirectWalk) (st : DirectState)
  | next (w : DirectWalk) (st : DirectState)

/-- The end of a round: the new page is linked, and the walk reads the entry again. -/
def direct_next (it : KvmShadowWalkIterator) (base_gfn : ℕ) (fault : DirectFault)
    (child : Option (Option ℕ × DirectState)) : DirectStep :=
  match child.bind (link_new_page mm masks it.sptep) with
  | none => .fault
  | some st =>
    match kvm_tdp_mmu_read_spte st.m it.sptep with
    | none => .fault
    | some spte => .next ⟨shadow_walk_next it spte, base_gfn, fault⟩ st

/-- One round of the loop of `direct_map`. -/
def direct_round (w : DirectWalk) (st : DirectState) (a : SpAlloc) : DirectStep × SpAlloc :=
  match shadow_walk_okay mm w.it with
  | (false, it) => (.done { w with it := it } st, a)
  | (true, it) =>
    match direct_adjust mm w.fault it st with
    | none => (.fault, a)
    | some fault =>
      let base_gfn := gfn_round_for_level winHpage fault.gfn it.level
      if it.level = fault.goal_level then (.done ⟨it, base_gfn, fault⟩ st, a)
      else
        let (child, a) :=
          kvm_mmu_get_child_sp fuel mmu_valid_gen it.sptep base_gfn true (ACC_ALL.setWidth 32) st a
        (direct_next mm masks it base_gfn fault child, a)

/-- The loop of `direct_map`. -/
def direct_map_loop : ℕ → DirectWalk → DirectState → SpAlloc →
    Option (DirectWalk × DirectState) × SpAlloc
  | 0, _, _, a => (none, a)
  | rounds + 1, w, st, a =>
    match direct_round mm masks fuel mmu_valid_gen w st a with
    | (.fault, a) => (none, a)
    | (.done w st, a) => (some (w, st), a)
    | (.next w st, a) => direct_map_loop rounds w st a

/-- What `direct_map` returns: `STATUS_FAIL_CHECK`, or a `RET_PF_*`. -/
inductive DirectRet where
  | STATUS_FAIL_CHECK
  | ret_pf (r : RetPf)
deriving DecidableEq

/-- `direct_map` after the loop; what `mmu_set_spte` returns is dropped unless it is
`RET_PF_SPURIOUS`. -/
def direct_map_leaf (w : DirectWalk) (st : DirectState) : Option DirectRet :=
  if w.it.level ≠ w.fault.goal_level then some .STATUS_FAIL_CHECK
  else do
    let ret ← mmu_set_spte mm masks host fuel w.it.sptep (ACC_ALL.setWidth 32) w.fault.pfn w.fault st
    some (.ret_pf (if ret = RET_PF_SPURIOUS then RET_PF_SPURIOUS else RET_PF_CONTINUE))

/-- `direct_map` over the root table at `root`. The level falls in every round, so the rounds are
enough. -/
def direct_map (max_huge_page_level : ℕ) (mmu : KvmMmu) (root : BitVec 64) (fault : DirectFault)
    (st : DirectState) (a : SpAlloc) : Option (DirectRet × DirectState) × SpAlloc :=
  match kvm_mmu_hugepage_adjust max_huge_page_level fault.toKvmPageFault with
  | none => (none, a)
  | some adjusted =>
    let it := shadow_walk_init_using_root mmu root fault.addr
    let (res, a) := direct_map_loop mm masks fuel mmu_valid_gen (it.level + 1)
      ⟨it, fault.gfn, { fault with toKvmPageFault := adjusted }⟩ st a
    (res.bind fun (w, st) => (direct_map_leaf mm masks host fuel w st).map fun ret => (ret, st), a)

end Map

variable {mm : Mm} {masks : PteMasks} {host : SpteHost} {fuel mmu_valid_gen : ℕ}

/-! ## The role of a child -/

/-- The bits of a role after a field has been set. -/
theorem role_field_bit (word v : BitVec 32) {shift width i : ℕ} (hi : i < 32) :
    (role_field word shift width v).getLsbD i =
      if shift ≤ i ∧ i < shift + width then v.getLsbD (i - shift) else word.getLsbD i := by
  have hmask : (BitVec.ofNat 32 (2 ^ width - 1)).getLsbD (i - shift) =
      decide (i - shift < width) := by
    rw [BitVec.getLsbD_ofNat, Nat.testBit_two_pow_sub_one, decide_eq_true (by omega : i - shift < 32),
      Bool.true_and]
  unfold role_field
  simp only [BitVec.getLsbD_or, BitVec.getLsbD_and, BitVec.getLsbD_not, BitVec.getLsbD_shiftLeft,
    hmask, hi, decide_true, Bool.true_and]
  by_cases hlo : i < shift
  · simp [hlo, show ¬ shift ≤ i by omega]
  · by_cases hhi : i < shift + width
    · simp [hlo, hhi, show i - shift < width by omega, show shift ≤ i by omega]
    · simp [hlo, hhi, show ¬ i - shift < width by omega]

theorem kvm_mmu_child_role_direct (role : KvmMmuPageRole) (sptep : Sptep) (direct : Bool)
    (access : BitVec 32) : (kvm_mmu_child_role role sptep direct access).direct = direct := by
  have hbit : ((if direct then 1 else 0 : BitVec 32)).getLsbD 0 = direct := by
    cases direct with
    | false => rfl
    | true => rfl
  -- the fields written after `direct` lie beside it
  have hquadrant : ∀ word v, (role_field word 5 2 v).getLsbD 7 = word.getLsbD 7 := by
    intro word v
    rw [role_field_bit word v (by omega), if_neg (by omega)]
  have hpassthrough : ∀ word v, (role_field word 18 1 v).getLsbD 7 = word.getLsbD 7 := by
    intro word v
    rw [role_field_bit word v (by omega), if_neg (by omega)]
  have hdirect : ∀ word, (role_field word 7 1 (if direct then 1 else 0)).getLsbD 7 = direct := by
    intro word
    rw [role_field_bit word _ (by omega), if_pos (by omega)]
    exact hbit
  unfold kvm_mmu_child_role KvmMmuPageRole.direct
  dsimp only
  rw [apply_ite (fun role : KvmMmuPageRole => role.word.getLsbD 7)]
  dsimp only
  rw [hquadrant, ite_self, hpassthrough, hdirect]

/-! ## What a round takes -/

theorem kvm_mmu_alloc_shadow_page_null {gfn : ℕ} {role : KvmMmuPageRole} {st : DirectState}
    {a : SpAlloc} (h : (ExAllocatePoolWithTag a.pool).1 = 0) :
    kvm_mmu_alloc_shadow_page mmu_valid_gen gfn role st a =
      (some (0, st), { a with
        pool := (ExAllocatePoolWithTag a.pool).2
        taken := a.taken ++ [⟨0, 0⟩] }) := by
  unfold kvm_mmu_alloc_shadow_page
  dsimp only
  rw [if_pos h]

theorem kvm_mmu_alloc_shadow_page_took {gfn : ℕ} {role : KvmMmuPageRole} {st : DirectState}
    {a : SpAlloc} (h : (ExAllocatePoolWithTag a.pool).1 ≠ 0) (hdirect : role.direct = true)
    (hblocks : a.blocks ≠ []) :
    (kvm_mmu_alloc_shadow_page mmu_valid_gen gfn role st a).2 =
      { a.took 1 with pool := (ExAllocatePoolWithTag a.pool).2 } := by
  obtain ⟨b, blocks, hcons⟩ := List.exists_cons_of_ne_nil hblocks
  unfold kvm_mmu_alloc_shadow_page
  dsimp only
  rw [if_neg h, if_pos hdirect]
  have hcons' : SpAlloc.blocks { a with pool := (ExAllocatePoolWithTag a.pool).2 } = b :: blocks :=
    hcons
  rw [(tdp_mmu_alloc_sp_spec hcons').1]
  rfl

/-- **A round** takes nothing, or one page from the caches for one `spt_info` from the pool. -/
theorem kvm_mmu_get_child_sp_took {sptep : Sptep} {gfn : ℕ} {access : BitVec 32} {st : DirectState}
    {a : SpAlloc} (hpool : (ExAllocatePoolWithTag a.pool).1 ≠ 0) (hblocks : a.blocks ≠ []) :
    (kvm_mmu_get_child_sp fuel mmu_valid_gen sptep gfn true access st a).2 = a ∨
      (kvm_mmu_get_child_sp fuel mmu_valid_gen sptep gfn true access st a).2 =
        { a.took 1 with pool := (ExAllocatePoolWithTag a.pool).2 } := by
  unfold kvm_mmu_get_child_sp
  split
  · exact Or.inl rfl
  · split
    · exact Or.inl rfl
    · split
      · exact Or.inl rfl
      · refine Or.inr ?_
        exact kvm_mmu_alloc_shadow_page_took hpool (kvm_mmu_child_role_direct _ _ _ _) hblocks

theorem shadow_walk_okay_level {it it' : KvmShadowWalkIterator}
    (h : shadow_walk_okay mm it = (true, it')) :
    1 ≤ it.level ∧ it' = { it with
      index := SPTE_INDEX it.addr it.level
      sptep := ⟨mm.virt it.shadow_addr, SPTE_INDEX it.addr it.level⟩ } := by
  unfold shadow_walk_okay at h
  split at h
  · cases (Prod.mk.inj h).1
  · next hlevel =>
    have h1 : PG_LEVEL_4K = 1 := rfl
    exact ⟨by omega, (Prod.mk.inj h).2.symm⟩

theorem shadow_walk_next_level (it : KvmShadowWalkIterator) (spte : BitVec 64) :
    (shadow_walk_next it spte).level ≤ it.level - 1 := by
  unfold shadow_walk_next
  split
  · exact Nat.zero_le _
  · exact Nat.le_refl _

theorem direct_next_level {it : KvmShadowWalkIterator} {base_gfn : ℕ} {fault : DirectFault}
    {child : Option (Option ℕ × DirectState)} {w : DirectWalk} {st : DirectState}
    (h : direct_next mm masks it base_gfn fault child = .next w st) :
    w.it.level ≤ it.level - 1 := by
  unfold direct_next at h
  split at h
  · cases h
  · split at h
    · cases h
    · next spte _ =>
      obtain ⟨rfl, -⟩ := DirectStep.next.inj h
      exact shadow_walk_next_level it spte

/-- **A round** goes down a level at least, and takes nothing, or one page from the caches for one
`spt_info` from the pool. -/
theorem direct_round_took {w : DirectWalk} {st : DirectState} {a : SpAlloc}
    (hpool : 1 ≤ w.it.level → (ExAllocatePoolWithTag a.pool).1 ≠ 0)
    (hblocks : 1 ≤ w.it.level → a.blocks ≠ []) :
    ((direct_round mm masks fuel mmu_valid_gen w st a).2 = a ∨
      (direct_round mm masks fuel mmu_valid_gen w st a).2 =
        { a.took 1 with pool := (ExAllocatePoolWithTag a.pool).2 }) ∧
    ∀ w' st', (direct_round mm masks fuel mmu_valid_gen w st a).1 = .next w' st' →
      w'.it.level < w.it.level := by
  unfold direct_round
  rcases hok : shadow_walk_okay mm w.it with ⟨_ | _, it⟩
  · exact ⟨Or.inl rfl, fun _ _ h => by cases h⟩
  · obtain ⟨hlevel, hit⟩ := shadow_walk_okay_level hok
    dsimp only
    split
    · exact ⟨Or.inl rfl, fun _ _ h => by cases h⟩
    · split
      · exact ⟨Or.inl rfl, fun _ _ h => by cases h⟩
      · refine ⟨kvm_mmu_get_child_sp_took (hpool hlevel) (hblocks hlevel), fun w' st' h => ?_⟩
        have hle := direct_next_level h
        rw [hit] at hle
        dsimp only at hle
        omega

/-- **The loop** takes one page a level at most, and all from the caches, if the pool has an
`spt_info` for each level. -/
theorem direct_map_loop_took (rounds : ℕ) : ∀ (w : DirectWalk) (st : DirectState) (a : SpAlloc),
    (∀ i < w.it.level, a.pool.getD i 0 ≠ 0) → w.it.level ≤ a.blocks.length →
    ∃ n, (direct_map_loop mm masks fuel mmu_valid_gen rounds w st a).2.taken = (a.took n).taken := by
  induction rounds with
  | zero =>
    intro w st a _ _
    exact ⟨0, by rw [a.took_zero]; rfl⟩
  | succ rounds ih =>
    intro w st a hpool hlen
    obtain ⟨htook, hdown⟩ := @direct_round_took mm masks fuel mmu_valid_gen w st a
      (fun hlevel => by
        have h0 := hpool 0 (by omega)
        rcases hp : a.pool with _ | ⟨p, pool⟩
        · rw [hp] at h0
          exact absurd rfl h0
        · rw [hp] at h0
          exact h0)
      (fun hlevel hnil => by
        rw [hnil, List.length_nil] at hlen
        omega)
    -- what the round has left goes on
    have hrest : ∃ n, (direct_round mm masks fuel mmu_valid_gen w st a).2.taken = (a.took n).taken := by
      rcases htook with h | h
      · exact ⟨0, by rw [h, a.took_zero]⟩
      · exact ⟨1, by rw [h]⟩
    unfold direct_map_loop
    rcases hround : direct_round mm masks fuel mmu_valid_gen w st a with ⟨_ | _ | ⟨w', st'⟩, a'⟩
    · rw [hround] at hrest
      exact hrest
    · rw [hround] at hrest
      exact hrest
    · rw [hround] at htook hdown
      have hlevel := hdown w' st' rfl
      dsimp only at htook ⊢
      rcases htook with rfl | rfl
      · exact ih w' st' a' (fun i hi => hpool i (by omega)) (by omega)
      · have htail : (ExAllocatePoolWithTag a.pool).2 = a.pool.tail := by
          rcases a.pool with _ | ⟨p, pool⟩
          · rfl
          · rfl
        have hpool' : ∀ i < w'.it.level, (ExAllocatePoolWithTag a.pool).2.getD i 0 ≠ 0 := by
          intro i hi
          rw [htail, List.getD_eq_getElem?_getD, List.getElem?_tail, ← List.getD_eq_getElem?_getD]
          exact hpool (i + 1) (by omega)
        have hlen' : w'.it.level ≤ (a.took 1).blocks.length := by
          rw [a.took_blocks, List.length_drop]
          omega
        obtain ⟨n, hn⟩ :=
          ih w' st' { a.took 1 with pool := (ExAllocatePoolWithTag a.pool).2 } hpool' hlen'
        refine ⟨1 + n, hn.trans ?_⟩
        rw [← a.took_took]
        rfl

/-! ## Where the tables end -/

/-- The entry at which the tables of a gfn end. -/
def lastSptep (mm : Mm) (m : PtMem) (level pt gfn : ℕ) : Sptep := (lastEntry mm m level pt gfn).1

/-- The level at which they end; `PG_LEVEL_4K` if none is missing. -/
def lastLevel (mm : Mm) (m : PtMem) (level pt gfn : ℕ) : ℕ := ((radix mm m).descend level pt gfn).level

/-- What the loop takes on the way to the entry at which the tables end, and there if the pool has no
memory: nothing if it ends at level 1 or the page of the entry is not found, else a `NULL`. -/
structure WalkTakes (mm : Mm) (fuel level pt gfn : ℕ) (st : DirectState) (a a' : SpAlloc) : Prop where
  reached : lastLevel mm st.m level pt gfn = PG_LEVEL_4K → a'.taken = a.taken
  unknown : shadow_page_of fuel st (lastSptep mm st.m level pt gfn) = none → a'.taken = a.taken
  null : lastLevel mm st.m level pt gfn ≠ PG_LEVEL_4K →
    shadow_page_of fuel st (lastSptep mm st.m level pt gfn) ≠ none → a.pool = [] →
    a'.taken = a.taken ++ [⟨0, 0⟩]

/-- Without a child the tables end at the entry. -/
theorem last_of_no_child {m : PtMem} {l pt gfn : ℕ}
    (hc : (radix mm m).child (l + 1) pt (gfn / 512 ^ l % 512) = none) :
    lastSptep mm m (l + 1) pt gfn = ⟨pt, gfn / 512 ^ l % 512⟩ ∧
      lastLevel mm m (l + 1) pt gfn = l + 1 := by
  constructor
  · simp [lastSptep, lastEntry, Radix.descend, hc]
  · simp [lastLevel, Radix.descend, hc]

/-- What a walk from the child takes is what the walk takes that has come to the child. -/
theorem WalkTakes.of_child {st : DirectState} {l pt c gfn : ℕ} {a a' : SpAlloc}
    (hc : (radix mm st.m).child (l + 1) pt (gfn / 512 ^ l % 512) = some c)
    (h : WalkTakes mm fuel l c gfn st a a') : WalkTakes mm fuel (l + 1) pt gfn st a a' := by
  have hlast : lastSptep mm st.m (l + 1) pt gfn = lastSptep mm st.m l c gfn := by
    simp [lastSptep, lastEntry, Radix.descend, hc]
  have hend : lastLevel mm st.m (l + 1) pt gfn = lastLevel mm st.m l c gfn := by
    simp [lastLevel, Radix.descend, hc]
  exact ⟨fun h1 => h.reached (hend ▸ h1), fun h1 => h.unknown (hlast ▸ h1),
    fun h1 h2 => h.null (hend ▸ h1) (hlast ▸ h2)⟩

/-- The round at an entry that has its child goes on with it. -/
theorem direct_next_there {it : KvmShadowWalkIterator} {st : DirectState} {spte : BitVec 64}
    (hread : kvm_tdp_mmu_read_spte st.m it.sptep = some spte) (base_gfn : ℕ) (fault : DirectFault) :
    direct_next mm masks it base_gfn fault (some (none, st)) =
      .next ⟨shadow_walk_next it spte, base_gfn, fault⟩ st := by
  unfold direct_next
  rw [Option.bind_some, link_new_page]
  dsimp only
  rw [hread]

/-- The adjustment does nothing to a fault of level 1. -/
theorem direct_adjust_spec {fault : DirectFault} {it : KvmShadowWalkIterator} {st : DirectState}
    (hgoal : fault.goal_level = PG_LEVEL_4K) (hread : (kvm_tdp_mmu_read_spte st.m it.sptep).isSome) :
    direct_adjust mm fault it st = some fault := by
  obtain ⟨spte, hspte⟩ := Option.isSome_iff_exists.mp hread
  have hnone : disallowed_hugepage_adjust mm st.sps.pages fault.toKvmPageFault spte it.level =
      some fault.toKvmPageFault := by
    unfold disallowed_hugepage_adjust
    rw [if_neg]
    rintro ⟨hcur, heq, -⟩
    omega
  unfold direct_adjust
  split
  · rw [hspte, Option.bind_eq_bind, Option.bind_some, hnone]
    rfl
  · rfl

/-- The round at an entry that has no table. -/
theorem kvm_mmu_get_child_sp_missing {sptep : Sptep} {gfn : ℕ} {access : BitVec 32}
    {st : DirectState} {a : SpAlloc} {spte : BitVec 64}
    (hread : kvm_tdp_mmu_read_spte st.m sptep = some spte)
    (hmissing : (is_shadow_present_pte spte && !is_large_pte spte) = false) :
    (shadow_page_of fuel st sptep = none →
      kvm_mmu_get_child_sp fuel mmu_valid_gen sptep gfn true access st a = (none, a)) ∧
    (shadow_page_of fuel st sptep ≠ none → a.pool = [] →
      kvm_mmu_get_child_sp fuel mmu_valid_gen sptep gfn true access st a =
        (some (some 0, st), { a with pool := [], taken := a.taken ++ [⟨0, 0⟩] })) := by
  unfold kvm_mmu_get_child_sp
  rw [hread]
  dsimp only
  rw [hmissing]
  refine ⟨fun hpage => ?_, fun hpage hpool => ?_⟩
  · rw [hpage]
    rfl
  · obtain ⟨parent_sp, hparent⟩ := Option.ne_none_iff_exists'.mp hpage
    rw [hparent]
    dsimp only
    rw [kvm_mmu_alloc_shadow_page_null (by rw [hpool]; rfl), hpool]
    rfl

/-- Where the entry has a child, nothing is taken. -/
theorem kvm_mmu_get_child_sp_there {sptep : Sptep} {gfn : ℕ} {access : BitVec 32} {st : DirectState}
    {a : SpAlloc} {spte : BitVec 64} (hread : kvm_tdp_mmu_read_spte st.m sptep = some spte)
    (hpresent : is_shadow_present_pte spte = true) (hlarge : is_large_pte spte = false) :
    kvm_mmu_get_child_sp fuel mmu_valid_gen sptep gfn true access st a = (some (none, st), a) := by
  unfold kvm_mmu_get_child_sp
  rw [hread]
  dsimp only
  rw [hpresent, hlarge]
  rfl

/-- An entry above the last level without a child is not there, or is large. -/
theorem missing_of_no_child {m : PtMem} {level pt i : ℕ} (hlevel : level ≠ PG_LEVEL_4K)
    (hnone : (radix mm m).child level pt i = none) :
    (is_shadow_present_pte (m.entry pt i) && !is_large_pte (m.entry pt i)) = false := by
  by_contra hthere
  rw [Bool.not_eq_false, Bool.and_eq_true, Bool.not_eq_true'] at hthere
  have hlast : is_last_spte (m.entry pt i) level = false := by
    unfold is_last_spte
    rw [hthere.2, Bool.or_false]
    exact beq_false_of_ne hlevel
  rw [child_of_spte hthere.1 hlast] at hnone
  cases hnone

/-- **The way down** to the entry at which the tables end. -/
theorem direct_map_loop_walk {st : DirectState} {addr : ℕ} (l : ℕ) :
    ∀ (pt rounds : ℕ) (w : DirectWalk) (a : SpAlloc), 1 ≤ l → Allocated mm st.m l pt → l < rounds →
      w.it.level = l → w.it.addr = addr → mm.virt w.it.shadow_addr = pt →
      w.fault.goal_level = PG_LEVEL_4K →
      WalkTakes mm fuel l pt (addr / 4096) st a
        (direct_map_loop mm masks fuel mmu_valid_gen rounds w st a).2 := by
  induction l with
  | zero =>
    intro pt rounds w a hl
    omega
  | succ l ih =>
    intro pt rounds w a hl halloc hrounds hlevel hit hpt hgoal
    obtain ⟨rounds, rfl⟩ : ∃ k, rounds = k + 1 := ⟨rounds - 1, by omega⟩
    set i := addr / 4096 / 512 ^ l % 512 with hidx
    have hi : i < 512 := Nat.mod_lt _ (by omega)
    have hread := read_spte halloc.self hi
    have hread' : kvm_tdp_mmu_read_spte st.m ⟨pt, addr / 4096 / 512 ^ l % 512⟩ =
        some (st.m.entry pt i) := hread
    unfold direct_map_loop direct_round
    rw [shadow_walk_okay_at hlevel hpt]
    dsimp only
    rw [hit, direct_adjust_spec hgoal (by dsimp only; rw [hread']; rfl)]
    dsimp only
    rw [hlevel, hgoal, ← hidx]
    rcases hc : (radix mm st.m).child (l + 1) pt i with _ | c
    · -- the tables end here
      obtain ⟨hlast, hend⟩ := last_of_no_child hc
      by_cases h1 : l + 1 = PG_LEVEL_4K
      · rw [if_pos h1]
        refine ⟨fun _ => rfl, fun _ => rfl, fun hne => ?_⟩
        rw [hend] at hne
        exact absurd h1 hne
      · rw [if_neg h1]
        have hmissing := missing_of_no_child h1 hc
        obtain ⟨hunknown, hnull⟩ := @kvm_mmu_get_child_sp_missing fuel mmu_valid_gen ⟨pt, i⟩
          (gfn_round_for_level winHpage w.fault.gfn (l + 1)) (ACC_ALL.setWidth 32) st a _ hread hmissing
        by_cases hpage : shadow_page_of fuel st ⟨pt, i⟩ = none
        · rw [hunknown hpage]
          refine ⟨fun _ => rfl, fun _ => rfl, fun _ hsome => ?_⟩
          rw [hlast] at hsome
          exact absurd hpage hsome
        · refine ⟨fun hreached => ?_, fun hnone => ?_, fun _ _ hpool => ?_⟩
          · rw [hend] at hreached
            exact absurd hreached h1
          · rw [hlast] at hnone
            exact absurd hnone hpage
          · -- linking the `NULL` page faults
            rw [hnull hpage hpool]
            rfl
    · -- the walk goes on in the child
      obtain ⟨hl1, hpresent, hnotlast, hchild, hnext⟩ := @shadow_walk_next_child mm st.m
        (KvmShadowWalkIterator.mk addr w.it.shadow_addr ⟨pt, i⟩ (l + 1) i) l pt i c rfl hc
      have h1 : ¬ l + 1 = PG_LEVEL_4K := by
        rw [PG_LEVEL_4K]
        omega
      have hlarge : is_large_pte (st.m.entry pt i) = false := by
        unfold is_last_spte at hnotlast
        exact (Bool.or_eq_false_iff.mp hnotlast).2
      have hround : kvm_mmu_get_child_sp fuel mmu_valid_gen ⟨pt, i⟩
          (gfn_round_for_level winHpage w.fault.gfn (l + 1)) true (ACC_ALL.setWidth 32) st a =
          (some (none, st), a) :=
        kvm_mmu_get_child_sp_there hread hpresent hlarge
      rw [if_neg h1, hround]
      dsimp only
      rw [direct_next_there hread, hnext]
      apply WalkTakes.of_child hc
      exact ih c rounds ⟨KvmShadowWalkIterator.mk addr
        (st.m.entry pt i &&& SPTE_BASE_ADDR_MASK) ⟨pt, i⟩ l i,
        gfn_round_for_level winHpage w.fault.gfn (l + 1), w.fault⟩ a hl1 (halloc.child hi hc) (by omega)
        rfl rfl hchild hgoal

/-! ## What a call takes -/

/-- The adjustment of the level leaves level 1. -/
theorem MapFault.adjusted {max_huge_page_level : ℕ} {fault : KvmPageFault} (h : MapFault fault)
    (hhuge : 1 ≤ max_huge_page_level) : ∃ fault',
      kvm_mmu_hugepage_adjust max_huge_page_level fault = some fault' ∧
        fault'.goal_level = PG_LEVEL_4K := by
  have hsome : (kvm_mmu_hugepage_adjust max_huge_page_level fault).isSome := by
    unfold kvm_mmu_hugepage_adjust
    dsimp only
    split
    · rfl
    · split
      · rfl
      · next hnoslot =>
        rcases h.slot with hslot | hslot
        · obtain ⟨slot, hslot⟩ := Option.isSome_iff_exists.mp hslot
          rw [hslot, Option.bind_eq_bind, Option.bind_some]
          split
          · rfl
          · split
            · rfl
            · rfl
        · exact absurd hslot hnoslot
  obtain ⟨fault', hadjust⟩ := Option.isSome_iff_exists.mp hsome
  refine ⟨fault', hadjust, ?_⟩
  rw [(kvm_mmu_hugepage_adjust_spec hhuge h.max hadjust).2, h.goal]

variable {max_huge_page_level : ℕ} {mmu : KvmMmu} {root : BitVec 64} {fault : DirectFault}
  {st : DirectState} {a : SpAlloc}

/-- The call takes what its loop takes. -/
theorem direct_map_loop_of (hhuge : 1 ≤ max_huge_page_level) (hfault : MapFault fault.toKvmPageFault)
    (hlevel : mmu.root_role.level = 4 ∨ mmu.root_role.level = 5)
    (hdirect : mmu.root_role.direct = true) (a : SpAlloc) : ∃ w : DirectWalk,
      w.it.level = mmu.root_role.level ∧ w.it.addr = fault.addr ∧ w.it.shadow_addr = root ∧
      w.fault.goal_level = PG_LEVEL_4K ∧
      (direct_map mm masks host fuel mmu_valid_gen max_huge_page_level mmu root fault st a).2 =
        (direct_map_loop mm masks fuel mmu_valid_gen (mmu.root_role.level + 1) w st a).2 := by
  obtain ⟨adjusted, hadjust, hgoal⟩ := hfault.adjusted hhuge
  refine ⟨⟨⟨fault.addr, root, ⟨0, 0⟩, mmu.root_role.level, 0⟩, fault.gfn,
    { fault with toKvmPageFault := adjusted }⟩, rfl, rfl, rfl, hgoal, ?_⟩
  unfold direct_map
  rw [hadjust]
  dsimp only
  rw [shadow_walk_init_direct mmu root fault.addr hlevel hdirect]

/-- **One call of `direct_map`** takes what it needs from full caches, if the pool has an `spt_info`
for each level. -/
theorem direct_map_from_caches (hhuge : 1 ≤ max_huge_page_level)
    (hfault : MapFault fault.toKvmPageFault)
    (hlevel : mmu.root_role.level = 4 ∨ mmu.root_role.level = 5)
    (hdirect : mmu.root_role.direct = true) (hnew : a.taken = []) (hsupplied : Supplied a)
    (hpool : ∀ i < PT64_ROOT_MAX_LEVEL, a.pool.getD i 0 ≠ 0) :
    FromCaches a (direct_map mm masks host fuel mmu_valid_gen max_huge_page_level mmu root fault st
      a).2 := by
  obtain ⟨w, hw, -, -, -, hloop⟩ := @direct_map_loop_of mm masks host fuel mmu_valid_gen
    max_huge_page_level mmu root fault st hhuge hfault hlevel hdirect a
  have h5 : PT64_ROOT_MAX_LEVEL = 5 := rfl
  have henough := hsupplied.enough
  obtain ⟨n, hn⟩ := @direct_map_loop_took mm masks fuel mmu_valid_gen (mmu.root_role.level + 1) w st a
    (fun i hi => hpool i (by omega)) (by omega)
  rw [hloop]
  exact hsupplied.took hnew hn

/-- A call that takes nothing. -/
theorem FromCaches.nothing {a a' : SpAlloc} (h : a'.taken = []) : FromCaches a a' := by
  refine ⟨?_, fun b hb => ?_⟩
  · rw [h]
    exact List.nil_prefix
  · rw [h] at hb
    cases hb

/-- **Whatever the pool answers**, the call takes what it needs from full caches exactly when no table
is missing above level 1, or the page of the entry at which the tables end is not found. -/
theorem direct_map_every_pool_iff (hhuge : 1 ≤ max_huge_page_level)
    (hfault : MapFault fault.toKvmPageFault)
    (hlevel : mmu.root_role.level = 4 ∨ mmu.root_role.level = 5)
    (hdirect : mmu.root_role.direct = true)
    (halloc : Allocated mm st.m mmu.root_role.level (mm.virt root)) (hnew : a.taken = []) :
    (∀ pool, FromCaches a (direct_map mm masks host fuel mmu_valid_gen max_huge_page_level mmu root
        fault st { a with pool := pool }).2) ↔
      lastLevel mm st.m mmu.root_role.level (mm.virt root) (fault.addr / 4096) = PG_LEVEL_4K ∨
        shadow_page_of fuel st
          (lastSptep mm st.m mmu.root_role.level (mm.virt root) (fault.addr / 4096)) = none := by
  have hwalk : ∀ pool, WalkTakes mm fuel mmu.root_role.level (mm.virt root) (fault.addr / 4096) st
      { a with pool := pool } (direct_map mm masks host fuel mmu_valid_gen max_huge_page_level mmu
        root fault st { a with pool := pool }).2 := by
    intro pool
    obtain ⟨w, hw, haddr, hroot, hgoal, hloop⟩ := @direct_map_loop_of mm masks host fuel mmu_valid_gen
      max_huge_page_level mmu root fault st hhuge hfault hlevel hdirect { a with pool := pool }
    rw [hloop]
    exact direct_map_loop_walk mmu.root_role.level _ _ w _ (by omega) halloc (by omega) hw haddr
      (by rw [hroot]) hgoal
  constructor
  · intro hall
    by_contra hneither
    rw [not_or] at hneither
    have htaken := (hwalk []).null hneither.1 hneither.2 rfl
    have hnull := (hall []).nonnull ⟨0, 0⟩ (by
      rw [htaken]
      exact List.mem_append_right _ List.mem_cons_self)
    exact hnull.1 rfl
  · rintro (hreached | hunknown) pool
    · exact .nothing (((hwalk pool).reached hreached).trans hnew)
    · exact .nothing (((hwalk pool).unknown hunknown).trans hnew)

/-! ## The caches of a vCPU and its faults -/

/-- A call of `kvm_tdp_mmu_map` on the tables of a root of level 4 or 5, which the caches do not hold
pages of. -/
structure TdpMapCall (mm : Mm) (masks : PteMasks) (max_huge_page_level : ℕ) (root_hpa : BitVec 64)
    (fault : KvmPageFault) (st : MapState) (a : SpAlloc) (root : KvmMmuPage) : Prop where
  masks : ∃ has_ad_bits has_exec_only,
    masks.toSpteMasks = kvm_mmu_set_ept_masks has_ad_bits has_exec_only
  huge : 1 ≤ max_huge_page_level
  fault : MapFault fault
  header : st.headers (to_shadow_page mm root_hpa) = some root
  level : root.role.level = 4 ∨ root.role.level = 5
  tree : PageTree mm st.tdp.m root.role.level root.spt
  fresh : FreshBlocks mm st.tdp.m a.blocks

/-- A call of `direct_map` on the tables of a direct MMU of level 4 or 5. -/
structure DirectMapCall (mm : Mm) (max_huge_page_level : ℕ) (mmu : KvmMmu) (root : BitVec 64)
    (fault : DirectFault) (st : DirectState) : Prop where
  huge : 1 ≤ max_huge_page_level
  fault : MapFault fault.toKvmPageFault
  level : mmu.root_role.level = 4 ∨ mmu.root_role.level = 5
  direct : mmu.root_role.direct = true
  tables : Allocated mm st.m mmu.root_role.level (mm.virt root)

/-- **The page caches.** After every run of top-ups for at most 40 objects and allocations, whatever
the pool answers, a cache is right. After a top-up of the caches of a vCPU that succeeds, a call of
`kvm_tdp_mmu_map` takes all its headers and tables from them, and they are memory. A call of
`direct_map` does so if the pool has an `spt_info` for each level; it does so whatever the pool answers
exactly when no table is missing above level 1, or the page of the entry at which the tables end is not
found. -/
theorem page_caches_iff {pool : List ℕ} {ops : List CacheOp} {before after : LoadState}
    {maybe_indirect : Bool} (hpool : (live pool).Nodup)
    (hops : ∀ min : ℤ, .topup min ∈ ops → min ≤ KVM_ARCH_NR_OBJS_PER_MEMORY_CACHE)
    (hrun : CachesRun before.vcpu)
    (htopup : mmu_topup_memory_caches maybe_indirect before = (LoadStatus.STATUS_SUCCESS, after)) :
    CacheRight (cacheRun pool ops) ∧
    (∀ (mm : Mm) (masks : PteMasks) (host : SpteHost) (sptep_to_sp : Sptep → ℕ)
      (generation : BitVec 64) (max_huge_page_level fuel : ℕ) (root_hpa : BitVec 64) (iter : TdpIter)
      (fault : KvmPageFault) (st : MapState) (root : KvmMmuPage),
      TdpMapCall mm masks max_huge_page_level root_hpa fault st (spAlloc after) root →
      FromCaches (spAlloc after) (kvm_tdp_mmu_map_cached mm masks host sptep_to_sp generation
        max_huge_page_level fuel root_hpa iter fault st (spAlloc after)).2) ∧
    ∀ (mm : Mm) (masks : PteMasks) (host : SpteHost) (fuel mmu_valid_gen max_huge_page_level : ℕ)
      (mmu : KvmMmu) (root : BitVec 64) (fault : DirectFault) (st : DirectState),
      DirectMapCall mm max_huge_page_level mmu root fault st →
      ((∀ i < PT64_ROOT_MAX_LEVEL, after.pool.getD i 0 ≠ 0) →
        FromCaches (spAlloc after) (direct_map mm masks host fuel mmu_valid_gen max_huge_page_level mmu
          root fault st (spAlloc after)).2) ∧
      ((∀ pool, FromCaches (spAlloc after) (direct_map mm masks host fuel mmu_valid_gen
          max_huge_page_level mmu root fault st { spAlloc after with pool := pool }).2) ↔
        lastLevel mm st.m mmu.root_role.level (mm.virt root) (fault.addr / 4096) = PG_LEVEL_4K ∨
          shadow_page_of fuel st
            (lastSptep mm st.m mmu.root_role.level (mm.virt root) (fault.addr / 4096)) = none) := by
  have hsupplied := mmu_topup_memory_caches_supplied hrun htopup
  refine ⟨(cacheRun_inv hpool hops).right, ?_, ?_⟩
  · intro mm masks host sptep_to_sp generation max_huge_page_level fuel root_hpa iter fault st root h
    obtain ⟨has_ad_bits, has_exec_only, hmasks⟩ := h.masks
    exact kvm_tdp_mmu_map_from_caches hmasks h.huge h.fault h.header h.level h.tree h.fresh rfl
      hsupplied
  · intro mm masks host fuel mmu_valid_gen max_huge_page_level mmu root fault st h
    refine ⟨fun hinfos => ?_, ?_⟩
    · exact direct_map_from_caches h.huge h.fault h.level h.direct rfl hsupplied hinfos
    · exact direct_map_every_pool_iff h.huge h.fault h.level h.direct h.tables rfl

/-! ### A first fault -/

/-- A new vCPU, and a pool that has 14, five and five objects for its caches and nothing more. -/
def coldState : LoadState where
  kvm := newKvm
  vcpu := { newVcpu none none none with
    mmu_pte_list_desc_cache := zeroCache
    mmu_shadow_page_cache := zeroCache
    mmu_page_header_cache := zeroCache }
  pool := [0x200000] ++ List.replicate 14 0x201000 ++ [0] ++
    [0x210000, 0x2000, 0x3000, 0x4000, 0x5000, 0x6000, 0] ++
    [0x220000, 0x102000, 0x103000, 0x104000, 0x105000, 0x106000, 0]

/-- The same after the top-up. -/
def warmState : LoadState := (mmu_topup_memory_caches false coldState).2

/-- A write fault on gfn 0, whose frame is `0x77`. -/
def zeroFault : DirectFault where
  toKvmPageFault := { fiveFault with gfn := 0 }
  addr := 0
  write := true

/-- The shadow page of a root of role `0x84` at `0x1000`, made after `kvm_mmu_create`. -/
def rootShadow : SpState :=
  ((ShadowPage.kvm_mmu_create 0 0x800000 0x900000 ShadowPage.noPages).bind fun s =>
    (ShadowPage.kvm_mmu_alloc_shadow_page 0 0 ⟨0x84⟩ ⟨0xA00000, 0x101000, 0x1000, 0⟩ s).map
      Prod.snd).getD ShadowPage.noPages

theorem shadow_page_of_found {fuel sp : ℕ} {m : PtMem} {sps : SpState} {pt : ℕ}
    (h : ShadowPage.sptep_to_sp fuel sps pt = some sp) (hsp : sp ≠ 0) :
    shadow_page_of fuel ⟨m, sps⟩ ⟨pt, 0⟩ = sps.pages sp := by
  unfold shadow_page_of
  dsimp only
  rw [Nat.mul_zero, Nat.add_zero, h, Option.bind_eq_bind, Option.bind_some, if_neg hsp]

/-- The header of the root is found by the first entry of its table. -/
theorem rootShadow_page : shadow_page_of 2 ⟨emptyRoot, rootShadow⟩ ⟨0x1000, 0⟩ ≠ none := by
  obtain ⟨m, hcreate, hlast, hothers⟩ :=
    ShadowPage.kvm_mmu_create_spec 0 0x800000 0x900000 ShadowPage.noPages
  have hnone : m.next 0xA00008 = none := by
    refine hothers _ fun _ i hi => ?_
    rw [MpHash.bucketAt]
    omega
  have hempty := ShadowPage.holds_empty (hlast (by decide)) fun _ => 0
  rw [if_neg (by decide)] at hcreate
  obtain ⟨shadow, halloc, hfound, hpage⟩ := @ShadowPage.sptep_to_sp_first
    ⟨⟨0, 0x4000, 0x900000⟩, m, ShadowPage.noPages.info_sp, ShadowPage.noPages.pages⟩ _ 0 0 ⟨0x84⟩
    ⟨0xA00000, 0x101000, 0x1000, 0⟩ hempty (by decide) (by decide) (by decide) hnone
  have hroot : rootShadow = shadow := by
    unfold rootShadow
    rw [hcreate, Option.bind_some, halloc]
    rfl
  rw [hroot, shadow_page_of_found hfound (by decide)]
  exact hpage

/-- The first fault of a vCPU whose caches are full, when the pool has nothing left. -/
def firstDirectMap : Option (DirectRet × DirectState) × SpAlloc :=
  direct_map flatMm eptMasks ⟨0, false⟩ 2 0 1 ⟨⟨0x84⟩, 4, fun _ => 0⟩ 0x1000 zeroFault
    ⟨emptyRoot, rootShadow⟩ (spAlloc warmState)

theorem firstDirectMap_call : DirectMapCall flatMm 1 ⟨⟨0x84⟩, 4, fun _ => 0⟩ 0x1000 zeroFault
    ⟨emptyRoot, rootShadow⟩ :=
  ⟨by decide, ⟨Or.inl rfl, rfl, by decide, by decide⟩, Or.inl (by decide), by decide,
    emptyRoot_tree.allocated⟩

/-- The top-up has succeeded, and the header of the first table is `NULL`. -/
theorem first_direct_map_null :
    mmu_topup_memory_caches false coldState = (LoadStatus.STATUS_SUCCESS, warmState) ∧
      ¬ FromCaches (spAlloc warmState) firstDirectMap.2 := by
  have hsuccess : (mmu_topup_memory_caches false coldState).1 = LoadStatus.STATUS_SUCCESS := by
    decide
  refine ⟨Prod.ext hsuccess rfl, fun h => ?_⟩
  have hcall := firstDirectMap_call
  obtain ⟨w, hw, haddr, hroot, hgoal, hloop⟩ := @direct_map_loop_of flatMm eptMasks ⟨0, false⟩ 2 0 1
    ⟨⟨0x84⟩, 4, fun _ => 0⟩ 0x1000 zeroFault ⟨emptyRoot, rootShadow⟩ hcall.huge hcall.fault hcall.level
    hcall.direct (spAlloc warmState)
  have hwalk := @direct_map_loop_walk flatMm eptMasks 2 0 ⟨emptyRoot, rootShadow⟩ 0 4 0x1000 5 w
    (spAlloc warmState) (by decide) hcall.tables (by decide) hw haddr (by rw [hroot]; decide) hgoal
  have htaken := hwalk.null (by decide) rootShadow_page rfl
  have hnull := h.nonnull ⟨0, 0⟩ (by
    unfold firstDirectMap
    rw [hloop]
    exact htaken ▸ List.mem_cons_self)
  exact hnull.1 rfl

theorem warmState_fresh : FreshBlocks flatMm emptyRoot (spAlloc warmState).blocks := by
  have hblocks : (spAlloc warmState).blocks = [⟨0x106000, 0x6000⟩, ⟨0x105000, 0x5000⟩,
      ⟨0x104000, 0x4000⟩, ⟨0x103000, 0x3000⟩, ⟨0x102000, 0x2000⟩] := rfl
  rw [hblocks]
  exact emptyRoot_fresh (by decide) (by decide) (by decide) (by decide)

/-- A run on a cache, and the first faults of the vCPU: of the TDP MMU, and of `direct_map` with no page
in `g_Table`. -/
theorem page_caches_first :
    CacheRight (cacheRun [0x200000, 0x2000, 0] [.topup 1, .alloc]) ∧
      FromCaches (spAlloc warmState) (kvm_tdp_mmu_map_cached flatMm eptMasks ⟨0, false⟩
        (fun p => p.pt + 0x100000) 0 3 8 0x101000 blankIter fiveFault emptyRootState
        (spAlloc warmState)).2 ∧
      FromCaches (spAlloc warmState) (direct_map flatMm eptMasks ⟨0, false⟩ 1 0 1
        ⟨⟨0x84⟩, 4, fun _ => 0⟩ 0x1000 zeroFault ⟨emptyRoot, ShadowPage.noPages⟩
        { spAlloc warmState with pool := [] }).2 := by
  have hruns : CachesRun coldState.vcpu := by
    have hzero : ∃ pool ops, (live pool).Nodup ∧
        (∀ min : ℤ, .topup min ∈ ops → min ≤ KVM_ARCH_NR_OBJS_PER_MEMORY_CACHE) ∧
        zeroCache = (cacheRun pool ops).mc :=
      ⟨[], [], List.nodup_nil, fun _ h => absurd h List.not_mem_nil, rfl⟩
    exact ⟨hzero, hzero⟩
  have htopup := first_direct_map_null.1
  have hfault : MapFault fiveFault := ⟨Or.inl rfl, rfl, by decide, by decide⟩
  have hzero : MapFault zeroFault.toKvmPageFault := ⟨Or.inl rfl, rfl, by decide, by decide⟩
  have htdp : TdpMapCall flatMm eptMasks 3 0x101000 fiveFault emptyRootState (spAlloc warmState)
      rootPage :=
    ⟨⟨true, false, rfl⟩, by decide, hfault, by decide, Or.inl (by decide), emptyRoot_tree,
      warmState_fresh⟩
  have hdirect : DirectMapCall flatMm 1 ⟨⟨0x84⟩, 4, fun _ => 0⟩ 0x1000 zeroFault
      ⟨emptyRoot, ShadowPage.noPages⟩ :=
    ⟨by decide, hzero, Or.inl (by decide), by decide, emptyRoot_tree.allocated⟩
  have hunknown : shadow_page_of 1 ⟨emptyRoot, ShadowPage.noPages⟩
      (lastSptep flatMm emptyRoot 4 0x1000 0) = none := rfl
  have hops : ∀ min : ℤ, .topup min ∈ [CacheOp.topup 1, .alloc] →
      min ≤ KVM_ARCH_NR_OBJS_PER_MEMORY_CACHE := by
    intro min hmin
    have h1 : min = 1 := by
      simpa using hmin
    rw [h1]
    decide
  have hpool : (live [0x200000, 0x2000, 0]).Nodup := by
    decide
  obtain ⟨hcache, hmap, hdirectmap⟩ := page_caches_iff hpool hops hruns htopup
  refine ⟨hcache, ?_, ?_⟩
  · exact hmap flatMm eptMasks ⟨0, false⟩ (fun p => p.pt + 0x100000) 0 3 8 0x101000 blankIter fiveFault
      emptyRootState rootPage htdp
  · exact (hdirectmap flatMm eptMasks ⟨0, false⟩ 1 0 1 ⟨⟨0x84⟩, 4, fun _ => 0⟩ 0x1000 zeroFault
      ⟨emptyRoot, ShadowPage.noPages⟩ hdirect).2.mpr (Or.inr hunknown) []

end Svmx.Tdp
