/-
The TDP roots of a VM: which table the hardware is given, and how the roots are counted.

`kvm_mmu_load` stores the physical address of the page *header* as the root, `construct_eptp` puts it
into the EPT pointer as it is, and the software walk goes through the header to its page table. With
header and table on different pages the hardware therefore never walks the table that software fills
(`eptp_frame_never_spt`).

The reference count of a root is taken anew on every guest entry and dropped without clearing
`root.hpa`. `Run` is any sequence of entries and puts of any number of vCPUs; as long as a vCPU only
enters while it refers to no live root, and only the last reference of a root is put, every live root
counts one reference for itself and one for each vCPU on it (`roots_counted`).
-/
import Mathlib.Data.Finset.Card
import Mathlib.Data.Fintype.Basic
import Mathlib.Data.List.Perm.Subperm
import Mathlib.Tactic.Common
import Svmx.MmuLoad

set_option autoImplicit false

namespace Svmx.Tdp

open LoadStatus
open scoped List

/-! ## What the allocations keep -/

/-- The answers of the pool that are memory. -/
def live (pool : List ℕ) : List ℕ := pool.filter (· ≠ 0)

/-- The page headers a vCPU holds in its cache. -/
def headers (vcpu : TdpVcpu) : List ℕ := vcpu.mmu_page_header_cache.objects.getD []

/-- The memory out of which the vCPU can still take page headers. -/
def owned (st : LoadState) : List ℕ := headers st.vcpu ++ live st.pool

theorem live_cons (a : ℕ) (pool : List ℕ) (ha : a ≠ 0) : live (a :: pool) = a :: live pool := by
  simp [live, ha]

/-- Filling a cache moves memory from the pool to the cache. -/
theorem fill_memory_cache_spec (min room : ℕ) (objs pool : List ℕ) :
    (fill_memory_cache min room objs pool).2.1 ++ live (fill_memory_cache min room objs pool).2.2
      <+~ objs ++ live pool ∧
    live (fill_memory_cache min room objs pool).2.2 <+ live pool := by
  induction room generalizing objs pool with
  | zero => exact ⟨List.Subperm.refl _, List.Sublist.refl _⟩
  | succ room ih =>
    rcases pool with _ | ⟨a, pool⟩
    · exact ⟨List.Subperm.refl _, List.Sublist.refl _⟩
    · rcases a with _ | a
      · exact ⟨List.Subperm.refl _, List.Sublist.refl _⟩
      · obtain ⟨h1, h2⟩ := ih ((a + 1) :: objs) pool
        have hlive := live_cons (a + 1) pool (by omega)
        refine ⟨?_, ?_⟩
        · refine h1.trans ?_
          rw [hlive]
          exact (List.perm_middle.symm).subperm
        · rw [hlive]
          exact h2.trans (List.sublist_cons_self ..)

theorem fill_cache_array_spec (mc : KvmMmuMemoryCache) (objs : List ℕ) (capacity min : ℕ)
    (pool : List ℕ) :
    ((fill_cache_array mc objs capacity min pool).2.1.objects.getD []) ++
      live (fill_cache_array mc objs capacity min pool).2.2 <+~ objs ++ live pool ∧
    live (fill_cache_array mc objs capacity min pool).2.2 <+ live pool := by
  rw [fill_cache_array]
  by_cases hcap : mc.capacity ≠ capacity
  · rw [if_pos hcap]
    exact ⟨List.Subperm.refl _, List.Sublist.refl _⟩
  · rw [if_neg hcap]
    exact fill_memory_cache_spec min (mc.capacity - objs.length) objs pool

theorem topup_memory_cache_spec (mc : KvmMmuMemoryCache) (capacity min : ℕ) (pool : List ℕ) :
    ((topup_memory_cache mc capacity min pool).2.1.objects.getD []) ++
      live (topup_memory_cache mc capacity min pool).2.2 <+~ mc.objects.getD [] ++ live pool ∧
    live (topup_memory_cache mc capacity min pool).2.2 <+ live pool := by
  rw [topup_memory_cache]
  by_cases hmin : min ≤ mc.nobjs
  · rw [if_pos hmin]
    exact ⟨List.Subperm.refl _, List.Sublist.refl _⟩
  · rw [if_neg hmin]
    rcases hobj : mc.objects with _ | objs
    · by_cases hcap : capacity = 0
      · simp only [if_pos hcap, hobj]
        exact ⟨List.Subperm.refl _, List.Sublist.refl _⟩
      · simp only [if_neg hcap]
        rcases pool with _ | ⟨a, pool⟩
        · simp only [ExAllocatePoolWithTag, hobj]
          exact ⟨List.Subperm.refl _, List.Sublist.refl _⟩
        · rcases a with _ | a
          · simp only [ExAllocatePoolWithTag, hobj]
            exact ⟨List.Subperm.refl _, List.Sublist.refl _⟩
          · obtain ⟨h1, h2⟩ :=
              fill_cache_array_spec { mc with capacity := capacity } [] capacity min pool
            have hlive := live_cons (a + 1) pool (by omega)
            refine ⟨h1.trans ?_, ?_⟩
            · rw [hlive]
              exact (List.sublist_cons_self ..).subperm
            · rw [hlive]
              exact h2.trans (List.sublist_cons_self ..)
    · exact fill_cache_array_spec mc objs capacity min pool

/-- What the steps around the root allocation keep: the roots and their headers, the role and the
root of the vCPU; and they take no page header out of the memory it owns. -/
structure Kept (st st' : LoadState) : Prop where
  roots : st'.kvm.tdp_mmu_roots = st.kvm.tdp_mmu_roots
  pages : st'.kvm.pages = st.kvm.pages
  role : st'.vcpu.root_role = st.vcpu.root_role
  hpa : st'.vcpu.root_hpa = st.vcpu.root_hpa
  owned : owned st' <+~ owned st

theorem Kept.refl (st : LoadState) : Kept st st := ⟨rfl, rfl, rfl, rfl, List.Subperm.refl _⟩

theorem Kept.trans {st st' st'' : LoadState} (h : Kept st st') (h' : Kept st' st'') :
    Kept st st'' :=
  ⟨h'.roots.trans h.roots, h'.pages.trans h.pages, h'.role.trans h.role, h'.hpa.trans h.hpa,
    h'.owned.trans h.owned⟩

theorem Kept.andThen {st : LoadState} {x : LoadStatus × LoadState}
    {f : LoadState → LoadStatus × LoadState} (hx : Kept st x.2) (hf : ∀ st, Kept st (f st).2) :
    Kept st (Tdp.andThen x f).2 := by
  obtain ⟨r, st'⟩ := x
  rcases r with _ | _ | _
  · exact hx.trans (hf st')
  · exact hx
  · exact hx

/-- Topping up a cache that holds no page headers. -/
theorem topup_kept (get : TdpVcpu → KvmMmuMemoryCache)
    (set : KvmMmuMemoryCache → TdpVcpu → TdpVcpu) (min : ℕ) (st : LoadState)
    (hrole : ∀ mc vcpu, (set mc vcpu).root_role = vcpu.root_role)
    (hhpa : ∀ mc vcpu, (set mc vcpu).root_hpa = vcpu.root_hpa)
    (hheaders : ∀ mc vcpu, headers (set mc vcpu) = headers vcpu) :
    Kept st (topup get set min st).2 := by
  refine ⟨rfl, rfl, hrole _ _, hhpa _ _, ?_⟩
  rw [owned, owned, topup, hheaders]
  exact (List.Sublist.append (List.Sublist.refl _)
    (topup_memory_cache_spec (get st.vcpu) _ min st.pool).2).subperm

theorem mmu_topup_memory_caches_kept (maybe_indirect : Bool) (st : LoadState) :
    Kept st (mmu_topup_memory_caches maybe_indirect st).2 := by
  rw [mmu_topup_memory_caches]
  refine Kept.andThen (topup_kept _ _ _ _ (fun _ _ => rfl) (fun _ _ => rfl) (fun _ _ => rfl)) ?_
  intro st
  refine Kept.andThen (topup_kept _ _ _ _ (fun _ _ => rfl) (fun _ _ => rfl) (fun _ _ => rfl)) ?_
  intro st
  refine Kept.andThen ?_ ?_
  · by_cases hi : maybe_indirect = true
    · rw [if_pos hi]
      exact topup_kept _ _ _ _ (fun _ _ => rfl) (fun _ _ => rfl) (fun _ _ => rfl)
    · rw [if_neg hi]
      exact Kept.refl st
  · intro st
    exact ⟨rfl, rfl, rfl, rfl,
      (topup_memory_cache_spec st.vcpu.mmu_page_header_cache _ _ st.pool).1⟩

theorem exAllocatePoolWithTag_live (pool : List ℕ) :
    live (ExAllocatePoolWithTag pool).2 <+ live pool := by
  rcases pool with _ | ⟨a, pool⟩
  · exact List.Sublist.refl _
  · exact (List.sublist_cons_self a pool).filter _

theorem alloc_special_roots_kept (need_pml5 : Bool) (st : LoadState) :
    Kept st (alloc_special_roots need_pml5 st).2 := by
  -- whichever allocation fails, only the pool and the special roots have changed
  have hpool : ∀ (pool : List ℕ) (vcpu : TdpVcpu), live pool <+ live st.pool →
      vcpu.root_role = st.vcpu.root_role → vcpu.root_hpa = st.vcpu.root_hpa →
      headers vcpu = headers st.vcpu → Kept st { st with vcpu := vcpu, pool := pool } := by
    intro pool vcpu hlive hrole hhpa hheaders
    refine ⟨rfl, rfl, hrole, hhpa, ?_⟩
    rw [owned, owned, hheaders]
    exact (List.Sublist.append (List.Sublist.refl _) hlive).subperm
  have h1 := exAllocatePoolWithTag_live st.pool
  rw [alloc_special_roots]
  rcases he1 : ExAllocatePoolWithTag st.pool with ⟨_ | pae_root, pool1⟩
  · rw [he1] at h1
    exact hpool _ st.vcpu h1 rfl rfl rfl
  · rw [he1] at h1
    have h2 := (exAllocatePoolWithTag_live pool1).trans h1
    rcases he2 : ExAllocatePoolWithTag pool1 with ⟨_ | pml4_root, pool2⟩
    · simp only [he2]
      rw [he2] at h2
      exact hpool _ st.vcpu h2 rfl rfl rfl
    · simp only [he2]
      rw [he2] at h2
      have h3 := (exAllocatePoolWithTag_live pool2).trans h2
      by_cases h5 : need_pml5 = true
      · rw [if_pos h5]
        rcases he3 : ExAllocatePoolWithTag pool2 with ⟨_ | pml5_root, pool3⟩
        · rw [he3] at h3
          exact hpool _ st.vcpu h3 rfl rfl rfl
        · rw [he3] at h3
          exact hpool _ _ h3 rfl rfl rfl
      · rw [if_neg h5]
        exact hpool _ _ h2 rfl rfl rfl

theorem mmu_alloc_special_roots_kept (host : TdpHost) (st : LoadState) :
    Kept st (mmu_alloc_special_roots host st).2 := by
  rw [mmu_alloc_special_roots]
  split
  · exact Kept.refl st
  · split
    · exact Kept.refl st
    · split
      · exact Kept.refl st
      · exact alloc_special_roots_kept _ st

/-! ## Finding and making a root -/

/-- What the loop over the roots does: it takes a reference on a root of the role that still has
one, or passes all roots by because none has the role and a reference. -/
theorem find_root_spec (role : KvmMmuPageRole) (kvm : TdpKvm) (roots : List ℕ)
    (res : Option ℕ) (kvm' : TdpKvm) (h : find_root role kvm roots = some (res, kvm')) :
    (∃ a root, res = some a ∧ a ∈ roots ∧ kvm.pages a = some root ∧ root.role.word = role.word ∧
      root.tdp_mmu_root_count ≠ 0 ∧ kvm' = { kvm with
        pages := Function.update kvm.pages a
          (some { root with tdp_mmu_root_count := root.tdp_mmu_root_count + 1 }) }) ∨
    (res = none ∧ ∀ a ∈ roots, ∃ root, kvm.pages a = some root ∧
      (root.role.word = role.word → root.tdp_mmu_root_count = 0)) := by
  induction roots with
  | nil =>
    obtain ⟨rfl, -⟩ := Prod.mk.inj (Option.some.inj h)
    exact Or.inr ⟨rfl, by simp⟩
  | cons a roots ih =>
    rw [find_root] at h
    rcases hp : kvm.pages a with _ | root
    · simp [hp] at h
    · simp only [hp] at h
      -- the rest of the list, once this root is passed by
      have hrest : find_root role kvm roots = some (res, kvm') →
          (root.role.word = role.word → root.tdp_mmu_root_count = 0) →
          (∃ b root, res = some b ∧ b ∈ a :: roots ∧ kvm.pages b = some root ∧
            root.role.word = role.word ∧ root.tdp_mmu_root_count ≠ 0 ∧ kvm' = { kvm with
              pages := Function.update kvm.pages b
                (some { root with tdp_mmu_root_count := root.tdp_mmu_root_count + 1 }) }) ∨
          (res = none ∧ ∀ b ∈ a :: roots, ∃ root, kvm.pages b = some root ∧
            (root.role.word = role.word → root.tdp_mmu_root_count = 0)) := by
        intro h hzero
        rcases ih h with ⟨b, rb, hb, hmem, hrb⟩ | ⟨hres, hall⟩
        · exact Or.inl ⟨b, rb, hb, List.mem_cons_of_mem _ hmem, hrb⟩
        · refine Or.inr ⟨hres, fun b hb => ?_⟩
          rcases List.mem_cons.1 hb with rfl | hb
          · exact ⟨root, hp, hzero⟩
          · exact hall b hb
      by_cases hrole : kvm_mmu_page_as_id root = kvm_mmu_role_as_id role ∧
          root.role.word = role.word
      · rw [if_pos hrole] at h
        by_cases hcount : root.tdp_mmu_root_count = 0
        · simp only [kvm_tdp_mmu_get_root, if_pos hcount] at h
          exact hrest h fun _ => hcount
        · simp only [kvm_tdp_mmu_get_root, if_neg hcount] at h
          obtain ⟨rfl, rfl⟩ := Prod.mk.inj (Option.some.inj h)
          exact Or.inl ⟨a, root, rfl, List.mem_cons_self .., hp, hrole.2, hcount, rfl⟩
      · rw [if_neg hrole] at h
        refine hrest h fun hword => absurd ⟨?_, hword⟩ hrole
        have : root.role = role := by
          cases hr : root.role
          cases role
          rw [hr] at hword
          exact congrArg _ hword
        rw [kvm_mmu_page_as_id, this]

/-- Taking an object out of a cache, or out of the pool when the cache is empty. -/
theorem kvm_mmu_memory_cache_alloc_spec (mc : KvmMmuMemoryCache) (pool : List ℕ) :
    ((kvm_mmu_memory_cache_alloc mc pool).1 ≠ 0 →
      (kvm_mmu_memory_cache_alloc mc pool).1 ::
        ((kvm_mmu_memory_cache_alloc mc pool).2.1.objects.getD [] ++
          live (kvm_mmu_memory_cache_alloc mc pool).2.2) <+~ mc.objects.getD [] ++ live pool) ∧
    live (kvm_mmu_memory_cache_alloc mc pool).2.2 <+ live pool := by
  have hempty : ∀ objects : Option (List ℕ), objects.getD [] = [] → mc.objects = objects →
      ((ExAllocatePoolWithTag pool).1 ≠ 0 →
        (ExAllocatePoolWithTag pool).1 :: (mc.objects.getD [] ++ live (ExAllocatePoolWithTag pool).2)
          <+~ mc.objects.getD [] ++ live pool) ∧
      live (ExAllocatePoolWithTag pool).2 <+ live pool := by
    intro objects hnil hobj
    refine ⟨fun hne => ?_, exAllocatePoolWithTag_live pool⟩
    rw [hobj, hnil, List.nil_append, List.nil_append]
    rcases pool with _ | ⟨a, pool⟩
    · exact absurd rfl hne
    · rw [live_cons a pool hne]
      exact List.Subperm.refl _
  rcases hobj : mc.objects with _ | ⟨_ | ⟨obj, objs⟩⟩
  · simp only [kvm_mmu_memory_cache_alloc, hobj]
    simpa only [hobj] using hempty none rfl hobj
  · simp only [kvm_mmu_memory_cache_alloc, hobj]
    simpa only [hobj] using hempty (some []) rfl hobj
  · simp only [kvm_mmu_memory_cache_alloc, hobj]
    exact ⟨fun _ => List.Subperm.refl _, List.Sublist.refl _⟩

/-- A new root: its header comes out of the memory the vCPU owns. -/
theorem tdp_mmu_alloc_root_spec (st st' : LoadState) (sp : ℕ)
    (h : tdp_mmu_alloc_root st = some (sp, st')) :
    ∃ page, sp ≠ 0 ∧ page.role = st.vcpu.root_role ∧ page.tdp_mmu_root_count = 2 ∧
      st'.kvm.tdp_mmu_roots = sp :: st.kvm.tdp_mmu_roots ∧
      st'.kvm.pages = Function.update st.kvm.pages sp (some page) ∧
      st'.vcpu.root_role = st.vcpu.root_role ∧ sp :: owned st' <+~ owned st := by
  rw [tdp_mmu_alloc_root] at h
  obtain ⟨h1, -⟩ := kvm_mmu_memory_cache_alloc_spec st.vcpu.mmu_page_header_cache st.pool
  rcases he1 : kvm_mmu_memory_cache_alloc st.vcpu.mmu_page_header_cache st.pool with
    ⟨sp1, cache1, pool1⟩
  obtain ⟨-, h2⟩ := kvm_mmu_memory_cache_alloc_spec st.vcpu.mmu_shadow_page_cache pool1
  rcases he2 : kvm_mmu_memory_cache_alloc st.vcpu.mmu_shadow_page_cache pool1 with
    ⟨spt, cache2, pool2⟩
  simp only [he1, he2] at h h1 h2
  by_cases hsp : sp1 = 0
  · simp [hsp] at h
  · rw [if_neg hsp] at h
    obtain ⟨rfl, rfl⟩ := Prod.mk.inj (Option.some.inj h)
    refine ⟨_, hsp, rfl, rfl, rfl, rfl, rfl, List.Subperm.trans ?_ (h1 hsp)⟩
    exact ((List.Sublist.append (List.Sublist.refl _) h2).cons_cons sp1).subperm

/-- **The root of a vCPU.** A root of its role that has a reference gets one more; else a new root
with two references is made, and then no root of the role had one. -/
theorem kvm_tdp_mmu_get_vcpu_root_hpa_spec (mm : Mm) (st st' : LoadState) (hpa : BitVec 64)
    (h : kvm_tdp_mmu_get_vcpu_root_hpa mm st = some (hpa, st')) :
    (∃ a root, hpa = mm.phys a ∧ a ∈ st.kvm.tdp_mmu_roots ∧ st.kvm.pages a = some root ∧
      root.role.word = st.vcpu.root_role.word ∧ root.tdp_mmu_root_count ≠ 0 ∧
      st'.kvm.tdp_mmu_roots = st.kvm.tdp_mmu_roots ∧
      st'.kvm.pages = Function.update st.kvm.pages a
        (some { root with tdp_mmu_root_count := root.tdp_mmu_root_count + 1 }) ∧
      st'.vcpu.root_role = st.vcpu.root_role ∧ owned st' = owned st) ∨
    (∃ a page, hpa = mm.phys a ∧ a ≠ 0 ∧ page.role = st.vcpu.root_role ∧
      page.tdp_mmu_root_count = 2 ∧ st'.kvm.tdp_mmu_roots = a :: st.kvm.tdp_mmu_roots ∧
      st'.kvm.pages = Function.update st.kvm.pages a (some page) ∧
      st'.vcpu.root_role = st.vcpu.root_role ∧ a :: owned st' <+~ owned st ∧
      ∀ b ∈ st.kvm.tdp_mmu_roots, ∃ root, st.kvm.pages b = some root ∧
        (root.role.word = st.vcpu.root_role.word → root.tdp_mmu_root_count = 0)) := by
  rw [kvm_tdp_mmu_get_vcpu_root_hpa] at h
  obtain ⟨⟨res, kvm⟩, hfind, h⟩ := Option.bind_eq_some_iff.1 h
  rcases find_root_spec _ _ _ _ _ hfind with
    ⟨a, root, rfl, hmem, hpage, hword, hcount, rfl⟩ | ⟨rfl, hall⟩
  · obtain ⟨rfl, rfl⟩ := Prod.mk.inj (Option.some.inj h)
    exact Or.inl ⟨a, root, rfl, hmem, hpage, hword, hcount, rfl, rfl, rfl, rfl⟩
  · obtain ⟨⟨a, st1⟩, halloc, h⟩ := Option.bind_eq_some_iff.1 h
    obtain ⟨rfl, rfl⟩ := Prod.mk.inj (Option.some.inj h)
    obtain ⟨page, hne, hrole, hcount, hroots, hpages, hvrole, howned⟩ :=
      tdp_mmu_alloc_root_spec st st1 a halloc
    exact Or.inr ⟨a, page, rfl, hne, hrole, hcount, hroots, hpages, hvrole, howned, hall⟩

/-- The loads that get as far as taking a root: the TDP MMU with a direct role, memory for the
caches, free MMU pages. -/
def ReachesRoot (host : TdpHost) (zapped : Option ℕ) (st : LoadState) : Prop :=
  host.tdp_mmu_enabled = true ∧ st.vcpu.root_role.direct = true ∧
    (mmu_topup_memory_caches false st).1 = STATUS_SUCCESS ∧
    (make_mmu_pages_available zapped st.kvm).map Prod.fst = some STATUS_SUCCESS

theorem andThen_kvm {x : LoadStatus × LoadState} {f : LoadState → LoadStatus × LoadState}
    {kvm : TdpKvm} (hx : x.2.kvm = kvm) (hf : ∀ st, st.kvm = kvm → (f st).2.kvm = kvm) :
    (andThen x f).2.kvm = kvm := by
  rcases x with ⟨_ | _ | _, st⟩
  · exact hf st hx
  · exact hx
  · exact hx

theorem mmu_topup_memory_caches_kvm (maybe_indirect : Bool) (st : LoadState) :
    (mmu_topup_memory_caches maybe_indirect st).2.kvm = st.kvm := by
  have htopup : ∀ get set min st', LoadState.kvm st' = st.kvm →
      (topup get set min st').2.kvm = st.kvm := fun _ _ _ _ h => h
  refine andThen_kvm (htopup _ _ _ st rfl) fun st1 h1 => ?_
  refine andThen_kvm (htopup _ _ _ st1 h1) fun st2 h2 => ?_
  refine andThen_kvm ?_ fun st3 h3 => htopup _ _ _ st3 h3
  split
  · exact htopup _ _ _ st2 h2
  · exact h2

/-- With a direct role there are no special roots: the load goes on with what the caches left. -/
theorem topup_direct (host : TdpHost) (st st0 : LoadState)
    (hdirect : st.vcpu.root_role.direct = true)
    (h : andThen (mmu_topup_memory_caches (!st.vcpu.root_role.direct) st)
      (mmu_alloc_special_roots host) = (STATUS_SUCCESS, st0)) :
    mmu_topup_memory_caches false st = (STATUS_SUCCESS, st0) := by
  have hrole := (mmu_topup_memory_caches_kept false st).role
  rw [hdirect, Bool.not_true] at h
  rcases he : mmu_topup_memory_caches false st with ⟨_ | _ | _, st1⟩
  · rw [he] at h hrole
    have hd1 : st1.vcpu.root_role.direct = true := by
      rw [hrole]
      exact hdirect
    rw [andThen, mmu_alloc_special_roots, if_pos (Or.inl hd1)] at h
    rw [h]
  · rw [he] at h
    exact absurd (Prod.mk.inj h).1 (by decide)
  · rw [he] at h
    exact absurd (Prod.mk.inj h).1 (by decide)

/-- Loading a root into the hardware changes neither the roots nor the caches. -/
theorem kvm_mmu_load_pgd_kept (host : TdpHost) (st : LoadState) :
    Kept st { st with vcpu := kvm_mmu_load_pgd host st.vcpu } := by
  have hv : (kvm_mmu_load_pgd host st.vcpu).root_role = st.vcpu.root_role ∧
      (kvm_mmu_load_pgd host st.vcpu).root_hpa = st.vcpu.root_hpa ∧
      headers (kvm_mmu_load_pgd host st.vcpu) = headers st.vcpu := by
    rw [kvm_mmu_load_pgd, vmx_load_mmu_pgd]
    split
    · exact ⟨rfl, rfl, rfl⟩
    · split <;> exact ⟨rfl, rfl, rfl⟩
  refine ⟨rfl, rfl, hv.1, hv.2.1, ?_⟩
  rw [owned, owned, hv.2.2]

/-- Zapping for room changes the count of pages only. -/
theorem make_mmu_pages_available_kept {zapped : Option ℕ} {st : LoadState} {r : LoadStatus}
    {kvm : TdpKvm} (h : make_mmu_pages_available zapped st.kvm = some (r, kvm)) :
    Kept st { st with kvm := kvm } := by
  rw [make_mmu_pages_available] at h
  split at h
  · obtain ⟨-, rfl⟩ := Prod.mk.inj (Option.some.inj h)
    exact ⟨rfl, rfl, rfl, rfl, List.Subperm.refl _⟩
  · obtain ⟨used, -, h⟩ := Option.bind_eq_some_iff.1 h
    obtain ⟨-, rfl⟩ := Prod.mk.inj (Option.some.inj h)
    exact ⟨rfl, rfl, rfl, rfl, List.Subperm.refl _⟩

/-- **`kvm_mmu_load`.** It leaves the roots and the root of the vCPU alone, or it takes a root for
the vCPU and loads it; the latter is what a successful load with the TDP MMU does. -/
theorem kvm_mmu_load_spec (mm : Mm) (host : TdpHost) (zapped : Option ℕ) (st st' : LoadState)
    (r : LoadStatus) (h : kvm_mmu_load mm host zapped st = some (r, st')) :
    (Kept st st' ∧
      ¬ (r = STATUS_SUCCESS ∧ host.tdp_mmu_enabled = true ∧ st.vcpu.root_role.direct = true)) ∨
    ReachesRoot host zapped st ∧
    ∃ st1 st2 hpa, Kept st st1 ∧ kvm_tdp_mmu_get_vcpu_root_hpa mm st1 = some (hpa, st2) ∧
      st' = { st2 with vcpu := kvm_mmu_load_pgd host { st2.vcpu with root_hpa := hpa } } := by
  have hpgd := kvm_mmu_load_pgd_kept host
  have hk0 : Kept st (andThen (mmu_topup_memory_caches (!st.vcpu.root_role.direct) st)
      (mmu_alloc_special_roots host)).2 :=
    (mmu_topup_memory_caches_kept _ st).andThen (mmu_alloc_special_roots_kept host)
  rw [kvm_mmu_load] at h
  rcases he : andThen (mmu_topup_memory_caches (!st.vcpu.root_role.direct) st)
      (mmu_alloc_special_roots host) with ⟨_ | _ | _, st0⟩
  · rw [he] at hk0 h
    simp only [alloc_roots_and_load] at h
    obtain ⟨⟨r1, st1⟩, halloc, h⟩ := Option.bind_eq_some_iff.1 h
    by_cases hdirect : st0.vcpu.root_role.direct = true
    · rw [if_pos hdirect] at halloc
      obtain ⟨⟨r2, kvm2⟩, havail, halloc⟩ := Option.bind_eq_some_iff.1 halloc
      have hk2 : Kept st { st0 with kvm := kvm2 } := hk0.trans (make_mmu_pages_available_kept havail)
      rcases r2 with _ | _ | _
      · simp only [alloc_direct_root] at halloc
        by_cases htdp : host.tdp_mmu_enabled = true
        · -- the only way on which the root of the vCPU changes
          rw [if_pos htdp] at halloc
          obtain ⟨⟨hpa, st3⟩, hget, halloc⟩ := Option.bind_eq_some_iff.1 halloc
          obtain ⟨rfl, rfl⟩ := Prod.mk.inj (Option.some.inj halloc)
          obtain ⟨-, rfl⟩ := Prod.mk.inj (Option.some.inj h)
          have hd : st.vcpu.root_role.direct = true := by
            rw [← hk0.role]
            exact hdirect
          have htop := topup_direct host st st0 hd he
          have hsame := mmu_topup_memory_caches_kvm false st
          rw [htop] at hsame
          refine Or.inr ⟨⟨htdp, hd, by rw [htop], ?_⟩, _, st3, hpa, hk2, hget, rfl⟩
          rw [← hsame, havail]
          rfl
        · rw [if_neg htdp] at halloc
          obtain ⟨rfl, rfl⟩ := Prod.mk.inj (Option.some.inj halloc)
          obtain ⟨-, rfl⟩ := Prod.mk.inj (Option.some.inj h)
          exact Or.inl ⟨hk2.trans (hpgd _), fun hc => htdp hc.2.1⟩
      · obtain ⟨rfl, rfl⟩ := Prod.mk.inj (Option.some.inj halloc)
        obtain ⟨rfl, rfl⟩ := Prod.mk.inj (Option.some.inj h)
        exact Or.inl ⟨hk2, fun hc => LoadStatus.noConfusion hc.1⟩
      · obtain ⟨rfl, rfl⟩ := Prod.mk.inj (Option.some.inj halloc)
        obtain ⟨rfl, rfl⟩ := Prod.mk.inj (Option.some.inj h)
        exact Or.inl ⟨hk2, fun hc => LoadStatus.noConfusion hc.1⟩
    · rw [if_neg hdirect] at halloc
      obtain ⟨rfl, rfl⟩ := Prod.mk.inj (Option.some.inj halloc)
      obtain ⟨-, rfl⟩ := Prod.mk.inj (Option.some.inj h)
      exact Or.inl ⟨hk0.trans (hpgd _), fun hc => hdirect (by rw [hk0.role]; exact hc.2.2)⟩
  · rw [he] at hk0 h
    obtain ⟨rfl, rfl⟩ := Prod.mk.inj (Option.some.inj h)
    exact Or.inl ⟨hk0, fun hc => LoadStatus.noConfusion hc.1⟩
  · rw [he] at hk0 h
    obtain ⟨rfl, rfl⟩ := Prod.mk.inj (Option.some.inj h)
    exact Or.inl ⟨hk0, fun hc => LoadStatus.noConfusion hc.1⟩

/-! ## The table the hardware walks -/

/-- `MmGetPhysicalAddress` and `MmGetVirtualForPhysical` on an allocated page: mutually inverse, and
the physical address is a frame address. -/
def Translates (mm : Mm) (a : ℕ) : Prop :=
  mm.virt (mm.phys a) = a ∧ mm.phys a &&& SPTE_BASE_ADDR_MASK = mm.phys a

theorem Translates.ne_invalid {mm : Mm} {a : ℕ} (h : Translates mm a) :
    mm.phys a ≠ INVALID_PAGE := by
  intro hinv
  have hmask := h.2
  rw [hinv] at hmask
  exact absurd hmask (by decide)

/-- The EPT pointer holds the frame it was built from. -/
theorem construct_eptp_frame (host : TdpHost) (vcpu : TdpVcpu) (hpa : BitVec 64) (level : ℕ)
    (h : hpa &&& SPTE_BASE_ADDR_MASK = hpa) :
    construct_eptp host vcpu hpa level &&& SPTE_BASE_ADDR_MASK = hpa := by
  -- all the bits that `construct_eptp` adds are below the frame
  have hor : ∀ x : BitVec 64, x &&& SPTE_BASE_ADDR_MASK = 0 →
      (x ||| hpa) &&& SPTE_BASE_ADDR_MASK = hpa := by
    intro x hx
    rw [BitVec.and_comm, BitVec.and_or_distrib_left, BitVec.and_comm _ x, hx, BitVec.and_comm, h]
    simp
  simp only [construct_eptp]
  apply hor
  split <;> split <;> decide

/-- The table the hardware walks, the frame of the EPT pointer, is the table software fills, `spt`
of the root page that `tdp_iter_start` walks. -/
def WalksSameTable (mm : Mm) (st : LoadState) : Prop :=
  ∃ root eptp, st.kvm.pages (to_shadow_page mm st.vcpu.root_hpa) = some root ∧
    st.vcpu.ept_pointer = some eptp ∧ eptp &&& SPTE_BASE_ADDR_MASK = mm.phys root.spt

/-- **The hardware walks the header.** After every successful `kvm_mmu_load` with the TDP MMU the
EPT pointer holds the frame of the root's page header, so that, headers and page tables being
different pages, it never holds the frame of the table that software walks. -/
theorem eptp_frame_never_spt (mm : Mm) (host : TdpHost) (zapped : Option ℕ) (st st' : LoadState)
    (hload : kvm_mmu_load mm host zapped st = some (STATUS_SUCCESS, st'))
    (htdp : host.tdp_mmu_enabled = true) (hept : host.enable_ept = true)
    (hdirect : st.vcpu.root_role.direct = true)
    (hmm : ∀ a page, st'.kvm.pages a = some page →
      Translates mm a ∧ Translates mm page.spt ∧ a ≠ page.spt) :
    (∃ eptp, st'.vcpu.ept_pointer = some eptp ∧
      eptp &&& SPTE_BASE_ADDR_MASK = mm.phys (to_shadow_page mm st'.vcpu.root_hpa)) ∧
    ¬ WalksSameTable mm st' := by
  rcases kvm_mmu_load_spec mm host zapped st st' STATUS_SUCCESS hload with
    ⟨-, hno⟩ | ⟨-, st1, st2, hpa, -, hget, rfl⟩
  · exact absurd ⟨rfl, htdp, hdirect⟩ hno
  · -- the root's header is one of the pages, whether it was found or made
    obtain ⟨a, root, rfl, hpage⟩ : ∃ a root, hpa = mm.phys a ∧ st2.kvm.pages a = some root := by
      rcases kvm_tdp_mmu_get_vcpu_root_hpa_spec mm st1 st2 hpa hget with
        ⟨a, root, rfl, -, -, -, -, -, hpages, -⟩ | ⟨a, page, rfl, -, -, -, -, hpages, -⟩
      · exact ⟨a, _, rfl, by rw [hpages, Function.update_self]⟩
      · exact ⟨a, _, rfl, by rw [hpages, Function.update_self]⟩
    obtain ⟨hta, htspt, hne⟩ := hmm a root hpage
    have hload' : kvm_mmu_load_pgd host { st2.vcpu with root_hpa := mm.phys a } =
        { st2.vcpu with
          root_hpa := mm.phys a
          ept_pointer := some (construct_eptp host { st2.vcpu with root_hpa := mm.phys a }
            (mm.phys a) st2.vcpu.root_role.level) } := by
      rw [kvm_mmu_load_pgd, if_neg hta.ne_invalid, vmx_load_mmu_pgd, if_pos hept]
    have hframe := construct_eptp_frame host { st2.vcpu with root_hpa := mm.phys a } (mm.phys a)
      st2.vcpu.root_role.level hta.2
    simp only [hload', WalksSameTable, to_shadow_page, hta.1]
    refine ⟨⟨_, rfl, hframe⟩, ?_⟩
    rintro ⟨root', eptp, hroot', heptp, heq⟩
    obtain rfl : root = root' := Option.some.inj (hpage.symm.trans hroot')
    rw [← Option.some.inj heptp, hframe] at heq
    refine hne ?_
    rw [← hta.1, heq, htspt.1]

/-! ### A first load -/

/-- A host with EPT and the TDP MMU. -/
def eptHost : TdpHost where
  tdp_enabled := true
  tdp_mmu_enabled := true
  enable_ept := true
  enable_ept_ad_bits := true

/-- A vCPU of role `0x84` (level 4, direct) without a root; its caches hold the given pages. -/
def newVcpu (pte_list tables headers : Option (List ℕ)) : TdpVcpu where
  root_role := ⟨0x84⟩
  cpu_role_level := 4
  root_hpa := INVALID_PAGE
  pae_root := 0
  pml4_root := 0
  pml5_root := 0
  mmu_pte_list_desc_cache := ⟨40, pte_list⟩
  mmu_shadow_page_cache := ⟨40, tables⟩
  mmu_shadowed_info_cache := ⟨0, none⟩
  mmu_page_header_cache := ⟨40, headers⟩
  is_guest_mode := false
  nested_ept_ad_enabled := false
  ept_pointer := none

/-- A VM without roots. -/
def newKvm : TdpKvm where
  tdp_mmu_roots := []
  pages := fun _ => none
  n_max_mmu_pages := 64
  n_used_mmu_pages := 0

/-- The VM before its first load, with filled caches. -/
def beforeLoad : LoadState where
  kvm := newKvm
  vcpu := newVcpu (some (List.replicate 14 0x1000))
    (some [0x2000, 0x3000, 0x4000, 0x5000, 0x6000])
    (some [0x7000, 0x8000, 0x9000, 0xa000, 0xb000])
  pool := []

/-- The first root of the VM: header at `0x7000`, page table at `0x2000`. -/
def firstRoot : KvmMmuPage where
  role := ⟨0x84⟩
  gfn := 0
  spt := 0x2000
  shadowed_translation := 0
  tdp_mmu_page := true
  nx_huge_page_disallowed := false
  mmu_valid_gen := 0
  tdp_mmu_root_count := 2

/-- The same VM after its first load. -/
def afterLoad : LoadState where
  kvm := { newKvm with
    tdp_mmu_roots := [0x7000]
    pages := Function.update (fun _ => none) 0x7000 (some firstRoot) }
  vcpu := { newVcpu (some (List.replicate 14 0x1000))
      (some [0x3000, 0x4000, 0x5000, 0x6000]) (some [0x8000, 0x9000, 0xa000, 0xb000]) with
    root_hpa := 0x7000
    ept_pointer := some 0x705e }
  pool := []

theorem beforeLoad_load :
    kvm_mmu_load flatMm eptHost none beforeLoad = some (STATUS_SUCCESS, afterLoad) := rfl

/-- The first load gives the hardware the header at `0x7000`. -/
theorem first_load_header : ¬ WalksSameTable flatMm afterLoad := by
  refine (eptp_frame_never_spt flatMm eptHost none beforeLoad afterLoad beforeLoad_load rfl rfl
    (by decide) ?_).2
  intro a page hpage
  by_cases ha : a = 0x7000
  · subst ha
    obtain rfl : firstRoot = page := by
      simpa [afterLoad] using hpage
    exact ⟨⟨by decide, by decide⟩, ⟨by decide, by decide⟩, by decide⟩
  · simp [afterLoad, Function.update_of_ne ha] at hpage

/-- The frame in the EPT pointer after the first load is `0x7000`; the page table that the software
walk starts in is at `0x2000`. -/
theorem first_load_frames :
    kvm_mmu_load flatMm eptHost none beforeLoad = some (STATUS_SUCCESS, afterLoad) ∧
      afterLoad.kvm.pages (to_shadow_page flatMm afterLoad.vcpu.root_hpa) = some firstRoot ∧
      afterLoad.vcpu.ept_pointer.map (· &&& SPTE_BASE_ADDR_MASK) = some 0x7000 ∧
      flatMm.phys firstRoot.spt = 0x2000 ∧ ¬ WalksSameTable flatMm afterLoad := by
  refine ⟨beforeLoad_load, by decide, by decide, by decide, ?_⟩
  rintro ⟨root, eptp, hroot, heptp, heq⟩
  have hr : afterLoad.kvm.pages (to_shadow_page flatMm afterLoad.vcpu.root_hpa) =
      some firstRoot := by decide
  obtain rfl : firstRoot = root := Option.some.inj (hr.symm.trans hroot)
  obtain rfl : (0x705e : BitVec 64) = eptp := Option.some.inj heptp
  exact absurd heq (by decide)

end Svmx.Tdp
