/-
Loading an MMU root: the page caches of `kvm_main.c`, `kvm_mmu_load` of `mmu.c`, the TDP roots of
`tdp_mmu.c`, and the EPT pointer that `vmx.c` writes.

`ExAllocatePoolWithTag` is the kernel's; a list of answers stands for it, `0` (or the end of the
list) being a failed allocation. `kvm_mmu_zap_oldest_mmu_pages` works on `active_mmu_pages`, to which
no TDP root is linked; its outcome is an input, the number of pages in use afterwards, or `none`
if it does not come back. `tdp_mmu_roots` is a list of page headers, first entry first, and the
headers are looked up by address; following a pointer that is no header faults (`none`).
-/
import Mathlib.Data.List.Count
import Mathlib.Logic.Function.Basic
import Svmx.Spte

set_option autoImplicit false

namespace Svmx.Tdp

/-! ## Page caches -/

/-- The `NTSTATUS` values that `kvm_mmu_load` returns; the two errors are negative. -/
inductive LoadStatus where
  | STATUS_SUCCESS
  | STATUS_NO_MEMORY
  | STATUS_IO_DEVICE_ERROR
deriving DecidableEq, Repr

open LoadStatus

/-- The next answer of `ExAllocatePoolWithTag`. -/
def ExAllocatePoolWithTag : List ℕ → ℕ × List ℕ
  | [] => (0, [])
  | a :: pool => (a, pool)

/-- `struct kvm_mmu_memory_cache`. `objects` is `none` while the array is not allocated; the object
that was put last comes first, and `nobjs` is the length. -/
structure KvmMmuMemoryCache where
  capacity : ℕ
  objects : Option (List ℕ)
deriving DecidableEq

def KvmMmuMemoryCache.nobjs (mc : KvmMmuMemoryCache) : ℕ := (mc.objects.getD []).length

def KVM_ARCH_NR_OBJS_PER_MEMORY_CACHE : ℕ := 40

/-- The loop of `__kvm_mmu_topup_memory_cache`; the first argument is the room left. -/
def fill_memory_cache (min : ℕ) : ℕ → List ℕ → List ℕ → LoadStatus × List ℕ × List ℕ
  | 0, objs, pool => (STATUS_SUCCESS, objs, pool)
  | room + 1, objs, pool =>
    match ExAllocatePoolWithTag pool with
    | (0, pool) => (if min ≤ objs.length then STATUS_SUCCESS else STATUS_NO_MEMORY, objs, pool)
    | (obj, pool) => fill_memory_cache min room (obj :: objs) pool

/-- The second half of `__kvm_mmu_topup_memory_cache`, on a cache with an array. -/
def fill_cache_array (mc : KvmMmuMemoryCache) (objs : List ℕ) (capacity min : ℕ) (pool : List ℕ) :
    LoadStatus × KvmMmuMemoryCache × List ℕ :=
  if mc.capacity ≠ capacity then (STATUS_IO_DEVICE_ERROR, { mc with objects := some objs }, pool)
  else
    let (r, objs, pool) := fill_memory_cache min (mc.capacity - objs.length) objs pool
    (r, { mc with objects := some objs }, pool)

/-- `__kvm_mmu_topup_memory_cache`. -/
def topup_memory_cache (mc : KvmMmuMemoryCache) (capacity min : ℕ) (pool : List ℕ) :
    LoadStatus × KvmMmuMemoryCache × List ℕ :=
  if min ≤ mc.nobjs then (STATUS_SUCCESS, mc, pool)
  else
    match mc.objects with
    | some objs => fill_cache_array mc objs capacity min pool
    | none =>
      if capacity = 0 then (STATUS_IO_DEVICE_ERROR, mc, pool)
      else
        match ExAllocatePoolWithTag pool with
        | (0, pool) => (STATUS_NO_MEMORY, mc, pool)
        | (_, pool) => fill_cache_array { mc with capacity := capacity } [] capacity min pool

/-- `kvm_mmu_topup_memory_cache`. -/
def kvm_mmu_topup_memory_cache (mc : KvmMmuMemoryCache) (min : ℕ) (pool : List ℕ) :
    LoadStatus × KvmMmuMemoryCache × List ℕ :=
  topup_memory_cache mc KVM_ARCH_NR_OBJS_PER_MEMORY_CACHE min pool

/-- `kvm_mmu_memory_cache_alloc`. -/
def kvm_mmu_memory_cache_alloc (mc : KvmMmuMemoryCache) (pool : List ℕ) :
    ℕ × KvmMmuMemoryCache × List ℕ :=
  match mc.objects with
  | some (obj :: objs) => (obj, { mc with objects := some objs }, pool)
  | _ =>
    let (obj, pool) := ExAllocatePoolWithTag pool
    (obj, mc, pool)

/-! ## The state -/

/-- The part of `struct kvm` that loading a root reads or writes. -/
structure TdpKvm where
  tdp_mmu_roots : List ℕ
  pages : ℕ → Option KvmMmuPage
  n_max_mmu_pages : ℕ
  n_used_mmu_pages : ℕ

/-- The part of `struct kvm_vcpu`, with the `EPT_POINTER` field of its VMCS. -/
structure TdpVcpu where
  root_role : KvmMmuPageRole
  cpu_role_level : ℕ
  root_hpa : BitVec 64
  pae_root : ℕ
  pml4_root : ℕ
  pml5_root : ℕ
  mmu_pte_list_desc_cache : KvmMmuMemoryCache
  mmu_shadow_page_cache : KvmMmuMemoryCache
  mmu_shadowed_info_cache : KvmMmuMemoryCache
  mmu_page_header_cache : KvmMmuMemoryCache
  is_guest_mode : Bool
  nested_ept_ad_enabled : Bool
  ept_pointer : Option (BitVec 64)

/-- The module parameters. -/
structure TdpHost where
  tdp_enabled : Bool
  tdp_mmu_enabled : Bool
  enable_ept : Bool
  enable_ept_ad_bits : Bool

/-- What one call of `kvm_mmu_load` works on. -/
structure LoadState where
  kvm : TdpKvm
  vcpu : TdpVcpu
  pool : List ℕ

def INVALID_PAGE : BitVec 64 := ~~~0

/-! ## Caches and special roots -/

/-- One line `r = kvm_mmu_topup_memory_cache(…); if (r) return r;`. -/
def topup (get : TdpVcpu → KvmMmuMemoryCache) (set : KvmMmuMemoryCache → TdpVcpu → TdpVcpu)
    (min : ℕ) (st : LoadState) : LoadStatus × LoadState :=
  let (r, mc, pool) := kvm_mmu_topup_memory_cache (get st.vcpu) min st.pool
  (r, { st with vcpu := set mc st.vcpu, pool := pool })

/-- `if (r) return r;` between two calls. -/
def andThen (x : LoadStatus × LoadState) (f : LoadState → LoadStatus × LoadState) :
    LoadStatus × LoadState :=
  match x with
  | (STATUS_SUCCESS, st) => f st
  | x => x

def PT64_ROOT_MAX_LEVEL : ℕ := 5
def PTE_PREFETCH_NUM : ℕ := 8

/-- `mmu_topup_memory_caches`. -/
def mmu_topup_memory_caches (maybe_indirect : Bool) (st : LoadState) : LoadStatus × LoadState :=
  andThen (topup TdpVcpu.mmu_pte_list_desc_cache
    (fun mc vcpu => { vcpu with mmu_pte_list_desc_cache := mc })
    (1 + PT64_ROOT_MAX_LEVEL + PTE_PREFETCH_NUM) st) fun st =>
  andThen (topup TdpVcpu.mmu_shadow_page_cache
    (fun mc vcpu => { vcpu with mmu_shadow_page_cache := mc }) PT64_ROOT_MAX_LEVEL st) fun st =>
  andThen
    (if maybe_indirect then topup TdpVcpu.mmu_shadowed_info_cache
      (fun mc vcpu => { vcpu with mmu_shadowed_info_cache := mc }) PT64_ROOT_MAX_LEVEL st
    else (STATUS_SUCCESS, st)) fun st =>
  topup TdpVcpu.mmu_page_header_cache
    (fun mc vcpu => { vcpu with mmu_page_header_cache := mc }) PT64_ROOT_MAX_LEVEL st

/-- The allocations of `mmu_alloc_special_roots`. -/
def alloc_special_roots (need_pml5 : Bool) (st : LoadState) : LoadStatus × LoadState :=
  match ExAllocatePoolWithTag st.pool with
  | (0, pool) => (STATUS_NO_MEMORY, { st with pool := pool })
  | (pae_root, pool) =>
    match ExAllocatePoolWithTag pool with
    | (0, pool) => (STATUS_NO_MEMORY, { st with pool := pool })
    | (pml4_root, pool) =>
      if need_pml5 then
        match ExAllocatePoolWithTag pool with
        | (0, pool) => (STATUS_NO_MEMORY, { st with pool := pool })
        | (pml5_root, pool) =>
          (STATUS_SUCCESS, { st with
            vcpu := { st.vcpu with
              pae_root := pae_root, pml4_root := pml4_root, pml5_root := pml5_root }
            pool := pool })
      else
        (STATUS_SUCCESS, { st with
          vcpu := { st.vcpu with pae_root := pae_root, pml4_root := pml4_root, pml5_root := 0 }
          pool := pool })

/-- `mmu_alloc_special_roots`. -/
def mmu_alloc_special_roots (host : TdpHost) (st : LoadState) : LoadStatus × LoadState :=
  let need_pml5 := decide (4 < st.vcpu.root_role.level)
  if st.vcpu.root_role.direct ∨ 4 ≤ st.vcpu.cpu_role_level ∨ st.vcpu.root_role.level < 4 then
    (STATUS_SUCCESS, st)
  else if st.vcpu.pae_root ≠ 0 ∧ st.vcpu.pml4_root ≠ 0 ∧
      (need_pml5 = false ∨ st.vcpu.pml5_root ≠ 0) then
    (STATUS_SUCCESS, st)
  else if host.tdp_enabled = false ∨ st.vcpu.pae_root ≠ 0 ∨ st.vcpu.pml4_root ≠ 0 ∨
      (need_pml5 = true ∧ st.vcpu.pml5_root ≠ 0) then
    (STATUS_IO_DEVICE_ERROR, st)
  else alloc_special_roots need_pml5 st

/-! ## The TDP roots -/

/-- `kvm_tdp_mmu_get_root`: take a reference unless there is none left. -/
def kvm_tdp_mmu_get_root (root : KvmMmuPage) : Bool × KvmMmuPage :=
  if root.tdp_mmu_root_count = 0 then (false, root)
  else (true, { root with tdp_mmu_root_count := root.tdp_mmu_root_count + 1 })

/-- The loop of `kvm_tdp_mmu_get_vcpu_root_hpa` over the roots from some entry on. -/
def find_root (role : KvmMmuPageRole) (kvm : TdpKvm) : List ℕ → Option (Option ℕ × TdpKvm)
  | [] => some (none, kvm)
  | a :: roots =>
    match kvm.pages a with
    | none => none
    | some root =>
      if kvm_mmu_page_as_id root = kvm_mmu_role_as_id role ∧ root.role.word = role.word then
        match kvm_tdp_mmu_get_root root with
        | (true, root) => some (some a, { kvm with pages := Function.update kvm.pages a (some root) })
        | (false, _) => find_root role kvm roots
      else find_root role kvm roots

/-- `tdp_mmu_alloc_sp` and `tdp_mmu_init_sp` for a root: the header and its page table come from
the caches, zero-filled. -/
def tdp_mmu_alloc_root (st : LoadState) : Option (ℕ × LoadState) :=
  let (sp, headers, pool) := kvm_mmu_memory_cache_alloc st.vcpu.mmu_page_header_cache st.pool
  let (spt, tables, pool) := kvm_mmu_memory_cache_alloc st.vcpu.mmu_shadow_page_cache pool
  if sp = 0 then none
  else
    let page : KvmMmuPage :=
      { role := st.vcpu.root_role, gfn := 0, spt := spt, shadowed_translation := 0,
        tdp_mmu_page := true, nx_huge_page_disallowed := false, mmu_valid_gen := 0,
        tdp_mmu_root_count := 2 }
    some (sp, { st with
      kvm := { st.kvm with
        tdp_mmu_roots := sp :: st.kvm.tdp_mmu_roots
        pages := Function.update st.kvm.pages sp (some page) }
      vcpu := { st.vcpu with
        mmu_page_header_cache := headers
        mmu_shadow_page_cache := tables }
      pool := pool })

/-- `kvm_tdp_mmu_get_vcpu_root_hpa`. -/
def kvm_tdp_mmu_get_vcpu_root_hpa (mm : Mm) (st : LoadState) :
    Option (BitVec 64 × LoadState) := do
  match ← find_root st.vcpu.root_role st.kvm st.kvm.tdp_mmu_roots with
  | (some root, kvm) => some (mm.phys root, { st with kvm := kvm })
  | (none, _) => do
    let (root, st) ← tdp_mmu_alloc_root st
    some (mm.phys root, st)

/-- `kvm_tdp_mmu_put_root`; the flag says whether the root was unlinked. -/
def kvm_tdp_mmu_put_root (kvm : TdpKvm) (root : ℕ) : Option (Bool × TdpKvm) := do
  let page ← kvm.pages root
  let count := page.tdp_mmu_root_count - 1
  let pages := Function.update kvm.pages root (some { page with tdp_mmu_root_count := count })
  if count ≠ 0 then some (false, { kvm with pages := pages })
  else some (true, { kvm with pages := pages, tdp_mmu_roots := kvm.tdp_mmu_roots.erase root })

/-! ## Loading -/

def kvm_mmu_available_pages (kvm : TdpKvm) : ℕ :=
  if kvm.n_used_mmu_pages < kvm.n_max_mmu_pages then kvm.n_max_mmu_pages - kvm.n_used_mmu_pages
  else 0

def KVM_MIN_FREE_MMU_PAGES : ℕ := 5

/-- `make_mmu_pages_available`. -/
def make_mmu_pages_available (zapped : Option ℕ) (kvm : TdpKvm) : Option (LoadStatus × TdpKvm) :=
  if KVM_MIN_FREE_MMU_PAGES ≤ kvm_mmu_available_pages kvm then some (STATUS_SUCCESS, kvm)
  else do
    let used ← zapped
    let kvm := { kvm with n_used_mmu_pages := used }
    some (if kvm_mmu_available_pages kvm = 0 then STATUS_NO_MEMORY else STATUS_SUCCESS, kvm)

/-- The branches of `mmu_alloc_direct_roots` after there are pages. -/
def alloc_direct_root (mm : Mm) (host : TdpHost) (st : LoadState) :
    Option (LoadStatus × LoadState) :=
  if host.tdp_mmu_enabled then do
    let (root, st) ← kvm_tdp_mmu_get_vcpu_root_hpa mm st
    some (STATUS_SUCCESS, { st with vcpu := { st.vcpu with root_hpa := root } })
  else some (STATUS_SUCCESS, st)

/-- `mmu_alloc_direct_roots`. -/
def mmu_alloc_direct_roots (mm : Mm) (host : TdpHost) (zapped : Option ℕ) (st : LoadState) :
    Option (LoadStatus × LoadState) := do
  match ← make_mmu_pages_available zapped st.kvm with
  | (STATUS_SUCCESS, kvm) => alloc_direct_root mm host { st with kvm := kvm }
  | (r, kvm) => some (r, { st with kvm := kvm })

/-- `mmu_alloc_shadow_roots` allocates nothing. -/
def mmu_alloc_shadow_roots (st : LoadState) : Option (LoadStatus × LoadState) :=
  some (STATUS_SUCCESS, st)

def VMX_EPTP_MT_WB : BitVec 64 := 0x6
def VMX_EPTP_PWL_4 : BitVec 64 := 0x18
def VMX_EPTP_PWL_5 : BitVec 64 := 0x20
def VMX_EPTP_AD_ENABLE_BIT : BitVec 64 := 1 <<< 6

/-- `construct_eptp`. -/
def construct_eptp (host : TdpHost) (vcpu : TdpVcpu) (root_hpa : BitVec 64) (root_level : ℕ) :
    BitVec 64 :=
  let eptp := VMX_EPTP_MT_WB
  let eptp := eptp ||| (if root_level = 5 then VMX_EPTP_PWL_5 else VMX_EPTP_PWL_4)
  let eptp := if host.enable_ept_ad_bits &&
      (!vcpu.is_guest_mode || vcpu.nested_ept_ad_enabled) then eptp ||| VMX_EPTP_AD_ENABLE_BIT
    else eptp
  eptp ||| root_hpa

/-- `vmx_load_mmu_pgd`, its `EPT_POINTER` half. -/
def vmx_load_mmu_pgd (host : TdpHost) (vcpu : TdpVcpu) (root_hpa : BitVec 64) (root_level : ℕ) :
    TdpVcpu :=
  if host.enable_ept then
    { vcpu with ept_pointer := some (construct_eptp host vcpu root_hpa root_level) }
  else vcpu

/-- `kvm_mmu_load_pgd`. -/
def kvm_mmu_load_pgd (host : TdpHost) (vcpu : TdpVcpu) : TdpVcpu :=
  if vcpu.root_hpa = INVALID_PAGE then vcpu
  else vmx_load_mmu_pgd host vcpu vcpu.root_hpa vcpu.root_role.level

/-- The root allocation and the load of `kvm_mmu_load`. -/
def alloc_roots_and_load (mm : Mm) (host : TdpHost) (zapped : Option ℕ) (st : LoadState) :
    Option (LoadStatus × LoadState) := do
  match ← (if st.vcpu.root_role.direct then mmu_alloc_direct_roots mm host zapped st
      else mmu_alloc_shadow_roots st) with
  | (STATUS_SUCCESS, st) =>
    some (STATUS_SUCCESS, { st with vcpu := kvm_mmu_load_pgd host st.vcpu })
  | x => some x

/-- `kvm_mmu_load`. -/
def kvm_mmu_load (mm : Mm) (host : TdpHost) (zapped : Option ℕ) (st : LoadState) :
    Option (LoadStatus × LoadState) :=
  match andThen (mmu_topup_memory_caches (!st.vcpu.root_role.direct) st)
      (mmu_alloc_special_roots host) with
  | (STATUS_SUCCESS, st) => alloc_roots_and_load mm host zapped st
  | x => some x

/-- `to_shadow_page`. -/
def to_shadow_page (mm : Mm) (shadow_page : BitVec 64) : ℕ := mm.virt shadow_page

end Svmx.Tdp
