/-
The memory-slot layer: `kvm_host.h` (structures, `id_to_memslot`, the gfn-range iterator),
`kvm_main.c` (`__kvm_set_memory_region` and everything below it) and the arch hooks of `x86.c`.

A slot is a block of pool memory. Its plain fields are a cell of `Kvm.slot`; its embedded nodes
`id_node[idx]` and `gfn_node[idx]` are cells of the hash table and of the tree of the memslot set
with that `node_idx`, under the address of the slot (`CONTAINING_RECORD` is the identity). There
is one address space (`KVM_ADDRESS_SPACE_NUM` is 1), so an address-space id other than 0 indexes
past `kvm->memslots` and is the outcome `none`.

`none` stands for everything after which the machine does not go on: a read or write through
NULL or through a block that is not allocated, `KeBugCheckEx`, `ExFreePool` of NULL or of a
block that is not allocated, and a loop that runs out of fuel. Pool allocation is an input: for
each call `PoolAnswers` says which addresses the allocations return (`0` is a failure) and, for
blocks the code reads before writing, what they contain.
-/
import Svmx.RbTree
import Svmx.Hlist
import Svmx.Hpage

set_option autoImplicit false

namespace Svmx.MemSlot

open RbTree Hlist

/-! ## Data model -/

def KVM_MEM_LOG_DIRTY_PAGES : BitVec 32 := 1
def KVM_MEM_READONLY : BitVec 32 := 2
def KVM_ADDRESS_SPACE_NUM : ℕ := 1
def KVM_MEM_SLOTS_NUM : ℕ := 32767
def KVM_MEM_MAX_NR_PAGES : ℕ := 2 ^ 31 - 1
def KVM_MEMSLOT_GEN_UPDATE_IN_PROGRESS : BitVec 64 := 1#64 <<< 63
def KVM_MEMSLOT_PAGES_TO_MMU_PAGES_RATIO : ℕ := 50
def KVM_MIN_ALLOC_MMU_PAGES : ℕ := 64

/-- `HASH_BITS(slots->id_hash)`. -/
def ID_HASH_BITS : ℕ := 7

/-- The status codes the layer returns. -/
inductive NtStatus where
  | STATUS_SUCCESS
  | STATUS_INVALID_PARAMETER
  | STATUS_UNSUCCESSFUL
  | STATUS_ALREADY_COMMITTED
  | STATUS_NO_MEMORY
deriving DecidableEq, Repr

open NtStatus

/-- `enum kvm_mr_change`. -/
inductive KvmMrChange where
  | KVM_MR_CREATE
  | KVM_MR_DELETE
  | KVM_MR_MOVE
  | KVM_MR_FLAGS_ONLY
deriving DecidableEq, Repr

open KvmMrChange

/-- `struct kvm_userspace_memory_region`. -/
structure KvmUserspaceMemoryRegion where
  slot : BitVec 32
  flags : BitVec 32
  guest_phys_addr : BitVec 64
  memory_size : BitVec 64
deriving DecidableEq, Repr

/-- `struct kvm_arch_memory_slot`. -/
structure KvmArchMemorySlot where
  rmap : Fin 3 → Ptr
  lpage_info : Fin 2 → Ptr
  gfn_track : Ptr

/-- The arch part after `memset(&slot->arch, 0, sizeof(slot->arch))`. -/
def KvmArchMemorySlot.zero : KvmArchMemorySlot := ⟨fun _ => 0, fun _ => 0, 0⟩

/-- The fields of `struct kvm_memory_slot` other than its embedded nodes. -/
structure KvmMemorySlot where
  base_gfn : ℕ
  npages : ℕ
  dirty_bitmap : Ptr
  arch : KvmArchMemorySlot
  flags : BitVec 32
  id : ℕ
  as_id : ℕ

/-- A whole `struct kvm_memory_slot` as the pool hands it out. -/
structure RawSlot where
  slot : KvmMemorySlot
  id_node : Bool → HlistNode
  gfn_node : Bool → RbNode

/-- A pool block that is not a slot. The entries of an `lpage_info` block are its
`disallow_lpage` words. -/
inductive PoolBlock where
  | dirty_bitmap (bytes : ℕ)
  | rmap (entries : ℕ)
  | lpage_info (entries : ℕ) (disallow_lpage : ℕ → ℕ)

/-- `struct kvm_memslots`; `node_idx` is the index of the set in `Kvm.memslots`. -/
structure KvmMemslots where
  generation : BitVec 64
  last_used_slot : Ptr
  gfn_tree : RbState
  id_hash : HlistTable

/-- The part of `struct kvm` the layer uses, and the pool. `memslots` is `__memslots[0]`, and
`active` is the index of the set `kvm->memslots[0]` points to. `slots_arch_lock` counts how often
the calling thread holds the mutex (a `KMUTEX` can be taken again by its owner). -/
structure Kvm where
  slot : Ptr → Option KvmMemorySlot
  pool : Ptr → Option PoolBlock
  memslots : Bool → KvmMemslots
  active : Bool
  nr_memslot_pages : ℕ
  slots_arch_lock : ℕ
  n_requested_mmu_pages : ℕ
  n_used_mmu_pages : ℕ
  n_max_mmu_pages : ℕ

/-- The globals of `mmu.c` the layer reads. -/
structure Host where
  tdp_enabled : Bool
  tdp_mmu_enabled : Bool
  shadow_phys_bits : ℕ

/-- What the pool answers to the allocations of one call; `zapped` is the number of pages
`kvm_mmu_zap_oldest_mmu_pages` takes off `n_used_mmu_pages`. -/
structure PoolAnswers where
  new : Ptr
  new_raw : RawSlot
  invalid_slot : Ptr
  invalid_raw : RawSlot
  dirty_bitmap : Ptr
  rmap : Fin 3 → Ptr
  lpage_info : Fin 2 → Ptr
  lpage_raw : Fin 2 → ℕ → ℕ
  zapped : ℕ

/-! ## Pool and locks -/

namespace Kvm

def setMemslots (kvm : Kvm) (idx : Bool) (m : KvmMemslots) : Kvm :=
  { kvm with memslots := Function.update kvm.memslots idx m }

def setSlot (kvm : Kvm) (p : Ptr) (m : KvmMemorySlot) : Kvm :=
  { kvm with slot := Function.update kvm.slot p (some m) }

/-- The embedded nodes of the block at `p` become `rb` and `hl`. -/
def setNodes (kvm : Kvm) (p : Ptr) (rb : Bool → Option RbNode) (hl : Bool → Option HlistNode) :
    Bool → KvmMemslots := fun idx =>
  { kvm.memslots idx with
    gfn_tree := { (kvm.memslots idx).gfn_tree with
      node := Function.update (kvm.memslots idx).gfn_tree.node p (rb idx) }
    id_hash := { (kvm.memslots idx).id_hash with
      node := Function.update (kvm.memslots idx).id_hash.node p (hl idx) } }

/-- `ExAllocatePoolWithTag(NonPagedPool, sizeof(struct kvm_memory_slot))` answered by `p`. -/
def allocSlot (kvm : Kvm) (p : Ptr) (raw : RawSlot) : Kvm :=
  { kvm with
    slot := Function.update kvm.slot p (some raw.slot)
    memslots := kvm.setNodes p (fun idx => some (raw.gfn_node idx))
      (fun idx => some (raw.id_node idx)) }

/-- `ExFreePool` of a slot. -/
def freeSlot (kvm : Kvm) (p : Ptr) : Option Kvm := do
  let _ ← kvm.slot p
  pure { kvm with
    slot := Function.update kvm.slot p none
    memslots := kvm.setNodes p (fun _ => none) (fun _ => none) }

/-- `ExAllocatePoolWithTag` of another block, answered by `p`. -/
def allocBlock (kvm : Kvm) (p : Ptr) (b : PoolBlock) : Kvm :=
  if p = 0 then kvm else { kvm with pool := Function.update kvm.pool p (some b) }

/-- `ExFreePool` of another block. -/
def freeBlock (kvm : Kvm) (p : Ptr) : Option Kvm :=
  if p = 0 then none
  else do
    let _ ← kvm.pool p
    pure { kvm with pool := Function.update kvm.pool p none }

/-- `KeWaitForSingleObject(&kvm->slots_arch_lock, …)`. -/
def lockArch (kvm : Kvm) : Kvm := { kvm with slots_arch_lock := kvm.slots_arch_lock + 1 }

/-- `KeReleaseMutex(&kvm->slots_arch_lock, FALSE)`; releasing a mutex that is not held raises. -/
def unlockArch (kvm : Kvm) : Option Kvm :=
  if kvm.slots_arch_lock = 0 then none
  else some { kvm with slots_arch_lock := kvm.slots_arch_lock - 1 }

end Kvm

/-! ## The gfn tree -/

/-- The loop of `kvm_insert_gfn_node`: from the place `node` down to an empty child pointer; the
result is that place and its `parent`. -/
def gfn_descend (slot : Ptr → Option KvmMemorySlot) (s : RbState) (base_gfn : ℕ) :
    ℕ → RbLink → Ptr → Option (RbLink × Ptr)
  | 0, _, _ => none
  | fuel + 1, node, parent => do
    let p ← s.read_link node
    if p = 0 then pure (node, parent)
    else do
      let tmp ← slot p
      if base_gfn < tmp.base_gfn then gfn_descend slot s base_gfn fuel (.child .left p) p
      else if base_gfn > tmp.base_gfn then
        gfn_descend slot s base_gfn fuel (.child .right p) p
      else none  -- KeBugCheckEx

def kvm_insert_gfn_node (fuel : ℕ) (slot : Ptr → Option KvmMemorySlot) (s : RbState) (p : Ptr) :
    Option RbState := do
  let m ← slot p
  let (node, parent) ← gfn_descend slot s m.base_gfn fuel .root 0
  let s ← rb_link_node s p parent node
  rb_insert_color fuel s p

def kvm_replace_gfn_node (s : RbState) (old new : Ptr) : Option RbState :=
  rb_replace_node s old new

def kvm_erase_gfn_node (fuel : ℕ) (s : RbState) (p : Ptr) : Option RbState := rb_erase fuel s p

/-! ## Lookup by id and the gfn-range iterator -/

/-- `hash_min(id, HASH_BITS(slots->id_hash))`. -/
def id_bucket (id : ℕ) : ℕ := hash_32 id ID_HASH_BITS

def id_to_memslot (fuel : ℕ) (kvm : Kvm) (idx : Bool) (id : ℕ) : Option Ptr :=
  let h := (kvm.memslots idx).id_hash
  hlist_find h (fun p => (kvm.slot p).map (fun m => m.id == id)) fuel (h.first (id_bucket id))

/-- The first loop of `kvm_memslot_iter_start`: the first node whose key is above `start`. -/
def gfn_upper_bound (slot : Ptr → Option KvmMemorySlot) (s : RbState) (start : ℕ) :
    ℕ → Ptr → Ptr → Option Ptr
  | 0, _, _ => none
  | fuel + 1, tmp, node =>
    if tmp = 0 then some node
    else do
      let m ← slot tmp
      let n ← s.node tmp
      if start < m.base_gfn then gfn_upper_bound slot s start fuel n.rb_left tmp
      else gfn_upper_bound slot s start fuel n.rb_right node

/-- The second part of `kvm_memslot_iter_start`: back to the last slot that starts at or before
the range. -/
def kvm_memslot_iter_back (fuel : ℕ) (s : RbState) (node : Ptr) : Option Ptr :=
  if node ≠ 0 then do
    let tmp ← rb_prev fuel s node
    pure (if tmp ≠ 0 then tmp else node)
  else rb_last fuel s

/-- `kvm_memslot_iter_start`; the iterator is its `node`, and `iter->slot` is the slot there. -/
def kvm_memslot_iter_start (fuel : ℕ) (slot : Ptr → Option KvmMemorySlot) (s : RbState)
    (start : ℕ) : Option Ptr := do
  let node ← gfn_upper_bound slot s start fuel s.rb_node 0
  let node ← kvm_memslot_iter_back fuel s node
  if node ≠ 0 then do
    let m ← slot node
    if (m.base_gfn + m.npages) % 2 ^ 64 ≤ start then rb_next fuel s node else pure node
  else pure 0

/-- `kvm_memslot_iter_is_valid`. -/
def kvm_memslot_iter_is_valid (slot : Ptr → Option KvmMemorySlot) (node : Ptr) (stop : ℕ) :
    Option Bool :=
  if node = 0 then some false else (slot node).map (fun m => decide (m.base_gfn < stop))

/-- The loop of `kvm_check_memslot_overlap`. -/
def check_overlap_loop (rbFuel : ℕ) (slot : Ptr → Option KvmMemorySlot) (s : RbState)
    (id stop : ℕ) : ℕ → Ptr → Option Bool
  | 0, _ => none
  | fuel + 1, node => do
    if ← kvm_memslot_iter_is_valid slot node stop then do
      let m ← slot node
      if m.id ≠ id then pure true
      else do
        let node ← rb_next rbFuel s node
        check_overlap_loop rbFuel slot s id stop fuel node
    else pure false

def kvm_check_memslot_overlap (fuel : ℕ) (slot : Ptr → Option KvmMemorySlot) (s : RbState)
    (id start stop : ℕ) : Option Bool := do
  let node ← kvm_memslot_iter_start fuel slot s start
  check_overlap_loop fuel slot s id stop fuel node

/-! ## Editing the two sets -/

/-- `__kvm_memslots`. -/
def kvm_active_memslots (kvm : Kvm) (as_id : ℕ) : Option Bool :=
  if as_id < KVM_ADDRESS_SPACE_NUM then some kvm.active else none

/-- `kvm_get_inactive_memslots`: the set whose index is `active->node_idx ^ 1`. -/
def kvm_get_inactive_memslots (kvm : Kvm) (as_id : ℕ) : Option Bool :=
  (kvm_active_memslots kvm as_id).map (fun idx => !idx)

def kvm_memslots_get_as_id (kvm : Kvm) (a b : Ptr) : Option ℕ :=
  if a = 0 ∧ b = 0 then some 0
  else if a = 0 then (kvm.slot b).map (·.as_id)
  else (kvm.slot a).map (·.as_id)

/-- The first half of `kvm_replace_memslot`: `old` leaves the hash table, and a cached pointer to
it is exchanged for `new`. -/
def kvm_unhash_memslot (kvm : Kvm) (idx : Bool) (old new : Ptr) : Option Kvm :=
  if old ≠ 0 then do
    let m := kvm.memslots idx
    let h ← hlist_del_init m.id_hash old
    pure (kvm.setMemslots idx { m with
      id_hash := h
      last_used_slot := if m.last_used_slot = old then new else m.last_used_slot })
  else some kvm

/-- `hash_add(slots->id_hash, &new->id_node[idx], new->id)`. -/
def kvm_hash_memslot (kvm : Kvm) (idx : Bool) (new : Ptr) : Option Kvm := do
  let v ← kvm.slot new
  let m := kvm.memslots idx
  let h ← hlist_add_head m.id_hash new (id_bucket v.id)
  pure (kvm.setMemslots idx { m with id_hash := h })

/-- `old && old->base_gfn == new->base_gfn`. -/
def kvm_same_base_gfn (kvm : Kvm) (old new : Ptr) : Option Bool :=
  if old ≠ 0 then do
    let o ← kvm.slot old
    let n ← kvm.slot new
    pure (o.base_gfn == n.base_gfn)
  else some false

/-- `if (old) kvm_erase_gfn_node(slots, old)`. -/
def kvm_erase_gfn_node_if (fuel : ℕ) (s : RbState) (old : Ptr) : Option RbState :=
  if old ≠ 0 then kvm_erase_gfn_node fuel s old else some s

/-- The tree half of `kvm_replace_memslot`. -/
def kvm_replace_in_tree (fuel : ℕ) (kvm : Kvm) (idx : Bool) (old new : Ptr) : Option RbState := do
  let s := (kvm.memslots idx).gfn_tree
  if ← kvm_same_base_gfn kvm old new then kvm_replace_gfn_node s old new
  else do
    let s ← kvm_erase_gfn_node_if fuel s old
    kvm_insert_gfn_node fuel kvm.slot s new

/-- `kvm_replace_memslot`: replace `old` with `new` in the inactive set. -/
def kvm_replace_memslot (fuel : ℕ) (kvm : Kvm) (old new : Ptr) : Option Kvm := do
  let as_id ← kvm_memslots_get_as_id kvm old new
  let idx ← kvm_get_inactive_memslots kvm as_id
  let kvm ← kvm_unhash_memslot kvm idx old new
  if old ≠ 0 ∧ new = 0 then do
    let s ← kvm_erase_gfn_node fuel (kvm.memslots idx).gfn_tree old
    pure (kvm.setMemslots idx { kvm.memslots idx with gfn_tree := s })
  else do
    let kvm ← kvm_hash_memslot kvm idx new
    let s ← kvm_replace_in_tree fuel kvm idx old new
    pure (kvm.setMemslots idx { kvm.memslots idx with gfn_tree := s })

/-- `slots->generation = gen | KVM_MEMSLOT_GEN_UPDATE_IN_PROGRESS` on the inactive set. -/
def kvm_swap_mark (kvm : Kvm) (idx : Bool) : Kvm :=
  kvm.setMemslots idx { kvm.memslots idx with
    generation := (kvm.memslots kvm.active).generation ||| KVM_MEMSLOT_GEN_UPDATE_IN_PROGRESS }

/-- `kvm->memslots[as_id] = slots`. -/
def kvm_swap_pointer (kvm : Kvm) (idx : Bool) : Kvm := { kvm with active := idx }

/-- The last writes of `kvm_swap_active_memslots`: the mark goes, the generation advances. -/
def kvm_swap_settle (kvm : Kvm) (idx : Bool) : Kvm :=
  kvm.setMemslots idx { kvm.memslots idx with
    generation := ((kvm.memslots idx).generation &&& ~~~KVM_MEMSLOT_GEN_UPDATE_IN_PROGRESS)
      + BitVec.ofNat 64 KVM_ADDRESS_SPACE_NUM }

def kvm_swap_active_memslots (kvm : Kvm) (as_id : ℕ) : Option Kvm := do
  let idx ← kvm_get_inactive_memslots kvm as_id
  let kvm := kvm_swap_pointer (kvm_swap_mark kvm idx) idx
  let kvm ← kvm.unlockArch
  pure (kvm_swap_settle kvm idx)

def kvm_activate_memslot (fuel : ℕ) (kvm : Kvm) (old new : Ptr) : Option Kvm := do
  let as_id ← kvm_memslots_get_as_id kvm old new
  let kvm ← kvm_swap_active_memslots kvm as_id
  kvm_replace_memslot fuel kvm old new

def kvm_create_memslot (fuel : ℕ) (kvm : Kvm) (new : Ptr) : Option Kvm := do
  let kvm ← kvm_replace_memslot fuel kvm 0 new
  kvm_activate_memslot fuel kvm 0 new

def kvm_move_memslot (fuel : ℕ) (kvm : Kvm) (old new invalid_slot : Ptr) : Option Kvm := do
  let kvm ← kvm_replace_memslot fuel kvm old new
  kvm_activate_memslot fuel kvm invalid_slot new

def kvm_delete_memslot (fuel : ℕ) (kvm : Kvm) (old invalid_slot : Ptr) : Option Kvm := do
  let kvm ← kvm_replace_memslot fuel kvm old 0
  kvm_activate_memslot fuel kvm invalid_slot 0

def kvm_update_flags_memslot (fuel : ℕ) (kvm : Kvm) (old new : Ptr) : Option Kvm := do
  let kvm ← kvm_replace_memslot fuel kvm old new
  kvm_activate_memslot fuel kvm old new

/-! ## Preparing a slot -/

def kvm_mmu_max_gfn (host : Host) : ℕ :=
  2 ^ ((if host.tdp_enabled then host.shadow_phys_bits else 52) - PAGE_SHIFT) - 1

/-- `kvm_memslots_have_rmaps` (`kvm_shadow_root_allocated` is always false). -/
def kvm_memslots_have_rmaps (host : Host) : Bool := !host.tdp_mmu_enabled

/-- `__kvm_mmu_slot_lpages`. -/
def kvm_mmu_slot_lpages (slot : KvmMemorySlot) (npages level : ℕ) : ℕ :=
  gfn_to_index (slot.base_gfn + npages - 1) slot.base_gfn level + 1

/-- Write to the arch part of a slot. -/
def Kvm.setArch (kvm : Kvm) (p : Ptr) (f : KvmArchMemorySlot → KvmArchMemorySlot) :
    Option Kvm := do
  let m ← kvm.slot p
  pure (kvm.setSlot p { m with arch := f m.arch })

def KvmArchMemorySlot.setRmap (a : KvmArchMemorySlot) (i : Fin 3) (p : Ptr) :
    KvmArchMemorySlot := { a with rmap := Function.update a.rmap i p }

def KvmArchMemorySlot.setLpage (a : KvmArchMemorySlot) (i : Fin 2) (p : Ptr) :
    KvmArchMemorySlot := { a with lpage_info := Function.update a.lpage_info i p }

/-- The loop of `memslot_rmap_free` over the given indices. -/
def memslot_rmap_free_loop (kvm : Kvm) (slot : Ptr) : List (Fin 3) → Option Kvm
  | [] => some kvm
  | i :: is => do
    let m ← kvm.slot slot
    let kvm ← kvm.freeBlock (m.arch.rmap i)
    let kvm ← kvm.setArch slot (·.setRmap i 0)
    memslot_rmap_free_loop kvm slot is

def memslot_rmap_free (kvm : Kvm) (slot : Ptr) : Option Kvm :=
  memslot_rmap_free_loop kvm slot [0, 1, 2]

/-- The loop of `memslot_rmap_alloc` over the given indices. -/
def memslot_rmap_alloc_loop (ans : PoolAnswers) (slot : Ptr) (npages : ℕ) :
    Kvm → List (Fin 3) → Option (NtStatus × Kvm)
  | kvm, [] => some (STATUS_SUCCESS, kvm)
  | kvm, i :: is => do
    let m ← kvm.slot slot
    if m.arch.rmap i ≠ 0 then memslot_rmap_alloc_loop ans slot npages kvm is
    else do
      let kvm := kvm.allocBlock (ans.rmap i) (.rmap (kvm_mmu_slot_lpages m npages (i + 1)))
      let kvm ← kvm.setArch slot (·.setRmap i (ans.rmap i))
      if ans.rmap i = 0 then do
        let kvm ← memslot_rmap_free kvm slot
        pure (STATUS_NO_MEMORY, kvm)
      else memslot_rmap_alloc_loop ans slot npages kvm is

def memslot_rmap_alloc (ans : PoolAnswers) (kvm : Kvm) (slot : Ptr) (npages : ℕ) :
    Option (NtStatus × Kvm) :=
  memslot_rmap_alloc_loop ans slot npages kvm [0, 1, 2]

/-- The contents of a fresh `lpage_info` block after the two writes of
`kvm_alloc_memslot_metadata`: the first and the last entry are disallowed when the slot does not
start, or end, at a multiple of the page size of the level. -/
def mark_disallow_lpage (raw : ℕ → ℕ) (base_gfn npages level lpages : ℕ) : ℕ → ℕ :=
  let pages := KVM_PAGES_PER_HPAGE level
  let linfo := if base_gfn % pages ≠ 0 then Function.update raw 0 1 else raw
  if (base_gfn + npages) % pages ≠ 0 then Function.update linfo (lpages - 1) 1 else linfo

/-- The label `out_free` of `kvm_alloc_memslot_metadata`, from its second loop on. -/
def free_lpage_loop (kvm : Kvm) (slot : Ptr) : List (Fin 2) → Option Kvm
  | [] => some kvm
  | i :: is => do
    let m ← kvm.slot slot
    let kvm ← kvm.freeBlock (m.arch.lpage_info i)
    let kvm ← kvm.setArch slot (·.setLpage i 0)
    free_lpage_loop kvm slot is

def kvm_arch_free_memslot (kvm : Kvm) (slot : Ptr) : Option Kvm := do
  let kvm ← memslot_rmap_free kvm slot
  free_lpage_loop kvm slot [0, 1]

/-- The label `out_free`. -/
def kvm_alloc_memslot_out_free (kvm : Kvm) (slot : Ptr) : Option (NtStatus × Kvm) := do
  let kvm ← memslot_rmap_free kvm slot
  let kvm ← free_lpage_loop kvm slot [0, 1]
  pure (STATUS_NO_MEMORY, kvm)

/-- The loop of `kvm_alloc_memslot_metadata`; index `i` of the array is level `i + 2`.
`kvm_page_track_create_memslot`, which follows it, returns 0. -/
def alloc_lpage_loop (ans : PoolAnswers) (slot : Ptr) (npages : ℕ) :
    Kvm → List (Fin 2) → Option (NtStatus × Kvm)
  | kvm, [] => some (STATUS_SUCCESS, kvm)
  | kvm, i :: is => do
    let m ← kvm.slot slot
    let level := i.val + 2
    let lpages := kvm_mmu_slot_lpages m npages level
    let linfo := ans.lpage_info i
    if linfo = 0 then kvm_alloc_memslot_out_free kvm slot
    else do
      let kvm := kvm.allocBlock linfo
        (.lpage_info lpages (mark_disallow_lpage (ans.lpage_raw i) m.base_gfn npages level lpages))
      let kvm ← kvm.setArch slot (·.setLpage i linfo)
      alloc_lpage_loop ans slot npages kvm is

/-- `if (kvm_memslots_have_rmaps(kvm)) r = memslot_rmap_alloc(slot, npages)`. -/
def memslot_rmap_alloc_if (host : Host) (ans : PoolAnswers) (kvm : Kvm) (slot : Ptr)
    (npages : ℕ) : Option (NtStatus × Kvm) :=
  if kvm_memslots_have_rmaps host then memslot_rmap_alloc ans kvm slot npages
  else some (STATUS_SUCCESS, kvm)

def kvm_alloc_memslot_metadata (host : Host) (ans : PoolAnswers) (kvm : Kvm) (slot : Ptr) :
    Option (NtStatus × Kvm) := do
  let m ← kvm.slot slot
  let kvm ← kvm.setArch slot (fun _ => .zero)
  let (r, kvm) ← memslot_rmap_alloc_if host ans kvm slot m.npages
  if r ≠ STATUS_SUCCESS then pure (r, kvm)
  else alloc_lpage_loop ans slot m.npages kvm [0, 1]

/-- `kvm_dirty_bitmap_bytes`. -/
def kvm_dirty_bitmap_bytes (npages : ℕ) : ℕ := (npages + 7) / 8 * 8 / 8

def Kvm.setDirtyBitmap (kvm : Kvm) (p : Ptr) (b : Ptr) : Option Kvm := do
  let m ← kvm.slot p
  pure (kvm.setSlot p { m with dirty_bitmap := b })

def kvm_alloc_dirty_bitmap (ans : PoolAnswers) (kvm : Kvm) (slot : Ptr) :
    Option (NtStatus × Kvm) := do
  let m ← kvm.slot slot
  let kvm := kvm.allocBlock ans.dirty_bitmap (.dirty_bitmap (2 * kvm_dirty_bitmap_bytes m.npages))
  let kvm ← kvm.setDirtyBitmap slot ans.dirty_bitmap
  pure (if ans.dirty_bitmap = 0 then STATUS_NO_MEMORY else STATUS_SUCCESS, kvm)

def kvm_destroy_dirty_bitmap (kvm : Kvm) (slot : Ptr) : Option Kvm := do
  let m ← kvm.slot slot
  if m.dirty_bitmap = 0 then pure kvm
  else do
    let kvm ← kvm.freeBlock m.dirty_bitmap
    kvm.setDirtyBitmap slot 0

def kvm_arch_prepare_memory_region (host : Host) (ans : PoolAnswers) (kvm : Kvm) (old new : Ptr)
    (change : KvmMrChange) : Option (NtStatus × Kvm) :=
  match change with
  | KVM_MR_CREATE | KVM_MR_MOVE => do
    let n ← kvm.slot new
    if (n.base_gfn + n.npages - 1) % 2 ^ 64 > kvm_mmu_max_gfn host then
      pure (STATUS_INVALID_PARAMETER, kvm)
    else kvm_alloc_memslot_metadata host ans kvm new
  | KVM_MR_FLAGS_ONLY => do
    let o ← kvm.slot old
    let kvm ← kvm.setArch new (fun _ => o.arch)
    pure (STATUS_SUCCESS, kvm)
  | KVM_MR_DELETE => some (STATUS_SUCCESS, kvm)

/-- The field `dirty_bitmap` of `old`, `0` when there is no `old`. -/
def old_dirty_bitmap (kvm : Kvm) (old : Ptr) : Option Ptr :=
  if old ≠ 0 then (kvm.slot old).map (·.dirty_bitmap) else some 0

/-- The first part of `kvm_prepare_memory_region`: the dirty bitmap of `new`. -/
def kvm_prepare_dirty_bitmap (ans : PoolAnswers) (kvm : Kvm) (old new : Ptr)
    (change : KvmMrChange) : Option (NtStatus × Kvm) :=
  if change ≠ KVM_MR_DELETE then do
    let n ← kvm.slot new
    if n.flags &&& KVM_MEM_LOG_DIRTY_PAGES = 0 then do
      let kvm ← kvm.setDirtyBitmap new 0
      pure (STATUS_SUCCESS, kvm)
    else do
      let ob ← old_dirty_bitmap kvm old
      if ob ≠ 0 then do
        let kvm ← kvm.setDirtyBitmap new ob
        pure (STATUS_SUCCESS, kvm)
      else kvm_alloc_dirty_bitmap ans kvm new
  else some (STATUS_SUCCESS, kvm)

/-- The last part of `kvm_prepare_memory_region`: on failure free the bitmap if it was allocated
there. -/
def kvm_prepare_undo (kvm : Kvm) (old new : Ptr) (r : NtStatus) : Option Kvm :=
  if r ≠ STATUS_SUCCESS ∧ new ≠ 0 then do
    let n ← kvm.slot new
    if n.dirty_bitmap ≠ 0 then do
      let ob ← old_dirty_bitmap kvm old
      if ob = 0 then kvm_destroy_dirty_bitmap kvm new else pure kvm
    else pure kvm
  else some kvm

def kvm_prepare_memory_region (host : Host) (ans : PoolAnswers) (kvm : Kvm) (old new : Ptr)
    (change : KvmMrChange) : Option (NtStatus × Kvm) := do
  let (r, kvm) ← kvm_prepare_dirty_bitmap ans kvm old new change
  if r ≠ STATUS_SUCCESS then pure (r, kvm)
  else do
    let (r, kvm) ← kvm_arch_prepare_memory_region host ans kvm old new change
    let kvm ← kvm_prepare_undo kvm old new r
    pure (r, kvm)

/-! ## Committing -/

/-- `kvm_mmu_change_mmu_pages`. -/
def kvm_mmu_change_mmu_pages (ans : PoolAnswers) (kvm : Kvm) (goal_nr_mmu_pages : ℕ) : Kvm :=
  if kvm.n_used_mmu_pages > goal_nr_mmu_pages then
    { kvm with
      n_used_mmu_pages := kvm.n_used_mmu_pages - ans.zapped
      n_max_mmu_pages := kvm.n_used_mmu_pages - ans.zapped }
  else { kvm with n_max_mmu_pages := goal_nr_mmu_pages }

/-- The first part of `kvm_arch_commit_memory_region`. -/
def kvm_arch_commit_mmu_pages (ans : PoolAnswers) (kvm : Kvm) (change : KvmMrChange) : Kvm :=
  if kvm.n_requested_mmu_pages = 0 ∧ (change = KVM_MR_CREATE ∨ change = KVM_MR_DELETE) then
    kvm_mmu_change_mmu_pages ans kvm
      (max (kvm.nr_memslot_pages / KVM_MEMSLOT_PAGES_TO_MMU_PAGES_RATIO) KVM_MIN_ALLOC_MMU_PAGES)
  else kvm

/-- `kvm_arch_commit_memory_region`. A MOVE frees the arch data of `old`, which
`kvm_invalidate_memslot` has overwritten with what `invalid_slot` held. -/
def kvm_arch_commit_memory_region (ans : PoolAnswers) (kvm : Kvm) (old : Ptr)
    (change : KvmMrChange) : Option Kvm :=
  let kvm := kvm_arch_commit_mmu_pages ans kvm change
  if change = KVM_MR_MOVE then kvm_arch_free_memslot kvm old else some kvm

/-- `nr_memslot_pages` after the change, in 64-bit arithmetic. -/
def kvm_commit_nr_pages (kvm : Kvm) (old new : Ptr) (change : KvmMrChange) : Option Kvm :=
  match change with
  | KVM_MR_DELETE => do
    let o ← kvm.slot old
    pure { kvm with nr_memslot_pages := (kvm.nr_memslot_pages + (2 ^ 64 - o.npages)) % 2 ^ 64 }
  | KVM_MR_CREATE => do
    let n ← kvm.slot new
    pure { kvm with nr_memslot_pages := (kvm.nr_memslot_pages + n.npages) % 2 ^ 64 }
  | KVM_MR_MOVE | KVM_MR_FLAGS_ONLY => some kvm

/-- `if (old->dirty_bitmap && !new->dirty_bitmap) kvm_destroy_dirty_bitmap(old)`. -/
def kvm_commit_dirty_bitmap (kvm : Kvm) (old new : Ptr) : Option Kvm := do
  let o ← kvm.slot old
  let n ← kvm.slot new
  if o.dirty_bitmap ≠ 0 ∧ n.dirty_bitmap = 0 then kvm_destroy_dirty_bitmap kvm old else pure kvm

/-- The cases MOVE and FLAGS_ONLY at the end of `kvm_commit_memory_region`. -/
def kvm_commit_free_old (kvm : Kvm) (old new : Ptr) : Option Kvm := do
  let kvm ← kvm_commit_dirty_bitmap kvm old new
  kvm.freeSlot old

/-- `kvm_commit_memory_region`; `kvm_free_memslot`, which DELETE ends with, does nothing. -/
def kvm_commit_memory_region (ans : PoolAnswers) (kvm : Kvm) (old new : Ptr)
    (change : KvmMrChange) : Option Kvm := do
  let kvm ← kvm_commit_nr_pages kvm old new change
  let kvm ← kvm_arch_commit_memory_region ans kvm old change
  match change with
  | KVM_MR_CREATE | KVM_MR_DELETE => pure kvm
  | KVM_MR_MOVE | KVM_MR_FLAGS_ONLY => kvm_commit_free_old kvm old new

/-! ## `kvm_set_memslot` -/

/-- DELETE and MOVE. -/
def invalidates (change : KvmMrChange) : Bool :=
  change == KVM_MR_DELETE || change == KVM_MR_MOVE

/-- `kvm_invalidate_memslot`: `old->arch = invalid_slot->arch`. -/
def kvm_invalidate_memslot (kvm : Kvm) (old invalid_slot : Ptr) : Option Kvm := do
  let i ← kvm.slot invalid_slot
  kvm.setArch old (fun _ => i.arch)

/-- The allocation of `invalid_slot`; nothing writes its contents. -/
def kvm_alloc_invalid_slot (ans : PoolAnswers) (kvm : Kvm) (old : Ptr) (change : KvmMrChange) :
    Option (NtStatus × Kvm) :=
  if invalidates change then
    if ans.invalid_slot = 0 then do
      let kvm ← kvm.unlockArch
      pure (STATUS_NO_MEMORY, kvm)
    else do
      let kvm ← kvm_invalidate_memslot (kvm.allocSlot ans.invalid_slot ans.invalid_raw) old
        ans.invalid_slot
      pure (STATUS_SUCCESS, kvm)
  else some (STATUS_SUCCESS, kvm)

/-- The return after a failed `kvm_prepare_memory_region`: for DELETE and MOVE the branch of the
source is empty. -/
def kvm_set_memslot_failed (kvm : Kvm) (change : KvmMrChange) : Option Kvm :=
  if invalidates change then some kvm else kvm.unlockArch

def kvm_install_memslot (fuel : ℕ) (kvm : Kvm) (old new invalid_slot : Ptr)
    (change : KvmMrChange) : Option Kvm :=
  match change with
  | KVM_MR_CREATE => kvm_create_memslot fuel kvm new
  | KVM_MR_DELETE => kvm_delete_memslot fuel kvm old invalid_slot
  | KVM_MR_MOVE => kvm_move_memslot fuel kvm old new invalid_slot
  | KVM_MR_FLAGS_ONLY => kvm_update_flags_memslot fuel kvm old new

def kvm_free_invalid_slot (kvm : Kvm) (invalid_slot : Ptr) (change : KvmMrChange) : Option Kvm :=
  if invalidates change then kvm.freeSlot invalid_slot else some kvm

def kvm_set_memslot (fuel : ℕ) (host : Host) (ans : PoolAnswers) (kvm : Kvm) (old new : Ptr)
    (change : KvmMrChange) : Option (NtStatus × Kvm) := do
  let (r, kvm) ← kvm_alloc_invalid_slot ans kvm.lockArch old change
  if r ≠ STATUS_SUCCESS then pure (r, kvm)
  else do
    let (r, kvm) ← kvm_prepare_memory_region host ans kvm old new change
    if r ≠ STATUS_SUCCESS then do
      let kvm ← kvm_set_memslot_failed kvm change
      pure (r, kvm)
    else do
      let kvm ← kvm_install_memslot fuel kvm old new ans.invalid_slot change
      let kvm ← kvm_free_invalid_slot kvm ans.invalid_slot change
      let kvm ← kvm_commit_memory_region ans kvm old new change
      pure (STATUS_SUCCESS, kvm)

/-! ## `__kvm_set_memory_region` -/

/-- What the first part of `__kvm_set_memory_region` comes to: a return, or a change of the slot
`old` (NULL for CREATE). -/
inductive RegionVerdict where
  | ret (r : NtStatus)
  | change (c : KvmMrChange) (old : Ptr)
deriving DecidableEq, Repr

namespace KvmUserspaceMemoryRegion

variable (mem : KvmUserspaceMemoryRegion)

def as_id : ℕ := mem.slot.toNat / 2 ^ 16
def id : ℕ := mem.slot.toNat % 2 ^ 16
def base_gfn : ℕ := mem.guest_phys_addr.toNat / PAGE_SIZE
def npages : ℕ := mem.memory_size.toNat / PAGE_SIZE

/-- `check_memory_region_flags` and the general sanity checks. (`memory_size` is as wide as
`ULONG_PTR`, so the cast check always passes.) -/
def accepted : Bool :=
  decide (mem.flags &&& ~~~(KVM_MEM_LOG_DIRTY_PAGES ||| KVM_MEM_READONLY) = 0)
    && decide (mem.memory_size.toNat % PAGE_SIZE = 0)
    && decide (mem.guest_phys_addr.toNat % PAGE_SIZE = 0)
    && decide (mem.as_id < KVM_ADDRESS_SPACE_NUM ∧ mem.id < KVM_MEM_SLOTS_NUM)
    && decide (mem.guest_phys_addr.toNat
        ≤ (mem.guest_phys_addr.toNat + mem.memory_size.toNat) % 2 ^ 64)
    && decide (mem.npages ≤ KVM_MEM_MAX_NR_PAGES)

end KvmUserspaceMemoryRegion

/-- The fields of `old`, if there is an `old` and it has pages (`old && old->npages`). -/
def kvm_live_old (kvm : Kvm) (old : Ptr) : Option (Option KvmMemorySlot) :=
  if old = 0 then some none
  else (kvm.slot old).map (fun m => if m.npages = 0 then none else some m)

/-- DELETE, CREATE, MOVE, FLAGS_ONLY or a return, before the overlap check. -/
def kvm_classify_change (kvm : Kvm) (mem : KvmUserspaceMemoryRegion) (old : Ptr) :
    Option RegionVerdict := do
  match ← kvm_live_old kvm old with
  | none =>
    if mem.memory_size = 0 then pure (.ret STATUS_INVALID_PARAMETER)
    else if (kvm.nr_memslot_pages + mem.npages) % 2 ^ 64 < kvm.nr_memslot_pages then
      pure (.ret STATUS_INVALID_PARAMETER)
    else pure (.change KVM_MR_CREATE old)
  | some o =>
    if mem.memory_size = 0 then
      if kvm.nr_memslot_pages < o.npages then pure (.ret STATUS_UNSUCCESSFUL)
      else pure (.change KVM_MR_DELETE old)
    else if mem.npages ≠ o.npages ∨ (mem.flags ^^^ o.flags) &&& KVM_MEM_READONLY ≠ 0 then
      pure (.ret STATUS_INVALID_PARAMETER)
    else if mem.base_gfn ≠ o.base_gfn then pure (.change KVM_MR_MOVE old)
    else if mem.flags ≠ o.flags then pure (.change KVM_MR_FLAGS_ONLY old)
    else pure (.ret STATUS_SUCCESS)

/-- The overlap check of CREATE and MOVE. -/
def kvm_classify_overlap (fuel : ℕ) (kvm : Kvm) (mem : KvmUserspaceMemoryRegion) (idx : Bool) :
    RegionVerdict → Option RegionVerdict
  | .ret r => some (.ret r)
  | .change c old =>
    if c = KVM_MR_CREATE ∨ c = KVM_MR_MOVE then do
      let overlap ← kvm_check_memslot_overlap fuel kvm.slot (kvm.memslots idx).gfn_tree mem.id
        mem.base_gfn ((mem.base_gfn + mem.npages) % 2 ^ 64)
      pure (if overlap then .ret STATUS_ALREADY_COMMITTED else .change c old)
    else some (.change c old)

/-- Everything `__kvm_set_memory_region` does before it allocates. -/
def kvm_classify_region (fuel : ℕ) (kvm : Kvm) (mem : KvmUserspaceMemoryRegion) :
    Option RegionVerdict :=
  if mem.accepted then do
    let idx ← kvm_active_memslots kvm mem.as_id
    let old ← id_to_memslot fuel kvm idx mem.id
    let v ← kvm_classify_change kvm mem old
    kvm_classify_overlap fuel kvm mem idx v
  else some (.ret STATUS_INVALID_PARAMETER)

/-- The writes to the fields of the new slot. -/
def kvm_init_new_slot (kvm : Kvm) (new : Ptr) (mem : KvmUserspaceMemoryRegion) : Option Kvm := do
  let m ← kvm.slot new
  pure (kvm.setSlot new { m with
    as_id := mem.as_id, id := mem.id, base_gfn := mem.base_gfn, npages := mem.npages,
    flags := mem.flags })

/-- `if (r) ExFreePool(new)`. -/
def kvm_free_new_slot (kvm : Kvm) (new : Ptr) (r : NtStatus) : Option Kvm :=
  if r ≠ STATUS_SUCCESS then kvm.freeSlot new else some kvm

/-- The second part of `__kvm_set_memory_region`. -/
def kvm_apply_change (fuel : ℕ) (host : Host) (ans : PoolAnswers) (kvm : Kvm)
    (mem : KvmUserspaceMemoryRegion) (change : KvmMrChange) (old : Ptr) :
    Option (NtStatus × Kvm) :=
  if change = KVM_MR_DELETE then kvm_set_memslot fuel host ans kvm old 0 KVM_MR_DELETE
  else if ans.new = 0 then some (STATUS_NO_MEMORY, kvm)
  else do
    let kvm ← kvm_init_new_slot (kvm.allocSlot ans.new ans.new_raw) ans.new mem
    let (r, kvm) ← kvm_set_memslot fuel host ans kvm old ans.new change
    let kvm ← kvm_free_new_slot kvm ans.new r
    pure (r, kvm)

/-- `__kvm_set_memory_region`. -/
def kvm_set_memory_region (fuel : ℕ) (host : Host) (ans : PoolAnswers) (kvm : Kvm)
    (mem : KvmUserspaceMemoryRegion) : Option (NtStatus × Kvm) := do
  match ← kvm_classify_region fuel kvm mem with
  | .ret r => pure (r, kvm)
  | .change c old => kvm_apply_change fuel host ans kvm mem c old

/-! ## The initial state -/

/-- A set as `kvm_create_vm` leaves it; the VM block is zeroed by `kvm_arch_alloc_vm`. -/
def emptyMemslots : KvmMemslots where
  generation := 0
  last_used_slot := 0
  gfn_tree := ⟨fun _ => none, 0⟩
  id_hash := ⟨fun _ => none, fun _ => 0⟩

/-- The memory-slot part of the VM `kvm_create_vm` builds. -/
def kvm_create_vm : Kvm where
  slot _ := none
  pool _ := none
  memslots _ := emptyMemslots
  active := false
  nr_memslot_pages := 0
  slots_arch_lock := 0
  n_requested_mmu_pages := 0
  n_used_mmu_pages := 0
  n_max_mmu_pages := 0

end Svmx.MemSlot
