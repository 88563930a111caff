/-
Lookup of a gfn among the slots of a memslot set: `search_memslots`, `try_get_memslot` and
`gfn_to_memslot` (`kvm_main.c`, `kvm_host.h`).

`search_memslots` descends the gfn tree; on the trees the layer builds it finds the slot that
contains the gfn, and NULL if there is none (`search_memslots_spec`). `gfn_to_memslot` asks a cache
first. What it hands to `try_get_memslot` is not the pointer in `slots->last_used_slot` but the
address of that field, cast to a slot. The fields `base_gfn` and `npages` of that "slot" lie 80 and
88 bytes further on, which is `id_hash[6].first` and `id_hash[7].first`; when the gfn is in that
range the address itself is returned.

Both fields of the overlay are addresses of `id_node[idx]`, 16 bytes a node into their slot.
-/
import Svmx.MemRun

set_option autoImplicit false

namespace Svmx.MemSlot

open RbTree Hlist NtStatus KvmMrChange

/-! ## The functions of the source -/

/-- `gfn >= base_gfn && gfn < base_gfn + npages`, the sum in 64 bits. -/
def gfn_in_range (base_gfn npages gfn : ℕ) : Bool :=
  decide (base_gfn ≤ gfn ∧ gfn < (base_gfn + npages) % 2 ^ 64)

/-- `try_get_memslot` of NULL or of a slot. -/
def try_get_memslot (slot : Ptr → Option KvmMemorySlot) (p : Ptr) (gfn : ℕ) : Option Ptr :=
  if p = 0 then some 0
  else do
    let m ← slot p
    pure (if gfn_in_range m.base_gfn m.npages gfn then p else 0)

/-- The loop of `search_memslots`; `last` is the variable `slot`. -/
def search_memslots_loop (slot : Ptr → Option KvmMemorySlot) (s : RbState) (gfn : ℕ)
    (approx : Bool) : ℕ → Ptr → Ptr → Option Ptr
  | 0, _, _ => none
  | fuel + 1, node, last =>
    if node = 0 then some (if approx then last else 0)
    else do
      let m ← slot node
      let n ← s.node node
      if gfn ≥ m.base_gfn then
        if gfn < (m.base_gfn + m.npages) % 2 ^ 64 then pure node
        else search_memslots_loop slot s gfn approx fuel n.rb_right node
      else search_memslots_loop slot s gfn approx fuel n.rb_left node

def search_memslots (fuel : ℕ) (kvm : Kvm) (idx : Bool) (gfn : ℕ) (approx : Bool) : Option Ptr :=
  search_memslots_loop kvm.slot (kvm.memslots idx).gfn_tree gfn approx fuel
    (kvm.memslots idx).gfn_tree.rb_node 0

/-- The offset of `base_gfn` in `struct kvm_memory_slot`, behind `id_node[2]` and `gfn_node[2]`. -/
def BASE_GFN_OFFSET : ℕ := 2 * 16 + 2 * 24

/-- The offset of `npages`. -/
def NPAGES_OFFSET : ℕ := BASE_GFN_OFFSET + 8

/-- The offset of `last_used_slot` in `struct kvm_memslots`, behind `generation`. -/
def LAST_USED_SLOT_OFFSET : ℕ := 8

/-- The offset of `id_hash`, behind `last_used_slot`, `hva_tree` and `gfn_tree`. -/
def ID_HASH_OFFSET : ℕ := LAST_USED_SLOT_OFFSET + 8 + 16 + 8

/-- The list head of `id_hash` that a field of the slot at `&slots->last_used_slot` falls on. -/
def overlay_bucket (offset : ℕ) : ℕ := (LAST_USED_SLOT_OFFSET + offset - ID_HASH_OFFSET) / 8

/-- `id_hash[b].first` as a word: NULL or the address of `id_node[idx]` of a slot. -/
def id_hash_word (kvm : Kvm) (idx : Bool) (b : ℕ) : ℕ :=
  let p := (kvm.memslots idx).id_hash.first b
  if p = 0 then 0 else p + 16 * idx.toNat

/-- Whether `try_get_memslot((struct kvm_memory_slot*)&slots->last_used_slot, gfn)` returns its
argument. -/
def overlay_contains (kvm : Kvm) (idx : Bool) (gfn : ℕ) : Bool :=
  gfn_in_range (id_hash_word kvm idx (overlay_bucket BASE_GFN_OFFSET))
    (id_hash_word kvm idx (overlay_bucket NPAGES_OFFSET)) gfn

/-- What a lookup returns: a slot (NULL is `slot 0`), or the address of the field
`last_used_slot` of a set. -/
inductive SlotRef where
  | slot (p : Ptr)
  | last_used_slot (idx : Bool)
deriving DecidableEq, Repr

/-- `____gfn_to_memslot` on the set with index `idx`. -/
def gfn_to_memslot_in (fuel : ℕ) (kvm : Kvm) (idx : Bool) (gfn : ℕ) (approx : Bool) :
    Option (SlotRef × Kvm) :=
  if overlay_contains kvm idx gfn then some (.last_used_slot idx, kvm)
  else do
    let p ← search_memslots fuel kvm idx gfn approx
    if p ≠ 0 then
      pure (.slot p, kvm.setMemslots idx { kvm.memslots idx with last_used_slot := p })
    else pure (.slot 0, kvm)

def gfn_to_memslot (fuel : ℕ) (kvm : Kvm) (gfn : ℕ) : Option (SlotRef × Kvm) :=
  gfn_to_memslot_in fuel kvm kvm.active gfn false

open ColorTree ColorTree.CTree

/-! ## The slot that contains a gfn -/

/-- The gfn is one of the frames of the slot. -/
def SlotContains (slot : Ptr → Option KvmMemorySlot) (p : Ptr) (gfn : ℕ) : Prop :=
  (slotAt slot p).base_gfn ≤ gfn ∧ gfn < slotEnd slot p

/-- `p` is the slot of `l` that contains the gfn, or NULL and no slot does. -/
def IsSlotFor (slot : Ptr → Option KvmMemorySlot) (l : List Ptr) (gfn : ℕ) (p : Ptr) : Prop :=
  p ∈ l ∧ SlotContains slot p gfn ∨ p = 0 ∧ ∀ q ∈ l, ¬ SlotContains slot q gfn

section

variable {slot : Ptr → Option KvmMemorySlot} {s : RbState} {l : List Ptr} {gfn : ℕ}

/-- In disjoint slots the 64-bit test of the source is membership. -/
theorem gfn_in_range_iff (h : DisjointSlots slot l) {p : Ptr} (hp : p ∈ l) :
    gfn_in_range (slotAt slot p).base_gfn (slotAt slot p).npages gfn = true
      ↔ SlotContains slot p gfn := by
  have hwrap := h.nowrap p hp
  rw [slotEnd] at hwrap
  rw [gfn_in_range, decide_eq_true_iff, Nat.mod_eq_of_lt hwrap]
  exact Iff.rfl

/-- Two slots of a disjoint list that contain one gfn are the same. -/
theorem SlotContains.unique (h : DisjointSlots slot l) {p q : Ptr} (hp : p ∈ l) (hq : q ∈ l)
    (h1 : SlotContains slot p gfn) (h2 : SlotContains slot q gfn) : p = q := by
  have hpair : l.Pairwise (fun a b => ¬ (SlotContains slot a gfn ∧ SlotContains slot b gfn)) := by
    refine h.disjoint.imp ?_
    rintro a b hab ⟨⟨-, ha⟩, ⟨hb, -⟩⟩
    omega
  have : Std.Symm (fun a b => ¬ (SlotContains slot a gfn ∧ SlotContains slot b gfn)) :=
    ⟨fun _ _ hab hba => hab hba.symm⟩
  by_contra hne
  exact hpair.forall hp hq hne ⟨h1, h2⟩

/-- There is at most one answer. -/
theorem IsSlotFor.unique (h : DisjointSlots slot l) {p q : Ptr} (hp : IsSlotFor slot l gfn p)
    (hq : IsSlotFor slot l gfn q) : p = q := by
  rcases hp with ⟨hpl, hpc⟩ | ⟨rfl, hnone⟩
  · rcases hq with ⟨hql, hqc⟩ | ⟨rfl, hnone⟩
    · exact hpc.unique h hpl hql hqc
    · exact absurd hpc (hnone p hpl)
  · rcases hq with ⟨hql, hqc⟩ | ⟨rfl, -⟩
    · exact absurd hqc (hnone q hql)
    · rfl

/-- **The descent** finds the slot of the tree that contains the gfn. -/
theorem search_memslots_loop_spec {fuel : ℕ} {t : CTree Ptr} {par : Ptr} (last : Ptr)
    (h : Rep s t par) (h0 : 0 ∉ t.toList) (hd : DisjointSlots slot t.toList)
    (hfuel : t.toList.length < fuel) :
    ∃ p, search_memslots_loop slot s gfn false fuel (rootPtr t) last = some p
      ∧ IsSlotFor slot t.toList gfn p := by
  induction t generalizing par last fuel with
  | leaf =>
    obtain ⟨fuel, rfl⟩ : ∃ k, fuel = k + 1 := ⟨fuel - 1, by simp at hfuel; omega⟩
    exact ⟨0, by simp [search_memslots_loop], Or.inr ⟨rfl, by simp⟩⟩
  | node c l a r ihl ihr =>
    obtain ⟨fuel, rfl⟩ : ∃ k, fuel = k + 1 := ⟨fuel - 1, by omega⟩
    obtain ⟨hcell, hl, hr⟩ := h
    have ha0 : a ≠ 0 := by
      rintro rfl
      exact h0 (by simp)
    have hlen : l.toList.length < fuel ∧ r.toList.length < fuel := by
      simp only [toList_node, List.length_append, List.length_cons] at hfuel
      omega
    have hdisj := hd.disjoint
    rw [toList_node, List.pairwise_append, List.pairwise_cons] at hdisj
    obtain ⟨hdl, ⟨har, hdr⟩, hlr⟩ := hdisj
    have hend : slotEnd slot a < 2 ^ 64 := hd.nowrap a (by simp)
    have hpos : ∀ p ∈ (CTree.node c l a r).toList, (slotAt slot p).base_gfn < slotEnd slot p := by
      intro p hp
      have := hd.pos p hp
      rw [slotEnd]
      omega
    rw [rootPtr_node, search_memslots_loop, if_neg ha0, slot_eq_slotAt (hd.slots a (by simp)),
      hcell]
    simp only [Option.bind_eq_bind, Option.bind_some, ge_iff_le]
    rw [slotEnd] at hend
    rw [Nat.mod_eq_of_lt hend]
    -- the induction follows the side that the loop goes to; the slots of the other side are apart
    by_cases hge : (slotAt slot a).base_gfn ≤ gfn
    · rw [if_pos hge]
      by_cases hlt : gfn < (slotAt slot a).base_gfn + (slotAt slot a).npages
      · rw [if_pos hlt]
        exact ⟨a, rfl, Or.inl ⟨by simp, hge, hlt⟩⟩
      · rw [if_neg hlt]
        obtain ⟨p, hp, hfor⟩ := ihr a hr (fun h' => h0 (by simp [h']))
          ⟨fun p hp => hd.slots p (by simp [hp]), fun p hp => hd.pos p (by simp [hp]),
            fun p hp => hd.nowrap p (by simp [hp]), hdr⟩ hlen.2
        refine ⟨p, hp, ?_⟩
        rcases hfor with ⟨hpr, hpc⟩ | ⟨rfl, hnone⟩
        · exact Or.inl ⟨by simp [hpr], hpc⟩
        · refine Or.inr ⟨rfl, ?_⟩
          intro q hq hqc
          simp only [toList_node, List.mem_append, List.mem_cons] at hq
          rcases hq with hq | rfl | hq
          · -- slots left of `a` end before it starts
            have h1 := hlr q hq a (by simp)
            have h2 := hqc.2
            omega
          · exact hlt hqc.2
          · exact hnone q hq hqc
    · rw [if_neg hge]
      obtain ⟨p, hp, hfor⟩ := ihl a hl (fun h' => h0 (by simp [h']))
        ⟨fun p hp => hd.slots p (by simp [hp]), fun p hp => hd.pos p (by simp [hp]),
          fun p hp => hd.nowrap p (by simp [hp]), hdl⟩ hlen.1
      refine ⟨p, hp, ?_⟩
      rcases hfor with ⟨hpl, hpc⟩ | ⟨rfl, hnone⟩
      · exact Or.inl ⟨by simp [hpl], hpc⟩
      · refine Or.inr ⟨rfl, ?_⟩
        intro q hq hqc
        simp only [toList_node, List.mem_append, List.mem_cons] at hq
        rcases hq with hq | rfl | hq
        · exact hnone q hq hqc
        · exact hge hqc.1
        · -- slots right of `a` start after it
          have h1 := har q hq
          have h2 := hpos a (by simp)
          have h3 := hqc.1
          omega

end

/-- **`search_memslots`** returns the slot of the set that contains the gfn, NULL if none does. -/
theorem search_memslots_spec {kvm : Kvm} {idx : Bool} {l : List Ptr} {fuel : ℕ} (gfn : ℕ)
    (h : SetHolds kvm.slot (kvm.memslots idx) l) (hd : DisjointSlots kvm.slot l)
    (hfuel : l.length < fuel) :
    ∃ p, search_memslots fuel kvm idx gfn false = some p ∧ IsSlotFor kvm.slot l gfn p := by
  have h0 : 0 ∉ l := fun hm => (h.nodePtr 0 hm).1 rfl
  obtain ⟨t, ht, rfl⟩ := h.tree
  have hroot : (kvm.memslots idx).gfn_tree.rb_node = rootPtr t := ht.tree.repCtx
  rw [search_memslots, hroot]
  exact search_memslots_loop_spec 0 ht.tree.rep h0 hd hfuel

/-! ## The cached lookup -/

/-- **`gfn_to_memslot` against `search_memslots`**, in every state: they return the same exactly
when the overlay does not contain the gfn. -/
theorem gfn_to_memslot_eq_search_iff (fuel : ℕ) (kvm : Kvm) (gfn : ℕ) :
    (gfn_to_memslot fuel kvm gfn).map Prod.fst
        = (search_memslots fuel kvm kvm.active gfn false).map SlotRef.slot
      ↔ overlay_contains kvm kvm.active gfn = false := by
  rw [gfn_to_memslot, gfn_to_memslot_in]
  cases hov : overlay_contains kvm kvm.active gfn with
  | true =>
    rw [if_pos rfl]
    cases search_memslots fuel kvm kvm.active gfn false <;> simp
  | false =>
    rw [if_neg (by simp)]
    cases hs : search_memslots fuel kvm kvm.active gfn false with
    | none => simp
    | some p =>
      by_cases hp : p = 0
      · simp [hp]
      · simp [hp]

/-- A lookup changes `last_used_slot` at most. -/
theorem Consistent.lookup {kvm kvm' : Kvm} {l : List Ptr} {R : ℕ → Option Region} {fuel gfn : ℕ}
    {r : SlotRef} (h : Consistent kvm l R) (hl : gfn_to_memslot fuel kvm gfn = some (r, kvm')) :
    Consistent kvm' l R := by
  rw [gfn_to_memslot, gfn_to_memslot_in] at hl
  split at hl
  · obtain ⟨-, rfl⟩ := Prod.mk.inj (Option.some.inj hl)
    exact h
  · obtain ⟨p, hp, hl⟩ := Option.bind_eq_some_iff.mp hl
    split at hl
    · obtain ⟨-, rfl⟩ := Prod.mk.inj (Option.some.inj hl)
      have hset : ∀ idx, ((kvm.setMemslots kvm.active { kvm.memslots kvm.active with
          last_used_slot := p }).memslots idx).gfn_tree = (kvm.memslots idx).gfn_tree
          ∧ ((kvm.setMemslots kvm.active { kvm.memslots kvm.active with
            last_used_slot := p }).memslots idx).id_hash = (kvm.memslots idx).id_hash := by
        intro idx
        by_cases hi : idx = kvm.active
        · subst hi
          rw [Kvm.setMemslots_self]
          exact ⟨rfl, rfl⟩
        · rw [Kvm.setMemslots_ne _ _ _ hi]
          exact ⟨rfl, rfl⟩
      exact h.congr (fun idx => by rw [(hset idx).1]) (fun idx q _ => by rw [(hset idx).1])
        (fun idx => by rw [(hset idx).2]) (fun idx q _ => by rw [(hset idx).2]) (fun _ _ => rfl) rfl
        (fun _ hb => hb)
    · obtain ⟨-, rfl⟩ := Prod.mk.inj (Option.some.inj hl)
      exact h

/-! ## Runs of updates and lookups -/

/-- The states reached from `kvm_create_vm` by calls of `__kvm_set_memory_region` that each satisfy
`ok` and by lookups, in any order. -/
inductive LookupRun (fuel : ℕ) (host : Host)
    (ok : Kvm → PoolAnswers → KvmUserspaceMemoryRegion → NtStatus → Prop) :
    (ℕ → Option Region) → Kvm → Prop where
  | create_vm : LookupRun fuel host ok (fun _ => none) kvm_create_vm
  | call {R : ℕ → Option Region} {kvm kvm' : Kvm} {ans : PoolAnswers}
      {mem : KvmUserspaceMemoryRegion} {r : NtStatus} (hrun : LookupRun fuel host ok R kvm)
      (hfresh : ans.Fresh kvm)
      (hcall : kvm_set_memory_region fuel host ans kvm mem = some (r, kvm'))
      (hok : ok kvm ans mem r) :
      LookupRun fuel host ok (if r = STATUS_SUCCESS then applyRegion R mem else R) kvm'
  | lookup {R : ℕ → Option Region} {kvm kvm' : Kvm} {gfn : ℕ} {r : SlotRef}
      (hrun : LookupRun fuel host ok R kvm)
      (hlookup : gfn_to_memslot fuel kvm gfn = some (r, kvm')) : LookupRun fuel host ok R kvm'

theorem LookupRun.consistent {fuel : ℕ} {host : Host} {R : ℕ → Option Region} {kvm : Kvm}
    (hfuel : KVM_MEM_SLOTS_NUM < fuel)
    (hrun : LookupRun fuel host (fun kvm ans mem _ => removesNothing fuel host kvm ans mem) R kvm) :
    ∃ l, Consistent kvm l R := by
  induction hrun with
  | create_vm => exact ⟨[], consistent_create_vm⟩
  | call _ hfresh hcall hk ih =>
    obtain ⟨l, hl⟩ := ih
    exact (kvm_set_memory_region_spec _ host hl hfresh hfuel).1 _ _ hcall (fun _ => hk)
  | lookup _ hlookup ih =>
    obtain ⟨l, hl⟩ := ih
    exact ⟨l, hl.lookup hlookup⟩

/-- **The lookup through `last_used_slot`.** In every state of a run of updates and lookups in which
no DELETE or MOVE goes through, and for every gfn, there is exactly one slot `p` (or NULL) of the
active set for that gfn, `search_memslots` returns it, and `gfn_to_memslot` returns it exactly when
`id_hash[6].first ≤ gfn < id_hash[6].first + id_hash[7].first` is false of the active set. -/
theorem gfn_to_memslot_exact {fuel : ℕ} {host : Host} {R : ℕ → Option Region} {kvm : Kvm}
    (hfuel : KVM_MEM_SLOTS_NUM < fuel)
    (hrun : LookupRun fuel host (fun kvm ans mem _ => removesNothing fuel host kvm ans mem) R kvm)
    (gfn : ℕ) :
    ∃ l p, SetHolds kvm.slot (kvm.memslots kvm.active) l
      ∧ IsSlotFor kvm.slot l gfn p ∧ (∀ q, IsSlotFor kvm.slot l gfn q → q = p)
      ∧ search_memslots fuel kvm kvm.active gfn false = some p
      ∧ ∃ r kvm', gfn_to_memslot fuel kvm gfn = some (r, kvm')
        ∧ (r = .slot p ↔ ¬ (id_hash_word kvm kvm.active 6 ≤ gfn
            ∧ gfn < (id_hash_word kvm kvm.active 6 + id_hash_word kvm kvm.active 7) % 2 ^ 64)) := by
  obtain ⟨l, h⟩ := hrun.consistent hfuel
  have hlen : l.length < fuel := Nat.lt_of_le_of_lt h.length_le hfuel
  obtain ⟨p, hp, hfor⟩ := search_memslots_spec gfn (h.holds kvm.active) h.disjoint hlen
  refine ⟨l, p, h.holds _, hfor, fun q hq => hq.unique h.disjoint hfor, hp, ?_⟩
  have hiff := gfn_to_memslot_eq_search_iff fuel kvm gfn
  have hov : overlay_contains kvm kvm.active gfn = false
      ↔ ¬ (id_hash_word kvm kvm.active 6 ≤ gfn
        ∧ gfn < (id_hash_word kvm kvm.active 6 + id_hash_word kvm kvm.active 7) % 2 ^ 64) := by
    rw [← Bool.not_eq_true, overlay_contains, gfn_in_range, decide_eq_true_iff]
    exact Iff.rfl
  rw [hp, hov] at hiff
  cases hres : gfn_to_memslot fuel kvm gfn with
  | none =>
    rw [gfn_to_memslot, gfn_to_memslot_in, hp] at hres
    split at hres
    · cases hres
    · by_cases h0 : p = 0
      · simp [h0] at hres
      · simp [h0] at hres
  | some rk =>
    rw [hres] at hiff
    refine ⟨rk.1, rk.2, rfl, ?_⟩
    rw [← hiff]
    simp

/-- A run of updates is a run of updates and lookups. -/
theorem Run.lookupRun {fuel : ℕ} {host : Host}
    {ok : Kvm → PoolAnswers → KvmUserspaceMemoryRegion → NtStatus → Prop}
    {R : ℕ → Option Region} {kvm : Kvm} (h : Run fuel host ok R kvm) :
    LookupRun fuel host ok R kvm := by
  induction h with
  | create_vm => exact .create_vm
  | call _ hfresh hcall hok ih => exact .call ih hfresh hcall hok

/-- With the one slot id 1 (list 48 of the hash table) the lookup of its gfn is right. -/
theorem gfn_to_memslot_exact_created :
    ∃ l p, SetHolds kvmCreated.slot (kvmCreated.memslots kvmCreated.active) l
      ∧ IsSlotFor kvmCreated.slot l 0 p
      ∧ ∃ kvm', gfn_to_memslot 32768 kvmCreated 0 = some (.slot p, kvm') := by
  have hrun : LookupRun 32768 exampleHost
      (fun kvm ans mem _ => removesNothing 32768 exampleHost kvm ans mem)
      (applyRegion (fun _ => none) (createRequest 1 0)) kvmCreated := by
    refine (run_created ?_).lookupRun
    intro v hv hthrough
    rw [classify_created] at hv
    cases hv
    exact hthrough
  obtain ⟨l, p, h1, h2, -, -, r, kvm', h3, h4⟩ :=
    gfn_to_memslot_exact (show KVM_MEM_SLOTS_NUM < 32768 by decide) hrun 0
  have hr : r = .slot p := h4.mpr (by decide +kernel)
  exact ⟨l, p, h1, h2, kvm', by rw [h3, hr]⟩

/-- A new VM with one slot, id 8 at gfn 0, at an address of the system half. -/
def kvmId8 : Kvm :=
  afterCall (exampleAnswers 0xFFFF900000001000 0 0xFFFF900000002000 0xFFFF900000003000) kvm_create_vm
    (createRequest 8 0)

/-- **A gfn without a slot finds one.** Id 8 hashes to list 7 and list 6 is empty: `gfn_to_memslot`
of gfn 5 returns the address of `last_used_slot`, where the active set has no slot for it, and so it
does for gfn 0, which the slot contains. -/
theorem gfn_to_memslot_id8 :
    LookupRun 32768 exampleHost (fun _ _ _ _ => True)
        (applyRegion (fun _ => none) (createRequest 8 0)) kvmId8
      ∧ search_memslots 32768 kvmId8 kvmId8.active 5 false = some 0
      ∧ (gfn_to_memslot 32768 kvmId8 5).map Prod.fst = some (.last_used_slot kvmId8.active)
      ∧ search_memslots 32768 kvmId8 kvmId8.active 0 false = some 0xFFFF900000001000
      ∧ (gfn_to_memslot 32768 kvmId8 0).map Prod.fst = some (.last_used_slot kvmId8.active) := by
  refine ⟨?_, by decide +kernel, by decide +kernel, by decide +kernel, by decide +kernel⟩
  have hfresh : (exampleAnswers 0xFFFF900000001000 0 0xFFFF900000002000 0xFFFF900000003000).Fresh
      kvm_create_vm :=
    exampleAnswers_fresh (by decide) (by decide) rfl rfl (.inl rfl) ⟨rfl, rfl⟩ (by decide)
  have hcall : kvm_set_memory_region 32768 exampleHost
      (exampleAnswers 0xFFFF900000001000 0 0xFFFF900000002000 0xFFFF900000003000) kvm_create_vm
      (createRequest 8 0) = some (STATUS_SUCCESS, kvmId8) :=
    call_eq_afterCall (by decide +kernel)
  exact LookupRun.call .create_vm hfresh hcall trivial

end Svmx.MemSlot
