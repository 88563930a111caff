/-
What one memslot set holds, and what `kvm_replace_memslot` and `kvm_swap_active_memslots` do to
the two sets.

`SetHolds slot m l` says that the set `m` holds exactly the slots `l`, in ascending order of
`base_gfn`: its tree is a red-black search tree with these labels, and its hash table has each of
them once, in the list its id hashes to. Adding a slot and exchanging a slot for another one with
the same `base_gfn` are described on the list; the operations edit the inactive set only, so
create and update-flags are two such edits with a swap between them.
-/
import Svmx.GfnTree
import Svmx.RbErase

set_option autoImplicit false

namespace Svmx.MemSlot

open ColorTree ColorTree.CTree RbTree Hlist

/-! ## What a set holds -/

/-- The list of the hash table a slot belongs in. -/
def slotBucket (slot : Ptr → Option KvmMemorySlot) (p : Ptr) : ℕ := id_bucket (slotAt slot p).id

/-- The set `m` holds the slots `l`. -/
structure SetHolds (slot : Ptr → Option KvmMemorySlot) (m : KvmMemslots) (l : List Ptr) :
    Prop where
  tree : ∃ t, IsGfnTree slot m.gfn_tree t ∧ t.toList = l
  hash : ∃ c, Buckets m.id_hash (slotBucket slot) c ∧ ∀ p, p ∈ c (slotBucket slot p) ↔ p ∈ l

/-- A search tree of slots stays one when the cells and the keys of its slots stay. -/
theorem IsGfnTree.congr {slot slot' : Ptr → Option KvmMemorySlot} {s s' : RbState} {t : CTree Ptr}
    (h : IsGfnTree slot s t) (hroot : s'.rb_node = s.rb_node)
    (hnode : ∀ p ∈ t.toList, s'.node p = s.node p)
    (hslot : ∀ p ∈ t.toList, (slot' p).isSome)
    (hkey : ∀ p ∈ t.toList, (slotAt slot' p).base_gfn = (slotAt slot p).base_gfn) :
    IsGfnTree slot' s' t := by
  refine ⟨⟨h.tree.rep.congr hnode, ?_, h.tree.nodup, h.tree.ptr⟩, h.redBlack, hslot, ?_⟩
  · have hr : s.rb_node = rootPtr t := h.tree.repCtx
    exact hroot.trans hr
  · refine h.sorted.imp_of_mem ?_
    intro p q hp hq hpq
    rw [hkey p hp, hkey q hq]
    exact hpq

/-- A set keeps what it holds when its heads, the cells of its slots and their keys stay. -/
theorem SetHolds.congr {slot slot' : Ptr → Option KvmMemorySlot} {m m' : KvmMemslots}
    {l : List Ptr} (h : SetHolds slot m l) (hroot : m'.gfn_tree.rb_node = m.gfn_tree.rb_node)
    (hrb : ∀ p ∈ l, m'.gfn_tree.node p = m.gfn_tree.node p)
    (hfirst : m'.id_hash.first = m.id_hash.first)
    (hhl : ∀ p ∈ l, m'.id_hash.node p = m.id_hash.node p)
    (hslot : ∀ p ∈ l, (slot' p).isSome)
    (hbase : ∀ p ∈ l, (slotAt slot' p).base_gfn = (slotAt slot p).base_gfn)
    (hid : ∀ p ∈ l, (slotAt slot' p).id = (slotAt slot p).id) : SetHolds slot' m' l := by
  obtain ⟨t, ht, rfl⟩ := h.tree
  obtain ⟨c, hc, hmem⟩ := h.hash
  have hin : ∀ b, ∀ p ∈ c b, p ∈ t.toList := by
    intro b p hp
    rw [← hmem p, hc.mem b p hp]
    exact hp
  have hbucket : ∀ p ∈ t.toList, slotBucket slot' p = slotBucket slot p := fun p hp => by
    rw [slotBucket, slotBucket, hid p hp]
  refine ⟨⟨t, ht.congr hroot hrb hslot hbase, rfl⟩, c, ?_, ?_⟩
  · exact hc.congr hfirst (fun b p hp => hhl p (hin b p hp))
      (fun b p hp => hbucket p (hin b p hp))
  · intro p
    constructor
    · intro hp
      exact hin _ p hp
    · intro hp
      rw [hbucket p hp, hmem p]
      exact hp

/-- The members of a set are aligned addresses, each once. -/
theorem SetHolds.nodePtr {slot : Ptr → Option KvmMemorySlot} {m : KvmMemslots} {l : List Ptr}
    (h : SetHolds slot m l) : ∀ p ∈ l, NodePtr p := by
  obtain ⟨t, ht, rfl⟩ := h.tree
  intro p hp
  exact ht.tree.ptr p (List.mem_append_left _ hp)

theorem SetHolds.nodup {slot : Ptr → Option KvmMemorySlot} {m : KvmMemslots} {l : List Ptr}
    (h : SetHolds slot m l) : l.Nodup := by
  obtain ⟨t, ht, rfl⟩ := h.tree
  have := ht.tree.nodup
  simpa [Ctx.labels] using this

theorem SetHolds.sorted {slot : Ptr → Option KvmMemorySlot} {m : KvmMemslots} {l : List Ptr}
    (h : SetHolds slot m l) :
    l.Pairwise (fun p q => (slotAt slot p).base_gfn < (slotAt slot q).base_gfn) := by
  obtain ⟨t, ht, rfl⟩ := h.tree
  exact ht.sorted

theorem SetHolds.slots {slot : Ptr → Option KvmMemorySlot} {m : KvmMemslots} {l : List Ptr}
    (h : SetHolds slot m l) : ∀ p ∈ l, (slot p).isSome := by
  obtain ⟨t, ht, rfl⟩ := h.tree
  exact ht.slots

/-- A set with the same tree and hash table holds the same slots. -/
theorem SetHolds.of_same {slot : Ptr → Option KvmMemorySlot} {m m' : KvmMemslots} {l : List Ptr}
    (h : SetHolds slot m l) (htree : m'.gfn_tree = m.gfn_tree) (hhash : m'.id_hash = m.id_hash) :
    SetHolds slot m' l :=
  h.congr (by rw [htree]) (fun _ _ => by rw [htree]) (by rw [hhash]) (fun _ _ => by rw [hhash])
    h.slots (fun _ _ => rfl) (fun _ _ => rfl)

/-- A set holds one list of slots. -/
theorem SetHolds.unique {slot : Ptr → Option KvmMemorySlot} {m : KvmMemslots} {l l' : List Ptr}
    (h : SetHolds slot m l) (h' : SetHolds slot m l') : l = l' := by
  have hzero : ∀ {l : List Ptr}, SetHolds slot m l → 0 ∉ l := fun h hm => (h.nodePtr 0 hm).1 rfl
  have h0 := hzero h
  have h0' := hzero h'
  obtain ⟨t, ht, rfl⟩ := h.tree
  obtain ⟨t', ht', rfl⟩ := h'.tree
  exact ht.tree.rep.toList_unique ht'.tree.rep h0 h0' (ht.tree.repCtx.symm.trans ht'.tree.repCtx)

/-- A set with an empty tree holds nothing. -/
theorem SetHolds.nil_of_root {slot : Ptr → Option KvmMemorySlot} {m : KvmMemslots} {l : List Ptr}
    (h : SetHolds slot m l) (h0 : m.gfn_tree.rb_node = 0) : l = [] := by
  have hptr := h.nodePtr
  obtain ⟨t, ht, rfl⟩ := h.tree
  have hroot : rootPtr t = 0 := Eq.trans ht.tree.repCtx.symm h0
  rcases rootPtr_eq_zero_or_mem t with rfl | hm
  · rfl
  · exact absurd hroot (hptr _ hm).1

/-! ## Lookup by id -/

/-- **`id_to_memslot`** returns the slot of the set with that id, NULL if there is none. -/
theorem id_to_memslot_spec {kvm : Kvm} {idx : Bool} {l : List Ptr} (id : ℕ) {fuel : ℕ}
    (h : SetHolds kvm.slot (kvm.memslots idx) l) (hfuel : l.length < fuel) :
    ∃ p, id_to_memslot fuel kvm idx id = some p
      ∧ (p ≠ 0 → p ∈ l ∧ (slotAt kvm.slot p).id = id)
      ∧ (p = 0 → ∀ q ∈ l, (slotAt kvm.slot q).id ≠ id) := by
  obtain ⟨c, hc, hmem⟩ := h.hash
  have hin : ∀ p ∈ c (id_bucket id), p ∈ l := by
    intro p hp
    rw [← hmem p, hc.mem _ p hp]
    exact hp
  have hlen : (c (id_bucket id)).length < fuel := by
    have hle := (List.subperm_of_subset (hc.nodup (id_bucket id)) hin).length_le
    omega
  have htest : ∀ p ∈ c (id_bucket id), (kvm.slot p).map (fun m => m.id == id)
      = some ((slotAt kvm.slot p).id == id) := fun p hp => by
    rw [slot_eq_slotAt (h.slots p (hin p hp)), Option.map_some]
  have hfind := hlist_find_spec (hc.chain (id_bucket id)) htest hlen
  refine ⟨_, hfind, ?_, ?_⟩
  · intro hp
    cases hf : (c (id_bucket id)).find? (fun p => (slotAt kvm.slot p).id == id) with
    | none => rw [hf] at hp; exact absurd rfl hp
    | some q =>
      have hq := List.find?_some hf
      exact ⟨hin q (List.mem_of_find?_eq_some hf), by simpa using hq⟩
  · intro hp q hq hid
    have hqc : q ∈ c (id_bucket id) := by
      rw [← hid]
      exact (hmem q).2 hq
    cases hf : (c (id_bucket id)).find? (fun p => (slotAt kvm.slot p).id == id) with
    | none =>
      rw [List.find?_eq_none] at hf
      have := hf q hqc
      simp [hid] at this
    | some r =>
      rw [hf] at hp
      have hr := h.nodePtr r (hin r (List.mem_of_find?_eq_some hf))
      exact hr.1 hp

/-! ## Adding and exchanging a slot in one set -/

/-- The slots with `p` put at the place of its `base_gfn`. -/
def insertSlot (slot : Ptr → Option KvmMemorySlot) (p : Ptr) (l : List Ptr) : List Ptr :=
  l.filter (fun q => (slotAt slot q).base_gfn < (slotAt slot p).base_gfn)
    ++ p :: l.filter (fun q => (slotAt slot p).base_gfn < (slotAt slot q).base_gfn)

/-- The slots with `old` exchanged for `new`. -/
def replaceSlot (old new : Ptr) (l : List Ptr) : List Ptr :=
  l.map (fun p => if p = old then new else p)

theorem mem_replaceSlot {old new p : Ptr} {l : List Ptr} (hold : old ∈ l) :
    p ∈ replaceSlot old new l ↔ p = new ∨ (p ∈ l ∧ p ≠ old) := by
  rw [replaceSlot, List.mem_map]
  constructor
  · rintro ⟨q, hq, rfl⟩
    by_cases h : q = old
    · exact .inl (if_pos h)
    · exact .inr ⟨by rwa [if_neg h], by rwa [if_neg h]⟩
  · rintro (rfl | ⟨hp, hne⟩)
    · exact ⟨old, hold, if_pos rfl⟩
    · exact ⟨p, hp, if_neg hne⟩

theorem mem_insertSlot {slot : Ptr → Option KvmMemorySlot} {p q : Ptr} {l : List Ptr}
    (hne : ∀ q ∈ l, (slotAt slot q).base_gfn ≠ (slotAt slot p).base_gfn) :
    q ∈ insertSlot slot p l ↔ q = p ∨ q ∈ l := by
  simp only [insertSlot, List.mem_append, List.mem_filter, List.mem_cons, decide_eq_true_eq]
  constructor
  · rintro (⟨h, -⟩ | h | ⟨h, -⟩)
    · exact .inr h
    · exact .inl h
    · exact .inr h
  · rintro (h | h)
    · exact .inr (.inl h)
    · have := hne q h
      rcases Nat.lt_or_gt_of_ne this with h' | h'
      · exact .inl ⟨h, h'⟩
      · exact .inr (.inr ⟨h, h'⟩)

section edit

variable {slot : Ptr → Option KvmMemorySlot} {m : KvmMemslots} {l : List Ptr}

/-- `hash_add` of a slot that is not in the set. -/
theorem hash_add_spec {c : ℕ → List Ptr} {p : ℕ} (hc : Buckets m.id_hash (slotBucket slot) c)
    (hp : ∀ b, p ∉ c b) (hp0 : p ≠ 0) (hcell : m.id_hash.node p ≠ none) :
    ∃ h c', hlist_add_head m.id_hash p (slotBucket slot p) = some h
      ∧ Buckets h (slotBucket slot) c'
      ∧ ∀ q, q ∈ c' (slotBucket slot q) ↔ q = p ∨ q ∈ c (slotBucket slot q) := by
  obtain ⟨n, hn⟩ := Option.ne_none_iff_exists'.1 hcell
  obtain ⟨h, hs, hb, -⟩ := hlist_add_head_spec hc hp0 hn hp
  refine ⟨h, _, hs, hb, ?_⟩
  intro q
  by_cases hbq : slotBucket slot q = slotBucket slot p
  · rw [hbq, Function.update_self, List.mem_cons]
  · rw [Function.update_of_ne hbq]
    constructor
    · exact .inr
    · rintro (rfl | hq)
      · exact absurd rfl hbq
      · exact hq

/-- The tree half of adding a slot, on lists. -/
theorem insert_list_eq {s' : RbState} {t' : CTree Ptr} {p : Ptr} {l₁ l₂ : List Ptr}
    (ht' : IsGfnTree slot s' t') (hl : l = l₁ ++ l₂) (hl' : t'.toList = l₁ ++ p :: l₂) :
    t'.toList = insertSlot slot p l := by
  have hs := ht'.sorted
  rw [hl', List.pairwise_append, List.pairwise_cons] at hs
  obtain ⟨-, ⟨h2, -⟩, h12⟩ := hs
  have h1 : ∀ q ∈ l₁, (slotAt slot q).base_gfn < (slotAt slot p).base_gfn :=
    fun q hq => h12 q hq p (by simp)
  have e1 : l.filter (fun q => decide ((slotAt slot q).base_gfn < (slotAt slot p).base_gfn))
      = l₁ := by
    rw [hl, List.filter_append, List.filter_eq_self.2 (fun q hq => decide_eq_true (h1 q hq)),
      List.filter_eq_nil_iff.2, List.append_nil]
    intro q hq
    have := h2 q hq
    simp only [decide_eq_true_eq]
    omega
  have e2 : l.filter (fun q => decide ((slotAt slot p).base_gfn < (slotAt slot q).base_gfn))
      = l₂ := by
    rw [hl, List.filter_append, List.filter_eq_self.2 (fun q hq => decide_eq_true (h2 q hq)),
      List.filter_eq_nil_iff.2, List.nil_append]
    intro q hq
    have := h1 q hq
    simp only [decide_eq_true_eq]
    omega
  rw [insertSlot, e1, e2, hl']

/-- `hash_del` of a slot of the set. -/
theorem hash_del_spec {c : ℕ → List Ptr} {p : ℕ} (hc : Buckets m.id_hash (slotBucket slot) c)
    (hp : p ∈ c (slotBucket slot p)) :
    ∃ h c', hlist_del_init m.id_hash p = some h ∧ Buckets h (slotBucket slot) c'
      ∧ (∀ q, q ∈ c' (slotBucket slot q) ↔ q ∈ c (slotBucket slot q) ∧ q ≠ p)
      ∧ ∀ q, (h.node q).isSome = (m.id_hash.node q).isSome := by
  obtain ⟨h, hs, hb, hn⟩ := hlist_del_init_spec hc hp
  refine ⟨h, _, hs, hb, ?_, hn⟩
  intro q
  by_cases hbq : slotBucket slot q = slotBucket slot p
  · rw [hbq, Function.update_self, (hc.nodup _).mem_erase_iff, and_comm]
  · rw [Function.update_of_ne hbq]
    refine ⟨fun hq => ⟨hq, ?_⟩, fun hq => hq.1⟩
    rintro rfl
    exact hbq rfl

end edit

/-! ## `kvm_replace_memslot` -/

namespace Kvm

variable (kvm : Kvm) (idx : Bool) (m m' : KvmMemslots)

@[simp] theorem setMemslots_self : (kvm.setMemslots idx m).memslots idx = m := by
  simp [setMemslots]

@[simp] theorem setMemslots_other :
    (kvm.setMemslots (!idx) m).memslots idx = kvm.memslots idx := by
  simp [setMemslots]

theorem setMemslots_ne {idx' : Bool} (h : idx' ≠ idx) :
    (kvm.setMemslots idx m).memslots idx' = kvm.memslots idx' :=
  Function.update_of_ne h _ _

@[simp] theorem setMemslots_slot : (kvm.setMemslots idx m).slot = kvm.slot := rfl

@[simp] theorem setMemslots_active : (kvm.setMemslots idx m).active = kvm.active := rfl

@[simp] theorem setMemslots_setMemslots :
    (kvm.setMemslots idx m).setMemslots idx m' = kvm.setMemslots idx m' := by
  simp [setMemslots]

end Kvm

section replace

variable {kvm : Kvm} {l : List Ptr}

theorem inactive_eq : kvm_get_inactive_memslots kvm 0 = some (!kvm.active) := rfl

/-- Only address space 0 has an inactive set. -/
theorem inactive_of_some {as_id : ℕ} {idx : Bool}
    (h : kvm_get_inactive_memslots kvm as_id = some idx) : as_id = 0 ∧ idx = !kvm.active := by
  rw [kvm_get_inactive_memslots, kvm_active_memslots] at h
  split at h
  · next hlt => exact ⟨Nat.lt_one_iff.mp hlt, (Option.some.inj h).symm⟩
  · cases h

theorem kvm_hash_memslot_eq (kvm : Kvm) {idx : Bool} {new : Ptr} {h : HlistTable}
    (hslot : (kvm.slot new).isSome)
    (hadd : hlist_add_head (kvm.memslots idx).id_hash new (slotBucket kvm.slot new) = some h) :
    kvm_hash_memslot kvm idx new
      = some (kvm.setMemslots idx { kvm.memslots idx with id_hash := h }) := by
  rw [slotBucket] at hadd
  rw [kvm_hash_memslot, slot_eq_slotAt hslot]
  simp only [Option.bind_eq_bind, Option.bind_some, hadd]
  rfl

/-- The old slot says which address space it is about. -/
theorem kvm_memslots_get_as_id_old {old : Ptr} (new : Ptr) (hold : old ≠ 0)
    (hslot : (kvm.slot old).isSome) (has : (slotAt kvm.slot old).as_id = 0) :
    kvm_memslots_get_as_id kvm old new = some 0 := by
  rw [kvm_memslots_get_as_id, if_neg (fun hz => hold hz.1), if_neg hold, slot_eq_slotAt hslot,
    Option.map_some, has]

theorem kvm_unhash_memslot_eq (kvm : Kvm) {idx : Bool} {old : Ptr} (new : Ptr) {h : HlistTable}
    (hold : old ≠ 0) (hdel : hlist_del_init (kvm.memslots idx).id_hash old = some h) :
    kvm_unhash_memslot kvm idx old new = some (kvm.setMemslots idx { kvm.memslots idx with
      id_hash := h
      last_used_slot := if (kvm.memslots idx).last_used_slot = old then new
        else (kvm.memslots idx).last_used_slot }) := by
  rw [kvm_unhash_memslot, if_pos hold]
  simp only [hdel, Option.bind_eq_bind, Option.bind_some]
  rfl

/-- **`kvm_replace_memslot(NULL, new)`** adds `new` to the inactive set. -/
theorem kvm_replace_memslot_add_spec {new fuel : ℕ}
    (h : SetHolds kvm.slot (kvm.memslots (!kvm.active)) l) (hnew : new ∉ l)
    (hslot : (kvm.slot new).isSome) (has : (slotAt kvm.slot new).as_id = 0) (hptr : NodePtr new)
    (hrb : (kvm.memslots (!kvm.active)).gfn_tree.node new ≠ none)
    (hhl : (kvm.memslots (!kvm.active)).id_hash.node new ≠ none)
    (hbase : ∀ q ∈ l, (slotAt kvm.slot q).base_gfn ≠ (slotAt kvm.slot new).base_gfn)
    (hfuel : l.length < fuel) :
    ∃ m', kvm_replace_memslot fuel kvm 0 new = some (kvm.setMemslots (!kvm.active) m')
      ∧ SetHolds kvm.slot m' (insertSlot kvm.slot new l) := by
  obtain ⟨t, ht, rfl⟩ := h.tree
  obtain ⟨c, hc, hmem⟩ := h.hash
  have hfresh : ∀ b, new ∉ c b := by
    intro b hb
    have := hc.mem b new hb
    exact hnew ((hmem new).1 (by rw [this]; exact hb))
  obtain ⟨hh, c', hadd, hc', hmem'⟩ := hash_add_spec hc hfresh hptr.1 hhl
  obtain ⟨s', t', l₁, l₂, hins, ht', hl, hl', -⟩ :=
    kvm_insert_gfn_node_spec ht hslot hrb hptr hbase hfuel
  have hlist := insert_list_eq ht' hl hl'
  refine ⟨{ kvm.memslots (!kvm.active) with id_hash := hh, gfn_tree := s' }, ?_,
    ⟨t', ht', hlist⟩, c', hc', ?_⟩
  · have has' : kvm_memslots_get_as_id kvm 0 new = some 0 := by
      rw [kvm_memslots_get_as_id, if_neg (fun hz => hptr.1 hz.2), if_pos rfl,
        slot_eq_slotAt hslot, Option.map_some, has]
    have htree : kvm_replace_in_tree fuel (kvm.setMemslots (!kvm.active)
        { kvm.memslots (!kvm.active) with id_hash := hh }) (!kvm.active) 0 new = some s' := by
      simp [kvm_replace_in_tree, kvm_same_base_gfn, kvm_erase_gfn_node_if, hins]
    rw [kvm_replace_memslot, has']
    simp only [Option.bind_eq_bind, Option.bind_some, inactive_eq, kvm_unhash_memslot,
      ne_eq, not_true_eq_false, if_false, false_and]
    rw [kvm_hash_memslot_eq kvm hslot hadd]
    simp only [Option.bind_some, htree, Kvm.setMemslots_self, Kvm.setMemslots_setMemslots]
    rfl
  · intro q
    rw [hmem' q, mem_insertSlot hbase, hmem q]

/-- **`kvm_replace_memslot(old, new)`** with slots of the same `base_gfn` exchanges them in the
inactive set. -/
theorem kvm_replace_memslot_exchange_spec {old new fuel : ℕ}
    (h : SetHolds kvm.slot (kvm.memslots (!kvm.active)) l) (hold : old ∈ l) (hnew : new ∉ l)
    (hslot : (kvm.slot new).isSome) (has : (slotAt kvm.slot old).as_id = 0) (hptr : NodePtr new)
    (hrb : (kvm.memslots (!kvm.active)).gfn_tree.node new ≠ none)
    (hhl : (kvm.memslots (!kvm.active)).id_hash.node new ≠ none)
    (hbase : (slotAt kvm.slot old).base_gfn = (slotAt kvm.slot new).base_gfn) :
    ∃ m', kvm_replace_memslot fuel kvm old new = some (kvm.setMemslots (!kvm.active) m')
      ∧ SetHolds kvm.slot m' (replaceSlot old new l) := by
  obtain ⟨t, ht, rfl⟩ := h.tree
  obtain ⟨c, hc, hmem⟩ := h.hash
  have hold0 : old ≠ 0 := (h.nodePtr old hold).1
  have holds : (kvm.slot old).isSome := h.slots old hold
  set m := kvm.memslots (!kvm.active) with hm
  obtain ⟨h1, c1, hdel, hc1, hmem1, hn1⟩ := hash_del_spec hc ((hmem old).2 hold)
  -- the set without `old` in its hash table, still with `old` in its tree
  let m1 : KvmMemslots := { m with
    id_hash := h1
    last_used_slot := if m.last_used_slot = old then new else m.last_used_slot }
  have hfresh : ∀ b, new ∉ c1 b := by
    intro b hb
    have := hc1.mem b new hb
    have hin : new ∈ c1 (slotBucket kvm.slot new) := by rw [this]; exact hb
    exact hnew ((hmem new).1 ((hmem1 new).1 hin).1)
  have hcell1 : m1.id_hash.node new ≠ none := by
    have := hn1 new
    rw [Option.isSome_iff_ne_none.2 hhl] at this
    exact Option.isSome_iff_ne_none.1 this
  obtain ⟨h2, c2, hadd, hc2, hmem2⟩ := hash_add_spec (m := m1) hc1 hfresh hptr.1 hcell1
  obtain ⟨s', hrep, ht', -⟩ := kvm_replace_gfn_node_spec ht hold hnew hslot hrb hptr hbase
  refine ⟨{ m1 with id_hash := h2, gfn_tree := s' }, ?_, ⟨_, ht', ?_⟩, c2, hc2, ?_⟩
  · -- out of the hash table, into it again as `new`, and the node of the tree relabelled
    have e1 : kvm_unhash_memslot kvm (!kvm.active) old new
        = some (kvm.setMemslots (!kvm.active) m1) := kvm_unhash_memslot_eq kvm new hold0 hdel
    have e2 : kvm_hash_memslot (kvm.setMemslots (!kvm.active) m1) (!kvm.active) new
        = some (kvm.setMemslots (!kvm.active) { m1 with id_hash := h2 }) := by
      have hadd' : hlist_add_head
          ((kvm.setMemslots (!kvm.active) m1).memslots (!kvm.active)).id_hash new
          (slotBucket kvm.slot new) = some h2 := by
        rw [Kvm.setMemslots_self]
        exact hadd
      rw [kvm_hash_memslot_eq (kvm.setMemslots (!kvm.active) m1) hslot hadd']
      simp
    have e3 : kvm_replace_in_tree fuel
        (kvm.setMemslots (!kvm.active) { m1 with id_hash := h2 }) (!kvm.active) old new
        = some s' := by
      have hsame : kvm_same_base_gfn
          (kvm.setMemslots (!kvm.active) { m1 with id_hash := h2 }) old new = some true := by
        rw [kvm_same_base_gfn, if_pos hold0, Kvm.setMemslots_slot, slot_eq_slotAt holds,
          slot_eq_slotAt hslot]
        simp [hbase]
      rw [kvm_replace_in_tree, hsame]
      simp only [Option.bind_eq_bind, Option.bind_some, if_true, Kvm.setMemslots_self]
      exact hrep
    rw [kvm_replace_memslot, kvm_memslots_get_as_id_old new hold0 holds has]
    simp only [Option.bind_eq_bind, Option.bind_some, inactive_eq, e1]
    rw [if_neg (fun hz => hptr.1 hz.2)]
    simp only [Option.bind_some, e2, e3, Kvm.setMemslots_self, Kvm.setMemslots_setMemslots]
    rfl
  · rw [toList_map, replaceSlot]
  · intro q
    rw [hmem2 q, hmem1 q, hmem q, mem_replaceSlot hold]

/-- **`kvm_replace_memslot(old, NULL)`** takes `old` out of the inactive set. -/
theorem kvm_replace_memslot_remove_spec {old fuel : ℕ}
    (h : SetHolds kvm.slot (kvm.memslots (!kvm.active)) l) (hold : old ∈ l)
    (has : (slotAt kvm.slot old).as_id = 0) (hfuel : l.length ≤ fuel) :
    ∃ m', kvm_replace_memslot fuel kvm old 0 = some (kvm.setMemslots (!kvm.active) m')
      ∧ SetHolds kvm.slot m' (l.erase old) := by
  have hnodup := h.nodup
  have hold0 : old ≠ 0 := (h.nodePtr old hold).1
  have holds : (kvm.slot old).isSome := h.slots old hold
  obtain ⟨t, ht, rfl⟩ := h.tree
  obtain ⟨c, hc, hmem⟩ := h.hash
  obtain ⟨h1, c1, hdel, hc1, hmem1, -⟩ := hash_del_spec hc ((hmem old).2 hold)
  obtain ⟨s', t', herase, ht', hrb', hl', -⟩ := rb_erase_red_black ht.tree ht.redBlack hold hfuel
  set m := kvm.memslots (!kvm.active) with hm
  let m1 : KvmMemslots := { m with
    id_hash := h1
    last_used_slot := if m.last_used_slot = old then 0 else m.last_used_slot }
  refine ⟨{ m1 with gfn_tree := s' }, ?_, ⟨t', ⟨ht', hrb', ?_, ?_⟩, hl'⟩, c1, hc1, ?_⟩
  · have e1 : kvm_unhash_memslot kvm (!kvm.active) old 0
        = some (kvm.setMemslots (!kvm.active) m1) := kvm_unhash_memslot_eq kvm 0 hold0 hdel
    have e2 : kvm_erase_gfn_node fuel m1.gfn_tree old = some s' := herase
    rw [kvm_replace_memslot, kvm_memslots_get_as_id_old 0 hold0 holds has]
    simp only [Option.bind_eq_bind, Option.bind_some, inactive_eq, e1]
    rw [if_pos ⟨hold0, trivial⟩]
    simp only [Kvm.setMemslots_self, e2, Option.bind_some, Kvm.setMemslots_setMemslots]
    rfl
  · intro p hp
    rw [hl'] at hp
    exact ht.slots p (List.mem_of_mem_erase hp)
  · rw [hl']
    exact ht.sorted.sublist List.erase_sublist
  · intro q
    rw [hmem1 q, hmem q, hnodup.mem_erase_iff, and_comm]

end replace

/-! ## Editing both sets -/

/-- The tree and the hash table of a set are what another VM state has there. -/
def SameSet (m m' : KvmMemslots) : Prop := m'.gfn_tree = m.gfn_tree ∧ m'.id_hash = m.id_hash

/-- **`kvm_swap_active_memslots`** makes the inactive set the active one, releases the lock, and
leaves the contents of both sets alone. -/
theorem kvm_swap_active_memslots_spec {kvm : Kvm} (hlock : kvm.slots_arch_lock ≠ 0) :
    ∃ kvm', kvm_swap_active_memslots kvm 0 = some kvm' ∧ kvm'.active = (!kvm.active)
      ∧ (∀ idx, SameSet (kvm.memslots idx) (kvm'.memslots idx))
      ∧ kvm'.slot = kvm.slot ∧ kvm'.pool = kvm.pool
      ∧ kvm'.nr_memslot_pages = kvm.nr_memslot_pages
      ∧ kvm'.slots_arch_lock = kvm.slots_arch_lock - 1 := by
  have hrun : kvm_swap_active_memslots kvm 0
      = some (kvm_swap_settle { kvm_swap_mark kvm (!kvm.active) with
          active := !kvm.active, slots_arch_lock := kvm.slots_arch_lock - 1 } (!kvm.active)) := by
    simp only [kvm_swap_active_memslots, inactive_eq, Option.bind_eq_bind, Option.bind_some,
      Kvm.unlockArch]
    rw [if_neg (show (kvm_swap_pointer (kvm_swap_mark kvm (!kvm.active))
      (!kvm.active)).slots_arch_lock ≠ 0 from hlock)]
    rfl
  refine ⟨_, hrun, rfl, ?_, rfl, rfl, rfl, rfl⟩
  intro idx
  by_cases h : idx = !kvm.active
  · rw [h]
    simp [SameSet, kvm_swap_settle, kvm_swap_mark, Kvm.setMemslots]
  · simp [SameSet, kvm_swap_settle, kvm_swap_mark, Kvm.setMemslots, Function.update_of_ne h]

/-- An edit of the inactive set, a swap and the same edit of the set that is inactive then: if the
edit takes a set from `l` to `l'`, both sets end up with `l'`. -/
theorem replace_activate_spec {kvm : Kvm} {old new : Ptr} {fuel : ℕ} {l' : List Ptr}
    (has : kvm_memslots_get_as_id kvm old new = some 0) (hlock : kvm.slots_arch_lock ≠ 0)
    (hedit : ∀ k : Kvm, k.slot = kvm.slot →
      SameSet (kvm.memslots (!k.active)) (k.memslots (!k.active)) →
      ∃ m', kvm_replace_memslot fuel k old new = some (k.setMemslots (!k.active) m')
        ∧ SetHolds kvm.slot m' l') :
    ∃ kvm', (do kvm_activate_memslot fuel (← kvm_replace_memslot fuel kvm old new) old new)
        = some kvm'
      ∧ (∀ idx, SetHolds kvm.slot (kvm'.memslots idx) l')
      ∧ kvm'.slot = kvm.slot ∧ kvm'.pool = kvm.pool
      ∧ kvm'.nr_memslot_pages = kvm.nr_memslot_pages := by
  obtain ⟨m1, e1, hm1⟩ := hedit kvm rfl ⟨rfl, rfl⟩
  let k1 := kvm.setMemslots (!kvm.active) m1
  obtain ⟨k2, e2, hact2, hsame2, hslot2, hpool2, hpages2, -⟩ :=
    kvm_swap_active_memslots_spec (show k1.slots_arch_lock ≠ 0 from hlock)
  have hactive : (!k2.active) = kvm.active := by
    rw [hact2, show k1.active = kvm.active from rfl, Bool.not_not]
  have hset2 : SameSet (kvm.memslots (!k2.active)) (k2.memslots (!k2.active)) := by
    have := hsame2 (!k2.active)
    rw [hactive] at this ⊢
    rw [show k1.memslots kvm.active = kvm.memslots kvm.active from
      Kvm.setMemslots_other kvm kvm.active m1] at this
    exact this
  -- the set that is inactive now has not been edited yet
  obtain ⟨m3, e3, hm3⟩ := hedit k2 hslot2 hset2
  refine ⟨k2.setMemslots (!k2.active) m3, ?_, ?_, hslot2, hpool2, hpages2⟩
  · have has1 : kvm_memslots_get_as_id k1 old new = some 0 := has
    simp only [e1, Option.bind_eq_bind, Option.bind_some, kvm_activate_memslot]
    rw [show kvm.setMemslots (!kvm.active) m1 = k1 from rfl, has1]
    simp only [Option.bind_some, e2, e3]
  · intro idx
    by_cases hidx : idx = !k2.active
    · rw [hidx, Kvm.setMemslots_self]
      exact hm3
    · have hidx' : idx = k2.active := by
        cases idx <;> cases hk : k2.active <;> simp_all
      rw [hidx', Kvm.setMemslots_other]
      have hs := hsame2 k2.active
      have hk1 : k1.memslots k2.active = m1 := by
        rw [hact2, show k1.active = kvm.active from rfl]
        exact Kvm.setMemslots_self kvm (!kvm.active) m1
      rw [hk1] at hs
      exact hm1.of_same hs.1 hs.2

/-- What the pool hands out for a slot: an aligned address that no set uses, with cells for the
nodes of both sets. -/
structure FreshSlot (kvm : Kvm) (l : List Ptr) (new : ℕ) : Prop where
  notMem : new ∉ l
  ptr : NodePtr new
  slot : (kvm.slot new).isSome
  rb : ∀ idx, (kvm.memslots idx).gfn_tree.node new ≠ none
  hl : ∀ idx, (kvm.memslots idx).id_hash.node new ≠ none

/-- **`kvm_create_memslot`** adds the slot to both sets. -/
theorem kvm_create_memslot_spec {kvm : Kvm} {l : List Ptr} {new fuel : ℕ}
    (h : ∀ idx, SetHolds kvm.slot (kvm.memslots idx) l) (hnew : FreshSlot kvm l new)
    (has : (slotAt kvm.slot new).as_id = 0)
    (hbase : ∀ q ∈ l, (slotAt kvm.slot q).base_gfn ≠ (slotAt kvm.slot new).base_gfn)
    (hlock : kvm.slots_arch_lock ≠ 0) (hfuel : l.length < fuel) :
    ∃ kvm', kvm_create_memslot fuel kvm new = some kvm'
      ∧ (∀ idx, SetHolds kvm.slot (kvm'.memslots idx) (insertSlot kvm.slot new l))
      ∧ kvm'.slot = kvm.slot ∧ kvm'.pool = kvm.pool
      ∧ kvm'.nr_memslot_pages = kvm.nr_memslot_pages := by
  refine replace_activate_spec ?_ hlock ?_
  · rw [kvm_memslots_get_as_id, if_neg (fun hz => hnew.ptr.1 hz.2), if_pos rfl,
      slot_eq_slotAt hnew.slot, Option.map_some, has]
  · intro k hk hsame
    have hset : SetHolds k.slot (k.memslots (!k.active)) l := by
      rw [hk]
      exact (h (!k.active)).of_same hsame.1 hsame.2
    rw [← hk] at has hbase ⊢
    exact kvm_replace_memslot_add_spec hset hnew.notMem (by rw [hk]; exact hnew.slot) has hnew.ptr
      (by rw [hsame.1]; exact hnew.rb _) (by rw [hsame.2]; exact hnew.hl _) hbase hfuel

/-- **`kvm_update_flags_memslot`** exchanges the slot in both sets. -/
theorem kvm_update_flags_memslot_spec {kvm : Kvm} {l : List Ptr} {old new fuel : ℕ}
    (h : ∀ idx, SetHolds kvm.slot (kvm.memslots idx) l) (hold : old ∈ l)
    (hnew : FreshSlot kvm l new) (has : (slotAt kvm.slot old).as_id = 0)
    (hbase : (slotAt kvm.slot old).base_gfn = (slotAt kvm.slot new).base_gfn)
    (hlock : kvm.slots_arch_lock ≠ 0) :
    ∃ kvm', kvm_update_flags_memslot fuel kvm old new = some kvm'
      ∧ (∀ idx, SetHolds kvm.slot (kvm'.memslots idx) (replaceSlot old new l))
      ∧ kvm'.slot = kvm.slot ∧ kvm'.pool = kvm.pool
      ∧ kvm'.nr_memslot_pages = kvm.nr_memslot_pages := by
  have hold0 : old ≠ 0 := ((h false).nodePtr old hold).1
  refine replace_activate_spec ?_ hlock ?_
  · rw [kvm_memslots_get_as_id, if_neg (fun hz => hold0 hz.1), if_neg hold0,
      slot_eq_slotAt ((h false).slots old hold), Option.map_some, has]
  · intro k hk hsame
    have hset : SetHolds k.slot (k.memslots (!k.active)) l := by
      rw [hk]
      exact (h (!k.active)).of_same hsame.1 hsame.2
    rw [← hk] at has hbase ⊢
    exact kvm_replace_memslot_exchange_spec hset hold hnew.notMem (by rw [hk]; exact hnew.slot) has
      hnew.ptr (by rw [hsame.1]; exact hnew.rb _) (by rw [hsame.2]; exact hnew.hl _) hbase

end Svmx.MemSlot
