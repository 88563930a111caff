/-
`pte_list_remove` on the lists of SPTE pointers behind `kvm_rmap_head`.

One word stands for an empty list, for a single pointer, or, with bit 0 set, for a chain of
descriptors, all full but the first. Removal fills the hole with the last pointer of the first
descriptor and drops that descriptor once it is empty. The word is untagged with `~1ul`, which is
32 bits wide in the Windows build: the mask takes bits 32 to 63 off the address with the tag.
-/
import Mathlib.Algebra.Order.Group.Multiset
import Mathlib.Data.List.OfFn
import Mathlib.Data.Fintype.Basic
import Mathlib.Tactic.Common

set_option autoImplicit false

/-! ## A list with one element exchanged -/

namespace ListMultiset

variable {α : Type*} [DecidableEq α]

/-- The element at an index is exchanged for another one. -/
theorem coe_set {l : List α} {i : ℕ} (h : i < l.length) (e : α) :
    ((l.set i e : List α) : Multiset α) = e ::ₘ (l : Multiset α).erase l[i] := by
  have hperm : ((l.eraseIdx i : List α) : Multiset α) = (l : Multiset α).erase l[i] := by
    rw [← Multiset.coe_eq_coe.mpr (List.getElem_cons_eraseIdx_perm h), ← Multiset.cons_coe,
      Multiset.erase_cons_head]
  rw [Multiset.coe_eq_coe.mpr (List.set_perm_cons_eraseIdx h e), ← Multiset.cons_coe, hperm]

end ListMultiset

namespace Svmx.PteList

/-! ## The source -/

abbrev Addr := BitVec 64

def PTE_LIST_EXT : ℕ := 14

/-- `struct pte_list_desc`. -/
structure PteListDesc where
  more : Addr
  spte_count : ℕ
  tail_count : ℕ
  sptes : Fin PTE_LIST_EXT → Addr

/-- The memory that holds descriptors, and the word `rmap_head->val`. -/
structure RmapHeap where
  desc : Addr → Option PteListDesc
  val : BitVec 64

/-- `(struct pte_list_desc*)(val & ~1ul)`: an `unsigned long` has 32 bits, and its complement is
extended with zeroes. -/
def untag (val : BitVec 64) : Addr := val &&& (~~~1#32).setWidth 64

/-- A read of `desc->sptes[i]`. -/
def PteListDesc.spte (d : PteListDesc) (i : ℕ) : Option Addr :=
  if h : i < PTE_LIST_EXT then some (d.sptes ⟨i, h⟩) else none

/-- A write to `desc->sptes[i]`. -/
def PteListDesc.setSpte (d : PteListDesc) (i : ℕ) (v : Addr) : Option PteListDesc :=
  if h : i < PTE_LIST_EXT then some { d with sptes := Function.update d.sptes ⟨i, h⟩ v } else none

def RmapHeap.store (s : RmapHeap) (p : Addr) (d : PteListDesc) : RmapHeap :=
  { s with desc := Function.update s.desc p (some d) }

/-- `desc->sptes[i] = v`. -/
def RmapHeap.setSpte (s : RmapHeap) (p : Addr) (i : ℕ) (v : Addr) : Option RmapHeap := do
  let d ← s.desc p
  let d ← d.setSpte i v
  pure (s.store p d)

/-- `pte_list_desc_remove_entry`; `mmu_free_pte_list_desc` does nothing. -/
def pte_list_desc_remove_entry (s : RmapHeap) (desc : Addr) (i : ℕ) : Option RmapHeap := do
  let head_desc := untag s.val
  let h ← s.desc head_desc
  if h.spte_count = 0 then none  -- the index `j` is -1
  else do
    let j := h.spte_count - 1
    let v ← h.spte j
    let s ← s.setSpte desc i v
    let s ← s.setSpte head_desc j 0
    let h ← s.desc head_desc
    let s := s.store head_desc { h with spte_count := h.spte_count - 1 }
    if h.spte_count - 1 ≠ 0 then pure s
    else if h.more = 0 then pure { s with val := 0 }
    else pure { s with val := h.more ||| 1 }

/-- The inner loop of `pte_list_remove`: `n` indices from `i` on are left. -/
def pte_list_find (d : PteListDesc) (spte : Addr) : ℕ → ℕ → Option (Option ℕ)
  | 0, _ => some none
  | n + 1, i => do
    let v ← d.spte i
    if v = spte then pure (some i) else pte_list_find d spte n (i + 1)

/-- The loop of `pte_list_remove` over the descriptors. -/
def pte_list_remove_loop (spte : Addr) : ℕ → RmapHeap → Addr → Option RmapHeap
  | 0, _, _ => none
  | fuel + 1, s, desc =>
    if desc = 0 then some s
    else do
      let d ← s.desc desc
      match ← pte_list_find d spte d.spte_count 0 with
      | some i => pte_list_desc_remove_entry s desc i
      | none => pte_list_remove_loop spte fuel s d.more

/-- `pte_list_remove`, which is all of `drop_parent_pte`. The word that holds a single pointer is
cleared whatever it points to: the check that it is `spte` has an empty body. -/
def pte_list_remove (fuel : ℕ) (s : RmapHeap) (spte : Addr) : Option RmapHeap :=
  if s.val = 0 then some s
  else if s.val &&& 1 = 0 then some { s with val := 0 }
  else pte_list_remove_loop spte fuel s (untag s.val)

/-! ## Well-formed rmaps -/

/-- The pointers a descriptor stores. -/
def PteListDesc.entries (d : PteListDesc) : List Addr := (List.ofFn d.sptes).take d.spte_count

/-- Descriptors, each at its address. -/
abbrev Descs := List (Addr × PteListDesc)

/-- The pointers that descriptors store. -/
def stored (l : Descs) : Multiset Addr := (l.map fun x => (x.2.entries : Multiset Addr)).sum

/-- The chain from a pointer on: every descriptor is at an even address other than NULL and points to
the next one, the last one to NULL. -/
def Linked : Addr → Descs → Prop
  | p, [] => p = 0
  | p, x :: l => p = x.1 ∧ x.1 ≠ 0 ∧ x.1 &&& 1 = 0 ∧ Linked x.2.more l

/-- Tail descriptors are full, and count what is behind them. -/
def Full : Descs → Prop
  | [] => True
  | x :: l => x.2.spte_count = PTE_LIST_EXT ∧ x.2.tail_count = PTE_LIST_EXT * l.length ∧ Full l

/-- What `rmap_head->val` may stand for. -/
inductive Rmap where
  | empty
  | single (spte : Addr)
  | chain (head : Addr) (desc : PteListDesc) (tails : Descs)

namespace Rmap

/-- The word that stands for it. -/
def val : Rmap → BitVec 64
  | empty => 0
  | single spte => spte
  | chain head _ _ => head ||| 1

def descs : Rmap → Descs
  | chain head desc tails => (head, desc) :: tails
  | _ => []

/-- The SPTE pointers it holds. -/
def sptes : Rmap → Multiset Addr
  | empty => 0
  | single spte => {spte}
  | chain head desc tails => stored ((head, desc) :: tails)

end Rmap

/-- A chain as the comment at `struct pte_list_desc` describes it. -/
structure ChainOk (head : Addr) (desc : PteListDesc) (tails : Descs) : Prop where
  linked : Linked head ((head, desc) :: tails)
  nodup : (((head, desc) :: tails).map Prod.fst).Nodup
  pos : 0 < desc.spte_count
  le : desc.spte_count ≤ PTE_LIST_EXT
  tail_count : desc.tail_count = PTE_LIST_EXT * tails.length
  full : Full tails

/-- A well-formed rmap. -/
def Rmap.WellFormed : Rmap → Prop
  | empty => True
  | single spte => spte ≠ 0 ∧ spte &&& 1 = 0
  | chain head desc tails => ChainOk head desc tails

/-- The descriptors are in memory. -/
def InHeap (s : RmapHeap) (l : Descs) : Prop := ∀ x ∈ l, s.desc x.1 = some x.2

/-- The memory holds the rmap, and anything else besides. -/
def Rmap.HeldBy (r : Rmap) (s : RmapHeap) : Prop := s.val = r.val ∧ InHeap s r.descs

/-- **What `pte_list_remove` is for**: in every memory that holds the rmap it returns, and leaves a
well-formed rmap with one occurrence of `spte` less, or as many pointers as before if there is none. -/
def RemovesOne (r : Rmap) (spte : Addr) : Prop :=
  ∀ s, r.HeldBy s → ∃ (fuel : ℕ) (s' : RmapHeap) (r' : Rmap), pte_list_remove fuel s spte = some s'
    ∧ r'.WellFormed ∧ r'.HeldBy s' ∧ r'.sptes = r.sptes.erase spte

/-! ## Tags -/

/-- The address whose upper half is lost. -/
def lower_half (a : Addr) : Addr := (a.setWidth 32).setWidth 64

theorem even_bit {a : Addr} (ha : a &&& 1 = 0) : a.getLsbD 0 = false := by
  have hbit := congrArg (BitVec.getLsbD · 0) ha
  simpa using hbit

theorem untag_tag {a : Addr} (ha : a &&& 1 = 0) : untag (a ||| 1) = lower_half a := by
  apply BitVec.eq_of_getLsbD_eq
  intro i hi
  simp only [untag, lower_half, BitVec.getLsbD_and, BitVec.getLsbD_or, BitVec.getLsbD_setWidth,
    BitVec.getLsbD_not, BitVec.getLsbD_one]
  by_cases h0 : i = 0
  · subst h0
    simpa using even_bit ha
  · by_cases h32 : i < 32
    · simp [h0, h32, hi]
    · simp [h32]

theorem lower_half_eq_iff (a : Addr) : lower_half a = a ↔ a.toNat < 2 ^ 32 := by
  rw [lower_half, BitVec.toNat_eq]
  simp only [BitVec.toNat_setWidth]
  have := a.isLt
  omega

theorem tag_ne (a : Addr) : a ||| 1 ≠ 0 ∧ (a ||| 1) &&& 1 ≠ 0 := by
  constructor
  · intro h
    have hbit := congrArg (BitVec.getLsbD · 0) h
    simp at hbit
  · intro h
    have hbit := congrArg (BitVec.getLsbD · 0) h
    simp at hbit

theorem tag_inj {a b : Addr} (ha : a &&& 1 = 0) (hb : b &&& 1 = 0) (h : a ||| 1 = b ||| 1) : a = b := by
  apply BitVec.eq_of_getLsbD_eq
  intro i hi
  by_cases h0 : i = 0
  · rw [h0, even_bit ha, even_bit hb]
  · have hbit := congrArg (BitVec.getLsbD · i) h
    simpa [BitVec.getLsbD_or, BitVec.getLsbD_one, h0] using hbit

/-! ## One descriptor -/

namespace PteListDesc

variable {d d' : PteListDesc} {i : ℕ} {v : Addr}

theorem entries_length (h : d.spte_count ≤ PTE_LIST_EXT) : d.entries.length = d.spte_count := by
  rw [entries, List.length_take, List.length_ofFn, Nat.min_eq_left h]

theorem spte_eq (hi : i < d.entries.length) : d.spte i = some d.entries[i] := by
  have hext : i < PTE_LIST_EXT := by
    rw [entries, List.length_take, List.length_ofFn] at hi
    exact Nat.lt_of_lt_of_le hi (Nat.min_le_right ..)
  simp only [spte, hext, dif_pos, entries, List.getElem_take, List.getElem_ofFn]

theorem setSpte_entries (hi : i < PTE_LIST_EXT) (v : Addr) :
    ∃ d', d.setSpte i v = some d' ∧ d'.entries = d.entries.set i v ∧ d'.more = d.more
      ∧ d'.spte_count = d.spte_count ∧ d'.tail_count = d.tail_count := by
  refine ⟨_, dif_pos hi, ?_, rfl, rfl, rfl⟩
  have hset : List.ofFn (Function.update d.sptes ⟨i, hi⟩ v) = (List.ofFn d.sptes).set i v := by
    apply List.ext_getElem
    · simp
    · intro k hk _
      rw [List.getElem_set, List.getElem_ofFn, List.getElem_ofFn]
      by_cases hki : i = k
      · subst hki
        simp
      · rw [if_neg hki, Function.update_of_ne]
        intro heq
        exact hki (congrArg Fin.val heq).symm
  rw [entries, entries, hset, List.take_set]

end PteListDesc

/-- The inner loop stops at the first index with the pointer. -/
theorem pte_list_find_spec {d : PteListDesc} (spte : Addr) (hle : d.spte_count ≤ PTE_LIST_EXT) :
    (∃ i, ∃ hi : i < d.entries.length, d.entries[i] = spte
        ∧ pte_list_find d spte d.spte_count 0 = some (some i))
      ∨ (spte ∉ d.entries ∧ pte_list_find d spte d.spte_count 0 = some none) := by
  have hlen := PteListDesc.entries_length hle
  have hloop : ∀ n i, i + n = d.spte_count →
      (∃ k, ∃ hk : k < d.entries.length, d.entries[k] = spte
        ∧ pte_list_find d spte n i = some (some k))
      ∨ (spte ∉ d.entries.drop i ∧ pte_list_find d spte n i = some none) := by
    intro n
    induction n with
    | zero =>
      intro i hi
      right
      rw [List.drop_eq_nil_of_le (by omega)]
      exact ⟨List.not_mem_nil, rfl⟩
    | succ n ih =>
      intro i hi
      have hlt : i < d.entries.length := by omega
      rw [pte_list_find, PteListDesc.spte_eq hlt, Option.bind_eq_bind, Option.bind_some]
      by_cases hv : d.entries[i] = spte
      · exact .inl ⟨i, by omega, hv, if_pos hv⟩
      · rw [if_neg hv]
        refine (ih (i + 1) (by omega)).imp_right fun ⟨hnot, hfind⟩ => ⟨?_, hfind⟩
        rw [List.drop_eq_getElem_cons (by omega), List.mem_cons, not_or]
        exact ⟨Ne.symm hv, hnot⟩
  have h0 := hloop d.spte_count 0 (Nat.zero_add _)
  rw [List.drop_zero] at h0
  exact h0

/-! ## The chain in memory -/

section Chain

variable {s : RmapHeap} {l l' : Descs} {p : Addr} {spte : Addr}

/-- Descriptors with the same addresses and links. -/
def SameLinks (l l' : Descs) : Prop := List.Forall₂ (fun x y => x.1 = y.1 ∧ x.2.more = y.2.more) l l'

theorem SameLinks.linked (h : SameLinks l l') (hl : Linked p l) : Linked p l' := by
  induction h generalizing p with
  | nil => exact hl
  | cons hxy _ ih =>
    obtain ⟨hp, h0, heven, hrest⟩ := hl
    rw [hxy.1] at hp h0 heven
    rw [hxy.2] at hrest
    exact ⟨hp, h0, heven, ih hrest⟩

theorem SameLinks.addrs (h : SameLinks l l') : l.map Prod.fst = l'.map Prod.fst := by
  induction h with
  | nil => rfl
  | cons hxy _ ih => rw [List.map_cons, List.map_cons, hxy.1, ih]

theorem SameLinks.trans {l'' : Descs} (h : SameLinks l l') (h' : SameLinks l' l'') :
    SameLinks l l'' := by
  induction h generalizing l'' with
  | nil => exact h'
  | cons hxy _ ih =>
    cases h' with
    | cons hyz h' => exact .cons ⟨hxy.1.trans hyz.1, hxy.2.trans hyz.2⟩ (ih h')

/-- Descriptors with the same addresses, links and counts, and perhaps other pointers. -/
def SameShape (l l' : Descs) : Prop :=
  List.Forall₂ (fun x y => x.1 = y.1 ∧ x.2.more = y.2.more ∧ x.2.spte_count = y.2.spte_count
    ∧ x.2.tail_count = y.2.tail_count) l l'

theorem SameShape.refl (l : Descs) : SameShape l l :=
  List.forall₂_same.mpr fun _ _ => ⟨rfl, rfl, rfl, rfl⟩

theorem SameShape.links (h : SameShape l l') : SameLinks l l' :=
  h.imp fun _ _ hxy => ⟨hxy.1, hxy.2.1⟩

theorem SameShape.full (h : SameShape l l') (hl : Full l) : Full l' := by
  induction h with
  | nil => exact hl
  | cons hxy hrest ih =>
    obtain ⟨hcount, htail, hfull⟩ := hl
    rw [hxy.2.2.1] at hcount
    rw [hxy.2.2.2, hrest.length_eq] at htail
    exact ⟨hcount, htail, ih hfull⟩

theorem SameShape.mem (h : SameShape l l') {a : Addr} {d : PteListDesc} (hx : (a, d) ∈ l) :
    ∃ d', (a, d') ∈ l' ∧ d.spte_count = d'.spte_count := by
  induction h with
  | nil => exact absurd hx List.not_mem_nil
  | @cons x y l l' hxy _ ih =>
    rcases List.mem_cons.mp hx with rfl | hx
    · exact ⟨y.2, by rw [show a = y.1 from hxy.1]; exact List.mem_cons_self, hxy.2.2.1⟩
    · obtain ⟨d', hd', hcount⟩ := ih hx
      exact ⟨d', List.mem_cons_of_mem _ hd', hcount⟩

/-- Descriptors at the same place. -/
theorem SameShape.at {l₁ l₂ : Descs} {b : Addr} {d d' : PteListDesc}
    (h : SameShape (l₁ ++ (b, d) :: l₂) (l₁ ++ (b, d') :: l₂)) :
    d.more = d'.more ∧ d.spte_count = d'.spte_count ∧ d.tail_count = d'.tail_count := by
  induction l₁ with
  | nil => exact (List.forall₂_cons.mp h).1.2
  | cons x l₁ ih => exact ih (List.forall₂_cons.mp h).2

theorem stored_cons (x : Addr × PteListDesc) (l : Descs) :
    stored (x :: l) = (x.2.entries : Multiset Addr) + stored l := by
  rw [stored, stored, List.map_cons, List.sum_cons]

theorem stored_append (l l' : Descs) : stored (l ++ l') = stored l + stored l' := by
  rw [stored, stored, stored, List.map_append, List.sum_append]

/-- The loop walks the chain: it leaves the memory alone if no descriptor stores `spte`, and otherwise
takes it out of the first one that does. -/
theorem remove_loop_spec (spte : Addr) (hl : Linked p l) (hheap : InHeap s l)
    (hle : ∀ x ∈ l, x.2.spte_count ≤ PTE_LIST_EXT) {fuel : ℕ} (hfuel : l.length < fuel) :
    (spte ∉ stored l ∧ pte_list_remove_loop spte fuel s p = some s)
      ∨ ∃ (l₁ : Descs) (b : Addr) (d : PteListDesc) (l₂ : Descs) (i : ℕ)
        (hi : i < d.entries.length), l = l₁ ++ (b, d) :: l₂ ∧ d.entries[i] = spte
        ∧ pte_list_remove_loop spte fuel s p = pte_list_desc_remove_entry s b i := by
  induction l generalizing p fuel with
  | nil =>
    obtain ⟨fuel, rfl⟩ := Nat.exists_eq_succ_of_ne_zero (Nat.ne_of_gt hfuel)
    obtain rfl : p = 0 := hl
    exact .inl ⟨Multiset.notMem_zero _, if_pos rfl⟩
  | cons x l ih =>
    obtain ⟨b, d⟩ := x
    obtain ⟨fuel, rfl⟩ := Nat.exists_eq_succ_of_ne_zero (Nat.ne_of_gt (Nat.zero_lt_of_lt hfuel))
    obtain ⟨rfl, h0, -, hrest⟩ := hl
    have hd : s.desc p = some d := hheap _ List.mem_cons_self
    have hstep : pte_list_remove_loop spte (fuel + 1) s p
        = (pte_list_find d spte d.spte_count 0).bind fun found =>
          match found with
          | some i => pte_list_desc_remove_entry s p i
          | none => pte_list_remove_loop spte fuel s d.more := by
      rw [pte_list_remove_loop, if_neg h0, hd]
      rfl
    rw [hstep]
    rcases pte_list_find_spec spte (hle _ List.mem_cons_self) with
      ⟨i, hi, heq, hfind⟩ | ⟨hnot, hfind⟩
    · rw [hfind]
      exact .inr ⟨[], p, d, l, i, hi, rfl, heq, rfl⟩
    · rw [hfind, Option.bind_some]
      have hheap' : InHeap s l := fun x hx => hheap x (List.mem_cons_of_mem _ hx)
      have hfuel' : l.length < fuel := Nat.lt_of_succ_lt_succ hfuel
      rcases ih hrest hheap' (fun x hx => hle x (List.mem_cons_of_mem _ hx)) hfuel' with
        ⟨hnot', hloop⟩ | h
      · refine .inl ⟨?_, hloop⟩
        rw [stored_cons, Multiset.mem_add, not_or, Multiset.mem_coe]
        exact ⟨hnot, hnot'⟩
      · obtain ⟨l₁, b, d', l₂, i, hi, rfl, heq, hloop⟩ := h
        exact .inr ⟨(p, d) :: l₁, b, d', l₂, i, hi, rfl, heq, hloop⟩

/-- A descriptor of the chain is overwritten; the others are at other addresses. -/
theorem store_chain {l₁ l₂ : Descs} {b : Addr} {d : PteListDesc} (d' : PteListDesc)
    (hheap : InHeap s (l₁ ++ (b, d) :: l₂)) (hnodup : ((l₁ ++ (b, d) :: l₂).map Prod.fst).Nodup) :
    InHeap (s.store b d') (l₁ ++ (b, d') :: l₂) := by
  rw [List.map_append, List.map_cons, List.nodup_middle, List.nodup_cons] at hnodup
  have hother : ∀ x, x ∈ l₁ ∨ x ∈ l₂ → (s.store b d').desc x.1 = some x.2 := by
    intro x hx
    have hne : x.1 ≠ b := by
      rintro rfl
      exact hnodup.1 (List.mem_append.mpr (hx.imp (fun h => List.mem_map.mpr ⟨x, h, rfl⟩)
        fun h => List.mem_map.mpr ⟨x, h, rfl⟩))
    refine (Function.update_of_ne hne _ _).trans (hheap x (List.mem_append.mpr ?_))
    exact hx.imp_right (List.mem_cons_of_mem _)
  intro x hx
  rcases List.mem_append.mp hx with hx₁ | hx₁
  · exact hother x (.inl hx₁)
  · rcases List.mem_cons.mp hx₁ with rfl | hx₂
    · exact Function.update_self _ _ _
    · exact hother x (.inr hx₂)

/-- A write to one pointer of the chain. -/
theorem setSpte_chain {l₁ l₂ : Descs} {b : Addr} {d : PteListDesc} {i : ℕ} (v : Addr)
    (hheap : InHeap s (l₁ ++ (b, d) :: l₂)) (hnodup : ((l₁ ++ (b, d) :: l₂).map Prod.fst).Nodup)
    (hi : i < PTE_LIST_EXT) :
    ∃ d' s', s.setSpte b i v = some s' ∧ s'.val = s.val ∧ InHeap s' (l₁ ++ (b, d') :: l₂)
      ∧ d'.entries = d.entries.set i v
      ∧ SameShape (l₁ ++ (b, d) :: l₂) (l₁ ++ (b, d') :: l₂) := by
  obtain ⟨d', hd', hentries, hmore, hcount, htail⟩ := PteListDesc.setSpte_entries (d := d) hi v
  have hd : s.desc b = some d := hheap (b, d) (by simp)
  refine ⟨d', s.store b d', ?_, rfl, store_chain d' hheap hnodup, hentries, ?_⟩
  · rw [RmapHeap.setSpte, hd, Option.bind_eq_bind, Option.bind_some, hd']
    rfl
  · refine List.rel_append (SameShape.refl l₁) (List.Forall₂.cons ?_ (SameShape.refl l₂))
    exact ⟨rfl, hmore.symm, hcount.symm, htail.symm⟩

/-- The hole that `spte` leaves is filled with `v`. -/
theorem stored_fill (l₁ l₂ : Descs) (b : Addr) {d d' : PteListDesc} {i : ℕ} {v : Addr}
    (hi : i < d.entries.length) (hspte : d.entries[i] = spte)
    (hd' : d'.entries = d.entries.set i v) :
    stored (l₁ ++ (b, d') :: l₂) = v ::ₘ (stored (l₁ ++ (b, d) :: l₂)).erase spte := by
  have hmem : spte ∈ (d.entries : Multiset Addr) := by
    rw [Multiset.mem_coe, ← hspte]
    exact List.getElem_mem hi
  rw [stored_append, stored_append, stored_cons, stored_cons, hd', ListMultiset.coe_set hi, hspte,
    Multiset.erase_add_right_pos _ (Multiset.mem_add.mpr (.inl hmem)),
    Multiset.erase_add_left_pos _ hmem, Multiset.cons_add, Multiset.add_cons]

/-- The last pointer of a descriptor goes. -/
theorem drop_last {a v : Addr} {h : PteListDesc} {l₁ l₂ : Descs} {j : ℕ}
    (hheap : InHeap s (l₁ ++ (a, h) :: l₂)) (hnodup : ((l₁ ++ (a, h) :: l₂).map Prod.fst).Nodup)
    (hcount : h.spte_count = j + 1) (hle : h.spte_count ≤ PTE_LIST_EXT)
    (hlast : h.entries[j]? = some v) :
    ∃ s₁ h₁, s.setSpte a j 0 = some s₁ ∧ s₁.desc a = some h₁ ∧ s₁.val = s.val
      ∧ h₁.spte_count = h.spte_count ∧ h₁.more = h.more ∧ h₁.tail_count = h.tail_count
      ∧ InHeap (s₁.store a { h₁ with spte_count := j })
        (l₁ ++ (a, { h₁ with spte_count := j }) :: l₂)
      ∧ h.entries = { h₁ with spte_count := j }.entries ++ [v] := by
  obtain ⟨h₁, s₁, hset, hval, hheap₁, hentries, hshape⟩ :=
    setSpte_chain 0 hheap hnodup (show j < PTE_LIST_EXT by omega)
  obtain ⟨hmore, hcount₁, htail⟩ := hshape.at
  have hnodup₁ : ((l₁ ++ (a, h₁) :: l₂).map Prod.fst).Nodup := by
    rw [← hshape.links.addrs]
    exact hnodup
  refine ⟨s₁, h₁, hset, hheap₁ (a, h₁) (by simp), hval, hcount₁.symm, hmore.symm,
    htail.symm, store_chain _ hheap₁ hnodup₁, ?_⟩
  have htake : ({ h₁ with spte_count := j } : PteListDesc).entries = h.entries.take j := by
    have h1 : ({ h₁ with spte_count := j } : PteListDesc).entries = h₁.entries.take j := by
      rw [PteListDesc.entries, PteListDesc.entries, List.take_take]
      congr 1
      simp only at hcount₁ ⊢
      omega
    rw [h1, hentries, List.take_set_of_le le_rfl]
  have hall : h.entries.take (j + 1) = h.entries :=
    List.take_of_length_le (by rw [PteListDesc.entries_length hle]; omega)
  rw [htake]
  calc h.entries = h.entries.take (j + 1) := hall.symm
    _ = h.entries.take j ++ [v] := by rw [List.take_add_one, hlast, Option.toList_some]

/-- The steps of `pte_list_desc_remove_entry`. -/
theorem remove_entry_eq {a b v : Addr} {h h₂ : PteListDesc} {s₁ s₂ : RmapHeap} {i j : ℕ}
    (ha : untag s.val = a) (hh : s.desc a = some h) (hcount : h.spte_count = j + 1)
    (hlast : h.spte j = some v) (hset₁ : s.setSpte b i v = some s₁)
    (hset₂ : s₁.setSpte a j 0 = some s₂) (hh₂ : s₂.desc a = some h₂)
    (hcount₂ : h₂.spte_count = j + 1) :
    pte_list_desc_remove_entry s b i
      = if j ≠ 0 then some (s₂.store a { h₂ with spte_count := j })
        else if h₂.more = 0 then some { s₂.store a { h₂ with spte_count := j } with val := 0 }
        else some { s₂.store a { h₂ with spte_count := j } with val := h₂.more ||| 1 } := by
  rw [pte_list_desc_remove_entry, ha, hh]
  simp only [Option.bind_eq_bind, Option.bind_some, hcount, Nat.succ_ne_zero, if_false,
    Nat.add_sub_cancel, hlast, hset₁, hset₂, hh₂, hcount₂]
  rfl

/-- The first descriptor is where it was, and its last pointer is what it was, when a hole anywhere in
the chain has been filled with that pointer. -/
theorem head_after_fill {a b : Addr} {h d d' : PteListDesc} {tails l₁ l₂ : Descs} {i j : ℕ}
    (hl : (a, h) :: tails = l₁ ++ (b, d) :: l₂) (hj : j < h.entries.length)
    (hentries : d'.entries = d.entries.set i h.entries[j]) :
    ∃ h₁ tails₁, l₁ ++ (b, d') :: l₂ = (a, h₁) :: tails₁ ∧ h₁.entries[j]? = some h.entries[j] := by
  cases l₁ with
  | nil =>
    obtain ⟨heq, -⟩ := List.cons.inj hl
    obtain ⟨rfl, rfl⟩ := Prod.mk.inj heq
    refine ⟨d', l₂, rfl, ?_⟩
    rw [hentries, List.getElem?_set]
    split
    · next hij =>
      subst hij
      exact if_pos hj
    · exact List.getElem?_eq_getElem hj
  | cons x l₁ =>
    obtain ⟨rfl, -⟩ := List.cons.inj hl
    exact ⟨h, _, rfl, List.getElem?_eq_getElem hj⟩

/-- When the first descriptor is empty the chain begins at the next one, if there is one. -/
theorem begins_at_next {more : Addr} {tails : Descs} (hlinked : Linked more tails)
    (hfull : Full tails) (hnodup : (tails.map Prod.fst).Nodup) (hheap : InHeap s tails) :
    ∃ (s' : RmapHeap) (r' : Rmap), (if more = 0 then some { s with val := 0 }
        else some { s with val := more ||| 1 }) = some s' ∧ r'.WellFormed ∧ r'.HeldBy s'
      ∧ r'.sptes = stored tails := by
  cases tails with
  | nil =>
    obtain rfl : more = 0 := hlinked
    exact ⟨_, .empty, if_pos rfl, trivial, ⟨rfl, fun _ hx => absurd hx List.not_mem_nil⟩, rfl⟩
  | cons x tails =>
    obtain ⟨b, d⟩ := x
    obtain ⟨rfl, hne, heven, hnext⟩ := hlinked
    refine ⟨_, .chain more d tails, if_neg hne, ⟨⟨rfl, hne, heven, hnext⟩, hnodup, ?_, ?_, hfull.2.1,
      hfull.2.2⟩, ⟨rfl, hheap⟩, rfl⟩
    · rw [hfull.1]
      decide
    · exact hfull.1.le

/-- **`pte_list_desc_remove_entry`** on a chain whose address survives the untagging. -/
theorem remove_entry_spec {a b : Addr} {h d : PteListDesc} {tails l₁ l₂ : Descs} {i : ℕ}
    (hok : ChainOk a h tails) (hval : s.val = a ||| 1) (ha : untag s.val = a)
    (hheap : InHeap s ((a, h) :: tails)) (hl : (a, h) :: tails = l₁ ++ (b, d) :: l₂)
    (hi : i < d.entries.length) (hext : i < PTE_LIST_EXT) (hspte : d.entries[i] = spte) :
    ∃ (s' : RmapHeap) (r' : Rmap), pte_list_desc_remove_entry s b i = some s' ∧ r'.WellFormed
      ∧ r'.HeldBy s' ∧ r'.sptes = (stored ((a, h) :: tails)).erase spte := by
  obtain ⟨j, hj⟩ := Nat.exists_eq_succ_of_ne_zero (Nat.ne_of_gt hok.pos)
  have hle := hok.le
  have hjlt : j < h.entries.length := by
    rw [PteListDesc.entries_length hle]
    omega
  have hh : s.desc a = some h := hheap (a, h) List.mem_cons_self
  have hlast : h.spte j = some h.entries[j] := PteListDesc.spte_eq (by omega)
  -- the hole is filled with the last pointer of the first descriptor
  have hnodup := hok.nodup
  rw [hl] at hheap hnodup
  obtain ⟨d', s₁, hset₁, hval₁, hheap₁, hentries, hshape⟩ :=
    setSpte_chain h.entries[j] hheap hnodup hext
  have hfill := stored_fill l₁ l₂ b hi hspte hentries
  rw [← hl] at hshape hfill
  obtain ⟨h₁, tails₁, hl₁, hlast₁⟩ := head_after_fill hl hjlt hentries
  rw [hl₁] at hheap₁ hshape hfill
  have hnodup₁ : (((a, h₁) :: tails₁).map Prod.fst).Nodup := by
    rw [← hshape.links.addrs]
    exact hok.nodup
  obtain ⟨⟨-, hmore, hcount, htail⟩, htails⟩ := List.forall₂_cons.mp hshape
  simp only at hmore hcount htail
  -- and goes from there
  have hhead₁ : InHeap s₁ ([] ++ (a, h₁) :: tails₁) := hheap₁
  obtain ⟨s₂, h₂, hset₂, hh₂, hval₂, hcount₂, hmore₂, htail₂, hheap₂, hsplit⟩ :=
    drop_last hhead₁ hnodup₁ (by omega) (by omega) hlast₁
  have hsum : ({ h₂ with spte_count := j }.entries : Multiset Addr) + stored tails₁
      = (stored ((a, h) :: tails)).erase spte := by
    rw [stored_cons, hsplit] at hfill
    rw [← Multiset.cons_inj_right h.entries[j], ← hfill, ← Multiset.coe_add, Multiset.coe_singleton,
      add_right_comm, ← Multiset.singleton_add, add_comm]
  have hlinked : Linked h₂.more tails₁ := by
    rw [hmore₂, ← hmore]
    exact (SameShape.links htails).linked hok.linked.2.2.2
  have hfull : Full tails₁ := SameShape.full htails hok.full
  have hlen : tails₁.length = tails.length := htails.length_eq.symm
  let h₃ : PteListDesc := { h₂ with spte_count := j }
  have hrun := remove_entry_eq ha hh hj hlast hset₁ hset₂ hh₂ (by omega)
  rw [hrun]
  by_cases hj0 : j ≠ 0
  · rw [if_pos hj0]
    refine ⟨_, .chain a h₃ tails₁, rfl, ⟨?_, hnodup₁, Nat.pos_of_ne_zero hj0, ?_, ?_, hfull⟩,
      ⟨?_, hheap₂⟩, ?_⟩
    · exact ⟨rfl, hok.linked.2.1, hok.linked.2.2.1, hlinked⟩
    · have hj14 : j ≤ PTE_LIST_EXT := by omega
      exact hj14
    · rw [hlen, ← hok.tail_count, htail, ← htail₂]
    · exact (hval₂.trans hval₁).trans hval
    · exact (stored_cons _ _).trans hsum
  · obtain rfl := not_not.mp hj0
    have hrest : stored tails₁ = (stored ((a, h) :: tails)).erase spte := by
      rw [← hsum]
      exact (zero_add _).symm
    have hheap₃ : InHeap (s₂.store a h₃) tails₁ :=
      fun x hx => hheap₂ x (List.mem_cons_of_mem _ hx)
    rw [if_neg (not_not.mpr rfl), ← hrest]
    exact begins_at_next hlinked hfull (List.nodup_cons.mp hnodup₁).2 hheap₃

/-- The chain from a descriptor on. -/
theorem Linked.suffix {l₁ l₂ : Descs} {x : Addr × PteListDesc} (h : Linked p (l₁ ++ x :: l₂)) :
    Linked x.1 (x :: l₂) := by
  induction l₁ generalizing p with
  | nil => exact ⟨rfl, h.2⟩
  | cons y l₁ ih => exact ih h.2.2.2

/-- Following the same links from the same pointer leads to the same addresses. -/
theorem Linked.addrs (h : Linked p l) (h' : Linked p l') (hheap : InHeap s l) (hheap' : InHeap s l') :
    l.map Prod.fst = l'.map Prod.fst := by
  induction l generalizing p l' with
  | nil =>
    cases l' with
    | nil => rfl
    | cons y l' =>
      have hp : p = 0 := h
      exact absurd (h'.1.symm.trans hp) h'.2.1
  | cons x l ih =>
    cases l' with
    | nil =>
      have hp : p = 0 := h'
      exact absurd (h.1.symm.trans hp) h.2.1
    | cons y l' =>
      have hxy : x.1 = y.1 := h.1.symm.trans h'.1
      have hdesc : x.2 = y.2 := by
        have hx := hheap x List.mem_cons_self
        rw [hxy, hheap' y List.mem_cons_self] at hx
        exact (Option.some.inj hx).symm
      have hrest := ih (hdesc ▸ h.2.2.2) h'.2.2.2 (fun z hz => hheap z (List.mem_cons_of_mem _ hz))
        fun z hz => hheap' z (List.mem_cons_of_mem _ hz)
      rw [List.map_cons, List.map_cons, hxy, hrest]

theorem stored_eq_of_addrs (hheap : InHeap s l) (hheap' : InHeap s l')
    (h : l.map Prod.fst = l'.map Prod.fst) : stored l = stored l' := by
  have hval : ∀ l, InHeap s l → stored l
      = ((l.map Prod.fst).map fun a => ((s.desc a).elim 0 fun d => (d.entries : Multiset Addr))).sum := by
    intro l hl
    rw [stored, List.map_map]
    refine congrArg List.sum (List.map_congr_left fun x hx => ?_)
    rw [Function.comp, hl x hx, Option.elim_some]
  rw [hval l hheap, hval l' hheap', h]

theorem Full.count (h : Full l) {x : Addr × PteListDesc} (hx : x ∈ l) :
    x.2.spte_count = PTE_LIST_EXT := by
  induction l with
  | nil => exact absurd hx List.not_mem_nil
  | cons y l ih =>
    rcases List.mem_cons.mp hx with rfl | hx
    · exact h.1
    · exact ih h.2.2 hx

theorem ChainOk.count_le {a : Addr} {h : PteListDesc} {tails : Descs} (hok : ChainOk a h tails) :
    ∀ x ∈ (a, h) :: tails, x.2.spte_count ≤ PTE_LIST_EXT := by
  intro x hx
  rcases List.mem_cons.mp hx with rfl | hx
  · exact hok.le
  · exact (hok.full.count hx).le

/-- More fuel does no harm. -/
theorem remove_loop_mono {s' : RmapHeap} {fuel fuel' : ℕ} (hle : fuel ≤ fuel')
    (h : pte_list_remove_loop spte fuel s p = some s') :
    pte_list_remove_loop spte fuel' s p = some s' := by
  induction fuel generalizing p fuel' with
  | zero => cases h
  | succ fuel ih =>
    obtain ⟨n, rfl⟩ : ∃ n, fuel' = n + 1 := ⟨fuel' - 1, by omega⟩
    rw [pte_list_remove_loop] at h ⊢
    split
    · next h0 => rwa [if_pos h0] at h
    · next h0 =>
      rw [if_neg h0] at h
      obtain ⟨d, hd, h⟩ := Option.bind_eq_some_iff.mp h
      obtain ⟨found, hfind, h⟩ := Option.bind_eq_some_iff.mp h
      simp only [hd, hfind, Option.bind_eq_bind, Option.bind_some]
      cases found with
      | some i => exact h
      | none => exact ih (Nat.le_of_succ_le_succ hle) h

/-- A chain that lacks the pointer is left alone, if it is walked to its end. -/
theorem remove_loop_absent (hl : Linked p l) (hheap : InHeap s l)
    (hle : ∀ x ∈ l, x.2.spte_count ≤ PTE_LIST_EXT) (hnot : spte ∉ stored l) {fuel : ℕ}
    (hfuel : l.length < fuel) : pte_list_remove_loop spte fuel s p = some s := by
  rcases remove_loop_spec spte hl hheap hle hfuel with ⟨-, hloop⟩ | h
  · exact hloop
  · obtain ⟨l₁, b, d, l₂, i, hi, rfl, heq, -⟩ := h
    refine absurd ?_ hnot
    rw [stored_append, stored_cons]
    refine Multiset.mem_add.mpr (.inr (Multiset.mem_add.mpr (.inl ?_)))
    rw [Multiset.mem_coe, ← heq]
    exact List.getElem_mem hi

/-- Removal of a pointer when a full descriptor `t` in the middle of the chain is taken for the first
one: it loses a pointer, and the word and the links stay as they were. -/
theorem remove_entry_tail {t b : Addr} {h : PteListDesc} {d : PteListDesc} {l₁ l₂ : Descs} {i : ℕ}
    (hheap : InHeap s (l₁ ++ (b, d) :: l₂)) (hnodup : ((l₁ ++ (b, d) :: l₂).map Prod.fst).Nodup)
    (ht : untag s.val = t) (hmem : (t, h) ∈ l₁ ++ (b, d) :: l₂)
    (hfull : h.spte_count = PTE_LIST_EXT) (hext : i < PTE_LIST_EXT) :
    ∃ s' l' h', pte_list_desc_remove_entry s b i = some s' ∧ s'.val = s.val ∧ InHeap s' l'
      ∧ SameLinks (l₁ ++ (b, d) :: l₂) l' ∧ (t, h') ∈ l' ∧ h'.spte_count ≠ PTE_LIST_EXT := by
  have hh : s.desc t = some h := hheap _ hmem
  have hcount : h.spte_count = 13 + 1 := hfull
  have hlen : 13 < h.entries.length := by
    rw [PteListDesc.entries_length hfull.le]
    omega
  have hlast : h.spte 13 = some h.entries[13] := PteListDesc.spte_eq (by omega)
  obtain ⟨d', s₁, hset₁, hval₁, hheap₁, -, hshape⟩ := setSpte_chain h.entries[13] hheap hnodup hext
  obtain ⟨h₁, hmem₁, hcount₁⟩ := hshape.mem hmem
  have hnodup₁ : ((l₁ ++ (b, d') :: l₂).map Prod.fst).Nodup := by
    rw [← hshape.links.addrs]
    exact hnodup
  -- the descriptor `t` where it stands after the first write
  obtain ⟨m₁, m₂, hm⟩ := List.append_of_mem hmem₁
  rw [hm] at hheap₁ hnodup₁ hshape
  have hle₁ : h₁.spte_count ≤ PTE_LIST_EXT := by
    rw [← hcount₁]
    exact hfull.le
  have hlen₁ : 13 < h₁.entries.length := by
    rw [PteListDesc.entries_length hle₁]
    omega
  obtain ⟨s₂, h₂, hset₂, hh₂, hval₂, hcount₂, hmore₂, -, hheap₂, -⟩ :=
    drop_last hheap₁ hnodup₁ (by omega) hle₁ (List.getElem?_eq_getElem hlen₁)
  have hrun := remove_entry_eq ht hh hcount hlast hset₁ hset₂ hh₂ (by omega)
  refine ⟨_, _, { h₂ with spte_count := 13 }, hrun, hval₂.trans hval₁, hheap₂, ?_, ?_, ?_⟩
  · have hlinks : SameLinks (m₁ ++ (t, h₁) :: m₂) (m₁ ++ (t, { h₂ with spte_count := 13 }) :: m₂) :=
      List.rel_append (SameShape.refl m₁).links (.cons ⟨rfl, hmore₂.symm⟩ (SameShape.refl m₂).links)
    exact hshape.links.trans hlinks
  · simp
  · exact (by decide : (13 : ℕ) ≠ PTE_LIST_EXT)

/-- An rmap whose word is the tagged address of a chain in memory is that chain, with its descriptors at
the same addresses. -/
theorem chain_of_held {r : Rmap} {a : Addr} (hwf : r.WellFormed) (hheld : r.HeldBy s)
    (hval : s.val = a ||| 1) (heven : a &&& 1 = 0) (hl : Linked a l) (hheap : InHeap s l) :
    ∃ h tails, r = .chain a h tails ∧ ((a, h) :: tails).map Prod.fst = l.map Prod.fst := by
  have hword : a ||| 1 = r.val := hval.symm.trans hheld.1
  cases r with
  | empty => exact absurd hword (tag_ne a).1
  | single q =>
    have hq : a ||| 1 = q := hword
    exact absurd (hq ▸ hwf.2) (tag_ne a).2
  | chain b h tails =>
    obtain rfl := tag_inj heven hwf.linked.2.2.1 hword
    exact ⟨h, tails, rfl, Linked.addrs hwf.linked hl hheld.2 hheap⟩

end Chain

/-! ## When one pointer is removed -/

/-- When `pte_list_remove` does what it is for: a single pointer is the one to be removed; the first
descriptor of a chain lies below 4 GiB, or `spte` is not in the chain and what is left of the address
is NULL or a later descriptor of the chain. -/
def RemoveCondition (r : Rmap) (spte : Addr) : Prop :=
  match r with
  | .empty => True
  | .single p => p = spte
  | .chain head _ tails => head.toNat < 2 ^ 32
      ∨ (spte ∉ r.sptes ∧ (lower_half head = 0 ∨ lower_half head ∈ tails.map Prod.fst))

/-- A memory with the descriptors of an rmap and no others. -/
def heapOf (r : Rmap) : RmapHeap where
  desc a := (r.descs.find? fun x => x.1 = a).map Prod.snd
  val := r.val

theorem heapOf_held {r : Rmap} (hnodup : (r.descs.map Prod.fst).Nodup) : r.HeldBy (heapOf r) := by
  refine ⟨rfl, fun x hx => ?_⟩
  have hfind : ∀ l : Descs, (l.map Prod.fst).Nodup → x ∈ l →
      (l.find? fun y => y.1 = x.1) = some x := by
    intro l hl hx
    induction l with
    | nil => exact absurd hx List.not_mem_nil
    | cons y l ih =>
      obtain ⟨hy, hl⟩ := List.nodup_cons.mp hl
      rcases List.mem_cons.mp hx with rfl | hx
      · exact List.find?_cons_of_pos (by simp)
      · have hne : y.1 ≠ x.1 := fun heq => hy (heq ▸ List.mem_map_of_mem hx)
        rw [List.find?_cons_of_neg (by simpa using hne)]
        exact ih hl hx
  have hat : (heapOf r).desc x.1 = (r.descs.find? fun y => y.1 = x.1).map Prod.snd := rfl
  rw [hat, hfind r.descs hnodup hx, Option.map_some]

theorem heapOf_none {r : Rmap} {a : Addr} (ha : a ∉ r.descs.map Prod.fst) :
    (heapOf r).desc a = none := by
  have hfind : (r.descs.find? fun x => x.1 = a) = none := by
    refine List.find?_eq_none.mpr fun x hx => ?_
    have hne : x.1 ≠ a := fun heq => ha (heq ▸ List.mem_map_of_mem hx)
    simpa using hne
  simp only [heapOf, hfind, Option.map_none]

/-- A chain is walked from the address that the untagging leaves. -/
theorem pte_list_remove_chain {s : RmapHeap} {a spte : Addr} (fuel : ℕ) (hval : s.val = a ||| 1)
    (heven : a &&& 1 = 0) :
    pte_list_remove fuel s spte = pte_list_remove_loop spte fuel s (lower_half a) := by
  rw [pte_list_remove, hval, if_neg (tag_ne a).1, if_neg (tag_ne a).2, untag_tag heven]

/-- Where the untagged address leads nowhere, the removal does not return. -/
theorem pte_list_remove_unmapped {s : RmapHeap} {a spte : Addr} (fuel : ℕ) (hval : s.val = a ||| 1)
    (heven : a &&& 1 = 0) (hne : lower_half a ≠ 0) (hnone : s.desc (lower_half a) = none) :
    pte_list_remove fuel s spte = none := by
  rw [pte_list_remove_chain fuel hval heven]
  cases fuel with
  | zero => rfl
  | succ fuel =>
    rw [pte_list_remove_loop, if_neg hne, hnone]
    rfl

theorem entries_lt {d : PteListDesc} {i : ℕ} (hi : i < d.entries.length) : i < PTE_LIST_EXT := by
  rw [PteListDesc.entries, List.length_take, List.length_ofFn] at hi
  omega

section Iff

variable {a spte : Addr} {h : PteListDesc} {tails : Descs}

/-- A chain below 4 GiB. -/
theorem removes_low (hok : ChainOk a h tails) (hlow : a.toNat < 2 ^ 32) :
    RemovesOne (.chain a h tails) spte := by
  intro s ⟨hval, hheap⟩
  have heven := hok.linked.2.2.1
  have ha : lower_half a = a := (lower_half_eq_iff a).mpr hlow
  have huntag : untag s.val = a := by
    rw [hval, Rmap.val, untag_tag heven, ha]
  refine ⟨((a, h) :: tails).length + 1, ?_⟩
  rw [pte_list_remove_chain _ hval heven, ha]
  rcases remove_loop_spec spte hok.linked hheap hok.count_le (Nat.lt_succ_self _) with
    ⟨hnot, hloop⟩ | ⟨l₁, b, d, l₂, i, hi, hl, hspte, hloop⟩
  · exact ⟨s, .chain a h tails, hloop, hok, ⟨hval, hheap⟩, (Multiset.erase_of_notMem hnot).symm⟩
  · obtain ⟨s', r', hrun, hwf, hheld, hsptes⟩ :=
      remove_entry_spec hok hval huntag hheap hl hi (entries_lt hi) hspte
    exact ⟨s', r', hloop.trans hrun, hwf, hheld, hsptes⟩

/-- The chain from one of its later descriptors on is a chain of its own. -/
theorem ChainOk.from_tail {t : Addr} {d : PteListDesc} (hok : ChainOk a h tails)
    (hmem : (t, d) ∈ tails) : ∃ l₁ l₂, (a, h) :: tails = ((a, h) :: l₁) ++ (t, d) :: l₂ ∧
      Linked t ((t, d) :: l₂) ∧ ∀ x ∈ (t, d) :: l₂, x ∈ (a, h) :: tails := by
  obtain ⟨l₁, l₂, hl⟩ := List.append_of_mem hmem
  have hall : (a, h) :: tails = ((a, h) :: l₁) ++ (t, d) :: l₂ := by rw [hl, List.cons_append]
  have hlinked := hok.linked
  rw [hall] at hlinked
  refine ⟨l₁, l₂, hall, hlinked.suffix, fun x hx => ?_⟩
  rw [hall]
  exact List.mem_append_right _ hx

/-- A chain that lacks the pointer, walked from NULL or from one of its later descriptors. -/
theorem removes_absent (hok : ChainOk a h tails) (hnot : spte ∉ (Rmap.chain a h tails).sptes)
    (hat : lower_half a = 0 ∨ lower_half a ∈ tails.map Prod.fst) :
    RemovesOne (.chain a h tails) spte := by
  intro s ⟨hval, hheap⟩
  have heven := hok.linked.2.2.1
  suffices hloop : ∃ fuel, pte_list_remove_loop spte fuel s (lower_half a) = some s by
    obtain ⟨fuel, hloop⟩ := hloop
    refine ⟨fuel, s, .chain a h tails, ?_, hok, ⟨hval, hheap⟩, (Multiset.erase_of_notMem hnot).symm⟩
    rw [pte_list_remove_chain fuel hval heven, hloop]
  rcases hat with h0 | htail
  · rw [h0]
    exact ⟨1, if_pos rfl⟩
  · obtain ⟨⟨t, d⟩, hmem, ht⟩ := List.mem_map.mp htail
    obtain ⟨l₁, l₂, hall, hlinked, hsub⟩ := hok.from_tail hmem
    rw [← ht]
    refine ⟨_, remove_loop_absent hlinked (fun x hx => hheap x (hsub x hx))
      (fun x hx => hok.count_le x (hsub x hx)) ?_ (Nat.lt_succ_self _)⟩
    intro hin
    rw [Rmap.sptes, hall, stored_append] at hnot
    exact hnot (Multiset.mem_add.mpr (.inr hin))

/-- A chain that stays as it is has not lost a pointer it holds. -/
theorem not_removed_of_same {s : RmapHeap} {r' : Rmap} (hok : ChainOk a h tails)
    (hheld : (Rmap.chain a h tails).HeldBy s) (hin : spte ∈ (Rmap.chain a h tails).sptes)
    (hwf' : r'.WellFormed) (hheld' : r'.HeldBy s) :
    r'.sptes ≠ (Rmap.chain a h tails).sptes.erase spte := by
  obtain ⟨h', tails', rfl, haddrs⟩ :=
    chain_of_held hwf' hheld' hheld.1 hok.linked.2.2.1 hok.linked hheld.2
  have hsame : (Rmap.chain a h' tails').sptes = (Rmap.chain a h tails).sptes :=
    stored_eq_of_addrs hheld'.2 hheld.2 haddrs
  rw [hsame]
  exact (Multiset.erase_lt.mpr hin).ne'

/-- A removal that starts at a later descriptor and finds the pointer there spoils the chain. -/
theorem not_wellFormed_of_tail {s s' : RmapHeap} {r' : Rmap} {t b : Addr} {d d' : PteListDesc}
    {l₁ l₂ : Descs} {i : ℕ} (hok : ChainOk a h tails) (hheld : (Rmap.chain a h tails).HeldBy s)
    (ht : untag s.val = t) (hta : t ≠ a) (hmem : (t, d) ∈ tails)
    (hl : (a, h) :: tails = l₁ ++ (b, d') :: l₂) (hext : i < PTE_LIST_EXT)
    (hrun : pte_list_desc_remove_entry s b i = some s') (hheld' : r'.HeldBy s') :
    ¬ r'.WellFormed := by
  intro hwf'
  have hheap := hheld.2
  have hnodup := hok.nodup
  have hlinked := hok.linked
  have hmem' : (t, d) ∈ (a, h) :: tails := List.mem_cons_of_mem _ hmem
  rw [Rmap.descs, hl] at hheap
  rw [hl] at hnodup hlinked hmem'
  obtain ⟨s'', l', d'', hrun', hval, hheap', hlinks, hmem'', hcount⟩ :=
    remove_entry_tail hheap hnodup ht hmem' (hok.full.count hmem) hext
  obtain rfl := Option.some.inj (hrun.symm.trans hrun')
  obtain ⟨h', tails', rfl, haddrs⟩ := chain_of_held hwf' hheld' (hval.trans hheld.1)
    hok.linked.2.2.1 (hlinks.linked hlinked) hheap'
  -- the descriptor that has lost a pointer is a tail of the chain found there
  obtain ⟨x, hx, hxt⟩ : ∃ x ∈ tails', x.1 = t := by
    have haddr : t ∈ ((a, h') :: tails').map Prod.fst := by
      rw [haddrs]
      exact List.mem_map.mpr ⟨_, hmem'', rfl⟩
    obtain ⟨x, hx, hxt⟩ := List.mem_map.mp haddr
    rcases List.mem_cons.mp hx with rfl | hx
    · exact absurd hxt.symm hta
    · exact ⟨x, hx, hxt⟩
  have hdesc := hheld'.2 x (List.mem_cons_of_mem _ hx)
  rw [hxt, hheap' _ hmem''] at hdesc
  have hfull : x.2.spte_count = PTE_LIST_EXT := Full.count hwf'.full hx
  rw [← Option.some.inj hdesc] at hfull
  exact hcount hfull

/-- A chain above 4 GiB that holds the pointer, or whose untagged address leads out of it. -/
theorem condition_of_removes (hok : ChainOk a h tails) (hr : RemovesOne (.chain a h tails) spte) :
    RemoveCondition (.chain a h tails) spte := by
  by_contra hbad
  obtain ⟨hhigh, hbad⟩ := not_or.mp hbad
  have heven := hok.linked.2.2.1
  have hta : lower_half a ≠ a := mt (lower_half_eq_iff a).mp hhigh
  have hheld : (Rmap.chain a h tails).HeldBy (heapOf (.chain a h tails)) := heapOf_held hok.nodup
  set s := heapOf (.chain a h tails) with hs
  obtain ⟨fuel, s', r', hrun, hwf', hheld', hsptes⟩ := hr s hheld
  -- the loop starts at the lower half of `a`, which is not the head of the chain
  by_cases hat : lower_half a = 0 ∨ lower_half a ∈ tails.map Prod.fst
  · have hin : spte ∈ (Rmap.chain a h tails).sptes := by
      by_contra hnot
      exact hbad ⟨hnot, hat⟩
    rw [pte_list_remove_chain fuel hheld.1 heven] at hrun
    have hunchanged : s' ≠ s := by
      rintro rfl
      exact not_removed_of_same hok hheld hin hwf' hheld' hsptes
    rcases hat with h0 | htail
    · cases fuel with
      | zero => cases hrun
      | succ fuel =>
        rw [pte_list_remove_loop, if_pos h0] at hrun
        exact hunchanged (Option.some.inj hrun).symm
    · obtain ⟨⟨t, d⟩, hmem, ht⟩ := List.mem_map.mp htail
      obtain ⟨l₁, l₂, hall, hlinked, hsub⟩ := hok.from_tail hmem
      rw [← ht] at hrun
      have hlong := remove_loop_mono (Nat.le_max_left fuel (((t, d) :: l₂).length + 1)) hrun
      rcases remove_loop_spec spte hlinked (fun x hx => hheld.2 x (hsub x hx))
        (fun x hx => hok.count_le x (hsub x hx))
        (Nat.lt_of_lt_of_le (Nat.lt_succ_self _) (Nat.le_max_right fuel _)) with
        ⟨-, hloop⟩ | ⟨k₁, b, d', k₂, i, hi, hk, -, hloop⟩
      · exact hunchanged (Option.some.inj (hlong.symm.trans hloop))
      · -- it finds `spte` behind a tail, and takes that tail for the head
        have huntag : untag s.val = t := by
          rw [hheld.1, Rmap.val, untag_tag heven]
          exact ht.symm
        have hsplit : (a, h) :: tails = ((a, h) :: l₁ ++ k₁) ++ (b, d') :: k₂ := by
          rw [hall, hk, List.append_assoc]
        have hta' : t ≠ a := fun heq => hta (ht.symm.trans heq)
        exact not_wellFormed_of_tail hok hheld huntag hta' hmem hsplit (entries_lt hi)
          (hloop.symm.trans hlong) hheld' hwf'
  · -- no descriptor is there: the loop faults
    obtain ⟨h0, htail⟩ := not_or.mp hat
    have hnone : s.desc (lower_half a) = none := by
      refine heapOf_none fun hmem => ?_
      rcases List.mem_cons.mp hmem with heq | hmem
      · exact hta heq
      · exact htail hmem
    rw [pte_list_remove_unmapped fuel hheld.1 heven h0 hnone] at hrun
    cases hrun

end Iff

/-- A single pointer is cleared whatever is to be removed. -/
theorem single_of_removes {p spte : Addr} (hwf : (Rmap.single p).WellFormed)
    (hr : RemovesOne (.single p) spte) : p = spte := by
  obtain ⟨fuel, s', r', hrun, hwf', hheld', hsptes⟩ := hr ⟨fun _ => none, p⟩ ⟨rfl, nofun⟩
  rw [pte_list_remove, if_neg hwf.1, if_pos hwf.2] at hrun
  obtain rfl := Option.some.inj hrun
  have hval : (0 : BitVec 64) = r'.val := hheld'.1
  by_contra hne
  cases r' with
  | empty =>
    rw [Rmap.sptes, Rmap.sptes, Multiset.erase_of_notMem] at hsptes
    · exact Multiset.singleton_ne_zero p hsptes.symm
    · exact fun hmem => hne (Multiset.mem_singleton.mp hmem).symm
  | single q => exact hwf'.1 hval.symm
  | chain b d l => exact (tag_ne b).1 hval.symm

/-- **`pte_list_remove` removes one pointer** from a well-formed rmap, whatever else is in memory,
exactly under `RemoveCondition`. -/
theorem pte_list_remove_right_iff {r : Rmap} (hwf : r.WellFormed) (spte : Addr) :
    RemovesOne r spte ↔ RemoveCondition r spte := by
  cases r with
  | empty =>
    refine iff_of_true (fun s hs => ?_) trivial
    have hval : s.val = 0 := hs.1
    refine ⟨0, s, .empty, ?_, trivial, hs, (Multiset.erase_zero spte).symm⟩
    rw [pte_list_remove, if_pos hval]
  | single p =>
    refine ⟨single_of_removes hwf, fun hp s hs => ?_⟩
    obtain rfl : p = spte := hp
    refine ⟨0, { s with val := 0 }, .empty, ?_, trivial, ⟨rfl, nofun⟩, ?_⟩
    · have hval : s.val = p := hs.1
      rw [pte_list_remove, hval, if_neg hwf.1, if_pos hwf.2]
    · rw [Rmap.sptes, Rmap.sptes, ← Multiset.cons_zero, Multiset.erase_cons_head]
  | chain a h tails =>
    refine ⟨condition_of_removes hwf, ?_⟩
    rintro (hlow | ⟨hnot, hat⟩)
    · exact removes_low hwf hlow
    · exact removes_absent hwf hnot hat

/-- A descriptor that stores two pointers, the last of its chain. -/
def twoPointers : PteListDesc where
  more := 0
  spte_count := 2
  tail_count := 0
  sptes i := if i.val = 0 then 0x2008 else if i.val = 1 then 0x3010 else 0

theorem twoPointers_ok {a : Addr} (h0 : a ≠ 0) (heven : a &&& 1 = 0) : ChainOk a twoPointers [] :=
  ⟨⟨rfl, h0, heven, rfl⟩, List.nodup_singleton a, by decide, by decide, rfl, trivial⟩

theorem removes_from_low_chain : RemovesOne (.chain 0x1000 twoPointers []) 0x2008 := by
  have hok : (Rmap.chain 0x1000 twoPointers []).WellFormed :=
    twoPointers_ok (by decide) (by decide)
  exact (pte_list_remove_right_iff hok 0x2008).mpr (.inl (by decide))

/-- A chain at a kernel address is not found, and a single pointer is lost to another one. -/
theorem kernel_chain_not_found :
    ((Rmap.chain 0xFFFF800000001000 twoPointers []).WellFormed
        ∧ ¬ RemovesOne (.chain 0xFFFF800000001000 twoPointers []) 0x2008)
      ∧ (Rmap.single 0x2008).WellFormed ∧ ¬ RemovesOne (.single 0x2008) 0x3010 := by
  have hok : ChainOk 0xFFFF800000001000 twoPointers [] := twoPointers_ok (by decide) (by decide)
  have hwf : (Rmap.single 0x2008).WellFormed := ⟨by decide, by decide⟩
  refine ⟨⟨hok, fun hr => ?_⟩, hwf, fun hr => absurd (single_of_removes hwf hr) (by decide)⟩
  rcases condition_of_removes hok hr with hlow | ⟨-, h0 | hmem⟩
  · exact absurd hlow (by decide)
  · exact absurd h0 (by decide)
  · exact absurd hmem List.not_mem_nil

end Svmx.PteList
