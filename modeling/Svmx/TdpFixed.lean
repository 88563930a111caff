/-
What `kvm_tdp_mmu_map` leaves behind when it returns `RET_PF_FIXED`.

With the integer widths of the Windows build the walk looks for `gfn % 2^27`. It links empty tables
where the way to that gfn ends above level 1, so a huge page on the way is lost
(`map_loop_translations`), and it never installs the leaf. So the call has done what it reports
exactly when the leaf was there before it and no huge page was in the way (`map_fixed_iff`).
-/
import Svmx.TdpLink

set_option autoImplicit false

namespace Svmx.Tdp

open RetPf

variable {mm : Mm} {m : PtMem} {R root : ℕ} {masks : PteMasks} {host : SpteHost}
  {sptep_to_sp : Sptep → ℕ}

/-! ## The level of the mapping -/

theorem lpage_level_pos (gfn : ℕ) (slot : FaultSlot) {level : ℕ} (h : 1 ≤ level) :
    1 ≤ lpage_level gfn slot level := by
  induction level with
  | zero => omega
  | succ level ih =>
    rw [lpage_level]
    split
    next hlarge =>
      have h1 : PG_LEVEL_4K = 1 := rfl
      exact ih (by omega)
    next => omega

/-- The host maps pages of 4 KB, so these are what a guest can get. -/
theorem kvm_mmu_max_mapping_level_spec {max_huge_page_level max_level : ℕ} (slot : FaultSlot)
    (gfn : ℕ) (hhuge : 1 ≤ max_huge_page_level) (hmax : 1 ≤ max_level) :
    kvm_mmu_max_mapping_level max_huge_page_level slot gfn max_level = PG_LEVEL_4K := by
  have hpos : 1 ≤ lpage_level gfn slot (min max_level max_huge_page_level) :=
    lpage_level_pos gfn slot (by omega)
  unfold kvm_mmu_max_mapping_level
  dsimp only
  split
  · rfl
  · rw [host_pfn_mapping_level, PG_LEVEL_4K]
    omega

/-- `kvm_mmu_hugepage_adjust` leaves the gfn and the level of the fault. -/
theorem kvm_mmu_hugepage_adjust_spec {max_huge_page_level : ℕ} {fault fault' : KvmPageFault}
    (hhuge : 1 ≤ max_huge_page_level) (hmax : 1 ≤ fault.max_level)
    (h : kvm_mmu_hugepage_adjust max_huge_page_level fault = some fault') :
    fault'.gfn = fault.gfn ∧ fault'.goal_level = fault.goal_level := by
  unfold kvm_mmu_hugepage_adjust at h
  dsimp only at h
  split at h
  · rw [← Option.some.inj h]
    exact ⟨rfl, rfl⟩
  · split at h
    · rw [← Option.some.inj h]
      exact ⟨rfl, rfl⟩
    · obtain ⟨slot, -, h⟩ := Option.bind_eq_some_iff.mp h
      rw [kvm_mmu_max_mapping_level_spec slot _ hhuge hmax] at h
      split at h
      · rw [← Option.some.inj h]
        exact ⟨rfl, rfl⟩
      · rw [if_pos (Or.inl rfl)] at h
        rw [← Option.some.inj h]
        exact ⟨rfl, rfl⟩

/-- At the lowest level there is nothing to lower. -/
theorem adjust_disallowed_spec {fault : KvmPageFault} (h : fault.goal_level = PG_LEVEL_4K)
    (iter : TdpIter) (st : MapState) : adjust_disallowed mm fault iter st = some fault := by
  unfold adjust_disallowed disallowed_hugepage_adjust
  split
  · rw [if_neg]
    rintro ⟨hcur, heq, -⟩
    omega
  · rfl

/-! ## One round -/

/-- An entry that leads nowhere is changed without a table being removed. -/
theorem handle_changed_spte_keeps {owner : ℕ → Option KvmMmuPage} {shared : Bool}
    {fuel level : ℕ} {old_spte new_spte : BitVec 64} {st st' : TdpState}
    (hold : is_shadow_present_pte old_spte = false ∨ is_last_spte old_spte level = true)
    (h : handle_changed_spte mm owner shared fuel level old_spte new_spte st = some st') :
    st'.m = st.m := by
  cases fuel with
  | zero => cases h
  | succ fuel =>
    unfold handle_changed_spte at h
    extract_lets was_present is_present was_leaf is_leaf pfn_changed rest at h
    have hremoved : (was_present && !was_leaf && (is_leaf || !is_present || pfn_changed)) = false := by
      rcases hold with hold | hold
      · simp [was_present, hold]
      · simp [was_leaf, was_present, hold]
    split at h
    · cases h
    · split at h
      · rw [← Option.some.inj h]
      · split at h
        · rw [← Option.some.inj h]
        · unfold rest at h
          rw [hremoved] at h
          split at h
          · obtain ⟨st₁, hst₁, h⟩ := Option.bind_eq_some_iff.mp h
            rw [← Option.some.inj h]
            unfold kvm_update_page_stats at hst₁
            split at hst₁
            · rw [← Option.some.inj hst₁]
            · cases hst₁
          · rw [← Option.some.inj h]

/-- A new page is an empty table and a header. -/
theorem alloc_child_sp_spec {fault : KvmPageFault} {iter : TdpIter} {b : SpBlocks}
    {st st' : MapState} (h : alloc_child_sp sptep_to_sp fault iter b st = some st') :
    ∃ child_sp, st' = { st with
      tdp := { st.tdp with m := st.tdp.m.alloc b.spt }
      headers := Function.update st.headers b.sp (some child_sp) } := by
  unfold alloc_child_sp at h
  split at h
  · cases h
  · obtain ⟨parent_sp, -, h⟩ := Option.bind_eq_some_iff.mp h
    exact ⟨_, (Option.some.inj h).symm⟩

/-- An atomic update that finds what it expects stores the new entry and nothing else. -/
theorem set_spte_atomic_tables {iter : TdpIter} {new_spte : BitVec 64} {st st' : MapState} {r : ℤ}
    (hread : kvm_tdp_mmu_read_spte st.tdp.m iter.sptep = some iter.old_spte)
    (hold : is_shadow_present_pte iter.old_spte = false ∨
      is_last_spte iter.old_spte iter.level = true)
    (h : set_spte_atomic mm sptep_to_sp iter new_spte st = some (r, st')) :
    st'.tdp.m = st.tdp.m.write iter.sptep new_spte := by
  obtain ⟨⟨r', tdp⟩, hset, h⟩ := Option.bind_eq_some_iff.mp h
  obtain ⟨-, rfl⟩ := Prod.mk.inj (Option.some.inj h)
  obtain ⟨⟨cur, m'⟩, hcas, hset⟩ := Option.bind_eq_some_iff.mp hset
  obtain ⟨tdp', hchanged, hset⟩ := Option.bind_eq_some_iff.mp hset
  obtain ⟨-, rfl⟩ := Prod.mk.inj (Option.some.inj hset)
  unfold compare_exchange at hcas
  rw [hread] at hcas
  simp only [Option.bind_eq_bind, Option.bind_some, if_true] at hcas
  obtain ⟨-, rfl⟩ := Prod.mk.inj (Option.some.inj hcas)
  exact handle_changed_spte_keeps hold hchanged

/-- `tdp_mmu_link_sp` always reports success. -/
theorem tdp_mmu_link_sp_tables {iter iter' : TdpIter} {spt : ℕ} {st st' : MapState} {r : ℤ}
    (hread : kvm_tdp_mmu_read_spte st.tdp.m iter.sptep = some iter.old_spte)
    (hold : is_shadow_present_pte iter.old_spte = false ∨
      is_last_spte iter.old_spte iter.level = true)
    (h : tdp_mmu_link_sp mm masks sptep_to_sp iter spt true st = some (r, iter', st')) :
    r = 0 ∧ iter' = iter ∧ st'.tdp.m = st.tdp.m.write iter.sptep (link_spte mm masks spt) := by
  obtain ⟨⟨iter₁, st₁⟩, hset, h⟩ := Option.bind_eq_some_iff.mp h
  obtain ⟨hr, hrest⟩ := Prod.mk.inj (Option.some.inj h)
  obtain ⟨rfl, rfl⟩ := Prod.mk.inj hrest
  obtain ⟨⟨r₁, st₂⟩, hatomic, heq⟩ := Option.map_eq_some_iff.mp hset
  obtain ⟨rfl, rfl⟩ := Prod.mk.inj heq
  have htables := set_spte_atomic_tables hread hold hatomic
  exact ⟨hr.symm, rfl, htables⟩

theorem map_link_tables {fault : KvmPageFault} {iter iter' : TdpIter} {b : SpBlocks}
    {st st' : MapState} {r : ℤ}
    (hread : kvm_tdp_mmu_read_spte (st.tdp.m.alloc b.spt) iter.sptep = some iter.old_spte)
    (hold : is_shadow_present_pte iter.old_spte = false ∨
      is_last_spte iter.old_spte iter.level = true)
    (h : map_link mm masks sptep_to_sp fault iter b st = some (r, iter', st')) :
    r = 0 ∧ iter' = iter ∧
      st'.tdp.m = (st.tdp.m.alloc b.spt).write iter.sptep (link_spte mm masks b.spt) := by
  obtain ⟨st₁, halloc, h⟩ := Option.bind_eq_some_iff.mp h
  obtain ⟨child_sp, rfl⟩ := alloc_child_sp_spec halloc
  unfold tdp_mmu_split_huge_page at h
  rw [ite_self] at h
  exact tdp_mmu_link_sp_tables hread hold h

/-- What the checks of a round say above the level of the mapping. -/
theorem map_round_above {fault : KvmPageFault} {it : TdpIter} (hne : it.level ≠ fault.goal_level) :
    map_round fault it = .retry ∨
      (map_round fault it = .step_down ∧ is_shadow_present_pte it.old_spte = true ∧
        is_large_pte it.old_spte = false) ∨
      (map_round fault it = .link ∧
        (is_shadow_present_pte it.old_spte = false ∨ is_large_pte it.old_spte = true)) := by
  unfold map_round
  split
  · exact Or.inl rfl
  · cases hp : is_shadow_present_pte it.old_spte with
    | false => simp
    | true =>
      cases hl : is_large_pte it.old_spte with
      | false => simp
      | true => simp

/-! ## The way of the walk -/

/-- The gfn whose way the walk takes. -/
def walked_gfn (gfn : ℕ) : ℕ := gfn % 2 ^ 27

/-- The index at which the walk enters a table. -/
theorem walked_index (gfn l : ℕ) (hl : l ≤ 4) :
    gfn_round_for_level winHpage gfn (l + 1) / 512 ^ l % 512 = walked_gfn gfn / 512 ^ l % 512 := by
  unfold walked_gfn
  have hcases : l = 0 ∨ l = 1 ∨ l = 2 ∨ l = 3 ∨ l = 4 := by omega
  rcases hcases with rfl | rfl | rfl | rfl | rfl
  · rw [win_round_index gfn 0 (by omega)]
    norm_num
  · rw [win_round_index gfn 1 (by omega)]
    norm_num
    omega
  · rw [win_round_index gfn 2 (by omega)]
    norm_num
    omega
  · rw [win_round_four]
    norm_num
  · rw [win_round_five]
    norm_num
    omega

/-- The step down reads the entry anew, whatever the iterator holds of it. -/
theorem try_step_down_stale (hp : Hpage) (iter : TdpIter) (spte : BitVec 64)
    (hmin : (iter.level : ℤ) ≠ iter.min_level) :
    try_step_down hp mm m { iter with old_spte := spte } = try_step_down hp mm m iter := by
  unfold try_step_down
  rw [if_neg hmin, if_neg hmin]

/-- The iterator has come to a table of level `l + 1` on the way to the gfn it looks for. -/
structure OnMapWay (mm : Mm) (m : PtMem) (R root gfn l : ℕ) (q : List ℕ) (up : ℕ → ℕ)
    (it : TdpIter) : Prop where
  at_entry : At m R 1 up l (walked_gfn gfn / 512 ^ l % 512) it.gfn it
  target : it.next_last_level_gfn = gfn
  gfn_le : it.gfn ≤ gfn
  node : (radix mm m).nodeAt R root q = some (up l)
  length : q.length + (l + 1) = R
  way : (radix mm m).descend R root (walked_gfn gfn) =
    (radix mm m).descend (l + 1) (up l) (walked_gfn gfn)

/-- The way begins at the root. -/
theorem OnMapWay.start {iter it : TdpIter} {root : KvmMmuPage} {gfn l : ℕ}
    (hl : root.role.level = l + 1) (hlevel : root.role.level ≤ 5) (hgfn : gfn < 2 ^ 52)
    (htree : PageTree mm m root.role.level root.spt)
    (hstart : tdp_iter_start winHpage m iter root PG_LEVEL_4K gfn = some it) :
    OnMapWay mm m root.role.level root.spt gfn l [] (Function.update iter.pt_path l root.spt) it := by
  obtain ⟨it₀, hit₀, hat, hnl⟩ :=
    tdp_iter_start_spec winHpage iter root PG_LEVEL_4K gfn l hl hgfn htree.allocated.self
  rw [hstart] at hit₀
  obtain rfl := Option.some.inj hit₀
  rw [walked_index gfn l (by omega)] at hat
  have hg := hat.gfn
  refine ⟨?_, hnl, ?_, ?_, by simp [hl], ?_⟩
  · rw [hl, hg]
    exact hat
  · rw [hg]
    exact round_le winHpage _ _
  · rw [Function.update_self]
    rfl
  · rw [Function.update_self, hl]

/-- **The step down** to a child that the entry has now. -/
theorem OnMapWay.down {gfn l c : ℕ} {q : List ℕ} {up : ℕ → ℕ} {it : TdpIter} {m' : PtMem}
    (h : OnMapWay mm m R root gfn (l + 1) q up it) (hR : R ≤ 5) (hgfn : gfn < 2 ^ 52)
    (htree : PageTree mm m' R root)
    (hnode : (radix mm m').nodeAt R root q = some (up (l + 1)))
    (hway : (radix mm m').descend R root (walked_gfn gfn) =
      (radix mm m').descend (l + 1) c (walked_gfn gfn))
    (hc : (radix mm m').child (l + 2) (up (l + 1)) (walked_gfn gfn / 512 ^ (l + 1) % 512) = some c) :
    ∃ it', tdp_iter_next winHpage mm m' it = some it' ∧
      OnMapWay mm m' R root gfn l (q ++ [walked_gfn gfn / 512 ^ (l + 1) % 512])
        (Function.update up l c) it' := by
  have hlen := h.length
  have hi : walked_gfn gfn / 512 ^ (l + 1) % 512 < 512 := Nat.mod_lt _ (by omega)
  have hlevel : R - q.length = l + 2 := by omega
  have hchild : (radix mm m').nodeAt R root (q ++ [walked_gfn gfn / 512 ^ (l + 1) % 512]) =
      some c := by
    refine Radix.nodeAt_snoc_of_child hnode hi ?_
    rw [hlevel, hc]
  have hat := h.at_entry
  -- the same iterator with the entry as it is now
  have hat' : At m' R 1 up (l + 1) (walked_gfn gfn / 512 ^ (l + 1) % 512) it.gfn
      { it with old_spte := m'.entry (up (l + 1)) (walked_gfn gfn / 512 ^ (l + 1) % 512) } :=
    ⟨hat.valid, hat.yielded, hat.root, hat.min, hat.level, hat.path, hat.gfn, hat.sptep, rfl⟩
  obtain ⟨it', hd, hdown, hnl⟩ := hat'.try_step_down winHpage (by omega)
    (htree.allocated q _ hnode) hi hc (htree.allocated _ c hchild)
    (by dsimp only; rw [h.target]; exact hgfn)
  rw [try_step_down_stale winHpage it _ (by rw [hat.level, hat.min]; omega)] at hd
  dsimp only at hdown hnl
  rw [h.target, walked_index gfn l (by omega)] at hdown
  have hg := hdown.gfn
  refine ⟨it', ?_, ?_⟩
  · unfold tdp_iter_next
    rw [hat.yielded]
    simp [hd]
  · refine ⟨by rw [hg]; exact hdown, by rw [hnl, h.target], ?_, ?_, ?_, ?_⟩
    · rw [hg]
      exact round_le winHpage gfn (l + 1)
    · rw [Function.update_self]
      exact hchild
    · rw [List.length_append, List.length_singleton]
      omega
    · rw [Function.update_self]
      exact hway

/-! ## The loop -/

/-- A huge page maps the gfn. -/
def HugeAt (mm : Mm) (m : PtMem) (level pt gfn : ℕ) : Prop :=
  ∃ k spte, walk_leaf mm m level pt gfn = some (k, spte) ∧ 1 < k

/-- What the walk for a gfn does to the translations: nothing, unless a huge page is in the way;
then the gfns of that page have none afterwards. -/
structure Mapped (mm : Mm) (m m' : PtMem) (R root gfn : ℕ) : Prop where
  kept : ¬ HugeAt mm m R root (walked_gfn gfn) →
    ∀ g, walk_leaf mm m' R root g = walk_leaf mm m R root g
  lost : HugeAt mm m R root (walked_gfn gfn) → ∀ g,
    (radix mm m).descend R root g = (radix mm m).descend R root (walked_gfn gfn) →
      walk_leaf mm m' R root g = none

/-- The page-table pages that are still in the caches. -/
structure FreshBlocks (mm : Mm) (m : PtMem) (blocks : List SpBlocks) : Prop where
  fresh : ∀ b ∈ blocks, FreshTable mm m b.spt
  nodup : (blocks.map SpBlocks.spt).Nodup

theorem FreshBlocks.tail {b : SpBlocks} {blocks : List SpBlocks} {u : ℕ}
    (h : FreshBlocks mm m (b :: blocks)) (hu : (m.spt u).isSome) (i : ℕ) (spte : BitVec 64) :
    FreshBlocks mm ((m.alloc b.spt).write ⟨u, i⟩ spte) blocks := by
  have hnodup := List.nodup_cons.mp (List.map_cons ▸ h.nodup)
  refine ⟨fun b' hb' => ?_, hnodup.2⟩
  obtain ⟨hunused, hne, htr⟩ := h.fresh b' (List.mem_cons_of_mem b hb')
  have hbb' : b'.spt ≠ b.spt := by
    intro heq
    exact hnodup.1 (List.mem_map.mpr ⟨b', hb', heq⟩)
  have hub' : b'.spt ≠ u := by
    rintro rfl
    rw [hunused] at hu
    cases hu
  refine ⟨?_, hne, htr⟩
  rw [write_spt_ne hub', alloc_spt_ne hbb', hunused]

/-- **The link round.** The way ended at the entry, and the table is linked there: the translations
change as `Mapped` says, and the walk can go on in the new table. -/
theorem link_round {gfn l : ℕ} {q : List ℕ} {up : ℕ → ℕ} {it : TdpIter} {b : SpBlocks}
    {blocks : List SpBlocks} {has_ad_bits has_exec_only : Bool}
    (hmasks : masks.toSpteMasks = kvm_mmu_set_ept_masks has_ad_bits has_exec_only)
    (htree : PageTree mm m R root) (h : OnMapWay mm m R root gfn (l + 1) q up it)
    (hfresh : FreshBlocks mm m (b :: blocks))
    (hnone : (radix mm m).child (l + 2) (up (l + 1)) (walked_gfn gfn / 512 ^ (l + 1) % 512) = none)
    {m' : PtMem}
    (hm' : m' = (m.alloc b.spt).write it.sptep (link_spte mm masks b.spt)) :
    PageTree mm m' R root ∧ FreshBlocks mm m' blocks ∧
      (radix mm m').nodeAt R root q = some (up (l + 1)) ∧
      (radix mm m').child (l + 2) (up (l + 1)) (walked_gfn gfn / 512 ^ (l + 1) % 512) =
        some b.spt ∧
      (radix mm m').descend R root (walked_gfn gfn) =
        (radix mm m').descend (l + 1) b.spt (walked_gfn gfn) ∧
      ¬ HugeAt mm m' R root (walked_gfn gfn) ∧ Mapped mm m m' R root gfn := by
  set i := walked_gfn gfn / 512 ^ (l + 1) % 512 with hi
  have hlen := h.length
  have hlevel : R - q.length = l + 2 := by omega
  have hi512 : i < 512 := Nat.mod_lt _ (by omega)
  have hb := hfresh.fresh b List.mem_cons_self
  have hsame := alloc_same hb htree
  have hatree := alloc_tree hb htree
  rw [h.at_entry.sptep] at hm'
  subst hm'
  have hspte := link_spte_link masks has_ad_bits has_exec_only hmasks hb.translates
  have hnode : (radix mm (m.alloc b.spt)).nodeAt R root q = some (up (l + 1)) := by
    rw [hsame.nodeAt, h.node]
  have hchildren := hsame q (up (l + 1)) h.node i hi512
  rw [hlevel] at hchildren
  have hsite : LinkSite mm (m.alloc b.spt) R root q (up (l + 1)) i b.spt := by
    refine ⟨hnode, hi512, by omega, ?_, ?_, alloc_entry_self b.spt, fun p hp => ?_⟩
    · rw [hlevel, hchildren.1, hnone]
    · rw [alloc_spt_self hb.ne_null]
      rfl
    · rw [hsame.nodeAt] at hp
      exact hb.unreached htree p hp
  have hwalk : ∀ g, walk_leaf mm (m.alloc b.spt) R root g = walk_leaf mm m R root g := fun g =>
    walk_leaf_congr (Radix.descend_congr (by omega) hsame g)
  have hways : ∀ g, (radix mm (m.alloc b.spt)).descend R root g = (radix mm m).descend R root g :=
    fun g => (Radix.descend_congr (by omega) hsame g).1
  -- where the way ends before the link
  have hend : (radix mm m).descend R root (walked_gfn gfn) =
      ⟨up (l + 1), i, l + 2, walked_gfn gfn / 512 ^ (l + 1) * 512 ^ (l + 1)⟩ := by
    rw [h.way, Radix.descend, ← hi, hnone]
  have hnew := walk_leaf_link hatree hsite hspte
  simp only [hways, hwalk] at hnew
  refine ⟨link_tree hatree hsite hspte, ?_, ?_, ?_, ?_, ?_, ?_, ?_⟩
  · exact hfresh.tail (htree.allocated q _ h.node) i _
  · exact ((link_linked hatree hsite hspte).nodeAt_iff q _).mpr (Or.inl hnode)
  · have hchild := link_child hatree hsite hspte
    rwa [hlevel] at hchild
  · rcases descend_link hatree hsite hspte (walked_gfn gfn) with ⟨-, -, -, hway⟩ | ⟨hne, -⟩
    · rw [hway, hlevel]
      rfl
    · rw [hways, hend] at hne
      exact absurd ⟨rfl, rfl⟩ hne
  · rintro ⟨k, spte, hleaf, -⟩
    rw [hnew, hend, if_pos ⟨rfl, rfl⟩] at hleaf
    cases hleaf
  · intro hhuge g
    rw [hnew]
    split
    next he =>
      -- the entry maps nothing
      have hleaf : is_leaf_spte (m.entry (up (l + 1)) i) (l + 2) = false := by
        cases hleaf : is_leaf_spte (m.entry (up (l + 1)) i) (l + 2) with
        | false => rfl
        | true =>
          refine absurd ⟨l + 2, m.entry (up (l + 1)) i, ?_, by omega⟩ hhuge
          unfold walk_leaf
          simp only [hend, hleaf, if_true]
      have hlevelg : is_leaf_spte (m.entry (up (l + 1)) i) ((radix mm m).descend R root g).level =
          false := by
        rcases descend_link hatree hsite hspte g with ⟨-, -, hl, -⟩ | ⟨hne, -⟩
        · rw [hways, hlevel] at hl
          rw [hl, hleaf]
        · rw [hways] at hne
          exact absurd he hne
      unfold walk_leaf
      simp only [he.1, he.2, hlevelg]
      rfl
    next => rfl
  · intro _ g hg
    rw [hnew, hg, hend, if_pos ⟨rfl, rfl⟩]

/-- The iterator has not passed the fault's gfn. -/
theorem OnMapWay.in_range {fault : KvmPageFault} {l : ℕ} {q : List ℕ} {up : ℕ → ℕ} {it : TdpIter}
    (h : OnMapWay mm m R root fault.gfn l q up it) (hgfn : fault.gfn < 2 ^ 52) :
    in_map_range fault it = true := by
  have hle := h.gfn_le
  unfold in_map_range
  rw [h.at_entry.valid, Bool.true_and, decide_eq_true_eq]
  omega

/-- At level 1 the round is the last one. -/
theorem OnMapWay.round_last {fault : KvmPageFault} {q : List ℕ} {up : ℕ → ℕ} {it : TdpIter}
    (h : OnMapWay mm m R root fault.gfn 0 q up it) (hgoal : fault.goal_level = PG_LEVEL_4K) :
    map_round fault it = .retry ∨ map_round fault it = .map_target_level := by
  unfold map_round
  rw [h.at_entry.level, hgoal]
  split
  · exact Or.inl rfl
  · exact Or.inr rfl

/-- What linking a table under the iterator does, and that the walk goes on in the table. -/
structure LinkRound (mm : Mm) (masks : PteMasks) (sptep_to_sp : Sptep → ℕ) (R root l : ℕ)
    (fault : KvmPageFault) (it : TdpIter) (st : MapState) (b : SpBlocks) (blocks : List SpBlocks)
    (st₁ : MapState) : Prop where
  tree : PageTree mm st₁.tdp.m R root
  fresh : FreshBlocks mm st₁.tdp.m blocks
  no_huge : ¬ HugeAt mm st₁.tdp.m R root (walked_gfn fault.gfn)
  mapped : Mapped mm st.tdp.m st₁.tdp.m R root fault.gfn
  down : ∃ it' q up, tdp_iter_next winHpage mm st₁.tdp.m it = some it' ∧
    OnMapWay mm st₁.tdp.m R root fault.gfn l q up it'

/-- **A round above level 1**: it gives up, goes down to the table that is there, or links a new one
and goes down to that. -/
theorem OnMapWay.round {has_ad_bits has_exec_only : Bool} {fault : KvmPageFault} {l : ℕ}
    {q : List ℕ} {up : ℕ → ℕ} {it : TdpIter} {st : MapState} (hR : R ≤ 5)
    (hmasks : masks.toSpteMasks = kvm_mmu_set_ept_masks has_ad_bits has_exec_only)
    (hgfn : fault.gfn < 2 ^ 52) (hgoal : fault.goal_level = PG_LEVEL_4K)
    (htree : PageTree mm st.tdp.m R root)
    (h : OnMapWay mm st.tdp.m R root fault.gfn (l + 1) q up it) :
    map_round fault it = .retry ∨
      (map_round fault it = .step_down ∧ ∃ it' q up,
        tdp_iter_next winHpage mm st.tdp.m it = some it' ∧
          OnMapWay mm st.tdp.m R root fault.gfn l q up it') ∨
      (map_round fault it = .link ∧ ∀ b blocks, FreshBlocks mm st.tdp.m (b :: blocks) →
        ∀ r it₁ st₁, map_link mm masks sptep_to_sp fault it b st = some (r, it₁, st₁) →
          r = 0 ∧ it₁ = it ∧ LinkRound mm masks sptep_to_sp R root l fault it st b blocks st₁) := by
  have hi : walked_gfn fault.gfn / 512 ^ (l + 1) % 512 < 512 := Nat.mod_lt _ (by omega)
  have hlevel : it.level = l + 2 := h.at_entry.level
  have hspte := h.at_entry.spte
  have hupalloc := htree.allocated q _ h.node
  have hne : it.level ≠ fault.goal_level := by
    rw [hlevel, hgoal, PG_LEVEL_4K]
    omega
  have hlast : is_last_spte it.old_spte (l + 2) = is_large_pte it.old_spte := by
    simp [is_last_spte, PG_LEVEL_4K]
  rcases map_round_above hne with hround | ⟨hround, hp, hl⟩ | ⟨hround, hfree⟩
  · exact Or.inl hround
  · -- a table: the walk goes on in it
    refine Or.inr (Or.inl ⟨hround, ?_⟩)
    rw [← hlast, hspte] at hl
    rw [hspte] at hp
    have hc : (radix mm _).child _ _ _ = _ := child_of_spte hp hl
    have hdesc := h.way
    rw [Radix.descend, hc] at hdesc
    obtain ⟨it', hnext, hway'⟩ := h.down hR hgfn htree h.node hdesc hc
    exact ⟨it', _, _, hnext, hway'⟩
  · -- the way ends here, and the new table takes it on
    refine Or.inr (Or.inr ⟨hround, fun b blocks hfresh r it₁ st₁ hlink => ?_⟩)
    rw [← hlast] at hfree
    have hnone : (radix mm st.tdp.m).child (l + 2) (up (l + 1))
        (walked_gfn fault.gfn / 512 ^ (l + 1) % 512) = none := by
      refine no_child_of_spte ?_
      rwa [← hspte]
    rw [← hlevel] at hfree
    have hb := hfresh.fresh b List.mem_cons_self
    have hread : kvm_tdp_mmu_read_spte (st.tdp.m.alloc b.spt) it.sptep = some it.old_spte := by
      have hub : up (l + 1) ≠ b.spt := by
        intro heq
        exact hb.unreached htree q (heq ▸ h.node)
      rw [h.at_entry.sptep, read_spte (alloc_isSome _ hupalloc) hi, entry_congr (alloc_spt_ne hub),
        hspte]
    obtain ⟨rfl, rfl, hm⟩ := map_link_tables hread hfree hlink
    obtain ⟨htree₁, hfresh₁, hnode₁, hc₁, hway₁, hhuge₁, hmapped⟩ :=
      link_round hmasks htree h hfresh hnone hm
    obtain ⟨it', hnext, hway'⟩ := h.down hR hgfn htree₁ hnode₁ hway₁ hc₁
    exact ⟨rfl, rfl, htree₁, hfresh₁, hhuge₁, hmapped, it', _, _, hnext, hway'⟩

/-- **The walk of a call that reports success.** -/
theorem map_loop_translations {has_ad_bits has_exec_only : Bool} {generation : BitVec 64}
    {fault : KvmPageFault} (hR : R ≤ 5)
    (hmasks : masks.toSpteMasks = kvm_mmu_set_ept_masks has_ad_bits has_exec_only)
    (hgfn : fault.gfn < 2 ^ 52) (hgoal : fault.goal_level = PG_LEVEL_4K) (l : ℕ) :
    ∀ (fuel : ℕ) (it : TdpIter) (blocks : List SpBlocks) (st st' : MapState) (q : List ℕ)
      (up : ℕ → ℕ), PageTree mm st.tdp.m R root →
      OnMapWay mm st.tdp.m R root fault.gfn l q up it → FreshBlocks mm st.tdp.m blocks →
      map_loop mm masks host sptep_to_sp generation fuel fault it blocks st =
        some (RET_PF_FIXED, st') →
      Mapped mm st.tdp.m st'.tdp.m R root fault.gfn := by
  induction l with
  | zero =>
    intro fuel it blocks st st' q up htree hway hfresh h
    cases fuel with
    | zero => cases h
    | succ fuel =>
      rw [map_loop, hway.in_range hgfn, adjust_disallowed_spec hgoal] at h
      simp only [Bool.not_true, Bool.false_eq_true, if_false, Option.bind_eq_bind,
        Option.bind_some] at h
      -- no table has changed, and the way has come down to level 1
      have hst : st' = st := by
        rcases hway.round_last hgoal with hround | hround
        · rw [hround] at h
          simp at h
        · rw [hround] at h
          obtain ⟨ret, -, h⟩ := Option.bind_eq_some_iff.mp h
          exact (Prod.mk.inj (Option.some.inj h)).2.symm
      subst hst
      refine ⟨fun _ g => rfl, ?_⟩
      rintro ⟨k, spte, hleaf, hk⟩
      exfalso
      have hle := (radix mm st'.tdp.m).descend_level_le (0 + 1) (up 0) (walked_gfn fault.gfn)
      unfold walk_leaf at hleaf
      simp only [hway.way] at hleaf
      split at hleaf
      · have := (Prod.mk.inj (Option.some.inj hleaf)).1
        omega
      · cases hleaf
  | succ l ih =>
    intro fuel it blocks st st' q up htree hway hfresh h
    cases fuel with
    | zero => cases h
    | succ fuel =>
      rw [map_loop, hway.in_range hgfn, adjust_disallowed_spec hgoal] at h
      simp only [Bool.not_true, Bool.false_eq_true, if_false, Option.bind_eq_bind,
        Option.bind_some] at h
      rcases @OnMapWay.round mm R root masks sptep_to_sp has_ad_bits has_exec_only fault l q up it st
        hR hmasks hgfn hgoal htree hway with hround | ⟨hround, it', q', up', hnext, hway'⟩ |
        ⟨hround, hlinks⟩
      · rw [hround] at h
        simp at h
      · rw [hround] at h
        simp only [hnext, Option.bind_some] at h
        exact ih fuel it' blocks st st' q' up' htree hway' hfresh h
      · rw [hround] at h
        cases blocks with
        | nil => cases h
        | cons b blocks =>
          obtain ⟨⟨r, it₁, st₁⟩, hlink, hrec⟩ := Option.bind_eq_some_iff.mp h
          obtain ⟨rfl, rfl, hnew⟩ := hlinks b blocks hfresh r it₁ st₁ hlink
          obtain ⟨it', q', up', hnext, hway'⟩ := hnew.down
          dsimp only at hrec
          rw [if_neg (by simp), hnext, Option.bind_some] at hrec
          have hrest := ih fuel it' blocks st₁ st' q' up' hnew.tree hway' hnew.fresh hrec
          refine ⟨fun hno g => ?_, fun hhuge g hg => ?_⟩
          · rw [hrest.kept hnew.no_huge g, hnew.mapped.kept hno g]
          · rw [hrest.kept hnew.no_huge g, hnew.mapped.lost hhuge g hg]

/-! ## What a call that reports success has done -/

/-- A fault as `kvm_mmu_do_page_fault` and `kvm_tdp_page_fault` build it, on a gfn of a slot. -/
structure SlotFault (fault : KvmPageFault) : Prop where
  slot : fault.slot.isSome
  goal : fault.goal_level = PG_LEVEL_4K
  max : 1 ≤ fault.max_level
  gfn : fault.gfn < 2 ^ 52

/-- The way to the gfn of the fault ends at a present leaf of the goal level with the frame of the
fault, writable only if the fault allows it. -/
def FaultMapped (mm : Mm) (m : PtMem) (level root : ℕ) (fault : KvmPageFault) : Prop :=
  ∃ spte, walk_leaf mm m level root fault.gfn = some (fault.goal_level, spte) ∧
    spte_to_pfn spte = fault.pfn ∧ (is_writable_pte spte = true → fault.map_writable = true)

/-- The gfns outside the block of the fault have the translation they had. -/
def OthersKept (mm : Mm) (m m' : PtMem) (level root : ℕ) (fault : KvmPageFault) : Prop :=
  ∀ g, g / 512 ^ (fault.goal_level - 1) ≠ fault.gfn / 512 ^ (fault.goal_level - 1) →
    walk_leaf mm m' level root g = walk_leaf mm m level root g

/-- A huge page maps gfns other than the fault's, and all on one way. -/
theorem HugeAt.other {gfn : ℕ} (hR : 1 ≤ R) (h : HugeAt mm m R root (walked_gfn gfn)) :
    ∃ g, g ≠ gfn ∧
      (radix mm m).descend R root g = (radix mm m).descend R root (walked_gfn gfn) ∧
      walk_leaf mm m R root g ≠ none := by
  obtain ⟨k, spte, hleaf, hk⟩ := h
  have hlevel : ((radix mm m).descend R root (walked_gfn gfn)).level = k := by
    unfold walk_leaf at hleaf
    dsimp only at hleaf
    split at hleaf
    · exact (Prod.mk.inj (Option.some.inj hleaf)).1
    · cases hleaf
  have hblock : 512 ≤ 512 ^ (k - 1) := by
    calc 512 = 512 ^ 1 := by norm_num
      _ ≤ 512 ^ (k - 1) := Nat.pow_le_pow_right (by omega) (by omega)
  have hsame : ∀ g, g / 512 ^ (k - 1) = walked_gfn gfn / 512 ^ (k - 1) →
      (radix mm m).descend R root g = (radix mm m).descend R root (walked_gfn gfn) := by
    intro g hg
    exact Radix.descend_block (by rw [hlevel]; exact hg) hR
  -- the first two gfns of the page
  have hfirst : ∀ d, d < 2 → (walked_gfn gfn / 512 ^ (k - 1) * 512 ^ (k - 1) + d) / 512 ^ (k - 1) =
      walked_gfn gfn / 512 ^ (k - 1) := by
    intro d hd
    rw [Nat.add_comm, Nat.add_mul_div_right _ _ (by omega), Nat.div_eq_of_lt (by omega), Nat.zero_add]
  obtain ⟨d, hd, hne⟩ : ∃ d, d < 2 ∧
      walked_gfn gfn / 512 ^ (k - 1) * 512 ^ (k - 1) + d ≠ gfn := by
    by_cases h0 : walked_gfn gfn / 512 ^ (k - 1) * 512 ^ (k - 1) + 0 = gfn
    · exact ⟨1, by omega, by omega⟩
    · exact ⟨0, by omega, h0⟩
  have hway := hsame _ (hfirst d hd)
  refine ⟨_, hne, hway, ?_⟩
  have heq : walk_leaf mm m R root (walked_gfn gfn / 512 ^ (k - 1) * 512 ^ (k - 1) + d) =
      walk_leaf mm m R root (walked_gfn gfn) := by
    unfold walk_leaf
    rw [hway]
  rw [heq, hleaf]
  exact Option.some_ne_none _

/-- **When `RET_PF_FIXED` is true.** On every tree of root level 4 or 5, for every fault on a gfn of a
slot and whatever `sptep_to_sp` answers: after a call that returns `RET_PF_FIXED` the gfn is mapped as
the fault asks and the other translations are kept exactly when the gfn was mapped so before the
call, and no huge page maps `gfn % 2^27`. -/
theorem map_fixed_iff {has_ad_bits has_exec_only : Bool} {generation : BitVec 64}
    {max_huge_page_level fuel : ℕ} {root_hpa : BitVec 64} {iter : TdpIter}
    {blocks : List SpBlocks} {fault : KvmPageFault} {st st' : MapState} {root : KvmMmuPage}
    (hmasks : masks.toSpteMasks = kvm_mmu_set_ept_masks has_ad_bits has_exec_only)
    (hhuge : 1 ≤ max_huge_page_level) (hfault : SlotFault fault)
    (hroot : st.headers (to_shadow_page mm root_hpa) = some root)
    (hlevel : root.role.level = 4 ∨ root.role.level = 5)
    (htree : PageTree mm st.tdp.m root.role.level root.spt)
    (hblocks : FreshBlocks mm st.tdp.m blocks)
    (hret : kvm_tdp_mmu_map mm masks host sptep_to_sp generation max_huge_page_level fuel root_hpa
      iter blocks fault st = some (RET_PF_FIXED, st')) :
    (FaultMapped mm st'.tdp.m root.role.level root.spt fault ∧
        OthersKept mm st.tdp.m st'.tdp.m root.role.level root.spt fault) ↔
      FaultMapped mm st.tdp.m root.role.level root.spt fault ∧
        ¬ HugeAt mm st.tdp.m root.role.level root.spt (walked_gfn fault.gfn) := by
  obtain ⟨fault', hadjust, hret⟩ := Option.bind_eq_some_iff.mp hret
  rw [hroot, Option.bind_eq_bind, Option.bind_some] at hret
  obtain ⟨it, hstart, hret⟩ := Option.bind_eq_some_iff.mp hret
  obtain ⟨hgfn', hgoal'⟩ := kvm_mmu_hugepage_adjust_spec hhuge hfault.max hadjust
  have hgfn := hfault.gfn
  obtain ⟨l, hl⟩ : ∃ l, root.role.level = l + 1 := ⟨root.role.level - 1, by omega⟩
  have hway := OnMapWay.start hl (by omega) (by rw [hgfn']; exact hgfn) htree hstart
  have hmapped := map_loop_translations (by omega) hmasks (by rw [hgfn']; exact hgfn)
    (by rw [hgoal', hfault.goal]) l fuel it blocks st st' [] _ htree hway hblocks hret
  rw [hgfn'] at hmapped
  constructor
  · rintro ⟨hafter, hothers⟩
    have hno : ¬ HugeAt mm st.tdp.m root.role.level root.spt (walked_gfn fault.gfn) := by
      intro hhuge
      obtain ⟨g, hne, hsame, hsome⟩ := hhuge.other (by omega)
      have hkept := hothers g (by rw [hfault.goal]; simpa [PG_LEVEL_4K] using hne)
      rw [hmapped.lost hhuge g hsame] at hkept
      exact hsome hkept.symm
    refine ⟨?_, hno⟩
    obtain ⟨spte, hleaf, hrest⟩ := hafter
    exact ⟨spte, (hmapped.kept hno _).symm.trans hleaf, hrest⟩
  · rintro ⟨⟨spte, hleaf, hrest⟩, hno⟩
    exact ⟨⟨spte, (hmapped.kept hno _).trans hleaf, hrest⟩, fun g _ => hmapped.kept hno g⟩

/-! ### The first fault -/

/-- Nothing but an empty root table. -/
def emptyRoot : PtMem where
  spt pt := if pt = 0x1000 then some fun _ => 0 else none
  spt_null := rfl

/-- The header of the root at `0x101000`. -/
def emptyRootState : MapState where
  tdp := ⟨emptyRoot, fun _ => 0⟩
  headers a := if a = 0x101000 then some rootPage else none
  tdp_mmu_pages := 0

/-- The masks of a host with accessed and dirty bits. -/
def eptMasks : PteMasks where
  toSpteMasks := kvm_mmu_set_ept_masks true false
  shadow_nx_mask := 0
  shadow_host_writable_mask := EPT_SPTE_HOST_WRITABLE
  shadow_mmio_value := VMX_EPT_MISCONFIG_WX_VALUE
  shadow_mmio_mask := VMX_EPT_RWX_MASK
  shadow_mmio_access_mask := 0
  shadow_nonpresent_or_rsvd_mask := 0
  enable_mmio_caching := true

/-- Three pages from the caches. -/
def threeBlocks : List SpBlocks := [⟨0x102000, 0x2000⟩, ⟨0x103000, 0x3000⟩, ⟨0x104000, 0x4000⟩]

/-- A write fault on gfn 5, whose frame is `0x77`. -/
def fiveFault : KvmPageFault where
  exec := false
  prefetch := false
  nx_huge_page_workaround_enabled := false
  huge_page_disallowed := false
  max_level := 3
  req_level := 1
  goal_level := 1
  gfn := 5
  slot := some ⟨0, 0, fun _ _ => 0⟩
  pfn := 0x77
  map_writable := true

/-- The call for the fault; the header of a page table is `0x100000` above it. -/
def fiveMap : Option (RetPf × MapState) :=
  kvm_tdp_mmu_map flatMm eptMasks ⟨0, false⟩ (fun p => p.pt + 0x100000) 0 3 8 0x101000 blankIter
    threeBlocks fiveFault emptyRootState

theorem emptyRoot_tree : PageTree flatMm emptyRoot rootPage.role.level rootPage.spt := by
  have hchild : ∀ level i, (radix flatMm emptyRoot).child level 0x1000 i = none := by
    intro level i
    refine no_child_of_spte (Or.inl ?_)
    have hzero : emptyRoot.entry 0x1000 i = 0 := by
      unfold PtMem.entry kvm_tdp_mmu_read_spte emptyRoot
      by_cases hi : i < 512
      · simp [hi]
      · simp [hi]
    rw [hzero]
    exact is_shadow_present_pte_zero
  have hpaths : ∀ p t, (radix flatMm emptyRoot).nodeAt rootPage.role.level rootPage.spt p = some t →
      p = [] ∧ t = 0x1000 := by
    intro p t h
    cases p with
    | nil => exact ⟨rfl, (Option.some.inj h).symm⟩
    | cons i p =>
      have hspt : rootPage.spt = 0x1000 := rfl
      rw [hspt] at h
      simp [Radix.nodeAt, hchild] at h
  refine ⟨fun p t h => ?_, fun p q t hp hq => ?_⟩
  · rw [(hpaths p t h).2]
    rfl
  · rw [(hpaths p t hp).1, (hpaths q t hq).1]

/-- Pages beside the root are new. -/
theorem emptyRoot_fresh {blocks : List SpBlocks} (hroot : ∀ b ∈ blocks, b.spt ≠ 0x1000)
    (hnull : ∀ b ∈ blocks, b.spt ≠ 0)
    (hphys : ∀ b ∈ blocks, flatMm.virt (flatMm.phys b.spt) = b.spt ∧
      flatMm.phys b.spt &&& SPTE_BASE_ADDR_MASK = flatMm.phys b.spt)
    (hnodup : (blocks.map SpBlocks.spt).Nodup) : FreshBlocks flatMm emptyRoot blocks :=
  ⟨fun b hb => ⟨if_neg (hroot b hb), hnull b hb, hphys b hb⟩, hnodup⟩

theorem threeBlocks_fresh : FreshBlocks flatMm emptyRoot threeBlocks :=
  emptyRoot_fresh (by decide) (by decide) (by decide) (by decide)

/-- The call returns `RET_PF_FIXED` and gfn 5 is still not mapped. -/
theorem fixed_without_leaf : ∃ st', fiveMap = some (RET_PF_FIXED, st') ∧
    ¬ FaultMapped flatMm st'.tdp.m rootPage.role.level rootPage.spt fiveFault := by
  have hret : fiveMap.map (fun r => (r.1, walk_leaf flatMm r.2.tdp.m 4 0x1000 5)) =
      some (RET_PF_FIXED, none) := by
    decide +kernel
  obtain ⟨⟨ret, st'⟩, hmap, heq⟩ := Option.map_eq_some_iff.mp hret
  obtain ⟨rfl, hnone⟩ := Prod.mk.inj heq
  refine ⟨st', hmap, ?_⟩
  rintro ⟨spte, hleaf, -⟩
  exact absurd (hnone.symm.trans hleaf) (by simp)

theorem map_fixed_iff_first : ∃ st', fiveMap = some (RET_PF_FIXED, st') ∧
    ((FaultMapped flatMm st'.tdp.m rootPage.role.level rootPage.spt fiveFault ∧
        OthersKept flatMm emptyRoot st'.tdp.m rootPage.role.level rootPage.spt fiveFault) ↔
      FaultMapped flatMm emptyRoot rootPage.role.level rootPage.spt fiveFault ∧
        ¬ HugeAt flatMm emptyRoot rootPage.role.level rootPage.spt (walked_gfn fiveFault.gfn)) := by
  obtain ⟨st', hmap, -⟩ := fixed_without_leaf
  have hret : kvm_tdp_mmu_map flatMm eptMasks ⟨0, false⟩ (fun p => p.pt + 0x100000) 0 3 8 0x101000
      blankIter threeBlocks fiveFault emptyRootState = some (RET_PF_FIXED, st') := hmap
  have hmasks : eptMasks.toSpteMasks = kvm_mmu_set_ept_masks true false := rfl
  have hroot : emptyRootState.headers (to_shadow_page flatMm 0x101000) = some rootPage := by decide
  have htree : PageTree flatMm emptyRootState.tdp.m rootPage.role.level rootPage.spt :=
    emptyRoot_tree
  have hblocks : FreshBlocks flatMm emptyRootState.tdp.m threeBlocks := threeBlocks_fresh
  have hfault : SlotFault fiveFault := ⟨rfl, rfl, by decide, by decide⟩
  have hlevel : rootPage.role.level = 4 ∨ rootPage.role.level = 5 := Or.inl (by decide)
  have hiff := map_fixed_iff hmasks (by decide) hfault hroot hlevel htree hblocks hret
  exact ⟨st', hmap, hiff⟩

end Svmx.Tdp
