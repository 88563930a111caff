/-
What `kvm_tdp_mmu_map` does to a tree in which nothing is mapped.

`Bare` says that the way to every gfn ends at an empty entry. A call links a table at each level at
which the way to its gfn still ends, down to level 1, and stores no leaf: the tree stays bare, and the
ways of the other gfns come down as far as they run together with it (`WayBuilt`).
-/
import Svmx.FaultPages
import Svmx.RadixDepth

set_option autoImplicit false

namespace Svmx.Tdp

open RetPf

variable {mm : Mm} {m m' : PtMem} {R root : ℕ} {masks : PteMasks} {host : SpteHost}
  {sptep_to_sp : Sptep → ℕ}

/-! ## Bare trees -/

/-- The level at which the way to a gfn ends. -/
def depth (mm : Mm) (m : PtMem) (R root gfn : ℕ) : ℕ := ((radix mm m).descend R root gfn).level

/-- The way to every gfn ends at an empty entry. -/
def Bare (mm : Mm) (m : PtMem) (R root : ℕ) : Prop :=
  ∀ g < 512 ^ R, m.entry ((radix mm m).descend R root g).node ((radix mm m).descend R root g).idx = 0

theorem walked_gfn_lt (gfn : ℕ) (hR : 3 ≤ R) : walked_gfn gfn < 512 ^ R := by
  calc walked_gfn gfn < 2 ^ 27 := Nat.mod_lt _ (by norm_num)
    _ = 512 ^ 3 := by norm_num
    _ ≤ 512 ^ R := Nat.pow_le_pow_right (by norm_num) hR

/-- The way to `c` comes down to level 1, no leaf is stored, and pages that are not in `own` are left
alone. -/
structure WayBuilt (mm : Mm) (R root c : ℕ) (own : List ℕ) (m m' : PtMem) : Prop where
  tree : PageTree mm m' R root
  bare : Bare mm m' R root
  depth : ∀ g < 512 ^ R, ∀ k, 1 ≤ k →
    (depth mm m' R root g ≤ k ↔ depth mm m R root g ≤ k ∨ g / 512 ^ k = c / 512 ^ k)
  fresh : ∀ t, t ∉ own → FreshTable mm m t → FreshTable mm m' t

/-- One table is linked where the way to `c` ended, at level `l + 2`. -/
structure WayLinked (mm : Mm) (R root c l t : ℕ) (m m' : PtMem) : Prop where
  tree : PageTree mm m' R root
  bare : Bare mm m' R root
  before : Tdp.depth mm m R root c = l + 2
  after : Tdp.depth mm m' R root c = l + 1
  depth : ∀ g < 512 ^ R, ∀ k,
    (Tdp.depth mm m' R root g ≤ k ↔
      Tdp.depth mm m R root g ≤ k ∨ (l + 1 ≤ k ∧ g / 512 ^ (l + 1) = c / 512 ^ (l + 1)))
  fresh : ∀ a, a ≠ t → FreshTable mm m a → FreshTable mm m' a

/-- A way that comes down to level 1 already. -/
theorem WayBuilt.refl {c : ℕ} (hR : 1 ≤ R) (htree : PageTree mm m R root) (hbare : Bare mm m R root)
    (hc : Tdp.depth mm m R root c ≤ 1) : WayBuilt mm R root c [] m m := by
  refine ⟨htree, hbare, fun g _ k hk => ⟨Or.inl, ?_⟩, fun t _ h => h⟩
  rintro (h | hagree)
  · exact h
  · have hc' : Tdp.depth mm m R root c ≤ k := by omega
    exact (Radix.descend_level_iff hR hagree).mpr hc'

/-- The link and what comes after it. -/
theorem WayLinked.trans {c l t : ℕ} {own : List ℕ} {m₁ : PtMem}
    (h : WayLinked mm R root c l t m m₁) (h' : WayBuilt mm R root c own m₁ m') :
    WayBuilt mm R root c (t :: own) m m' := by
  refine ⟨h'.tree, h'.bare, fun g hg k hk => ?_, fun a ha hfresh => ?_⟩
  · rw [h'.depth g hg k hk, h.depth g hg k]
    constructor
    · rintro ((hle | ⟨hlk, hagree⟩) | hagree)
      · exact Or.inl hle
      · exact Or.inr (Radix.div_pow_mono hlk hagree)
      · exact Or.inr hagree
    · rintro (hle | hagree)
      · exact Or.inl (Or.inl hle)
      · exact Or.inr hagree
  · rw [List.mem_cons, not_or] at ha
    exact h'.fresh a ha.2 (h.fresh a ha.1 hfresh)

/-! ## One link -/

/-- A removed entry leads nowhere. -/
theorem is_removed_spte_not_present {spte : BitVec 64} (h : is_removed_spte spte = true) :
    is_shadow_present_pte spte = false := by
  have hspte : spte = REMOVED_SPTE := by simpa [is_removed_spte] using h
  rw [hspte]
  decide

/-- Where the way ends that the iterator is on. -/
theorem OnMapWay.ends {gfn l : ℕ} {q : List ℕ} {up : ℕ → ℕ} {it : TdpIter}
    (h : OnMapWay mm m R root gfn l q up it)
    (hnone : (radix mm m).child (l + 1) (up l) (walked_gfn gfn / 512 ^ l % 512) = none) :
    (radix mm m).descend R root (walked_gfn gfn) =
      ⟨up l, walked_gfn gfn / 512 ^ l % 512, l + 1, walked_gfn gfn / 512 ^ l * 512 ^ l⟩ := by
  rw [h.way, Radix.descend, hnone]

theorem OnMapWay.not_removed {fault : KvmPageFault} {l : ℕ} {q : List ℕ} {up : ℕ → ℕ} {it : TdpIter}
    (hR : 3 ≤ R) (hbare : Bare mm m R root) (h : OnMapWay mm m R root fault.gfn l q up it) :
    map_round fault it ≠ .retry := by
  intro hretry
  have hremoved : is_removed_spte it.old_spte = true := by
    by_contra hnot
    unfold map_round at hretry
    rw [if_neg hnot] at hretry
    split at hretry
    · cases hretry
    · split at hretry
      · cases hretry
      · cases hretry
  -- a removed entry is the end of the way, and the entry there is empty
  have hspte := h.at_entry.spte
  have hnone := h.ends (no_child_of_spte (Or.inl (by
    rw [← hspte]
    exact is_removed_spte_not_present hremoved)))
  have hzero := hbare (walked_gfn fault.gfn) (walked_gfn_lt fault.gfn hR)
  rw [hnone] at hzero
  rw [hspte, hzero] at hremoved
  exact absurd hremoved (by decide)

/-- **The link** of an empty table where the way to the gfn ends. -/
theorem OnMapWay.linked {gfn l : ℕ} {q : List ℕ} {up : ℕ → ℕ} {it : TdpIter} {t : ℕ}
    {has_ad_bits has_exec_only : Bool} (hR : 3 ≤ R)
    (hmasks : masks.toSpteMasks = kvm_mmu_set_ept_masks has_ad_bits has_exec_only)
    (htree : PageTree mm m R root) (hbare : Bare mm m R root)
    (h : OnMapWay mm m R root gfn (l + 1) q up it) (hfresh : FreshTable mm m t)
    (hnone : (radix mm m).child (l + 2) (up (l + 1)) (walked_gfn gfn / 512 ^ (l + 1) % 512) = none)
    (hm' : m' = (m.alloc t).write it.sptep (link_spte mm masks t)) :
    WayLinked mm R root (walked_gfn gfn) l t m m' := by
  obtain ⟨R, rfl⟩ : ∃ r, R = r + 1 := ⟨R - 1, by omega⟩
  have hlen := h.length
  have hlevel : R + 1 - q.length = l + 2 := by omega
  have hi512 : walked_gfn gfn / 512 ^ (l + 1) % 512 < 512 := Nat.mod_lt _ (by omega)
  have hend := h.ends hnone
  rw [h.at_entry.sptep] at hm'
  generalize hi : walked_gfn gfn / 512 ^ (l + 1) % 512 = i at hm' hend hnone hi512
  subst hm'
  have hsame := alloc_same hfresh htree
  have hatree := alloc_tree hfresh htree
  have hspte := link_spte_link masks has_ad_bits has_exec_only hmasks hfresh.translates
  have hways : ∀ g, (radix mm (m.alloc t)).descend (R + 1) root g =
      (radix mm m).descend (R + 1) root g := fun g => (Radix.descend_congr (by omega) hsame g).1
  have hentries : ∀ g, (m.alloc t).entry ((radix mm m).descend (R + 1) root g).node
      ((radix mm m).descend (R + 1) root g).idx =
      m.entry ((radix mm m).descend (R + 1) root g).node
        ((radix mm m).descend (R + 1) root g).idx := fun g =>
    (Radix.descend_congr (by omega) hsame g).2
  have hnode : (radix mm (m.alloc t)).nodeAt (R + 1) root q = some (up (l + 1)) := by
    rw [hsame.nodeAt, h.node]
  have hsite : LinkSite mm (m.alloc t) (R + 1) root q (up (l + 1)) i t := by
    refine ⟨hnode, hi512, by omega, ?_, ?_, alloc_entry_self t, fun p hp => ?_⟩
    · have hchild := hsame q (up (l + 1)) h.node i hi512
      rw [hlevel] at hchild ⊢
      rw [hchild.1, hnone]
    · rw [alloc_spt_self hfresh.ne_null]
      rfl
    · rw [hsame.nodeAt] at hp
      exact hfresh.unreached htree p hp
  have hat : Radix.LinkedAt (radix mm (m.alloc t))
      (radix mm ((m.alloc t).write ⟨up (l + 1), i⟩ (link_spte mm masks t))) (spteAt (m.alloc t))
      (spteAt ((m.alloc t).write ⟨up (l + 1), i⟩ (link_spte mm masks t))) (R + 1) root q
      (up (l + 1)) i t (walked_gfn gfn) := by
    refine ⟨link_linked hatree hsite hspte, link_same hatree hsite, hatree.distinct,
      walked_gfn_lt gfn hR, ?_, ?_, ?_⟩
    · rw [hways, hend]
    · rw [hways, hend]
    · rw [hways, hend]
      dsimp only
      omega
  have hL : ((radix mm (m.alloc t)).descend (R + 1) root (walked_gfn gfn)).level = l + 2 := by
    rw [hways, hend]
  have hempty : ∀ j, ((m.alloc t).write ⟨up (l + 1), i⟩ (link_spte mm masks t)).entry t j = 0 := by
    intro j
    rw [write_entry_ne (fun heq => absurd heq hsite.ne), hsite.empty]
  refine ⟨link_tree hatree hsite hspte, fun g hg => ?_, by rw [depth, hend], ?_, fun g hg k => ?_,
    fun a ha hfresh' => ?_⟩
  · by_cases hagree : g / 512 ^ (l + 1) = walked_gfn gfn / 512 ^ (l + 1)
    · have hnew := hat.descend_agree (by omega) (a := g) (by rw [hL]; exact hagree)
      rw [hnew.1]
      exact hempty _
    · have hold := hat.descend_other (by omega) hg (by rw [hL]; exact hagree)
      obtain ⟨hway, hweight⟩ := hold
      unfold spteAt at hweight
      rw [hway, hweight, hways, hentries]
      exact hbare g hg
  · rw [depth, (hat.descend_agree (by omega) rfl).2, hL]
    rfl
  · unfold depth
    rw [hat.level_le_iff (by omega) hg, hL, hways]
    rfl
  · refine ⟨?_, hfresh'.ne_null, hfresh'.translates⟩
    have hau : a ≠ up (l + 1) := by
      rintro rfl
      have hsome := htree.allocated q _ h.node
      rw [hfresh'.unused] at hsome
      cases hsome
    rw [write_spt_ne hau, alloc_spt_ne ha]
    exact hfresh'.unused

/-- The link round of the loop. -/
theorem OnMapWay.link_spec {fault : KvmPageFault} {l : ℕ} {q : List ℕ} {up : ℕ → ℕ}
    {it it' : TdpIter} {b : SpBlocks} {st st' : MapState} {r : ℤ} {has_ad_bits has_exec_only : Bool}
    (hR : 3 ≤ R) (hmasks : masks.toSpteMasks = kvm_mmu_set_ept_masks has_ad_bits has_exec_only)
    (hgoal : fault.goal_level = PG_LEVEL_4K) (htree : PageTree mm st.tdp.m R root)
    (hbare : Bare mm st.tdp.m R root) (h : OnMapWay mm st.tdp.m R root fault.gfn (l + 1) q up it)
    (hround : map_round fault it = .link) (hfresh : FreshTable mm st.tdp.m b.spt)
    (hlink : map_link mm masks sptep_to_sp fault it b st = some (r, it', st')) :
    WayLinked mm R root (walked_gfn fault.gfn) l b.spt st.tdp.m st'.tdp.m := by
  have hi : walked_gfn fault.gfn / 512 ^ (l + 1) % 512 < 512 := Nat.mod_lt _ (by omega)
  have hlevel : it.level = l + 2 := h.at_entry.level
  have hspte := h.at_entry.spte
  have hne : it.level ≠ fault.goal_level := by
    rw [hlevel, hgoal, PG_LEVEL_4K]
    omega
  have hfree : is_shadow_present_pte it.old_spte = false ∨ is_large_pte it.old_spte = true := by
    rcases map_round_above hne with h' | ⟨h', -⟩ | ⟨-, hfree⟩
    · rw [hround] at h'
      cases h'
    · rw [hround] at h'
      cases h'
    · exact hfree
  have hlast : is_last_spte it.old_spte it.level = is_large_pte it.old_spte := by
    rw [hlevel]
    simp [is_last_spte, PG_LEVEL_4K]
  rw [← hlast] at hfree
  have hread : kvm_tdp_mmu_read_spte (st.tdp.m.alloc b.spt) it.sptep = some it.old_spte := by
    have hub : up (l + 1) ≠ b.spt := by
      intro heq
      exact hfresh.unreached htree q (heq ▸ h.node)
    rw [h.at_entry.sptep, read_spte (alloc_isSome _ (htree.allocated q _ h.node)) hi,
      entry_congr (alloc_spt_ne hub), hspte]
  have hnone : (radix mm st.tdp.m).child (l + 2) (up (l + 1))
      (walked_gfn fault.gfn / 512 ^ (l + 1) % 512) = none := by
    refine no_child_of_spte ?_
    rw [← hspte, ← hlevel]
    exact hfree
  obtain ⟨-, -, hm⟩ := map_link_tables hread hfree hlink
  exact h.linked hR hmasks htree hbare hfresh hnone hm

/-! ## One call -/

/-- What a call leaves: the way to its gfn is built from the first pages of the caches, each of which
is counted, and no other header is touched. A call that takes no page changes nothing. -/
structure CallBuilt (mm : Mm) (R root c : ℕ) (blocks : List SpBlocks) (st st' : MapState) : Prop where
  way : WayBuilt mm R root c (blocks.map SpBlocks.spt) st.tdp.m st'.tdp.m
  pages : st'.tdp_mmu_pages = st.tdp_mmu_pages + BitVec.ofNat 64 blocks.length
  headers : ∀ x, x ∉ blocks.map SpBlocks.sp → st'.headers x = st.headers x
  nothing : blocks = [] → st' = st

/-- The count and the headers after a link. -/
theorem map_link_counts {fault : KvmPageFault} {iter iter' : TdpIter} {b : SpBlocks}
    {st st' : MapState} {r : ℤ}
    (h : map_link mm masks sptep_to_sp fault iter b st = some (r, iter', st')) :
    st'.tdp_mmu_pages = st.tdp_mmu_pages + 1 ∧ ∀ x, x ≠ b.sp → st'.headers x = st.headers x := by
  obtain ⟨st₁, halloc, h⟩ := Option.bind_eq_some_iff.mp h
  obtain ⟨child_sp, rfl⟩ := alloc_child_sp_spec halloc
  unfold tdp_mmu_split_huge_page at h
  rw [ite_self] at h
  obtain ⟨⟨iter₁, st₁⟩, hset, h⟩ := Option.bind_eq_some_iff.mp h
  obtain ⟨-, hrest⟩ := Prod.mk.inj (Option.some.inj h)
  obtain ⟨-, rfl⟩ := Prod.mk.inj hrest
  obtain ⟨⟨r₁, st₂⟩, hatomic, heq⟩ := Option.map_eq_some_iff.mp hset
  obtain ⟨-, rfl⟩ := Prod.mk.inj heq
  -- the exchange writes the tables only
  obtain ⟨⟨r', tdp⟩, -, hst⟩ := Option.bind_eq_some_iff.mp hatomic
  obtain ⟨-, rfl⟩ := Prod.mk.inj (Option.some.inj hst)
  refine ⟨rfl, fun x hx => ?_⟩
  exact Function.update_of_ne hx _ _

theorem CallBuilt.refl {c : ℕ} {st : MapState} (hR : 1 ≤ R) (htree : PageTree mm st.tdp.m R root)
    (hbare : Bare mm st.tdp.m R root) (hc : depth mm st.tdp.m R root c ≤ 1) :
    CallBuilt mm R root c [] st st :=
  ⟨.refl hR htree hbare hc, (BitVec.add_zero _).symm, fun _ _ => rfl, fun _ => rfl⟩

theorem CallBuilt.link {c l : ℕ} {b : SpBlocks} {blocks : List SpBlocks} {st st₁ st' : MapState}
    (hlink : WayLinked mm R root c l b.spt st.tdp.m st₁.tdp.m)
    (hcounts : st₁.tdp_mmu_pages = st.tdp_mmu_pages + 1 ∧
      ∀ x, x ≠ b.sp → st₁.headers x = st.headers x)
    (h : CallBuilt mm R root c blocks st₁ st') : CallBuilt mm R root c (b :: blocks) st st' := by
  refine ⟨?_, ?_, fun x hx => ?_, fun hnil => ?_⟩
  · rw [List.map_cons]
    exact hlink.trans h.way
  · rw [h.pages, hcounts.1, List.length_cons, Nat.add_comm blocks.length, BitVec.ofNat_add,
      BitVec.add_assoc]
    rfl
  · rw [List.map_cons, List.mem_cons, not_or] at hx
    rw [h.headers x hx.2, hcounts.2 x hx.1]
  · cases hnil

/-- **The walk of a call** from level `l + 1` on: it takes a page for every level below the one where
the way ended. -/
theorem map_loop_cached_built {has_ad_bits has_exec_only : Bool} {generation : BitVec 64}
    {fault : KvmPageFault} (hR3 : 3 ≤ R) (hR : R ≤ 5)
    (hmasks : masks.toSpteMasks = kvm_mmu_set_ept_masks has_ad_bits has_exec_only)
    (hgfn : fault.gfn < 2 ^ 52) (hgoal : fault.goal_level = PG_LEVEL_4K) (l : ℕ) :
    ∀ (fuel : ℕ) (it : TdpIter) (a a' : SpAlloc) (st st' : MapState) (q : List ℕ) (up : ℕ → ℕ)
      (ret : RetPf), PageTree mm st.tdp.m R root → Bare mm st.tdp.m R root →
      OnMapWay mm st.tdp.m R root fault.gfn l q up it → FreshBlocks mm st.tdp.m a.blocks →
      l ≤ a.blocks.length →
      map_loop_cached mm masks host sptep_to_sp generation fuel fault it a st =
        (some (ret, st'), a') →
      a' = a.took (depth mm st.tdp.m R root (walked_gfn fault.gfn) - 1) ∧
        (ret = RET_PF_FIXED ∨ ret = RET_PF_RETRY) ∧
        CallBuilt mm R root (walked_gfn fault.gfn)
          (a.blocks.take (depth mm st.tdp.m R root (walked_gfn fault.gfn) - 1)) st st' := by
  induction l with
  | zero =>
    intro fuel it a a' st st' q up ret htree hbare hway hfresh hlen h
    cases fuel with
    | zero => cases (Prod.mk.inj h).1
    | succ fuel =>
      have hdepth : depth mm st.tdp.m R root (walked_gfn fault.gfn) = 1 := by
        rw [depth, hway.ends ((radix mm st.tdp.m).child_one _ _)]
      rw [map_loop_cached, hway.in_range hgfn, adjust_disallowed_spec hgoal] at h
      simp only [Bool.not_true, Bool.false_eq_true, if_false] at h
      have hround := (hway.round_last hgoal).resolve_left (hway.not_removed hR3 hbare)
      rw [hround] at h
      obtain ⟨hret, rfl⟩ := Prod.mk.inj h
      obtain ⟨ret', htarget, heq⟩ := Option.map_eq_some_iff.mp hret
      obtain ⟨rfl, rfl⟩ := Prod.mk.inj heq
      rw [hdepth, Nat.sub_self, a.took_zero, List.take_zero]
      refine ⟨rfl, ?_, .refl (by omega) htree hbare (by omega)⟩
      obtain ⟨sp, -, htarget⟩ := Option.bind_eq_some_iff.mp htarget
      split at htarget
      · exact Or.inr (Option.some.inj htarget).symm
      · exact Or.inl (Option.some.inj htarget).symm
  | succ l ih =>
    intro fuel it a a' st st' q up ret htree hbare hway hfresh hlen h
    cases fuel with
    | zero => cases (Prod.mk.inj h).1
    | succ fuel =>
      rw [map_loop_cached, hway.in_range hgfn, adjust_disallowed_spec hgoal] at h
      simp only [Bool.not_true, Bool.false_eq_true, if_false] at h
      rcases @OnMapWay.round mm R root masks sptep_to_sp has_ad_bits has_exec_only fault l q up it st
        hR hmasks hgfn hgoal htree hway with hround | ⟨hround, it', q', up', hnext, hway'⟩ |
        ⟨hround, hlinks⟩
      · exact absurd hround (hway.not_removed hR3 hbare)
      · -- the table is there
        rw [hround] at h
        simp only [hnext] at h
        exact ih fuel it' a a' st st' q' up' ret htree hbare hway' hfresh (by omega) h
      · -- the way ends here, and one page is taken
        rw [hround] at h
        rcases hblocks : a.blocks with _ | ⟨b, blocks⟩
        · rw [hblocks] at hlen
          cases hlen
        obtain ⟨halloc, hrest⟩ := tdp_mmu_alloc_sp_spec hblocks
        rw [hblocks] at hfresh hlen
        rw [List.length_cons] at hlen
        dsimp only at h
        rw [halloc] at h
        rcases hlink : map_link mm masks sptep_to_sp fault it b st with _ | ⟨r, it₁, st₁⟩
        · rw [hlink] at h
          cases (Prod.mk.inj h).1
        obtain ⟨rfl, rfl, hnew⟩ := hlinks b blocks hfresh r it₁ st₁ hlink
        obtain ⟨it', q', up', hnext, hway'⟩ := hnew.down
        rw [hlink] at h
        simp only [ne_eq, not_true, if_false, hnext] at h
        have hone := hway.link_spec hR3 hmasks hgoal htree hbare hround
          (hfresh.fresh b List.mem_cons_self) hlink
        obtain ⟨htook, hret, hbuilt⟩ := ih fuel it' (a.took 1) a' st₁ st' q' up' ret hnew.tree
          hone.bare hway' (by rw [hrest]; exact hnew.fresh) (by rw [hrest]; omega) h
        rw [hone.after, Nat.add_sub_cancel, hrest] at hbuilt
        rw [hone.after, Nat.add_sub_cancel, a.took_took] at htook
        have hn : l + 2 - 1 = 1 + l := by omega
        rw [hone.before, hn, Nat.add_comm 1 l, List.take_succ_cons, Nat.add_comm l 1]
        exact ⟨htook, hret, .link hone (map_link_counts hlink) hbuilt⟩

/-- **One call of `kvm_tdp_mmu_map`** on a bare tree, with full caches. -/
theorem kvm_tdp_mmu_map_built {has_ad_bits has_exec_only : Bool} {generation : BitVec 64}
    {max_huge_page_level fuel : ℕ} {root_hpa : BitVec 64} {iter : TdpIter} {fault : KvmPageFault}
    {st st' : MapState} {root : KvmMmuPage} {a a' : SpAlloc} {ret : RetPf}
    (hmasks : masks.toSpteMasks = kvm_mmu_set_ept_masks has_ad_bits has_exec_only)
    (hhuge : 1 ≤ max_huge_page_level) (hgoal : fault.goal_level = PG_LEVEL_4K)
    (hmax : 1 ≤ fault.max_level) (hgfn : fault.gfn < 2 ^ 52)
    (hroot : st.headers (to_shadow_page mm root_hpa) = some root)
    (hlevel : root.role.level = 4 ∨ root.role.level = 5)
    (htree : PageTree mm st.tdp.m root.role.level root.spt)
    (hbare : Bare mm st.tdp.m root.role.level root.spt)
    (hblocks : FreshBlocks mm st.tdp.m a.blocks) (henough : PT64_ROOT_MAX_LEVEL ≤ a.blocks.length)
    (h : kvm_tdp_mmu_map_cached mm masks host sptep_to_sp generation max_huge_page_level fuel
      root_hpa iter fault st a = (some (ret, st'), a')) :
    a' = a.took (depth mm st.tdp.m root.role.level root.spt (walked_gfn fault.gfn) - 1) ∧
      (ret = RET_PF_FIXED ∨ ret = RET_PF_RETRY) ∧
      CallBuilt mm root.role.level root.spt (walked_gfn fault.gfn)
        (a.blocks.take (depth mm st.tdp.m root.role.level root.spt (walked_gfn fault.gfn) - 1))
        st st' := by
  have h5 : PT64_ROOT_MAX_LEVEL = 5 := rfl
  unfold kvm_tdp_mmu_map_cached at h
  rcases hadjust : kvm_mmu_hugepage_adjust max_huge_page_level fault with _ | fault'
  · rw [hadjust] at h
    cases (Prod.mk.inj h).1
  rw [hadjust] at h
  dsimp only at h
  rw [hroot] at h
  dsimp only at h
  obtain ⟨hgfn', hgoal'⟩ := kvm_mmu_hugepage_adjust_spec hhuge hmax hadjust
  rcases hstart : tdp_iter_start winHpage st.tdp.m iter root PG_LEVEL_4K fault'.gfn with _ | it
  · rw [hstart] at h
    cases (Prod.mk.inj h).1
  rw [hstart] at h
  dsimp only at h
  obtain ⟨l, hl⟩ : ∃ l, root.role.level = l + 1 := ⟨root.role.level - 1, by omega⟩
  have hgfn'' : fault'.gfn < 2 ^ 52 := by
    rw [hgfn']
    exact hgfn
  have hway := OnMapWay.start hl (by omega) hgfn'' htree hstart
  have hbuilt := map_loop_cached_built (by omega) (by omega) hmasks hgfn'' (hgoal'.trans hgoal) l fuel
    it a a' st st' [] _ ret htree hbare hway hblocks (by omega) h
  rw [hgfn'] at hbuilt
  exact hbuilt

end Svmx.Tdp
