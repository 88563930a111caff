/-
What the tables and `kvm->arch.tdp_mmu_pages` are after several vCPUs have mapped at once.

`tdp_mmu_set_spte_atomic` drops the value that its compare-exchange found, so a vCPU that comes too
late counts its table as if it had been linked, gets `0`, and never frees it. While every
compare-exchange finds what was read, the tree only grows: each table that is counted is linked and
stays linked (`RaceInv`). `link_race_iff` says that these are the only runs whose outcome is right.
-/
import Svmx.MapRace
import Svmx.TdpFixed

set_option autoImplicit false

namespace Svmx.Tdp

open RetPf

variable {mm : Mm} {m m' : PtMem} {R rt : ℕ}

/-! ## Growing trees -/

/-- A table of the tree. -/
def InTree (mm : Mm) (m : PtMem) (R rt t : ℕ) : Prop := ∃ p, (radix mm m).nodeAt R rt p = some t

/-- A page that is set up as a table and not linked yet. -/
structure BlankTable (mm : Mm) (m : PtMem) (R rt t : ℕ) : Prop where
  alloc : (m.spt t).isSome
  empty : ∀ j, m.entry t j = 0
  unreached : ¬ InTree mm m R rt t
  translates : Translates mm t

/-- What a vCPU that owns the pages `own` does to the tables of the others: no path and no entry that
leads on is lost, and pages that are not in the tree are left alone. -/
structure TreeGrows (mm : Mm) (R rt : ℕ) (own : List ℕ) (m m' : PtMem) : Prop where
  node : ∀ p t, (radix mm m).nodeAt R rt p = some t → (radix mm m').nodeAt R rt p = some t
  entry : ∀ p u i c, (radix mm m).nodeAt R rt p = some u → i < 512 →
    (radix mm m).child (R - p.length) u i = some c → m'.entry u i = m.entry u i
  fresh : ∀ t, t ∉ own → FreshTable mm m t → FreshTable mm m' t
  blank : ∀ t, t ∉ own → BlankTable mm m R rt t → BlankTable mm m' R rt t

theorem TreeGrows.refl (own : List ℕ) : TreeGrows mm R rt own m m :=
  ⟨fun _ _ h => h, fun _ _ _ _ _ _ _ => rfl, fun _ _ h => h, fun _ _ h => h⟩

theorem TreeGrows.inTree {own : List ℕ} (h : TreeGrows mm R rt own m m') {t : ℕ}
    (ht : InTree mm m R rt t) : InTree mm m' R rt t := by
  obtain ⟨p, hp⟩ := ht
  exact ⟨p, h.node p t hp⟩

/-- An entry that leads on leads to the same table afterwards. -/
theorem TreeGrows.child {own : List ℕ} (h : TreeGrows mm R rt own m m') {p : List ℕ} {u i c : ℕ}
    (hp : (radix mm m).nodeAt R rt p = some u) (hi : i < 512)
    (hc : (radix mm m).child (R - p.length) u i = some c) :
    (radix mm m').child (R - p.length) u i = some c := by
  have hentry := h.entry p u i c hp hi hc
  rw [← hc]
  unfold radix
  simp only [hentry]

/-- A new page is set up as a table. -/
theorem alloc_grows {t : ℕ} (h : FreshTable mm m t) (htree : PageTree mm m R rt) :
    TreeGrows mm R rt [t] m (m.alloc t) := by
  have hpath := (alloc_same h htree).nodeAt
  have hentry : ∀ {a : ℕ}, a ≠ t → ∀ i, (m.alloc t).entry a i = m.entry a i := by
    intro a ha i
    exact entry_congr (alloc_spt_ne ha) i
  refine ⟨fun p a hp => ?_, fun p u i c hp _ _ => ?_, fun a ha hfresh => ?_, fun a ha hblank => ?_⟩
  · rw [hpath]
    exact hp
  · apply hentry
    rintro rfl
    exact h.unreached htree p hp
  · rw [List.mem_singleton] at ha
    refine ⟨?_, hfresh.ne_null, hfresh.translates⟩
    rw [alloc_spt_ne ha]
    exact hfresh.unused
  · rw [List.mem_singleton] at ha
    refine ⟨alloc_isSome t hblank.alloc, fun j => ?_, ?_, hblank.translates⟩
    · rw [hentry ha, hblank.empty]
    · rintro ⟨p, hp⟩
      rw [hpath] at hp
      exact hblank.unreached ⟨p, hp⟩

/-- The page that was set up. -/
theorem alloc_blank {t : ℕ} (h : FreshTable mm m t) (htree : PageTree mm m R rt) :
    BlankTable mm (m.alloc t) R rt t := by
  refine ⟨?_, alloc_entry_self t, ?_, h.translates⟩
  · rw [alloc_spt_self h.ne_null]
    rfl
  · rintro ⟨p, hp⟩
    rw [(alloc_same h htree).nodeAt] at hp
    exact h.unreached htree p hp

/-- A table is linked. -/
theorem link_grows {q : List ℕ} {u i t : ℕ} {spte : BitVec 64} (htree : PageTree mm m R rt)
    (h : LinkSite mm m R rt q u i t) (hspte : LinkSpte mm t spte) :
    TreeGrows mm R rt [t] m (m.write ⟨u, i⟩ spte) := by
  have hlinked := link_linked htree h hspte
  refine ⟨fun p a hp => ?_, fun p v j c hp hj hc => ?_, fun a ha hfresh => ?_, fun a ha hblank => ?_⟩
  · exact (hlinked.nodeAt_iff p a).mpr (Or.inl hp)
  · apply link_entry htree h hp
    -- the entry that is written led nowhere
    rintro rfl rfl
    rw [h.node] at hp
    obtain rfl := Option.some.inj hp
    rw [h.free] at hc
    cases hc
  · refine ⟨?_, hfresh.ne_null, hfresh.translates⟩
    have hau : a ≠ u := by
      rintro rfl
      have hsome := htree.allocated q a h.node
      rw [hfresh.unused] at hsome
      cases hsome
    rw [write_spt_ne hau]
    exact hfresh.unused
  · rw [List.mem_singleton] at ha
    have hau : a ≠ u := by
      rintro rfl
      exact hblank.unreached ⟨q, h.node⟩
    refine ⟨?_, fun j => ?_, ?_, hblank.translates⟩
    · rw [write_spt_ne hau]
      exact hblank.alloc
    · rw [write_entry_ne (fun heq => absurd heq hau), hblank.empty]
    · rintro ⟨p, hp⟩
      rcases (hlinked.nodeAt_iff p a).mp hp with hp | ⟨-, heq⟩
      · exact hblank.unreached ⟨p, hp⟩
      · exact ha heq

theorem TreeGrows.mono {own own' : List ℕ} (h : TreeGrows mm R rt own m m')
    (hsub : ∀ t ∈ own, t ∈ own') : TreeGrows mm R rt own' m m' :=
  ⟨h.node, h.entry, fun t ht => h.fresh t fun hmem => ht (hsub t hmem),
    fun t ht => h.blank t fun hmem => ht (hsub t hmem)⟩

/-! ## Where an iterator stands -/

/-- The iterator is at entry `i` of the table `u`, at the end of the path `q`. -/
structure AtEntry (mm : Mm) (m : PtMem) (R rt : ℕ) (it : TdpIter) (q : List ℕ) (u i : ℕ) : Prop where
  node : (radix mm m).nodeAt R rt q = some u
  length : q.length + it.level = R
  idx : i < 512
  sptep : it.sptep = ⟨u, i⟩
  level : 1 ≤ it.level
  min : it.min_level = PG_LEVEL_4K
  yielded : it.yielded = false

theorem AtEntry.level_eq {it : TdpIter} {q : List ℕ} {u i : ℕ} (h : AtEntry mm m R rt it q u i) :
    R - q.length = it.level := by
  have := h.length
  omega

theorem AtEntry.grows {it : TdpIter} {q : List ℕ} {u i : ℕ} {own : List ℕ}
    (h : AtEntry mm m R rt it q u i) (hgrows : TreeGrows mm R rt own m m') :
    AtEntry mm m' R rt it q u i :=
  ⟨hgrows.node q u h.node, h.length, h.idx, h.sptep, h.level, h.min, h.yielded⟩

/-- What is read at the entry. -/
theorem AtEntry.read {it : TdpIter} {q : List ℕ} {u i : ℕ} (h : AtEntry mm m R rt it q u i)
    (htree : PageTree mm m R rt) : kvm_tdp_mmu_read_spte m it.sptep = some (m.entry u i) := by
  rw [h.sptep, read_spte (htree.allocated q u h.node) h.idx]

/-- The entry of the iterator leads to the table `c`. -/
def LeadsTo (mm : Mm) (m : PtMem) (R rt : ℕ) (it : TdpIter) (c : ℕ) : Prop :=
  ∃ q u i, AtEntry mm m R rt it q u i ∧ (radix mm m).child it.level u i = some c

theorem LeadsTo.grows {it : TdpIter} {c : ℕ} {own : List ℕ} (h : LeadsTo mm m R rt it c)
    (hgrows : TreeGrows mm R rt own m m') : LeadsTo mm m' R rt it c := by
  obtain ⟨q, u, i, hat, hc⟩ := h
  refine ⟨q, u, i, hat.grows hgrows, ?_⟩
  rw [← hat.level_eq] at hc ⊢
  exact hgrows.child hat.node hat.idx hc

theorem LeadsTo.inTree {it : TdpIter} {c : ℕ} (h : LeadsTo mm m R rt it c) :
    InTree mm m R rt c := by
  obtain ⟨q, u, i, hat, hc⟩ := h
  refine ⟨q ++ [i], Radix.nodeAt_snoc_of_child hat.node hat.idx ?_⟩
  rw [hat.level_eq]
  exact hc

/-- An entry of level 1 leads nowhere. -/
theorem LeadsTo.level {it : TdpIter} {c : ℕ} (h : LeadsTo mm m R rt it c) : 2 ≤ it.level := by
  obtain ⟨q, u, i, hat, hc⟩ := h
  by_contra hlt
  have hone : it.level = 1 := by
    have := hat.level
    omega
  rw [hone, Radix.child_one] at hc
  cases hc

/-- What the walk has read at an entry that led on then is what it holds. -/
def Seen (mm : Mm) (m : PtMem) (R rt : ℕ) (it : TdpIter) : Prop :=
  ∃ q u i, AtEntry mm m R rt it q u i ∧
    (is_shadow_present_pte it.old_spte = true → is_last_spte it.old_spte it.level = false →
      m.entry u i = it.old_spte)

theorem Seen.grows {it : TdpIter} {own : List ℕ} (h : Seen mm m R rt it)
    (hgrows : TreeGrows mm R rt own m m') : Seen mm m' R rt it := by
  obtain ⟨q, u, i, hat, hseen⟩ := h
  refine ⟨q, u, i, hat.grows hgrows, fun hp hl => ?_⟩
  have heq := hseen hp hl
  rw [← heq] at hp hl ⊢
  rw [← hat.level_eq] at hl
  exact hgrows.entry q u i _ hat.node hat.idx (child_of_spte hp hl)

theorem Seen.level {it : TdpIter} (h : Seen mm m R rt it) : 1 ≤ it.level := by
  obtain ⟨q, u, i, hat, -⟩ := h
  exact hat.level

theorem Seen.leads {it : TdpIter} (h : Seen mm m R rt it)
    (hp : is_shadow_present_pte it.old_spte = true)
    (hl : is_last_spte it.old_spte it.level = false) : ∃ c, LeadsTo mm m R rt it c := by
  obtain ⟨q, u, i, hat, hseen⟩ := h
  have heq := hseen hp hl
  rw [← heq] at hp hl
  exact ⟨_, q, u, i, hat, child_of_spte hp hl⟩

/-! ## What a vCPU relies on -/

/-- The fault maps at the lowest level, and the pages in the caches are new. -/
structure WalkInv (env : MapEnv) (m : PtMem) (w : MapWalk) : Prop where
  goal : w.fault.goal_level = PG_LEVEL_4K
  fresh : FreshBlocks env.mm m w.blocks
  header : ∀ b ∈ w.blocks, b.sp ≠ to_shadow_page env.mm env.root_hpa

/-- What holds of a vCPU at each place of the call. -/
def PcInv (env : MapEnv) (R rt : ℕ) (m : PtMem) : MapPc → Prop
  | .start w => WalkInv env m w ∧ 1 ≤ w.fault.max_level
  | .check w => WalkInv env m w ∧ Seen env.mm m R rt w.iter
  | .link w b => WalkInv env m w ∧ (∃ q u i, AtEntry env.mm m R rt w.iter q u i) ∧
      2 ≤ w.iter.level ∧ (is_shadow_present_pte w.iter.old_spte = false ∨
        is_last_spte w.iter.old_spte w.iter.level = true) ∧ BlankTable env.mm m R rt b.spt
  | .change w b => WalkInv env m w ∧ LeadsTo env.mm m R rt w.iter b.spt ∧
      (is_shadow_present_pte w.iter.old_spte = false ∨
        is_last_spte w.iter.old_spte w.iter.level = true)
  | .account w b => WalkInv env m w ∧ LeadsTo env.mm m R rt w.iter b.spt
  | .linked w b r => WalkInv env m w ∧ LeadsTo env.mm m R rt w.iter b.spt ∧ r = 0
  | .next w => WalkInv env m w ∧ ∃ c, LeadsTo env.mm m R rt w.iter c
  | .enter w => WalkInv env m w ∧ Seen env.mm m R rt w.iter ∧
      is_shadow_present_pte w.iter.old_spte = true ∧
      is_last_spte w.iter.old_spte w.iter.level = false
  | .side _ => False
  | .up _ => False
  | .finished _ => True

/-- The page tables that a vCPU has and has not linked. -/
def MapPc.pages : MapPc → List ℕ
  | .start w | .check w | .change w _ | .account w _ | .linked w _ _ | .next w | .enter w
  | .side w | .up w => w.blocks.map SpBlocks.spt
  | .link w b => b.spt :: w.blocks.map SpBlocks.spt
  | .finished _ => []

theorem FreshBlocks.grows {own : List ℕ} {blocks : List SpBlocks} (h : FreshBlocks mm m blocks)
    (hgrows : TreeGrows mm R rt own m m') (hown : ∀ t ∈ blocks.map SpBlocks.spt, t ∉ own) :
    FreshBlocks mm m' blocks :=
  ⟨fun b hb => hgrows.fresh b.spt (hown _ (List.mem_map_of_mem hb)) (h.fresh b hb), h.nodup⟩

theorem WalkInv.grows {env : MapEnv} {w : MapWalk} {own : List ℕ} (h : WalkInv env m w)
    (hgrows : TreeGrows env.mm R rt own m m') (hown : ∀ t ∈ w.blocks.map SpBlocks.spt, t ∉ own) :
    WalkInv env m' w :=
  ⟨h.goal, h.fresh.grows hgrows hown, h.header⟩

/-- **Interference.** A step of another vCPU keeps what a vCPU relies on. -/
theorem PcInv.grows {env : MapEnv} {pc : MapPc} {own : List ℕ} (h : PcInv env R rt m pc)
    (hgrows : TreeGrows env.mm R rt own m m') (hown : ∀ t ∈ pc.pages, t ∉ own) :
    PcInv env R rt m' pc := by
  cases pc with
  | start w => exact ⟨h.1.grows hgrows hown, h.2⟩
  | check w => exact ⟨h.1.grows hgrows hown, h.2.grows hgrows⟩
  | link w b =>
    obtain ⟨hw, ⟨q, u, i, hat⟩, hlevel, hold, hblank⟩ := h
    have hrest : ∀ t ∈ w.blocks.map SpBlocks.spt, t ∉ own := by
      intro t ht
      exact hown t (List.mem_cons_of_mem _ ht)
    exact ⟨hw.grows hgrows hrest, ⟨q, u, i, hat.grows hgrows⟩, hlevel, hold,
      hgrows.blank _ (hown _ List.mem_cons_self) hblank⟩
  | change w b => exact ⟨h.1.grows hgrows hown, h.2.1.grows hgrows, h.2.2⟩
  | account w b => exact ⟨h.1.grows hgrows hown, h.2.grows hgrows⟩
  | linked w b r => exact ⟨h.1.grows hgrows hown, h.2.1.grows hgrows, h.2.2⟩
  | next w =>
    obtain ⟨hw, c, hc⟩ := h
    exact ⟨hw.grows hgrows hown, c, hc.grows hgrows⟩
  | enter w => exact ⟨h.1.grows hgrows hown, h.2.1.grows hgrows, h.2.2⟩
  | side w => exact h
  | up w => exact h
  | finished ret => trivial

/-! ## One step -/

/-- What one step keeps, and what it records: only tables that are in the tree. -/
structure StepKeeps (env : MapEnv) (R rt : ℕ) (pc pc' : MapPc) (sh sh' : RaceShared) : Prop where
  tree : PageTree env.mm sh'.m R rt
  header : sh'.st.headers (to_shadow_page env.mm env.root_hpa) =
    sh.st.headers (to_shadow_page env.mm env.root_hpa)
  grows : TreeGrows env.mm R rt pc.pages sh.m sh'.m
  inv : PcInv env R rt sh'.m pc'
  pages : ∀ t ∈ pc'.pages, t ∈ pc.pages
  installed : ∀ t ∈ sh'.installed, t ∈ sh.installed ∨ InTree env.mm sh'.m R rt t
  counted : ∀ t ∈ sh'.counted, t ∈ sh.counted ∨ InTree env.mm sh'.m R rt t
  lost : sh'.lost = sh.lost

/-- A step that changes nothing of what is shared. -/
theorem StepKeeps.own {env : MapEnv} {pc pc' : MapPc} {sh : RaceShared}
    (htree : PageTree env.mm sh.m R rt) (hpc : PcInv env R rt sh.m pc')
    (hpages : ∀ t ∈ pc'.pages, t ∈ pc.pages) : StepKeeps env R rt pc pc' sh sh :=
  ⟨htree, rfl, TreeGrows.refl _, hpc, hpages, fun _ h => Or.inl h, fun _ h => Or.inl h, rfl⟩

/-- An entry that leads on is a present one and no leaf. -/
theorem spte_of_child {level t i c : ℕ} (h : (radix mm m).child level t i = some c) :
    is_shadow_present_pte (m.entry t i) = true ∧ is_last_spte (m.entry t i) level = false := by
  unfold radix at h
  dsimp only at h
  split at h
  · next hboth => simpa using hboth
  · cases h

/-- `tdp_iter_refresh_sptep` in a table of the tree. -/
theorem refresh_seen {iter it : TdpIter} {q : List ℕ}
    (h : tdp_iter_refresh_sptep m iter = some it)
    (hnode : (radix mm m).nodeAt R rt q = some (iter.pt_path (iter.level - 1)))
    (hlen : q.length + iter.level = R) (hlevel : 1 ≤ iter.level)
    (hmin : iter.min_level = PG_LEVEL_4K) (hy : iter.yielded = false) : Seen mm m R rt it := by
  obtain ⟨old_spte, hread, h⟩ := Option.bind_eq_some_iff.mp h
  obtain rfl := Option.some.inj h
  have hidx : SPTE_INDEX (gfn_to_gpa iter.gfn) iter.level < 512 := Nat.mod_lt _ (by omega)
  refine ⟨q, _, _, ⟨hnode, hlen, hidx, rfl, hlevel, hmin, hy⟩, fun _ _ => ?_⟩
  unfold PtMem.entry
  rw [hread]
  rfl

/-- The walk begins at the root table. -/
theorem tdp_iter_start_seen {root : KvmMmuPage} {iter it : TdpIter} {gfn : ℕ}
    (hlevel : 1 ≤ root.role.level) (h : tdp_iter_start winHpage m iter root PG_LEVEL_4K gfn = some it) :
    Seen mm m root.role.level root.spt it := by
  obtain ⟨it₀, hrefresh, h⟩ := Option.bind_eq_some_iff.mp h
  have hseen : Seen mm m root.role.level root.spt it₀ := by
    refine refresh_seen (q := []) hrefresh ?_ ?_ hlevel rfl rfl
    · dsimp only
      rw [Function.update_self]
      rfl
    · rw [List.length_nil, Nat.zero_add]
  obtain rfl := Option.some.inj h
  obtain ⟨q, u, i, hat, hold⟩ := hseen
  exact ⟨q, u, i, ⟨hat.node, hat.length, hat.idx, hat.sptep, hat.level, hat.min, hat.yielded⟩, hold⟩

/-- The step into the table that an entry leads to. -/
theorem step_into_child_seen {iter : TdpIter} {r : Bool × TdpIter} {c : ℕ}
    (htree : PageTree mm m R rt) (hleads : LeadsTo mm m R rt iter c)
    (h : step_into_child winHpage m iter c = some r) : r.1 = true ∧ Seen mm m R rt r.2 := by
  have hlevel := hleads.level
  obtain ⟨q, u, i, hat, hc⟩ := hleads
  have hlen := hat.length
  have hnode : (radix mm m).nodeAt R rt (q ++ [i]) = some c := by
    apply Radix.nodeAt_snoc_of_child hat.node hat.idx
    rw [hat.level_eq]
    exact hc
  have hne : c ≠ 0 := by
    rintro rfl
    have hsome := htree.allocated _ 0 hnode
    rw [m.spt_null] at hsome
    cases hsome
  unfold step_into_child at h
  rw [if_neg hne] at h
  obtain ⟨it, hrefresh, h⟩ := Option.bind_eq_some_iff.mp h
  obtain rfl := Option.some.inj h
  refine ⟨rfl, ?_⟩
  have hpath : (radix mm m).nodeAt R rt (q ++ [i]) =
      some (Function.update iter.pt_path (iter.level - 1 - 1) c (iter.level - 1 - 1)) := by
    rw [Function.update_self]
    exact hnode
  have hlen' : (q ++ [i]).length + (iter.level - 1) = R := by
    rw [List.length_append, List.length_singleton]
    omega
  have hlevel' : 1 ≤ iter.level - 1 := by omega
  exact refresh_seen hrefresh hpath hlen' hlevel' hat.min hat.yielded

/-- What the checks say for a fault that maps at the lowest level. -/
theorem map_round_low {fault : KvmPageFault} {it : TdpIter} (hgoal : fault.goal_level = PG_LEVEL_4K)
    (hlevel : 1 ≤ it.level) :
    (map_round fault it = .step_down → is_shadow_present_pte it.old_spte = true ∧
      is_last_spte it.old_spte it.level = false) ∧
    (map_round fault it = .link → 2 ≤ it.level ∧ (is_shadow_present_pte it.old_spte = false ∨
      is_last_spte it.old_spte it.level = true)) := by
  by_cases hlow : it.level = fault.goal_level
  · unfold map_round
    rw [if_pos hlow]
    split <;> simp
  · have htwo : 2 ≤ it.level := by
      rw [hgoal, PG_LEVEL_4K] at hlow
      omega
    have hlast : is_last_spte it.old_spte it.level = is_large_pte it.old_spte := by
      have hne : it.level ≠ PG_LEVEL_4K := by
        rw [PG_LEVEL_4K]
        omega
      simp [is_last_spte, hne]
    rw [hlast]
    rcases map_round_above hlow with hround | ⟨hround, hp, hl⟩ | ⟨hround, hold⟩
    · simp [hround]
    · simp [hround, hp, hl]
    · simp [hround, hold, htwo]

/-- What `check_step` can do: end the call, go on, or set up a new table. -/
theorem check_step_cases {env : MapEnv} {w : MapWalk} {sh sh' : RaceShared} {pc' : MapPc}
    (h : check_step env w sh = some (pc', sh')) :
    (∃ ret, pc' = .finished ret ∧ sh' = sh) ∨
    ∃ fault, adjust_disallowed env.mm w.fault w.iter sh.st = some fault ∧
      ((map_round fault w.iter = .step_down ∧ pc' = .next { w with fault := fault } ∧ sh' = sh) ∨
        ∃ b blocks child_sp, map_round fault w.iter = .link ∧ w.blocks = b :: blocks ∧
          pc' = .link ⟨fault, w.iter, blocks⟩ b ∧ sh' = { sh with st := { sh.st with
            tdp := { sh.st.tdp with m := sh.m.alloc b.spt }
            headers := Function.update sh.st.headers b.sp (some child_sp) } }) := by
  unfold check_step at h
  split at h
  · obtain ⟨rfl, rfl⟩ := Prod.mk.inj (Option.some.inj h)
    exact Or.inl ⟨_, rfl, rfl⟩
  · obtain ⟨fault, hadjust, h⟩ := Option.bind_eq_some_iff.mp h
    cases hround : map_round fault w.iter with
    | retry =>
      simp only [hround] at h
      obtain ⟨rfl, rfl⟩ := Prod.mk.inj (Option.some.inj h)
      exact Or.inl ⟨_, rfl, rfl⟩
    | map_target_level =>
      simp only [hround] at h
      obtain ⟨ret, -, h⟩ := Option.bind_eq_some_iff.mp h
      obtain ⟨rfl, rfl⟩ := Prod.mk.inj (Option.some.inj h)
      exact Or.inl ⟨_, rfl, rfl⟩
    | step_down =>
      simp only [hround] at h
      obtain ⟨rfl, rfl⟩ := Prod.mk.inj (Option.some.inj h)
      exact Or.inr ⟨fault, hadjust, Or.inl ⟨hround, rfl, rfl⟩⟩
    | link =>
      simp only [hround] at h
      cases hblocks : w.blocks with
      | nil =>
        rw [hblocks] at h
        cases h
      | cons b blocks =>
        rw [hblocks] at h
        obtain ⟨st, halloc, h⟩ := Option.bind_eq_some_iff.mp h
        obtain ⟨child_sp, rfl⟩ := alloc_child_sp_spec halloc
        obtain ⟨rfl, rfl⟩ := Prod.mk.inj (Option.some.inj h)
        exact Or.inr ⟨fault, hadjust, Or.inr ⟨b, blocks, child_sp, hround, rfl, rfl, rfl⟩⟩

section Steps

variable {env : MapEnv} {w : MapWalk} {sh sh' : RaceShared} {pc' : MapPc}

theorem start_step_keeps {root : KvmMmuPage} (hhuge : 1 ≤ env.max_huge_page_level)
    (hlevel : 1 ≤ root.role.level)
    (hroot : sh.st.headers (to_shadow_page env.mm env.root_hpa) = some root)
    (htree : PageTree env.mm sh.m root.role.level root.spt)
    (hpc : PcInv env root.role.level root.spt sh.m (.start w))
    (h : start_step env w sh = some (pc', sh')) :
    StepKeeps env root.role.level root.spt (.start w) pc' sh sh' := by
  obtain ⟨fault, hadjust, h⟩ := Option.bind_eq_some_iff.mp h
  rw [hroot, Option.bind_eq_bind, Option.bind_some] at h
  obtain ⟨iter, hiter, h⟩ := Option.bind_eq_some_iff.mp h
  obtain ⟨rfl, rfl⟩ := Prod.mk.inj (Option.some.inj h)
  obtain ⟨hw, hmax⟩ := hpc
  obtain ⟨-, hgoal⟩ := kvm_mmu_hugepage_adjust_spec hhuge hmax hadjust
  refine StepKeeps.own htree ?_ (fun t ht => ht)
  exact ⟨⟨hgoal.trans hw.goal, hw.fresh, hw.header⟩, tdp_iter_start_seen hlevel hiter⟩

theorem check_step_keeps (htree : PageTree env.mm sh.m R rt) (hpc : PcInv env R rt sh.m (.check w))
    (h : check_step env w sh = some (pc', sh')) :
    StepKeeps env R rt (.check w) pc' sh sh' := by
  obtain ⟨hw, hseen⟩ := hpc
  obtain ⟨hdown, hlink⟩ := map_round_low hw.goal hseen.level
  rcases check_step_cases h with ⟨ret, rfl, rfl⟩ | ⟨fault, hadjust, hrest⟩
  · exact StepKeeps.own htree trivial (fun t ht => absurd ht List.not_mem_nil)
  · rw [adjust_disallowed_spec hw.goal] at hadjust
    obtain rfl := Option.some.inj hadjust
    rcases hrest with ⟨hround, rfl, rfl⟩ | ⟨b, blocks, child_sp, hround, hblocks, rfl, hsh⟩
    · -- the entry leads to a table, and no entry is written
      obtain ⟨hp, hl⟩ := hdown hround
      exact StepKeeps.own htree ⟨hw, hseen.leads hp hl⟩ (fun t ht => ht)
    · -- the new table is of this vCPU alone until the compare-exchange
      obtain ⟨htwo, hold⟩ := hlink hround
      have hm : sh'.m = sh.m.alloc b.spt := by
        rw [hsh]
        rfl
      have hfresh := hw.fresh
      rw [hblocks] at hfresh
      have hb := hfresh.fresh b List.mem_cons_self
      have hgrows := alloc_grows hb htree
      have hpages : (MapPc.check w).pages = b.spt :: blocks.map SpBlocks.spt := by
        simp [MapPc.pages, hblocks]
      obtain ⟨hnot, hnodup⟩ := List.nodup_cons.mp (List.map_cons ▸ hfresh.nodup)
      have hrest : FreshBlocks env.mm sh.m blocks :=
        ⟨fun b' hb' => hfresh.fresh b' (List.mem_cons_of_mem b hb'), hnodup⟩
      obtain ⟨q, u, i, hat, -⟩ := hseen
      refine ⟨?_, ?_, ?_, ?_, ?_, fun t ht => ?_, fun t ht => ?_, ?_⟩
      · rw [hm]
        exact alloc_tree hb htree
      · rw [hsh]
        exact Function.update_of_ne (hw.header b (by simp [hblocks])).symm _ _
      · rw [hm, hpages]
        exact hgrows.mono fun t ht => by simp [List.mem_singleton.mp ht]
      · rw [hm]
        refine ⟨⟨hw.goal, hrest.grows hgrows ?_, ?_⟩, ⟨q, u, i, hat.grows hgrows⟩, htwo, hold,
          alloc_blank hb htree⟩
        · intro t ht hmem
          rw [List.mem_singleton.mp hmem] at ht
          exact hnot ht
        · intro b' hb'
          exact hw.header b' (by rw [hblocks]; exact List.mem_cons_of_mem b hb')
      · rw [hpages]
        exact fun t ht => ht
      · rw [hsh] at ht
        exact Or.inl ht
      · rw [hsh] at ht
        exact Or.inl ht
      · rw [hsh]

theorem link_step_keeps {b : SpBlocks} {has_ad_bits has_exec_only : Bool}
    (hmasks : env.masks.toSpteMasks = kvm_mmu_set_ept_masks has_ad_bits has_exec_only)
    (htree : PageTree env.mm sh.m R rt) (hpc : PcInv env R rt sh.m (.link w b))
    (hread : kvm_tdp_mmu_read_spte sh.m w.iter.sptep = some w.iter.old_spte)
    (h : link_step env w b sh = some (pc', sh')) :
    StepKeeps env R rt (.link w b) pc' sh sh' := by
  obtain ⟨hw, ⟨q, u, i, hat⟩, htwo, hold, hblank⟩ := hpc
  have hentry : sh.m.entry u i = w.iter.old_spte := by
    rw [hat.read htree] at hread
    exact Option.some.inj hread
  have hlen := hat.length
  have hsite : LinkSite env.mm sh.m R rt q u i b.spt := by
    refine ⟨hat.node, hat.idx, by omega, ?_, hblank.alloc, hblank.empty, fun p hp =>
      hblank.unreached ⟨p, hp⟩⟩
    rw [hat.level_eq]
    apply no_child_of_spte
    rw [hentry]
    exact hold
  have hspte := link_spte_link env.masks has_ad_bits has_exec_only hmasks hblank.translates
  have hgrows := link_grows htree hsite hspte
  have hleads : LeadsTo env.mm (sh.m.write ⟨u, i⟩ (link_spte env.mm env.masks b.spt)) R rt w.iter
      b.spt := by
    refine ⟨q, u, i, hat.grows hgrows, ?_⟩
    rw [← hat.level_eq]
    exact link_child htree hsite hspte
  have hown : ∀ t ∈ w.blocks.map SpBlocks.spt, t ∉ [b.spt] := by
    intro t ht hmem
    rw [List.mem_singleton.mp hmem] at ht
    obtain ⟨b', hb', heq⟩ := List.mem_map.mp ht
    -- the pages in the caches are not set up yet
    have hunused := (hw.fresh.fresh b' hb').unused
    have halloc := hblank.alloc
    rw [← heq, hunused] at halloc
    cases halloc
  -- the compare-exchange stores the link
  unfold link_step compare_exchange at h
  rw [hread] at h
  simp only [Option.bind_eq_bind, Option.bind_some, if_true] at h
  obtain ⟨rfl, hsh⟩ := Prod.mk.inj (Option.some.inj h)
  have hm : sh'.m = sh.m.write ⟨u, i⟩ (link_spte env.mm env.masks b.spt) := by
    rw [← hsh, ← hat.sptep]
    rfl
  refine ⟨?_, ?_, ?_, ?_, fun t ht => List.mem_cons_of_mem _ ht, fun t ht => ?_, fun t ht => ?_, ?_⟩
  · rw [hm]
    exact link_tree htree hsite hspte
  · rw [← hsh]
  · rw [hm]
    exact hgrows.mono fun t ht => by simp [MapPc.pages, List.mem_singleton.mp ht]
  · rw [hm]
    exact ⟨hw.grows hgrows hown, hleads, hold⟩
  · rw [← hsh] at ht
    rcases List.mem_cons.mp ht with rfl | ht
    · rw [hm]
      exact Or.inr hleads.inTree
    · exact Or.inl ht
  · rw [← hsh] at ht
    exact Or.inl ht
  · rw [← hsh]

/-- An entry that led nowhere is changed without any table being touched. -/
theorem change_step_keeps {b : SpBlocks} (htree : PageTree env.mm sh.m R rt)
    (hpc : PcInv env R rt sh.m (.change w b)) (h : change_step env w b sh = some (pc', sh')) :
    StepKeeps env R rt (.change w b) pc' sh sh' := by
  obtain ⟨hw, hleads, hold⟩ := hpc
  obtain ⟨tdp, hchange, h⟩ := Option.bind_eq_some_iff.mp h
  obtain ⟨rfl, rfl⟩ := Prod.mk.inj (Option.some.inj h)
  have hm : ({ sh with st := { sh.st with tdp := tdp } } : RaceShared).m = sh.m :=
    handle_changed_spte_keeps hold hchange
  refine ⟨?_, rfl, ?_, ?_, fun t ht => ht, fun _ h => Or.inl h, fun _ h => Or.inl h, rfl⟩
  · rw [hm]
    exact htree
  · rw [hm]
    exact TreeGrows.refl _
  · rw [hm]
    exact ⟨hw, hleads⟩

/-- The table that is counted is in the tree. -/
theorem account_step_keeps {b : SpBlocks} (htree : PageTree env.mm sh.m R rt)
    (hpc : PcInv env R rt sh.m (.account w b)) :
    StepKeeps env R rt (.account w b) (account_step w b sh).1 sh (account_step w b sh).2 := by
  obtain ⟨hw, hleads⟩ := hpc
  refine ⟨htree, rfl, TreeGrows.refl _, ⟨hw, hleads, rfl⟩, fun t ht => ht, fun _ h => Or.inl h,
    fun t ht => ?_, rfl⟩
  rcases List.mem_cons.mp ht with rfl | ht
  · exact Or.inr hleads.inTree
  · exact Or.inl ht

theorem linked_step_keeps {b : SpBlocks} {r : ℤ} (htree : PageTree env.mm sh.m R rt)
    (hpc : PcInv env R rt sh.m (.linked w b r)) :
    StepKeeps env R rt (.linked w b r) (linked_step w b r sh).1 sh (linked_step w b r sh).2 := by
  obtain ⟨hw, hleads, rfl⟩ := hpc
  exact StepKeeps.own htree ⟨hw, _, hleads⟩ (fun t ht => ht)

/-- The entry that led on still does. -/
theorem next_step_keeps (htree : PageTree env.mm sh.m R rt) (hpc : PcInv env R rt sh.m (.next w))
    (h : next_step w sh = some pc') : StepKeeps env R rt (.next w) pc' sh sh := by
  obtain ⟨hw, c, hleads⟩ := hpc
  have hlevel := hleads.level
  obtain ⟨q, u, i, hat, hc⟩ := hleads
  have hmin : ¬ (w.iter.level : ℤ) = w.iter.min_level := by
    rw [hat.min, PG_LEVEL_4K]
    omega
  unfold next_step at h
  rw [hat.yielded, if_neg Bool.false_ne_true, if_neg hmin, hat.read htree] at h
  obtain rfl := Option.some.inj h
  refine StepKeeps.own htree ?_ (fun t ht => ht)
  obtain ⟨hp, hl⟩ := spte_of_child hc
  have hat' : AtEntry env.mm sh.m R rt { w.iter with old_spte := sh.m.entry u i } q u i :=
    ⟨hat.node, hat.length, hat.idx, hat.sptep, hat.level, hat.min, hat.yielded⟩
  exact ⟨⟨hw.goal, hw.fresh, hw.header⟩, ⟨q, u, i, hat', fun _ _ => rfl⟩, hp, hl⟩

theorem enter_step_keeps (htree : PageTree env.mm sh.m R rt) (hpc : PcInv env R rt sh.m (.enter w))
    (h : enter_step env w sh = some pc') : StepKeeps env R rt (.enter w) pc' sh sh := by
  obtain ⟨hw, hseen, hp, hl⟩ := hpc
  obtain ⟨⟨down, it⟩, henter, h⟩ := Option.bind_eq_some_iff.mp h
  have hleads : LeadsTo env.mm sh.m R rt w.iter
      (spte_to_child_pt env.mm w.iter.old_spte w.iter.level) := by
    obtain ⟨q, u, i, hat, hold⟩ := hseen
    have hentry := hold hp hl
    refine ⟨q, u, i, hat, ?_⟩
    rw [← hentry, spte_to_child_pt_radix, child_of_spte (by rw [hentry]; exact hp)
      (by rw [hentry]; exact hl)]
    rfl
  obtain ⟨hdown, hseen'⟩ := step_into_child_seen htree hleads henter
  dsimp only at hdown hseen' h
  rw [if_pos hdown] at h
  obtain rfl := Option.some.inj h
  exact StepKeeps.own htree ⟨⟨hw.goal, hw.fresh, hw.header⟩, hseen'⟩ (fun t ht => ht)

/-- **One step.** A step that is no compare-exchange that comes too late keeps the tree. -/
theorem map_step_keeps {root : KvmMmuPage} {has_ad_bits has_exec_only : Bool} {pc : MapPc}
    (hhuge : 1 ≤ env.max_huge_page_level)
    (hmasks : env.masks.toSpteMasks = kvm_mmu_set_ept_masks has_ad_bits has_exec_only)
    (hlevel : 1 ≤ root.role.level)
    (hroot : sh.st.headers (to_shadow_page env.mm env.root_hpa) = some root)
    (htree : PageTree env.mm sh.m root.role.level root.spt)
    (hpc : PcInv env root.role.level root.spt sh.m pc)
    (hread : ∀ w b, pc = .link w b →
      kvm_tdp_mmu_read_spte sh.m w.iter.sptep = some w.iter.old_spte)
    (h : map_step env pc sh = some (pc', sh')) :
    StepKeeps env root.role.level root.spt pc pc' sh sh' := by
  cases pc with
  | start w => exact start_step_keeps hhuge hlevel hroot htree hpc h
  | check w => exact check_step_keeps htree hpc h
  | link w b => exact link_step_keeps hmasks htree hpc (hread w b rfl) h
  | change w b => exact change_step_keeps htree hpc h
  | account w b =>
    obtain ⟨rfl, rfl⟩ := Prod.mk.inj (Option.some.inj h)
    exact account_step_keeps htree hpc
  | linked w b r =>
    have hkeeps := linked_step_keeps htree hpc
    rw [show linked_step w b r sh = (pc', sh') from Option.some.inj h] at hkeeps
    exact hkeeps
  | next w =>
    obtain ⟨pc₁, hnext, h⟩ := Option.map_eq_some_iff.mp h
    obtain ⟨rfl, rfl⟩ := Prod.mk.inj h
    exact next_step_keeps htree hpc hnext
  | enter w =>
    obtain ⟨pc₁, henter, h⟩ := Option.map_eq_some_iff.mp h
    obtain ⟨rfl, rfl⟩ := Prod.mk.inj h
    exact enter_step_keeps htree hpc henter
  | side w => exact hpc.elim
  | up w => exact hpc.elim
  | finished ret => cases h

end Steps

/-! ## All steps -/

section Runs

variable {V : Type} [DecidableEq V] {env : MapEnv} {root : KvmMmuPage} {st : MapState}
  {walks : V → MapWalk} {s s' : RaceState V}

/-- The vCPUs have the EPT masks and a tree in common, their faults are as `kvm_mmu_do_page_fault`
builds them, and the pages in their caches are new and apart. -/
structure RaceReady (env : MapEnv) (root : KvmMmuPage) (st : MapState) (walks : V → MapWalk) :
    Prop where
  huge : 1 ≤ env.max_huge_page_level
  masks : ∃ has_ad_bits has_exec_only,
    env.masks.toSpteMasks = kvm_mmu_set_ept_masks has_ad_bits has_exec_only
  root_header : st.headers (to_shadow_page env.mm env.root_hpa) = some root
  level : 1 ≤ root.role.level
  tree : PageTree env.mm st.tdp.m root.role.level root.spt
  goal : ∀ v, (walks v).fault.goal_level = PG_LEVEL_4K
  max : ∀ v, 1 ≤ (walks v).fault.max_level
  fresh : ∀ v, FreshBlocks env.mm st.tdp.m (walks v).blocks
  header : ∀ v, ∀ b ∈ (walks v).blocks, st.headers b.sp = none
  apart : ∀ v v', v ≠ v' → ∀ b ∈ (walks v).blocks, ∀ b' ∈ (walks v').blocks, b.spt ≠ b'.spt

/-- The tables that were counted or linked are in the tree, and so are those of the start; a table
whose compare-exchange found another value was refused and freed. -/
structure RaceOutcome (env : MapEnv) (root : KvmMmuPage) (st : MapState) (sh : RaceShared) :
    Prop where
  counted : ∀ t ∈ sh.counted, InTree env.mm sh.m root.role.level root.spt t
  installed : ∀ t ∈ sh.installed, InTree env.mm sh.m root.role.level root.spt t
  kept : ∀ p t, (radix env.mm st.tdp.m).nodeAt root.role.level root.spt p = some t →
    (radix env.mm sh.m).nodeAt root.role.level root.spt p = some t
  lost : ∀ t ∈ sh.lost, t ∈ sh.refused ∧ t ∈ sh.freed

/-- The invariant of the runs that nobody disturbs. -/
structure RaceInv (env : MapEnv) (root : KvmMmuPage) (st : MapState) (s : RaceState V) : Prop where
  header : s.sh.st.headers (to_shadow_page env.mm env.root_hpa) = some root
  tree : PageTree env.mm s.sh.m root.role.level root.spt
  pc : ∀ v, PcInv env root.role.level root.spt s.sh.m (s.pc v)
  apart : ∀ v v', v ≠ v' → ∀ t ∈ (s.pc v).pages, t ∉ (s.pc v').pages
  counted : ∀ t ∈ s.sh.counted, InTree env.mm s.sh.m root.role.level root.spt t
  installed : ∀ t ∈ s.sh.installed, InTree env.mm s.sh.m root.role.level root.spt t
  kept : ∀ p t, (radix env.mm st.tdp.m).nodeAt root.role.level root.spt p = some t →
    (radix env.mm s.sh.m).nodeAt root.role.level root.spt p = some t
  lost : s.sh.lost = []

omit [DecidableEq V] in
theorem RaceReady.inv (h : RaceReady env root st walks) :
    RaceInv env root st (raceStart st walks) := by
  refine ⟨h.root_header, h.tree, fun v => ?_, fun v v' hne t ht ht' => ?_, ?_, ?_, fun _ _ hp => hp, rfl⟩
  · refine ⟨⟨h.goal v, h.fresh v, fun b hb heq => ?_⟩, h.max v⟩
    have hnone := h.header v b hb
    rw [heq, h.root_header] at hnone
    cases hnone
  · obtain ⟨b, hb, rfl⟩ := List.mem_map.mp ht
    obtain ⟨b', hb', heq⟩ := List.mem_map.mp ht'
    exact h.apart v v' hne b hb b' hb' heq.symm
  · exact fun t ht => absurd ht List.not_mem_nil
  · exact fun t ht => absurd ht List.not_mem_nil

/-- **The invariant step.** -/
theorem RaceInv.step (hready : RaceReady env root st walks) (h : RaceInv env root st s) {v : V}
    (hok : Undisturbed s v) (hstep : race_step env v s = some s') : RaceInv env root st s' := by
  obtain ⟨has_ad_bits, has_exec_only, hmasks⟩ := hready.masks
  obtain ⟨⟨pc', sh'⟩, hmap, heq⟩ := Option.map_eq_some_iff.mp hstep
  subst heq
  have hkeeps := map_step_keeps hready.huge hmasks hready.level h.header h.tree (h.pc v) hok hmap
  have hgrows := hkeeps.grows
  refine ⟨hkeeps.header.trans h.header, hkeeps.tree, fun v' => ?_, fun v₁ v₂ hne t ht ht' => ?_,
    fun t ht => ?_, fun t ht => ?_, fun p t hp => hgrows.node p t (h.kept p t hp),
    hkeeps.lost.trans h.lost⟩
  · by_cases hv : v' = v
    · subst hv
      dsimp only
      rw [Function.update_self]
      exact hkeeps.inv
    · dsimp only
      rw [Function.update_of_ne hv]
      exact (h.pc v').grows hgrows (h.apart v' v hv)
  · -- the pages of a vCPU are among those that it had
    have hsub : ∀ v', ∀ t ∈ (Function.update s.pc v pc' v').pages, t ∈ (s.pc v').pages := by
      intro v' t ht
      by_cases hv : v' = v
      · subst hv
        rw [Function.update_self] at ht
        exact hkeeps.pages t ht
      · rwa [Function.update_of_ne hv] at ht
    exact h.apart v₁ v₂ hne t (hsub v₁ t ht) (hsub v₂ t ht')
  · rcases hkeeps.counted t ht with ht | ht
    · exact hgrows.inTree (h.counted t ht)
    · exact ht
  · rcases hkeeps.installed t ht with ht | ht
    · exact hgrows.inTree (h.installed t ht)
    · exact ht

/-- While nobody is disturbed, the outcome is right. -/
theorem undisturbed_outcome (hready : RaceReady env root st walks)
    (hrun : Transition.Run (race env st walks) Undisturbed s) : RaceOutcome env root st s.sh := by
  have hinv : RaceInv env root st s := by
    apply Transition.Run.invariant (RaceInv env root st) _ _ hrun
    · intro s hs
      rw [show s = raceStart st walks from hs]
      exact hready.inv
    · intro s v s' h hok hstep
      exact h.step hready hok hstep
  refine ⟨hinv.counted, hinv.installed, hinv.kept, fun t ht => ?_⟩
  rw [hinv.lost] at ht
  exact absurd ht List.not_mem_nil

end Runs

/-! ## What is recorded -/

/-- What any step records: nothing is refused unless `tdp_mmu_link_sp` has failed, its result is
`0`, the counter grows by the tables that are counted, and a compare-exchange that finds another
value is recorded for good. -/
structure StepRecord (pc pc' : MapPc) (sh sh' : RaceShared) : Prop where
  refused : (∀ w b r, pc = .linked w b r → r = 0) → sh'.refused = sh.refused
  result : ∀ w b r, pc' = .linked w b r → r = 0
  pages : ∃ n, sh'.st.tdp_mmu_pages = sh.st.tdp_mmu_pages + BitVec.ofNat 64 n ∧
    sh'.counted.length = sh.counted.length + n
  lost : sh'.lost = [] → sh.lost = [] ∧ ∀ w b, pc = .link w b →
    kvm_tdp_mmu_read_spte sh.m w.iter.sptep = some w.iter.old_spte

section Record

variable {env : MapEnv} {w : MapWalk} {sh sh' : RaceShared} {pc pc' : MapPc}

/-- A step that records nothing. -/
theorem StepRecord.nothing (hresult : ∀ w b r, pc' ≠ .linked w b r) (hlink : ∀ w b, pc ≠ .link w b)
    (hpages : sh'.st.tdp_mmu_pages = sh.st.tdp_mmu_pages) (hcounted : sh'.counted = sh.counted)
    (hlost : sh'.lost = sh.lost) (hrefused : sh'.refused = sh.refused) :
    StepRecord pc pc' sh sh' := by
  refine ⟨fun _ => hrefused, fun w b r h => absurd h (hresult w b r), ⟨0, ?_, ?_⟩, fun h => ?_⟩
  · rw [hpages]
    exact (BitVec.add_zero _).symm
  · rw [hcounted, Nat.add_zero]
  · exact ⟨hlost ▸ h, fun w b hpc => absurd hpc (hlink w b)⟩

theorem start_step_record (h : start_step env w sh = some (pc', sh')) :
    StepRecord (.start w) pc' sh sh' := by
  obtain ⟨fault, -, h⟩ := Option.bind_eq_some_iff.mp h
  obtain ⟨root, -, h⟩ := Option.bind_eq_some_iff.mp h
  obtain ⟨iter, -, h⟩ := Option.bind_eq_some_iff.mp h
  obtain ⟨rfl, rfl⟩ := Prod.mk.inj (Option.some.inj h)
  refine StepRecord.nothing ?_ ?_ rfl rfl rfl rfl
  · exact fun _ _ _ heq => by cases heq
  · exact fun _ _ heq => by cases heq

theorem check_step_record (h : check_step env w sh = some (pc', sh')) :
    StepRecord (.check w) pc' sh sh' := by
  have hlink : ∀ w' b, MapPc.check w ≠ .link w' b := by
    intro w' b heq
    cases heq
  rcases check_step_cases h with ⟨ret, rfl, rfl⟩ | ⟨fault, -, ⟨-, rfl, rfl⟩ |
    ⟨b, blocks, child_sp, -, -, rfl, rfl⟩⟩
  · refine StepRecord.nothing ?_ hlink rfl rfl rfl rfl
    exact fun _ _ _ heq => by cases heq
  · refine StepRecord.nothing ?_ hlink rfl rfl rfl rfl
    exact fun _ _ _ heq => by cases heq
  · refine StepRecord.nothing ?_ hlink rfl rfl rfl rfl
    exact fun _ _ _ heq => by cases heq

/-- A compare-exchange that finds another value is recorded. -/
theorem link_step_record {b : SpBlocks} (h : link_step env w b sh = some (pc', sh')) :
    StepRecord (.link w b) pc' sh sh' := by
  obtain ⟨⟨cur, m⟩, hcas, h⟩ := Option.bind_eq_some_iff.mp h
  obtain ⟨cur', hread, hcas⟩ := Option.bind_eq_some_iff.mp hcas
  obtain ⟨rfl, -⟩ := Prod.mk.inj (Option.some.inj hcas)
  obtain ⟨rfl, rfl⟩ := Prod.mk.inj (Option.some.inj h)
  refine ⟨fun _ => rfl, fun _ _ _ heq => (by cases heq), ⟨0, (BitVec.add_zero _).symm, rfl⟩,
    fun hlost => ?_⟩
  dsimp only at hlost
  by_cases hwon : cur' = w.iter.old_spte
  · rw [if_pos hwon] at hlost
    refine ⟨hlost, fun w' b' heq => ?_⟩
    cases heq
    rw [hread, hwon]
  · rw [if_neg hwon] at hlost
    cases hlost

theorem change_step_record {b : SpBlocks} (h : change_step env w b sh = some (pc', sh')) :
    StepRecord (.change w b) pc' sh sh' := by
  obtain ⟨tdp, -, h⟩ := Option.bind_eq_some_iff.mp h
  obtain ⟨rfl, rfl⟩ := Prod.mk.inj (Option.some.inj h)
  refine StepRecord.nothing ?_ ?_ rfl rfl rfl rfl
  · exact fun _ _ _ heq => by cases heq
  · exact fun _ _ heq => by cases heq

theorem account_step_record (w : MapWalk) (b : SpBlocks) (sh : RaceShared) :
    StepRecord (.account w b) (account_step w b sh).1 sh (account_step w b sh).2 := by
  refine ⟨fun _ => rfl, fun _ _ _ heq => ?_, ⟨1, rfl, rfl⟩, fun h => ⟨h, fun _ _ heq => (by cases heq)⟩⟩
  cases heq
  rfl

theorem linked_step_record (w : MapWalk) (b : SpBlocks) (r : ℤ) (sh : RaceShared) :
    StepRecord (.linked w b r) (linked_step w b r sh).1 sh (linked_step w b r sh).2 := by
  unfold linked_step
  split
  · next hr =>
    exact ⟨fun hzero => absurd (hzero w b r rfl) hr, fun _ _ _ heq => (by cases heq),
      ⟨0, (BitVec.add_zero _).symm, rfl⟩, fun h => ⟨h, fun _ _ heq => (by cases heq)⟩⟩
  · refine StepRecord.nothing ?_ ?_ rfl rfl rfl rfl
    · exact fun _ _ _ heq => by cases heq
    · exact fun _ _ heq => by cases heq

/-- The steps of the iterator record nothing. -/
theorem iter_step_record {pc : MapPc} {step : Option MapPc}
    (hlink : ∀ w b, pc ≠ .link w b) (hresult : ∀ pc', step = some pc' → ∀ w b r, pc' ≠ .linked w b r)
    (h : step.map (·, sh) = some (pc', sh')) : StepRecord pc pc' sh sh' := by
  obtain ⟨pc₁, hstep, h⟩ := Option.map_eq_some_iff.mp h
  obtain ⟨rfl, rfl⟩ := Prod.mk.inj h
  exact StepRecord.nothing (hresult pc₁ hstep) hlink rfl rfl rfl rfl

theorem map_step_record (h : map_step env pc sh = some (pc', sh')) : StepRecord pc pc' sh sh' := by
  cases pc with
  | start w => exact start_step_record h
  | check w => exact check_step_record h
  | link w b => exact link_step_record h
  | change w b => exact change_step_record h
  | account w b =>
    obtain ⟨rfl, rfl⟩ := Prod.mk.inj (Option.some.inj h)
    exact account_step_record w b sh
  | linked w b r =>
    have hrecord := linked_step_record w b r sh
    rw [show linked_step w b r sh = (pc', sh') from Option.some.inj h] at hrecord
    exact hrecord
  | next w =>
    apply iter_step_record (fun _ _ heq => by cases heq) _ h
    intro pc₁ hnext w' b r heq
    subst heq
    unfold next_step at hnext
    split at hnext
    · obtain ⟨it, -, hnext⟩ := Option.bind_eq_some_iff.mp hnext
      cases hnext
    · split at hnext
      · cases hnext
      · obtain ⟨old_spte, -, hnext⟩ := Option.bind_eq_some_iff.mp hnext
        cases hnext
  | enter w =>
    apply iter_step_record (fun _ _ heq => by cases heq) _ h
    intro pc₁ henter w' b r heq
    subst heq
    obtain ⟨⟨down, it⟩, -, henter⟩ := Option.bind_eq_some_iff.mp henter
    cases down <;> cases henter
  | side w =>
    apply iter_step_record (fun _ _ heq => by cases heq) _ h
    intro pc₁ hside w' b r heq
    subst heq
    obtain ⟨⟨side, it⟩, -, hside⟩ := Option.bind_eq_some_iff.mp hside
    cases side <;> cases hside
  | up w =>
    apply iter_step_record (fun _ _ heq => by cases heq) _ h
    intro pc₁ hup w' b r heq
    subst heq
    obtain ⟨⟨up, it⟩, -, hup⟩ := Option.bind_eq_some_iff.mp hup
    cases up <;> cases hup
  | finished ret => cases h

end Record

section Runs

variable {V : Type} [DecidableEq V] {env : MapEnv} {root : KvmMmuPage} {st : MapState}
  {walks : V → MapWalk} {s : RaceState V}

/-- Nothing is ever refused. -/
theorem never_refused (hrun : Transition.Run (race env st walks) (fun _ _ => True) s) :
    s.sh.refused = [] ∧ ∀ v w b r, s.pc v = .linked w b r → r = 0 := by
  apply Transition.Run.invariant (fun s : RaceState V =>
    s.sh.refused = [] ∧ ∀ v w b r, s.pc v = .linked w b r → r = 0) _ _ hrun
  · intro s hs
    rw [show s = raceStart st walks from hs]
    exact ⟨rfl, fun v w b r heq => by cases heq⟩
  · intro s v s' ⟨hrefused, hresult⟩ _ hstep
    obtain ⟨⟨pc', sh'⟩, hmap, heq⟩ := Option.map_eq_some_iff.mp hstep
    subst heq
    have hrecord := map_step_record hmap
    refine ⟨(hrecord.refused (hresult v)).trans hrefused, fun v' w b r hpc => ?_⟩
    by_cases hv : v' = v
    · subst hv
      dsimp only at hpc
      rw [Function.update_self] at hpc
      exact hrecord.result w b r hpc
    · dsimp only at hpc
      rw [Function.update_of_ne hv] at hpc
      exact hresult v' w b r hpc

/-- `kvm->arch.tdp_mmu_pages` has grown by the tables that are recorded as counted. -/
theorem counted_pages (hrun : Transition.Run (race env st walks) (fun _ _ => True) s) :
    s.sh.st.tdp_mmu_pages = st.tdp_mmu_pages + BitVec.ofNat 64 s.sh.counted.length := by
  apply Transition.Run.invariant (fun s : RaceState V =>
    s.sh.st.tdp_mmu_pages = st.tdp_mmu_pages + BitVec.ofNat 64 s.sh.counted.length) _ _ hrun
  · intro s hs
    rw [show s = raceStart st walks from hs]
    exact (BitVec.add_zero _).symm
  · intro s v s' hpages _ hstep
    obtain ⟨⟨pc', sh'⟩, hmap, heq⟩ := Option.map_eq_some_iff.mp hstep
    subst heq
    obtain ⟨n, hn, hlen⟩ := (map_step_record hmap).pages
    rw [hn, hpages, hlen, BitVec.ofNat_add, BitVec.add_assoc]

/-- A run in which every compare-exchange has found what was read is one that nobody disturbed. -/
theorem undisturbed_of_lost (hrun : Transition.Run (race env st walks) (fun _ _ => True) s)
    (hlost : s.sh.lost = []) : Transition.Run (race env st walks) Undisturbed s := by
  induction hrun with
  | start s hs => exact Transition.Run.start s hs
  | step s v s' _ _ hstep ih =>
    obtain ⟨⟨pc', sh'⟩, hmap, heq⟩ := Option.map_eq_some_iff.mp hstep
    subst heq
    obtain ⟨hbefore, hread⟩ := (map_step_record hmap).lost hlost
    exact Transition.Run.step s v _ (ih hbefore) hread hstep

/-- **When the outcome is right.** For any number of vCPUs and any order of their steps, in the
states that are reached by compare-exchanges that all find the value that was read, and in no
others. -/
theorem link_race_iff (hready : RaceReady env root st walks)
    (hrun : Transition.Run (race env st walks) (fun _ _ => True) s) :
    RaceOutcome env root st s.sh ↔ Transition.Run (race env st walks) Undisturbed s := by
  constructor
  · intro houtcome
    apply undisturbed_of_lost hrun
    apply List.eq_nil_iff_forall_not_mem.mpr
    intro t ht
    obtain ⟨hrefused, -⟩ := houtcome.lost t ht
    rw [(never_refused hrun).1] at hrefused
    exact absurd hrefused List.not_mem_nil
  · exact undisturbed_outcome hready

end Runs

/-! ### Two vCPUs at once -/

/-- Both find the root table at `0x1000` empty. -/
def twoEnv : MapEnv where
  mm := flatMm
  masks := eptMasks
  host := ⟨0, false⟩
  sptep_to_sp p := p.pt + 0x100000
  generation := 0
  max_huge_page_level := 3
  root_hpa := 0x101000

/-- Three more pages. -/
def lateBlocks : List SpBlocks := [⟨0x105000, 0x5000⟩, ⟨0x106000, 0x6000⟩, ⟨0x107000, 0x7000⟩]

/-- Both fault on gfn 5. -/
def twoWalks (late : Bool) : MapWalk :=
  ⟨fiveFault, blankIter, if late then lateBlocks else threeBlocks⟩

/-- Both read entry 0 of the root. The first maps and returns, and then the other goes on. -/
def lateOrder : List Bool :=
  [false, true, false, true] ++ List.replicate 21 false ++ List.replicate 13 true

theorem lateBlocks_fresh : FreshBlocks flatMm emptyRoot lateBlocks :=
  emptyRoot_fresh (by decide) (by decide) (by decide) (by decide)

theorem twoWalks_ready : RaceReady twoEnv rootPage emptyRootState twoWalks := by
  refine ⟨by decide, ⟨true, false, rfl⟩, by decide, by decide, emptyRoot_tree, fun _ => rfl,
    fun _ => (by decide : 1 ≤ fiveFault.max_level), fun late => ?_, fun late b hb => ?_, ?_⟩
  · cases late with
    | false => exact threeBlocks_fresh
    | true => exact lateBlocks_fresh
  · cases late with
    | false =>
      have hne : ∀ b ∈ threeBlocks, b.sp ≠ 0x101000 := by decide
      exact if_neg (hne b hb)
    | true =>
      have hne : ∀ b ∈ lateBlocks, b.sp ≠ 0x101000 := by decide
      exact if_neg (hne b hb)
  · decide

/-- The order runs both calls to their ends; the table at `0x5000` has come too late. -/
theorem lateOrder_run : ∃ s, Transition.Run (race twoEnv emptyRootState twoWalks)
    (fun _ _ => True) s ∧ (∀ late, ((s.pc late).result).isSome) ∧ s.sh.lost = [0x5000] := by
  have hend : (race_steps twoEnv lateOrder (raceStart emptyRootState twoWalks)).map
      (fun s => ((s.pc false).result.isSome, (s.pc true).result.isSome, s.sh.lost)) =
        some (true, true, [0x5000]) := by
    decide +kernel
  obtain ⟨s, hs, heq⟩ := Option.map_eq_some_iff.mp hend
  obtain ⟨hfirst, heq⟩ := Prod.mk.inj heq
  obtain ⟨hlate, hlost⟩ := Prod.mk.inj heq
  refine ⟨s, race_steps_run (Transition.Run.start _ rfl) hs, fun late => ?_, hlost⟩
  cases late with
  | false => exact hfirst
  | true => exact hlate

/-- Both calls have returned, and the outcome is wrong. -/
theorem late_table_kept : ∃ s, Transition.Run (race twoEnv emptyRootState twoWalks)
    (fun _ _ => True) s ∧ (∀ late, ((s.pc late).result).isSome) ∧
      ¬ RaceOutcome twoEnv rootPage emptyRootState s.sh := by
  obtain ⟨s, hrun, hend, hlost⟩ := lateOrder_run
  refine ⟨s, hrun, hend, fun houtcome => ?_⟩
  obtain ⟨hrefused, -⟩ := houtcome.lost 0x5000 (by rw [hlost]; exact List.mem_cons_self)
  rw [(never_refused hrun).1] at hrefused
  exact absurd hrefused List.not_mem_nil

theorem link_race_iff_late : ∃ s, s.sh.lost = [0x5000] ∧
    (RaceOutcome twoEnv rootPage emptyRootState s.sh ↔
      Transition.Run (race twoEnv emptyRootState twoWalks) Undisturbed s) := by
  obtain ⟨s, hrun, -, hlost⟩ := lateOrder_run
  exact ⟨s, hlost, link_race_iff twoWalks_ready hrun⟩

end Svmx.Tdp
