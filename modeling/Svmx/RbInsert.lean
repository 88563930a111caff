/-
`rb_insert_color` keeps the red-black invariant.

The loop of `__rb_insert` walks up two levels at a time with a red node in hand whose only
fault may be a red parent. In `Focus` terms: a red tree `t` with `Bal t n` in a context with
`CtxBal ctx n`. A black parent ends it; no parent means `t` is the root and is blackened; a red
uncle moves the fault to the grandparent; a black uncle ends it with one or two rotations. The
induction is on the length of the context, which is also the fuel the loop needs.
-/
import Svmx.RbRep

set_option autoImplicit false

namespace Svmx.RbTree

open ColorTree ColorTree.CTree

/-! ## The rotations -/

section Rotations

variable {s : RbState} {d : Dir} {up : Ctx Ptr}

/-- **Case 3.** With `n` on side `d` of `p` and `p` on side `d` of the black `g`, the rotation
at `g` puts `p` in `g`'s place, black, over `n` and a red `g`. What the word of `p` held before
does not matter: case 2 leaves it stale. -/
theorem rb_insert_case3_spec {n s1 u : CTree Ptr} {p g pc x par : ℕ}
    (hp : s.node p = some (mkNode d pc (rootPtr n) (rootPtr s1)))
    (hg : s.node g = some (mkNode d (ctxPtr up + colorBit .black) x (rootPtr u)))
    (hn : Rep s n p) (hs1 : Rep s s1 par) (hu : Rep s u g) (hup : RepCtx s up g)
    (hnd : (p :: g :: (n.toList ++ (s1.toList ++ (u.toList ++ Ctx.labels up)))).Nodup)
    (hptr : ∀ q ∈ p :: g :: (n.toList ++ (s1.toList ++ (u.toList ++ Ctx.labels up))), NodePtr q)
    (hmod : ctxPtr up % 4 = 0) :
    ∃ s', rb_insert_case3 d s p g (rootPtr s1) = some s'
      ∧ Focus s' (build d .black n p (build d.flip .red u g s1.blacken)) up
      ∧ ∀ q, q ∉ p :: g :: (n.toList ++ (s1.toList ++ (u.toList ++ Ctx.labels up))) →
          s'.node q = s.node q := by
  have hperm : ((build d .black n p (build d.flip .red u g s1.blacken)).toList
      ++ Ctx.labels up).Perm (p :: g :: (n.toList ++ (s1.toList ++ (u.toList ++ Ctx.labels up)))) := by
    rw [List.perm_iff_count]
    intro x
    simp only [List.count_append, List.count_cons, count_build, toList_blacken, beq_iff_eq]
    omega
  have hnd' := hnd
  simp only [List.nodup_cons, List.mem_cons, List.mem_append, not_or, List.nodup_append'] at hnd'
  obtain ⟨⟨hpg, hpn, hps, hpu, hpl⟩, ⟨hgn, hgs, hgu, hgl⟩, -, ⟨hsnd, ⟨-, hlnd, hul⟩, hsul⟩, hnsul⟩ :=
    hnd'
  have h0 : ∀ q ∈ p :: g :: (n.toList ++ (s1.toList ++ (u.toList ++ Ctx.labels up))), q ≠ 0 :=
    fun q hq => (hptr q hq).1
  have hg0 : g ≠ 0 := h0 g (by simp)
  -- the two child pointers
  let sa := s.store g (mkNode d (ctxPtr up + colorBit .black) (rootPtr s1) (rootPtr u))
  let sb := sa.store p (mkNode d pc (rootPtr n) g)
  have hsb : ∀ q, q ≠ p → q ≠ g → sb.node q = s.node q := fun q hq hq' => by
    simp only [sb, sa, store_node_ne _ _ hq, store_node_ne _ _ hq']
  have hs1b : Rep sb s1 par := hs1.congr fun q hq =>
    hsb q (fun h => hps (h ▸ hq)) (fun h => hgs (h ▸ hq))
  -- the inner subtree goes under `g`
  obtain ⟨sc, hsc, hs1c, hrootc, hframec⟩ := rb_set_parent_black_if_spec g hs1b hsnd
    (fun h => h0 0 (by simp [h]) rfl)
  have hgc : sc.node g = some (mkNode d (ctxPtr up + colorBit .black) (rootPtr s1) (rootPtr u)) := by
    rw [hframec g hgs]
    simp only [sb, sa, store_node_ne _ _ (Ne.symm hpg), store_node_self]
  have hpc : sc.node p = some (mkNode d pc (rootPtr n) g) := by
    rw [hframec p hps]
    simp only [sb, store_node_self]
  -- `p` takes the word of `g`, `g` goes under `p`
  let sd := sc.store p (mkNode d (ctxPtr up + colorBit .black) (rootPtr n) g)
  have hgd : sd.node g
      = some (mkNode d (ctxPtr up + colorBit .black) (rootPtr s1) (rootPtr u)) := by
    simp only [sd, store_node_ne _ _ (Ne.symm hpg), hgc]
  let se := sd.store g (mkNode d (p + RB_RED) (rootPtr s1) (rootPtr u))
  have hframee : ∀ q, q ≠ p → q ≠ g → q ∉ s1.toList → se.node q = s.node q := by
    intro q hq hq' hqs
    simp only [se, sd, store_node_ne _ _ hq, store_node_ne _ _ hq']
    rw [hframec q hqs, hsb q hq hq']
  have hupe : RepCtx se up g := hup.congr
    (by simp only [se, sd, store_rb_node]; rw [hrootc]; rfl)
    (fun q hq => hframee q (fun h => hpl (h ▸ hq)) (fun h => hgl (h ▸ hq))
      (fun h => hsul h (List.mem_append_right _ hq)))
  obtain ⟨sf, hsf, hupf, hframef⟩ := rb_change_child_spec p hupe hg0 hgl hlnd
    (fun h => h0 0 (by simp [h]) rfl)
  have hframe : ∀ q, q ∉ Ctx.labels up → q ≠ p → q ≠ g → q ∉ s1.toList →
      sf.node q = s.node q := fun q hq h1 h2 h3 => (hframef q hq).trans (hframee q h1 h2 h3)
  refine ⟨sf, ?_, ⟨rep_build.mpr ⟨?_, ?_, rep_build.mpr ⟨?_, ?_, ?_⟩⟩, by rwa [rootPtr_build],
    hperm.nodup_iff.mpr hnd, fun q hq => hptr q (hperm.mem_iff.mp hq)⟩, ?_⟩
  · have hpa : sa.node p = some (mkNode d pc (rootPtr n) (rootPtr s1)) := by
      simp only [sa, store_node_ne _ _ hpg, hp]
    have ea : s.set_child d g (rootPtr s1) = some sa := by rw [set_child_eq hg, mkNode_setChild]
    have eb : sa.set_child d.flip p g = some sb := by
      rw [set_child_eq hpa, mkNode_setChild_flip]
    have ee : rb_set_parent_color sd g p RB_RED = some se := by
      rw [rb_set_parent_color_eq hgd, mkNode_with_pc]
    have er : rb_rotate_set_parents sc g p RB_RED = some sf := by
      simp only [rb_rotate_set_parents, hgc, hpc, Option.bind_eq_bind, Option.bind_some, mkNode_pc,
        mkNode_with_pc, (mkNode_pack_reads (d := d) .black hmod).1]
      rw [ee, Option.bind_some, hsf]
    simp only [rb_insert_case3, Option.bind_eq_bind, ea, eb, hsc, er, Option.bind_some]
  · rw [hframef p hpl, rootPtr_build]
    simp only [se, sd, store_node_ne _ _ hpg, store_node_self]
  · refine hn.congr fun q hq => hframe q ?_ ?_ ?_ ?_
    · exact fun h => hnsul hq (by simp [h])
    · exact fun h => hpn (h ▸ hq)
    · exact fun h => hgn (h ▸ hq)
    · exact fun h => hnsul hq (by simp [h])
  · rw [hframef g hgl, mkNode_flip, rootPtr_blacken]
    exact store_node_self ..
  · refine hu.congr fun q hq => hframe q ?_ ?_ ?_ ?_
    · exact fun h => hul hq h
    · exact fun h => hpu (h ▸ hq)
    · exact fun h => hgu (h ▸ hq)
    · exact fun h => hsul h (by simp [hq])
  · refine hs1c.congr fun q hq => ?_
    rw [toList_blacken] at hq
    rw [hframef q fun h => hsul hq (by simp [h])]
    have hq1 : q ≠ p := fun h => hps (h ▸ hq)
    have hq2 : q ≠ g := fun h => hgs (h ▸ hq)
    simp only [se, sd, store_node_ne _ _ hq1, store_node_ne _ _ hq2]
  · intro q hq
    simp only [List.mem_cons, List.mem_append, not_or] at hq
    exact hframe q hq.2.2.2.2.2 hq.1 hq.2.1 hq.2.2.2.1

/-- **Case 2.** With the red `m` on the inner side of `p`, the rotation at `p` puts `p`, red,
on the outer side of `m`; the cells outside `p`, `m` and the subtree that changes hands are
untouched, and `m`'s own word is left as it was. -/
theorem rb_insert_case2_spec {x a b : CTree Ptr} {p m pcp pcm : ℕ}
    (hp : s.node p = some (mkNode d pcp (rootPtr x) m))
    (hm : s.node m = some (mkNode d pcm (rootPtr a) (rootPtr b)))
    (hx : Rep s x p) (ha : Rep s a m) (hb : Rep s b m)
    (hnd : (p :: m :: (x.toList ++ (a.toList ++ b.toList))).Nodup)
    (h0 : 0 ∉ a.toList) :
    ∃ s', rb_insert_case2 d s m p = some (s', m, rootPtr b)
      ∧ s'.node m = some (mkNode d pcm p (rootPtr b))
      ∧ Rep s' (build d .red x p a.blacken) m ∧ Rep s' b m
      ∧ s'.rb_node = s.rb_node
      ∧ ∀ q, q ≠ p → q ≠ m → q ∉ a.toList → s'.node q = s.node q := by
  simp only [List.nodup_cons, List.mem_cons, List.mem_append, not_or, List.nodup_append'] at hnd
  obtain ⟨⟨hpm, hpx, hpa, hpb⟩, ⟨hmx, hma, hmb⟩, -, ⟨hand, -, hab⟩, hxab⟩ := hnd
  let sa := s.store p (mkNode d pcp (rootPtr x) (rootPtr a))
  let sb := sa.store m (mkNode d pcm p (rootPtr b))
  have hsb : ∀ q, q ≠ p → q ≠ m → sb.node q = s.node q := fun q hq hq' => by
    simp only [sb, sa, store_node_ne _ _ hq, store_node_ne _ _ hq']
  have hab' : Rep sb a m := ha.congr fun q hq =>
    hsb q (fun h => hpa (h ▸ hq)) (fun h => hma (h ▸ hq))
  obtain ⟨sc, hsc, hac, hrootc, hframec⟩ := rb_set_parent_black_if_spec p hab' hand h0
  have hpc : sc.node p = some (mkNode d pcp (rootPtr x) (rootPtr a)) := by
    rw [hframec p hpa]
    simp only [sb, sa, store_node_ne _ _ hpm, store_node_self]
  let sd := sc.store p (mkNode d (m + RB_RED) (rootPtr x) (rootPtr a))
  have hframe : ∀ q, q ≠ p → q ≠ m → q ∉ a.toList → sd.node q = s.node q := by
    intro q h1 h2 h3
    simp only [sd, store_node_ne _ _ h1]
    rw [hframec q h3, hsb q h1 h2]
  have hmd : sd.node m = some (mkNode d pcm p (rootPtr b)) := by
    simp only [sd, store_node_ne _ _ (Ne.symm hpm)]
    rw [hframec m hma]
    simp only [sb, store_node_self]
  refine ⟨sd, ?_, hmd, rep_build.mpr ⟨?_, ?_, ?_⟩, ?_, ?_, hframe⟩
  · have hma' : sa.node m = some (mkNode d pcm (rootPtr a) (rootPtr b)) := by
      simp only [sa, store_node_ne _ _ (Ne.symm hpm), hm]
    have ea : s.set_child d.flip p (rootPtr a) = some sa := by
      rw [set_child_eq hp, mkNode_setChild_flip]
    have eb : sa.set_child d m p = some sb := by rw [set_child_eq hma', mkNode_setChild]
    have ed : rb_set_parent_color sc p m RB_RED = some sd := by
      rw [rb_set_parent_color_eq hpc, mkNode_with_pc]
    simp only [rb_insert_case2, hm, Option.bind_eq_bind, Option.bind_some, mkNode_child, ea, eb,
      hsc, ed, hmd, mkNode_child_flip, Option.pure_def]
  · rw [rootPtr_blacken]
    exact store_node_self ..
  · refine hx.congr fun q hq => hframe q (fun h => hpx (h ▸ hq)) (fun h => hmx (h ▸ hq)) ?_
    exact fun h => hxab hq (by simp [h])
  · refine hac.congr fun q hq => ?_
    rw [toList_blacken] at hq
    exact store_node_ne _ _ (fun h => hpa (h ▸ hq))
  · refine hb.congr fun q hq => hframe q (fun h => hpb (h ▸ hq)) (fun h => hmb (h ▸ hq)) ?_
    exact fun h => hab h hq
  · simp only [sd, store_rb_node]
    rw [hrootc]
    rfl

/-- **Case 1.** With a red parent `p` and a red uncle below the black `g`, the colour flips
leave the same shape with `p` and the uncle black and `g` red. -/
theorem rb_insert_case1_spec {t s1 u : CTree Ptr} {p g : ℕ} {d1 : Dir}
    (h : Focus s t (⟨d1, .red, p, s1⟩ :: ⟨d, .black, g, u⟩ :: up)) (hu : u ≠ .leaf) :
    ∃ sa sb sc, rb_set_parent_color s (rootPtr u) g RB_BLACK = some sa
      ∧ rb_set_parent_color sa p g RB_BLACK = some sb
      ∧ (sb.node g).map (·.rb_parent) = some (ctxPtr up)
      ∧ rb_set_parent_color sb g (ctxPtr up) RB_RED = some sc
      ∧ Focus sc (build d .red (build d1 .black t p s1) g u.blacken) up
      ∧ ∀ q, q ∉ (Ctx.plug t (⟨d1, .red, p, s1⟩ :: ⟨d, .black, g, u⟩ :: up)).toList →
          sc.node q = s.node q := by
  have hmod : ctxPtr up % 4 = 0 := (focus_up.mp (focus_up.mp h)).ctxPtr_mod
  have hperm : ((build d .red (build d1 .black t p s1) g u.blacken).toList
      ++ Ctx.labels up).Perm (t.toList ++ Ctx.labels (⟨d1, .red, p, s1⟩ :: ⟨d, .black, g, u⟩ :: up)) := by
    rw [List.perm_iff_count]
    intro x
    simp only [Ctx.labels, List.count_append, List.count_cons, count_build, toList_blacken, beq_iff_eq]
    omega
  obtain ⟨hrep, ⟨hpcell, hs1, hgcell, hurep, hup⟩, hnd, hptr⟩ := h
  simp only [ctxPtr_cons] at hrep hpcell hs1 hgcell hurep hup
  have hnd' := hnd
  simp only [Ctx.labels, List.nodup_cons, List.mem_cons, List.mem_append, not_or,
    List.nodup_append', List.disjoint_cons_right, List.disjoint_append_right] at hnd'
  obtain ⟨-, ⟨⟨hps, hpg, hpu, hpl⟩, -, ⟨⟨hgu, hgl⟩, hund, hlnd, hul⟩, hsg, hsu, hsl⟩, hpt, hts, hgt,
    htu, htl⟩ := hnd'
  have hu0 : rootPtr u ≠ 0 := by
    rcases rootPtr_eq_zero_or_mem u with h | h
    · exact absurd h hu
    · exact (hptr _ (by simp [Ctx.labels, h])).1
  obtain ⟨sa, hsa, hua, hroota, hframea⟩ := rb_set_parent_black_if_spec g hurep hund
    (fun h => (hptr 0 (by simp [Ctx.labels, h])).1 rfl)
  rw [rb_set_parent_black_if, if_pos hu0] at hsa
  have hpa : sa.node p = some (mkNode d1 (g + colorBit .red) (rootPtr t) (rootPtr s1)) := by
    rw [hframea p hpu, hpcell]
  let sb := sa.store p (mkNode d1 (g + RB_BLACK) (rootPtr t) (rootPtr s1))
  have hgb : sb.node g = some (mkNode d (ctxPtr up + colorBit .black) p (rootPtr u)) := by
    simp only [sb, store_node_ne _ _ (Ne.symm hpg)]
    rw [hframea g hgu, hgcell]
  let sc := sb.store g (mkNode d (ctxPtr up + RB_RED) p (rootPtr u))
  have hframe : ∀ q, q ≠ p → q ≠ g → q ∉ u.toList → sc.node q = s.node q := by
    intro q h1 h2 h3
    simp only [sc, sb, store_node_ne _ _ h1, store_node_ne _ _ h2]
    exact hframea q h3
  refine ⟨sa, sb, sc, hsa, ?_, ?_, ?_, ⟨rep_build.mpr ⟨?_, rep_build.mpr ⟨?_, ?_, ?_⟩, ?_⟩, ?_,
    hperm.nodup_iff.mpr hnd, fun q hq => hptr q (hperm.mem_iff.mp hq)⟩, ?_⟩
  · rw [rb_set_parent_color_eq hpa, mkNode_with_pc]
  · rw [hgb, Option.map_some, (mkNode_pack_reads (d := d) .black hmod).1]
  · rw [rb_set_parent_color_eq hgb, mkNode_with_pc]
  · rw [rootPtr_build, rootPtr_blacken]
    exact store_node_self ..
  · simp only [sc, sb, store_node_ne _ _ hpg, store_node_self]
    rfl
  · exact hrep.congr fun q hq => hframe q (fun h => hpt (h ▸ hq)) (fun h => hgt (h ▸ hq))
      (fun h => htu hq h)
  · exact hs1.congr fun q hq => hframe q (fun h => hps (h ▸ hq)) (fun h => hsg (h ▸ hq))
      (fun h => hsu hq h)
  · refine hua.congr fun q hq => ?_
    rw [toList_blacken] at hq
    have h1 : q ≠ p := fun h => hpu (h ▸ hq)
    have h2 : q ≠ g := fun h => hgu (h ▸ hq)
    simp only [sc, sb, store_node_ne _ _ h1, store_node_ne _ _ h2]
  · rw [rootPtr_build]
    refine hup.congr hroota fun q hq => hframe q ?_ ?_ ?_
    · exact fun h => hpl (h ▸ hq)
    · exact fun h => hgl (h ▸ hq)
    · exact fun h => hul h hq
  · intro q hq
    simp only [Ctx.mem_plug, Ctx.labels, List.mem_cons, List.mem_append, not_or] at hq
    exact hframe q hq.2.1 hq.2.2.2.1 hq.2.2.2.2.1

end Rotations

/-! ## The loop -/

/-- `tmp && rb_is_red(tmp)` reads the colour of the tree at `tmp`. -/
theorem rb_is_red_if_spec {s : RbState} {u : CTree Ptr} {par : ℕ} (h : Rep s u par)
    (hmod : par % 4 = 0) (h0 : 0 ∉ u.toList) :
    rb_is_red_if s (rootPtr u) = some (u.color == .red) := by
  cases u with
  | leaf => rfl
  | node c l p r =>
    obtain ⟨hcell, -, -⟩ := h
    have hp : p ≠ 0 := by rintro rfl; simp at h0
    rw [rb_is_red_if, rootPtr_node, if_pos hp, hcell, Option.map_some, RbNode.rb_is_red,
      (mkNode_pack_reads c hmod).2]
    cases c <;> rfl

/-- `parent != gparent->rb_right` decides on which side of the grandparent the parent is. -/
theorem side_eq {d : Dir} {pc p y : ℕ} (h : p ≠ y) :
    (if p ≠ (mkNode d pc p y).rb_right then Dir.left else Dir.right) = d := by
  cases d with
  | left => exact if_pos h
  | right => exact if_neg (fun h => h rfl)

/-- On the outer side the rotation at the grandparent is enough: case 3 only. -/
theorem rb_insert_rotate_outer_spec {s : RbState} {d : Dir} {t s1 u : CTree Ptr} {p g n : ℕ} {up : Ctx Ptr}
    (h : Focus s t (⟨d, .red, p, s1⟩ :: ⟨d, .black, g, u⟩ :: up)) (htc : t.color = .red)
    (ht : Bal t n) (hs1 : Bal s1 n) (hs1c : s1.color = .black) (hu : Bal u n)
    (huc : u.color = .black) :
    ∃ s' r, rb_insert_rotate d s (rootPtr t) p g = some s' ∧ Focus s' r up
      ∧ Bal r (n + 1) ∧ r.color = .black
      ∧ r.toList = (build d .black (build d .red t p s1) g u).toList
      ∧ ∀ q, q ∉ (Ctx.plug t (⟨d, .red, p, s1⟩ :: ⟨d, .black, g, u⟩ :: up)).toList →
          s'.node q = s.node q := by
  have hmod : ctxPtr up % 4 = 0 := (focus_up.mp (focus_up.mp h)).ctxPtr_mod
  obtain ⟨hrep, ⟨hpcell, hs1rep, hgcell, hurep, hup⟩, hnd, hptr⟩ := h
  simp only [ctxPtr_cons] at hrep hpcell hs1rep hgcell hurep hup
  simp only [Ctx.labels] at hnd hptr
  have htmem : rootPtr t ∈ t.toList := by
    rcases rootPtr_eq_zero_or_mem t with h | h
    · rw [h] at htc; cases htc
    · exact h
  have hperm : (t.toList ++ p :: (s1.toList ++ g :: (u.toList ++ Ctx.labels up))).Perm
      (p :: g :: (t.toList ++ (s1.toList ++ (u.toList ++ Ctx.labels up)))) := by
    rw [List.perm_iff_count]
    intro x
    simp only [List.count_append, List.count_cons, beq_iff_eq]
    omega
  obtain ⟨s', hs', hfoc, hframe⟩ := rb_insert_case3_spec hpcell hgcell hrep hs1rep hurep hup
    (hperm.nodup_iff.mp hnd) (fun q hq => hptr q (hperm.mem_iff.mpr hq)) hmod
  rw [blacken_of_black hs1c] at hfoc
  refine ⟨s', _, ?_, hfoc, .build_black ht (.build_red hu hs1 huc hs1c), color_build ..,
    toList_rotate_outer .., ?_⟩
  · have hne : rootPtr t ≠ rootPtr s1 := by
      intro he
      have hd := (List.nodup_append'.mp hnd).2.2 htmem
      rcases rootPtr_eq_zero_or_mem s1 with h | h
      · rw [h, rootPtr_leaf] at he
        exact (hptr _ (List.mem_append_left _ htmem)).1 he
      · exact hd (by simp [he, h])
    simp only [rb_insert_rotate, hpcell, Option.bind_eq_bind, Option.bind_some,
      mkNode_child_flip, if_neg hne, hs']
  · intro q hq
    refine hframe q fun hm => hq ?_
    rw [Ctx.mem_plug, ← List.mem_append]
    exact hperm.mem_iff.mpr hm

/-- On the inner side the rotation at the parent comes first: case 2, then case 3. -/
theorem rb_insert_rotate_inner_spec {s : RbState} {d : Dir} {t s1 u : CTree Ptr} {p g n : ℕ} {up : Ctx Ptr}
    (h : Focus s t (⟨d.flip, .red, p, s1⟩ :: ⟨d, .black, g, u⟩ :: up)) (htc : t.color = .red)
    (ht : Bal t n) (hs1 : Bal s1 n) (hs1c : s1.color = .black) (hu : Bal u n)
    (huc : u.color = .black) :
    ∃ s' r, rb_insert_rotate d s (rootPtr t) p g = some s' ∧ Focus s' r up
      ∧ Bal r (n + 1) ∧ r.color = .black
      ∧ r.toList = (build d .black (build d.flip .red t p s1) g u).toList
      ∧ ∀ q, q ∉ (Ctx.plug t (⟨d.flip, .red, p, s1⟩ :: ⟨d, .black, g, u⟩ :: up)).toList →
          s'.node q = s.node q := by
  have hmod : ctxPtr up % 4 = 0 := (focus_up.mp (focus_up.mp h)).ctxPtr_mod
  obtain ⟨hrep, ⟨hpcell, hs1rep, hgcell, hurep, hup⟩, hnd, hptr⟩ := h
  simp only [ctxPtr_cons] at hrep hpcell hs1rep hgcell hurep hup
  simp only [Ctx.labels] at hnd hptr
  obtain ⟨c, a, m, b, rfl⟩ := exists_build d (t := t) (by rintro rfl; cases htc)
  rw [color_build] at htc
  subst htc
  obtain ⟨ha, hb, hac, hbc⟩ := ht.of_build_red
  obtain ⟨hmcell, harep, hbrep⟩ := rep_build.mp hrep
  rw [mkNode_flip, rootPtr_build] at hpcell
  have hperm : ((build d .red a m b).toList ++ p :: (s1.toList ++ g :: (u.toList
      ++ Ctx.labels up))).Perm
      (m :: g :: ((build d .red s1 p a.blacken).toList ++ (b.toList ++ (u.toList
        ++ Ctx.labels up)))) := by
    rw [List.perm_iff_count]
    intro x
    simp only [List.count_append, List.count_cons, count_build, toList_blacken, beq_iff_eq]
    omega
  have hnd2 := hperm.nodup_iff.mp hnd
  have hptr2 := fun q hq => hptr q (hperm.mem_iff.mpr hq)
  have hnd3 : (p :: m :: (s1.toList ++ (a.toList ++ b.toList))).Nodup := by
    have hsplit : ((build d .red a m b).toList ++ p :: (s1.toList ++ g :: (u.toList
        ++ Ctx.labels up))).Perm
        ((p :: m :: (s1.toList ++ (a.toList ++ b.toList))) ++ (g :: (u.toList
          ++ Ctx.labels up))) := by
      rw [List.perm_iff_count]
      intro x
      simp only [List.count_append, List.count_cons, count_build, beq_iff_eq]
      omega
    exact (hsplit.nodup_iff.mp hnd).of_append_left
  obtain ⟨s2, hs2, hm2, hx2, hb2, hroot2, hframe2⟩ := rb_insert_case2_spec hpcell hmcell hs1rep
    harep hbrep hnd3 (fun h => (hptr 0 (by
      rw [List.mem_append, mem_build]; exact .inl (.inr (.inl h)))).1 rfl)
  have hnd4 := hnd2
  simp only [List.nodup_cons, List.mem_cons, List.mem_append, mem_build, toList_blacken,
    not_or, List.nodup_append'] at hnd4
  obtain ⟨⟨hmg, -, hmu, hml, hml'⟩, ⟨⟨hgp, hgs, hga⟩, hgb, hgu, hgl⟩, -, -, hdisj⟩ := hnd4
  have houtside : ∀ q, (q = p ∨ q ∈ s1.toList ∨ q ∈ a.toList) → q ∉ u.toList ∧ q ∉ Ctx.labels up := by
    intro q hq
    have hq' : q ∈ (build d .red s1 p a.blacken).toList := by
      rw [mem_build, toList_blacken]; exact hq
    have hout := hdisj hq'
    exact ⟨fun h => hout (by simp [h]), fun h => hout (by simp [h])⟩
  -- the first rotation has left `g` alone: it still has `p` as its child, which the second repairs
  have hg2 : s2.node g = some (mkNode d (ctxPtr up + colorBit .black) p (rootPtr u)) := by
    rw [hframe2 g hgp (Ne.symm hmg) hga, hgcell]
  obtain ⟨s', hs', hfoc, hframe⟩ := rb_insert_case3_spec (n := build d .red s1 p a.blacken)
    (by rw [rootPtr_build]; exact hm2) hg2 hx2 hb2
    (hurep.congr fun q hq => hframe2 q (fun h => (houtside q (.inl h)).1 hq)
      (fun h => hml (h ▸ hq)) (fun h => (houtside q (.inr (.inr h))).1 hq))
    (hup.congr hroot2 fun q hq => hframe2 q (fun h => (houtside q (.inl h)).2 hq)
      (fun h => hml' (h ▸ hq)) (fun h => (houtside q (.inr (.inr h))).2 hq))
    hnd2 hptr2 hmod
  rw [blacken_of_black hbc, blacken_of_black hac] at hfoc
  refine ⟨s', _, ?_, hfoc, .build_black (.build_red hs1 ha hs1c hac) (.build_red hu hb huc hbc),
    color_build .., ?_, ?_⟩
  · simp only [rb_insert_rotate, hpcell, Option.bind_eq_bind, Option.bind_some,
      mkNode_child_flip, rootPtr_build, if_true, hs2, hs']
  · rw [build_flip d .red (build d .red a m b)]
    exact toList_rotate_inner ..
  · intro q hq
    have hq' : q ∉ m :: g :: ((build d .red s1 p a.blacken).toList ++ (b.toList ++ (u.toList
        ++ Ctx.labels up))) := by
      intro hm
      refine hq ?_
      rw [Ctx.mem_plug, ← List.mem_append]
      exact hperm.mem_iff.mpr hm
    rw [hframe q hq']
    simp only [List.mem_cons, List.mem_append, mem_build, toList_blacken, not_or] at hq'
    exact hframe2 q hq'.2.2.1.1 hq'.1 hq'.2.2.1.2.2

/-- Below a black uncle the rotations finish the insertion. -/
theorem rb_insert_rotate_spec {s : RbState} {d d1 : Dir} {t s1 u : CTree Ptr} {p g n : ℕ}
    {up : Ctx Ptr} (h : Focus s t (⟨d1, .red, p, s1⟩ :: ⟨d, .black, g, u⟩ :: up))
    (htc : t.color = .red) (ht : Bal t n) (hs1 : Bal s1 n) (hs1c : s1.color = .black)
    (hu : Bal u n) (huc : u.color = .black) :
    ∃ s' r, rb_insert_rotate d s (rootPtr t) p g = some s' ∧ Focus s' r up
      ∧ Bal r (n + 1) ∧ r.color = .black
      ∧ r.toList = (build d .black (build d1 .red t p s1) g u).toList
      ∧ ∀ q, q ∉ (Ctx.plug t (⟨d1, .red, p, s1⟩ :: ⟨d, .black, g, u⟩ :: up)).toList →
          s'.node q = s.node q := by
  by_cases hd : d1 = d
  · subst hd
    exact rb_insert_rotate_outer_spec h htc ht hs1 hs1c hu huc
  · obtain rfl : d1 = d.flip := by cases d <;> cases d1 <;> first | rfl | exact absurd rfl hd
    exact rb_insert_rotate_inner_spec h htc ht hs1 hs1c hu huc

/-- **The loop of `__rb_insert`.** From a red node whose only fault may be a red parent, the
loop returns with a red-black tree of the same order, and touches no cell outside it. -/
theorem rb_insert_spec {fuel : ℕ} : ∀ {s : RbState} {t : CTree Ptr} {ctx : Ctx Ptr} {n : ℕ},
    Focus s t ctx → t.color = .red → Bal t n → CtxBal ctx n → ctx.length < fuel →
    ∃ s' t', rb_insert fuel s (rootPtr t) (ctxPtr ctx) = some s' ∧ IsTree s' t'
      ∧ IsRedBlack t' ∧ t'.toList = (Ctx.plug t ctx).toList
      ∧ ∀ q, q ∉ (Ctx.plug t ctx).toList → s'.node q = s.node q := by
  induction fuel with
  | zero => intro s t ctx n _ _ _ _ h; omega
  | succ fuel ih =>
    intro s t ctx n hfoc htc ht hctx hlen
    cases hctx with
    | nil =>
      -- the node is the root: blacken it
      cases t with
      | leaf => cases htc
      | node c l p r =>
        have hnd := hfoc.nodup
        simp only [Ctx.labels, List.append_nil] at hnd
        have hpl : p ∉ l.toList := fun hm => by
          have := List.disjoint_of_nodup_append hnd hm
          simp at this
        have hpr : p ∉ r.toList := (List.nodup_cons.mp hnd.of_append_right).1
        obtain ⟨hcell, hl, hr⟩ := hfoc.rep
        refine ⟨s.store p (mkNode .left (0 + colorBit .black) (rootPtr l) (rootPtr r)),
          .node .black l p r, ?_, ⟨⟨store_node_self .., hl.congr ?_, hr.congr ?_⟩, hfoc.repCtx,
          hfoc.nodup, hfoc.ptr⟩, ⟨rfl, n + 1, ht.blacken_red htc⟩, rfl, ?_⟩
        · rw [rb_insert, ctxPtr_nil, if_pos rfl, rootPtr_node, rb_set_parent_color_eq hcell,
            mkNode_with_pc]
          rfl
        · intro q hq
          exact store_node_ne _ _ (fun h => hpl (h ▸ hq))
        · intro q hq
          exact store_node_ne _ _ (fun h => hpr (h ▸ hq))
        · intro q hq
          exact store_node_ne _ _ (fun h => hq (by simp [h]))
    | @black d p s1 up _ hs1 hup =>
      -- a black parent: nothing to do
      obtain ⟨hcell, -, -⟩ := hfoc.repCtx
      have hp0 : p ≠ 0 := (hfoc.ptr p (by simp [Ctx.labels])).1
      have hmod : ctxPtr up % 4 = 0 := (focus_up.mp hfoc).ctxPtr_mod
      refine ⟨s, Ctx.plug t (⟨d, .black, p, s1⟩ :: up), ?_, focus_iff_isTree.mp hfoc, ?_, rfl,
        fun _ _ => rfl⟩
      · simp only at hcell
        rw [rb_insert, ctxPtr_cons, if_neg hp0, hcell]
        simp only [Option.bind_eq_bind, Option.bind_some, (mkNode_pack_reads .black hmod).2,
          beq_self_eq_true, if_true, Option.pure_def]
      · obtain ⟨hbal, hcol⟩ := (CtxBal.black (d := d) (a := p) hs1 hup).plug ht (.inr rfl)
        refine ⟨?_, hbal⟩
        simpa using hcol
    | @red d1 p s1 up _ hs1 hs1c hupc hne hup =>
      -- a red parent is not the root, and its parent is black
      cases hup with
      | nil => exact absurd rfl hne
      | red => cases hupc
      | @black d g u up _ hu hup =>
        have hpcell := hfoc.repCtx.1
        have hgcell := hfoc.repCtx.2.2.1
        have hurep := hfoc.repCtx.2.2.2.1
        simp only [ctxPtr_cons] at hpcell hgcell hurep
        have hp0 : p ≠ 0 := (hfoc.ptr p (by simp [Ctx.labels])).1
        have hgmod : g % 4 = 0 := (hfoc.ptr g (by simp [Ctx.labels])).2
        have hpu : p ≠ rootPtr u := by
          rintro rfl
          rcases rootPtr_eq_zero_or_mem u with h | h
          · rw [h] at hp0; exact hp0 rfl
          · exact (List.nodup_cons.mp hfoc.nodup.of_append_right).1 (by simp [Ctx.labels, h])
        have hstep : rb_insert (fuel + 1) s (rootPtr t) p
            = if u.color == .red then (do
                let s ← rb_set_parent_color s (rootPtr u) g RB_BLACK
                let s ← rb_set_parent_color s p g RB_BLACK
                let ng ← s.node g
                let s ← rb_set_parent_color s g ng.rb_parent RB_RED
                rb_insert fuel s g ng.rb_parent)
              else rb_insert_rotate d s (rootPtr t) p g := by
          have hred : rb_is_red_if s (rootPtr u) = some (u.color == .red) :=
            rb_is_red_if_spec hurep hgmod (fun h => (hfoc.ptr 0 (by simp [Ctx.labels, h])).1 rfl)
          rw [rb_insert, if_neg hp0, hpcell]
          simp only [Option.bind_eq_bind, Option.bind_some, (mkNode_pack_reads .red hgmod).2]
          have hg : (mkNode d1 (g + colorBit .red) (rootPtr t) (rootPtr s1)).rb_red_parent = g := by
            rw [RbNode.rb_red_parent, mkNode_pc]; rfl
          rw [if_neg (by decide), hg, hgcell]
          simp only [Option.bind_some, side_eq hpu, mkNode_child_flip, hred]
        rw [ctxPtr_cons, hstep]
        by_cases huc : u.color = .red
        · -- red uncle: the fault moves to the grandparent
          have hune : u ≠ .leaf := by rintro rfl; cases huc
          obtain ⟨sa, sb, sc, ha, hb, hpar, hc, hfoc', hframe⟩ := rb_insert_case1_spec hfoc hune
          have ht' : Bal (build d .red (build d1 .black t p s1) g u.blacken) (n + 1) :=
            .build_red (.build_black ht hs1) (hu.blacken_red huc) (color_build ..)
              (color_blacken _)
          obtain ⟨s', t', hs', htree, hrb, hlist, hframe'⟩ := ih hfoc' (color_build ..) ht' hup
            (by simp only [List.length_cons] at hlen; omega)
          obtain ⟨ng, hng, hngp⟩ := Option.map_eq_some_iff.mp hpar
          have hord : (Ctx.plug (build d .red (build d1 .black t p s1) g u.blacken) up).toList
              = (Ctx.plug t (⟨d1, .red, p, s1⟩ :: ⟨d, .black, g, u⟩ :: up)).toList := by
            refine Ctx.toList_plug_congr ?_ up
            cases d <;> cases d1 <;> simp [build]
          refine ⟨s', t', ?_, htree, hrb, hlist.trans hord, ?_⟩
          · rw [if_pos (by rw [huc]; rfl)]
            simp only [Option.bind_eq_bind, ha, hb, hng, hngp, hc, Option.bind_some]
            rw [rootPtr_build] at hs'
            exact hs'
          · intro q hq
            rw [hframe' q (by rwa [hord]), hframe q hq]
        · -- black uncle: one or two rotations, and done
          have huc' : u.color = .black := by
            cases h : u.color with
            | red => exact absurd h huc
            | black => rfl
          obtain ⟨s', r, hs', hfoc', hr, hrc, hlist, hframe⟩ :=
            rb_insert_rotate_spec hfoc htc ht hs1 hs1c hu huc'
          obtain ⟨hbal, hcol⟩ := hup.plug hr (.inl hrc)
          refine ⟨s', Ctx.plug r up, ?_, focus_iff_isTree.mp hfoc', ⟨?_, hbal⟩, ?_, hframe⟩
          · rw [if_neg (by rw [huc']; decide), hs']
          · rw [hcol, hrc, ite_self]
          · exact Ctx.toList_plug_congr hlist up

/-! ## Linking a new node in -/

/-- The link `rb_link_node` writes: the hole of a context. -/
def ctxLink : Ctx Ptr → RbLink
  | [] => .root
  | f :: _ => .child f.dir f.label

theorem read_link_spec {s : RbState} {ctx : Ctx Ptr} {cp : ℕ} (h : RepCtx s ctx cp) :
    s.read_link (ctxLink ctx) = some cp := by
  cases ctx with
  | nil => exact congrArg some h
  | cons f up => rw [ctxLink, RbState.read_link, h.1, Option.map_some, mkNode_child]

/-- `rb_link_node` at an empty hole puts a red leaf node there. -/
theorem rb_link_node_spec {s : RbState} {ctx : Ctx Ptr} {node : ℕ} (h : Focus s .leaf ctx)
    (hcell : s.node node ≠ none) (hnode : NodePtr node) (hnew : node ∉ Ctx.labels ctx) :
    ∃ s', rb_link_node s node (ctxPtr ctx) (ctxLink ctx) = some s'
      ∧ Focus s' (.node .red .leaf node .leaf) ctx
      ∧ ∀ q, q ≠ node → q ∉ Ctx.labels ctx → s'.node q = s.node q := by
  obtain ⟨old, hold⟩ := Option.ne_none_iff_exists'.mp hcell
  have hlab : (Ctx.labels ctx).Nodup := by simpa using h.nodup
  have hnd : (CTree.toList (.node .red .leaf node .leaf) ++ Ctx.labels ctx).Nodup := by
    simp only [toList_node, toList_leaf, List.nil_append, List.cons_append, List.nodup_cons]
    exact ⟨hnew, hlab⟩
  have hptr : ∀ q ∈ CTree.toList (.node .red .leaf node .leaf) ++ Ctx.labels ctx, NodePtr q := by
    intro q hq
    simp only [toList_node, toList_leaf, List.nil_append, List.cons_append, List.mem_cons] at hq
    rcases hq with rfl | hq
    · exact hnode
    · exact h.ptr q (by simp [hq])
  let sa := s.store node ⟨ctxPtr ctx, 0, 0⟩
  have hrepa : ∀ s' : RbState, s'.node node = sa.node node →
      Rep s' (.node .red .leaf node .leaf) (ctxPtr ctx) := by
    intro s' hs'
    exact ⟨by rw [hs']; exact store_node_self .., trivial, trivial⟩
  cases ctx with
  | nil =>
    -- the tree was empty: the link is the root pointer
    refine ⟨{ sa with rb_node := node }, ?_, ⟨hrepa _ rfl, rfl, hnd, hptr⟩, ?_⟩
    · simp only [rb_link_node, hold, Option.bind_eq_bind, Option.bind_some, ctxLink,
        RbState.write_link]
      rfl
    · intro q hq _
      exact store_node_ne _ _ hq
  | cons f up =>
    -- the link is a child pointer of the parent
    obtain ⟨hf, hsib, hup⟩ := h.repCtx
    rw [Ctx.labels, List.nodup_cons] at hlab
    have hne : f.label ≠ node := fun h => hnew (by simp [Ctx.labels, h])
    have hfa : sa.node f.label
        = some (mkNode f.dir (ctxPtr up + colorBit f.color) 0 (rootPtr f.sib)) := by
      simp only [sa, store_node_ne _ _ hne, hf, rootPtr_leaf]
    let sb := sa.store f.label (mkNode f.dir (ctxPtr up + colorBit f.color) node (rootPtr f.sib))
    have hframe : ∀ q, q ≠ node → q ≠ f.label → sb.node q = s.node q := fun q h1 h2 => by
      simp only [sb, sa, store_node_ne _ _ h1, store_node_ne _ _ h2]
    refine ⟨sb, ?_, ⟨hrepa _ ?_, ⟨store_node_self .., hsib.congr ?_, hup.congr rfl ?_⟩, hnd, hptr⟩,
      ?_⟩
    · have hwrite : sa.set_child f.dir f.label node = some sb := by
        rw [set_child_eq hfa, mkNode_setChild]
      simp only [rb_link_node, hold, Option.bind_eq_bind, Option.bind_some, ctxLink,
        RbState.write_link, ctxPtr_cons]
      exact hwrite
    · exact store_node_ne _ _ hne.symm
    · intro q hq
      exact hframe q (fun h => hnew (by simp [Ctx.labels, ← h, hq]))
        (fun h => hlab.1 (by simp [← h, hq]))
    · intro q hq
      exact hframe q (fun h => hnew (by simp [Ctx.labels, ← h, hq]))
        (fun h => hlab.1 (by simp [← h, hq]))
    · intro q h1 h2
      exact hframe q h1 (fun h => h2 (by simp [Ctx.labels, h]))

/-- `rb_link_node` and `rb_insert_color` at a hole of a red-black tree. -/
theorem rb_link_insert_spec {s : RbState} {ctx : Ctx Ptr} {node fuel : ℕ}
    (h : Focus s .leaf ctx) (hrb : IsRedBlack (Ctx.plug .leaf ctx))
    (hcell : s.node node ≠ none) (hnode : NodePtr node) (hnew : node ∉ Ctx.labels ctx)
    (hfuel : ctx.length < fuel) :
    ∃ s' t', (do rb_insert_color fuel (← rb_link_node s node (ctxPtr ctx) (ctxLink ctx)) node)
        = some s'
      ∧ IsTree s' t' ∧ IsRedBlack t'
      ∧ t'.toList = Ctx.before ctx ++ node :: Ctx.after ctx
      ∧ ∀ q, q ≠ node → q ∉ Ctx.labels ctx → s'.node q = s.node q := by
  obtain ⟨hcol, m, hbal⟩ := hrb
  obtain ⟨n, hctx, hleaf, -⟩ := CtxBal.of_plug hbal hcol
  cases hleaf
  obtain ⟨sa, ha, hfoca, hframea⟩ := rb_link_node_spec h hcell hnode hnew
  obtain ⟨s', t', hs', htree, hrb', hlist, hframe⟩ :=
    rb_insert_spec hfoca rfl (.red .leaf .leaf rfl rfl) hctx hfuel
  refine ⟨s', t', ?_, htree, hrb', ?_, ?_⟩
  · simp only [ha, Option.bind_eq_bind, Option.bind_some, rb_insert_color, hfoca.rep.1]
    exact hs'
  · rw [hlist, Ctx.toList_plug]
    simp
  · intro q h1 h2
    rw [hframe q, hframea q h1 h2]
    simp [Ctx.mem_plug, h1, h2]

/-! ## Exchanging a node -/

/-- `if (child) rb_set_parent(child, p)` keeps the colour of the tree at `child`. -/
theorem rb_set_parent_if_spec {s : RbState} {t : CTree Ptr} {par : ℕ} (p : ℕ)
    (h : Rep s t par) (hmod : par % 4 = 0) (hnd : t.toList.Nodup) (h0 : 0 ∉ t.toList) :
    ∃ s', rb_set_parent_if s (rootPtr t) p = some s'
      ∧ Rep s' t p ∧ s'.rb_node = s.rb_node ∧ ∀ q, q ∉ t.toList → s'.node q = s.node q := by
  cases t with
  | leaf => exact ⟨s, by simp [rb_set_parent_if], trivial, rfl, fun _ _ => rfl⟩
  | node c l r0 r =>
    have hr0 : r0 ≠ 0 := by rintro rfl; simp at h0
    refine ⟨s.store r0 (mkNode .left (p + colorBit c) (rootPtr l) (rootPtr r)), ?_,
      h.store_root hnd c p, rfl, ?_⟩
    · rw [rb_set_parent_if, rootPtr_node, if_pos hr0]
      simp only [rb_set_parent, h.1, Option.bind_eq_bind, Option.bind_some, mkNode_pc,
        mkNode_with_pc, rb_color_of_pack c hmod, Nat.add_comm (colorBit c), Option.pure_def]
    · intro q hq
      exact store_node_ne _ _ (fun h => hq (by simp [h]))

/-- `rb_replace_node` in focus: the new address stands where the victim stood. -/
theorem rb_replace_focus_spec {s : RbState} {c : Color} {l r : CTree Ptr} {victim new : ℕ}
    {ctx : Ctx Ptr} (h : Focus s (.node c l victim r) ctx) (hcell : s.node new ≠ none)
    (hnode : NodePtr new) (hnew : new ∉ (CTree.node c l victim r).toList ++ Ctx.labels ctx) :
    ∃ s', rb_replace_node s victim new = some s' ∧ Focus s' (.node c l new r) ctx
      ∧ ∀ q, q ≠ new → q ∉ (Ctx.plug (.node c l victim r) ctx).toList →
          s'.node q = s.node q := by
  have hmod := h.ctxPtr_mod
  obtain ⟨⟨hv, hl, hr⟩, hctx, hnd, hptr⟩ := h
  obtain ⟨old, hold⟩ := Option.ne_none_iff_exists'.mp hcell
  have hv4 : victim % 4 = 0 := (hptr victim (by simp)).2
  have hv0 : victim ≠ 0 := (hptr victim (by simp)).1
  have hnd' := hnd
  simp only [toList_node, List.nodup_append', List.nodup_cons, List.mem_append, List.mem_cons,
    List.append_assoc, List.cons_append, not_or, List.disjoint_cons_right,
    List.disjoint_append_right] at hnd' hnew
  obtain ⟨hlnd, ⟨⟨hvr, hvc⟩, hrnd, hcnd, hrc⟩, hvl, hlr, hlc⟩ := hnd'
  obtain ⟨hnl, hnv, hnr, hnc⟩ := hnew
  have hl0 : 0 ∉ l.toList := fun h => (hptr 0 (by simp [h])).1 rfl
  have hr0 : 0 ∉ r.toList := fun h => (hptr 0 (by simp [h])).1 rfl
  have hc0 : 0 ∉ Ctx.labels ctx := fun h => (hptr 0 (by simp [h])).1 rfl
  -- `new` gets the words of `victim`; then the children and the parent are led to it
  let sa := s.store new (mkNode .left (ctxPtr ctx + colorBit c) (rootPtr l) (rootPtr r))
  have hsa : ∀ q, q ≠ new → sa.node q = s.node q := fun q hq => store_node_ne _ _ hq
  have hla : Rep sa l victim := hl.congr fun q hq => hsa q (fun h => hnl (h ▸ hq))
  obtain ⟨sb, hsb, hlb, hrootb, hframeb⟩ := rb_set_parent_if_spec new hla hv4 hlnd hl0
  have hrb : Rep sb r victim := hr.congr fun q hq => by
    rw [hframeb q fun h => hlr h hq, hsa q (fun h => hnr (h ▸ hq))]
  obtain ⟨sc, hsc, hrcc, hrootc, hframec⟩ := rb_set_parent_if_spec new hrb hv4 hrnd hr0
  have hframe : ∀ q, q ≠ new → q ∉ l.toList → q ∉ r.toList → sc.node q = s.node q :=
    fun q h1 h2 h3 => by rw [hframec q h3, hframeb q h2, hsa q h1]
  have hctxc : RepCtx sc ctx victim := hctx.congr (hrootc.trans hrootb) fun q hq =>
    hframe q (fun h => hnc (h ▸ hq)) (fun h => hlc h hq) (fun h => hrc h hq)
  obtain ⟨sd, hsd, hctxd, hframed⟩ := rb_change_child_spec new hctxc hv0 hvc hcnd hc0
  have hperm : ∀ x : ℕ, ((CTree.node c l x r).toList ++ Ctx.labels ctx).Perm
      (x :: (l.toList ++ (r.toList ++ Ctx.labels ctx))) := by
    intro x
    simp only [toList_node, List.append_assoc, List.cons_append]
    exact List.perm_middle
  refine ⟨sd, ?_, ⟨⟨?_, ?_, ?_⟩, hctxd, ?_, ?_⟩, ?_⟩
  · have hva : sa.node victim
        = some (mkNode .left (ctxPtr ctx + colorBit c) (rootPtr l) (rootPtr r)) := by
      rw [hsa victim (Ne.symm hnv), hv]
    have hvb : sb.node victim
        = some (mkNode .left (ctxPtr ctx + colorBit c) (rootPtr l) (rootPtr r)) := by
      rw [hframeb victim hvl, hva]
    have hleft : ∀ pc x y, (mkNode .left pc x y).rb_left = x := fun _ _ _ => rfl
    have hright : ∀ pc x y, (mkNode .left pc x y).rb_right = y := fun _ _ _ => rfl
    have hread : (mkNode .left (ctxPtr ctx + colorBit c) (rootPtr l) (rootPtr r)).rb_parent
        = ctxPtr ctx := (mkNode_pack_reads c hmod).1
    have hstore : s.store new (mkNode .left (ctxPtr ctx + colorBit c) (rootPtr l) (rootPtr r))
        = sa := rfl
    simp only [rb_replace_node, hv, hold, hread, hstore, hva, hleft, hright, hsb, hvb, hsc,
      Option.bind_eq_bind, Option.bind_some]
    exact hsd
  · rw [hframed new hnc, hframec new hnr, hframeb new hnl]
    exact store_node_self ..
  · exact hlb.congr fun q hq => by
      rw [hframed q fun h => hlc hq h, hframec q fun h => hlr hq h]
  · exact hrcc.congr fun q hq => by rw [hframed q fun h => hrc hq h]
  · rw [(hperm new).nodup_iff, List.nodup_cons]
    rw [(hperm victim).nodup_iff, List.nodup_cons] at hnd
    exact ⟨by simp [hnl, hnr, hnc], hnd.2⟩
  · intro q hq
    rcases List.mem_cons.mp ((hperm new).mem_iff.mp hq) with rfl | hq
    · exact hnode
    · exact hptr q ((hperm victim).mem_iff.mpr (List.mem_cons_of_mem _ hq))
  · intro q h1 h2
    simp only [Ctx.mem_plug, toList_node, List.mem_append, List.mem_cons, not_or] at h2
    rw [hframed q h2.2, hframe q h1 h2.1.1 h2.1.2.2]

end Svmx.RbTree
