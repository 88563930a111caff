/-
`rb_erase` keeps the red-black invariant.

`__rb_erase_augmented` takes the node out; its place, or the place of its successor, is left to a
subtree that may be one black node short. `____rb_erase_color` walks up from there. In `Focus`
terms its loop has a black tree `t` with `Bal t n` in a context with `CtxBal ctx (n + 1)`: the
sibling then has a black height of at least one and is not NULL. A red sibling is rotated away
without moving the focus; a black one with black children is turned red, which ends the loop at a
red parent and moves it up at a black one; one with a red child ends the loop with one or two
rotations.
-/
import Svmx.RbInsert

set_option autoImplicit false

namespace Svmx.RbTree

open ColorTree ColorTree.CTree

/-! ## Rotations -/

section Rotations

variable {s : RbState} {d : Dir} {up : Ctx Ptr}

/-- `__rb_rotate_set_parents`: `new` takes the word of `old` and its place under `up`. -/
theorem rb_rotate_set_parents_spec {old new : ℕ} {no nn : RbNode} {c : Color} (color : ℕ)
    (hold : s.node old = some no) (hnew : s.node new = some nn)
    (hword : no.rb_parent_color = ctxPtr up + colorBit c) (hmod : ctxPtr up % 4 = 0)
    (hup : RepCtx s up old) (hne : old ≠ new) (hold0 : old ≠ 0) (holdup : old ∉ Ctx.labels up)
    (hnewup : new ∉ Ctx.labels up) (hnd : (Ctx.labels up).Nodup) (h0 : 0 ∉ Ctx.labels up) :
    ∃ s', rb_rotate_set_parents s old new color = some s'
      ∧ s'.node new = some { nn with rb_parent_color := ctxPtr up + colorBit c }
      ∧ s'.node old = some { no with rb_parent_color := new + color }
      ∧ RepCtx s' up new
      ∧ ∀ q, q ≠ old → q ≠ new → q ∉ Ctx.labels up → s'.node q = s.node q := by
  let sa := s.store new { nn with rb_parent_color := no.rb_parent_color }
  have holda : sa.node old = some no := by
    simp only [sa, store_node_ne _ _ hne, hold]
  let sb := sa.store old { no with rb_parent_color := new + color }
  have hframe : ∀ q, q ≠ old → q ≠ new → sb.node q = s.node q := by
    intro q h1 h2
    simp only [sb, sa, store_node_ne _ _ h1, store_node_ne _ _ h2]
  have hupb : RepCtx sb up old := hup.congr rfl fun q hq =>
    hframe q (fun h => holdup (h ▸ hq)) (fun h => hnewup (h ▸ hq))
  obtain ⟨sc, hsc, hupc, hframec⟩ := rb_change_child_spec new hupb hold0 holdup hnd h0
  have hpar : no.rb_parent = ctxPtr up := by
    rw [RbNode.rb_parent, hword, rb_parent_of_pack c hmod]
  refine ⟨sc, ?_, ?_, ?_, hupc, ?_⟩
  · have hb : rb_set_parent_color sa old new color = some sb := by
      rw [rb_set_parent_color_eq holda]
    simp only [rb_rotate_set_parents, hold, hnew, Option.bind_eq_bind, Option.bind_some, hpar]
    rw [hb, Option.bind_some, hsc]
  · rw [hframec new hnewup]
    simp only [sb, sa, store_node_ne _ _ hne.symm, store_node_self, hword]
  · rw [hframec old holdup]
    simp only [sb, store_node_self]
  · intro q h1 h2 h3
    rw [hframec q h3, hframe q h1 h2]

/-- **Case 4.** The rotation at `p` puts the sibling `m` in `p`'s place, over a black `p` with `m`'s
inner subtree and `m`'s outer subtree, blackened. What the words of `m` and of the root of the outer
subtree held before does not matter: case 3 leaves them stale. -/
theorem rb_erase_case4_spec {t a o : CTree Ptr} {p m pcm x par par' : ℕ} {c : Color}
    (hp : s.node p = some (mkNode d (ctxPtr up + colorBit c) (rootPtr t) x))
    (hm : s.node m = some (mkNode d pcm (rootPtr a) (rootPtr o)))
    (ht : Rep s t p) (ha : Rep s a par) (ho : Rep s o par') (hup : RepCtx s up p)
    (hpar : par % 4 = 0) (hone : o ≠ .leaf)
    (hnd : (p :: m :: (t.toList ++ (a.toList ++ (o.toList ++ Ctx.labels up)))).Nodup)
    (hptr : ∀ q ∈ p :: m :: (t.toList ++ (a.toList ++ (o.toList ++ Ctx.labels up))), NodePtr q)
    (hmod : ctxPtr up % 4 = 0) :
    ∃ s', rb_erase_color_rotate d s p m (rootPtr o) false = some s'
      ∧ Focus s' (build d c (build d .black t p a) m o.blacken) up
      ∧ ∀ q, q ∉ p :: m :: (t.toList ++ (a.toList ++ (o.toList ++ Ctx.labels up))) →
          s'.node q = s.node q := by
  have hperm : ((build d c (build d .black t p a) m o.blacken).toList ++ Ctx.labels up).Perm
      (p :: m :: (t.toList ++ (a.toList ++ (o.toList ++ Ctx.labels up)))) := by
    rw [List.perm_iff_count]
    intro x
    simp only [List.count_append, List.count_cons, count_build, toList_blacken, beq_iff_eq]
    omega
  have hnd' := hnd
  simp only [List.nodup_cons, List.mem_cons, List.mem_append, not_or, List.nodup_append'] at hnd'
  obtain ⟨⟨hpm, hpt, hpa, hpo, hpl⟩, ⟨hmt, hma, hmo, hml⟩, -, ⟨hand, ⟨hond, hlnd, hol⟩, haol⟩,
    htaol⟩ := hnd'
  have h0 : ∀ q ∈ p :: m :: (t.toList ++ (a.toList ++ (o.toList ++ Ctx.labels up))), q ≠ 0 :=
    fun q hq => (hptr q hq).1
  -- the two child pointers
  let sa := s.store p (mkNode d (ctxPtr up + colorBit c) (rootPtr t) (rootPtr a))
  have hma' : sa.node m = some (mkNode d pcm (rootPtr a) (rootPtr o)) := by
    simp only [sa, store_node_ne _ _ (Ne.symm hpm), hm]
  let sb := sa.store m (mkNode d pcm p (rootPtr o))
  have hsb : ∀ q, q ≠ p → q ≠ m → sb.node q = s.node q := fun q h1 h2 => by
    simp only [sb, sa, store_node_ne _ _ h1, store_node_ne _ _ h2]
  -- the outer subtree turns black under `m`, the inner one goes under `p`
  have hob : Rep sb o par' := ho.congr fun q hq =>
    hsb q (fun h => hpo (h ▸ hq)) (fun h => hmo (h ▸ hq))
  obtain ⟨sc, hsc, hoc, hrootc, hframec⟩ := rb_set_parent_black_if_spec m hob hond
    (fun h => h0 0 (by simp [h]) rfl)
  have hac : Rep sc a par := ha.congr fun q hq => by
    rw [hframec q fun h => haol hq (by simp [h]),
      hsb q (fun h => hpa (h ▸ hq)) (fun h => hma (h ▸ hq))]
  obtain ⟨sd, hsd, had, hrootd, hframed⟩ := rb_set_parent_if_spec p hac hpar hand
    (fun h => h0 0 (by simp [h]) rfl)
  have hframe : ∀ q, q ≠ p → q ≠ m → q ∉ a.toList → q ∉ o.toList → sd.node q = s.node q := by
    intro q h1 h2 h3 h4
    rw [hframed q h3, hframec q h4, hsb q h1 h2]
  have hpd : sd.node p = some (mkNode d (ctxPtr up + colorBit c) (rootPtr t) (rootPtr a)) := by
    rw [hframed p hpa, hframec p hpo]
    simp only [sb, sa, store_node_ne _ _ hpm, store_node_self]
  have hmd : sd.node m = some (mkNode d pcm p (rootPtr o)) := by
    rw [hframed m hma, hframec m hmo]
    simp only [sb, store_node_self]
  have hupd : RepCtx sd up p := by
    refine hup.congr ?_ fun q hq => hframe q (fun h => hpl (h ▸ hq)) (fun h => hml (h ▸ hq))
      (fun h => haol h (by simp [hq])) (fun h => hol h hq)
    rw [hrootd, hrootc]
    rfl
  obtain ⟨se, hse, hme, hpe, hupe, hframee⟩ := rb_rotate_set_parents_spec RB_BLACK hpd hmd
    (mkNode_pc ..) hmod hupd hpm (h0 p (by simp)) hpl hml hlnd (fun h => h0 0 (by simp [h]) rfl)
  rw [mkNode_with_pc] at hme hpe
  refine ⟨se, ?_, ⟨rep_build.mpr ⟨?_, rep_build.mpr ⟨?_, ?_, ?_⟩, ?_⟩, by rwa [rootPtr_build],
    hperm.nodup_iff.mpr hnd, fun q hq => hptr q (hperm.mem_iff.mp hq)⟩, ?_⟩
  · have ea : s.set_child d.flip p (rootPtr a) = some sa := by
      rw [set_child_eq hp, mkNode_setChild_flip]
    have eb : sa.set_child d m p = some sb := by rw [set_child_eq hma', mkNode_setChild]
    have ho0 : rootPtr o ≠ 0 := by
      rcases rootPtr_eq_zero_or_mem o with h | h
      · exact absurd h hone
      · exact h0 _ (by simp [h])
    rw [rb_set_parent_black_if, if_pos ho0] at hsc
    simp only [rb_erase_color_rotate, Bool.false_eq_true, if_false, Option.pure_def,
      Option.bind_eq_bind, Option.bind_some, hm, mkNode_child, ea, eb, hsc, hsd, hse]
  · rw [hme, rootPtr_build, rootPtr_blacken]
  · exact hpe
  · refine ht.congr fun q hq => ?_
    have hqp : q ≠ p := fun h => hpt (h ▸ hq)
    have hqm : q ≠ m := fun h => hmt (h ▸ hq)
    rw [hframee q hqp hqm fun h => htaol hq (by simp [h]),
      hframe q hqp hqm (fun h => htaol hq (by simp [h])) (fun h => htaol hq (by simp [h]))]
  · refine had.congr fun q hq => ?_
    exact hframee q (fun h => hpa (h ▸ hq)) (fun h => hma (h ▸ hq)) fun h => haol hq (by simp [h])
  · refine hoc.congr fun q hq => ?_
    rw [toList_blacken] at hq
    rw [hframee q (fun h => hpo (h ▸ hq)) (fun h => hmo (h ▸ hq)) fun h => hol hq h,
      hframed q fun h => haol h (by simp [hq])]
  · intro q hq
    simp only [List.mem_cons, List.mem_append, not_or] at hq
    obtain ⟨h1, h2, -, h4, h5, h6⟩ := hq
    rw [hframee q h1 h2 h6, hframe q h1 h2 h4 h5]

/-- **Cases 3 and 4.** With a red inner child `m` of the black sibling `q`, the rotation at `q` and
then the one at `p` put `m` in `p`'s place, over a black `p` and a black `q`. -/
theorem rb_erase_case3_spec {t a b o : CTree Ptr} {p q m : ℕ} {c : Color}
    (hp : s.node p = some (mkNode d (ctxPtr up + colorBit c) (rootPtr t) q))
    (hq : s.node q = some (mkNode d (p + colorBit .black) m (rootPtr o)))
    (hm : s.node m = some (mkNode d (q + colorBit .red) (rootPtr a) (rootPtr b)))
    (ht : Rep s t p) (ha : Rep s a m) (hb : Rep s b m) (ho : Rep s o q) (hup : RepCtx s up p)
    (hnd : (p :: q :: m :: (t.toList ++ (a.toList ++ (b.toList ++ (o.toList ++ Ctx.labels up))))).Nodup)
    (hptr : ∀ x ∈ p :: q :: m :: (t.toList ++ (a.toList ++ (b.toList ++ (o.toList ++ Ctx.labels up)))),
      NodePtr x)
    (hmod : ctxPtr up % 4 = 0) :
    ∃ s', rb_erase_color_rotate d s p q (rootPtr o) true = some s'
      ∧ Focus s' (build d c (build d .black t p a) m (build d .black b.blacken q o)) up
      ∧ ∀ x, x ∉ p :: q :: m :: (t.toList ++ (a.toList ++ (b.toList ++ (o.toList ++ Ctx.labels up)))) →
          s'.node x = s.node x := by
  have hnd' := hnd
  simp only [List.nodup_cons, List.mem_cons, List.mem_append, not_or, List.nodup_append'] at hnd'
  obtain ⟨⟨hpq, hpm, hpt, hpa, hpb, hpo, hpl⟩, ⟨hqm, hqt, hqa, hqb, hqo, hql⟩, ⟨hmt, hma, hmb, hmo, hml⟩,
    htnd, ⟨hand, ⟨hbnd, ⟨hond, hlnd, hol⟩, hbol⟩, habol⟩, htabol⟩ := hnd'
  have hmodm : m % 4 = 0 := (hptr m (by simp)).2
  -- the three child pointers
  let sa := s.store q (mkNode d (p + colorBit .black) (rootPtr b) (rootPtr o))
  have hma' : sa.node m = some (mkNode d (q + colorBit .red) (rootPtr a) (rootPtr b)) := by
    simp only [sa, store_node_ne _ _ (Ne.symm hqm), hm]
  let sb := sa.store m (mkNode d (q + colorBit .red) (rootPtr a) q)
  have hpb' : sb.node p = some (mkNode d (ctxPtr up + colorBit c) (rootPtr t) q) := by
    simp only [sb, sa, store_node_ne _ _ hpm, store_node_ne _ _ hpq, hp]
  let sc := sb.store p (mkNode d (ctxPtr up + colorBit c) (rootPtr t) m)
  have hsc : ∀ x, x ≠ p → x ≠ q → x ≠ m → sc.node x = s.node x := by
    intro x h1 h2 h3
    simp only [sc, sb, sa, store_node_ne _ _ h1, store_node_ne _ _ h2, store_node_ne _ _ h3]
  -- the subtree that changes hands
  have hbc : Rep sc b m := hb.congr fun x hx =>
    hsc x (fun h => hpb (h ▸ hx)) (fun h => hqb (h ▸ hx)) (fun h => hmb (h ▸ hx))
  obtain ⟨sd, hsd, hbd, hrootd, hframed⟩ := rb_set_parent_black_if_spec q hbc hbnd
    (fun h => (hptr 0 (by simp [h])).1 rfl)
  have hframe : ∀ x, x ≠ p → x ≠ q → x ≠ m → x ∉ b.toList → sd.node x = s.node x := by
    intro x h1 h2 h3 h4
    rw [hframed x h4, hsc x h1 h2 h3]
  have hpd : sd.node p = some (mkNode d (ctxPtr up + colorBit c) (rootPtr t) m) := by
    rw [hframed p hpb]
    simp only [sc, store_node_self]
  have hmd : sd.node m = some (mkNode d (q + colorBit .red) (rootPtr a)
      (rootPtr (build d .black b.blacken q o))) := by
    rw [hframed m hmb, rootPtr_build]
    simp only [sc, sb, store_node_ne _ _ (Ne.symm hpm), store_node_self]
  have hqd : Rep sd (build d .black b.blacken q o) p := by
    refine rep_build.mpr ⟨?_, hbd, ?_⟩
    · rw [hframed q hqb, rootPtr_blacken]
      simp only [sc, sb, sa, store_node_ne _ _ (Ne.symm hpq), store_node_ne _ _ hqm,
        store_node_self]
    · exact ho.congr fun x hx => hframe x (fun h => hpo (h ▸ hx)) (fun h => hqo (h ▸ hx))
        (fun h => hmo (h ▸ hx)) (fun h => hbol h (by simp [hx]))
  have htd : Rep sd t p := ht.congr fun x hx => hframe x (fun h => hpt (h ▸ hx))
    (fun h => hqt (h ▸ hx)) (fun h => hmt (h ▸ hx)) (fun h => htabol hx (by simp [h]))
  have had : Rep sd a m := ha.congr fun x hx => hframe x (fun h => hpa (h ▸ hx))
    (fun h => hqa (h ▸ hx)) (fun h => hma (h ▸ hx)) (fun h => habol hx (by simp [h]))
  have hupd : RepCtx sd up p := hup.congr (by rw [hrootd]; rfl) fun x hx =>
    hframe x (fun h => hpl (h ▸ hx)) (fun h => hql (h ▸ hx)) (fun h => hml (h ▸ hx))
      (fun h => hbol h (by simp [hx]))
  have hperm : (p :: m :: (t.toList ++ (a.toList ++ ((build d .black b.blacken q o).toList ++
      Ctx.labels up)))).Perm
      (p :: q :: m :: (t.toList ++ (a.toList ++ (b.toList ++ (o.toList ++ Ctx.labels up))))) := by
    rw [List.perm_iff_count]
    intro x
    simp only [List.count_append, List.count_cons, count_build, toList_blacken, beq_iff_eq]
    omega
  obtain ⟨s', hs', hfoc, hframe'⟩ := rb_erase_case4_spec hpd hmd htd had hqd hupd hmodm
    (by cases d <;> simp [build]) (hperm.nodup_iff.mpr hnd)
    (fun x hx => hptr x (hperm.mem_iff.mp hx)) hmod
  rw [blacken_of_black (color_build ..)] at hfoc
  refine ⟨s', ?_, hfoc, ?_⟩
  · have ea : s.set_child d q (rootPtr b) = some sa := by rw [set_child_eq hq, mkNode_setChild]
    have eb : sa.set_child d.flip m q = some sb := by
      rw [set_child_eq hma', mkNode_setChild_flip]
    have ec : sb.set_child d.flip p m = some sc := by
      rw [set_child_eq hpb', mkNode_setChild_flip]
    rw [rootPtr_build] at hs'
    simp only [rb_erase_color_rotate, Bool.false_eq_true, if_false, Option.pure_def,
      Option.bind_eq_bind, Option.bind_some] at hs'
    simp only [rb_erase_color_rotate, if_true, hq, hm, mkNode_child, mkNode_child_flip, ea, eb, ec,
      hsd, Option.pure_def, Option.bind_eq_bind, Option.bind_some]
    exact hs'
  · intro x hx
    have hx' : x ∉ b.toList := fun h => hx (by simp [h])
    rw [hframe' x fun h => hx (hperm.mem_iff.mp h)]
    simp only [List.mem_cons, not_or] at hx
    exact hframe x hx.1 hx.2.1 hx.2.2.1 hx'

/-- **Case 1.** A red sibling `q` is rotated into the place of the black `p`; the focus stays below
`p`, which is red now, and its sibling is the inner subtree of `q`. -/
theorem rb_erase_case1_spec {t a o : CTree Ptr} {p q : ℕ}
    (h : Focus s t (⟨d, .black, p, build d .red a q o⟩ :: up)) (hane : a ≠ .leaf)
    (hac : a.color = .black) :
    ∃ sa sb sc s', s.set_child d.flip p (rootPtr a) = some sa
      ∧ sa.set_child d q p = some sb
      ∧ rb_set_parent_color sb (rootPtr a) p RB_BLACK = some sc
      ∧ rb_rotate_set_parents sc p q RB_RED = some s'
      ∧ Focus s' t (⟨d, .red, p, a⟩ :: ⟨d, .black, q, o⟩ :: up)
      ∧ ∀ x, x ∉ (Ctx.plug t (⟨d, .black, p, build d .red a q o⟩ :: up)).toList →
          s'.node x = s.node x := by
  have hmod : ctxPtr up % 4 = 0 := (focus_up.mp h).ctxPtr_mod
  have hperm : (t.toList ++ Ctx.labels (⟨d, .red, p, a⟩ :: ⟨d, .black, q, o⟩ :: up)).Perm
      (t.toList ++ Ctx.labels (⟨d, .black, p, build d .red a q o⟩ :: up)) := by
    rw [List.perm_iff_count]
    intro x
    simp only [Ctx.labels, List.count_append, List.count_cons, count_build, beq_iff_eq]
    omega
  obtain ⟨hrep, ⟨hpcell, hsib, hup⟩, hnd, hptr⟩ := h
  simp only [rootPtr_build] at hpcell
  obtain ⟨hqcell, harep, horep⟩ := rep_build.mp hsib
  have hnd' := hperm.nodup_iff.mpr hnd
  simp only [Ctx.labels, List.nodup_cons, List.mem_cons, List.mem_append, not_or,
    List.nodup_append', List.disjoint_cons_right, List.disjoint_append_right] at hnd'
  obtain ⟨-, ⟨⟨hpa, hpq, hpo, hpl⟩, hand, ⟨⟨hqo, hql⟩, hond, hlnd, hol⟩, hqa, hao, hal⟩, hpt, hta, hqt,
    hto, htl⟩ := hnd'
  have hptr' : ∀ x ∈ t.toList ++ Ctx.labels (⟨d, .red, p, a⟩ :: ⟨d, .black, q, o⟩ :: up), NodePtr x :=
    fun x hx => hptr x (hperm.mem_iff.mp hx)
  have h0 : ∀ x ∈ t.toList ++ Ctx.labels (⟨d, .red, p, a⟩ :: ⟨d, .black, q, o⟩ :: up), x ≠ 0 :=
    fun x hx => (hptr' x hx).1
  -- the two child pointers are written first, then the parents: `sa`, `sb` and `sc` lie between
  let sa := s.store p (mkNode d (ctxPtr up + colorBit .black) (rootPtr t) (rootPtr a))
  have hqa' : sa.node q = some (mkNode d (p + colorBit .red) (rootPtr a) (rootPtr o)) := by
    simp only [sa, store_node_ne _ _ (Ne.symm hpq), hqcell]
  let sb := sa.store q (mkNode d (p + colorBit .red) p (rootPtr o))
  have hsb : ∀ x, x ≠ p → x ≠ q → sb.node x = s.node x := fun x h1 h2 => by
    simp only [sb, sa, store_node_ne _ _ h1, store_node_ne _ _ h2]
  have hab : Rep sb a q := harep.congr fun x hx =>
    hsb x (fun h => hpa (h ▸ hx)) (fun h => hqa (h ▸ hx))
  obtain ⟨sc, hsc, hac', hrootc, hframec⟩ := rb_set_parent_black_if_spec p hab hand
    (fun h => h0 0 (by simp [Ctx.labels, h]) rfl)
  rw [blacken_of_black hac] at hac'
  have hpc : sc.node p = some (mkNode d (ctxPtr up + colorBit .black) (rootPtr t) (rootPtr a)) := by
    rw [hframec p hpa]
    simp only [sb, sa, store_node_ne _ _ hpq, store_node_self]
  have hqc : sc.node q = some (mkNode d (p + colorBit .red) p (rootPtr o)) := by
    rw [hframec q hqa]
    simp only [sb, store_node_self]
  have hframe : ∀ x, x ≠ p → x ≠ q → x ∉ a.toList → sc.node x = s.node x := by
    intro x h1 h2 h3
    rw [hframec x h3, hsb x h1 h2]
  have hupc : RepCtx sc up p := hup.congr (by rw [hrootc]; rfl) fun x hx =>
    hframe x (fun h => hpl (h ▸ hx)) (fun h => hql (h ▸ hx)) (fun h => hal h hx)
  obtain ⟨s', hs', hq', hp', hup', hframe'⟩ := rb_rotate_set_parents_spec RB_RED hpc hqc
    (mkNode_pc ..) hmod hupc hpq (h0 p (by simp [Ctx.labels])) hpl hql hlnd
    (fun h => h0 0 (by simp [Ctx.labels, h]) rfl)
  rw [mkNode_with_pc] at hq' hp'
  refine ⟨sa, sb, sc, s', ?_, ?_, ?_, hs', ⟨?_, ⟨hp', ?_, hq', ?_, hup'⟩, hperm.nodup_iff.mpr hnd,
    hptr'⟩, ?_⟩
  · rw [set_child_eq hpcell, mkNode_setChild_flip]
  · rw [set_child_eq hqa', mkNode_setChild]
  · have ha0 : rootPtr a ≠ 0 := by
      rcases rootPtr_eq_zero_or_mem a with h | h
      · exact absurd h hane
      · exact h0 _ (by simp [Ctx.labels, h])
    rwa [rb_set_parent_black_if, if_pos ha0] at hsc
  · refine hrep.congr fun x hx => ?_
    have hxp : x ≠ p := fun h => hpt (h ▸ hx)
    have hxq : x ≠ q := fun h => hqt (h ▸ hx)
    rw [hframe' x hxp hxq fun h => htl hx h, hframe x hxp hxq fun h => hta hx h]
  · exact hac'.congr fun x hx => hframe' x (fun h => hpa (h ▸ hx)) (fun h => hqa (h ▸ hx))
      fun h => hal hx h
  · refine horep.congr fun x hx => ?_
    have hxp : x ≠ p := fun h => hpo (h ▸ hx)
    have hxq : x ≠ q := fun h => hqo (h ▸ hx)
    rw [hframe' x hxp hxq fun h => hol hx h, hframe x hxp hxq fun h => hao h hx]
  · intro x hx
    rw [Ctx.mem_plug, ← List.mem_append, ← hperm.mem_iff] at hx
    simp only [Ctx.labels, List.mem_append, List.mem_cons, not_or] at hx
    obtain ⟨-, h1, h2, h3, -, h5⟩ := hx
    rw [hframe' x h1 h3 h5, hframe x h1 h3 h2]

end Rotations

/-! ## The loop -/

/-- `!tmp || rb_is_black(tmp)` reads the colour of the tree at `tmp`. -/
theorem rb_is_black_or_null_spec {s : RbState} {u : CTree Ptr} {par : ℕ} (h : Rep s u par)
    (hmod : par % 4 = 0) (h0 : 0 ∉ u.toList) :
    rb_is_black_or_null s (rootPtr u) = some (u.color == .black) := by
  cases u with
  | leaf => rfl
  | node c l p r =>
    obtain ⟨hcell, -, -⟩ := h
    have hp : p ≠ 0 := by rintro rfl; simp at h0
    rw [rb_is_black_or_null, rootPtr_node, if_neg hp, hcell, Option.map_some,
      (mkNode_pack_reads c hmod).2]
    rfl

/-- What the loop of `____rb_erase_color` leaves: a red-black tree in the same order, and no cell
outside of it touched. -/
def Rebalanced (s : RbState) (t : CTree Ptr) (ctx : Ctx Ptr) (r : Option RbState) : Prop :=
  ∃ s' t', r = some s' ∧ IsTree s' t' ∧ IsRedBlack t' ∧ t'.toList = (Ctx.plug t ctx).toList
    ∧ ∀ q, q ∉ (Ctx.plug t ctx).toList → s'.node q = s.node q

/-- A tree of the right height in a context ends the loop. -/
theorem rebalanced_of_focus {s s' : RbState} {t r : CTree Ptr} {f : Frame Ptr} {up : Ctx Ptr} {n : ℕ}
    (hfoc : Focus s' r up) (hr : Bal r n) (hup : CtxBal up n)
    (hc : r.color = .black ∨ ctxColor up = .black ∧ up ≠ [])
    (hlist : r.toList = (build f.dir f.color t f.label f.sib).toList)
    (hframe : ∀ q, q ∉ (Ctx.plug t (f :: up)).toList → s'.node q = s.node q) :
    Rebalanced s t (f :: up) (some s') := by
  obtain ⟨hbal, hcol⟩ := hup.plug hr (hc.imp id And.left)
  refine ⟨s', Ctx.plug r up, rfl, focus_iff_isTree.mp hfoc, ⟨?_, hbal⟩,
    Ctx.toList_plug_congr hlist up, hframe⟩
  rw [hcol]
  rcases hc with h | h
  · rw [h, ite_self]
  · rw [if_neg h.2]

/-- A tree of black height at least one is not empty. -/
theorem Bal.ne_leaf {t : CTree Ptr} {n : ℕ} (h : Bal t (n + 1)) : t ≠ .leaf := by
  rintro rfl
  cases h

/-- What a black node's invariant says of its children. -/
theorem Bal.of_build_black {d : Dir} {t o : CTree Ptr} {a n : ℕ}
    (h : Bal (build d .black t a o) (n + 1)) : Bal t n ∧ Bal o n := by
  cases d <;> cases h with
  | black hl hr => first | exact ⟨hl, hr⟩ | exact ⟨hr, hl⟩

/-- **Case 2** as the code computes it: the sibling turns red. -/
theorem rb_erase_case2_spec {s : RbState} {t a o : CTree Ptr} {p q : ℕ} {c : Color} {d : Dir}
    {up : Ctx Ptr} (h : Focus s t (⟨d, c, p, build d .black a q o⟩ :: up)) :
    ∃ sa, rb_set_parent_color s q p RB_RED = some sa
      ∧ Focus sa t (⟨d, c, p, build d .red a q o⟩ :: up)
      ∧ ∀ x, x ≠ q → sa.node x = s.node x := by
  obtain ⟨hrep, ⟨hpcell, hsib, hup⟩, hnd, hptr⟩ := h
  simp only [rootPtr_build] at hpcell
  obtain ⟨hqcell, harep, horep⟩ := rep_build.mp hsib
  have hlist : (build d .red a q o).toList = (build d .black a q o).toList := by
    cases d <;> rfl
  have hndq : (build d .black a q o).toList.Nodup := by
    have h1 := (List.nodup_append'.mp hnd).2.1
    simp only [Ctx.labels, List.nodup_cons, List.nodup_append'] at h1
    exact h1.2.1
  have hqa : q ∉ a.toList := by
    intro hin
    cases d <;> simp [build, List.nodup_append', hin] at hndq
  have hqo : q ∉ o.toList := by
    intro hin
    cases d <;> simp [build, List.nodup_append', hin] at hndq
  have hlab : ∀ x ∈ t.toList ++ (p :: Ctx.labels up), x ≠ q := by
    rintro x hx rfl
    simp only [Ctx.labels, List.nodup_append', List.nodup_cons, List.mem_append, not_or,
      List.disjoint_cons_right, List.disjoint_append_right] at hnd
    have hin : x ∈ (build d .black a x o).toList := mem_build.mpr (Or.inl rfl)
    rcases List.mem_append.mp hx with hx | hx
    · exact hnd.2.2.2.1 hx hin
    · rcases List.mem_cons.mp hx with rfl | hx
      · exact hnd.2.1.1.1 hin
      · exact hnd.2.1.2.2.2 hin hx
  let sa := s.store q (mkNode d (p + RB_RED) (rootPtr a) (rootPtr o))
  have hframe : ∀ x, x ≠ q → sa.node x = s.node x := fun x hx => store_node_ne _ _ hx
  refine ⟨sa, ?_, ⟨?_, ⟨?_, ?_, ?_⟩, ?_, ?_⟩, hframe⟩
  · rw [rb_set_parent_color_eq hqcell, mkNode_with_pc]
  · exact hrep.congr fun x hx => hframe x (hlab x (by simp [hx]))
  · simp only [rootPtr_build]
    rw [hframe p (hlab p (by simp)), hpcell]
  · refine rep_build.mpr ⟨store_node_self .., ?_, ?_⟩
    · exact harep.congr fun x hx => hframe x fun h => hqa (h ▸ hx)
    · exact horep.congr fun x hx => hframe x fun h => hqo (h ▸ hx)
  · exact hup.congr rfl fun x hx => hframe x (hlab x (by simp [hx]))
  · simpa only [Ctx.labels, hlist] using hnd
  · simpa only [Ctx.labels, hlist] using hptr

/-- The root of the focus is not the root of the sibling, so the code finds the side of the hole. -/
theorem focus_root_ne {s : RbState} {t : CTree Ptr} {f : Frame Ptr} {up : Ctx Ptr}
    (h : Focus s t (f :: up)) (hsib : f.sib ≠ .leaf) : rootPtr t ≠ rootPtr f.sib := by
  have hmem : rootPtr f.sib ∈ f.sib.toList := (rootPtr_eq_zero_or_mem f.sib).resolve_left hsib
  have hlab : rootPtr f.sib ∈ Ctx.labels (f :: up) := by simp [Ctx.labels, hmem]
  rcases rootPtr_eq_zero_or_mem t with rfl | ht
  · exact fun he => (h.ptr _ (List.mem_append_right _ hlab)).1 he.symm
  · intro he
    rw [he] at ht
    exact (List.nodup_append'.mp h.nodup).2.2 ht hlab

/-- The round of the loop at a black sibling. -/
theorem rb_erase_color_black_eq {s : RbState} {t a o : CTree Ptr} {p q : ℕ} {c : Color} {d : Dir}
    {up : Ctx Ptr} (fuel : ℕ) (h : Focus s t (⟨d, c, p, build d .black a q o⟩ :: up)) :
    rb_erase_color (fuel + 1) s (rootPtr t) p =
      if o.color == .black then
        if a.color == .black then do
          let s ← rb_set_parent_color s q p RB_RED
          let np ← s.node p
          if np.rb_is_red then rb_set_black s p
          else if np.rb_parent ≠ 0 then rb_erase_color fuel s p np.rb_parent
          else pure s
        else rb_erase_color_rotate d s p q (rootPtr o) true
      else rb_erase_color_rotate d s p q (rootPtr o) false := by
  have hne := focus_root_ne h (by cases d <;> simp [build])
  obtain ⟨hrep, ⟨hpcell, hsib, hup⟩, hnd, hptr⟩ := h
  simp only [rootPtr_build] at hpcell hne
  obtain ⟨hqcell, harep, horep⟩ := rep_build.mp hsib
  have hin : ∀ x, x ∈ a.toList ∨ x = q ∨ x ∈ o.toList → NodePtr x := by
    intro x hx
    refine hptr x ?_
    simp only [Ctx.labels, List.mem_append, List.mem_cons]
    refine Or.inr (Or.inr (Or.inl (mem_build.mpr ?_)))
    tauto
  have hpmod : p % 4 = 0 := (hptr p (by simp [Ctx.labels])).2
  have hqmod : q % 4 = 0 := (hin q (by simp)).2
  have ho := rb_is_black_or_null_spec horep hqmod fun h0 => (hin 0 (by simp [h0])).1 rfl
  have ha := rb_is_black_or_null_spec harep hqmod fun h0 => (hin 0 (by simp [h0])).1 rfl
  have hred : (mkNode d (p + colorBit .black) (rootPtr a) (rootPtr o)).rb_is_red = false := by
    rw [RbNode.rb_is_red, (mkNode_pack_reads .black hpmod).2]
    rfl
  rw [rb_erase_color]
  simp only [hpcell, Option.bind_eq_bind, Option.bind_some, side_eq hne, mkNode_child_flip, hqcell,
    hred, Bool.false_eq_true, if_false, Option.pure_def, mkNode_child, ho, ha]

/-- The round of the loop at a red sibling is the round at its inner subtree, after the rotation. -/
theorem rb_erase_color_red_eq {s : RbState} {t a o : CTree Ptr} {p q : ℕ} {d : Dir} {up : Ctx Ptr}
    (fuel : ℕ) (h : Focus s t (⟨d, .black, p, build d .red a q o⟩ :: up)) (hane : a ≠ .leaf)
    (hac : a.color = .black) :
    ∃ s', rb_erase_color (fuel + 1) s (rootPtr t) p = rb_erase_color (fuel + 1) s' (rootPtr t) p
      ∧ Focus s' t (⟨d, .red, p, a⟩ :: ⟨d, .black, q, o⟩ :: up)
      ∧ ∀ x, x ∉ (Ctx.plug t (⟨d, .black, p, build d .red a q o⟩ :: up)).toList →
          s'.node x = s.node x := by
  obtain ⟨sa, sb, sc, s', ha, hb, hc, hs', hfoc, hframe⟩ := rb_erase_case1_spec h hane hac
  refine ⟨s', ?_, hfoc, hframe⟩
  have hne := focus_root_ne h (by cases d <;> simp [build])
  have hne' := focus_root_ne hfoc hane
  obtain ⟨-, ⟨hpcell, hsib, -⟩, -, hptr⟩ := h
  obtain ⟨-, ⟨hpcell', hsib', -⟩, -, -⟩ := hfoc
  simp only [rootPtr_build, ctxPtr_cons] at hpcell hpcell' hne hne' hsib'
  obtain ⟨hqcell, -, -⟩ := rep_build.mp hsib
  obtain ⟨ca, a1, r, o1, rfl⟩ := exists_build d hane
  rw [color_build] at hac
  subst hac
  obtain ⟨hrcell, -, -⟩ := rep_build.mp hsib'
  have hpmod : p % 4 = 0 := (hptr p (by simp [Ctx.labels])).2
  have hred : (mkNode d (p + colorBit .red) (rootPtr (build d .black a1 r o1)) (rootPtr o)).rb_is_red
      = true := by
    rw [RbNode.rb_is_red, (mkNode_pack_reads .red hpmod).2]
    rfl
  have hblack : (mkNode d (p + colorBit .black) (rootPtr a1) (rootPtr o1)).rb_is_red = false := by
    rw [RbNode.rb_is_red, (mkNode_pack_reads .black hpmod).2]
    rfl
  rw [rootPtr_build] at ha hc hred hne' hpcell' hqcell
  rw [rb_erase_color, rb_erase_color]
  simp only [hpcell, hpcell', Option.bind_eq_bind, Option.bind_some, side_eq hne, side_eq hne',
    mkNode_child_flip, mkNode_child, hqcell, hrcell, hred, hblack, if_true, Bool.false_eq_true,
    if_false, ha, hb, hc, hs', Option.pure_def]

/-- What a frame's invariant says of its sibling and of the context above. -/
theorem CtxBal.of_cons {d : Dir} {c : Color} {p : Ptr} {sib : CTree Ptr} {up : Ctx Ptr} {n : ℕ}
    (h : CtxBal (⟨d, c, p, sib⟩ :: up) n) :
    Bal sib n ∧ (c = .red ∧ sib.color = .black ∧ ctxColor up = .black ∧ up ≠ [] ∧ CtxBal up n
      ∨ c = .black ∧ CtxBal up (n + 1)) := by
  cases h with
  | red hs hsc hup hne h => exact ⟨hs, Or.inl ⟨rfl, hsc, hup, hne, h⟩⟩
  | black hs h => exact ⟨hs, Or.inr ⟨rfl, h⟩⟩

/-- The rotations of cases 3 and 4 give a tree of the height that `up` wants: `x` and `y` are the
subtrees of the new root. -/
theorem rotated_bal {d : Dir} {c : Color} {up : Ctx Ptr} {n m : ℕ} {x y : CTree Ptr}
    (hx : Bal x (n + 1)) (hy : Bal y (n + 1)) (hxc : x.color = .black) (hyc : y.color = .black)
    (hup : c = .red ∧ ctxColor up = .black ∧ up ≠ [] ∧ CtxBal up (n + 1)
      ∨ c = .black ∧ CtxBal up (n + 2)) :
    ∃ k, Bal (build d c x m y) k ∧ CtxBal up k
      ∧ ((build d c x m y).color = .black ∨ ctxColor up = .black ∧ up ≠ []) := by
  rcases hup with ⟨rfl, hc, hne, hctx⟩ | ⟨rfl, hctx⟩
  · exact ⟨n + 1, .build_red hx hy hxc hyc, hctx, Or.inr ⟨hc, hne⟩⟩
  · exact ⟨n + 2, .build_black hx hy, hctx, Or.inl (color_build ..)⟩

/-- The loop of `____rb_erase_color`, as it is stated for the induction on the fuel. -/
def LoopSpec (fuel : ℕ) : Prop :=
  ∀ (s : RbState) (t : CTree Ptr) (f : Frame Ptr) (up : Ctx Ptr) (n : ℕ), Focus s t (f :: up) →
    t.color = .black → Bal t n → CtxBal (f :: up) (n + 1) → up.length < fuel →
    Rebalanced s t (f :: up) (rb_erase_color fuel s (rootPtr t) f.label)

/-- The parent of the focus changes its colour. -/
theorem Focus.recolor {s : RbState} {t sib : CTree Ptr} {d : Dir} {c : Color} {p : ℕ} {up : Ctx Ptr}
    (h : Focus s t (⟨d, c, p, sib⟩ :: up)) (c' : Color) :
    Focus (s.store p (mkNode d (ctxPtr up + colorBit c') (rootPtr t) (rootPtr sib))) t
      (⟨d, c', p, sib⟩ :: up) := by
  obtain ⟨hrep, ⟨-, hsib, hup⟩, hnd, hptr⟩ := h
  have hnd' := hnd
  simp only [Ctx.labels, List.nodup_append', List.nodup_cons, List.mem_append, not_or,
    List.disjoint_cons_right] at hnd'
  obtain ⟨-, ⟨⟨hpsib, hpup⟩, -⟩, hpt, -⟩ := hnd'
  refine ⟨?_, ⟨store_node_self .., ?_, ?_⟩, hnd, hptr⟩
  · exact hrep.congr fun x hx => store_node_ne _ _ fun he => hpt (he ▸ hx)
  · exact hsib.congr fun x hx => store_node_ne _ _ fun he => hpsib (he ▸ hx)
  · exact hup.congr rfl fun x hx => store_node_ne _ _ fun he => hpup (he ▸ hx)

/-- What the code does with a black sibling that has black children: the sibling turns red, and then
a red parent turns black, or the loop goes on with the parent, or there is none. -/
theorem rb_erase_flip_eq (fuel : ℕ) {s : RbState} {t a o : CTree Ptr} {p q : ℕ} {c : Color} {d : Dir}
    {up : Ctx Ptr} (h : Focus s t (⟨d, c, p, build d .black a q o⟩ :: up)) :
    ∃ sa, Focus sa t (⟨d, c, p, build d .red a q o⟩ :: up) ∧ (∀ x, x ≠ q → sa.node x = s.node x) ∧
      (do
        let s ← rb_set_parent_color s q p RB_RED
        let np ← s.node p
        if np.rb_is_red then rb_set_black s p
        else if np.rb_parent ≠ 0 then rb_erase_color fuel s p np.rb_parent
        else pure s) =
      if c = .red then
        some (sa.store p (mkNode d (ctxPtr up + colorBit .black) (rootPtr t)
          (rootPtr (build d .red a q o))))
      else if ctxPtr up ≠ 0 then rb_erase_color fuel sa p (ctxPtr up)
      else some sa := by
  obtain ⟨sa, hsa, hfoc, hframe⟩ := rb_erase_case2_spec h
  refine ⟨sa, hfoc, hframe, ?_⟩
  have hmod : ctxPtr up % 4 = 0 := (focus_up.mp h).ctxPtr_mod
  have hpcell := hfoc.repCtx.1
  simp only at hpcell
  have hread := mkNode_pack_reads (d := d) (x := rootPtr t) (y := rootPtr (build d .red a q o)) c hmod
  cases c with
  | red =>
    have hred : (mkNode d (ctxPtr up + colorBit .red) (rootPtr t)
        (rootPtr (build d .red a q o))).rb_is_red = true := by
      rw [RbNode.rb_is_red, hread.2]
      rfl
    have hsb : rb_set_black sa p = some (sa.store p (mkNode d (ctxPtr up + colorBit .black)
        (rootPtr t) (rootPtr (build d .red a q o)))) := by
      simp only [rb_set_black, hpcell, Option.bind_eq_bind, Option.bind_some, mkNode_pc,
        mkNode_with_pc, Option.pure_def]
      rfl
    simp only [hsa, hpcell, Option.bind_eq_bind, Option.bind_some, hred, if_true, hsb]
  | black =>
    have hblack : (mkNode d (ctxPtr up + colorBit .black) (rootPtr t)
        (rootPtr (build d .red a q o))).rb_is_red = false := by
      rw [RbNode.rb_is_red, hread.2]
      rfl
    have hne : Color.black ≠ .red := by decide
    simp only [hsa, hpcell, Option.bind_eq_bind, Option.bind_some, hblack, Bool.false_eq_true,
      if_false, hread.1, Option.pure_def, if_neg hne]

/-- **A black sibling with black children** turns red. -/
theorem rb_erase_flip_spec {fuel : ℕ} (ih : LoopSpec fuel) {s : RbState} {t a o : CTree Ptr}
    {p q n : ℕ} {c : Color} {d : Dir} {up : Ctx Ptr}
    (h : Focus s t (⟨d, c, p, build d .black a q o⟩ :: up)) (ht : Bal t n)
    (ha : Bal a n) (hac : a.color = .black) (ho : Bal o n) (hoc : o.color = .black)
    (hup : c = .red ∧ ctxColor up = .black ∧ up ≠ [] ∧ CtxBal up (n + 1)
      ∨ c = .black ∧ CtxBal up (n + 2))
    (hlen : c = .black → up.length ≤ fuel) :
    Rebalanced s t (⟨d, c, p, build d .black a q o⟩ :: up) (do
      let s ← rb_set_parent_color s q p RB_RED
      let np ← s.node p
      if np.rb_is_red then rb_set_black s p
      else if np.rb_parent ≠ 0 then rb_erase_color fuel s p np.rb_parent
      else pure s) := by
  obtain ⟨sa, hfoc, hframe, heq⟩ := rb_erase_flip_eq fuel h
  rw [heq]
  have hflip : Bal (build d .black t p (build d .red a q o)) (n + 1) :=
    .build_black ht (.build_red ha ho hac hoc)
  have hlist : ∀ c' : Color, (build d c' t p (build d .red a q o)).toList =
      (build d c t p (build d .black a q o)).toList := by
    intro c'
    cases d <;> rfl
  have hq : ∀ x, x ∉ (Ctx.plug t (⟨d, c, p, build d .black a q o⟩ :: up)).toList → x ≠ q := by
    rintro x hx rfl
    refine hx (Ctx.mem_plug.mpr (Or.inr ?_))
    simp only [Ctx.labels, List.mem_cons, List.mem_append]
    exact Or.inr (Or.inl (mem_build.mpr (Or.inl rfl)))
  rcases hup with ⟨rfl, hcol, hne, hctx⟩ | ⟨rfl, hctx⟩
  · -- a red parent turns black
    rw [if_pos rfl]
    refine rebalanced_of_focus (focus_up.mp (hfoc.recolor .black)) hflip hctx
      (Or.inl (color_build ..)) (hlist .black) fun x hx => ?_
    have hxp : x ≠ p := by
      rintro rfl
      exact hx (Ctx.mem_plug.mpr (Or.inr (by simp [Ctx.labels])))
    rw [store_node_ne _ _ hxp, hframe x (hq x hx)]
  · have hfocu := focus_up.mp hfoc
    simp only at hfocu
    rw [if_neg (by decide)]
    rcases up with _ | ⟨f, up⟩
    · -- the whole tree is one black node lower
      rw [if_neg (by simp)]
      exact rebalanced_of_focus hfocu hflip (n := n + 1) .nil (Or.inl (color_build ..)) (hlist .black)
        fun x hx => hframe x (hq x hx)
    · -- the loop goes on with the parent
      have hf0 : f.label ≠ 0 := (hfocu.ptr f.label (by simp [Ctx.labels])).1
      rw [ctxPtr_cons, if_pos hf0]
      have hlen' : up.length < fuel := by
        have := hlen rfl
        rw [List.length_cons] at this
        omega
      have hrest := ih sa _ f up (n + 1) hfocu (color_build ..) hflip hctx hlen'
      rw [rootPtr_build] at hrest
      obtain ⟨s', t', hs', htree, hrb, hl, hfr⟩ := hrest
      refine ⟨s', t', hs', htree, hrb, hl.trans (Ctx.toList_plug_congr (hlist .black) (f :: up)), ?_⟩
      intro x hx
      have hx' : x ∉ (Ctx.plug (build d .black t p (build d .red a q o)) (f :: up)).toList := by
        rw [Ctx.toList_plug_congr (hlist .black) (f :: up)]
        exact hx
      rw [hfr x hx', hframe x (hq x hx)]

/-- **A black sibling.** -/
theorem rb_erase_black_spec {fuel : ℕ} (ih : LoopSpec fuel) {s : RbState} {t a o : CTree Ptr}
    {p q n : ℕ} {c : Color} {d : Dir} {up : Ctx Ptr}
    (h : Focus s t (⟨d, c, p, build d .black a q o⟩ :: up)) (ht : Bal t n)
    (hsib : Bal (build d .black a q o) (n + 1))
    (hup : c = .red ∧ ctxColor up = .black ∧ up ≠ [] ∧ CtxBal up (n + 1)
      ∨ c = .black ∧ CtxBal up (n + 2))
    (hlen : c = .black → up.length ≤ fuel) :
    Rebalanced s t (⟨d, c, p, build d .black a q o⟩ :: up)
      (rb_erase_color (fuel + 1) s (rootPtr t) p) := by
  have hmod : ctxPtr up % 4 = 0 := (focus_up.mp h).ctxPtr_mod
  obtain ⟨ha, ho⟩ := Bal.of_build_black hsib
  have hperm : (t.toList ++ Ctx.labels (⟨d, c, p, build d .black a q o⟩ :: up)).Perm
      (p :: q :: (t.toList ++ (a.toList ++ (o.toList ++ Ctx.labels up)))) := by
    rw [List.perm_iff_count]
    intro x
    simp only [Ctx.labels, List.count_append, List.count_cons, count_build, beq_iff_eq]
    omega
  have hout : ∀ x, x ∉ (Ctx.plug t (⟨d, c, p, build d .black a q o⟩ :: up)).toList →
      x ∉ p :: q :: (t.toList ++ (a.toList ++ (o.toList ++ Ctx.labels up))) := by
    intro x hx hin
    exact hx (Ctx.mem_plug.mpr (List.mem_append.mp (hperm.mem_iff.mpr hin)))
  have hnd := hperm.nodup_iff.mp h.nodup
  have hptr : ∀ x ∈ p :: q :: (t.toList ++ (a.toList ++ (o.toList ++ Ctx.labels up))), NodePtr x :=
    fun x hx => h.ptr x (hperm.mem_iff.mpr hx)
  rw [rb_erase_color_black_eq fuel h]
  by_cases hoc : o.color = .black
  · by_cases hac : a.color = .black
    · rw [if_pos (by rw [hoc]; rfl), if_pos (by rw [hac]; rfl)]
      exact rb_erase_flip_spec ih h ht ha hac ho hoc hup hlen
    · -- a red inner child: two rotations
      have har : a.color = .red := by
        cases hc : a.color with
        | red => rfl
        | black => exact absurd hc hac
      rw [if_pos (by rw [hoc]; rfl), if_neg (by rw [har]; decide)]
      obtain ⟨ca, a1, m, b, rfl⟩ := exists_build d (t := a) (by rintro rfl; cases har)
      rw [color_build] at har
      subst har
      obtain ⟨ha1, hb, ha1c, hbc⟩ := ha.of_build_red
      obtain ⟨hrep, ⟨hpcell, hsibrep, huprep⟩, -, -⟩ := h
      obtain ⟨hqcell, harep, horep⟩ := rep_build.mp hsibrep
      obtain ⟨hmcell, ha1rep, hbrep⟩ := rep_build.mp harep
      simp only [rootPtr_build] at hpcell hqcell
      have hperm' : (p :: q :: (t.toList ++ ((build d .red a1 m b).toList ++
          (o.toList ++ Ctx.labels up)))).Perm
          (p :: q :: m :: (t.toList ++ (a1.toList ++ (b.toList ++ (o.toList ++ Ctx.labels up))))) := by
        rw [List.perm_iff_count]
        intro x
        simp only [List.count_append, List.count_cons, count_build, beq_iff_eq]
        omega
      obtain ⟨s', hs', hfoc, hframe⟩ := rb_erase_case3_spec hpcell hqcell hmcell hrep ha1rep hbrep
        horep huprep (hperm'.nodup_iff.mp hnd) (fun x hx => hptr x (hperm'.mem_iff.mpr hx)) hmod
      rw [blacken_of_black hbc] at hfoc
      rw [hs']
      obtain ⟨k, hbal, hctx, hcol⟩ := rotated_bal (d := d) (m := m)
        (Bal.build_black (d := d) (a := p) ht ha1) (Bal.build_black (d := d) (a := q) hb ho)
        (color_build ..) (color_build ..) hup
      refine rebalanced_of_focus hfoc hbal hctx hcol ?_ fun x hx => hframe x fun hin =>
        hout x hx (hperm'.mem_iff.mpr hin)
      cases d <;> simp [build]
  · -- a red outer child: one rotation
    have hor : o.color = .red := by
      cases hc : o.color with
      | red => rfl
      | black => exact absurd hc hoc
    rw [if_neg (by rw [hor]; decide)]
    obtain ⟨hrep, ⟨hpcell, hsibrep, huprep⟩, -, -⟩ := h
    obtain ⟨hqcell, harep, horep⟩ := rep_build.mp hsibrep
    simp only [rootPtr_build] at hpcell
    have hone : o ≠ .leaf := by rintro rfl; cases hor
    obtain ⟨s', hs', hfoc, hframe⟩ := rb_erase_case4_spec hpcell hqcell hrep harep horep huprep
      (hptr q (by simp)).2 hone hnd hptr hmod
    rw [hs']
    obtain ⟨k, hbal, hctx, hcol⟩ := rotated_bal (d := d) (m := q)
      (Bal.build_black (d := d) (a := p) ht ha) (ho.blacken_red hor) (color_build ..)
      (color_blacken _) hup
    refine rebalanced_of_focus hfoc hbal hctx hcol ?_ fun x hx => hframe x (hout x hx)
    cases d <;> simp [build]

/-- **The loop of `____rb_erase_color`.** From a hole that is one black node short, the loop returns
with a red-black tree of the same order, and touches no cell outside it. -/
theorem rb_erase_color_spec (fuel : ℕ) : LoopSpec fuel := by
  induction fuel with
  | zero =>
    intro s t f up n _ _ _ _ hlen
    omega
  | succ fuel ih =>
    intro s t f up n h htc ht hctx hlen
    obtain ⟨d, c, p, sib⟩ := f
    obtain ⟨hsib, hup⟩ := CtxBal.of_cons hctx
    obtain ⟨cs, a, q, o, rfl⟩ := exists_build d (Bal.ne_leaf hsib)
    cases cs with
    | black =>
      refine rb_erase_black_spec ih h ht hsib ?_ (fun _ => by omega)
      rcases hup with ⟨hc, -, hcol, hne, hup⟩ | ⟨hc, hup⟩
      · exact Or.inl ⟨hc, hcol, hne, hup⟩
      · exact Or.inr ⟨hc, hup⟩
    | red =>
      -- below a red sibling the parent is black, and both nephews are black nodes
      rcases hup with ⟨-, hbad, -⟩ | ⟨rfl, hup⟩
      · rw [color_build] at hbad
        cases hbad
      obtain ⟨ha, ho, hac, hoc⟩ := hsib.of_build_red
      obtain ⟨s', heq, hfoc, hframe⟩ := rb_erase_color_red_eq fuel h (Bal.ne_leaf ha) hac
      obtain ⟨ca, a1, m, b, rfl⟩ := exists_build d (Bal.ne_leaf ha)
      rw [color_build] at hac
      subst hac
      have hblack := rb_erase_black_spec ih hfoc ht ha
        (Or.inl ⟨rfl, rfl, by simp, .black ho hup⟩) (fun hbad => by cases hbad)
      have hlist : (Ctx.plug t (⟨d, .red, p, build d .black a1 m b⟩ :: ⟨d, .black, q, o⟩ :: up)).toList
          = (Ctx.plug t (⟨d, .black, p, build d .red (build d .black a1 m b) q o⟩ :: up)).toList := by
        refine Ctx.toList_plug_congr ?_ up
        cases d <;> simp [build]
      obtain ⟨s'', t'', hres, htree, hrb, hl, hfr⟩ := hblack
      refine ⟨s'', t'', by rw [heq]; exact hres, htree, hrb, hl.trans hlist, ?_⟩
      intro x hx
      rw [hfr x (by rw [hlist]; exact hx), hframe x hx]

/-! ## Segments of a context

The successor of a node lies at the end of a path of left children. `RepSeg` is the heap along such
a path, up to a parent `par` that is named and not yet linked. -/

/-- The parent of the hole of a segment below `par`. -/
def segParent (rctx : Ctx Ptr) (par : Ptr) : ℕ :=
  match rctx with
  | [] => par
  | f :: _ => f.label

/-- The pointer at the top of a segment whose hole holds `cp`. -/
def segTop : Ctx Ptr → Ptr → Ptr
  | [], cp => cp
  | f :: rest, _ => segTop rest f.label

/-- The heap along a segment. -/
def RepSeg (s : RbState) : Ctx Ptr → Ptr → Ptr → Prop
  | [], _, _ => True
  | f :: rest, cp, par =>
      s.node f.label = some (mkNode f.dir (segParent rest par + colorBit f.color) cp (rootPtr f.sib))
        ∧ Rep s f.sib f.label ∧ RepSeg s rest f.label par

theorem ctxPtr_append (rctx up : Ctx Ptr) : ctxPtr (rctx ++ up) = segParent rctx (ctxPtr up) := by
  cases rctx <;> rfl

theorem labels_append (rctx up : Ctx Ptr) :
    Ctx.labels (rctx ++ up) = Ctx.labels rctx ++ Ctx.labels up := by
  induction rctx with
  | nil => rfl
  | cons f rest ih => simp [Ctx.labels, ih]

theorem plug_append (t : CTree Ptr) (rctx up : Ctx Ptr) :
    Ctx.plug t (rctx ++ up) = Ctx.plug (Ctx.plug t rctx) up := by
  induction rctx generalizing t with
  | nil => rfl
  | cons f rest ih => rw [List.cons_append, Ctx.plug_cons, Ctx.plug_cons, ih]

/-- A context is a segment below a context. -/
theorem repCtx_append {s : RbState} {rctx up : Ctx Ptr} {cp : Ptr} :
    RepCtx s (rctx ++ up) cp ↔ RepSeg s rctx cp (ctxPtr up) ∧ RepCtx s up (segTop rctx cp) := by
  induction rctx generalizing cp with
  | nil => exact ⟨fun h => ⟨trivial, h⟩, fun h => h.2⟩
  | cons f rest ih =>
    rw [List.cons_append, RepCtx, RepSeg, ih, ctxPtr_append, segTop, and_assoc, and_assoc]

theorem RepSeg.congr {s s' : RbState} {rctx : Ctx Ptr} {cp par : Ptr} (h : RepSeg s rctx cp par)
    (hs : ∀ q ∈ Ctx.labels rctx, s'.node q = s.node q) : RepSeg s' rctx cp par := by
  induction rctx generalizing cp with
  | nil => trivial
  | cons f rest ih =>
    obtain ⟨hcell, hsib, hrest⟩ := h
    refine ⟨?_, hsib.congr fun q hq => hs q ?_, ih hrest fun q hq => hs q ?_⟩
    · rw [hs f.label (by simp [Ctx.labels]), hcell]
    · simp [Ctx.labels, hq]
    · simp [Ctx.labels, hq]

/-- The top of a segment with a node is one of its labels, whatever the hole holds. -/
theorem segTop_mem (f : Frame Ptr) (rest : Ctx Ptr) (cp : Ptr) :
    segTop (f :: rest) cp ∈ Ctx.labels (f :: rest) := by
  induction rest generalizing f cp with
  | nil => simp [segTop, Ctx.labels]
  | cons g rest ih =>
    rw [segTop, Ctx.labels]
    exact List.mem_cons_of_mem _ (List.mem_append_right _ (ih g f.label))

/-- The pointer in the hole of a segment is exchanged. -/
theorem seg_set_hole {s : RbState} {f : Frame Ptr} {rest : Ctx Ptr} {cp par : Ptr}
    (h : RepSeg s (f :: rest) cp par) (cp' : Ptr) (hnd : (Ctx.labels (f :: rest)).Nodup) :
    ∃ s', s.set_child f.dir f.label cp' = some s' ∧ RepSeg s' (f :: rest) cp' par
      ∧ s'.rb_node = s.rb_node ∧ ∀ q, q ≠ f.label → s'.node q = s.node q := by
  obtain ⟨hcell, hsib, hrest⟩ := h
  rw [Ctx.labels, List.nodup_cons, List.mem_append, not_or] at hnd
  let s' := s.store f.label
    (mkNode f.dir (segParent rest par + colorBit f.color) cp' (rootPtr f.sib))
  have hframe : ∀ q, q ≠ f.label → s'.node q = s.node q := fun q hq => store_node_ne _ _ hq
  refine ⟨s', ?_, ⟨store_node_self .., ?_, ?_⟩, rfl, hframe⟩
  · rw [set_child_eq hcell, mkNode_setChild]
  · exact hsib.congr fun q hq => hframe q fun he => hnd.1.1 (he ▸ hq)
  · exact hrest.congr fun q hq => hframe q fun he => hnd.1.2 (he ▸ hq)

/-- The top of a segment is hung under another parent. -/
theorem seg_set_parent {s : RbState} {f : Frame Ptr} {rest : Ctx Ptr} {cp par : Ptr}
    (h : RepSeg s (f :: rest) cp par) (par' : Ptr) (hmod : par % 4 = 0)
    (hnd : (Ctx.labels (f :: rest)).Nodup) :
    ∃ s', rb_set_parent s (segTop (f :: rest) cp) par' = some s' ∧ RepSeg s' (f :: rest) cp par'
      ∧ s'.rb_node = s.rb_node ∧ ∀ q, q ≠ segTop (f :: rest) cp → s'.node q = s.node q := by
  induction rest generalizing f cp with
  | nil =>
    obtain ⟨hcell, hsib, -⟩ := h
    rw [Ctx.labels, List.nodup_cons, List.mem_append, not_or] at hnd
    let s' := s.store f.label (mkNode f.dir (par' + colorBit f.color) cp (rootPtr f.sib))
    have hframe : ∀ q, q ≠ f.label → s'.node q = s.node q := fun q hq => store_node_ne _ _ hq
    refine ⟨s', ?_, ⟨store_node_self .., ?_, trivial⟩, rfl, hframe⟩
    · simp only [segTop, rb_set_parent, hcell, Option.bind_eq_bind, Option.bind_some, mkNode_pc,
        mkNode_with_pc, segParent, rb_color_of_pack f.color hmod,
        Nat.add_comm (colorBit f.color), Option.pure_def]
      rfl
    · exact hsib.congr fun q hq => hframe q fun he => hnd.1.1 (he ▸ hq)
  | cons g rest ih =>
    obtain ⟨hcell, hsib, hrest⟩ := h
    rw [Ctx.labels, List.nodup_cons, List.mem_append, not_or, List.nodup_append'] at hnd
    obtain ⟨⟨hfs, hfl⟩, -, hlnd, hsl⟩ := hnd
    obtain ⟨s', hs', hseg, hroot, hframe⟩ := ih hrest hlnd
    have htop := segTop_mem g rest f.label
    refine ⟨s', hs', ⟨?_, ?_, hseg⟩, hroot, hframe⟩
    · rw [hframe f.label fun he => hfl (he ▸ htop)]
      exact hcell
    · exact hsib.congr fun q hq => hframe q fun he => hsl hq (he ▸ htop)

/-- **The search for the successor** goes down the left children to the first node. -/
theorem rb_erase_successor_spec {s : RbState} {t : CTree Ptr} {par' : Ptr} (h : Rep s t par')
    (hne : t ≠ .leaf) (h0 : 0 ∉ t.toList) (par : Ptr) {fuel : ℕ} (hfuel : t.toList.length ≤ fuel) :
    ∃ rctx c p r, t = Ctx.plug (.node c .leaf p r) rctx ∧ (∀ f ∈ rctx, f.dir = .left)
      ∧ rb_erase_successor s fuel par (rootPtr t) = some (segParent rctx par, p) := by
  induction t generalizing par par' fuel with
  | leaf => exact absurd rfl hne
  | node c l p r ihl ihr =>
    obtain ⟨hcell, hl, -⟩ := h
    obtain ⟨fuel, rfl⟩ : ∃ k, fuel = k + 1 := ⟨fuel - 1, by simp at hfuel; omega⟩
    have hleft : (mkNode .left (par' + colorBit c) (rootPtr l) (rootPtr r)).rb_left = rootPtr l := rfl
    by_cases hlne : l = .leaf
    · subst hlne
      refine ⟨[], c, p, r, rfl, by simp, ?_⟩
      rw [rb_erase_successor, rootPtr_node, hcell]
      rfl
    · have hl0 : rootPtr l ≠ 0 := by
        intro he
        rcases rootPtr_eq_zero_or_mem l with hm | hm
        · exact hlne hm
        · rw [he] at hm
          exact h0 (by simp [hm])
      have hlen : l.toList.length ≤ fuel := by
        simp at hfuel
        omega
      obtain ⟨rctx, cs, sp, sr, heq, hdir, hsucc⟩ :=
        ihl hl hlne (fun hm => h0 (by simp [hm])) p hlen
      refine ⟨rctx ++ [⟨.left, c, p, r⟩], cs, sp, sr, ?_, ?_, ?_⟩
      · rw [plug_append, ← heq]
        rfl
      · intro f hf
        rcases List.mem_append.mp hf with hf | hf
        · exact hdir f hf
        · rw [List.mem_singleton.mp hf]
      · rw [rb_erase_successor, rootPtr_node, hcell]
        simp only [Option.bind_eq_bind, Option.bind_some, hleft, if_neg hl0]
        rw [hsucc]
        cases rctx <;> rfl

/-! ## Taking a node out -/

/-- The end of `__rb_erase_augmented` for a node with two children: the successor takes its place. -/
def rb_erase_relink (s : RbState) (node successor parent child2 : Ptr) :
    Option (RbState × Ptr) := do
  let n ← s.node node
  let tmp := n.rb_left
  let s ← s.set_child .left successor tmp
  let s ← rb_set_parent s tmp successor
  let n ← s.node node
  let pc := n.rb_parent_color
  let s ← rb_change_child s node successor (rb_parent_of pc)
  let (s, rebalance) ←
    if child2 ≠ 0 then do
      let s ← rb_set_parent_color s child2 parent RB_BLACK
      pure (s, 0)
    else do
      let ns ← s.node successor
      pure (s, if ns.rb_is_black then parent else 0)
  let ns ← s.node successor
  pure (s.store successor { ns with rb_parent_color := pc }, rebalance)

/-- What `__rb_erase_augmented` returns when the place of a node of colour `c` is left to the tree
`r` in `ctx`: the parent of that place when it is one black node short, and else NULL. -/
def rebalanceAt (c : Color) (r : CTree Ptr) (ctx : Ctx Ptr) : ℕ :=
  if r = .leaf ∧ c = .black then ctxPtr ctx else 0

/-- **Relinking.** The successor `sp` has been taken out of its place; it takes the place of `v`, and
its old right subtree turns black where `sp` was. -/
theorem rb_erase_relink_spec {s : RbState} {l r : CTree Ptr} {v sp w y : ℕ} {c cs : Color}
    (rctx : Ctx Ptr) {ctx : Ctx Ptr}
    (hsp : s.node sp = some (mkNode .left (w + colorBit cs) 0 (segTop rctx (rootPtr r))))
    (hw : w % 4 = 0) (hseg : RepSeg s rctx (rootPtr r) sp) (hr : Rep s r sp)
    (hv : s.node v = some (mkNode .left (ctxPtr ctx + colorBit c) (rootPtr l) y))
    (hl : Rep s l v) (hlne : l ≠ .leaf) (hctx : RepCtx s ctx v)
    (hnd : (sp :: (r.toList ++ (Ctx.labels rctx ++ v :: (l.toList ++ Ctx.labels ctx)))).Nodup)
    (hptr : ∀ q ∈ sp :: (r.toList ++ (Ctx.labels rctx ++ v :: (l.toList ++ Ctx.labels ctx))),
      NodePtr q)
    (hmod : ctxPtr ctx % 4 = 0) :
    ∃ s', rb_erase_relink s v sp (segParent rctx sp) (rootPtr r) =
        some (s', rebalanceAt cs r (rctx ++ ⟨.right, c, sp, l⟩ :: ctx))
      ∧ Focus s' r.blacken (rctx ++ ⟨.right, c, sp, l⟩ :: ctx)
      ∧ ∀ q, q ∉ sp :: (r.toList ++ (Ctx.labels rctx ++ v :: (l.toList ++ Ctx.labels ctx))) →
          s'.node q = s.node q := by
  have hnd' := hnd
  simp only [List.nodup_cons, List.mem_cons, List.mem_append, not_or, List.nodup_append',
    List.disjoint_cons_right, List.disjoint_append_right] at hnd'
  obtain ⟨⟨hsr, hss, hsv, hsl, hsc⟩, hrnd, ⟨hsnd, ⟨⟨hvl, hvc⟩, hlnd, hcnd, hlc⟩, hvs, hsl', hsc'⟩, hrs,
    hvr, hrl, hrc⟩ := hnd'
  have h0 : ∀ q ∈ sp :: (r.toList ++ (Ctx.labels rctx ++ v :: (l.toList ++ Ctx.labels ctx))), q ≠ 0 :=
    fun q hq => (hptr q hq).1
  have hl0 : rootPtr l ≠ 0 := by
    rcases rootPtr_eq_zero_or_mem l with h | h
    · exact absurd h hlne
    · exact h0 _ (by simp [h])
  have hvmod : v % 4 = 0 := (hptr v (by simp)).2
  have hleft : ∀ pc x z, (mkNode .left pc x z).rb_left = x := fun _ _ _ => rfl
  -- the left subtree goes under the successor
  let sa := s.store sp (mkNode .left (w + colorBit cs) (rootPtr l) (segTop rctx (rootPtr r)))
  have hsa : ∀ q, q ≠ sp → sa.node q = s.node q := fun q hq => store_node_ne _ _ hq
  have hla : Rep sa l v := hl.congr fun q hq => hsa q fun he => hsl (he ▸ hq)
  obtain ⟨sb, hsb, hlb, hrootb, hframeb⟩ := rb_set_parent_if_spec sp hla hvmod hlnd
    (fun h => h0 0 (by simp [h]) rfl)
  rw [rb_set_parent_if, if_pos hl0] at hsb
  have hbs : ∀ q, q ≠ sp → q ∉ l.toList → sb.node q = s.node q := fun q h1 h2 => by
    rw [hframeb q h2, hsa q h1]
  -- the successor takes the place of the node
  have hctxb : RepCtx sb ctx v := hctx.congr (by rw [hrootb]; rfl) fun q hq =>
    hbs q (fun he => hsc (he ▸ hq)) (fun h => hlc h hq)
  obtain ⟨sc, hscc, hctxc, hframec⟩ := rb_change_child_spec sp hctxb (h0 v (by simp)) hvc hcnd
    (fun h => h0 0 (by simp [h]) rfl)
  have hcs : ∀ q, q ≠ sp → q ∉ l.toList → q ∉ Ctx.labels ctx → sc.node q = s.node q :=
    fun q h1 h2 h3 => by rw [hframec q h3, hbs q h1 h2]
  -- its right subtree turns black
  have hrcc : Rep sc r sp := hr.congr fun q hq =>
    hcs q (fun he => hsr (he ▸ hq)) (fun h => hrl hq h) (fun h => hrc hq h)
  obtain ⟨sd, hsd, hrd, hrootd, hframed⟩ := rb_set_parent_black_if_spec (segParent rctx sp) hrcc hrnd
    (fun h => h0 0 (by simp [h]) rfl)
  have hspd : sd.node sp = some (mkNode .left (w + colorBit cs) (rootPtr l)
      (segTop rctx (rootPtr r))) := by
    rw [hframed sp hsr, hframec sp hsc, hframeb sp hsl]
    exact store_node_self ..
  let se := sd.store sp (mkNode .left (ctxPtr ctx + colorBit c) (rootPtr l)
    (segTop rctx (rootPtr r)))
  have hse : ∀ q, q ≠ sp → se.node q = sd.node q := fun q hq => store_node_ne _ _ hq
  have hds : ∀ q, q ≠ sp → q ∉ l.toList → q ∉ Ctx.labels ctx → q ∉ r.toList →
      se.node q = s.node q := by
    intro q h1 h2 h3 h4
    rw [hse q h1, hframed q h4, hcs q h1 h2 h3]
  refine ⟨se, ?_, ⟨?_, ?_, ?_, ?_⟩, ?_⟩
  · have hva : sb.node v = some (mkNode .left (ctxPtr ctx + colorBit c) (rootPtr l) y) := by
      rw [hbs v (fun he => hsv he.symm) hvl, hv]
    have hset : s.set_child .left sp (rootPtr l) = some sa := by
      rw [set_child_eq hsp, mkNode_setChild]
    have hspc : sc.node sp = some (mkNode .left (w + colorBit cs) (rootPtr l)
        (segTop rctx (rootPtr r))) := by
      rw [hframec sp hsc, hframeb sp hsl]
      exact store_node_self ..
    simp only [rb_erase_relink, hv, hleft, hset, hsb, hva, mkNode_pc, rb_parent_of_pack c hmod, hscc,
      Option.bind_eq_bind, Option.bind_some]
    cases r with
    | leaf =>
      obtain rfl : sc = sd := by
        simpa [rb_set_parent_black_if] using hsd
      simp only [rootPtr_leaf, ne_eq, not_true_eq_false, if_false, Option.pure_def,
        Option.bind_some, rebalanceAt, true_and, ctxPtr_append, ctxPtr_cons]
      rw [rootPtr_leaf] at hspc
      simp only [hspc, Option.bind_some, (mkNode_pack_reads (d := .left) cs hw).2, mkNode_with_pc]
      cases cs <;> rfl
    | node cr rl rp rr =>
      have hrp0 : rp ≠ 0 := h0 rp (by simp)
      rw [rb_set_parent_black_if, rootPtr_node, if_pos hrp0] at hsd
      rw [rootPtr_node] at hspd
      simp only [rootPtr_node, ne_eq, hrp0, not_false_eq_true, if_true, hsd, Option.pure_def,
        Option.bind_some, hspd, mkNode_with_pc, rebalanceAt, reduceCtorEq, false_and, if_false]
      rfl
  · rw [ctxPtr_append, ctxPtr_cons]
    refine hrd.congr fun q hq => ?_
    rw [toList_blacken] at hq
    exact hse q fun he => hsr (he ▸ hq)
  · rw [rootPtr_blacken, repCtx_append]
    refine ⟨?_, ?_, ?_, ?_⟩
    · rw [ctxPtr_cons]
      exact hseg.congr fun q hq => hds q (fun he => hss (he ▸ hq)) (fun h => hsl' hq h)
        (fun h => hsc' hq h) (fun h => hrs h hq)
    · exact store_node_self ..
    · refine hlb.congr fun q hq => ?_
      rw [hse q fun he => hsl (he ▸ hq), hframed q fun h => hrl h hq, hframec q fun h => hlc hq h]
    · refine hctxc.congr (by simp only [se, store_rb_node]; exact hrootd) fun q hq => ?_
      rw [hse q fun he => hsc (he ▸ hq), hframed q fun h => hrc h hq]
  · rw [toList_blacken, labels_append]
    simp only [Ctx.labels]
    have hperm : (r.toList ++ (Ctx.labels rctx ++ sp :: (l.toList ++ Ctx.labels ctx))).Perm
        (sp :: (r.toList ++ (Ctx.labels rctx ++ (l.toList ++ Ctx.labels ctx)))) := by
      have h1 := @List.perm_middle _ sp (r.toList ++ Ctx.labels rctx) (l.toList ++ Ctx.labels ctx)
      simpa only [List.append_assoc] using h1
    rw [hperm.nodup_iff]
    refine List.Nodup.sublist ?_ hnd
    exact ((((List.sublist_cons_self v _).append_left _).append_left _).cons_cons sp)
  · intro q hq
    rw [toList_blacken, labels_append] at hq
    refine hptr q ?_
    simp only [Ctx.labels, List.mem_append, List.mem_cons] at hq ⊢
    tauto
  · intro q hq
    simp only [List.mem_cons, List.mem_append, not_or] at hq
    exact hds q hq.1 hq.2.2.2.2.1 hq.2.2.2.2.2 hq.2.1

/-- `__rb_erase_augmented` of a node with two children, up to the relinking. -/
theorem rb_erase_augmented_two {s : RbState} {v pc x y : ℕ} (fuel : ℕ)
    (hv : s.node v = some (mkNode .left pc x y)) (hx : x ≠ 0) (hy : y ≠ 0) :
    rb_erase_augmented fuel s v = (do
      let nch ← s.node y
      if nch.rb_left = 0 then rb_erase_relink s v y y nch.rb_right
      else do
        let (parent, successor) ← rb_erase_successor s fuel y nch.rb_left
        let ns ← s.node successor
        let s ← s.set_child .left parent ns.rb_right
        let s ← s.set_child .right successor y
        let s ← rb_set_parent s y successor
        rb_erase_relink s v successor parent ns.rb_right) := by
  rw [rb_erase_augmented, hv]
  change (if x = 0 then _ else if y = 0 then _ else _) = _
  rw [if_neg hx, if_neg hy]
  rfl

/-- `__rb_erase_augmented` of a node without a left child. -/
theorem rb_erase_augmented_right {s : RbState} {v pc x y : ℕ} (fuel : ℕ)
    (hv : s.node v = some (mkNode .left pc x y)) (hx : x = 0) :
    rb_erase_augmented fuel s v = (do
      let s ← rb_change_child s v y (rb_parent_of pc)
      if y ≠ 0 then do
        let nc ← s.node y
        pure (s.store y { nc with rb_parent_color := pc }, 0)
      else pure (s, if rb_color_of pc = RB_BLACK then rb_parent_of pc else 0)) := by
  rw [rb_erase_augmented, hv]
  change (if x = 0 then _ else if y = 0 then _ else _) = _
  rw [if_pos hx]
  rfl

/-- `__rb_erase_augmented` of a node with a left child only. -/
theorem rb_erase_augmented_left {s : RbState} {v pc x y : ℕ} (fuel : ℕ)
    (hv : s.node v = some (mkNode .left pc x y)) (hx : x ≠ 0) (hy : y = 0) :
    rb_erase_augmented fuel s v = (do
      let nt ← s.node x
      let s ← rb_change_child (s.store x { nt with rb_parent_color := pc }) v x (rb_parent_of pc)
      pure (s, 0)) := by
  rw [rb_erase_augmented, hv]
  change (if x = 0 then _ else if y = 0 then _ else _) = _
  rw [if_neg hx, if_pos hy]
  rfl

/-- The place of the leftmost node below the right child of `v`, in focus. -/
theorem focus_successor {s : RbState} {c cs : Color} {l r sr : CTree Ptr} {v sp : ℕ}
    {rctx ctx : Ctx Ptr} (h : Focus s (.node c l v r) ctx)
    (hr : r = Ctx.plug (.node cs .leaf sp sr) rctx) :
    Focus s (.node cs .leaf sp sr) (rctx ++ ⟨.right, c, v, l⟩ :: ctx) := by
  rw [focus_iff_isTree, plug_append, ← hr]
  exact focus_iff_isTree.mp (focus_up.mpr h)

/-- The labels of a tree, seen from the place of the successor of `v`. -/
theorem successor_labels {s : RbState} {c cs : Color} {l r sr : CTree Ptr} {v sp : ℕ}
    {rctx ctx : Ctx Ptr} (h : Focus s (.node c l v r) ctx)
    (hr : r = Ctx.plug (.node cs .leaf sp sr) rctx) :
    (sp :: (sr.toList ++ (Ctx.labels rctx ++ v :: (l.toList ++ Ctx.labels ctx)))).Nodup ∧
      (∀ q ∈ sp :: (sr.toList ++ (Ctx.labels rctx ++ v :: (l.toList ++ Ctx.labels ctx))), NodePtr q) ∧
      ∀ q, q ∉ (Ctx.plug (.node c l v r) ctx).toList →
        q ∉ sp :: (sr.toList ++ (Ctx.labels rctx ++ v :: (l.toList ++ Ctx.labels ctx))) := by
  have hfoc := focus_successor h hr
  have hnd := hfoc.nodup
  have hptr := hfoc.ptr
  simp only [labels_append, Ctx.labels, toList_node, toList_leaf, List.nil_append,
    List.cons_append] at hnd hptr
  refine ⟨hnd, hptr, ?_⟩
  intro q hq hin
  have heq : Ctx.plug (.node c l v r) ctx =
      Ctx.plug (.node cs .leaf sp sr) (rctx ++ ⟨.right, c, v, l⟩ :: ctx) := by
    rw [plug_append, ← hr]
    rfl
  rw [heq, Ctx.mem_plug, labels_append] at hq
  simp only [Ctx.labels, toList_node, toList_leaf, List.nil_append, List.mem_cons,
    List.mem_append, not_or] at hq hin
  tauto

/-- The successor below a right child that has a left child: its place is a left child itself, and
the way to it starts at the right child. -/
theorem rb_erase_successor_below {s : RbState} {cr : Color} {rl rr : CTree Ptr} {rp fuel : ℕ}
    (hrep : Rep s rl rp) (hrl : rl ≠ .leaf) (h0 : 0 ∉ rl.toList)
    (hfuel : rl.toList.length ≤ fuel) :
    ∃ (f : Frame Ptr) (rest : Ctx Ptr) (cs : Color) (sp : ℕ) (sr : CTree Ptr),
      CTree.node cr rl rp rr = Ctx.plug (.node cs .leaf sp sr) (f :: rest)
      ∧ (∀ g ∈ f :: rest, g.dir = .left)
      ∧ (∀ cp, segTop (f :: rest) cp = rp)
      ∧ rb_erase_successor s fuel rp (rootPtr rl) = some (f.label, sp) := by
  obtain ⟨rctx, cs, sp, sr, heq, hdir, hsucc⟩ := rb_erase_successor_spec hrep hrl h0 rp hfuel
  have htop : ∀ (k : Ctx Ptr) cp, segTop (k ++ [⟨.left, cr, rp, rr⟩]) cp = rp := by
    intro k
    induction k with
    | nil => exact fun _ => rfl
    | cons g k ih => exact fun _ => ih _
  have hplug : CTree.node cr rl rp rr =
      Ctx.plug (.node cs .leaf sp sr) (rctx ++ [⟨.left, cr, rp, rr⟩]) := by
    rw [plug_append, ← heq]
    rfl
  have hdir' : ∀ g ∈ rctx ++ [⟨.left, cr, rp, rr⟩], g.dir = .left := by
    intro g hg
    rcases List.mem_append.mp hg with hg | hg
    · exact hdir g hg
    · rw [List.mem_singleton.mp hg]
  cases rctx with
  | nil => exact ⟨_, _, cs, sp, sr, hplug, hdir', htop [], hsucc⟩
  | cons g rest => exact ⟨g, _, cs, sp, sr, hplug, hdir', htop (g :: rest), hsucc⟩

/-- **Taking the successor out of its place.** Its parent gets its right subtree, and it gets the
right child `rp` of the node that goes. -/
theorem rb_erase_detach_spec {s : RbState} {c cs : Color} {l sr : CTree Ptr} {v sp rp : ℕ}
    {f : Frame Ptr} {rest ctx : Ctx Ptr}
    (h : Focus s (.node cs .leaf sp sr) (f :: rest ++ ⟨.right, c, v, l⟩ :: ctx))
    (hdir : f.dir = .left) (htop : ∀ cp, segTop (f :: rest) cp = rp) :
    ∃ s1 s2 s3, s.set_child .left f.label (rootPtr sr) = some s1
      ∧ s1.set_child .right sp rp = some s2
      ∧ rb_set_parent s2 rp sp = some s3
      ∧ s3.node sp = some (mkNode .left (ctxPtr (f :: rest ++ ⟨.right, c, v, l⟩ :: ctx) +
          colorBit cs) 0 (segTop (f :: rest) (rootPtr sr)))
      ∧ RepSeg s3 (f :: rest) (rootPtr sr) sp
      ∧ s3.rb_node = s.rb_node
      ∧ ∀ q, q ≠ sp → q ∉ Ctx.labels (f :: rest) → s3.node q = s.node q := by
  obtain ⟨⟨hcell, -, -⟩, hctx, hnd, hptr⟩ := h
  obtain ⟨hseg, -⟩ := repCtx_append.mp hctx
  rw [ctxPtr_cons, rootPtr_node] at hseg
  rw [labels_append] at hnd hptr
  simp only [toList_node, toList_leaf, List.nil_append, List.cons_append, List.nodup_cons,
    List.mem_append, not_or, List.nodup_append'] at hnd
  obtain ⟨⟨-, hss, -⟩, -, ⟨hsnd, -⟩, -⟩ := hnd
  have hvmod : v % 4 = 0 := (hptr v (by simp [Ctx.labels])).2
  have hflab : f.label ∈ Ctx.labels (f :: rest) := by simp [Ctx.labels]
  have hrpl : rp ∈ Ctx.labels (f :: rest) := by
    have hm := segTop_mem f rest 0
    rwa [htop] at hm
  obtain ⟨s1, hs1, hseg1, hroot1, hframe1⟩ := seg_set_hole hseg (rootPtr sr) hsnd
  rw [hdir] at hs1
  have hsp1 : s1.node sp = some (mkNode .left (ctxPtr (f :: rest ++ ⟨.right, c, v, l⟩ :: ctx) +
      colorBit cs) 0 (rootPtr sr)) := by
    rw [hframe1 sp fun he => hss (he ▸ hflab), hcell]
    rfl
  let s2 := s1.store sp (mkNode .left (ctxPtr (f :: rest ++ ⟨.right, c, v, l⟩ :: ctx) +
    colorBit cs) 0 rp)
  have hs2 : s1.set_child .right sp rp = some s2 := by
    rw [set_child_eq hsp1]
    rfl
  have hframe2 : ∀ q, q ≠ sp → s2.node q = s1.node q := fun q hq => store_node_ne _ _ hq
  have hseg2 : RepSeg s2 (f :: rest) (rootPtr sr) v :=
    hseg1.congr fun q hq => hframe2 q fun he => hss (he ▸ hq)
  obtain ⟨s3, hs3, hseg3, hroot3, hframe3⟩ := seg_set_parent hseg2 sp hvmod hsnd
  rw [htop] at hs3 hframe3
  refine ⟨s1, s2, s3, hs1, hs2, hs3, ?_, hseg3, hroot3.trans hroot1, ?_⟩
  · rw [htop, hframe3 sp fun he => hss (he ▸ hrpl)]
    exact store_node_self ..
  · intro q h1 h2
    rw [hframe3 q fun he => h2 (he ▸ hrpl), hframe2 q h1, hframe1 q fun he => h2 (he ▸ hflab)]

/-- **A node with two children.** Its successor, the leftmost node of the right subtree, takes its
place, and leaves its own place to its right subtree. -/
theorem rb_erase_two_spec {s : RbState} {c : Color} {l r : CTree Ptr} {v : ℕ} (fuel : ℕ)
    {ctx : Ctx Ptr} (h : Focus s (.node c l v r) ctx) (hl : l ≠ .leaf) (hr : r ≠ .leaf)
    (hfuel : r.toList.length ≤ fuel) :
    ∃ cs sp sr rctx s', r = Ctx.plug (.node cs .leaf sp sr) rctx
      ∧ (∀ f ∈ rctx, f.dir = .left)
      ∧ rb_erase_augmented fuel s v =
          some (s', rebalanceAt cs sr (rctx ++ ⟨.right, c, sp, l⟩ :: ctx))
      ∧ Focus s' sr.blacken (rctx ++ ⟨.right, c, sp, l⟩ :: ctx)
      ∧ ∀ q, q ∉ (Ctx.plug (.node c l v r) ctx).toList → s'.node q = s.node q := by
  have hmod := h.ctxPtr_mod
  have hnode : ∀ x : CTree Ptr, x ≠ .leaf → (∀ q ∈ x.toList, NodePtr q) → rootPtr x ≠ 0 := by
    intro x hx hp
    exact (hp _ ((rootPtr_eq_zero_or_mem x).resolve_left hx)).1
  have hl0 : rootPtr l ≠ 0 := hnode l hl fun q hq => h.ptr q (by simp [hq])
  have hr0 : rootPtr r ≠ 0 := hnode r hr fun q hq => h.ptr q (by simp [hq])
  obtain ⟨hv, hlrep, hrrep⟩ := h.rep
  have hstep := rb_erase_augmented_two fuel hv hl0 hr0
  have hleft : ∀ pc x z, (mkNode .left pc x z).rb_left = x := fun _ _ _ => rfl
  have hright : ∀ pc x z, (mkNode .left pc x z).rb_right = z := fun _ _ _ => rfl
  obtain ⟨cr, rl, rp, rr, hreq⟩ := exists_build .left hr
  change r = .node cr rl rp rr at hreq
  subst hreq
  obtain ⟨hrcell, hrlrep, hrrrep⟩ := hrrep
  rw [rootPtr_node] at hstep hv
  by_cases hrl : rl = .leaf
  · -- the successor is the right child
    subst hrl
    have hplug : CTree.node cr .leaf rp rr = Ctx.plug (.node cr .leaf rp rr) [] := rfl
    obtain ⟨hnd, hptr, hout⟩ := successor_labels h hplug
    obtain ⟨s', hs', hfoc, hframe⟩ := rb_erase_relink_spec [] hrcell
      (h.ptr v (by simp)).2 trivial hrrrep hv hlrep hl h.repCtx hnd hptr hmod
    refine ⟨cr, rp, rr, [], s', hplug, by simp, ?_, hfoc, fun q hq => hframe q (hout q hq)⟩
    rw [hstep, hrcell]
    simp only [Option.bind_eq_bind, Option.bind_some, hleft, hright, rootPtr_leaf, if_true]
    exact hs'
  · -- the successor is further down
    have hrl0 : rootPtr rl ≠ 0 := hnode rl hrl fun q hq => h.ptr q (by simp [hq])
    have hlen : rl.toList.length ≤ fuel := by
      simp at hfuel
      omega
    obtain ⟨f, rest, cs, sp, sr, hplug, hdir, htop, hsucc⟩ := rb_erase_successor_below hrlrep hrl
      (fun hm => (h.ptr 0 (by simp [hm])).1 rfl) hlen
    obtain ⟨hnd, hptr, hout⟩ := successor_labels h hplug
    have hfoc0 := focus_successor h hplug
    obtain ⟨s1, s2, s3, hs1, hs2, hs3, hsp3, hseg3, hroot3, hsame⟩ :=
      rb_erase_detach_spec hfoc0 (hdir f List.mem_cons_self) htop
    obtain ⟨⟨hspcell, -, hsrrep⟩, -⟩ := hfoc0
    have hnd' := hnd
    simp only [List.nodup_cons, List.mem_cons, List.mem_append, not_or, List.nodup_append',
      List.disjoint_cons_right, List.disjoint_append_right] at hnd'
    obtain ⟨⟨hssr, -, hsv, hsl, hsc⟩, -, ⟨-, -, hvs, hsl', hsc'⟩, hsrs, -⟩ := hnd'
    have hwmod : ctxPtr (f :: rest ++ ⟨.right, c, v, l⟩ :: ctx) % 4 = 0 := by
      rw [List.cons_append, ctxPtr_cons]
      exact (hptr f.label (by simp [Ctx.labels])).2
    have hv3 : s3.node v = some (mkNode .left (ctxPtr ctx + colorBit c) (rootPtr l) rp) := by
      rw [hsame v (fun he => hsv he.symm) hvs, hv]
    -- what the relinking reads besides the successor is as it was
    have hsr3 : Rep s3 sr sp :=
      hsrrep.congr fun q hq => hsame q (fun he => hssr (he ▸ hq)) fun hm => hsrs hq hm
    have hl3 : Rep s3 l v :=
      hlrep.congr fun q hq => hsame q (fun he => hsl (he ▸ hq)) fun hm => hsl' hm hq
    have hctx3 : RepCtx s3 ctx v :=
      h.repCtx.congr hroot3 fun q hq => hsame q (fun he => hsc (he ▸ hq)) fun hm => hsc' hm hq
    obtain ⟨s', hs', hfoc, hframe⟩ := rb_erase_relink_spec (f :: rest) hsp3 hwmod hseg3 hsr3 hv3 hl3
      hl hctx3 hnd hptr hmod
    refine ⟨cs, sp, sr, f :: rest, s', hplug, hdir, ?_, hfoc, ?_⟩
    · rw [hstep, hrcell]
      simp only [Option.bind_eq_bind, Option.bind_some, hleft, if_neg hrl0, hsucc, hspcell, hright,
        hs1, hs2, hs3]
      exact hs'
    · intro q hq
      have hq' := hout q hq
      rw [hframe q hq']
      simp only [List.mem_cons, List.mem_append, not_or] at hq'
      exact hsame q hq'.1 hq'.2.2.1

/-- **A node with at most one child.** The child takes its place, black. -/
theorem rb_erase_one_spec {s : RbState} {c : Color} {l r x : CTree Ptr} {v : ℕ} (fuel : ℕ)
    {ctx : Ctx Ptr} (h : Focus s (.node c l v r) ctx)
    (hx : l = .leaf ∧ x = r ∨ l ≠ .leaf ∧ r = .leaf ∧ x = l)
    (hc : x ≠ .leaf → c = .black) :
    ∃ s', rb_erase_augmented fuel s v = some (s', rebalanceAt c x ctx)
      ∧ Focus s' x.blacken ctx
      ∧ ∀ q, q ∉ (Ctx.plug (.node c l v r) ctx).toList → s'.node q = s.node q := by
  have hmod := h.ctxPtr_mod
  obtain ⟨⟨hv, hlrep, hrrep⟩, hctx, hnd, hptr⟩ := h
  have hxrep : Rep s x v := by
    rcases hx with ⟨-, rfl⟩ | ⟨-, -, rfl⟩
    · exact hrrep
    · exact hlrep
  have hperm : ((CTree.node c l v r).toList ++ Ctx.labels ctx).Perm
      (v :: (x.toList ++ Ctx.labels ctx)) := by
    rcases hx with ⟨rfl, rfl⟩ | ⟨-, rfl, rfl⟩
    · exact List.Perm.refl _
    · simp only [toList_node, toList_leaf, List.append_assoc, List.cons_append, List.nil_append]
      exact List.perm_middle
  have hnd' := hperm.nodup_iff.mp hnd
  have hptr' : ∀ q ∈ v :: (x.toList ++ Ctx.labels ctx), NodePtr q :=
    fun q hq => hptr q (hperm.mem_iff.mpr hq)
  simp only [List.nodup_cons, List.mem_append, not_or, List.nodup_append'] at hnd'
  obtain ⟨⟨hvx, hvc⟩, hxnd, hcnd, hxc⟩ := hnd'
  -- the pointer in the parent, and the word of the child
  have hchange : ∀ s1 : RbState, (∀ q ∈ Ctx.labels ctx, s1.node q = s.node q) →
      s1.rb_node = s.rb_node → ∃ s2, rb_change_child s1 v (rootPtr x) (ctxPtr ctx) = some s2
        ∧ RepCtx s2 ctx (rootPtr x) ∧ ∀ q, q ∉ Ctx.labels ctx → s2.node q = s1.node q := by
    intro s1 hsame hroot
    exact rb_change_child_spec (rootPtr x) (hctx.congr hroot hsame) (hptr' v (by simp)).1 hvc hcnd
      (fun hm => (hptr' 0 (by simp [hm])).1 rfl)
  have hfocus : ∀ s2 : RbState, Rep s2 x.blacken (ctxPtr ctx) → RepCtx s2 ctx (rootPtr x) →
      Focus s2 x.blacken ctx := by
    intro s2 hrep2 hctx2
    refine ⟨hrep2, by rwa [rootPtr_blacken], ?_, ?_⟩
    · rw [toList_blacken, List.nodup_append']
      exact ⟨hxnd, hcnd, hxc⟩
    · intro q hq
      rw [toList_blacken] at hq
      exact hptr' q (List.mem_cons_of_mem v hq)
  have hout : ∀ q, q ∉ (Ctx.plug (.node c l v r) ctx).toList → q ∉ x.toList ∧ q ∉ Ctx.labels ctx := by
    intro q hq
    rw [Ctx.mem_plug, ← List.mem_append, hperm.mem_iff] at hq
    simp only [List.mem_cons, List.mem_append, not_or] at hq
    exact hq.2
  cases x with
  | leaf =>
    obtain ⟨s2, hs2, hctx2, hframe2⟩ := hchange s (fun _ _ => rfl) rfl
    refine ⟨s2, ?_, hfocus s2 trivial hctx2, fun q hq => hframe2 q (hout q hq).2⟩
    have hlr : l = .leaf ∧ r = .leaf := by
      rcases hx with ⟨hl, hr⟩ | ⟨hl, -, hbad⟩
      · exact ⟨hl, hr.symm⟩
      · exact absurd hbad.symm hl
    obtain ⟨rfl, rfl⟩ := hlr
    simp only [rootPtr_leaf] at hv hs2
    rw [rb_erase_augmented_right fuel hv rfl]
    simp only [rb_parent_of_pack c hmod, hs2, Option.bind_eq_bind, Option.bind_some, ne_eq,
      not_true_eq_false, if_false, rb_color_of_pack c hmod, Option.pure_def, rebalanceAt, true_and]
    cases c <;> rfl
  | node cx xl xp xr =>
    have hcb : c = .black := hc (by simp)
    subst hcb
    obtain ⟨hxcell, hxl, hxr⟩ := hxrep
    have hxp0 : xp ≠ 0 := (hptr' xp (by simp)).1
    have hxpl : xp ∉ xl.toList ∧ xp ∉ xr.toList ∧ xp ∉ Ctx.labels ctx := by
      have h1 := hxnd
      simp only [toList_node, List.nodup_append', List.nodup_cons, List.disjoint_cons_right] at h1
      exact ⟨h1.2.2.1, h1.2.1.1, fun hm => hxc (by simp) hm⟩
    have hword : ∀ s1 : RbState, (∀ q ∈ (CTree.node cx xl xp xr).toList, s1.node q = s.node q) →
        s1.node xp = some (mkNode .left (v + colorBit cx) (rootPtr xl) (rootPtr xr))
        ∧ Rep (s1.store xp (mkNode .left (ctxPtr ctx + colorBit .black) (rootPtr xl) (rootPtr xr)))
          (CTree.node .black xl xp xr) (ctxPtr ctx) := by
      intro s1 hsame
      refine ⟨by rw [hsame xp (by simp), hxcell], store_node_self .., ?_, ?_⟩
      · refine hxl.congr fun q hq => ?_
        rw [store_node_ne _ _ fun he : q = xp => hxpl.1 (he ▸ hq), hsame q (by simp [hq])]
      · refine hxr.congr fun q hq => ?_
        rw [store_node_ne _ _ fun he : q = xp => hxpl.2.1 (he ▸ hq), hsame q (by simp [hq])]
    rcases hx with ⟨rfl, rfl⟩ | ⟨hl, rfl, rfl⟩
    · -- the right child: first the pointer, then the word
      obtain ⟨s2, hs2, hctx2, hframe2⟩ := hchange s (fun _ _ => rfl) rfl
      obtain ⟨hcell2, hrep2⟩ := hword s2 fun q hq => hframe2 q fun hm => hxc hq hm
      refine ⟨_, ?_, hfocus _ hrep2 ?_, ?_⟩
      · rw [rootPtr_node] at hs2
        simp only [rootPtr_leaf, rootPtr_node] at hv
        rw [rb_erase_augmented_right fuel hv rfl]
        simp only [rb_parent_of_pack .black hmod, hs2, Option.bind_eq_bind, Option.bind_some, ne_eq,
          hxp0, not_false_eq_true, if_true, hcell2, mkNode_with_pc, Option.pure_def, rebalanceAt,
          reduceCtorEq, false_and, if_false]
      · exact hctx2.congr rfl fun q hq => store_node_ne _ _ fun he => hxpl.2.2 (he ▸ hq)
      · intro q hq
        obtain ⟨h1, h2⟩ := hout q hq
        rw [store_node_ne _ _ fun he => h1 (by simp [he]), hframe2 q h2]
    · -- the left child: first the word, then the pointer
      obtain ⟨hcell1, hrep1⟩ := hword s fun _ _ => rfl
      obtain ⟨s2, hs2, hctx2, hframe2⟩ := hchange
        (s.store xp (mkNode .left (ctxPtr ctx + colorBit .black) (rootPtr xl) (rootPtr xr)))
        (fun q hq => store_node_ne _ _ fun he => hxpl.2.2 (he ▸ hq)) rfl
      refine ⟨s2, ?_, hfocus s2 (hrep1.congr fun q hq => ?_) hctx2, ?_⟩
      · rw [rootPtr_node] at hs2
        simp only [rootPtr_leaf, rootPtr_node] at hv
        rw [rb_erase_augmented_left fuel hv hxp0 rfl]
        simp only [hcell1, mkNode_with_pc, rb_parent_of_pack .black hmod, hs2, Option.bind_eq_bind,
          Option.bind_some, Option.pure_def, rebalanceAt, reduceCtorEq, false_and, if_false]
      · exact hframe2 q fun hm => hxc hq hm
      · intro q hq
        obtain ⟨h1, h2⟩ := hout q hq
        rw [hframe2 q h2, store_node_ne _ _ fun he => h1 (by simp [he])]

/-! ## `rb_erase` -/

/-- **The end of `rb_erase`.** Where a node `p` with an empty child stood in `ctx` there is now its
other child `x`, black; the loop runs if that place is one black node short. -/
theorem rb_erase_finish {s : RbState} {c : Color} {x : CTree Ptr} {p n fuel : ℕ} {d : Dir}
    {ctx : Ctx Ptr} (hfoc : Focus s x.blacken ctx) (hctx : CtxBal ctx n)
    (hbal : Bal (build d c .leaf p x) n) (hlen : ctx.length ≤ fuel) :
    Rebalanced s x ctx (if rebalanceAt c x ctx ≠ 0 then rb_erase_color fuel s 0 (rebalanceAt c x ctx)
      else pure s) := by
  -- nothing to rebalance: the place has its height back
  have hdone : Bal x.blacken n → Rebalanced s x ctx (some s) := by
    intro hx
    obtain ⟨hb, hcol⟩ := hctx.plug hx (Or.inl (color_blacken x))
    refine ⟨s, Ctx.plug x.blacken ctx, rfl, focus_iff_isTree.mp hfoc, ⟨?_, hb⟩,
      Ctx.toList_plug_congr (toList_blacken x) ctx, fun _ _ => rfl⟩
    rw [hcol, color_blacken, ite_self]
  rcases hbal.one_child with ⟨rfl, hc⟩ | ⟨hx, -, rfl, hxb⟩
  · rcases hc with ⟨rfl, rfl⟩ | ⟨rfl, rfl⟩
    · have h0 : rebalanceAt .red .leaf ctx = 0 := by simp [rebalanceAt]
      rw [h0, if_neg (by simp)]
      exact hdone .leaf
    · have hptr : rebalanceAt .black .leaf ctx = ctxPtr ctx := by simp [rebalanceAt]
      rw [hptr]
      cases ctx with
      | nil =>
        rw [ctxPtr_nil, if_neg (by simp)]
        exact ⟨s, .leaf, rfl, hfoc, ⟨rfl, 0, .leaf⟩, rfl, fun _ _ => rfl⟩
      | cons f up =>
        have hne : f.label ≠ 0 := (hfoc.ptr f.label (by simp [Ctx.labels])).1
        rw [ctxPtr_cons, if_pos hne]
        rw [List.length_cons] at hlen
        exact rb_erase_color_spec fuel s .leaf f up 0 hfoc rfl .leaf hctx (by omega)
  · have h0 : rebalanceAt c x ctx = 0 := by simp [rebalanceAt, hx]
    rw [h0, if_neg (by simp)]
    exact hdone hxb

/-- `rb_erase` as its two parts. -/
theorem rb_erase_eq {s s' : RbState} {v fuel rebalance : ℕ}
    (h : rb_erase_augmented fuel s v = some (s', rebalance)) :
    rb_erase fuel s v
      = if rebalance ≠ 0 then rb_erase_color fuel s' 0 rebalance else pure s' := by
  simp only [rb_erase, h, Option.bind_eq_bind, Option.bind_some]

/-- What is left when `v` is taken out of the tree around it. -/
theorem rebalanced_erase {s s' : RbState} {t x : CTree Ptr} {v : ℕ} {ctx : Ctx Ptr} (l₁ l₂ : List Ptr)
    {r : Option RbState} (h : Rebalanced s' x ctx r) (hnd : t.toList.Nodup)
    (ht : t.toList = l₁ ++ v :: l₂) (hx : (Ctx.plug x ctx).toList = l₁ ++ l₂)
    (hframe : ∀ q, q ∉ t.toList → s'.node q = s.node q) :
    ∃ s'' t', r = some s'' ∧ IsTree s'' t' ∧ IsRedBlack t' ∧ t'.toList = t.toList.erase v
      ∧ ∀ q, q ∉ t.toList → s''.node q = s.node q := by
  obtain ⟨s'', t', hres, htree, hrb, hl, hfr⟩ := h
  refine ⟨s'', t', hres, htree, hrb, ?_, ?_⟩
  · have hv : v ∉ l₁ := by
      rw [ht, List.nodup_append'] at hnd
      exact fun hm => hnd.2.2 hm List.mem_cons_self
    rw [hl, hx, ht, List.erase_append_right _ hv, List.erase_cons_head]
  · intro q hq
    have hq' : q ∉ (Ctx.plug x ctx).toList := by
      rw [hx]
      rw [ht] at hq
      simp only [List.mem_append, List.mem_cons, not_or] at hq ⊢
      exact ⟨hq.1, hq.2.2⟩
    rw [hfr q hq', hframe q hq]

/-- **A node with at most one child is erased.** -/
theorem rb_erase_one {s : RbState} {c : Color} {l r x : CTree Ptr} {v n fuel : ℕ} {d : Dir}
    {ctx : Ctx Ptr} (h : Focus s (.node c l v r) ctx)
    (hx : l = .leaf ∧ x = r ∨ l ≠ .leaf ∧ r = .leaf ∧ x = l)
    (hbuild : CTree.node c l v r = build d c .leaf v x) (hctx : CtxBal ctx n)
    (hbal : Bal (.node c l v r) n) (hlen : ctx.length ≤ fuel) :
    ∃ s' t', rb_erase fuel s v = some s' ∧ IsTree s' t' ∧ IsRedBlack t'
      ∧ t'.toList = (Ctx.plug (.node c l v r) ctx).toList.erase v
      ∧ ∀ q, q ∉ (Ctx.plug (.node c l v r) ctx).toList → s'.node q = s.node q := by
  rw [hbuild] at hbal
  have hc : x ≠ .leaf → c = .black := by
    intro hne
    rcases hbal.one_child with ⟨hleaf, -⟩ | ⟨-, hc, -⟩
    · exact absurd hleaf hne
    · exact hc
  obtain ⟨s', hs', hfoc, hframe⟩ := rb_erase_one_spec fuel h hx hc
  rw [rb_erase_eq hs']
  refine rebalanced_erase (Ctx.before ctx ++ l.toList) (r.toList ++ Ctx.after ctx)
    (rb_erase_finish hfoc hctx hbal hlen) (Ctx.nodup_plug.mpr h.nodup) ?_ ?_ hframe
  · simp [Ctx.toList_plug]
  · rcases hx with ⟨rfl, rfl⟩ | ⟨-, rfl, rfl⟩ <;> simp [Ctx.toList_plug]

/-- **A node with two children is erased.** -/
theorem rb_erase_two {s : RbState} {c : Color} {l r : CTree Ptr} {v m fuel : ℕ} {ctx : Ctx Ptr}
    (h : Focus s (.node c l v r) ctx) (hl : l ≠ .leaf) (hr : r ≠ .leaf)
    (hbal : Bal (Ctx.plug (.node c l v r) ctx) m)
    (hroot : (Ctx.plug (.node c l v r) ctx).color = .black)
    (hfuel : (Ctx.plug (.node c l v r) ctx).toList.length ≤ fuel) :
    ∃ s' t', rb_erase fuel s v = some s' ∧ IsTree s' t' ∧ IsRedBlack t'
      ∧ t'.toList = (Ctx.plug (.node c l v r) ctx).toList.erase v
      ∧ ∀ q, q ∉ (Ctx.plug (.node c l v r) ctx).toList → s'.node q = s.node q := by
  have hsize := (Ctx.perm_plug (.node c l v r) ctx).length_eq
  simp only [toList_node, List.length_append, List.length_cons] at hsize
  obtain ⟨cs, sp, sr, rctx, s', hplug, hdir, hs', hfoc, hframe⟩ :=
    rb_erase_two_spec fuel h hl hr (by omega)
  -- the tree, seen from the place of the successor
  have hwhole : Ctx.plug (.node c l v r) ctx
      = Ctx.plug (.node cs .leaf sp sr) (rctx ++ ⟨.right, c, v, l⟩ :: ctx) := by
    rw [plug_append, ← hplug]
    rfl
  rw [hwhole] at hbal hroot
  obtain ⟨n, hctx, hsbal, -⟩ := CtxBal.of_plug hbal hroot
  have hlen : (rctx ++ ⟨.right, c, sp, l⟩ :: ctx).length ≤ fuel := by
    have h1 := Ctx.length_le_labels ctx
    have h2 := Ctx.length_le_labels rctx
    have h3 := (Ctx.perm_plug (.node cs .leaf sp sr) rctx).length_eq
    rw [← hplug] at h3
    simp only [toList_node, toList_leaf, List.length_append, List.length_cons, List.length_nil] at h3 ⊢
    omega
  rw [rb_erase_eq hs']
  refine rebalanced_erase (Ctx.before ctx ++ l.toList) (r.toList ++ Ctx.after ctx)
    (rb_erase_finish (d := .left) hfoc hctx.relabel hsbal hlen) (Ctx.nodup_plug.mpr h.nodup)
    (by simp [Ctx.toList_plug]) ?_ hframe
  have hbefore := Ctx.before_eq_nil hdir
  rw [plug_append, hplug, Ctx.toList_plug, Ctx.toList_plug (.node cs .leaf sp sr) rctx]
  simp [Ctx.before, Ctx.after, Ctx.toList_plug, hbefore]

/-- **`rb_erase`.** From every heap that holds a red-black tree `t` and for every node of it,
`rb_erase` returns, and the heap then holds a red-black tree whose order is that of `t` without the
node. The cells outside `t` are arbitrary, so they may all be unmapped, NULL among them: no step of
the run reads through a null sibling. They also keep their contents. -/
theorem rb_erase_red_black {s : RbState} {t : CTree Ptr} {v fuel : ℕ} (h : IsTree s t)
    (hrb : IsRedBlack t) (hv : v ∈ t.toList) (hfuel : t.toList.length ≤ fuel) :
    ∃ s' t', rb_erase fuel s v = some s' ∧ IsTree s' t' ∧ IsRedBlack t'
      ∧ t'.toList = t.toList.erase v ∧ ∀ q, q ∉ t.toList → s'.node q = s.node q := by
  obtain ⟨c, l, r, ctx, rfl⟩ := Ctx.exists_plug hv
  obtain ⟨hroot, m, hbal⟩ := hrb
  have hfoc := focus_iff_isTree.mpr h
  obtain ⟨n, hctx, hnode, -⟩ := CtxBal.of_plug hbal hroot
  have hlen : ctx.length ≤ fuel := by
    have h1 := Ctx.length_le_labels ctx
    have h2 := (Ctx.perm_plug (.node c l v r) ctx).length_eq
    rw [List.length_append] at h2
    omega
  by_cases hl : l = .leaf
  · exact rb_erase_one (d := .left) hfoc (Or.inl ⟨hl, rfl⟩) (by rw [hl]; rfl) hctx hnode hlen
  · by_cases hr : r = .leaf
    · exact rb_erase_one (d := .right) hfoc (Or.inr ⟨hl, hr, rfl⟩) (by rw [hr]; rfl) hctx hnode hlen
    · exact rb_erase_two hfoc hl hr hbal hroot hfuel

/-- A black node at 8 with two red children, at 4 and at 12. -/
def threeTree : CTree Ptr := .node .black (.node .red .leaf 4 .leaf) 8 (.node .red .leaf 12 .leaf)

/-- `threeTree` in a heap with no other cell. -/
def threeState : RbState where
  node q :=
    if q = 4 then some ⟨8, 0, 0⟩
    else if q = 8 then some ⟨1, 12, 4⟩
    else if q = 12 then some ⟨8, 0, 0⟩
    else none
  rb_node := 8

theorem threeState_isTree : IsTree threeState threeTree := by
  refine ⟨⟨rfl, ⟨rfl, trivial, trivial⟩, ⟨rfl, trivial, trivial⟩⟩, rfl, by decide, ?_⟩
  intro p hp
  simp only [threeTree, toList_node, toList_leaf, Ctx.labels, List.append_nil, List.nil_append,
    List.cons_append, List.mem_cons, List.not_mem_nil, or_false] at hp
  rcases hp with rfl | rfl | rfl <;> exact ⟨by decide, by decide⟩

theorem threeTree_isRedBlack : IsRedBlack threeTree :=
  ⟨rfl, 1, .black (.red .leaf .leaf rfl rfl) (.red .leaf .leaf rfl rfl)⟩

theorem rb_erase_threeState : threeState.node 0 = none
    ∧ ∃ s' t', rb_erase 3 threeState 8 = some s' ∧ IsTree s' t' ∧ IsRedBlack t'
      ∧ t'.toList = threeTree.toList.erase 8 ∧ ∀ q, q ∉ threeTree.toList → s'.node q = threeState.node q :=
  ⟨rfl, rb_erase_red_black threeState_isTree threeTree_isRedBlack (by decide) (by decide)⟩

end Svmx.RbTree
