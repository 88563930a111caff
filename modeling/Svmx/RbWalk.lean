/-
`rb_next`, `rb_prev` and `rb_last`: the in-order neighbours through parent pointers.

Both neighbour functions are `rb_step d`. If there is a child on side `d` the neighbour is the
extreme node below it; otherwise it is the first ancestor reached from the other side, which in
`Ctx` terms is the head of `Ctx.beyond d ctx`. The results come out as list positions, so a
caller sees the tree as its in-order list.
-/
import Svmx.RbRep

set_option autoImplicit false

namespace Svmx.RbTree

open ColorTree ColorTree.CTree

variable {s : RbState} {d : Dir}

/-- Running down one side ends at the first node read from that side. -/
theorem rb_descend_spec {fuel : ℕ} : ∀ {t : CTree Ptr} {par : ℕ}, Rep s t par → t ≠ .leaf →
    0 ∉ t.toList → t.toList.length ≤ fuel →
    rb_descend s d.flip fuel (rootPtr t) = some ((ordered d t).headD 0) := by
  induction fuel with
  | zero =>
    intro t par _ hne _ hlen
    cases t with
    | leaf => exact absurd rfl hne
    | node c l p r => simp at hlen
  | succ fuel ih =>
    intro t par h hne h0 hlen
    obtain ⟨c, x, p, y, rfl⟩ := exists_build d.flip hne
    obtain ⟨hcell, hx, -⟩ := rep_build.mp h
    have hlen' : x.toList.length ≤ fuel := by
      have hl := (Ctx.perm_plug x [⟨d.flip, c, p, y⟩]).length_eq
      simp only [Ctx.plug_cons, Ctx.plug_nil, Ctx.labels, List.length_append,
        List.length_cons] at hl
      omega
    rw [rb_descend, rootPtr_build, hcell]
    simp only [Option.bind_eq_bind, Option.bind_some, mkNode_child, ordered_build_flip]
    by_cases hxl : x = .leaf
    · subst hxl
      rw [rootPtr_leaf, if_neg (fun h => h rfl)]
      simp
    · have hx0 : 0 ∉ x.toList := fun h => h0 (mem_build.mpr (.inr (.inl h)))
      have hroot : rootPtr x ≠ 0 := by
        rcases rootPtr_eq_zero_or_mem x with h | h
        · exact absurd h hxl
        · exact fun he => hx0 (he ▸ h)
      have hne' : ordered d x ≠ [] := by
        intro hnil
        rcases rootPtr_eq_zero_or_mem x with h | h
        · exact hxl h
        · rw [← mem_ordered (d := d), hnil] at h
          cases h
      rw [if_pos hroot, ih hx hxl hx0 hlen']
      obtain ⟨a, as, has⟩ := List.exists_cons_of_ne_nil hne'
      rw [has]
      rfl

/-- Climbing as long as we come from side `d` ends at the first node beyond the hole. -/
theorem rb_climb_spec {fuel : ℕ} : ∀ {ctx : Ctx Ptr} {p : ℕ} {n : RbNode}, s.node p = some n →
    n.rb_parent = ctxPtr ctx → RepCtx s ctx p → p ≠ 0 → (p :: Ctx.labels ctx).Nodup →
    (∀ q ∈ Ctx.labels ctx, NodePtr q) → ctx.length < fuel →
    rb_climb s d fuel p = some ((Ctx.beyond d ctx).headD 0) := by
  induction fuel with
  | zero => intro ctx p n _ _ _ _ _ _ hlen; omega
  | succ fuel ih =>
    intro ctx p n hp hpar hctx hp0 hnd hptr hlen
    rw [rb_climb, hp]
    simp only [Option.bind_eq_bind, Option.bind_some, hpar]
    cases ctx with
    | nil => simp
    | cons f up =>
      obtain ⟨d1, c, a, sib⟩ := f
      obtain ⟨hcell, hsib, hup⟩ := hctx
      simp only at hcell hsib hup
      have ha : NodePtr a := hptr a (by simp [Ctx.labels])
      have hupmod : ctxPtr up % 4 = 0 := by
        cases up with
        | nil => rfl
        | cons g up' => exact (hptr g.label (by simp [Ctx.labels])).2
      rw [ctxPtr_cons, if_neg ha.1, hcell, Option.bind_some]
      by_cases hd : d1 = d
      · -- `p` is the child on the side of the walk: the climb goes on
        subst hd
        rw [mkNode_child, if_pos rfl, Ctx.beyond_same]
        refine ih hcell (mkNode_pack_reads c hupmod).1 hup ha.1 ?_ ?_ ?_
        · simp only [Ctx.labels, List.nodup_cons, List.mem_append, not_or,
            List.nodup_append'] at hnd
          exact List.nodup_cons.mpr ⟨hnd.2.1.2, hnd.2.2.2.1⟩
        · exact fun q hq => hptr q (by simp [Ctx.labels, hq])
        · simp only [List.length_cons] at hlen
          omega
      · obtain rfl : d1 = d.flip := by cases d <;> cases d1 <;> first | rfl | exact absurd rfl hd
        have hne : p ≠ (mkNode d.flip (ctxPtr up + colorBit c) p (rootPtr sib)).child d := by
          rw [mkNode_flip, mkNode_child]
          rintro rfl
          rcases rootPtr_eq_zero_or_mem sib with h | h
          · rw [h] at hp0; exact hp0 rfl
          · exact (List.nodup_cons.mp hnd).1 (by simp [Ctx.labels, h])
        rw [if_neg hne, Ctx.beyond_flip]
        rfl

/-- `rb_next` and `rb_prev` in focus. -/
theorem rb_step_spec {c : Color} {x y : CTree Ptr} {p fuel : ℕ} {ctx : Ctx Ptr}
    (h : Focus s (build d c x p y) ctx)
    (hfuel : (Ctx.plug (build d c x p y) ctx).toList.length < fuel) :
    rb_step d fuel s p = some ((ordered d x ++ Ctx.beyond d ctx).headD 0) := by
  have hmod := h.ctxPtr_mod
  obtain ⟨hrep, hctx, hnd, hptr⟩ := h
  obtain ⟨hcell, hx, -⟩ := rep_build.mp hrep
  have hpmem : p ∈ (build d c x p y).toList := mem_build.mpr (.inl rfl)
  have hp : NodePtr p := hptr p (List.mem_append_left _ hpmem)
  have hpc : p ∉ Ctx.labels ctx := (List.nodup_append'.mp hnd).2.2 hpmem
  have hsize : x.toList.length + (Ctx.labels ctx).length < fuel := by
    have h1 := (Ctx.perm_plug (build d c x p y) ctx).length_eq
    have h2 := (Ctx.perm_plug x [⟨d, c, p, y⟩]).length_eq
    simp only [Ctx.plug_cons, Ctx.plug_nil, Ctx.labels, List.length_append, List.length_cons]
      at h1 h2
    omega
  -- `RB_EMPTY_NODE`: the parent word of a node in a tree is never the node itself
  have hempty : ¬ctxPtr ctx + colorBit c = p := by
    intro he
    cases c with
    | red =>
      cases ctx with
      | nil => exact hp.1 he.symm
      | cons f up => exact hpc (by simp [Ctx.labels, ← he, colorBit, RB_RED])
    | black =>
      have := hp.2
      rw [← he] at this
      simp only [colorBit, RB_BLACK] at this
      omega
  rw [rb_step, hcell]
  simp only [Option.bind_eq_bind, Option.bind_some, mkNode_pc, mkNode_child, if_neg hempty]
  by_cases hxl : x = .leaf
  · subst hxl
    rw [rootPtr_leaf, if_neg (fun h => h rfl), ordered_leaf, List.nil_append]
    rw [rootPtr_build] at hctx
    refine rb_climb_spec hcell (mkNode_pack_reads c hmod).1 hctx hp.1 ?_ ?_ ?_
    · exact List.nodup_cons.mpr ⟨hpc, (List.nodup_append'.mp hnd).2.1⟩
    · exact fun q hq => hptr q (List.mem_append_right _ hq)
    · have := Ctx.length_le_labels ctx
      omega
  · have hx0 : 0 ∉ x.toList := fun h =>
      (hptr 0 (List.mem_append_left _ (mem_build.mpr (.inr (.inl h))))).1 rfl
    rcases rootPtr_eq_zero_or_mem x with hl | hl
    · exact absurd hl hxl
    · have hroot : rootPtr x ≠ 0 := fun he => hx0 (he ▸ hl)
      rw [if_pos hroot, rb_descend_spec hx hxl hx0 (by omega)]
      obtain ⟨a, as, has⟩ := List.exists_cons_of_ne_nil (l := ordered d x) (by
        intro hnil
        rw [← mem_ordered (d := d), hnil] at hl
        cases hl)
      rw [has]
      rfl

/-- The focus on a node that the in-order list is split at. -/
theorem focus_at {t : CTree Ptr} {p : ℕ} {l1 l2 : List ℕ} (h : IsTree s t)
    (hl : t.toList = l1 ++ p :: l2) : ∃ c l r ctx, t = Ctx.plug (.node c l p r) ctx ∧
      Focus s (.node c l p r) ctx ∧ l1 = Ctx.before ctx ++ l.toList ∧
      l2 = r.toList ++ Ctx.after ctx := by
  obtain ⟨c, l, r, ctx, rfl⟩ := Ctx.exists_plug (t := t) (a := p) (by simp [hl])
  have hfoc := focus_iff_isTree.mpr h
  have hnd : (Ctx.plug (.node c l p r) ctx).toList.Nodup := Ctx.nodup_plug.mpr hfoc.nodup
  have hsplit : (Ctx.plug (.node c l p r) ctx).toList
      = (Ctx.before ctx ++ l.toList) ++ p :: (r.toList ++ Ctx.after ctx) := by
    rw [Ctx.toList_plug]
    simp
  rw [hl] at hsplit hnd
  obtain ⟨hbefore, hafter⟩ := Ctx.append_cons_unique hnd hsplit
  exact ⟨c, l, r, ctx, rfl, hfoc, hbefore, hafter⟩

/-- **`rb_next`** is the next element of the in-order list, NULL at its end. -/
theorem rb_next_spec {t : CTree Ptr} {p fuel : ℕ} {l1 l2 : List ℕ} (h : IsTree s t)
    (hl : t.toList = l1 ++ p :: l2) (hfuel : t.toList.length < fuel) :
    rb_next fuel s p = some (l2.headD 0) := by
  obtain ⟨c, l, r, ctx, rfl, hfoc, -, rfl⟩ := focus_at h hl
  exact rb_step_spec (d := .right) (x := r) (y := l) hfoc hfuel

/-- **`rb_prev`** is the previous element of the in-order list, NULL at its start. -/
theorem rb_prev_spec {t : CTree Ptr} {p fuel : ℕ} {l1 l2 : List ℕ} (h : IsTree s t)
    (hl : t.toList = l1 ++ p :: l2) (hfuel : t.toList.length < fuel) :
    rb_prev fuel s p = some (l1.reverse.headD 0) := by
  obtain ⟨c, l, r, ctx, rfl, hfoc, rfl, -⟩ := focus_at h hl
  rw [List.reverse_append]
  exact rb_step_spec (d := .left) (x := l) (y := r) hfoc hfuel

/-- **`rb_last`** is the last element of the in-order list, NULL for an empty tree. -/
theorem rb_last_spec {t : CTree Ptr} {fuel : ℕ} (h : IsTree s t)
    (hfuel : t.toList.length < fuel) : rb_last fuel s = some (t.toList.reverse.headD 0) := by
  have hroot : s.rb_node = rootPtr t := h.repCtx
  rw [rb_last, hroot]
  rcases rootPtr_eq_zero_or_mem t with rfl | hm
  · rfl
  · have h0 : 0 ∉ t.toList := fun h' => (h.ptr 0 (List.mem_append_left _ h')).1 rfl
    have hne : rootPtr t ≠ 0 := fun he => h0 (he ▸ hm)
    rw [if_neg hne]
    exact rb_descend_spec (d := .left) h.rep (by rintro rfl; cases hm) h0 (by omega)

end Svmx.RbTree
