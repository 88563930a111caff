/-
The walk over the pages that are not in sync (`mmu_unsync_walk` of `mmu.c`).

A page has a bit set for each entry with a page behind it that is not in sync, or has such a page below.
The walk goes through the set bits and clears those with nothing behind them, but leaves the bit of a
leaf that is not in sync; and `RtlFindSetBits` goes on from bit 0 behind the last set bit. So the search
of a page ends only when all its bits are clear: with a leaf among its children the walk comes back to
it for ever, unless the vector of 16 pages fills up first (`mmu_unsync_walk_right_iff`).

The pages below one are a tree of its set bits (`UnsyncTree`). A walk is run with a log of the bits that
are considered (`mmu_unsync_walk_run`).
-/
import Svmx.BitFind
import Svmx.ZapOldest

set_option autoImplicit false

namespace Svmx.Tdp

open BitFind

/-! ## The walk with its log -/

/-- What a walk threads through: the bits considered so far, the vector and the pages. -/
structure UnsyncRun where
  seen : List (ℕ × ℕ)
  pvec : List (ℕ × ℤ)
  pages : ZapPages

/-- The bit `i` of a page is considered. -/
def UnsyncRun.consider (run : UnsyncRun) (sp i : ℕ) : UnsyncRun :=
  { run with seen := run.seen ++ [(sp, i)] }

section Run

variable (host : ZapHost)

/-- `mmu_unsync_walk_loop` with the log. -/
def mmu_unsync_walk_run : ℕ → ℕ → ℕ → ℤ → UnsyncRun → Option (ℤ × UnsyncRun)
  | 0, _, _, _, _ => none
  | fuel + 1, sp, idx, nr_unsync_leaf, run => do
    let page ← run.pages sp
    match host.RtlFindSetBits page.unsync_child_bitmap idx with
    | none => some (nr_unsync_leaf, run)
    | some i =>
      let run := run.consider sp i
      let ent := page.entries i
      if !is_shadow_present_pte ent || is_large_pte ent then
        let pages ← clear_unsync_child_bit sp i run.pages
        mmu_unsync_walk_run fuel sp (i + 1) nr_unsync_leaf { run with pages := pages }
      else
        let child := ShadowPage.spte_to_child_sp host.mm ent
        let child_page ← run.pages child
        if child_page.unsync_children ≠ 0 then
          let (full, pvec) ← mmu_pages_add run.pages run.pvec child i
          if full then some (STATUS_NO_MEMORY_INT, { run with pvec := pvec })
          else
            let (ret, run) ← mmu_unsync_walk_run fuel child 0 0 { run with pvec := pvec }
            if ret = 0 then
              let pages ← clear_unsync_child_bit sp i run.pages
              mmu_unsync_walk_run fuel sp (i + 1) nr_unsync_leaf { run with pages := pages }
            else if 0 < ret then
              mmu_unsync_walk_run fuel sp (i + 1) (nr_unsync_leaf + ret) run
            else some (ret, run)
        else if child_page.unsync then
          let (full, pvec) ← mmu_pages_add run.pages run.pvec child i
          if full then some (STATUS_NO_MEMORY_INT, { run with pvec := pvec })
          else mmu_unsync_walk_run fuel sp (i + 1) (nr_unsync_leaf + 1) { run with pvec := pvec }
        else
          let pages ← clear_unsync_child_bit sp i run.pages
          mmu_unsync_walk_run fuel sp (i + 1) nr_unsync_leaf { run with pages := pages }

/-- `mmu_unsync_walk` with the log. -/
def mmu_unsync_walk_seen (fuel sp : ℕ) (pages : ZapPages) : Option (ℤ × UnsyncRun) := do
  let page ← pages sp
  if page.unsync_children = 0 then some (0, ⟨[], [], pages⟩)
  else
    let (_, pvec) ← mmu_pages_add pages [] sp INVALID_INDEX
    mmu_unsync_walk_run host fuel sp 0 0 ⟨[], pvec, pages⟩

/-- What is left of a result without the log. -/
def forget (r : ℤ × UnsyncRun) : ℤ × List (ℕ × ℤ) × ZapPages := (r.1, r.2.pvec, r.2.pages)

theorem forget_bind {α : Type*} (x : Option α) {f : α → Option (ℤ × UnsyncRun)}
    {g : α → Option (ℤ × List (ℕ × ℤ) × ZapPages)} (h : ∀ a, (f a).map forget = g a) :
    (x.bind f).map forget = x.bind g := by
  rw [Option.map_bind]
  exact Option.bind_congr fun a _ => h a

/-- The log changes nothing. -/
theorem mmu_unsync_walk_run_forget (fuel : ℕ) : ∀ (sp idx : ℕ) (nr_unsync_leaf : ℤ) (run : UnsyncRun),
    (mmu_unsync_walk_run host fuel sp idx nr_unsync_leaf run).map forget
      = mmu_unsync_walk_loop host fuel sp idx nr_unsync_leaf run.pvec run.pages := by
  induction fuel with
  | zero =>
    intro sp idx nr_unsync_leaf run
    rfl
  | succ fuel ih =>
    intro sp idx nr_unsync_leaf run
    rw [mmu_unsync_walk_run, mmu_unsync_walk_loop]
    apply forget_bind
    intro page
    rcases host.RtlFindSetBits page.unsync_child_bitmap idx with _ | i
    · rfl
    -- where the bit is cleared both go on with the pages that are left
    have hclear : ∀ run : UnsyncRun, ((clear_unsync_child_bit sp i run.pages).bind fun pages =>
          mmu_unsync_walk_run host fuel sp (i + 1) nr_unsync_leaf { run with pages := pages }).map forget
        = (clear_unsync_child_bit sp i run.pages).bind fun pages =>
          mmu_unsync_walk_loop host fuel sp (i + 1) nr_unsync_leaf run.pvec pages := by
      intro run
      apply forget_bind
      intro pages
      exact ih sp (i + 1) nr_unsync_leaf { run with pages := pages }
    dsimp only
    split
    · exact hclear (run.consider sp i)
    apply forget_bind
    intro child_page
    split
    · apply forget_bind
      rintro ⟨full, pvec⟩
      dsimp only
      split
      · rfl
      have hchild := ih (ShadowPage.spte_to_child_sp host.mm (page.entries i)) 0 0
        { run.consider sp i with pvec := pvec }
      dsimp only [UnsyncRun.consider] at hchild
      simp only [← hchild, Option.bind_eq_bind, Option.bind_map]
      apply forget_bind
      rintro ⟨ret, run'⟩
      by_cases hzero : ret = 0
      · subst hzero
        exact hclear run'
      by_cases hpos : 0 < ret
      · simp only [Function.comp_apply, forget, hzero, hpos, ite_true, ite_false]
        exact ih sp (i + 1) (nr_unsync_leaf + ret) run'
      · simp only [Function.comp_apply, forget, hzero, hpos, ite_false, Option.map_some]
    split
    · apply forget_bind
      rintro ⟨full, pvec⟩
      dsimp only
      split
      · rfl
      · exact ih sp (i + 1) (nr_unsync_leaf + 1) { run.consider sp i with pvec := pvec }
    · exact hclear (run.consider sp i)

/-- The same of the whole walk. -/
theorem mmu_unsync_walk_seen_forget (fuel sp : ℕ) (pages : ZapPages) :
    (mmu_unsync_walk_seen host fuel sp pages).map forget = mmu_unsync_walk host fuel sp pages := by
  apply forget_bind
  intro page
  split
  · rfl
  · apply forget_bind
    rintro ⟨full, pvec⟩
    exact mmu_unsync_walk_run_forget host fuel sp 0 0 ⟨[], pvec, pages⟩

theorem bind_keeps {α β : Type*} {x y : Option α} {f g : α → Option β} {r : β}
    (hxy : ∀ a, x = some a → y = some a) (hfg : ∀ a, f a = some r → g a = some r) :
    x.bind f = some r → y.bind g = some r := by
  intro h
  obtain ⟨a, ha, h⟩ := Option.bind_eq_some_iff.mp h
  exact Option.bind_eq_some_iff.mpr ⟨a, hxy a ha, hfg a h⟩

/-- More fuel gives the same result. -/
theorem mmu_unsync_walk_run_succ (fuel : ℕ) : ∀ {sp idx : ℕ} {nr_unsync_leaf : ℤ} {run : UnsyncRun}
    {r : ℤ × UnsyncRun}, mmu_unsync_walk_run host fuel sp idx nr_unsync_leaf run = some r →
      mmu_unsync_walk_run host (fuel + 1) sp idx nr_unsync_leaf run = some r := by
  induction fuel with
  | zero =>
    intro sp idx nr_unsync_leaf run r h
    cases h
  | succ fuel ih =>
    intro sp idx nr_unsync_leaf run r
    rw [mmu_unsync_walk_run, mmu_unsync_walk_run]
    apply bind_keeps fun _ h => h
    intro page
    rcases host.RtlFindSetBits page.unsync_child_bitmap idx with _ | i
    · exact id
    have hclear : ∀ run : UnsyncRun, ((clear_unsync_child_bit sp i run.pages).bind fun pages =>
          mmu_unsync_walk_run host fuel sp (i + 1) nr_unsync_leaf { run with pages := pages }) = some r →
        ((clear_unsync_child_bit sp i run.pages).bind fun pages =>
          mmu_unsync_walk_run host (fuel + 1) sp (i + 1) nr_unsync_leaf
            { run with pages := pages }) = some r := by
      intro run
      apply bind_keeps fun _ h => h
      intro pages
      exact ih
    dsimp only
    split
    · exact hclear (run.consider sp i)
    apply bind_keeps fun _ h => h
    intro child_page
    split
    · apply bind_keeps fun _ h => h
      rintro ⟨full, pvec⟩
      dsimp only
      split
      · exact id
      -- the walk of the child has more fuel too
      apply bind_keeps fun _ h => ih h
      rintro ⟨ret, run'⟩
      dsimp only
      split
      · exact hclear run'
      split
      · exact ih
      · exact id
    split
    · apply bind_keeps fun _ h => h
      rintro ⟨full, pvec⟩
      dsimp only
      split
      · exact id
      · exact ih
    · exact hclear (run.consider sp i)

theorem mmu_unsync_walk_run_mono {fuel fuel' sp idx : ℕ} {nr_unsync_leaf : ℤ} {run : UnsyncRun}
    {r : ℤ × UnsyncRun} (h : mmu_unsync_walk_run host fuel sp idx nr_unsync_leaf run = some r)
    (hle : fuel ≤ fuel') : mmu_unsync_walk_run host fuel' sp idx nr_unsync_leaf run = some r := by
  induction hle with
  | refl => exact h
  | step hle ih => exact mmu_unsync_walk_run_succ host _ ih

theorem mmu_unsync_walk_run_unique {fuel fuel' sp idx : ℕ} {nr_unsync_leaf : ℤ} {run : UnsyncRun}
    {r r' : ℤ × UnsyncRun} (h : mmu_unsync_walk_run host fuel sp idx nr_unsync_leaf run = some r)
    (h' : mmu_unsync_walk_run host fuel' sp idx nr_unsync_leaf run = some r') : r = r' := by
  have hmax := mmu_unsync_walk_run_mono host h (Nat.le_max_left fuel fuel')
  have hmax' := mmu_unsync_walk_run_mono host h' (Nat.le_max_right fuel fuel')
  exact Option.some.inj (hmax.symm.trans hmax')

end Run

/-! ## Bits and counts -/

/-- `RtlFindSetBits` for one bit, as it is documented, on bitmaps of a page table's size. -/
def FindsSetBits (host : ZapHost) : Prop :=
  ∃ find, Searches SPTE_ENT_PER_PAGE find ∧
    ∀ bitmap hint, host.RtlFindSetBits bitmap hint = find (fun i => bitmap i) hint

/-- The bits of a page that are set. -/
def ZapPage.marked (page : ZapPage) : Finset ℕ :=
  setBits SPTE_ENT_PER_PAGE fun i => page.unsync_child_bitmap i

/-- `unsync_children` is the number of the bits that are set. -/
def ZapPage.Counted (page : ZapPage) : Prop := page.unsync_children.toNat = page.marked.card

/-- The page when `clear_unsync_child_bit` is through with it. -/
def ZapPage.cleared (page : ZapPage) (i : ℕ) : ZapPage :=
  { page with
    unsync_children := page.unsync_children - 1
    unsync_child_bitmap := Function.update page.unsync_child_bitmap i false }

/-- What was counted right is still there and counted right. -/
def CountKept (pages pages' : ZapPages) : Prop :=
  ∀ a page, pages a = some page → page.Counted → ∃ page', pages' a = some page' ∧ page'.Counted

/-- Pages that have nothing below them are left as they are. -/
def Spares (pages pages' : ZapPages) : Prop :=
  ∀ a page, pages a = some page → page.unsync_children = 0 → pages' a = some page

section Counts

variable {page : ZapPage} {pages pages₁ pages₂ : ZapPages} {sp i : ℕ}

theorem clear_unsync_child_bit_eq (h : pages sp = some page) :
    clear_unsync_child_bit sp i pages
      = some (Function.update pages sp (some (page.cleared i))) := by
  rw [clear_unsync_child_bit, h]
  rfl

theorem ZapPage.cleared_marked (page : ZapPage) (i : ℕ) :
    (page.cleared i).marked = page.marked.erase i := by
  rw [marked, marked, ← setBits_clear]
  congr 1
  funext j
  show Function.update page.unsync_child_bitmap (i : ℤ) false j = _
  rw [Function.update_apply, Function.update_apply]
  simp only [Nat.cast_inj]

theorem ZapPage.Counted.ne_zero (h : page.Counted) (hi : i ∈ page.marked) :
    page.unsync_children ≠ 0 := by
  have hpos := Finset.card_pos.mpr ⟨i, hi⟩
  intro hzero
  rw [Counted, hzero] at h
  exact absurd h (Nat.ne_of_lt hpos)

theorem ZapPage.Counted.cleared (h : page.Counted) (hi : i ∈ page.marked) :
    (page.cleared i).Counted := by
  have hpos := Finset.card_pos.mpr ⟨i, hi⟩
  have hone : (1 : BitVec 32) ≤ page.unsync_children := by
    rw [BitVec.le_def, h]
    exact hpos
  rw [Counted, ZapPage.cleared_marked, Finset.card_erase_of_mem hi, ← h]
  exact BitVec.toNat_sub_of_le hone

theorem CountKept.refl (pages : ZapPages) : CountKept pages pages :=
  fun _ page hpage hcount => ⟨page, hpage, hcount⟩

theorem CountKept.trans (h₁ : CountKept pages pages₁) (h₂ : CountKept pages₁ pages₂) :
    CountKept pages pages₂ := by
  intro a page hpage hcount
  obtain ⟨page₁, hpage₁, hcount₁⟩ := h₁ a page hpage hcount
  exact h₂ a page₁ hpage₁ hcount₁

/-- Clearing a bit that is set keeps the counts. -/
theorem CountKept.clear (hpage : pages sp = some page) (hi : i ∈ page.marked) :
    CountKept pages (Function.update pages sp (some (page.cleared i))) := by
  intro a page' hpage' hcount
  by_cases ha : a = sp
  · subst ha
    obtain rfl : page = page' := Option.some.inj (hpage.symm.trans hpage')
    exact ⟨page.cleared i, Function.update_self .., hcount.cleared hi⟩
  · exact ⟨page', (Function.update_of_ne ha ..).trans hpage', hcount⟩

theorem Spares.refl (pages : ZapPages) : Spares pages pages := fun _ _ hpage _ => hpage

theorem Spares.trans (h₁ : Spares pages pages₁) (h₂ : Spares pages₁ pages₂) :
    Spares pages pages₂ :=
  fun a page hpage hzero => h₂ a page (h₁ a page hpage hzero) hzero

theorem Spares.clear (hpage : pages sp = some page) (hcount : page.Counted) (hi : i ∈ page.marked) :
    Spares pages (Function.update pages sp (some (page.cleared i))) := by
  intro a page' hpage' hzero
  have ha : a ≠ sp := by
    rintro rfl
    obtain rfl : page = page' := Option.some.inj (hpage.symm.trans hpage')
    exact hcount.ne_zero hi hzero
  exact (Function.update_of_ne ha ..).trans hpage'

end Counts

/-! ## The tree below a page -/

/-- The set bits of a page from one on, in their order: one with nothing behind it that is not in sync,
a leaf that is not in sync, or a page with set bits of its own. -/
inductive UnsyncTree where
  | done
  | idle (i : ℕ) (rest : UnsyncTree)
  | leaf (i child : ℕ) (rest : UnsyncTree)
  | table (i child : ℕ) (kids rest : UnsyncTree)

namespace UnsyncTree

/-- The bits of the page itself. -/
def bits : UnsyncTree → List ℕ
  | done => []
  | idle i rest => i :: rest.bits
  | leaf i _ rest => i :: rest.bits
  | table i _ _ rest => i :: rest.bits

/-- The pages below that have set bits. -/
def tables : UnsyncTree → List ℕ
  | done => []
  | idle _ rest => rest.tables
  | leaf _ _ rest => rest.tables
  | table _ child kids rest => child :: (kids.tables ++ rest.tables)

/-- The leaves below that are not in sync. -/
def leaves : UnsyncTree → List ℕ
  | done => []
  | idle _ rest => rest.leaves
  | leaf _ child rest => child :: rest.leaves
  | table _ _ kids rest => kids.leaves ++ rest.leaves

/-- All set bits, with their pages. -/
def marks (sp : ℕ) : UnsyncTree → List (ℕ × ℕ)
  | done => []
  | idle i rest => (sp, i) :: rest.marks sp
  | leaf i _ rest => (sp, i) :: rest.marks sp
  | table i child kids rest => (sp, i) :: (kids.marks child ++ rest.marks sp)

/-- The pages in depth-first order, up to the end of the first page to end that has a leaf among its
children which is not in sync. -/
def upToLeaf : UnsyncTree → List ℕ
  | done => []
  | idle _ rest => rest.upToLeaf
  | leaf _ child rest => child :: rest.upToLeaf
  | table _ child kids rest =>
    child :: (kids.upToLeaf ++ if kids.leaves = [] then rest.upToLeaf else [])

end UnsyncTree

/-- An entry leads to a page. -/
def Leads (mm : Mm) (ent : BitVec 64) (child : ℕ) : Prop :=
  is_shadow_present_pte ent = true ∧ is_large_pte ent = false ∧
    ShadowPage.spte_to_child_sp mm ent = child

/-- A page that is not in sync, with nothing below it. -/
def UnsyncLeaf (pages : ZapPages) (child : ℕ) : Prop :=
  ∃ page, pages child = some page ∧ page.unsync_children = 0 ∧ page.unsync = true

/-- An entry with nothing behind it that is not in sync. -/
def Idle (mm : Mm) (pages : ZapPages) (ent : BitVec 64) : Prop :=
  (is_shadow_present_pte ent = false ∨ is_large_pte ent = true) ∨
    ∃ child page, Leads mm ent child ∧ pages child = some page ∧ page.unsync_children = 0 ∧
      page.unsync = false

/-- The bits of a page are those of a tree, and are counted right. -/
structure ZapPage.Marks (page : ZapPage) (t : UnsyncTree) : Prop where
  counted : page.Counted
  mem_iff : ∀ i, i ∈ page.marked ↔ i ∈ t.bits
  sorted : t.bits.Pairwise (· < ·)

/-- What is behind the entries of a page is as the tree says. -/
def TreeBelow (mm : Mm) (pages : ZapPages) : (ℕ → BitVec 64) → UnsyncTree → Prop
  | _, .done => True
  | entries, .idle i rest => Idle mm pages (entries i) ∧ TreeBelow mm pages entries rest
  | entries, .leaf i child rest =>
    Leads mm (entries i) child ∧ UnsyncLeaf pages child ∧ TreeBelow mm pages entries rest
  | entries, .table i child kids rest =>
    Leads mm (entries i) child ∧
      (∃ page, pages child = some page ∧ page.unsync_children ≠ 0 ∧ page.Marks kids ∧
        TreeBelow mm pages page.entries kids) ∧
      TreeBelow mm pages entries rest

/-- The pages below `sp` are the tree: no page is in two places, but for leaves. -/
structure UnsyncTree.Hangs (mm : Mm) (pages : ZapPages) (sp : ℕ) (t : UnsyncTree) : Prop where
  below : ∃ page, pages sp = some page ∧ page.Marks t ∧ TreeBelow mm pages page.entries t
  nodup : (sp :: t.tables).Nodup

section Frame

variable {mm : Mm} {pages pages' : ZapPages} {t : UnsyncTree}

theorem UnsyncLeaf.frame {child : ℕ} (h : UnsyncLeaf pages child) (hspares : Spares pages pages') :
    UnsyncLeaf pages' child := by
  obtain ⟨page, hpage, hzero, hunsync⟩ := h
  exact ⟨page, hspares child page hpage hzero, hzero, hunsync⟩

theorem Idle.frame {ent : BitVec 64} (h : Idle mm pages ent) (hspares : Spares pages pages') :
    Idle mm pages' ent := by
  rcases h with hgone | ⟨child, page, hleads, hpage, hzero, hsync⟩
  · exact Or.inl hgone
  · exact Or.inr ⟨child, page, hleads, hspares child page hpage hzero, hzero, hsync⟩

/-- What leaves the pages of a tree alone leaves the tree. -/
theorem TreeBelow.frame (hspares : Spares pages pages') {entries : ℕ → BitVec 64}
    (h : TreeBelow mm pages entries t) (hsame : ∀ a ∈ t.tables, pages' a = pages a) :
    TreeBelow mm pages' entries t := by
  induction t generalizing entries with
  | done => trivial
  | idle i rest ih => exact ⟨h.1.frame hspares, ih h.2 hsame⟩
  | leaf i child rest ih => exact ⟨h.1, h.2.1.frame hspares, ih h.2.2 hsame⟩
  | table i child kids rest ihkids ihrest =>
    obtain ⟨hleads, ⟨page, hpage, hne, hmarks, hkids⟩, hrest⟩ := h
    have hchild := hsame child List.mem_cons_self
    refine ⟨hleads, ⟨page, hchild.trans hpage, hne, hmarks, ?_⟩, ?_⟩
    · exact ihkids hkids fun a ha =>
        hsame a (List.mem_cons_of_mem _ (List.mem_append_left _ ha))
    · exact ihrest hrest fun a ha =>
        hsame a (List.mem_cons_of_mem _ (List.mem_append_right _ ha))

/-- Each page of the tree but its leaves has set bits. -/
theorem TreeBelow.tables_ne {entries : ℕ → BitVec 64} (h : TreeBelow mm pages entries t) :
    ∀ a ∈ t.tables, ∃ page, pages a = some page ∧ page.unsync_children ≠ 0 := by
  induction t generalizing entries with
  | done =>
    intro a ha
    cases ha
  | idle i rest ih => exact ih h.2
  | leaf i child rest ih => exact ih h.2.2
  | table i child kids rest ihkids ihrest =>
    obtain ⟨-, ⟨page, hpage, hne, -, hkids⟩, hrest⟩ := h
    intro a ha
    rcases List.mem_cons.mp ha with rfl | ha
    · exact ⟨page, hpage, hne⟩
    rcases List.mem_append.mp ha with ha | ha
    · exact ihkids hkids a ha
    · exact ihrest hrest a ha

theorem TreeBelow.leaf_notMem {entries : ℕ → BitVec 64} {child : ℕ}
    (h : TreeBelow mm pages entries t) (hleaf : UnsyncLeaf pages child) : child ∉ t.tables := by
  intro hin
  obtain ⟨page, hpage, hne⟩ := h.tables_ne child hin
  obtain ⟨page', hpage', hzero, -⟩ := hleaf
  obtain rfl : page = page' := Option.some.inj (hpage.symm.trans hpage')
  exact hne hzero

/-- Without a leaf that is not in sync the pages are all gone through. -/
theorem UnsyncTree.upToLeaf_of_leaves (h : t.leaves = []) : t.upToLeaf = t.tables := by
  induction t with
  | done => rfl
  | idle i rest ih => exact ih h
  | leaf i child rest ih => cases h
  | table i child kids rest ihkids ihrest =>
    obtain ⟨hkids, hrest⟩ := List.append_eq_nil_iff.mp h
    rw [upToLeaf, if_pos hkids, ihkids hkids, ihrest hrest, tables]

theorem UnsyncTree.fst_of_marks {sp : ℕ} {m : ℕ × ℕ} (h : m ∈ t.marks sp) :
    (m.1 = sp ∧ m.2 ∈ t.bits) ∨ m.1 ∈ t.tables := by
  induction t generalizing sp with
  | done => cases h
  | idle i rest ih | leaf i child rest ih =>
    rcases List.mem_cons.mp h with rfl | h
    · exact Or.inl ⟨rfl, List.mem_cons_self⟩
    · exact (ih h).imp (fun h => ⟨h.1, List.mem_cons_of_mem _ h.2⟩) id
  | table i child kids rest ihkids ihrest =>
    rcases List.mem_cons.mp h with rfl | h
    · exact Or.inl ⟨rfl, List.mem_cons_self⟩
    rcases List.mem_append.mp h with h | h
    · right
      rcases ihkids h with ⟨hchild, -⟩ | h
      · rw [hchild]
        exact List.mem_cons_self
      · exact List.mem_cons_of_mem _ (List.mem_append_left _ h)
    · refine (ihrest h).imp (fun h => ⟨h.1, List.mem_cons_of_mem _ h.2⟩) fun h => ?_
      exact List.mem_cons_of_mem _ (List.mem_append_right _ h)

/-- What stands below the first child is apart from what stands below the rest. -/
theorem UnsyncTree.nodup_table {sp i child : ℕ} {kids rest : UnsyncTree}
    (h : (sp :: (table i child kids rest).tables).Nodup) :
    (child :: kids.tables).Nodup ∧ (sp :: rest.tables).Nodup ∧ sp ∉ child :: kids.tables ∧
      ∀ a ∈ child :: kids.tables, a ∉ rest.tables := by
  rw [tables, ← List.cons_append] at h
  obtain ⟨hsp, hboth⟩ := List.nodup_cons.mp h
  obtain ⟨hkids, hrest, hapart⟩ := List.nodup_append.mp hboth
  rw [List.mem_append, not_or] at hsp
  exact ⟨hkids, List.nodup_cons.mpr ⟨hsp.2, hrest⟩, hsp.1, fun a ha ha' => hapart a ha a ha' rfl⟩

theorem UnsyncTree.head_notMem_marks {sp i : ℕ} (hsorted : (i :: t.bits).Pairwise (· < ·))
    (hnodup : (sp :: t.tables).Nodup) : (sp, i) ∉ t.marks sp := by
  intro h
  rcases fst_of_marks h with ⟨-, hi⟩ | hsp
  · exact absurd ((List.pairwise_cons.mp hsorted).1 i hi) (Nat.lt_irrefl i)
  · exact (List.nodup_cons.mp hnodup).1 hsp

/-- No bit is listed twice. -/
theorem UnsyncTree.marks_nodup {sp : ℕ} {entries : ℕ → BitVec 64}
    (hbelow : TreeBelow mm pages entries t) (hsorted : t.bits.Pairwise (· < ·))
    (hnodup : (sp :: t.tables).Nodup) : (t.marks sp).Nodup := by
  induction t generalizing sp entries with
  | done => exact List.nodup_nil
  | idle i rest ih =>
    exact List.nodup_cons.mpr ⟨head_notMem_marks hsorted hnodup,
      ih hbelow.2 (List.pairwise_cons.mp hsorted).2 hnodup⟩
  | leaf i child rest ih =>
    exact List.nodup_cons.mpr ⟨head_notMem_marks hsorted hnodup,
      ih hbelow.2.2 (List.pairwise_cons.mp hsorted).2 hnodup⟩
  | table i child kids rest ihkids ihrest =>
    obtain ⟨-, ⟨page, -, -, hmarks, hkids⟩, hrest⟩ := hbelow
    obtain ⟨hkidsnd, hrestnd, hsp, hapart⟩ := nodup_table hnodup
    refine List.nodup_cons.mpr ⟨fun h => ?_, List.nodup_append.mpr ⟨?_, ?_, ?_⟩⟩
    · rcases List.mem_append.mp h with h | h
      · apply hsp
        rcases fst_of_marks h with ⟨rfl, -⟩ | h
        · exact List.mem_cons_self
        · exact List.mem_cons_of_mem _ h
      · exact head_notMem_marks hsorted hrestnd h
    · exact ihkids hkids hmarks.sorted hkidsnd
    · exact ihrest hrest (List.pairwise_cons.mp hsorted).2 hrestnd
    · -- a page of the child's tree is not of the rest, nor `sp`
      rintro m hm _ hm' rfl
      have hin : m.1 ∈ child :: kids.tables := by
        rcases fst_of_marks hm with ⟨hm, -⟩ | hm
        · rw [hm]
          exact List.mem_cons_self
        · exact List.mem_cons_of_mem _ hm
      rcases fst_of_marks hm' with ⟨hm', -⟩ | hm'
      · exact hsp (hm' ▸ hin)
      · exact hapart _ hin hm'

end Frame

/-! ## One turn of the walk -/

/-- The pages of the vector. -/
def UnsyncRun.labels (run : UnsyncRun) : List ℕ := run.pvec.map Prod.fst

/-- A leaf that is not in sync stands in the vector, and its bit is left. -/
def LeftSet (mm : Mm) (run : UnsyncRun) (ent : BitVec 64) : Prop :=
  ∃ child, Leads mm ent child ∧ UnsyncLeaf run.pages child ∧ child ∈ run.labels

/-- The walk stands at the hint `idx` of a page: what is left of its bits are those `kept` for their
leaves, behind the hint, and those of the tree, ahead of it. -/
structure WalkAt (mm : Mm) (sp : ℕ) (page : ZapPage) (idx : ℕ) (kept : List ℕ) (t : UnsyncTree)
    (run : UnsyncRun) : Prop where
  here : run.pages sp = some page
  counted : page.Counted
  marked : ∀ i, i ∈ page.marked ↔ i ∈ kept ∨ i ∈ t.bits
  behind : ∀ i ∈ kept, i < idx
  ahead : ∀ i ∈ t.bits, idx ≤ i
  sorted : t.bits.Pairwise (· < ·)
  below : TreeBelow mm run.pages page.entries t
  left : ∀ i ∈ kept, LeftSet mm run (page.entries i)
  nodup : (sp :: t.tables).Nodup
  fresh : ∀ a ∈ t.tables, a ∉ run.labels
  labels : run.labels.Nodup
  room : run.pvec.length < KVM_PAGE_ARRAY_NR

/-- A child is considered and put into the vector. -/
def UnsyncRun.push (run : UnsyncRun) (sp i child : ℕ) : UnsyncRun :=
  { run.consider sp i with pvec := run.pvec ++ [(child, (i : ℤ))] }

section Turn

variable {host : ZapHost} {sp idx i child fuel : ℕ} {nr : ℤ} {page child_page : ZapPage}
  {kept : List ℕ} {t rest kids : UnsyncTree} {run run' : UnsyncRun}

@[simp] theorem UnsyncRun.consider_pages : (run.consider sp i).pages = run.pages := rfl

@[simp] theorem UnsyncRun.consider_pvec : (run.consider sp i).pvec = run.pvec := rfl

@[simp] theorem UnsyncRun.consider_labels : (run.consider sp i).labels = run.labels := rfl

@[simp] theorem UnsyncRun.push_labels : (run.push sp i child).labels = run.labels ++ [child] :=
  List.map_append

@[simp] theorem UnsyncRun.push_length : (run.push sp i child).pvec.length = run.pvec.length + 1 :=
  List.length_append

theorem Leads.present {ent : BitVec 64} {mm : Mm} (h : Leads mm ent child) :
    ¬ (!is_shadow_present_pte ent || is_large_pte ent) = true := by
  rw [h.1, h.2.1]
  decide

/-- A page is added unless it is not in sync and stands there already. -/
theorem mmu_pages_add_new {pages : ZapPages} {pvec : List (ℕ × ℤ)} {idx : ℤ}
    (hpage : pages child = some child_page) (hnew : child ∉ pvec.map Prod.fst) :
    mmu_pages_add pages pvec child idx
      = some (decide (pvec.length + 1 = KVM_PAGE_ARRAY_NR), pvec ++ [(child, idx)]) := by
  have hany : ¬ (child_page.unsync && pvec.any fun p => p.1 == child) = true := by
    rw [Bool.and_eq_true, List.any_eq_true]
    rintro ⟨-, p, hp, heq⟩
    exact hnew (List.mem_map.mpr ⟨p, hp, beq_iff_eq.mp heq⟩)
  rw [mmu_pages_add, hpage, Option.bind_eq_bind, Option.bind_some, if_neg hany]
  simp only [List.length_append, List.length_singleton]

theorem mmu_pages_add_again {pages : ZapPages} {pvec : List (ℕ × ℤ)} {idx : ℤ}
    (hpage : pages child = some child_page) (hunsync : child_page.unsync = true)
    (hold : child ∈ pvec.map Prod.fst) : mmu_pages_add pages pvec child idx = some (false, pvec) := by
  have hany : (child_page.unsync && pvec.any fun p => p.1 == child) = true := by
    rw [Bool.and_eq_true, List.any_eq_true]
    obtain ⟨p, hp, heq⟩ := List.mem_map.mp hold
    exact ⟨hunsync, p, hp, beq_iff_eq.mpr heq⟩
  rw [mmu_pages_add, hpage, Option.bind_eq_bind, Option.bind_some, if_pos hany]

variable (hpage : run.pages sp = some page)
  (hfind : host.RtlFindSetBits page.unsync_child_bitmap idx = some i)

include hpage hfind

/-- A bit with nothing behind it is cleared. -/
theorem run_idle (hidle : Idle host.mm run.pages (page.entries i)) :
    mmu_unsync_walk_run host (fuel + 1) sp idx nr run
      = mmu_unsync_walk_run host fuel sp (i + 1) nr
        { run.consider sp i with pages := Function.update run.pages sp (some (page.cleared i)) } := by
  rw [mmu_unsync_walk_run, hpage]
  simp only [Option.bind_eq_bind, Option.bind_some, hfind, UnsyncRun.consider_pages,
    clear_unsync_child_bit_eq hpage]
  split
  · rfl
  · next hthere =>
    rcases hidle with hgone | ⟨child, child_page, ⟨-, -, rfl⟩, hchild, hzero, hsync⟩
    · refine absurd ?_ hthere
      rcases hgone with hgone | hgone <;> simp [hgone]
    · rw [hchild, Option.bind_some, if_neg (not_not.mpr hzero), hsync]
      rfl

/-- The bit of a leaf that is not in sync is left, and the leaf goes into the vector. -/
theorem run_leaf (hleads : Leads host.mm (page.entries i) child)
    (hleaf : UnsyncLeaf run.pages child) (hnew : child ∉ run.labels) :
    mmu_unsync_walk_run host (fuel + 1) sp idx nr run
      = if run.pvec.length + 1 = KVM_PAGE_ARRAY_NR then
          some (STATUS_NO_MEMORY_INT, run.push sp i child)
        else mmu_unsync_walk_run host fuel sp (i + 1) (nr + 1) (run.push sp i child) := by
  obtain ⟨child_page, hchild, hzero, hunsync⟩ := hleaf
  rw [mmu_unsync_walk_run, hpage]
  simp only [Option.bind_eq_bind, Option.bind_some, hfind, UnsyncRun.consider_pages,
    UnsyncRun.consider_pvec]
  rw [if_neg hleads.present, hleads.2.2, hchild, Option.bind_some, if_neg (not_not.mpr hzero),
    if_pos hunsync, mmu_pages_add_new hchild hnew, Option.bind_some]
  simp only [decide_eq_true_eq]
  rfl

/-- A leaf that is there already is not added again. -/
theorem run_leaf_again (hleads : Leads host.mm (page.entries i) child)
    (hleaf : UnsyncLeaf run.pages child) (hold : child ∈ run.labels) :
    mmu_unsync_walk_run host (fuel + 1) sp idx nr run
      = mmu_unsync_walk_run host fuel sp (i + 1) (nr + 1) (run.consider sp i) := by
  obtain ⟨child_page, hchild, hzero, hunsync⟩ := hleaf
  rw [mmu_unsync_walk_run, hpage]
  simp only [Option.bind_eq_bind, Option.bind_some, hfind, UnsyncRun.consider_pages,
    UnsyncRun.consider_pvec]
  rw [if_neg hleads.present, hleads.2.2, hchild, Option.bind_some, if_neg (not_not.mpr hzero),
    if_pos hunsync, mmu_pages_add_again hchild hunsync hold, Option.bind_some]
  rfl

/-- A page with set bits of its own goes into the vector and is walked. -/
theorem run_table (hleads : Leads host.mm (page.entries i) child)
    (hchild : run.pages child = some child_page) (hne : child_page.unsync_children ≠ 0)
    (hnew : child ∉ run.labels) :
    mmu_unsync_walk_run host (fuel + 1) sp idx nr run
      = if run.pvec.length + 1 = KVM_PAGE_ARRAY_NR then
          some (STATUS_NO_MEMORY_INT, run.push sp i child)
        else (mmu_unsync_walk_run host fuel child 0 0 (run.push sp i child)).bind fun r =>
            if r.1 = 0 then (clear_unsync_child_bit sp i r.2.pages).bind fun pages =>
              mmu_unsync_walk_run host fuel sp (i + 1) nr { r.2 with pages := pages }
            else if 0 < r.1 then mmu_unsync_walk_run host fuel sp (i + 1) (nr + r.1) r.2
            else some r := by
  rw [mmu_unsync_walk_run, hpage]
  simp only [Option.bind_eq_bind, Option.bind_some, hfind, UnsyncRun.consider_pages,
    UnsyncRun.consider_pvec]
  rw [if_neg hleads.present, hleads.2.2, hchild, Option.bind_some, if_pos hne,
    mmu_pages_add_new hchild hnew, Option.bind_some]
  simp only [decide_eq_true_eq]
  rfl

end Turn

/-! ## Where the walk of a page comes to -/

section Search

variable {host : ZapHost} (hhost : FindsSetBits host) {page : ZapPage} {idx i : ℕ}

include hhost

theorem FindsSetBits.finds_none (hempty : page.marked = ∅) :
    host.RtlFindSetBits page.unsync_child_bitmap idx = none := by
  obtain ⟨find, hfind, heq⟩ := hhost
  rw [heq]
  exact hfind.none_iff.mpr hempty

theorem FindsSetBits.finds_one (hne : page.marked.Nonempty) :
    ∃ i ∈ page.marked, host.RtlFindSetBits page.unsync_child_bitmap idx = some i := by
  obtain ⟨find, hfind, heq⟩ := hhost
  rw [heq]
  rcases hi : find (fun i => page.unsync_child_bitmap i) idx with _ | i
  · exact absurd (hfind.empty hi) hne.ne_empty
  · exact ⟨i, hfind.mem hi, rfl⟩

/-- The first bit of the tree is found. -/
theorem WalkAt.finds {mm : Mm} {sp : ℕ} {kept l : List ℕ} {t : UnsyncTree} {run : UnsyncRun}
    (h : WalkAt mm sp page idx kept t run) (hbits : t.bits = i :: l) :
    host.RtlFindSetBits page.unsync_child_bitmap idx = some i := by
  obtain ⟨find, hfind, heq⟩ := hhost
  have hi : i ∈ t.bits := by
    rw [hbits]
    exact List.mem_cons_self
  rw [heq]
  apply hfind.next ((h.marked i).mpr (Or.inr hi)) (h.ahead i hi)
  intro j hj hle
  rcases (h.marked j).mp hj with hkept | hj
  · exact absurd (h.behind j hkept) (Nat.not_lt.mpr hle)
  · have hsorted := h.sorted
    rw [hbits] at hj hsorted
    rcases List.mem_cons.mp hj with rfl | hj
    · exact Nat.le_refl _
    · exact Nat.le_of_lt ((List.pairwise_cons.mp hsorted).1 j hj)

/-- With nothing but the bits of leaves left, each of which stands in the vector, the search never
ends. -/
theorem mmu_unsync_walk_stuck {sp : ℕ} (hne : page.marked.Nonempty) (fuel : ℕ) :
    ∀ {idx : ℕ} {nr : ℤ} {run : UnsyncRun}, run.pages sp = some page →
      (∀ i ∈ page.marked, LeftSet host.mm run (page.entries i)) →
        mmu_unsync_walk_run host fuel sp idx nr run = none := by
  induction fuel with
  | zero =>
    intro idx nr run hpage hleft
    rfl
  | succ fuel ih =>
    intro idx nr run hpage hleft
    obtain ⟨i, hi, hfind⟩ := FindsSetBits.finds_one hhost hne
    obtain ⟨child, hleads, hleaf, hold⟩ := hleft i hi
    rw [run_leaf_again hpage hfind hleads hleaf hold]
    -- the pages and the vector are what they were
    exact ih hpage hleft

end Search

section WalkAt

variable {mm : Mm} {sp idx i child : ℕ} {page : ZapPage} {kept : List ℕ} {t rest : UnsyncTree}
  {run run' : UnsyncRun}

theorem LeftSet.frame {ent : BitVec 64} (h : LeftSet mm run ent)
    (hspares : Spares run.pages run'.pages) (hlabels : ∀ a ∈ run.labels, a ∈ run'.labels) :
    LeftSet mm run' ent := by
  obtain ⟨child, hleads, hleaf, hin⟩ := h
  exact ⟨child, hleads, hleaf.frame hspares, hlabels child hin⟩

/-- The walk goes on behind a bit it has cleared. -/
theorem WalkAt.clear (h : WalkAt mm sp page idx kept t run) (hbits : t.bits = i :: rest.bits)
    (hhere : run'.pages sp = some page) (hspares : Spares run.pages run'.pages)
    (hold : ∀ a ∈ run.labels, a ∈ run'.labels) (hbelow : TreeBelow mm run'.pages page.entries rest)
    (hnodup : (sp :: rest.tables).Nodup) (hfresh : ∀ a ∈ rest.tables, a ∉ run'.labels)
    (hlabels : run'.labels.Nodup) (hroom : run'.pvec.length < KVM_PAGE_ARRAY_NR) :
    WalkAt mm sp (page.cleared i) (i + 1) kept rest
      { run' with pages := Function.update run'.pages sp (some (page.cleared i)) } := by
  have hi : i ∈ page.marked := (h.marked i).mpr (Or.inr (by rw [hbits]; exact List.mem_cons_self))
  have hsorted := h.sorted
  rw [hbits] at hsorted
  obtain ⟨hfirst, hsorted⟩ := List.pairwise_cons.mp hsorted
  have hle : idx ≤ i := h.ahead i (by rw [hbits]; exact List.mem_cons_self)
  have hclear := Spares.clear hhere h.counted hi
  refine ⟨Function.update_self .., h.counted.cleared hi, fun j => ?_, fun j hj => ?_, hfirst, hsorted,
    ?_, fun j hj => ?_, hnodup, hfresh, hlabels, hroom⟩
  · rw [ZapPage.cleared_marked, Finset.mem_erase, h.marked, hbits, List.mem_cons]
    constructor
    · rintro ⟨hne, hj | rfl | hj⟩
      · exact Or.inl hj
      · exact absurd rfl hne
      · exact Or.inr hj
    · rintro (hj | hj)
      · exact ⟨Nat.ne_of_lt (Nat.lt_of_lt_of_le (h.behind j hj) hle), Or.inl hj⟩
      · exact ⟨Nat.ne_of_gt (hfirst j hj), Or.inr (Or.inr hj)⟩
  · exact Nat.lt_succ_of_le (Nat.le_trans (Nat.le_of_lt (h.behind j hj)) hle)
  · apply hbelow.frame hclear
    intro a ha
    have hne : a ≠ sp := by
      rintro rfl
      exact (List.nodup_cons.mp hnodup).1 ha
    exact Function.update_of_ne hne ..
  · exact (h.left j hj).frame (hspares.trans hclear) hold

/-- The walk goes on behind the bit of a leaf, which it leaves. -/
theorem WalkAt.keep (h : WalkAt mm sp page idx kept t run) (hbits : t.bits = i :: rest.bits)
    (htables : t.tables = rest.tables) (hpages : run'.pages = run.pages)
    (hold : ∀ a ∈ run.labels, a ∈ run'.labels) (hbelow : TreeBelow mm run.pages page.entries rest)
    (hleft : LeftSet mm run' (page.entries i)) (hfresh : ∀ a ∈ rest.tables, a ∉ run'.labels)
    (hlabels : run'.labels.Nodup) (hroom : run'.pvec.length < KVM_PAGE_ARRAY_NR) :
    WalkAt mm sp page (i + 1) (i :: kept) rest run' := by
  have hsorted := h.sorted
  rw [hbits] at hsorted
  obtain ⟨hfirst, hsorted⟩ := List.pairwise_cons.mp hsorted
  have hle : idx ≤ i := h.ahead i (by rw [hbits]; exact List.mem_cons_self)
  have hspares : Spares run.pages run'.pages := by
    rw [hpages]
    exact Spares.refl _
  refine ⟨?_, h.counted, fun j => ?_, fun j hj => ?_, hfirst, hsorted, ?_, fun j hj => ?_, ?_, hfresh,
    hlabels, hroom⟩
  · rw [hpages]
    exact h.here
  · rw [h.marked, hbits, List.mem_cons, List.mem_cons]
    exact or_left_comm.trans or_assoc.symm
  · rcases List.mem_cons.mp hj with rfl | hj
    · exact Nat.lt_succ_self _
    · exact Nat.lt_succ_of_le (Nat.le_trans (Nat.le_of_lt (h.behind j hj)) hle)
  · rw [hpages]
    exact hbelow
  · rcases List.mem_cons.mp hj with rfl | hj
    · exact hleft
    · exact (h.left j hj).frame hspares hold
  · rw [← htables]
    exact h.nodup

/-- A child that is not in the vector, nor the last it has room for, goes into it. -/
theorem WalkAt.pushed (h : WalkAt mm sp page idx kept t run) (hnew : child ∉ run.labels)
    (hroom : ¬ run.pvec.length + 1 = KVM_PAGE_ARRAY_NR) :
    child ∈ (run.push sp i child).labels ∧ (∀ a ∈ run.labels, a ∈ (run.push sp i child).labels) ∧
      (run.push sp i child).labels.Nodup ∧ (run.push sp i child).pvec.length < KVM_PAGE_ARRAY_NR := by
  rw [UnsyncRun.push_labels, UnsyncRun.push_length]
  refine ⟨List.mem_concat_self, fun a ha => List.mem_append_left _ ha, ?_, ?_⟩
  · rw [← List.concat_eq_append]
    exact h.labels.concat hnew
  · exact Nat.lt_of_le_of_ne (Nat.succ_le_of_lt h.room) hroom

end WalkAt

/-- What the walk of a tree to its end has done. -/
structure Through (sp : ℕ) (t : UnsyncTree) (run run' : UnsyncRun) : Prop where
  seen : run'.seen = run.seen ++ t.marks sp
  labels : run'.labels = run.labels ++ t.tables
  room : run'.pvec.length < KVM_PAGE_ARRAY_NR
  same : ∀ a, a ∉ sp :: t.tables → run'.pages a = run.pages a
  spares : Spares run.pages run'.pages
  counts : CountKept run.pages run'.pages

/-- What it has done when the vector is full. -/
structure Filled (sp : ℕ) (t : UnsyncTree) (run run' : UnsyncRun) : Prop where
  seen : run'.seen <+: run.seen ++ t.marks sp
  full : run'.pvec.length = KVM_PAGE_ARRAY_NR
  counts : CountKept run.pages run'.pages

/-- The pages of the vector when the walk comes back to a leaf, if it had room for them. -/
def reach (run : UnsyncRun) (t : UnsyncTree) : Finset ℕ := (run.labels ++ t.upToLeaf).toFinset

/-- The walk returns because the vector is full, or because all bits are clear, or never. -/
inductive Outcome (host : ZapHost) (sp idx : ℕ) (nr : ℤ) (kept : List ℕ) (t : UnsyncTree)
    (run : UnsyncRun) : Prop where
  | fills (fuel : ℕ) (run' : UnsyncRun)
      (hrun : mmu_unsync_walk_run host fuel sp idx nr run = some (STATUS_NO_MEMORY_INT, run'))
      (h : Filled sp t run run') (hreach : KVM_PAGE_ARRAY_NR ≤ (reach run t).card)
  | ends (fuel : ℕ) (run' : UnsyncRun)
      (hrun : mmu_unsync_walk_run host fuel sp idx nr run = some (nr, run'))
      (h : Through sp t run run') (hkept : kept = []) (hleaves : t.leaves = [])
  | stuck (hrun : ∀ fuel, mmu_unsync_walk_run host fuel sp idx nr run = none)
      (hleaf : kept ≠ [] ∨ t.leaves ≠ []) (hreach : (reach run t).card < KVM_PAGE_ARRAY_NR)

/-- One turn leads from one place of the walk to the next, where it has the fuel. -/
structure Turns (host : ZapHost) (sp idx idx' : ℕ) (nr nr' : ℤ) (run run' : UnsyncRun) : Prop where
  eventually : ∃ n, ∀ fuel, n ≤ fuel → mmu_unsync_walk_run host (fuel + 1) sp idx nr run
    = mmu_unsync_walk_run host fuel sp idx' nr' run'
  never : ∀ fuel, mmu_unsync_walk_run host (fuel + 1) sp idx nr run = none ∨
    mmu_unsync_walk_run host (fuel + 1) sp idx nr run
      = mmu_unsync_walk_run host fuel sp idx' nr' run'

section Outcome

variable {host : ZapHost} {sp idx idx' i child : ℕ} {nr nr' : ℤ} {page : ZapPage}
  {kept kept' : List ℕ} {t rest kids : UnsyncTree} {run run' run₁ : UnsyncRun}

theorem Turns.of_eq (h : ∀ fuel, mmu_unsync_walk_run host (fuel + 1) sp idx nr run
    = mmu_unsync_walk_run host fuel sp idx' nr' run') : Turns host sp idx idx' nr nr' run run' :=
  ⟨⟨0, fun fuel _ => h fuel⟩, fun fuel => Or.inr (h fuel)⟩

theorem Turns.returns {fuel : ℕ} {r : ℤ × UnsyncRun} (h : Turns host sp idx idx' nr nr' run run')
    (hrun : mmu_unsync_walk_run host fuel sp idx' nr' run' = some r) :
    ∃ fuel, mmu_unsync_walk_run host fuel sp idx nr run = some r := by
  obtain ⟨n, hn⟩ := h.eventually
  refine ⟨max fuel n + 1, ?_⟩
  rw [hn _ (Nat.le_max_right fuel n)]
  exact mmu_unsync_walk_run_mono host hrun (Nat.le_max_left fuel n)

theorem Turns.never_returns (h : Turns host sp idx idx' nr nr' run run')
    (hrun : ∀ fuel, mmu_unsync_walk_run host fuel sp idx' nr' run' = none) (fuel : ℕ) :
    mmu_unsync_walk_run host fuel sp idx nr run = none := by
  cases fuel with
  | zero => rfl
  | succ fuel =>
    rcases h.never fuel with h | h
    · exact h
    · rw [h]
      exact hrun fuel

/-- A turn that clears a bit passes on what the rest comes to. -/
theorem Outcome.clear (hturns : Turns host sp idx idx' nr nr run run₁)
    (hseen : run₁.seen ++ rest.marks sp = run.seen ++ t.marks sp)
    (hlabels : run₁.labels ++ rest.tables = run.labels ++ t.tables)
    (hreach : reach run₁ rest = reach run t) (hleaves : rest.leaves = t.leaves)
    (hsub : ∀ a ∈ rest.tables, a ∈ t.tables)
    (hsame : ∀ a, a ∉ sp :: t.tables → run₁.pages a = run.pages a)
    (hspares : Spares run.pages run₁.pages) (hcounts : CountKept run.pages run₁.pages)
    (h : Outcome host sp idx' nr kept rest run₁) : Outcome host sp idx nr kept t run := by
  cases h with
  | fills fuel run' hrun h hfull =>
    obtain ⟨fuel', hrun'⟩ := hturns.returns hrun
    exact .fills fuel' run' hrun' ⟨hseen ▸ h.seen, h.full, hcounts.trans h.counts⟩ (hreach ▸ hfull)
  | ends fuel run' hrun h hkept hnone =>
    obtain ⟨fuel', hrun'⟩ := hturns.returns hrun
    refine .ends fuel' run' hrun' ⟨h.seen.trans hseen, h.labels.trans hlabels, h.room, fun a ha => ?_,
      hspares.trans h.spares, hcounts.trans h.counts⟩ hkept (hleaves ▸ hnone)
    rw [← hsame a ha]
    apply h.same
    intro hin
    rcases List.mem_cons.mp hin with rfl | hin
    · exact ha List.mem_cons_self
    · exact ha (List.mem_cons_of_mem _ (hsub a hin))
  | stuck hrun hleaf hroom =>
    exact .stuck (hturns.never_returns hrun) (hleaf.imp id fun h => hleaves ▸ h) (hreach ▸ hroom)

/-- A turn that leaves a bit is never the last but for a vector that is full. -/
theorem Outcome.keep (hturns : Turns host sp idx idx' nr nr' run run₁)
    (hseen : run₁.seen ++ rest.marks sp = run.seen ++ t.marks sp)
    (hreach : reach run₁ rest = reach run t) (hleaves : t.leaves ≠ [])
    (hpages : run₁.pages = run.pages) (hkept : kept' ≠ [])
    (h : Outcome host sp idx' nr' kept' rest run₁) : Outcome host sp idx nr kept t run := by
  cases h with
  | fills fuel run' hrun h hfull =>
    obtain ⟨fuel', hrun'⟩ := hturns.returns hrun
    exact .fills fuel' run' hrun' ⟨hseen ▸ h.seen, h.full, hpages ▸ h.counts⟩ (hreach ▸ hfull)
  | ends fuel run' hrun h hnone => exact absurd hnone hkept
  | stuck hrun hleaf hroom => exact .stuck (hturns.never_returns hrun) (Or.inr hleaves) (hreach ▸ hroom)

theorem WalkAt.card_labels {mm : Mm} (h : WalkAt mm sp page idx kept t run) :
    run.labels.toFinset.card = run.pvec.length := by
  rw [List.toFinset_card_of_nodup h.labels]
  exact List.length_map ..

/-- No bit is left, or those of leaves only. -/
theorem Outcome.of_done (hhost : FindsSetBits host) (hat : WalkAt host.mm sp page idx kept .done run) :
    Outcome host sp idx nr kept .done run := by
  have hmarked : ∀ i, i ∈ page.marked ↔ i ∈ kept := fun i =>
    (hat.marked i).trans (or_iff_left List.not_mem_nil)
  rcases kept with _ | ⟨k, kept⟩
  · have hempty : page.marked = ∅ :=
      Finset.eq_empty_iff_forall_notMem.mpr fun i hi => List.not_mem_nil ((hmarked i).mp hi)
    refine .ends 1 run ?_ ⟨(List.append_nil _).symm, (List.append_nil _).symm, hat.room,
      fun _ _ => rfl, Spares.refl _, CountKept.refl _⟩ rfl rfl
    rw [mmu_unsync_walk_run, hat.here]
    simp only [Option.bind_eq_bind, Option.bind_some, FindsSetBits.finds_none hhost hempty]
  · refine .stuck (fun fuel => ?_) (Or.inl (List.cons_ne_nil k kept)) ?_
    · apply mmu_unsync_walk_stuck hhost ⟨k, (hmarked k).mpr List.mem_cons_self⟩ fuel hat.here
      intro i hi
      exact hat.left i ((hmarked i).mp hi)
    · rw [reach, UnsyncTree.upToLeaf, List.append_nil, hat.card_labels]
      exact hat.room

/-- The bit `i` has nothing behind it. -/
theorem Outcome.of_idle (hhost : FindsSetBits host)
    (hat : WalkAt host.mm sp page idx kept (.idle i rest) run)
    (ih : ∀ {page : ZapPage} {run : UnsyncRun}, WalkAt host.mm sp page (i + 1) kept rest run →
      Outcome host sp (i + 1) nr kept rest run) :
    Outcome host sp idx nr kept (.idle i rest) run := by
  have hfind := hat.finds hhost rfl
  have hi : i ∈ page.marked := (hat.marked i).mpr (Or.inr List.mem_cons_self)
  have hnext : WalkAt host.mm sp (page.cleared i) (i + 1) kept rest
      { run.consider sp i with pages := Function.update run.pages sp (some (page.cleared i)) } :=
    hat.clear rfl hat.here (Spares.refl _) (fun a ha => ha) hat.below.2 hat.nodup hat.fresh
      hat.labels hat.room
  refine Outcome.clear (Turns.of_eq fun fuel => run_idle hat.here hfind hat.below.1)
    (List.append_assoc ..) rfl rfl rfl (fun a ha => ha) (fun a ha => ?_)
    (Spares.clear hat.here hat.counted hi) (CountKept.clear hat.here hi) (ih hnext)
  have hne : a ≠ sp := by
    rintro rfl
    exact ha List.mem_cons_self
  exact Function.update_of_ne hne ..

/-- A child takes the last entry of the vector. -/
theorem Outcome.of_full (hlabels : run.labels.Nodup) (hnew : child ∉ run.labels)
    (hfull : run.pvec.length + 1 = KVM_PAGE_ARRAY_NR)
    (hrun : mmu_unsync_walk_run host 1 sp idx nr run
      = some (STATUS_NO_MEMORY_INT, run.push sp i child))
    {marks : List (ℕ × ℕ)} (hmarks : t.marks sp = (sp, i) :: marks)
    {pages : List ℕ} (hpages : t.upToLeaf = child :: pages) :
    Outcome host sp idx nr kept t run := by
  refine .fills 1 (run.push sp i child) hrun ⟨⟨marks, ?_⟩, ?_, CountKept.refl _⟩ ?_
  · rw [hmarks]
    exact List.append_assoc ..
  · rw [UnsyncRun.push_length]
    exact hfull
  · have hnodup : (run.push sp i child).labels.Nodup := by
      rw [UnsyncRun.push_labels, ← List.concat_eq_append]
      exact hlabels.concat hnew
    calc KVM_PAGE_ARRAY_NR = (run.push sp i child).labels.toFinset.card := by
          rw [List.toFinset_card_of_nodup hnodup, UnsyncRun.labels, List.length_map,
            UnsyncRun.push_length, hfull]
      _ ≤ (reach run t).card := by
          apply Finset.card_le_card
          intro a ha
          rw [List.mem_toFinset, UnsyncRun.push_labels, List.mem_append] at ha
          rw [reach, List.mem_toFinset, hpages, List.mem_append]
          refine ha.imp id fun h => ?_
          rw [List.mem_singleton.mp h]
          exact List.mem_cons_self

/-- The bit `i` is that of a leaf. -/
theorem Outcome.of_leaf (hhost : FindsSetBits host)
    (hat : WalkAt host.mm sp page idx kept (.leaf i child rest) run)
    (ih : ∀ {page : ZapPage} {run : UnsyncRun}, WalkAt host.mm sp page (i + 1) (i :: kept) rest run →
      Outcome host sp (i + 1) (nr + 1) (i :: kept) rest run) :
    Outcome host sp idx nr kept (.leaf i child rest) run := by
  have hfind := hat.finds hhost rfl
  obtain ⟨hleads, hleaf, hbelow⟩ := hat.below
  have hseen : run.seen ++ [(sp, i)] ++ rest.marks sp
      = run.seen ++ (UnsyncTree.leaf i child rest).marks sp := List.append_assoc ..
  by_cases hold : child ∈ run.labels
  · have hnext : WalkAt host.mm sp page (i + 1) (i :: kept) rest (run.consider sp i) :=
      hat.keep rfl rfl rfl (fun a ha => ha) hbelow ⟨child, hleads, hleaf, hold⟩ hat.fresh hat.labels
        hat.room
    refine Outcome.keep (Turns.of_eq fun fuel => run_leaf_again hat.here hfind hleads hleaf hold)
      hseen ?_ (List.cons_ne_nil child rest.leaves) rfl (List.cons_ne_nil i kept) (ih hnext)
    -- the leaf adds nothing to the pages of the vector
    ext a
    simp only [reach, UnsyncTree.upToLeaf, UnsyncRun.consider_labels, List.mem_toFinset,
      List.mem_append, List.mem_cons]
    constructor
    · exact fun h => h.imp id Or.inr
    · rintro (h | rfl | h)
      · exact Or.inl h
      · exact Or.inl hold
      · exact Or.inr h
  · have hrun : ∀ fuel, mmu_unsync_walk_run host (fuel + 1) sp idx nr run
        = if run.pvec.length + 1 = KVM_PAGE_ARRAY_NR then
            some (STATUS_NO_MEMORY_INT, run.push sp i child)
          else mmu_unsync_walk_run host fuel sp (i + 1) (nr + 1) (run.push sp i child) :=
      fun fuel => run_leaf hat.here hfind hleads hleaf hold
    by_cases hfull : run.pvec.length + 1 = KVM_PAGE_ARRAY_NR
    · exact Outcome.of_full hat.labels hold hfull ((hrun 0).trans (if_pos hfull)) rfl rfl
    · obtain ⟨hin, hold', hnodup, hroom⟩ := hat.pushed hold hfull
      have hnext : WalkAt host.mm sp page (i + 1) (i :: kept) rest (run.push sp i child) := by
        refine hat.keep rfl rfl rfl hold' hbelow ⟨child, hleads, hleaf, hin⟩ (fun a ha hmem => ?_)
          hnodup hroom
        rw [UnsyncRun.push_labels, List.mem_append, List.mem_singleton] at hmem
        rcases hmem with hmem | rfl
        · exact hat.fresh a ha hmem
        · exact hbelow.leaf_notMem hleaf ha
      refine Outcome.keep (Turns.of_eq fun fuel => (hrun fuel).trans (if_neg hfull))
        hseen ?_ (List.cons_ne_nil child rest.leaves) rfl (List.cons_ne_nil i kept) (ih hnext)
      rw [reach, reach, UnsyncRun.push_labels, List.append_assoc]
      rfl

section Child

variable {child_page : ZapPage}

/-- The walk of a child starts. -/
theorem WalkAt.enter {mm : Mm} (hat : WalkAt mm sp page idx kept (.table i child kids rest) run)
    (hchild : run.pages child = some child_page) (hmarks : child_page.Marks kids)
    (hkids : TreeBelow mm run.pages child_page.entries kids)
    (hfull : ¬ run.pvec.length + 1 = KVM_PAGE_ARRAY_NR) :
    WalkAt mm child child_page 0 [] kids (run.push sp i child) := by
  obtain ⟨hkidsnd, -, -, -⟩ := UnsyncTree.nodup_table hat.nodup
  have hnew : child ∉ run.labels := hat.fresh child List.mem_cons_self
  obtain ⟨-, -, hnodup, hroom⟩ := @WalkAt.pushed mm sp idx i child page kept _ run hat hnew hfull
  refine ⟨hchild, hmarks.counted, fun j => ?_, fun j hj => ?_, fun j _ => Nat.zero_le j,
    hmarks.sorted, hkids, fun j hj => ?_, hkidsnd, fun a ha hmem => ?_, hnodup, hroom⟩
  · rw [hmarks.mem_iff]
    exact (or_iff_right List.not_mem_nil).symm
  · cases hj
  · cases hj
  · rw [UnsyncRun.push_labels, List.mem_append, List.mem_singleton] at hmem
    rcases hmem with hmem | rfl
    · exact hat.fresh a (List.mem_cons_of_mem _ (List.mem_append_left _ ha)) hmem
    · exact (List.nodup_cons.mp hkidsnd).1 ha

theorem Through.child_labels (h : Through child kids (run.push sp i child) run') :
    run'.labels = run.labels ++ child :: kids.tables := by
  rw [h.labels, UnsyncRun.push_labels, List.append_assoc, List.singleton_append]

/-- The walk of a child has come to its end, and the bit of the child is cleared. -/
theorem WalkAt.leave {mm : Mm} (hat : WalkAt mm sp page idx kept (.table i child kids rest) run)
    (h : Through child kids (run.push sp i child) run') :
    run'.pages sp = some page ∧ WalkAt mm sp (page.cleared i) (i + 1) kept rest
      { run' with pages := Function.update run'.pages sp (some (page.cleared i)) } := by
  obtain ⟨hkidsnd, hrestnd, hsp, hapart⟩ := UnsyncTree.nodup_table hat.nodup
  have hhere : run'.pages sp = some page := (h.same sp hsp).trans hat.here
  have hlabels := h.child_labels
  refine ⟨hhere, hat.clear rfl hhere h.spares (fun a ha => ?_)
    (hat.below.2.2.frame h.spares fun a ha => ?_) hrestnd (fun a ha hmem => ?_) ?_ h.room⟩
  · rw [hlabels]
    exact List.mem_append_left _ ha
  · exact h.same a fun hmem => hapart a hmem ha
  · rw [hlabels, List.mem_append] at hmem
    rcases hmem with hmem | hmem
    · exact hat.fresh a (List.mem_cons_of_mem _ (List.mem_append_right _ ha)) hmem
    · exact hapart a hmem ha
  · rw [hlabels, List.nodup_append]
    refine ⟨hat.labels, hkidsnd, fun a ha b hb => ?_⟩
    rintro rfl
    apply hat.fresh a ?_ ha
    rw [UnsyncTree.tables, ← List.cons_append]
    exact List.mem_append_left _ hb

/-- A turn with the walk of a child in it, once that has come to its end. -/
theorem Turns.of_child {fuel : ℕ}
    (hrun : ∀ fuel, mmu_unsync_walk_run host (fuel + 1) sp idx nr run
      = (mmu_unsync_walk_run host fuel child 0 0 (run.push sp i child)).bind fun r =>
          if r.1 = 0 then (clear_unsync_child_bit sp i r.2.pages).bind fun pages =>
            mmu_unsync_walk_run host fuel sp (i + 1) nr { r.2 with pages := pages }
          else if 0 < r.1 then mmu_unsync_walk_run host fuel sp (i + 1) (nr + r.1) r.2
          else some r)
    (hchild : mmu_unsync_walk_run host fuel child 0 0 (run.push sp i child) = some (0, run'))
    (hhere : run'.pages sp = some page) :
    Turns host sp idx (i + 1) nr nr run
      { run' with pages := Function.update run'.pages sp (some (page.cleared i)) } := by
  have hdone : ∀ {f}, mmu_unsync_walk_run host f child 0 0 (run.push sp i child) = some (0, run') →
      mmu_unsync_walk_run host (f + 1) sp idx nr run = mmu_unsync_walk_run host f sp (i + 1) nr
        { run' with pages := Function.update run'.pages sp (some (page.cleared i)) } := by
    intro f hf
    rw [hrun, hf, Option.bind_some, if_pos rfl, clear_unsync_child_bit_eq hhere, Option.bind_some]
  refine ⟨⟨fuel, fun f hf => hdone (mmu_unsync_walk_run_mono host hchild hf)⟩, fun f => ?_⟩
  rcases hf : mmu_unsync_walk_run host f child 0 0 (run.push sp i child) with _ | r
  · left
    rw [hrun, hf]
    rfl
  · right
    obtain rfl := mmu_unsync_walk_run_unique host hf hchild
    exact hdone hf

/-- The child at the bit `i` has set bits of its own. -/
theorem Outcome.of_table (hhost : FindsSetBits host)
    (hat : WalkAt host.mm sp page idx kept (.table i child kids rest) run)
    (ihkids : ∀ {page : ZapPage} {run : UnsyncRun}, WalkAt host.mm child page 0 [] kids run →
      Outcome host child 0 0 [] kids run)
    (ihrest : ∀ {page : ZapPage} {run : UnsyncRun}, WalkAt host.mm sp page (i + 1) kept rest run →
      Outcome host sp (i + 1) nr kept rest run) :
    Outcome host sp idx nr kept (.table i child kids rest) run := by
  have hfind := hat.finds hhost rfl
  have hi : i ∈ page.marked := (hat.marked i).mpr (Or.inr List.mem_cons_self)
  have hnew : child ∉ run.labels := hat.fresh child List.mem_cons_self
  obtain ⟨hleads, ⟨child_page, hchild, hne, hmarks, hkids⟩, -⟩ := hat.below
  have hturn := fun fuel => @run_table host sp idx i child fuel nr page child_page run hat.here hfind
    hleads hchild hne hnew
  -- the child goes into the vector first, which may be full with it
  by_cases hfull : run.pvec.length + 1 = KVM_PAGE_ARRAY_NR
  · exact Outcome.of_full hat.labels hnew hfull ((hturn 0).trans (if_pos hfull)) rfl rfl
  have hrun := fun fuel => (hturn fuel).trans (if_neg hfull)
  have hseen : (run.push sp i child).seen ++ (kids.marks child ++ rest.marks sp)
      = run.seen ++ (UnsyncTree.table i child kids rest).marks sp := List.append_assoc ..
  cases ihkids (hat.enter hchild hmarks hkids hfull) with
  | fills fuel run' hchildrun h hreach =>
    refine .fills (fuel + 1) run' ?_ ⟨?_, h.full, h.counts⟩ (Nat.le_trans hreach ?_)
    · rw [hrun, hchildrun]
      rfl
    · rw [← hseen, ← List.append_assoc]
      exact h.seen.trans (List.prefix_append _ _)
    · -- the pages of the child's walk come first
      apply Finset.card_le_card
      intro a ha
      rw [reach, List.mem_toFinset, UnsyncRun.push_labels, List.append_assoc] at ha
      rw [reach, List.mem_toFinset, UnsyncTree.upToLeaf, ← List.cons_append, ← List.append_assoc]
      exact List.mem_append_left _ ha
  | ends fuel run' hchildrun h _ hleaves =>
    -- the child is clean now: its bit is cleared, and the walk goes on behind it
    obtain ⟨hhere, hnext⟩ := hat.leave h
    have hlabels := h.child_labels
    refine Outcome.clear (Turns.of_child hrun hchildrun hhere) ?_ ?_ ?_ ?_ (fun a ha => ?_)
      (fun a ha => ?_) (h.spares.trans (Spares.clear hhere hat.counted hi))
      (h.counts.trans (CountKept.clear hhere hi)) (ihrest hnext)
    · rw [← hseen, ← List.append_assoc, ← h.seen]
    · show run'.labels ++ rest.tables = _
      rw [hlabels, List.append_assoc, List.cons_append]
      rfl
    · show (run'.labels ++ rest.upToLeaf).toFinset = _
      rw [reach, UnsyncTree.upToLeaf, if_pos hleaves, UnsyncTree.upToLeaf_of_leaves hleaves, hlabels,
        List.append_assoc, List.cons_append]
    · rw [UnsyncTree.leaves, hleaves, List.nil_append]
    · exact List.mem_cons_of_mem _ (List.mem_append_right _ ha)
    · have hne : a ≠ sp := by
        rintro rfl
        exact ha List.mem_cons_self
      refine (Function.update_of_ne hne ..).trans (h.same a fun hmem => ha ?_)
      apply List.mem_cons_of_mem
      rw [UnsyncTree.tables, ← List.cons_append]
      exact List.mem_append_left _ hmem
  | stuck hchildrun hleaf hreach =>
    -- the walk of the child never returns, so neither does this one
    have hkidleaf : kids.leaves ≠ [] := hleaf.resolve_left fun h => h rfl
    refine .stuck (fun fuel => ?_) (Or.inr fun h => ?_) ?_
    · cases fuel with
      | zero => rfl
      | succ fuel =>
        rw [hrun, hchildrun]
        rfl
    · exact hkidleaf (List.append_eq_nil_iff.mp h).1
    · have hsame : reach run (.table i child kids rest) = reach (run.push sp i child) kids := by
        rw [reach, reach, UnsyncTree.upToLeaf, if_neg hkidleaf, UnsyncRun.push_labels,
          List.append_nil, List.append_assoc, List.singleton_append]
      rw [hsame]
      exact hreach

end Child

/-- **The walk of a page** from a hint on, over what is left of its bits: it fills the vector, or comes
to an end with all bits clear, or never comes to an end. -/
theorem mmu_unsync_walk_outcome (hhost : FindsSetBits host) (t : UnsyncTree) :
    ∀ {sp idx : ℕ} {nr : ℤ} {kept : List ℕ} {page : ZapPage} {run : UnsyncRun},
      WalkAt host.mm sp page idx kept t run → Outcome host sp idx nr kept t run := by
  induction t with
  | done =>
    intro sp idx nr kept page run hat
    exact Outcome.of_done hhost hat
  | idle i rest ih =>
    intro sp idx nr kept page run hat
    exact Outcome.of_idle hhost hat ih
  | leaf i child rest ih =>
    intro sp idx nr kept page run hat
    exact Outcome.of_leaf hhost hat ih
  | table i child kids rest ihkids ihrest =>
    intro sp idx nr kept page run hat
    exact Outcome.of_table hhost hat ihkids ihrest

end Outcome

/-! ## The walk below a page -/

/-- A walk does what it is for: it returns, has considered no bit twice and none that is not of the
tree, has not written beyond the vector and kept the counts; and where the vector is not full it has
considered all bits and counted the leaves that are not in sync. -/
def WalkRight (host : ZapHost) (pages : ZapPages) (sp : ℕ) (t : UnsyncTree) : Prop :=
  ∃ fuel ret run, mmu_unsync_walk_seen host fuel sp pages = some (ret, run) ∧
    mmu_unsync_walk host fuel sp pages = some (ret, run.pvec, run.pages) ∧
    run.seen.Nodup ∧ (∀ m ∈ run.seen, m ∈ t.marks sp) ∧
    run.pvec.length ≤ KVM_PAGE_ARRAY_NR ∧ CountKept pages run.pages ∧
    (run.pvec.length < KVM_PAGE_ARRAY_NR →
      (∀ m ∈ t.marks sp, m ∈ run.seen) ∧ ret = t.leaves.toFinset.card)

/-- No leaf below is out of sync, or the vector is full before the walk comes back to one. -/
def WalkCondition (sp : ℕ) (t : UnsyncTree) : Prop :=
  t.leaves = [] ∨ KVM_PAGE_ARRAY_NR ≤ (sp :: t.upToLeaf).toFinset.card

section Walk

variable {host : ZapHost} {pages : ZapPages} {sp : ℕ} {t : UnsyncTree}

theorem UnsyncTree.eq_done_of_bits (h : t.bits = []) : t = done := by
  cases t with
  | done => rfl
  | idle i rest | leaf i child rest | table i child kids rest => cases h

theorem WalkRight.intro {fuel : ℕ} {ret : ℤ} {run : UnsyncRun}
    (hrun : mmu_unsync_walk_seen host fuel sp pages = some (ret, run)) (hmarks : (t.marks sp).Nodup)
    (hseen : run.seen <+: t.marks sp) (hlen : run.pvec.length ≤ KVM_PAGE_ARRAY_NR)
    (hcounts : CountKept pages run.pages)
    (hall : run.pvec.length < KVM_PAGE_ARRAY_NR →
      run.seen = t.marks sp ∧ ret = t.leaves.toFinset.card) : WalkRight host pages sp t := by
  refine ⟨fuel, ret, run, hrun, ?_, hmarks.sublist hseen.sublist, fun m hm => hseen.subset hm, hlen,
    hcounts, fun hroom => ?_⟩
  · rw [← mmu_unsync_walk_seen_forget, hrun]
    rfl
  · obtain ⟨hseen, hret⟩ := hall hroom
    exact ⟨fun m hm => hseen ▸ hm, hret⟩

/-- The walk starts behind the page itself. -/
theorem UnsyncTree.Hangs.start {mm : Mm} {page : ZapPage} (h : t.Hangs mm pages sp)
    (hpage : pages sp = some page) (hmarks : page.Marks t)
    (hbelow : TreeBelow mm pages page.entries t) :
    WalkAt mm sp page 0 [] t ⟨[], [(sp, INVALID_INDEX)], pages⟩ := by
  refine ⟨hpage, hmarks.counted, fun i => ?_, fun i hi => ?_, fun i _ => Nat.zero_le i, hmarks.sorted,
    hbelow, fun i hi => ?_, h.nodup, fun a ha hmem => ?_, List.nodup_singleton sp,
    show 1 < KVM_PAGE_ARRAY_NR by decide⟩
  · rw [hmarks.mem_iff]
    exact (or_iff_right List.not_mem_nil).symm
  · cases hi
  · cases hi
  · obtain rfl := List.mem_singleton.mp hmem
    exact (List.nodup_cons.mp h.nodup).1 ha

/-- A walk does what it is for or never returns. -/
theorem mmu_unsync_walk_cases (hhost : FindsSetBits host) (h : t.Hangs host.mm pages sp) :
    (WalkRight host pages sp t ∧ WalkCondition sp t) ∨
      ((∀ fuel, mmu_unsync_walk_seen host fuel sp pages = none) ∧ ¬ WalkCondition sp t) := by
  obtain ⟨page, hpage, hmarks, hbelow⟩ := h.below
  have hnodup := UnsyncTree.marks_nodup hbelow hmarks.sorted h.nodup
  by_cases hzero : page.unsync_children = 0
  · -- nothing is set, and the walk returns at once
    have hbits : t.bits = [] := by
      rw [List.eq_nil_iff_forall_not_mem]
      intro i hi
      exact hmarks.counted.ne_zero ((hmarks.mem_iff i).mpr hi) hzero
    obtain rfl := UnsyncTree.eq_done_of_bits hbits
    have hrun : mmu_unsync_walk_seen host 0 sp pages = some (0, ⟨[], [], pages⟩) := by
      rw [mmu_unsync_walk_seen, hpage, Option.bind_eq_bind, Option.bind_some, if_pos hzero]
    exact Or.inl ⟨WalkRight.intro hrun hnodup List.prefix_rfl (Nat.zero_le _) (CountKept.refl pages)
      fun _ => ⟨rfl, rfl⟩, Or.inl rfl⟩
  have hrun : ∀ fuel, mmu_unsync_walk_seen host fuel sp pages
      = mmu_unsync_walk_run host fuel sp 0 0 ⟨[], [(sp, INVALID_INDEX)], pages⟩ := by
    intro fuel
    rw [mmu_unsync_walk_seen, hpage, Option.bind_eq_bind, Option.bind_some, if_neg hzero,
      mmu_pages_add_new hpage List.not_mem_nil]
    rfl
  have houtcome : Outcome host sp 0 0 [] t ⟨[], [(sp, INVALID_INDEX)], pages⟩ :=
    mmu_unsync_walk_outcome hhost t (h.start hpage hmarks hbelow)
  cases houtcome with
  | fills fuel run hdone hfilled hreach =>
    refine Or.inl ⟨WalkRight.intro ((hrun fuel).trans hdone) hnodup hfilled.seen hfilled.full.le
      hfilled.counts fun hroom => ?_, Or.inr hreach⟩
    exact absurd hfilled.full (Nat.ne_of_lt hroom)
  | ends fuel run hdone hthrough _ hleaves =>
    refine Or.inl ⟨WalkRight.intro ((hrun fuel).trans hdone) hnodup ?_ hthrough.room.le
      hthrough.counts fun _ => ⟨hthrough.seen, ?_⟩, Or.inl hleaves⟩
    · rw [hthrough.seen]
      exact List.prefix_rfl
    · rw [hleaves]
      rfl
  | stuck hdone hleaf hreach =>
    refine Or.inr ⟨fun fuel => (hrun fuel).trans (hdone fuel), ?_⟩
    rintro (hleaves | hfull)
    · exact hleaf.elim (fun hne => hne rfl) fun hne => hne hleaves
    · exact absurd hreach (Nat.not_lt.mpr hfull)

/-- **When the walk over the pages that are not in sync is right.** For every tree of pages whose set
bits are counted right, and a search of bits as it is documented, the walk does what it is for exactly
when no leaf below is out of sync or the vector is full before the walk comes back to one. -/
theorem mmu_unsync_walk_right_iff (hhost : FindsSetBits host) (h : t.Hangs host.mm pages sp) :
    WalkRight host pages sp t ↔ WalkCondition sp t := by
  rcases mmu_unsync_walk_cases hhost h with ⟨hright, hcondition⟩ | ⟨hnever, hcondition⟩
  · exact iff_of_true hright hcondition
  · refine iff_of_false ?_ hcondition
    rintro ⟨fuel, ret, run, hrun, -⟩
    rw [hnever fuel] at hrun
    cases hrun

end Walk

/-! ### A page and its child -/

/-- The search goes through the bits one by one. -/
def searchHost : ZapHost where
  mm := flatMm
  tdp_enabled := true
  RtlFindSetBits bitmap hint := search SPTE_ENT_PER_PAGE (fun i => bitmap i) hint

theorem searchHost_finds : FindsSetBits searchHost :=
  ⟨search SPTE_ENT_PER_PAGE, search_searches SPTE_ENT_PER_PAGE, fun _ _ => rfl⟩

/-- A page table whose first entry leads to the page at `0x6000`; the bit of that entry is set. -/
def firstMarked : ZapPage where
  role := ⟨0x84⟩
  entries i := if i = 0 then 0x6807 else 0
  root_count := 0
  unsync := false
  unsync_children := 1
  unsync_child_bitmap i := i == 0

/-- The child has nothing below it. -/
def childPage (unsync : Bool) : ZapPage where
  role := ⟨0x81⟩
  entries _ := 0
  root_count := 0
  unsync := unsync
  unsync_children := 0
  unsync_child_bitmap _ := false

def pageAndChild (unsync : Bool) : ZapPages := fun a =>
  if a = 0x5000 then some firstMarked else if a = 0x6000 then some (childPage unsync) else none

theorem firstMarked_marks {t : UnsyncTree} (h : t.bits = [0]) : firstMarked.Marks t := by
  have hmarked : firstMarked.marked = {0} := by
    ext i
    rw [ZapPage.marked, mem_setBits, Finset.mem_singleton]
    show i < SPTE_ENT_PER_PAGE ∧ ((i : ℤ) == 0) = true ↔ i = 0
    rw [beq_iff_eq, Nat.cast_eq_zero]
    constructor
    · exact fun h => h.2
    · rintro rfl
      exact ⟨by decide, rfl⟩
  refine ⟨?_, fun i => ?_, ?_⟩
  · rw [ZapPage.Counted, hmarked]
    rfl
  · rw [hmarked, h, Finset.mem_singleton, List.mem_singleton]
  · rw [h]
    exact List.pairwise_singleton _ 0

theorem firstMarked_leads : Leads flatMm (firstMarked.entries 0) 0x6000 := by
  refine ⟨?_, ?_, ?_⟩ <;> decide

/-- With the child in sync the walk is right. -/
theorem synced_child_walked : WalkRight searchHost (pageAndChild false) 0x5000 (.idle 0 .done) := by
  have hhangs : (UnsyncTree.idle 0 .done).Hangs searchHost.mm (pageAndChild false) 0x5000 :=
    ⟨⟨firstMarked, rfl, firstMarked_marks rfl,
      Or.inr ⟨0x6000, childPage false, firstMarked_leads, rfl, rfl, rfl⟩, trivial⟩,
      List.nodup_singleton 0x5000⟩
  exact (mmu_unsync_walk_right_iff searchHost_finds hhangs).mpr (Or.inl rfl)

/-- With the child out of sync it never returns. -/
theorem unsync_child_never_returns :
    FindsSetBits searchHost ∧
      (UnsyncTree.leaf 0 0x6000 .done).Hangs searchHost.mm (pageAndChild true) 0x5000 ∧
      ¬ WalkRight searchHost (pageAndChild true) 0x5000 (.leaf 0 0x6000 .done) := by
  have hhangs : (UnsyncTree.leaf 0 0x6000 .done).Hangs searchHost.mm (pageAndChild true) 0x5000 :=
    ⟨⟨firstMarked, rfl, firstMarked_marks rfl, firstMarked_leads, ⟨childPage true, rfl, rfl, rfl⟩,
      trivial⟩, List.nodup_singleton 0x5000⟩
  refine ⟨searchHost_finds, hhangs, ?_⟩
  have hnot : ¬ WalkCondition 0x5000 (.leaf 0 0x6000 .done) := by
    rintro (hleaves | hfull)
    · cases hleaves
    · exact absurd hfull (by decide)
  rintro ⟨fuel, ret, run, hrun, -⟩
  rcases mmu_unsync_walk_cases searchHost_finds hhangs with ⟨-, h⟩ | ⟨hnever, -⟩
  · exact hnot h
  · rw [hnever fuel] at hrun
    cases hrun

end Svmx.Tdp
