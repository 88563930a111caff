/-
Making room for shadow pages (`kvm_mmu_zap_oldest_mmu_pages` and `kvm_mmu_commit_zap_page` of `mmu.c`).

The pages are zapped from the end of `active_mmu_pages`. Zapping a page zaps its children too, but takes
no page off the list and queues none on `invalid_list`; neither loop goes on to the next entry, and
`invalid_list` is a local that nothing initialises. So a call on a list that is not empty either never
returns, or frees a page twice, or finds what it takes for an empty `invalid_list`
(`zap_oldest_right_iff`).

`RtlFindSetBits` is the kernel's: it is taken as it is, a function from the bits and the hint to the
index of a bit, `none` being `0xFFFFFFFF`. `none` is a fault, or too little fuel; freeing what has been
freed is a fault.
-/
import Svmx.ShadowPage
import Svmx.SpteMake

set_option autoImplicit false

namespace Svmx.Tdp

/-! ## Pages -/

/-- The fields of `struct kvm_mmu_page` that zapping reads or writes; `entries` is its page table. -/
structure ZapPage where
  role : KvmMmuPageRole
  entries : ℕ → BitVec 64
  root_count : BitVec 32
  unsync : Bool
  unsync_children : BitVec 32
  unsync_child_bitmap : ℤ → Bool

/-- The pages by the address of their header. -/
abbrev ZapPages := ℕ → Option ZapPage

/-- What the zapping of a page reads beside the pages. -/
structure ZapHost where
  mm : Mm
  tdp_enabled : Bool
  RtlFindSetBits : (ℤ → Bool) → ℕ → Option ℕ

/-- `struct mmu_page_path`; the arrays are not initialised. -/
structure MmuPagePath where
  parent : ℤ → ℕ
  idx : ℤ → ℤ

def KVM_PAGE_ARRAY_NR : ℕ := 16

/-- `INVALID_INDEX`. -/
def INVALID_INDEX : ℤ := -1

/-- `clear_unsync_child_bit`. -/
def clear_unsync_child_bit (sp : ℕ) (idx : ℤ) (pages : ZapPages) : Option ZapPages := do
  let page ← pages sp
  some (Function.update pages sp (some { page with
    unsync_children := page.unsync_children - 1
    unsync_child_bitmap := Function.update page.unsync_child_bitmap idx false }))

/-- `mmu_pages_add` on the pages of a `struct kvm_mmu_pages`: whether it is full, and the pages. -/
def mmu_pages_add (pages : ZapPages) (pvec : List (ℕ × ℤ)) (sp : ℕ) (idx : ℤ) :
    Option (Bool × List (ℕ × ℤ)) := do
  let page ← pages sp
  if page.unsync && pvec.any fun p => p.1 == sp then some (false, pvec)
  else
    let pvec := pvec ++ [(sp, idx)]
    some (pvec.length = KVM_PAGE_ARRAY_NR, pvec)

/-- `STATUS_NO_MEMORY` as an `int`. -/
def STATUS_NO_MEMORY_INT : ℤ := -0x3FFFFFE9

section Unsync

variable (host : ZapHost)

/-- The loop of `__mmu_unsync_walk` from the hint `idx` on, with the leaves counted so far. -/
def mmu_unsync_walk_loop : ℕ → ℕ → ℕ → ℤ → List (ℕ × ℤ) → ZapPages →
    Option (ℤ × List (ℕ × ℤ) × ZapPages)
  | 0, _, _, _, _, _ => none
  | fuel + 1, sp, idx, nr_unsync_leaf, pvec, pages => do
    let page ← pages sp
    match host.RtlFindSetBits page.unsync_child_bitmap idx with
    | none => some (nr_unsync_leaf, pvec, pages)
    | some i =>
      let ent := page.entries i
      if !is_shadow_present_pte ent || is_large_pte ent then
        let pages ← clear_unsync_child_bit sp i pages
        mmu_unsync_walk_loop fuel sp (i + 1) nr_unsync_leaf pvec pages
      else
        let child := ShadowPage.spte_to_child_sp host.mm ent
        let child_page ← pages child
        if child_page.unsync_children ≠ 0 then
          let (full, pvec) ← mmu_pages_add pages pvec child i
          if full then some (STATUS_NO_MEMORY_INT, pvec, pages)
          else
            let (ret, pvec, pages) ← mmu_unsync_walk_loop fuel child 0 0 pvec pages
            if ret = 0 then
              let pages ← clear_unsync_child_bit sp i pages
              mmu_unsync_walk_loop fuel sp (i + 1) nr_unsync_leaf pvec pages
            else if 0 < ret then
              mmu_unsync_walk_loop fuel sp (i + 1) (nr_unsync_leaf + ret) pvec pages
            else some (ret, pvec, pages)
        else if child_page.unsync then
          let (full, pvec) ← mmu_pages_add pages pvec child i
          if full then some (STATUS_NO_MEMORY_INT, pvec, pages)
          else mmu_unsync_walk_loop fuel sp (i + 1) (nr_unsync_leaf + 1) pvec pages
        else
          let pages ← clear_unsync_child_bit sp i pages
          mmu_unsync_walk_loop fuel sp (i + 1) nr_unsync_leaf pvec pages

/-- `mmu_unsync_walk`. -/
def mmu_unsync_walk (fuel sp : ℕ) (pages : ZapPages) : Option (ℤ × List (ℕ × ℤ) × ZapPages) := do
  let page ← pages sp
  if page.unsync_children = 0 then some (0, [], pages)
  else
    let (_, pvec) ← mmu_pages_add pages [] sp INVALID_INDEX
    mmu_unsync_walk_loop host fuel sp 0 0 pvec pages

end Unsync

/-- The loop of `mmu_pages_next` over the pages from the `n`-th on. -/
def mmu_pages_next_loop (pages : ZapPages) : List (ℕ × ℤ) → ℕ → MmuPagePath →
    Option (ℕ × MmuPagePath)
  | [], n, parents => some (n, parents)
  | (sp, idx) :: rest, n, parents => do
    let page ← pages sp
    let level : ℤ := page.role.level
    let parents := { parents with idx := Function.update parents.idx (level - 1) idx }
    if level = PG_LEVEL_4K then some (n, parents)
    else
      let parents := { parents with parent := Function.update parents.parent (level - 2) sp }
      mmu_pages_next_loop pages rest (n + 1) parents

/-- `mmu_pages_next`. -/
def mmu_pages_next (pages : ZapPages) (pvec : List (ℕ × ℤ)) (parents : MmuPagePath) (i : ℕ) :
    Option (ℕ × MmuPagePath) :=
  mmu_pages_next_loop pages (pvec.drop (i + 1)) (i + 1) parents

/-- `mmu_pages_first`. -/
def mmu_pages_first (pages : ZapPages) (pvec : List (ℕ × ℤ)) (parents : MmuPagePath) :
    Option (ℕ × MmuPagePath) :=
  match pvec with
  | [] => some (0, parents)
  | (sp, _) :: _ => do
    let page ← pages sp
    let level : ℤ := page.role.level
    let parent := Function.update parents.parent (level - 2) sp
    mmu_pages_next pages pvec { parents with parent := Function.update parent (level - 1) 0 } 0

/-- `mmu_pages_clear_parents` from a level on; there are no more than five. -/
def mmu_pages_clear_parents (parents : MmuPagePath) : ℕ → ℤ → ZapPages → Option ZapPages
  | 0, _, _ => none
  | rounds + 1, level, pages =>
    let sp := parents.parent level
    if sp = 0 then some pages
    else do
      let pages ← clear_unsync_child_bit sp (parents.idx level) pages
      let page ← pages sp
      if page.unsync_children = 0 then mmu_pages_clear_parents parents rounds (level + 1) pages
      else some pages

/-! ## Zapping a page -/

section Zap

-- `zap` is `kvm_mmu_prepare_zap_page`: whether it has zapped anything, and the pages
variable (host : ZapHost) (garbage : MmuPagePath) (zap : ℕ → ZapPages → Option (Bool × ZapPages))

/-- The loop `for_each_sp` of `mmu_zap_unsync_children` from the `i`-th page on. -/
def for_each_sp (pvec : List (ℕ × ℤ)) : ℕ → ℕ → MmuPagePath → ℕ → ZapPages →
    Option (MmuPagePath × ℕ × ZapPages)
  | 0, _, parents, zapped, pages => some (parents, zapped, pages)
  | rounds + 1, i, parents, zapped, pages =>
    match pvec[i]? with
    | none => some (parents, zapped, pages)
    | some (sp, _) => do
      let (_, pages) ← zap sp pages
      let pages ← mmu_pages_clear_parents parents 5 0 pages
      let (i, parents) ← mmu_pages_next pages pvec parents i
      for_each_sp pvec rounds i parents (zapped + 1) pages

/-- The loop of `mmu_zap_unsync_children`. -/
def mmu_zap_unsync_loop (parent : ℕ) : ℕ → MmuPagePath → ℕ → ZapPages → Option (ℕ × ZapPages)
  | 0, _, _, _ => none
  | fuel + 1, parents, zapped, pages => do
    let (ret, pvec, pages) ← mmu_unsync_walk host fuel parent pages
    if ret = 0 then some (zapped, pages)
    else
      let (i, parents) ← mmu_pages_first pages pvec parents
      let (parents, zapped, pages) ← for_each_sp zap pvec pvec.length i parents zapped pages
      mmu_zap_unsync_loop parent fuel parents zapped pages

/-- `mmu_zap_unsync_children`. -/
def mmu_zap_unsync_children (fuel parent : ℕ) (pages : ZapPages) : Option (ℕ × ZapPages) := do
  let page ← pages parent
  if page.role.level = PG_LEVEL_4K then some (0, pages)
  else mmu_zap_unsync_loop host zap parent fuel garbage 0 pages

/-- `mmu_page_zap_pte` on the `i`-th entry; `invalid_list` is not `NULL`. -/
def mmu_page_zap_pte (sp i : ℕ) (pages : ZapPages) : Option (ℕ × ZapPages) := do
  let page ← pages sp
  let pte := page.entries i
  if is_shadow_present_pte pte && !is_last_spte pte page.role.level && host.tdp_enabled then
    let child := ShadowPage.spte_to_child_sp host.mm pte
    let child_page ← pages child
    if child_page.role.guest_mode then
      let (zapped, pages) ← zap child pages
      some (if zapped then 1 else 0, pages)
    else some (0, pages)
  else some (0, pages)

/-- The loop of `kvm_mmu_page_unlink_children` over the last `n` entries. -/
def unlink_children_loop (sp : ℕ) : ℕ → ℕ → ZapPages → Option (ℕ × ZapPages)
  | 0, zapped, pages => some (zapped, pages)
  | n + 1, zapped, pages => do
    let (r, pages) ← mmu_page_zap_pte host zap sp (SPTE_ENT_PER_PAGE - (n + 1)) pages
    unlink_children_loop sp n (zapped + r) pages

/-- `kvm_mmu_page_unlink_children`. -/
def kvm_mmu_page_unlink_children (sp : ℕ) (pages : ZapPages) : Option (ℕ × ZapPages) :=
  unlink_children_loop host zap sp SPTE_ENT_PER_PAGE 0 pages

end Zap

/-- `__kvm_mmu_prepare_zap_page`: `nr_zapped`, which is not zero just if the list is unstable, and the
pages. -/
def kvm_mmu_prepare_zap_page (host : ZapHost) (garbage : MmuPagePath) : ℕ → ℕ → ZapPages →
    Option (ℕ × ZapPages)
  | 0, _, _ => none
  | fuel + 1, sp, pages => do
    let zap sp pages := (kvm_mmu_prepare_zap_page host garbage fuel sp pages).map
      fun (nr_zapped, pages) => (nr_zapped != 0, pages)
    let (nr_unsync, pages) ← mmu_zap_unsync_children host garbage zap fuel sp pages
    let (nr_children, pages) ← kvm_mmu_page_unlink_children host zap sp pages
    some (nr_unsync + nr_children, pages)

/-! ## Zapping the oldest pages -/

/-- The pages, the list `active_mmu_pages` with its first entry first, the pages that have been queued
on `invalid_list`, and those that have been freed. -/
structure ZapState where
  pages : ZapPages
  active : List ℕ
  invalid : List ℕ
  freed : List ℕ

/-- `kvm_mmu_free_shadow_page`, with the tables of the page. -/
def kvm_mmu_free_shadow_page (sp : ℕ) (st : ZapState) : Option ZapState := do
  let _page ← st.pages sp
  some { st with
    pages := Function.update st.pages sp none
    active := st.active.erase sp
    freed := st.freed ++ [sp] }

/-- The loop of `kvm_mmu_commit_zap_page`; `none` as an entry is the head of the list. -/
def commit_zap_loop (pEntry : Option ℕ) : ℕ → ZapState → Option ZapState
  | 0, _ => none
  | fuel + 1, st =>
    match pEntry with
    | none => some st
    | some sp => do
      let st ← kvm_mmu_free_shadow_page sp st
      commit_zap_loop pEntry fuel st

/-- `kvm_mmu_commit_zap_page`; `flink` is what the memory of the list at `invalid_list` holds. -/
def kvm_mmu_commit_zap_page (fuel invalid_list flink : ℕ) (st : ZapState) : Option ZapState :=
  if flink = invalid_list then some st else commit_zap_loop st.active.getLast? fuel st

/-- The loop of `kvm_mmu_zap_oldest_mmu_pages` from an entry on; `none` as an entry is the head of the
list. -/
def zap_oldest_loop (host : ZapHost) (garbage : MmuPagePath) (nr_to_zap : BitVec 64) :
    ℕ → Option ℕ → BitVec 32 → ZapState → Option (BitVec 32 × ZapState)
  | 0, _, _, _ => none
  | _ + 1, none, total_zapped, st => some (total_zapped, st)
  | fuel + 1, some sp, total_zapped, st => do
    let page ← st.pages sp
    if page.root_count ≠ 0 then zap_oldest_loop host garbage nr_to_zap fuel (some sp) total_zapped st
    else
      let (nr_zapped, pages) ← kvm_mmu_prepare_zap_page host garbage fuel sp st.pages
      let st := { st with pages := pages }
      let total_zapped := total_zapped + BitVec.ofNat 32 nr_zapped
      if nr_to_zap ≤ total_zapped.setWidth 64 then some (total_zapped, st)
      else
        let pEntry := if nr_zapped ≠ 0 then st.active.getLast? else some sp
        zap_oldest_loop host garbage nr_to_zap fuel pEntry total_zapped st

/-- `kvm_mmu_zap_oldest_mmu_pages`. -/
def kvm_mmu_zap_oldest_mmu_pages (host : ZapHost) (garbage : MmuPagePath) (fuel invalid_list flink : ℕ)
    (nr_to_zap : BitVec 64) (st : ZapState) : Option (BitVec 32 × ZapState) :=
  if st.active = [] then some (0, st)
  else do
    let (total_zapped, st) ← zap_oldest_loop host garbage nr_to_zap fuel st.active.getLast? 0 st
    let st ← kvm_mmu_commit_zap_page fuel invalid_list flink st
    some (total_zapped, st)

/-! ## What a call does -/

section Call

variable {host : ZapHost} {garbage : MmuPagePath} {nr_to_zap : BitVec 64} {st st' : ZapState}
  {total : BitVec 32}

/-- The loop takes nothing off the list, queues nothing and frees nothing. -/
theorem zap_oldest_loop_keeps {fuel : ℕ} : ∀ {pEntry : Option ℕ} {total_zapped : BitVec 32}
    {st : ZapState}, zap_oldest_loop host garbage nr_to_zap fuel pEntry total_zapped st =
      some (total, st') → st'.active = st.active ∧ st'.invalid = st.invalid ∧ st'.freed = st.freed := by
  induction fuel with
  | zero =>
    intro pEntry total_zapped st h
    cases h
  | succ fuel ih =>
    intro pEntry total_zapped st h
    cases pEntry with
    | none =>
      obtain ⟨-, rfl⟩ := Prod.mk.inj (Option.some.inj h)
      exact ⟨rfl, rfl, rfl⟩
    | some sp =>
      obtain ⟨page, -, h⟩ := Option.bind_eq_some_iff.mp h
      split at h
      · exact ih h
      · obtain ⟨⟨nr_zapped, pages⟩, -, h⟩ := Option.bind_eq_some_iff.mp h
        dsimp only at h
        split at h
        · obtain ⟨-, rfl⟩ := Prod.mk.inj (Option.some.inj h)
          exact ⟨rfl, rfl, rfl⟩
        · -- a restart, or the same entry again
          have hrest := ih h
          exact hrest

/-- A page in use as a root holds the loop for ever. -/
theorem zap_oldest_loop_root {sp : ℕ} {page : ZapPage} (hpage : st.pages sp = some page)
    (hroot : page.root_count ≠ 0) (fuel : ℕ) (total_zapped : BitVec 32) :
    zap_oldest_loop host garbage nr_to_zap fuel (some sp) total_zapped st = none := by
  induction fuel with
  | zero => rfl
  | succ fuel ih =>
    rw [zap_oldest_loop, hpage, Option.bind_eq_bind, Option.bind_some, if_pos hroot]
    exact ih

/-- The loop of the commit frees its page again. -/
theorem commit_zap_loop_some (sp fuel : ℕ) (st : ZapState) :
    commit_zap_loop (some sp) fuel st = none := by
  cases fuel with
  | zero => rfl
  | succ fuel =>
    rcases hpage : st.pages sp with _ | page
    · rw [commit_zap_loop, kvm_mmu_free_shadow_page, hpage]
      rfl
    · rw [commit_zap_loop, kvm_mmu_free_shadow_page, hpage]
      simp only [Option.bind_eq_bind, Option.bind_some]
      cases fuel with
      | zero => rfl
      | succ fuel =>
        rw [commit_zap_loop, kvm_mmu_free_shadow_page]
        dsimp only
        rw [Function.update_self]
        rfl

/-- **The commit** returns only if it takes `invalid_list` for empty, or the list of the pages is. -/
theorem kvm_mmu_commit_zap_page_spec {fuel invalid_list flink : ℕ}
    (h : kvm_mmu_commit_zap_page fuel invalid_list flink st = some st') :
    (flink = invalid_list ∨ st.active = []) ∧ st' = st := by
  unfold kvm_mmu_commit_zap_page at h
  split at h
  · next hflink => exact ⟨Or.inl hflink, (Option.some.inj h).symm⟩
  · rcases hlast : st.active.getLast? with _ | sp
    · rw [hlast] at h
      refine ⟨Or.inr (List.getLast?_eq_none_iff.mp hlast), ?_⟩
      cases fuel with
      | zero => cases h
      | succ fuel => exact (Option.some.inj h).symm
    · rw [hlast, commit_zap_loop_some] at h
      cases h

/-- **A call that returns** has freed nothing, and the pages that were active are. -/
theorem kvm_mmu_zap_oldest_mmu_pages_spec {fuel invalid_list flink : ℕ}
    (h : kvm_mmu_zap_oldest_mmu_pages host garbage fuel invalid_list flink nr_to_zap st =
      some (total, st')) :
    (st.active = [] ∨ flink = invalid_list) ∧ st'.active = st.active ∧ st'.invalid = st.invalid ∧
      st'.freed = st.freed := by
  unfold kvm_mmu_zap_oldest_mmu_pages at h
  split at h
  · next hempty =>
    obtain ⟨-, rfl⟩ := Prod.mk.inj (Option.some.inj h)
    exact ⟨Or.inl hempty, rfl, rfl, rfl⟩
  · obtain ⟨⟨total_zapped, st₁⟩, hloop, h⟩ := Option.bind_eq_some_iff.mp h
    obtain ⟨st₂, hcommit, h⟩ := Option.bind_eq_some_iff.mp h
    obtain ⟨-, rfl⟩ := Prod.mk.inj (Option.some.inj h)
    obtain ⟨hactive, hinvalid, hfreed⟩ := zap_oldest_loop_keeps hloop
    obtain ⟨hwhy, rfl⟩ := kvm_mmu_commit_zap_page_spec hcommit
    rw [hactive] at hwhy
    exact ⟨hwhy.symm, hactive, hinvalid, hfreed⟩

/-- A call does what it is for: it returns, it has freed no page in use as a root, and it has freed
each page queued on `invalid_list` once and no other. -/
def ZapRight (host : ZapHost) (garbage : MmuPagePath) (invalid_list flink : ℕ) (nr_to_zap : BitVec 64)
    (pages : ZapPages) (active : List ℕ) : Prop :=
  ∃ fuel total st', kvm_mmu_zap_oldest_mmu_pages host garbage fuel invalid_list flink nr_to_zap
      ⟨pages, active, [], []⟩ = some (total, st') ∧
    (∀ sp ∈ st'.freed, ∀ page, pages sp = some page → page.root_count = 0) ∧
    ∀ sp, st'.freed.count sp = st'.invalid.count sp

/-- **When the oldest pages are zapped right.** For every list of pages, every number to zap and
whatever stands in the memory that is not initialised, a call does what it is for exactly when the list
is empty. -/
theorem zap_oldest_right_iff (host : ZapHost) (invalid_list : ℕ) (nr_to_zap : BitVec 64)
    (pages : ZapPages) (active : List ℕ) :
    (∀ garbage flink, ZapRight host garbage invalid_list flink nr_to_zap pages active) ↔
      active = [] := by
  constructor
  · intro hright
    -- memory that does not look like an empty list
    obtain ⟨fuel, total, st', hcall, -⟩ := hright ⟨fun _ => 0, fun _ => 0⟩ (invalid_list + 1)
    rcases (kvm_mmu_zap_oldest_mmu_pages_spec hcall).1 with hempty | hflink
    · exact hempty
    · exact absurd hflink (Nat.succ_ne_self invalid_list)
  · rintro rfl garbage flink
    refine ⟨0, 0, ⟨pages, [], [], []⟩, rfl, fun sp hsp => ?_, fun sp => rfl⟩
    cases hsp

end Call

/-! ### One root -/

/-- A page of role `0x84` in use as a root. -/
def rootInUse : ZapPage where
  role := ⟨0x84⟩
  entries _ := 0
  root_count := 1
  unsync := false
  unsync_children := 0
  unsync_child_bitmap _ := false

/-- With EPT; no bit of a bitmap is set. -/
def zapHost : ZapHost where
  mm := flatMm
  tdp_enabled := true
  RtlFindSetBits _ _ := none

/-- It is the only page. -/
def onlyRoot : ZapState where
  pages a := if a = 0x5000 then some rootInUse else none
  active := [0x5000]
  invalid := []
  freed := []

/-- While it is, a call for 25 pages never returns, though `invalid_list` happens to look empty. -/
theorem root_in_use_never_returns :
    ¬ ZapRight zapHost ⟨fun _ => 0, fun _ => 0⟩ 0x9000 0x9000 25 onlyRoot.pages onlyRoot.active := by
  rintro ⟨fuel, total, st', hcall, -⟩
  have hpage : onlyRoot.pages 0x5000 = some rootInUse := rfl
  have hloop := @zap_oldest_loop_root zapHost ⟨fun _ => 0, fun _ => 0⟩ 25 onlyRoot 0x5000 rootInUse
    hpage (by decide) fuel 0
  have hcall' : (zap_oldest_loop zapHost ⟨fun _ => 0, fun _ => 0⟩ 25 fuel (some 0x5000) 0
      onlyRoot).bind (fun r => (kvm_mmu_commit_zap_page fuel 0x9000 0x9000 r.2).bind
        fun st => some (r.1, st)) = some (total, st') := hcall
  rw [hloop] at hcall'
  cases hcall'

end Svmx.Tdp
