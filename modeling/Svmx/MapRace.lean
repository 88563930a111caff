/-
Several vCPUs in `kvm_tdp_mmu_map` on one tree (`tdp_mmu.c`, `tdp_iter.c`).

The call is cut where another vCPU can come between: at every read of an entry, at the
compare-exchange of `tdp_mmu_set_spte_atomic` and at the counters. What a vCPU does between two of
these touches nothing that the others see. `tdp_mmu_map_handle_target_level` stores nothing, and
`handle_changed_spte` is one step because an entry that is linked or split led to no table before.

A vCPU that nobody disturbs takes the steps of the call as `TdpMap` has it (`map_alone`).
-/
import Mathlib.Logic.Relation
import Svmx.TdpMap
import Svmx.Transition

set_option autoImplicit false

namespace Svmx.Tdp

open RetPf

/-! ## The steps of one vCPU -/

/-- What the call is given besides the fault. -/
structure MapEnv where
  mm : Mm
  masks : PteMasks
  host : SpteHost
  sptep_to_sp : Sptep → ℕ
  generation : BitVec 64
  max_huge_page_level : ℕ
  root_hpa : BitVec 64

/-- The variables of the call: the fault, the iterator, and the pages that are left in the caches. -/
structure MapWalk where
  fault : KvmPageFault
  iter : TdpIter
  blocks : List SpBlocks

/-- Where a vCPU is in the call. -/
inductive MapPc where
  | start (w : MapWalk)
  | check (w : MapWalk)
  | link (w : MapWalk) (b : SpBlocks)
  | change (w : MapWalk) (b : SpBlocks)
  | account (w : MapWalk) (b : SpBlocks)
  | linked (w : MapWalk) (b : SpBlocks) (r : ℤ)
  | next (w : MapWalk)
  | enter (w : MapWalk)
  | side (w : MapWalk)
  | up (w : MapWalk)
  | finished (ret : RetPf)

/-- What the vCPUs share. The lists are a record of the calls of `tdp_mmu_link_sp`, by page table:
those whose compare-exchange stored the link, those whose compare-exchange found another value,
those that were counted, those for which the result was not `0`, and those that were freed. -/
structure RaceShared where
  st : MapState
  installed : List ℕ
  lost : List ℕ
  counted : List ℕ
  refused : List ℕ
  freed : List ℕ

/-- The page tables. -/
def RaceShared.m (sh : RaceShared) : PtMem := sh.st.tdp.m

/-- What the call has returned. -/
def MapPc.result : MapPc → Option RetPf
  | .finished ret => some ret
  | _ => none

section Step

variable (env : MapEnv)

/-- From the call to the first read of `tdp_iter_start`. -/
def start_step (w : MapWalk) (sh : RaceShared) : Option (MapPc × RaceShared) := do
  let fault ← kvm_mmu_hugepage_adjust env.max_huge_page_level w.fault
  let root ← sh.st.headers (to_shadow_page env.mm env.root_hpa)
  let iter ← tdp_iter_start winHpage sh.m w.iter root PG_LEVEL_4K fault.gfn
  some (.check ⟨fault, iter, w.blocks⟩, sh)

/-- The checks of one round of the loop, and the new table if one is needed. -/
def check_step (w : MapWalk) (sh : RaceShared) : Option (MapPc × RaceShared) :=
  if !in_map_range w.fault w.iter then some (.finished RET_PF_RETRY, sh)
  else do
    let fault ← adjust_disallowed env.mm w.fault w.iter sh.st
    match map_round fault w.iter with
    | .retry => some (.finished RET_PF_RETRY, sh)
    | .map_target_level => do
      let ret ← tdp_mmu_map_handle_target_level env.masks env.host env.sptep_to_sp env.generation
        fault w.iter sh.st
      some (.finished ret, sh)
    | .step_down => some (.next { w with fault := fault }, sh)
    | .link =>
      match w.blocks with
      | [] => none
      | b :: blocks => do
        let st ← alloc_child_sp env.sptep_to_sp fault w.iter b sh.st
        some (.link ⟨fault, w.iter, blocks⟩ b, { sh with st := st })

/-- The compare-exchange of `tdp_mmu_set_spte_atomic`. -/
def link_step (w : MapWalk) (b : SpBlocks) (sh : RaceShared) : Option (MapPc × RaceShared) := do
  let (cur, m) ← compare_exchange sh.m w.iter.sptep (link_spte env.mm env.masks b.spt)
    w.iter.old_spte
  let won := cur = w.iter.old_spte
  some (.change w b, { sh with
    st := { sh.st with tdp := { sh.st.tdp with m := m } }
    installed := if won then b.spt :: sh.installed else sh.installed
    lost := if won then sh.lost else b.spt :: sh.lost })

/-- `handle_changed_spte` after the compare-exchange. -/
def change_step (w : MapWalk) (b : SpBlocks) (sh : RaceShared) : Option (MapPc × RaceShared) := do
  let tdp ← handle_changed_spte env.mm (fun pt => page_of_sptep env.sptep_to_sp sh.st ⟨pt, 0⟩) true
    w.iter.level w.iter.level w.iter.old_spte (link_spte env.mm env.masks b.spt) sh.st.tdp
  some (.account w b, { sh with st := { sh.st with tdp := tdp } })

/-- `tdp_account_mmu_page`; then `tdp_mmu_link_sp` returns `0`. -/
def account_step (w : MapWalk) (b : SpBlocks) (sh : RaceShared) : MapPc × RaceShared :=
  (.linked w b 0, { sh with st := tdp_account_mmu_page sh.st, counted := b.spt :: sh.counted })

/-- The check of the result of `tdp_mmu_link_sp`. -/
def linked_step (w : MapWalk) (b : SpBlocks) (r : ℤ) (sh : RaceShared) : MapPc × RaceShared :=
  if r ≠ 0 then
    (.finished RET_PF_RETRY, { sh with
      st := tdp_mmu_free_sp b sh.st
      refused := b.spt :: sh.refused
      freed := b.spt :: sh.freed })
  else (.next w, sh)

/-- `tdp_iter_next` up to its first read. -/
def next_step (w : MapWalk) (sh : RaceShared) : Option MapPc :=
  if w.iter.yielded then do
    let iter ← tdp_iter_restart winHpage sh.m w.iter
    some (.check { w with iter := iter })
  else if (w.iter.level : ℤ) = w.iter.min_level then some (.side w)
  else do
    let old_spte ← kvm_tdp_mmu_read_spte sh.m w.iter.sptep
    some (.enter { w with iter := { w.iter with old_spte := old_spte } })

/-- The second half of `try_step_down`. -/
def enter_step (w : MapWalk) (sh : RaceShared) : Option MapPc := do
  let (down, iter) ← step_into_child winHpage sh.m w.iter
    (spte_to_child_pt env.mm w.iter.old_spte w.iter.level)
  some (if down then .check { w with iter := iter } else .side { w with iter := iter })

/-- `try_step_side` in the loop of `tdp_iter_next`. -/
def side_step (w : MapWalk) (sh : RaceShared) : Option MapPc := do
  let (side, iter) ← try_step_side winHpage sh.m w.iter
  some (if side then .check { w with iter := iter } else .up { w with iter := iter })

/-- `try_step_up` in the loop of `tdp_iter_next`. -/
def up_step (w : MapWalk) (sh : RaceShared) : Option MapPc := do
  let (up, iter) ← try_step_up winHpage sh.m w.iter
  some (if up then .side { w with iter := iter }
    else .check { w with iter := { iter with valid := false } })

/-- One step of a vCPU; `none` is a fault, the host's bug-check, or the end of the call. -/
def map_step (pc : MapPc) (sh : RaceShared) : Option (MapPc × RaceShared) :=
  match pc with
  | .start w => start_step env w sh
  | .check w => check_step env w sh
  | .link w b => link_step env w b sh
  | .change w b => change_step env w b sh
  | .account w b => some (account_step w b sh)
  | .linked w b r => some (linked_step w b r sh)
  | .next w => (next_step w sh).map (·, sh)
  | .enter w => (enter_step env w sh).map (·, sh)
  | .side w => (side_step w sh).map (·, sh)
  | .up w => (up_step w sh).map (·, sh)
  | .finished _ => none

end Step

/-! ## All vCPUs -/

/-- The vCPUs `V` and what they share. -/
structure RaceState (V : Type) where
  sh : RaceShared
  pc : V → MapPc

section Race

variable {V : Type} [DecidableEq V]

/-- The next step of one of the vCPUs. -/
def race_step (env : MapEnv) (v : V) (s : RaceState V) : Option (RaceState V) :=
  (map_step env (s.pc v) s.sh).map fun (pc, sh) => ⟨sh, Function.update s.pc v pc⟩

/-- All vCPUs enter the call; nothing is recorded yet. -/
def raceStart (st : MapState) (walks : V → MapWalk) : RaceState V where
  sh := ⟨st, [], [], [], [], []⟩
  pc v := .start (walks v)

/-- The steps of the vCPUs in any order. -/
def race (env : MapEnv) (st : MapState) (walks : V → MapWalk) :
    Transition.System (RaceState V) V where
  init s := s = raceStart st walks
  step s v s' := race_step env v s = some s'

/-- The steps of the vCPUs in the order of a list. -/
def race_steps (env : MapEnv) (vs : List V) (s : RaceState V) : Option (RaceState V) :=
  vs.foldlM (fun s v => race_step env v s) s

theorem race_steps_run {env : MapEnv} {st : MapState} {walks : V → MapWalk} {vs : List V}
    {s s' : RaceState V} (hrun : Transition.Run (race env st walks) (fun _ _ => True) s)
    (h : race_steps env vs s = some s') :
    Transition.Run (race env st walks) (fun _ _ => True) s' := by
  induction vs generalizing s with
  | nil =>
    obtain rfl := Option.some.inj h
    exact hrun
  | cons v vs ih =>
    obtain ⟨s₁, hstep, hrest⟩ := Option.bind_eq_some_iff.mp h
    exact ih (Transition.Run.step s v s₁ hrun trivial hstep) hrest

/-- The next step of `v` is no compare-exchange, or one that finds the value that `v` has read. -/
def Undisturbed (s : RaceState V) (v : V) : Prop :=
  ∀ w b, s.pc v = .link w b → kvm_tdp_mmu_read_spte s.sh.m w.iter.sptep = some w.iter.old_spte

end Race

/-! ## One vCPU alone -/

section Alone

variable {env : MapEnv}

/-- Steps of one vCPU with nobody else at work. -/
def Alone (env : MapEnv) : MapPc × RaceShared → MapPc × RaceShared → Prop :=
  Relation.ReflTransGen fun a b => map_step env a.1 a.2 = some b

theorem Alone.head {pc pc' : MapPc} {sh sh' : RaceShared} {c : MapPc × RaceShared}
    (h : map_step env pc sh = some (pc', sh')) (hrest : Alone env (pc', sh') c) :
    Alone env (pc, sh) c :=
  Relation.ReflTransGen.head h hrest

/-- The `do … while` loop of `tdp_iter_next`. -/
theorem step_side_or_up_alone {w : MapWalk} {sh : RaceShared} {fuel : ℕ} {iter iter' : TdpIter}
    (h : step_side_or_up winHpage sh.m fuel iter = some iter') :
    Alone env (.side { w with iter := iter }, sh) (.check { w with iter := iter' }, sh) := by
  induction fuel generalizing iter with
  | zero => cases h
  | succ fuel ih =>
    obtain ⟨⟨side, it₁⟩, hside, h⟩ := Option.bind_eq_some_iff.mp h
    cases side with
    | true =>
      obtain rfl := Option.some.inj h
      apply Alone.head _ Relation.ReflTransGen.refl
      simp [map_step, side_step, hside]
    | false =>
      obtain ⟨⟨up, it₂⟩, hup, h⟩ := Option.bind_eq_some_iff.mp h
      have hfirst : map_step env (.side { w with iter := iter }) sh =
          some (.up { w with iter := it₁ }, sh) := by
        simp [map_step, side_step, hside]
      apply Alone.head hfirst
      cases up with
      | true =>
        have hsecond : map_step env (.up { w with iter := it₁ }) sh =
            some (.side { w with iter := it₂ }, sh) := by
          simp [map_step, up_step, hup]
        exact Alone.head hsecond (ih h)
      | false =>
        obtain rfl := Option.some.inj h
        apply Alone.head _ Relation.ReflTransGen.refl
        simp [map_step, up_step, hup]

/-- `tdp_iter_next`. -/
theorem tdp_iter_next_alone {w : MapWalk} {sh : RaceShared} {iter' : TdpIter}
    (h : tdp_iter_next winHpage env.mm sh.m w.iter = some iter') :
    Alone env (.next w, sh) (.check { w with iter := iter' }, sh) := by
  unfold tdp_iter_next at h
  cases hy : w.iter.yielded with
  | true =>
    rw [hy] at h
    apply Alone.head _ Relation.ReflTransGen.refl
    simp [map_step, next_step, hy, show tdp_iter_restart winHpage sh.m w.iter = some iter' from h]
  | false =>
    rw [hy] at h
    obtain ⟨⟨down, it₁⟩, hdown, h⟩ := Option.bind_eq_some_iff.mp h
    unfold try_step_down at hdown
    split at hdown
    · next hmin =>
      -- at the lowest level there is no step down
      obtain ⟨rfl, rfl⟩ := Prod.mk.inj (Option.some.inj hdown)
      have hfirst : map_step env (.next w) sh = some (.side w, sh) := by
        simp [map_step, next_step, hy, hmin]
      exact Alone.head hfirst (step_side_or_up_alone h)
    · next hmin =>
      obtain ⟨old_spte, hread, hdown⟩ := Option.bind_eq_some_iff.mp hdown
      have hfirst : map_step env (.next w) sh =
          some (.enter { w with iter := { w.iter with old_spte := old_spte } }, sh) := by
        simp [map_step, next_step, hy, hmin, hread]
      apply Alone.head hfirst
      cases down with
      | true =>
        obtain rfl := Option.some.inj h
        apply Alone.head _ Relation.ReflTransGen.refl
        simp [map_step, enter_step, hdown]
      | false =>
        have hsecond : map_step env
            (.enter { w with iter := { w.iter with old_spte := old_spte } }) sh =
              some (.side { w with iter := it₁ }, sh) := by
          simp [map_step, enter_step, hdown]
        exact Alone.head hsecond (step_side_or_up_alone h)

/-- `tdp_mmu_link_sp` and the split of a huge page, which is the same call. -/
theorem tdp_mmu_link_sp_alone {w : MapWalk} {b : SpBlocks} {sh : RaceShared} {r : ℤ}
    {iter' : TdpIter} {st' : MapState}
    (h : tdp_mmu_link_sp env.mm env.masks env.sptep_to_sp w.iter b.spt true sh.st =
      some (r, iter', st')) :
    iter' = w.iter ∧ ∃ sh', sh'.st = st' ∧ Alone env (.link w b, sh) (.linked w b r, sh') := by
  obtain ⟨⟨iter₁, st₁⟩, hset, h⟩ := Option.bind_eq_some_iff.mp h
  obtain ⟨hr, hrest⟩ := Prod.mk.inj (Option.some.inj h)
  obtain ⟨rfl, rfl⟩ := Prod.mk.inj hrest
  subst hr
  obtain ⟨⟨r₁, st₂⟩, hatomic, heq⟩ := Option.map_eq_some_iff.mp hset
  obtain ⟨rfl, rfl⟩ := Prod.mk.inj heq
  obtain ⟨⟨r₂, tdp⟩, hwrite, hst⟩ := Option.bind_eq_some_iff.mp hatomic
  obtain ⟨-, rfl⟩ := Prod.mk.inj (Option.some.inj hst)
  obtain ⟨⟨cur, m⟩, hcas, hwrite⟩ := Option.bind_eq_some_iff.mp hwrite
  obtain ⟨tdp', hchange, hwrite⟩ := Option.bind_eq_some_iff.mp hwrite
  obtain ⟨-, rfl⟩ := Prod.mk.inj (Option.some.inj hwrite)
  refine ⟨rfl, ?_⟩
  obtain ⟨sh₁, hlink, hst₁⟩ : ∃ sh₁, map_step env (.link w b) sh = some (.change w b, sh₁) ∧
      sh₁.st = { sh.st with tdp := { sh.st.tdp with m := m } } :=
    ⟨_, Option.bind_eq_some_iff.mpr ⟨_, hcas, rfl⟩, rfl⟩
  obtain ⟨sh₂, hchanged, hst₂⟩ : ∃ sh₂, map_step env (.change w b) sh₁ = some (.account w b, sh₂) ∧
      sh₂.st = { sh.st with tdp := tdp' } := by
    refine ⟨_, Option.bind_eq_some_iff.mpr ⟨tdp', ?_, rfl⟩, ?_⟩
    · rw [hst₁]
      exact hchange
    · rw [hst₁]
  refine ⟨(account_step w b sh₂).2, ?_, ?_⟩
  · unfold account_step
    rw [hst₂]
  · exact Alone.head hlink (Alone.head hchanged (Alone.head rfl Relation.ReflTransGen.refl))

/-- **The loop.** A vCPU that nobody disturbs takes the steps of the loop of `kvm_tdp_mmu_map`. -/
theorem map_loop_alone {fuel : ℕ} {fault : KvmPageFault} {iter : TdpIter} {blocks : List SpBlocks}
    {sh : RaceShared} {ret : RetPf} {st' : MapState}
    (h : map_loop env.mm env.masks env.host env.sptep_to_sp env.generation fuel fault iter blocks
      sh.st = some (ret, st')) :
    ∃ sh', sh'.st = st' ∧ Alone env (.check ⟨fault, iter, blocks⟩, sh) (.finished ret, sh') := by
  induction fuel generalizing fault iter blocks sh with
  | zero => cases h
  | succ fuel ih =>
    rw [map_loop] at h
    cases hrange : in_map_range fault iter with
    | false =>
      rw [hrange] at h
      obtain ⟨rfl, rfl⟩ := Prod.mk.inj (Option.some.inj h)
      refine ⟨sh, rfl, Alone.head ?_ Relation.ReflTransGen.refl⟩
      simp [map_step, check_step, hrange]
    | true =>
      rw [hrange, Bool.not_true, if_neg Bool.false_ne_true] at h
      obtain ⟨fault', hadjust, h⟩ := Option.bind_eq_some_iff.mp h
      cases hround : map_round fault' iter with
      | retry =>
        simp only [hround] at h
        obtain ⟨rfl, rfl⟩ := Prod.mk.inj (Option.some.inj h)
        refine ⟨sh, rfl, Alone.head ?_ Relation.ReflTransGen.refl⟩
        simp [map_step, check_step, hrange, hadjust, hround]
      | map_target_level =>
        simp only [hround] at h
        obtain ⟨ret', htarget, h⟩ := Option.bind_eq_some_iff.mp h
        obtain ⟨rfl, rfl⟩ := Prod.mk.inj (Option.some.inj h)
        refine ⟨sh, rfl, Alone.head ?_ Relation.ReflTransGen.refl⟩
        simp [map_step, check_step, hrange, hadjust, hround, htarget]
      | step_down =>
        simp only [hround] at h
        obtain ⟨iter', hnext, h⟩ := Option.bind_eq_some_iff.mp h
        obtain ⟨sh', hst, hrest⟩ := ih h
        have hfirst : map_step env (.check ⟨fault, iter, blocks⟩) sh =
            some (.next ⟨fault', iter, blocks⟩, sh) := by
          simp [map_step, check_step, hrange, hadjust, hround]
        have hwalk := tdp_iter_next_alone (w := ⟨fault', iter, blocks⟩) hnext
        exact ⟨sh', hst, Alone.head hfirst (Relation.ReflTransGen.trans hwalk hrest)⟩
      | link =>
        simp only [hround] at h
        cases blocks with
        | nil => cases h
        | cons b blocks =>
          obtain ⟨⟨r, iter₁, st₁⟩, hmap, h⟩ := Option.bind_eq_some_iff.mp h
          obtain ⟨st₀, halloc, hlink⟩ := Option.bind_eq_some_iff.mp hmap
          -- `tdp_mmu_split_huge_page` is `tdp_mmu_link_sp`, so both branches make the same call
          unfold tdp_mmu_split_huge_page at hlink
          rw [ite_self] at hlink
          have hfirst : map_step env (.check ⟨fault, iter, b :: blocks⟩) sh =
              some (.link ⟨fault', iter, blocks⟩ b, { sh with st := st₀ }) := by
            simp [map_step, check_step, hrange, hadjust, hround, halloc]
          have hlink' : tdp_mmu_link_sp env.mm env.masks env.sptep_to_sp
              (MapWalk.mk fault' iter blocks).iter b.spt true { sh with st := st₀ }.st =
                some (r, iter₁, st₁) := hlink
          obtain ⟨rfl, sh₁, rfl, hlinked⟩ := tdp_mmu_link_sp_alone hlink'
          dsimp only at h
          split at h
          · next hr =>
            obtain ⟨rfl, rfl⟩ := Prod.mk.inj (Option.some.inj h)
            have hfree : map_step env (.linked ⟨fault', iter₁, blocks⟩ b r) sh₁ =
                some (.finished RET_PF_RETRY, { sh₁ with
                  st := tdp_mmu_free_sp b sh₁.st
                  refused := b.spt :: sh₁.refused
                  freed := b.spt :: sh₁.freed }) := by
              simp only [map_step, linked_step, if_pos hr]
            have hend := Alone.head hfree Relation.ReflTransGen.refl
            exact ⟨_, by rfl, Alone.head hfirst (Relation.ReflTransGen.trans hlinked hend)⟩
          · next hr =>
            obtain ⟨iter', hnext, h⟩ := Option.bind_eq_some_iff.mp h
            obtain ⟨sh', hst, hrest⟩ := ih h
            have hgo : map_step env (.linked ⟨fault', iter₁, blocks⟩ b r) sh₁ =
                some (.next ⟨fault', iter₁, blocks⟩, sh₁) := by
              simp only [map_step, linked_step, if_neg hr]
            have hwalk := tdp_iter_next_alone (w := ⟨fault', iter₁, blocks⟩) hnext
            exact ⟨sh', hst, Alone.head hfirst (Relation.ReflTransGen.trans hlinked
              (Alone.head hgo (Relation.ReflTransGen.trans hwalk hrest)))⟩

/-- **The call.** -/
theorem map_alone {fuel : ℕ} {w : MapWalk} {sh : RaceShared} {ret : RetPf} {st' : MapState}
    (h : kvm_tdp_mmu_map env.mm env.masks env.host env.sptep_to_sp env.generation
      env.max_huge_page_level fuel env.root_hpa w.iter w.blocks w.fault sh.st = some (ret, st')) :
    ∃ sh', sh'.st = st' ∧ Alone env (.start w, sh) (.finished ret, sh') := by
  obtain ⟨fault, hadjust, h⟩ := Option.bind_eq_some_iff.mp h
  obtain ⟨root, hroot, h⟩ := Option.bind_eq_some_iff.mp h
  obtain ⟨iter, hiter, h⟩ := Option.bind_eq_some_iff.mp h
  have hstart : map_step env (.start w) sh = some (.check ⟨fault, iter, w.blocks⟩, sh) :=
    Option.bind_eq_some_iff.mpr ⟨_, hadjust, Option.bind_eq_some_iff.mpr ⟨_, hroot,
      Option.bind_eq_some_iff.mpr ⟨_, hiter, rfl⟩⟩⟩
  obtain ⟨sh', hst, hrest⟩ := map_loop_alone h
  exact ⟨sh', hst, Alone.head hstart hrest⟩

end Alone

end Svmx.Tdp
