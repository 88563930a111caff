/-
The fast path of a page fault (`fast_page_fault` of `mmu.c`).

The loop walks to the last entry of the address and looks at it: an entry that allows the access
already makes the fault spurious, and one that could be made to allow it is tried again, five times
at most, as nothing is written. What it finds is kept in `ret`, but the function ends with
`return RET_PF_INVALID`, and `ret` is lost.

The walk is one of the two of `FastPf`, and it may itself not come back (`WinWalk`). The header of
the table that it ends in is looked up by the address of the entry; the lookup is taken as it is, a
function from entry pointers to addresses of headers, `0` being `NULL`, and the results hold whatever
it answers. `none` is a fault or too little fuel for the walk.
-/
import Svmx.FaultPfn
import Svmx.TdpFixed

set_option autoImplicit false

namespace Svmx.PageFault

open Tdp RetPf

/-! ## What the fault asks for -/

def SPTE_EPT_READABLE_MASK : BitVec 64 := 0x1
def SPTE_EPT_EXECUTABLE_MASK : BitVec 64 := 0x4
def SHADOW_ACC_TRACK_SAVED_BITS_MASK : BitVec 64 :=
  SPTE_EPT_READABLE_MASK ||| SPTE_EPT_EXECUTABLE_MASK
def SHADOW_ACC_TRACK_SAVED_BITS_SHIFT : ℕ := 54

/-- `page_fault_can_be_fast`. -/
def page_fault_can_be_fast (masks : PteMasks) (fault : KvmPageFault) : Bool :=
  if fault.rsvd then false
  else if !fault.present then !kvm_ad_enabled masks.toSpteMasks
  else fault.write

/-- `is_executable_pte`. -/
def is_executable_pte (masks : PteMasks) (spte : BitVec 64) : Bool :=
  spte &&& (masks.shadow_x_mask ||| masks.shadow_nx_mask) == masks.shadow_x_mask

/-- `is_access_allowed`. -/
def is_access_allowed (masks : PteMasks) (fault : KvmPageFault) (spte : BitVec 64) : Bool :=
  if fault.exec then is_executable_pte masks spte
  else if fault.write then is_writable_pte spte
  else spte &&& PT_PRESENT_MASK != 0

/-- `restore_acc_track_spte`. -/
def restore_acc_track_spte (masks : SpteMasks) (spte : BitVec 64) : BitVec 64 :=
  let saved_bits := (spte >>> SHADOW_ACC_TRACK_SAVED_BITS_SHIFT) &&& SHADOW_ACC_TRACK_SAVED_BITS_MASK
  let spte := spte &&& ~~~masks.shadow_acc_track_mask
  let spte := spte &&& ~~~(SHADOW_ACC_TRACK_SAVED_BITS_MASK <<< SHADOW_ACC_TRACK_SAVED_BITS_SHIFT)
  spte ||| saved_bits

/-! ## The loop -/

/-- What the fast path reads beside the fault: the tables, the root, the masks and the headers. `iter`
is the iterator on the stack of the TDP walk. -/
structure FastEnv where
  mm : Mm
  m : PtMem
  masks : PteMasks
  tdp_mmu_enabled : Bool
  iter : TdpIter
  root : KvmMmuPage
  mmu : KvmMmu
  root_hpa : BitVec 64
  sptep_to_sp : Sptep → ℕ
  headers : ℕ → Option KvmMmuPage

section Source

variable (env : FastEnv) (fault : KvmPageFault)

/-- The walk to the last entry of the address: the entry and its value, `none` inside for `NULL`. -/
def last_sptep (fuel : ℕ) : Option (Option (Sptep × BitVec 64)) :=
  if env.tdp_mmu_enabled then
    kvm_tdp_mmu_fast_pf_get_last_sptep env.mm env.m fuel env.iter env.root fault.addr.toNat
  else fast_pf_get_last_sptep env.mm env.m env.mmu env.root_hpa fault.addr.toNat

/-- The header of the table that holds an entry, as the code finds it. -/
def sp_of_sptep (sptep : Option Sptep) : Option KvmMmuPage := do
  let sptep ← sptep
  env.headers (env.sptep_to_sp sptep)

/-- The entry that the loop would install. -/
def fast_new_spte (spte : BitVec 64) : BitVec 64 :=
  let new_spte := if !kvm_ad_enabled env.masks.toSpteMasks &&
      is_access_track_spte env.masks.toSpteMasks spte then
    restore_acc_track_spte env.masks.toSpteMasks spte else spte
  if fault.write && is_mmu_writable_spte env.masks.toSpteMasks spte then
    new_spte ||| PT_WRITABLE_MASK else new_spte

/-- A round of the loop up to the retry count, on the variable `spte`: `ret` of a `break`, or `none`
inside, and `spte`. -/
def fast_page_fault_round (fuel : ℕ) (spte : BitVec 64) : Option (Option RetPf × BitVec 64) := do
  let last ← last_sptep env fault fuel
  let spte := (last.map Prod.snd).getD spte
  if !is_shadow_present_pte spte then some (some RET_PF_INVALID, spte)
  else do
    let sp ← sp_of_sptep env (last.map Prod.fst)
    if !is_last_spte spte sp.role.level then some (some RET_PF_INVALID, spte)
    else if is_access_allowed env.masks fault spte then some (some RET_PF_SPURIOUS, spte)
    else
      let new_spte := fast_new_spte env fault spte
      if new_spte = spte || !is_access_allowed env.masks fault new_spte then
        some (some RET_PF_INVALID, spte)
      else some (none, spte)

/-- The loop with `retries` left: `ret` where it breaks. -/
def fast_page_fault_loop (fuel : ℕ) : ℕ → BitVec 64 → Option RetPf
  | 0, spte => do
    let (ret, _) ← fast_page_fault_round env fault fuel spte
    some (ret.getD RET_PF_INVALID)
  | retries + 1, spte => do
    let (ret, spte) ← fast_page_fault_round env fault fuel spte
    match ret with
    | some ret => some ret
    | none => fast_page_fault_loop fuel retries spte

/-- `fast_page_fault`. -/
def fast_page_fault (fuel : ℕ) : Option RetPf :=
  if !page_fault_can_be_fast env.masks fault then some RET_PF_INVALID
  else do
    let _ret ← fast_page_fault_loop env fault fuel 4 0
    some RET_PF_INVALID

end Source

/-! ## Where the walk ends -/

section Ends

variable (env : FastEnv) (fault : KvmPageFault)

/-- The walk comes back with `last`. -/
def WalkEnds (last : Option (Sptep × BitVec 64)) : Prop :=
  ∃ n, ∀ fuel, n ≤ fuel → last_sptep env fault fuel = some last

/-- The walk ended at a present entry. -/
def EndsPresent (last : Option (Sptep × BitVec 64)) : Prop :=
  ∃ sptep spte, last = some (sptep, spte) ∧ is_shadow_present_pte spte = true

/-- The walk ended at a present last-level entry. -/
def EndsLeaf (last : Option (Sptep × BitVec 64)) : Prop :=
  ∃ sptep spte sp, last = some (sptep, spte) ∧ is_shadow_present_pte spte = true ∧
    sp_of_sptep env (some sptep) = some sp ∧ is_last_spte spte sp.role.level = true

/-- The walk ended at a present last-level entry that allows the access already. -/
def EndsAllowed (last : Option (Sptep × BitVec 64)) : Prop :=
  EndsLeaf env last ∧ ∃ sptep spte, last = some (sptep, spte) ∧
    is_access_allowed env.masks fault spte = true

/-- What the fast path has to do: it comes back, with `RET_PF_SPURIOUS` exactly where the access is
allowed already, and with `RET_PF_INVALID` where the walk ends at no present last-level entry. -/
def FastFaultRight : Prop :=
  ∃ last ret, WalkEnds env fault last ∧
    (∃ n, ∀ fuel, n ≤ fuel → fast_page_fault env fault fuel = some ret) ∧
    (ret = RET_PF_SPURIOUS ↔ EndsAllowed env fault last) ∧
    (¬ EndsLeaf env last → ret = RET_PF_INVALID)

/-- The code finds a header for the table of the entry, if that is present. -/
def HeaderFound (last : Option (Sptep × BitVec 64)) : Prop :=
  ∀ sptep spte, last = some (sptep, spte) → is_shadow_present_pte spte = true →
    (sp_of_sptep env (some sptep)).isSome

end Ends

/-! ## More fuel -/

/-- A loop over the entries that has ended does so with more fuel. -/
theorem for_each_tdp_pte_mono {hp : Hpage} {mm : Mm} {m : PtMem} {end_gfn fuel : ℕ} :
    ∀ {fuel' : ℕ} {it : TdpIter} {visits : List TdpIter}, fuel ≤ fuel' →
      for_each_tdp_pte hp mm m end_gfn fuel it = some visits →
      for_each_tdp_pte hp mm m end_gfn fuel' it = some visits := by
  induction fuel with
  | zero =>
    intro fuel' it visits _ h
    cases h
  | succ fuel ih =>
    intro fuel' it visits hle h
    obtain ⟨fuel', rfl⟩ : ∃ k, fuel' = k + 1 := ⟨fuel' - 1, by omega⟩
    rw [for_each_tdp_pte] at h ⊢
    split at h
    · next hgo =>
      obtain ⟨next, hnext, h⟩ := Option.bind_eq_some_iff.mp h
      obtain ⟨rest, hrest, h⟩ := Option.bind_eq_some_iff.mp h
      rw [if_pos hgo, hnext, Option.bind_eq_bind, Option.bind_some, ih (by omega) hrest]
      exact h
    · next hstop =>
      rw [if_neg hstop]
      exact h

/-- A walk that has come back does so with more fuel. -/
theorem walkEnds_of {env : FastEnv} {fault : KvmPageFault} {last : Option (Sptep × BitVec 64)}
    {fuel : ℕ} (h : last_sptep env fault fuel = some last) : WalkEnds env fault last := by
  refine ⟨fuel, fun fuel' hle => ?_⟩
  rw [last_sptep] at h ⊢
  split at h
  · next htdp =>
    rw [if_pos htdp]
    unfold kvm_tdp_mmu_fast_pf_get_last_sptep for_each_tdp_pte_min_level at h ⊢
    obtain ⟨visits, hvisits, h⟩ := Option.bind_eq_some_iff.mp h
    obtain ⟨it, hit, hvisits⟩ := Option.bind_eq_some_iff.mp hvisits
    simp only [hit, for_each_tdp_pte_mono hle hvisits, Option.bind_eq_bind, Option.bind_some]
    exact h
  · next hshadow =>
    rw [if_neg hshadow]
    exact h

/-! ## The loop comes back -/

section Loop

variable {env : FastEnv} {fault : KvmPageFault} {fuel : ℕ} {last : Option (Sptep × BitVec 64)}

/-- A round, once the walk has come back with an entry. -/
theorem fast_page_fault_round_some {sptep : Sptep} {spte : BitVec 64} (old : BitVec 64)
    (hwalk : last_sptep env fault fuel = some (some (sptep, spte))) :
    (fast_page_fault_round env fault fuel old).isSome ↔
      (is_shadow_present_pte spte = true → (sp_of_sptep env (some sptep)).isSome) := by
  unfold fast_page_fault_round
  rw [hwalk]
  simp only [Option.bind_eq_bind, Option.bind_some, Option.map_some, Option.getD_some]
  cases is_shadow_present_pte spte with
  | false =>
    simp only [Bool.not_false, if_true, Option.isSome_some, Bool.false_eq_true, false_imp_iff]
  | true =>
    simp only [Bool.not_true, Bool.false_eq_true, if_false, true_imp_iff]
    cases sp_of_sptep env (some sptep) with
    | none => exact Iff.rfl
    | some sp =>
      simp only [Option.bind_some, Option.isSome_some, iff_true]
      -- every branch after the lookup gives a result
      split
      · rfl
      · split
        · rfl
        · split <;> rfl

/-- A round, when no entry was visited and the variable is still zero. -/
theorem fast_page_fault_round_null (hwalk : last_sptep env fault fuel = some none) :
    fast_page_fault_round env fault fuel 0 = some (some RET_PF_INVALID, 0) := by
  unfold fast_page_fault_round
  rw [hwalk]
  rfl

/-- The loop comes back exactly when the header is found. -/
theorem fast_page_fault_loop_some {sptep : Sptep} {spte : BitVec 64}
    (hwalk : last_sptep env fault fuel = some (some (sptep, spte))) (retries : ℕ) :
    ∀ old, (fast_page_fault_loop env fault fuel retries old).isSome ↔
      (is_shadow_present_pte spte = true → (sp_of_sptep env (some sptep)).isSome) := by
  induction retries with
  | zero =>
    intro old
    rw [← fast_page_fault_round_some old hwalk, fast_page_fault_loop]
    cases fast_page_fault_round env fault fuel old with
    | none => rfl
    | some r => rfl
  | succ retries ih =>
    intro old
    have hround := fast_page_fault_round_some old hwalk
    rw [fast_page_fault_loop]
    cases hr : fast_page_fault_round env fault fuel old with
    | none =>
      rw [hr] at hround
      exact hround
    | some r =>
      obtain ⟨ret, next⟩ := r
      rw [hr] at hround
      simp only [Option.bind_eq_bind, Option.bind_some]
      cases ret with
      | some ret => exact hround
      | none => exact ih next

theorem fast_page_fault_some (hwalk : last_sptep env fault fuel = some last)
    (hfast : page_fault_can_be_fast env.masks fault = true) :
    (fast_page_fault env fault fuel).isSome ↔ HeaderFound env last := by
  have hloop : (fast_page_fault env fault fuel).isSome ↔
      (fast_page_fault_loop env fault fuel 4 0).isSome := by
    unfold fast_page_fault
    rw [hfast, Bool.not_true, if_neg Bool.false_ne_true]
    cases fast_page_fault_loop env fault fuel 4 0 with
    | none => rfl
    | some ret => rfl
  rw [hloop]
  cases last with
  | none =>
    have hnull : HeaderFound env none := by
      intro sptep spte h
      cases h
    refine iff_of_true ?_ hnull
    rw [fast_page_fault_loop, fast_page_fault_round_null hwalk]
    rfl
  | some last =>
    obtain ⟨sptep, spte⟩ := last
    rw [fast_page_fault_loop_some hwalk]
    constructor
    · rintro h sptep' spte' heq
      obtain ⟨rfl, rfl⟩ := Prod.mk.inj (Option.some.inj heq)
      exact h
    · intro h
      exact h sptep spte rfl

/-- Whatever the loop finds, `RET_PF_INVALID` is returned. -/
theorem fast_page_fault_eq {ret : RetPf} (h : fast_page_fault env fault fuel = some ret) :
    ret = RET_PF_INVALID := by
  unfold fast_page_fault at h
  split at h
  · exact (Option.some.inj h).symm
  · obtain ⟨_, -, h⟩ := Option.bind_eq_some_iff.mp h
    exact (Option.some.inj h).symm

/-- Two walks over the same tables end at the same entry. -/
theorem WalkEnds.unique {last' : Option (Sptep × BitVec 64)} (h : WalkEnds env fault last)
    (h' : WalkEnds env fault last') : last = last' := by
  obtain ⟨n, hn⟩ := h
  obtain ⟨n', hn'⟩ := h'
  have hfuel := hn (max n n') (by omega)
  rw [hn' (max n n') (by omega)] at hfuel
  exact (Option.some.inj hfuel).symm

/-- An access that is allowed already is not reported. -/
theorem fast_page_fault_not_spurious (hwalk : WalkEnds env fault last)
    (hallowed : EndsAllowed env fault last) : ¬ FastFaultRight env fault := by
  rintro ⟨last', ret, hwalk', ⟨n, hret⟩, hspurious, -⟩
  rw [hwalk.unique hwalk'] at hallowed
  have hinvalid := fast_page_fault_eq (hret n (Nat.le_refl n))
  rw [hspurious.mpr hallowed] at hinvalid
  cases hinvalid

/-- **When the fast path is right:** the walk comes back, the header of its last entry is found if it
is looked up, and the entry does not allow the access already. -/
theorem fast_page_fault_right_iff (env : FastEnv) (fault : KvmPageFault)
    (hfast : page_fault_can_be_fast env.masks fault = true) :
    FastFaultRight env fault ↔
      ∃ last, WalkEnds env fault last ∧ HeaderFound env last ∧ ¬ EndsAllowed env fault last := by
  constructor
  · intro hright
    obtain ⟨last, ret, hwalk, ⟨n, hret⟩, -, -⟩ := id hright
    refine ⟨last, hwalk, ?_, fun hallowed => fast_page_fault_not_spurious hwalk hallowed hright⟩
    obtain ⟨n', hwalk⟩ := hwalk
    rw [← fast_page_fault_some (hwalk (max n n') (by omega)) hfast, hret (max n n') (by omega)]
    rfl
  · rintro ⟨last, hwalk, hheader, hallowed⟩
    refine ⟨last, RET_PF_INVALID, hwalk, ?_, ?_, fun _ => rfl⟩
    · obtain ⟨n, hwalk⟩ := hwalk
      refine ⟨n, fun fuel hfuel => ?_⟩
      obtain ⟨ret, hret⟩ := Option.isSome_iff_exists.mp
        ((fast_page_fault_some (hwalk fuel hfuel) hfast).mpr hheader)
      rw [hret, fast_page_fault_eq hret]
    · exact ⟨fun h => RetPf.noConfusion h, fun h => absurd h hallowed⟩

end Loop

/-! ## Where the two walks end -/

/-- The shadow walk ends at the last entry of the address. -/
theorem walkEnds_shadow {env : FastEnv} (fault : KvmPageFault) {pt : ℕ}
    (hshadow : env.tdp_mmu_enabled = false)
    (hlevel : env.mmu.root_role.level = 4 ∨ env.mmu.root_role.level = 5)
    (hdirect : env.mmu.root_role.direct = true)
    (halloc : Allocated env.mm env.m env.mmu.root_role.level pt)
    (hroot : env.mm.virt env.root_hpa = pt) :
    WalkEnds env fault
      (some (lastEntry env.mm env.m env.mmu.root_role.level pt (fault.addr.toNat / 4096))) := by
  refine @walkEnds_of env fault _ 0 ?_
  rw [last_sptep, if_neg (by rw [hshadow]; exact Bool.false_ne_true)]
  exact fast_pf_get_last_sptep_spec env.mmu env.root_hpa fault.addr.toNat pt hlevel hdirect halloc
    hroot

/-- The TDP walk ends there when the Windows widths let it find the entry. -/
theorem walkEnds_tdp {env : FastEnv} (fault : KvmPageFault) (htdp : env.tdp_mmu_enabled = true)
    (hlevel : env.root.role.level = 4 ∨ env.root.role.level = 5)
    (htree : PageTree env.mm env.m env.root.role.level env.root.spt)
    (haddr : fault.addr.toNat < 2 ^ 52)
    (hfinds : FindsLast env.mm env.m env.root (fault.addr.toNat / 4096)) :
    WalkEnds env fault
      (some (lastEntry env.mm env.m env.root.role.level env.root.spt (fault.addr.toNat / 4096))) := by
  have hend : (fault.addr.toNat / 4096 + 1) % 2 ^ 64 = fault.addr.toNat / 4096 + 1 :=
    Nat.mod_eq_of_lt (by omega)
  -- the loop returns that entry, from the iterator that `tdp_iter_start` leaves
  have hreturns : ∃ it,
      tdp_iter_start winHpage env.m env.iter env.root PG_LEVEL_4K (fault.addr.toNat / 4096) =
        some it ∧
      Returns env.mm env.m (fault.addr.toNat / 4096) it
        (lastEntry env.mm env.m env.root.role.level env.root.spt (fault.addr.toNat / 4096)) := by
    rcases hlevel with h4 | h5
    · have htree4 := htree
      rw [h4] at htree4
      obtain ⟨it, hit, hiff⟩ := returns_root_four env.iter env.root (fault.addr.toNat / 4096) h4
        htree4 (by omega)
      rw [h4]
      exact ⟨it, hit, hiff.mpr hfinds⟩
    · have htree5 := htree
      rw [h5] at htree5
      obtain ⟨it, hit, hiff⟩ := returns_root_five env.iter env.root (fault.addr.toNat / 4096) h5
        htree5 (by omega)
      rw [h5]
      exact ⟨it, hit, hiff.mpr hfinds⟩
  obtain ⟨it, hit, n, hn⟩ := hreturns
  obtain ⟨visits, hvisits, hlast⟩ := hn n (Nat.le_refl n)
  refine @walkEnds_of env fault _ n ?_
  rw [last_sptep, if_pos htdp]
  simp only [kvm_tdp_mmu_fast_pf_get_last_sptep, for_each_tdp_pte_min_level, hit, hend, hvisits,
    Option.bind_eq_bind, Option.bind_some, hlast]

/-! ### A present leaf -/

/-- The root table at `0x1000` with a table at `0x2000` below its entry 0, and there a writable page of
1 GB at entry 0. -/
def leafTables : PtMem where
  spt pt :=
    if pt = 0x1000 then some fun i => if i.val = 0 then 0x2807 else 0
    else if pt = 0x2000 then some fun i => if i.val = 0 then 0x887 else 0
    else none
  spt_null := rfl

/-- The TDP MMU over these tables; the header of the lower one is found. -/
def leafEnv : FastEnv where
  mm := flatMm
  m := leafTables
  masks := eptMasks
  tdp_mmu_enabled := true
  iter := blankIter
  root := rootPage
  mmu := rootMmu
  root_hpa := 0x1000
  sptep_to_sp sptep := if sptep.pt = 0x2000 then 0x102000 else 0
  headers a := if a = 0x102000 then some { rootPage with role := ⟨0x83⟩, spt := 0x2000 } else none

/-- A write to a present entry. -/
def writeFault (addr : BitVec 64) : KvmPageFault :=
  page_fault_init addr (PFERR_PRESENT_MASK ||| PFERR_WRITE_MASK)

theorem leafEnv_walk : WalkEnds leafEnv (writeFault 0) (some (⟨0x2000, 0⟩, 0x887)) := by
  have hwalk : last_sptep leafEnv (writeFault 0) 3 = some (some (⟨0x2000, 0⟩, 0x887)) := by
    decide +kernel
  exact walkEnds_of hwalk

/-- The access is allowed, and the fault is reported as one that the fast path cannot handle. -/
theorem allowed_write_not_spurious :
    page_fault_can_be_fast leafEnv.masks (writeFault 0) = true ∧
      WalkEnds leafEnv (writeFault 0) (some (⟨0x2000, 0⟩, 0x887)) ∧
      EndsAllowed leafEnv (writeFault 0) (some (⟨0x2000, 0⟩, 0x887)) ∧
      ¬ FastFaultRight leafEnv (writeFault 0) := by
  have hallowed : EndsAllowed leafEnv (writeFault 0) (some (⟨0x2000, 0⟩, 0x887)) := by
    refine ⟨⟨_, _, { rootPage with role := ⟨0x83⟩, spt := 0x2000 }, rfl, by decide, rfl, by decide⟩,
      _, _, rfl, by decide⟩
  exact ⟨by decide, leafEnv_walk, hallowed, fast_page_fault_not_spurious leafEnv_walk hallowed⟩

/-- At 1 GB there is no page, and the fast path is right. -/
theorem absent_write_invalid : FastFaultRight leafEnv (writeFault 0x40000000) := by
  have hwalk : last_sptep leafEnv (writeFault 0x40000000) 3 = some (some (⟨0x2000, 1⟩, 0)) := by
    decide +kernel
  refine (fast_page_fault_right_iff leafEnv (writeFault 0x40000000) (by decide)).mpr
    ⟨_, walkEnds_of hwalk, ?_, ?_⟩
  · intro sptep spte h hpresent
    obtain ⟨-, rfl⟩ := Prod.mk.inj (Option.some.inj h)
    cases hpresent
  · rintro ⟨⟨sptep, spte, sp, h, hpresent, -⟩, -⟩
    obtain ⟨-, rfl⟩ := Prod.mk.inj (Option.some.inj h)
    cases hpresent

end Svmx.PageFault
