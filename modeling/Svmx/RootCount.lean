/-
How the TDP roots are counted over whole runs.

A run is any sequence of guest entries, each of which loads the MMU of its vCPU, and of
`kvm_tdp_mmu_put_root` calls. Every guest entry takes a reference for the vCPU, also when the vCPU
is on a root already, and a put does not touch `root.hpa`; so the count of a root is one plus the
number of vCPUs on it only as long as no vCPU loads while it is on a live root and no reference but
the last one of a root is put. `roots_counted` is the invariant over all such runs, and
`second_entry_counts_twice` the run of two entries of one vCPU that breaks it.

The unlinked roots are kept in a log, one entry for each `RemoveEntryList`.
-/
import Mathlib.Data.Finset.Card
import Mathlib.Data.Fintype.Card
import Svmx.TdpRoot

set_option autoImplicit false

namespace Svmx.Tdp

open LoadStatus
open scoped List

/-! ## Runs -/

/-- A VM with `n` vCPUs. -/
structure RootsState (n : ℕ) where
  kvm : TdpKvm
  vcpu : Fin n → TdpVcpu

/-- `kvm_mmu_reload`. -/
def kvm_mmu_reload (mm : Mm) (host : TdpHost) (zapped : Option ℕ) (st : LoadState) :
    Option (LoadStatus × LoadState) :=
  kvm_mmu_load mm host zapped st

/-- `vcpu_enter_guest`: after the reload, whether it succeeds or not, nothing touches the roots. -/
def vcpu_enter_guest {n : ℕ} (mm : Mm) (host : TdpHost) (v : Fin n) (zapped : Option ℕ)
    (pool : List ℕ) (s : RootsState n) : Option (RootsState n) := do
  let (_, st) ← kvm_mmu_reload mm host zapped ⟨s.kvm, s.vcpu v, pool⟩
  some { kvm := st.kvm, vcpu := Function.update s.vcpu v st.vcpu }

/-- The steps of a run. An entry comes with what the kernel answers. -/
inductive RootStep (n : ℕ) where
  | enter (v : Fin n) (zapped : Option ℕ) (pool : List ℕ)
  | put (root : ℕ)

/-- One step: the new state and the roots it unlinked. -/
def rootStep {n : ℕ} (mm : Mm) (host : TdpHost) (s : RootsState n) :
    RootStep n → Option (RootsState n × List ℕ)
  | .enter v zapped pool => (vcpu_enter_guest mm host v zapped pool s).map fun s => (s, [])
  | .put root => (kvm_tdp_mmu_put_root s.kvm root).map fun (unlinked, kvm) =>
    ({ s with kvm := kvm }, if unlinked then [root] else [])

/-- What the pool gives is memory that is not in use, at addresses that translate. -/
def FreshStep {n : ℕ} (mm : Mm) (s : RootsState n) : RootStep n → Prop
  | .enter _ _ pool => (live pool).Nodup ∧ ∀ a ∈ live pool, s.kvm.pages a = none ∧
    Translates mm a ∧ ∀ w, a ∉ headers (s.vcpu w)
  | .put _ => True

/-- A VM whose vCPUs have just been created: no roots, empty caches. -/
def NewVm {n : ℕ} (s : RootsState n) : Prop :=
  s.kvm.tdp_mmu_roots = [] ∧ (∀ a, s.kvm.pages a = none) ∧
    ∀ v, (s.vcpu v).root_hpa = INVALID_PAGE ∧ headers (s.vcpu v) = []

/-- The runs whose steps all meet `ok`, with the log of the unlinked roots. -/
inductive RootRun {n : ℕ} (mm : Mm) (host : TdpHost) (ok : RootsState n → RootStep n → Prop) :
    RootsState n → List ℕ → Prop where
  | start (s : RootsState n) (h : NewVm s) : RootRun mm host ok s []
  | step (s s' : RootsState n) (log out : List ℕ) (a : RootStep n) (h : RootRun mm host ok s log)
      (hfresh : FreshStep mm s a) (hok : ok s a) (hstep : rootStep mm host s a = some (s', out)) :
      RootRun mm host ok s' (out ++ log)

/-- The vCPUs whose `root.hpa` refers to a root. -/
def refs {n : ℕ} (mm : Mm) (vcpu : Fin n → TdpVcpu) (a : ℕ) : ℕ :=
  (Finset.univ.filter fun v => (vcpu v).root_hpa = mm.phys a).card

/-- A live root counts one reference of its own and one for each vCPU on it; live roots have
different role words; and a root is unlinked once, when its count is zero, and not before. -/
structure RootsCounted {n : ℕ} (mm : Mm) (s : RootsState n) (log : List ℕ) : Prop where
  counted : ∀ a ∈ s.kvm.tdp_mmu_roots, ∃ page, s.kvm.pages a = some page ∧
    page.tdp_mmu_root_count.toNat = 1 + refs mm s.vcpu a
  roles : ∀ a ∈ s.kvm.tdp_mmu_roots, ∀ b ∈ s.kvm.tdp_mmu_roots, ∀ pa pb,
    s.kvm.pages a = some pa → s.kvm.pages b = some pb → pa.role.word = pb.role.word → a = b
  unlinked : ∀ a page, s.kvm.pages a = some page →
    log.count a = if page.tdp_mmu_root_count = 0 then 1 else 0
  linked : ∀ a page, s.kvm.pages a = some page →
    s.kvm.tdp_mmu_roots.count a = if page.tdp_mmu_root_count = 0 then 0 else 1

/-- The steps that keep the count: an entry of a vCPU that refers to no live root, or whose load
does not get as far as a root, and a put of the last reference of a live root. -/
def KeepsCount {n : ℕ} (mm : Mm) (host : TdpHost) (s : RootsState n) : RootStep n → Prop
  | .enter v zapped pool => ReachesRoot host zapped ⟨s.kvm, s.vcpu v, pool⟩ →
    ∀ a ∈ s.kvm.tdp_mmu_roots, (s.vcpu v).root_hpa ≠ mm.phys a
  | .put a => a ∈ s.kvm.tdp_mmu_roots ∧ ∃ page, s.kvm.pages a = some page ∧
    page.tdp_mmu_root_count = 1

/-! ## The invariant -/

/-- The page headers in the caches are unused and belong to one vCPU each. -/
structure HeadersOk {n : ℕ} (mm : Mm) (pages : ℕ → Option KvmMmuPage) (vcpu : Fin n → TdpVcpu) :
    Prop where
  nodup : ∀ v, (headers (vcpu v)).Nodup
  unused : ∀ v, ∀ a ∈ headers (vcpu v), pages a = none ∧ Translates mm a
  disjoint : ∀ v w, v ≠ w → ∀ a ∈ headers (vcpu v), a ∉ headers (vcpu w)

/-- What holds in every state of a run that keeps the count. -/
structure RootInv {n : ℕ} (mm : Mm) (s : RootsState n) (log : List ℕ) : Prop where
  counted : RootsCounted mm s log
  unseen : ∀ a, s.kvm.pages a = none → log.count a = 0 ∧ a ∉ s.kvm.tdp_mmu_roots
  translates : ∀ a page, s.kvm.pages a = some page → Translates mm a
  hpa : ∀ v, (s.vcpu v).root_hpa = INVALID_PAGE ∨
    ∃ a page, s.kvm.pages a = some page ∧ (s.vcpu v).root_hpa = mm.phys a
  caches : HeadersOk mm s.kvm.pages s.vcpu

variable {n : ℕ} {mm : Mm}

theorem phys_inj {a b : ℕ} (ha : Translates mm a) (hb : Translates mm b)
    (h : mm.phys a = mm.phys b) : a = b := by
  rw [← ha.1, h, hb.1]

/-- The memory that an entry can take headers from: no header twice, none in use, none in the cache
of another vCPU. -/
theorem owned_ok {s : RootsState n} (h : HeadersOk mm s.kvm.pages s.vcpu) (v : Fin n)
    (zapped : Option ℕ) (pool : List ℕ) (hfresh : FreshStep mm s (.enter v zapped pool)) :
    (owned ⟨s.kvm, s.vcpu v, pool⟩).Nodup ∧ ∀ a ∈ owned ⟨s.kvm, s.vcpu v, pool⟩,
      s.kvm.pages a = none ∧ Translates mm a ∧ ∀ w, w ≠ v → a ∉ headers (s.vcpu w) := by
  obtain ⟨hnd, hpool⟩ := hfresh
  refine ⟨?_, ?_⟩
  · refine List.nodup_append.2 ⟨h.nodup v, hnd, ?_⟩
    rintro a ha b hb rfl
    exact (hpool a hb).2.2 v ha
  · intro a ha
    rcases List.mem_append.1 ha with ha | ha
    · exact ⟨(h.unused v a ha).1, (h.unused v a ha).2, fun w hw => h.disjoint v w hw.symm a ha⟩
    · exact ⟨(hpool a ha).1, (hpool a ha).2.1, fun w _ => (hpool a ha).2.2 w⟩

/-- The caches after an entry: what is left of the memory it could take headers from, when the new
pages are not among them. -/
theorem headers_after {s : RootsState n} (h : HeadersOk mm s.kvm.pages s.vcpu) {v : Fin n}
    {own : List ℕ} (hnd : own.Nodup)
    (hown : ∀ a ∈ own, s.kvm.pages a = none ∧ Translates mm a ∧
      ∀ w, w ≠ v → a ∉ headers (s.vcpu w))
    {vcpu : TdpVcpu} (hsub : headers vcpu <+~ own) {pages : ℕ → Option KvmMmuPage}
    (hpages : ∀ a, s.kvm.pages a = none → (a ∈ headers vcpu ∨ ∃ w, w ≠ v ∧ a ∈ headers (s.vcpu w)) →
      pages a = none) :
    HeadersOk mm pages (Function.update s.vcpu v vcpu) := by
  have hmem : ∀ a ∈ headers vcpu, a ∈ own := fun a ha => hsub.subset ha
  refine ⟨?_, ?_, ?_⟩
  · intro w
    by_cases hw : w = v
    · subst hw
      rw [Function.update_self]
      obtain ⟨l, hl, hlsub⟩ := hsub
      exact hl.nodup_iff.1 (hlsub.nodup hnd)
    · rw [Function.update_of_ne hw]
      exact h.nodup w
  · intro w a ha
    by_cases hw : w = v
    · subst hw
      rw [Function.update_self] at ha
      obtain ⟨h1, h2, -⟩ := hown a (hmem a ha)
      exact ⟨hpages a h1 (Or.inl ha), h2⟩
    · rw [Function.update_of_ne hw] at ha
      obtain ⟨h1, h2⟩ := h.unused w a ha
      exact ⟨hpages a h1 (Or.inr ⟨w, hw, ha⟩), h2⟩
  · intro w w' hww a ha ha'
    by_cases hw : w = v
    · subst hw
      rw [Function.update_self] at ha
      rw [Function.update_of_ne hww.symm] at ha'
      exact (hown a (hmem a ha)).2.2 w' hww.symm ha'
    · rw [Function.update_of_ne hw] at ha
      by_cases hw' : w' = v
      · subst hw'
        rw [Function.update_self] at ha'
        exact (hown a (hmem a ha')).2.2 w hw ha
      · rw [Function.update_of_ne hw'] at ha'
        exact h.disjoint w w' hww a ha ha'

/-! ## References -/

theorem refs_update_same (vcpu : Fin n → TdpVcpu) (v : Fin n) (x : TdpVcpu) (a : ℕ)
    (h : x.root_hpa = mm.phys a ↔ (vcpu v).root_hpa = mm.phys a) :
    refs mm (Function.update vcpu v x) a = refs mm vcpu a := by
  rw [refs, refs]
  congr 1
  refine Finset.filter_congr fun w _ => ?_
  by_cases hw : w = v
  · subst hw
    rw [Function.update_self]
    exact h
  · rw [Function.update_of_ne hw]

theorem refs_update_add (vcpu : Fin n → TdpVcpu) (v : Fin n) (x : TdpVcpu) (a : ℕ)
    (hold : (vcpu v).root_hpa ≠ mm.phys a) (hnew : x.root_hpa = mm.phys a) :
    refs mm (Function.update vcpu v x) a = 1 + refs mm vcpu a := by
  have hset : (Finset.univ.filter fun w => (Function.update vcpu v x w).root_hpa = mm.phys a) =
      insert v (Finset.univ.filter fun w => (vcpu w).root_hpa = mm.phys a) := by
    ext w
    simp only [Finset.mem_filter, Finset.mem_univ, true_and, Finset.mem_insert]
    by_cases hw : w = v
    · subst hw
      simp [hnew]
    · simp [hw]
  rw [refs, refs, hset, Finset.card_insert_of_notMem (by simpa using hold), Nat.add_comm]

theorem refs_le (vcpu : Fin n → TdpVcpu) (a : ℕ) : refs mm vcpu a ≤ n := by
  have h := Finset.card_filter_le (Finset.univ : Finset (Fin n))
    (fun v => (vcpu v).root_hpa = mm.phys a)
  rw [Finset.card_univ, Fintype.card_fin] at h
  exact h

/-! ## The steps -/

/-- An entry that leaves the roots alone. -/
theorem RootInv.kept {s : RootsState n} {log : List ℕ} (h : RootInv mm s log) {v : Fin n}
    {zapped : Option ℕ} {pool : List ℕ} (hfresh : FreshStep mm s (.enter v zapped pool))
    {st : LoadState} (hk : Kept ⟨s.kvm, s.vcpu v, pool⟩ st) :
    RootInv mm { kvm := st.kvm, vcpu := Function.update s.vcpu v st.vcpu } log := by
  obtain ⟨hroots, hpages, hrole, hhpa, howned⟩ := hk
  obtain ⟨hnd, hown⟩ := owned_ok h.caches v zapped pool hfresh
  have hrefs : ∀ a, refs mm (Function.update s.vcpu v st.vcpu) a = refs mm s.vcpu a := by
    intro a
    refine refs_update_same s.vcpu v st.vcpu a ?_
    rw [hhpa]
  have hsub : headers st.vcpu <+~ owned ⟨s.kvm, s.vcpu v, pool⟩ :=
    (List.sublist_append_left _ _).subperm.trans howned
  refine ⟨⟨?_, ?_, ?_, ?_⟩, ?_, ?_, ?_, ?_⟩
  · intro a ha
    simp only [hroots] at ha
    simp only [hpages, hrefs]
    exact h.counted.counted a ha
  · simp only [hroots, hpages]
    exact h.counted.roles
  · simp only [hpages]
    exact h.counted.unlinked
  · simp only [hroots, hpages]
    exact h.counted.linked
  · simp only [hroots, hpages]
    exact h.unseen
  · simp only [hpages]
    exact h.translates
  · intro w
    simp only [hpages]
    by_cases hw : w = v
    · subst hw
      rw [Function.update_self, hhpa]
      exact h.hpa w
    · rw [Function.update_of_ne hw]
      exact h.hpa w
  · simp only [hpages]
    exact headers_after h.caches hnd hown hsub fun a ha _ => ha

/-- A vCPU that turns to the root `a`, from no root of the list, leaves the references on the others. -/
theorem RootInv.refs_other {s : RootsState n} {log : List ℕ} (h : RootInv mm s log) {v : Fin n}
    {x : TdpVcpu} {a b : ℕ} {page : KvmMmuPage} (hta : Translates mm a) (hx : x.root_hpa = mm.phys a)
    (hpage : s.kvm.pages b = some page) (hok : (s.vcpu v).root_hpa ≠ mm.phys b) (hba : b ≠ a) :
    refs mm (Function.update s.vcpu v x) b = refs mm s.vcpu b := by
  refine refs_update_same s.vcpu v x b (iff_of_false ?_ hok)
  rw [hx]
  intro heq
  exact hba (phys_inj (h.translates b page hpage) hta heq.symm)

/-- Every vCPU has a page for its root when one of them has turned to a page and none is gone. -/
theorem RootInv.hpa_update {s : RootsState n} {log : List ℕ} (h : RootInv mm s log) (v : Fin n)
    {pages : ℕ → Option KvmMmuPage} {x : TdpVcpu} {a : ℕ} {page : KvmMmuPage}
    (hself : pages a = some page) (hx : x.root_hpa = mm.phys a)
    (hkept : ∀ b pb, s.kvm.pages b = some pb → ∃ pb', pages b = some pb') (w : Fin n) :
    (Function.update s.vcpu v x w).root_hpa = INVALID_PAGE ∨ ∃ b pb, pages b = some pb ∧
      (Function.update s.vcpu v x w).root_hpa = mm.phys b := by
  by_cases hw : w = v
  · subst hw
    rw [Function.update_self]
    exact Or.inr ⟨a, page, hself, hx⟩
  · rw [Function.update_of_ne hw]
    rcases h.hpa w with hi | ⟨b, pb, hb, hbh⟩
    · exact Or.inl hi
    · obtain ⟨pb', hb'⟩ := hkept b pb hb
      exact Or.inr ⟨b, pb', hb', hbh⟩

/-- An entry that takes a reference on a root. -/
theorem RootInv.found (hn : n < 2 ^ 31) {s s' : RootsState n} {log : List ℕ} (h : RootInv mm s log)
    {v : Fin n} (hok : ∀ b ∈ s.kvm.tdp_mmu_roots, (s.vcpu v).root_hpa ≠ mm.phys b) {a : ℕ}
    {root : KvmMmuPage} {x : TdpVcpu} (ha : a ∈ s.kvm.tdp_mmu_roots)
    (hpage : s.kvm.pages a = some root) (hroots : s'.kvm.tdp_mmu_roots = s.kvm.tdp_mmu_roots)
    (hpages : s'.kvm.pages = Function.update s.kvm.pages a
      (some { root with tdp_mmu_root_count := root.tdp_mmu_root_count + 1 }))
    (hvcpu : s'.vcpu = Function.update s.vcpu v x) (hx : x.root_hpa = mm.phys a)
    (hheaders : HeadersOk mm s'.kvm.pages s'.vcpu) : RootInv mm s' log := by
  have hta := h.translates a root hpage
  obtain ⟨root', hroot', hcount⟩ := h.counted.counted a ha
  obtain rfl : root = root' := Option.some.inj (hpage.symm.trans hroot')
  have hle : refs mm s.vcpu a ≤ n := refs_le s.vcpu a
  have hsucc : (root.tdp_mmu_root_count + 1).toNat = 2 + refs mm s.vcpu a := by
    rw [BitVec.toNat_add]
    have hone : (1 : BitVec 32).toNat = 1 := rfl
    omega
  have hne : root.tdp_mmu_root_count ≠ 0 := by
    intro h0
    rw [h0] at hcount
    simp at hcount
    omega
  have hne' : root.tdp_mmu_root_count + 1 ≠ 0 := by
    intro h0
    rw [h0] at hsucc
    simp at hsucc
    omega
  -- the new pages: a page with the old role, and a count that is zero only if it was
  have hold : ∀ b page, s'.kvm.pages b = some page → ∃ page0, s.kvm.pages b = some page0 ∧
      page.role = page0.role ∧ (page.tdp_mmu_root_count = 0 ↔ page0.tdp_mmu_root_count = 0) := by
    intro b page hb
    rw [hpages] at hb
    by_cases hba : b = a
    · subst hba
      rw [Function.update_self] at hb
      obtain rfl := Option.some.inj hb
      exact ⟨root, hpage, rfl, iff_of_false hne' hne⟩
    · rw [Function.update_of_ne hba] at hb
      exact ⟨page, hb, rfl, Iff.rfl⟩
  refine ⟨⟨?_, ?_, ?_, ?_⟩, ?_, ?_, ?_, hheaders⟩
  · intro b hb
    rw [hroots] at hb
    rw [hpages, hvcpu]
    by_cases hba : b = a
    · subst hba
      refine ⟨_, Function.update_self .., ?_⟩
      rw [refs_update_add s.vcpu v x b (hok b hb) hx]
      change (root.tdp_mmu_root_count + 1).toNat = _
      omega
    · obtain ⟨page, hp, hc⟩ := h.counted.counted b hb
      exact ⟨page, by rw [Function.update_of_ne hba, hp],
        by rw [hc, h.refs_other hta hx hp (hok b hb) hba]⟩
  · intro b hb c hc pb pc hpb hpc hword
    rw [hroots] at hb hc
    obtain ⟨pb0, hpb0, hrb, -⟩ := hold b pb hpb
    obtain ⟨pc0, hpc0, hrc, -⟩ := hold c pc hpc
    rw [hrb, hrc] at hword
    exact h.counted.roles b hb c hc pb0 pc0 hpb0 hpc0 hword
  · intro b page hb
    obtain ⟨page0, hp0, -, hz⟩ := hold b page hb
    rw [h.counted.unlinked b page0 hp0]
    simp only [hz]
  · intro b page hb
    obtain ⟨page0, hp0, -, hz⟩ := hold b page hb
    rw [hroots, h.counted.linked b page0 hp0]
    simp only [hz]
  · intro b hb
    rw [hroots]
    refine h.unseen b ?_
    rw [hpages] at hb
    by_cases hba : b = a
    · subst hba
      simp at hb
    · rwa [Function.update_of_ne hba] at hb
  · intro b page hb
    obtain ⟨page0, hp0, -, -⟩ := hold b page hb
    exact h.translates b page0 hp0
  · rw [hvcpu]
    have hself : s'.kvm.pages a
        = some { root with tdp_mmu_root_count := root.tdp_mmu_root_count + 1 } := by
      rw [hpages, Function.update_self]
    refine h.hpa_update v hself hx fun b page hb => ?_
    rw [hpages]
    by_cases hba : b = a
    · subst hba
      exact ⟨_, Function.update_self ..⟩
    · exact ⟨page, by rw [Function.update_of_ne hba, hb]⟩

/-- An entry that makes a root. -/
theorem RootInv.made {s s' : RootsState n} {log : List ℕ} (h : RootInv mm s log)
    {v : Fin n} (hok : ∀ b ∈ s.kvm.tdp_mmu_roots, (s.vcpu v).root_hpa ≠ mm.phys b) {a : ℕ}
    {page : KvmMmuPage} {x : TdpVcpu} (hnone : s.kvm.pages a = none) (hta : Translates mm a)
    (hcount : page.tdp_mmu_root_count = 2)
    (hroots : s'.kvm.tdp_mmu_roots = a :: s.kvm.tdp_mmu_roots)
    (hpages : s'.kvm.pages = Function.update s.kvm.pages a (some page))
    (hvcpu : s'.vcpu = Function.update s.vcpu v x) (hx : x.root_hpa = mm.phys a)
    (hall : ∀ b ∈ s.kvm.tdp_mmu_roots, ∃ root, s.kvm.pages b = some root ∧
      (root.role.word = page.role.word → root.tdp_mmu_root_count = 0))
    (hheaders : HeadersOk mm s'.kvm.pages s'.vcpu) : RootInv mm s' log := by
  obtain ⟨hlog, hnotin⟩ := h.unseen a hnone
  -- no vCPU refers to the new root yet
  have hnoref : ∀ w, (s.vcpu w).root_hpa ≠ mm.phys a := by
    intro w hw
    rcases h.hpa w with hi | ⟨b, pb, hb, hbh⟩
    · exact hta.ne_invalid (hw.symm.trans hi)
    · have hab := phys_inj hta (h.translates b pb hb) (hw.symm.trans hbh)
      rw [hab, hb] at hnone
      exact absurd hnone (by simp)
  have hrefs0 : refs mm s.vcpu a = 0 := by
    rw [refs, Finset.card_eq_zero, Finset.filter_eq_empty_iff]
    exact fun w _ => hnoref w
  -- no root of the role is live
  have hrole : ∀ b ∈ s.kvm.tdp_mmu_roots, ∀ pb, s.kvm.pages b = some pb →
      pb.role.word ≠ page.role.word := by
    intro b hb pb hpb hword
    obtain ⟨root, hroot, hzero⟩ := hall b hb
    obtain rfl : pb = root := Option.some.inj (hpb.symm.trans hroot)
    obtain ⟨pb', hpb', hc⟩ := h.counted.counted b hb
    obtain rfl : pb = pb' := Option.some.inj (hpb.symm.trans hpb')
    rw [hzero hword] at hc
    simp at hc
    omega
  have hold : ∀ b pb, b ≠ a → (s'.kvm.pages b = some pb ↔ s.kvm.pages b = some pb) := by
    intro b pb hba
    rw [hpages, Function.update_of_ne hba]
  have hself : s'.kvm.pages a = some page := by
    rw [hpages, Function.update_self]
  have hmem : ∀ b, b ∈ s'.kvm.tdp_mmu_roots → b ≠ a → b ∈ s.kvm.tdp_mmu_roots := by
    intro b hb hba
    rw [hroots] at hb
    exact (List.mem_cons.1 hb).resolve_left hba
  refine ⟨⟨?_, ?_, ?_, ?_⟩, ?_, ?_, ?_, hheaders⟩
  · intro b hb
    rw [hvcpu]
    by_cases hba : b = a
    · subst hba
      refine ⟨page, hself, ?_⟩
      rw [refs_update_add s.vcpu v x b (hnoref v) hx, hrefs0, hcount]
      rfl
    · have hbr := hmem b hb hba
      obtain ⟨pb, hpb, hc⟩ := h.counted.counted b hbr
      exact ⟨pb, (hold b pb hba).2 hpb, by rw [hc, h.refs_other hta hx hpb (hok b hbr) hba]⟩
  · intro b hb c hc pb pc hpb hpc hword
    by_cases hba : b = a
    · by_cases hca : c = a
      · rw [hba, hca]
      · exfalso
        subst hba
        obtain rfl : page = pb := Option.some.inj (hself.symm.trans hpb)
        exact hrole c (hmem c hc hca) pc ((hold c pc hca).1 hpc) hword.symm
    · by_cases hca : c = a
      · exfalso
        subst hca
        obtain rfl : page = pc := Option.some.inj (hself.symm.trans hpc)
        exact hrole b (hmem b hb hba) pb ((hold b pb hba).1 hpb) hword
      · exact h.counted.roles b (hmem b hb hba) c (hmem c hc hca) pb pc ((hold b pb hba).1 hpb)
          ((hold c pc hca).1 hpc) hword
  · intro b pb hpb
    by_cases hba : b = a
    · subst hba
      obtain rfl : page = pb := Option.some.inj (hself.symm.trans hpb)
      rw [hlog, hcount]
      rfl
    · exact h.counted.unlinked b pb ((hold b pb hba).1 hpb)
  · intro b pb hpb
    rw [hroots]
    by_cases hba : b = a
    · subst hba
      obtain rfl : page = pb := Option.some.inj (hself.symm.trans hpb)
      rw [List.count_cons_self, List.count_eq_zero_of_not_mem hnotin, hcount]
      rfl
    · rw [List.count_cons_of_ne (Ne.symm hba)]
      exact h.counted.linked b pb ((hold b pb hba).1 hpb)
  · intro b hb
    have hba : b ≠ a := by
      rintro rfl
      rw [hself] at hb
      exact absurd hb (by simp)
    rw [hpages, Function.update_of_ne hba] at hb
    obtain ⟨h1, h2⟩ := h.unseen b hb
    refine ⟨h1, ?_⟩
    rw [hroots]
    exact List.not_mem_cons_of_ne_of_not_mem hba h2
  · intro b pb hpb
    by_cases hba : b = a
    · subst hba
      exact hta
    · exact h.translates b pb ((hold b pb hba).1 hpb)
  · rw [hvcpu]
    refine h.hpa_update v hself hx fun b pb hb => ⟨pb, (hold b pb ?_).2 hb⟩
    rintro rfl
    rw [hnone] at hb
    cases hb

/-- **A guest entry** that keeps the count keeps the invariant. -/
theorem RootInv.enter (hn : n < 2 ^ 31) {host : TdpHost} {s s' : RootsState n} {log : List ℕ}
    (h : RootInv mm s log) {v : Fin n} {zapped : Option ℕ} {pool : List ℕ}
    (hfresh : FreshStep mm s (.enter v zapped pool))
    (hok : KeepsCount mm host s (.enter v zapped pool))
    (hstep : vcpu_enter_guest mm host v zapped pool s = some s') : RootInv mm s' log := by
  rw [vcpu_enter_guest] at hstep
  obtain ⟨⟨r, st⟩, hload, hstep⟩ := Option.bind_eq_some_iff.1 hstep
  obtain rfl := Option.some.inj hstep
  obtain ⟨hnd, hown⟩ := owned_ok h.caches v zapped pool hfresh
  rcases kvm_mmu_load_spec mm host zapped _ st r hload with
    ⟨hk, -⟩ | ⟨hreach, st1, st2, hpa, hk, hget, rfl⟩
  · exact h.kept hfresh hk
  · obtain ⟨hroots1, hpages1, hrole1, -, howned1⟩ := hk
    have hx : (kvm_mmu_load_pgd host { st2.vcpu with root_hpa := hpa }).root_hpa = hpa ∧
        headers (kvm_mmu_load_pgd host { st2.vcpu with root_hpa := hpa }) = headers st2.vcpu := by
      rw [kvm_mmu_load_pgd, vmx_load_mmu_pgd]
      split
      · exact ⟨rfl, rfl⟩
      · split <;> exact ⟨rfl, rfl⟩
    rcases kvm_tdp_mmu_get_vcpu_root_hpa_spec mm st1 st2 hpa hget with
      ⟨a, root, rfl, ha, hpage, -, -, hroots, hpages, -, howned⟩ |
      ⟨a, page, rfl, hne, hprole, hcount, hroots, hpages, -, howned, hall⟩
    · rw [hroots1] at ha hroots
      rw [hpages1] at hpage hpages
      refine h.found hn (hok hreach) ha hpage hroots hpages rfl hx.1 ?_
      have hsub : headers (kvm_mmu_load_pgd host { st2.vcpu with root_hpa := mm.phys a }) <+~
          owned ⟨s.kvm, s.vcpu v, pool⟩ := by
        rw [hx.2]
        refine List.Subperm.trans ?_ howned1
        rw [← howned]
        exact (List.sublist_append_left _ _).subperm
      refine headers_after h.caches hnd hown hsub fun b hb _ => ?_
      have hba : b ≠ a := by
        rintro rfl
        rw [hpage] at hb
        exact absurd hb (by simp)
      simp only [hpages, Function.update_of_ne hba]
      exact hb
    · rw [hroots1] at hroots hall
      rw [hpages1] at hpages hall
      rw [hrole1] at hprole hall
      have htake := howned.trans howned1
      have hmem : a ∈ owned ⟨s.kvm, s.vcpu v, pool⟩ := htake.subset (List.mem_cons_self ..)
      obtain ⟨hnone, hta, hothers⟩ := hown a hmem
      -- the header taken is not left in the cache
      have hnd' : (a :: owned st2).Nodup := by
        obtain ⟨l, hl, hlsub⟩ := htake
        exact hl.nodup_iff.1 (hlsub.nodup hnd)
      have hnotin : a ∉ headers st2.vcpu := fun hin =>
        (List.nodup_cons.1 hnd').1 (List.mem_append_left _ hin)
      have hsub : headers (kvm_mmu_load_pgd host { st2.vcpu with root_hpa := mm.phys a }) <+~
          owned ⟨s.kvm, s.vcpu v, pool⟩ := by
        rw [hx.2]
        refine List.Subperm.trans ?_ htake
        exact ((List.sublist_append_left _ _).trans (List.sublist_cons_self ..)).subperm
      refine h.made (hok hreach) hnone hta hcount hroots hpages rfl hx.1 (by rw [hprole]; exact hall) ?_
      refine headers_after h.caches hnd hown hsub ?_
      rintro b hb (hbin | ⟨w, hw, hbin⟩)
      · have hba : b ≠ a := by
          rintro rfl
          rw [hx.2] at hbin
          exact hnotin hbin
        simp only [hpages, Function.update_of_ne hba]
        exact hb
      · have hba : b ≠ a := by
          rintro rfl
          exact hothers w hw hbin
        simp only [hpages, Function.update_of_ne hba]
        exact hb

/-- A root with one reference is in the list once: without it the list holds other roots. -/
theorem RootsCounted.mem_erase {s : RootsState n} {log : List ℕ} (h : RootsCounted mm s log) {a b : ℕ}
    {page : KvmMmuPage} (hpage : s.kvm.pages a = some page) (hcount : page.tdp_mmu_root_count = 1)
    (hb : b ∈ s.kvm.tdp_mmu_roots.erase a) : b ≠ a ∧ b ∈ s.kvm.tdp_mmu_roots := by
  have hlinked := h.linked a page hpage
  rw [hcount, if_neg (by decide)] at hlinked
  refine ⟨?_, List.mem_of_mem_erase hb⟩
  rintro rfl
  have hpos := List.count_pos_iff.2 hb
  rw [List.count_erase_self, hlinked] at hpos
  omega

/-- A put of the last reference moves the root from the list to the log. -/
theorem RootsCounted.put {s s' : RootsState n} {log : List ℕ} (h : RootsCounted mm s log) {a : ℕ}
    {page : KvmMmuPage} (hpage : s.kvm.pages a = some page) (hcount : page.tdp_mmu_root_count = 1)
    (hroots : s'.kvm.tdp_mmu_roots = s.kvm.tdp_mmu_roots.erase a)
    (hself : s'.kvm.pages a = some { page with tdp_mmu_root_count := 0 })
    (hold : ∀ b, b ≠ a → s'.kvm.pages b = s.kvm.pages b) (hvcpu : s'.vcpu = s.vcpu) :
    RootsCounted mm s' (a :: log) := by
  have hlog := h.unlinked a page hpage
  have hlinked := h.linked a page hpage
  rw [hcount, if_neg (by decide)] at hlog hlinked
  refine ⟨?_, ?_, ?_, ?_⟩
  · intro b hb
    rw [hroots] at hb
    obtain ⟨hba, hbr⟩ := h.mem_erase hpage hcount hb
    rw [hold b hba, hvcpu]
    exact h.counted b hbr
  · intro b hb c hc pb pc hpb hpc hword
    rw [hroots] at hb hc
    obtain ⟨hba, hbr⟩ := h.mem_erase hpage hcount hb
    obtain ⟨hca, hcr⟩ := h.mem_erase hpage hcount hc
    rw [hold b hba] at hpb
    rw [hold c hca] at hpc
    exact h.roles b hbr c hcr pb pc hpb hpc hword
  · intro b pb hpb
    by_cases hba : b = a
    · subst hba
      obtain rfl := Option.some.inj (hself.symm.trans hpb)
      rw [List.count_cons_self, hlog, if_pos rfl]
    · rw [hold b hba] at hpb
      rw [List.count_cons_of_ne (Ne.symm hba)]
      exact h.unlinked b pb hpb
  · intro b pb hpb
    rw [hroots]
    by_cases hba : b = a
    · subst hba
      obtain rfl := Option.some.inj (hself.symm.trans hpb)
      rw [List.count_erase_self, hlinked, if_pos rfl]
    · rw [hold b hba] at hpb
      rw [List.count_erase_of_ne hba]
      exact h.linked b pb hpb

/-- **A put** of the last reference of a live root unlinks it and keeps the invariant. -/
theorem RootInv.put {s s' : RootsState n} {log : List ℕ} (h : RootInv mm s log) {a : ℕ}
    {page : KvmMmuPage} (hpage : s.kvm.pages a = some page) (hcount : page.tdp_mmu_root_count = 1)
    (hroots : s'.kvm.tdp_mmu_roots = s.kvm.tdp_mmu_roots.erase a)
    (hpages : s'.kvm.pages =
      Function.update s.kvm.pages a (some { page with tdp_mmu_root_count := 0 }))
    (hvcpu : s'.vcpu = s.vcpu) : RootInv mm s' (a :: log) := by
  have hself : s'.kvm.pages a = some { page with tdp_mmu_root_count := 0 } := by
    rw [hpages, Function.update_self]
  have hold : ∀ b, b ≠ a → s'.kvm.pages b = s.kvm.pages b := by
    intro b hba
    rw [hpages, Function.update_of_ne hba]
  -- an address that holds no page, before or after, is not the one of the root
  have hne : ∀ b, s'.kvm.pages b = none ∨ s.kvm.pages b = none → b ≠ a := by
    rintro b hb rfl
    rw [hself, hpage] at hb
    simp at hb
  refine ⟨h.counted.put hpage hcount hroots hself hold hvcpu, ?_, ?_, ?_, ?_⟩
  · intro b hb
    have hba := hne b (Or.inl hb)
    rw [hold b hba] at hb
    obtain ⟨h1, h2⟩ := h.unseen b hb
    rw [List.count_cons_of_ne (Ne.symm hba), hroots]
    exact ⟨h1, fun hin => h2 (List.mem_of_mem_erase hin)⟩
  · intro b pb hpb
    by_cases hba : b = a
    · subst hba
      exact h.translates b page hpage
    · rw [hold b hba] at hpb
      exact h.translates b pb hpb
  · intro w
    rw [hvcpu]
    rcases h.hpa w with hi | ⟨b, pb, hb, hbh⟩
    · exact Or.inl hi
    · by_cases hba : b = a
      · subst hba
        exact Or.inr ⟨b, _, hself, hbh⟩
      · exact Or.inr ⟨b, pb, (hold b hba).trans hb, hbh⟩
  · rw [hvcpu]
    refine ⟨h.caches.nodup, ?_, h.caches.disjoint⟩
    intro w b hb
    obtain ⟨h1, h2⟩ := h.caches.unused w b hb
    exact ⟨(hold b (hne b (Or.inr h1))).trans h1, h2⟩

/-- The put of the last reference, as the code computes it. -/
theorem kvm_tdp_mmu_put_root_last (kvm : TdpKvm) (a : ℕ) (page : KvmMmuPage)
    (hpage : kvm.pages a = some page) (hcount : page.tdp_mmu_root_count = 1) :
    kvm_tdp_mmu_put_root kvm a = some (true, { kvm with
      pages := Function.update kvm.pages a (some { page with tdp_mmu_root_count := 0 })
      tdp_mmu_roots := kvm.tdp_mmu_roots.erase a }) := by
  simp [kvm_tdp_mmu_put_root, hpage, hcount]

theorem RootInv.start {s : RootsState n} (h : NewVm s) : RootInv mm s [] := by
  obtain ⟨hroots, hpages, hvcpu⟩ := h
  refine ⟨⟨?_, ?_, ?_, ?_⟩, ?_, ?_, ?_, ?_, ?_, ?_⟩
  · simp [hroots]
  · simp [hroots]
  · simp [hpages]
  · simp [hpages]
  · simp [hroots]
  · simp [hpages]
  · exact fun v => Or.inl (hvcpu v).1
  · intro v
    rw [(hvcpu v).2]
    exact List.nodup_nil
  · intro v a ha
    rw [(hvcpu v).2] at ha
    simp at ha
  · intro v w _ a ha
    rw [(hvcpu v).2] at ha
    simp at ha

/-- **Counting over runs.** In every state reached by guest entries and puts of any number of vCPUs
(`created_vcpus` is an `int`) whose steps keep the count, each live root counts one reference and one
for each vCPU on it, live roots have different role words, and a root is unlinked once, when its
count is zero. -/
theorem roots_counted {n : ℕ} (hn : n < 2 ^ 31) (mm : Mm) (host : TdpHost) (s : RootsState n)
    (log : List ℕ) (h : RootRun mm host (KeepsCount mm host) s log) : RootsCounted mm s log := by
  suffices hinv : RootInv mm s log from hinv.counted
  induction h with
  | start s h => exact RootInv.start h
  | step s s' log out a h hfresh hok hstep ih =>
    rcases a with ⟨v, zapped, pool⟩ | root
    · obtain ⟨s1, henter, hs1⟩ := Option.map_eq_some_iff.1 hstep
      obtain ⟨rfl, rfl⟩ := Prod.mk.inj hs1
      exact ih.enter hn hfresh hok henter
    · obtain ⟨-, page, hpage, hcount⟩ := hok
      rw [rootStep, kvm_tdp_mmu_put_root_last s.kvm root page hpage hcount] at hstep
      obtain ⟨rfl, rfl⟩ := Prod.mk.inj (Option.some.inj hstep)
      exact ih.put hpage hcount rfl rfl rfl

/-! ### One vCPU -/

/-- A VM with one new vCPU. -/
def oneVcpu : RootsState 1 where
  kvm := newKvm
  vcpu := fun _ => newVcpu none none none

/-- Pool answers: `k` pages from page `first` on. -/
def freshPages (first k : ℕ) : List ℕ := (List.range k).map fun i => (first + i) * 4096

/-- The state after the vCPU has entered once; the first load fills three caches. -/
def enteredOnce : RootsState 1 :=
  (vcpu_enter_guest flatMm eptHost 0 none (freshPages 1 123) oneVcpu).getD oneVcpu

/-- The state after it has entered twice; the second load needs no memory. -/
def enteredTwice : RootsState 1 :=
  (vcpu_enter_guest flatMm eptHost 0 none [] enteredOnce).getD enteredOnce

theorem oneVcpu_new : NewVm oneVcpu := ⟨rfl, fun _ => rfl, fun _ => ⟨rfl, rfl⟩⟩

theorem enteredOnce_step :
    rootStep flatMm eptHost oneVcpu (.enter 0 none (freshPages 1 123)) = some (enteredOnce, []) :=
  rfl

theorem enteredTwice_step :
    rootStep flatMm eptHost enteredOnce (.enter 0 none []) = some (enteredTwice, []) := rfl

theorem oneVcpu_fresh : FreshStep flatMm oneVcpu (.enter 0 none (freshPages 1 123)) := by
  have hnodup : (live (freshPages 1 123)).Nodup := by decide +kernel
  have htranslates : ∀ a ∈ live (freshPages 1 123),
      flatMm.virt (flatMm.phys a) = a ∧ flatMm.phys a &&& SPTE_BASE_ADDR_MASK = flatMm.phys a := by
    decide +kernel
  exact ⟨hnodup, fun a ha => ⟨rfl, htranslates a ha, fun _ => List.not_mem_nil⟩⟩

/-- After one entry the root is counted once for the vCPU. -/
theorem one_entry_counted : RootsCounted flatMm enteredOnce [] := by
  refine roots_counted (by decide) flatMm eptHost enteredOnce [] ?_
  refine RootRun.step oneVcpu enteredOnce [] [] (.enter 0 none (freshPages 1 123))
    (RootRun.start oneVcpu oneVcpu_new) oneVcpu_fresh ?_ enteredOnce_step
  intro _ a ha
  exact absurd ha List.not_mem_nil

/-- After two entries of the one vCPU the root at `0x7b000` counts three references. -/
theorem second_entry_counts_twice :
    RootRun flatMm eptHost (fun _ _ => True) enteredTwice [] ∧
      enteredTwice.kvm.tdp_mmu_roots = [0x7b000] ∧
      (enteredTwice.kvm.pages 0x7b000).map KvmMmuPage.tdp_mmu_root_count = some 3 ∧
      refs flatMm enteredTwice.vcpu 0x7b000 = 1 ∧ ¬ RootsCounted flatMm enteredTwice [] := by
  have hroots : enteredTwice.kvm.tdp_mmu_roots = [0x7b000] := by decide +kernel
  have hcount : (enteredTwice.kvm.pages 0x7b000).map KvmMmuPage.tdp_mmu_root_count = some 3 := by
    decide +kernel
  have hrefs : refs flatMm enteredTwice.vcpu 0x7b000 = 1 := by decide +kernel
  refine ⟨?_, hroots, hcount, hrefs, ?_⟩
  · refine RootRun.step enteredOnce enteredTwice [] [] (.enter 0 none []) ?_ ?_ trivial
      enteredTwice_step
    · exact RootRun.step oneVcpu enteredOnce [] [] (.enter 0 none (freshPages 1 123))
        (RootRun.start oneVcpu oneVcpu_new) oneVcpu_fresh trivial enteredOnce_step
    · exact ⟨List.nodup_nil, fun a ha => absurd ha List.not_mem_nil⟩
  · intro h
    obtain ⟨page, hpage, hc⟩ := h.counted 0x7b000 (by rw [hroots]; exact List.mem_singleton_self _)
    rw [hpage] at hcount
    rw [Option.some.inj hcount, hrefs] at hc
    exact absurd hc (by decide)

end Svmx.Tdp
