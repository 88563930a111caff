/-
From a page table back to its page header.

`sptep_to_sp` looks the address of an entry up in the global table `g_Table`; `spte_to_child_sp`
takes the page frame of an entry for the address of a header. A shadow page is entered in the table
under the hash of the address of its page table, a TDP page is not entered at all, and every
`kvm_mmu_create` empties the table. `back_pointers_iff` says what is left of the two over whole
runs: neither gives back the page of any page that was allocated.

The kernel's pool hands out addresses of the system half of the address space. `kvm_mmu_create` goes
on to allocate roots; these do not touch the table and are left out.
-/
import Svmx.TdpRoot
import Svmx.MpHash

set_option autoImplicit false

namespace Svmx.ShadowPage

open MpHash Tdp

/-! ## The code -/

/-- The pages, the table `g_Table` and the `spt_info` records, by the address of their bucket. -/
structure SpState where
  g_Table : HashTable
  mem : HashMem
  info_sp : ℕ → Option ℕ
  pages : ℕ → Option KvmMmuPage

/-- A block of `n` list cells from the pool. -/
def alloc_cells (m : HashMem) : ℕ → ℕ → HashMem
  | _, 0 => m
  | p, n + 1 => alloc_cells { m with next := Function.update m.next p (some 0) } (p + 8) n

/-- `kvm_mmu_create` up to the roots; `hash` is the address of `g_Table`. -/
def kvm_mmu_create (fuel hash pBuckets : ℕ) (s : SpState) : Option SpState := do
  let (table, mem) ← HashTableInitialize hash s.g_Table 0 0 0 s.mem
  if pBuckets = 0 then some { s with g_Table := table, mem := mem }
  else do
    let mem := alloc_cells mem pBuckets 512
    let (_, table, mem) ← HashTableChangeTable fuel hash table 512 pBuckets mem
    some { s with g_Table := table, mem := mem }

/-- What the caches and the pool give for a page. -/
structure PageBlocks where
  info : ℕ
  sp : ℕ
  spt : ℕ
  shadowed_translation : ℕ

/-- `kvm_mmu_alloc_shadow_page`; the bucket of an `spt_info` follows its first word. -/
def kvm_mmu_alloc_shadow_page (mmu_valid_gen gfn : ℕ) (role : KvmMmuPageRole) (b : PageBlocks)
    (s : SpState) : Option (ℕ × SpState) :=
  if b.info = 0 then some (0, s)
  else if b.sp = 0 then none
  else do
    let bucket := b.info + 8
    let mem : HashMem :=
      { next := Function.update s.mem.next bucket (some 0)
        hashValue := Function.update s.mem.hashValue bucket
          (some (HashUlongPtr (BitVec.ofNat 64 b.spt))) }
    let (_, table, mem) ← HashTableInsert s.g_Table bucket mem
    let page : KvmMmuPage :=
      { role := role, gfn := gfn, spt := b.spt,
        shadowed_translation := if role.direct then 0 else b.shadowed_translation,
        tdp_mmu_page := false, nx_huge_page_disallowed := false, mmu_valid_gen := mmu_valid_gen,
        tdp_mmu_root_count := 0 }
    some (b.sp,
      { g_Table := table
        mem := mem
        info_sp := Function.update s.info_sp bucket (some b.sp)
        pages := Function.update s.pages b.sp (some page) })

/-- `tdp_mmu_alloc_sp` and `tdp_mmu_init_sp`. -/
def tdp_mmu_alloc_sp (gfn : ℕ) (role : KvmMmuPageRole) (b : PageBlocks) (s : SpState) :
    Option (ℕ × SpState) :=
  if b.sp = 0 then none
  else
    let page : KvmMmuPage :=
      { role := role, gfn := gfn, spt := b.spt, shadowed_translation := 0, tdp_mmu_page := true,
        nx_huge_page_disallowed := false, mmu_valid_gen := 0, tdp_mmu_root_count := 0 }
    some (b.sp, { s with pages := Function.update s.pages b.sp (some page) })

/-- `sptep_to_sp`; `0` is `NULL`. -/
def sptep_to_sp (fuel : ℕ) (s : SpState) (sptep : ℕ) : Option ℕ := do
  let hash := HashUlongPtr (BitVec.ofNat 64 sptep)
  let pBucket ← HashTableFindNext fuel s.g_Table hash 0 s.mem
  if pBucket = 0 then some 0 else s.info_sp pBucket

/-- `spte_to_child_sp`. -/
def spte_to_child_sp (mm : Mm) (spte : BitVec 64) : ℕ :=
  to_shadow_page mm (spte &&& SPTE_BASE_ADDR_MASK)

/-- The steps of a run, with what the kernel answers. -/
inductive SpStep where
  | kvm_mmu_create (pBuckets : ℕ)
  | kvm_mmu_alloc_shadow_page (mmu_valid_gen gfn : ℕ) (role : KvmMmuPageRole) (b : PageBlocks)
  | tdp_mmu_alloc_sp (gfn : ℕ) (role : KvmMmuPageRole) (b : PageBlocks)

def spStep (fuel hash : ℕ) (s : SpState) : SpStep → Option SpState
  | .kvm_mmu_create pBuckets => kvm_mmu_create fuel hash pBuckets s
  | .kvm_mmu_alloc_shadow_page mmu_valid_gen gfn role b =>
    (kvm_mmu_alloc_shadow_page mmu_valid_gen gfn role b s).map Prod.snd
  | .tdp_mmu_alloc_sp gfn role b => (tdp_mmu_alloc_sp gfn role b s).map Prod.snd

/-! ## Runs -/

/-- The addresses that the pool hands out. -/
def SystemSpace (a : ℕ) : Prop := 0xFFFF800000000000 ≤ a ∧ a < 2 ^ 64

/-- Memory for a page that is not in use; the caches have been filled. -/
structure FreshBlocks (mm : Mm) (s : SpState) (b : PageBlocks) : Prop where
  sp_new : s.pages b.sp = none
  sp_ne_spt : b.sp ≠ b.spt
  spt_page : b.spt % 4096 = 0
  spt_system : SystemSpace b.spt
  spt_translates : Translates mm b.spt

/-- Memory for an `spt_info` that is not in use. -/
def FreshInfo (s : SpState) (info : ℕ) : Prop :=
  info ≠ 0 → SystemSpace (info + 8) ∧ (info + 8) % 2 = 0 ∧ s.mem.next (info + 8) = none

/-- What the kernel gives is memory that is not in use. -/
def FreshSp (mm : Mm) (s : SpState) : SpStep → Prop
  | .kvm_mmu_create pBuckets => pBuckets ≠ 0 → ∀ i < 512,
    SystemSpace (bucketAt pBuckets i) ∧ s.mem.next (bucketAt pBuckets i) = none
  | .kvm_mmu_alloc_shadow_page _ _ _ b => FreshBlocks mm s b ∧ FreshInfo s b.info
  | .tdp_mmu_alloc_sp _ _ b => FreshBlocks mm s b

/-- The driver before its first vCPU: `g_Table` is zero, nothing is allocated. -/
def noPages : SpState where
  g_Table := ⟨0, 0, 0⟩
  mem := ⟨fun _ => none, fun _ => none⟩
  info_sp _ := none
  pages _ := none

/-- The states that sequences of vCPU creations and page allocations reach. -/
inductive SpReach (mm : Mm) (hash : ℕ) : SpState → Prop where
  | start : SpReach mm hash noPages
  | step (s s' : SpState) (fuel : ℕ) (a : SpStep) (h : SpReach mm hash s) (hfresh : FreshSp mm s a)
      (hstep : spStep fuel hash s a = some s') : SpReach mm hash s'

/-- Every entry of every page table leads back to its header, and so does the entry that points to
the table. -/
def BackPointers (mm : Mm) (masks : SpteMasks) (s : SpState) : Prop :=
  ∀ sp page, s.pages sp = some page →
    (∀ i < 512, ∃ fuel, sptep_to_sp fuel s (page.spt + 8 * i) = some sp) ∧
    ∀ ad_disabled, spte_to_child_sp mm (make_nonleaf_spte mm masks page.spt ad_disabled) = sp

/-! ## The hash of an address -/

/-- A round of the hash is injective: 37 is odd. -/
theorem hash_round_inj (b x y : BitVec 64) (h : b + 37 * x = b + 37 * y) : x = y := by
  have hinv : (0x14c1bacf914c1bad : BitVec 64) * 37 = 1 := by decide
  have hmul : (37 : BitVec 64) * x = 37 * y := by
    simpa using h
  have hcancel : ∀ z : BitVec 64, 0x14c1bacf914c1bad * (37 * z) = z := by
    intro z
    rw [← BitVec.mul_assoc, hinv]
    exact BitVec.one_mul z
  rw [← hcancel x, hmul, hcancel y]

theorem hash_bytes_inj (l : List (BitVec 8)) (x y : BitVec 64)
    (h : HashBytesGeneric l x 37 = HashBytesGeneric l y 37) : x = y := by
  induction l generalizing x y with
  | nil => exact h
  | cons b l ih => exact hash_round_inj _ x y (ih _ _ h)

/-- The hash of the second entry of a page table is not the hash of its first. -/
theorem hash_second_entry (spt : ℕ) (hpage : spt % 4096 = 0) (hlt : spt < 2 ^ 64) :
    HashUlongPtr (BitVec.ofNat 64 (spt + 8)) ≠ HashUlongPtr (BitVec.ofNat 64 spt) := by
  -- the two addresses differ in the lowest byte only
  have hsplit : ∀ v : BitVec 64, HashUlongPtr v = HashBytesGeneric
      ((List.range 7).map fun i => (v >>> 8 >>> (8 * i)).truncate 8)
      ((v.truncate 8).zeroExtend 64 + 37 * 314159) 37 := by
    intro v
    have hbytes : bytes v = v.truncate 8 ::
        (List.range 7).map fun i => (v >>> 8 >>> (8 * i)).truncate 8 := by
      simp [bytes, List.range_succ, ← BitVec.shiftRight_add]
    rw [HashUlongPtr, HashBytes, HashBytesEx, hbytes]
    simp only [HashBytesGeneric, List.foldl_cons]
  have hhigh : BitVec.ofNat 64 (spt + 8) >>> 8 = BitVec.ofNat 64 spt >>> 8 := by
    apply BitVec.eq_of_toNat_eq
    have hlt' : spt + 8 < 2 ^ 64 := by omega
    rw [BitVec.toNat_ushiftRight, BitVec.toNat_ushiftRight, BitVec.toNat_ofNat, BitVec.toNat_ofNat,
      Nat.mod_eq_of_lt hlt, Nat.mod_eq_of_lt hlt', Nat.shiftRight_eq_div_pow,
      Nat.shiftRight_eq_div_pow]
    clear hlt hlt'
    omega
  have hlow : ∀ a : ℕ, ((BitVec.ofNat 64 a).truncate 8).zeroExtend 64 = BitVec.ofNat 64 (a % 256) := by
    intro a
    apply BitVec.eq_of_toNat_eq
    simp
  intro h
  rw [hsplit, hsplit, hhigh] at h
  have hacc := hash_bytes_inj _ _ _ h
  have heq := add_right_cancel hacc
  rw [hlow, hlow, show (spt + 8) % 256 = 8 by omega, show spt % 256 = 0 by omega] at heq
  exact absurd heq (by decide)

/-! ## The table over runs -/

/-- An entry of the table belongs to a page and holds the hash of its page table. -/
def Registered (s : SpState) (key : ℕ → BitVec 64) (e : ℕ) : Prop :=
  ∃ sp page, s.info_sp e = some sp ∧ s.pages sp = some page ∧
    key e = HashUlongPtr (BitVec.ofNat 64 page.spt)

/-- What holds in every state of a run. -/
structure SpInv (mm : Mm) (s : SpState) : Prop where
  system : ∀ a, (s.mem.next a).isSome = true → SystemSpace a
  pages : ∀ sp page, s.pages sp = some page → sp ≠ 0 ∧ sp ≠ page.spt ∧ page.spt % 4096 = 0 ∧
    page.spt < 2 ^ 64 ∧ Translates mm page.spt
  flags : s.g_Table.keyMask = BitVec.allOnes 64
  table : s.g_Table.count = 0 ∧ s.g_Table.Buckets = 0 ∨ ∃ key es,
    Holds s.g_Table s.mem key es ∧ ∀ e ∈ es, Registered s key e

theorem alloc_cells_spec (n : ℕ) (m : HashMem) (p : ℕ) :
    (alloc_cells m p n).hashValue = m.hashValue ∧
      (∀ i < n, ((alloc_cells m p n).next (p + 8 * i)).isSome = true) ∧
      ∀ a, (∀ i < n, a ≠ p + 8 * i) → (alloc_cells m p n).next a = m.next a := by
  induction n generalizing m p with
  | zero => exact ⟨rfl, by simp, fun _ _ => rfl⟩
  | succ n ih =>
    obtain ⟨hv, hcells, hothers⟩ :=
      ih { m with next := Function.update m.next p (some 0) } (p + 8)
    rw [alloc_cells]
    refine ⟨hv, ?_, ?_⟩
    · intro i hi
      rcases i with _ | i
      · rw [hothers _ (fun j _ => by omega)]
        simp
      · rw [show p + 8 * (i + 1) = p + 8 + 8 * i by ring]
        exact hcells i (by omega)
    · intro a ha
      rw [hothers a (fun i hi => by have := ha (i + 1) (by omega); omega)]
      exact Function.update_of_ne (ha 0 (by omega)) _ _

theorem zero_table : HashTable.count ⟨0, 0, 0⟩ = 0 ∧
    HashTable.keyMask ⟨0, 0, 0⟩ = BitVec.allOnes 64 := by decide

/-- **`kvm_mmu_create`** leaves a table without buckets when the pool has none, and else one with
512 empty buckets; it touches no other memory. -/
theorem kvm_mmu_create_spec (fuel hash pBuckets : ℕ) (s : SpState) :
    ∃ m', kvm_mmu_create fuel hash pBuckets s = some { s with
        g_Table := if pBuckets = 0 then ⟨0, 0, 0⟩ else ⟨0, 0x4000, pBuckets⟩
        mem := m' } ∧
      (pBuckets ≠ 0 → ∀ i < 512, m'.next (bucketAt pBuckets i) = some (lastLink hash)) ∧
      ∀ a, (pBuckets ≠ 0 → ∀ i < 512, a ≠ bucketAt pBuckets i) → m'.next a = s.mem.next a := by
  have hword : ((0 : BitVec 32) &&& (0x1F : BitVec 32)) |||
      ((0 ||| (s.g_Table.BucketCount &&& 0x1F)) &&& 0xFFFFFFE0) = 0 := by
    apply BitVec.eq_of_getLsbD_eq
    intro i hi
    interval_cases i <;> simp
  have hinit : HashTableInitialize hash s.g_Table 0 0 0 s.mem = some (⟨0, 0, 0⟩, s.mem) := by
    have hcount : clampCount (RoundToPowerOfTwo 0 false) = 0 := by decide
    have hshift : (0 : BitVec 32) <<< 5 = 0 := by decide
    simp only [HashTableInitialize, hcount, hshift, hword, ne_eq, not_true_eq_false, if_false,
      Option.bind_eq_bind, Option.bind_some]
  rw [kvm_mmu_create, hinit]
  simp only [Option.bind_eq_bind, Option.bind_some]
  by_cases hb : pBuckets = 0
  · rw [if_pos hb, if_pos hb]
    exact ⟨s.mem, rfl, fun h => absurd hb h, fun _ _ => rfl⟩
  · rw [if_neg hb, if_neg hb]
    obtain ⟨-, hcells, hothers⟩ := alloc_cells_spec 512 s.mem pBuckets
    obtain ⟨m', hbuckets, -, hlast, hrest, -⟩ := init_buckets_spec hash 512 hcells
    have hchange : HashTableChangeTable fuel hash ⟨0, 0, 0⟩ 512 pBuckets
        (alloc_cells s.mem pBuckets 512) = some (0, ⟨0, 0x4000, pBuckets⟩, m') := by
      have hcount : (clampCount (RoundToPowerOfTwo 512 false)).toNat = 512 := by decide
      have hcount' : clampCount (RoundToPowerOfTwo 512 false) = 512 := by decide
      rw [HashTableChangeTable, hcount, hbuckets, hcount']
      rfl
    refine ⟨m', by rw [hchange]; rfl, fun _ => hlast, ?_⟩
    intro a ha
    rw [hrest a (ha hb), hothers a (ha hb)]

/-- A table of 512 empty buckets. -/
theorem holds_empty {m : HashMem} {hash pBuckets : ℕ}
    (h : ∀ i < 512, m.next (bucketAt pBuckets i) = some (lastLink hash)) (key : ℕ → BitVec 64) :
    Holds ⟨0, 0x4000, pBuckets⟩ m key [] := by
  have hcount : ((0x4000 : BitVec 32) >>> 5) &&& 0x7FFFFFF ≠ 0 := by decide
  have hsize : (((0x4000 : BitVec 32) >>> 5) &&& 0x7FFFFFF).toNat = 512 := by decide
  refine ⟨hcount, rfl, List.nodup_nil, by simp, ?_⟩
  intro i hi
  exact ⟨lastLink hash, h i (lt_of_lt_of_eq hi hsize), lastLink_odd hash⟩

theorem SpInv.create {mm : Mm} {s s' : SpState} (h : SpInv mm s) {fuel hash pBuckets : ℕ}
    (hfresh : FreshSp mm s (.kvm_mmu_create pBuckets))
    (hstep : kvm_mmu_create fuel hash pBuckets s = some s') : SpInv mm s' := by
  obtain ⟨m', hcreate, hlast, hothers⟩ := kvm_mmu_create_spec fuel hash pBuckets s
  rw [hcreate] at hstep
  obtain rfl := Option.some.inj hstep
  have hsystem : ∀ a, (m'.next a).isSome = true → SystemSpace a := by
    intro a ha
    by_cases hin : pBuckets ≠ 0 ∧ ∃ i < 512, a = bucketAt pBuckets i
    · obtain ⟨hb, i, hi, rfl⟩ := hin
      exact (hfresh hb i hi).1
    · refine h.system a ?_
      rw [← hothers a (fun hb i hi hai => hin ⟨hb, i, hi, hai⟩)]
      exact ha
  by_cases hb : pBuckets = 0
  · simp only [if_pos hb]
    exact ⟨hsystem, h.pages, zero_table.2, Or.inl ⟨zero_table.1, rfl⟩⟩
  · simp only [if_neg hb]
    have hmask : BitVec.allOnes 64 <<< ((0x4000 : BitVec 32) &&& 0x1F).toNat =
        BitVec.allOnes 64 := by decide
    exact ⟨hsystem, h.pages, hmask,
      Or.inr ⟨fun _ => 0, [], holds_empty (hlast hb) _, fun e he => absurd he List.not_mem_nil⟩⟩

/-- **`kvm_mmu_alloc_shadow_page`** enters the page under the hash of its page table. -/
theorem kvm_mmu_alloc_shadow_page_spec {s : SpState} {key : ℕ → BitVec 64} {es : List ℕ}
    (hholds : Holds s.g_Table s.mem key es) {mmu_valid_gen gfn : ℕ} {role : KvmMmuPageRole}
    {b : PageBlocks} (hinfo : b.info ≠ 0) (hsp : b.sp ≠ 0) (heven : (b.info + 8) % 2 = 0)
    (hnone : s.mem.next (b.info + 8) = none) :
    b.info + 8 ∉ es ∧ ∃ (m' : HashMem) (page : KvmMmuPage),
      kvm_mmu_alloc_shadow_page mmu_valid_gen gfn role b s = some (b.sp,
        { g_Table := { s.g_Table with ItemCount := s.g_Table.ItemCount + 1 }
          mem := m'
          info_sp := Function.update s.info_sp (b.info + 8) (some b.sp)
          pages := Function.update s.pages b.sp (some page) }) ∧
      page.spt = b.spt ∧
      Holds { s.g_Table with ItemCount := s.g_Table.ItemCount + 1 } m'
        (Function.update key (b.info + 8) (HashUlongPtr (BitVec.ofNat 64 b.spt)))
        ((b.info + 8) :: es) ∧
      ∀ a, (m'.next a).isSome = true → a = b.info + 8 ∨ (s.mem.next a).isSome = true := by
  set bucket := b.info + 8 with hbucket
  set value := HashUlongPtr (BitVec.ofNat 64 b.spt) with hvalue
  set mem : HashMem := ⟨Function.update s.mem.next bucket (some 0),
    Function.update s.mem.hashValue bucket (some value)⟩ with hmem
  have hnext : ∀ a, a ≠ bucket → mem.next a = s.mem.next a := by
    intro a hab
    simp only [hmem, Function.update_of_ne hab]
  have hdiff : ∀ a, (s.mem.next a).isSome = true → a ≠ bucket := by
    rintro a ha rfl
    rw [hnone] at ha
    exact absurd ha (by simp)
  have hnotin : bucket ∉ es := fun hin => hdiff bucket (hholds.entries bucket hin).cell rfl
  -- writing the header of the entry disturbs no chain, as its cell is in none yet
  have hholds' : Holds s.g_Table mem (Function.update key bucket value) es := by
    refine hholds.congr (fun a ha => hnext a (hdiff a ha)) ?_ ?_
    · intro e he
      have hne : e ≠ bucket := fun heq : e = bucket => hnotin (heq ▸ he)
      simp only [hmem, Function.update_of_ne hne]
    · intro e he
      have hne : e ≠ bucket := fun heq : e = bucket => hnotin (heq ▸ he)
      exact Function.update_of_ne hne _ _
  have hentry : Entry s.g_Table mem (Function.update key bucket value) bucket := by
    refine ⟨by omega, heven, ?_, ?_, ?_⟩
    · simp only [hmem, Function.update_self, Option.isSome_some]
    · simp only [hmem, Function.update_self]
    · intro i hi heq
      exact hdiff _ (hholds.chains i hi).isSome heq.symm
  obtain ⟨m', hins, hfinal, -, hsome⟩ := HashTableInsert_spec hholds' hentry hnotin
  refine ⟨hnotin, m', ⟨role, gfn, b.spt, if role.direct then 0 else b.shadowed_translation, false,
    false, mmu_valid_gen, 0⟩, ?_, rfl, hfinal, fun a ha => ?_⟩
  · rw [kvm_mmu_alloc_shadow_page, if_neg hinfo, if_neg hsp]
    dsimp only
    rw [← hbucket, ← hvalue, ← hmem, hins]
    rfl
  · rw [hsome] at ha
    by_cases hab : a = bucket
    · exact Or.inl hab
    · rw [hnext a hab] at ha
      exact Or.inr ha

/-- The first entry of the page table of a page leads back to it, if the table held no page before. -/
theorem sptep_to_sp_first {s : SpState} {key : ℕ → BitVec 64} {mmu_valid_gen gfn : ℕ}
    {role : KvmMmuPageRole} {b : PageBlocks} (hholds : Holds s.g_Table s.mem key [])
    (hinfo : b.info ≠ 0) (hsp : b.sp ≠ 0) (heven : (b.info + 8) % 2 = 0)
    (hnone : s.mem.next (b.info + 8) = none) :
    ∃ s', kvm_mmu_alloc_shadow_page mmu_valid_gen gfn role b s = some (b.sp, s') ∧
      sptep_to_sp 2 s' b.spt = some b.sp ∧ s'.pages b.sp ≠ none := by
  obtain ⟨-, m', page, hsome, -, hfinal, -⟩ :=
    @kvm_mmu_alloc_shadow_page_spec s key [] hholds mmu_valid_gen gfn role b hinfo hsp heven hnone
  obtain ⟨e, he, hfind⟩ := @HashTableFindNext_found _ _ _ _ hfinal
    (HashUlongPtr (BitVec.ofNat 64 b.spt)) 2 _ (by decide : 1 < 2) List.mem_cons_self
    (by rw [Function.update_self])
  obtain rfl := List.mem_singleton.mp he
  refine ⟨_, hsome, ?_, ?_⟩
  · rw [sptep_to_sp]
    dsimp only
    rw [hfind, Option.bind_eq_bind, Option.bind_some, if_neg (by omega), Function.update_self]
  · dsimp only
    rw [Function.update_self]
    exact Option.some_ne_none _

/-- Without buckets the insert would write to the first pages of the address space, and faults. -/
theorem alloc_shadow_page_no_buckets {s : SpState}
    (hsystem : ∀ a, (s.mem.next a).isSome = true → SystemSpace a) (hnull : s.g_Table.Buckets = 0)
    {mmu_valid_gen gfn : ℕ} {role : KvmMmuPageRole} {b : PageBlocks} (hinfo : b.info ≠ 0)
    (hsp : b.sp ≠ 0) (hsys : SystemSpace (b.info + 8)) :
    kvm_mmu_alloc_shadow_page mmu_valid_gen gfn role b s = none := by
  by_contra hsome
  obtain ⟨res, hstep⟩ := Option.ne_none_iff_exists'.mp hsome
  rw [kvm_mmu_alloc_shadow_page, if_neg hinfo, if_neg hsp] at hstep
  obtain ⟨⟨count, table, mem'⟩, hins, -⟩ := Option.bind_eq_some_iff.1 hstep
  rw [HashTableInsert] at hins
  obtain ⟨v, -, hins⟩ := Option.bind_eq_some_iff.1 hins
  obtain ⟨m1, hpush, -⟩ := Option.bind_eq_some_iff.1 hins
  rw [PushEntryList] at hpush
  obtain ⟨first, hfirst, -⟩ := Option.bind_eq_some_iff.1 hpush
  have hlow : SystemSpace (bucketAt s.g_Table.Buckets
      (HashTableGetBucketIndex s.g_Table.count (s.g_Table.keyMask &&& v)).toNat) := by
    by_cases hab : bucketAt s.g_Table.Buckets
        (HashTableGetBucketIndex s.g_Table.count (s.g_Table.keyMask &&& v)).toNat = b.info + 8
    · rw [hab]
      exact hsys
    · dsimp only at hfirst
      rw [Function.update_of_ne hab] at hfirst
      exact hsystem _ (Option.isSome_iff_exists.2 ⟨first, hfirst⟩)
  rw [SystemSpace, hnull, bucketAt] at hlow
  have hlt := (HashTableGetBucketIndex s.g_Table.count (s.g_Table.keyMask &&& v)).isLt
  omega

/-- A new shadow page keeps the invariant. -/
theorem SpInv.shadow {mm : Mm} {s s' : SpState} (h : SpInv mm s) {mmu_valid_gen gfn sp : ℕ}
    {role : KvmMmuPageRole} {b : PageBlocks}
    (hfresh : FreshSp mm s (.kvm_mmu_alloc_shadow_page mmu_valid_gen gfn role b))
    (hstep : kvm_mmu_alloc_shadow_page mmu_valid_gen gfn role b s = some (sp, s')) :
    SpInv mm s' := by
  obtain ⟨hblocks, hinfo⟩ := hfresh
  by_cases h0 : b.info = 0
  · rw [kvm_mmu_alloc_shadow_page, if_pos h0] at hstep
    obtain ⟨-, rfl⟩ := Prod.mk.inj (Option.some.inj hstep)
    exact h
  by_cases hsp : b.sp = 0
  · rw [kvm_mmu_alloc_shadow_page, if_neg h0, if_pos hsp] at hstep
    exact absurd hstep (by simp)
  obtain ⟨hsys, heven, hnone⟩ := hinfo h0
  rcases h.table with ⟨-, hnull⟩ | ⟨key, es, hholds, hreg⟩
  · -- the buckets were never allocated: the insertion faults
    rw [alloc_shadow_page_no_buckets h.system hnull h0 hsp hsys] at hstep
    cases hstep
  · obtain ⟨hnotin, m', page, halloc, hspt, hfinal, hsome⟩ :=
      @kvm_mmu_alloc_shadow_page_spec s key es hholds mmu_valid_gen gfn role b h0 hsp heven hnone
    rw [halloc] at hstep
    obtain ⟨-, rfl⟩ := Prod.mk.inj (Option.some.inj hstep)
    have hnew : ∀ a page, s.pages a = some page → a ≠ b.sp := by
      rintro a page ha rfl
      rw [hblocks.sp_new] at ha
      exact absurd ha (by simp)
    refine ⟨?_, ?_, h.flags, Or.inr ⟨_, _, hfinal, ?_⟩⟩
    · intro a ha
      rcases hsome a ha with rfl | ha
      · exact hsys
      · exact h.system a ha
    · intro a page' ha
      by_cases hab : a = b.sp
      · subst hab
        simp only [Function.update_self, Option.some.injEq] at ha
        subst ha
        rw [hspt]
        exact ⟨hsp, hblocks.sp_ne_spt, hblocks.spt_page, hblocks.spt_system.2,
          hblocks.spt_translates⟩
      · simp only [Function.update_of_ne hab] at ha
        exact h.pages a page' ha
    · -- the new entry leads to the new page, and the others are where they were
      intro e he
      rcases List.mem_cons.1 he with rfl | he
      · refine ⟨b.sp, page, Function.update_self .., Function.update_self .., ?_⟩
        rw [Function.update_self, hspt]
      · have hne : e ≠ b.info + 8 := fun heq => hnotin (heq ▸ he)
        obtain ⟨a, page', hsp', hpage, hkey⟩ := hreg e he
        refine ⟨a, page', ?_, ?_, ?_⟩
        · simp only [Function.update_of_ne hne]
          exact hsp'
        · simp only [Function.update_of_ne (hnew a page' hpage)]
          exact hpage
        · rw [Function.update_of_ne hne]
          exact hkey

/-- **`tdp_mmu_alloc_sp`** does not touch the table. -/
theorem SpInv.tdp {mm : Mm} {s s' : SpState} (h : SpInv mm s) {gfn sp : ℕ} {role : KvmMmuPageRole}
    {b : PageBlocks} (hblocks : FreshBlocks mm s b)
    (hstep : tdp_mmu_alloc_sp gfn role b s = some (sp, s')) : SpInv mm s' := by
  rw [tdp_mmu_alloc_sp] at hstep
  by_cases hsp : b.sp = 0
  · rw [if_pos hsp] at hstep
    exact absurd hstep (by simp)
  rw [if_neg hsp] at hstep
  obtain ⟨-, rfl⟩ := Prod.mk.inj (Option.some.inj hstep)
  refine ⟨h.system, ?_, h.flags, ?_⟩
  · intro a page ha
    by_cases hab : a = b.sp
    · subst hab
      simp only [Function.update_self, Option.some.injEq] at ha
      subst ha
      exact ⟨hsp, hblocks.sp_ne_spt, hblocks.spt_page, hblocks.spt_system.2, hblocks.spt_translates⟩
    · simp only [Function.update_of_ne hab] at ha
      exact h.pages a page ha
  · rcases h.table with hnone | ⟨key, es, hholds, hreg⟩
    · exact Or.inl hnone
    · refine Or.inr ⟨key, es, hholds, ?_⟩
      intro e he
      obtain ⟨a, page, hsp', hpage, hkey⟩ := hreg e he
      have hab : a ≠ b.sp := by
        rintro rfl
        rw [hblocks.sp_new] at hpage
        exact absurd hpage (by simp)
      refine ⟨a, page, hsp', ?_, hkey⟩
      simp only [Function.update_of_ne hab]
      exact hpage

theorem SpReach.inv {mm : Mm} {hash : ℕ} {s : SpState} (h : SpReach mm hash s) : SpInv mm s := by
  induction h with
  | start =>
    exact ⟨by simp [noPages], by simp [noPages], zero_table.2, Or.inl ⟨zero_table.1, rfl⟩⟩
  | step s s' fuel a h hfresh hstep ih =>
    rcases a with pBuckets | ⟨gen, gfn, role, b⟩ | ⟨gfn, role, b⟩
    · exact ih.create hfresh hstep
    · obtain ⟨⟨sp, s1⟩, halloc, rfl⟩ := Option.map_eq_some_iff.1 hstep
      exact ih.shadow hfresh halloc
    · obtain ⟨⟨sp, s1⟩, halloc, rfl⟩ := Option.map_eq_some_iff.1 hstep
      exact ih.tdp hfresh halloc

/-! ## The two back pointers -/

/-- The second entry of a page table does not lead back to the header of its page. -/
theorem SpInv.sptep_second {mm : Mm} {s : SpState} (h : SpInv mm s) {sp : ℕ} {page : KvmMmuPage}
    (hpage : s.pages sp = some page) (fuel : ℕ) :
    sptep_to_sp fuel s (page.spt + 8) ≠ some sp := by
  obtain ⟨hsp, -, haligned, hlt, -⟩ := h.pages sp page hpage
  intro hret
  rw [sptep_to_sp] at hret
  obtain ⟨e, hfind, hret⟩ := Option.bind_eq_some_iff.1 hret
  rcases h.table with ⟨hcount, -⟩ | ⟨key, es, hholds, hreg⟩
  · rw [HashTableFindNext, if_neg (by simp), if_pos hcount] at hfind
    obtain rfl := Option.some.inj hfind
    exact hsp (Option.some.inj hret).symm
  · rcases HashTableFindNext_sound hholds hfind with rfl | ⟨he, hkey⟩
    · exact hsp (Option.some.inj hret).symm
    · rw [if_neg (hholds.entries e he).ne_null] at hret
      -- the entry found was made for the same page, under another hash
      obtain ⟨sp', page', hinfo, hpage', hkey'⟩ := hreg e he
      obtain rfl : sp = sp' := Option.some.inj (hret.symm.trans hinfo)
      obtain rfl : page = page' := Option.some.inj (hpage.symm.trans hpage')
      rw [h.flags, BitVec.allOnes_and, BitVec.allOnes_and, hkey'] at hkey
      exact hash_second_entry page.spt haligned hlt hkey

/-- Where the masks have no bits, the entry that points to a page table has those of the address. -/
theorem make_nonleaf_spte_and (mm : Mm) (has_ad_bits has_exec_only ad_disabled : Bool) (spt : ℕ)
    {mask : BitVec 64} (hrest : ∀ ad exec dis : Bool,
      make_nonleaf_spte ⟨fun _ => 0#64, fun _ => 0⟩ (kvm_mmu_set_ept_masks ad exec) 0 dis &&&
        mask = 0#64) :
    make_nonleaf_spte mm (kvm_mmu_set_ept_masks has_ad_bits has_exec_only) spt ad_disabled &&& mask =
      mm.phys spt &&& mask := by
  have hsplit : make_nonleaf_spte mm (kvm_mmu_set_ept_masks has_ad_bits has_exec_only) spt
      ad_disabled = mm.phys spt |||
        make_nonleaf_spte ⟨fun _ => 0#64, fun _ => 0⟩ (kvm_mmu_set_ept_masks has_ad_bits has_exec_only)
          0 ad_disabled := by
    simp only [make_nonleaf_spte, BitVec.zero_or]
    split <;> ac_rfl
  rw [hsplit, BitVec.and_or_distrib_right, hrest, BitVec.or_zero]

/-- The frame of the entry that points to a page table is the frame of the table. -/
theorem make_nonleaf_spte_frame (mm : Mm) (has_ad_bits has_exec_only ad_disabled : Bool) (spt : ℕ)
    (h : Translates mm spt) :
    make_nonleaf_spte mm (kvm_mmu_set_ept_masks has_ad_bits has_exec_only) spt ad_disabled &&&
      SPTE_BASE_ADDR_MASK = mm.phys spt := by
  rw [make_nonleaf_spte_and mm has_ad_bits has_exec_only ad_disabled spt (by decide), h.2]

/-- **The back pointers of whole runs.** In every state that vCPU creations and page allocations
reach, the entry that points to a page table gives its header for no page, and the second entry of a
page table leads back to its header for no page either: all back pointers are right just as long as
no page has been allocated. -/
theorem back_pointers_iff (mm : Mm) (has_ad_bits has_exec_only : Bool) (hash : ℕ) (s : SpState)
    (h : SpReach mm hash s) :
    (BackPointers mm (kvm_mmu_set_ept_masks has_ad_bits has_exec_only) s ↔
      ∀ sp, s.pages sp = none) ∧
    ∀ sp page, s.pages sp = some page →
      (∀ fuel, sptep_to_sp fuel s (page.spt + 8) ≠ some sp) ∧
      ∀ ad_disabled, spte_to_child_sp mm (make_nonleaf_spte mm
        (kvm_mmu_set_ept_masks has_ad_bits has_exec_only) page.spt ad_disabled) ≠ sp := by
  have hinv := h.inv
  refine ⟨⟨?_, ?_⟩, ?_⟩
  · intro hback sp
    by_contra hsome
    obtain ⟨page, hpage⟩ := Option.ne_none_iff_exists'.1 hsome
    obtain ⟨fuel, hret⟩ := (hback sp page hpage).1 1 (by decide)
    exact hinv.sptep_second hpage fuel hret
  · intro hnone sp page hpage
    rw [hnone sp] at hpage
    exact absurd hpage (by simp)
  · intro sp page hpage
    obtain ⟨-, hne, -, -, htr⟩ := hinv.pages sp page hpage
    refine ⟨fun fuel => hinv.sptep_second hpage fuel, ?_⟩
    intro ad_disabled
    rw [spte_to_child_sp, make_nonleaf_spte_frame mm has_ad_bits has_exec_only ad_disabled page.spt
      htr, to_shadow_page, htr.1]
    exact hne.symm

/-! ### One page -/

/-- Memory for one page: header, page table and `spt_info` in the system half. -/
def onePage : PageBlocks where
  info := 0xFFFF900000003000
  sp := 0xFFFF900000001000
  spt := 0xFFFF900000002000
  shadowed_translation := 0

/-- A host that maps the system half of the address space to the low frames. -/
def systemMm : Mm where
  phys a := BitVec.ofNat 64 (a - 0xFFFF800000000000)
  virt p := p.toNat + 0xFFFF800000000000

/-- The header that a TDP page gets. -/
def onePageHeader : KvmMmuPage where
  role := ⟨0x83⟩
  gfn := 0
  spt := 0xFFFF900000002000
  shadowed_translation := 0
  tdp_mmu_page := true
  nx_huge_page_disallowed := false
  mmu_valid_gen := 0
  tdp_mmu_root_count := 0

/-- A vCPU is created and a TDP page allocated for it. -/
theorem onePage_reach : ∃ s, SpReach systemMm 0xFFFFF80000000000 s ∧
    s.pages 0xFFFF900000001000 = some onePageHeader ∧ ∀ key, Holds s.g_Table s.mem key [] := by
  obtain ⟨m', hcreate, hlast, -⟩ :=
    kvm_mmu_create_spec 0 0xFFFFF80000000000 0xFFFF900000000000 noPages
  have hfirst := SpReach.step noPages _ 0 (.kvm_mmu_create 0xFFFF900000000000)
    (SpReach.start : SpReach systemMm 0xFFFFF80000000000 noPages)
    (fun _ i hi => ⟨by rw [SystemSpace, bucketAt]; omega, rfl⟩) hcreate
  have hblocks : ∀ table, FreshBlocks systemMm { noPages with g_Table := table, mem := m' } onePage :=
    fun _ => ⟨rfl, by decide, by decide, by rw [SystemSpace]; decide, by rw [Translates]; decide⟩
  refine ⟨_, SpReach.step _ _ 0 (.tdp_mmu_alloc_sp 0 ⟨0x83⟩ onePage) hfirst (hblocks _) rfl, ?_, ?_⟩
  · rfl
  · intro key
    exact holds_empty (hlast (by decide)) key

/-- The back pointers of that page are wrong. -/
theorem onePage_back_pointers : ∃ s, SpReach systemMm 0xFFFFF80000000000 s ∧
    ¬ BackPointers systemMm (kvm_mmu_set_ept_masks true true) s := by
  obtain ⟨s, hreach, hpage, -⟩ := onePage_reach
  refine ⟨s, hreach, fun hback => ?_⟩
  have hnone := (back_pointers_iff systemMm true true 0xFFFFF80000000000 s hreach).1.1 hback
    0xFFFF900000001000
  rw [hpage] at hnone
  exact absurd hnone (by simp)

/-- The page at header `0xFFFF900000001000` with its page table at `0xFFFF900000002000`: no lookup
of the address of its first entry returns the header, and the entry that points to the table is
taken for one that points to a header at the address of the table. -/
theorem onePage_lookups : ∃ s, SpReach systemMm 0xFFFFF80000000000 s ∧
    s.pages 0xFFFF900000001000 = some onePageHeader ∧
    sptep_to_sp 1 s 0xFFFF900000002000 = some 0 ∧
    spte_to_child_sp systemMm (make_nonleaf_spte systemMm (kvm_mmu_set_ept_masks true true)
      0xFFFF900000002000 false) = 0xFFFF900000002000 ∧
    ¬ BackPointers systemMm (kvm_mmu_set_ept_masks true true) s := by
  obtain ⟨s, hreach, hpage, hholds⟩ := onePage_reach
  have hchild : spte_to_child_sp systemMm (make_nonleaf_spte systemMm
      (kvm_mmu_set_ept_masks true true) 0xFFFF900000002000 false) = 0xFFFF900000002000 := by
    decide
  refine ⟨s, hreach, hpage, ?_, hchild, ?_⟩
  · -- every bucket is empty
    have hidx := bucket_index_lt s.g_Table.count (hholds fun _ => 0).count
      (s.g_Table.keyMask &&& HashUlongPtr (BitVec.ofNat 64 0xFFFF900000002000))
    obtain ⟨w, hw, hodd⟩ := (hholds fun _ => 0).chains _ hidx
    rw [sptep_to_sp, HashTableFindNext, if_neg (by simp), if_neg (hholds fun _ => 0).count, find_loop,
      HashBucketLastLink, hw]
    simp [hodd]
  · intro hback
    have hsp := (hback 0xFFFF900000001000 onePageHeader hpage).2 false
    exact absurd (hchild.symm.trans hsp) (by decide)

end Svmx.ShadowPage
