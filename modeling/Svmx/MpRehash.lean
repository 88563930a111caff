/-
`HashTableChangeTable`: the entries of a hash table move to a new array of buckets.

The new size is what the table has afterwards and what every later search uses, but the bucket an
entry is pushed to is computed with the old size. So the table finds the same entries as before, and
writes inside the new array only, exactly if every entry has the same index under both sizes
(`change_table_iff`).
-/
import Svmx.MpHash

set_option autoImplicit false

namespace Svmx.MpHash

/-! ## The indices that are written -/

/-- `move_bucket` with the indices of the new array that it pushes to. -/
def move_bucket_log (t : HashTable) (pBuckets pBucket : ℕ) :
    ℕ → HashMem → Option (HashMem × List ℕ)
  | 0, _ => none
  | fuel + 1, m => do
    if ← HashBucketLastLink m pBucket then some (m, [])
    else do
      let pEntry ← m.next pBucket
      let rest ← m.next pEntry
      let m ← m.set_next pBucket rest
      let hashValue ← m.hashValue pEntry
      let idx := HashTableGetBucketIndex t.count (t.keyMask &&& hashValue)
      let m ← PushEntryList m (bucketAt pBuckets idx.toNat) pEntry
      let (m, written) ← move_bucket_log t pBuckets pBucket fuel m
      some (m, idx.toNat :: written)

/-- `move_buckets` with the indices of the new array that it pushes to. -/
def move_buckets_log (t : HashTable) (pBuckets fuel : ℕ) :
    ℕ → ℕ → HashMem → Option (HashMem × List ℕ)
  | 0, _, m => some (m, [])
  | n + 1, pBucket, m => do
    let (m, written) ← move_bucket_log t pBuckets pBucket fuel m
    let (m, rest) ← move_buckets_log t pBuckets fuel n (pBucket + 8) m
    some (m, written ++ rest)

/-- `HashTableChangeTable` with the indices of the new array that it writes: first every new bucket
is made empty, then the entries are pushed. -/
def HashTableChangeTable_log (fuel hash : ℕ) (t : HashTable) (allocCount : BitVec 32)
    (pBuckets : ℕ) (m : HashMem) : Option ((ℕ × HashTable × HashMem) × List ℕ) := do
  let count := clampCount (RoundToPowerOfTwo allocCount false)
  let m ← init_buckets hash count.toNat pBuckets m
  let (m, written) ← move_buckets_log t pBuckets fuel t.count.toNat t.Buckets m
  some ((t.Buckets, { t with
    Buckets := pBuckets
    BucketCount := (count <<< 5) ||| (t.BucketCount &&& 0x1F) }, m),
    List.range count.toNat ++ written)

theorem move_bucket_log_fst (t : HashTable) (pBuckets pBucket fuel : ℕ) (m : HashMem) :
    (move_bucket_log t pBuckets pBucket fuel m).map Prod.fst =
      move_bucket t pBuckets pBucket fuel m := by
  induction fuel generalizing m with
  | zero => rfl
  | succ fuel ih =>
    unfold move_bucket_log move_bucket
    cases hlast : HashBucketLastLink m pBucket with
    | none => rfl
    | some last =>
      cases last with
      | true => rfl
      | false =>
        simp only [Option.bind_eq_bind, Option.bind_some, Bool.false_eq_true, if_false,
          Option.map_bind, Function.comp_def, Option.map_some, ← ih]
        simp only [Option.map_eq_bind, Function.comp_def]

theorem move_buckets_log_fst (t : HashTable) (pBuckets fuel n pBucket : ℕ) (m : HashMem) :
    (move_buckets_log t pBuckets fuel n pBucket m).map Prod.fst =
      move_buckets t pBuckets fuel n pBucket m := by
  induction n generalizing pBucket m with
  | zero => rfl
  | succ n ih =>
    unfold move_buckets_log move_buckets
    rw [← move_bucket_log_fst]
    simp only [Option.bind_eq_bind, Option.map_bind, Function.comp_def, Option.map_some, ← ih]
    simp only [Option.map_eq_bind, Option.bind_assoc, Option.bind_some, Function.comp_def]

/-- The log leaves the function as it is. -/
theorem HashTableChangeTable_log_fst (fuel hash : ℕ) (t : HashTable) (allocCount : BitVec 32)
    (pBuckets : ℕ) (m : HashMem) :
    (HashTableChangeTable_log fuel hash t allocCount pBuckets m).map Prod.fst =
      HashTableChangeTable fuel hash t allocCount pBuckets m := by
  unfold HashTableChangeTable_log HashTableChangeTable
  simp only [← move_buckets_log_fst, Option.bind_eq_bind, Option.map_bind, Function.comp_def,
    Option.map_some]
  simp only [Option.map_eq_bind, Option.bind_assoc, Option.bind_some, Function.comp_def]

/-! ## Popping -/

/-- **A pop**: the head takes over the word of its first entry. -/
theorem pop_spec {m : HashMem} {head e : ℕ} {l : List ℕ} (h : Chain m head (e :: l))
    (hhead : head ∉ e :: l) :
    ∃ rest m', m.next e = some rest ∧ m.set_next head rest = some m' ∧ Chain m' head l ∧
      m'.hashValue = m.hashValue ∧ (∀ a, (m'.next a).isSome = (m.next a).isSome) ∧
      ∀ a, a ≠ head → m'.next a = m.next a := by
  obtain ⟨hp, heven, hc⟩ := h
  obtain ⟨rest, hrest⟩ := Option.isSome_iff_exists.1 hc.isSome
  have hothers : ∀ a, a ≠ head → Function.update m.next head (some rest) a = m.next a :=
    fun a ha => Function.update_of_ne ha _ _
  refine ⟨rest, _, hrest, set_next_spec rest (by rw [hp]; rfl), ?_, rfl, ?_, hothers⟩
  · cases l with
    | nil =>
      obtain ⟨w, hw, hodd⟩ := hc
      refine ⟨w, ?_, hodd⟩
      rw [← hw, hrest]
      exact Function.update_self ..
    | cons a l =>
      obtain ⟨he, ha, hca⟩ := hc
      refine ⟨?_, ha, hca.congr fun b hb => hothers b ?_⟩
      · rw [← he, hrest]
        exact Function.update_self ..
      · rintro rfl
        exact hhead (List.mem_cons_of_mem e hb)
  · intro a
    by_cases ha : a = head
    · subst ha
      simp [hp]
    · simp only [hothers a ha]

/-! ## While the entries move -/

/-- The new array: `c` words of memory apart from the heads of the table and from its entries. -/
structure NewArray (t : HashTable) (m : HashMem) (es : List ℕ) (pBuckets c : ℕ) : Prop where
  cell : ∀ i < c, (m.next (bucketAt pBuckets i)).isSome = true
  heads : ∀ i < c, ∀ j < t.count.toNat, bucketAt pBuckets i ≠ bucketAt t.Buckets j
  entries : ∀ i < c, bucketAt pBuckets i ∉ es

/-- The entries `ps` are still in the old buckets and the entries `ns` are in the new ones, each at
the index under the old size. -/
structure Moving (t : HashTable) (m : HashMem) (key : ℕ → BitVec 64) (pBuckets c : ℕ)
    (ps ns : List ℕ) : Prop where
  nodup : (ps ++ ns).Nodup
  entries : ∀ e ∈ ps ++ ns, Entry t m key e
  array : NewArray t m (ps ++ ns) pBuckets c
  old : ∀ j < t.count.toNat,
    Chain m (bucketAt t.Buckets j) (ps.filter fun e => t.index (key e) = j)
  new : ∀ i < c, Chain m (bucketAt pBuckets i) (ns.filter fun e => t.index (key e) = i)

section Moving

variable {t : HashTable} {m : HashMem} {key : ℕ → BitVec 64} {pBuckets c : ℕ} {ps ns : List ℕ}

/-- The entries of a list without one of them. -/
theorem erase_filter_append {i e : ℕ} {l₁ l₂ : List ℕ} (hnd : ps.Nodup)
    (hl : (ps.filter fun a => t.index (key a) = i) = l₁ ++ e :: l₂) :
    ((ps.erase e).filter fun a => t.index (key a) = i) = l₁ ++ l₂ := by
  have hndl : (l₁ ++ e :: l₂).Nodup := by
    rw [← hl]
    exact hnd.filter _
  have hnot : e ∉ l₁ := fun hin => (List.nodup_append.1 hndl).2.2 e hin e List.mem_cons_self rfl
  rw [List.Nodup.erase_eq_filter hnd, List.filter_comm, hl, ← List.Nodup.erase_eq_filter hndl,
    List.erase_append_right _ hnot, List.erase_cons_head]

/-- The other lists keep their entries. -/
theorem erase_filter_other {i e : ℕ} (hnd : ps.Nodup) (hi : t.index (key e) ≠ i) :
    ((ps.erase e).filter fun a => t.index (key a) = i) = ps.filter fun a => t.index (key a) = i := by
  rw [List.Nodup.erase_eq_filter hnd, List.filter_filter]
  refine List.filter_congr fun a _ => ?_
  by_cases ha : a = e
  · subst ha
    simp [hi]
  · simp [ha]

/-- The first entry of a bucket. -/
theorem first_of_filter {j e : ℕ} {l : List ℕ}
    (hl : (ps.filter fun e => t.index (key e) = j) = e :: l) : e ∈ ps ∧ t.index (key e) = j := by
  have hmem : e ∈ ps.filter fun e => t.index (key e) = j := by
    rw [hl]
    exact List.mem_cons_self
  obtain ⟨heps, hidx⟩ := List.mem_filter.1 hmem
  exact ⟨heps, by simpa using hidx⟩

/-- The first entry of an old bucket, taken out of the list of all that are left. -/
theorem erase_filter_index {j e : ℕ} {l : List ℕ} (hnd : ps.Nodup)
    (hl : (ps.filter fun e => t.index (key e) = j) = e :: l) :
    ((ps.erase e).filter fun a => t.index (key a) = j) = l ∧
      ∀ i, i ≠ j → ((ps.erase e).filter fun a => t.index (key a) = i) =
        ps.filter fun a => t.index (key a) = i := by
  have hnil : (ps.filter fun e => t.index (key e) = j) = [] ++ e :: l := hl
  refine ⟨erase_filter_append hnd hnil, fun i hi => erase_filter_other hnd ?_⟩
  rw [(first_of_filter hl).2]
  exact hi.symm

/-- **One entry moves** from the front of its old bucket to the front of a new one. -/
theorem Moving.step (h : Moving t m key pBuckets c ps ns) {j e : ℕ} {l : List ℕ}
    (hj : j < t.count.toNat) (hjc : j < c)
    (hl : (ps.filter fun e => t.index (key e) = j) = e :: l) :
    ∃ rest m₁ m₂, m.next (bucketAt t.Buckets j) = some e ∧ e % 2 = 0 ∧ m.next e = some rest ∧
      m.set_next (bucketAt t.Buckets j) rest = some m₁ ∧ m₁.hashValue = m.hashValue ∧
      PushEntryList m₁ (bucketAt pBuckets j) e = some m₂ ∧
      Moving t m₂ key pBuckets c (ps.erase e) (e :: ns) := by
  obtain ⟨heps, hidx⟩ := first_of_filter hl
  have hnd := List.nodup_append.1 h.nodup
  obtain ⟨hfirst, hothers⟩ := erase_filter_index hnd.1 hl
  have hentry := h.entries e (List.mem_append_left _ heps)
  have hperm : (ps.erase e ++ e :: ns).Perm (ps ++ ns) :=
    List.perm_middle.trans ((List.perm_cons_erase heps).symm.append_right ns)
  -- no head of either array is an entry
  have hold : ∀ i < t.count.toNat, bucketAt t.Buckets i ∉ ps ++ ns := fun i hi hin =>
    (h.entries _ hin).apart i hi rfl
  have hchain := h.old j hj
  rw [hl] at hchain
  obtain ⟨rest, m₁, hrest, hset, hold₁, hvalue₁, hsome₁, hsame₁⟩ := pop_spec hchain
    (by
      rw [← hl]
      exact fun hin => hold j hj (List.mem_append_left _ (List.mem_filter.1 hin).1))
  have hnew₁ : ∀ i < c, Chain m₁ (bucketAt pBuckets i) (ns.filter fun e => t.index (key e) = i) := by
    intro i hi
    refine (h.new i hi).congr fun a ha => hsame₁ a ?_
    rintro rfl
    rcases List.mem_cons.1 ha with hhead | ha
    · exact h.array.heads i hi j hj hhead.symm
    · exact hold j hj (List.mem_append_right _ (List.mem_filter.1 ha).1)
  have hens : e ∉ ns := fun hin => hnd.2.2 e heps e hin rfl
  obtain ⟨m₂, hpush, hnew₂, hvalue₂, hsome₂, hsame₂⟩ := PushEntryList_spec (hnew₁ j hjc)
    (by rw [hsome₁]; exact hentry.cell) hentry.aligned
    (fun heq => h.array.entries j hjc (heq ▸ List.mem_append_left _ heps))
    (fun hin => hens (List.mem_filter.1 hin).1)
    (fun hin => h.array.entries j hjc (List.mem_append_right _ (List.mem_filter.1 hin).1))
  have hsome : ∀ a, (m₂.next a).isSome = (m.next a).isSome := fun a =>
    (hsome₂ a).trans (hsome₁ a)
  refine ⟨rest, m₁, m₂, hchain.1, hentry.aligned, hrest, hset, hvalue₁, hpush,
    hperm.nodup_iff.2 h.nodup, ?_, ⟨?_, h.array.heads, ?_⟩, ?_, ?_⟩
  · intro a ha
    have ha' := h.entries a (hperm.mem_iff.1 ha)
    exact ⟨ha'.ne_null, ha'.aligned, by rw [hsome, ha'.cell],
      by rw [hvalue₂, hvalue₁, ha'.value], ha'.apart⟩
  · intro i hi
    rw [hsome]
    exact h.array.cell i hi
  · intro i hi hin
    exact h.array.entries i hi (hperm.mem_iff.1 hin)
  · intro i hi
    have hch : Chain m₁ (bucketAt t.Buckets i)
        ((ps.erase e).filter fun a => t.index (key a) = i) := by
      by_cases hij : i = j
      · subst hij
        rw [hfirst]
        exact hold₁
      · rw [hothers i hij]
        refine (h.old i hi).congr fun a ha => hsame₁ a ?_
        rintro rfl
        rcases List.mem_cons.1 ha with hhead | ha
        · exact hij (bucketAt_inj hhead).symm
        · exact hold j hj (List.mem_append_left _ (List.mem_filter.1 ha).1)
    refine hch.congr fun a ha => hsame₂ a ?_ ?_
    · rintro rfl
      rcases List.mem_cons.1 ha with hhead | ha
      · exact h.array.heads j hjc i hi hhead
      · exact h.array.entries j hjc
          (List.mem_append_left _ (List.mem_of_mem_erase (List.mem_filter.1 ha).1))
    · rintro rfl
      rcases List.mem_cons.1 ha with hhead | ha
      · exact hentry.apart i hi hhead
      · exact hnd.1.not_mem_erase (List.mem_filter.1 ha).1
  · intro i hi
    by_cases hij : i = j
    · subst hij
      rw [List.filter_cons_of_pos (by simp [hidx])]
      exact hnew₂
    · rw [List.filter_cons_of_neg (by simpa [hidx] using Ne.symm hij)]
      refine (hnew₁ i hi).congr fun a ha => hsame₂ a ?_ ?_
      · rintro rfl
        rcases List.mem_cons.1 ha with hhead | ha
        · exact hij (bucketAt_inj hhead).symm
        · exact h.array.entries j hjc (List.mem_append_right _ (List.mem_filter.1 ha).1)
      · rintro rfl
        rcases List.mem_cons.1 ha with hhead | ha
        · exact h.array.entries i hi (hhead ▸ List.mem_append_left _ heps)
        · exact hens (List.mem_filter.1 ha).1

/-- The first round on an old bucket that is not empty. -/
theorem move_bucket_log_cons {j e rest fuel : ℕ} {m₁ : HashMem}
    (hfirst : m.next (bucketAt t.Buckets j) = some e) (heven : e % 2 = 0)
    (hrest : m.next e = some rest) (hset : m.set_next (bucketAt t.Buckets j) rest = some m₁)
    (hvalue : m₁.hashValue e = some (key e)) (hidx : t.index (key e) = j) :
    move_bucket_log t pBuckets (bucketAt t.Buckets j) (fuel + 1) m =
      (PushEntryList m₁ (bucketAt pBuckets j) e).bind fun m₂ =>
        (move_bucket_log t pBuckets (bucketAt t.Buckets j) fuel m₂).bind fun r =>
          some (r.1, j :: r.2) := by
  have hidx' : (HashTableGetBucketIndex t.count (t.keyMask &&& key e)).toNat = j := hidx
  rw [move_bucket_log, HashBucketLastLink, hfirst]
  simp only [Option.bind_eq_bind, Option.bind_some, heven, Nat.reduceBEq, Bool.false_eq_true,
    if_false, hrest, hset, hvalue, hidx']

/-- **An old bucket** whose entries belong inside the new array is emptied into it. -/
theorem Moving.bucket {j : ℕ} (hj : j < t.count.toNat) (h : Moving t m key pBuckets c ps ns)
    (hjc : (ps.filter fun e => t.index (key e) = j) = [] ∨ j < c) {fuel : ℕ}
    (hfuel : (ps.filter fun e => t.index (key e) = j).length < fuel) :
    ∃ m' ps' ns' written,
      move_bucket_log t pBuckets (bucketAt t.Buckets j) fuel m = some (m', written) ∧
      Moving t m' key pBuckets c ps' ns' ∧ (ps' ++ ns').Perm (ps ++ ns) ∧ (∀ i ∈ written, i < c) ∧
      (∀ e ∈ ps', t.index (key e) ≠ j) ∧ ∀ i, i ≠ j →
        (ps'.filter fun e => t.index (key e) = i) = ps.filter fun e => t.index (key e) = i := by
  obtain ⟨fuel, rfl⟩ : ∃ f, fuel = f + 1 := ⟨fuel - 1, by omega⟩
  -- on the entries that are still in the bucket
  induction hl : ps.filter fun e => t.index (key e) = j generalizing m ps ns fuel with
  | nil =>
    have hchain := h.old j hj
    rw [hl] at hchain
    obtain ⟨w, hw, hodd⟩ := hchain
    refine ⟨m, ps, ns, [], ?_, h, List.Perm.refl _, by simp, ?_, fun i _ => rfl⟩
    · simp [move_bucket_log, HashBucketLastLink, hw, hodd]
    · intro e he hidx
      have hin : e ∈ ps.filter fun e => t.index (key e) = j :=
        List.mem_filter.2 ⟨he, by simpa using hidx⟩
      rw [hl] at hin
      exact absurd hin List.not_mem_nil
  | cons e l ih =>
    have hlt : j < c := by
      rcases hjc with hempty | hlt
      · rw [hl] at hempty
        cases hempty
      · exact hlt
    obtain ⟨heps, hidx⟩ := first_of_filter hl
    obtain ⟨herase, hothers⟩ := erase_filter_index (List.nodup_append.1 h.nodup).1 hl
    obtain ⟨rest, m₁, m₂, hfirst, heven, hrest, hset, hvalue, hpush, hmoving⟩ := h.step hj hlt hl
    rw [hl, List.length_cons] at hfuel
    obtain ⟨fuel, rfl⟩ : ∃ f, fuel = f + 1 := ⟨fuel - 1, by omega⟩
    obtain ⟨m', ps', ns', written, hrun, hend, hperm, hbelow, hnone, hkeep⟩ :=
      ih hmoving (Or.inr hlt) fuel (by rw [herase]; omega) herase
    refine ⟨m', ps', ns', j :: written, ?_, hend, hperm.trans ?_, ?_, hnone, ?_⟩
    · rw [move_bucket_log_cons hfirst heven hrest hset
        (by rw [hvalue]; exact (h.entries e (List.mem_append_left _ heps)).value) hidx,
        hpush, Option.bind_some, hrun, Option.bind_some]
    · exact List.perm_middle.trans ((List.perm_cons_erase heps).symm.append_right ns)
    · intro i hi
      rcases List.mem_cons.1 hi with rfl | hi
      · exact hlt
      · exact hbelow i hi
    · intro i hi
      rw [hkeep i hi, hothers i hi]

/-- An old bucket with an entry is logged first. -/
theorem Moving.bucket_written {j : ℕ} (hj : j < t.count.toNat)
    (h : Moving t m key pBuckets c ps ns)
    (hne : (ps.filter fun e => t.index (key e) = j) ≠ []) {fuel : ℕ} {m' : HashMem}
    {written : List ℕ}
    (hrun : move_bucket_log t pBuckets (bucketAt t.Buckets j) fuel m = some (m', written)) :
    j ∈ written := by
  cases fuel with
  | zero => cases hrun
  | succ fuel =>
    obtain ⟨e, l, hl⟩ := List.exists_cons_of_ne_nil hne
    obtain ⟨heps, hidx⟩ := first_of_filter hl
    have hchain := h.old j hj
    rw [hl] at hchain
    have hnot : bucketAt t.Buckets j ∉ e :: l := by
      rw [← hl]
      exact fun hin => (h.entries _ (List.mem_append_left _ (List.mem_filter.1 hin).1)).apart j hj rfl
    obtain ⟨rest, m₁, hrest, hset, -, hvalue, -, -⟩ := pop_spec hchain hnot
    rw [move_bucket_log_cons hchain.1 hchain.2.1 hrest hset
      (by rw [hvalue]; exact (h.entries e (List.mem_append_left _ heps)).value) hidx] at hrun
    obtain ⟨m₂, -, hrun⟩ := Option.bind_eq_some_iff.mp hrun
    obtain ⟨r, -, hrun⟩ := Option.bind_eq_some_iff.mp hrun
    rw [← (Prod.mk.inj (Option.some.inj hrun)).2]
    exact List.mem_cons_self

/-- **All old buckets** from `j` on. If the entries that are left belong inside the new array, all
of them move; if one of them does not, an index behind the array is written. -/
theorem Moving.buckets {n j : ℕ} (hn : j + n = t.count.toNat)
    (h : Moving t m key pBuckets c ps ns) (hleft : ∀ e ∈ ps, j ≤ t.index (key e))
    (hcount : t.count ≠ 0) {fuel : ℕ} (hfuel : ps.length < fuel) :
    ((∀ e ∈ ps, t.index (key e) < c) → ∃ m' ns' written,
      move_buckets_log t pBuckets fuel n (bucketAt t.Buckets j) m = some (m', written) ∧
      Moving t m' key pBuckets c [] ns' ∧ ns'.Perm (ps ++ ns) ∧ ∀ i ∈ written, i < c) ∧
    ∀ e ∈ ps, c ≤ t.index (key e) → ∀ m' written,
      move_buckets_log t pBuckets fuel n (bucketAt t.Buckets j) m = some (m', written) →
      ∃ i ∈ written, c ≤ i := by
  induction n generalizing j m ps ns with
  | zero =>
    have hempty : ps = [] := by
      refine List.eq_nil_iff_forall_not_mem.2 fun e he => ?_
      have hlt : t.index (key e) < t.count.toNat := bucket_index_lt t.count hcount _
      have hle := hleft e he
      omega
    subst hempty
    refine ⟨fun _ => ⟨m, ns, [], rfl, h, List.Perm.refl _, by simp⟩, fun e he => ?_⟩
    exact absurd he List.not_mem_nil
  | succ n ih =>
    have hj : j < t.count.toNat := by omega
    have hnext : bucketAt t.Buckets j + 8 = bucketAt t.Buckets (j + 1) := by
      unfold bucketAt
      omega
    by_cases hjc : (ps.filter fun e => t.index (key e) = j) = [] ∨ j < c
    · obtain ⟨m', ps', ns', written, hrun, hmoving, hperm, hbelow, hnone, hkeep⟩ :=
        h.bucket hj hjc (lt_of_le_of_lt (List.length_filter_le _ _) hfuel)
      -- what is left is what was left, without the entries of this bucket
      have hsub : ∀ e, e ∈ ps' ↔ e ∈ ps ∧ t.index (key e) ≠ j := by
        intro e
        by_cases hidx : t.index (key e) = j
        · exact ⟨fun he => absurd hidx (hnone e he), fun he => absurd hidx he.2⟩
        · have hfilter := hkeep _ hidx
          have hmem : e ∈ ps' ↔ e ∈ ps'.filter fun a => t.index (key a) = t.index (key e) := by
            simp
          rw [hmem, hfilter]
          simp [hidx]
      have hlen : ps'.length ≤ ps.length :=
        List.Subperm.length_le ((List.nodup_append.1 hmoving.nodup).1.subperm
          fun e he => ((hsub e).1 he).1)
      obtain ⟨hgood, hbad⟩ := ih (j := j + 1) (by omega) hmoving
        (fun e he => by
          obtain ⟨heps, hidx⟩ := (hsub e).1 he
          have hle := hleft e heps
          omega) (by omega)
      have hstep : move_buckets_log t pBuckets fuel (n + 1) (bucketAt t.Buckets j) m =
          (move_buckets_log t pBuckets fuel n (bucketAt t.Buckets (j + 1)) m').bind fun r =>
            some (r.1, written ++ r.2) := by
        rw [move_buckets_log, hrun, ← hnext]
        rfl
      constructor
      · intro hall
        obtain ⟨m'', ns'', rest, hrest, hend, hperm', hbelow'⟩ :=
          hgood fun e he => hall e ((hsub e).1 he).1
        refine ⟨m'', ns'', written ++ rest, by rw [hstep, hrest, Option.bind_some], hend,
          hperm'.trans hperm, ?_⟩
        intro i hi
        rcases List.mem_append.1 hi with hi | hi
        · exact hbelow i hi
        · exact hbelow' i hi
      · intro e he hge m'' all hall
        rw [hstep] at hall
        obtain ⟨r, hr, hall⟩ := Option.bind_eq_some_iff.mp hall
        have hidx : t.index (key e) ≠ j := by
          intro hidx
          rcases hjc with hempty | hlt
          · have hin : e ∈ ps.filter fun e => t.index (key e) = j :=
              List.mem_filter.2 ⟨he, by simpa using hidx⟩
            rw [hempty] at hin
            exact absurd hin List.not_mem_nil
          · omega
        obtain ⟨i, hi, hci⟩ := hbad e ((hsub e).2 ⟨he, hidx⟩) hge r.1 r.2 hr
        rw [← (Prod.mk.inj (Option.some.inj hall)).2]
        exact ⟨i, List.mem_append_right _ hi, hci⟩
    · obtain ⟨hne, hge⟩ := not_or.1 hjc
      constructor
      · intro hall
        obtain ⟨e, l, hl⟩ := List.exists_cons_of_ne_nil hne
        obtain ⟨heps, hidx⟩ := first_of_filter hl
        have hlt := hall e heps
        omega
      · intro _ _ _ m'' all hall
        rw [move_buckets_log] at hall
        obtain ⟨r, hr, hall⟩ := Option.bind_eq_some_iff.mp hall
        obtain ⟨r', -, hall⟩ := Option.bind_eq_some_iff.mp hall
        rw [← (Prod.mk.inj (Option.some.inj hall)).2]
        exact ⟨j, List.mem_append_left _ (h.bucket_written hj hne hr), by omega⟩

end Moving

/-! ## The new size -/

theorem low_mask (i : ℕ) : (0x1F : BitVec 32).getLsbD i = decide (i < 5) := by
  have h := Nat.testBit_two_pow_sub_one 5 i
  have h31 : (2 : ℕ) ^ 5 - 1 = 31 := rfl
  rw [h31] at h
  rw [show (0x1F : BitVec 32) = BitVec.ofNat 32 31 from rfl, BitVec.getLsbD_ofNat, h]
  by_cases hi : i < 5
  · simp [hi]
    omega
  · simp [hi]

theorem count_mask (i : ℕ) : (0x7FFFFFF : BitVec 32).getLsbD i = decide (i < 27) := by
  have h := Nat.testBit_two_pow_sub_one 27 i
  have hnum : (2 : ℕ) ^ 27 - 1 = 0x7FFFFFF := rfl
  rw [hnum] at h
  rw [show (0x7FFFFFF : BitVec 32) = BitVec.ofNat 32 0x7FFFFFF from rfl, BitVec.getLsbD_ofNat, h]
  by_cases hi : i < 27
  · simp [hi]
    omega
  · simp [hi]

/-- The word that `HashTableChangeTable` packs gives back the size and the flags. -/
theorem change_count (count old : BitVec 32) (hcount : count.toNat < 2 ^ 27) :
    (((count <<< 5) ||| (old &&& 0x1F)) >>> 5) &&& 0x7FFFFFF = count := by
  apply BitVec.eq_of_getLsbD_eq
  intro i hi
  rw [BitVec.getLsbD_and, count_mask, BitVec.getLsbD_ushiftRight, BitVec.getLsbD_or,
    BitVec.getLsbD_and, low_mask, BitVec.getLsbD_shiftLeft]
  by_cases h27 : i < 27
  · have h32 : 5 + i < 32 := by omega
    simp [h27, h32]
  · have hhigh : count.getLsbD i = false :=
      Nat.testBit_lt_two_pow (lt_of_lt_of_le hcount (Nat.pow_le_pow_right (by decide) (by omega)))
    simp [h27, hhigh]

theorem change_flags (count old : BitVec 32) :
    ((count <<< 5) ||| (old &&& 0x1F)) &&& 0x1F = old &&& 0x1F := by
  apply BitVec.eq_of_getLsbD_eq
  intro i hi
  rw [BitVec.getLsbD_and, BitVec.getLsbD_or, BitVec.getLsbD_and, low_mask,
    BitVec.getLsbD_shiftLeft]
  by_cases h5 : i < 5
  · simp [h5]
  · simp [h5]

/-- The number of buckets for an array of `allocCount`. -/
def newCount (allocCount : BitVec 32) : BitVec 32 :=
  clampCount (RoundToPowerOfTwo allocCount false)

/-- For a power of two it is the array, up to the limit of the table functions. -/
theorem newCount_pow {k : ℕ} (hk : k < 32) :
    (newCount (BitVec.ofNat 32 (2 ^ k))).toNat = 2 ^ min k 26 := by
  have h : ∀ k : Fin 32, newCount (BitVec.ofNat 32 (2 ^ k.val)) =
      BitVec.ofNat 32 (2 ^ min k.val 26) := by decide
  rw [h ⟨k, hk⟩, BitVec.toNat_ofNat]
  refine Nat.mod_eq_of_lt (lt_of_le_of_lt (Nat.pow_le_pow_right (by decide) (min_le_right k 26)) ?_)
  decide

/-- The table after the change. -/
def HashTable.changed (t : HashTable) (allocCount : BitVec 32) (pBuckets : ℕ) : HashTable :=
  { t with
    Buckets := pBuckets
    BucketCount := (newCount allocCount <<< 5) ||| (t.BucketCount &&& 0x1F) }

theorem changed_keyMask (t : HashTable) (allocCount : BitVec 32) (pBuckets : ℕ) :
    (t.changed allocCount pBuckets).keyMask = t.keyMask := by
  unfold HashTable.keyMask HashTable.changed
  rw [change_flags]

theorem changed_count (t : HashTable) {k : ℕ} (hk : k < 32) (pBuckets : ℕ) :
    (t.changed (BitVec.ofNat 32 (2 ^ k)) pBuckets).count = newCount (BitVec.ofNat 32 (2 ^ k)) := by
  unfold HashTable.count HashTable.changed
  refine change_count _ _ ?_
  rw [newCount_pow hk]
  exact Nat.pow_lt_pow_right (by decide) (by omega)

/-- The bucket that a search looks in after the change. -/
theorem changed_index (t : HashTable) {k : ℕ} (hk : k < 32) (pBuckets : ℕ) (hashValue : BitVec 64) :
    (t.changed (BitVec.ofNat 32 (2 ^ k)) pBuckets).index hashValue =
      (HashTableGetBucketIndex (newCount (BitVec.ofNat 32 (2 ^ k)))
        (t.keyMask &&& hashValue)).toNat := by
  rw [HashTable.index, changed_count t hk, changed_keyMask]

/-! ## The whole change -/

/-- **Before the first entry moves** the new buckets are empty. -/
theorem Moving.start {t : HashTable} {m : HashMem} {key : ℕ → BitVec 64} {es : List ℕ}
    (h : Holds t m key es) {pBuckets c : ℕ} (hnew : NewArray t m es pBuckets c) (hash : ℕ) :
    ∃ m₁, init_buckets hash c pBuckets m = some m₁ ∧ Moving t m₁ key pBuckets c es [] := by
  obtain ⟨m₁, hinit, hvalue, hlast, hothers, hsome⟩ := init_buckets_spec hash c hnew.cell
  refine ⟨m₁, hinit, ?_, ?_, ⟨?_, hnew.heads, ?_⟩, ?_, ?_⟩
  · rw [List.append_nil]
    exact h.nodup
  · rw [List.append_nil]
    intro e he
    have hold := h.entries e he
    exact ⟨hold.ne_null, hold.aligned, by rw [hsome, hold.cell], by rw [hvalue, hold.value],
      hold.apart⟩
  · intro i hi
    rw [hsome]
    exact hnew.cell i hi
  · rw [List.append_nil]
    exact hnew.entries
  · intro j hj
    refine (h.chains j hj).congr fun a ha => hothers a fun i hi => ?_
    rintro rfl
    rcases List.mem_cons.1 ha with hhead | ha
    · exact hnew.heads i hi j hj hhead
    · exact hnew.entries i hi (List.mem_filter.1 ha).1
  · intro i hi
    exact ⟨lastLink hash, hlast i hi, lastLink_odd hash⟩

section Change

variable {t : HashTable} {m : HashMem} {key : ℕ → BitVec 64} {es : List ℕ} {k fuel pBuckets : ℕ}

/-- **The change**: either all entries are in the new array at their old index, or a word behind the
array is written. -/
theorem change_table_spec (h : Holds t m key es) (hk : k < 32)
    (hnew : NewArray t m es pBuckets (2 ^ min k 26)) (hfuel : es.length < fuel) (hash : ℕ) :
    ((∀ e ∈ es, t.index (key e) < 2 ^ min k 26) → ∃ m' ns written,
      HashTableChangeTable_log fuel hash t (BitVec.ofNat 32 (2 ^ k)) pBuckets m =
        some ((t.Buckets, t.changed (BitVec.ofNat 32 (2 ^ k)) pBuckets, m'), written) ∧
      Moving t m' key pBuckets (2 ^ min k 26) [] ns ∧ ns.Perm es ∧
      ∀ i ∈ written, i < 2 ^ min k 26) ∧
    ∀ e ∈ es, 2 ^ min k 26 ≤ t.index (key e) → ∀ r written,
      HashTableChangeTable_log fuel hash t (BitVec.ofNat 32 (2 ^ k)) pBuckets m =
        some (r, written) → ∃ i ∈ written, 2 ^ min k 26 ≤ i := by
  obtain ⟨m₁, hinit, hstart⟩ := Moving.start h hnew hash
  obtain ⟨hgood, hbad⟩ := hstart.buckets (n := t.count.toNat) (j := 0) (by omega)
    (fun e _ => Nat.zero_le _) h.count hfuel
  have hzero : bucketAt t.Buckets 0 = t.Buckets := rfl
  rw [hzero] at hgood hbad
  have hrun : HashTableChangeTable_log fuel hash t (BitVec.ofNat 32 (2 ^ k)) pBuckets m =
      (move_buckets_log t pBuckets fuel t.count.toNat t.Buckets m₁).bind fun r =>
        some ((t.Buckets, t.changed (BitVec.ofNat 32 (2 ^ k)) pBuckets, r.1),
          List.range (2 ^ min k 26) ++ r.2) := by
    have hcount : (clampCount (RoundToPowerOfTwo (BitVec.ofNat 32 (2 ^ k)) false)).toNat =
        2 ^ min k 26 := newCount_pow hk
    unfold HashTableChangeTable_log
    simp only [hcount, hinit, Option.bind_eq_bind, Option.bind_some]
    rfl
  constructor
  · intro hall
    obtain ⟨m', ns, written, hmove, hend, hperm, hbelow⟩ := hgood hall
    refine ⟨m', ns, List.range (2 ^ min k 26) ++ written, by rw [hrun, hmove, Option.bind_some],
      hend, by simpa using hperm, fun i hi => ?_⟩
    rcases List.mem_append.1 hi with hi | hi
    · exact List.mem_range.1 hi
    · exact hbelow i hi
  · intro e he hge r written hlog
    rw [hrun] at hlog
    obtain ⟨r', hmove, hlog⟩ := Option.bind_eq_some_iff.mp hlog
    obtain ⟨i, hi, hci⟩ := hbad e he hge r'.1 r'.2 hmove
    rw [← (Prod.mk.inj (Option.some.inj hlog)).2]
    exact ⟨i, List.mem_append_right _ hi, hci⟩

/-- For every hash value the repeated search ends in both tables and finds the same entries. -/
def SameFound (fuel : ℕ) (t : HashTable) (m : HashMem) (t' : HashTable) (m' : HashMem) : Prop :=
  ∀ hashValue, ∃ found found', find_all fuel t hashValue m fuel 0 = some found ∧
    find_all fuel t' hashValue m' fuel 0 = some found' ∧ ∀ e, e ∈ found ↔ e ∈ found'

/-- `HashTableChangeTable` keeps what the table finds and its `ItemCount`, and writes inside the new
array. -/
def ChangeKeeps (fuel hash : ℕ) (t : HashTable) (k pBuckets : ℕ) (m : HashMem) : Prop :=
  ∃ old t' m' written,
    HashTableChangeTable_log fuel hash t (BitVec.ofNat 32 (2 ^ k)) pBuckets m =
      some ((old, t', m'), written) ∧
    t'.ItemCount = t.ItemCount ∧ (∀ i ∈ written, i < 2 ^ min k 26) ∧ SameFound fuel t m t' m'

/-- An entry has the same index under the old and the new size. -/
def SameIndex (t : HashTable) (k : ℕ) (hashValue : BitVec 64) : Prop :=
  HashTableGetBucketIndex t.count (t.keyMask &&& hashValue) =
    HashTableGetBucketIndex (newCount (BitVec.ofNat 32 (2 ^ k))) (t.keyMask &&& hashValue)

theorem SameIndex.iff (pBuckets : ℕ) (hk : k < 32) {hashValue : BitVec 64} : SameIndex t k hashValue ↔
    (t.changed (BitVec.ofNat 32 (2 ^ k)) pBuckets).index hashValue = t.index hashValue := by
  rw [changed_index t hk, HashTable.index]
  exact ⟨fun h => congrArg BitVec.toNat h.symm, fun h => (BitVec.eq_of_toNat_eq h).symm⟩

theorem newCount_ne_zero (hk : k < 32) : newCount (BitVec.ofNat 32 (2 ^ k)) ≠ 0 := by
  intro h0
  have hnat := newCount_pow hk
  rw [h0] at hnat
  exact absurd hnat (Nat.two_pow_pos _).ne

/-- The index after the change is inside the new array. -/
theorem changed_index_lt (t : HashTable) (hk : k < 32) (pBuckets : ℕ) (hashValue : BitVec 64) :
    (t.changed (BitVec.ofNat 32 (2 ^ k)) pBuckets).index hashValue < 2 ^ min k 26 := by
  rw [changed_index t hk, ← newCount_pow hk]
  exact bucket_index_lt _ (newCount_ne_zero hk) _

/-- Entries that keep their index are found as before. -/
theorem keeps_of_same_index (h : Holds t m key es) (hk : k < 32)
    (hnew : NewArray t m es pBuckets (2 ^ min k 26)) (hfuel : es.length < fuel) (hash : ℕ)
    (hsame : ∀ e ∈ es, SameIndex t k (key e)) : ChangeKeeps fuel hash t k pBuckets m := by
  have hindex : ∀ e ∈ es, (t.changed (BitVec.ofNat 32 (2 ^ k)) pBuckets).index (key e) =
      t.index (key e) := fun e he => (SameIndex.iff _ hk).1 (hsame e he)
  obtain ⟨m', ns, written, hrun, hend, hperm, hbelow⟩ :=
    (change_table_spec h hk hnew hfuel hash).1 fun e he => by
      rw [← hindex e he]
      exact changed_index_lt t hk pBuckets (key e)
  -- the new table holds the entries
  have hholds : Holds (t.changed (BitVec.ofNat 32 (2 ^ k)) pBuckets) m' key ns := by
    refine ⟨?_, ?_, hperm.nodup_iff.2 h.nodup, ?_, ?_⟩
    · rw [changed_count t hk]
      exact newCount_ne_zero hk
    · rw [hperm.length_eq]
      exact h.items
    · intro e he
      have hold := hend.entries e he
      refine ⟨hold.ne_null, hold.aligned, hold.cell, hold.value, fun i hi => ?_⟩
      rw [changed_count t hk, newCount_pow hk] at hi
      rintro rfl
      exact hend.array.entries i hi he
    · intro i hi
      rw [changed_count t hk, newCount_pow hk] at hi
      have hfilter : (ns.filter fun e => (t.changed (BitVec.ofNat 32 (2 ^ k)) pBuckets).index
          (key e) = i) = ns.filter fun e => t.index (key e) = i :=
        List.filter_congr fun e he => by rw [hindex e (hperm.mem_iff.1 he)]
      rw [hfilter]
      exact hend.new i hi
  refine ⟨_, _, m', written, hrun, rfl, hbelow, fun hashValue => ?_⟩
  refine ⟨_, _, find_all_holds h hashValue hfuel,
    find_all_holds hholds hashValue (by rw [hperm.length_eq]; exact hfuel), fun e => ?_⟩
  rw [changed_keyMask, List.mem_filter, List.mem_filter, hperm.mem_iff]

/-- An entry that does not keep its index is lost, or it is written behind the array. -/
theorem same_index_of_keeps (h : Holds t m key es) (hk : k < 32)
    (hnew : NewArray t m es pBuckets (2 ^ min k 26)) (hfuel : es.length < fuel) {hash : ℕ}
    (hkeeps : ChangeKeeps fuel hash t k pBuckets m) : ∀ e ∈ es, SameIndex t k (key e) := by
  obtain ⟨old, t', m', written, hrun, -, hbelow, hfound⟩ := hkeeps
  obtain ⟨hgood, hbad⟩ := change_table_spec h hk hnew hfuel hash
  have hinside : ∀ e ∈ es, t.index (key e) < 2 ^ min k 26 := by
    intro e he
    by_contra hge
    obtain ⟨i, hi, hci⟩ := hbad e he (Nat.le_of_not_lt hge) _ written hrun
    have hlt := hbelow i hi
    omega
  obtain ⟨m'', ns, written', hrun', hend, hperm, -⟩ := hgood hinside
  rw [hrun] at hrun'
  obtain ⟨hres, -⟩ := Prod.mk.inj (Option.some.inj hrun')
  obtain ⟨-, hres⟩ := Prod.mk.inj hres
  obtain ⟨rfl, rfl⟩ := Prod.mk.inj hres
  intro e he
  rw [SameIndex.iff pBuckets hk]
  by_contra hmoved
  obtain ⟨found, found', hold, hafter, hiff⟩ := hfound (key e)
  -- the old table finds the entry under its own hash value
  have hin : e ∈ found := by
    have hfind := find_all_holds h (key e) hfuel
    rw [hold] at hfind
    obtain rfl := Option.some.inj hfind
    exact List.mem_filter.2 ⟨he, by simp⟩
  -- the new one searches a list that does not hold it
  set t' := t.changed (BitVec.ofNat 32 (2 ^ k)) pBuckets with ht'
  have hcount : t'.count ≠ 0 := by
    rw [ht', changed_count t hk]
    exact newCount_ne_zero hk
  have hsearch : HashTableFindNext fuel t' (key e) 0 m' =
      find_loop m' t'.keyMask (t'.keyMask &&& key e) fuel
        (bucketAt t'.Buckets (t'.index (key e))) := by
    rw [HashTableFindNext, if_neg (by simp), if_neg hcount]
    rfl
  have hmem : ∀ a ∈ ns.filter (fun a => t.index (key a) = t'.index (key e)), a ∈ [] ++ ns :=
    fun a ha => (List.mem_filter.1 ha).1
  have hlen : (ns.filter fun a => t.index (key a) = t'.index (key e)).length < fuel :=
    lt_of_le_of_lt (List.length_filter_le _ _) (by rw [hperm.length_eq]; exact hfuel)
  have hfind := find_all_spec (key e) key _
    (hend.new (t'.index (key e)) (changed_index_lt t hk pBuckets (key e))) hsearch
    (fun a ha => (hend.entries a (hmem a ha)).ne_null)
    (fun a ha => (hend.entries a (hmem a ha)).value) hlen hlen
  rw [hafter] at hfind
  obtain rfl := Option.some.inj hfind
  have hbucket := (List.mem_filter.1 (List.mem_filter.1 ((hiff e).1 hin)).1).2
  exact hmoved (of_decide_eq_true hbucket).symm

/-- **A change of size keeps the table exactly if no entry changes its index.** For a populated
table and a new array of any power of two of words that is apart from the table and its entries:
`HashTableChangeTable` returns, keeps `ItemCount`, writes only indices below the new size, and the
repeated search finds the same entries for every hash value before and after, if and only if every
entry has the same index under the old and the new size. -/
theorem change_table_iff (h : Holds t m key es) (hk : k < 32)
    (hnew : NewArray t m es pBuckets (2 ^ min k 26)) (hfuel : es.length < fuel) (hash : ℕ) :
    ChangeKeeps fuel hash t k pBuckets m ↔ ∀ e ∈ es, SameIndex t k (key e) :=
  ⟨same_index_of_keeps h hk hnew hfuel, keeps_of_same_index h hk hnew hfuel hash⟩

end Change

/-! ### A table with one bucket that grows -/

/-- A table with one bucket, and one entry in it. -/
def oneBucket : HashTable := ⟨1, 0x20, 0xFFFF800000000000⟩

/-- Its memory; the hash value of the entry is `hashValue`. -/
def oneBucketMem (hashValue : BitVec 64) : HashMem where
  next a := some (if a = 0xFFFF800000000000 then 0xFFFF900000000000 else 0xFFFFF80000000001)
  hashValue _ := some hashValue

theorem oneBucket_holds (hashValue : BitVec 64) :
    Holds oneBucket (oneBucketMem hashValue) (fun _ => hashValue) [0xFFFF900000000000] := by
  have hcount : oneBucket.count = 1 := by decide
  have hindex : oneBucket.index hashValue = 0 := by
    have hlt : oneBucket.index hashValue < oneBucket.count.toNat :=
      bucket_index_lt _ (by rw [hcount]; decide) _
    rw [hcount] at hlt
    exact Nat.lt_one_iff.1 hlt
  refine ⟨by rw [hcount]; decide, rfl, List.nodup_singleton _, ?_, ?_⟩
  · intro e he
    rw [List.mem_singleton.1 he]
    refine ⟨by decide, by decide, rfl, rfl, fun i hi => ?_⟩
    rw [hcount] at hi
    obtain rfl := Nat.lt_one_iff.1 hi
    decide
  · intro i hi
    rw [hcount] at hi
    obtain rfl := Nat.lt_one_iff.1 hi
    rw [List.filter_cons_of_pos (by simp [hindex]), List.filter_nil]
    exact ⟨rfl, by decide, 0xFFFFF80000000001, rfl, by decide⟩

theorem oneBucket_newArray (hashValue : BitVec 64) :
    NewArray oneBucket (oneBucketMem hashValue) [0xFFFF900000000000] 0xFFFFA00000000000
      (2 ^ min 1 26) := by
  have hcount : oneBucket.count = 1 := by decide
  refine ⟨fun i _ => rfl, fun i _ j hj => ?_, fun i _ hin => ?_⟩
  · rw [hcount] at hj
    obtain rfl := Nat.lt_one_iff.1 hj
    change 0xFFFFA00000000000 + 8 * i ≠ 0xFFFF800000000000 + 8 * 0
    omega
  · have heq := List.mem_singleton.1 hin
    rw [bucketAt] at heq
    omega

/-- With the hash value 1 the entry keeps its index. -/
theorem change_table_keeps_one :
    ChangeKeeps 2 0xFFFFF80000000000 oneBucket 1 0xFFFFA00000000000 (oneBucketMem 1) := by
  have hsame : SameIndex oneBucket 1 1 := by
    unfold SameIndex
    decide +kernel
  exact (change_table_iff (oneBucket_holds 1) (by decide) (oneBucket_newArray 1) (by decide)
    0xFFFFF80000000000).2 fun e _ => hsame

/-- With the hash value 0 it is lost when the table grows to two buckets. -/
theorem change_table_loses_entry :
    Holds oneBucket (oneBucketMem 0) (fun _ => 0) [0xFFFF900000000000] ∧
      NewArray oneBucket (oneBucketMem 0) [0xFFFF900000000000] 0xFFFFA00000000000
        (2 ^ min 1 26) ∧
      ¬ ChangeKeeps 2 0xFFFFF80000000000 oneBucket 1 0xFFFFA00000000000 (oneBucketMem 0) := by
  refine ⟨oneBucket_holds 0, oneBucket_newArray 0, fun hkeeps => ?_⟩
  have hsame := same_index_of_keeps (oneBucket_holds 0) (by decide) (oneBucket_newArray 0)
    (by decide) hkeeps _ List.mem_cons_self
  have hne : ¬ SameIndex oneBucket 1 0 := by
    unfold SameIndex
    decide +kernel
  exact hne hsame

end Svmx.MpHash
