/-
The iterator of a hash table: `HashTableIterInit`, `HashTableIterGetNext`, `HashTableIterRemove`.

The iterator stands on a cell of a list, `HashEntry`, and remembers the head of that list, `Bucket`.
At the start, and after the removal of the first entry of a list, that cell is the list head itself.
`HashTableIterRemove` looks for the cell before `HashEntry` from the list head on, unlinks
`HashEntry` and steps back to that cell.

The calls may come in any order (`iterate_table`): an entry is never returned twice, all have been
returned when `HashTableIterGetNext` returns `NULL`, and what is gone afterwards are the entries that
`HashTableIterRemove` returned.
-/
import Svmx.MpRemove

set_option autoImplicit false

namespace Svmx.MpHash

/-! ## The functions -/

/-- `HASH_TABLE_ITERATOR`; the table is an argument of the functions. -/
structure HashTableIterator where
  HashEntry : ℕ
  Bucket : ℕ
deriving DecidableEq

/-- `HashTableIterInit`. -/
def HashTableIterInit (t : HashTable) : HashTableIterator := ⟨t.Buckets, t.Buckets⟩

/-- The loop of `HashTableIterGetNext`: the next list head that has an entry, if there is one. -/
def next_bucket (m : HashMem) (pEnd : ℕ) : ℕ → ℕ → Option (Option ℕ)
  | 0, _ => none
  | fuel + 1, pBucket =>
    if pEnd ≤ pBucket then some none
    else do
      if ← HashBucketLastLink m pBucket then next_bucket m pEnd fuel (pBucket + 8)
      else some (some pBucket)

/-- `HashTableIterGetNext`; `0` is `NULL`. -/
def HashTableIterGetNext (fuel : ℕ) (t : HashTable) (m : HashMem) (Iterator : HashTableIterator) :
    Option (ℕ × HashTableIterator) := do
  let pLink := Iterator.HashEntry
  let last ← if pLink = 0 then some true else HashBucketLastLink m pLink
  if last then
    match ← next_bucket m (bucketAt t.Buckets t.count.toNat) fuel (Iterator.Bucket + 8) with
    | none => some (0, Iterator)
    | some pBucket => do
      let pHashEntry ← m.next pBucket
      some (pHashEntry, ⟨pHashEntry, pBucket⟩)
  else do
    let next ← m.next pLink
    some (next, { Iterator with HashEntry := next })

/-- The loop of `HashTableIterRemove`. -/
def iter_remove_loop (t : HashTable) (m : HashMem) (Iterator : HashTableIterator) :
    ℕ → ℕ → Option (ℕ × HashTable × HashMem × HashTableIterator)
  | 0, _ => none
  | fuel + 1, pBucket => do
    if ← HashBucketLastLink m pBucket then some (0, t, m, Iterator)
    else do
      let next ← m.next pBucket
      if next = Iterator.HashEntry then do
        let m ← unlink_entry m pBucket next
        some (next, { t with ItemCount := t.ItemCount - 1 }, m,
          { Iterator with HashEntry := pBucket })
      else iter_remove_loop t m Iterator fuel next

/-- `HashTableIterRemove`; `0` is `NULL`. -/
def HashTableIterRemove (fuel : ℕ) (t : HashTable) (m : HashMem) (Iterator : HashTableIterator) :
    Option (ℕ × HashTable × HashMem × HashTableIterator) :=
  iter_remove_loop t m Iterator fuel Iterator.Bucket

/-! ## Runs -/

/-- A call: `HashTableIterGetNext` or `HashTableIterRemove`. -/
inductive IterCall where
  | next
  | remove
deriving DecidableEq

/-- A table, its memory, and an iterator over it. -/
structure IterState where
  table : HashTable
  mem : HashMem
  iter : HashTableIterator

/-- One call and what it returns. -/
def iter_call (fuel : ℕ) (s : IterState) : IterCall → Option (ℕ × IterState)
  | .next => do
    let (r, iter) ← HashTableIterGetNext fuel s.table s.mem s.iter
    some (r, { s with iter := iter })
  | .remove => do
    let (r, table, mem, iter) ← HashTableIterRemove fuel s.table s.mem s.iter
    some (r, ⟨table, mem, iter⟩)

/-- A run: the calls in order, with what each returns. -/
def iter_run (fuel : ℕ) : List IterCall → IterState → Option (List (IterCall × ℕ) × IterState)
  | [], s => some ([], s)
  | c :: calls, s => do
    let (r, s) ← iter_call fuel s c
    let (log, s) ← iter_run fuel calls s
    some ((c, r) :: log, s)

/-- What the calls of one kind returned, without `NULL`. -/
def results (c : IterCall) (log : List (IterCall × ℕ)) : List ℕ :=
  (log.filter fun r => r.1 = c ∧ r.2 ≠ 0).map Prod.snd

/-! ## The position of the iterator -/

section Position

variable {t : HashTable} {m : HashMem} {key : ℕ → BitVec 64}

/-- The iterator stands in the list `i` of a table that holds `es`, behind the entries `l₁` and before
the entries `l₂`. -/
structure StandsAt (t : HashTable) (key : ℕ → BitVec 64) (es : List ℕ) (it : HashTableIterator)
    (i : ℕ) (l₁ l₂ : List ℕ) : Prop where
  below : i < t.count.toNat
  bucket : it.Bucket = bucketAt t.Buckets i
  entry : it.HashEntry = l₁.getLastD (bucketAt t.Buckets i)
  split : (es.filter fun e => t.index (key e) = i) = l₁ ++ l₂

variable {es : List ℕ} {it : HashTableIterator} {i : ℕ} {l₁ l₂ : List ℕ}

/-- The list behind the iterator. -/
theorem StandsAt.chain (h : StandsAt t key es it i l₁ l₂) (hholds : Holds t m key es) :
    Chain m it.HashEntry l₂ := by
  have hchain := hholds.chains i h.below
  rw [h.split] at hchain
  rw [h.entry]
  exact hchain.suffix

theorem StandsAt.nodup (h : StandsAt t key es it i l₁ l₂) (hholds : Holds t m key es) :
    (l₁ ++ l₂).Nodup := by
  rw [← h.split]
  exact hholds.nodup.filter _

theorem StandsAt.mem_iff (h : StandsAt t key es it i l₁ l₂) (e : ℕ) :
    e ∈ l₁ ++ l₂ ↔ e ∈ es ∧ t.index (key e) = i := by
  rw [← h.split, List.mem_filter, decide_eq_true_eq]

/-- `HashTableIterInit` puts the iterator before the first list. -/
theorem standsAt_init (hholds : Holds t m key es) :
    StandsAt t key es (HashTableIterInit t) 0 []
      (es.filter fun e => t.index (key e) = 0) := by
  refine ⟨?_, rfl, rfl, rfl⟩
  have hpos : t.count.toNat ≠ 0 := fun h0 => hholds.count (BitVec.eq_of_toNat_eq h0)
  omega

/-- The search for the next list with an entry. -/
theorem next_bucket_spec (hholds : Holds t m key es) {n j fuel : ℕ} (hn : j + n = t.count.toNat)
    (hfuel : n < fuel) :
    (next_bucket m (bucketAt t.Buckets t.count.toNat) fuel (bucketAt t.Buckets j) = some none ∧
      ∀ e ∈ es, t.index (key e) < j) ∨
    ∃ k a l, j ≤ k ∧ k < t.count.toNat ∧
      next_bucket m (bucketAt t.Buckets t.count.toNat) fuel (bucketAt t.Buckets j) =
        some (some (bucketAt t.Buckets k)) ∧
      (es.filter fun e => t.index (key e) = k) = a :: l ∧
      ∀ e ∈ es, j ≤ t.index (key e) → k ≤ t.index (key e) := by
  induction n generalizing j fuel with
  | zero =>
    obtain ⟨fuel, rfl⟩ : ∃ f, fuel = f + 1 := ⟨fuel - 1, by omega⟩
    obtain rfl : j = t.count.toNat := by omega
    refine Or.inl ⟨by rw [next_bucket, if_pos le_rfl], fun e _ => ?_⟩
    exact bucket_index_lt t.count hholds.count _
  | succ n ih =>
    obtain ⟨fuel, rfl⟩ : ∃ f, fuel = f + 1 := ⟨fuel - 1, by omega⟩
    have hj : j < t.count.toNat := by omega
    have hend : ¬ bucketAt t.Buckets t.count.toNat ≤ bucketAt t.Buckets j := by
      unfold bucketAt
      omega
    have hnext : bucketAt t.Buckets j + 8 = bucketAt t.Buckets (j + 1) := by
      unfold bucketAt
      omega
    have hchain := hholds.chains j hj
    rw [next_bucket, if_neg hend, hnext]
    rcases hl : es.filter fun e => t.index (key e) = j with _ | ⟨a, l⟩
    · rw [hl] at hchain
      obtain ⟨w, hw, hodd⟩ := hchain
      -- no entry has this index
      have hempty : ∀ e ∈ es, t.index (key e) ≠ j := by
        intro e he heq
        exact absurd (of_decide_eq_true (p := t.index (key e) = j) (by simpa using heq))
          (by simpa using List.filter_eq_nil_iff.1 hl e he)
      have hstep : (do
          if ← HashBucketLastLink m (bucketAt t.Buckets j) then
            next_bucket m (bucketAt t.Buckets t.count.toNat) fuel (bucketAt t.Buckets (j + 1))
          else some (some (bucketAt t.Buckets j))) =
          next_bucket m (bucketAt t.Buckets t.count.toNat) fuel (bucketAt t.Buckets (j + 1)) := by
        simp [HashBucketLastLink, hw, hodd]
      rw [hstep]
      rcases @ih (j + 1) fuel (by omega) (by omega) with
        ⟨hnone, hall⟩ | ⟨k, a, l, hjk, hk, hsome, hfilter, hall⟩
      · refine Or.inl ⟨hnone, fun e he => ?_⟩
        have hlt := hall e he
        have hne := hempty e he
        omega
      · refine Or.inr ⟨k, a, l, by omega, hk, hsome, hfilter, fun e he hje => hall e he ?_⟩
        have hne := hempty e he
        omega
    · rw [hl] at hchain
      refine Or.inr ⟨j, a, l, le_rfl, hj, ?_, hl, fun e _ hje => hje⟩
      simp [HashBucketLastLink, hchain.1, hchain.2.1]

/-- The iterator does not stand on `NULL`. -/
theorem StandsAt.ne_null (h : StandsAt t key es it i l₁ l₂) (hholds : Holds t m key es)
    (hbuckets : t.Buckets ≠ 0) : it.HashEntry ≠ 0 := by
  rw [h.entry]
  rcases List.mem_cons.1 (getLastD_mem_cons (bucketAt t.Buckets i) l₁) with hhead | hin
  · rw [hhead, bucketAt]
    omega
  · exact (hholds.entries _ ((h.mem_iff _).1 (List.mem_append_left l₂ hin)).1).ne_null

/-- **`HashTableIterGetNext` within a list** returns the next entry of it. -/
theorem StandsAt.next_in_list {a : ℕ} (h : StandsAt t key es it i l₁ (a :: l₂))
    (hholds : Holds t m key es) (hbuckets : t.Buckets ≠ 0) (fuel : ℕ) :
    HashTableIterGetNext fuel t m it = some (a, { it with HashEntry := a }) ∧
      StandsAt t key es { it with HashEntry := a } i (l₁ ++ [a]) l₂ := by
  obtain ⟨hnext, heven, -⟩ := h.chain hholds
  constructor
  · simp [HashTableIterGetNext, h.ne_null hholds hbuckets, HashBucketLastLink, hnext, heven]
  · refine ⟨h.below, h.bucket, by simp, ?_⟩
    rw [h.split]
    simp

/-- **`HashTableIterGetNext` at the end of a list** goes on with the next list that has an entry, or
returns `NULL` and stays. -/
theorem StandsAt.next_list (h : StandsAt t key es it i l₁ []) (hholds : Holds t m key es)
    (hbuckets : t.Buckets ≠ 0) {fuel : ℕ} (hfuel : t.count.toNat < fuel) :
    (HashTableIterGetNext fuel t m it = some (0, it) ∧ ∀ e ∈ es, t.index (key e) ≤ i) ∨
    ∃ k a l, i < k ∧ HashTableIterGetNext fuel t m it = some (a, ⟨a, bucketAt t.Buckets k⟩) ∧
      StandsAt t key es ⟨a, bucketAt t.Buckets k⟩ k [a] l ∧
      ∀ e ∈ es, i < t.index (key e) → k ≤ t.index (key e) := by
  obtain ⟨w, hw, hodd⟩ := h.chain hholds
  have hlt := h.below
  have hstep : it.Bucket + 8 = bucketAt t.Buckets (i + 1) := by
    rw [h.bucket]
    unfold bucketAt
    omega
  have hget : HashTableIterGetNext fuel t m it =
      (next_bucket m (bucketAt t.Buckets t.count.toNat) fuel (bucketAt t.Buckets (i + 1))).bind
        fun r => match r with
          | none => some (0, it)
          | some pBucket => (m.next pBucket).bind fun e => some (e, ⟨e, pBucket⟩) := by
    simp only [HashTableIterGetNext, h.ne_null hholds hbuckets, if_false, HashBucketLastLink, hw,
      hodd, hstep, Option.bind_eq_bind, Option.bind_some, BEq.rfl, if_true]
  have hrest : i + 1 + (t.count.toNat - (i + 1)) = t.count.toNat := by omega
  have hrounds : t.count.toNat - (i + 1) < fuel := by omega
  rcases next_bucket_spec hholds hrest hrounds with ⟨hnone, hall⟩ | ⟨k, a, l, hjk, hk, hsome, hfilter, hall⟩
  · refine Or.inl ⟨by rw [hget, hnone]; rfl, fun e he => ?_⟩
    have hle := hall e he
    omega
  · have hchain := hholds.chains k hk
    rw [hfilter] at hchain
    refine Or.inr ⟨k, a, l, hjk, ?_, ⟨hk, rfl, rfl, hfilter⟩, fun e he hie => hall e he hie⟩
    rw [hget, hsome, Option.bind_some]
    simp only [hchain.1, Option.bind_some]

/-! ## Removing -/

/-- The search for the cell before the iterator, where the iterator stands on no entry of the list. -/
theorem iter_remove_none {p : ℕ} {l : List ℕ} (h : Chain m p l) (hnot : it.HashEntry ∉ l)
    {fuel : ℕ} (hfuel : l.length < fuel) :
    iter_remove_loop t m it fuel p = some (0, t, m, it) := by
  induction l generalizing p fuel with
  | nil =>
    obtain ⟨w, hw, hodd⟩ := h
    obtain ⟨fuel, rfl⟩ : ∃ f, fuel = f + 1 := ⟨fuel - 1, by omega⟩
    simp [iter_remove_loop, HashBucketLastLink, hw, hodd]
  | cons e l ih =>
    obtain ⟨hp, heven, hc⟩ := h
    rw [List.length_cons] at hfuel
    obtain ⟨fuel, rfl⟩ : ∃ f, fuel = f + 1 := ⟨fuel - 1, by omega⟩
    have hne : e ≠ it.HashEntry := fun heq => hnot (heq ▸ List.mem_cons_self)
    have hlen : l.length < fuel := by omega
    have hrest := ih hc (fun hin => hnot (List.mem_cons_of_mem e hin)) hlen
    simp [iter_remove_loop, HashBucketLastLink, hp, heven, hne, hrest]

/-- And where it stands on one: the entry is unlinked from the cell before it. -/
theorem iter_remove_found {p : ℕ} {l₁ l₂ : List ℕ} (h : Chain m p (l₁ ++ it.HashEntry :: l₂))
    (hnot : it.HashEntry ∉ l₁) {fuel : ℕ} (hfuel : l₁.length < fuel) :
    iter_remove_loop t m it fuel p = (unlink_entry m (l₁.getLastD p) it.HashEntry).bind fun m' =>
      some (it.HashEntry, { t with ItemCount := t.ItemCount - 1 }, m',
        { it with HashEntry := l₁.getLastD p }) := by
  induction l₁ generalizing p fuel with
  | nil =>
    obtain ⟨hp, heven, -⟩ := h
    obtain ⟨fuel, rfl⟩ : ∃ f, fuel = f + 1 := ⟨fuel - 1, by omega⟩
    simp [iter_remove_loop, HashBucketLastLink, hp, heven]
  | cons e l₁ ih =>
    obtain ⟨hp, heven, hc⟩ := h
    rw [List.length_cons] at hfuel
    obtain ⟨fuel, rfl⟩ : ∃ f, fuel = f + 1 := ⟨fuel - 1, by omega⟩
    have hne : e ≠ it.HashEntry := fun heq => hnot (heq ▸ List.mem_cons_self)
    have hlen : l₁.length < fuel := by omega
    have hrest := ih hc (fun hin => hnot (List.mem_cons_of_mem e hin)) hlen
    rw [List.getLastD_cons, ← hrest]
    simp [iter_remove_loop, HashBucketLastLink, hp, heven, hne]

/-- **`HashTableIterRemove` before any entry of the list** returns `NULL` and changes nothing. -/
theorem StandsAt.remove_none (h : StandsAt t key es it i [] l₂) (hholds : Holds t m key es)
    {fuel : ℕ} (hfuel : es.length < fuel) :
    HashTableIterRemove fuel t m it = some (0, t, m, it) := by
  have hchain := hholds.chains i h.below
  have hlen := List.length_filter_le (fun e => t.index (key e) = i) es
  rw [HashTableIterRemove, h.bucket]
  refine iter_remove_none hchain (fun hin => ?_) (by omega)
  rw [h.entry] at hin
  exact (hholds.entries _ (List.mem_filter.1 hin).1).apart i h.below rfl

/-- **`HashTableIterRemove` on an entry** takes it out, returns it and steps back. -/
theorem StandsAt.remove {a : ℕ} (h : StandsAt t key es it i (l₁ ++ [a]) l₂)
    (hholds : Holds t m key es) {fuel : ℕ} (hfuel : es.length < fuel) :
    ∃ m', HashTableIterRemove fuel t m it = some (a, { t with ItemCount := t.ItemCount - 1 }, m',
        { it with HashEntry := l₁.getLastD (bucketAt t.Buckets i) }) ∧
      Holds { t with ItemCount := t.ItemCount - 1 } m' key (es.erase a) ∧
      StandsAt { t with ItemCount := t.ItemCount - 1 } key (es.erase a)
        { it with HashEntry := l₁.getLastD (bucketAt t.Buckets i) } i l₁ l₂ := by
  have hentry : it.HashEntry = a := by rw [h.entry]; simp
  have hsplit : (es.filter fun e => t.index (key e) = i) = l₁ ++ a :: l₂ := by
    rw [h.split]
    simp
  have hchain := hholds.chains i h.below
  have hnd := h.nodup hholds
  have hlen := List.length_filter_le (fun e => t.index (key e) = i) es
  rw [hsplit] at hchain hlen
  rw [List.length_append, List.length_cons] at hlen
  obtain ⟨m', hunlink, -, hholds'⟩ := hholds.unlink h.below hsplit
  refine ⟨m', ?_, hholds', ⟨h.below, h.bucket, rfl, erase_filter_append hholds.nodup hsplit⟩⟩
  rw [HashTableIterRemove, h.bucket]
  have hnot : a ∉ l₁ := by
    intro hin
    rw [List.append_assoc] at hnd
    exact (List.nodup_append.1 hnd).2.2 a hin a (by simp) rfl
  rw [← hentry] at hchain hnot
  have hrounds : l₁.length < fuel := by omega
  have hrun := @iter_remove_found t m it _ _ _ hchain hnot fuel hrounds
  rw [hrun, hentry, hunlink, Option.bind_some, h.bucket]

end Position

/-! ## Every order of calls -/

/-- The entries that are left of `es` when `gone` have been removed. -/
def left (es gone : List ℕ) : List ℕ := es.filter fun e => e ∉ gone

theorem left_nil (es : List ℕ) : left es [] = es := by simp [left]

theorem left_concat {es gone : List ℕ} (hnd : es.Nodup) (a : ℕ) :
    left es (gone ++ [a]) = (left es gone).erase a := by
  rw [left, left, List.Nodup.erase_eq_filter (hnd.filter _), List.filter_filter]
  refine List.filter_congr fun e _ => ?_
  by_cases he : e = a
  · simp [he]
  · simp [he]

/-- **The invariant of a run** over a table that held `es`: `shown` have been returned, `gone` have
been removed, and the iterator stands in a list such that what has not been returned yet is behind it
there or in a later list. -/
structure Iterating (key : ℕ → BitVec 64) (es : List ℕ) (buckets n : ℕ) (shown gone : List ℕ)
    (s : IterState) : Prop where
  holds : Holds s.table s.mem key (left es gone)
  table : s.table.Buckets = buckets ∧ s.table.count.toNat = n
  nodup : es.Nodup
  shown_nodup : shown.Nodup
  shown_mem : ∀ e ∈ shown, e ∈ es
  gone_nodup : gone.Nodup
  gone_shown : ∀ e ∈ gone, e ∈ shown
  stands : ∃ i l₁ l₂, StandsAt s.table key (left es gone) s.iter i l₁ l₂ ∧
    ∀ e ∈ es, e ∉ shown ↔ e ∈ l₂ ∨ i < s.table.index (key e)

section Run

variable {key : ℕ → BitVec 64} {es : List ℕ} {buckets n fuel : ℕ} {shown gone : List ℕ}
  {s : IterState}

/-- The start. -/
theorem iterating_init {t : HashTable} {m : HashMem} (h : Holds t m key es) :
    Iterating key es t.Buckets t.count.toNat [] [] ⟨t, m, HashTableIterInit t⟩ := by
  refine ⟨by rw [left_nil]; exact h, ⟨rfl, rfl⟩, h.nodup, List.nodup_nil, by simp, List.nodup_nil,
    by simp, 0, [], es.filter (fun e => t.index (key e) = 0), ?_, fun e he => ?_⟩
  · rw [left_nil]
    exact standsAt_init h
  · simp only [List.not_mem_nil, not_false_eq_true, List.mem_filter, he, decide_eq_true_eq, true_and,
      true_iff]
    omega

/-- What has not been returned has not been removed. -/
theorem Iterating.mem_left (h : Iterating key es buckets n shown gone s) {e : ℕ} (he : e ∈ es)
    (hnew : e ∉ shown) : e ∈ left es gone :=
  List.mem_filter.2 ⟨he, by simpa using fun hin => hnew (h.gone_shown e hin)⟩

/-- The result of a step of the run. -/
structure NextStep (key : ℕ → BitVec 64) (es : List ℕ) (buckets n : ℕ) (shown gone : List ℕ)
    (r : ℕ) (s' : IterState) : Prop where
  done : r = 0 → (∀ e ∈ es, e ∈ shown) ∧ Iterating key es buckets n shown gone s'
  more : r ≠ 0 → s'.iter.HashEntry = r ∧ r ∈ left es gone ∧
    Iterating key es buckets n (shown ++ [r]) gone s'

/-- An entry that was not returned before is returned. -/
theorem Iterating.show (h : Iterating key es buckets n shown gone s) {a k : ℕ}
    {l₁ l₂ : List ℕ} {it : HashTableIterator} (hnew : a ∉ shown)
    (hstands : StandsAt s.table key (left es gone) it k (l₁ ++ [a]) l₂) (hentry : it.HashEntry = a)
    (hrest : ∀ e ∈ es, e ≠ a → (e ∉ shown ↔ e ∈ l₂ ∨ k < s.table.index (key e))) :
    NextStep key es buckets n shown gone a { s with iter := it } := by
  have ha : a ∈ left es gone ∧ s.table.index (key a) = k :=
    (hstands.mem_iff a).1 (by simp)
  have haes := (List.mem_filter.1 ha.1).1
  have hnot : a ∉ l₂ := by
    have hnd := hstands.nodup h.holds
    rw [List.append_assoc] at hnd
    exact (List.nodup_cons.1 (List.nodup_append.1 hnd).2.1).1
  refine ⟨fun h0 => absurd h0 (h.holds.entries a ha.1).ne_null, fun _ => ⟨hentry, ha.1, ?_⟩⟩
  refine ⟨h.holds, h.table, h.nodup, ?_, ?_, h.gone_nodup, ?_, k, l₁ ++ [a], l₂, hstands, ?_⟩
  · exact List.nodup_append.2 ⟨h.shown_nodup, List.nodup_singleton a, fun e he b hb heq =>
      hnew (List.mem_singleton.1 hb ▸ heq ▸ he)⟩
  · intro e he
    rcases List.mem_append.1 he with he | he
    · exact h.shown_mem e he
    · rw [List.mem_singleton.1 he]
      exact haes
  · intro e he
    exact List.mem_append_left _ (h.gone_shown e he)
  · intro e he
    by_cases hea : e = a
    · subst hea
      simp [hnot, ha.2]
    · simp only [List.mem_append, List.mem_singleton, hea, or_false]
      exact hrest e he hea

/-- **`HashTableIterGetNext`** returns an entry that was not returned before, or `NULL` when there is
none. -/
theorem Iterating.next (h : Iterating key es buckets n shown gone s) (hbuckets : buckets ≠ 0)
    (hfuel : n < fuel) :
    ∃ r s', iter_call fuel s .next = some (r, s') ∧ NextStep key es buckets n shown gone r s' := by
  obtain ⟨i, l₁, l₂, hstands, hleft⟩ := h.stands
  have hb : s.table.Buckets ≠ 0 := by
    rw [h.table.1]
    exact hbuckets
  -- what is left of the list the iterator is in comes first
  cases l₂ with
  | cons a l₂ =>
    obtain ⟨hget, hstands'⟩ := hstands.next_in_list h.holds hb fuel
    have ha := (hstands.mem_iff a).1 (by simp)
    refine ⟨a, _, by rw [iter_call, hget]; rfl, h.show ?_ hstands' rfl ?_⟩
    · exact (hleft a (List.mem_filter.1 ha.1).1).2 (Or.inl List.mem_cons_self)
    · intro e he hne
      rw [hleft e he, List.mem_cons]
      simp [hne]
  | nil =>
    have hbuckets : s.table.count.toNat < fuel := by
      rw [h.table.2]
      exact hfuel
    rcases hstands.next_list h.holds hb hbuckets with
      ⟨hget, hall⟩ | ⟨k, a, l, hik, hget, hstands', hall⟩
    · -- no list behind it has an entry: all were shown
      refine ⟨0, s, by rw [iter_call, hget]; rfl, fun _ => ⟨fun e he => ?_, h⟩,
        fun h0 => absurd rfl h0⟩
      by_contra hnew
      have hlt := ((hleft e he).1 hnew).resolve_left List.not_mem_nil
      have hle := hall e (h.mem_left he hnew)
      omega
    · have ha := (hstands'.mem_iff a).1 (by simp)
      rw [← List.nil_append [a]] at hstands'
      refine ⟨a, _, by rw [iter_call, hget]; rfl, h.show ?_ hstands' rfl ?_⟩
      · exact (hleft a (List.mem_filter.1 ha.1).1).2 (Or.inr (by rw [ha.2]; exact hik))
      · intro e he hne
        rw [hleft e he]
        simp only [List.not_mem_nil, false_or]
        constructor
        · intro hlt
          have hin := h.mem_left he ((hleft e he).2 (Or.inr hlt))
          have hle := hall e hin hlt
          rcases Nat.lt_or_eq_of_le hle with hk | hk
          · exact Or.inr hk
          · have hmem := (hstands'.mem_iff e).2 ⟨hin, hk.symm⟩
            exact Or.inl (by simpa [hne] using hmem)
        · rintro (hin | hlt)
          · have hidx := ((hstands'.mem_iff e).1 (List.mem_append_right _ hin)).2
            rw [hidx]
            exact hik
          · omega

/-- **`HashTableIterRemove`** takes out an entry that was returned before, the one that the iterator
stands on, or returns `NULL` before any entry of a list. -/
theorem Iterating.remove (h : Iterating key es buckets n shown gone s) (hfuel : es.length < fuel) :
    ∃ r s', iter_call fuel s .remove = some (r, s') ∧
      (r = 0 → s.iter.HashEntry ∉ left es gone ∧ Iterating key es buckets n shown gone s') ∧
      (r ≠ 0 → r = s.iter.HashEntry ∧ Iterating key es buckets n shown (gone ++ [r]) s') := by
  obtain ⟨i, l₁, l₂, hstands, hleft⟩ := h.stands
  have hlen : (left es gone).length < fuel := lt_of_le_of_lt (List.length_filter_le _ _) hfuel
  rcases List.eq_nil_or_concat l₁ with rfl | ⟨l₁, a, rfl⟩
  · refine ⟨0, s, ?_, fun _ => ⟨fun hin => ?_, h⟩, fun h0 => absurd rfl h0⟩
    · rw [iter_call, hstands.remove_none h.holds hlen]
      rfl
    · exact (h.holds.entries _ hin).apart i hstands.below hstands.entry
  · rw [List.concat_eq_append] at hstands
    obtain ⟨m', hrun, hholds, hstands'⟩ := hstands.remove h.holds hlen
    have ha := (hstands.mem_iff a).1 (by simp)
    have hne := (h.holds.entries a ha.1).ne_null
    have hentry : s.iter.HashEntry = a := by
      rw [hstands.entry]
      simp
    have hshown : a ∈ shown := by
      by_contra hnew
      rcases (hleft a (List.mem_filter.1 ha.1).1).1 hnew with hin | hlt
      · have hnd := hstands.nodup h.holds
        exact (List.nodup_append.1 hnd).2.2 a (by simp) a hin rfl
      · rw [ha.2] at hlt
        omega
    refine ⟨a, _, by rw [iter_call, hrun]; rfl, fun h0 => absurd h0 hne, fun _ => ⟨hentry.symm, ?_⟩⟩
    refine ⟨?_, h.table, h.nodup, h.shown_nodup, h.shown_mem, ?_, ?_, i, l₁, l₂, ?_, hleft⟩
    · rw [left_concat h.nodup]
      exact hholds
    · exact List.nodup_append.2 ⟨h.gone_nodup, List.nodup_singleton a, fun e he b hb heq => by
        rw [List.mem_singleton.1 hb] at heq
        subst heq
        exact of_decide_eq_true (List.mem_filter.1 ha.1).2 he⟩
    · intro e he
      rcases List.mem_append.1 he with he | he
      · exact h.gone_shown e he
      · rw [List.mem_singleton.1 he]
        exact hshown
    · rw [left_concat h.nodup]
      exact hstands'

theorem results_cons (c c' : IterCall) (r : ℕ) (log : List (IterCall × ℕ)) :
    results c ((c', r) :: log) =
      (if c' = c ∧ r ≠ 0 then [r] else []) ++ results c log := by
  unfold results
  rw [List.filter_cons]
  by_cases h : c' = c ∧ r ≠ 0
  · simp [h]
  · simp [h]

/-- What a run of calls returns. -/
structure RunLog (es shown gone : List ℕ) (entry : ℕ) (calls : List IterCall)
    (log : List (IterCall × ℕ)) : Prop where
  calls : log.map Prod.fst = calls
  /-- at a `NULL` every entry has been returned -/
  exhausted : ∀ log₁ log₂, log = log₁ ++ (.next, 0) :: log₂ →
    ∀ e ∈ es, e ∈ shown ++ results .next log₁
  /-- a removal that comes first takes out what the iterator stands on -/
  first : ∀ r log₂, log = (.remove, r) :: log₂ → entry ∈ left es gone → r = entry
  /-- and one right after an entry was returned takes out that entry -/
  after : ∀ log₁ e r log₂, log = log₁ ++ (.next, e) :: (.remove, r) :: log₂ → e ≠ 0 → r = e

/-- The log of a run of one call more. -/
theorem RunLog.cons {c : IterCall} {r entry' : ℕ} {calls : List IterCall}
    {log : List (IterCall × ℕ)} {shown' gone' : List ℕ}
    (h : RunLog es shown' gone' entry' calls log)
    (hshown : shown' = shown ++ if c = .next ∧ r ≠ 0 then [r] else [])
    (hdone : c = .next → r = 0 → ∀ e ∈ es, e ∈ shown)
    (hfirst : c = .remove → s.iter.HashEntry ∈ left es gone → r = s.iter.HashEntry)
    (hnext : c = .next → r ≠ 0 → entry' = r ∧ r ∈ left es gone') :
    RunLog es shown gone s.iter.HashEntry (c :: calls) ((c, r) :: log) := by
  refine ⟨by rw [List.map_cons, h.calls], ?_, ?_, ?_⟩
  · intro log₁ log₂ hlog e he
    cases log₁ with
    | nil =>
      obtain ⟨hc, -⟩ := List.cons.inj hlog
      obtain ⟨rfl, rfl⟩ := Prod.mk.inj hc
      exact List.mem_append_left _ (hdone rfl rfl e he)
    | cons c' log₁ =>
      obtain ⟨rfl, hrest⟩ := List.cons.inj hlog
      have hin := h.exhausted log₁ log₂ hrest e he
      rw [hshown] at hin
      rw [results_cons, ← List.append_assoc]
      exact hin
  · intro r' log₂ hlog hin
    obtain ⟨hc, -⟩ := List.cons.inj hlog
    obtain ⟨rfl, rfl⟩ := Prod.mk.inj hc
    exact hfirst rfl hin
  · intro log₁ e r' log₂ hlog hne
    cases log₁ with
    | nil =>
      obtain ⟨hc, hrest⟩ := List.cons.inj hlog
      obtain ⟨rfl, rfl⟩ := Prod.mk.inj hc
      obtain ⟨rfl, hin⟩ := hnext rfl hne
      exact h.first r' log₂ hrest hin
    | cons c' log₁ =>
      obtain ⟨-, hrest⟩ := List.cons.inj hlog
      exact h.after log₁ e r' log₂ hrest hne

theorem iter_run_cons {c : IterCall} {r : ℕ} {s₁ s' : IterState} {calls : List IterCall}
    {log : List (IterCall × ℕ)} (hcall : iter_call fuel s c = some (r, s₁))
    (hrun : iter_run fuel calls s₁ = some (log, s')) :
    iter_run fuel (c :: calls) s = some ((c, r) :: log, s') := by
  rw [iter_run, hcall, Option.bind_eq_bind, Option.bind_some]
  dsimp only
  rw [hrun]
  rfl

/-- **A run** returns, and keeps the invariant. -/
theorem Iterating.run (h : Iterating key es buckets n shown gone s) (hbuckets : buckets ≠ 0)
    (hn : n < fuel) (hfuel : es.length < fuel) (calls : List IterCall) :
    ∃ log s', iter_run fuel calls s = some (log, s') ∧
      Iterating key es buckets n (shown ++ results .next log) (gone ++ results .remove log) s' ∧
      RunLog es shown gone s.iter.HashEntry calls log := by
  induction calls generalizing s shown gone with
  | nil =>
    refine ⟨[], s, rfl, ?_, rfl, by simp, by simp, by simp⟩
    simpa [results] using h
  | cons c calls ih =>
    cases c with
    | next =>
      obtain ⟨r, s₁, hcall, hdone, hmore⟩ := h.next hbuckets hn
      by_cases hr : r = 0
      · obtain ⟨hall, hinv⟩ := hdone hr
        obtain ⟨log, s', hrun, hinv', hlog⟩ := ih hinv
        refine ⟨(.next, r) :: log, s', iter_run_cons hcall hrun, ?_, hlog.cons ?_ (fun _ _ => hall) (fun hc => absurd hc (by decide))
          (fun _ hne => absurd hr hne)⟩
        · simpa [results_cons, hr] using hinv'
        · simp [hr]
      · obtain ⟨hentry, hin, hinv⟩ := hmore hr
        obtain ⟨log, s', hrun, hinv', hlog⟩ := ih hinv
        refine ⟨(.next, r) :: log, s', iter_run_cons hcall hrun, ?_, hlog.cons ?_ (fun _ h0 => absurd h0 hr) (fun hc => absurd hc (by decide))
          (fun _ _ => ⟨hentry, hin⟩)⟩
        · simpa [results_cons, hr] using hinv'
        · simp [hr]
    | remove =>
      obtain ⟨r, s₁, hcall, hnone, hsome⟩ := h.remove hfuel
      by_cases hr : r = 0
      · obtain ⟨hnot, hinv⟩ := hnone hr
        obtain ⟨log, s', hrun, hinv', hlog⟩ := ih hinv
        refine ⟨(.remove, r) :: log, s', iter_run_cons hcall hrun, ?_, hlog.cons (by simp) (fun hc => absurd hc (by decide))
          (fun _ hin => absurd hin hnot) (fun hc => absurd hc (by decide))⟩
        simpa [results_cons, hr] using hinv'
      · obtain ⟨hentry, hinv⟩ := hsome hr
        obtain ⟨log, s', hrun, hinv', hlog⟩ := ih hinv
        refine ⟨(.remove, r) :: log, s', iter_run_cons hcall hrun, ?_, hlog.cons (by simp) (fun hc => absurd hc (by decide))
          (fun _ _ => hentry) (fun hc => absurd hc (by decide))⟩
        simpa [results_cons, hr] using hinv'

/-- Without a `NULL` every call of `HashTableIterGetNext` returned an entry. -/
theorem results_length {log : List (IterCall × ℕ)} (h : (IterCall.next, 0) ∉ log) :
    (results .next log).length = (log.map Prod.fst).count .next := by
  induction log with
  | nil => rfl
  | cons r log ih =>
    obtain ⟨c, r⟩ := r
    rw [List.mem_cons, not_or] at h
    rw [results_cons, List.length_append, ih h.2, List.map_cons, List.count_cons]
    cases c with
    | next =>
      have hr : r ≠ 0 := fun h0 => h.1 (by rw [h0])
      simp [hr, Nat.add_comm]
    | remove => simp

end Run

/-- **Iteration.** For every table, and whatever calls of `HashTableIterGetNext` and
`HashTableIterRemove` follow `HashTableIterInit`: no entry is returned twice, every entry has been
returned when `NULL` is, and `NULL` is returned when there were more calls than entries; a removal
right after an entry was returned removes that entry, what is removed was returned before, and
afterwards exactly the removed entries are not found any more; `ItemCount` is the number of entries
left, modulo `2 ^ 32`. -/
theorem iterate_table {t : HashTable} {m : HashMem} {key : ℕ → BitVec 64} {es : List ℕ} {fuel : ℕ}
    (h : Holds t m key es) (hbuckets : t.Buckets ≠ 0) (hfuel : es.length < fuel)
    (hcount : t.count.toNat < fuel) (calls : List IterCall) :
    ∃ log s, iter_run fuel calls ⟨t, m, HashTableIterInit t⟩ = some (log, s) ∧
      log.map Prod.fst = calls ∧
      (results .next log).Nodup ∧ (∀ e ∈ results .next log, e ∈ es) ∧
      (∀ log₁ log₂, log = log₁ ++ (.next, 0) :: log₂ → ∀ e ∈ es, e ∈ results .next log₁) ∧
      (es.length < calls.count .next → (.next, 0) ∈ log) ∧
      (∀ log₁ e r log₂, log = log₁ ++ (.next, e) :: (.remove, r) :: log₂ → e ≠ 0 → r = e) ∧
      (results .remove log).Nodup ∧ (∀ e ∈ results .remove log, e ∈ results .next log) ∧
      (∀ hashValue, ∃ found, find_all fuel s.table hashValue s.mem fuel 0 = some found ∧
        ∀ e, e ∈ found ↔
          e ∈ es ∧ e ∉ results .remove log ∧ HasKey s.table hashValue key e) ∧
      s.table.ItemCount.toNat = (left es (results .remove log)).length % 2 ^ 32 := by
  obtain ⟨log, s, hrun, hinv, hlog⟩ := (iterating_init h).run hbuckets hcount hfuel calls
  rw [List.nil_append, List.nil_append] at hinv
  have hnull : es.length < calls.count .next → (IterCall.next, 0) ∈ log := by
    intro hlt
    by_contra hnot
    have hlen := results_length hnot
    rw [hlog.calls] at hlen
    have hle := (hinv.shown_nodup.subperm hinv.shown_mem).length_le
    omega
  refine ⟨log, s, hrun, hlog.calls, hinv.shown_nodup, hinv.shown_mem, hlog.exhausted, hnull,
    hlog.after, hinv.gone_nodup, hinv.gone_shown, fun hashValue => ?_, ?_⟩
  · refine ⟨_, find_all_holds hinv.holds hashValue
      (lt_of_le_of_lt (List.length_filter_le _ _) hfuel), fun e => ?_⟩
    rw [List.mem_filter, left, List.mem_filter, decide_eq_true_eq, decide_eq_true_eq, and_assoc]
    rfl
  · rw [hinv.holds.items, BitVec.toNat_ofNat]

/-- The table with one entry: it is returned and removed, and then `NULL` is returned. -/
theorem iterate_one :
    ∃ log s, iter_run 2 [.next, .remove, .next]
        ⟨oneBucket, oneEntryMem, HashTableIterInit oneBucket⟩ = some (log, s) ∧
      (IterCall.next, 0) ∈ log ∧ s.table.ItemCount.toNat =
        (left [0xFFFF900000000000] (results .remove log)).length % 2 ^ 32 := by
  obtain ⟨log, s, hrun, -, -, -, -, hnull, -, -, -, -, hitems⟩ :=
    @iterate_table _ _ _ _ 2 oneEntry_holds (by decide) (by decide) (by decide)
      [.next, .remove, .next]
  exact ⟨log, s, hrun, hnull (by decide), hitems⟩

/-- Memory in which nothing can be read. -/
def noMem : HashMem where
  next _ := none
  hashValue _ := none

/-- Two tables that are iterated over differently. One with `2 ^ 32` entries says that it has none,
before the first call and so for a run of no calls. And a table without buckets, over which
`HashTableIterGetNext` returns `NULL` as it should, has no list head that `HashTableIterRemove` could
look at. -/
theorem iterate_table_exceptions :
    (∃ t m, Holds t m (fun _ => 0) (entriesAt 0xFFFF900000000000 (2 ^ 32)).reverse ∧
      ∃ s, iter_run 1 [] ⟨t, m, HashTableIterInit t⟩ = some ([], s) ∧
        s.table.ItemCount.toNat ≠
          (left (entriesAt 0xFFFF900000000000 (2 ^ 32)).reverse (results .remove [])).length) ∧
    IsTable ⟨0, 0, 0⟩ noMem (fun _ => 0) [] ∧
      iter_run 1 [.next] ⟨⟨0, 0, 0⟩, noMem, HashTableIterInit ⟨0, 0, 0⟩⟩ =
        some ([(.next, 0)], ⟨⟨0, 0, 0⟩, noMem, HashTableIterInit ⟨0, 0, 0⟩⟩) ∧
      HashTableIterRemove 1 ⟨0, 0, 0⟩ noMem (HashTableIterInit ⟨0, 0, 0⟩) = none := by
  refine ⟨?_, Or.inr ⟨rfl, rfl, rfl, rfl⟩, rfl, rfl⟩
  have hlen : (entriesAt 0xFFFF900000000000 (2 ^ 32)).reverse.length = 2 ^ 32 := by
    rw [List.length_reverse, entriesAt, List.length_map, List.length_range]
  obtain ⟨t1, m1, t, m, -, -, -, hholds⟩ :=
    initialize_insert_all 0 (by decide) 0 (by decide) 0xFFFFF80000000000 ⟨0, 0, 0⟩
      0xFFFF800000000000 (by decide) kernelMem (fun _ _ => rfl) (fun _ => 0)
      (entriesAt 0xFFFF900000000000 (2 ^ 32)) (entriesAt_nodup _ (2 ^ 32))
      (entriesAt_insertable (2 ^ 32))
  refine ⟨t, m, hholds, _, rfl, ?_⟩
  have hleft : left (entriesAt 0xFFFF900000000000 (2 ^ 32)).reverse (results .remove []) =
      (entriesAt 0xFFFF900000000000 (2 ^ 32)).reverse := left_nil _
  rw [hleft, hlen]
  exact t.ItemCount.isLt.ne

end Svmx.MpHash
