/-
A hash table as a store, over whole histories of calls.

What a table holds is stated by what the calls were given and what they returned: the entries inserted
and not returned by `HashTableIterRemove`. In every history that meets the preconditions of the calls
no call fails and the searches find exactly these entries (`store_refines`).
-/
import Svmx.MpIter
import Svmx.MpRehash
import Svmx.Transition

set_option autoImplicit false

namespace Svmx.MpHash

/-! ## The calls -/

/-- A table, its memory, and the entries that it should hold. -/
structure Store where
  table : HashTable
  mem : HashMem
  present : Finset ℕ

/-- A call; an iteration is any sequence of calls on a new iterator. -/
inductive StoreOp where
  | insert (e : ℕ)
  | iterate (calls : List IterCall)
  | change (k pBuckets : ℕ)
  | remove (hashValue : BitVec 64)

def store_exec (fuel hash : ℕ) (s : Store) : StoreOp → Option Store
  | .insert e => do
    let (_, t, m) ← HashTableInsert s.table e s.mem
    some ⟨t, m, insert e s.present⟩
  | .iterate calls => do
    let (log, i) ← iter_run fuel calls ⟨s.table, s.mem, HashTableIterInit s.table⟩
    some ⟨i.table, i.mem, s.present \ (results .remove log).toFinset⟩
  | .change k pBuckets => do
    let (_, t, m) ← HashTableChangeTable fuel hash s.table (BitVec.ofNat 32 (2 ^ k)) pBuckets s.mem
    some ⟨t, m, s.present⟩
  | .remove hashValue => do
    let (r, t, m) ← HashTableRemoveKey fuel s.table hashValue s.mem
    some ⟨t, m, s.present.erase r⟩

/-- The preconditions: a new entry is a block of memory apart from the table, a new array is apart from
the table and its entries and leaves the index of every entry as it is, and a key that is removed is
absent and not mistaken for the word behind a list head. The fuel is enough for the loops. -/
def StoreOp.Valid (fuel : ℕ) (key : ℕ → BitVec 64) (s : Store) : StoreOp → Prop
  | .insert e => Entry s.table s.mem key e ∧ e ∉ s.present ∧ s.present.card + 1 < fuel
  | .iterate _ => True
  | .change k pBuckets => k < 32 ∧ pBuckets ≠ 0 ∧ 2 ^ min k 26 < fuel ∧
      NewArray s.table s.mem s.present.toList pBuckets (2 ^ min k 26) ∧
      ∀ e ∈ s.present, SameIndex s.table k (key e)
  | .remove hashValue => (∀ e ∈ s.present, ¬ HasKey s.table hashValue key e) ∧
      (s.table.ItemCount = 0 ∨ (∀ e ∈ s.present, s.table.index (key e) ≠ s.table.index hashValue) ∨
        HeadPasses s.table s.mem hashValue)

/-- A table that `HashTableInitialize` made with some power of two of buckets, and these calls. -/
def storeSystem (fuel hash : ℕ) (flags : BitVec 32) : Transition.System Store StoreOp where
  init s := s.present = ∅ ∧ ∃ k t0 buckets m0, k ≤ 26 ∧ 2 ^ k < fuel ∧ buckets ≠ 0 ∧
    (∀ i < 2 ^ k, (m0.next (bucketAt buckets i)).isSome = true) ∧
    HashTableInitialize hash t0 flags (BitVec.ofNat 32 (2 ^ k)) buckets m0 = some (s.table, s.mem)
  step s op s' := store_exec fuel hash s op = some s'

/-! ## The invariant -/

variable {fuel hash : ℕ} {flags : BitVec 32} {key : ℕ → BitVec 64} {s : Store}

/-- The table holds what it should. -/
structure Stores (fuel : ℕ) (flags : BitVec 32) (key : ℕ → BitVec 64) (s : Store) : Prop where
  holds : ∃ es, Holds s.table s.mem key es ∧ es.toFinset = s.present
  buckets : s.table.Buckets ≠ 0
  mask : s.table.keyMask = BitVec.allOnes 64 <<< flags.toNat
  count_lt : s.table.count.toNat < fuel
  card_lt : s.present.card < fuel

/-- The list behind the entries. -/
theorem Stores.entries (h : Stores fuel flags key s) : ∃ es, Holds s.table s.mem key es ∧
    es.toFinset = s.present ∧ es.length = s.present.card ∧ (∀ e, e ∈ es ↔ e ∈ s.present) := by
  obtain ⟨es, hholds, hes⟩ := h.holds
  refine ⟨es, hholds, hes, ?_, fun e => ?_⟩
  · rw [← hes, List.toFinset_card_of_nodup hholds.nodup]
  · rw [← hes, List.mem_toFinset]

/-- **A new table.** -/
theorem stores_init (hflags : flags.toNat < 32) (h : (storeSystem fuel hash flags).init s)
    (key : ℕ → BitVec 64) : Stores fuel flags key s := by
  obtain ⟨hpresent, k, t0, buckets, m0, hk, hfuel, hbuckets, halloc, hinit⟩ := h
  obtain ⟨t, m, hinit', hbk, hcount, hmask, hholds, -, -⟩ :=
    HashTableInitialize_spec hk hflags hash t0 hbuckets halloc key
  rw [hinit] at hinit'
  obtain ⟨ht, hm⟩ := Prod.mk.inj (Option.some.inj hinit')
  refine ⟨⟨[], ?_, by rw [hpresent]; rfl⟩, ?_, ?_, ?_, ?_⟩
  · rw [ht, hm]
    exact hholds
  · rw [ht, hbk]
    exact hbuckets
  · rw [ht, hmask]
  · rw [ht, hcount]
    exact hfuel
  · rw [hpresent, Finset.card_empty]
    omega

/-- **An insert.** -/
theorem Stores.insert (h : Stores fuel flags key s) {e : ℕ}
    (hvalid : (StoreOp.insert e).Valid fuel key s) :
    ∃ s', store_exec fuel hash s (.insert e) = some s' ∧ Stores fuel flags key s' := by
  obtain ⟨hentry, hnew, hfuel⟩ := hvalid
  obtain ⟨es, hholds, hes, -, hmem⟩ := h.entries
  obtain ⟨m', hrun, hholds', -, -⟩ := HashTableInsert_spec hholds hentry (mt (hmem e).mp hnew)
  refine ⟨⟨_, m', Insert.insert e s.present⟩, ?_, ⟨e :: es, hholds', ?_⟩, h.buckets, h.mask, h.count_lt, ?_⟩
  · simp only [store_exec, hrun, Option.bind_eq_bind, Option.bind_some]
  · rw [List.toFinset_cons, hes]
  · rw [Finset.card_insert_of_notMem hnew]
    exact hfuel

/-! ## Iterations -/

theorem iter_remove_loop_mask {t t' : HashTable} {m m' : HashMem} {it it' : HashTableIterator}
    {n p r : ℕ} (h : iter_remove_loop t m it n p = some (r, t', m', it')) :
    t'.keyMask = t.keyMask := by
  induction n generalizing p with
  | zero => cases h
  | succ n ih =>
    rw [iter_remove_loop] at h
    obtain ⟨last, -, h⟩ := Option.bind_eq_some_iff.mp h
    cases last with
    | true =>
      rw [if_pos rfl] at h
      obtain ⟨-, h⟩ := Prod.mk.inj (Option.some.inj h)
      rw [← (Prod.mk.inj h).1]
    | false =>
      rw [if_neg (by simp)] at h
      obtain ⟨next, -, h⟩ := Option.bind_eq_some_iff.mp h
      split at h
      · obtain ⟨m₁, -, h⟩ := Option.bind_eq_some_iff.mp h
        obtain ⟨-, h⟩ := Prod.mk.inj (Option.some.inj h)
        rw [← (Prod.mk.inj h).1]
        rfl
      · exact ih h

/-- The calls of an iterator leave the ignored bits as they are. -/
theorem iter_run_mask {calls : List IterCall} {i i' : IterState} {log : List (IterCall × ℕ)}
    (h : iter_run fuel calls i = some (log, i')) : i'.table.keyMask = i.table.keyMask := by
  induction calls generalizing i log with
  | nil =>
    rw [iter_run] at h
    rw [← (Prod.mk.inj (Option.some.inj h)).2]
  | cons c calls ih =>
    rw [iter_run] at h
    obtain ⟨⟨r, i₁⟩, hcall, h⟩ := Option.bind_eq_some_iff.mp h
    obtain ⟨⟨log₁, i₂⟩, hrun, h⟩ := Option.bind_eq_some_iff.mp h
    obtain ⟨-, rfl⟩ := Prod.mk.inj (Option.some.inj h)
    rw [ih hrun]
    cases c with
    | next =>
      obtain ⟨⟨r', it⟩, -, hcall⟩ := Option.bind_eq_some_iff.mp hcall
      obtain ⟨-, rfl⟩ := Prod.mk.inj (Option.some.inj hcall)
      rfl
    | remove =>
      obtain ⟨⟨r', t, m, it⟩, hremove, hcall⟩ := Option.bind_eq_some_iff.mp hcall
      obtain ⟨-, rfl⟩ := Prod.mk.inj (Option.some.inj hcall)
      exact iter_remove_loop_mask hremove

/-- **An iteration** takes out what its removals return. -/
theorem Stores.iterate (h : Stores fuel flags key s) (calls : List IterCall) :
    ∃ s', store_exec fuel hash s (.iterate calls) = some s' ∧ Stores fuel flags key s' := by
  obtain ⟨es, hholds, hes, hlen, hmem⟩ := h.entries
  obtain ⟨log, i, hrun, hinv, -⟩ := (iterating_init hholds).run h.buckets h.count_lt
    (by rw [hlen]; exact h.card_lt) calls
  rw [List.nil_append, List.nil_append] at hinv
  refine ⟨⟨i.table, i.mem, s.present \ (results .remove log).toFinset⟩, ?_,
    ⟨left es (results .remove log), hinv.holds, ?_⟩, ?_, ?_, ?_, ?_⟩
  · simp only [store_exec, hrun, Option.bind_eq_bind, Option.bind_some]
  · ext e
    rw [List.mem_toFinset, left, List.mem_filter, decide_eq_true_eq, Finset.mem_sdiff,
      List.mem_toFinset, hmem]
  · rw [hinv.table.1]
    exact h.buckets
  · exact (iter_run_mask hrun).trans h.mask
  · rw [hinv.table.2]
    exact h.count_lt
  · exact lt_of_le_of_lt (Finset.card_le_card Finset.sdiff_subset) h.card_lt

/-! ## Changes of size and removals -/

/-- **A change of size** that leaves every index as it is. -/
theorem Stores.change (h : Stores fuel flags key s) {k pBuckets : ℕ}
    (hvalid : (StoreOp.change k pBuckets).Valid fuel key s) :
    ∃ s', store_exec fuel hash s (.change k pBuckets) = some s' ∧ Stores fuel flags key s' := by
  obtain ⟨hk, hne, hfuel, hnew, hsame⟩ := hvalid
  obtain ⟨es, hholds, hes, hlen, hmem⟩ := h.entries
  have harray : NewArray s.table s.mem es pBuckets (2 ^ min k 26) :=
    ⟨hnew.cell, hnew.heads, fun i hi he => hnew.entries i hi (by simpa [hmem] using he)⟩
  have hindex : ∀ e ∈ es, (s.table.changed (BitVec.ofNat 32 (2 ^ k)) pBuckets).index (key e) =
      s.table.index (key e) := fun e he => (SameIndex.iff _ hk).1 (hsame e ((hmem e).mp he))
  obtain ⟨m', ns, written, hrun, hend, hperm, -⟩ :=
    (change_table_spec hholds hk harray (by rw [hlen]; exact h.card_lt) hash).1 fun e he => by
      rw [← hindex e he]
      exact changed_index_lt s.table hk pBuckets (key e)
  have hcount : (s.table.changed (BitVec.ofNat 32 (2 ^ k)) pBuckets).count.toNat = 2 ^ min k 26 := by
    rw [changed_count s.table hk, newCount_pow hk]
  have hexec : HashTableChangeTable fuel hash s.table (BitVec.ofNat 32 (2 ^ k)) pBuckets s.mem =
      some (s.table.Buckets, s.table.changed (BitVec.ofNat 32 (2 ^ k)) pBuckets, m') := by
    rw [← HashTableChangeTable_log_fst, hrun]
    rfl
  refine ⟨⟨s.table.changed (BitVec.ofNat 32 (2 ^ k)) pBuckets, m', s.present⟩, ?_,
    ⟨ns, ⟨?_, ?_, hperm.nodup_iff.2 hholds.nodup, ?_, ?_⟩, ?_⟩, hne, ?_, ?_, h.card_lt⟩
  · simp only [store_exec, hexec, Option.bind_eq_bind, Option.bind_some]
  · rw [changed_count s.table hk]
    exact newCount_ne_zero hk
  · rw [hperm.length_eq]
    exact hholds.items
  · intro e he
    have hold := hend.entries e he
    refine ⟨hold.ne_null, hold.aligned, hold.cell, hold.value, fun i hi => ?_⟩
    rw [hcount] at hi
    rintro rfl
    exact hend.array.entries i hi he
  · intro i hi
    rw [hcount] at hi
    have hfilter : (ns.filter fun e => (s.table.changed (BitVec.ofNat 32 (2 ^ k)) pBuckets).index
        (key e) = i) = ns.filter fun e => s.table.index (key e) = i :=
      List.filter_congr fun e he => by rw [hindex e (hperm.mem_iff.1 he)]
    rw [hfilter]
    exact hend.new i hi
  · rw [List.toFinset_eq_of_perm _ _ hperm, hes]
  · rw [changed_keyMask]
    exact h.mask
  · rw [hcount]
    exact hfuel

/-- **A removal of an absent key** returns `NULL` and changes nothing. -/
theorem Stores.remove (h : Stores fuel flags key s) {hashValue : BitVec 64}
    (hvalid : (StoreOp.remove hashValue).Valid fuel key s) :
    ∃ s', store_exec fuel hash s (.remove hashValue) = some s' ∧ Stores fuel flags key s' := by
  obtain ⟨es, hholds, -, hlen, hmem⟩ := h.entries
  have hnone : ∀ e ∈ es, ¬ HasKey s.table hashValue key e := fun e he =>
    hvalid.1 e ((hmem e).mp he)
  have hcond : s.table.ItemCount = 0 ∨
      (∀ e ∈ es, s.table.index (key e) ≠ s.table.index hashValue) ∨
        HeadPasses s.table s.mem hashValue :=
    hvalid.2.imp id (Or.imp (fun hidx e he => hidx e ((hmem e).mp he)) id)
  obtain ⟨r, t', m', hrun, -, habsent⟩ :=
    (hholds.removes_iff (by rw [hlen]; exact h.card_lt) hnone).2 hcond
  obtain ⟨rfl, rfl, rfl⟩ := habsent hnone
  refine ⟨s, ?_, h⟩
  have hzero : 0 ∉ s.present := fun h0 => (hholds.entries 0 ((hmem 0).mpr h0)).ne_null rfl
  simp only [store_exec, hrun, Option.bind_eq_bind, Option.bind_some, Finset.erase_eq_of_notMem hzero]

/-! ## Histories -/

/-- **One call** that meets its precondition returns, and the table holds what it should. -/
theorem Stores.exec (h : Stores fuel flags key s) (op : StoreOp) (hvalid : op.Valid fuel key s) :
    ∃ s', store_exec fuel hash s op = some s' ∧ Stores fuel flags key s' := by
  cases op with
  | insert e => exact h.insert hvalid
  | iterate calls => exact h.iterate calls
  | change k pBuckets => exact h.change hvalid
  | remove hashValue => exact h.remove hvalid

/-- **The table is a store.** In every history of inserts, iterations with removals, changes of size
and removals of absent keys that meets the preconditions of the calls: every further call that meets
its precondition returns, the repeated search finds for every hash value exactly the entries that were
inserted and not taken out again and agree with it in the bits that are not ignored, each once, and
`ItemCount` is their number modulo `2 ^ 32`. -/
theorem store_refines (hflags : flags.toNat < 32)
    (hrun : Transition.Run (storeSystem fuel hash flags) (fun s op => op.Valid fuel key s) s) :
    (∀ op, StoreOp.Valid fuel key s op → ∃ s', store_exec fuel hash s op = some s') ∧
    (∀ hashValue, ∃ found, find_all fuel s.table hashValue s.mem fuel 0 = some found ∧ found.Nodup ∧
      ∀ e, e ∈ found ↔ e ∈ s.present ∧ SameKey flags hashValue (key e)) ∧
    s.table.ItemCount.toNat = s.present.card % 2 ^ 32 := by
  have h : Stores fuel flags key s := by
    refine hrun.invariant (Stores fuel flags key) ?_ ?_
    · intro s hinit
      exact stores_init hflags hinit key
    · intro s op s' hs hvalid hstep
      obtain ⟨s₁, hexec, hs₁⟩ : ∃ s₁, store_exec fuel hash s op = some s₁ ∧
          Stores fuel flags key s₁ := hs.exec op hvalid
      obtain rfl := Option.some.inj (hstep.symm.trans hexec)
      exact hs₁
  obtain ⟨es, hholds, -, hlen, hmem⟩ := h.entries
  refine ⟨?_, fun hashValue => ?_, ?_⟩
  · intro op hvalid
    obtain ⟨s', hexec, -⟩ : ∃ s', store_exec fuel hash s op = some s' ∧
        Stores fuel flags key s' := h.exec op hvalid
    exact ⟨s', hexec⟩
  · refine ⟨_, find_all_holds hholds hashValue (by rw [hlen]; exact h.card_lt),
      hholds.nodup.filter _, fun e => ?_⟩
    rw [List.mem_filter, decide_eq_true_eq, hmem, h.mask, mask_eq_iff]
  · rw [hholds.items, BitVec.toNat_ofNat, hlen]

/-- A new table, one insert, and an iteration that takes every entry out that it returns. -/
theorem store_refines_iterated : ∃ s : Store, s.table.ItemCount.toNat = s.present.card % 2 ^ 32 ∧
    Transition.Run (storeSystem 4 0xFFFFF80000000000 3)
      (fun s op => op.Valid 4 (fun _ => 0) s) s := by
  have halloc : ∀ i < 2 ^ 0, (kernelMem.next (bucketAt 0xFFFF800000000000 i)).isSome = true :=
    fun _ _ => rfl
  obtain ⟨t, m, hinit, hbk, hcount, -, hholds, hvalue, hsome⟩ := HashTableInitialize_spec
    (by decide) (by decide : (3 : BitVec 32).toNat < 32) 0xFFFFF80000000000 ⟨0, 0, 0⟩
    (by decide) halloc fun _ => 0
  have hnew : (storeSystem 4 0xFFFFF80000000000 3).init ⟨t, m, ∅⟩ :=
    ⟨rfl, 0, ⟨0, 0, 0⟩, 0xFFFF800000000000, kernelMem, by decide, by decide, by decide,
      fun _ _ => rfl, hinit⟩
  have hentry : (StoreOp.insert 0xFFFF900000000000).Valid 4 (fun _ => 0) ⟨t, m, ∅⟩ := by
    refine ⟨⟨by decide, by decide, ?_, ?_, ?_⟩, Finset.notMem_empty _, by simp⟩
    · rw [hsome]
      rfl
    · rw [hvalue]
      rfl
    · intro i hi
      rw [hcount] at hi
      rw [hbk, bucketAt]
      omega
  have hstores := stores_init (by decide) hnew fun _ => 0
  obtain ⟨s₁, hexec₁, hs₁⟩ := hstores.exec (StoreOp.insert 0xFFFF900000000000) hentry
  obtain ⟨s₂, hexec₂, -⟩ := hs₁.exec (.iterate [.next, .remove, .next]) trivial
  have hrun := Transition.Run.step _ _ s₂
    (.step _ _ s₁ (.start ⟨t, m, ∅⟩ hnew) hentry hexec₁) trivial hexec₂
  exact ⟨s₂, (store_refines (by decide) hrun).2.2, hrun⟩

end Svmx.MpHash
