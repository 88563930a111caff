/-
`mphashtable.c`: hash tables of tagged singly linked lists.

A table is an array of list heads. A list ends in the address of the table with bit 0 set, so a
cell is the last one of its list when its `Next` word is odd. The number of buckets and the number
of key bits that are ignored share the word `BucketCount`.

`HashMem` is the memory that the functions work on: the `Next` word of a `SINGLE_LIST_ENTRY` and
the `HashValue` of a `HASH_BUCKET`, each by address. An access outside of it is the outcome `none`.
The tables are walked by loops without a bound; in the model a loop has fuel, and a loop that runs
out of it is `none` as well.
-/
import Mathlib

set_option autoImplicit false

namespace Svmx.MpHash

/-! ## Hashing -/

/-- `HashBytesGeneric`. -/
def HashBytesGeneric (pBytes : List (BitVec 8)) (kMagicNum coefficient : BitVec 64) : BitVec 64 :=
  pBytes.foldl (fun hashCode b => b.zeroExtend 64 + coefficient * hashCode) kMagicNum

def HashBytesEx (pBytes : List (BitVec 8)) (kMagicNum : BitVec 64) : BitVec 64 :=
  HashBytesGeneric pBytes kMagicNum 37

def HashBytes (pBytes : List (BitVec 8)) : BitVec 64 := HashBytesEx pBytes 314159

/-- The bytes of a word in memory, the lowest first. -/
def bytes (value : BitVec 64) : List (BitVec 8) :=
  (List.range 8).map fun i => (value >>> (8 * i)).truncate 8

/-- `HashUlongPtr`. -/
def HashUlongPtr (value : BitVec 64) : BitVec 64 := HashBytes (bytes value)

/-! ## Sizes -/

/-- `IsPowerOfTwo`. -/
def IsPowerOfTwo (x : BitVec 32) : Bool := x != 0 && x &&& (x - 1) == 0

/-- The loop of `GetHighestBitIndex`; 32 rounds empty the word. -/
def highest_bit_loop : ℕ → BitVec 32 → ℕ → ℕ
  | 0, _, index => index
  | fuel + 1, value, index =>
    if value = 0 then index else highest_bit_loop fuel (value >>> 1) (index + 1)

def GetHighestBitIndex (value : BitVec 32) : ℕ := highest_bit_loop 32 value 0

/-- `RoundToPowerOfTwo`; the shift count of a 32-bit shift is taken modulo 32. -/
def RoundToPowerOfTwo (value : BitVec 32) (roundUpToNext : Bool) : BitVec 32 :=
  if value = 0 then value
  else if IsPowerOfTwo value then value
  else
    let idx := GetHighestBitIndex value
    let idx := if roundUpToNext then idx + 1 else idx
    1 <<< (idx % 32)

/-! ## The table -/

/-- `HASH_TABLE`. -/
structure HashTable where
  ItemCount : BitVec 32
  BucketCount : BitVec 32
  Buckets : ℕ
deriving DecidableEq

/-- The list cells and the hash values in memory, by address. -/
structure HashMem where
  next : ℕ → Option ℕ
  hashValue : ℕ → Option (BitVec 64)

/-- `p->Next = w`. -/
def HashMem.set_next (m : HashMem) (p w : ℕ) : Option HashMem := do
  let _ ← m.next p
  some { m with next := Function.update m.next p (some w) }

/-- `PushEntryList`. -/
def PushEntryList (m : HashMem) (head entry : ℕ) : Option HashMem := do
  let first ← m.next head
  let m ← m.set_next entry first
  m.set_next head entry

/-- The address of `Buckets[i]`. -/
def bucketAt (buckets i : ℕ) : ℕ := buckets + 8 * i

/-- `(ULONG_PTR)Hash | 1`. -/
def lastLink (hash : ℕ) : ℕ := hash ||| 1

/-- The loop that makes `n` empty buckets from `p` on. -/
def init_buckets (hash : ℕ) : ℕ → ℕ → HashMem → Option HashMem
  | 0, _, m => some m
  | n + 1, p, m => do
    let m ← m.set_next p (lastLink hash)
    init_buckets hash n (p + 8) m

/-- The number of buckets that the table functions allow. -/
def clampCount (count : BitVec 32) : BitVec 32 := if 0x4000000 < count then 0x4000000 else count

/-- `(BucketCount >> 5) & 0x7FFFFFF`. -/
def HashTable.count (t : HashTable) : BitVec 32 := (t.BucketCount >>> 5) &&& 0x7FFFFFF

/-- `MAXULONG_PTR << (BucketCount & 0x1F)`. -/
def HashTable.keyMask (t : HashTable) : BitVec 64 :=
  BitVec.allOnes 64 <<< (t.BucketCount &&& 0x1F).toNat

/-- `HashTableInitialize`; `hash` is the address of the table. -/
def HashTableInitialize (hash : ℕ) (t : HashTable) (Flags BucketCount : BitVec 32) (Buckets : ℕ)
    (m : HashMem) : Option (HashTable × HashMem) := do
  let count := clampCount (RoundToPowerOfTwo BucketCount false)
  let word := (count <<< 5) ||| (t.BucketCount &&& 0x1F)
  let word := (Flags &&& 0x1F) ||| (word &&& 0xFFFFFFE0)
  let m ← if Buckets ≠ 0 then init_buckets hash count.toNat Buckets m else some m
  some (⟨0, word, Buckets⟩, m)

/-- `HashTableGetBucketIndex`. -/
def HashTableGetBucketIndex (bucketCount : BitVec 32) (key : BitVec 64) : BitVec 32 :=
  ((bucketCount - 1).zeroExtend 64 &&& HashUlongPtr key).truncate 32

/-- `HashTableInsert`. -/
def HashTableInsert (t : HashTable) (pBucket : ℕ) (m : HashMem) :
    Option (BitVec 32 × HashTable × HashMem) := do
  let hashValue ← m.hashValue pBucket
  let idx := HashTableGetBucketIndex t.count (t.keyMask &&& hashValue)
  let m ← PushEntryList m (bucketAt t.Buckets idx.toNat) pBucket
  let count := t.ItemCount + 1
  some (count, { t with ItemCount := count }, m)

/-- `HashBucketLastLink`. -/
def HashBucketLastLink (m : HashMem) (bucket : ℕ) : Option Bool := do
  let w ← m.next bucket
  some (w % 2 == 1)

/-- The loop of `HashTableFindNext`. -/
def find_loop (m : HashMem) (value k1 : BitVec 64) : ℕ → ℕ → Option ℕ
  | 0, _ => none
  | fuel + 1, p => do
    if ← HashBucketLastLink m p then some 0
    else do
      let next ← m.next p
      let hashValue ← m.hashValue next
      if k1 = value &&& hashValue then some next else find_loop m value k1 fuel next

/-- `HashTableFindNext`; `0` is `NULL`. -/
def HashTableFindNext (fuel : ℕ) (t : HashTable) (HashValue : BitVec 64) (pLink : ℕ)
    (m : HashMem) : Option ℕ :=
  let k1 := t.keyMask &&& HashValue
  if pLink ≠ 0 then find_loop m t.keyMask k1 fuel pLink
  else if t.count = 0 then some 0
  else find_loop m t.keyMask k1 fuel
    (bucketAt t.Buckets (HashTableGetBucketIndex t.count k1).toNat)

/-- The inner loop of `HashTableChangeTable`: the entries of one old bucket are pushed to the new
buckets. -/
def move_bucket (t : HashTable) (pBuckets pBucket : ℕ) : ℕ → HashMem → Option HashMem
  | 0, _ => none
  | fuel + 1, m => do
    if ← HashBucketLastLink m pBucket then some m
    else do
      let pEntry ← m.next pBucket
      let rest ← m.next pEntry
      let m ← m.set_next pBucket rest
      let hashValue ← m.hashValue pEntry
      let idx := HashTableGetBucketIndex t.count (t.keyMask &&& hashValue)
      let m ← PushEntryList m (bucketAt pBuckets idx.toNat) pEntry
      move_bucket t pBuckets pBucket fuel m

/-- The outer loop of `HashTableChangeTable`, with `n` old buckets left. -/
def move_buckets (t : HashTable) (pBuckets fuel : ℕ) : ℕ → ℕ → HashMem → Option HashMem
  | 0, _, m => some m
  | n + 1, pBucket, m => do
    let m ← move_bucket t pBuckets pBucket fuel m
    move_buckets t pBuckets fuel n (pBucket + 8) m

/-- `HashTableChangeTable`; the new indices are computed with the old number of buckets. -/
def HashTableChangeTable (fuel hash : ℕ) (t : HashTable) (allocCount : BitVec 32) (pBuckets : ℕ)
    (m : HashMem) : Option (ℕ × HashTable × HashMem) := do
  let count := clampCount (RoundToPowerOfTwo allocCount false)
  let m ← init_buckets hash count.toNat pBuckets m
  let m ← move_buckets t pBuckets fuel t.count.toNat t.Buckets m
  some (t.Buckets, { t with
    Buckets := pBuckets
    BucketCount := (count <<< 5) ||| (t.BucketCount &&& 0x1F) }, m)

/-- Repeated `HashTableFindNext` from an entry on, until it returns `NULL`. -/
def find_all (fuel : ℕ) (t : HashTable) (HashValue : BitVec 64) (m : HashMem) :
    ℕ → ℕ → Option (List ℕ)
  | 0, _ => none
  | n + 1, pLink => do
    let entry ← HashTableFindNext fuel t HashValue pLink m
    if entry = 0 then some []
    else do
      let rest ← find_all fuel t HashValue m n entry
      some (entry :: rest)

/-- A sequence of `HashTableInsert` calls. -/
def insert_all : List ℕ → HashTable → HashMem → Option (HashTable × HashMem)
  | [], t, m => some (t, m)
  | e :: es, t, m => do
    let (_, t, m) ← HashTableInsert t e m
    insert_all es t m

/-! ## Keys -/

/-- Two hash values agree in the bits that the table does not ignore. -/
def SameKey (flags : BitVec 32) (a b : BitVec 64) : Prop :=
  ∀ i, flags.toNat ≤ i → a.getLsbD i = b.getLsbD i

theorem mask_eq_iff (flags : BitVec 32) (a b : BitVec 64) :
    (BitVec.allOnes 64 <<< flags.toNat) &&& a = (BitVec.allOnes 64 <<< flags.toNat) &&& b ↔
      SameKey flags a b := by
  constructor
  · intro h i hi
    by_cases h64 : i < 64
    · have hbit := congrArg (fun x => x.getLsbD i) h
      have hone : (BitVec.allOnes 64 <<< flags.toNat).getLsbD i = true := by
        rw [BitVec.getLsbD_shiftLeft, BitVec.getLsbD_allOnes]
        simp only [Bool.and_eq_true, decide_eq_true_eq, Bool.not_eq_true', decide_eq_false_iff_not]
        omega
      simpa only [BitVec.getLsbD_and, hone, Bool.true_and] using hbit
    · rw [BitVec.getLsbD_of_ge _ _ (by omega), BitVec.getLsbD_of_ge _ _ (by omega)]
  · intro h
    apply BitVec.eq_of_getLsbD_eq
    intro i hi
    by_cases hf : i < flags.toNat
    · simp [hf]
    · rw [BitVec.getLsbD_and, BitVec.getLsbD_and, h i (by omega)]

/-- The index is the one of a bucket. -/
theorem bucket_index_lt (count : BitVec 32) (hcount : count ≠ 0) (key : BitVec 64) :
    (HashTableGetBucketIndex count key).toNat < count.toNat := by
  have hpos : count.toNat ≠ 0 := fun h => hcount (BitVec.eq_of_toNat_eq h)
  have hsub : (count - 1).toNat = count.toNat - 1 := by
    rw [BitVec.toNat_sub]
    have hone : (1 : BitVec 32).toNat = 1 := rfl
    have hlt := count.isLt
    omega
  have hle : (HashTableGetBucketIndex count key).toNat ≤ (count - 1).toNat := by
    rw [HashTableGetBucketIndex, BitVec.truncate_eq_setWidth, BitVec.toNat_setWidth,
      BitVec.toNat_and, BitVec.toNat_setWidth]
    refine le_trans (Nat.mod_le _ _) (le_trans Nat.and_le_left ?_)
    exact Nat.mod_le _ _
  omega

/-- The packed word gives back the size and the flags it was made from. -/
theorem packed_count (count flags old : BitVec 32) (hcount : count.toNat < 2 ^ 27) :
    (((flags &&& (0x1F : BitVec 32)) ||| ((count <<< 5 ||| (old &&& 0x1F)) &&& 0xFFFFFFE0)) >>> 5)
      &&& 0x7FFFFFF = count := by
  have hhigh : ∀ i (hi : i < 32), 27 ≤ i → count[i] = false := by
    intro i hi hge
    rw [← BitVec.getLsbD_eq_getElem]
    refine Nat.testBit_lt_two_pow (lt_of_lt_of_le hcount ?_)
    exact Nat.pow_le_pow_right (by decide) hge
  apply BitVec.eq_of_getLsbD_eq
  intro i hi
  interval_cases i <;> simp [hhigh]

theorem packed_flags (count flags old : BitVec 32) :
    ((flags &&& (0x1F : BitVec 32)) ||| ((count <<< 5 ||| (old &&& 0x1F)) &&& 0xFFFFFFE0)) &&& 0x1F =
      flags &&& 0x1F := by
  apply BitVec.eq_of_getLsbD_eq
  intro i hi
  interval_cases i <;> simp

/-! ## Lists -/

/-- The cell at `p` leads to the entries `l`, the last of which holds a tagged word. -/
def Chain (m : HashMem) : ℕ → List ℕ → Prop
  | p, [] => ∃ w, m.next p = some w ∧ w % 2 = 1
  | p, e :: l => m.next p = some e ∧ e % 2 = 0 ∧ Chain m e l

theorem Chain.congr {m m' : HashMem} {p : ℕ} {l : List ℕ} (h : Chain m p l)
    (hn : ∀ a ∈ p :: l, m'.next a = m.next a) : Chain m' p l := by
  induction l generalizing p with
  | nil =>
    obtain ⟨w, hw, hodd⟩ := h
    exact ⟨w, by rw [hn p List.mem_cons_self, hw], hodd⟩
  | cons e l ih =>
    obtain ⟨hp, heven, hc⟩ := h
    refine ⟨by rw [hn p List.mem_cons_self, hp], heven, ih hc ?_⟩
    intro a ha
    exact hn a (List.mem_cons_of_mem p ha)

/-- The first cell of a chain can be read. -/
theorem Chain.isSome {m : HashMem} {p : ℕ} {l : List ℕ} (h : Chain m p l) :
    (m.next p).isSome = true := by
  cases l with
  | nil =>
    obtain ⟨w, hw, -⟩ := h
    rw [hw]
    rfl
  | cons e l =>
    rw [h.1]
    rfl

/-- Every cell of a chain can be read. -/
theorem Chain.cells {m : HashMem} {p : ℕ} {l : List ℕ} (h : Chain m p l) :
    ∀ a ∈ p :: l, (m.next a).isSome = true := by
  induction l generalizing p with
  | nil =>
    intro a ha
    rw [List.mem_singleton.1 ha]
    exact h.isSome
  | cons e l ih =>
    intro a ha
    rcases List.mem_cons.1 ha with rfl | ha
    · exact h.isSome
    · exact ih h.2.2 a ha

theorem set_next_spec {m : HashMem} {p : ℕ} (w : ℕ) (h : (m.next p).isSome = true) :
    m.set_next p w = some { m with next := Function.update m.next p (some w) } := by
  obtain ⟨v, hv⟩ := Option.isSome_iff_exists.1 h
  rw [HashMem.set_next, hv]
  rfl

/-- **A push** puts the entry in front of the list and touches two cells. -/
theorem PushEntryList_spec {m : HashMem} {head entry : ℕ} {l : List ℕ} (h : Chain m head l)
    (hentry : (m.next entry).isSome = true) (heven : entry % 2 = 0) (hne : entry ≠ head)
    (hnot : entry ∉ l) (hhead : head ∉ l) :
    ∃ m', PushEntryList m head entry = some m' ∧ Chain m' head (entry :: l) ∧
      m'.hashValue = m.hashValue ∧ (∀ a, (m'.next a).isSome = (m.next a).isSome) ∧
      ∀ a, a ≠ head → a ≠ entry → m'.next a = m.next a := by
  obtain ⟨first, hfirst⟩ := Option.isSome_iff_exists.1 h.isSome
  set m1 : HashMem := { m with next := Function.update m.next entry (some first) } with hm1
  have hhead1 : m1.next head = some first := by
    rw [hm1]
    simp only [Function.update_of_ne hne.symm]
    exact hfirst
  set m2 : HashMem := { m1 with next := Function.update m1.next head (some entry) } with hm2
  have hpush : PushEntryList m head entry = some m2 := by
    rw [PushEntryList, hfirst]
    simp only [Option.bind_eq_bind, Option.bind_some, set_next_spec first hentry]
    exact set_next_spec entry (by rw [hhead1]; rfl)
  have hothers : ∀ a, a ≠ head → a ≠ entry → m2.next a = m.next a := by
    intro a ha ha'
    simp only [hm2, hm1, Function.update_of_ne ha, Function.update_of_ne ha']
  have hentry2 : m2.next entry = some first := by
    simp only [hm2, hm1, Function.update_of_ne hne, Function.update_self]
  refine ⟨m2, hpush, ⟨?_, heven, ?_⟩, rfl, ?_, hothers⟩
  · simp only [hm2, Function.update_self]
  · -- the entry took over the word of the head
    cases l with
    | nil =>
      obtain ⟨w, hw, hodd⟩ := h
      refine ⟨w, ?_, hodd⟩
      rw [hentry2, ← hfirst, hw]
    | cons e l =>
      obtain ⟨hp, he, hc⟩ := h
      refine ⟨by rw [hentry2, ← hfirst, hp], he, hc.congr ?_⟩
      intro a ha
      refine hothers a ?_ ?_
      · rintro rfl
        exact hhead ha
      · rintro rfl
        exact hnot ha
  · intro a
    by_cases ha : a = head
    · subst ha
      simp only [hm2, Function.update_self, hfirst, Option.isSome_some]
    · by_cases ha' : a = entry
      · subst ha'
        rw [hentry2, hentry]
        rfl
      · rw [hothers a ha ha']

/-- **The search loop** returns the first entry of the list whose key is the one looked for, with
the rest of the list behind it, or `NULL`. -/
theorem find_loop_spec {m : HashMem} (value k1 : BitVec 64) (key : ℕ → BitVec 64) {p : ℕ}
    {l : List ℕ} (h : Chain m p l) (hkey : ∀ e ∈ l, m.hashValue e = some (key e)) {fuel : ℕ}
    (hfuel : l.length < fuel) :
    (find_loop m value k1 fuel p = some 0 ∧ ∀ e ∈ l, k1 ≠ value &&& key e) ∨
    ∃ l₁ e l₂, l = l₁ ++ e :: l₂ ∧ find_loop m value k1 fuel p = some e ∧ Chain m e l₂ ∧
      k1 = value &&& key e ∧ ∀ e' ∈ l₁, k1 ≠ value &&& key e' := by
  induction l generalizing p fuel with
  | nil =>
    obtain ⟨w, hw, hodd⟩ := h
    obtain ⟨fuel, rfl⟩ : ∃ f, fuel = f + 1 := ⟨fuel - 1, by omega⟩
    refine Or.inl ⟨?_, by simp⟩
    simp [find_loop, HashBucketLastLink, hw, hodd]
  | cons e l ih =>
    obtain ⟨hp, heven, hc⟩ := h
    obtain ⟨fuel, rfl⟩ : ∃ f, fuel = f + 1 := ⟨fuel - 1, by omega⟩
    have hstep : find_loop m value k1 (fuel + 1) p =
        if k1 = value &&& key e then some e else find_loop m value k1 fuel e := by
      simp [find_loop, HashBucketLastLink, hp, heven, hkey e List.mem_cons_self]
    by_cases hmatch : k1 = value &&& key e
    · refine Or.inr ⟨[], e, l, rfl, ?_, hc, hmatch, by simp⟩
      rw [hstep, if_pos hmatch]
    · rw [hstep, if_neg hmatch]
      have hlen : l.length < fuel := by
        rw [List.length_cons] at hfuel
        omega
      rcases ih hc (fun e' he' => hkey e' (List.mem_cons_of_mem e he')) hlen with
        ⟨hnone, hall⟩ | ⟨l₁, e', l₂, rfl, hfind, hc', hm, hall⟩
      · refine Or.inl ⟨hnone, ?_⟩
        intro e' he'
        rcases List.mem_cons.1 he' with rfl | he'
        · exact hmatch
        · exact hall e' he'
      · refine Or.inr ⟨e :: l₁, e', l₂, rfl, hfind, hc', hm, ?_⟩
        intro e'' he''
        rcases List.mem_cons.1 he'' with rfl | he''
        · exact hmatch
        · exact hall e'' he''

/-- What the search loop returns is `NULL` or an entry of the list that matches. -/
theorem find_loop_sound {m : HashMem} (value k1 : BitVec 64) (key : ℕ → BitVec 64) {p : ℕ}
    {l : List ℕ} (h : Chain m p l) (hkey : ∀ e ∈ l, m.hashValue e = some (key e)) {fuel e : ℕ}
    (hfind : find_loop m value k1 fuel p = some e) :
    e = 0 ∨ e ∈ l ∧ k1 = value &&& key e := by
  induction l generalizing p fuel with
  | nil =>
    obtain ⟨w, hw, hodd⟩ := h
    rcases fuel with _ | fuel
    · exact absurd hfind (by simp [find_loop])
    · simp [find_loop, HashBucketLastLink, hw, hodd] at hfind
      exact Or.inl hfind.symm
  | cons a l ih =>
    obtain ⟨hp, heven, hc⟩ := h
    rcases fuel with _ | fuel
    · exact absurd hfind (by simp [find_loop])
    · have hstep : find_loop m value k1 (fuel + 1) p =
          if k1 = value &&& key a then some a else find_loop m value k1 fuel a := by
        simp [find_loop, HashBucketLastLink, hp, heven, hkey a List.mem_cons_self]
      rw [hstep] at hfind
      by_cases hmatch : k1 = value &&& key a
      · rw [if_pos hmatch] at hfind
        obtain rfl := Option.some.inj hfind
        exact Or.inr ⟨List.mem_cons_self, hmatch⟩
      · rw [if_neg hmatch] at hfind
        rcases ih hc (fun e' he' => hkey e' (List.mem_cons_of_mem a he')) hfind with h0 | ⟨hm, hk⟩
        · exact Or.inl h0
        · exact Or.inr ⟨List.mem_cons_of_mem a hm, hk⟩

/-! ## What a table holds -/

/-- The bucket that an entry with this hash value belongs to. -/
def HashTable.index (t : HashTable) (hashValue : BitVec 64) : ℕ :=
  (HashTableGetBucketIndex t.count (t.keyMask &&& hashValue)).toNat

/-- A `HASH_BUCKET` in memory that is not one of the list heads of the table. -/
structure Entry (t : HashTable) (m : HashMem) (key : ℕ → BitVec 64) (e : ℕ) : Prop where
  ne_null : e ≠ 0
  aligned : e % 2 = 0
  cell : (m.next e).isSome = true
  value : m.hashValue e = some (key e)
  apart : ∀ i < t.count.toNat, e ≠ bucketAt t.Buckets i

/-- The table holds the entries `es`, the last one inserted first. -/
structure Holds (t : HashTable) (m : HashMem) (key : ℕ → BitVec 64) (es : List ℕ) : Prop where
  count : t.count ≠ 0
  items : t.ItemCount = BitVec.ofNat 32 es.length
  nodup : es.Nodup
  entries : ∀ e ∈ es, Entry t m key e
  chains : ∀ i < t.count.toNat,
    Chain m (bucketAt t.Buckets i) (es.filter fun e => t.index (key e) = i)

theorem bucketAt_inj {buckets i j : ℕ} (h : bucketAt buckets i = bucketAt buckets j) : i = j := by
  rw [bucketAt, bucketAt] at h
  omega

/-- A table holds its entries in every memory that has the same cells and values. -/
theorem Holds.congr {t : HashTable} {m m' : HashMem} {key key' : ℕ → BitVec 64} {es : List ℕ}
    (h : Holds t m key es) (hnext : ∀ a, (m.next a).isSome = true → m'.next a = m.next a)
    (hvalue : ∀ e ∈ es, m'.hashValue e = m.hashValue e) (hkey : ∀ e ∈ es, key' e = key e) :
    Holds t m' key' es := by
  refine ⟨h.count, h.items, h.nodup, ?_, ?_⟩
  · intro e he
    have hold := h.entries e he
    exact ⟨hold.ne_null, hold.aligned, by rw [hnext e hold.cell, hold.cell],
      by rw [hvalue e he, hkey e he, hold.value], hold.apart⟩
  · intro i hi
    have hsame : (es.filter fun e => t.index (key' e) = i) =
        es.filter fun e => t.index (key e) = i :=
      List.filter_congr fun e he => by rw [hkey e he]
    rw [hsame]
    exact (h.chains i hi).congr fun a ha => hnext a ((h.chains i hi).cells a ha)

/-- `HashTableFindNext` from `NULL` on returns `NULL` or an entry of the table that matches. -/
theorem HashTableFindNext_sound {t : HashTable} {m : HashMem} {key : ℕ → BitVec 64} {es : List ℕ}
    (h : Holds t m key es) {hashValue : BitVec 64} {fuel e : ℕ}
    (hfind : HashTableFindNext fuel t hashValue 0 m = some e) :
    e = 0 ∨ e ∈ es ∧ t.keyMask &&& hashValue = t.keyMask &&& key e := by
  rw [HashTableFindNext, if_neg (by simp), if_neg h.count] at hfind
  have hidx : t.index hashValue < t.count.toNat := bucket_index_lt t.count h.count _
  rcases find_loop_sound t.keyMask (t.keyMask &&& hashValue) key (h.chains _ hidx)
    (fun e he => (h.entries e (List.mem_filter.1 he).1).value) hfind with h0 | ⟨hm, hk⟩
  · exact Or.inl h0
  · exact Or.inr ⟨(List.mem_filter.1 hm).1, hk⟩

/-- A search for the key of an entry finds one. -/
theorem HashTableFindNext_found {t : HashTable} {m : HashMem} {key : ℕ → BitVec 64} {es : List ℕ}
    (h : Holds t m key es) {hashValue : BitVec 64} {fuel e : ℕ} (hfuel : es.length < fuel)
    (he : e ∈ es) (hkey : t.keyMask &&& hashValue = t.keyMask &&& key e) :
    ∃ e' ∈ es, HashTableFindNext fuel t hashValue 0 m = some e' := by
  have hidx : t.index hashValue < t.count.toNat := bucket_index_lt t.count h.count _
  have hlen : (es.filter fun e => t.index (key e) = t.index hashValue).length < fuel :=
    lt_of_le_of_lt (List.length_filter_le _ _) hfuel
  rw [HashTableFindNext, if_neg (by simp), if_neg h.count]
  rcases find_loop_spec t.keyMask (t.keyMask &&& hashValue) key (h.chains _ hidx)
    (fun e he => (h.entries e (List.mem_filter.1 he).1).value) hlen with
    ⟨-, hall⟩ | ⟨l₁, e', l₂, hsplit, hfind, -⟩
  · -- the entry is in the bucket that is searched
    have hsame : t.index (key e) = t.index hashValue := by
      rw [HashTable.index, HashTable.index, hkey]
    exact absurd hkey (hall e (List.mem_filter.2 ⟨he, by simpa using hsame⟩))
  · have hmem : e' ∈ es.filter fun e => t.index (key e) = t.index hashValue := by
      rw [hsplit]
      simp
    exact ⟨e', (List.mem_filter.1 hmem).1, hfind⟩

/-- **`HashTableInsert`.** -/
theorem HashTableInsert_spec {t : HashTable} {m : HashMem} {key : ℕ → BitVec 64} {es : List ℕ}
    (h : Holds t m key es) {e : ℕ} (he : Entry t m key e) (hnew : e ∉ es) :
    ∃ m', HashTableInsert t e m =
        some (t.ItemCount + 1, { t with ItemCount := t.ItemCount + 1 }, m') ∧
      Holds { t with ItemCount := t.ItemCount + 1 } m' key (e :: es) ∧
      m'.hashValue = m.hashValue ∧ ∀ a, (m'.next a).isSome = (m.next a).isSome := by
  have hidx : t.index (key e) < t.count.toNat := bucket_index_lt t.count h.count _
  have hhead : ∀ i < t.count.toNat, ∀ j, bucketAt t.Buckets i ∉
      es.filter fun e => t.index (key e) = j := by
    intro i hi j hmem
    exact (h.entries _ (List.mem_filter.1 hmem).1).apart i hi rfl
  obtain ⟨m', hpush, hchain, hvalue, hsome, hothers⟩ :=
    PushEntryList_spec (h.chains _ hidx) he.cell he.aligned (he.apart _ hidx)
      (fun hmem => hnew (List.mem_filter.1 hmem).1) (hhead _ hidx _)
  refine ⟨m', ?_, ?_, hvalue, hsome⟩
  · rw [HashTableInsert, he.value]
    rw [HashTable.index] at hpush
    simp only [Option.bind_eq_bind, Option.bind_some, hpush]
  · refine ⟨h.count, ?_, List.nodup_cons.2 ⟨hnew, h.nodup⟩, ?_, ?_⟩
    · change t.ItemCount + 1 = _
      rw [h.items, List.length_cons, BitVec.ofNat_add]
      rfl
    · intro a ha
      have hold : Entry t m key a := by
        rcases List.mem_cons.1 ha with rfl | ha
        · exact he
        · exact h.entries a ha
      exact ⟨hold.ne_null, hold.aligned, by rw [hsome, hold.cell], by rw [hvalue, hold.value],
        hold.apart⟩
    · intro i hi
      change Chain m' (bucketAt t.Buckets i) ((e :: es).filter fun a => t.index (key a) = i)
      by_cases hie : t.index (key e) = i
      · subst hie
        rw [List.filter_cons_of_pos (by simp)]
        exact hchain
      · rw [List.filter_cons_of_neg (by simpa using hie)]
        -- the other lists share no cell with this one
        refine (h.chains i hi).congr ?_
        intro a ha
        refine hothers a ?_ ?_
        · rintro rfl
          rcases List.mem_cons.1 ha with hbi | ha
          · exact hie (bucketAt_inj hbi)
          · exact hhead _ hidx _ ha
        · rintro rfl
          rcases List.mem_cons.1 ha with hbi | ha
          · exact he.apart i hi hbi
          · exact hnew (List.mem_filter.1 ha).1

/-- **A sequence of inserts.** -/
theorem insert_all_spec {m : HashMem} {key : ℕ → BitVec 64} (new : List ℕ) {t : HashTable}
    {es : List ℕ} (h : Holds t m key es) (hnew : ∀ e ∈ new, Entry t m key e)
    (hnd : (new.reverse ++ es).Nodup) :
    ∃ m', insert_all new t m = some
        ({ t with ItemCount := BitVec.ofNat 32 (new.reverse ++ es).length }, m') ∧
      Holds { t with ItemCount := BitVec.ofNat 32 (new.reverse ++ es).length } m' key
        (new.reverse ++ es) := by
  induction new generalizing t m es with
  | nil =>
    have ht : { t with ItemCount := BitVec.ofNat 32 es.length } = t := by
      rw [← h.items]
    refine ⟨m, ?_, ?_⟩
    · simp only [insert_all, List.reverse_nil, List.nil_append, ht]
    · simp only [List.reverse_nil, List.nil_append, ht]
      exact h
  | cons e new ih =>
    have hassoc : (e :: new).reverse ++ es = new.reverse ++ e :: es := by simp
    rw [hassoc] at hnd ⊢
    have hnot : e ∉ es := by
      have hmid := (List.nodup_append.1 hnd).2.1
      exact (List.nodup_cons.1 hmid).1
    obtain ⟨m1, hins, hholds, hvalue, hsome⟩ :=
      HashTableInsert_spec h (hnew e List.mem_cons_self) hnot
    obtain ⟨m', hrest, hfinal⟩ := ih hholds (fun a ha => by
      have hold := hnew a (List.mem_cons_of_mem e ha)
      exact ⟨hold.ne_null, hold.aligned, by rw [hsome, hold.cell], by rw [hvalue, hold.value],
        hold.apart⟩) hnd
    refine ⟨m', ?_, hfinal⟩
    rw [insert_all, hins]
    exact hrest

/-! ## Finding -/

/-- Where one search reads the cell `q` of a list first, the repeated search returns the entries of
that list that match. -/
theorem find_all_spec {t : HashTable} {m : HashMem} (hashValue : BitVec 64) (key : ℕ → BitVec 64)
    {fuel : ℕ} (l : List ℕ) {p q n : ℕ} (h : Chain m q l)
    (hfind : HashTableFindNext fuel t hashValue p m =
      find_loop m t.keyMask (t.keyMask &&& hashValue) fuel q)
    (hne : ∀ e ∈ l, e ≠ 0) (hkey : ∀ e ∈ l, m.hashValue e = some (key e))
    (hfuel : l.length < fuel) (hn : l.length < n) :
    find_all fuel t hashValue m n p =
      some (l.filter fun e => t.keyMask &&& hashValue = t.keyMask &&& key e) := by
  induction hlen : l.length using Nat.strong_induction_on generalizing l p q n with
  | _ len ih =>
    obtain ⟨n, rfl⟩ : ∃ n', n = n' + 1 := ⟨n - 1, by omega⟩
    rw [find_all, hfind]
    rcases find_loop_spec t.keyMask (t.keyMask &&& hashValue) key h hkey hfuel with
      ⟨hnone, hall⟩ | ⟨l₁, e, l₂, rfl, hsome, hc, hmatch, hall⟩
    · rw [hnone]
      rw [List.filter_eq_nil_iff.2 (fun e he => by simpa using hall e he)]
      rfl
    · have hmem : e ∈ l₁ ++ e :: l₂ := by simp
      have hsub : ∀ a ∈ l₂, a ∈ l₁ ++ e :: l₂ := fun a ha => by simp [ha]
      have hl₁ : l₁.filter (fun a => t.keyMask &&& hashValue = t.keyMask &&& key a) = [] :=
        List.filter_eq_nil_iff.2 (fun a ha => by simpa using hall a ha)
      rw [List.length_append, List.length_cons] at hfuel hn hlen
      -- the next search resumes at the entry found
      have hresume : HashTableFindNext fuel t hashValue e m =
          find_loop m t.keyMask (t.keyMask &&& hashValue) fuel e := by
        rw [HashTableFindNext, if_pos (hne e hmem)]
      have hrest := ih l₂.length (by omega) l₂ (n := n) hc hresume
        (fun a ha => hne a (hsub a ha)) (fun a ha => hkey a (hsub a ha)) (by omega) (by omega) rfl
      rw [hsome]
      simp only [Option.bind_eq_bind, Option.bind_some, if_neg (hne e hmem), hrest]
      rw [List.filter_append, hl₁, List.filter_cons_of_pos (by simpa using hmatch),
        List.nil_append]

/-- **Repeated `HashTableFindNext`** from `NULL` on returns the entries of the table whose key is
the one looked for. -/
theorem find_all_holds {t : HashTable} {m : HashMem} {key : ℕ → BitVec 64} {es : List ℕ}
    (h : Holds t m key es) (hashValue : BitVec 64) {fuel : ℕ} (hfuel : es.length < fuel) :
    find_all fuel t hashValue m fuel 0 =
      some (es.filter fun e => t.keyMask &&& hashValue = t.keyMask &&& key e) := by
  have hidx : t.index hashValue < t.count.toNat := bucket_index_lt t.count h.count _
  have hfind : HashTableFindNext fuel t hashValue 0 m =
      find_loop m t.keyMask (t.keyMask &&& hashValue) fuel
        (bucketAt t.Buckets (t.index hashValue)) := by
    rw [HashTableFindNext, if_neg (by simp), if_neg h.count]
    rfl
  have hlen : (es.filter fun e => t.index (key e) = t.index hashValue).length < fuel :=
    lt_of_le_of_lt (List.length_filter_le _ _) hfuel
  have hmem : ∀ e ∈ es.filter (fun e => t.index (key e) = t.index hashValue), e ∈ es :=
    fun e he => (List.mem_filter.1 he).1
  rw [find_all_spec hashValue key _ (h.chains _ hidx) hfind
    (fun e he => (h.entries e (hmem e he)).ne_null)
    (fun e he => (h.entries e (hmem e he)).value) hlen hlen, List.filter_filter]
  -- an entry that matches is in the bucket that is searched
  refine congrArg some (List.filter_congr fun e _ => ?_)
  by_cases hk : t.keyMask &&& hashValue = t.keyMask &&& key e
  · have hsame : t.index (key e) = t.index hashValue := by
      rw [HashTable.index, HashTable.index, hk]
    simp [hk, hsame]
  · simp [hk]

/-! ## Initialising -/

theorem init_buckets_spec (hash : ℕ) (n : ℕ) {p : ℕ} {m : HashMem}
    (h : ∀ i < n, (m.next (p + 8 * i)).isSome = true) :
    ∃ m', init_buckets hash n p m = some m' ∧ m'.hashValue = m.hashValue ∧
      (∀ i < n, m'.next (p + 8 * i) = some (lastLink hash)) ∧
      (∀ a, (∀ i < n, a ≠ p + 8 * i) → m'.next a = m.next a) ∧
      ∀ a, (m'.next a).isSome = (m.next a).isSome := by
  induction n generalizing p m with
  | zero => exact ⟨m, rfl, rfl, by simp, fun _ _ => rfl, fun _ => rfl⟩
  | succ n ih =>
    have h0 : (m.next p).isSome = true := h 0 (by omega)
    set m1 : HashMem := { m with next := Function.update m.next p (some (lastLink hash)) } with hm1
    have hsome1 : ∀ a, (m1.next a).isSome = (m.next a).isSome := by
      intro a
      by_cases ha : a = p
      · subst ha
        simp only [hm1, Function.update_self, h0, Option.isSome_some]
      · simp only [hm1, Function.update_of_ne ha]
    obtain ⟨m', hinit, hvalue, hlast, hothers, hsome⟩ := ih (p := p + 8) (m := m1) (fun i hi => by
      rw [hsome1]
      have := h (i + 1) (by omega)
      rwa [show p + 8 * (i + 1) = p + 8 + 8 * i by ring] at this)
    refine ⟨m', ?_, hvalue, ?_, ?_, fun a => (hsome a).trans (hsome1 a)⟩
    · rw [init_buckets, set_next_spec (lastLink hash) h0]
      exact hinit
    · intro i hi
      rcases i with _ | i
      · have hp : m'.next p = m1.next p := hothers p (fun j _ => by omega)
        rw [Nat.mul_zero, Nat.add_zero, hp]
        simp only [hm1, Function.update_self]
      · have := hlast i (by omega)
        rwa [show p + 8 * (i + 1) = p + 8 + 8 * i by ring]
    · intro a ha
      have hap : a ≠ p := ha 0 (by omega)
      rw [hothers a (fun i hi => by have := ha (i + 1) (by omega); omega)]
      simp only [hm1, Function.update_of_ne hap]

theorem lastLink_odd (hash : ℕ) : lastLink hash % 2 = 1 := by
  rw [lastLink, Nat.or_mod_two_eq_one]
  exact Or.inr rfl

/-- A power of two up to `2 ^ 26` is taken as it is. -/
theorem clampCount_pow (k : ℕ) (hk : k ≤ 26) :
    clampCount (RoundToPowerOfTwo (BitVec.ofNat 32 (2 ^ k)) false) = BitVec.ofNat 32 (2 ^ k) := by
  have h : ∀ k : Fin 27, clampCount (RoundToPowerOfTwo (BitVec.ofNat 32 (2 ^ k.val)) false) =
      BitVec.ofNat 32 (2 ^ k.val) := by decide
  exact h ⟨k, by omega⟩

/-- **An initialised table** with `2 ^ k` buckets is empty, has that size and ignores the low bits
that the flags say, whatever the table held before. -/
theorem HashTableInitialize_spec {k : ℕ} (hk : k ≤ 26) {flags : BitVec 32}
    (hflags : flags.toNat < 32) (hash : ℕ) (t0 : HashTable) {buckets : ℕ} (hbuckets : buckets ≠ 0)
    {m0 : HashMem} (halloc : ∀ i < 2 ^ k, (m0.next (bucketAt buckets i)).isSome = true)
    (key : ℕ → BitVec 64) :
    ∃ t m, HashTableInitialize hash t0 flags (BitVec.ofNat 32 (2 ^ k)) buckets m0 = some (t, m) ∧
      t.Buckets = buckets ∧ t.count.toNat = 2 ^ k ∧
      t.keyMask = BitVec.allOnes 64 <<< flags.toNat ∧ Holds t m key [] ∧
      m.hashValue = m0.hashValue ∧ ∀ a, (m.next a).isSome = (m0.next a).isSome := by
  have hpow : 2 ^ k ≤ 2 ^ 26 := Nat.pow_le_pow_right (by decide) hk
  have hnat : (BitVec.ofNat 32 (2 ^ k)).toNat = 2 ^ k := by
    rw [BitVec.toNat_ofNat, Nat.mod_eq_of_lt (by omega)]
  obtain ⟨m, hinit, hvalue, hlast, -, hsome⟩ := init_buckets_spec hash (2 ^ k) halloc
  set word : BitVec 32 := (flags &&& (0x1F : BitVec 32)) |||
    ((BitVec.ofNat 32 (2 ^ k) <<< 5 ||| (t0.BucketCount &&& 0x1F)) &&& 0xFFFFFFE0) with hword
  have hcount : (word >>> 5) &&& 0x7FFFFFF = BitVec.ofNat 32 (2 ^ k) :=
    packed_count _ _ _ (by rw [hnat]; omega)
  have hlow : flags &&& 0x1F = flags := by
    apply BitVec.eq_of_toNat_eq
    rw [BitVec.toNat_and]
    exact Nat.and_two_pow_sub_one_of_lt_two_pow (n := 5) hflags
  have hcountNat : (HashTable.count ⟨0, word, buckets⟩).toNat = 2 ^ k := by
    rw [HashTable.count, hcount, hnat]
  refine ⟨⟨0, word, buckets⟩, m, ?_, rfl, hcountNat, ?_, ?_, hvalue, hsome⟩
  · simp only [HashTableInitialize, clampCount_pow k hk, hnat, if_pos hbuckets, hinit, hword,
      Option.bind_eq_bind, Option.bind_some]
  · have hmask : word &&& 0x1F = flags := by
      rw [hword, packed_flags, hlow]
    rw [HashTable.keyMask, hmask]
  · refine ⟨?_, rfl, List.nodup_nil, by simp, ?_⟩
    · intro h0
      rw [h0] at hcountNat
      have hpos := Nat.two_pow_pos k
      have hzero : (0 : BitVec 32).toNat = 0 := rfl
      omega
    · intro i hi
      rw [hcountNat] at hi
      exact ⟨lastLink hash, hlast i hi, lastLink_odd hash⟩

/-- A block of memory that can be inserted: a `HASH_BUCKET` at an aligned address apart from the
`2 ^ k` list heads. -/
def Insertable (m : HashMem) (key : ℕ → BitVec 64) (buckets k e : ℕ) : Prop :=
  e ≠ 0 ∧ e % 2 = 0 ∧ (m.next e).isSome = true ∧ m.hashValue e = some (key e) ∧
    ∀ i < 2 ^ k, e ≠ bucketAt buckets i

/-- Initialising a table and inserting entries. -/
theorem initialize_insert_all (k : ℕ) (hk : k ≤ 26) (flags : BitVec 32) (hflags : flags.toNat < 32)
    (hash : ℕ) (t0 : HashTable) (buckets : ℕ) (hbuckets : buckets ≠ 0) (m0 : HashMem)
    (halloc : ∀ i < 2 ^ k, (m0.next (bucketAt buckets i)).isSome = true) (key : ℕ → BitVec 64)
    (es : List ℕ) (hnd : es.Nodup) (hes : ∀ e ∈ es, Insertable m0 key buckets k e) :
    ∃ t1 m1 t m, HashTableInitialize hash t0 flags (BitVec.ofNat 32 (2 ^ k)) buckets m0 =
        some (t1, m1) ∧ insert_all es t1 m1 = some (t, m) ∧
      t.keyMask = BitVec.allOnes 64 <<< flags.toNat ∧ Holds t m key es.reverse := by
  obtain ⟨t1, m1, hinit, hbk, hcount, hmask, hholds, hvalue, hsome⟩ :=
    HashTableInitialize_spec hk hflags hash t0 hbuckets halloc key
  have hentry : ∀ e ∈ es, Entry t1 m1 key e := by
    intro e he
    obtain ⟨h0, h2, hcell, hval, hapart⟩ := hes e he
    refine ⟨h0, h2, by rw [hsome, hcell], by rw [hvalue, hval], ?_⟩
    intro i hi
    rw [hcount] at hi
    rw [hbk]
    exact hapart i hi
  obtain ⟨m, hall, hfinal⟩ := insert_all_spec es hholds hentry (by
    rw [List.append_nil]
    exact List.nodup_reverse.2 hnd)
  rw [List.append_nil] at hall hfinal
  exact ⟨t1, m1, _, m, hinit, hall, hmask, hfinal⟩

/-- **Find returns what was inserted.** For a table with any power of two up to `2 ^ 26` of buckets,
any flags below 32 and any sequence of inserts of distinct entries, the repeated search from `NULL`
on terminates and returns the entries whose hash value agrees with the one looked for in the bits
that are not ignored, each once; `ItemCount` is the number of entries modulo `2 ^ 32`. -/
theorem find_all_inserted (k : ℕ) (hk : k ≤ 26) (flags : BitVec 32) (hflags : flags.toNat < 32)
    (hash : ℕ) (t0 : HashTable) (buckets : ℕ) (hbuckets : buckets ≠ 0) (m0 : HashMem)
    (halloc : ∀ i < 2 ^ k, (m0.next (bucketAt buckets i)).isSome = true) (key : ℕ → BitVec 64)
    (es : List ℕ) (hnd : es.Nodup) (hes : ∀ e ∈ es, Insertable m0 key buckets k e) :
    ∃ t1 m1 t m, HashTableInitialize hash t0 flags (BitVec.ofNat 32 (2 ^ k)) buckets m0 =
        some (t1, m1) ∧ insert_all es t1 m1 = some (t, m) ∧
      t.ItemCount.toNat = es.length % 2 ^ 32 ∧
      ∀ hashValue fuel, es.length < fuel → ∃ found,
        find_all fuel t hashValue m fuel 0 = some found ∧ found.Nodup ∧
        ∀ e, e ∈ found ↔ e ∈ es ∧ SameKey flags hashValue (key e) := by
  obtain ⟨t1, m1, t, m, hinit, hall, hmask, hholds⟩ :=
    initialize_insert_all k hk flags hflags hash t0 buckets hbuckets m0 halloc key es hnd hes
  refine ⟨t1, m1, t, m, hinit, hall, ?_, ?_⟩
  · rw [hholds.items, List.length_reverse, BitVec.toNat_ofNat]
  · intro hashValue fuel hfuel
    refine ⟨_, find_all_holds hholds hashValue (by rw [List.length_reverse]; exact hfuel),
      hholds.nodup.filter _, ?_⟩
    intro e
    rw [List.mem_filter, List.mem_reverse, decide_eq_true_eq, hmask, mask_eq_iff]

/-! ### A table in the kernel's address space -/

/-- Memory in which every word can be read; every entry has hash value 0. -/
def kernelMem : HashMem where
  next _ := some 0
  hashValue _ := some 0

/-- `n` entries of 16 bytes each. -/
def entriesAt (base n : ℕ) : List ℕ := (List.range n).map fun i => base + 16 * i

theorem entriesAt_nodup (base n : ℕ) : (entriesAt base n).Nodup := by
  refine List.nodup_range.map ?_
  intro i j hij
  change base + 16 * i = base + 16 * j at hij
  omega

theorem entriesAt_insertable (n : ℕ) :
    ∀ e ∈ entriesAt 0xFFFF900000000000 n,
      Insertable kernelMem (fun _ => 0) 0xFFFF800000000000 0 e := by
  intro e he
  obtain ⟨i, -, rfl⟩ := List.mem_map.1 he
  refine ⟨by omega, by omega, rfl, rfl, ?_⟩
  intro j hj
  rw [bucketAt]
  omega

/-- Three entries in a table with one bucket. -/
theorem find_all_three :
    ∃ t1 m1 t m, HashTableInitialize 0xFFFFF80000000000 ⟨0, 0, 0⟩ 3 1 0xFFFF800000000000
        kernelMem = some (t1, m1) ∧
      insert_all (entriesAt 0xFFFF900000000000 3) t1 m1 = some (t, m) ∧
      t.ItemCount.toNat = 3 ∧
      ∀ hashValue fuel, 3 < fuel → ∃ found,
        find_all fuel t hashValue m fuel 0 = some found ∧ found.Nodup ∧
        ∀ e, e ∈ found ↔ e ∈ entriesAt 0xFFFF900000000000 3 ∧ SameKey 3 hashValue 0 :=
  find_all_inserted 0 (by decide) 3 (by decide) 0xFFFFF80000000000 ⟨0, 0, 0⟩ 0xFFFF800000000000
    (by decide) kernelMem (fun _ _ => rfl) (fun _ => 0) (entriesAt 0xFFFF900000000000 3)
    (entriesAt_nodup _ _) (entriesAt_insertable 3)

/-- After `2 ^ 32` inserts `ItemCount` is zero again. -/
theorem item_count_wraps :
    ∃ t1 m1 t m, HashTableInitialize 0xFFFFF80000000000 ⟨0, 0, 0⟩ 0 1 0xFFFF800000000000
        kernelMem = some (t1, m1) ∧
      insert_all (entriesAt 0xFFFF900000000000 (2 ^ 32)) t1 m1 = some (t, m) ∧
      t.ItemCount = 0 ∧ (entriesAt 0xFFFF900000000000 (2 ^ 32)).length = 2 ^ 32 := by
  have hlen : (entriesAt 0xFFFF900000000000 (2 ^ 32)).length = 2 ^ 32 := by
    rw [entriesAt, List.length_map, List.length_range]
  obtain ⟨t1, m1, t, m, hinit, hall, -, hholds⟩ :=
    initialize_insert_all 0 (by decide) 0 (by decide) 0xFFFFF80000000000 ⟨0, 0, 0⟩
      0xFFFF800000000000 (by decide) kernelMem (fun _ _ => rfl) (fun _ => 0)
      (entriesAt 0xFFFF900000000000 (2 ^ 32)) (entriesAt_nodup _ (2 ^ 32))
      (entriesAt_insertable (2 ^ 32))
  refine ⟨t1, m1, t, m, hinit, hall, ?_, hlen⟩
  rw [hholds.items, List.length_reverse, hlen]
  rfl

end Svmx.MpHash
