/-
`HashTableRemoveKey`: the removal of an entry by its hash value.

The scan keeps one node behind the entry it looks at: `p` is the node before, and the entry that is
unlinked is `p->Next`. The hash value that is compared is that of `p`, though, and what is returned
is `p->Next` after the unlinking. So an entry is compared when its predecessor should be, the entry
that leaves the table is the one behind the match, and what is returned is one further on.
The list head takes part in the comparison as well: it is no `HASH_BUCKET`, and the word behind it is
the next list head, or, behind the last one, whatever follows the array.

The outcome: a table that holds an entry with the key never gets the removal right, and one that
does not is left alone exactly if the word behind the list head does not match by accident
(`HashTableRemoveKey_iff`).
-/
import Svmx.MpRehash

set_option autoImplicit false

namespace Svmx.MpHash

/-! ## The functions -/

/-- `(ULONG_PTR)Next | 0x8000000000000002`, the word of an entry that is in no list. -/
def unlinkedMark (w : ℕ) : ℕ := w ||| 0x8000000000000002

/-- The two writes of a removal: `p` takes over the word of the entry behind it, and that entry is
marked. -/
def unlink_entry (m : HashMem) (p entry : ℕ) : Option HashMem := do
  let rest ← m.next entry
  let m ← m.set_next p rest
  let w ← m.next entry
  m.set_next entry (unlinkedMark w)

/-- `((PHASH_BUCKET)p)->HashValue` for a cell `p` of the table. Behind a list head there is the next
list head; behind the last one there is the memory after the array. -/
def HashTable.hashValueAt (t : HashTable) (m : HashMem) (p : ℕ) : Option (BitVec 64) :=
  if t.Buckets ≤ p ∧ (p - t.Buckets) % 8 = 0 ∧ (p - t.Buckets) / 8 + 1 < t.count.toNat then
    (m.next (p + 8)).map (BitVec.ofNat 64)
  else m.hashValue p

/-- The loop of `HashTableRemoveKey`. -/
def remove_loop (t : HashTable) (k1 : BitVec 64) (m : HashMem) :
    ℕ → ℕ → Option (ℕ × HashTable × HashMem)
  | 0, _ => none
  | fuel + 1, p => do
    if ← HashBucketLastLink m p then some (0, t, m)
    else do
      let pNext ← m.next p
      let hashValue ← t.hashValueAt m p
      if k1 = t.keyMask &&& hashValue then do
        let m ← unlink_entry m p pNext
        let next ← m.next p
        some (next, { t with ItemCount := t.ItemCount - 1 }, m)
      else remove_loop t k1 m fuel pNext

/-- `HashTableRemoveKey`; `0` is `NULL`. -/
def HashTableRemoveKey (fuel : ℕ) (t : HashTable) (HashValue : BitVec 64) (m : HashMem) :
    Option (ℕ × HashTable × HashMem) :=
  if t.ItemCount = 0 then some (0, t, m)
  else
    let k1 := t.keyMask &&& HashValue
    remove_loop t k1 m fuel (bucketAt t.Buckets (HashTableGetBucketIndex t.count k1).toNat)

/-! ## Unlinking -/

/-- The cells of a list from its last visited one on. -/
theorem Chain.suffix {m : HashMem} {head : ℕ} {l₁ l₂ : List ℕ} (h : Chain m head (l₁ ++ l₂)) :
    Chain m (l₁.getLastD head) l₂ := by
  induction l₁ generalizing head with
  | nil => exact h
  | cons a l₁ ih =>
    rw [List.getLastD_cons]
    exact ih h.2.2

theorem getLastD_mem_cons (head : ℕ) (l : List ℕ) : l.getLastD head ∈ head :: l := by
  induction l generalizing head with
  | nil => exact List.mem_singleton_self head
  | cons a l ih =>
    rw [List.getLastD_cons]
    exact List.mem_cons_of_mem head (ih a)

/-- **An entry leaves a list** through the cell before it. Two cells change. -/
theorem Chain.unlink {m : HashMem} {head e : ℕ} {l₁ l₂ : List ℕ} (h : Chain m head (l₁ ++ e :: l₂))
    (hnd : (head :: (l₁ ++ e :: l₂)).Nodup) :
    ∃ m', unlink_entry m (l₁.getLastD head) e = some m' ∧ Chain m' head (l₁ ++ l₂) ∧
      m'.next (l₁.getLastD head) = m.next e ∧ m'.hashValue = m.hashValue ∧
      (∀ a, (m'.next a).isSome = (m.next a).isSome) ∧
      ∀ a, a ≠ l₁.getLastD head → a ≠ e → m'.next a = m.next a := by
  induction l₁ generalizing head with
  | nil =>
    obtain ⟨hhead, hnd⟩ := List.nodup_cons.1 hnd
    have hne : e ≠ head := fun heq => hhead (heq ▸ List.mem_cons_self)
    obtain ⟨rest, m₁, hrest, hset, hchain, hvalue, hsome, hsame⟩ := pop_spec h hhead
    have he₁ : m₁.next e = some rest := by rw [hsame e hne, hrest]
    have hhead₁ : m₁.next head = some rest := by
      obtain ⟨v, hv⟩ := Option.isSome_iff_exists.1 h.isSome
      rw [HashMem.set_next, hv] at hset
      rw [← Option.some.inj hset]
      exact Function.update_self ..
    set m₂ : HashMem := { m₁ with next := Function.update m₁.next e (some (unlinkedMark rest)) }
      with hm₂
    have hothers : ∀ a, a ≠ e → m₂.next a = m₁.next a := fun a ha => Function.update_of_ne ha _ _
    refine ⟨m₂, ?_, ?_, ?_, hvalue, ?_, ?_⟩
    · rw [unlink_entry, hrest]
      simp only [Option.bind_eq_bind, Option.bind_some, List.getLastD_nil, hset, he₁]
      exact set_next_spec _ (by rw [he₁]; rfl)
    · refine hchain.congr fun a ha => hothers a ?_
      rintro rfl
      rcases List.mem_cons.1 ha with heq | ha
      · exact hne heq
      · exact (List.nodup_cons.1 hnd).1 ha
    · rw [List.getLastD_nil, hothers head hne.symm, hhead₁, hrest]
    · intro a
      by_cases ha : a = e
      · have hself : m₂.next e = some (unlinkedMark rest) := Function.update_self ..
        rw [ha, hself, hrest]
        rfl
      · rw [hothers a ha, hsome]
    · intro a ha hae
      rw [hothers a hae, hsame a ha]
  | cons a l₁ ih =>
    obtain ⟨hhead, hnd⟩ := List.nodup_cons.1 hnd
    obtain ⟨hfirst, heven, hrest⟩ := h
    obtain ⟨m', hrun, hchain, hlast, hvalue, hsome, hsame⟩ := ih hrest hnd
    -- the list head is neither the cell before the entry nor the entry
    have hkept : m'.next head = m.next head := by
      refine hsame head ?_ ?_
      · intro heq
        rcases List.mem_cons.1 (heq ▸ getLastD_mem_cons a l₁) with rfl | hmem
        · exact hhead List.mem_cons_self
        · exact hhead (List.mem_cons_of_mem a (List.mem_append_left _ hmem))
      · rintro rfl
        exact hhead (List.mem_cons_of_mem a (List.mem_append_right l₁ List.mem_cons_self))
    rw [List.getLastD_cons]
    exact ⟨m', hrun, ⟨by rw [hkept, hfirst], heven, hchain⟩, hlast, hvalue, hsome, hsame⟩

section Table

variable {t : HashTable} {m : HashMem} {key : ℕ → BitVec 64} {es : List ℕ}

/-- The heads of the table are no entries, so a list with its head has no cell twice. -/
theorem Holds.nodup_cells (h : Holds t m key es) {i : ℕ} (hi : i < t.count.toNat) :
    (bucketAt t.Buckets i :: es.filter fun e => t.index (key e) = i).Nodup := by
  refine List.nodup_cons.2 ⟨fun hin => ?_, h.nodup.filter _⟩
  exact (h.entries _ (List.mem_filter.1 hin).1).apart i hi rfl

/-- **An entry leaves the table** and every other one stays. -/
theorem Holds.unlink (h : Holds t m key es) {i e : ℕ} {l₁ l₂ : List ℕ} (hi : i < t.count.toNat)
    (hl : (es.filter fun a => t.index (key a) = i) = l₁ ++ e :: l₂) :
    ∃ m', unlink_entry m (l₁.getLastD (bucketAt t.Buckets i)) e = some m' ∧
      m'.next (l₁.getLastD (bucketAt t.Buckets i)) = m.next e ∧
      Holds { t with ItemCount := t.ItemCount - 1 } m' key (es.erase e) := by
  have hmem : e ∈ es.filter fun a => t.index (key a) = i := by
    rw [hl]
    simp
  obtain ⟨hes, hidx⟩ := List.mem_filter.1 hmem
  have hidx : t.index (key e) = i := by simpa using hidx
  have hcells := h.nodup_cells hi
  have hchain := h.chains i hi
  rw [hl] at hcells hchain
  obtain ⟨m', hrun, hchain', hlast, hvalue, hsome, hsame⟩ := hchain.unlink hcells
  have hprev := getLastD_mem_cons (bucketAt t.Buckets i) l₁
  have hlen : es.length = (es.erase e).length + 1 := by
    have hpos : 0 < es.length := List.length_pos_of_mem hes
    rw [List.length_erase_of_mem hes]
    omega
  refine ⟨m', hrun, hlast, ⟨h.count, ?_, h.nodup.erase e, ?_, ?_⟩⟩
  · change t.ItemCount - 1 = _
    rw [h.items, hlen, BitVec.ofNat_add]
    exact BitVec.add_sub_cancel _ _
  · intro a ha
    have hold := h.entries a (List.mem_of_mem_erase ha)
    exact ⟨hold.ne_null, hold.aligned, by rw [hsome, hold.cell], by rw [hvalue, hold.value],
      hold.apart⟩
  · intro j hj
    change Chain m' (bucketAt t.Buckets j) ((es.erase e).filter fun a => t.index (key a) = j)
    by_cases hij : i = j
    · subst hij
      rw [erase_filter_append h.nodup hl]
      exact hchain'
    · rw [erase_filter_other h.nodup (by rw [hidx]; exact hij)]
      -- no cell of another list was written
      have hother : ∀ a ∈ bucketAt t.Buckets j :: es.filter (fun a => t.index (key a) = j),
          a ∉ bucketAt t.Buckets i :: (l₁ ++ e :: l₂) := by
        intro a ha hain
        rw [← hl] at hain
        rcases List.mem_cons.1 ha with rfl | ha
        · rcases List.mem_cons.1 hain with heq | hain
          · exact hij (bucketAt_inj heq).symm
          · exact (h.entries _ (List.mem_filter.1 hain).1).apart j hj rfl
        · rcases List.mem_cons.1 hain with rfl | hain
          · exact (h.entries _ (List.mem_filter.1 ha).1).apart i hi rfl
          · exact hij ((of_decide_eq_true (List.mem_filter.1 hain).2).symm.trans
              (of_decide_eq_true (List.mem_filter.1 ha).2))
      refine (h.chains j hj).congr fun a ha => hsame a ?_ ?_
      · rintro rfl
        refine hother _ ha ?_
        rcases List.mem_cons.1 hprev with hhead | hin
        · rw [hhead]
          exact List.mem_cons_self
        · exact List.mem_cons_of_mem _ (List.mem_append_left _ hin)
      · rintro rfl
        exact hother _ ha (List.mem_cons_of_mem _ (by simp))

/-! ## The scan -/

/-- An entry is read under its own hash value. -/
theorem Entry.hashValueAt {e : ℕ} (h : Entry t m key e) : t.hashValueAt m e = some (key e) := by
  rw [HashTable.hashValueAt, if_neg, h.value]
  rintro ⟨hle, hmod, hlt⟩
  refine h.apart ((e - t.Buckets) / 8) (by omega) ?_
  rw [bucketAt]
  omega

/-- The scan ends at the last cell of a list. -/
theorem remove_loop_last {k1 : BitVec 64} {p w fuel : ℕ} (hp : m.next p = some w)
    (hodd : w % 2 = 1) : remove_loop t k1 m (fuel + 1) p = some (0, t, m) := by
  simp [remove_loop, HashBucketLastLink, hp, hodd]

/-- One round of the scan before it. -/
theorem remove_loop_step {k1 : BitVec 64} {p e fuel : ℕ} (hp : m.next p = some e)
    (heven : e % 2 = 0) :
    remove_loop t k1 m (fuel + 1) p = (t.hashValueAt m p).bind fun v =>
      if k1 = t.keyMask &&& v then
        (unlink_entry m p e).bind fun m' => (m'.next p).bind fun next =>
          some (next, { t with ItemCount := t.ItemCount - 1 }, m')
      else remove_loop t k1 m fuel e := by
  rw [remove_loop, HashBucketLastLink, hp]
  simp only [Option.bind_eq_bind, Option.bind_some, heven, Nat.reduceBEq, Bool.false_eq_true,
    if_false]

/-- **No match**: neither the cell the scan starts at nor an entry behind it has the key. -/
theorem remove_loop_none {k1 : BitVec 64} {p : ℕ} {l : List ℕ} (h : Chain m p l)
    (hentry : ∀ e ∈ l, Entry t m key e) (hmiss : ∀ e ∈ l, k1 ≠ t.keyMask &&& key e)
    (hfirst : l = [] ∨ ∃ v, t.hashValueAt m p = some v ∧ k1 ≠ t.keyMask &&& v) {fuel : ℕ}
    (hfuel : l.length < fuel) : remove_loop t k1 m fuel p = some (0, t, m) := by
  induction l generalizing p fuel with
  | nil =>
    obtain ⟨w, hw, hodd⟩ := h
    obtain ⟨fuel, rfl⟩ : ∃ f, fuel = f + 1 := ⟨fuel - 1, by omega⟩
    exact remove_loop_last hw hodd
  | cons e l ih =>
    obtain ⟨hp, heven, hc⟩ := h
    obtain ⟨v, hv, hne⟩ := hfirst.resolve_left (List.cons_ne_nil e l)
    rw [List.length_cons] at hfuel
    obtain ⟨fuel, rfl⟩ : ∃ f, fuel = f + 1 := ⟨fuel - 1, by omega⟩
    rw [remove_loop_step hp heven, hv, Option.bind_some, if_neg hne]
    refine ih hc (fun a ha => hentry a (List.mem_cons_of_mem e ha))
      (fun a ha => hmiss a (List.mem_cons_of_mem e ha)) (Or.inr ⟨key e, ?_, ?_⟩) (by omega)
    · exact (hentry e List.mem_cons_self).hashValueAt
    · exact hmiss e List.mem_cons_self

/-- **A match** unlinks the entry behind it and returns what follows that entry. -/
theorem Holds.remove_match (h : Holds t m key es) {i e p : ℕ} {l₁ l₂ : List ℕ} {r : ℕ}
    {t' : HashTable} {m' : HashMem} (hi : i < t.count.toNat)
    (hl : (es.filter fun a => t.index (key a) = i) = l₁ ++ e :: l₂)
    (hp : l₁.getLastD (bucketAt t.Buckets i) = p)
    (hrun : ((unlink_entry m p e).bind fun m' => (m'.next p).bind fun next =>
      some (next, { t with ItemCount := t.ItemCount - 1 }, m')) = some (r, t', m')) :
    e ∈ es ∧ r ≠ e ∧ t' = { t with ItemCount := t.ItemCount - 1 } ∧
      Holds t' m' key (es.erase e) := by
  obtain ⟨m₁, hunlink, hlast, hholds⟩ := h.unlink hi hl
  have hchain := h.chains i hi
  have hnd := h.nodup.filter fun a => t.index (key a) = i
  have hmem : e ∈ es.filter fun a => t.index (key a) = i := by
    rw [hl]
    simp
  have hes := (List.mem_filter.1 hmem).1
  rw [hl] at hchain hnd
  -- the word of the entry is that of its successor, or a tagged one
  have hafter : Chain m e l₂ := hchain.suffix.2.2
  obtain ⟨w, hw⟩ := Option.isSome_iff_exists.1 hafter.isSome
  have hne : w ≠ e := by
    cases l₂ with
    | nil =>
      obtain ⟨w', hw', hodd⟩ := hafter
      have heven := (h.entries e hes).aligned
      rw [hw'] at hw
      obtain rfl := Option.some.inj hw
      omega
    | cons b l₂ =>
      rw [hafter.1] at hw
      obtain rfl := Option.some.inj hw
      rintro rfl
      exact (List.nodup_cons.1 (List.nodup_append.1 hnd).2.1).1 List.mem_cons_self
  rw [hp] at hunlink hlast
  rw [hunlink, Option.bind_some, hlast, hw, Option.bind_some] at hrun
  obtain ⟨rfl, hrest⟩ := Prod.mk.inj (Option.some.inj hrun)
  obtain ⟨rfl, rfl⟩ := Prod.mk.inj hrest
  exact ⟨hes, hne, rfl, hholds⟩

/-- **The scan** finds nothing and changes nothing, or an entry leaves the table that is not the
one that is returned. -/
theorem Holds.remove_loop_cases (h : Holds t m key es) {i : ℕ} (hi : i < t.count.toNat)
    {k1 : BitVec 64} {l₁ l : List ℕ} (hl : (es.filter fun a => t.index (key a) = i) = l₁ ++ l)
    {fuel r : ℕ} {t' : HashTable} {m' : HashMem}
    (hrun : remove_loop t k1 m fuel (l₁.getLastD (bucketAt t.Buckets i)) = some (r, t', m')) :
    (r = 0 ∧ t' = t ∧ m' = m) ∨ ∃ e ∈ es, r ≠ e ∧ Holds t' m' key (es.erase e) := by
  have hchain := h.chains i hi
  rw [hl] at hchain
  have hhere := hchain.suffix
  induction l generalizing l₁ fuel with
  | nil =>
    rcases fuel with _ | fuel
    · cases hrun
    · obtain ⟨w, hw, hodd⟩ := hhere
      rw [remove_loop_last hw hodd] at hrun
      obtain ⟨rfl, hrest⟩ := Prod.mk.inj (Option.some.inj hrun)
      obtain ⟨rfl, rfl⟩ := Prod.mk.inj hrest
      exact Or.inl ⟨rfl, rfl, rfl⟩
  | cons e l ih =>
    rcases fuel with _ | fuel
    · cases hrun
    · rw [remove_loop_step hhere.1 hhere.2.1] at hrun
      obtain ⟨v, -, hrun⟩ := Option.bind_eq_some_iff.mp hrun
      split at hrun
      · obtain ⟨hes, hne, -, hholds⟩ := h.remove_match hi hl rfl hrun
        exact Or.inr ⟨e, hes, hne, hholds⟩
      · have hsplit : l₁ ++ e :: l = (l₁ ++ [e]) ++ l := by simp
        have hlast : (l₁ ++ [e]).getLastD (bucketAt t.Buckets i) = e := by simp
        rw [← hlast] at hrun
        rw [hsplit] at hl hchain
        exact ih hl hrun hchain hchain.suffix

/-! ## The removal -/

/-- A hash table with the entries `es`. One without buckets, as `HashTableInitialize` makes it of no
memory, has none. -/
def IsTable (t : HashTable) (m : HashMem) (key : ℕ → BitVec 64) (es : List ℕ) : Prop :=
  Holds t m key es ∨ t.count = 0 ∧ t.ItemCount = 0 ∧ t.Buckets = 0 ∧ es = []

/-- An entry has the hash value in the bits that the table does not ignore. -/
def HasKey (t : HashTable) (hashValue : BitVec 64) (key : ℕ → BitVec 64) (e : ℕ) : Prop :=
  t.keyMask &&& hashValue = t.keyMask &&& key e

/-- Repeated `HashTableFindNext` finds the entries of `es` but `r`. -/
def FindsAllBut (fuel : ℕ) (t : HashTable) (m : HashMem) (key : ℕ → BitVec 64) (es : List ℕ)
    (r : ℕ) : Prop :=
  ∀ hashValue, ∃ found, find_all fuel t hashValue m fuel 0 = some found ∧
    ∀ e, e ∈ found ↔ e ∈ es ∧ e ≠ r ∧ HasKey t hashValue key e

/-- A removal by hash value: an entry with that key is returned and taken out, if there is one. -/
def RemovesKey (fuel : ℕ) (t : HashTable) (m : HashMem) (key : ℕ → BitVec 64) (es : List ℕ)
    (hashValue : BitVec 64) : Prop :=
  ∃ r t' m', HashTableRemoveKey fuel t hashValue m = some (r, t', m') ∧
    ((∃ e ∈ es, HasKey t hashValue key e) → r ∈ es ∧ HasKey t hashValue key r ∧
      FindsAllBut fuel t' m' key es r ∧ t'.ItemCount = t.ItemCount - 1) ∧
    ((∀ e ∈ es, ¬ HasKey t hashValue key e) → r = 0 ∧ t' = t ∧ m' = m)

/-- The word behind the list head that the scan starts at can be read and does not match. -/
def HeadPasses (t : HashTable) (m : HashMem) (hashValue : BitVec 64) : Prop :=
  ∃ v, t.hashValueAt m (bucketAt t.Buckets (t.index hashValue)) = some v ∧
    t.keyMask &&& hashValue ≠ t.keyMask &&& v

theorem HashTableRemoveKey_of_items {fuel : ℕ} {hashValue : BitVec 64} (h : t.ItemCount ≠ 0) :
    HashTableRemoveKey fuel t hashValue m =
      remove_loop t (t.keyMask &&& hashValue) m fuel (bucketAt t.Buckets (t.index hashValue)) := by
  rw [HashTableRemoveKey, if_neg h]
  rfl

/-- An entry with the key is never removed as it should be. -/
theorem Holds.not_removes (h : Holds t m key es) {fuel : ℕ} (hfuel : es.length < fuel)
    {hashValue : BitVec 64} (hkey : ∃ e ∈ es, HasKey t hashValue key e) :
    ¬ RemovesKey fuel t m key es hashValue := by
  rintro ⟨r, t', m', hrun, hpresent, -⟩
  obtain ⟨hres, -, hfinds, -⟩ := hpresent hkey
  have hr0 : r ≠ 0 := (h.entries r hres).ne_null
  have hidx : t.index hashValue < t.count.toNat := bucket_index_lt t.count h.count _
  by_cases hitems : t.ItemCount = 0
  · rw [HashTableRemoveKey, if_pos hitems] at hrun
    exact hr0 (Prod.mk.inj (Option.some.inj hrun)).1.symm
  · rw [HashTableRemoveKey_of_items hitems] at hrun
    rcases h.remove_loop_cases hidx (List.nil_append _).symm hrun with ⟨rfl, -⟩ | ⟨e, hes, hne, hholds⟩
    · exact hr0 rfl
    · -- the entry that left is not the one returned, and it is not found any more
      have hlen : (es.erase e).length < fuel := lt_of_le_of_lt List.length_erase_le hfuel
      obtain ⟨found, hfound, hiff⟩ := hfinds (key e)
      rw [find_all_holds hholds (key e) hlen] at hfound
      have hin := (hiff e).2 ⟨hes, hne.symm, rfl⟩
      rw [← Option.some.inj hfound] at hin
      exact h.nodup.not_mem_erase (List.mem_filter.1 hin).1

/-- Without an entry with the key, nothing happens exactly if the list head does not match. -/
theorem Holds.removes_iff (h : Holds t m key es) {fuel : ℕ} (hfuel : es.length < fuel)
    {hashValue : BitVec 64} (hnone : ∀ e ∈ es, ¬ HasKey t hashValue key e) :
    RemovesKey fuel t m key es hashValue ↔
      t.ItemCount = 0 ∨ (∀ e ∈ es, t.index (key e) ≠ t.index hashValue) ∨
        HeadPasses t m hashValue := by
  have hidx : t.index hashValue < t.count.toNat := bucket_index_lt t.count h.count _
  have hchain := h.chains _ hidx
  by_cases hitems : t.ItemCount = 0
  · refine ⟨fun _ => Or.inl hitems, fun _ => ⟨0, t, m, ?_, ?_, fun _ => ⟨rfl, rfl, rfl⟩⟩⟩
    · rw [HashTableRemoveKey, if_pos hitems]
    · rintro ⟨e, he, hkey⟩
      exact absurd hkey (hnone e he)
  constructor
  · rintro ⟨r, t', m', hrun, -, habsent⟩
    obtain ⟨-, ht, -⟩ := habsent hnone
    rw [HashTableRemoveKey_of_items hitems] at hrun
    rcases hl : es.filter fun e => t.index (key e) = t.index hashValue with _ | ⟨e, l⟩
    · refine Or.inr (Or.inl fun e he heq => ?_)
      have hin : e ∈ es.filter fun e => t.index (key e) = t.index hashValue :=
        List.mem_filter.2 ⟨he, by simpa using heq⟩
      rw [hl] at hin
      exact absurd hin List.not_mem_nil
    · rcases fuel with _ | fuel
      · cases hrun
      rw [hl] at hchain
      rw [remove_loop_step hchain.1 hchain.2.1] at hrun
      obtain ⟨v, hv, hrun⟩ := Option.bind_eq_some_iff.mp hrun
      refine Or.inr (Or.inr ⟨v, hv, fun hmatch => ?_⟩)
      rw [if_pos hmatch] at hrun
      obtain ⟨-, -, ht', -⟩ := h.remove_match hidx (hl.trans (List.nil_append _).symm) rfl hrun
      -- the count was lowered
      rw [ht] at ht'
      have hcount : t.ItemCount = t.ItemCount - 1 := congrArg HashTable.ItemCount ht'
      bv_omega
  · intro hcond
    refine ⟨0, t, m, ?_, ?_, fun _ => ⟨rfl, rfl, rfl⟩⟩
    · rw [HashTableRemoveKey_of_items hitems]
      have hmem : ∀ e ∈ es.filter (fun e => t.index (key e) = t.index hashValue), e ∈ es :=
        fun e he => (List.mem_filter.1 he).1
      refine remove_loop_none hchain (fun e he => h.entries e (hmem e he))
        (fun e he => hnone e (hmem e he)) ?_
        (lt_of_le_of_lt (List.length_filter_le _ _) hfuel)
      rcases hcond with hzero | hempty | hhead
      · exact absurd hzero hitems
      · exact Or.inl (List.filter_eq_nil_iff.2 fun e he => by simpa using hempty e he)
      · exact Or.inr hhead
    · rintro ⟨e, he, hkey⟩
      exact absurd hkey (hnone e he)

/-- **The removal is right only where there is nothing to remove.** For every table and every hash
value `HashTableRemoveKey` does what it should if and only if no entry has the key and either the
table is empty, or the list that the scan goes through is empty, or the word behind the head of that
list can be read and does not match. -/
theorem HashTableRemoveKey_iff (h : IsTable t m key es) {fuel : ℕ} (hfuel : es.length < fuel)
    (hashValue : BitVec 64) :
    RemovesKey fuel t m key es hashValue ↔ (∀ e ∈ es, ¬ HasKey t hashValue key e) ∧
      (t.ItemCount = 0 ∨ (∀ e ∈ es, t.index (key e) ≠ t.index hashValue) ∨
        HeadPasses t m hashValue) := by
  rcases h with h | ⟨-, hitems, -, rfl⟩
  · constructor
    · intro hremoves
      have hnone : ∀ e ∈ es, ¬ HasKey t hashValue key e := fun e he hkey =>
        h.not_removes hfuel ⟨e, he, hkey⟩ hremoves
      exact ⟨hnone, (h.removes_iff hfuel hnone).1 hremoves⟩
    · rintro ⟨hnone, hcond⟩
      exact (h.removes_iff hfuel hnone).2 hcond
  · refine ⟨fun _ => ⟨by simp, Or.inl hitems⟩, fun _ => ⟨0, t, m, ?_, by simp, fun _ => ⟨rfl, rfl, rfl⟩⟩⟩
    rw [HashTableRemoveKey, if_pos hitems]

end Table

/-! ### A table with one entry -/

/-- The memory of `oneBucket` with an entry of hash value 1; behind the list head there is a 0. -/
def oneEntryMem : HashMem where
  next := (oneBucketMem 1).next
  hashValue a := some (if a = 0xFFFF900000000000 then 1 else 0)

theorem oneEntry_holds : Holds oneBucket oneEntryMem (fun _ => 1) [0xFFFF900000000000] := by
  refine (oneBucket_holds 1).congr (fun _ _ => rfl) (fun e he => ?_) (fun _ _ => rfl)
  rw [List.mem_singleton.1 he]
  rfl

/-- A hash value that no entry has is looked for in vain, and the table stays as it is. -/
theorem remove_absent_key : RemovesKey 2 oneBucket oneEntryMem (fun _ => 1) [0xFFFF900000000000] 2 :=
  (HashTableRemoveKey_iff (Or.inl oneEntry_holds) (by decide) 2).2
    ⟨by unfold HasKey; decide, Or.inr (Or.inr ⟨0, by decide, by decide⟩)⟩

/-- The only entry is looked for under its hash value: `HashTableRemoveKey` returns `NULL` and the
entry stays in the table. -/
theorem remove_present_key :
    Holds oneBucket oneEntryMem (fun _ => 1) [0xFFFF900000000000] ∧
      (HashTableRemoveKey 2 oneBucket 1 oneEntryMem).map (fun r => (r.1, r.2.1)) =
        some (0, oneBucket) ∧
      ¬ RemovesKey 2 oneBucket oneEntryMem (fun _ => 1) [0xFFFF900000000000] 1 :=
  ⟨oneEntry_holds, by decide +kernel,
    oneEntry_holds.not_removes (by decide) ⟨_, List.mem_cons_self, rfl⟩⟩

end Svmx.MpHash
