/-
`list.h`, `hashtable.h` and `hash.h`: hash tables of intrusive singly headed lists.

A node holds the address of the next node and, in `pprev`, the place of the pointer that
leads to it: a list head or the `next` field of the node before. `HlistLink` names these
places. A `pprev` word that is none of them (the contents of a block the pool has just handed
out) is `wild`, and writing through it is the outcome `none`, like writing through NULL.

The nodes are embedded in the objects of the table, and the model identifies a node with its
object (`hlist_entry_safe` is the identity).
-/
import Mathlib
import Svmx.RbTree

set_option autoImplicit false

namespace Svmx.Hlist

open RbTree (Ptr)

/-! ## Hashing -/

def GOLDEN_RATIO_32 : ℕ := 0x61C88647

/-- `hash_32`: the product in 32 bits, its top `bits` bits. -/
def hash_32 (val bits : ℕ) : ℕ := val * GOLDEN_RATIO_32 % 2 ^ 32 / 2 ^ (32 - bits)

/-! ## The operations of `list.h` -/

/-- The place of a pointer to a list node. -/
inductive HlistLink where
  | null
  | first (b : ℕ)
  | next (p : Ptr)
  | wild
deriving DecidableEq, Repr

/-- `struct hlist_node`. -/
structure HlistNode where
  next : Ptr
  pprev : HlistLink
deriving DecidableEq, Repr

/-- A hash table: the array of list heads and the nodes. -/
structure HlistTable where
  node : Ptr → Option HlistNode
  first : ℕ → Ptr

namespace HlistTable

def store (s : HlistTable) (p : Ptr) (n : HlistNode) : HlistTable :=
  { s with node := Function.update s.node p (some n) }

def set_first (s : HlistTable) (b : ℕ) (p : Ptr) : HlistTable :=
  { s with first := Function.update s.first b p }

/-- `p->pprev = l`. -/
def set_pprev (s : HlistTable) (p : Ptr) (l : HlistLink) : Option HlistTable := do
  let n ← s.node p
  pure (s.store p { n with pprev := l })

/-- `if (p) p->pprev = l`. -/
def set_pprev_if (s : HlistTable) (p : Ptr) (l : HlistLink) : Option HlistTable :=
  if p ≠ 0 then s.set_pprev p l else some s

/-- `*pprev = v`. -/
def write_link (s : HlistTable) (v : Ptr) : HlistLink → Option HlistTable
  | .null => none
  | .first b => some (s.set_first b v)
  | .next p => do
    let n ← s.node p
    pure (s.store p { n with next := v })
  | .wild => none

end HlistTable

/-- `__hlist_del`. -/
def hlist_del (s : HlistTable) (p : Ptr) : Option HlistTable := do
  let n ← s.node p
  let s ← s.write_link n.next n.pprev
  s.set_pprev_if n.next n.pprev

/-- `hash_del`, that is `hlist_del_init`. -/
def hlist_del_init (s : HlistTable) (p : Ptr) : Option HlistTable := do
  let n ← s.node p
  if n.pprev ≠ .null then do
    let s ← hlist_del s p
    pure (s.store p ⟨0, .null⟩)
  else pure s

/-- `hlist_add_head(p, &head[b])`. -/
def hlist_add_head (s : HlistTable) (p : Ptr) (b : ℕ) : Option HlistTable := do
  let first := s.first b
  let n ← s.node p
  let s := s.store p { n with next := first }
  let s ← s.set_pprev_if first (.next p)
  let s := s.set_first b p
  s.set_pprev p (.first b)

/-- The loop `for (slot = first; slot; slot = slot->next)` that stops at the first object
passing `test`; NULL when the list ends. -/
def hlist_find (s : HlistTable) (test : Ptr → Option Bool) : ℕ → Ptr → Option Ptr
  | 0, _ => none
  | fuel + 1, p =>
    if p = 0 then some 0
    else do
      if ← test p then pure p
      else do
        let n ← s.node p
        hlist_find s test fuel n.next

/-! ## What a table holds -/

/-- The list `l` hangs from the pointer `p` that is stored at `link`. -/
def Chain (s : HlistTable) : HlistLink → Ptr → List Ptr → Prop
  | _, p, [] => p = 0
  | link, p, a :: l => p = a ∧ a ≠ 0 ∧ ∃ n, s.node a = some n ∧ n.pprev = link
      ∧ Chain s (.next a) n.next l

/-- The lists of a table. `bucket` says in which list an object belongs. -/
structure Buckets (s : HlistTable) (bucket : Ptr → ℕ) (c : ℕ → List Ptr) : Prop where
  chain : ∀ b, Chain s (.first b) (s.first b) (c b)
  nodup : ∀ b, (c b).Nodup
  mem : ∀ b, ∀ p ∈ c b, bucket p = b

/-- A chain is carried over to any heap that has the same nodes. -/
theorem Chain.congr {s s' : HlistTable} {link : HlistLink} {p : Ptr} {l : List Ptr}
    (h : Chain s link p l) (hn : ∀ a ∈ l, s'.node a = s.node a) : Chain s' link p l := by
  induction l generalizing link p with
  | nil => exact h
  | cons a l ih =>
    obtain ⟨hp, ha, n, hna, hpp, hc⟩ := h
    refine ⟨hp, ha, n, ?_, hpp, ih hc (fun b hb => hn b (by simp [hb]))⟩
    rw [hn a (by simp), hna]

theorem Chain.head_eq {s : HlistTable} {link : HlistLink} {p : Ptr} {l : List Ptr}
    (h : Chain s link p l) : p = l.headD 0 := by
  cases l with
  | nil => exact h
  | cons a l => exact h.1

/-- Every member of a chain has a cell and is not NULL. -/
theorem Chain.mem_node {s : HlistTable} {link : HlistLink} {p : Ptr} {l : List Ptr}
    (h : Chain s link p l) : ∀ a ∈ l, a ≠ 0 ∧ ∃ n, s.node a = some n := by
  induction l generalizing link p with
  | nil => simp
  | cons a l ih =>
    obtain ⟨_, ha, n, hna, _, hc⟩ := h
    intro b hb
    rcases List.mem_cons.1 hb with rfl | hb
    · exact ⟨ha, n, hna⟩
    · exact ih hc b hb

/-- The head of a chain can be hung from another place by changing its `pprev`. -/
theorem Chain.rehang {s : HlistTable} {link : HlistLink} {p : Ptr} {l : List Ptr}
    (h : Chain s link p l) (link' : HlistLink) (hl : l.Nodup) :
    ∃ s', s.set_pprev_if p link' = some s' ∧ Chain s' link' p l ∧ s'.first = s.first
      ∧ (∀ a, a ≠ p → s'.node a = s.node a) ∧ (∀ a, (s'.node a).isSome = (s.node a).isSome) := by
  cases l with
  | nil =>
    have hp : p = 0 := h
    refine ⟨s, ?_, h, rfl, fun _ _ => rfl, fun _ => rfl⟩
    rw [HlistTable.set_pprev_if, if_neg (not_not.2 hp)]
  | cons a l =>
    obtain ⟨rfl, ha, n, hna, _, hc⟩ := h
    refine ⟨s.store p { n with pprev := link' }, ?_, ?_, rfl, ?_, ?_⟩
    · rw [HlistTable.set_pprev_if, if_pos ha]
      simp [HlistTable.set_pprev, hna]
    · refine ⟨rfl, ha, { n with pprev := link' }, by simp [HlistTable.store], rfl, ?_⟩
      refine hc.congr (fun b hb => ?_)
      have hbp : b ≠ p := fun e => (List.nodup_cons.1 hl).1 (e ▸ hb)
      simp [HlistTable.store, Function.update_of_ne hbp]
    · intro b hb
      simp [HlistTable.store, Function.update_of_ne hb]
    · intro b
      by_cases hb : b = p
      · simp [HlistTable.store, hb, hna]
      · simp [HlistTable.store, Function.update_of_ne hb]

/-! ## The operations -/

/-- A table is carried over to any heap with the same nodes and heads, as long as the members
still belong in their lists. -/
theorem Buckets.congr {s s' : HlistTable} {bucket bucket' : Ptr → ℕ} {c : ℕ → List Ptr}
    (h : Buckets s bucket c) (hf : s'.first = s.first)
    (hn : ∀ b, ∀ a ∈ c b, s'.node a = s.node a)
    (hb : ∀ b, ∀ a ∈ c b, bucket' a = bucket a) : Buckets s' bucket' c where
  chain b := by
    rw [hf]
    exact (h.chain b).congr (hn b)
  nodup := h.nodup
  mem b p hp := by rw [hb b p hp, h.mem b p hp]

/-- Lists of different heads share no object. -/
theorem Buckets.disjoint {s : HlistTable} {bucket : Ptr → ℕ} {c : ℕ → List Ptr}
    (h : Buckets s bucket c) {b b' : ℕ} {p : Ptr} (hp : p ∈ c b) (hp' : p ∈ c b') : b = b' := by
  rw [← h.mem b p hp, h.mem b' p hp']

/-- **`hlist_add_head`.** A node that is in no list becomes the head of its list. -/
theorem hlist_add_head_spec {s : HlistTable} {bucket : Ptr → ℕ} {c : ℕ → List Ptr}
    (h : Buckets s bucket c) {p : Ptr} (hp0 : p ≠ 0) {n : HlistNode} (hn : s.node p = some n)
    (hp : ∀ b, p ∉ c b) :
    ∃ s', hlist_add_head s p (bucket p) = some s'
      ∧ Buckets s' bucket (Function.update c (bucket p) (p :: c (bucket p)))
      ∧ ∀ a, (s'.node a).isSome = (s.node a).isSome := by
  set b := bucket p with hb
  let s1 := s.store p { n with next := s.first b }
  have hne : ∀ b', ∀ a ∈ c b', a ≠ p := fun b' a ha e => hp b' (e ▸ ha)
  have hc1 : ∀ b', Chain s1 (.first b') (s.first b') (c b') := by
    intro b'
    refine (h.chain b').congr (fun a ha => ?_)
    simp [s1, HlistTable.store, Function.update_of_ne (hne b' a ha)]
  obtain ⟨s2, e2, hc2, hf2, hn2, hs2⟩ := (hc1 b).rehang (.next p) (h.nodup b)
  -- the old head is not `p`, so the cell of `p` is still the one just written
  have hfp : p ≠ s.first b := by
    intro e
    rw [(h.chain b).head_eq] at e
    cases hcb : c b with
    | nil => rw [hcb] at e; exact hp0 e
    | cons a l =>
      rw [hcb] at e
      exact hne b a (by simp [hcb]) e.symm
  have hp2 : s2.node p = some { n with next := s.first b } := by
    rw [hn2 p hfp]
    simp [s1, HlistTable.store]
  let s4 := (s2.set_first b p).store p ⟨s.first b, .first b⟩
  have e4 : (s2.set_first b p).set_pprev p (.first b) = some s4 := by
    simp [HlistTable.set_pprev, HlistTable.set_first, hp2, s4]
  have hn4 : ∀ a, a ≠ p → s4.node a = s2.node a := by
    intro a ha
    simp [s4, HlistTable.store, HlistTable.set_first, Function.update_of_ne ha]
  refine ⟨s4, ?_, ?_, ?_⟩
  · simp only [hlist_add_head, hn, Option.bind_eq_bind, Option.bind_some]
    rw [show s.store p { n with next := s.first b } = s1 from rfl, e2, Option.bind_some]
    exact e4
  · refine ⟨?_, ?_, ?_⟩
    · intro b'
      by_cases hbb : b' = b
      · rw [hbb, Function.update_self]
        have hfirst : s4.first b = p := by
          simp [s4, HlistTable.store, HlistTable.set_first]
        rw [hfirst]
        refine ⟨rfl, hp0, ⟨s.first b, .first b⟩, by simp [s4, HlistTable.store], rfl, ?_⟩
        exact hc2.congr (fun a ha => hn4 a (hne b a ha))
      · rw [Function.update_of_ne hbb]
        have hfirst : s4.first b' = s.first b' := by
          simp [s4, HlistTable.store, HlistTable.set_first, Function.update_of_ne hbb, hf2, s1]
        rw [hfirst]
        refine (hc1 b').congr (fun a ha => ?_)
        rw [hn4 a (hne b' a ha)]
        apply hn2
        intro e
        apply hbb
        have ha0 := ((h.chain b').mem_node a ha).1
        have hmem : a ∈ c b := by
          rw [e, (h.chain b).head_eq] at ha0 ⊢
          cases hcb : c b with
          | nil => rw [hcb] at ha0; exact absurd rfl ha0
          | cons x l => simp
        exact h.disjoint ha hmem
    · intro b'
      by_cases hbb : b' = b
      · rw [hbb, Function.update_self]
        exact List.nodup_cons.2 ⟨hp b, h.nodup b⟩
      · rw [Function.update_of_ne hbb]
        exact h.nodup b'
    · intro b' q hq
      by_cases hbb : b' = b
      · rw [hbb, Function.update_self] at hq
        rcases List.mem_cons.1 hq with rfl | hq
        · rw [hbb]
        · rw [hbb, h.mem b q hq]
      · rw [Function.update_of_ne hbb] at hq
        exact h.mem b' q hq
  · intro a
    by_cases ha : a = p
    · simp [ha, s4, HlistTable.store, hn]
    · rw [hn4 a ha, hs2 a]
      simp [s1, HlistTable.store, Function.update_of_ne ha]

/-- The place that leads to an inner member of a chain. -/
def linkTo (link : HlistLink) (l : List Ptr) : HlistLink :=
  match l.getLast? with
  | none => link
  | some a => .next a

theorem linkTo_cons (link : HlistLink) (a : Ptr) (l : List Ptr) :
    linkTo link (a :: l) = linkTo (.next a) l := by
  cases l with
  | nil => rfl
  | cons b l => simp [linkTo, List.getLast?_cons]

theorem linkTo_eq_next {link : HlistLink} {l : List Ptr} {a : Ptr} (h : linkTo link l = .next a) :
    link = .next a ∨ a ∈ l := by
  rw [linkTo] at h
  split at h
  · exact .inl h
  · rename_i b hb
    obtain rfl : b = a := by simpa using h
    exact .inr (List.mem_of_getLast? hb)

/-- The cell of an inner member, and the chain that follows it. -/
theorem Chain.at {s : HlistTable} {link : HlistLink} {q p : Ptr} {l₁ l₂ : List Ptr}
    (h : Chain s link q (l₁ ++ p :: l₂)) :
    ∃ n, s.node p = some n ∧ n.pprev = linkTo link l₁ ∧ Chain s (.next p) n.next l₂ := by
  induction l₁ generalizing link q with
  | nil =>
    obtain ⟨_, _, n, hn, hpp, hc⟩ := h
    exact ⟨n, hn, hpp, hc⟩
  | cons a l₁ ih =>
    obtain ⟨_, _, n, _, _, hc⟩ := h
    obtain ⟨m, hm, hpp, hc'⟩ := ih hc
    exact ⟨m, hm, by rw [linkTo_cons]; exact hpp, hc'⟩

/-- Taking a member out of a chain: the pointer that led to it holds `v` instead, and what
follows hangs from there. -/
theorem Chain.splice {s s' : HlistTable} {link : HlistLink} {q p v : Ptr} {l₁ l₂ : List Ptr}
    (h : Chain s link q (l₁ ++ p :: l₂)) (hl : (l₁ ++ p :: l₂).Nodup)
    (hpre : ∀ a ∈ l₁, s'.node a = (s.node a).map
      (fun n => if linkTo link l₁ = .next a then { n with next := v } else n))
    (hlink : ∀ a ∈ l₁, link ≠ .next a)
    (hsuf : Chain s' (linkTo link l₁) v l₂) :
    Chain s' link (if l₁ = [] then v else q) (l₁ ++ l₂) := by
  induction l₁ generalizing link q with
  | nil => exact hsuf
  | cons a l₁ ih =>
    obtain ⟨hq, ha, n, hn, hpp, hc⟩ := h
    have hnd := (List.nodup_cons.1 hl)
    have hal : a ∉ l₁ := fun hm => hnd.1 (List.mem_append_left _ hm)
    have hne : ∀ b ∈ l₁, HlistLink.next a ≠ .next b := by
      intro b hb e
      have hab : a = b := by simpa using e
      exact hal (hab ▸ hb)
    have hih := ih hc hnd.2 (fun b hb => by rw [hpre b (by simp [hb]), linkTo_cons]) hne
      (by rw [linkTo_cons] at hsuf; exact hsuf)
    have hna := hpre a (by simp)
    rw [hn, Option.map_some, linkTo_cons] at hna
    rw [if_neg (List.cons_ne_nil a l₁)]
    refine ⟨hq, ha, _, hna, ?_, ?_⟩
    · split
      · exact hpp
      · exact hpp
    · -- the pointer to the member is `a`'s own `next` exactly when nothing stands between
      by_cases hl1 : l₁ = []
      · rw [if_pos hl1] at hih
        rw [if_pos (by rw [hl1]; rfl)]
        exact hih
      · rw [if_neg hl1] at hih
        rw [if_neg]
        · exact hih
        · intro e
          obtain ⟨b, hb⟩ := List.getLast?_isSome.2 hl1 |> Option.isSome_iff_exists.1
          have hba : b = a := by simpa [linkTo, hb] using e
          exact hal (hba ▸ List.mem_of_getLast? hb)

/-- The write through the `pprev` of a member: it goes to the list head or to the member before. -/
theorem write_link_spec {s : HlistTable} (b : ℕ) (q : Ptr) {l : List Ptr}
    (hnodes : ∀ x ∈ l, ∃ m, s.node x = some m) :
    ∃ s1, s.write_link q (linkTo (.first b) l) = some s1
      ∧ s1.first = (if l = [] then Function.update s.first b q else s.first)
      ∧ ∀ a, s1.node a = (s.node a).map (fun m =>
          if linkTo (.first b) l = .next a then { m with next := q } else m) := by
  by_cases hl : l = []
  · refine ⟨s.set_first b q, ?_, ?_, ?_⟩
    · rw [hl]; rfl
    · rw [if_pos hl]; rfl
    · intro a
      rw [hl]
      simp [linkTo, HlistTable.set_first]
  · obtain ⟨x, hx⟩ := Option.isSome_iff_exists.1 (List.getLast?_isSome.2 hl)
    have hlx : linkTo (.first b) l = .next x := by rw [linkTo, hx]
    obtain ⟨m, hm⟩ := hnodes x (List.mem_of_getLast? hx)
    refine ⟨s.store x { m with next := q }, ?_, ?_, ?_⟩
    · rw [hlx]
      simp [HlistTable.write_link, hm]
    · rw [if_neg hl]; rfl
    · intro a
      rw [hlx]
      by_cases hax : a = x
      · simp [hax, HlistTable.store, hm]
      · have hxa : x ≠ a := Ne.symm hax
        simp [HlistTable.store, Function.update_of_ne hax, hxa]

/-- **`hash_del`.** A member leaves its list. -/
theorem hlist_del_init_spec {s : HlistTable} {bucket : Ptr → ℕ} {c : ℕ → List Ptr}
    (h : Buckets s bucket c) {p : Ptr} (hp : p ∈ c (bucket p)) :
    ∃ s', hlist_del_init s p = some s'
      ∧ Buckets s' bucket (Function.update c (bucket p) ((c (bucket p)).erase p))
      ∧ ∀ a, (s'.node a).isSome = (s.node a).isSome := by
  set b := bucket p with hb
  obtain ⟨l₁, l₂, hcb⟩ := List.append_of_mem hp
  have hnd := h.nodup b
  have hch := h.chain b
  rw [hcb] at hnd hch
  obtain ⟨n, hn, hpp, hsuf⟩ := hch.at
  have hp1 : p ∉ l₁ := fun hm => (List.nodup_append.1 hnd).2.2 p hm p (by simp) rfl
  have hp2 : p ∉ l₂ := (List.nodup_cons.1 (List.nodup_append.1 hnd).2.1).1
  have h12 : ∀ a ∈ l₁, a ∉ l₂ := fun a h1 h2 =>
    (List.nodup_append.1 hnd).2.2 a h1 a (by simp [h2]) rfl
  have herase : (c b).erase p = l₁ ++ l₂ := by
    rw [hcb, List.erase_append_right _ hp1, List.erase_cons_head]
  have hnodes : ∀ x ∈ l₁, ∃ m, s.node x = some m := by
    intro x hx
    obtain ⟨-, m, hm⟩ := (h.chain b).mem_node x (by rw [hcb]; exact List.mem_append_left _ hx)
    exact ⟨m, hm⟩
  -- the write through `pprev`
  obtain ⟨s1, e1, hf1, hn1⟩ := write_link_spec b n.next hnodes
  have hsame : ∀ a, a ∉ l₁ → s1.node a = s.node a := by
    intro a ha
    have hla : linkTo (.first b) l₁ ≠ .next a := by
      intro e
      rcases linkTo_eq_next e with e | e
      · exact absurd e (by simp)
      · exact ha e
    rw [hn1 a]
    simp [hla]
  have hnull : linkTo (.first b) l₁ ≠ .null := by
    rw [linkTo]
    split <;> simp
  -- the write to the next node's `pprev`
  have hc1 : Chain s1 (.next p) n.next l₂ :=
    hsuf.congr (fun a ha => hsame a (fun h1 => h12 a h1 ha))
  obtain ⟨s2, e2, hc2, hf2, hn2, hs2⟩ := hc1.rehang (linkTo (.first b) l₁)
    (List.nodup_cons.1 (List.nodup_append.1 hnd).2.1).2
  have hnext : ∀ b', ∀ a ∈ c b', a ∉ l₂ → a ≠ n.next := by
    intro b' a ha hal e
    have ha0 := ((h.chain b').mem_node a ha).1
    rw [e, hc1.head_eq] at ha0 hal
    cases hl2 : l₂ with
    | nil => rw [hl2] at ha0; exact ha0 rfl
    | cons x l => rw [hl2] at hal; exact hal (by simp)
  let s3 := s2.store p ⟨0, .null⟩
  have hn3 : ∀ a, a ≠ p → s3.node a = s2.node a := by
    intro a ha
    simp [s3, HlistTable.store, Function.update_of_ne ha]
  have hmem1 : ∀ a ∈ l₁, a ∈ c b := fun a ha => by rw [hcb]; exact List.mem_append_left _ ha
  have hmem2 : ∀ a ∈ l₂, a ∈ c b := fun a ha => by rw [hcb]; simp [ha]
  refine ⟨s3, ?_, ?_, ?_⟩
  · have hdel : hlist_del s p = some s2 := by
      simp only [hlist_del, hn, Option.bind_eq_bind, Option.bind_some, hpp, e1, e2]
    simp only [hlist_del_init, hn, Option.bind_eq_bind, Option.bind_some]
    rw [if_pos (by rw [hpp]; exact hnull), hdel]
    rfl
  · refine ⟨?_, ?_, ?_⟩
    · intro b'
      by_cases hbb : b' = b
      · rw [hbb, Function.update_self, herase]
        have hfirst : s3.first b = if l₁ = [] then n.next else s.first b := by
          rw [show s3.first = s2.first from rfl, hf2, hf1]
          split <;> simp
        rw [hfirst]
        refine hch.splice hnd (fun a ha => ?_) (fun a _ => by simp) ?_
        · rw [hn3 a (fun e => hp1 (e ▸ ha)), hn2 a (hnext b a (hmem1 a ha) (h12 a ha)), hn1 a]
        · exact hc2.congr (fun a ha => hn3 a (fun e => hp2 (e ▸ ha)))
      · rw [Function.update_of_ne hbb]
        have hfirst : s3.first b' = s.first b' := by
          rw [show s3.first = s2.first from rfl, hf2, hf1]
          split
          · rw [Function.update_of_ne hbb]
          · rfl
        rw [hfirst]
        refine (h.chain b').congr (fun a ha => ?_)
        have hcb' : a ∉ c b := fun h' => hbb (h.disjoint ha h')
        rw [hn3 a (fun e => hcb' (e ▸ hp)), hn2 a (hnext b' a ha (fun h2 => hcb' (hmem2 a h2))),
          hsame a (fun h1 => hcb' (hmem1 a h1))]
    · intro b'
      by_cases hbb : b' = b
      · rw [hbb, Function.update_self]
        exact (h.nodup b).erase p
      · rw [Function.update_of_ne hbb]
        exact h.nodup b'
    · intro b' q hq
      by_cases hbb : b' = b
      · rw [hbb, Function.update_self] at hq
        rw [hbb, h.mem b q (List.mem_of_mem_erase hq)]
      · rw [Function.update_of_ne hbb] at hq
        exact h.mem b' q hq
  · intro a
    by_cases ha : a = p
    · simp [ha, s3, HlistTable.store, hn]
    · rw [hn3 a ha, hs2 a, hn1 a]
      simp

/-- **The lookup loop.** It returns the first member of the list that passes the test. -/
theorem hlist_find_spec {s : HlistTable} {test : Ptr → Option Bool} {f : Ptr → Bool}
    {link : HlistLink} {p : Ptr} {l : List Ptr} (h : Chain s link p l)
    (ht : ∀ a ∈ l, test a = some (f a)) {fuel : ℕ} (hf : l.length < fuel) :
    hlist_find s test fuel p = some ((l.find? f).getD 0) := by
  induction l generalizing link p fuel with
  | nil =>
    obtain ⟨fuel, rfl⟩ : ∃ k, fuel = k + 1 := ⟨fuel - 1, by simp at hf; omega⟩
    have hp : p = 0 := h
    simp [hlist_find, hp]
  | cons a l ih =>
    obtain ⟨rfl, ha, n, hn, _, hc⟩ := h
    obtain ⟨fuel, rfl⟩ : ∃ k, fuel = k + 1 := ⟨fuel - 1, by simp at hf; omega⟩
    rw [hlist_find, if_neg ha, ht p (by simp)]
    by_cases hfp : f p = true
    · simp [hfp]
    · have hlen : l.length < fuel := by simp at hf; omega
      have hrec := ih hc (fun b hb => ht b (by simp [hb])) hlen
      simp [hfp, hn, hrec]

end Svmx.Hlist
