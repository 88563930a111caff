/-
The TDP iterator with the integer widths of the Windows build.

`KVM_PAGES_PER_HPAGE` is exact up to level 3, 0 at level 4 and 16 at level 5, and the mask of
`gfn_round_for_level` is 32 bits wide. At level 4 the gfn of the iterator is stuck at 0: it always
stands at entry 0 when it comes to a table of level 4, a side step there leaves the gfn at 0, and
the end of the table is never seen. So the walk over one gfn is right as long as it stays below
level 4 after the way down; once a side step is taken at level 4 it is lost in entries `1, 2, …`,
and it ends there, runs forever or leaves the page.

`Pos` tracks the table path of an iterator below a level-4 table by its first index, and
`Pos.next` says what one `tdp_iter_next` does to it. `fast_pf_agrees_iff` puts this together: the
addresses for which `kvm_tdp_mmu_fast_pf_get_last_sptep` and the shadow walk agree.
-/
import Svmx.FastPf

set_option autoImplicit false

namespace Svmx.Tdp

variable {mm : Mm} {m : PtMem}

/-! ## The widths of the Windows build -/

theorem win_pages (l : ℕ) (hl : l < 3) : winHpage.pages (l + 1) = 512 ^ l := by
  have h : ∀ k : Fin 3, winHpage.pages (k.val + 1) = 512 ^ k.val := by decide
  exact h ⟨l, hl⟩

theorem win_pages_four : winHpage.pages 4 = 0 := by decide

theorem win_pages_five : winHpage.pages 5 = 16 := by decide

theorem win_round (n l : ℕ) (hl : l < 3) :
    gfn_round_for_level winHpage n (l + 1) = n % 2 ^ 32 / 512 ^ l * 512 ^ l := by
  have hmask : winHpage.mask (l + 1) = 2 ^ 32 - 512 ^ l := by
    have h : ∀ k : Fin 3, winHpage.mask (k.val + 1) = 2 ^ 32 - 512 ^ k.val := by decide
    exact h ⟨l, hl⟩
  have hpow : (512 : ℕ) ^ l = 2 ^ (9 * l) := by rw [Nat.pow_mul]
  rw [gfn_round_for_level, hmask, hpow, and_high_mask 32 (9 * l) n (by omega)]

theorem win_round_four (n : ℕ) : gfn_round_for_level winHpage n 4 = 0 := by
  have hmask : winHpage.mask 4 = 0 := by decide
  rw [gfn_round_for_level, hmask, Nat.and_zero]

theorem win_round_five (n : ℕ) : gfn_round_for_level winHpage n 5 = n % 2 ^ 32 / 16 * 16 := by
  have hmask : winHpage.mask 5 = 2 ^ 32 - 2 ^ 4 := by decide
  rw [gfn_round_for_level, hmask, and_high_mask 32 4 n (by omega)]
  norm_num

/-- Below level 4 the rounding keeps the index. -/
theorem win_round_index (n l : ℕ) (hl : l < 3) :
    gfn_round_for_level winHpage n (l + 1) / 512 ^ l % 512 = n / 512 ^ l % 512 := by
  have hpos : 0 < 512 ^ l := Nat.pow_pos (by omega)
  rw [win_round n l hl, Nat.mul_div_cancel _ hpos]
  have hcases : l = 0 ∨ l = 1 ∨ l = 2 := by omega
  rcases hcases with rfl | rfl | rfl <;> simp <;> omega

/-- Nothing wraps in a step from an entry of level 4 or below. -/
theorem win_fits {l g : ℕ} (hl : l ≤ 3) (hg3 : l = 3 → g = 0) (hglt : l < 3 → g < 2 ^ 32) :
    g < 2 ^ 52 ∧ g + winHpage.pages (l + 1) < 2 ^ 64 := by
  by_cases h3 : l = 3
  · subst h3
    rw [hg3 rfl, win_pages_four]
    omega
  · have hpow : 512 ^ l ≤ 512 ^ 3 := Nat.pow_le_pow_right (by omega) (by omega)
    have := hglt (by omega)
    rw [win_pages l (by omega)]
    omega

/-- A side step below level 4 that stays in its table stays below any multiple of `2^27`. -/
theorem side_lt (g l B : ℕ) (hl : l < 3) (hB : 2 ^ 27 ∣ B) (hg : g < B)
    (hidx : g / 512 ^ l % 512 ≠ 511) : g + 512 ^ l < B := by
  obtain ⟨c, rfl⟩ := hB
  have hcases : l = 0 ∨ l = 1 ∨ l = 2 := by omega
  rcases hcases with rfl | rfl | rfl <;> simp at hidx ⊢ <;> omega

/-! ## Inverting a step -/

section Invert

variable {hp : Hpage} {R : ℕ} {min_level : ℤ} {up : ℕ → ℕ}

/-- Every table on the path has all that is below it. -/
def Tables (mm : Mm) (m : PtMem) (up : ℕ → ℕ) (l R : ℕ) : Prop :=
  ∀ j, l ≤ j → j < R → Allocated mm m (j + 1) (up j)

theorem Tables.down {l c i : ℕ} (h : Tables mm m up (l + 1) R) (hl : l + 1 < R) (hi : i < 512)
    (hc : (radix mm m).child (l + 2) (up (l + 1)) i = some c) :
    Tables mm m (Function.update up l c) l R := by
  intro j hj hjR
  by_cases hjl : j = l
  · subst hjl
    rw [Function.update_self]
    exact (h (j + 1) (Nat.le_refl _) hl).child hi hc
  · rw [Function.update_of_ne hjl]
    exact h j (by omega) hjR

/-- **The side steps.** If the loop of `tdp_iter_next` returns, it has climbed some levels, each
time from the last entry of a table, and then either stepped to the side or run off the root. `P`
is what the climb keeps. -/
theorem step_side_or_up_inv (P : ℕ → ℕ → ℕ → Prop)
    (hP : ∀ l i g, P l i g → l < R → g < 2 ^ 52 ∧ g + hp.pages (l + 1) < 2 ^ 64)
    (hup : ∀ l i g, P l i g → g / 512 ^ l % 512 = 511 → l + 1 < R →
      P (l + 1) (gfn_round_for_level hp g (l + 2) / 512 ^ (l + 1) % 512)
        (gfn_round_for_level hp g (l + 2)))
    (fuel : ℕ) : ∀ (l i g : ℕ) (it it' : TdpIter), At m R min_level up l i g it → l < R →
    Tables mm m up l R → P l i g → step_side_or_up hp m fuel it = some it' →
    ∃ l2 i2 g2, l ≤ l2 ∧ l2 < R ∧ P l2 i2 g2 ∧
      ((g2 / 512 ^ l2 % 512 ≠ 511 ∧ i2 + 1 < 512 ∧
        At m R min_level up l2 (i2 + 1) (g2 + hp.pages (l2 + 1)) it' ∧
        it'.next_last_level_gfn = g2 + hp.pages (l2 + 1)) ∨
      (g2 / 512 ^ l2 % 512 = 511 ∧ l2 + 1 = R)) := by
  induction fuel with
  | zero =>
    intro l i g it it' _ _ _ _ h
    simp [step_side_or_up] at h
  | succ fuel ih =>
    intro l i g it it' hat hl htab hPg h
    obtain ⟨hg, hpages⟩ := hP l i g hPg hl
    rw [step_side_or_up] at h
    by_cases hidx : g / 512 ^ l % 512 = 511
    · rw [hat.try_step_side_last hp hg hidx] at h
      simp only [Option.bind_eq_bind, Option.bind_some] at h
      by_cases hroot : l + 1 = R
      · exact ⟨l, i, g, Nat.le_refl l, hl, hPg, Or.inr ⟨hidx, hroot⟩⟩
      · obtain ⟨itu, hu, hatu⟩ := hat.try_step_up hp hg hroot
          (htab (l + 1) (by omega) (by omega)).self
        rw [hu] at h
        simp only [Option.bind_some] at h
        obtain ⟨l2, i2, g2, hl2, hrest⟩ := ih (l + 1) _ _ itu it' hatu (by omega)
          (fun j hj hjR => htab j (by omega) hjR) (hup l i g hPg hidx (by omega)) h
        exact ⟨l2, i2, g2, by omega, hrest⟩
    · by_cases hi : i + 1 < 512
      · obtain ⟨its, hs, hats, hnl⟩ := hat.try_step_side hp hg hidx hi hpages
          (htab l (Nat.le_refl l) hl).self
        rw [hs] at h
        simp only [Option.bind_eq_bind, Option.bind_some, Option.some.injEq] at h
        subst h
        exact ⟨l, i, g, Nat.le_refl l, hl, hPg, Or.inl ⟨hidx, hi, hats, hnl⟩⟩
      · rw [hat.try_step_side_fault hp hg hidx hi] at h
        simp at h

/-- **One `tdp_iter_next`.** It goes down where an entry leads on above the lowest level, and to
the side elsewhere. -/
theorem tdp_iter_next_inv {l i g : ℕ} {it it' : TdpIter} (hat : At m R min_level up l i g it)
    (htab : Tables mm m up l R) (hl : l < R) (hi : i < 512)
    (hnl : it.next_last_level_gfn < 2 ^ 52) (hnext : tdp_iter_next hp mm m it = some it') :
    (∃ l' c, l = l' + 1 ∧ (radix mm m).child (l + 1) (up l) i = some c ∧
      At m R min_level (Function.update up l' c) l'
        (gfn_round_for_level hp it.next_last_level_gfn (l' + 1) / 512 ^ l' % 512)
        (gfn_round_for_level hp it.next_last_level_gfn (l' + 1)) it' ∧
      it'.next_last_level_gfn = it.next_last_level_gfn) ∨
    ((((l + 1 : ℕ) : ℤ) = min_level ∨ (radix mm m).child (l + 1) (up l) i = none) ∧
      step_side_or_up hp m (it.root_level - it.level + 1) it = some it') := by
  have halloc := htab l (Nat.le_refl l) hl
  rw [tdp_iter_next, hat.yielded] at hnext
  simp only [Bool.false_eq_true, if_false] at hnext
  by_cases hend : ((l + 1 : ℕ) : ℤ) = min_level ∨ (radix mm m).child (l + 1) (up l) i = none
  · rw [hat.try_step_down_none hp halloc.self hi hend] at hnext
    exact Or.inr ⟨hend, hnext⟩
  · rw [not_or] at hend
    obtain ⟨c, hc⟩ := Option.ne_none_iff_exists'.1 hend.2
    rcases l with _ | l
    · rw [(radix mm m).child_one] at hc
      exact absurd hc (by simp)
    · obtain ⟨itd, hd, hatd, hnld⟩ :=
        hat.try_step_down hp hend.1 halloc.self hi hc (halloc.child hi hc).self hnl
      rw [hd] at hnext
      simp only [Option.bind_eq_bind, Option.bind_some, Option.some.injEq] at hnext
      subst hnext
      exact Or.inl ⟨l, c, rfl, hc, hatd, hnld⟩

/-- **The last visit of a loop that ends.** An invariant of the visited iterators holds of the last
one, and the iterator after it stops the loop. -/
theorem for_each_last (Inv : TdpIter → Prop) (end_gfn : ℕ)
    (hstep : ∀ it it', Inv it → it.valid = true → it.gfn < end_gfn →
      tdp_iter_next hp mm m it = some it' → it'.valid = true → it'.gfn < end_gfn → Inv it')
    (fuel : ℕ) : ∀ (it : TdpIter) (vs : List TdpIter), Inv it → it.valid = true →
    it.gfn < end_gfn → for_each_tdp_pte hp mm m end_gfn fuel it = some vs →
    ∃ last it', vs.getLast? = some last ∧ Inv last ∧ tdp_iter_next hp mm m last = some it' ∧
      ¬ (it'.valid = true ∧ it'.gfn < end_gfn) := by
  induction fuel with
  | zero =>
    intro it vs _ _ _ h
    simp [for_each_tdp_pte] at h
  | succ fuel ih =>
    intro it vs hinv hv hlt h
    have hc : (it.valid && decide (it.gfn < end_gfn)) = true := by
      simp [hv, hlt]
    simp only [for_each_tdp_pte, hc, if_true, Option.bind_eq_bind] at h
    obtain ⟨next, hnext, h⟩ := Option.bind_eq_some_iff.1 h
    obtain ⟨rest, hrest, h⟩ := Option.bind_eq_some_iff.1 h
    rw [← Option.some.inj h]
    by_cases hgo : next.valid = true ∧ next.gfn < end_gfn
    · obtain ⟨last, it', hlast, hrest'⟩ :=
        ih next rest (hstep it next hinv hv hlt hnext hgo.1 hgo.2) hgo.1 hgo.2 hrest
      refine ⟨last, it', ?_, hrest'⟩
      rw [List.getLast?_cons, hlast]
      rfl
    · have hnil : rest = [] := by
        rcases fuel with _ | fuel
        · simp [for_each_tdp_pte] at hrest
        · have hc' : (next.valid && decide (next.gfn < end_gfn)) = false := by
            simpa using hgo
          simpa [for_each_tdp_pte, hc'] using hrest.symm
      rw [hnil]
      exact ⟨it, next, rfl, hinv, hnext, hgo⟩

end Invert

/-! ## Addresses from 16 TB up -/

section Far

variable {R gfn : ℕ}

/-- Where the gfn of an iterator can be when it looks for a gfn from `2^32` up. -/
def FarPos (gfn l i g : ℕ) : Prop :=
  (l < 3 ∧ g < 2 ^ 32) ∨ (l = 3 ∧ g = 0) ∨ (l = 4 ∧ g = gfn % 2 ^ 32 / 16 * 16 + 16 * i)

/-- The iterator is below `2^32` although the gfn it looks for is not. -/
def Far (mm : Mm) (m : PtMem) (R gfn : ℕ) (it : TdpIter) : Prop :=
  ∃ up l i g, At m R 1 up l i g it ∧ Tables mm m up l R ∧ l < R ∧ i < 512 ∧
    it.next_last_level_gfn < 2 ^ 52 ∧ FarPos gfn l i g

theorem win_round_lt (n l : ℕ) (hl : l < 3) : gfn_round_for_level winHpage n (l + 1) < 2 ^ 32 := by
  rw [win_round n l hl]
  have := Nat.div_mul_le_self (n % 2 ^ 32) (512 ^ l)
  have := Nat.mod_lt n (by omega : 2 ^ 32 > 0)
  omega

/-- One step keeps an iterator below `2^32`. -/
theorem Far.next (hR : R = 4 ∨ R = 5) {it it' : TdpIter} (h : Far mm m R gfn it)
    (hnext : tdp_iter_next winHpage mm m it = some it') : Far mm m R gfn it' := by
  obtain ⟨up, l, i, g, hat, htab, hl, hi, hnl, hpos⟩ := h
  rcases tdp_iter_next_inv hat htab hl hi hnl hnext with
    ⟨l', c, rfl, hc, hat', hnl'⟩ | ⟨-, hside⟩
  · -- down: the gfn is rounded, which keeps it below `2^32`
    refine ⟨_, l', _, _, hat', htab.down hl hi hc, by omega, Nat.mod_lt _ (by omega), by omega, ?_⟩
    rcases hpos with ⟨hl3, -⟩ | ⟨hl3, -⟩ | ⟨hl4, -⟩
    · exact Or.inl ⟨by omega, win_round_lt _ _ (by omega)⟩
    · exact Or.inl ⟨by omega, win_round_lt _ _ (by omega)⟩
    · obtain rfl : l' = 3 := by omega
      exact Or.inr (Or.inl ⟨rfl, win_round_four _⟩)
  · -- to the side, after some steps up; `FarPos` holds on the way up
    have hP : ∀ l i g, FarPos gfn l i g ∧ i < 512 → l < R →
        g < 2 ^ 52 ∧ g + winHpage.pages (l + 1) < 2 ^ 64 := by
      rintro l i g ⟨⟨hl3, hg⟩ | ⟨rfl, rfl⟩ | ⟨rfl, rfl⟩, hi⟩ -
      · exact win_fits (by omega) (by omega) fun _ => hg
      · exact win_fits (Nat.le_refl 3) (fun _ => rfl) (by omega)
      · rw [win_pages_five]
        omega
    have hup : ∀ l i g, FarPos gfn l i g ∧ i < 512 → g / 512 ^ l % 512 = 511 → l + 1 < R →
        FarPos gfn (l + 1) (gfn_round_for_level winHpage g (l + 2) / 512 ^ (l + 1) % 512)
          (gfn_round_for_level winHpage g (l + 2)) ∧
        gfn_round_for_level winHpage g (l + 2) / 512 ^ (l + 1) % 512 < 512 := by
      rintro l i g ⟨hpos, -⟩ hidx hlR
      refine ⟨?_, Nat.mod_lt _ (by omega)⟩
      rcases hpos with ⟨hl3, hg⟩ | ⟨rfl, rfl⟩ | ⟨rfl, rfl⟩
      · by_cases hl2 : l = 2
        · subst hl2
          exact Or.inr (Or.inl ⟨rfl, win_round_four _⟩)
        · exact Or.inl ⟨by omega, win_round_lt _ _ (by omega)⟩
      · simp at hidx
      · omega
    obtain ⟨l2, i2, g2, hll, hl2R, ⟨hpos2, hi2⟩, ⟨hidx, hi', hat', hnl'⟩ | ⟨hidx, hroot⟩⟩ :=
      step_side_or_up_inv (fun l i g => FarPos gfn l i g ∧ i < 512) hP hup _ l i g it it' hat hl htab
        ⟨hpos, hi⟩ hside
    · refine ⟨up, l2, i2 + 1, _, hat', fun j hj hjR => htab j (by omega) hjR, hl2R, hi', ?_, ?_⟩
      · have := hP l2 i2 g2 ⟨hpos2, hi2⟩ hl2R
        rw [hnl']
        rcases hpos2 with ⟨hl3, hg⟩ | ⟨rfl, rfl⟩ | ⟨rfl, rfl⟩
        · rw [win_pages l2 hl3]
          have := side_lt g2 l2 (2 ^ 32) hl3 (by norm_num) hg hidx
          omega
        · rw [win_pages_four]
          omega
        · rw [win_pages_five]
          omega
      · rcases hpos2 with ⟨hl3, hg⟩ | ⟨rfl, rfl⟩ | ⟨rfl, rfl⟩
        · rw [win_pages l2 hl3]
          exact Or.inl ⟨hl3, side_lt g2 l2 (2 ^ 32) hl3 (by norm_num) hg hidx⟩
        · exact Or.inr (Or.inl ⟨rfl, by rw [win_pages_four]⟩)
        · exact Or.inr (Or.inr ⟨rfl, by rw [win_pages_five]; ring⟩)
    · -- the walk does not end: the index of the root entry is not 511
      exfalso
      rcases hpos2 with ⟨hl3, -⟩ | ⟨rfl, rfl⟩ | ⟨rfl, rfl⟩
      · omega
      · simp at hidx
      · have hzero : (gfn % 2 ^ 32 / 16 * 16 + 16 * i2) / 512 ^ 4 = 0 := by
          rw [Nat.div_eq_zero_iff]
          right
          norm_num
          omega
        rw [hzero] at hidx
        simp at hidx

/-- **No end.** A walk to a gfn from `2^32` up never returns. -/
theorem far_never_ends (hR : R = 4 ∨ R = 5) (hgfn : 2 ^ 32 ≤ gfn) (fuel : ℕ) (it : TdpIter)
    (h : Far mm m R gfn it) (vs : List TdpIter) :
    for_each_tdp_pte winHpage mm m (gfn + 1) fuel it ≠ some vs := by
  have hgo : ∀ it, Far mm m R gfn it → it.valid = true ∧ it.gfn < gfn + 1 := by
    rintro it ⟨up, l, i, g, hat, -, -, hi, -, hpos⟩
    refine ⟨hat.valid, ?_⟩
    rw [hat.gfn]
    rcases hpos with ⟨-, hg⟩ | ⟨-, rfl⟩ | ⟨-, rfl⟩
    · omega
    · omega
    · have := Nat.div_add_mod gfn (2 ^ 32)
      have : 1 ≤ gfn / 2 ^ 32 := by omega
      omega
  intro hvs
  obtain ⟨last, it', -, hlast, hnext, hstop⟩ :=
    for_each_last (Far mm m R gfn) (gfn + 1) (fun it it' h _ _ hn _ _ => h.next hR hn) fuel it vs h
      (hgo it h).1 (hgo it h).2 hvs
  exact hstop (hgo it' (hlast.next hR hnext))

end Far

/-! ## Below a table of level 4 -/

section Lost

variable {R T4 gfn : ℕ}

/-- The tables of `up` from level 4 down to level `l + 1` are those of the path `p`. -/
structure OnPath (mm : Mm) (m : PtMem) (T4 : ℕ) (up : ℕ → ℕ) (l : ℕ) (p : List ℕ) : Prop where
  le : l ≤ 3
  length : p.length = 3 - l
  top : up 3 = T4
  node : ∀ j, l ≤ j → j ≤ 3 → (radix mm m).nodeAt 4 T4 (p.take (3 - j)) = some (up j)

theorem OnPath.up_to {up : ℕ → ℕ} {l l2 : ℕ} {p : List ℕ} (h : OnPath mm m T4 up l p)
    (hl : l ≤ l2) (hl2 : l2 ≤ 3) : OnPath mm m T4 up l2 (p.take (3 - l2)) := by
  refine ⟨hl2, ?_, h.top, ?_⟩
  · rw [List.length_take, h.length]
    omega
  · intro j hj hj3
    rw [List.take_take, Nat.min_eq_left (by omega)]
    exact h.node j (by omega) hj3

theorem OnPath.down {up : ℕ → ℕ} {l i c : ℕ} {p : List ℕ} (h : OnPath mm m T4 up (l + 1) p)
    (hi : i < 512) (hc : (radix mm m).child (l + 2) (up (l + 1)) i = some c) :
    OnPath mm m T4 (Function.update up l c) l (p ++ [i]) := by
  have hle := h.le
  have hlen := h.length
  refine ⟨by omega, ?_, ?_, ?_⟩
  · rw [List.length_append, hlen]
    simp
    omega
  · rw [Function.update_of_ne (by omega)]
    exact h.top
  · intro j hj hj3
    by_cases hjl : j = l
    · subst hjl
      have hp := h.node (j + 1) (Nat.le_refl _) hle
      rw [List.take_of_length_le (by omega)] at hp
      rw [Function.update_self, List.take_of_length_le (by rw [List.length_append, hlen]; simp; omega),
        Radix.nodeAt_append, hp, Option.bind_some, hlen]
      have hlev : 4 - (3 - (j + 1)) = j + 2 := by omega
      rw [hlev]
      simp [Radix.nodeAt, hi, hc]
    · rw [Function.update_of_ne hjl, List.take_append_of_le_length (by omega)]
      exact h.node j (by omega) hj3

/-- The iterator stands below entry `f` of the level-4 table `T4` (or at it). -/
def Pos (mm : Mm) (m : PtMem) (R T4 f : ℕ) (it : TdpIter) : Prop :=
  ∃ up l i g p, At m R 1 up l i g it ∧ Tables mm m up l R ∧ OnPath mm m T4 up l p ∧ i < 512 ∧
    it.next_last_level_gfn < 2 ^ 52 ∧ (l = 3 → g = 0) ∧ (l < 3 → g < 2 ^ 32) ∧
    Radix.firstIdx p i = f

theorem Pos.valid {f : ℕ} {it : TdpIter} (h : Pos mm m R T4 f it) : it.valid = true := by
  obtain ⟨_, _, _, _, _, hat, -⟩ := h
  exact hat.valid

/-- An iterator at an entry of the level-4 table itself, with its gfn and its goal back at 0. -/
theorem Pos.of_top {up : ℕ → ℕ} {i : ℕ} {it : TdpIter} (hat : At m R 1 up 3 i 0 it)
    (htab : Tables mm m up 3 R) (hpath : OnPath mm m T4 up 3 []) (hi : i < 512)
    (hnl : it.next_last_level_gfn = 0) : Pos mm m R T4 i it :=
  ⟨up, 3, i, 0, [], hat, htab, hpath, hi, by omega, fun _ => rfl, fun _ => by omega, rfl⟩

/-- **One step below a level-4 table.** The iterator stays below the entry it is below, and below
`2^27` if it was; or it comes to a later entry of `T4`, with its gfn and its goal back at 0. -/
theorem Pos.next (hR : R = 4 ∨ R = 5) {f : ℕ} {it it' : TdpIter} (h : Pos mm m R T4 f it)
    (hnext : tdp_iter_next winHpage mm m it = some it') :
    (Pos mm m R T4 f it' ∧ (it.gfn < 2 ^ 27 ∧ it.next_last_level_gfn < 2 ^ 27 →
      it'.gfn < 2 ^ 27 ∧ it'.next_last_level_gfn < 2 ^ 27)) ∨
    ∃ f', 1 ≤ f' ∧ Pos mm m R T4 f' it' ∧ it'.gfn = 0 ∧ it'.next_last_level_gfn = 0 := by
  obtain ⟨up, l, i, g, p, hat, htab, hpath, hi, hnl, hg3, hglt, hf⟩ := h
  have hl3 := hpath.le
  have hlen := hpath.length
  have hlR : l < R := by omega
  have hgl := hat.gfn
  rcases tdp_iter_next_inv hat htab hlR hi hnl hnext with
    ⟨l', c, rfl, hc, hat', hnl'⟩ | ⟨-, hside⟩
  · -- down
    left
    have hlt := win_round_lt it.next_last_level_gfn l' (by omega)
    have hle := round_le winHpage it.next_last_level_gfn (l' + 1)
    refine ⟨⟨_, l', _, _, p ++ [i], hat', htab.down hlR hi hc, hpath.down hi hc,
      Nat.mod_lt _ (by omega), by omega, by omega, fun _ => hlt, ?_⟩, ?_⟩
    · rw [← hf]
      rcases p with _ | ⟨k, p⟩ <;> rfl
    · rintro ⟨-, hnl27⟩
      rw [hat'.gfn]
      omega
  · -- to the side, after some steps up
    have hP : ∀ l i g : ℕ, (l ≤ 3 ∧ (l = 3 → g = 0) ∧ (l < 3 → g < 2 ^ 32) ∧
        (it.gfn < 2 ^ 27 → g < 2 ^ 27)) → l < R →
        g < 2 ^ 52 ∧ g + winHpage.pages (l + 1) < 2 ^ 64 := by
      rintro l i g ⟨hl3, hg3, hglt, -⟩ -
      exact win_fits hl3 hg3 hglt
    have hup : ∀ l i g : ℕ, (l ≤ 3 ∧ (l = 3 → g = 0) ∧ (l < 3 → g < 2 ^ 32) ∧
        (it.gfn < 2 ^ 27 → g < 2 ^ 27)) → g / 512 ^ l % 512 = 511 → l + 1 < R →
        (l + 1 ≤ 3 ∧ (l + 1 = 3 → gfn_round_for_level winHpage g (l + 2) = 0) ∧
          (l + 1 < 3 → gfn_round_for_level winHpage g (l + 2) < 2 ^ 32) ∧
          (it.gfn < 2 ^ 27 → gfn_round_for_level winHpage g (l + 2) < 2 ^ 27)) := by
      rintro l i g ⟨hl3, hg3, hglt, h27⟩ hidx -
      have hne : l ≠ 3 := by
        rintro rfl
        rw [hg3 rfl] at hidx
        simp at hidx
      have hle := round_le winHpage g (l + 2)
      refine ⟨by omega, ?_, fun h => win_round_lt g (l + 1) h, fun h => by have := h27 h; omega⟩
      intro h
      obtain rfl : l = 2 := by omega
      exact win_round_four g
    obtain ⟨l2, i2, g2, hll, hl2R, ⟨hl23, hg23, hg2lt, hg27⟩,
        ⟨hidx, hi', hat', hnl'⟩ | ⟨hidx, hroot⟩⟩ :=
      step_side_or_up_inv (fun l _ g => l ≤ 3 ∧ (l = 3 → g = 0) ∧ (l < 3 → g < 2 ^ 32) ∧
        (it.gfn < 2 ^ 27 → g < 2 ^ 27)) hP hup _ l i g it it' hat hlR htab
        ⟨hl3, hg3, hglt, fun h => by omega⟩ hside
    · have hpath2 := hpath.up_to hll hl23
      by_cases h3 : l2 = 3
      · -- the next entry of `T4`
        subst h3
        right
        have hzero : g2 + winHpage.pages 4 = 0 := by
          rw [hg23 rfl, win_pages_four]
        rw [hzero] at hat' hnl'
        exact ⟨i2 + 1, by omega, Pos.of_top hat' (fun j hj hjR => htab j (by omega) hjR)
          (by simpa using hpath2) hi' hnl', hat'.gfn, hnl'⟩
      · left
        have hlt3 : l2 < 3 := by omega
        have hpages := win_pages l2 hlt3
        rw [hpages] at hat' hnl'
        have h32 := side_lt g2 l2 (2 ^ 32) hlt3 (by norm_num) (hg2lt hlt3) hidx
        refine ⟨⟨up, l2, i2 + 1, _, _, hat', fun j hj hjR => htab j (by omega) hjR, hpath2, hi',
          by omega, fun h => absurd h h3, fun _ => h32, ?_⟩, ?_⟩
        · rw [← hf]
          rcases p with _ | ⟨k, p⟩
          · simp at hlen
            omega
          · obtain ⟨n, hn⟩ : ∃ n, 3 - l2 = n + 1 := ⟨3 - l2 - 1, by omega⟩
            rw [hn]
            rfl
        · rintro ⟨hg0, -⟩
          have := side_lt g2 l2 (2 ^ 27) hlt3 (Nat.dvd_refl _) (hg27 hg0) hidx
          rw [hat'.gfn, hnl']
          omega
    · -- the walk cannot leave the root: the gfn at level 4 is 0, and 0 is not the last index
      exfalso
      have h3 : l2 = 3 := by omega
      subst h3
      rw [hg23 rfl] at hidx
      simp at hidx

/-- Below another entry of `T4` than the one of the gfn, the iterator is not at the gfn's last
entry. -/
theorem Pos.sptep_ne {f : ℕ} {it : TdpIter} (htree : PageTree mm m 4 T4)
    (h : Pos mm m R T4 f it) (hf : f ≠ gfn / 512 ^ 3 % 512) :
    it.sptep ≠ (lastEntry mm m 4 T4 gfn).1 := by
  obtain ⟨up, l, i, g, p, hat, -, hpath, -, -, -, -, rfl⟩ := h
  obtain ⟨q, hq, hqf⟩ := (radix mm m).descend_path (by omega) 3 T4 gfn
  have hp := hpath.node l (Nat.le_refl l) hpath.le
  rw [List.take_of_length_le (by rw [hpath.length])] at hp
  intro heq
  rw [hat.sptep] at heq
  obtain ⟨hnode, hidx⟩ := Sptep.mk.inj heq
  have hpq : p = q := htree.distinct p q (up l) hp (by rw [hnode]; exact hq)
  refine hf ?_
  rw [← hqf, hpq, hidx]

/-- **From 512 GB to 16 TB.** The walk looks below entry 0 of `T4`, where the gfn is not, and never
ends below a later one. -/
theorem walk_high_wrong (hR : R = 4 ∨ R = 5) (htree : PageTree mm m 4 T4) (hlow : 2 ^ 27 ≤ gfn)
    (hhigh : gfn < 2 ^ 32) {it : TdpIter} (h : Pos mm m R T4 0 it) (hgo : it.gfn < gfn + 1)
    (fuel : ℕ) (vs : List TdpIter)
    (hvs : for_each_tdp_pte winHpage mm m (gfn + 1) fuel it = some vs) :
    ∃ last, vs.getLast? = some last ∧ last.sptep ≠ (lastEntry mm m 4 T4 gfn).1 := by
  obtain ⟨last, it', hlast, hinv, hnext, hstop⟩ := for_each_last
    (fun it => Pos mm m R T4 0 it ∨
      ∃ f, 1 ≤ f ∧ Pos mm m R T4 f it ∧ it.gfn < 2 ^ 27 ∧ it.next_last_level_gfn < 2 ^ 27)
    (gfn + 1)
    (by
      rintro it it' (hpos | ⟨f, hf, hpos, h27⟩) - - hnext - -
      · rcases hpos.next hR hnext with ⟨h', -⟩ | ⟨f', hf', h', h0, h0'⟩
        · exact Or.inl h'
        · exact Or.inr ⟨f', hf', h', by omega, by omega⟩
      · rcases hpos.next hR hnext with ⟨h', hlt⟩ | ⟨f', hf', h', h0, h0'⟩
        · exact Or.inr ⟨f, hf, h', hlt h27⟩
        · exact Or.inr ⟨f', hf', h', by omega, by omega⟩)
    fuel it vs (Or.inl h) h.valid hgo hvs
  refine ⟨last, hlast, ?_⟩
  rcases hinv with hpos | ⟨f, hf, hpos, h27⟩
  · exact hpos.sptep_ne htree (by norm_num; omega)
  · exfalso
    rcases hpos.next hR hnext with ⟨h', hlt⟩ | ⟨f', hf', h', h0, -⟩
    · exact hstop ⟨h'.valid, by have := (hlt h27).1; omega⟩
    · exact hstop ⟨h'.valid, by omega⟩

/-! ## On the way to the gfn -/

/-- The iterator is on its way down from `T4` to the last entry of the gfn. -/
def OnWay (mm : Mm) (m : PtMem) (R T4 gfn : ℕ) (l : ℕ) (it : TdpIter) : Prop :=
  ∃ up g p, At m R 1 up l (gfn / 512 ^ l % 512) g it ∧ Tables mm m up l R ∧
    OnPath mm m T4 up l p ∧ it.next_last_level_gfn = gfn ∧
    (radix mm m).descend (l + 1) (up l) gfn = (radix mm m).descend 4 T4 gfn ∧
    (l = 3 → g = 0) ∧ (l < 3 → g = gfn / 512 ^ l * 512 ^ l)

/-- The last entry of the gfn is at level 3 or below and its range ends below 512 GB. -/
def EndsBelow (mm : Mm) (m : PtMem) (T4 gfn : ℕ) : Prop :=
  let l := ((radix mm m).descend 4 T4 gfn).level
  l ≤ 3 ∧ (gfn / 512 ^ (l - 1) + 1) * 512 ^ (l - 1) < 2 ^ 27

/-- If the range of an entry ends at `2^27` or later, every level from it up to level 3 is at its
last index. -/
theorem last_index (l l2 : ℕ) (hgfn : gfn < 2 ^ 27) (hll : l ≤ l2) (hl2 : l2 < 3)
    (hend : 2 ^ 27 ≤ (gfn / 512 ^ l + 1) * 512 ^ l) : gfn / 512 ^ l2 % 512 = 511 := by
  have hl : l = 0 ∨ l = 1 ∨ l = 2 := by omega
  have hl2' : l2 = 0 ∨ l2 = 1 ∨ l2 = 2 := by omega
  rcases hl with rfl | rfl | rfl <;> rcases hl2' with rfl | rfl | rfl <;> simp at hend ⊢ <;> omega

/-- **On the way.** From an entry that leads on the iterator goes down and stays on its way; an
entry that does not is the last one of the gfn. -/
theorem OnWay.step (hR : R = 4 ∨ R = 5) (hgfn : gfn < 2 ^ 27) {l : ℕ} {it : TdpIter}
    (h : OnWay mm m R T4 gfn l it) :
    (∃ l' it', l = l' + 1 ∧ try_step_down winHpage mm m it = some (true, it') ∧
      OnWay mm m R T4 gfn l' it') ∨
    (try_step_down winHpage mm m it = some (false, it) ∧
      ((radix mm m).descend 4 T4 gfn).level = l + 1 ∧
      lastEntry mm m 4 T4 gfn = (it.sptep, it.old_spte)) := by
  obtain ⟨up, g, p, hat, htab, hpath, hnl, hdesc, hg3, hglt⟩ := h
  have hl3 := hpath.le
  have hi : gfn / 512 ^ l % 512 < 512 := Nat.mod_lt _ (by omega)
  have halloc := htab l (Nat.le_refl l) (by omega)
  rcases hc : (radix mm m).child (l + 1) (up l) (gfn / 512 ^ l % 512) with _ | c
  · right
    refine ⟨hat.try_step_down_none winHpage halloc.self hi (Or.inr hc), ?_, ?_⟩
    · rw [← hdesc]
      simp [Radix.descend, hc]
    · simp only [lastEntry]
      rw [← hdesc, hat.sptep, hat.spte]
      simp [Radix.descend, hc]
  · left
    rcases l with _ | l
    · rw [(radix mm m).child_one] at hc
      exact absurd hc (by simp)
    · obtain ⟨it', hd, hat', hnl'⟩ := hat.try_step_down winHpage
        (by push_cast; omega) halloc.self hi hc (halloc.child hi hc).self (by omega)
      have hmod : gfn % 2 ^ 32 = gfn := Nat.mod_eq_of_lt (by omega)
      rw [hnl, win_round_index gfn l (by omega), win_round gfn l (by omega), hmod] at hat'
      refine ⟨l, it', rfl, hd, _, _, _, hat', htab.down (by omega) hi hc, hpath.down hi hc,
        by rw [hnl', hnl], ?_, by omega, fun _ => rfl⟩
      rw [← hdesc, Function.update_self]
      conv_rhs => rw [Radix.descend]
      rw [hc]

/-- At a last entry whose range does not end below 512 GB the next step is the next entry of `T4`,
with the gfn back at 0. -/
theorem OnWay.lost (hR : R = 4 ∨ R = 5) (hgfn : gfn < 2 ^ 27) {l : ℕ} {it it' : TdpIter}
    (h : OnWay mm m R T4 gfn l it) (hend : l = 3 ∨ 2 ^ 27 ≤ (gfn / 512 ^ l + 1) * 512 ^ l)
    (hside : step_side_or_up winHpage m (it.root_level - it.level + 1) it = some it') :
    ∃ f, 1 ≤ f ∧ Pos mm m R T4 f it' ∧ it'.gfn = 0 := by
  obtain ⟨up, g, p, hat, htab, hpath, hnl, -, hg3, hglt⟩ := h
  have hl3 := hpath.le
  have hP : ∀ l2 i2 g2 : ℕ, (l ≤ l2 ∧ l2 ≤ 3 ∧ (l2 = 3 → g2 = 0) ∧
      (l2 < 3 → g2 = gfn / 512 ^ l2 * 512 ^ l2)) → l2 < R →
      g2 < 2 ^ 52 ∧ g2 + winHpage.pages (l2 + 1) < 2 ^ 64 := by
    rintro l2 i2 g2 ⟨-, hl23, hg23, hg2⟩ -
    refine win_fits hl23 hg23 fun hlt => ?_
    have := Nat.div_mul_le_self gfn (512 ^ l2)
    rw [hg2 hlt]
    omega
  have hup : ∀ l2 i2 g2 : ℕ, (l ≤ l2 ∧ l2 ≤ 3 ∧ (l2 = 3 → g2 = 0) ∧
      (l2 < 3 → g2 = gfn / 512 ^ l2 * 512 ^ l2)) → g2 / 512 ^ l2 % 512 = 511 → l2 + 1 < R →
      (l ≤ l2 + 1 ∧ l2 + 1 ≤ 3 ∧ (l2 + 1 = 3 → gfn_round_for_level winHpage g2 (l2 + 2) = 0) ∧
        (l2 + 1 < 3 → gfn_round_for_level winHpage g2 (l2 + 2) =
          gfn / 512 ^ (l2 + 1) * 512 ^ (l2 + 1))) := by
    rintro l2 i2 g2 ⟨hll, hl23, hg23, hg2⟩ hidx -
    have hne : l2 ≠ 3 := by
      rintro rfl
      rw [hg23 rfl] at hidx
      simp at hidx
    refine ⟨by omega, by omega, ?_, ?_⟩
    · intro h
      obtain rfl : l2 = 2 := by omega
      exact win_round_four g2
    · intro h
      have hpos : 0 < 512 ^ l2 := Nat.pow_pos (by omega)
      have := Nat.div_mul_le_self gfn (512 ^ l2)
      rw [win_round g2 (l2 + 1) h, hg2 (by omega), Nat.mod_eq_of_lt (by omega),
        Nat.pow_succ, ← Nat.div_div_eq_div_mul, ← Nat.div_div_eq_div_mul, Nat.mul_div_cancel _ hpos]
  obtain ⟨l2, i2, g2, hll, hl2R, ⟨-, hl23, hg23, hg2⟩,
      ⟨hidx, hi', hat', hnl'⟩ | ⟨hidx, hroot⟩⟩ :=
    step_side_or_up_inv (fun l2 _ g2 => l ≤ l2 ∧ l2 ≤ 3 ∧ (l2 = 3 → g2 = 0) ∧
      (l2 < 3 → g2 = gfn / 512 ^ l2 * 512 ^ l2)) hP hup _ l _ g it it' hat (by omega) htab
      ⟨Nat.le_refl l, hl3, hg3, hglt⟩ hside
  · -- below level 4 the gfn has the last index of each table, so the steps up go on
    have h3 : l2 = 3 := by
      by_contra h3
      have hpos : 0 < 512 ^ l2 := Nat.pow_pos (by omega)
      rw [hg2 (by omega), Nat.mul_div_cancel _ hpos] at hidx
      exact hidx (last_index l l2 hgfn hll (by omega) (by omega))
    subst h3
    have hzero : g2 + winHpage.pages 4 = 0 := by
      rw [hg23 rfl, win_pages_four]
    rw [hzero] at hat' hnl'
    have hpath2 := hpath.up_to hll (Nat.le_refl 3)
    exact ⟨i2 + 1, by omega, Pos.of_top hat' (fun j hj hjR => htab j (by omega) hjR)
      (by simpa using hpath2) hi' hnl', hat'.gfn⟩
  · exfalso
    have h3 : l2 = 3 := by omega
    subst h3
    rw [hg23 rfl] at hidx
    simp at hidx

/-- **Below 512 GB, an entry whose range does not end there.** The walk leaves the last entry of the
gfn for a later entry of `T4` and does not come back. -/
theorem walk_low_wrong (hR : R = 4 ∨ R = 5) (htree : PageTree mm m 4 T4) (hgfn : gfn < 2 ^ 27)
    (hend : ¬ EndsBelow mm m T4 gfn) {it : TdpIter} (h : OnWay mm m R T4 gfn 3 it)
    (fuel : ℕ) (vs : List TdpIter)
    (hvs : for_each_tdp_pte winHpage mm m (gfn + 1) fuel it = some vs) :
    ∃ last, vs.getLast? = some last ∧ last.sptep ≠ (lastEntry mm m 4 T4 gfn).1 := by
  have hgo : ∀ l it, OnWay mm m R T4 gfn l it → it.valid = true ∧ it.gfn < gfn + 1 := by
    rintro l it ⟨up, g, p, hat, -, hpath, -, -, hg3, hglt⟩
    refine ⟨hat.valid, ?_⟩
    have := Nat.div_mul_le_self gfn (512 ^ l)
    have := hpath.le
    rw [hat.gfn]
    by_cases h3 : l = 3
    · rw [hg3 h3]
      omega
    · rw [hglt (by omega)]
      omega
  -- one step from the way down: on the way still, or lost
  have hnext : ∀ l it it', OnWay mm m R T4 gfn l it →
      tdp_iter_next winHpage mm m it = some it' →
      (∃ l', OnWay mm m R T4 gfn l' it') ∨ ∃ f, 1 ≤ f ∧ Pos mm m R T4 f it' ∧ it'.gfn = 0 := by
    intro l it it' hway hn
    have hy : it.yielded = false := by
      obtain ⟨_, _, _, hat, -⟩ := hway
      exact hat.yielded
    rcases hway.step hR hgfn with ⟨l', it'', -, hd, hway'⟩ | ⟨hd, hlevel, -⟩
    · have : it'' = it' := by simpa [tdp_iter_next, hy, hd] using hn
      exact Or.inl ⟨l', this ▸ hway'⟩
    · right
      refine hway.lost hR hgfn ?_ (by simpa [tdp_iter_next, hy, hd] using hn)
      simp only [EndsBelow, hlevel, Nat.add_sub_cancel, not_and, Nat.not_lt] at hend
      have hle : l ≤ 3 := by
        obtain ⟨_, _, _, -, -, hpath, -⟩ := hway
        exact hpath.le
      by_cases h3 : l = 3
      · exact Or.inl h3
      · exact Or.inr (hend (by omega))
  obtain ⟨last, it', hlast, hinv, hn, hstop⟩ := for_each_last
    (fun it => (∃ l, OnWay mm m R T4 gfn l it) ∨ ∃ f, 1 ≤ f ∧ Pos mm m R T4 f it) (gfn + 1)
    (by
      rintro it it' (⟨l, hway⟩ | ⟨f, hf, hpos⟩) - - hn - -
      · rcases hnext l it it' hway hn with h' | ⟨f, hf, h', -⟩
        · exact Or.inl h'
        · exact Or.inr ⟨f, hf, h'⟩
      · rcases hpos.next hR hn with ⟨h', -⟩ | ⟨f', hf', h', -⟩
        · exact Or.inr ⟨f, hf, h'⟩
        · exact Or.inr ⟨f', hf', h'⟩)
    fuel it vs (Or.inl ⟨3, h⟩) (hgo 3 it h).1 (hgo 3 it h).2 hvs
  refine ⟨last, hlast, ?_⟩
  rcases hinv with ⟨l, hway⟩ | ⟨f, hf, hpos⟩
  · exfalso
    rcases hnext l last it' hway hn with ⟨l', h'⟩ | ⟨f, -, h', h0⟩
    · exact hstop (hgo l' it' h')
    · exact hstop ⟨h'.valid, by omega⟩
  · exact hpos.sptep_ne htree (by norm_num; omega)

/-- The last entry of a table ends where the table's entry ends. -/
theorem end_of_last (l : ℕ) (hidx : gfn / 512 ^ l % 512 = 511) :
    (gfn / 512 ^ (l + 1) + 1) * 512 ^ (l + 1) = (gfn / 512 ^ l + 1) * 512 ^ l := by
  have hdiv : (gfn / 512 ^ l / 512 + 1) * 512 = gfn / 512 ^ l + 1 := by omega
  rw [Nat.pow_succ, ← Nat.div_div_eq_div_mul, Nat.mul_comm (512 ^ l) 512, ← Nat.mul_assoc, hdiv]

/-- A side step below level 4 that stays in the table leaves the gfn behind. -/
theorem side_past_here (hR : R = 4 ∨ R = 5) (hgfn : gfn < 2 ^ 27) {up : ℕ → ℕ} {l : ℕ}
    {it : TdpIter} (hl : l < 3) (htab : Tables mm m up l R) (hidx : gfn / 512 ^ l % 512 ≠ 511)
    (hat : At m R 1 up l (gfn / 512 ^ l % 512) (gfn / 512 ^ l * 512 ^ l) it) :
    SideWalks winHpage mm m (gfn + 1) it [] := by
  have hpos : 0 < 512 ^ l := Nat.pow_pos (by omega)
  have hpow : 512 ^ l ≤ 512 ^ 3 := Nat.pow_le_pow_right (by omega) (by omega)
  have hle := Nat.div_mul_le_self gfn (512 ^ l)
  have hlt : gfn < gfn / 512 ^ l * 512 ^ l + 512 ^ l := Nat.lt_div_mul_add hpos
  have hmod := Nat.mod_lt (gfn / 512 ^ l) (by omega : 512 > 0)
  obtain ⟨it', hs, hat', -⟩ := hat.try_step_side winHpage (by omega)
    (by rw [Nat.mul_div_cancel _ hpos]; exact hidx) (by omega)
    (by rw [win_pages l hl]; omega) (htab l (Nat.le_refl l) (by omega)).self
  refine sideWalks_side hs (walks_stop ?_)
  rw [hat'.gfn, win_pages l hl]
  omega

/-- From a last entry whose range ends below 512 GB the side steps leave the gfn behind. -/
theorem side_past (hR : R = 4 ∨ R = 5) (hgfn : gfn < 2 ^ 27) {up : ℕ → ℕ} (k : ℕ) :
    ∀ (l : ℕ) (it : TdpIter), l + k = 2 → Tables mm m up l R →
    (gfn / 512 ^ l + 1) * 512 ^ l < 2 ^ 27 →
    At m R 1 up l (gfn / 512 ^ l % 512) (gfn / 512 ^ l * 512 ^ l) it →
    SideWalks winHpage mm m (gfn + 1) it [] := by
  induction k with
  | zero =>
    intro l it hlk htab hend hat
    obtain rfl : l = 2 := by omega
    refine side_past_here hR hgfn (by omega) htab ?_ hat
    norm_num at hend ⊢
    omega
  | succ k ih =>
    intro l it hlk htab hend hat
    by_cases hidx : gfn / 512 ^ l % 512 = 511
    · have hpos : 0 < 512 ^ l := Nat.pow_pos (by omega)
      have hle := Nat.div_mul_le_self gfn (512 ^ l)
      obtain ⟨it', hu, hat'⟩ := hat.try_step_up winHpage (by omega) (by omega)
        (htab (l + 1) (by omega) (by omega)).self
      have hround : gfn_round_for_level winHpage (gfn / 512 ^ l * 512 ^ l) (l + 2) =
          gfn / 512 ^ (l + 1) * 512 ^ (l + 1) := by
        rw [win_round _ (l + 1) (by omega), Nat.mod_eq_of_lt (by omega), Nat.pow_succ,
          ← Nat.div_div_eq_div_mul, ← Nat.div_div_eq_div_mul, Nat.mul_div_cancel _ hpos]
      rw [hround, Nat.mul_div_cancel _ (Nat.pow_pos (by omega))] at hat'
      refine sideWalks_up (hat.try_step_side_last winHpage (by omega)
        (by rw [Nat.mul_div_cancel _ hpos]; exact hidx)) hu
        (by rw [hat.level, hat.root]; omega) (by rw [hat'.level, hat.level])
        (by rw [hat'.root, hat.root])
        (ih (l + 1) it' (by omega) (fun j hj hjR => htab j (by omega) hjR)
          (by rw [end_of_last l hidx]; exact hend) hat')
    · exact side_past_here hR hgfn (by omega) htab hidx hat

/-- **Below 512 GB, an entry whose range ends there.** The walk ends and its last visit is the last
entry of the gfn. -/
theorem walk_low_right (hR : R = 4 ∨ R = 5) (hgfn : gfn < 2 ^ 27) (hend : EndsBelow mm m T4 gfn)
    (l : ℕ) : ∀ it, OnWay mm m R T4 gfn l it →
    ∃ vs v, Walks winHpage mm m (gfn + 1) it vs ∧ vs.getLast? = some v ∧
      (⟨v.1.node, v.1.idx⟩, v.2) = lastEntry mm m 4 T4 gfn := by
  induction l using Nat.strong_induction_on with
  | _ l ih =>
    intro it hway
    have hstep := hway.step hR hgfn
    obtain ⟨up, g, p, hat, htab, hpath, -, -, hg3, hglt⟩ := hway
    have hle := Nat.div_mul_le_self gfn (512 ^ l)
    have hl3 := hpath.le
    have hgo : it.gfn < gfn + 1 := by
      rw [hat.gfn]
      by_cases h3 : l = 3
      · rw [hg3 h3]
        omega
      · rw [hglt (by omega)]
        omega
    rcases hstep with ⟨l', it', rfl, hd, hway'⟩ | ⟨hd, hlevel, hlast⟩
    · obtain ⟨vs, v, hw, hv, hve⟩ := ih l' (by omega) it' hway'
      refine ⟨view it :: vs, v, walks_down hat.valid hat.yielded hgo hd hw, ?_, hve⟩
      rw [List.getLast?_cons, hv]
      rfl
    · simp only [EndsBelow, hlevel, Nat.add_sub_cancel] at hend
      rw [hglt (by omega)] at hat
      refine ⟨[view it], view it, walks_side hat.valid hat.yielded hgo hd
        (side_past hR hgfn (2 - l) l it (by omega) htab hend.2 hat), rfl, ?_⟩
      rw [hlast, view]

end Lost

/-! ## The two walkers -/

/-- The loop over one gfn, from a started iterator, returns the entry `r` for all large fuels. -/
def Returns (mm : Mm) (m : PtMem) (gfn : ℕ) (it : TdpIter) (r : Sptep × BitVec 64) : Prop :=
  ∃ n, ∀ fuel, n ≤ fuel → ∃ vs, for_each_tdp_pte winHpage mm m (gfn + 1) fuel it = some vs ∧
    vs.foldl (fun _ iter => some (iter.sptep, iter.old_spte)) none = some r

theorem foldl_last (vs : List TdpIter) :
    vs.foldl (fun _ iter => some (iter.sptep, iter.old_spte)) none =
      vs.getLast?.map fun iter => (iter.sptep, iter.old_spte) := by
  rcases List.eq_nil_or_concat vs with rfl | ⟨ws, w, rfl⟩
  · rfl
  · simp

theorem returns_of_walks {gfn : ℕ} {it : TdpIter} {vs : List (RadixEntry ℕ × BitVec 64)}
    {v : RadixEntry ℕ × BitVec 64} (hw : Walks winHpage mm m (gfn + 1) it vs)
    (hv : vs.getLast? = some v) : Returns mm m gfn it (⟨v.1.node, v.1.idx⟩, v.2) := by
  obtain ⟨n, hn⟩ := hw
  refine ⟨n, fun fuel hfuel => ?_⟩
  obtain ⟨its, hits, hmap⟩ := Option.map_eq_some_iff.1 (hn fuel hfuel)
  refine ⟨its, hits, ?_⟩
  rw [← hmap, List.getLast?_map] at hv
  obtain ⟨last, hlast, rfl⟩ := Option.map_eq_some_iff.1 hv
  rw [foldl_last, hlast]
  rfl

theorem not_returns_of_last {gfn : ℕ} {it : TdpIter} {r : Sptep × BitVec 64}
    (h : ∀ fuel vs, for_each_tdp_pte winHpage mm m (gfn + 1) fuel it = some vs →
      ∃ last, vs.getLast? = some last ∧ last.sptep ≠ r.1) : ¬ Returns mm m gfn it r := by
  rintro ⟨n, hn⟩
  obtain ⟨vs, hvs, hr⟩ := hn n (Nat.le_refl n)
  obtain ⟨last, hlast, hne⟩ := h n vs hvs
  rw [foldl_last, hlast, Option.map_some, Option.some.injEq] at hr
  exact hne (by rw [← hr])

/-- A visit that steps on leaves the result of the loop to the next iterator, if that is visited. -/
theorem returns_next {gfn : ℕ} {it it' : TdpIter} {r : Sptep × BitVec 64}
    (hv : it.valid = true) (hlt : it.gfn < gfn + 1) (hv' : it'.valid = true)
    (hlt' : it'.gfn < gfn + 1) (hnext : tdp_iter_next winHpage mm m it = some it') :
    Returns mm m gfn it r ↔ Returns mm m gfn it' r := by
  have hc : (it.valid && decide (it.gfn < gfn + 1)) = true := by simp [hv, hlt]
  have hc' : (it'.valid && decide (it'.gfn < gfn + 1)) = true := by simp [hv', hlt']
  -- a visited iterator leaves something in the list, so the fold forgets the visit before it
  have hne : ∀ fuel vs, for_each_tdp_pte winHpage mm m (gfn + 1) fuel it' = some vs → vs ≠ [] := by
    intro fuel vs h
    rcases fuel with _ | fuel
    · simp [for_each_tdp_pte] at h
    · simp only [for_each_tdp_pte, hc', if_true, Option.bind_eq_bind] at h
      obtain ⟨_, -, h⟩ := Option.bind_eq_some_iff.1 h
      obtain ⟨_, -, h⟩ := Option.bind_eq_some_iff.1 h
      rw [← Option.some.inj h]
      exact List.cons_ne_nil _ _
  have hfold : ∀ vs : List TdpIter, vs ≠ [] →
      (it :: vs).foldl (fun _ iter => some (iter.sptep, iter.old_spte)) none =
        vs.foldl (fun _ iter => some (iter.sptep, iter.old_spte)) none := by
    intro vs hvs
    rw [foldl_last, foldl_last, List.getLast?_cons_of_ne_nil hvs]
  have hloop : ∀ fuel, for_each_tdp_pte winHpage mm m (gfn + 1) (fuel + 1) it =
      (for_each_tdp_pte winHpage mm m (gfn + 1) fuel it').bind fun rest => some (it :: rest) := by
    intro fuel
    simp only [for_each_tdp_pte, hc, if_true, hnext, Option.bind_eq_bind, Option.bind_some]
  constructor
  · rintro ⟨n, hn⟩
    refine ⟨n, fun fuel hfuel => ?_⟩
    obtain ⟨vs, hvs, hr⟩ := hn (fuel + 1) (by omega)
    rw [hloop fuel] at hvs
    obtain ⟨rest, hrest, h⟩ := Option.bind_eq_some_iff.1 hvs
    rw [← Option.some.inj h, hfold rest (hne fuel rest hrest)] at hr
    exact ⟨rest, hrest, hr⟩
  · rintro ⟨n, hn⟩
    refine ⟨n + 1, fun fuel hfuel => ?_⟩
    obtain ⟨fuel, rfl⟩ : ∃ k, fuel = k + 1 := ⟨fuel - 1, by omega⟩
    obtain ⟨rest, hrest, hr⟩ := hn fuel (by omega)
    refine ⟨it :: rest, ?_, ?_⟩
    · rw [hloop fuel, hrest]
      rfl
    · rw [hfold rest (hne fuel rest hrest)]
      exact hr

section Top

variable {R T4 gfn : ℕ}

/-- **At entry 0 of a level-4 table**, the loop returns the last entry of a gfn below 16 TB exactly
when that entry is below level 4 and its range ends below 512 GB. -/
theorem returns_top_iff (hR : R = 4 ∨ R = 5) (htree : PageTree mm m 4 T4) (hgfn : gfn < 2 ^ 32)
    {up : ℕ → ℕ} {it : TdpIter} (hat : At m R 1 up 3 0 0 it) (htab : Tables mm m up 3 R)
    (htop : up 3 = T4) (hnl : it.next_last_level_gfn = gfn) :
    Returns mm m gfn it (lastEntry mm m 4 T4 gfn) ↔ EndsBelow mm m T4 gfn := by
  have hpath : OnPath mm m T4 up 3 [] := by
    refine ⟨Nat.le_refl 3, rfl, htop, ?_⟩
    intro j hj hj3
    obtain rfl : j = 3 := by omega
    rw [htop]
    rfl
  have hg := hat.gfn
  by_cases hlow : gfn < 2 ^ 27
  · have hidx : gfn / 512 ^ 3 % 512 = 0 := by
      norm_num
      omega
    have hway : OnWay mm m R T4 gfn 3 it :=
      ⟨up, 0, [], by rw [hidx]; exact hat, htab, hpath, hnl, by rw [htop], fun _ => rfl,
        fun h => absurd h (by omega)⟩
    constructor
    · intro hret
      by_contra hend
      exact not_returns_of_last
        (fun fuel vs hvs => walk_low_wrong hR htree hlow hend hway fuel vs hvs) hret
    · intro hend
      obtain ⟨vs, v, hw, hv, hve⟩ := walk_low_right hR hlow hend 3 it hway
      rw [← hve]
      exact returns_of_walks hw hv
  · have hpos : Pos mm m R T4 0 it :=
      ⟨up, 3, 0, 0, [], hat, htab, hpath, by omega, by omega, fun _ => rfl, fun _ => by omega, rfl⟩
    constructor
    · intro hret
      exact absurd hret (not_returns_of_last fun fuel vs hvs =>
        walk_high_wrong hR htree (by omega) hgfn hpos (by omega) fuel vs hvs)
    · intro hend
      exfalso
      simp only [EndsBelow] at hend
      have := Nat.lt_div_mul_add (Nat.pow_pos (by omega : 0 < 512)
        (n := ((radix mm m).descend 4 T4 gfn).level - 1)) (a := gfn)
      rw [Nat.add_mul, Nat.one_mul] at hend
      omega

end Top

/-- The tables below a child of the root are a tree of their own. -/
theorem PageTree.child {level root i c : ℕ} (h : PageTree mm m level root) (hi : i < 512)
    (hc : (radix mm m).child level root i = some c) : PageTree mm m (level - 1) c := by
  refine ⟨h.allocated.child hi hc, fun p q t hp hq => ?_⟩
  have hcons : ∀ p, (radix mm m).nodeAt (level - 1) c p = some t →
      (radix mm m).nodeAt level root (i :: p) = some t := by
    intro p hp
    simp [Radix.nodeAt, hi, hc, hp]
  exact (List.cons.inj (h.distinct _ _ t (hcons p hp) (hcons q hq))).2

/-- The condition under which the iterator finds the last entry of an address: the entry is the
root entry of a 5-level tree and the gfn fits 32 bits, or the entry is below level 4 and its range
ends below 512 GB. -/
def FindsLast (mm : Mm) (m : PtMem) (root : KvmMmuPage) (gfn : ℕ) : Prop :=
  let l := ((radix mm m).descend root.role.level root.spt gfn).level
  (l = 5 ∧ gfn < 2 ^ 32) ∨ (l ≤ 3 ∧ (gfn / 512 ^ (l - 1) + 1) * 512 ^ (l - 1) < 2 ^ 27)

/-- `kvm_tdp_mmu_fast_pf_get_last_sptep` terminates and returns what the shadow walk over the same
root table returns, the last entry of the address and its value. -/
def FastPfAgrees (mm : Mm) (m : PtMem) (iter : TdpIter) (root : KvmMmuPage) (mmu : KvmMmu)
    (addr : ℕ) : Prop :=
  ∃ n, ∀ fuel, n ≤ fuel →
    kvm_tdp_mmu_fast_pf_get_last_sptep mm m fuel iter root addr =
      fast_pf_get_last_sptep mm m mmu (mm.phys root.spt) addr ∧
    fast_pf_get_last_sptep mm m mmu (mm.phys root.spt) addr =
      some (some (lastEntry mm m root.role.level root.spt (addr / 4096)))

theorem lt_block_end (gfn l : ℕ) : gfn < (gfn / 512 ^ l + 1) * 512 ^ l := by
  rw [Nat.add_mul, Nat.one_mul]
  exact Nat.lt_div_mul_add (Nat.pow_pos (by omega))

/-- The loop of the fast path from a root of level 4. -/
theorem returns_root_four (iter : TdpIter) (root : KvmMmuPage) (gfn : ℕ)
    (hlevel : root.role.level = 4) (htree : PageTree mm m 4 root.spt) (hgfn : gfn < 2 ^ 40) :
    ∃ it, tdp_iter_start winHpage m iter root PG_LEVEL_4K gfn = some it ∧
      (Returns mm m gfn it (lastEntry mm m 4 root.spt gfn) ↔ FindsLast mm m root gfn) := by
  obtain ⟨it, hit, hat, hnl⟩ := tdp_iter_start_spec winHpage iter root PG_LEVEL_4K gfn 3 hlevel
    (by omega) htree.allocated.self
  rw [win_round_four, Nat.zero_div, Nat.zero_mod] at hat
  have hup : Function.update iter.pt_path 3 root.spt 3 = root.spt := Function.update_self ..
  have htab : Tables mm m (Function.update iter.pt_path 3 root.spt) 3 4 := by
    intro j hj hj4
    obtain rfl : j = 3 := by omega
    rw [hup]
    exact htree.allocated
  have hle := (radix mm m).descend_level_le 4 root.spt gfn
  refine ⟨it, hit, ?_⟩
  by_cases hlow : gfn < 2 ^ 32
  · rw [returns_top_iff (Or.inl rfl) htree hlow hat htab hup hnl, FindsLast, hlevel]
    simp only [EndsBelow]
    constructor
    · exact Or.inr
    · rintro (⟨h5, -⟩ | h)
      · omega
      · exact h
  · have hfar : Far mm m 4 gfn it :=
      ⟨_, 3, 0, 0, hat, htab, by omega, by omega, by omega, Or.inr (Or.inl ⟨rfl, rfl⟩)⟩
    constructor
    · rintro ⟨n, hn⟩
      obtain ⟨vs, hvs, -⟩ := hn n (Nat.le_refl n)
      exact absurd hvs (far_never_ends (Or.inl rfl) (by omega) n it hfar vs)
    · rintro (⟨-, h⟩ | ⟨-, h⟩)
      · exact absurd h hlow
      · have := lt_block_end gfn
          (((radix mm m).descend root.role.level root.spt gfn).level - 1)
        omega

/-- The loop of the fast path from a root of level 5. -/
theorem returns_root_five (iter : TdpIter) (root : KvmMmuPage) (gfn : ℕ)
    (hlevel : root.role.level = 5) (htree : PageTree mm m 5 root.spt) (hgfn : gfn < 2 ^ 40) :
    ∃ it, tdp_iter_start winHpage m iter root PG_LEVEL_4K gfn = some it ∧
      (Returns mm m gfn it (lastEntry mm m 5 root.spt gfn) ↔ FindsLast mm m root gfn) := by
  obtain ⟨it, hit, hat, hnl⟩ := tdp_iter_start_spec winHpage iter root PG_LEVEL_4K gfn 4 hlevel
    (by omega) htree.allocated.self
  have hidx : gfn % 2 ^ 32 / 16 * 16 / 512 ^ 4 % 512 = 0 := by
    norm_num
    omega
  rw [win_round_five, hidx] at hat
  have hg := hat.gfn
  have hup : Function.update iter.pt_path 4 root.spt 4 = root.spt := Function.update_self ..
  have htab : Tables mm m (Function.update iter.pt_path 4 root.spt) 4 5 := by
    intro j hj hj4
    obtain rfl : j = 4 := by omega
    rw [hup]
    exact htree.allocated
  refine ⟨it, hit, ?_⟩
  by_cases hlow : gfn < 2 ^ 32
  · have hmod : gfn % 2 ^ 32 = gfn := Nat.mod_eq_of_lt hlow
    rw [hmod] at hat hg
    have hzero : gfn / 512 ^ 4 % 512 = 0 := by
      norm_num
      omega
    rcases hc : (radix mm m).child 5 root.spt 0 with _ | T4
    · -- the root entry is the last one, and the side step is 16 gfns long
      have hdesc : (radix mm m).descend 5 root.spt gfn = ⟨root.spt, 0, 5, gfn / 512 ^ 4 * 512 ^ 4⟩ := by
        simp only [Radix.descend, hzero, hc]
      have hfinds : FindsLast mm m root gfn := by
        rw [FindsLast, hlevel, hdesc]
        exact Or.inl ⟨rfl, hlow⟩
      refine iff_of_true ?_ hfinds
      have hd := hat.try_step_down_none winHpage (by rw [hup]; exact htree.allocated.self)
        (by omega) (Or.inr (by rw [hup]; exact hc))
      obtain ⟨it', hs, hat', -⟩ := hat.try_step_side winHpage (by omega)
        (by norm_num; omega) (by omega) (by rw [win_pages_five]; omega)
        (by rw [hup]; exact htree.allocated.self)
      have hw : Walks winHpage mm m (gfn + 1) it [view it] := by
        refine walks_side hat.valid hat.yielded (by omega) hd (sideWalks_side hs (walks_stop ?_))
        rw [hat'.gfn, win_pages_five]
        omega
      have hret := returns_of_walks hw rfl
      have hlast : lastEntry mm m 5 root.spt gfn = (it.sptep, it.old_spte) := by
        rw [lastEntry, hdesc, hat.sptep, hat.spte, hup]
      rw [hlast]
      exact hret
    · -- the loop goes down into `T4`, where a side step is as long as the walk takes it to be
      have htree4 : PageTree mm m 4 T4 := htree.child (by omega) hc
      obtain ⟨it', hd, hat', hnl'⟩ := hat.try_step_down winHpage (by decide)
        (by rw [hup]; exact htree.allocated.self) (by omega) (by rw [hup]; exact hc)
        htree4.allocated.self (by omega)
      rw [win_round_four, Nat.zero_div, Nat.zero_mod] at hat'
      have hnext : tdp_iter_next winHpage mm m it = some it' := by
        simp [tdp_iter_next, hat.yielded, hd]
      have hdesc : (radix mm m).descend 5 root.spt gfn = (radix mm m).descend 4 T4 gfn := by
        rw [Radix.descend, hzero, hc]
      have hlast : lastEntry mm m 5 root.spt gfn = lastEntry mm m 4 T4 gfn := by
        rw [lastEntry, lastEntry, hdesc]
      have hle := (radix mm m).descend_level_le 4 T4 gfn
      have htab4 := htab.down (by omega) (by omega : 0 < 512) (by rw [hup]; exact hc)
      rw [hlast, returns_next hat.valid (by omega) hat'.valid (by rw [hat'.gfn]; omega) hnext,
        returns_top_iff (Or.inr rfl) htree4 hlow hat' htab4 (Function.update_self ..)
          (by rw [hnl', hnl]), FindsLast, hlevel, hdesc]
      simp only [EndsBelow]
      constructor
      · exact Or.inr
      · rintro (⟨h5, -⟩ | h)
        · omega
        · exact h
  · -- the iterator starts under root entry 0, which the gfn is not below
    have hfar : Far mm m 5 gfn it :=
      ⟨_, 4, 0, _, hat, htab, by omega, by omega, by omega, Or.inr (Or.inr ⟨rfl, by omega⟩)⟩
    constructor
    · rintro ⟨n, hn⟩
      obtain ⟨vs, hvs, -⟩ := hn n (Nat.le_refl n)
      exact absurd hvs (far_never_ends (Or.inr rfl) (by omega) n it hfar vs)
    · rintro (⟨-, h⟩ | ⟨-, h⟩)
      · exact absurd h hlow
      · have := lt_block_end gfn
          (((radix mm m).descend root.role.level root.spt gfn).level - 1)
        omega

/-- The fast path over a root agrees with the shadow walk exactly when its loop returns the last
entry of the address. -/
theorem fastPfAgrees_iff_returns (iter it : TdpIter) (root : KvmMmuPage) (mmu : KvmMmu) (addr : ℕ)
    (hlevel : root.role.level = 4 ∨ root.role.level = 5)
    (htree : PageTree mm m root.role.level root.spt) (hrole : mmu.root_role = root.role)
    (hdirect : root.role.direct = true) (hphys : mm.virt (mm.phys root.spt) = root.spt)
    (haddr : addr < 2 ^ 52)
    (hit : tdp_iter_start winHpage m iter root PG_LEVEL_4K (addr / 4096) = some it) :
    FastPfAgrees mm m iter root mmu addr ↔
      Returns mm m (addr / 4096) it (lastEntry mm m root.role.level root.spt (addr / 4096)) := by
  have hshadow := fast_pf_get_last_sptep_spec mmu (mm.phys root.spt) addr root.spt
    (by rw [hrole]; exact hlevel) (by rw [hrole]; exact hdirect)
    (by rw [hrole]; exact htree.allocated) hphys
  rw [hrole] at hshadow
  have hend : (addr / 4096 + 1) % 2 ^ 64 = addr / 4096 + 1 := Nat.mod_eq_of_lt (by omega)
  have htdp : ∀ fuel, kvm_tdp_mmu_fast_pf_get_last_sptep mm m fuel iter root addr =
      (for_each_tdp_pte winHpage mm m (addr / 4096 + 1) fuel it).bind fun visits =>
        some (visits.foldl (fun _ iter => some (iter.sptep, iter.old_spte)) none) := by
    intro fuel
    simp only [kvm_tdp_mmu_fast_pf_get_last_sptep, for_each_tdp_pte_min_level, hit, hend,
      Option.bind_eq_bind, Option.bind_some]
  constructor
  · rintro ⟨n, hn⟩
    refine ⟨n, fun fuel hfuel => ?_⟩
    have h := (hn fuel hfuel).1
    rw [hshadow, htdp] at h
    obtain ⟨vs, hvs, h⟩ := Option.bind_eq_some_iff.1 h
    exact ⟨vs, hvs, Option.some.inj h⟩
  · rintro ⟨n, hn⟩
    refine ⟨n, fun fuel hfuel => ⟨?_, hshadow⟩⟩
    obtain ⟨vs, hvs, h⟩ := hn fuel hfuel
    rw [hshadow, htdp, hvs, Option.bind_some, h]

/-- **When the two walkers agree.** Over every page-table tree of root level 4 or 5 and for every
guest physical address of at most 52 bits, `kvm_tdp_mmu_fast_pf_get_last_sptep` with the Windows
widths terminates with the entry and the value of the shadow walk exactly under `FindsLast`. -/
theorem fast_pf_agrees_iff (mm : Mm) (m : PtMem) (iter : TdpIter) (root : KvmMmuPage)
    (mmu : KvmMmu) (addr : ℕ) (hlevel : root.role.level = 4 ∨ root.role.level = 5)
    (htree : PageTree mm m root.role.level root.spt) (hrole : mmu.root_role = root.role)
    (hdirect : root.role.direct = true) (hphys : mm.virt (mm.phys root.spt) = root.spt)
    (haddr : addr < 2 ^ 52) :
    FastPfAgrees mm m iter root mmu addr ↔ FindsLast mm m root (addr / 4096) := by
  rcases hlevel with h4 | h5
  · have htree4 := htree
    rw [h4] at htree4
    obtain ⟨it, hit, hiff⟩ := returns_root_four iter root (addr / 4096) h4 htree4 (by omega)
    rw [fastPfAgrees_iff_returns iter it root mmu addr (Or.inl h4) htree hrole hdirect hphys haddr
      hit, h4, hiff]
  · have htree5 := htree
    rw [h5] at htree5
    obtain ⟨it, hit, hiff⟩ := returns_root_five iter root (addr / 4096) h5 htree5 (by omega)
    rw [fastPfAgrees_iff_returns iter it root mmu addr (Or.inr h5) htree hrole hdirect hphys haddr
      hit, h5, hiff]

/-- The MMU whose root is `rootPage`. -/
def rootMmu : KvmMmu where
  root_role := rootPage.role
  cpu_role_level := 4
  pae_root := fun _ => 0

/-- Gfn 5 is found below entry 0 of the root. -/
theorem fast_pf_agrees_low : FastPfAgrees flatMm twoTables blankIter rootPage rootMmu 0x5000 :=
  (fast_pf_agrees_iff flatMm twoTables blankIter rootPage rootMmu 0x5000 (Or.inl (by decide))
    twoTables_tree rfl (by decide) (by decide) (by decide)).2
    (Or.inr ⟨by decide, by decide⟩)

/-- 512 GB is found below entry 0 of the root too, where the shadow walk stops at entry 1. -/
theorem fast_pf_disagrees_at_512_gb :
    kvm_tdp_mmu_fast_pf_get_last_sptep flatMm twoTables 3 blankIter rootPage (2 ^ 39) =
      some (some (⟨0x2000, 0⟩, 0)) ∧
    fast_pf_get_last_sptep flatMm twoTables rootMmu (flatMm.phys rootPage.spt) (2 ^ 39) =
      some (some (⟨0x1000, 1⟩, 0)) ∧
    ¬ FastPfAgrees flatMm twoTables blankIter rootPage rootMmu (2 ^ 39) := by
  refine ⟨by decide +kernel, by decide +kernel, ?_⟩
  obtain ⟨it, hit, hiff⟩ := returns_root_four blankIter rootPage (2 ^ 39 / 4096) (by decide)
    twoTables_tree (by decide)
  rw [fastPfAgrees_iff_returns blankIter it rootPage rootMmu (2 ^ 39) (Or.inl (by decide))
    twoTables_tree rfl (by decide) (by decide) (by decide) hit]
  intro hret
  rcases hiff.1 hret with ⟨h, -⟩ | ⟨h, -⟩
  · exact absurd h (by decide)
  · exact absurd h (by decide)

end Svmx.Tdp
