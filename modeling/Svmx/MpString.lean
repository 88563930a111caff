/-
`HashUStringUpcase` (`mphashtable.c`): the hash of a string, whatever the case of its letters.

The loop runs while `pStart` is below `pEnd` and moves `pBuffer`. Neither of the two that are compared
ever changes, so a call with any character to hash never returns: after the last character, when the
hash is the right one, it reads on behind the string until it meets memory that is not there. The call
is right for the empty string and for no other (`hash_right_iff`).

`mem` is the memory as characters by address. A call is run for a number of rounds of its loop, and a
read outside of the memory ends it with a fault. `RtlUpcaseUnicodeChar` is the kernel's, any function.
-/
import Svmx.MpHash

set_option autoImplicit false

namespace Svmx.MpString

open MpHash

/-! ## The code -/

/-- What has become of a call after some rounds of its loop. -/
inductive UpcaseOutcome where
  | returned (kMagicNumber : BitVec 64)
  | fault
  | running (pBuffer : ℕ) (kMagicNumber : BitVec 64)
deriving DecidableEq

/-- The bytes of a `WCHAR` in memory, the lowest first. -/
def charBytes (upper : BitVec 16) : List (BitVec 8) := [upper.truncate 8, (upper >>> 8).truncate 8]

section Code

variable (RtlUpcaseUnicodeChar : BitVec 16 → BitVec 16) (mem : ℕ → Option (BitVec 16))

/-- The loop of `HashUStringUpcase`, with the addresses that it reads. -/
def upcase_loop (pStart pEnd : ℤ) : ℕ → ℕ → BitVec 64 → UpcaseOutcome × List ℕ
  | 0, pBuffer, kMagicNumber => (.running pBuffer kMagicNumber, [])
  | rounds + 1, pBuffer, kMagicNumber =>
    if pStart < pEnd then
      match mem pBuffer with
      | none => (.fault, [pBuffer])
      | some c =>
        let upper := RtlUpcaseUnicodeChar c
        let kMagicNumber := HashBytesEx (charBytes upper) kMagicNumber
        let (outcome, reads) := upcase_loop pStart pEnd rounds (pBuffer + 2) kMagicNumber
        (outcome, pBuffer :: reads)
    else (.returned kMagicNumber, [])

/-- `HashUStringUpcase`; `len` is an `int`. -/
def HashUStringUpcase (rounds pBuffer : ℕ) (len : BitVec 32) : UpcaseOutcome × List ℕ :=
  let pStart : ℤ := pBuffer
  let pEnd : ℤ := pBuffer + 2 * len.toInt
  upcase_loop RtlUpcaseUnicodeChar mem pStart pEnd rounds pBuffer 314159

end Code

/-! ## Strings in memory -/

/-- The first characters of a buffer, as many as an `int` can count. -/
structure WideString (mem : ℕ → Option (BitVec 16)) where
  pBuffer : ℕ
  chars : List (BitVec 16)
  held : ∀ i c, chars[i]? = some c → mem (pBuffer + 2 * i) = some c
  short : chars.length < 2 ^ 31

/-- The length as it is passed. -/
def WideString.len {mem : ℕ → Option (BitVec 16)} (s : WideString mem) : BitVec 32 :=
  BitVec.ofNat 32 s.chars.length

/-- The address of character `i`. -/
def charAt (pBuffer i : ℕ) : ℕ := pBuffer + 2 * i

/-- The hash of a string that is upcased, starting from some value. -/
def foldChars (uppers : List (BitVec 16)) (kMagicNumber : BitVec 64) : BitVec 64 :=
  uppers.foldl (fun hash upper => HashBytesEx (charBytes upper) hash) kMagicNumber

section Right

variable (RtlUpcaseUnicodeChar : BitVec 16 → BitVec 16) {mem : ℕ → Option (BitVec 16)}

/-- **What a call is to do** for a string: return the hash of its characters, upcased, after reading
no other ones, so that another string that differs in case only has the same hash. -/
structure HashRight (s : WideString mem) : Prop where
  returns : ∃ rounds, (HashUStringUpcase RtlUpcaseUnicodeChar mem rounds s.pBuffer s.len).1 =
    .returned (foldChars (s.chars.map RtlUpcaseUnicodeChar) 314159)
  inside : ∀ rounds, ∀ p ∈ (HashUStringUpcase RtlUpcaseUnicodeChar mem rounds s.pBuffer s.len).2,
    ∃ i < s.chars.length, p = charAt s.pBuffer i
  same : ∀ s' : WideString mem, s'.chars.map RtlUpcaseUnicodeChar = s.chars.map RtlUpcaseUnicodeChar →
    ∃ rounds rounds' hash,
      (HashUStringUpcase RtlUpcaseUnicodeChar mem rounds s.pBuffer s.len).1 = .returned hash ∧
      (HashUStringUpcase RtlUpcaseUnicodeChar mem rounds' s'.pBuffer s'.len).1 = .returned hash

end Right

/-! ## The loop -/

section Loop

variable {RtlUpcaseUnicodeChar : BitVec 16 → BitVec 16} {mem : ℕ → Option (BitVec 16)}

theorem toInt_len (s : WideString mem) : s.len.toInt = s.chars.length := by
  have hshort := s.short
  have hnat : s.len.toNat = s.chars.length := by
    rw [WideString.len, BitVec.toNat_ofNat]
    exact Nat.mod_eq_of_lt (by omega)
  rw [BitVec.toInt_eq_toNat_of_lt (by omega), hnat]

/-- **No round gets out of the loop**, once the first one has got into it. -/
theorem upcase_loop_ne_returned {pStart pEnd : ℤ} (h : pStart < pEnd) (rounds pBuffer : ℕ)
    (kMagicNumber hash : BitVec 64) :
    (upcase_loop RtlUpcaseUnicodeChar mem pStart pEnd rounds pBuffer kMagicNumber).1 ≠
      .returned hash := by
  induction rounds generalizing pBuffer kMagicNumber with
  | zero =>
    intro heq
    cases heq
  | succ rounds ih =>
    rw [upcase_loop, if_pos h]
    split
    · intro heq
      cases heq
    · exact ih _ _

/-- **The rounds over a string** read its characters in order and add them to the hash; the other
rounds start behind it. -/
theorem upcase_loop_chars {pStart pEnd : ℤ} (h : pStart < pEnd) {chars : List (BitVec 16)}
    {pBuffer : ℕ} (hheld : ∀ i c, chars[i]? = some c → mem (charAt pBuffer i) = some c)
    {rounds : ℕ} {kMagicNumber : BitVec 64} {outcome : UpcaseOutcome} {reads : List ℕ}
    (hrest : upcase_loop RtlUpcaseUnicodeChar mem pStart pEnd rounds (charAt pBuffer chars.length)
      (foldChars (chars.map RtlUpcaseUnicodeChar) kMagicNumber) = (outcome, reads)) :
    upcase_loop RtlUpcaseUnicodeChar mem pStart pEnd (chars.length + rounds) pBuffer kMagicNumber =
      (outcome, (List.range chars.length).map (charAt pBuffer) ++ reads) := by
  induction chars generalizing pBuffer kMagicNumber with
  | nil =>
    rw [List.length_nil, Nat.zero_add]
    exact hrest
  | cons c chars ih =>
    have hfirst : mem pBuffer = some c := hheld 0 c rfl
    have hnext : ∀ i, charAt (pBuffer + 2) i = charAt pBuffer (i + 1) := by
      intro i
      unfold charAt
      omega
    have hheld' : ∀ i c', chars[i]? = some c' → mem (charAt (pBuffer + 2) i) = some c' := by
      intro i c' hi
      rw [hnext]
      exact hheld (i + 1) c' hi
    have hlen : (c :: chars).length + rounds = (chars.length + rounds) + 1 := by
      rw [List.length_cons]
      omega
    have haddrs : (List.range (chars.length + 1)).map (charAt pBuffer) =
        pBuffer :: (List.range chars.length).map (charAt (pBuffer + 2)) := by
      rw [List.range_succ_eq_map, List.map_cons, List.map_map]
      exact congrArg _ (List.map_congr_left fun i _ => (hnext i).symm)
    rw [hlen, upcase_loop, if_pos h, hfirst]
    dsimp only
    rw [ih hheld' (by rw [hnext]; exact hrest), List.length_cons, haddrs]
    rfl

variable (s : WideString mem)

/-- The string has a character exactly if the loop is entered. -/
theorem entered_iff : (s.pBuffer : ℤ) < s.pBuffer + 2 * s.len.toInt ↔ s.chars ≠ [] := by
  rw [toInt_len, ← List.length_pos_iff]
  omega

/-- The call for the empty string. -/
theorem HashUStringUpcase_nil (h : s.chars = []) (rounds : ℕ) :
    HashUStringUpcase RtlUpcaseUnicodeChar mem (rounds + 1) s.pBuffer s.len =
      (.returned 314159, []) := by
  rw [HashUStringUpcase, upcase_loop, if_neg]
  rw [entered_iff, not_not]
  exact h

/-- **Any other call** does not return. -/
theorem HashUStringUpcase_ne_returned (h : s.chars ≠ []) (rounds : ℕ) (hash : BitVec 64) :
    (HashUStringUpcase RtlUpcaseUnicodeChar mem rounds s.pBuffer s.len).1 ≠ .returned hash :=
  upcase_loop_ne_returned ((entered_iff s).mpr h) _ _ _ _

/-- It has the right hash after as many rounds as there are characters, -/
theorem HashUStringUpcase_computes (h : s.chars ≠ []) :
    HashUStringUpcase RtlUpcaseUnicodeChar mem s.chars.length s.pBuffer s.len =
      (.running (charAt s.pBuffer s.chars.length)
        (foldChars (s.chars.map RtlUpcaseUnicodeChar) 314159),
      (List.range s.chars.length).map (charAt s.pBuffer)) := by
  have hloop := upcase_loop_chars ((entered_iff s).mpr h) s.held
    (rfl : upcase_loop RtlUpcaseUnicodeChar mem _ _ 0 _ (foldChars _ 314159) = _)
  rw [Nat.add_zero, List.append_nil] at hloop
  exact hloop

/-- and with the next round it reads behind the string. -/
theorem HashUStringUpcase_overreads (h : s.chars ≠ []) {rounds : ℕ} (hrounds : s.chars.length < rounds) :
    charAt s.pBuffer s.chars.length ∈
      (HashUStringUpcase RtlUpcaseUnicodeChar mem rounds s.pBuffer s.len).2 := by
  obtain ⟨more, rfl⟩ : ∃ more, rounds = s.chars.length + (more + 1) :=
    ⟨rounds - s.chars.length - 1, by omega⟩
  have hin := (entered_iff s).mpr h
  rw [HashUStringUpcase, upcase_loop_chars hin s.held rfl]
  apply List.mem_append_right
  rw [upcase_loop, if_pos hin]
  split
  · exact List.mem_singleton_self _
  · exact List.mem_cons_self

end Loop

/-- **When a call is right**: exactly for the empty string, whatever memory holds and however
characters are upcased. -/
theorem hash_right_iff (RtlUpcaseUnicodeChar : BitVec 16 → BitVec 16)
    {mem : ℕ → Option (BitVec 16)} (s : WideString mem) :
    HashRight RtlUpcaseUnicodeChar s ↔ s.chars = [] := by
  constructor
  · intro hright
    by_contra hne
    obtain ⟨rounds, hreturned⟩ := hright.returns
    exact HashUStringUpcase_ne_returned s hne rounds _ hreturned
  · intro hempty
    have hcall := @HashUStringUpcase_nil RtlUpcaseUnicodeChar mem s hempty
    refine ⟨⟨1, ?_⟩, fun rounds p hp => ?_, fun s' hsame => ⟨1, 1, 314159, ?_, ?_⟩⟩
    · rw [hcall 0, hempty]
      rfl
    · cases rounds with
      | zero => cases hp
      | succ rounds =>
        rw [hcall rounds] at hp
        cases hp
    · rw [hcall 0]
    · have hempty' : s'.chars = [] := by
        rw [hempty, List.map_nil, List.map_eq_nil_iff] at hsame
        exact hsame
      rw [HashUStringUpcase_nil s' hempty' 0]

/-- `RtlUpcaseUnicodeChar` on the letters of ASCII. -/
def upcaseAscii (c : BitVec 16) : BitVec 16 := if 0x61 ≤ c ∧ c ≤ 0x7a then c - 0x20 else c

/-- Memory that holds the letter `a` at one address and nothing anywhere else. -/
def letterMem (p : ℕ) : Option (BitVec 16) := if p = 0x1000 then some 0x61 else none

def letterString : WideString letterMem where
  pBuffer := 0x1000
  chars := [0x61]
  held i c hi := by
    cases i with
    | zero => exact hi
    | succ i => cases hi
  short := by decide

/-- The call for a string of one letter does not return. -/
theorem letter_not_hashed : ¬ HashRight upcaseAscii letterString := by
  intro hright
  obtain ⟨rounds, hreturned⟩ := hright.returns
  exact HashUStringUpcase_ne_returned letterString (List.cons_ne_nil _ _) rounds _ hreturned

end Svmx.MpString
