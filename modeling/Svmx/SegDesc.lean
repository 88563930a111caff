/-
x86 segment descriptors, and what the processor holds in its segment registers in 64-bit mode.

A descriptor is a quadword; that of a TSS or of an LDT goes on in the next one. `Tables.held` is a
segment register that was loaded with a selector: the visible selector, and the hidden part from the
descriptor that the selector names. The bases of ES, CS, SS and DS count as 0, those of FS and GS are
in registers of their own.
-/
import Svmx.BitFields
import Mathlib.Tactic.IntervalCases

set_option autoImplicit false

namespace SegDesc

open BitFields

/-! ## Descriptors -/

/-- What a segment register holds; `rights` has the layout of bits 40 to 55 of a descriptor, without
the limit. -/
structure SegReg where
  selector : BitVec 16
  unusable : Bool
  base : BitVec 64
  limit : BitVec 32
  rights : BitVec 16
deriving DecidableEq

def rights (d : BitVec 64) : BitVec 16 := ((d >>> 40) &&& 0xF0FF).truncate 16

def type (d : BitVec 64) : BitVec 8 := take 8 40 4 d

/-- The descriptor is one of a code or data segment. -/
def isMemory (d : BitVec 64) : Bool := d.getLsbD 44

def isPresent (d : BitVec 64) : Bool := d.getLsbD 47

/-- The segment was accessed: the processor sets the bit when it loads a register. -/
def isAccessed (d : BitVec 64) : Bool := d.getLsbD 40

/-- The low half of the base. -/
def base32 (d : BitVec 64) : BitVec 64 := take 64 16 24 d ||| (take 64 56 8 d <<< 24)

/-- The limit in bytes. -/
def limit (d : BitVec 64) : BitVec 32 :=
  let limit20 : BitVec 32 := take 32 0 16 d ||| (take 32 48 4 d <<< 16)
  if d.getLsbD 55 then (limit20 <<< 12) ||| 0xFFF else limit20

def SEGMENT_TYPE_LDT : BitVec 8 := 2
def SEGMENT_TYPE_TSS_AVAILABLE : BitVec 8 := 9
def SEGMENT_TYPE_TSS_BUSY : BitVec 8 := 11

/-! ## Selectors -/

/-- The null selectors, of any RPL. -/
def isNull (selector : BitVec 16) : Bool := selector &&& 0xFFFC == 0

def inLdt (selector : BitVec 16) : Bool := selector.getLsbD 2

def index (selector : BitVec 16) : BitVec 64 := take 64 3 13 selector

/-! ## The tables -/

/-- The quadwords of memory by their linear addresses, the base of the GDT, and LDTR. -/
structure Tables where
  quad : BitVec 64 → BitVec 64
  gdt : BitVec 64
  ldtr : BitVec 16

/-- The base in a descriptor of two quadwords. -/
def Tables.base64 (t : Tables) (address : BitVec 64) : BitVec 64 :=
  base32 (t.quad address) ||| (((t.quad (address + 8)).truncate 32).zeroExtend 64 <<< 32)

/-- The base of the LDT. -/
def Tables.ldt (t : Tables) : BitVec 64 := t.base64 (t.gdt + index t.ldtr * 8)

/-- Where the descriptor of a selector is. -/
def Tables.address (t : Tables) (selector : BitVec 16) : BitVec 64 :=
  (if inLdt selector then t.ldt else t.gdt) + index selector * 8

/-- What the base of a segment register is in 64-bit mode: 0, a register of its own, or the one in
the descriptor. -/
inductive Kind where
  | flat
  | msr (base : BitVec 64)
  | system
deriving DecidableEq

/-- The register that was loaded with `selector`. -/
def Tables.held (t : Tables) (kind : Kind) (selector : BitVec 16) : SegReg :=
  let d := t.quad (t.address selector)
  { selector := selector
    unusable := isNull selector
    base := match kind with
      | .flat => 0
      | .msr base => base
      | .system => t.base64 (t.address selector)
    limit := limit d
    rights := rights d }

/-- What the processor has checked and done when it loaded the register. -/
structure Tables.Loads (t : Tables) (kind : Kind) (selector : BitVec 16) : Prop where
  present : isNull selector = false → isPresent (t.quad (t.address selector)) = true
  accessed : isNull selector = false → kind ≠ .system →
    isAccessed (t.quad (t.address selector)) = true
  system : isNull selector = false → kind = .system → inLdt selector = false ∧
    isMemory (t.quad (t.address selector)) = false

/-- Two segment registers that software cannot tell apart: of a register that is unusable it sees the
selector, and the base if that has a register of its own. -/
structure Alike (kind : Kind) (r r' : SegReg) : Prop where
  selector : r.selector = r'.selector
  unusable : r.unusable = r'.unusable
  base : ∀ base, kind = .msr base → r.base = r'.base
  usable : r'.unusable = false → r = r'

/-! ## Places -/

/-- One bit of a word, as a number. -/
theorem take_bit_eq_one {w : ℕ} (x : BitVec w) (off : ℕ) :
    (take 8 off 1 x : BitVec 8) = if x.getLsbD off then 1 else 0 := by
  apply BitVec.eq_of_getLsbD_eq
  intro i hi
  rw [getLsbD_take]
  by_cases h0 : i = 0
  · subst h0
    cases x.getLsbD off <;> simp
  · have hlt : ¬ i < 1 := by omega
    split <;> simp [hlt, h0]

/-- Two places next to each other. -/
theorem take_split {w n off a b : ℕ} (x : BitVec w) (h : a + b ≤ n) :
    (take n (off + a) b x <<< a) ||| take n off a x = take n off (a + b) x := by
  apply BitVec.eq_of_getLsbD_eq
  intro i hi
  simp only [BitVec.getLsbD_or, BitVec.getLsbD_shiftLeft, getLsbD_take]
  by_cases hia : i < a
  · have hab : i < a + b := by omega
    simp [hi, hia, hab]
  · have hoff : off + a + (i - a) = off + i := by omega
    have hin : i - a < n := by omega
    have hlen : i - a < b ↔ i < a + b := by omega
    simp [hi, hia, hoff, hin, hlen]

/-! ## Null selectors -/

theorem index_of_isNull {selector : BitVec 16} (h : isNull selector = true) :
    index selector = 0 ∧ inLdt selector = false := by
  have hzero : selector &&& 0xFFFC = 0 := by simpa [isNull] using h
  have hbits : ∀ i, 2 ≤ i → selector.getLsbD i = false := by
    intro i hi
    by_cases hlt : i < 16
    · have hbit := congrArg (fun x => BitVec.getLsbD x i) hzero
      interval_cases i <;> simpa using hbit
    · exact BitVec.getLsbD_of_ge selector i (by omega)
  refine ⟨?_, hbits 2 (by omega)⟩
  apply BitVec.eq_of_getLsbD_eq
  intro i hi
  simp [index, getLsbD_take, hbits (3 + i) (by omega)]

/-- The descriptor of a null selector would be the first one of the GDT. -/
theorem Tables.address_of_isNull {t : Tables} {selector : BitVec 16} (h : isNull selector = true) :
    t.address selector = t.gdt := by
  obtain ⟨hindex, hldt⟩ := index_of_isNull h
  rw [Tables.address, hldt, hindex]
  simp

end SegDesc
