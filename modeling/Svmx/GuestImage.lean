/-
The segment registers of the guest that `vmx_vcpu_reset` makes of the processor it runs on.

The guest is the system that runs on the processor already, so what the VMCS gets from the GDT has to
be what the processor holds. `x86_segment_base`, `get_segment_base`, `get_segment_desc`,
`set_segment_by_desc` and the lines of `__vmx_vcpu_reset` and `vmx_vcpu_reset` that call them are from
vmx.c; `vmx_vcpu_reset` is `SegCache`'s, here with what those read. The fields of a segment come to:
its selector and limit, a base that is 0, of its own MSR or of the descriptor, and the access rights
of the descriptor, unusable if that is not present. A null selector reads the first descriptor of the
GDT, so everything hangs on that one: if it is present, the guest gets a usable register from it.
-/
import Svmx.SegDesc
import Svmx.VmxSegment

set_option autoImplicit false

namespace Svmx.GuestImage

open BitFields SegCache SegCache.SegField SegDesc

/-! ## What is read from the processor -/

/-- The processor that `kvm_vcpu_reset` runs on: its descriptor tables, its selectors, the LSL
instruction of `GetSegmentLimit`, and the bases of FS and GS. -/
structure HostCpu where
  quad : BitVec 64 → BitVec 64
  gdt : BitVec 64
  selector : Fin 8 → BitVec 16
  segment_limit : BitVec 16 → BitVec 32
  fs_base : BitVec 64
  gs_base : BitVec 64

/-- `x86_segment_base`, for the descriptor at an address. -/
def x86_segment_base (h : HostCpu) (desc : BitVec 64) : BitVec 64 :=
  let d := h.quad desc
  -- the bit fields are of type `uint64_t`: no shift is one of an `int`
  let base : BitVec 64 := (take 64 56 8 d <<< 24) ||| (take 64 32 8 d <<< 16) ||| take 64 16 16 d
  if take 8 44 1 d = 0#8 ∧ (take 8 40 4 d = SEGMENT_TYPE_TSS_AVAILABLE ∨
      take 8 40 4 d = SEGMENT_TYPE_TSS_BUSY ∨ take 8 40 4 d = SEGMENT_TYPE_LDT) then
    base ||| (((h.quad (desc + 8)).truncate 32).zeroExtend 64 <<< 32)
  else base

/-- The address of the descriptor that `get_segment_base` and `get_segment_desc` read. -/
def desc_address (h : HostCpu) (gdt_base : BitVec 64) (selector : BitVec 16) : BitVec 64 :=
  if take 8 2 1 selector = 1#8 then
    x86_segment_base h (gdt_base + take 64 3 13 (h.selector VCPU_SREG_LDTR) * 8) +
      take 64 3 13 selector * 8
  else gdt_base + take 64 3 13 selector * 8

/-- `get_segment_base`. -/
def get_segment_base (h : HostCpu) (gdt_base : BitVec 64) (selector : BitVec 16) : BitVec 64 :=
  x86_segment_base h (desc_address h gdt_base selector)

/-- `get_segment_desc`. -/
def get_segment_desc (h : HostCpu) (gdt_base : BitVec 64) (selector : BitVec 16) : BitVec 64 :=
  h.quad (desc_address h gdt_base selector)

/-- `set_segment_by_desc`. -/
def set_segment_by_desc (desc : BitVec 64) (var : KvmSegment) : KvmSegment :=
  { var with
    type := take 8 40 4 desc
    s := take 8 44 1 desc
    dpl := take 8 45 2 desc
    present := take 8 47 1 desc
    l := take 8 53 1 desc
    db := take 8 54 1 desc
    g := take 8 55 1 desc
    avl := take 8 52 1 desc }

/-- `struct kvm_segment var = { 0 }`. -/
def zeroSegment : KvmSegment := ⟨0, 0, 0, 0, 0, 0, 0, 0, 0, 0, 0, 0⟩

/-- The four lines before each `vmx_set_segment`. Every field but `unusable` is written anew. -/
def read_segment (h : HostCpu) (seg : Fin 8) : KvmSegment :=
  let selector := h.selector seg
  set_segment_by_desc (get_segment_desc h h.gdt selector)
    { zeroSegment with
      selector := selector
      base := get_segment_base h h.gdt selector
      limit := h.segment_limit selector }

/-- What `vmx_vcpu_reset` reads. -/
def host_segments (h : HostCpu) : HostSegments where
  segment := read_segment h
  cs_selector := h.selector VCPU_SREG_CS
  tr := read_segment h VCPU_SREG_TR
  ldtr := read_segment h VCPU_SREG_LDTR
  fs_base := h.fs_base
  gs_base := h.gs_base

/-- The segment register that VM entry loads from the fields of the VMCS. -/
def guest_segment (fields : SegFields) : SegReg where
  selector := fields SEG_FIELD_SEL
  unusable := (fields SEG_FIELD_AR).getLsbD 16
  base := fields SEG_FIELD_BASE
  limit := fields SEG_FIELD_LIMIT
  rights := (fields SEG_FIELD_AR &&& 0xF0FF).truncate 16

/-! ## The access rights -/

/-- The bits of a place in a word that were taken from another place. -/
theorem getLsbD_put_take {w n off off' len : ℕ} {d : BitVec 64} (hn : len ≤ n) (i : ℕ) :
    (put w off len (take n off' len d)).getLsbD i =
      (decide (i < w) && decide (off ≤ i) && decide (i - off < len) && d.getLsbD (off' + (i - off))) := by
  rw [getLsbD_put, getLsbD_take]
  by_cases hi : i - off < len
  · have hin : i - off < n := by omega
    simp [hi, hin]
  · simp [hi]

/-- **The access rights** are those of the descriptor, unusable if it is not present. -/
theorem access_rights_desc (d : BitVec 64) {var : KvmSegment} (hun : var.unusable = 0) :
    vmx_segment_access_rights (set_segment_by_desc d var) =
      (rights d).zeroExtend 32 ||| (if isPresent d then 0 else 0x10000) := by
  have hunusable : put 32 16 1 (unusableBit (set_segment_by_desc d var)) =
      if isPresent d then 0 else 0x10000 := by
    have hpresent : (set_segment_by_desc d var).present = if isPresent d then 1 else 0 :=
      take_bit_eq_one d 47
    have hnot : ¬ (set_segment_by_desc d var).unusable ≠ 0 := not_not_intro hun
    rw [unusableBit, hpresent]
    cases isPresent d with
    | true => simp only [hnot]; decide
    | false => simp only [hnot]; decide
  rw [access_rights_eq, hunusable]
  refine congrArg (· ||| _) ?_
  apply BitVec.eq_of_getLsbD_eq
  intro i hi
  simp only [set_segment_by_desc, BitVec.getLsbD_or, rights,
    getLsbD_put_take (show 4 ≤ 8 by decide), getLsbD_put_take (show 1 ≤ 8 by decide),
    getLsbD_put_take (show 2 ≤ 8 by decide)]
  interval_cases i <;> simp

/-- The type of a segment that was accessed already is not changed by `vmx_set_segment`. -/
theorem access_rights_accessed (var : KvmSegment) :
    vmx_segment_access_rights { var with type := var.type ||| 0x1 } =
      vmx_segment_access_rights var ||| 1 := by
  have hone : put 32 0 4 (var.type ||| 0x1) = put 32 0 4 var.type ||| 1 := by
    apply BitVec.eq_of_getLsbD_eq
    intro i hi
    rw [getLsbD_put, BitVec.getLsbD_or, BitVec.getLsbD_or, getLsbD_put]
    interval_cases i <;> simp
  have hun : unusableBit { var with type := var.type ||| 0x1 } = unusableBit var := rfl
  rw [access_rights_eq, access_rights_eq, hone, hun]
  simp only [BitVec.or_assoc, BitVec.or_comm _ (1 : BitVec 32)]

/-! ## The fields after a reset -/

/-- The fields that `vmx_set_segment` writes outside virtual-8086 mode. -/
def setFields (cfg : Config) (seg : Fin 8) (var : KvmSegment) : SegFields
  | SEG_FIELD_SEL => var.selector
  | SEG_FIELD_BASE => var.base
  | SEG_FIELD_LIMIT => var.limit
  | SEG_FIELD_AR => vmx_segment_access_rights
      (if cfg.is_unrestricted_guest ∧ seg ≠ VCPU_SREG_LDTR then { var with type := var.type ||| 0x1 }
        else var)

/-- The base is in a field of its own. -/
theorem setFields_base (cfg : Config) (seg : Fin 8) (var : KvmSegment) (x : BitVec 64) :
    setFields cfg seg { var with base := x } =
      Function.update (setFields cfg seg var) SEG_FIELD_BASE x := by
  funext field
  cases field with
  | SEG_FIELD_SEL => rfl
  | SEG_FIELD_BASE => rfl
  | SEG_FIELD_LIMIT => rfl
  | SEG_FIELD_AR =>
    rw [Function.update_of_ne (by decide), setFields, setFields]
    split <;> rfl

section Fields

variable {cfg : Config} {v : VcpuVmx}

theorem vmcs_write_vmcs (seg : Fin 8) (field : SegField) (value : BitVec field.width)
    (v : VcpuVmx) : (vmcs_write seg field value v).vmcs =
      Function.update v.vmcs seg (Function.update (v.vmcs seg) field value) := rfl

/-- **One segment** outside virtual-8086 mode. -/
theorem vmx_set_segment_fields (hoff : v.vm86_active = false) (var : KvmSegment) (seg : Fin 8) :
    (vmx_set_segment cfg var seg v).vmcs = Function.update v.vmcs seg (setFields cfg seg var) ∧
      (vmx_set_segment cfg var seg v).vm86_active = false := by
  refine ⟨?_, (vmx_set_segment_empty cfg var seg v).2.trans hoff⟩
  have hnot : ¬ ((vmx_segment_cache_clear v).vm86_active = true ∧ seg ≠ VCPU_SREG_LDTR) := by
    rintro ⟨hon, -⟩
    rw [vmx_segment_cache_clear, hoff] at hon
    cases hon
  unfold vmx_set_segment
  dsimp only
  rw [if_neg hnot]
  simp only [vmcs_write_vmcs, Function.update_idem, Function.update_self]
  apply congrArg (Function.update v.vmcs seg)
  funext field
  cases field with
  | SEG_FIELD_AR => simp [setFields]
  | SEG_FIELD_SEL => simp [setFields]
  | SEG_FIELD_BASE => simp [setFields]
  | SEG_FIELD_LIMIT => simp [setFields]

/-- Setting segments one after another. -/
theorem foldl_set_segment (segment : Fin 8 → KvmSegment) (segs : List (Fin 8))
    (hoff : v.vm86_active = false) (seg : Fin 8) :
    (segs.foldl (fun v seg => vmx_set_segment cfg (segment seg) seg v) v).vmcs seg =
        (if seg ∈ segs then setFields cfg seg (segment seg) else v.vmcs seg) ∧
      (segs.foldl (fun v seg => vmx_set_segment cfg (segment seg) seg v) v).vm86_active = false := by
  induction segs generalizing v with
  | nil => exact ⟨rfl, hoff⟩
  | cons s segs ih =>
    obtain ⟨hset, hoff'⟩ := vmx_set_segment_fields hoff (segment s) s
    obtain ⟨hrest, hoff''⟩ := ih hoff'
    refine ⟨?_, hoff''⟩
    rw [List.foldl_cons, hrest, hset]
    by_cases hs : seg = s
    · subst hs
      simp
    · simp [hs]

/-- The segments are those of the processor, with other bases. -/
def HasBases (cfg : Config) (h : HostCpu) (base : Fin 8 → BitVec 64) (v : VcpuVmx) : Prop :=
  ∀ seg, v.vmcs seg = setFields cfg seg { read_segment h seg with base := base seg }

variable {h : HostCpu} {base : Fin 8 → BitVec 64}

/-- A base is written by itself. -/
theorem HasBases.write_base (hv : HasBases cfg h base v) (seg : Fin 8) (x : BitVec 64) :
    HasBases cfg h (Function.update base seg x) (vmcs_write seg SEG_FIELD_BASE x v) := by
  intro s
  by_cases hs : s = seg
  · subst hs
    rw [vmcs_write_vmcs, Function.update_self, Function.update_self, hv,
      setFields_base cfg s _ (base s), setFields_base cfg s _ x, Function.update_idem]
  · rw [vmcs_write_vmcs, Function.update_of_ne hs, Function.update_of_ne hs]
    exact hv s

/-- The selector is written again. -/
theorem HasBases.write_selector (hv : HasBases cfg h base v) (seg : Fin 8) :
    HasBases cfg h base (vmcs_write seg SEG_FIELD_SEL (h.selector seg) v) := by
  intro s
  by_cases hs : s = seg
  · subst hs
    rw [vmcs_write_vmcs, Function.update_self, hv]
    exact Function.update_eq_self SEG_FIELD_SEL _
  · rw [vmcs_write_vmcs, Function.update_of_ne hs]
    exact hv s

/-- The segment is set again. -/
theorem HasBases.set_segment (hv : HasBases cfg h base v) (hoff : v.vm86_active = false)
    (seg : Fin 8) : HasBases cfg h (Function.update base seg (read_segment h seg).base)
      (vmx_set_segment cfg (read_segment h seg) seg v) := by
  intro s
  rw [(vmx_set_segment_fields hoff (read_segment h seg) seg).1]
  by_cases hs : s = seg
  · subst hs
    rw [Function.update_self, Function.update_self]
  · rw [Function.update_of_ne hs, Function.update_of_ne hs]
    exact hv s

/-- What the base of a register is after a reset. -/
def reset_base (h : HostCpu) (seg : Fin 8) : BitVec 64 :=
  if seg = VCPU_SREG_FS then h.fs_base
  else if seg = VCPU_SREG_GS then h.gs_base
  else if seg = VCPU_SREG_TR ∨ seg = VCPU_SREG_LDTR then get_segment_base h h.gdt (h.selector seg)
  else 0

/-- **The fields after `vmx_vcpu_reset`**: the segments of the processor with other bases. -/
theorem vmx_vcpu_reset_fields (h : HostCpu) (hoff : v.vm86_active = false) :
    HasBases cfg h (reset_base h) (vmx_vcpu_reset cfg (host_segments h) false v) := by
  have hall : HasBases cfg h (fun s => (read_segment h s).base)
      (reset_order.foldl (fun v s => vmx_set_segment cfg (read_segment h s) s v) v) := by
    intro s
    have hmem : s ∈ reset_order := by revert s; decide
    rw [(foldl_set_segment (read_segment h) reset_order hoff s).1, if_pos hmem]
  have hinit := ((hall.write_base VCPU_SREG_ES 0).write_base VCPU_SREG_SS 0).write_base VCPU_SREG_DS 0
  have hmode : HasBases cfg h _ { init_vmcs (reset_order.foldl
      (fun v s => vmx_set_segment cfg (read_segment h s) s v) v) with vm86_active := false } := hinit
  have hcs := (hmode.write_selector VCPU_SREG_CS).write_base VCPU_SREG_CS 0
  have htr := hcs.set_segment rfl VCPU_SREG_TR
  have hldtr := htr.set_segment (vmx_set_segment_empty _ _ _ _).2 VCPU_SREG_LDTR
  have hlast := (hldtr.write_base VCPU_SREG_FS h.fs_base).write_base VCPU_SREG_GS h.gs_base
  intro s
  refine (hlast s).trans ?_
  have hs : s = VCPU_SREG_ES ∨ s = VCPU_SREG_CS ∨ s = VCPU_SREG_SS ∨ s = VCPU_SREG_DS ∨
      s = VCPU_SREG_FS ∨ s = VCPU_SREG_GS ∨ s = VCPU_SREG_TR ∨ s = VCPU_SREG_LDTR := by
    revert s
    decide
  rcases hs with rfl | rfl | rfl | rfl | rfl | rfl | rfl | rfl <;> rfl

end Fields

/-! ## The guest's segment registers -/

/-- The processor's tables. -/
def host_tables (h : HostCpu) : Tables := ⟨h.quad, h.gdt, h.selector VCPU_SREG_LDTR⟩

def kind (h : HostCpu) (seg : Fin 8) : Kind :=
  if seg = VCPU_SREG_FS then .msr h.fs_base
  else if seg = VCPU_SREG_GS then .msr h.gs_base
  else if seg = VCPU_SREG_TR ∨ seg = VCPU_SREG_LDTR then .system
  else .flat

/-- The segment register of the processor itself. -/
def host_segment (h : HostCpu) (seg : Fin 8) : SegReg :=
  (host_tables h).held (kind h seg) (h.selector seg)

/-- A processor in 64-bit mode that has loaded its segment registers from the tables; LSL gives the
limit of a descriptor. -/
structure InLongMode (h : HostCpu) : Prop where
  loads : ∀ seg, (host_tables h).Loads (kind h seg) (h.selector seg)
  tr : isNull (h.selector VCPU_SREG_TR) = false ∧
    type (h.quad ((host_tables h).address (h.selector VCPU_SREG_TR))) = SEGMENT_TYPE_TSS_BUSY
  ldtr : isNull (h.selector VCPU_SREG_LDTR) = false →
    type (h.quad ((host_tables h).address (h.selector VCPU_SREG_LDTR))) = SEGMENT_TYPE_LDT
  in_ldt : ∀ seg, inLdt (h.selector seg) = true → isNull (h.selector VCPU_SREG_LDTR) = false
  lsl : ∀ seg, isNull (h.selector seg) = false → h.segment_limit (h.selector seg) =
    limit (h.quad ((host_tables h).address (h.selector seg)))

section Segments

variable {h : HostCpu} {cfg : Config} {v : VcpuVmx}

/-- The base of a system descriptor is 64 bits wide. -/
theorem x86_segment_base_system {a : BitVec 64} (hmem : isMemory (h.quad a) = false)
    (htype : type (h.quad a) = SEGMENT_TYPE_TSS_BUSY ∨ type (h.quad a) = SEGMENT_TYPE_LDT) :
    x86_segment_base h a = (host_tables h).base64 a := by
  have hlow : (take 64 56 8 (h.quad a) <<< 24) ||| (take 64 32 8 (h.quad a) <<< 16) |||
      take 64 16 16 (h.quad a) = base32 (h.quad a) := by
    have hsplit : ((take 64 (16 + 16) 8 (h.quad a) : BitVec 64) <<< 16) |||
        take 64 16 16 (h.quad a) = take 64 16 (16 + 8) (h.quad a) := take_split _ (by omega)
    rw [base32, ← hsplit, BitVec.or_assoc, BitVec.or_comm]
  have hs : (take 8 44 1 (h.quad a) : BitVec 8) = 0 := by
    rw [take_bit_eq_one, show (h.quad a).getLsbD 44 = false from hmem]
    rfl
  have hcond : (take 8 44 1 (h.quad a) : BitVec 8) = 0#8 ∧
      (take 8 40 4 (h.quad a) = SEGMENT_TYPE_TSS_AVAILABLE ∨
        take 8 40 4 (h.quad a) = SEGMENT_TYPE_TSS_BUSY ∨
        take 8 40 4 (h.quad a) = SEGMENT_TYPE_LDT) := ⟨hs, Or.inr htype⟩
  unfold x86_segment_base
  dsimp only
  rw [if_pos hcond, hlow]
  rfl

theorem inLdt_iff (selector : BitVec 16) :
    (take 8 2 1 selector : BitVec 8) = 1#8 ↔ inLdt selector = true := by
  rw [take_bit_eq_one, inLdt]
  cases selector.getLsbD 2 with
  | true => exact iff_of_true rfl rfl
  | false => exact iff_of_false (by decide) Bool.false_ne_true

/-- **Where the code finds a descriptor** is where the processor does. -/
theorem desc_address_eq (hl : InLongMode h) (seg : Fin 8) :
    desc_address h h.gdt (h.selector seg) = (host_tables h).address (h.selector seg) := by
  unfold desc_address Tables.address
  by_cases hin : inLdt (h.selector seg) = true
  · -- the LDT is there, and its descriptor is a wide one in the GDT
    have hldtr := hl.in_ldt seg hin
    obtain ⟨hgdt, hmem⟩ := (hl.loads VCPU_SREG_LDTR).system hldtr rfl
    have haddr : (host_tables h).address (h.selector VCPU_SREG_LDTR) =
        h.gdt + index (h.selector VCPU_SREG_LDTR) * 8 := by
      rw [Tables.address, hgdt]
      rfl
    have htype := hl.ldtr hldtr
    rw [haddr] at htype hmem
    rw [if_pos ((inLdt_iff _).mpr hin), if_pos hin]
    exact congrArg (· + _) (x86_segment_base_system hmem (Or.inr htype))
  · rw [if_neg (mt (inLdt_iff _).mp hin), if_neg hin]
    rfl

theorem get_segment_base_system (hl : InLongMode h) {seg : Fin 8}
    (hseg : seg = VCPU_SREG_TR ∨ seg = VCPU_SREG_LDTR) (hnull : isNull (h.selector seg) = false) :
    get_segment_base h h.gdt (h.selector seg) =
      (host_tables h).base64 ((host_tables h).address (h.selector seg)) := by
  have hkind : kind h seg = .system := by rcases hseg with rfl | rfl <;> rfl
  obtain ⟨-, hmem⟩ := (hl.loads seg).system hnull hkind
  rw [get_segment_base, desc_address_eq hl]
  refine x86_segment_base_system hmem ?_
  rcases hseg with rfl | rfl
  · exact Or.inl hl.tr.2
  · exact Or.inr (hl.ldtr hnull)

/-- The accessed bit, where `vmx_set_segment` sets it. -/
def forced_accessed (cfg : Config) (seg : Fin 8) : BitVec 32 :=
  if cfg.is_unrestricted_guest ∧ seg ≠ VCPU_SREG_LDTR then 1#32 else 0#32

/-- The access rights that a reset leaves in the VMCS. -/
theorem setFields_rights (cfg : Config) (seg : Fin 8) (d : BitVec 64) {var : KvmSegment}
    (hun : var.unusable = 0) : setFields cfg seg (set_segment_by_desc d var) SEG_FIELD_AR =
      (rights d).zeroExtend 32 ||| (if isPresent d then 0#32 else 0x10000#32) |||
        forced_accessed cfg seg := by
  unfold setFields forced_accessed
  dsimp only
  split
  · rw [access_rights_accessed, access_rights_desc d hun]
    rfl
  · rw [access_rights_desc d hun, BitVec.or_zero]
    rfl

/-- The segment is unusable if the descriptor is not present. -/
theorem setFields_unusable (cfg : Config) (seg : Fin 8) (d : BitVec 64) {var : KvmSegment}
    (hun : var.unusable = 0) :
    (setFields cfg seg (set_segment_by_desc d var) SEG_FIELD_AR).getLsbD 16 = !isPresent d := by
  have hlow : ((rights d).zeroExtend 32).getLsbD 16 = false := by simp
  have hforced : (forced_accessed cfg seg).getLsbD 16 = false := by
    unfold forced_accessed
    split <;> rfl
  rw [setFields_rights cfg seg d hun, BitVec.getLsbD_or, BitVec.getLsbD_or, hlow, hforced,
    Bool.false_or, Bool.or_false]
  cases isPresent d with
  | true => rfl
  | false => rfl

/-- The rights of a present segment that was accessed are those of the descriptor. -/
theorem setFields_present (cfg : Config) (seg : Fin 8) {d : BitVec 64} {var : KvmSegment}
    (hun : var.unusable = 0) (hpresent : isPresent d = true)
    (haccessed : isAccessed d = true ∨ seg = VCPU_SREG_LDTR) :
    ((setFields cfg seg (set_segment_by_desc d var) SEG_FIELD_AR &&& 0xF0FF).truncate 16 : BitVec 16) =
      rights d := by
  have hforced : ∀ i, (forced_accessed cfg seg).getLsbD i = true → i = 0 ∧ isAccessed d = true := by
    intro i hi
    unfold forced_accessed at hi
    split at hi
    next hset =>
      have hzero : i = 0 := by
        rw [BitVec.getLsbD_one] at hi
        simpa using hi
      exact ⟨hzero, haccessed.resolve_right hset.2⟩
    next => simp at hi
  rw [setFields_rights cfg seg d hun, if_pos hpresent, BitVec.or_zero]
  apply BitVec.eq_of_getLsbD_eq
  intro i hi
  have hmask : (rights d).getLsbD i = ((0xF0FF : BitVec 16).getLsbD i && d.getLsbD (40 + i)) := by
    rw [rights, BitVec.truncate_eq_setWidth, BitVec.getLsbD_setWidth, BitVec.getLsbD_and,
      BitVec.getLsbD_ushiftRight]
    interval_cases i <;> simp
  have hword : ((0xF0FF : BitVec 32).getLsbD i) = (0xF0FF : BitVec 16).getLsbD i := by
    interval_cases i <;> rfl
  have hi' : i < 32 := by omega
  have hbits : (((rights d).zeroExtend 32 ||| forced_accessed cfg seg) &&& 0xF0FF).getLsbD i =
      (((rights d).getLsbD i || (forced_accessed cfg seg).getLsbD i) &&
        (0xF0FF : BitVec 16).getLsbD i) := by
    rw [BitVec.getLsbD_and, BitVec.getLsbD_or, hword, BitVec.getLsbD_setWidth]
    simp [hi']
  refine (BitVec.getLsbD_setWidth 16 _ i).trans ?_
  rw [decide_eq_true hi, Bool.true_and]
  refine hbits.trans ?_
  cases hone : (forced_accessed cfg seg).getLsbD i with
  | true =>
    obtain ⟨rfl, hacc⟩ := hforced i hone
    have hbit : d.getLsbD (40 + 0) = true := hacc
    rw [hmask, hbit]
    rfl
  | false =>
    rw [hmask]
    cases (0xF0FF : BitVec 16).getLsbD i <;> simp

/-- The segment register that the guest starts with after a reset. -/
def reset_segment (cfg : Config) (h : HostCpu) (v : VcpuVmx) (seg : Fin 8) : SegReg :=
  guest_segment ((vmx_vcpu_reset cfg (host_segments h) false v).vmcs seg)

/-- What `vmx_set_segment` was given last for a segment, with the base that is left. -/
def reset_var (h : HostCpu) (seg : Fin 8) : KvmSegment :=
  { zeroSegment with
    selector := h.selector seg
    base := reset_base h seg
    limit := h.segment_limit (h.selector seg) }

theorem reset_segment_eq (h : HostCpu) (hoff : v.vm86_active = false) (seg : Fin 8) :
    reset_segment cfg h v seg = guest_segment (setFields cfg seg
      (set_segment_by_desc (get_segment_desc h h.gdt (h.selector seg)) (reset_var h seg))) :=
  congrArg guest_segment (vmx_vcpu_reset_fields h hoff seg)

/-- A register that was loaded: what the guest gets is what the processor holds. -/
theorem reset_segment_of_loaded (hl : InLongMode h) (hoff : v.vm86_active = false) {seg : Fin 8}
    (hnull : isNull (h.selector seg) = false) :
    reset_segment cfg h v seg = host_segment h seg := by
  have hdesc : get_segment_desc h h.gdt (h.selector seg) =
      h.quad ((host_tables h).address (h.selector seg)) :=
    congrArg h.quad (desc_address_eq hl seg)
  have hun : (reset_var h seg).unusable = 0 := rfl
  have hpresent := (hl.loads seg).present hnull
  have haccessed : isAccessed (h.quad ((host_tables h).address (h.selector seg))) = true ∨
      seg = VCPU_SREG_LDTR := by
    by_cases hkind : kind h seg = .system
    · -- of the two system segments the type of TR has the bit
      by_cases hldtr : seg = VCPU_SREG_LDTR
      · exact Or.inr hldtr
      · have htr : seg = VCPU_SREG_TR := by
          unfold kind at hkind
          split at hkind
          · cases hkind
          · split at hkind
            · cases hkind
            · split at hkind
              next hor => exact hor.resolve_right hldtr
              next => cases hkind
        subst htr
        have hbit := congrArg (BitVec.getLsbD · 0) hl.tr.2
        rw [type, getLsbD_take] at hbit
        exact Or.inl hbit
    · exact Or.inl ((hl.loads seg).accessed hnull hkind)
  have hbase : reset_base h seg = (host_segment h seg).base := by
    unfold reset_base host_segment Tables.held kind
    dsimp only
    split
    · rfl
    · split
      · rfl
      · split
        next hor => exact get_segment_base_system hl hor hnull
        next => rfl
  rw [reset_segment_eq h hoff, hdesc, SegReg.mk.injEq]
  refine ⟨rfl, ?_, hbase, hl.lsl seg hnull, setFields_present cfg seg hun hpresent haccessed⟩
  exact (setFields_unusable cfg seg _ hun).trans ((congrArg not hpresent).trans hnull.symm)

/-- A register with a null selector: the guest gets the first descriptor of the GDT. -/
theorem reset_segment_of_null (hl : InLongMode h) (hoff : v.vm86_active = false) {seg : Fin 8}
    (hnull : isNull (h.selector seg) = true) :
    (reset_segment cfg h v seg).unusable = !isPresent (h.quad h.gdt) := by
  have hdesc : get_segment_desc h h.gdt (h.selector seg) = h.quad h.gdt := by
    rw [get_segment_desc, desc_address_eq hl, Tables.address_of_isNull hnull]
    rfl
  rw [reset_segment_eq h hoff, hdesc]
  exact setFields_unusable cfg seg _ rfl

/-- **The guest's segments after a reset**: software can tell none of them from those of the processor
that the reset ran on, just when no selector is null or the first descriptor of the GDT is not
present. -/
theorem reset_segments_alike (cfg : Config) (hl : InLongMode h) (hoff : v.vm86_active = false) :
    (∀ seg, Alike (kind h seg) (reset_segment cfg h v seg) (host_segment h seg)) ↔
      ((∃ seg, isNull (h.selector seg) = true) → isPresent (h.quad h.gdt) = false) := by
  constructor
  · rintro halike ⟨seg, hnull⟩
    have hsame := (halike seg).unusable
    rw [reset_segment_of_null hl hoff hnull] at hsame
    have hhost : (host_segment h seg).unusable = true := hnull
    rw [hhost] at hsame
    simpa using hsame
  · intro hfirst seg
    cases hnull : isNull (h.selector seg) with
    | false =>
      rw [reset_segment_of_loaded hl hoff hnull]
      exact ⟨rfl, rfl, fun _ _ => rfl, fun _ => rfl⟩
    | true =>
      have hhost : (host_segment h seg).unusable = true := hnull
      refine ⟨?_, ?_, ?_, ?_⟩
      · rw [reset_segment_eq h hoff]
        rfl
      · rw [reset_segment_of_null hl hoff hnull, hfirst ⟨seg, hnull⟩]
        exact hhost.symm
      · -- only FS and GS keep a base
        intro base hbase
        rw [reset_segment_eq h hoff]
        change reset_base h seg = _
        unfold reset_base host_segment Tables.held kind
        unfold kind at hbase
        dsimp only
        split at hbase
        next hfs => rw [if_pos hfs, if_pos hfs]
        next hfs =>
          rw [if_neg hfs, if_neg hfs]
          split at hbase
          next hgs => rw [if_pos hgs, if_pos hgs]
          next => split at hbase <;> cases hbase
      · intro husable
        rw [hhost] at husable
        cases husable

end Segments

/-- A processor with a flat kernel: CS and SS of ring 0, the others of ring 3, and no LDT. -/
def flat_host : HostCpu where
  quad := fun address =>
    if address = 0x1010 then 0x00209B0000000000
    else if address = 0x1018 then 0x0040930000000000
    else if address = 0x1028 then 0x00CFF3000000FFFF
    else if address = 0x1040 then 0x00008B5E20000067
    else if address = 0x1048 then 0xFFFFF807
    else if address = 0x1050 then 0x0040F30000003C00
    else 0
  gdt := 0x1000
  selector := fun seg =>
    if seg = VCPU_SREG_CS then 0x10
    else if seg = VCPU_SREG_SS then 0x18
    else if seg = VCPU_SREG_TR then 0x40
    else if seg = VCPU_SREG_LDTR then 0
    else if seg = VCPU_SREG_FS then 0x53
    else 0x2B
  segment_limit := fun selector =>
    if selector = 0x40 then 0x67
    else if selector = 0x53 then 0x3C00
    else if selector = 0x2B then 0xFFFFFFFF
    else 0
  fs_base := 0
  gs_base := 0xFFFFF80765432000

theorem flat_host_loads : ∀ seg, isNull (flat_host.selector seg) = false →
    isPresent (flat_host.quad ((host_tables flat_host).address (flat_host.selector seg))) = true ∧
    isAccessed (flat_host.quad ((host_tables flat_host).address (flat_host.selector seg))) = true ∧
    inLdt (flat_host.selector seg) = false ∧
    (kind flat_host seg = .system → isMemory (flat_host.quad
      ((host_tables flat_host).address (flat_host.selector seg))) = false) ∧
    flat_host.segment_limit (flat_host.selector seg) =
      limit (flat_host.quad ((host_tables flat_host).address (flat_host.selector seg))) := by decide

theorem flat_host_in_long_mode : InLongMode flat_host where
  loads seg :=
    { present := fun h => (flat_host_loads seg h).1
      accessed := fun h _ => (flat_host_loads seg h).2.1
      system := fun h hkind => ⟨(flat_host_loads seg h).2.2.1, (flat_host_loads seg h).2.2.2.1 hkind⟩ }
  tr := by decide
  ldtr := by decide
  in_ldt := by decide
  lsl seg h := (flat_host_loads seg h).2.2.2.2

/-- Its LDTR is null, and so is the first descriptor of its GDT. -/
theorem flat_host_alike : isNull (flat_host.selector VCPU_SREG_LDTR) = true ∧
    ∀ seg, Alike (kind flat_host seg) (reset_segment plainConfig flat_host zeroVcpu seg)
      (host_segment flat_host seg) :=
  ⟨by decide, (reset_segments_alike plainConfig flat_host_in_long_mode rfl).mpr fun _ => by decide⟩

end Svmx.GuestImage
