/-
The guest's CR0 (`kvm_set_cr0`, `vmx_set_cr0`, `kvm_read_cr0`, `vmx_cache_reg`).

The value is spread over two VMCS fields: the guest sees GUEST_CR0 in the bits it owns and
CR0_READ_SHADOW in the others. `arch.cr0` caches it; an exit marks the cache as not available, and
the next read takes the owned bits from GUEST_CR0 again. The guest owns TS and, with EPT, WP; but
`KVM_VM_CR0_ALWAYS_ON` forces both in GUEST_CR0. So the guest sees what was set, and after an exit
`kvm_read_cr0` returns it, exactly when the owned bits were set (`guest_cr0_exact`).

`enter_pmode`, `enter_rmode` and `enter_lmode` are empty in the source.
-/
import Mathlib.Data.Int.Notation
import Mathlib.Tactic.Common
import Svmx.Blend
import Svmx.Transition

set_option autoImplicit false

namespace Svmx.Cr0

/-! ## The bits -/

def X86_CR0_PE : BitVec 64 := 1 <<< 0
def X86_CR0_MP : BitVec 64 := 1 <<< 1
def X86_CR0_EM : BitVec 64 := 1 <<< 2
def X86_CR0_TS : BitVec 64 := 1 <<< 3
def X86_CR0_ET : BitVec 64 := 1 <<< 4
def X86_CR0_NE : BitVec 64 := 1 <<< 5
def X86_CR0_WP : BitVec 64 := 1 <<< 16
def X86_CR0_AM : BitVec 64 := 1 <<< 18
def X86_CR0_NW : BitVec 64 := 1 <<< 29
def X86_CR0_CD : BitVec 64 := 1 <<< 30
def X86_CR0_PG : BitVec 64 := 1 <<< 31

/-- The complement of `CR0_RESERVED_BITS`, which is a 32-bit constant. -/
def CR0_VALID_BITS : BitVec 64 :=
  X86_CR0_PE ||| X86_CR0_MP ||| X86_CR0_EM ||| X86_CR0_TS ||| X86_CR0_ET ||| X86_CR0_NE |||
    X86_CR0_WP ||| X86_CR0_AM ||| X86_CR0_NW ||| X86_CR0_CD ||| X86_CR0_PG

def KVM_POSSIBLE_CR0_GUEST_BITS : BitVec 64 := X86_CR0_TS ||| X86_CR0_WP

def KVM_VM_CR0_ALWAYS_OFF : BitVec 64 := X86_CR0_NW ||| X86_CR0_CD

def KVM_VM_CR0_ALWAYS_ON_UNRESTRICTED_GUEST : BitVec 64 :=
  X86_CR0_WP ||| X86_CR0_NE ||| X86_CR0_TS ||| X86_CR0_MP

def KVM_VM_CR0_ALWAYS_ON : BitVec 64 :=
  KVM_VM_CR0_ALWAYS_ON_UNRESTRICTED_GUEST ||| X86_CR0_PG ||| X86_CR0_PE

/-! ## The vCPU -/

/-- The registers that are cached on demand. -/
inductive KvmReg where
  | VCPU_REGS_RSP
  | VCPU_REGS_RIP
  | VCPU_EXREG_PDPTR
  | VCPU_EXREG_CR0
  | VCPU_EXREG_CR3
  | VCPU_EXREG_CR4
  | VCPU_EXREG_RFLAGS
  | VCPU_EXREG_SEGMENTS
  | VCPU_EXREG_EXIT_INFO_1
  | VCPU_EXREG_EXIT_INFO_2
deriving DecidableEq

open KvmReg

/-- What CR0 is kept in: the cache in `vcpu->arch`, and the fields of the VMCS. `regs_avail` is the
word of the source as a predicate on its bits; every register of `KvmReg` is in
`VMX_REGS_LAZY_LOAD_SET`. -/
structure Vcpu where
  cr0 : BitVec 64
  regs_avail : KvmReg → Bool
  cr0_guest_owned_bits : BitVec 64
  GUEST_CR0 : BitVec 64
  CR0_READ_SHADOW : BitVec 64
  CR0_GUEST_HOST_MASK : BitVec 64

/-- What the functions of this module ask of the module parameters and of the rest of the vCPU. -/
structure Config where
  enable_ept : Bool
  is_unrestricted_guest : Bool
  is_64_bit_mode : Bool
  cr4_pcide : Bool

/-- `kvm_register_mark_available`. -/
def kvm_register_mark_available (reg : KvmReg) (vcpu : Vcpu) : Vcpu :=
  { vcpu with regs_avail := Function.update vcpu.regs_avail reg true }

/-- `vmx_cache_reg`, as far as CR0 depends on it. -/
def vmx_cache_reg (reg : KvmReg) (vcpu : Vcpu) : Vcpu :=
  let vcpu := kvm_register_mark_available reg vcpu
  if reg = VCPU_EXREG_CR0 then
    let guest_owned_bits := vcpu.cr0_guest_owned_bits
    { vcpu with
      cr0 := (vcpu.cr0 &&& ~~~guest_owned_bits) ||| (vcpu.GUEST_CR0 &&& guest_owned_bits) }
  else vcpu

/-- `kvm_read_cr0_bits`: the bits, and the vCPU with its cache refreshed where they need it. -/
def kvm_read_cr0_bits (mask : BitVec 64) (vcpu : Vcpu) : BitVec 64 × Vcpu :=
  let tmask := mask &&& KVM_POSSIBLE_CR0_GUEST_BITS
  let vcpu := if tmask &&& vcpu.cr0_guest_owned_bits ≠ 0 ∧ vcpu.regs_avail VCPU_EXREG_CR0 = false
    then vmx_cache_reg VCPU_EXREG_CR0 vcpu else vcpu
  (vcpu.cr0 &&& mask, vcpu)

/-- `kvm_read_cr0`. -/
def kvm_read_cr0 (vcpu : Vcpu) : BitVec 64 × Vcpu := kvm_read_cr0_bits (BitVec.allOnes 64) vcpu

/-- `vmx_l1_guest_owned_cr0_bits`. -/
def vmx_l1_guest_owned_cr0_bits (cfg : Config) : BitVec 64 :=
  if !cfg.enable_ept then KVM_POSSIBLE_CR0_GUEST_BITS &&& ~~~X86_CR0_WP
  else KVM_POSSIBLE_CR0_GUEST_BITS

/-- `init_vmcs`: the ownership of the CR0 bits. -/
def init_vmcs (cfg : Config) (vcpu : Vcpu) : Vcpu :=
  { vcpu with
    cr0_guest_owned_bits := vmx_l1_guest_owned_cr0_bits cfg
    CR0_GUEST_HOST_MASK := ~~~vmx_l1_guest_owned_cr0_bits cfg }

/-- The value of GUEST_CR0 for a CR0. -/
def hw_cr0 (cfg : Config) (cr0 : BitVec 64) : BitVec 64 :=
  let hw_cr0 := cr0 &&& ~~~KVM_VM_CR0_ALWAYS_OFF
  if cfg.is_unrestricted_guest then hw_cr0 ||| KVM_VM_CR0_ALWAYS_ON_UNRESTRICTED_GUEST
  else
    let hw_cr0 := hw_cr0 ||| KVM_VM_CR0_ALWAYS_ON
    if !cfg.enable_ept then hw_cr0 ||| X86_CR0_WP else hw_cr0

/-- `vmx_set_cr0`. -/
def vmx_set_cr0 (cfg : Config) (cr0 : BitVec 64) (vcpu : Vcpu) : Vcpu :=
  let (_, vcpu) := kvm_read_cr0_bits X86_CR0_PG vcpu
  kvm_register_mark_available VCPU_EXREG_CR0
    { vcpu with CR0_READ_SHADOW := cr0, GUEST_CR0 := hw_cr0 cfg cr0, cr0 := cr0 }

/-- The value that `kvm_set_cr0` passes on. -/
def passed_cr0 (cr0 : BitVec 64) : BitVec 64 := (cr0 ||| X86_CR0_ET) &&& CR0_VALID_BITS

/-- `kvm_set_cr0`. -/
def kvm_set_cr0 (cfg : Config) (cr0 : BitVec 64) (vcpu : Vcpu) : ℤ × Vcpu :=
  if (cr0 ||| X86_CR0_ET) &&& 0xffffffff00000000 ≠ 0 then (1, vcpu)
  else
    let cr0 := passed_cr0 cr0
    if cr0 &&& X86_CR0_NW ≠ 0 ∧ cr0 &&& X86_CR0_CD = 0 then (1, vcpu)
    else if cr0 &&& X86_CR0_PG ≠ 0 ∧ cr0 &&& X86_CR0_PE = 0 then (1, vcpu)
    else if cr0 &&& X86_CR0_PG = 0 ∧ (cfg.is_64_bit_mode || cfg.cr4_pcide) then (1, vcpu)
    else (0, vmx_set_cr0 cfg cr0 vcpu)

/-- `vmx_vcpu_run` around an entry during which the guest does not write CR0, so that the exit
saves GUEST_CR0 as it was. With `emulation_required` the guest is not entered. -/
def vmx_vcpu_run (emulation_required : Bool) (vcpu : Vcpu) : Vcpu :=
  if emulation_required then
    kvm_register_mark_available VCPU_EXREG_EXIT_INFO_2
      (kvm_register_mark_available VCPU_EXREG_EXIT_INFO_1 vcpu)
  else { vcpu with regs_avail := fun _ => false }

/-! ## Runs -/

/-- What may happen while the guest does not write CR0: an entry and exit, a register is cached, or
CR0 is read. -/
inductive Event where
  | run (emulation_required : Bool)
  | cache (reg : KvmReg)
  | read (mask : BitVec 64)

/-- One event. -/
def event (vcpu : Vcpu) : Event → Vcpu
  | .run emulation_required => vmx_vcpu_run emulation_required vcpu
  | .cache reg => vmx_cache_reg reg vcpu
  | .read mask => (kvm_read_cr0_bits mask vcpu).2

/-- The runs from a given vCPU on. -/
def cr0System (vcpu : Vcpu) : Transition.System Vcpu Event where
  init s := s = vcpu
  step s e s' := s' = event s e

/-- What the guest reads from CR0. -/
def guest_cr0 (vcpu : Vcpu) : BitVec 64 :=
  (vcpu.GUEST_CR0 &&& ~~~vcpu.CR0_GUEST_HOST_MASK) |||
    (vcpu.CR0_READ_SHADOW &&& vcpu.CR0_GUEST_HOST_MASK)

/-- The guest sees the value, and so does the host. -/
def ShowsCr0 (value : BitVec 64) (vcpu : Vcpu) : Prop :=
  guest_cr0 vcpu = value ∧ (kvm_read_cr0 vcpu).1 = value

/-! ## The ownership -/

/-- Every bit the guest may own is one that is forced. -/
theorem owned_forced (cfg : Config) :
    vmx_l1_guest_owned_cr0_bits cfg &&& KVM_VM_CR0_ALWAYS_ON_UNRESTRICTED_GUEST =
      vmx_l1_guest_owned_cr0_bits cfg := by
  unfold vmx_l1_guest_owned_cr0_bits
  cases cfg.enable_ept <;> decide

/-- In GUEST_CR0 the owned bits are set, whatever the value. -/
theorem hw_cr0_owned (cfg : Config) (cr0 : BitVec 64) :
    hw_cr0 cfg cr0 &&& vmx_l1_guest_owned_cr0_bits cfg = vmx_l1_guest_owned_cr0_bits cfg := by
  have hon : vmx_l1_guest_owned_cr0_bits cfg &&& KVM_VM_CR0_ALWAYS_ON =
      vmx_l1_guest_owned_cr0_bits cfg := by
    unfold vmx_l1_guest_owned_cr0_bits
    cases cfg.enable_ept <;> decide
  have honwp : vmx_l1_guest_owned_cr0_bits cfg &&& (KVM_VM_CR0_ALWAYS_ON ||| X86_CR0_WP) =
      vmx_l1_guest_owned_cr0_bits cfg := by
    unfold vmx_l1_guest_owned_cr0_bits
    cases cfg.enable_ept <;> decide
  unfold hw_cr0
  dsimp only
  split
  · exact Blend.or_and_of_subset _ (owned_forced cfg)
  · split
    · rw [BitVec.or_assoc]
      exact Blend.or_and_of_subset _ honwp
    · exact Blend.or_and_of_subset _ hon

/-- The owned bits of the value passed on are those of the value given. -/
theorem passed_cr0_owned (cfg : Config) (cr0 : BitVec 64) :
    passed_cr0 cr0 &&& vmx_l1_guest_owned_cr0_bits cfg = vmx_l1_guest_owned_cr0_bits cfg ↔
      cr0 &&& vmx_l1_guest_owned_cr0_bits cfg = vmx_l1_guest_owned_cr0_bits cfg := by
  have hvalid : CR0_VALID_BITS &&& vmx_l1_guest_owned_cr0_bits cfg =
      vmx_l1_guest_owned_cr0_bits cfg := by
    unfold vmx_l1_guest_owned_cr0_bits
    cases cfg.enable_ept <;> decide
  have het : X86_CR0_ET &&& vmx_l1_guest_owned_cr0_bits cfg = 0#64 := by
    unfold vmx_l1_guest_owned_cr0_bits
    cases cfg.enable_ept <;> decide
  have heq : passed_cr0 cr0 &&& vmx_l1_guest_owned_cr0_bits cfg =
      cr0 &&& vmx_l1_guest_owned_cr0_bits cfg := by
    unfold passed_cr0
    rw [BitVec.and_assoc, hvalid, BitVec.and_or_distrib_right, het]
    exact BitVec.or_zero
  rw [heq]

/-! ## After the value is set -/

/-- The VMCS fields of a vCPU whose CR0 was set, which no event changes. -/
structure VmcsCr0 (cfg : Config) (value : BitVec 64) (vcpu : Vcpu) : Prop where
  owned : vcpu.cr0_guest_owned_bits = vmx_l1_guest_owned_cr0_bits cfg
  mask : vcpu.CR0_GUEST_HOST_MASK = ~~~vmx_l1_guest_owned_cr0_bits cfg
  guest : vcpu.GUEST_CR0 = hw_cr0 cfg value
  shadow : vcpu.CR0_READ_SHADOW = value

variable {cfg : Config} {value : BitVec 64} {vcpu : Vcpu}

/-- What the guest sees: the value with its owned bits set. -/
theorem VmcsCr0.guest_cr0 (h : VmcsCr0 cfg value vcpu) :
    guest_cr0 vcpu = vmx_l1_guest_owned_cr0_bits cfg |||
      (value &&& ~~~vmx_l1_guest_owned_cr0_bits cfg) := by
  unfold Cr0.guest_cr0
  rw [h.mask, h.guest, h.shadow, BitVec.not_not, hw_cr0_owned]

theorem VmcsCr0.cache (h : VmcsCr0 cfg value vcpu) (reg : KvmReg) :
    VmcsCr0 cfg value (vmx_cache_reg reg vcpu) := by
  unfold vmx_cache_reg
  dsimp only
  split
  · exact ⟨h.owned, h.mask, h.guest, h.shadow⟩
  · exact ⟨h.owned, h.mask, h.guest, h.shadow⟩

/-- Caching keeps a cached value whose owned bits are set. -/
theorem VmcsCr0.cache_cr0 (h : VmcsCr0 cfg value vcpu) (hcr0 : vcpu.cr0 = value)
    (hset : value &&& vmx_l1_guest_owned_cr0_bits cfg = vmx_l1_guest_owned_cr0_bits cfg)
    (reg : KvmReg) : (vmx_cache_reg reg vcpu).cr0 = value := by
  unfold vmx_cache_reg
  dsimp only
  split
  · simp only [kvm_register_mark_available]
    rw [h.owned, h.guest, hw_cr0_owned, hcr0, BitVec.or_comm]
    exact (Blend.set_bits_eq_iff _ _).mpr hset
  · exact hcr0

/-- A read refreshes the cache or leaves the vCPU as it is. -/
theorem kvm_read_cr0_bits_cases (mask : BitVec 64) (vcpu : Vcpu) :
    (kvm_read_cr0_bits mask vcpu).2 = vcpu ∨
      (kvm_read_cr0_bits mask vcpu).2 = vmx_cache_reg VCPU_EXREG_CR0 vcpu := by
  unfold kvm_read_cr0_bits
  dsimp only
  split
  · exact Or.inr rfl
  · exact Or.inl rfl

/-- **One event** keeps the VMCS fields, and the cache where the owned bits are set. -/
theorem event_spec (h : VmcsCr0 cfg value vcpu) (hcr0 : vcpu.cr0 = value)
    (hset : value &&& vmx_l1_guest_owned_cr0_bits cfg = vmx_l1_guest_owned_cr0_bits cfg)
    (e : Event) : VmcsCr0 cfg value (event vcpu e) ∧ (event vcpu e).cr0 = value := by
  cases e with
  | run emulation_required =>
    cases emulation_required with
    | true => exact ⟨⟨h.owned, h.mask, h.guest, h.shadow⟩, hcr0⟩
    | false => exact ⟨⟨h.owned, h.mask, h.guest, h.shadow⟩, hcr0⟩
  | cache reg => exact ⟨h.cache reg, h.cache_cr0 hcr0 hset reg⟩
  | read mask =>
    rcases kvm_read_cr0_bits_cases mask vcpu with heq | heq
    · rw [event, heq]
      exact ⟨h, hcr0⟩
    · rw [event, heq]
      exact ⟨h.cache _, h.cache_cr0 hcr0 hset _⟩

theorem vmx_set_cr0_spec (cfg : Config) (value : BitVec 64) (vcpu : Vcpu) :
    VmcsCr0 cfg value (vmx_set_cr0 cfg value (init_vmcs cfg vcpu)) ∧
      (vmx_set_cr0 cfg value (init_vmcs cfg vcpu)).cr0 = value := by
  have hread : kvm_read_cr0_bits X86_CR0_PG (init_vmcs cfg vcpu) =
      ((init_vmcs cfg vcpu).cr0 &&& X86_CR0_PG, init_vmcs cfg vcpu) := by
    have hmask : X86_CR0_PG &&& KVM_POSSIBLE_CR0_GUEST_BITS = 0 := by decide
    simp [kvm_read_cr0_bits, hmask]
  unfold vmx_set_cr0
  rw [hread]
  exact ⟨⟨rfl, rfl, rfl, rfl⟩, rfl⟩

/-- An accepted value is passed on. -/
theorem kvm_set_cr0_accepted {cr0 : BitVec 64} {vcpu' : Vcpu}
    (h : kvm_set_cr0 cfg cr0 vcpu = (0, vcpu')) : vcpu' = vmx_set_cr0 cfg (passed_cr0 cr0) vcpu := by
  unfold kvm_set_cr0 at h
  dsimp only at h
  split at h
  · cases h
  · split at h
    · cases h
    · split at h
      · cases h
      · split at h
        · cases h
        · exact (Prod.mk.inj h).2.symm

/-- **The value is seen exactly when its owned bits are set.** After `kvm_set_cr0` accepted a value,
the guest and the host read the value passed to `vmx_set_cr0` throughout every later run of entries,
exits and reads, if and only if the value has every bit that the guest owns: TS and, with EPT, WP. -/
theorem guest_cr0_exact {cr0 : BitVec 64} {vcpu' : Vcpu}
    (h : kvm_set_cr0 cfg cr0 (init_vmcs cfg vcpu) = (0, vcpu')) :
    (∀ s, Transition.Run (cr0System vcpu') (fun _ _ => True) s → ShowsCr0 (passed_cr0 cr0) s) ↔
      cr0 &&& vmx_l1_guest_owned_cr0_bits cfg = vmx_l1_guest_owned_cr0_bits cfg := by
  rw [← passed_cr0_owned]
  obtain ⟨hvmcs, hcr0⟩ := vmx_set_cr0_spec cfg (passed_cr0 cr0) vcpu
  rw [← kvm_set_cr0_accepted h] at hvmcs hcr0
  constructor
  · intro hall
    have hguest := (hall vcpu' (Transition.Run.start _ rfl)).1
    rw [hvmcs.guest_cr0] at hguest
    exact (Blend.set_bits_eq_iff _ _).mp hguest
  · intro hset s hrun
    have hinv : VmcsCr0 cfg (passed_cr0 cr0) s ∧ s.cr0 = passed_cr0 cr0 := by
      refine hrun.invariant (fun s => VmcsCr0 cfg (passed_cr0 cr0) s ∧ s.cr0 = passed_cr0 cr0) ?_ ?_
      · rintro s rfl
        exact ⟨hvmcs, hcr0⟩
      · rintro s e s' ⟨hs, hs0⟩ - rfl
        exact event_spec hs hs0 hset e
    refine ⟨?_, ?_⟩
    · rw [hinv.1.guest_cr0]
      exact (Blend.set_bits_eq_iff _ _).mpr hset
    · have hcache : (kvm_read_cr0 s).2.cr0 = passed_cr0 cr0 :=
        (event_spec hinv.1 hinv.2 hset (.read (BitVec.allOnes 64))).2
      calc (kvm_read_cr0 s).1 = (kvm_read_cr0 s).2.cr0 &&& BitVec.allOnes 64 := rfl
        _ = passed_cr0 cr0 := by rw [hcache, BitVec.and_allOnes]

/-- An unrestricted guest with EPT that is not in 64-bit mode. -/
def ept_config : Config := ⟨true, true, false, false⟩

/-- A vCPU before its first CR0. -/
def new_vcpu : Vcpu := ⟨0, fun _ => true, 0, 0, 0, 0⟩

/-- Paging with TS and WP set. -/
theorem guest_cr0_ts_wp :
    kvm_set_cr0 ept_config 0x80010039 (init_vmcs ept_config new_vcpu) =
      (0, vmx_set_cr0 ept_config 0x80010039 (init_vmcs ept_config new_vcpu)) ∧
    ∀ s, Transition.Run
      (cr0System (vmx_set_cr0 ept_config 0x80010039 (init_vmcs ept_config new_vcpu)))
      (fun _ _ => True) s → ShowsCr0 (passed_cr0 0x80010039) s := by
  have haccepted : kvm_set_cr0 ept_config 0x80010039 (init_vmcs ept_config new_vcpu) =
      (0, vmx_set_cr0 ept_config 0x80010039 (init_vmcs ept_config new_vcpu)) := rfl
  exact ⟨haccepted, (guest_cr0_exact haccepted).mpr (by decide)⟩

/-- Paging without them: the guest sees both bits set, and the host reads them after an exit, though
not before it. -/
theorem guest_cr0_leaks :
    kvm_set_cr0 ept_config 0x80000031 (init_vmcs ept_config new_vcpu) =
      (0, vmx_set_cr0 ept_config 0x80000031 (init_vmcs ept_config new_vcpu)) ∧
    passed_cr0 0x80000031 = 0x80000031 ∧
    guest_cr0 (vmx_set_cr0 ept_config 0x80000031 (init_vmcs ept_config new_vcpu)) = 0x80010039 ∧
    (kvm_read_cr0 (vmx_set_cr0 ept_config 0x80000031 (init_vmcs ept_config new_vcpu))).1 =
      0x80000031 ∧
    (kvm_read_cr0 (event (vmx_set_cr0 ept_config 0x80000031 (init_vmcs ept_config new_vcpu))
      (.run false))).1 = 0x80010039 := by
  refine ⟨rfl, by decide, by decide, by decide, by decide⟩

end Svmx.Cr0
