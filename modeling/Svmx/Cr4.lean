/-
The guest's CR4 (`kvm_set_cr4`, `vmx_set_cr4`, `kvm_read_cr4`, `vmx_cache_reg`), on a vCPU that has
CR0, CR3, CR4 and EFER.

As for CR0, the guest sees GUEST_CR4 in the bits it owns and CR4_READ_SHADOW in the others, and
`arch.cr4` caches the value. `vmx_set_cr4` forces and clears bits of GUEST_CR4 that depend on the
mode and does not mark the cache as available. None of these bits is one that the guest may own, so
the guest and the host read the same value throughout every run (`guest_cr4_shown`).

The constants of the source are 32-bit words: their complement loses the high half of a CR4
(`not32`). No accepted CR4 has a bit there.
-/
import Svmx.Blend
import Svmx.Cr0

set_option autoImplicit false

namespace Svmx.Cr4

open Cr0 Cr0.KvmReg Blend

/-! ## The bits -/

def X86_CR4_VME : BitVec 64 := 1 <<< 0
def X86_CR4_PVI : BitVec 64 := 1 <<< 1
def X86_CR4_TSD : BitVec 64 := 1 <<< 2
def X86_CR4_DE : BitVec 64 := 1 <<< 3
def X86_CR4_PSE : BitVec 64 := 1 <<< 4
def X86_CR4_PAE : BitVec 64 := 1 <<< 5
def X86_CR4_MCE : BitVec 64 := 1 <<< 6
def X86_CR4_PGE : BitVec 64 := 1 <<< 7
def X86_CR4_PCE : BitVec 64 := 1 <<< 8
def X86_CR4_OSFXSR : BitVec 64 := 1 <<< 9
def X86_CR4_OSXMMEXCPT : BitVec 64 := 1 <<< 10
def X86_CR4_UMIP : BitVec 64 := 1 <<< 11
def X86_CR4_LA57 : BitVec 64 := 1 <<< 12
def X86_CR4_VMXE : BitVec 64 := 1 <<< 13
def X86_CR4_FSGSBASE : BitVec 64 := 1 <<< 16
def X86_CR4_PCIDE : BitVec 64 := 1 <<< 17
def X86_CR4_OSXSAVE : BitVec 64 := 1 <<< 18
def X86_CR4_SMEP : BitVec 64 := 1 <<< 20
def X86_CR4_SMAP : BitVec 64 := 1 <<< 21
def X86_CR4_PKE : BitVec 64 := 1 <<< 22

def CR4_RESERVED_BITS : BitVec 64 :=
  ~~~(X86_CR4_VME ||| X86_CR4_PVI ||| X86_CR4_TSD ||| X86_CR4_DE ||| X86_CR4_PSE ||| X86_CR4_PAE |||
    X86_CR4_MCE ||| X86_CR4_PGE ||| X86_CR4_PCE ||| X86_CR4_OSFXSR ||| X86_CR4_PCIDE |||
    X86_CR4_OSXSAVE ||| X86_CR4_SMEP ||| X86_CR4_FSGSBASE ||| X86_CR4_OSXMMEXCPT ||| X86_CR4_LA57 |||
    X86_CR4_VMXE ||| X86_CR4_SMAP ||| X86_CR4_PKE ||| X86_CR4_UMIP)

def KVM_POSSIBLE_CR4_GUEST_BITS : BitVec 64 :=
  X86_CR4_PVI ||| X86_CR4_DE ||| X86_CR4_PCE ||| X86_CR4_OSFXSR ||| X86_CR4_OSXMMEXCPT |||
    X86_CR4_PGE ||| X86_CR4_TSD ||| X86_CR4_FSGSBASE

def X86_CR4_TLBFLUSH_BITS : BitVec 64 :=
  X86_CR4_PGE ||| X86_CR4_PCIDE ||| X86_CR4_PAE ||| X86_CR4_SMEP

def X86_CR4_PDPTR_BITS : BitVec 64 := X86_CR4_PGE ||| X86_CR4_PSE ||| X86_CR4_PAE ||| X86_CR4_SMEP

def X86_CR3_PCID_MASK : BitVec 64 := (1 <<< 12) - 1

def EFER_LMA : BitVec 64 := 1 <<< 10

def KVM_VM_CR4_ALWAYS_ON_UNRESTRICTED_GUEST : BitVec 64 := X86_CR4_VMXE
def KVM_PMODE_VM_CR4_ALWAYS_ON : BitVec 64 := X86_CR4_PAE ||| X86_CR4_VMXE
def KVM_RMODE_VM_CR4_ALWAYS_ON : BitVec 64 := X86_CR4_VME ||| X86_CR4_PAE ||| X86_CR4_VMXE

/-- The low 32 bits: what `~0UL` is as a mask. -/
def MAXULONG : BitVec 64 := 0xFFFFFFFF

/-- The complement of an `unsigned long`, as a mask of 64 bits. -/
def not32 (x : BitVec 64) : BitVec 64 := ~~~x &&& MAXULONG

/-! ## The vCPU -/

/-- The vCPU of `Cr0` with what CR3, CR4 and EFER are kept in. -/
structure Vcpu extends Cr0.Vcpu where
  cr3 : BitVec 64
  cr4 : BitVec 64
  efer : BitVec 64
  cr4_guest_owned_bits : BitVec 64
  cr4_guest_rsvd_bits : BitVec 64
  GUEST_CR3 : BitVec 64
  GUEST_CR4 : BitVec 64
  CR4_READ_SHADOW : BitVec 64
  CR4_GUEST_HOST_MASK : BitVec 64

/-- What the functions of this module ask of the module parameters and of the rest of the vCPU;
`cr4_guest_host_mask` is the one of `vmcs12` in guest mode. -/
structure Config where
  enable_ept : Bool
  is_unrestricted_guest : Bool
  vm86_active : Bool
  cr3_load_exiting : Bool
  cr4_guest_host_mask : Option (BitVec 64)

/-- `vmx_cache_reg`, as far as the control registers depend on it. -/
def vmx_cache_reg (cfg : Config) (reg : KvmReg) (vcpu : Vcpu) : Vcpu :=
  let vcpu := { vcpu with toVcpu := Cr0.vmx_cache_reg reg vcpu.toVcpu }
  if reg = VCPU_EXREG_CR3 then
    if !cfg.cr3_load_exiting then { vcpu with cr3 := vcpu.GUEST_CR3 } else vcpu
  else if reg = VCPU_EXREG_CR4 then
    { vcpu with cr4 := blend vcpu.cr4_guest_owned_bits vcpu.GUEST_CR4 vcpu.cr4 }
  else vcpu

/-- `kvm_read_cr0_bits`. -/
def kvm_read_cr0_bits (mask : BitVec 64) (vcpu : Vcpu) : BitVec 64 × Vcpu :=
  let (cr0, toVcpu) := Cr0.kvm_read_cr0_bits mask vcpu.toVcpu
  (cr0, { vcpu with toVcpu := toVcpu })

/-- `kvm_read_cr0`. -/
def kvm_read_cr0 (vcpu : Vcpu) : BitVec 64 × Vcpu := kvm_read_cr0_bits (BitVec.allOnes 64) vcpu

/-- `kvm_read_cr4_bits`: the bits, and the vCPU with its cache refreshed where they need it. -/
def kvm_read_cr4_bits (cfg : Config) (mask : BitVec 64) (vcpu : Vcpu) : BitVec 64 × Vcpu :=
  let tmask := mask &&& KVM_POSSIBLE_CR4_GUEST_BITS
  let vcpu := if tmask &&& vcpu.cr4_guest_owned_bits ≠ 0 ∧ vcpu.regs_avail VCPU_EXREG_CR4 = false
    then vmx_cache_reg cfg VCPU_EXREG_CR4 vcpu else vcpu
  (vcpu.cr4 &&& mask, vcpu)

/-- `kvm_read_cr4`; the mask of the source is `~0UL`. -/
def kvm_read_cr4 (cfg : Config) (vcpu : Vcpu) : BitVec 64 × Vcpu :=
  kvm_read_cr4_bits cfg MAXULONG vcpu

/-- `kvm_read_cr3`. -/
def kvm_read_cr3 (cfg : Config) (vcpu : Vcpu) : BitVec 64 × Vcpu :=
  let vcpu := if vcpu.regs_avail VCPU_EXREG_CR3 = false then vmx_cache_reg cfg VCPU_EXREG_CR3 vcpu
    else vcpu
  (vcpu.cr3, vcpu)

def is_long_mode (vcpu : Vcpu) : Bool := vcpu.efer &&& EFER_LMA != 0

/-- `is_paging`; PG is no bit the guest may own, so the read refreshes nothing. -/
def is_paging (vcpu : Vcpu) : Bool := (kvm_read_cr0_bits X86_CR0_PG vcpu).1 != 0

/-! ## Setting CR4 -/

/-- `set_cr4_guest_host_mask`. -/
def set_cr4_guest_host_mask (cfg : Config) (vcpu : Vcpu) : Vcpu :=
  let owned := KVM_POSSIBLE_CR4_GUEST_BITS &&& ~~~CR4_RESERVED_BITS
  let owned := if !cfg.enable_ept then
      owned &&& not32 X86_CR4_TLBFLUSH_BITS &&& not32 X86_CR4_PDPTR_BITS else owned
  let owned := match cfg.cr4_guest_host_mask with
    | some mask => owned &&& ~~~mask
    | none => owned
  { vcpu with
    cr4_guest_rsvd_bits := CR4_RESERVED_BITS
    cr4_guest_owned_bits := owned
    CR4_GUEST_HOST_MASK := ~~~owned }

/-- The value of GUEST_CR4 for a CR4. -/
def hw_cr4 (cfg : Config) (paging : Bool) (cr4 : BitVec 64) : BitVec 64 :=
  let hw_cr4 := (cr4 &&& X86_CR4_MCE) ||| (cr4 &&& not32 X86_CR4_MCE)
  if cfg.is_unrestricted_guest then hw_cr4 ||| KVM_VM_CR4_ALWAYS_ON_UNRESTRICTED_GUEST
  else
    let hw_cr4 := if cfg.vm86_active then hw_cr4 ||| KVM_RMODE_VM_CR4_ALWAYS_ON
      else hw_cr4 ||| KVM_PMODE_VM_CR4_ALWAYS_ON
    let hw_cr4 := if cfg.enable_ept then
        if !paging then (hw_cr4 &&& not32 X86_CR4_PAE) ||| X86_CR4_PSE
        else if cr4 &&& X86_CR4_PAE = 0 then hw_cr4 &&& not32 X86_CR4_PAE
        else hw_cr4
      else hw_cr4
    if !paging then hw_cr4 &&& not32 (X86_CR4_SMEP ||| X86_CR4_SMAP ||| X86_CR4_PKE) else hw_cr4

/-- `vmx_set_cr4`. -/
def vmx_set_cr4 (cfg : Config) (cr4 : BitVec 64) (vcpu : Vcpu) : Vcpu :=
  { vcpu with
    cr4 := cr4
    CR4_READ_SHADOW := cr4
    GUEST_CR4 := hw_cr4 cfg (is_paging vcpu) cr4 }

/-- `kvm_is_valid_cr4`, with the vendor's `is_valid_cr4`. -/
def kvm_is_valid_cr4 (is_valid_cr4 : BitVec 64 → Bool) (cr4 : BitVec 64) (vcpu : Vcpu) : Bool :=
  cr4 &&& CR4_RESERVED_BITS == 0 && cr4 &&& vcpu.cr4_guest_rsvd_bits == 0 && is_valid_cr4 cr4

/-- The end of `kvm_set_cr4`: PCIDE may only be set in long mode with a zero PCID. -/
def set_cr4_checked (cfg : Config) (old_cr4 cr4 : BitVec 64) (vcpu : Vcpu) : ℤ × Vcpu :=
  if cr4 &&& X86_CR4_PCIDE ≠ 0 ∧ old_cr4 &&& X86_CR4_PCIDE = 0 then
    let (cr3, vcpu) := kvm_read_cr3 cfg vcpu
    if cr3 &&& X86_CR3_PCID_MASK ≠ 0 ∨ is_long_mode vcpu = false then (1, vcpu)
    else (0, vmx_set_cr4 cfg cr4 vcpu)
  else (0, vmx_set_cr4 cfg cr4 vcpu)

/-- `kvm_set_cr4`. With paging outside of long mode `load_pdptrs` is called, which reads CR3 and
always succeeds. -/
def kvm_set_cr4 (cfg : Config) (is_valid_cr4 : BitVec 64 → Bool) (cr4 : BitVec 64) (vcpu : Vcpu) :
    ℤ × Vcpu :=
  let (old_cr4, vcpu) := kvm_read_cr4 cfg vcpu
  if kvm_is_valid_cr4 is_valid_cr4 cr4 vcpu = false then (1, vcpu)
  else if is_long_mode vcpu then
    if cr4 &&& X86_CR4_PAE = 0 then (1, vcpu)
    else if (cr4 ^^^ old_cr4) &&& X86_CR4_LA57 ≠ 0 then (1, vcpu)
    else set_cr4_checked cfg old_cr4 cr4 vcpu
  else if is_paging vcpu ∧ cr4 &&& X86_CR4_PAE ≠ 0 ∧ (cr4 ^^^ old_cr4) &&& X86_CR4_PDPTR_BITS ≠ 0 then
    set_cr4_checked cfg old_cr4 cr4 (kvm_read_cr3 cfg vcpu).2
  else set_cr4_checked cfg old_cr4 cr4 vcpu

/-! ## Runs -/

/-- The masks are as `set_cr4_guest_host_mask` left them. -/
def HasCr4Mask (vcpu : Vcpu) : Prop := ∃ cfg, set_cr4_guest_host_mask cfg vcpu = vcpu

/-- What the guest reads from CR4. -/
def guest_cr4 (vcpu : Vcpu) : BitVec 64 :=
  (vcpu.GUEST_CR4 &&& ~~~vcpu.CR4_GUEST_HOST_MASK) |||
    (vcpu.CR4_READ_SHADOW &&& vcpu.CR4_GUEST_HOST_MASK)

/-- `vmx_vcpu_run` around an entry in which the guest writes `write` to CR4, changing only bits it
owns. With `emulation_required` the guest is not entered. -/
def vmx_vcpu_run (emulation_required : Bool) (write : BitVec 64) (vcpu : Vcpu) : Vcpu :=
  let vcpu := { vcpu with toVcpu := Cr0.vmx_vcpu_run emulation_required vcpu.toVcpu }
  if emulation_required then vcpu
  else { vcpu with GUEST_CR4 := blend (~~~vcpu.CR4_GUEST_HOST_MASK) write vcpu.GUEST_CR4 }

/-- A vCPU, and the CR4 that was set with the changes that the guest made to it. -/
structure Shown where
  vcpu : Vcpu
  seen : BitVec 64

/-- What may happen: an entry and exit, a register is cached, or a control register is read. -/
inductive Event where
  | run (emulation_required : Bool) (write : BitVec 64)
  | cache (reg : KvmReg)
  | read_cr0 (mask : BitVec 64)
  | read_cr3
  | read_cr4 (mask : BitVec 64)

/-- One event. -/
def event (cfg : Config) (s : Shown) : Event → Shown
  | .run emulation_required write =>
    { vcpu := vmx_vcpu_run emulation_required write s.vcpu
      seen := if emulation_required then s.seen
        else blend (~~~s.vcpu.CR4_GUEST_HOST_MASK) write s.seen }
  | .cache reg => { s with vcpu := vmx_cache_reg cfg reg s.vcpu }
  | .read_cr0 mask => { s with vcpu := (kvm_read_cr0_bits mask s.vcpu).2 }
  | .read_cr3 => { s with vcpu := (kvm_read_cr3 cfg s.vcpu).2 }
  | .read_cr4 mask => { s with vcpu := (kvm_read_cr4_bits cfg mask s.vcpu).2 }

/-- The runs from a vCPU whose CR4 was set to `cr4`. -/
def cr4System (cfg : Config) (vcpu : Vcpu) (cr4 : BitVec 64) : Transition.System Shown Event where
  init s := s = ⟨vcpu, cr4⟩
  step s e s' := s' = event cfg s e

/-! ## Reads -/

/-- `w` is `v` with some registers cached that were not available. -/
inductive Refreshed (cfg : Config) (v : Vcpu) : Vcpu → Prop where
  | refl : Refreshed cfg v v
  | cache {w : Vcpu} (h : Refreshed cfg v w) (reg : KvmReg) (ha : w.regs_avail reg = false) :
      Refreshed cfg v (vmx_cache_reg cfg reg w)

section Reads

variable {cfg : Config} {v w : Vcpu}

theorem Refreshed.trans {u : Vcpu} (h : Refreshed cfg v w) (h' : Refreshed cfg w u) :
    Refreshed cfg v u := by
  induction h' with
  | refl => exact h
  | cache _ reg ha ih => exact ih.cache reg ha

theorem read_cr0_refreshed (cfg : Config) (mask : BitVec 64) (v : Vcpu) :
    Refreshed cfg v (kvm_read_cr0_bits mask v).2 := by
  unfold kvm_read_cr0_bits Cr0.kvm_read_cr0_bits
  dsimp only
  split
  · next h => exact Refreshed.cache .refl VCPU_EXREG_CR0 h.2
  · exact .refl

theorem read_cr4_refreshed (cfg : Config) (mask : BitVec 64) (v : Vcpu) :
    Refreshed cfg v (kvm_read_cr4_bits cfg mask v).2 := by
  unfold kvm_read_cr4_bits
  dsimp only
  split
  · next h => exact Refreshed.refl.cache _ h.2
  · exact .refl

theorem read_cr3_refreshed (cfg : Config) (v : Vcpu) : Refreshed cfg v (kvm_read_cr3 cfg v).2 := by
  unfold kvm_read_cr3
  dsimp only
  split
  · next h => exact Refreshed.refl.cache _ h
  · exact .refl

/-- The fields that a refresh leaves as they are. -/
structure SameFields (v w : Vcpu) : Prop where
  efer : w.efer = v.efer
  cr0_owned : w.cr0_guest_owned_bits = v.cr0_guest_owned_bits
  cr0_guest : w.GUEST_CR0 = v.GUEST_CR0
  cr0_shadow : w.CR0_READ_SHADOW = v.CR0_READ_SHADOW
  cr0_mask : w.CR0_GUEST_HOST_MASK = v.CR0_GUEST_HOST_MASK
  cr4_owned : w.cr4_guest_owned_bits = v.cr4_guest_owned_bits
  cr4_rsvd : w.cr4_guest_rsvd_bits = v.cr4_guest_rsvd_bits
  cr3_guest : w.GUEST_CR3 = v.GUEST_CR3
  cr4_guest : w.GUEST_CR4 = v.GUEST_CR4
  cr4_shadow : w.CR4_READ_SHADOW = v.CR4_READ_SHADOW
  cr4_mask : w.CR4_GUEST_HOST_MASK = v.CR4_GUEST_HOST_MASK

theorem SameFields.trans {u : Vcpu} (h : SameFields v w) (h' : SameFields w u) : SameFields v u :=
  ⟨h'.efer.trans h.efer, h'.cr0_owned.trans h.cr0_owned, h'.cr0_guest.trans h.cr0_guest,
    h'.cr0_shadow.trans h.cr0_shadow, h'.cr0_mask.trans h.cr0_mask, h'.cr4_owned.trans h.cr4_owned,
    h'.cr4_rsvd.trans h.cr4_rsvd, h'.cr3_guest.trans h.cr3_guest, h'.cr4_guest.trans h.cr4_guest,
    h'.cr4_shadow.trans h.cr4_shadow, h'.cr4_mask.trans h.cr4_mask⟩

theorem cache_reg_fields (cfg : Config) (reg : KvmReg) (v : Vcpu) :
    SameFields v (vmx_cache_reg cfg reg v) := by
  cases reg with
  | VCPU_EXREG_CR3 =>
    unfold vmx_cache_reg
    dsimp only
    rw [if_pos rfl]
    cases cfg.cr3_load_exiting with
    | true => exact ⟨rfl, rfl, rfl, rfl, rfl, rfl, rfl, rfl, rfl, rfl, rfl⟩
    | false => exact ⟨rfl, rfl, rfl, rfl, rfl, rfl, rfl, rfl, rfl, rfl, rfl⟩
  | _ => exact ⟨rfl, rfl, rfl, rfl, rfl, rfl, rfl, rfl, rfl, rfl, rfl⟩

theorem Refreshed.fields (h : Refreshed cfg v w) : SameFields v w := by
  induction h with
  | refl => exact ⟨rfl, rfl, rfl, rfl, rfl, rfl, rfl, rfl, rfl, rfl, rfl⟩
  | cache _ reg _ ih => exact ih.trans (cache_reg_fields cfg reg _)

theorem HasCr4Mask.of_fields (h : HasCr4Mask v) (hsame : SameFields v w) : HasCr4Mask w := by
  obtain ⟨cfg, h⟩ := h
  refine ⟨cfg, ?_⟩
  have howned := congrArg Vcpu.cr4_guest_owned_bits h
  have hrsvd := congrArg Vcpu.cr4_guest_rsvd_bits h
  have hmask := congrArg Vcpu.CR4_GUEST_HOST_MASK h
  rw [← hsame.cr4_owned] at howned
  rw [← hsame.cr4_rsvd] at hrsvd
  rw [← hsame.cr4_mask] at hmask
  have heq : set_cr4_guest_host_mask cfg w =
      { w with
        cr4_guest_rsvd_bits := (set_cr4_guest_host_mask cfg v).cr4_guest_rsvd_bits
        cr4_guest_owned_bits := (set_cr4_guest_host_mask cfg v).cr4_guest_owned_bits
        CR4_GUEST_HOST_MASK := (set_cr4_guest_host_mask cfg v).CR4_GUEST_HOST_MASK } := rfl
  rw [heq, howned, hrsvd, hmask]

/-- What an accepted CR4 has passed, with the CR4 and EFER before it. -/
structure Accepted (v : Vcpu) (old_cr4 cr4 : BitVec 64) : Prop where
  valid : cr4 &&& CR4_RESERVED_BITS = 0
  pae : is_long_mode v = true → cr4 &&& X86_CR4_PAE ≠ 0
  pcide : cr4 &&& X86_CR4_PCIDE ≠ 0 → old_cr4 &&& X86_CR4_PCIDE ≠ 0 ∨ is_long_mode v = true

theorem is_long_mode_congr (h : SameFields v w) : is_long_mode w = is_long_mode v := by
  unfold is_long_mode
  rw [h.efer]

theorem set_cr4_checked_cases {old_cr4 cr4 : BitVec 64} (href : Refreshed cfg v w)
    (hvalid : cr4 &&& CR4_RESERVED_BITS = 0)
    (hpae : is_long_mode v = true → cr4 &&& X86_CR4_PAE ≠ 0) :
    ∃ u, Refreshed cfg v u ∧ (set_cr4_checked cfg old_cr4 cr4 w = (1, u) ∨
      (set_cr4_checked cfg old_cr4 cr4 w = (0, vmx_set_cr4 cfg cr4 u) ∧ Accepted v old_cr4 cr4)) := by
  unfold set_cr4_checked
  split
  · have hread := href.trans (read_cr3_refreshed cfg w)
    refine ⟨_, hread, ?_⟩
    dsimp only
    split
    · exact Or.inl rfl
    · next hno =>
      refine Or.inr ⟨rfl, hvalid, hpae, fun _ => Or.inr ?_⟩
      rw [← is_long_mode_congr hread.fields]
      simpa using (not_or.mp hno).2
  · next hno =>
    refine ⟨w, href, Or.inr ⟨rfl, hvalid, hpae, fun hnew => Or.inl fun hold => hno ⟨hnew, hold⟩⟩⟩

/-- **What `kvm_set_cr4` does**: it refreshes the cache, and then refuses or sets a legal value. -/
theorem kvm_set_cr4_cases (cfg : Config) (is_valid_cr4 : BitVec 64 → Bool) (cr4 : BitVec 64)
    (v : Vcpu) : ∃ u, Refreshed cfg v u ∧ (kvm_set_cr4 cfg is_valid_cr4 cr4 v = (1, u) ∨
      (kvm_set_cr4 cfg is_valid_cr4 cr4 v = (0, vmx_set_cr4 cfg cr4 u) ∧
        Accepted v (kvm_read_cr4 cfg v).1 cr4)) := by
  have hread : Refreshed cfg v (kvm_read_cr4 cfg v).2 := read_cr4_refreshed cfg MAXULONG v
  have hlong := is_long_mode_congr hread.fields
  unfold kvm_set_cr4
  dsimp only
  split
  · exact ⟨_, hread, Or.inl rfl⟩
  · next hok =>
    have hvalid : cr4 &&& CR4_RESERVED_BITS = 0 := by
      simp only [kvm_is_valid_cr4, Bool.not_eq_false, Bool.and_eq_true, beq_iff_eq] at hok
      exact hok.1.1
    split
    · split
      · exact ⟨_, hread, Or.inl rfl⟩
      · next hpae =>
        split
        · exact ⟨_, hread, Or.inl rfl⟩
        · exact set_cr4_checked_cases hread hvalid fun _ => hpae
    · next hno =>
      have hpae : is_long_mode v = true → cr4 &&& X86_CR4_PAE ≠ 0 := by
        rw [← hlong]
        exact fun h => absurd h hno
      split
      · exact set_cr4_checked_cases (hread.trans (read_cr3_refreshed cfg _)) hvalid hpae
      · exact set_cr4_checked_cases hread hvalid hpae

end Reads

/-! ## The ownership -/

variable {cfg : Config} {vcpu : Vcpu} {owned : BitVec 64}

theorem HasCr4Mask.possible (h : HasCr4Mask vcpu) :
    vcpu.cr4_guest_owned_bits &&& KVM_POSSIBLE_CR4_GUEST_BITS = vcpu.cr4_guest_owned_bits := by
  obtain ⟨cfg, h⟩ := h
  rw [← h]
  have hbase : KVM_POSSIBLE_CR4_GUEST_BITS &&& ~~~CR4_RESERVED_BITS = KVM_POSSIBLE_CR4_GUEST_BITS := by
    decide
  have hleft : ∀ x y : BitVec 64, x &&& KVM_POSSIBLE_CR4_GUEST_BITS = x →
      (x &&& y) &&& KVM_POSSIBLE_CR4_GUEST_BITS = x &&& y := by
    intro x y hx
    rw [BitVec.and_assoc, BitVec.and_comm y, ← BitVec.and_assoc, hx]
  have hself := BitVec.and_self (x := KVM_POSSIBLE_CR4_GUEST_BITS)
  unfold set_cr4_guest_host_mask
  dsimp only
  rw [hbase]
  cases cfg.enable_ept <;> cases cfg.cr4_guest_host_mask
  · exact hleft _ _ (hleft _ _ hself)
  · exact hleft _ _ (hleft _ _ (hleft _ _ hself))
  · exact hself
  · exact hleft _ _ hself

theorem HasCr4Mask.mask (h : HasCr4Mask vcpu) :
    vcpu.CR4_GUEST_HOST_MASK = ~~~vcpu.cr4_guest_owned_bits := by
  obtain ⟨cfg, h⟩ := h
  rw [← h]
  rfl

/-- **No forced bit is owned**: in GUEST_CR4 the owned bits are those of the value. -/
theorem hw_cr4_owned (cfg : Config) (paging : Bool) (cr4 : BitVec 64)
    (h : owned &&& KVM_POSSIBLE_CR4_GUEST_BITS = owned) :
    hw_cr4 cfg paging cr4 &&& owned = cr4 &&& owned := by
  have hmce : ((cr4 &&& X86_CR4_MCE) ||| (cr4 &&& not32 X86_CR4_MCE)) &&& owned = cr4 &&& owned := by
    have hclear : X86_CR4_MCE &&& owned = 0#64 := disjoint_of_subset h (by decide)
    have hkeep : not32 X86_CR4_MCE &&& owned = owned := subset_trans h (by decide)
    rw [BitVec.and_or_distrib_right, BitVec.and_assoc, hclear, BitVec.and_assoc, hkeep]
    simp
  have hpmode : KVM_PMODE_VM_CR4_ALWAYS_ON &&& owned = 0#64 := disjoint_of_subset h (by decide)
  have hrmode : KVM_RMODE_VM_CR4_ALWAYS_ON &&& owned = 0#64 := disjoint_of_subset h (by decide)
  have hunrestricted : KVM_VM_CR4_ALWAYS_ON_UNRESTRICTED_GUEST &&& owned = 0#64 :=
    disjoint_of_subset h (by decide)
  have hpse : X86_CR4_PSE &&& owned = 0#64 := disjoint_of_subset h (by decide)
  have hpae : not32 X86_CR4_PAE &&& owned = owned := subset_trans h (by decide)
  have hsmep : not32 (X86_CR4_SMEP ||| X86_CR4_SMAP ||| X86_CR4_PKE) &&& owned = owned :=
    subset_trans h (by decide)
  unfold hw_cr4
  dsimp only
  split
  · rw [or_and_of_disjoint _ hunrestricted, hmce]
  · -- the bits that are always on
    have hon : (if cfg.vm86_active = true then
        (cr4 &&& X86_CR4_MCE) ||| (cr4 &&& not32 X86_CR4_MCE) ||| KVM_RMODE_VM_CR4_ALWAYS_ON
        else (cr4 &&& X86_CR4_MCE) ||| (cr4 &&& not32 X86_CR4_MCE) ||| KVM_PMODE_VM_CR4_ALWAYS_ON) &&&
          owned = cr4 &&& owned := by
      split
      · rw [or_and_of_disjoint _ hrmode, hmce]
      · rw [or_and_of_disjoint _ hpmode, hmce]
    generalize (if cfg.vm86_active = true then
        (cr4 &&& X86_CR4_MCE) ||| (cr4 &&& not32 X86_CR4_MCE) ||| KVM_RMODE_VM_CR4_ALWAYS_ON
        else (cr4 &&& X86_CR4_MCE) ||| (cr4 &&& not32 X86_CR4_MCE) ||| KVM_PMODE_VM_CR4_ALWAYS_ON) =
      x at hon
    -- the bits that depend on paging
    have hept : (if cfg.enable_ept = true then
        if (!paging) = true then (x &&& not32 X86_CR4_PAE) ||| X86_CR4_PSE
        else if cr4 &&& X86_CR4_PAE = 0 then x &&& not32 X86_CR4_PAE else x
        else x) &&& owned = cr4 &&& owned := by
      split
      · split
        · rw [or_and_of_disjoint _ hpse, and_and_of_subset _ hpae, hon]
        · split
          · rw [and_and_of_subset _ hpae, hon]
          · exact hon
      · exact hon
    by_cases hpaging : (!paging) = true
    · simp only [if_pos hpaging] at hept ⊢
      rw [and_and_of_subset _ hsmep, hept]
    · simp only [if_neg hpaging] at hept ⊢
      exact hept

/-! ## What is shown -/

/-- GUEST_CR4, the shadow and the cache all hold the value that is seen, in the bits that count. -/
structure Shows (s : Shown) : Prop where
  possible : s.vcpu.cr4_guest_owned_bits &&& KVM_POSSIBLE_CR4_GUEST_BITS =
    s.vcpu.cr4_guest_owned_bits
  mask : s.vcpu.CR4_GUEST_HOST_MASK = ~~~s.vcpu.cr4_guest_owned_bits
  low : s.seen &&& MAXULONG = s.seen
  guest : s.vcpu.GUEST_CR4 &&& s.vcpu.cr4_guest_owned_bits =
    s.seen &&& s.vcpu.cr4_guest_owned_bits
  shadow : blend s.vcpu.cr4_guest_owned_bits s.seen s.vcpu.CR4_READ_SHADOW = s.seen
  cache : blend s.vcpu.cr4_guest_owned_bits s.seen s.vcpu.cr4 = s.seen
  available : s.vcpu.regs_avail VCPU_EXREG_CR4 = true → s.vcpu.cr4 = s.seen

theorem cr0_cache_avail (reg : KvmReg) (vcpu : Cr0.Vcpu) :
    (Cr0.vmx_cache_reg reg vcpu).regs_avail = Function.update vcpu.regs_avail reg true := by
  unfold Cr0.vmx_cache_reg
  dsimp only
  split
  · rfl
  · rfl

/-- **Caching a register** keeps what is shown. -/
theorem Shows.cached {s : Shown} (h : Shows s) (cfg : Config) (reg : KvmReg) :
    Shows { s with vcpu := vmx_cache_reg cfg reg s.vcpu } := by
  have hrefresh : blend s.vcpu.cr4_guest_owned_bits s.vcpu.GUEST_CR4 s.vcpu.cr4 = s.seen := by
    rw [blend_congr h.guest, h.cache]
  have havail : reg ≠ VCPU_EXREG_CR4 →
      (Cr0.vmx_cache_reg reg s.vcpu.toVcpu).regs_avail VCPU_EXREG_CR4 = true →
      s.vcpu.cr4 = s.seen := by
    intro hne ha
    rw [cr0_cache_avail, Function.update_of_ne (Ne.symm hne)] at ha
    exact h.available ha
  unfold vmx_cache_reg
  dsimp only
  split
  · next hcr3 =>
    have hne : reg ≠ VCPU_EXREG_CR4 := by
      rw [hcr3]
      decide
    split
    · exact ⟨h.possible, h.mask, h.low, h.guest, h.shadow, h.cache, havail hne⟩
    · exact ⟨h.possible, h.mask, h.low, h.guest, h.shadow, h.cache, havail hne⟩
  · split
    · refine ⟨h.possible, h.mask, h.low, h.guest, h.shadow, ?_, fun _ => hrefresh⟩
      dsimp only
      rw [hrefresh]
      exact blend_eq_self rfl
    · next hne => exact ⟨h.possible, h.mask, h.low, h.guest, h.shadow, h.cache, havail hne⟩

/-- A read of CR0 keeps what is shown. -/
theorem Shows.read_cr0 {s : Shown} (h : Shows s) (cfg : Config) (mask : BitVec 64) :
    Shows { s with vcpu := (kvm_read_cr0_bits mask s.vcpu).2 } := by
  have hcr0 : (kvm_read_cr0_bits mask s.vcpu).2 = s.vcpu ∨
      (kvm_read_cr0_bits mask s.vcpu).2 = vmx_cache_reg cfg VCPU_EXREG_CR0 s.vcpu := by
    unfold kvm_read_cr0_bits
    dsimp only
    rcases kvm_read_cr0_bits_cases mask s.vcpu.toVcpu with heq | heq
    · rw [heq]
      exact Or.inl rfl
    · rw [heq]
      exact Or.inr rfl
  rcases hcr0 with heq | heq
  · rw [heq]
    exact h
  · rw [heq]
    exact h.cached cfg _

/-- **One event** keeps what is shown. -/
theorem Shows.event {s : Shown} (h : Shows s) (e : Event) : Shows (event cfg s e) := by
  cases e with
  | run emulation_required write =>
    cases emulation_required with
    | true =>
      refine ⟨h.possible, h.mask, h.low, h.guest, h.shadow, h.cache, fun ha => h.available ?_⟩
      simpa [Cr4.event, vmx_vcpu_run, Cr0.vmx_vcpu_run, Cr0.kvm_register_mark_available] using ha
    | false =>
      have hmask : ~~~s.vcpu.CR4_GUEST_HOST_MASK = s.vcpu.cr4_guest_owned_bits := by
        rw [h.mask, BitVec.not_not]
      have hlow : s.vcpu.cr4_guest_owned_bits &&& MAXULONG = s.vcpu.cr4_guest_owned_bits := by
        rw [← h.possible, BitVec.and_assoc]
        congr 1
      simp only [Cr4.event, vmx_vcpu_run, Cr0.vmx_vcpu_run, Bool.false_eq_true, if_false, hmask]
      refine ⟨h.possible, h.mask, blend_subset hlow h.low, ?_, blend_change h.shadow write,
        blend_change h.cache write, fun ha => by cases ha⟩
      dsimp only
      rw [blend_and_owned, blend_and_owned]
  | cache reg => exact h.cached cfg reg
  | read_cr0 mask => exact h.read_cr0 cfg mask
  | read_cr3 =>
    unfold Cr4.event kvm_read_cr3
    dsimp only
    split
    · exact h.cached cfg _
    · exact h
  | read_cr4 mask =>
    unfold Cr4.event kvm_read_cr4_bits
    dsimp only
    split
    · exact h.cached cfg _
    · exact h

/-- What is shown is what the guest reads. -/
theorem Shows.guest_cr4 {s : Shown} (h : Shows s) : guest_cr4 s.vcpu = s.seen := by
  have hblend : Cr4.guest_cr4 s.vcpu =
      blend s.vcpu.cr4_guest_owned_bits s.vcpu.GUEST_CR4 s.vcpu.CR4_READ_SHADOW := by
    unfold Cr4.guest_cr4 blend
    rw [h.mask, BitVec.not_not, BitVec.or_comm]
  rw [hblend, blend_congr h.guest, h.shadow]

/-- What is shown is what the host reads. -/
theorem Shows.kvm_read_cr4 {s : Shown} (h : Shows s) (cfg : Config) :
    (kvm_read_cr4 cfg s.vcpu).1 = s.seen := by
  unfold Cr4.kvm_read_cr4 kvm_read_cr4_bits
  dsimp only
  split
  · have hcached := (h.cached cfg VCPU_EXREG_CR4).available
    have ha : (vmx_cache_reg cfg VCPU_EXREG_CR4 s.vcpu).regs_avail VCPU_EXREG_CR4 = true := by
      change (Cr0.vmx_cache_reg VCPU_EXREG_CR4 s.vcpu.toVcpu).regs_avail VCPU_EXREG_CR4 = true
      rw [cr0_cache_avail, Function.update_self]
    rw [hcached ha, h.low]
  · next hno =>
    have hcr4 : s.vcpu.cr4 = s.seen := by
      cases ha : s.vcpu.regs_avail VCPU_EXREG_CR4 with
      | true => exact h.available ha
      | false =>
        -- nothing is owned, so the cache is the value
        have hzero : MAXULONG &&& KVM_POSSIBLE_CR4_GUEST_BITS &&& s.vcpu.cr4_guest_owned_bits =
            0#64 := by
          by_contra hne
          exact hno ⟨hne, ha⟩
        have hmax : MAXULONG &&& KVM_POSSIBLE_CR4_GUEST_BITS = KVM_POSSIBLE_CR4_GUEST_BITS := by
          decide
        rw [hmax, BitVec.and_comm, h.possible] at hzero
        have hcache := h.cache
        rw [hzero, blend_eq_self (BitVec.and_zero.trans BitVec.and_zero.symm)] at hcache
        exact hcache
    rw [hcr4, h.low]

/-! ## After CR4 is set -/

/-- **After `vmx_set_cr4`** the value is shown, whether the cache was available or not. -/
theorem vmx_set_cr4_shows (cfg : Config) {cr4 : BitVec 64} (hmask : HasCr4Mask vcpu)
    (hvalid : cr4 &&& CR4_RESERVED_BITS = 0) : Shows ⟨vmx_set_cr4 cfg cr4 vcpu, cr4⟩ := by
  have hlow : cr4 &&& MAXULONG = cr4 := by
    have hhigh : CR4_RESERVED_BITS ||| MAXULONG = BitVec.allOnes 64 := by decide
    calc cr4 &&& MAXULONG = (cr4 &&& CR4_RESERVED_BITS) ||| (cr4 &&& MAXULONG) := by
          rw [hvalid]
          exact BitVec.zero_or.symm
      _ = cr4 := by rw [← BitVec.and_or_distrib_left, hhigh, BitVec.and_allOnes]
  exact ⟨hmask.possible, hmask.mask, hlow, hw_cr4_owned cfg _ cr4 hmask.possible,
    blend_eq_self rfl, blend_eq_self rfl, fun _ => rfl⟩

/-- **The guest's CR4 is read.** After `kvm_set_cr4` accepted a value, in any mode, and throughout
every later run of entries, exits and reads in which the guest changes bits it owns, `kvm_read_cr4`
returns what the guest reads: the value with the guest's changes. The same holds for `vmx_set_cr4`
with the value on any vCPU, so whatever registers were marked as available. -/
theorem guest_cr4_shown {is_valid_cr4 : BitVec 64 → Bool} {cr4 : BitVec 64} {vcpu vcpu' : Vcpu}
    (hmask : HasCr4Mask vcpu) (h : kvm_set_cr4 cfg is_valid_cr4 cr4 vcpu = (0, vcpu')) :
    (∀ s, Transition.Run (cr4System cfg vcpu' cr4) (fun _ _ => True) s →
      (kvm_read_cr4 cfg s.vcpu).1 = s.seen ∧ guest_cr4 s.vcpu = s.seen) ∧
    ∀ w, HasCr4Mask w → ∀ s,
      Transition.Run (cr4System cfg (vmx_set_cr4 cfg cr4 w) cr4) (fun _ _ => True) s →
      (kvm_read_cr4 cfg s.vcpu).1 = s.seen ∧ guest_cr4 s.vcpu = s.seen := by
  obtain ⟨u, href, hrefused | ⟨hset, haccepted⟩⟩ := kvm_set_cr4_cases cfg is_valid_cr4 cr4 vcpu
  · rw [h] at hrefused
    exact absurd (Prod.mk.inj hrefused).1 (by decide)
  · have hall : ∀ w, HasCr4Mask w → ∀ s,
        Transition.Run (cr4System cfg (vmx_set_cr4 cfg cr4 w) cr4) (fun _ _ => True) s →
        (kvm_read_cr4 cfg s.vcpu).1 = s.seen ∧ guest_cr4 s.vcpu = s.seen := by
      intro w hw s hrun
      have hshows : Shows s := by
        refine hrun.invariant Shows ?_ ?_
        · rintro s rfl
          exact vmx_set_cr4_shows cfg hw haccepted.valid
        · rintro s e s' hs - rfl
          exact hs.event e
      exact ⟨hshows.kvm_read_cr4 cfg, hshows.guest_cr4⟩
    refine ⟨?_, hall⟩
    rw [h] at hset
    rw [(Prod.mk.inj hset).2]
    exact hall u (hmask.of_fields href.fields)

/-- EPT and a guest that is not unrestricted. -/
def pmode_config : Config := ⟨true, false, false, false, none⟩

/-- A vCPU before its first CR4, with paging. -/
def paging_vcpu : Vcpu :=
  set_cr4_guest_host_mask pmode_config
    { toVcpu := ⟨0x80000011, fun _ => false, 0, 0, 0, 0⟩
      cr3 := 0, cr4 := 0, efer := 0, cr4_guest_owned_bits := 0, cr4_guest_rsvd_bits := 0
      GUEST_CR3 := 0, GUEST_CR4 := 0, CR4_READ_SHADOW := 0, CR4_GUEST_HOST_MASK := 0 }

/-- PAE and PGE are set. -/
theorem guest_cr4_shown_pge :
    (kvm_set_cr4 pmode_config (fun _ => true) 0xA0 paging_vcpu).1 = 0 ∧ ∀ s,
    Transition.Run (cr4System pmode_config
      (kvm_set_cr4 pmode_config (fun _ => true) 0xA0 paging_vcpu).2 0xA0) (fun _ _ => True) s →
      (kvm_read_cr4 pmode_config s.vcpu).1 = s.seen ∧ guest_cr4 s.vcpu = s.seen := by
  have haccepted : (kvm_set_cr4 pmode_config (fun _ => true) 0xA0 paging_vcpu).1 = 0 := by decide
  exact ⟨haccepted, (guest_cr4_shown ⟨pmode_config, rfl⟩ (Prod.ext haccepted rfl)).1⟩

end Svmx.Cr4
