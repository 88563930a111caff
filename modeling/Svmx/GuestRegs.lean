/-
The control registers of the guest, from `kvm_vcpu_reset` on through any number of entries and exits.

The reset gives the guest the registers of the processor it runs on. CR3 goes by way of the cache:
`vmx_load_mmu_pgd` stores it before an entry, and an exit takes it back on the next read. That works as
long as the guest runs on its own CR3 (`cr3_shown`); where it has paging off and is not unrestricted,
the identity map takes the place of CR3 and nothing keeps the value. CR0 is not passed on as it was: the
reset sets ET, NW and CD in it, and the bits that the guest owns are forced (`first_entry_seamless`). A
write to CR0 that exits is carried out with 0, whatever the guest wrote, since `kvm_register_read`
returns 0 and nothing sets EFER (`mov_to_cr0`).
-/
import Svmx.CrLegal
import Svmx.LazyReg

set_option autoImplicit false

namespace Svmx.GuestRegs

open Blend LazyReg Cr0.KvmReg

/-! ## The vCPU -/

/-- The vCPU of `Cr4` with its dirty registers and the other registers of the guest. -/
structure Vcpu extends toCr : Cr4.Vcpu where
  regs_dirty : Cr0.KvmReg → Bool
  rsp : BitVec 64
  pdptrs : Fin 4 → BitVec 64
  GUEST_RSP : BitVec 64
  GUEST_RIP : BitVec 64
  GUEST_RFLAGS : BitVec 64
  GUEST_PDPTR : Fin 4 → BitVec 64
  GUEST_IDTR_BASE : BitVec 64
  GUEST_IDTR_LIMIT : BitVec 32
  GUEST_GDTR_BASE : BitVec 64
  GUEST_GDTR_LIMIT : BitVec 32

/-- The configuration of `Cr4`, the identity map of `struct kvm_vmx`, and the address of
`vm_restore_state`. -/
structure Config extends toCr : Cr4.Config where
  ept_identity_map_addr : BitVec 64
  vm_restore_state : BitVec 64

/-- `struct desc_ptr`. -/
structure DescPtr where
  size : BitVec 16
  address : BitVec 64
deriving DecidableEq

/-- What `kvm_vcpu_reset` reads of the processor. -/
structure Host where
  cr0 : BitVec 64
  cr3 : BitVec 64
  cr4 : BitVec 64
  rflags : BitVec 64
  idt : DescPtr
  gdt : DescPtr

/-- `kvm_register_mark_dirty`. -/
def kvm_register_mark_dirty (reg : Cr0.KvmReg) (vcpu : Vcpu) : Vcpu :=
  { vcpu with
    regs_avail := Function.update vcpu.regs_avail reg true
    regs_dirty := Function.update vcpu.regs_dirty reg true }

/-- A function on the control registers. -/
def onCr (f : Cr4.Vcpu → Cr4.Vcpu) (vcpu : Vcpu) : Vcpu := { vcpu with toCr := f vcpu.toCr }

/-! ## The reset -/

/-- `X86_EFLAGS_IOPL | X86_EFLAGS_VM`. -/
def RMODE_RFLAGS : BitVec 64 := 0x3000 ||| 0x20000

/-- `vmx_set_rflags`, as far as the VMCS is concerned. -/
def vmx_set_rflags (cfg : Config) (rflags : BitVec 64) (vcpu : Vcpu) : Vcpu :=
  { vcpu with
    regs_avail := if cfg.is_unrestricted_guest then
        Function.update vcpu.regs_avail VCPU_EXREG_RFLAGS true
      else vcpu.regs_avail
    GUEST_RFLAGS := if !cfg.is_unrestricted_guest && cfg.vm86_active then rflags ||| RMODE_RFLAGS
      else rflags }

/-- `vmx_set_idt`. -/
def vmx_set_idt (dt : DescPtr) (vcpu : Vcpu) : Vcpu :=
  { vcpu with GUEST_IDTR_LIMIT := dt.size.zeroExtend 32, GUEST_IDTR_BASE := dt.address }

/-- `vmx_set_gdt`. -/
def vmx_set_gdt (dt : DescPtr) (vcpu : Vcpu) : Vcpu :=
  { vcpu with GUEST_GDTR_LIMIT := dt.size.zeroExtend 32, GUEST_GDTR_BASE := dt.address }

/-- What `vmx_set_cr0` and `init_vmcs` ask of the configuration. -/
def cr0_config (cfg : Config) (vcpu : Vcpu) : Cr0.Config :=
  Cr4.cr0_config cfg.toCr false vcpu.toCr

/-- `init_vmcs`, of the registers here. -/
def init_vmcs (cfg : Config) (vcpu : Vcpu) : Vcpu :=
  let vcpu := onCr (fun v => { v with toVcpu := Cr0.init_vmcs (cr0_config cfg vcpu) v.toVcpu }) vcpu
  let vcpu := onCr (Cr4.set_cr4_guest_host_mask cfg.toCr) vcpu
  { vcpu with GUEST_RIP := cfg.vm_restore_state }

/-- `vmx_vcpu_reset`, of the registers here. -/
def vmx_vcpu_reset (cfg : Config) (h : Host) (init_event : Bool) (vcpu : Vcpu) : Vcpu :=
  if init_event then vcpu
  else init_vmcs cfg (vmx_set_rflags cfg h.rflags (vmx_set_gdt h.gdt (vmx_set_idt h.idt vcpu)))

/-- `vmx_set_cr0`. -/
def vmx_set_cr0 (cfg : Config) (cr0 : BitVec 64) (vcpu : Vcpu) : Vcpu :=
  onCr (fun v => { v with toVcpu := Cr0.vmx_set_cr0 (cr0_config cfg vcpu) cr0 v.toVcpu }) vcpu

/-- `kvm_vcpu_reset`; the debug registers, CR2 and the segments are not among the registers here, and
`vmx_set_efer` is empty. -/
def kvm_vcpu_reset (cfg : Config) (h : Host) (init_event : Bool) (vcpu : Vcpu) : Vcpu :=
  let (old_cr0, cr) := Cr4.kvm_read_cr0 vcpu.toCr
  let vcpu := { vcpu with toCr := cr, rsp := 0 }
  let vcpu := kvm_register_mark_dirty VCPU_REGS_RSP vcpu
  let vcpu := vmx_vcpu_reset cfg h init_event vcpu
  let vcpu := vmx_set_rflags cfg h.rflags vcpu
  let vcpu := kvm_register_mark_dirty VCPU_EXREG_CR3 { vcpu with cr3 := h.cr3 }
  let new_cr0 := h.cr0 ||| Cr0.X86_CR0_ET
  let new_cr0 := if init_event then
      new_cr0 ||| (old_cr0 &&& (Cr0.X86_CR0_NW ||| Cr0.X86_CR0_CD))
    else new_cr0 ||| (Cr0.X86_CR0_NW ||| Cr0.X86_CR0_CD)
  onCr (Cr4.vmx_set_cr4 cfg.toCr h.cr4) (vmx_set_cr0 cfg new_cr0 vcpu)

/-! ## The entry -/

/-- `is_pae_paging`; PAE and PG are no bits the guest may own, so the reads refresh nothing. -/
def is_pae_paging (cfg : Config) (vcpu : Vcpu) : Bool :=
  !Cr4.is_long_mode vcpu.toCr &&
    (Cr4.kvm_read_cr4_bits cfg.toCr Cr4.X86_CR4_PAE vcpu.toCr).1 != 0 &&
    Cr4.is_paging vcpu.toCr

/-- `vmx_ept_load_pdptrs`. -/
def vmx_ept_load_pdptrs (cfg : Config) (vcpu : Vcpu) : Vcpu :=
  if vcpu.regs_dirty VCPU_EXREG_PDPTR && is_pae_paging cfg vcpu then
    { vcpu with GUEST_PDPTR := vcpu.pdptrs }
  else vcpu

/-- `kvm_get_active_pcid`: the PCID, and the vCPU with CR3 refreshed. -/
def kvm_get_active_pcid (cfg : Config) (vcpu : Vcpu) : BitVec 64 × Vcpu :=
  let (cr3, cr) := Cr4.kvm_read_cr3 cfg.toCr vcpu.toCr
  (if (Cr4.kvm_read_cr4_bits cfg.toCr Cr4.X86_CR4_PCIDE cr).1 ≠ 0 then
      cr3 &&& Cr4.X86_CR3_PCID_MASK
    else 0, { vcpu with toCr := cr })

/-- The condition under which the guest runs on its own CR3 with EPT. -/
def own_cr3 (cfg : Config) (vcpu : Vcpu) : Bool :=
  cfg.is_unrestricted_guest || Cr4.is_paging vcpu.toCr

/-- `vmx_load_mmu_pgd`, its `GUEST_CR3` half. The casts to `unsigned long` keep 32 bits. -/
def vmx_load_mmu_pgd (cfg : Config) (root_hpa : BitVec 64) (vcpu : Vcpu) : Vcpu :=
  if cfg.enable_ept then
    let vcpu := vmx_ept_load_pdptrs cfg vcpu
    if !cfg.is_unrestricted_guest && !Cr4.is_paging vcpu.toCr then
      { vcpu with GUEST_CR3 := cfg.ept_identity_map_addr &&& Cr4.MAXULONG }
    else if vcpu.regs_dirty VCPU_EXREG_CR3 then { vcpu with GUEST_CR3 := vcpu.cr3 }
    else vcpu
  else
    let (pcid, vcpu) := kvm_get_active_pcid cfg vcpu
    { vcpu with GUEST_CR3 := (root_hpa ||| pcid) &&& Cr4.MAXULONG }

/-- What the guest does to its registers between an entry and the exit. It changes only the bits of
CR0 and CR4 that it owns, and CR3 only where that causes no exit. -/
structure Guest where
  cr0 : BitVec 64
  cr3 : BitVec 64 → BitVec 64
  cr4 : BitVec 64
  rsp : BitVec 64
  rip : BitVec 64
  rflags : BitVec 64

/-- The guest runs, and the processor saves what it leaves in the VMCS. -/
def guest_runs (cfg : Config) (g : Guest) (vcpu : Vcpu) : Vcpu :=
  { vcpu with
    GUEST_CR0 := blend (~~~vcpu.CR0_GUEST_HOST_MASK) g.cr0 vcpu.GUEST_CR0
    GUEST_CR3 := if cfg.cr3_load_exiting then vcpu.GUEST_CR3 else g.cr3 vcpu.GUEST_CR3
    GUEST_CR4 := blend (~~~vcpu.CR4_GUEST_HOST_MASK) g.cr4 vcpu.GUEST_CR4
    GUEST_RSP := g.rsp
    GUEST_RIP := g.rip
    GUEST_RFLAGS := g.rflags }

/-- `vmx_vcpu_run` up to the entry, with the write of GUEST_RSP in `vmx_vcpu_enter_exit`. -/
def vmx_vcpu_enter (guest_stack_pointer : BitVec 64) (vcpu : Vcpu) : Vcpu :=
  -- neither RSP nor RIP is stored: these lines are commented out
  { vcpu with regs_dirty := fun _ => false, GUEST_RSP := guest_stack_pointer }

/-- `vmx_vcpu_run`. With `emulation_required` the guest is not entered. -/
def vmx_vcpu_run (cfg : Config) (guest_stack_pointer : BitVec 64) (emulation_required : Bool)
    (g : Guest) (vcpu : Vcpu) : Vcpu :=
  if emulation_required then
    { vcpu with
      regs_avail := Function.update (Function.update vcpu.regs_avail VCPU_EXREG_EXIT_INFO_1 true)
        VCPU_EXREG_EXIT_INFO_2 true }
  else { guest_runs cfg g (vmx_vcpu_enter guest_stack_pointer vcpu) with regs_avail := fun _ => false }

/-- `handle_cr`; `cs_l` is what the vendor's `get_cs_db_l_bits` answers. The value that is written is
that of `kvm_register_read`, which returns 0 for every register. -/
def handle_cr (cfg : Config) (cs_l : Bool) (exit_qualification : BitVec 64) (vcpu : Vcpu) : ℤ × Vcpu :=
  if (exit_qualification >>> 4) &&& 3 = 0 ∧ exit_qualification &&& 15 = 0 then
    (0, onCr (fun v => (Cr4.kvm_set_cr0 cfg.toCr cs_l 0 v).2) vcpu)
  else (0, vcpu)

/-! ## Runs -/

/-- A vCPU, and the CR3 of its guest: what the reset gave it and the guest has made of it. -/
structure Shown where
  vcpu : Vcpu
  cr3 : BitVec 64

/-- What may happen: `kvm_mmu_load` and `vmx_vcpu_run`, an exit for a control register, another call,
or a read. -/
inductive Event where
  | enter (root_hpa guest_stack_pointer : BitVec 64) (emulation_required : Bool) (g : Guest)
  | handle_cr (cs_l : Bool) (exit_qualification : BitVec 64)
  | call (c : Cr4.Call)
  | read_cr0 (mask : BitVec 64)
  | read_cr3
  | read_cr4 (mask : BitVec 64)

/-- One event. -/
def event (cfg : Config) (s : Shown) : Event → Shown
  | .enter root_hpa guest_stack_pointer emulation_required g =>
    { vcpu := vmx_vcpu_run cfg guest_stack_pointer emulation_required g
        (vmx_load_mmu_pgd cfg root_hpa s.vcpu)
      cr3 := if emulation_required then s.cr3 else g.cr3 s.cr3 }
  | .handle_cr cs_l exit_qualification =>
    { s with vcpu := (handle_cr cfg cs_l exit_qualification s.vcpu).2 }
  | .call c => { s with vcpu := onCr (fun v => (Cr4.call cfg.toCr v c).2) s.vcpu }
  | .read_cr0 mask => { s with vcpu := onCr (fun v => (Cr4.kvm_read_cr0_bits mask v).2) s.vcpu }
  | .read_cr3 => { s with vcpu := onCr (fun v => (Cr4.kvm_read_cr3 cfg.toCr v).2) s.vcpu }
  | .read_cr4 mask =>
    { s with vcpu := onCr (fun v => (Cr4.kvm_read_cr4_bits cfg.toCr mask v).2) s.vcpu }

/-- The runs from a reset on. -/
def resetSystem (cfg : Config) (h : Host) (vcpu : Vcpu) : Transition.System Shown Event where
  init s := s = ⟨kvm_vcpu_reset cfg h false vcpu, h.cr3⟩
  step s e s' := s' = event cfg s e

/-- Every entry is one on the guest's own CR3. -/
def Meets (cfg : Config) (s : Shown) : Event → Prop
  | .enter _ _ _ _ => own_cr3 cfg s.vcpu = true
  | _ => True

/-! ## CR3 -/

/-- CR3 as a register with a copy. -/
def cr3Reg (vcpu : Vcpu) : Reg (BitVec 64) where
  home := vcpu.GUEST_CR3
  copy := vcpu.cr3
  avail := vcpu.regs_avail VCPU_EXREG_CR3
  dirty := vcpu.regs_dirty VCPU_EXREG_CR3

section Cr3

variable {cfg : Config} {h : Host} {v : Vcpu}

/-- What CR3 depends on. -/
structure SameCr3 (u w : Cr4.Vcpu) : Prop where
  guest : w.GUEST_CR3 = u.GUEST_CR3
  copy : w.cr3 = u.cr3
  avail : w.regs_avail VCPU_EXREG_CR3 = u.regs_avail VCPU_EXREG_CR3

theorem SameCr3.reg {cr cr' : Cr4.Vcpu} (hsame : SameCr3 cr cr') :
    cr3Reg { v with toCr := cr' } = cr3Reg { v with toCr := cr } := by
  unfold cr3Reg
  dsimp only
  rw [hsame.guest, hsame.copy, hsame.avail]

/-- Caching a register fetches CR3 or leaves it alone. -/
theorem cache_reg_cr3 (hexit : cfg.cr3_load_exiting = false) (reg : Cr0.KvmReg) (cr : Cr4.Vcpu) :
    cr3Reg { v with toCr := Cr4.vmx_cache_reg cfg.toCr reg cr } =
      if reg = VCPU_EXREG_CR3 then (cr3Reg { v with toCr := cr }).fetch
      else cr3Reg { v with toCr := cr } := by
  split
  next heq =>
    subst heq
    unfold Cr4.vmx_cache_reg
    dsimp only
    rw [hexit]
    rfl
  next hne =>
    have hsame : SameCr3 cr (Cr4.vmx_cache_reg cfg.toCr reg cr) := by
      have hfields := Cr4.cache_reg_fields cfg.toCr reg cr
      refine ⟨hfields.cr3_guest, ?_, ?_⟩
      · cases reg with
        | VCPU_EXREG_CR3 => exact absurd rfl hne
        | _ => rfl
      · cases reg with
        | VCPU_EXREG_CR3 => exact absurd rfl hne
        | _ => rfl
    exact hsame.reg

/-- **Reads** change nothing that is seen of CR3. -/
theorem refreshed_cr3 (hexit : cfg.cr3_load_exiting = false) {cr : Cr4.Vcpu}
    (hread : Cr4.Refreshed cfg.toCr v.toCr cr) (hv : (cr3Reg v).Coherent) :
    (cr3Reg { v with toCr := cr }).Coherent ∧
      (cr3Reg { v with toCr := cr }).value = (cr3Reg v).value := by
  induction hread with
  | refl => exact ⟨hv, rfl⟩
  | cache _ reg ha ih =>
    rw [cache_reg_cr3 hexit]
    split
    next heq =>
      subst heq
      obtain ⟨hfetch, hvalue⟩ := ih.1.fetch ha
      exact ⟨hfetch, hvalue.trans ih.2⟩
    next => exact ih

theorem read_cr3_value (hexit : cfg.cr3_load_exiting = false) (vcpu : Vcpu) :
    (Cr4.kvm_read_cr3 cfg.toCr vcpu.toCr).1 = (cr3Reg vcpu).value := by
  refine (Cr4.cr3Value_eq cfg.toCr vcpu.toCr).trans ?_
  unfold Reg.value cr3Reg
  dsimp only
  rw [hexit]
  simp

theorem set_cr0_cr3 (cs_l : Bool) (cr0 : BitVec 64) (cr : Cr4.Vcpu) :
    SameCr3 cr (Cr4.kvm_set_cr0 cfg.toCr cs_l cr0 cr).2 := by
  refine ⟨rfl, rfl, ?_⟩
  unfold Cr4.kvm_set_cr0 Cr0.kvm_set_cr0
  dsimp only
  split
  · rfl
  · split
    · rfl
    · split
      · rfl
      · split
        · rfl
        · rw [Cr4.vmx_set_cr0_eq]
          rfl

/-- **A call** reads, and then leaves CR3 alone. -/
theorem call_cr3 (c : Cr4.Call) (cr : Cr4.Vcpu) :
    ∃ u, Cr4.Refreshed cfg.toCr cr u ∧ SameCr3 u (Cr4.call cfg.toCr cr c).2 := by
  cases c with
  | set_cr0 cs_l cr0 => exact ⟨cr, .refl, set_cr0_cr3 cs_l cr0 cr⟩
  | set_cr4 is_valid_cr4 cr4 =>
    obtain ⟨u, hread, hset | ⟨hset, -⟩⟩ := Cr4.kvm_set_cr4_cases cfg.toCr is_valid_cr4 cr4 cr
    · refine ⟨u, hread, ?_⟩
      rw [Cr4.call, hset]
      exact ⟨rfl, rfl, rfl⟩
    · refine ⟨u, hread, ?_⟩
      rw [Cr4.call, hset]
      exact ⟨rfl, rfl, rfl⟩
  | lmsw cs_l msw =>
    exact ⟨_, Cr4.read_cr0_refreshed cfg.toCr (Cr4.not32 0x0e) cr, set_cr0_cr3 cs_l _ _⟩

/-- After the reset the copy is to be stored. -/
theorem reset_cr3 (cfg : Config) (h : Host) (init_event : Bool) (v : Vcpu) :
    (cr3Reg (kvm_vcpu_reset cfg h init_event v)).Coherent ∧
      (cr3Reg (kvm_vcpu_reset cfg h init_event v)).value = h.cr3 := by
  have hcopy : (kvm_vcpu_reset cfg h init_event v).cr3 = h.cr3 := rfl
  have havail : (kvm_vcpu_reset cfg h init_event v).regs_avail VCPU_EXREG_CR3 = true := by
    unfold kvm_vcpu_reset vmx_set_cr0 onCr Cr4.vmx_set_cr4
    dsimp only
    rw [Cr4.vmx_set_cr0_eq]
    rfl
  have hdirty : (kvm_vcpu_reset cfg h init_event v).regs_dirty VCPU_EXREG_CR3 = true := rfl
  refine ⟨⟨fun _ => havail, fun _ hclean => ?_⟩, ?_⟩
  · exact absurd (hdirty.symm.trans hclean) Bool.noConfusion
  · unfold Reg.value cr3Reg
    dsimp only
    rw [havail]
    exact hcopy

/-- On its own CR3 the guest is entered with what is stored. -/
theorem load_mmu_pgd_own (hept : cfg.enable_ept = true) (hown : own_cr3 cfg v = true)
    (root_hpa : BitVec 64) : cr3Reg (vmx_load_mmu_pgd cfg root_hpa v) = (cr3Reg v).store := by
  have hpdptrs : (vmx_ept_load_pdptrs cfg v).toCr = v.toCr ∧
      (vmx_ept_load_pdptrs cfg v).regs_dirty = v.regs_dirty := by
    unfold vmx_ept_load_pdptrs
    split <;> exact ⟨rfl, rfl⟩
  have hnot : ¬ (!cfg.is_unrestricted_guest && !Cr4.is_paging v.toCr) = true := by
    unfold own_cr3 at hown
    revert hown
    cases cfg.is_unrestricted_guest <;> cases Cr4.is_paging v.toCr <;> decide
  unfold vmx_load_mmu_pgd Reg.store
  dsimp only
  rw [if_pos hept, hpdptrs.1, if_neg hnot, hpdptrs.2]
  unfold cr3Reg
  dsimp only
  split
  · rfl
  · rw [hpdptrs.1, hpdptrs.2]

/-- Otherwise it is entered with the identity map. -/
theorem load_mmu_pgd_identity (hept : cfg.enable_ept = true) (hown : own_cr3 cfg v = false)
    (root_hpa : BitVec 64) : (vmx_load_mmu_pgd cfg root_hpa v).GUEST_CR3 =
      cfg.ept_identity_map_addr &&& Cr4.MAXULONG := by
  have hpdptrs : (vmx_ept_load_pdptrs cfg v).toCr = v.toCr := by
    unfold vmx_ept_load_pdptrs
    split <;> rfl
  have hnot : (!cfg.is_unrestricted_guest && !Cr4.is_paging v.toCr) = true := by
    unfold own_cr3 at hown
    revert hown
    cases cfg.is_unrestricted_guest <;> cases Cr4.is_paging v.toCr <;> decide
  unfold vmx_load_mmu_pgd
  dsimp only
  rw [if_pos hept, hpdptrs, if_pos hnot]

/-- **One event** keeps CR3, as long as the guest is entered on its own. -/
theorem event_cr3 (hept : cfg.enable_ept = true) (hexit : cfg.cr3_load_exiting = false) {s : Shown}
    (hs : (cr3Reg s.vcpu).Coherent ∧ (cr3Reg s.vcpu).value = s.cr3) {e : Event}
    (hmeets : Meets cfg s e) :
    (cr3Reg (event cfg s e).vcpu).Coherent ∧
      (cr3Reg (event cfg s e).vcpu).value = (event cfg s e).cr3 := by
  obtain ⟨hcoh, hvalue⟩ := hs
  cases e with
  | enter root_hpa guest_stack_pointer emulation_required g =>
    have hload := load_mmu_pgd_own hept hmeets root_hpa
    cases emulation_required with
    | true =>
      have hsame : cr3Reg (event cfg s (.enter root_hpa guest_stack_pointer true g)).vcpu =
          (cr3Reg s.vcpu).store := hload
      rw [hsame]
      exact ⟨hcoh.store.1, hcoh.store.2.trans hvalue⟩
    | false =>
      have huse : cr3Reg (event cfg s (.enter root_hpa guest_stack_pointer false g)).vcpu =
          (cr3Reg s.vcpu).store.use g.cr3 := by
        rw [← hload]
        unfold event vmx_vcpu_run guest_runs vmx_vcpu_enter cr3Reg
        simp [hexit, Reg.use]
      rw [huse]
      obtain ⟨hcoh', hvalue'⟩ := hcoh.use_store g.cr3
      exact ⟨hcoh', hvalue'.trans (congrArg g.cr3 hvalue)⟩
  | handle_cr cs_l exit_qualification =>
    have hsame : cr3Reg (handle_cr cfg cs_l exit_qualification s.vcpu).2 = cr3Reg s.vcpu := by
      unfold handle_cr
      split
      · exact (set_cr0_cr3 cs_l 0 s.vcpu.toCr).reg
      · rfl
    change (cr3Reg (handle_cr cfg cs_l exit_qualification s.vcpu).2).Coherent ∧ _
    rw [hsame]
    exact ⟨hcoh, (congrArg Reg.value hsame).trans hvalue⟩
  | call c =>
    obtain ⟨u, hread, hsame⟩ := call_cr3 c s.vcpu.toCr
    obtain ⟨hcoh', hvalue'⟩ := refreshed_cr3 hexit hread hcoh
    have hreg : cr3Reg (event cfg s (.call c)).vcpu = cr3Reg { s.vcpu with toCr := u } := hsame.reg
    rw [hreg]
    exact ⟨hcoh', hvalue'.trans hvalue⟩
  | read_cr0 mask =>
    obtain ⟨hcoh', hvalue'⟩ := refreshed_cr3 hexit (Cr4.read_cr0_refreshed cfg.toCr mask _) hcoh
    exact ⟨hcoh', hvalue'.trans hvalue⟩
  | read_cr3 =>
    obtain ⟨hcoh', hvalue'⟩ := refreshed_cr3 hexit (Cr4.read_cr3_refreshed cfg.toCr _) hcoh
    exact ⟨hcoh', hvalue'.trans hvalue⟩
  | read_cr4 mask =>
    obtain ⟨hcoh', hvalue'⟩ := refreshed_cr3 hexit (Cr4.read_cr4_refreshed cfg.toCr mask _) hcoh
    exact ⟨hcoh', hvalue'.trans hvalue⟩

/-- An entry on the identity map: the host reads what the guest has made of that. -/
theorem enter_identity (hept : cfg.enable_ept = true) (hexit : cfg.cr3_load_exiting = false) {s : Shown}
    (hown : own_cr3 cfg s.vcpu = false) (root_hpa guest_stack_pointer : BitVec 64) (g : Guest) :
    (Cr4.kvm_read_cr3 cfg.toCr
        (event cfg s (.enter root_hpa guest_stack_pointer false g)).vcpu.toCr).1 =
      g.cr3 (cfg.ept_identity_map_addr &&& Cr4.MAXULONG) := by
  rw [read_cr3_value hexit, ← load_mmu_pgd_identity hept hown root_hpa]
  unfold event vmx_vcpu_run guest_runs vmx_vcpu_enter cr3Reg Reg.value
  simp [hexit]

/-- **CR3 over a run**: as long as the guest is entered on its own CR3, the host reads the CR3 of the
guest, and the next entry is one with it exactly if it is one on the guest's own CR3, or the identity
map happens to be at the same address. After an entry on the identity map the host reads what the guest
has made of that. -/
theorem cr3_shown (hept : cfg.enable_ept = true) (hexit : cfg.cr3_load_exiting = false) {s : Shown}
    (hrun : Transition.Run (resetSystem cfg h v) (Meets cfg) s) :
    (Cr4.kvm_read_cr3 cfg.toCr s.vcpu.toCr).1 = s.cr3 ∧
      (∀ root_hpa, (vmx_load_mmu_pgd cfg root_hpa s.vcpu).GUEST_CR3 = s.cr3 ↔
        own_cr3 cfg s.vcpu = true ∨ cfg.ept_identity_map_addr &&& Cr4.MAXULONG = s.cr3) ∧
      (own_cr3 cfg s.vcpu = false → ∀ root_hpa guest_stack_pointer g,
        (Cr4.kvm_read_cr3 cfg.toCr
            (event cfg s (.enter root_hpa guest_stack_pointer false g)).vcpu.toCr).1 =
          g.cr3 (cfg.ept_identity_map_addr &&& Cr4.MAXULONG)) := by
  obtain ⟨hcoh, hvalue⟩ : (cr3Reg s.vcpu).Coherent ∧ (cr3Reg s.vcpu).value = s.cr3 := by
    refine hrun.invariant (fun s => (cr3Reg s.vcpu).Coherent ∧ (cr3Reg s.vcpu).value = s.cr3) ?_ ?_
    · rintro s rfl
      exact reset_cr3 cfg h false v
    · rintro s e s' hs hmeets rfl
      exact event_cr3 hept hexit hs hmeets
  refine ⟨(read_cr3_value hexit s.vcpu).trans hvalue, ?_, fun hown => enter_identity hept hexit hown⟩
  intro root_hpa
  cases hown : own_cr3 cfg s.vcpu with
  | true =>
    refine iff_of_true ?_ (Or.inl rfl)
    have hhome := congrArg Reg.home (load_mmu_pgd_own hept hown root_hpa)
    exact hhome.trans (hcoh.store_home.trans hvalue)
  | false =>
    rw [load_mmu_pgd_identity hept hown root_hpa]
    simp

end Cr3

/-! ## The first entry -/

/-- What the guest finds in its registers. -/
structure View where
  cr0 : BitVec 64
  cr3 : BitVec 64
  cr4 : BitVec 64
  rflags : BitVec 64
  rsp : BitVec 64
  rip : BitVec 64
  idtr_base : BitVec 64
  idtr_limit : BitVec 32
  gdtr_base : BitVec 64
  gdtr_limit : BitVec 32
deriving DecidableEq

def guest_view (vcpu : Vcpu) : View where
  cr0 := Cr0.guest_cr0 vcpu.toCr.toVcpu
  cr3 := vcpu.GUEST_CR3
  cr4 := Cr4.guest_cr4 vcpu.toCr
  rflags := vcpu.GUEST_RFLAGS
  rsp := vcpu.GUEST_RSP
  rip := vcpu.GUEST_RIP
  idtr_base := vcpu.GUEST_IDTR_BASE
  idtr_limit := vcpu.GUEST_IDTR_LIMIT
  gdtr_base := vcpu.GUEST_GDTR_BASE
  gdtr_limit := vcpu.GUEST_GDTR_LIMIT

/-- The processor that the reset ran on, at another place of its code and its stack. -/
def host_view (h : Host) (rsp rip : BitVec 64) : View where
  cr0 := h.cr0
  cr3 := h.cr3
  cr4 := h.cr4
  rflags := h.rflags
  rsp := rsp
  rip := rip
  idtr_base := h.idt.address
  idtr_limit := h.idt.size.zeroExtend 32
  gdtr_base := h.gdt.address
  gdtr_limit := h.gdt.size.zeroExtend 32

/-- The bits of CR0 that the guest may own. -/
def cr0_owned (cfg : Config) : BitVec 64 :=
  Cr0.vmx_l1_guest_owned_cr0_bits ⟨cfg.enable_ept, cfg.is_unrestricted_guest, false, false⟩

/-- The CR0 that the reset sets. -/
def reset_cr0 (h : Host) : BitVec 64 :=
  h.cr0 ||| Cr0.X86_CR0_ET ||| (Cr0.X86_CR0_NW ||| Cr0.X86_CR0_CD)

/-- A guest with EPT that is not unrestricted. -/
def ept_config : Config :=
  { enable_ept := true, is_unrestricted_guest := false, vm86_active := false, cr3_load_exiting := false
    cr4_guest_host_mask := none, ept_identity_map_addr := 0, vm_restore_state := 0x140001000 }

/-- A processor with paging on, as a 64-bit system has it. -/
def paging_host : Host where
  cr0 := 0x80050033
  cr3 := 0x1AD000
  cr4 := 0x350678
  rflags := 0x202
  idt := ⟨0xFFF, 0xFFFFF80012340000⟩
  gdt := ⟨0x57, 0xFFFFF80012341000⟩

/-- A vCPU as `kvm_arch_vcpu_create` begins with it. -/
def new_vcpu : Vcpu :=
  { cr0 := 0, regs_avail := fun _ => true, cr0_guest_owned_bits := 0, GUEST_CR0 := 0
    CR0_READ_SHADOW := 0, CR0_GUEST_HOST_MASK := 0, cr3 := 0, cr4 := 0, efer := 0
    cr4_guest_owned_bits := 0, cr4_guest_rsvd_bits := 0, GUEST_CR3 := 0, GUEST_CR4 := 0
    CR4_READ_SHADOW := 0, CR4_GUEST_HOST_MASK := 0, regs_dirty := fun _ => true, rsp := 0
    pdptrs := fun _ => 0, GUEST_RSP := 0, GUEST_RIP := 0, GUEST_RFLAGS := 0, GUEST_PDPTR := fun _ => 0
    GUEST_IDTR_BASE := 0, GUEST_IDTR_LIMIT := 0, GUEST_GDTR_BASE := 0, GUEST_GDTR_LIMIT := 0 }

/-- Its vCPU after the reset. -/
def paging_start : Shown := ⟨kvm_vcpu_reset ept_config paging_host false new_vcpu, paging_host.cr3⟩

/-- The first entry is one with the CR3 of the processor. -/
theorem cr3_shown_start :
    (Cr4.kvm_read_cr3 ept_config.toCr paging_start.vcpu.toCr).1 = 0x1AD000 ∧
      (vmx_load_mmu_pgd ept_config 0x5000 paging_start.vcpu).GUEST_CR3 = 0x1AD000 :=
  have hshown := @cr3_shown ept_config paging_host new_vcpu rfl rfl paging_start
    (Transition.Run.start paging_start rfl)
  ⟨hshown.1, (hshown.2.1 0x5000).mpr (Or.inl (by decide))⟩

section FirstEntry

variable {cfg : Config} {h : Host} {v : Vcpu}

/-- The vCPU on which `kvm_vcpu_reset` sets CR0. -/
def reset_start (cfg : Config) (h : Host) (v : Vcpu) : Vcpu :=
  let vcpu := { v with toCr := (Cr4.kvm_read_cr0 v.toCr).2, rsp := 0 }
  let vcpu := vmx_vcpu_reset cfg h false (kvm_register_mark_dirty VCPU_REGS_RSP vcpu)
  kvm_register_mark_dirty VCPU_EXREG_CR3 { vmx_set_rflags cfg h.rflags vcpu with cr3 := h.cr3 }

theorem kvm_vcpu_reset_eq (cfg : Config) (h : Host) (v : Vcpu) : kvm_vcpu_reset cfg h false v =
    onCr (Cr4.vmx_set_cr4 cfg.toCr h.cr4) (vmx_set_cr0 cfg (reset_cr0 h) (reset_start cfg h v)) := rfl

theorem reset_start_owned (cfg : Config) (h : Host) (v : Vcpu) :
    Cr4.Initialised (reset_start cfg h v).toCr ∧
      (reset_start cfg h v).cr0_guest_owned_bits = cr0_owned cfg ∧
      (reset_start cfg h v).CR0_GUEST_HOST_MASK = ~~~cr0_owned cfg ∧
      (reset_start cfg h v).efer = v.efer :=
  ⟨⟨⟨⟨cfg.enable_ept, cfg.is_unrestricted_guest, false, false⟩, rfl⟩, ⟨cfg.toCr, rfl⟩⟩, rfl, rfl, rfl⟩

/-- PG is no bit the guest may own. -/
theorem is_paging_eq (cr : Cr4.Vcpu) : Cr4.is_paging cr = (cr.cr0 &&& Cr0.X86_CR0_PG != 0) := by
  have hmask : Cr0.X86_CR0_PG &&& Cr0.KVM_POSSIBLE_CR0_GUEST_BITS = 0 := by decide
  simp [Cr4.is_paging, Cr4.kvm_read_cr0_bits, Cr0.kvm_read_cr0_bits, hmask]

/-- The guest sees a CR0 that was set with its owned bits set, whatever they were. -/
theorem set_cr0_seen {c : Cr0.Config} {u : Cr0.Vcpu}
    (howned : u.cr0_guest_owned_bits = Cr0.vmx_l1_guest_owned_cr0_bits c)
    (hmask : u.CR0_GUEST_HOST_MASK = ~~~Cr0.vmx_l1_guest_owned_cr0_bits c) (value : BitVec 64) :
    Cr0.guest_cr0 (Cr0.vmx_set_cr0 c value u) = Cr0.vmx_l1_guest_owned_cr0_bits c |||
      (value &&& ~~~Cr0.vmx_l1_guest_owned_cr0_bits c) := by
  have hvmcs : Cr0.VmcsCr0 c value (Cr0.vmx_set_cr0 c value u) := by
    rw [Cr4.vmx_set_cr0_eq]
    exact ⟨howned, hmask, rfl, rfl⟩
  exact hvmcs.guest_cr0

/-- **CR0 and CR4 after the reset**, as the guest sees them. -/
theorem reset_seen (cfg : Config) (h : Host) (v : Vcpu) :
    Cr0.guest_cr0 (kvm_vcpu_reset cfg h false v).toCr.toVcpu =
        cr0_owned cfg ||| (reset_cr0 h &&& ~~~cr0_owned cfg) ∧
      Cr4.guest_cr4 (kvm_vcpu_reset cfg h false v).toCr = h.cr4 ∧
      Cr4.is_paging (kvm_vcpu_reset cfg h false v).toCr = (h.cr0 &&& Cr0.X86_CR0_PG != 0) := by
  obtain ⟨hinit, howned, hmask, -⟩ := reset_start_owned cfg h v
  rw [kvm_vcpu_reset_eq]
  refine ⟨set_cr0_seen howned hmask (reset_cr0 h), ?_, ?_⟩
  · have hseen : Cr4.guest_cr4 (onCr (Cr4.vmx_set_cr4 cfg.toCr h.cr4)
          (vmx_set_cr0 cfg (reset_cr0 h) (reset_start cfg h v))).toCr =
        (Cr4.hw_cr4 cfg.toCr (Cr4.is_paging (vmx_set_cr0 cfg (reset_cr0 h) (reset_start cfg h v)).toCr)
          h.cr4 &&& ~~~(reset_start cfg h v).CR4_GUEST_HOST_MASK) |||
          (h.cr4 &&& (reset_start cfg h v).CR4_GUEST_HOST_MASK) := rfl
    rw [hseen, hinit.cr4.mask, BitVec.not_not, BitVec.or_comm]
    exact blend_eq_self (Cr4.hw_cr4_owned cfg.toCr _ h.cr4 hinit.cr4.possible)
  · have hcr0 : (onCr (Cr4.vmx_set_cr4 cfg.toCr h.cr4)
        (vmx_set_cr0 cfg (reset_cr0 h) (reset_start cfg h v))).toCr.cr0 = reset_cr0 h := by
      change (Cr0.vmx_set_cr0 _ _ _).cr0 = _
      rw [Cr4.vmx_set_cr0_eq]
      rfl
    have hpg : (Cr0.X86_CR0_ET ||| (Cr0.X86_CR0_NW ||| Cr0.X86_CR0_CD)) &&& Cr0.X86_CR0_PG = 0#64 := by
      decide
    rw [is_paging_eq, hcr0, reset_cr0, BitVec.or_assoc, BitVec.and_or_distrib_right, hpg,
      BitVec.or_zero]

/-- The guest at its first entry. -/
def first_entry (cfg : Config) (h : Host) (root_hpa guest_stack_pointer : BitVec 64) (v : Vcpu) :
    Vcpu :=
  vmx_vcpu_enter guest_stack_pointer (vmx_load_mmu_pgd cfg root_hpa (kvm_vcpu_reset cfg h false v))

/-- What loading the root changes: CR3 and the PDPTRs. -/
theorem load_mmu_pgd_view (hept : cfg.enable_ept = true) (root_hpa : BitVec 64) (v : Vcpu) :
    guest_view (vmx_load_mmu_pgd cfg root_hpa v) =
      { guest_view v with cr3 := (vmx_load_mmu_pgd cfg root_hpa v).GUEST_CR3 } := by
  have hpdptrs : guest_view (vmx_ept_load_pdptrs cfg v) = guest_view v := by
    unfold vmx_ept_load_pdptrs
    split <;> rfl
  rw [← hpdptrs]
  unfold vmx_load_mmu_pgd
  dsimp only
  rw [if_pos hept]
  split
  · rfl
  · split
    · rfl
    · rfl

/-- **The guest's first entry** finds the registers of the processor, except for CR0. -/
theorem first_entry_view (hept : cfg.enable_ept = true) (hvm86 : cfg.vm86_active = false)
    (hpg : h.cr0 &&& Cr0.X86_CR0_PG ≠ 0) (root_hpa guest_stack_pointer : BitVec 64) :
    guest_view (first_entry cfg h root_hpa guest_stack_pointer v) =
      { host_view h guest_stack_pointer cfg.vm_restore_state with
        cr0 := cr0_owned cfg ||| (reset_cr0 h &&& ~~~cr0_owned cfg) } := by
  obtain ⟨hcr0, hcr4, hpaging⟩ := reset_seen cfg h v
  have hown : own_cr3 cfg (kvm_vcpu_reset cfg h false v) = true := by
    rw [own_cr3, hpaging, Bool.or_eq_true]
    exact Or.inr (bne_iff_ne.mpr hpg)
  have hcr3 : (vmx_load_mmu_pgd cfg root_hpa (kvm_vcpu_reset cfg h false v)).GUEST_CR3 = h.cr3 := by
    obtain ⟨hcoh, hvalue⟩ := reset_cr3 cfg h false v
    exact (congrArg Reg.home (load_mmu_pgd_own hept hown root_hpa)).trans (hcoh.store_home.trans hvalue)
  have hview : guest_view (kvm_vcpu_reset cfg h false v) =
      { host_view h (kvm_vcpu_reset cfg h false v).GUEST_RSP cfg.vm_restore_state with
        cr0 := cr0_owned cfg ||| (reset_cr0 h &&& ~~~cr0_owned cfg)
        cr3 := (kvm_vcpu_reset cfg h false v).GUEST_CR3 } := by
    have hrflags : (kvm_vcpu_reset cfg h false v).GUEST_RFLAGS = h.rflags := by
      change (if !cfg.is_unrestricted_guest && cfg.vm86_active then _ else h.rflags) = h.rflags
      rw [hvm86, Bool.and_false]
      rfl
    unfold guest_view
    rw [hcr0, hcr4, hrflags]
    rfl
  have hload := load_mmu_pgd_view hept root_hpa (kvm_vcpu_reset cfg h false v)
  have henter : guest_view (first_entry cfg h root_hpa guest_stack_pointer v) =
      { guest_view (vmx_load_mmu_pgd cfg root_hpa (kvm_vcpu_reset cfg h false v)) with
        rsp := guest_stack_pointer } := rfl
  rw [henter, hload, hcr3, hview]
  rfl

/-- Setting bits and then others is setting all of them. -/
theorem set_bits_twice {w : ℕ} (a b x : BitVec w) :
    b ||| ((x ||| a) &&& ~~~b) = (a ||| b) ||| (x &&& ~~~(a ||| b)) := by
  apply BitVec.eq_of_getLsbD_eq
  intro i hi
  simp only [BitVec.getLsbD_or, BitVec.getLsbD_and, BitVec.getLsbD_not, hi, decide_true,
    Bool.true_and]
  cases a.getLsbD i <;> cases b.getLsbD i <;> cases x.getLsbD i <;> rfl

/-- **The guest goes on where the processor was**, at `vm_restore_state` and with the saved stack
pointer, exactly if the CR0 of the processor had ET, NW, CD, TS and, with EPT, WP set. -/
theorem first_entry_seamless (hept : cfg.enable_ept = true) (hvm86 : cfg.vm86_active = false)
    (hpg : h.cr0 &&& Cr0.X86_CR0_PG ≠ 0) (root_hpa guest_stack_pointer : BitVec 64) :
    guest_view (first_entry cfg h root_hpa guest_stack_pointer v) =
        host_view h guest_stack_pointer cfg.vm_restore_state ↔
      h.cr0 &&& (Cr0.X86_CR0_ET ||| Cr0.X86_CR0_NW ||| Cr0.X86_CR0_CD ||| cr0_owned cfg) =
        Cr0.X86_CR0_ET ||| Cr0.X86_CR0_NW ||| Cr0.X86_CR0_CD ||| cr0_owned cfg := by
  have hbits : cr0_owned cfg ||| (reset_cr0 h &&& ~~~cr0_owned cfg) =
      (Cr0.X86_CR0_ET ||| Cr0.X86_CR0_NW ||| Cr0.X86_CR0_CD ||| cr0_owned cfg) |||
        (h.cr0 &&& ~~~(Cr0.X86_CR0_ET ||| Cr0.X86_CR0_NW ||| Cr0.X86_CR0_CD ||| cr0_owned cfg)) := by
    rw [← set_bits_twice, reset_cr0, BitVec.or_assoc, ← BitVec.or_assoc Cr0.X86_CR0_ET]
  rw [first_entry_view hept hvm86 hpg, hbits, ← set_bits_eq_iff]
  constructor
  · intro hview
    exact congrArg View.cr0 hview
  · intro hcr0
    rw [hcr0]
    rfl

end FirstEntry

/-- The CR0 of that processor has NW, CD and TS clear: its guest finds another one. -/
theorem first_entry_not_seamless :
    guest_view (first_entry ept_config paging_host 0x5000 0x1000 new_vcpu) ≠
      host_view paging_host 0x1000 0x140001000 :=
  mt (@first_entry_seamless ept_config paging_host new_vcpu rfl rfl (by decide) 0x5000 0x1000).mp
    (by decide)

/-! ## Writes to CR0 -/

/-- What no run changes: the ownership as `init_vmcs` left it, and EFER. -/
structure Steady (cfg : Config) (efer : BitVec 64) (cr : Cr4.Vcpu) : Prop where
  init : Cr4.Initialised cr
  owned : cr.cr0_guest_owned_bits = cr0_owned cfg
  mask : cr.CR0_GUEST_HOST_MASK = ~~~cr0_owned cfg
  efer : cr.efer = efer

section Writes

variable {cfg : Config} {h : Host} {v : Vcpu} {efer : BitVec 64} {u w : Cr4.Vcpu}

/-- The fields that the ownership depends on. -/
theorem initialised_congr (hinit : Cr4.Initialised u)
    (howned : w.cr0_guest_owned_bits = u.cr0_guest_owned_bits)
    (hmask : w.CR0_GUEST_HOST_MASK = u.CR0_GUEST_HOST_MASK)
    (howned4 : w.cr4_guest_owned_bits = u.cr4_guest_owned_bits)
    (hrsvd4 : w.cr4_guest_rsvd_bits = u.cr4_guest_rsvd_bits)
    (hmask4 : w.CR4_GUEST_HOST_MASK = u.CR4_GUEST_HOST_MASK) : Cr4.Initialised w := by
  obtain ⟨⟨c, hc⟩, ⟨c', hc'⟩⟩ := hinit
  have h0 : Cr0.vmx_l1_guest_owned_cr0_bits c = w.cr0_guest_owned_bits :=
    (congrArg Cr0.Vcpu.cr0_guest_owned_bits hc).trans howned.symm
  have h1 : ~~~Cr0.vmx_l1_guest_owned_cr0_bits c = w.CR0_GUEST_HOST_MASK :=
    (congrArg Cr0.Vcpu.CR0_GUEST_HOST_MASK hc).trans hmask.symm
  have h2 := (congrArg Cr4.Vcpu.cr4_guest_owned_bits hc').trans howned4.symm
  have h3 := (congrArg Cr4.Vcpu.cr4_guest_rsvd_bits hc').trans hrsvd4.symm
  have h4 := (congrArg Cr4.Vcpu.CR4_GUEST_HOST_MASK hc').trans hmask4.symm
  refine ⟨⟨c, ?_⟩, ⟨c', ?_⟩⟩
  · unfold Cr0.init_vmcs
    rw [h1, h0]
  · have heq : Cr4.set_cr4_guest_host_mask c' w =
        { w with
          cr4_guest_rsvd_bits := (Cr4.set_cr4_guest_host_mask c' u).cr4_guest_rsvd_bits
          cr4_guest_owned_bits := (Cr4.set_cr4_guest_host_mask c' u).cr4_guest_owned_bits
          CR4_GUEST_HOST_MASK := (Cr4.set_cr4_guest_host_mask c' u).CR4_GUEST_HOST_MASK } := rfl
    rw [heq, h2, h3, h4]

theorem Steady.refreshed (hs : Steady cfg efer u) (hread : Cr4.Refreshed cfg.toCr u w) :
    Steady cfg efer w :=
  have hfields := hread.fields
  ⟨hs.init.of_fields hfields, hfields.cr0_owned.trans hs.owned, hfields.cr0_mask.trans hs.mask,
    hfields.efer.trans hs.efer⟩

theorem Steady.withCr0 (hs : Steady cfg efer u) (cs_l : Bool) (value : BitVec 64) :
    Steady cfg efer (Cr4.withCr0 cfg.toCr cs_l value u) := by
  refine ⟨Cr4.withCr0_initialised hs.init value, ?_, ?_, hs.efer⟩
  · unfold Cr4.withCr0
    rw [Cr4.vmx_set_cr0_eq]
    exact hs.owned
  · unfold Cr4.withCr0
    rw [Cr4.vmx_set_cr0_eq]
    exact hs.mask

theorem Steady.set_cr0 (hs : Steady cfg efer u) (cs_l : Bool) (cr0 : BitVec 64) :
    Steady cfg efer (Cr4.kvm_set_cr0 cfg.toCr cs_l cr0 u).2 := by
  obtain ⟨haccepted, hrefused⟩ := Cr4.kvm_set_cr0_cases cfg.toCr cs_l cr0 hs.init
  by_cases ha : Cr4.Cr0Accepted cfg.toCr u cs_l cr0
  · rw [haccepted ha]
    exact hs.withCr0 cs_l _
  · rw [hrefused ha]
    exact hs

theorem Steady.call (hs : Steady cfg efer u) (c : Cr4.Call) :
    Steady cfg efer (Cr4.call cfg.toCr u c).2 := by
  cases c with
  | set_cr0 cs_l cr0 => exact hs.set_cr0 cs_l cr0
  | set_cr4 is_valid_cr4 cr4 =>
    obtain ⟨w, hread, hset | ⟨hset, -⟩⟩ := Cr4.kvm_set_cr4_cases cfg.toCr is_valid_cr4 cr4 u
    · rw [Cr4.call, hset]
      exact hs.refreshed hread
    · rw [Cr4.call, hset]
      have hw := hs.refreshed hread
      exact ⟨Cr4.set_cr4_initialised hw.init, hw.owned, hw.mask, hw.efer⟩
  | lmsw cs_l msw =>
    exact (hs.refreshed (Cr4.read_cr0_refreshed cfg.toCr (Cr4.not32 0x0e) u)).set_cr0 cs_l _

/-- Loading the root writes fields that the ownership does not depend on. -/
theorem load_mmu_pgd_steady (hs : Steady cfg efer v.toCr) (root_hpa : BitVec 64) :
    Steady cfg efer (vmx_load_mmu_pgd cfg root_hpa v).toCr := by
  have hpdptrs : (vmx_ept_load_pdptrs cfg v).toCr = v.toCr := by
    unfold vmx_ept_load_pdptrs
    split <;> rfl
  have hcr3 : ∀ {cr : Cr4.Vcpu} (x : BitVec 64), Steady cfg efer cr →
      Steady cfg efer { cr with GUEST_CR3 := x } := fun x hcr =>
    ⟨initialised_congr hcr.init rfl rfl rfl rfl rfl, hcr.owned, hcr.mask, hcr.efer⟩
  rw [← hpdptrs] at hs
  unfold vmx_load_mmu_pgd
  dsimp only
  split
  · split
    · exact hcr3 _ hs
    · split
      · exact hcr3 _ hs
      · exact hs
  · -- without EPT the PCID is read from CR3, which may be cached first
    rw [hpdptrs] at hs
    exact hcr3 _ (hs.refreshed (Cr4.read_cr3_refreshed cfg.toCr v.toCr))

/-- **One event** leaves the ownership and EFER as they are. -/
theorem event_steady {s : Shown} (hs : Steady cfg efer s.vcpu.toCr) (e : Event) :
    Steady cfg efer (event cfg s e).vcpu.toCr := by
  cases e with
  | enter root_hpa guest_stack_pointer emulation_required g =>
    have hload := load_mmu_pgd_steady hs root_hpa
    cases emulation_required with
    | true => exact ⟨initialised_congr hload.init rfl rfl rfl rfl rfl, hload.owned, hload.mask, hload.efer⟩
    | false => exact ⟨initialised_congr hload.init rfl rfl rfl rfl rfl, hload.owned, hload.mask, hload.efer⟩
  | handle_cr cs_l exit_qualification =>
    change Steady cfg efer (handle_cr cfg cs_l exit_qualification s.vcpu).2.toCr
    unfold handle_cr
    split
    · exact hs.set_cr0 cs_l 0
    · exact hs
  | call c => exact hs.call c
  | read_cr0 mask => exact hs.refreshed (Cr4.read_cr0_refreshed cfg.toCr mask _)
  | read_cr3 => exact hs.refreshed (Cr4.read_cr3_refreshed cfg.toCr _)
  | read_cr4 mask => exact hs.refreshed (Cr4.read_cr4_refreshed cfg.toCr mask _)

/-- **A write to CR0 that exits**, in any run of a vCPU whose EFER was 0: it ends the run of the vCPU,
and the guest has CR0 with paging and protection off, whatever it wrote; or nothing happens at all,
where PCIDE is set. -/
theorem mov_to_cr0 (hefer : v.efer = 0) {s : Shown}
    (hrun : Transition.Run (resetSystem cfg h v) (fun _ _ => True) s) (cs_l : Bool)
    {exit_qualification : BitVec 64} (htype : (exit_qualification >>> 4) &&& 3 = 0)
    (hcr : exit_qualification &&& 15 = 0) :
    (handle_cr cfg cs_l exit_qualification s.vcpu).1 = 0 ∧
      (Cr4.cr4Value cfg.toCr s.vcpu.toCr &&& Cr4.X86_CR4_PCIDE = 0 →
        Cr0.guest_cr0 (handle_cr cfg cs_l exit_qualification s.vcpu).2.toCr.toVcpu =
            cr0_owned cfg ||| Cr0.X86_CR0_ET ∧
          own_cr3 cfg (handle_cr cfg cs_l exit_qualification s.vcpu).2 = cfg.is_unrestricted_guest) ∧
      (Cr4.cr4Value cfg.toCr s.vcpu.toCr &&& Cr4.X86_CR4_PCIDE ≠ 0 →
        (handle_cr cfg cs_l exit_qualification s.vcpu).2 = s.vcpu) := by
  have hs : Steady cfg v.efer s.vcpu.toCr := by
    refine hrun.invariant (fun s => Steady cfg v.efer s.vcpu.toCr) ?_ ?_
    · rintro s rfl
      obtain ⟨hinit, howned, hmask, hkept⟩ := reset_start_owned cfg h v
      have hstart : Steady cfg v.efer (reset_start cfg h v).toCr := ⟨hinit, howned, hmask, hkept⟩
      have hset := hstart.withCr0 false (reset_cr0 h)
      exact ⟨Cr4.set_cr4_initialised hset.init, hset.owned, hset.mask, hset.efer⟩
    · rintro s e s' hs - rfl
      exact event_steady hs e
  obtain ⟨haccepted, hrefused⟩ := Cr4.kvm_set_cr0_cases cfg.toCr cs_l 0 hs.init
  have hlong : Cr4.is_long_mode s.vcpu.toCr = false := by
    rw [Cr4.is_long_mode, hs.efer, hefer]
    decide
  have hpassed : Cr0.passed_cr0 0 = Cr0.X86_CR0_ET := by decide
  have hhandle : handle_cr cfg cs_l exit_qualification s.vcpu =
      (0, { s.vcpu with toCr := (Cr4.kvm_set_cr0 cfg.toCr cs_l 0 s.vcpu.toCr).2 }) := by
    unfold handle_cr
    rw [if_pos ⟨htype, hcr⟩]
    rfl
  rw [hhandle]
  refine ⟨rfl, ?_, ?_⟩
  · intro hpcide
    have hset := haccepted ⟨by decide, fun hnw => absurd (by decide) hnw, fun hpg => absurd (by decide) hpg,
      fun _ => ⟨by rw [hlong]; rfl, hpcide⟩⟩
    rw [hset, hpassed]
    constructor
    · have hdisjoint : Cr0.X86_CR0_ET &&& ~~~cr0_owned cfg = Cr0.X86_CR0_ET := by
        have hall : ∀ ept : Bool, Cr0.X86_CR0_ET &&& ~~~(if !ept then
            Cr0.KVM_POSSIBLE_CR0_GUEST_BITS &&& ~~~Cr0.X86_CR0_WP
          else Cr0.KVM_POSSIBLE_CR0_GUEST_BITS) = Cr0.X86_CR0_ET := by decide
        exact hall cfg.enable_ept
      have hseen := set_cr0_seen (c := Cr4.cr0_config cfg.toCr cs_l s.vcpu.toCr) hs.owned hs.mask
        Cr0.X86_CR0_ET
      exact hseen.trans (congrArg (cr0_owned cfg ||| ·) hdisjoint)
    · have hpaging : Cr4.is_paging (Cr4.withCr0 cfg.toCr cs_l Cr0.X86_CR0_ET s.vcpu.toCr) = false := by
        rw [is_paging_eq]
        unfold Cr4.withCr0
        rw [Cr4.vmx_set_cr0_eq]
        have hpg : (Cr0.X86_CR0_ET &&& Cr0.X86_CR0_PG != 0) = false := by decide
        exact hpg
      unfold own_cr3
      dsimp only
      rw [hpaging, Bool.or_false]
  · intro hpcide
    rw [hrefused fun ha => hpcide (ha.leave (by decide)).2]

end Writes

/-- The first write of that guest to CR0, from EAX. -/
theorem mov_to_cr0_start :
    Cr0.guest_cr0 (handle_cr ept_config true 0 paging_start.vcpu).2.toCr.toVcpu = 0x10018 ∧
      own_cr3 ept_config (handle_cr ept_config true 0 paging_start.vcpu).2 = false := by
  have hmov := (@mov_to_cr0 ept_config paging_host new_vcpu rfl paging_start
    (Transition.Run.start paging_start rfl) true 0 (by decide) (by decide)).2.1 (by decide)
  exact ⟨hmov.1.trans (by decide), hmov.2⟩

end Svmx.GuestRegs
