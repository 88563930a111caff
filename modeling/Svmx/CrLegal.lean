/-
The legality of the control registers under `kvm_set_cr0`, `kvm_set_cr4` and `kvm_lmsw`.

Paging needs protection, NW needs CD, PCIDE needs paging, and long mode needs paging and PAE. A write
to one register is checked against the others and against EFER, so a sequence of accepted writes could
leave the legal states. One accepted write does: with long mode active and the code segment not a
64-bit one, `kvm_set_cr0` accepts a value without PG and nothing clears EFER.LMA, because
`vmx_set_cr0` calls the empty `enter_lmode` where the mode is left. Every run without this write stays
legal (`legal_run`).
-/
import Mathlib.Tactic.Push
import Svmx.Cr4

set_option autoImplicit false

namespace Svmx.Cr4

open Cr0 Cr0.KvmReg Blend

/-! ## The calls -/

/-- What CR0 depends on of the configuration and the other registers; PCIDE is no bit the guest may
own, so the read refreshes nothing. -/
def cr0_config (cfg : Config) (cs_l : Bool) (vcpu : Vcpu) : Cr0.Config where
  enable_ept := cfg.enable_ept
  is_unrestricted_guest := cfg.is_unrestricted_guest
  is_64_bit_mode := is_long_mode vcpu && cs_l
  cr4_pcide := (kvm_read_cr4_bits cfg X86_CR4_PCIDE vcpu).1 != 0

/-- `kvm_set_cr0`; `cs_l` is what the vendor's `get_cs_db_l_bits` answers. -/
def kvm_set_cr0 (cfg : Config) (cs_l : Bool) (cr0 : BitVec 64) (vcpu : Vcpu) : ℤ × Vcpu :=
  let (r, toVcpu) := Cr0.kvm_set_cr0 (cr0_config cfg cs_l vcpu) cr0 vcpu.toVcpu
  (r, { vcpu with toVcpu := toVcpu })

/-- `kvm_lmsw`. -/
def kvm_lmsw (cfg : Config) (cs_l : Bool) (msw : BitVec 64) (vcpu : Vcpu) : Vcpu :=
  let (cr0, vcpu) := kvm_read_cr0_bits (not32 0x0e) vcpu
  (kvm_set_cr0 cfg cs_l (cr0 ||| (msw &&& 0x0f)) vcpu).2

/-- One call, with the answers of the vendor's functions. -/
inductive Call where
  | set_cr0 (cs_l : Bool) (cr0 : BitVec 64)
  | set_cr4 (is_valid_cr4 : BitVec 64 → Bool) (cr4 : BitVec 64)
  | lmsw (cs_l : Bool) (msw : BitVec 64)

/-- The result of a call, if it has one, and the vCPU after it. -/
def call (cfg : Config) (vcpu : Vcpu) : Call → Option ℤ × Vcpu
  | .set_cr0 cs_l cr0 => ((kvm_set_cr0 cfg cs_l cr0 vcpu).1, (kvm_set_cr0 cfg cs_l cr0 vcpu).2)
  | .set_cr4 is_valid_cr4 cr4 =>
    ((kvm_set_cr4 cfg is_valid_cr4 cr4 vcpu).1, (kvm_set_cr4 cfg is_valid_cr4 cr4 vcpu).2)
  | .lmsw cs_l msw => (none, kvm_lmsw cfg cs_l msw vcpu)

/-! ## The registers -/

/-- CR0, with the bits the guest owns brought up to date. -/
def cr0Value (vcpu : Vcpu) : BitVec 64 := (kvm_read_cr0 vcpu).1

/-- All 64 bits of CR4, with the bits the guest owns brought up to date. -/
def cr4Value (cfg : Config) (vcpu : Vcpu) : BitVec 64 :=
  (kvm_read_cr4_bits cfg (BitVec.allOnes 64) vcpu).1

def cr3Value (cfg : Config) (vcpu : Vcpu) : BitVec 64 := (kvm_read_cr3 cfg vcpu).1

/-- The ownership is as `init_vmcs` left it. -/
structure Initialised (vcpu : Vcpu) : Prop where
  cr0 : ∃ cfg, Cr0.init_vmcs cfg vcpu.toVcpu = vcpu.toVcpu
  cr4 : HasCr4Mask vcpu

/-- The registers of a vCPU are legal together. -/
structure Legal (cfg : Config) (vcpu : Vcpu) : Prop where
  pg : cr0Value vcpu &&& X86_CR0_PG ≠ 0 → cr0Value vcpu &&& X86_CR0_PE ≠ 0
  nw : cr0Value vcpu &&& X86_CR0_NW ≠ 0 → cr0Value vcpu &&& X86_CR0_CD ≠ 0
  pcide : cr4Value cfg vcpu &&& X86_CR4_PCIDE ≠ 0 → cr0Value vcpu &&& X86_CR0_PG ≠ 0
  lma : is_long_mode vcpu = true →
    cr0Value vcpu &&& X86_CR0_PG ≠ 0 ∧ cr4Value cfg vcpu &&& X86_CR4_PAE ≠ 0
  cr0_valid : cr0Value vcpu &&& CR0_VALID_BITS = cr0Value vcpu
  cr4_valid : cr4Value cfg vcpu &&& CR4_RESERVED_BITS = 0

/-- The registers and the VMCS are the same. -/
structure SameRegs (cfg : Config) (v w : Vcpu) : Prop where
  fields : SameFields v w
  cr0 : cr0Value w = cr0Value v
  cr3 : cr3Value cfg w = cr3Value cfg v
  cr4 : cr4Value cfg w = cr4Value cfg v

/-- `kvm_lmsw` does not clear PE and leaves the bits above 3. -/
structure KeepsHigh (v w : Vcpu) : Prop where
  pe : cr0Value v &&& X86_CR0_PE ≠ 0 → cr0Value w &&& X86_CR0_PE ≠ 0
  high : cr0Value w &&& ~~~0xF#64 = cr0Value v &&& ~~~0xF#64

/-- What a call promises besides the legality. -/
def CallOk (cfg : Config) (vcpu : Vcpu) (c : Call) : Prop :=
  ((call cfg vcpu c).1 = some 1 → SameRegs cfg vcpu (call cfg vcpu c).2) ∧
    ∀ cs_l msw, c = .lmsw cs_l msw → KeepsHigh vcpu (call cfg vcpu c).2

/-- A write to CR0 that turns paging off in long mode, with a code segment that is not a 64-bit one,
and that nothing else refuses. -/
structure LeavesLongMode (cfg : Config) (vcpu : Vcpu) (cs_l : Bool) (cr0 : BitVec 64) : Prop where
  long_mode : is_long_mode vcpu = true
  code : cs_l = false
  pcide : cr4Value cfg vcpu &&& X86_CR4_PCIDE = 0
  paging : cr0 &&& X86_CR0_PG = 0
  low : cr0 &&& 0xffffffff00000000 = 0
  nw : cr0 &&& X86_CR0_NW ≠ 0 → cr0 &&& X86_CR0_CD ≠ 0

/-- The calls that keep the registers legal: those that do not leave long mode, and `kvm_lmsw` where
ET is set, as it is after every accepted write. -/
def Meets (cfg : Config) (vcpu : Vcpu) : Call → Prop
  | .set_cr0 cs_l cr0 => ¬ LeavesLongMode cfg vcpu cs_l cr0
  | .set_cr4 _ _ => True
  | .lmsw _ _ => cr0Value vcpu &&& X86_CR0_ET ≠ 0

/-- Sequences of calls from any legal vCPU. -/
def crSystem (cfg : Config) : Transition.System Vcpu Call where
  init v := Initialised v ∧ Legal cfg v
  step v c v' := v' = (call cfg v c).2

/-! ## Reading the registers -/

section Values

variable {cfg : Config} {v w : Vcpu}

theorem Initialised.cr0_possible (h : Initialised v) :
    v.cr0_guest_owned_bits &&& KVM_POSSIBLE_CR0_GUEST_BITS = v.cr0_guest_owned_bits := by
  obtain ⟨cfg, h⟩ := h.cr0
  rw [← h]
  change vmx_l1_guest_owned_cr0_bits cfg &&& _ = vmx_l1_guest_owned_cr0_bits cfg
  unfold vmx_l1_guest_owned_cr0_bits
  cases cfg.enable_ept <;> decide

theorem Initialised.of_fields (h : Initialised v) (hsame : SameFields v w) : Initialised w := by
  obtain ⟨cfg, hcr0⟩ := h.cr0
  refine ⟨⟨cfg, ?_⟩, h.cr4.of_fields hsame⟩
  have howned := congrArg Cr0.Vcpu.cr0_guest_owned_bits hcr0
  have hmask := congrArg Cr0.Vcpu.CR0_GUEST_HOST_MASK hcr0
  rw [← hsame.cr0_owned] at howned
  rw [← hsame.cr0_mask] at hmask
  change vmx_l1_guest_owned_cr0_bits cfg = w.cr0_guest_owned_bits at howned
  change ~~~vmx_l1_guest_owned_cr0_bits cfg = w.CR0_GUEST_HOST_MASK at hmask
  unfold Cr0.init_vmcs
  rw [hmask, howned]

/-- A read that needs no refresh asks for no bit that is owned: only the possible guest bits of the
mask are looked at, and every owned bit is one of them. -/
theorem owned_and_eq_zero {owned possible mask : BitVec 64} (hpossible : owned &&& possible = owned)
    (hread : ¬ mask &&& possible &&& owned ≠ 0) : owned &&& mask = 0#64 := by
  by_contra hne
  apply hread
  rwa [BitVec.and_assoc, BitVec.and_comm possible, hpossible, BitVec.and_comm]

/-- A masked read of CR0 is the value under the mask. -/
theorem kvm_read_cr0_bits_eq (h : Initialised v) (mask : BitVec 64) :
    (kvm_read_cr0_bits mask v).1 =
      (if v.regs_avail VCPU_EXREG_CR0 = true then v.cr0
        else blend v.cr0_guest_owned_bits v.GUEST_CR0 v.cr0) &&& mask := by
  unfold kvm_read_cr0_bits Cr0.kvm_read_cr0_bits
  dsimp only
  split
  · next hread =>
    rw [if_neg (by rw [hread.2]; decide)]
    rfl
  · next hno =>
    split
    · rfl
    · next ha =>
      have hzero : v.cr0_guest_owned_bits &&& mask = 0#64 :=
        owned_and_eq_zero h.cr0_possible fun hne => hno ⟨hne, by simpa using ha⟩
      rw [blend_and_of_disjoint hzero]

theorem cr0Value_eq (h : Initialised v) : cr0Value v =
    if v.regs_avail VCPU_EXREG_CR0 = true then v.cr0
    else blend v.cr0_guest_owned_bits v.GUEST_CR0 v.cr0 := by
  unfold cr0Value kvm_read_cr0
  rw [kvm_read_cr0_bits_eq h, BitVec.and_allOnes]

theorem read_cr0_bits_value (h : Initialised v) (mask : BitVec 64) :
    (kvm_read_cr0_bits mask v).1 = cr0Value v &&& mask := by
  rw [kvm_read_cr0_bits_eq h, cr0Value_eq h]

/-- A masked read of CR4 is the value under the mask. -/
theorem kvm_read_cr4_bits_eq (cfg : Config) (h : Initialised v) (mask : BitVec 64) :
    (kvm_read_cr4_bits cfg mask v).1 =
      (if v.regs_avail VCPU_EXREG_CR4 = true then v.cr4
        else blend v.cr4_guest_owned_bits v.GUEST_CR4 v.cr4) &&& mask := by
  unfold kvm_read_cr4_bits
  dsimp only
  split
  · next hread =>
    rw [if_neg (by rw [hread.2]; decide)]
    rfl
  · next hno =>
    split
    · rfl
    · next ha =>
      have hzero : v.cr4_guest_owned_bits &&& mask = 0#64 :=
        owned_and_eq_zero h.cr4.possible fun hne => hno ⟨hne, by simpa using ha⟩
      rw [blend_and_of_disjoint hzero]

theorem cr4Value_eq (cfg : Config) (h : Initialised v) : cr4Value cfg v =
    if v.regs_avail VCPU_EXREG_CR4 = true then v.cr4
    else blend v.cr4_guest_owned_bits v.GUEST_CR4 v.cr4 := by
  unfold cr4Value
  rw [kvm_read_cr4_bits_eq cfg h, BitVec.and_allOnes]

theorem read_cr4_bits_value (cfg : Config) (h : Initialised v) (mask : BitVec 64) :
    (kvm_read_cr4_bits cfg mask v).1 = cr4Value cfg v &&& mask := by
  rw [kvm_read_cr4_bits_eq cfg h, cr4Value_eq cfg h]

theorem cr3Value_eq (cfg : Config) (v : Vcpu) : cr3Value cfg v =
    if v.regs_avail VCPU_EXREG_CR3 = true ∨ cfg.cr3_load_exiting = true then v.cr3
    else v.GUEST_CR3 := by
  unfold cr3Value kvm_read_cr3 vmx_cache_reg
  dsimp only
  cases v.regs_avail VCPU_EXREG_CR3 with
  | true => simp
  | false =>
    cases cfg.cr3_load_exiting with
    | true => simp
    | false => simp

/-- **Caching a register** that was not available changes no register. -/
theorem cache_reg_same (cfg : Config) (h : Initialised v) {reg : KvmReg}
    (ha : v.regs_avail reg = false) : SameRegs cfg v (vmx_cache_reg cfg reg v) := by
  have hfields := cache_reg_fields cfg reg v
  have hinit := h.of_fields hfields
  have havail : ∀ r, (vmx_cache_reg cfg reg v).regs_avail r =
      Function.update v.regs_avail reg true r := by
    intro r
    have heq : (vmx_cache_reg cfg reg v).toVcpu = Cr0.vmx_cache_reg reg v.toVcpu := by
      unfold vmx_cache_reg
      dsimp only
      split
      · split <;> rfl
      · split <;> rfl
    rw [heq, cr0_cache_avail]
  refine ⟨hfields, ?_, ?_, ?_⟩
  · rw [cr0Value_eq h, cr0Value_eq hinit, havail, hfields.cr0_owned, hfields.cr0_guest]
    by_cases hreg : reg = VCPU_EXREG_CR0
    · -- what is cached now is what a read put together before
      subst hreg
      rw [Function.update_self, if_pos rfl, if_neg (by rw [ha]; decide)]
      rfl
    · have hcr0 : (vmx_cache_reg cfg reg v).cr0 = v.cr0 := by
        cases reg with
        | VCPU_EXREG_CR0 => exact absurd rfl hreg
        | VCPU_EXREG_CR3 =>
          unfold vmx_cache_reg
          cases cfg.cr3_load_exiting <;> rfl
        | _ => rfl
      rw [Function.update_of_ne (Ne.symm hreg), hcr0]
  · rw [cr3Value_eq, cr3Value_eq, havail, hfields.cr3_guest]
    by_cases hreg : reg = VCPU_EXREG_CR3
    · -- the cache takes the field only where the guest writes CR3 without an exit
      subst hreg
      rw [Function.update_self, if_pos (Or.inl rfl), ha]
      unfold vmx_cache_reg
      cases cfg.cr3_load_exiting <;> rfl
    · have hcr3 : (vmx_cache_reg cfg reg v).cr3 = v.cr3 := by
        cases reg with
        | VCPU_EXREG_CR3 => exact absurd rfl hreg
        | _ => rfl
      rw [Function.update_of_ne (Ne.symm hreg), hcr3]
  · rw [cr4Value_eq cfg h, cr4Value_eq cfg hinit, havail, hfields.cr4_owned, hfields.cr4_guest]
    by_cases hreg : reg = VCPU_EXREG_CR4
    · subst hreg
      rw [Function.update_self, if_pos rfl, if_neg (by rw [ha]; decide)]
      rfl
    · have hcr4 : (vmx_cache_reg cfg reg v).cr4 = v.cr4 := by
        cases reg with
        | VCPU_EXREG_CR4 => exact absurd rfl hreg
        | VCPU_EXREG_CR3 =>
          unfold vmx_cache_reg
          cases cfg.cr3_load_exiting <;> rfl
        | _ => rfl
      rw [Function.update_of_ne (Ne.symm hreg), hcr4]

theorem SameRegs.refl (cfg : Config) (v : Vcpu) : SameRegs cfg v v :=
  ⟨(Refreshed.refl : Refreshed cfg v v).fields, rfl, rfl, rfl⟩

/-- A refresh changes no register. -/
theorem Refreshed.same (h : Initialised v) (href : Refreshed cfg v w) : SameRegs cfg v w := by
  induction href with
  | refl => exact SameRegs.refl cfg v
  | cache hw reg ha ih =>
    have hstep := cache_reg_same cfg (h.of_fields hw.fields) ha
    exact ⟨ih.fields.trans hstep.fields, hstep.cr0.trans ih.cr0, hstep.cr3.trans ih.cr3,
      hstep.cr4.trans ih.cr4⟩

end Values

/-! ## Setting the registers -/

section Setting

variable {cfg : Config} {v w : Vcpu} {cs_l : Bool} {cr0 cr4 msw : BitVec 64}

/-- The vCPU after `vmx_set_cr0`. -/
def withCr0 (cfg : Config) (cs_l : Bool) (value : BitVec 64) (v : Vcpu) : Vcpu :=
  { v with toVcpu := Cr0.vmx_set_cr0 (cr0_config cfg cs_l v) value v.toVcpu }

/-- PG is no bit the guest may own, so `vmx_set_cr0` refreshes nothing. -/
theorem vmx_set_cr0_eq (c : Cr0.Config) (value : BitVec 64) (u : Cr0.Vcpu) :
    Cr0.vmx_set_cr0 c value u = Cr0.kvm_register_mark_available VCPU_EXREG_CR0
      { u with CR0_READ_SHADOW := value, GUEST_CR0 := hw_cr0 c value, cr0 := value } := by
  have hmask : X86_CR0_PG &&& KVM_POSSIBLE_CR0_GUEST_BITS = 0 := by decide
  simp [Cr0.vmx_set_cr0, Cr0.kvm_read_cr0_bits, hmask]

theorem withCr0_initialised (h : Initialised v) (value : BitVec 64) :
    Initialised (withCr0 cfg cs_l value v) := by
  obtain ⟨c, hc⟩ := h.cr0
  refine ⟨⟨c, ?_⟩, ?_⟩
  · unfold withCr0
    rw [vmx_set_cr0_eq, ← hc]
    rfl
  · obtain ⟨c', hc'⟩ := h.cr4
    refine ⟨c', ?_⟩
    have heq : set_cr4_guest_host_mask c' (withCr0 cfg cs_l value v) =
        withCr0 cfg cs_l value (set_cr4_guest_host_mask c' v) := rfl
    rw [heq, hc']

/-- **After `vmx_set_cr0`** CR0 has the value, and the other registers are the same. -/
theorem withCr0_values (cfg : Config) (cs_l : Bool) (h : Initialised v) (value : BitVec 64) :
    cr0Value (withCr0 cfg cs_l value v) = value ∧
      cr4Value cfg (withCr0 cfg cs_l value v) = cr4Value cfg v ∧
      is_long_mode (withCr0 cfg cs_l value v) = is_long_mode v := by
  have hinit : Initialised (withCr0 cfg cs_l value v) := withCr0_initialised h value
  refine ⟨?_, ?_, rfl⟩
  · rw [cr0Value_eq hinit]
    unfold withCr0
    rw [vmx_set_cr0_eq]
    simp [Cr0.kvm_register_mark_available]
  · rw [cr4Value_eq cfg hinit, cr4Value_eq cfg h]
    unfold withCr0
    rw [vmx_set_cr0_eq]
    simp [Cr0.kvm_register_mark_available]

theorem set_cr4_initialised (h : Initialised v) : Initialised (vmx_set_cr4 cfg cr4 v) := by
  refine ⟨h.cr0, ?_⟩
  obtain ⟨c, hc⟩ := h.cr4
  refine ⟨c, ?_⟩
  have heq : set_cr4_guest_host_mask c (vmx_set_cr4 cfg cr4 v) =
      vmx_set_cr4 cfg cr4 (set_cr4_guest_host_mask c v) := rfl
  rw [heq, hc]

/-- **After `vmx_set_cr4`** CR4 has the value, and the other registers are the same. -/
theorem set_cr4_values (cfg : Config) (cr4 : BitVec 64) (h : Initialised v) :
    cr4Value cfg (vmx_set_cr4 cfg cr4 v) = cr4 ∧
      cr0Value (vmx_set_cr4 cfg cr4 v) = cr0Value v ∧
      is_long_mode (vmx_set_cr4 cfg cr4 v) = is_long_mode v := by
  refine ⟨?_, ?_, rfl⟩
  · rw [cr4Value_eq cfg (set_cr4_initialised h)]
    have hblend : blend v.cr4_guest_owned_bits (hw_cr4 cfg (is_paging v) cr4) cr4 = cr4 :=
      blend_eq_self (hw_cr4_owned cfg _ cr4 h.cr4.possible)
    unfold vmx_set_cr4
    dsimp only
    rw [hblend, ite_self]
  · rw [cr0Value_eq (set_cr4_initialised h), cr0Value_eq h]
    rfl

/-- The bits that `kvm_set_cr0` checks are those of the value given. -/
theorem passed_bit {bit : BitVec 64} (hvalid : CR0_VALID_BITS &&& bit = bit)
    (het : X86_CR0_ET &&& bit = 0#64) (x : BitVec 64) : passed_cr0 x &&& bit = x &&& bit := by
  unfold passed_cr0
  rw [BitVec.and_assoc, hvalid, BitVec.and_or_distrib_right, het]
  exact BitVec.or_zero

theorem passed_pg (x : BitVec 64) : passed_cr0 x &&& X86_CR0_PG = x &&& X86_CR0_PG :=
  passed_bit (by decide) (by decide) x

theorem passed_pe (x : BitVec 64) : passed_cr0 x &&& X86_CR0_PE = x &&& X86_CR0_PE :=
  passed_bit (by decide) (by decide) x

theorem passed_nw (x : BitVec 64) : passed_cr0 x &&& X86_CR0_NW = x &&& X86_CR0_NW :=
  passed_bit (by decide) (by decide) x

theorem passed_cd (x : BitVec 64) : passed_cr0 x &&& X86_CR0_CD = x &&& X86_CR0_CD :=
  passed_bit (by decide) (by decide) x

theorem passed_valid (x : BitVec 64) : passed_cr0 x &&& CR0_VALID_BITS = passed_cr0 x := by
  unfold passed_cr0
  rw [BitVec.and_assoc, BitVec.and_self]

/-- The checks that a value for CR0 has to pass. -/
structure Cr0Accepted (cfg : Config) (v : Vcpu) (cs_l : Bool) (cr0 : BitVec 64) : Prop where
  low : cr0 &&& 0xffffffff00000000 = 0
  nw : cr0 &&& X86_CR0_NW ≠ 0 → cr0 &&& X86_CR0_CD ≠ 0
  pg : cr0 &&& X86_CR0_PG ≠ 0 → cr0 &&& X86_CR0_PE ≠ 0
  leave : cr0 &&& X86_CR0_PG = 0 →
    (is_long_mode v && cs_l) = false ∧ cr4Value cfg v &&& X86_CR4_PCIDE = 0

/-- **What `kvm_set_cr0` does**: it sets a value that passes the checks and refuses every other. -/
theorem kvm_set_cr0_cases (cfg : Config) (cs_l : Bool) (cr0 : BitVec 64) (h : Initialised v) :
    (Cr0Accepted cfg v cs_l cr0 →
      kvm_set_cr0 cfg cs_l cr0 v = (0, withCr0 cfg cs_l (passed_cr0 cr0) v)) ∧
    (¬ Cr0Accepted cfg v cs_l cr0 → kvm_set_cr0 cfg cs_l cr0 v = (1, v)) := by
  have hlow : (cr0 ||| X86_CR0_ET) &&& 0xffffffff00000000 = cr0 &&& 0xffffffff00000000 := by
    rw [BitVec.and_or_distrib_right]
    exact BitVec.or_zero
  have hpcide : (cr0_config cfg cs_l v).cr4_pcide = (cr4Value cfg v &&& X86_CR4_PCIDE != 0) := by
    unfold cr0_config
    rw [read_cr4_bits_value cfg h]
  unfold kvm_set_cr0 Cr0.kvm_set_cr0
  dsimp only
  rw [hlow, passed_nw, passed_cd, passed_pg, passed_pe, hpcide]
  constructor
  · -- the four checks, in the order of the source
    intro ha
    rw [if_neg (not_not.mpr ha.low), if_neg fun hno => ha.nw hno.1 hno.2,
      if_neg fun hno => ha.pg hno.1 hno.2, if_neg]
    · rfl
    · rintro ⟨hpg, hor⟩
      obtain ⟨h64, hzero⟩ := ha.leave hpg
      simp [cr0_config, h64, hzero] at hor
  · intro hna
    split
    · rfl
    · next hl =>
      split
      · rfl
      · next hnw =>
        split
        · rfl
        · next hpg =>
          split
          · rfl
          · next hleave =>
            refine absurd ⟨not_not.mp hl, fun h1 h2 => hnw ⟨h1, h2⟩, fun h1 h2 => hpg ⟨h1, h2⟩,
              fun h1 => ?_⟩ hna
            have hor := fun h2 => hleave ⟨h1, h2⟩
            constructor
            · by_contra h64
              exact hor (by simp [cr0_config] at h64 ⊢; exact Or.inl h64)
            · by_contra hp
              exact hor (by rw [Bool.or_eq_true]; exact Or.inr (bne_iff_ne.mpr hp))

/-! ## One call -/

/-- A bit that is not zero is set. -/
theorem et_subset {x : BitVec 64} (h : x &&& X86_CR0_ET ≠ 0) : x &&& X86_CR0_ET = X86_CR0_ET := by
  have het : X86_CR0_ET = BitVec.twoPow 64 4 := by decide
  rw [het, BitVec.and_twoPow] at h ⊢
  split
  · rfl
  · next hno =>
    rw [if_neg hno] at h
    exact absurd rfl h

/-- **`kvm_set_cr0`** keeps the registers legal unless it leaves long mode. -/
theorem set_cr0_legal (h : Initialised v) (hl : Legal cfg v) (ha : Cr0Accepted cfg v cs_l cr0) :
    Legal cfg (withCr0 cfg cs_l (passed_cr0 cr0) v) ↔ ¬ LeavesLongMode cfg v cs_l cr0 := by
  obtain ⟨hcr0, hcr4, hlong⟩ := withCr0_values cfg cs_l h (passed_cr0 cr0)
  constructor
  · rintro hlegal ⟨hlma, -, -, hpg, -, -⟩
    have hpaging := (hlegal.lma (by rw [hlong]; exact hlma)).1
    rw [hcr0, passed_pg] at hpaging
    exact hpaging hpg
  · intro hstay
    refine ⟨?_, ?_, ?_, ?_, ?_, ?_⟩
    · rw [hcr0, passed_pg, passed_pe]
      exact ha.pg
    · rw [hcr0, passed_nw, passed_cd]
      exact ha.nw
    · rw [hcr0, hcr4, passed_pg]
      intro hpcide hpg
      exact hpcide (ha.leave hpg).2
    · rw [hcr0, hcr4, hlong, passed_pg]
      intro hlma
      refine ⟨fun hpg => ?_, (hl.lma hlma).2⟩
      obtain ⟨h64, hpcide⟩ := ha.leave hpg
      rw [hlma, Bool.true_and] at h64
      exact hstay ⟨hlma, h64, hpcide, hpg, ha.low, ha.nw⟩
    · rw [hcr0]
      exact passed_valid cr0
    · rw [hcr4]
      exact hl.cr4_valid

/-- **`kvm_set_cr4`** keeps the registers legal. -/
theorem set_cr4_legal (h : Initialised v) (hl : Legal cfg v) (href : Refreshed cfg v w)
    (ha : Accepted v (kvm_read_cr4 cfg v).1 cr4) : Legal cfg (vmx_set_cr4 cfg cr4 w) := by
  have hsame := href.same h
  have hw := h.of_fields hsame.fields
  obtain ⟨hcr4, hcr0, hlong⟩ := set_cr4_values cfg cr4 hw
  rw [hsame.cr0] at hcr0
  rw [is_long_mode_congr hsame.fields] at hlong
  refine ⟨?_, ?_, ?_, ?_, ?_, ?_⟩
  · rw [hcr0]
    exact hl.pg
  · rw [hcr0]
    exact hl.nw
  · rw [hcr0, hcr4]
    intro hpcide
    rcases ha.pcide hpcide with hold | hlma
    · refine hl.pcide ?_
      have hmax : MAXULONG &&& X86_CR4_PCIDE = X86_CR4_PCIDE := by decide
      rwa [kvm_read_cr4, read_cr4_bits_value cfg h, BitVec.and_assoc, hmax] at hold
    · exact (hl.lma hlma).1
  · rw [hcr0, hcr4, hlong]
    exact fun hlma => ⟨(hl.lma hlma).1, ha.pae hlma⟩
  · rw [hcr0]
    exact hl.cr0_valid
  · rw [hcr4]
    exact ha.valid

/-- The registers of a vCPU are legal as far as the registers go. -/
theorem Legal.of_same (hl : Legal cfg v) (hsame : SameRegs cfg v w) : Legal cfg w := by
  have hlong := is_long_mode_congr hsame.fields
  refine ⟨?_, ?_, ?_, ?_, ?_, ?_⟩
  · rw [hsame.cr0]
    exact hl.pg
  · rw [hsame.cr0]
    exact hl.nw
  · rw [hsame.cr0, hsame.cr4]
    exact hl.pcide
  · rw [hsame.cr0, hsame.cr4, hlong]
    exact hl.lma
  · rw [hsame.cr0]
    exact hl.cr0_valid
  · rw [hsame.cr4]
    exact hl.cr4_valid

/-- The value that `kvm_lmsw` writes. -/
def lmswValue (msw : BitVec 64) (v : Vcpu) : BitVec 64 :=
  (cr0Value v &&& not32 0x0e) ||| (msw &&& 0x0f)

/-- A bit above 3 of the value written is the one of CR0. -/
theorem lmsw_bit {bit : BitVec 64} (hkeep : not32 0x0e &&& bit = bit) (hlow : 0x0f &&& bit = 0#64) :
    lmswValue msw v &&& bit = cr0Value v &&& bit := by
  unfold lmswValue
  rw [BitVec.and_or_distrib_right, BitVec.and_assoc, hkeep, BitVec.and_assoc, hlow]
  simp

/-- PE is not cleared. -/
theorem lmsw_pe (h : cr0Value v &&& X86_CR0_PE ≠ 0) : lmswValue msw v &&& X86_CR0_PE ≠ 0 := by
  have hkeep : not32 0x0e &&& X86_CR0_PE = X86_CR0_PE := by decide
  unfold lmswValue
  rw [BitVec.and_or_distrib_right, BitVec.and_assoc, hkeep]
  exact fun hzero => h (BitVec.or_eq_zero_iff.mp hzero).1

/-- Legal registers accept every value that `kvm_lmsw` writes, and it leaves no mode. -/
theorem lmsw_accepted (cs_l : Bool) (msw : BitVec 64) (hl : Legal cfg v) :
    Cr0Accepted cfg v cs_l (lmswValue msw v) ∧ ¬ LeavesLongMode cfg v cs_l (lmswValue msw v) := by
  have hpg : lmswValue msw v &&& X86_CR0_PG = cr0Value v &&& X86_CR0_PG :=
    lmsw_bit (by decide) (by decide)
  have hnw : lmswValue msw v &&& X86_CR0_NW = cr0Value v &&& X86_CR0_NW :=
    lmsw_bit (by decide) (by decide)
  have hcd : lmswValue msw v &&& X86_CR0_CD = cr0Value v &&& X86_CR0_CD :=
    lmsw_bit (by decide) (by decide)
  have hlow : lmswValue msw v &&& 0xffffffff00000000 = 0 := by
    have hhigh : not32 0x0e &&& 0xffffffff00000000 = 0#64 := by decide
    have hmsw : (0x0f : BitVec 64) &&& 0xffffffff00000000 = 0#64 := by decide
    unfold lmswValue
    rw [BitVec.and_or_distrib_right, BitVec.and_assoc, hhigh, BitVec.and_assoc, hmsw]
    simp
  refine ⟨⟨hlow, ?_, ?_, ?_⟩, ?_⟩
  · rw [hnw, hcd]
    exact hl.nw
  · rw [hpg]
    exact fun h => lmsw_pe (hl.pg h)
  · rw [hpg]
    intro hzero
    constructor
    · cases hlong : is_long_mode v with
      | true => exact absurd hzero (hl.lma hlong).1
      | false => rfl
    · by_contra hpcide
      exact hl.pcide hpcide hzero
  · rintro ⟨hlma, -, -, hzero, -, -⟩
    rw [hpg] at hzero
    exact (hl.lma hlma).1 hzero

/-- The bits above 3 after `kvm_lmsw`: ET is set, and the others are those of CR0. -/
theorem lmsw_high (hl : Legal cfg v) : passed_cr0 (lmswValue msw v) &&& ~~~0xF#64 =
    (cr0Value v &&& ~~~0xF#64) ||| X86_CR0_ET := by
  have hkeep : not32 0x0e &&& (CR0_VALID_BITS &&& ~~~0xF#64) = CR0_VALID_BITS &&& ~~~0xF#64 := by
    decide
  have hlow : (0x0f : BitVec 64) &&& (CR0_VALID_BITS &&& ~~~0xF#64) = 0#64 := by decide
  have het : X86_CR0_ET &&& (CR0_VALID_BITS &&& ~~~0xF#64) = X86_CR0_ET := by decide
  unfold passed_cr0
  rw [BitVec.and_assoc, BitVec.and_or_distrib_right, lmsw_bit hkeep hlow, het, ← BitVec.and_assoc,
    hl.cr0_valid]

/-- **`kvm_lmsw`** writes that value. -/
theorem kvm_lmsw_eq (cs_l : Bool) (msw : BitVec 64) (h : Initialised v) (hl : Legal cfg v) :
    ∃ w, Refreshed cfg v w ∧
    kvm_lmsw cfg cs_l msw v = withCr0 cfg cs_l (passed_cr0 (lmswValue msw v)) w := by
  have href : Refreshed cfg v (kvm_read_cr0_bits (not32 0x0e) v).2 :=
    read_cr0_refreshed cfg (not32 0x0e) v
  have hsame := href.same h
  have hvalue : lmswValue msw (kvm_read_cr0_bits (not32 0x0e) v).2 = lmswValue msw v := by
    unfold lmswValue
    rw [hsame.cr0]
  refine ⟨_, href, ?_⟩
  unfold kvm_lmsw
  dsimp only
  rw [read_cr0_bits_value h]
  change (kvm_set_cr0 cfg cs_l (lmswValue msw v) _).2 = _
  rw [(kvm_set_cr0_cases _ _ _ (h.of_fields hsame.fields)).1
    (hvalue ▸ (lmsw_accepted _ _ (hl.of_same hsame)).1)]

/-- **One call** keeps the registers legal and its promises exactly if it meets the condition. -/
theorem call_iff (h : Initialised v) (hl : Legal cfg v) (c : Call) :
    Initialised (call cfg v c).2 ∧
      (Legal cfg (call cfg v c).2 ∧ CallOk cfg v c ↔ Meets cfg v c) := by
  cases c with
  | set_cr0 cs_l cr0 =>
    have hcases := kvm_set_cr0_cases cfg cs_l cr0 h
    unfold CallOk call Meets
    dsimp only
    by_cases ha : Cr0Accepted cfg v cs_l cr0
    · rw [hcases.1 ha]
      refine ⟨withCr0_initialised h _, ?_⟩
      rw [set_cr0_legal h hl ha]
      exact ⟨fun hok => hok.1, fun hok => ⟨hok,
        fun hr => absurd (show (0 : ℤ) = 1 from Option.some.inj hr) (by decide),
        fun _ _ hc => by cases hc⟩⟩
    · -- a value that leaves long mode for paging off would have passed the checks
      rw [hcases.2 ha]
      refine ⟨h, fun _ => fun hleave => ha ?_, fun _ => ⟨hl, fun _ => SameRegs.refl cfg v,
        fun _ _ hc => by cases hc⟩⟩
      exact ⟨hleave.low, hleave.nw, fun hpg => absurd hleave.paging hpg,
        fun _ => ⟨by rw [hleave.code, Bool.and_false], hleave.pcide⟩⟩
  | set_cr4 is_valid_cr4 cr4 =>
    obtain ⟨w, href, hrefused | ⟨hset, ha⟩⟩ := kvm_set_cr4_cases cfg is_valid_cr4 cr4 v
    · have hsame := href.same h
      unfold CallOk call Meets
      dsimp only
      rw [hrefused]
      exact ⟨h.of_fields hsame.fields, fun _ => trivial,
        fun _ => ⟨hl.of_same hsame, fun _ => hsame, fun _ _ hc => by cases hc⟩⟩
    · have hw := h.of_fields (href.same h).fields
      unfold CallOk call Meets
      dsimp only
      rw [hset]
      exact ⟨set_cr4_initialised hw, fun _ => trivial, fun _ => ⟨set_cr4_legal h hl href ha,
        fun hr => absurd (show (0 : ℤ) = 1 from Option.some.inj hr) (by decide), fun _ _ hc => by cases hc⟩⟩
  | lmsw cs_l msw =>
    -- `kvm_lmsw` reads CR0 first, and the read may refresh the cache
    obtain ⟨w, href, heq⟩ := kvm_lmsw_eq cs_l msw h hl
    have hsame := href.same h
    have hw := h.of_fields hsame.fields
    have hlw := hl.of_same hsame
    have hvalue : lmswValue msw w = lmswValue msw v := by
      unfold lmswValue
      rw [hsame.cr0]
    obtain ⟨haccepted, hstay⟩ := lmsw_accepted cs_l msw hlw
    rw [hvalue] at haccepted hstay
    have hlegal : Legal cfg (withCr0 cfg cs_l (passed_cr0 (lmswValue msw v)) w) :=
      (set_cr0_legal hw hlw haccepted).mpr hstay
    have hcr0 := (withCr0_values cfg cs_l hw (passed_cr0 (lmswValue msw v))).1
    unfold CallOk call Meets
    dsimp only
    rw [heq]
    refine ⟨withCr0_initialised hw _, ?_, ?_⟩
    · -- `kvm_set_cr0` sets ET, a bit above 3, if it was clear
      rintro ⟨-, -, hkeeps⟩ hzero
      have hhigh := (hkeeps cs_l msw rfl).high
      rw [hcr0, lmsw_high hl] at hhigh
      have het := congrArg (· &&& X86_CR0_ET) hhigh
      have hmask : ~~~0xF#64 &&& X86_CR0_ET = X86_CR0_ET := by decide
      simp only [BitVec.and_or_distrib_right, BitVec.and_assoc, hmask, hzero, BitVec.and_self] at het
      exact absurd het (by decide)
    · intro het
      refine ⟨hlegal, fun hr => absurd hr (Option.some_ne_none 1).symm, fun _ _ hc => ?_⟩
      obtain ⟨rfl, rfl⟩ := Call.lmsw.inj hc
      refine ⟨fun hpe => ?_, ?_⟩
      · rw [hcr0, passed_pe]
        exact lmsw_pe hpe
      · rw [hcr0, lmsw_high hl]
        have hset := et_subset het
        have hmask : X86_CR0_ET &&& ~~~0xF#64 = X86_CR0_ET := by decide
        calc (cr0Value v &&& ~~~0xF#64) ||| X86_CR0_ET
            = (cr0Value v &&& ~~~0xF#64) ||| (cr0Value v &&& X86_CR0_ET &&& ~~~0xF#64) := by
              rw [hset, hmask]
          _ = (cr0Value v ||| (cr0Value v &&& X86_CR0_ET)) &&& ~~~0xF#64 :=
              BitVec.and_or_distrib_right.symm
          _ = cr0Value v &&& ~~~0xF#64 := by rw [or_and_absorb]

/-- **The registers stay legal.** From any legal vCPU, in every sequence of `kvm_set_cr0`,
`kvm_set_cr4` and `kvm_lmsw` with arbitrary values and vendor answers in which no call leaves long
mode for a paging mode that is off, and `kvm_lmsw` finds ET set: every vCPU reached is legal, a call
that returns 1 changes no register, and `kvm_lmsw` neither clears PE nor changes a bit above 3. -/
theorem legal_run {s : Vcpu} (hrun : Transition.Run (crSystem cfg) (Meets cfg) s) :
    Legal cfg s ∧ ∀ c, Meets cfg s c → CallOk cfg s c := by
  have hinv : Initialised s ∧ Legal cfg s := by
    refine hrun.invariant (fun s => Initialised s ∧ Legal cfg s) (fun _ h => h) ?_
    rintro s c s' ⟨hs, hl⟩ hmeets rfl
    obtain ⟨hinit, hiff⟩ := call_iff hs hl c
    exact ⟨hinit, (hiff.mpr hmeets).1⟩
  exact ⟨hinv.2, fun c hmeets => ((call_iff hinv.1 hinv.2 c).2.mpr hmeets).2⟩

end Setting

/-! ### A vCPU in long mode -/

/-- A vCPU in long mode with paging and PAE. -/
def long_vcpu : Vcpu :=
  set_cr4_guest_host_mask pmode_config
    { toVcpu := Cr0.init_vmcs ept_config ⟨0x80000011, fun _ => true, 0, 0, 0, 0⟩
      cr3 := 0, cr4 := 0x20, efer := 0x400, cr4_guest_owned_bits := 0, cr4_guest_rsvd_bits := 0
      GUEST_CR3 := 0, GUEST_CR4 := 0, CR4_READ_SHADOW := 0, CR4_GUEST_HOST_MASK := 0 }

theorem long_vcpu_initialised : Initialised long_vcpu :=
  ⟨⟨ept_config, rfl⟩, ⟨pmode_config, rfl⟩⟩

theorem long_vcpu_legal : Legal pmode_config long_vcpu :=
  ⟨by decide, by decide, by decide, by decide, by decide, by decide⟩

/-- PGE is set in long mode, and then TS with `kvm_lmsw`. -/
theorem legal_run_pge :
    CallOk pmode_config (kvm_set_cr4 pmode_config (fun _ => true) 0xA0 long_vcpu).2
      (.lmsw false 9) := by
  have hrun : Transition.Run (crSystem pmode_config) (Meets pmode_config)
      (kvm_set_cr4 pmode_config (fun _ => true) 0xA0 long_vcpu).2 :=
    Transition.Run.step long_vcpu (Call.set_cr4 (fun _ => true) 0xA0) _
      (.start _ ⟨long_vcpu_initialised, long_vcpu_legal⟩) trivial rfl
  have het : cr0Value (kvm_set_cr4 pmode_config (fun _ => true) 0xA0 long_vcpu).2 &&&
      X86_CR0_ET ≠ 0 := by decide
  exact (legal_run hrun).2 (.lmsw false 9) het

/-- Outside of 64-bit mode `kvm_set_cr0` accepts a value without PG, and EFER.LMA stays. -/
theorem long_mode_without_paging :
    Initialised long_vcpu ∧ Legal pmode_config long_vcpu ∧
      (kvm_set_cr0 pmode_config false 0x11 long_vcpu).1 = 0 ∧
      ¬ Legal pmode_config (kvm_set_cr0 pmode_config false 0x11 long_vcpu).2 := by
  refine ⟨long_vcpu_initialised, long_vcpu_legal, by decide, fun hlegal => ?_⟩
  have hlma : is_long_mode (kvm_set_cr0 pmode_config false 0x11 long_vcpu).2 = true := by decide
  exact absurd (hlegal.lma hlma).1 (by decide)

end Svmx.Cr4
