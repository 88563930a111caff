/-
The write-through cache of the host state (`loaded_vmcs->host_state`).

Before an entry the host's FS, GS, CR3, CR4 and RSP have to be in the VMCS. Each field is written only
if the value differs from the one in `host_state`. For CR3, CR4 and RSP every write goes to both, so
the VMCS is right. `vmx_set_host_fs_gs` does not store the GS selector in `host_state`, and
`init_vmcs` stores none of FS and GS there: a value that equals the cached one is not written although
the VMCS holds another (`host_state_truthful`, `host_gs_stale`).
-/
import Mathlib.Data.BitVec
import Mathlib.Tactic.Common
import Svmx.Transition

set_option autoImplicit false

namespace Svmx.HostState

/-! ## The host state -/

/-- `struct vmcs_host_state`, as far as it is used. -/
structure VmcsHostState where
  cr3 : BitVec 64
  cr4 : BitVec 64
  gs_base : BitVec 64
  fs_base : BitVec 64
  rsp : BitVec 64
  fs_sel : BitVec 16
  gs_sel : BitVec 16
deriving DecidableEq

/-- The host fields of the VMCS that are cached. -/
structure HostFields where
  HOST_CR3 : BitVec 64
  HOST_CR4 : BitVec 64
  HOST_GS_BASE : BitVec 64
  HOST_FS_BASE : BitVec 64
  HOST_RSP : BitVec 64
  HOST_FS_SELECTOR : BitVec 16
  HOST_GS_SELECTOR : BitVec 16
deriving DecidableEq

/-- The FS and GS of the host, as a call passes them in. -/
structure FsGs where
  fs_sel : BitVec 16
  gs_sel : BitVec 16
  fs_base : BitVec 64
  gs_base : BitVec 64
deriving DecidableEq

/-- The cache, the VMCS, and the FS and GS that were passed in last. -/
structure LoadedVmcs where
  host_state : VmcsHostState
  vmcs : HostFields
  passed : Option FsGs
deriving DecidableEq

/-- What HOST_FS_SELECTOR and HOST_GS_SELECTOR hold for a selector. -/
def hostSelector (sel : BitVec 16) : BitVec 16 := if sel &&& 7 = 0 then sel else 0

/-- `vmx_set_host_fs_gs`. -/
def vmx_set_host_fs_gs (host : FsGs) (lv : LoadedVmcs) : LoadedVmcs :=
  let lv := if host.fs_sel ≠ lv.host_state.fs_sel then
      { lv with
        vmcs := { lv.vmcs with HOST_FS_SELECTOR := hostSelector host.fs_sel }
        host_state := { lv.host_state with fs_sel := host.fs_sel } } else lv
  let lv := if host.gs_sel ≠ lv.host_state.gs_sel then
      { lv with vmcs := { lv.vmcs with HOST_GS_SELECTOR := hostSelector host.gs_sel } } else lv
  let lv := if host.fs_base ≠ lv.host_state.fs_base then
      { lv with
        vmcs := { lv.vmcs with HOST_FS_BASE := host.fs_base }
        host_state := { lv.host_state with fs_base := host.fs_base } } else lv
  let lv := if host.gs_base ≠ lv.host_state.gs_base then
      { lv with
        vmcs := { lv.vmcs with HOST_GS_BASE := host.gs_base }
        host_state := { lv.host_state with gs_base := host.gs_base } } else lv
  { lv with passed := some host }

/-- The selectors that `vmx_prepare_switch_to_guest` and `init_vmcs` take from the processor. -/
def FsGs.masked (host : FsGs) : FsGs :=
  { host with fs_sel := host.fs_sel &&& 0xf8, gs_sel := host.gs_sel &&& 0xf8 }

/-- `vmx_prepare_switch_to_guest`, on a processor whose FS and GS are `host`. -/
def vmx_prepare_switch_to_guest (host : FsGs) (lv : LoadedVmcs) : LoadedVmcs :=
  vmx_set_host_fs_gs host.masked lv

/-- `vmx_set_constant_host_state`, as far as it is cached. -/
def vmx_set_constant_host_state (cr3 cr4 : BitVec 64) (lv : LoadedVmcs) : LoadedVmcs :=
  { lv with
    vmcs := { lv.vmcs with HOST_CR3 := cr3, HOST_CR4 := cr4 }
    host_state := { lv.host_state with cr3 := cr3, cr4 := cr4 } }

/-- `init_vmcs`, as far as it writes these fields. -/
def init_vmcs (host : FsGs) (cr3 cr4 : BitVec 64) (lv : LoadedVmcs) : LoadedVmcs :=
  let lv := { lv with
    vmcs := { lv.vmcs with
      HOST_FS_SELECTOR := host.masked.fs_sel
      HOST_GS_SELECTOR := host.masked.gs_sel } }
  let lv := vmx_set_constant_host_state cr3 cr4 lv
  { lv with
    vmcs := { lv.vmcs with HOST_FS_BASE := host.fs_base, HOST_GS_BASE := host.gs_base }
    passed := some host.masked }

/-- `vmx_update_host_rsp`. -/
def vmx_update_host_rsp (host_rsp : BitVec 64) (lv : LoadedVmcs) : LoadedVmcs :=
  if host_rsp ≠ lv.host_state.rsp then
    { lv with
      host_state := { lv.host_state with rsp := host_rsp }
      vmcs := { lv.vmcs with HOST_RSP := host_rsp } }
  else lv

/-- `vmx_vcpu_run` up to the entry, on a processor with CR3 `cr3` and CR4 `cr4`; `__vmx_vcpu_run`
passes its stack pointer `host_rsp` to `vmx_update_host_rsp`. -/
def vmx_vcpu_run (cr3 cr4 host_rsp : BitVec 64) (lv : LoadedVmcs) : LoadedVmcs :=
  let lv := if cr3 ≠ lv.host_state.cr3 then
      { lv with
        vmcs := { lv.vmcs with HOST_CR3 := cr3 }
        host_state := { lv.host_state with cr3 := cr3 } } else lv
  let lv := if cr4 ≠ lv.host_state.cr4 then
      { lv with
        vmcs := { lv.vmcs with HOST_CR4 := cr4 }
        host_state := { lv.host_state with cr4 := cr4 } } else lv
  vmx_update_host_rsp host_rsp lv

/-! ## Histories -/

/-- One call. With `emulation_required` `vmx_vcpu_run` returns before all this, so it is no call. -/
inductive Call where
  | init_vmcs (host : FsGs) (cr3 cr4 : BitVec 64)
  | prepare_switch_to_guest (host : FsGs)
  | set_host_fs_gs (host : FsGs)
  | update_host_rsp (host_rsp : BitVec 64)
  | vcpu_run (cr3 cr4 host_rsp : BitVec 64)

def call (lv : LoadedVmcs) : Call → LoadedVmcs
  | .init_vmcs host cr3 cr4 => init_vmcs host cr3 cr4 lv
  | .prepare_switch_to_guest host => vmx_prepare_switch_to_guest host lv
  | .set_host_fs_gs host => vmx_set_host_fs_gs host lv
  | .update_host_rsp host_rsp => vmx_update_host_rsp host_rsp lv
  | .vcpu_run cr3 cr4 host_rsp => vmx_vcpu_run cr3 cr4 host_rsp lv

/-- `alloc_loaded_vmcs`: the region of the VMCS and `host_state` are zero. -/
def alloc_loaded_vmcs : LoadedVmcs := ⟨⟨0, 0, 0, 0, 0, 0, 0⟩, ⟨0, 0, 0, 0, 0, 0, 0⟩, none⟩

/-- The histories of calls on a new VMCS. -/
def hostSystem : Transition.System LoadedVmcs Call where
  init lv := lv = alloc_loaded_vmcs
  step lv c lv' := lv' = call lv c

/-- The VMCS holds the FS and GS that were passed in. -/
structure HoldsFsGs (vmcs : HostFields) (host : FsGs) : Prop where
  fs_sel : vmcs.HOST_FS_SELECTOR = hostSelector host.fs_sel
  gs_sel : vmcs.HOST_GS_SELECTOR = hostSelector host.gs_sel
  fs_base : vmcs.HOST_FS_BASE = host.fs_base
  gs_base : vmcs.HOST_GS_BASE = host.gs_base

/-- The VMCS is right for an entry on a processor with these registers. -/
structure Truthful (cr3 cr4 host_rsp : BitVec 64) (lv : LoadedVmcs) : Prop where
  fs_gs : ∀ host, lv.passed = some host → HoldsFsGs lv.vmcs host
  cr3 : lv.vmcs.HOST_CR3 = cr3
  cr4 : lv.vmcs.HOST_CR4 = cr4
  rsp : lv.vmcs.HOST_RSP = host_rsp

/-- What is passed in is new to the cache, or the VMCS holds it. -/
structure SkipsSafely (lv : LoadedVmcs) (host : FsGs) : Prop where
  fs_sel : host.fs_sel = lv.host_state.fs_sel → lv.vmcs.HOST_FS_SELECTOR = hostSelector host.fs_sel
  gs_sel : host.gs_sel = lv.host_state.gs_sel → lv.vmcs.HOST_GS_SELECTOR = hostSelector host.gs_sel
  fs_base : host.fs_base = lv.host_state.fs_base → lv.vmcs.HOST_FS_BASE = host.fs_base
  gs_base : host.gs_base = lv.host_state.gs_base → lv.vmcs.HOST_GS_BASE = host.gs_base

/-- No value of FS or GS that is passed in equals the cached one while the VMCS holds another. -/
def Meets (lv : LoadedVmcs) : Call → Prop
  | .prepare_switch_to_guest host => SkipsSafely lv host.masked
  | .set_host_fs_gs host => SkipsSafely lv host
  | _ => True

/-! ## FS and GS -/

/-- The fields after `vmx_set_host_fs_gs`. -/
theorem set_host_fs_gs_fields (host : FsGs) (lv : LoadedVmcs) :
    vmx_set_host_fs_gs host lv =
      { vmcs := { lv.vmcs with
          HOST_FS_SELECTOR := if host.fs_sel ≠ lv.host_state.fs_sel then hostSelector host.fs_sel
            else lv.vmcs.HOST_FS_SELECTOR
          HOST_GS_SELECTOR := if host.gs_sel ≠ lv.host_state.gs_sel then hostSelector host.gs_sel
            else lv.vmcs.HOST_GS_SELECTOR
          HOST_FS_BASE := if host.fs_base ≠ lv.host_state.fs_base then host.fs_base
            else lv.vmcs.HOST_FS_BASE
          HOST_GS_BASE := if host.gs_base ≠ lv.host_state.gs_base then host.gs_base
            else lv.vmcs.HOST_GS_BASE }
        host_state := { lv.host_state with
          fs_sel := host.fs_sel
          fs_base := host.fs_base
          gs_base := host.gs_base }
        passed := some host } := by
  unfold vmx_set_host_fs_gs
  by_cases hfs : host.fs_sel = lv.host_state.fs_sel <;>
    by_cases hgs : host.gs_sel = lv.host_state.gs_sel <;>
    by_cases hfb : host.fs_base = lv.host_state.fs_base <;>
    by_cases hgb : host.gs_base = lv.host_state.gs_base <;>
    simp [hfs, hgs, hfb, hgb]

/-- **`vmx_set_host_fs_gs`** leaves what was passed in, exactly if it skips no field wrongly. -/
theorem set_host_fs_gs_iff (host : FsGs) (lv : LoadedVmcs) :
    HoldsFsGs (vmx_set_host_fs_gs host lv).vmcs host ↔ SkipsSafely lv host := by
  have hfield : ∀ {w : ℕ} (value cached held new : BitVec w),
      (if value ≠ cached then new else held) = new ↔ (value = cached → held = new) := by
    intro w value cached held new
    by_cases heq : value = cached
    · simp [heq]
    · simp [heq]
  rw [set_host_fs_gs_fields]
  constructor
  · rintro ⟨h1, h2, h3, h4⟩
    exact ⟨(hfield _ _ _ _).mp h1, (hfield _ _ _ _).mp h2, (hfield _ _ _ _).mp h3,
      (hfield _ _ _ _).mp h4⟩
  · rintro ⟨h1, h2, h3, h4⟩
    exact ⟨(hfield _ _ _ _).mpr h1, (hfield _ _ _ _).mpr h2, (hfield _ _ _ _).mpr h3,
      (hfield _ _ _ _).mpr h4⟩

/-- A selector without its low three bits is held as it is. -/
theorem hostSelector_masked (sel : BitVec 16) : hostSelector (sel &&& 0xf8) = sel &&& 0xf8 := by
  have hzero : sel &&& 0xf8 &&& 7 = 0 := by
    have hmask : (0xf8 : BitVec 16) &&& 7 = 0 := by decide
    rw [BitVec.and_assoc, hmask]
    exact BitVec.and_zero
  rw [hostSelector, if_pos hzero]

/-! ## The invariant -/

/-- CR3, CR4 and RSP are the same in the cache and in the VMCS, and FS and GS are held. -/
structure Synced (lv : LoadedVmcs) : Prop where
  fs_gs : ∀ host, lv.passed = some host → HoldsFsGs lv.vmcs host
  cr3 : lv.vmcs.HOST_CR3 = lv.host_state.cr3
  cr4 : lv.vmcs.HOST_CR4 = lv.host_state.cr4
  rsp : lv.vmcs.HOST_RSP = lv.host_state.rsp

variable {lv : LoadedVmcs}

theorem Synced.set_host_fs_gs (h : Synced lv) {host : FsGs} (hsafe : SkipsSafely lv host) :
    Synced (vmx_set_host_fs_gs host lv) := by
  have hholds := (set_host_fs_gs_iff host lv).mpr hsafe
  rw [set_host_fs_gs_fields] at hholds ⊢
  refine ⟨fun host' hpassed => ?_, h.cr3, h.cr4, h.rsp⟩
  obtain rfl := Option.some.inj hpassed
  exact hholds

theorem Synced.init_vmcs (h : Synced lv) (host : FsGs) (cr3 cr4 : BitVec 64) :
    Synced (init_vmcs host cr3 cr4 lv) := by
  refine ⟨fun host' hpassed => ?_, rfl, rfl, h.rsp⟩
  obtain rfl := Option.some.inj hpassed
  exact ⟨(hostSelector_masked host.fs_sel).symm, (hostSelector_masked host.gs_sel).symm, rfl, rfl⟩

/-- After `vmx_update_host_rsp` the value passed in is in both places. -/
theorem Synced.update_host_rsp (h : Synced lv) (host_rsp : BitVec 64) :
    Synced (vmx_update_host_rsp host_rsp lv) ∧
      (vmx_update_host_rsp host_rsp lv).vmcs = { lv.vmcs with HOST_RSP := host_rsp } := by
  unfold vmx_update_host_rsp
  split
  · exact ⟨⟨fun host hpassed => ⟨(h.fs_gs host hpassed).fs_sel, (h.fs_gs host hpassed).gs_sel,
      (h.fs_gs host hpassed).fs_base, (h.fs_gs host hpassed).gs_base⟩, h.cr3, h.cr4, rfl⟩, rfl⟩
  · next heq =>
    refine ⟨h, ?_⟩
    rw [not_not.mp heq, ← h.rsp]

/-- **At an entry** the VMCS has the registers of the processor. -/
theorem Synced.vcpu_run (h : Synced lv) (cr3 cr4 host_rsp : BitVec 64) :
    Synced (vmx_vcpu_run cr3 cr4 host_rsp lv) ∧
      Truthful cr3 cr4 host_rsp (vmx_vcpu_run cr3 cr4 host_rsp lv) := by
  have hcr : Synced { lv with
      vmcs := { lv.vmcs with HOST_CR3 := cr3, HOST_CR4 := cr4 }
      host_state := { lv.host_state with cr3 := cr3, cr4 := cr4 } } :=
    ⟨fun host hpassed => ⟨(h.fs_gs host hpassed).fs_sel, (h.fs_gs host hpassed).gs_sel,
      (h.fs_gs host hpassed).fs_base, (h.fs_gs host hpassed).gs_base⟩, rfl, rfl, h.rsp⟩
  -- a register that is not written is there already
  have hrun : vmx_vcpu_run cr3 cr4 host_rsp lv = vmx_update_host_rsp host_rsp { lv with
      vmcs := { lv.vmcs with HOST_CR3 := cr3, HOST_CR4 := cr4 }
      host_state := { lv.host_state with cr3 := cr3, cr4 := cr4 } } := by
    obtain ⟨⟨c3, c4, gb, fb, r, fs, gs⟩, ⟨v3, v4, vgb, vfb, vr, vfs, vgs⟩, p⟩ := lv
    obtain ⟨-, h3, h4, -⟩ := h
    simp only at h3 h4
    subst h3 h4
    unfold vmx_vcpu_run
    by_cases h3 : cr3 = v3 <;> by_cases h4 : cr4 = v4 <;> simp [h3, h4]
  obtain ⟨hsynced, hvmcs⟩ := hcr.update_host_rsp host_rsp
  rw [hrun]
  refine ⟨hsynced, hsynced.fs_gs, ?_, ?_, ?_⟩
  · rw [hvmcs]
  · rw [hvmcs]
  · rw [hvmcs]

/-- **One call** that meets the condition keeps the cache synced. -/
theorem call_synced (h : Synced lv) (c : Call) (hmeets : Meets lv c) : Synced (call lv c) := by
  cases c with
  | init_vmcs host cr3 cr4 => exact h.init_vmcs host cr3 cr4
  | prepare_switch_to_guest host => exact h.set_host_fs_gs hmeets
  | set_host_fs_gs host => exact h.set_host_fs_gs hmeets
  | update_host_rsp host_rsp => exact (h.update_host_rsp host_rsp).1
  | vcpu_run cr3 cr4 host_rsp => exact (h.vcpu_run cr3 cr4 host_rsp).1

/-- **The GS selector is never cached**: it stays 0 in `host_state`, in every history. -/
theorem gs_sel_zero (h : Transition.Run hostSystem (fun _ _ => True) lv) :
    lv.host_state.gs_sel = 0 := by
  refine h.invariant (fun lv => lv.host_state.gs_sel = 0) ?_ ?_
  · rintro lv rfl
    rfl
  · rintro lv c lv' hzero - rfl
    cases c with
    | init_vmcs host cr3 cr4 => exact hzero
    | prepare_switch_to_guest host =>
      unfold call vmx_prepare_switch_to_guest
      dsimp only
      rw [set_host_fs_gs_fields]
      exact hzero
    | set_host_fs_gs host =>
      unfold call
      dsimp only
      rw [set_host_fs_gs_fields]
      exact hzero
    | update_host_rsp host_rsp =>
      unfold call vmx_update_host_rsp
      dsimp only
      split
      · exact hzero
      · exact hzero
    | vcpu_run cr3 cr4 host_rsp =>
      unfold call vmx_vcpu_run vmx_update_host_rsp
      dsimp only
      split <;> split <;> split <;> exact hzero

/-- **The host state is truthful.** In every history of calls on a new VMCS in which no FS or GS
value is passed in that equals the one in `host_state` while the VMCS holds another: right before
every entry the VMCS holds the FS and GS that were passed in last, and the processor's CR3, CR4 and
RSP. -/
theorem host_state_truthful (h : Transition.Run hostSystem Meets lv) (cr3 cr4 host_rsp : BitVec 64) :
    Truthful cr3 cr4 host_rsp (vmx_vcpu_run cr3 cr4 host_rsp lv) := by
  have hsynced : Synced lv := by
    refine h.invariant Synced ?_ ?_
    · rintro lv rfl
      exact ⟨fun host hpassed => absurd hpassed (Option.some_ne_none host).symm, rfl, rfl, rfl⟩
    · rintro lv c lv' hs hmeets rfl
      exact call_synced hs c hmeets
  exact (hsynced.vcpu_run cr3 cr4 host_rsp).2

/-- A new VMCS with FS 0x50 and GS 0x28. -/
theorem host_state_truthful_new : Truthful 1 2 3
    (vmx_vcpu_run 1 2 3 (call alloc_loaded_vmcs (.set_host_fs_gs ⟨0x50, 0x28, 0x1000, 0x2000⟩))) := by
  have hsafe : Meets alloc_loaded_vmcs (.set_host_fs_gs ⟨0x50, 0x28, 0x1000, 0x2000⟩) :=
    ⟨by decide, by decide, by decide, by decide⟩
  exact host_state_truthful (.step alloc_loaded_vmcs
    (Call.set_host_fs_gs ⟨0x50, 0x28, 0x1000, 0x2000⟩) _ (.start _ rfl) hsafe rfl) 1 2 3

/-- GS goes to 0x28 and back to 0: the VMCS keeps 0x28. And after `init_vmcs` with FS 0x50 the FS
selector 0 is not written. -/
theorem host_gs_stale :
    (Transition.Run hostSystem (fun _ _ => True) (call (call alloc_loaded_vmcs
        (.set_host_fs_gs ⟨0, 0x28, 0, 0⟩)) (.set_host_fs_gs ⟨0, 0, 0, 0⟩)) ∧
      ¬ Truthful 1 2 3 (vmx_vcpu_run 1 2 3 (call (call alloc_loaded_vmcs
        (.set_host_fs_gs ⟨0, 0x28, 0, 0⟩)) (.set_host_fs_gs ⟨0, 0, 0, 0⟩)))) ∧
    Transition.Run hostSystem (fun _ _ => True) (call (call alloc_loaded_vmcs
        (.init_vmcs ⟨0x50, 0, 0, 0⟩ 1 2)) (.set_host_fs_gs ⟨0, 0, 0, 0⟩)) ∧
      ¬ Truthful 1 2 3 (vmx_vcpu_run 1 2 3 (call (call alloc_loaded_vmcs
        (.init_vmcs ⟨0x50, 0, 0, 0⟩ 1 2)) (.set_host_fs_gs ⟨0, 0, 0, 0⟩))) := by
  refine ⟨⟨?_, fun h => ?_⟩, ?_, fun h => ?_⟩
  · exact .step _ (Call.set_host_fs_gs ⟨0, 0, 0, 0⟩) _
      (.step _ (Call.set_host_fs_gs ⟨0, 0x28, 0, 0⟩) _ (.start alloc_loaded_vmcs rfl) trivial rfl)
      trivial rfl
  · exact absurd (h.fs_gs ⟨0, 0, 0, 0⟩ rfl).gs_sel (by decide)
  · exact .step _ (Call.set_host_fs_gs ⟨0, 0, 0, 0⟩) _
      (.step _ (Call.init_vmcs ⟨0x50, 0, 0, 0⟩ 1 2) _ (.start alloc_loaded_vmcs rfl) trivial rfl)
      trivial rfl
  · exact absurd (h.fs_gs ⟨0, 0, 0, 0⟩ rfl).fs_sel (by decide)

end Svmx.HostState
