/-
Giving up the VMCSs of a processor (`vmclear_local_loaded_vmcss` and `vmx_hardware_disable`).

The loop takes the first entry of `loaded_vmcss_on_cpu` before it starts and never another one:
`__loaded_vmcs_clear` takes the entry out of the list, and the loop clears it again. It ends only on
an empty list, whatever `RemoveEntryList` does with an entry that is in no list any more
(`hardware_disable_right_iff`).
-/
import Mathlib.Data.List.Chain
import Mathlib.Logic.Function.Basic
import Mathlib.Tactic.Common

set_option autoImplicit false

namespace Svmx.HwDisable

/-! ## The processor -/

/-- The links of the list entries, by their addresses. -/
structure ListLinks where
  Flink : ℕ → ℕ
  Blink : ℕ → ℕ

/-- The fields of `struct loaded_vmcs` that clearing reads or writes. -/
structure LoadedVmcs where
  vmcs : ℕ
  shadow_vmcs : ℕ
  cpu : ℤ
  launched : Bool

/-- What belongs to the processor that runs. A `loaded_vmcs` is named by the address of its
`loaded_vmcss_on_cpu_link`; `vmclears` are the regions that VMCLEAR was given, in order. -/
structure CpuState where
  links : ListLinks
  loaded_vmcs : ℕ → LoadedVmcs
  current_vmcs : ℕ
  vmclears : List ℕ
  vmx_operation : Bool
  vmx_vpid_bitmap_buf : ℕ

/-- `vmcs_clear`. -/
def vmcs_clear (vmcs : ℕ) (st : CpuState) : CpuState := { st with vmclears := st.vmclears ++ [vmcs] }

/-- `cpu_vmxoff`. -/
def cpu_vmxoff (st : CpuState) : CpuState := { st with vmx_operation := false }

section Disable

-- `none` is a `RemoveEntryList` that does not return, because the links do not fit together
variable (RemoveEntryList : ℕ → ListLinks → Option ListLinks)

/-- `__loaded_vmcs_clear`. -/
def __loaded_vmcs_clear (v : ℕ) (st : CpuState) : Option CpuState := do
  let loaded_vmcs := st.loaded_vmcs v
  let st := if st.current_vmcs = loaded_vmcs.vmcs then { st with current_vmcs := 0 } else st
  let st := vmcs_clear loaded_vmcs.vmcs st
  let st := if loaded_vmcs.shadow_vmcs ≠ 0 ∧ loaded_vmcs.launched then
      vmcs_clear loaded_vmcs.shadow_vmcs st else st
  let links ← RemoveEntryList v st.links
  some { st with
    links := links
    loaded_vmcs := Function.update st.loaded_vmcs v { loaded_vmcs with cpu := -1, launched := false } }

/-- The loop of `vmclear_local_loaded_vmcss`. -/
def vmclear_loop (pListHead nextEntry : ℕ) : ℕ → CpuState → Option CpuState
  | 0, _ => none
  | fuel + 1, st =>
    if nextEntry ≠ pListHead then do
      let st ← __loaded_vmcs_clear RemoveEntryList nextEntry st
      vmclear_loop pListHead nextEntry fuel st
    else some st

/-- `vmclear_local_loaded_vmcss`; `pListHead` is `&loaded_vmcss_on_cpu[cpu]`. -/
def vmclear_local_loaded_vmcss (fuel pListHead : ℕ) (st : CpuState) : Option CpuState :=
  vmclear_loop RemoveEntryList pListHead (st.links.Flink pListHead) fuel st

/-- `vmx_hardware_disable`. -/
def vmx_hardware_disable (fuel pListHead : ℕ) (st : CpuState) : Option CpuState := do
  let st ← vmclear_local_loaded_vmcss RemoveEntryList fuel pListHead st
  let st := cpu_vmxoff st
  some (if st.vmx_vpid_bitmap_buf ≠ 0 then { st with vmx_vpid_bitmap_buf := 0 } else st)

/-! ## Lists that are cleared -/

/-- The entries `l` hang on the list head, in both directions. -/
structure IsList (links : ListLinks) (pListHead : ℕ) (l : List ℕ) : Prop where
  linked : List.IsChain (fun a b => links.Flink a = b ∧ links.Blink b = a)
    (pListHead :: l ++ [pListHead])
  nodup : (pListHead :: l).Nodup

/-- The call does what it is for: it ends, the list is empty, and each VMCS that was on it was
cleared once, is on no processor, not launched and not current; and `vmx_hardware_disable` gets to
VMXOFF. -/
structure DisableRight (pListHead : ℕ) (l : List ℕ) (st : CpuState) : Prop where
  cleared : ∃ fuel st', vmclear_local_loaded_vmcss RemoveEntryList fuel pListHead st = some st' ∧
    IsList st'.links pListHead [] ∧ ∀ v ∈ l,
      st'.vmclears.count (st.loaded_vmcs v).vmcs = st.vmclears.count (st.loaded_vmcs v).vmcs + 1 ∧
      (st'.loaded_vmcs v).cpu = -1 ∧ (st'.loaded_vmcs v).launched = false ∧
      st'.current_vmcs ≠ (st.loaded_vmcs v).vmcs
  off : ∃ fuel st', vmx_hardware_disable RemoveEntryList fuel pListHead st = some st' ∧
    st'.vmx_operation = false

variable {RemoveEntryList} {pListHead : ℕ} {st : CpuState}

/-- **No end.** The loop stays on the entry that it began with. -/
theorem vmclear_loop_none {nextEntry : ℕ} (hne : nextEntry ≠ pListHead) (fuel : ℕ) :
    ∀ st, vmclear_loop RemoveEntryList pListHead nextEntry fuel st = none := by
  induction fuel with
  | zero => exact fun _ => rfl
  | succ fuel ih =>
    intro st
    rw [vmclear_loop, if_pos hne]
    cases hclear : __loaded_vmcs_clear RemoveEntryList nextEntry st with
    | none => rfl
    | some st' => exact ih st'

/-- **When the VMCSs of a processor are given up right.** Exactly when there are none: for every list
of them, and whatever `RemoveEntryList` does. -/
theorem hardware_disable_right_iff (RemoveEntryList : ℕ → ListLinks → Option ListLinks) {l : List ℕ}
    (h : IsList st.links pListHead l) : DisableRight RemoveEntryList pListHead l st ↔ l = [] := by
  constructor
  · intro hright
    obtain ⟨fuel, st', hcall, -⟩ := hright.cleared
    cases l with
    | nil => rfl
    | cons v l =>
      -- the entry that the loop begins with is not the head
      have hfirst : st.links.Flink pListHead = v := (List.isChain_cons_cons.mp h.linked).1.1
      have hne : v ≠ pListHead := by
        rintro rfl
        exact (List.nodup_cons.mp h.nodup).1 List.mem_cons_self
      rw [vmclear_local_loaded_vmcss, hfirst, vmclear_loop_none hne] at hcall
      cases hcall
  · rintro rfl
    have hempty : st.links.Flink pListHead = pListHead := (List.isChain_cons_cons.mp h.linked).1.1
    have hcall : vmclear_local_loaded_vmcss RemoveEntryList 1 pListHead st = some st := by
      rw [vmclear_local_loaded_vmcss, hempty, vmclear_loop, if_neg (not_not.mpr rfl)]
    refine ⟨⟨1, st, hcall, h, fun v hv => ?_⟩, 1, ?_⟩
    · cases hv
    · rw [vmx_hardware_disable, hcall]
      refine ⟨_, rfl, ?_⟩
      split
      · rfl
      · rfl

end Disable

/-- `RemoveEntryList`, with the check of the links that it makes. -/
def removeEntryList (Entry : ℕ) (links : ListLinks) : Option ListLinks :=
  let NextEntry := links.Flink Entry
  let PrevEntry := links.Blink Entry
  if links.Blink NextEntry ≠ Entry ∨ links.Flink PrevEntry ≠ Entry then none
  else some { Flink := Function.update links.Flink PrevEntry NextEntry
              Blink := Function.update links.Blink NextEntry PrevEntry }

/-- A processor on which no VMCS is loaded; the list head is at 16. -/
def idleCpu : CpuState where
  links := ⟨fun _ => 16, fun _ => 16⟩
  loaded_vmcs _ := ⟨0, 0, -1, false⟩
  current_vmcs := 0
  vmclears := []
  vmx_operation := true
  vmx_vpid_bitmap_buf := 48

/-- It is left as it should be. -/
theorem idle_cpu_disabled : DisableRight removeEntryList 16 [] idleCpu := by
  have hlist : IsList idleCpu.links 16 [] := ⟨by simp [idleCpu], by simp⟩
  exact (hardware_disable_right_iff removeEntryList hlist).mpr rfl

/-- The same processor after the VMCS at 64 was loaded, whose entry is at 32. -/
def busyCpu : CpuState where
  links := ⟨fun a => if a = 16 then 32 else 16, fun a => if a = 16 then 32 else 16⟩
  loaded_vmcs _ := ⟨64, 0, 0, true⟩
  current_vmcs := 64
  vmclears := []
  vmx_operation := true
  vmx_vpid_bitmap_buf := 48

/-- The one VMCS is never given up. -/
theorem busy_cpu_never_disabled : ¬ DisableRight removeEntryList 16 [32] busyCpu := by
  intro hright
  obtain ⟨fuel, st', hcall, -⟩ := hright.cleared
  rw [vmclear_local_loaded_vmcss, vmclear_loop_none (by decide)] at hcall
  cases hcall

end Svmx.HwDisable
