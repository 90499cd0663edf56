import CrashRiscv64.Release

/-!
# The kernel's virtual layout and the two address classes

`riscv64_get_va_range` fills the layout fields of `machine_specific` from the
`NUMBER(...)` entries of the vmcoreinfo, and `riscv64_init` takes `machdep->kvbase`
from `page_offset`. Before Linux 5.13 the modules area lies inside the vmalloc area
and takes its bounds. An address is kernel virtual when it lies in one of the three
vmalloc-class windows or at or above `kvbase`, and user virtual when it lies in none
of them and below `kvbase`: the two classes split every address space, whatever the
bounds and however the windows overlap.
-/

namespace CrashRiscv64.Layout

open CrashRiscv64.Machine CrashRiscv64.Release

set_option autoImplicit false

/-- The layout fields of `struct machine_specific` that `riscv64_get_va_range` sets. -/
structure VaRange where
  pageOffset : ULong
  vmallocStartAddr : ULong
  vmallocEnd : ULong
  vmemmapVaddr : ULong
  vmemmapEnd : ULong
  kernelLinkAddr : ULong
  modulesVaddr : ULong
  modulesEnd : ULong
  deriving DecidableEq, Repr

/-- `read_vmcoreinfo(key)` read by `htol`, or the `goto error` of a missing entry. -/
def readNumber (vmcoreinfo : String → Option ULong) (key : String) : Except String ULong :=
  match vmcoreinfo key with
  | some value => .ok value
  | none => .error "cannot get vm layout\n"

/-- `riscv64_get_va_range`, from the value `riscv64_get_kernel_version()` returns;
`LINUX(5,13,0)` is the `THIS_KERNEL_VERSION` encoding of 5.13.0. -/
def riscv64GetVaRange (kernelVersion : ULong) (vmcoreinfo : String → Option ULong) :
    Except String VaRange := do
  let pageOffset ← readNumber vmcoreinfo "NUMBER(PAGE_OFFSET)"
  let vmallocStartAddr ← readNumber vmcoreinfo "NUMBER(VMALLOC_START)"
  let vmallocEnd ← readNumber vmcoreinfo "NUMBER(VMALLOC_END)"
  let vmemmapVaddr ← readNumber vmcoreinfo "NUMBER(VMEMMAP_START)"
  let vmemmapEnd ← readNumber vmcoreinfo "NUMBER(VMEMMAP_END)"
  let kernelLinkAddr ← readNumber vmcoreinfo "NUMBER(KERNEL_LINK_ADDR)"
  let modules ←
    if kernelVersion ≥ thisKernelVersion ⟨5, 13, 0⟩ then do
      let modulesVaddr ← readNumber vmcoreinfo "NUMBER(MODULES_VADDR)"
      let modulesEnd ← readNumber vmcoreinfo "NUMBER(MODULES_END)"
      pure (modulesVaddr, modulesEnd)
    else pure (vmallocStartAddr, vmallocEnd)
  pure ⟨pageOffset, vmallocStartAddr, vmallocEnd, vmemmapVaddr, vmemmapEnd, kernelLinkAddr,
    modules.1, modules.2⟩

/-- `riscv64_IS_VMALLOC_ADDR`, with `VMALLOC_START`, `VMALLOC_END`, `VMEMMAP_VADDR`,
`VMEMMAP_END`, `MODULES_VADDR` and `MODULES_END` read as the fields
`riscv64_get_va_range` sets. -/
def riscv64IsVmallocAddr (ms : VaRange) (vaddr : ULong) : Bool :=
  (vaddr ≥ ms.vmallocStartAddr && vaddr ≤ ms.vmallocEnd) ||
    (vaddr ≥ ms.vmemmapVaddr && vaddr ≤ ms.vmemmapEnd) ||
    (vaddr ≥ ms.modulesVaddr && vaddr ≤ ms.modulesEnd)

/-- `riscv64_is_kvaddr`, with `IS_VMALLOC_ADDR` read as `riscv64_IS_VMALLOC_ADDR`. -/
def riscv64IsKvaddr (kvbase : ULong) (ms : VaRange) (vaddr : ULong) : Bool :=
  if riscv64IsVmallocAddr ms vaddr then true else vaddr ≥ kvbase

/-- `riscv64_is_uvaddr`; its task context is unused. -/
def riscv64IsUvaddr (kvbase : ULong) (ms : VaRange) (vaddr : ULong) : Bool :=
  if riscv64IsVmallocAddr ms vaddr then false else vaddr < kvbase

/-! ## The layout read from the vmcoreinfo -/

theorem get_va_range_modules {kernelVersion : ULong} {vmcoreinfo : String → Option ULong}
    {ms : VaRange} (read : riscv64GetVaRange kernelVersion vmcoreinfo = .ok ms)
    (old : kernelVersion < thisKernelVersion ⟨5, 13, 0⟩) :
    ms.modulesVaddr = ms.vmallocStartAddr ∧ ms.modulesEnd = ms.vmallocEnd := by
  simp only [riscv64GetVaRange, readNumber, if_neg (BitVec.not_le.mpr old)] at read
  repeat' split at read
  all_goals first | (cases read; exact ⟨rfl, rfl⟩) | cases read

theorem is_vmalloc_addr_before_5_13 {kernelVersion : ULong} {vmcoreinfo : String → Option ULong}
    {ms : VaRange} (read : riscv64GetVaRange kernelVersion vmcoreinfo = .ok ms)
    (old : kernelVersion < thisKernelVersion ⟨5, 13, 0⟩) (vaddr : ULong) :
    riscv64IsVmallocAddr ms vaddr =
      ((vaddr ≥ ms.vmallocStartAddr && vaddr ≤ ms.vmallocEnd) ||
        (vaddr ≥ ms.vmemmapVaddr && vaddr ≤ ms.vmemmapEnd)) := by
  obtain ⟨start, stop⟩ := get_va_range_modules read old
  rw [riscv64IsVmallocAddr, start, stop]
  cases vaddr ≥ ms.vmallocStartAddr && vaddr ≤ ms.vmallocEnd <;> simp

/-! ## The two address classes -/

theorem is_uvaddr_eq_not_is_kvaddr (kvbase : ULong) (ms : VaRange) (vaddr : ULong) :
    riscv64IsUvaddr kvbase ms vaddr = !riscv64IsKvaddr kvbase ms vaddr := by
  unfold riscv64IsUvaddr riscv64IsKvaddr
  cases riscv64IsVmallocAddr ms vaddr <;> simp [← BitVec.not_le]

/-- A vmalloc window below `kvbase`: its addresses are kernel virtual and not user virtual. -/
example :
    riscv64IsKvaddr 0x8000 ⟨0x8000, 0x1000, 0x1fff, 0, 0, 0, 0, 0⟩ 0x1800 = true ∧
      riscv64IsUvaddr 0x8000 ⟨0x8000, 0x1000, 0x1fff, 0, 0, 0, 0, 0⟩ 0x1800 = false := by
  decide

end CrashRiscv64.Layout
