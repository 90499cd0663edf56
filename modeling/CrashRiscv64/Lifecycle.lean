import CrashRiscv64.TableCache
import CrashRiscv64.Layout

/-!
# `riscv64_init`: what `PRE_GDB` and `POST_GDB` leave for translation

`PRE_GDB` derives the page geometry from `memory_page_size()` and runs the four
vmcoreinfo readers in order: `phys_ram_base`, `struct_page_size`, `va_bits` and the
virtual layout. It allocates the five table buffers with every `last_X_read` at 0
and takes `kvbase` from `page_offset`. `POST_GDB` selects the walker from the page
size and `va_bits`. Each version-gated reader calls `riscv64_get_kernel_version()`;
the model takes the one value they see, as they do once `kt->kernel_version` holds a
version. The callbacks the phases install, the symbol and member lookups, `stacksize`,
`identity_map_base` and `hz` belong to the host and are not modelled.

The walker depth comes from the vmcoreinfo only for a 5.17 or later kernel. An older
one is walked with three levels, and so is a newer one whose vmcoreinfo has no
`NUMBER(VA_BITS)`, since `va_bits` then keeps the initializer's 0.
-/

namespace CrashRiscv64.Lifecycle

open CrashRiscv64.Machine CrashRiscv64.Walk CrashRiscv64.TableCache CrashRiscv64.Release
  CrashRiscv64.Layout

set_option autoImplicit false

/-- The fields of `struct machine_specific` that `riscv64_get_phys_ram_base`,
`riscv64_get_struct_page_size` and `riscv64_get_va_bits` set. -/
structure MachineSpecific where
  physBase : ULong
  structPageSize : ULong
  vaBits : ULong
  deriving DecidableEq, Repr

/-- Those fields in the `riscv64_machine_specific` initializer; `phys_base` is not
named there and is 0. -/
def riscv64MachineSpecific : MachineSpecific := ⟨0, 0, 0⟩

/-- `riscv64_get_phys_ram_base`; `phys_ram_base` is in the vmcoreinfo from Linux 5.14. -/
def riscv64GetPhysRamBase (kernelVersion : ULong) (vmcoreinfo : String → Option CString)
    (ms : MachineSpecific) : Except String MachineSpecific :=
  if kernelVersion ≥ thisKernelVersion ⟨5, 14, 0⟩ then
    match vmcoreinfo "NUMBER(phys_ram_base)" with
    | some string => .ok { ms with physBase := atol string.chars }
    | none => .error "cannot read phys_ram_base\n"
  else .ok { ms with physBase := 0x200000 }

def riscv64GetStructPageSize (vmcoreinfo : String → Option CString) (ms : MachineSpecific) :
    MachineSpecific :=
  match vmcoreinfo "SIZE(page)" with
  | some string => { ms with structPageSize := atol string.chars }
  | none => ms

/-- `riscv64_get_va_bits`; `VA_BITS` is in the vmcoreinfo from Linux 5.17, and 39 before. -/
def riscv64GetVaBits (kernelVersion : ULong) (vmcoreinfo : String → Option CString)
    (ms : MachineSpecific) : MachineSpecific :=
  if kernelVersion ≥ thisKernelVersion ⟨5, 17, 0⟩ then
    match vmcoreinfo "NUMBER(VA_BITS)" with
    | some string => { ms with vaBits := atol string.chars }
    | none => ms
  else { ms with vaBits := 39 }

structure Machdep where
  geometry : PageGeometry
  ms : MachineSpecific
  vaRange : VaRange
  tables : Tables
  kvbase : ULong

/-- `riscv64_init(PRE_GDB)`, from the page size `memory_page_size()` returns, the kernel
version, the vmcoreinfo with `htol` for its hexadecimal entries, and the buffers
`malloc` returns; a reader's `error(FATAL, ...)` ends the phase with its message. -/
def riscv64InitPreGdb (pagesize kernelVersion : ULong) (vmcoreinfo : String → Option CString)
    (htol : CString → ULong) (allocated : Level → ULong → ULong) : Except String Machdep := do
  let ms ← riscv64GetPhysRamBase kernelVersion vmcoreinfo riscv64MachineSpecific
  let ms := riscv64GetStructPageSize vmcoreinfo ms
  let ms := riscv64GetVaBits kernelVersion vmcoreinfo ms
  let vaRange ← riscv64GetVaRange kernelVersion fun key => (vmcoreinfo key).map htol
  pure ⟨riscv64PageGeometry pagesize, ms, vaRange, riscv64InitTables allocated, vaRange.pageOffset⟩

def riscv64InitPostGdb (machdep : Machdep) : Except String VmFlag :=
  riscv64PageTypeInit machdep.geometry.pagesize machdep.ms.vaBits

/-! ## `PRE_GDB` -/

section PreGdb

variable {pagesize kernelVersion : ULong} {vmcoreinfo : String → Option CString}
  {htol : CString → ULong} {allocated : Level → ULong → ULong}

theorem get_phys_ram_base_va_bits {ms ms' : MachineSpecific}
    (read : riscv64GetPhysRamBase kernelVersion vmcoreinfo ms = .ok ms') : ms'.vaBits = ms.vaBits := by
  unfold riscv64GetPhysRamBase at read
  repeat' split at read
  all_goals first | (cases read; rfl) | cases read

theorem get_va_bits_after_readers (ms : MachineSpecific) :
    (riscv64GetVaBits kernelVersion vmcoreinfo (riscv64GetStructPageSize vmcoreinfo ms)).vaBits =
      if kernelVersion ≥ thisKernelVersion ⟨5, 17, 0⟩ then
        ((vmcoreinfo "NUMBER(VA_BITS)").map fun string => atol string.chars).getD ms.vaBits
      else 39 := by
  unfold riscv64GetVaBits riscv64GetStructPageSize
  split
  · split <;> split <;> simp_all
  · rfl

theorem init_pre_gdb_ok {machdep : Machdep}
    (pre : riscv64InitPreGdb pagesize kernelVersion vmcoreinfo htol allocated = .ok machdep) :
    ∃ ms vaRange, riscv64GetPhysRamBase kernelVersion vmcoreinfo riscv64MachineSpecific = .ok ms ∧
      riscv64GetVaRange kernelVersion (fun key => (vmcoreinfo key).map htol) = .ok vaRange ∧
      machdep = ⟨riscv64PageGeometry pagesize,
        riscv64GetVaBits kernelVersion vmcoreinfo (riscv64GetStructPageSize vmcoreinfo ms),
        vaRange, riscv64InitTables allocated, vaRange.pageOffset⟩ := by
  unfold riscv64InitPreGdb at pre
  cases physBase : riscv64GetPhysRamBase kernelVersion vmcoreinfo riscv64MachineSpecific with
  | error message => rw [physBase] at pre; cases pre
  | ok ms =>
    cases layout : riscv64GetVaRange kernelVersion fun key => (vmcoreinfo key).map htol with
    | error message => rw [physBase, layout] at pre; cases pre
    | ok vaRange =>
      rw [physBase, layout] at pre
      exact ⟨ms, vaRange, rfl, rfl, (Except.ok.inj pre).symm⟩

/-- The walker `riscv64_init` selects after a successful `PRE_GDB`: the one
`riscv64_page_type_init` gives for the page size and for `va_bits` read as `atol` of
`NUMBER(VA_BITS)` on a 5.17 or later kernel, 0 when that entry is missing, and 39 on
an older kernel. -/
theorem init_post_gdb_walker {machdep : Machdep}
    (pre : riscv64InitPreGdb pagesize kernelVersion vmcoreinfo htol allocated = .ok machdep) :
    riscv64InitPostGdb machdep = riscv64PageTypeInit pagesize
      (if kernelVersion ≥ thisKernelVersion ⟨5, 17, 0⟩ then
        ((vmcoreinfo "NUMBER(VA_BITS)").map fun string => atol string.chars).getD 0
      else 39) := by
  obtain ⟨ms, _, physBase, _, rfl⟩ := init_pre_gdb_ok pre
  rw [riscv64InitPostGdb, get_va_bits_after_readers, get_phys_ram_base_va_bits physBase]
  rfl

end PreGdb

/-- A 6.1 kernel with 4 KiB pages whose vmcoreinfo reads `48` for every entry is walked
with four levels. -/
example :
    (riscv64InitPreGdb 0x1000 (thisKernelVersion ⟨6, 1, 0⟩) (fun _ => some ⟨"48".toList, by decide⟩)
      (fun _ => 0x48) (fun _ _ => 0) >>= riscv64InitPostGdb) = .ok .vmL4_4k :=
  rfl

end CrashRiscv64.Lifecycle
