import Mathlib.Data.BitVec

/-!
# RISC-V 64 machine words, page geometry and paging mode

The constants the translation code of `riscv64.c` reads. The PTE flag bits come
from the `riscv64_machine_specific` initializer, whose `_page_present` the walkers
read as `_PAGE_PRESENT`; the frame mask, the frame shift
and the per-level index macros live in `defs.h`, which the source includes but
does not contain. `riscv64_page_type_init` is the only place a walker is
selected, and it selects one only for 4 KiB pages, so the walkers below always
run with the geometry `riscv64_init(PRE_GDB)` derives from a 4096-byte page.
-/

namespace CrashRiscv64.Machine

set_option autoImplicit false

/-- The source's `ulong` and `physaddr_t`: a 64-bit machine word. -/
abbrev ULong := BitVec 64

def pagePresent : ULong := 1 <<< 0

/-- Modelled from the spec: the frame/flag mask `PTE_PFN_PROT_MASK` of `defs.h`
keeps bits 0..53 of an entry (flags, RSW and PPN) and clears bits 54..63: the
reserved bits 54..60, PBMT in 61..62 and N in 63. -/
def ptePfnProtMask : ULong := 0x3FFFFFFFFFFFFF

/-- Modelled from the spec: the frame-shift constant `_PAGE_PFN_SHIFT`; the PPN
field of an entry starts at bit 10. -/
def pagePfnShift : Nat := 10

/-! ## Page geometry -/

structure PageGeometry where
  pagesize : ULong
  pageshift : Nat
  pageoffset : ULong
  pagemask : ULong
  deriving DecidableEq, Repr

/-- `ffs` on the `int` the page size converts to: one more than the index of the
lowest set bit among bits 0..31, or 0 when there is none. -/
def ffs (value : ULong) : Nat :=
  match (List.range 32).find? (fun bit => value.getLsbD bit) with
  | some bit => bit + 1
  | none => 0

/-- `riscv64_init(PRE_GDB)`, lines deriving `pageshift`, `pageoffset` and `pagemask`. -/
def riscv64PageGeometry (pagesize : ULong) : PageGeometry where
  pagesize := pagesize
  pageshift := ffs pagesize - 1
  pageoffset := pagesize - 1
  pagemask := ~~~(pagesize - 1)

def geometry4k : PageGeometry := ⟨0x1000, 12, 0xfff, 0xFFFFFFFFFFFFF000⟩

theorem riscv64_page_geometry_4k : riscv64PageGeometry 0x1000 = geometry4k := by decide

/-! `PAGESHIFT()`, `PAGEOFFSET(x)`, `PAGEBASE(x)` and `PTOB(x)` of the walkers. -/

def pageShift : Nat := geometry4k.pageshift

def pageOffset (addr : ULong) : ULong := addr &&& geometry4k.pageoffset

def pageBase (addr : ULong) : ULong := addr &&& geometry4k.pagemask

def ptob (pfn : ULong) : ULong := pfn <<< pageShift

/-! ## Table indices

Modelled from the spec: the index macros `pgd_index_l3_4k` ... `pud_index_l5_4k` of
`defs.h`, each the 9-bit field of the address at its level's shift: `PGD_SHIFT_L3 = 30`,
`PGD_SHIFT_L4 = 39` and `PGD_SHIFT_L5 = 48` for the top fields of Sv39, Sv48 and Sv57,
`P4D_SHIFT = 39`, `PUD_SHIFT = 30`, `PMD_SHIFT = 21`, and `PAGESHIFT()` for the PTE. -/

/-- The shared shape of the index macros: `(addr >> shift) & (PTRS_PER_X - 1)` with 512
entries a table. -/
def tableIndex (shift : Nat) (addr : ULong) : ULong := (addr >>> shift) &&& (512 - 1)

def pgdIndexL3_4k (addr : ULong) : ULong := tableIndex 30 addr

def pmdIndexL3_4k (addr : ULong) : ULong := tableIndex 21 addr

def pteIndexL3_4k (addr : ULong) : ULong := tableIndex pageShift addr

def pgdIndexL4_4k (addr : ULong) : ULong := tableIndex 39 addr

def pudIndexL4_4k (addr : ULong) : ULong := tableIndex 30 addr

def pmdIndexL4_4k (addr : ULong) : ULong := tableIndex 21 addr

def pteIndexL4_4k (addr : ULong) : ULong := tableIndex pageShift addr

def pgdIndexL5_4k (addr : ULong) : ULong := tableIndex 48 addr

def p4dIndexL5_4k (addr : ULong) : ULong := tableIndex 39 addr

def pudIndexL5_4k (addr : ULong) : ULong := tableIndex 30 addr

/-! ## Paging mode -/

/-- The `VM_FLAGS` bit `riscv64_page_type_init` sets: the number of table levels. -/
inductive VmFlag
  | vmL3_4k
  | vmL4_4k
  | vmL5_4k
  deriving DecidableEq, Repr

def VmFlag.levels : VmFlag → Nat
  | .vmL3_4k => 3
  | .vmL4_4k => 4
  | .vmL5_4k => 5

/-- `riscv64_page_type_init`: the mode for `va_bits`, or the `error(FATAL, ...)`
message for any page size but 4 KiB. -/
def riscv64PageTypeInit (pagesize : ULong) (vaBits : ULong) : Except String VmFlag :=
  if pagesize = 0x1000 then
    .ok (if vaBits = 57 then .vmL5_4k else if vaBits = 48 then .vmL4_4k else .vmL3_4k)
  else if pagesize ≠ 0 then
    .error s!"invalid/unsupported page size: {pagesize.toNat}\n"
  else
    .error "cannot determine page size\n"

theorem page_type_init_geometry {pagesize vaBits : ULong} {flag : VmFlag}
    (selected : riscv64PageTypeInit pagesize vaBits = .ok flag) :
    riscv64PageGeometry pagesize = geometry4k := by
  unfold riscv64PageTypeInit at selected
  by_cases fourK : pagesize = 0x1000
  · rw [fourK, riscv64_page_geometry_4k]
  · simp only [fourK, if_false] at selected
    split at selected <;> cases selected

end CrashRiscv64.Machine
