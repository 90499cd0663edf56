import CrashRiscv64.Machine

/-!
# ELF note records and the register block

The bytes the crash-note extraction reads: a note buffer or a located note, its
12-byte `Elf64_Nhdr` (three little-endian `Elf64_Word`s), the `"CORE"` name check
and the `BCOPY` of the register block out of the descriptor. Every read is
checked against the end of the record it is made in; a read past it has no
defined result and is `none`.
-/

namespace CrashRiscv64.NoteRecord

open CrashRiscv64.Machine

set_option autoImplicit false

def nhdrSize : Nat := 12

def ntPrstatus : Nat := 1

/-- `roundup(x, y)` where `x + y - 1` cannot wrap: the register offsets add the header
size to `n_namesz` in a 64-bit `ulong` first. -/
def roundup (x y : Nat) : Nat := (x + y - 1) / y * y

/-- `roundup(n_namesz, 4)` on the 32-bit `Elf64_Word` itself, as the size check of
`riscv64_get_crash_notes` computes it: `n_namesz + 3` wraps from `0xfffffffd` on, and the
result is then 0. -/
def roundupWord (namesz : Nat) : Nat := (namesz + 3) % 2 ^ 32 / 4 * 4

example : roundupWord 0xfffffffc = roundup 0xfffffffc 4 ∧ roundupWord 0xfffffffd = 0 := by
  decide

/-- The sizes the extraction reads: `SIZE(note_buf)`, `OFFSET(elf_prstatus_pr_reg)`
and `sizeof(struct riscv64_register)`. -/
structure NoteGeometry where
  noteBufSize : Nat
  prRegOffset : Nat
  regSize : Nat
  deriving DecidableEq, Repr

def readWord32 (bytes : List UInt8) (offset : Nat) : Option Nat := do
  let b0 ← bytes[offset]?
  let b1 ← bytes[offset + 1]?
  let b2 ← bytes[offset + 2]?
  let b3 ← bytes[offset + 3]?
  pure (b0.toNat + 2 ^ 8 * b1.toNat + 2 ^ 16 * b2.toNat + 2 ^ 24 * b3.toNat)

structure Nhdr where
  namesz : Nat
  descsz : Nat
  type : Nat
  deriving DecidableEq, Repr

def readNhdr (bytes : List UInt8) : Option Nhdr := do
  let namesz ← readWord32 bytes 0
  let descsz ← readWord32 bytes 4
  let type ← readWord32 bytes 8
  pure ⟨namesz, descsz, type⟩

/-- `strncmp(bytes + offset, expected, strlen(expected)) == 0` for a NUL-free
`expected`: compared byte by byte up to the first difference. -/
def strneqAt (bytes : List UInt8) (offset : Nat) : List UInt8 → Option Bool
  | [] => some true
  | c :: rest =>
    match bytes[offset]? with
    | none => none
    | some b => if b = c then strneqAt bytes (offset + 1) rest else some false

def coreName : List UInt8 := [0x43, 0x4f, 0x52, 0x45]

def bcopy (bytes : List UInt8) (offset len : Nat) : Option (List UInt8) :=
  if offset + len ≤ bytes.length then some ((bytes.drop offset).take len) else none

/-- Where the register block starts:
`roundup(sizeof(Elf64_Nhdr) + n_namesz, 4) + OFFSET(elf_prstatus_pr_reg)`. -/
def regOffset (geometry : NoteGeometry) (namesz : Nat) : Nat :=
  roundup (nhdrSize + namesz) 4 + geometry.prRegOffset

def registerBlock (geometry : NoteGeometry) (record : List UInt8) (namesz : Nat) :
    Option (List UInt8) :=
  bcopy record (regOffset geometry namesz) geometry.regSize

def zeroRegs (geometry : NoteGeometry) : List UInt8 := List.replicate geometry.regSize 0

/-- A note the dump-format locator returns: a whole ELF note record, the
12-byte header, the name padded to 4 bytes and the descriptor. -/
structure LocatedNote where
  bytes : List UInt8
  header : Nhdr
  header_read : readNhdr bytes = some header
  length_eq : bytes.length = nhdrSize + roundup header.namesz 4 + header.descsz

/-! ## Bounds -/

theorem bcopy_is_some_iff (bytes : List UInt8) (offset len : Nat) :
    (bcopy bytes offset len).isSome ↔ offset + len ≤ bytes.length := by
  unfold bcopy
  split <;> simp_all

theorem bcopy_length {bytes : List UInt8} {offset len : Nat} {block : List UInt8}
    (copied : bcopy bytes offset len = some block) : block.length = len := by
  unfold bcopy at copied
  split at copied
  · cases copied
    simp only [List.length_take, List.length_drop]
    omega
  · cases copied

theorem roundup_after_header (namesz : Nat) :
    roundup (nhdrSize + namesz) 4 = nhdrSize + roundup namesz 4 := by
  unfold roundup nhdrSize
  omega

/-- In a located note the register block lies inside the record exactly when the
descriptor holds it, whatever the name size. -/
theorem located_register_block_is_some_iff (geometry : NoteGeometry) (located : LocatedNote) :
    (registerBlock geometry located.bytes located.header.namesz).isSome ↔
      geometry.prRegOffset + geometry.regSize ≤ located.header.descsz := by
  rw [registerBlock, bcopy_is_some_iff, located.length_eq, regOffset, roundup_after_header]
  omega

end CrashRiscv64.NoteRecord
