import CrashRiscv64.Walk

/-!
# The walkers against the RISC-V translation

`riscv64_page_type_init` refers to the RISC-V privileged specification, whose
"Virtual Address Translation Process" is what the walkers stand for. That process is
the abstract layer here: a walk from `VPN[L - 1]` down to `VPN[0]` that faults on an
invalid entry, stops at the first leaf (a superpage above level 0) and otherwise
follows the entry's PPN; it faults on an address that is not canonical for the mode and
on a pointer with D, A or U set, bits reserved in a non-leaf entry. The access-type
permission checks and the A/D updates (steps 5 and 7) are left out, since a walker
translates an address and not an access, and bits 54..63 are reserved, as without the
Svpbmt and Svnapot extensions.

The walkers are written for tables with 4 KiB pages only; huge pages are stubbed.
On a path of such tables (above level 0 a zero entry or a valid pointer, at level 0
an entry with V clear or a valid leaf) every walker computes the translation of the
specification for a canonical address, and it answers not present exactly where the
MMU faults. A megapage is where the two part: the walker follows the leaf's frame as if
it were a table.
-/

namespace CrashRiscv64.Mmu

open CrashRiscv64.Machine CrashRiscv64.Pte CrashRiscv64.Walk

set_option autoImplicit false

/-! `_page_read`, `_page_write`, `_page_exec`, `_page_user`, `_page_accessed` and
`_page_dirty` of `riscv64_machine_specific`. -/

def pageRead : ULong := 1 <<< 1

def pageWrite : ULong := 1 <<< 2

def pageExec : ULong := 1 <<< 3

def pageUser : ULong := 1 <<< 4

def pageAccessed : ULong := 1 <<< 6

def pageDirty : ULong := 1 <<< 7

/-! ## The translation of the privileged specification -/

def ppn (pte : ULong) : ULong := (pte >>> 10) &&& 0xFFFFFFFFFFF

/-- Step 3: V clear, W without R, or a reserved bit set. -/
def entryFaults (pte : ULong) : Bool :=
  pte &&& pagePresent = 0 || (pte &&& pageRead = 0 && pte &&& pageWrite ≠ 0) || pte >>> 54 ≠ 0

/-- Step 4: an entry with R or X set is a leaf. -/
def isLeafEntry (pte : ULong) : Bool := pte &&& pageRead ≠ 0 || pte &&& pageExec ≠ 0

/-- Step 3 for a pointer: D, A and U are reserved in a non-leaf entry. -/
def pointerFaults (pte : ULong) : Bool := pte &&& (pageDirty ||| pageAccessed ||| pageUser) ≠ 0

/-- Steps 6 and 8 for a leaf at level `i`: a superpage whose PPN has one of its low
`9 i` bits set faults; otherwise the address is that PPN over `VPN[i - 1..0]` and the
page offset of `vaddr`. -/
def leafAddress (i : Nat) (pte vaddr : ULong) : Option ULong :=
  if ppn pte &&& (1 <<< (9 * i) - 1) ≠ 0 then none
  else some ((ppn pte <<< 12) + (vaddr &&& (1 <<< (12 + 9 * i) - 1)))

/-- Steps 3 to 8 from the entry `pte` read at level `i`: a fault, a leaf, or the walk
on from the entry at `VPN[i - 1]` of the table `pte` points to. -/
def svFromEntry (image : Image) (vaddr : ULong) (i : Nat) (pte : ULong) : Option ULong :=
  if entryFaults pte then none
  else if isLeafEntry pte then leafAddress i pte vaddr
  else if pointerFaults pte then none
  else
    match i with
    | 0 => none
    | i + 1 => svFromEntry image vaddr i (image.word .physaddr ((ppn pte <<< 12) + 8 * vpn vaddr i))

/-- An address of an `L`-level mode is canonical when its bits 63 down to `9 L + 11`
(38 for Sv39, 47 for Sv48, 56 for Sv57) are all equal. -/
def canonical (flag : VmFlag) (vaddr : ULong) : Bool :=
  vaddr >>> (9 * flag.levels + 11) = 0 ||
    vaddr >>> (9 * flag.levels + 11) = BitVec.allOnes 64 >>> (9 * flag.levels + 11)

/-- The translation of `vaddr` by an `L`-level walk: a fault for an address that is not
canonical, else the walk from the root entry. The root table is read through `pgd`, the
kernel-virtual address the walkers hold for the page the MMU finds at `satp.ppn`. -/
def svTranslate (image : Image) (flag : VmFlag) (pgd vaddr : ULong) : Option ULong :=
  if canonical flag vaddr then
    svFromEntry image vaddr (flag.levels - 1)
      (image.word .kvaddr (pgd + 8 * vpn vaddr (flag.levels - 1)))
  else none

/-- The walk for `vaddr` from the entry `pte` read at level `i` meets 4 KiB pages only:
above level 0 every entry is zero or a valid pointer, and at level 0 the entry has V
clear or is a valid leaf. -/
def FourKPath (image : Image) (vaddr : ULong) : Nat → ULong → Prop
  | 0, pte => pte &&& pagePresent = 0 ∨ (entryFaults pte = false ∧ isLeafEntry pte = true)
  | i + 1, pte => pte = 0 ∨ (entryFaults pte = false ∧ isLeafEntry pte = false ∧
      pointerFaults pte = false ∧
      FourKPath image vaddr i (image.word .physaddr ((ppn pte <<< 12) + 8 * vpn vaddr i)))

instance decidableFourKPath (image : Image) (vaddr : ULong) :
    (i : Nat) → (pte : ULong) → Decidable (FourKPath image vaddr i pte)
  | 0, _ => inferInstanceAs (Decidable (_ ∨ _))
  | i + 1, pte =>
    have := decidableFourKPath image vaddr i
      (image.word .physaddr ((ppn pte <<< 12) + 8 * vpn vaddr i))
    inferInstanceAs (Decidable (_ ∨ _))

/-! ## One level at a time -/

theorem masked_frame_eq_ppn (pte : ULong) :
    (pte &&& ptePfnProtMask) >>> pagePfnShift = ppn pte := by
  apply BitVec.eq_of_toNat_eq
  rw [BitVec.toNat_ushiftRight, to_nat_mask, ppn, BitVec.toNat_and, BitVec.toNat_ushiftRight,
    show (0xFFFFFFFFFFF : ULong).toNat = 2 ^ 44 - 1 from rfl, Nat.and_pow_two_sub_one_eq_mod,
    Nat.shiftRight_eq_div_pow, Nat.shiftRight_eq_div_pow, pagePfnShift,
    show 2 ^ 54 = 2 ^ 10 * 2 ^ 44 from rfl, Nat.mod_mul_right_div_self]

theorem present_of_valid {pte : ULong} (valid : entryFaults pte = false) :
    pte &&& pagePresent ≠ 0 := by
  simp only [entryFaults, Bool.or_eq_false_iff, decide_eq_false_iff_not] at valid
  exact valid.1.1

theorem next_table_of_valid {pte : ULong} (valid : entryFaults pte = false) :
    nextTable pte = some (ppn pte <<< 12) := by
  have nonzero : pte ≠ 0 := fun zero => present_of_valid valid (by rw [zero]; rfl)
  rw [nextTable, if_neg nonzero, masked_frame_eq_ppn]
  rfl

theorem leaf_page_of_valid {pte : ULong} (valid : entryFaults pte = false) (vaddr : ULong) :
    leafPage pte vaddr = leafAddress 0 pte vaddr := by
  have aligned : ¬(ppn pte &&& (1 <<< (9 * 0) - 1) ≠ 0) := by simp
  rw [leaf_page_eq_some.mpr ⟨present_of_valid valid, rfl⟩, leafAddress, if_neg aligned,
    masked_frame_eq_ppn]
  rfl

theorem leaf_level_refines (image : Image) {vaddr pte : ULong} (path : FourKPath image vaddr 0 pte) :
    leafPage pte vaddr = svFromEntry image vaddr 0 pte := by
  rcases path with absent | ⟨valid, leaf⟩
  · have faults : entryFaults pte = true := by simp [entryFaults, absent]
    rw [svFromEntry, if_pos faults]
    exact Option.eq_none_iff_forall_not_mem.mpr fun _ found =>
      (leaf_page_eq_some.mp found).1 absent
  · rw [svFromEntry, if_neg (by simp [valid]), if_pos leaf, leaf_page_of_valid valid]

theorem pointer_level_refines (image : Image) (vaddr : ULong) (k : Nat)
    (below : ∀ table, FourKPath image vaddr k (image.word .physaddr (table + 8 * vpn vaddr k)) →
      (decodeLeaf vaddr (leafEntryFrom (freshRead image) vaddr k table ())).1 =
        svFromEntry image vaddr k (image.word .physaddr (table + 8 * vpn vaddr k)))
    {pte : ULong} (path : FourKPath image vaddr (k + 1) pte) :
    (decodeLeaf vaddr (descend (pte, ()) (leafEntryFrom (freshRead image) vaddr k))).1 =
      svFromEntry image vaddr (k + 1) pte := by
  rcases path with rfl | ⟨valid, pointer, reserved, rest⟩
  · rfl
  · simp only [descend, next_table_of_valid valid]
    rw [svFromEntry, if_neg (by simp [valid]), if_neg (by simp [pointer]),
      if_neg (by simp [reserved])]
    exact below _ rest

theorem leaf_entry_from_refines (image : Image) (vaddr : ULong) :
    ∀ (k : Nat) (table : ULong),
      FourKPath image vaddr k (image.word .physaddr (table + 8 * vpn vaddr k)) →
        (decodeLeaf vaddr (leafEntryFrom (freshRead image) vaddr k table ())).1 =
          svFromEntry image vaddr k (image.word .physaddr (table + 8 * vpn vaddr k))
  | 0, _, path => leaf_level_refines image path
  | k + 1, _, path => pointer_level_refines image vaddr k (leaf_entry_from_refines image vaddr k) path

/-! ## The walkers refine the translation -/

/-- Through a page-aligned root pointer, for a canonical address whose walk meets 4 KiB
pages only, each of the three walkers translates `vaddr` as the privileged
specification does: the same physical address, and not present exactly where the MMU
faults. -/
theorem vtop_eq_sv_translate (image : Image) (flag : VmFlag) {pgd : ULong}
    (aligned : pageOffset pgd = 0) {vaddr : ULong} (inRange : canonical flag vaddr = true)
    (path : FourKPath image vaddr (flag.levels - 1)
      (image.word .kvaddr (pgd + 8 * vpn vaddr (flag.levels - 1)))) :
    (riscv64Vtop (freshRead image) flag pgd vaddr ()).1 = svTranslate image flag pgd vaddr := by
  have root : pageOffset (pgd + 8 * vpn vaddr (flag.levels - 1)) =
      8 * vpn vaddr (flag.levels - 1) :=
    page_offset_root aligned _ vaddr
  rw [vtop_eq_walk_from_pgd_block, leafEntry, readPgd, root, svTranslate, if_pos inRange]
  cases flag <;>
    exact pointer_level_refines image vaddr _ (leaf_entry_from_refines image vaddr _) path

def megapageImage : Image :=
  ⟨fun type addr =>
    match type with
    | .kvaddr => 0x801
    | .physaddr => if addr < 0x3000 then 0x80003 else 0⟩

/-- The MMU maps `0x123456` into the megapage, at `0x323456`; the walker takes the
leaf's frame for a table, reads a zero entry there and answers not present. -/
example : svTranslate megapageImage .vmL3_4k 0x1000 0x123456 = some 0x323456 ∧
    (riscv64Vtop (freshRead megapageImage) .vmL3_4k 0x1000 0x123456 ()).1 = none := by
  decide

def fourKImage : Image :=
  ⟨fun type addr =>
    match type with
    | .kvaddr => 0x801
    | .physaddr => if addr < 0x3000 then 0xc01 else 0x1403⟩

/-- The MMU faults on a root pointer with U set and on an address that is not canonical
for Sv39; the walkers follow the pointer and ignore the address bits above `VPN[2]`. -/
example :
    svTranslate ⟨fun type addr => if type = .kvaddr then 0x811 else fourKImage.word type addr⟩
        .vmL3_4k 0x1000 0x7654321 = none ∧
      (riscv64Vtop (freshRead
        ⟨fun type addr => if type = .kvaddr then 0x811 else fourKImage.word type addr⟩)
        .vmL3_4k 0x1000 0x7654321 ()).1 = some 0x5321 ∧
      svTranslate fourKImage .vmL3_4k 0x1000 0x8000000007654321 = none ∧
      (riscv64Vtop (freshRead fourKImage) .vmL3_4k 0x1000 0x8000000007654321 ()).1 =
        some 0x5321 := by
  decide

theorem four_k_walk_translates_as_sv39 :
    pageOffset (0x1000 : ULong) = 0 ∧ canonical .vmL3_4k 0x7654321 = true ∧
      FourKPath fourKImage 0x7654321 (VmFlag.vmL3_4k.levels - 1)
        (fourKImage.word .kvaddr (0x1000 + 8 * vpn 0x7654321 (VmFlag.vmL3_4k.levels - 1))) ∧
      (riscv64Vtop (freshRead fourKImage) .vmL3_4k 0x1000 0x7654321 ()).1 =
        svTranslate fourKImage .vmL3_4k 0x1000 0x7654321 :=
  have aligned : pageOffset (0x1000 : ULong) = 0 := by decide
  have inRange : canonical .vmL3_4k 0x7654321 = true := by decide
  have path : FourKPath fourKImage 0x7654321 (VmFlag.vmL3_4k.levels - 1)
      (fourKImage.word .kvaddr (0x1000 + 8 * vpn 0x7654321 (VmFlag.vmL3_4k.levels - 1))) := by
    decide
  ⟨aligned, inRange, path, vtop_eq_sv_translate fourKImage .vmL3_4k aligned inRange path⟩

end CrashRiscv64.Mmu
