import CrashRiscv64.Pte

/-!
# The page-table walkers

`riscv64_vtop_3level_4k`, `riscv64_vtop_4level_4k` and `riscv64_vtop_5level_4k`
transcribed block by block. Every block is a `FILL_X` of the level's buffer and
one `ULONG` read out of it; `TableRead` stands for that pair, so the walkers are
written once over any way of supplying table words: afresh from the image
(`freshRead`) or through the cached buffers of `TableCache`. The three walkers
are one walk over the levels `L - 1` down to 0, indexed by the Sv39/Sv48/Sv57
fields `VPN[k]`; the 5-level walker's use of the 4-level
PMD and PTE index macros is part of that equation, not an exception to it.
-/

namespace CrashRiscv64.Walk

open CrashRiscv64.Machine CrashRiscv64.Pte

set_option autoImplicit false

inductive MemType
  | kvaddr
  | physaddr
  deriving DecidableEq, Repr

/-- A memory image as `readmem` serves it: the 8-byte word at every byte address
of each address space. -/
structure Image where
  word : MemType → ULong → ULong

def Image.readPage (image : Image) (type : MemType) (addr offset : ULong) : ULong :=
  image.word type (addr + offset)

inductive Level
  | pgd
  | p4d
  | pud
  | pmd
  | ptbl
  deriving DecidableEq, Repr

/-- `FILL_X(addr, type, PAGESIZE())` and then `ULONG(buffer + offset)`: the word at
`offset` in the level's copy of the table page at `addr`, with the state the
buffers are left in. -/
def TableRead (σ : Type) := Level → MemType → ULong → ULong → σ → ULong × σ

def freshRead (image : Image) : TableRead Unit := fun _ type addr offset state =>
  (image.readPage type addr offset, state)

section Walkers

variable {σ : Type} (read : TableRead σ)

/-- After a non-leaf block: stop at `no_page`, or run the rest from the next table. -/
def descend (entry : ULong × σ) (rest : ULong → σ → Option ULong × σ) : Option ULong × σ :=
  match nextTable entry.1 with
  | none => (none, entry.2)
  | some table => rest table entry.2

/-- The PGD block: `FILL_PGD(pgd, KVADDR, ...)`, then the entry at `PAGEOFFSET(pgd_ptr)`
for `pgd_ptr = pgd + index`, a `ulong *` and so `8 * index` bytes on. -/
def readPgd (pgd index : ULong) : σ → ULong × σ :=
  read .pgd .kvaddr pgd (pageOffset (pgd + 8 * index))

/-- A lower block: `FILL_X(PAGEBASE(pt_phys), PHYSADDR, ...)`, then the entry at
`PAGEOFFSET(sizeof(x_t) * index)`. -/
def readLower (level : Level) (ptPhys index : ULong) : σ → ULong × σ :=
  read level .physaddr (pageBase ptPhys) (pageOffset (8 * index))

def readLeaf (ptPhys index vaddr : ULong) (state : σ) : Option ULong × σ :=
  let pte := readLower read .ptbl ptPhys index state
  (leafPage pte.1 vaddr, pte.2)

/-- `riscv64_vtop_3level_4k`: `some paddr` for `TRUE`, and the buffers after. -/
def riscv64Vtop3level4k (pgd vaddr : ULong) (state : σ) : Option ULong × σ :=
  descend (readPgd read pgd (pgdIndexL3_4k vaddr) state) fun ptPhys state =>
  descend (readLower read .pmd ptPhys (pmdIndexL3_4k vaddr) state) fun ptPhys state =>
  readLeaf read ptPhys (pteIndexL3_4k vaddr) vaddr state

def riscv64Vtop4level4k (pgd vaddr : ULong) (state : σ) : Option ULong × σ :=
  descend (readPgd read pgd (pgdIndexL4_4k vaddr) state) fun ptPhys state =>
  descend (readLower read .pud ptPhys (pudIndexL4_4k vaddr) state) fun ptPhys state =>
  descend (readLower read .pmd ptPhys (pmdIndexL4_4k vaddr) state) fun ptPhys state =>
  readLeaf read ptPhys (pteIndexL4_4k vaddr) vaddr state

/-- `riscv64_vtop_5level_4k`; its PMD and PTE blocks use the 4-level index macros. -/
def riscv64Vtop5level4k (pgd vaddr : ULong) (state : σ) : Option ULong × σ :=
  descend (readPgd read pgd (pgdIndexL5_4k vaddr) state) fun ptPhys state =>
  descend (readLower read .p4d ptPhys (p4dIndexL5_4k vaddr) state) fun ptPhys state =>
  descend (readLower read .pud ptPhys (pudIndexL5_4k vaddr) state) fun ptPhys state =>
  descend (readLower read .pmd ptPhys (pmdIndexL4_4k vaddr) state) fun ptPhys state =>
  readLeaf read ptPhys (pteIndexL4_4k vaddr) vaddr state

def riscv64Vtop : VmFlag → ULong → ULong → σ → Option ULong × σ
  | .vmL3_4k => riscv64Vtop3level4k read
  | .vmL4_4k => riscv64Vtop4level4k read
  | .vmL5_4k => riscv64Vtop5level4k read

/-! ## The depth-parameterised walk -/

/-- `VPN[k]` of Sv39, Sv48 and Sv57: the 9-bit field of `vaddr` at bit `12 + 9k`. -/
def vpn (vaddr : ULong) (k : Nat) : ULong := (vaddr >>> (12 + 9 * k)) &&& 511

def lowerLevel : Nat → Level
  | 0 => .ptbl
  | 1 => .pmd
  | 2 => .pud
  | _ => .p4d

/-- The leaf entry a walk reaches from the level-`k` table at `table`. -/
def leafEntryFrom (vaddr : ULong) : Nat → ULong → σ → Option ULong × σ
  | 0, table, state =>
    let pte := read .ptbl .physaddr table (8 * vpn vaddr 0) state
    (some pte.1, pte.2)
  | k + 1, table, state =>
    descend (read (lowerLevel (k + 1)) .physaddr table (8 * vpn vaddr (k + 1)) state)
      (leafEntryFrom vaddr k)

def leafEntry (flag : VmFlag) (vaddr : ULong) (root : ULong × σ) : Option ULong × σ :=
  descend root (leafEntryFrom read vaddr (flag.levels - 2))

def rootEntry (flag : VmFlag) (pgd vaddr : ULong) (state : σ) : ULong × σ :=
  read .pgd .kvaddr pgd (8 * vpn vaddr (flag.levels - 1)) state

def decodeLeaf (vaddr : ULong) (leaf : Option ULong × σ) : Option ULong × σ :=
  (leaf.1.bind (leafPage · vaddr), leaf.2)

/-- The depth-parameterised walk: from the root entry to the leaf entry, decoded. -/
def walk (flag : VmFlag) (pgd vaddr : ULong) (state : σ) : Option ULong × σ :=
  decodeLeaf vaddr (leafEntry read flag vaddr (rootEntry read flag pgd vaddr state))

/-! ## Offsets and aligned tables -/

theorem page_base_shift (pfn : ULong) : pageBase (pfn <<< pageShift) = pfn <<< pageShift := by
  have mask : geometry4k.pagemask = BitVec.allOnes 64 <<< pageShift := by decide
  rw [pageBase, mask, ← BitVec.shiftLeft_and_distrib, BitVec.and_allOnes]

theorem next_table_aligned {entry table : ULong} (next : nextTable entry = some table) :
    pageBase table = table := by
  unfold nextTable at next
  split at next
  · cases next
  · rw [← Option.some.inj next]
    exact page_base_shift _

theorem table_index_lt (shift : Nat) (addr : ULong) : (tableIndex shift addr).toNat < 512 := by
  rw [tableIndex, BitVec.toNat_and]
  exact Nat.and_lt_two_pow _ (by decide : (512 - 1 : ULong).toNat < 2 ^ 9)

theorem page_offset_entry (shift : Nat) (addr : ULong) :
    pageOffset (8 * tableIndex shift addr) = 8 * tableIndex shift addr := by
  have bound := table_index_lt shift addr
  apply BitVec.eq_of_toNat_eq
  rw [to_nat_page_offset, BitVec.toNat_mul, show (8 : ULong).toNat = 8 from rfl]
  omega

theorem page_offset_root {pgd : ULong} (aligned : pageOffset pgd = 0) (shift : Nat)
    (addr : ULong) : pageOffset (pgd + 8 * tableIndex shift addr) = 8 * tableIndex shift addr := by
  have bound := table_index_lt shift addr
  have low := congrArg BitVec.toNat aligned
  rw [to_nat_page_offset, show (0 : ULong).toNat = 0 from rfl] at low
  apply BitVec.eq_of_toNat_eq
  rw [to_nat_page_offset, BitVec.toNat_add, BitVec.toNat_mul, show (8 : ULong).toNat = 8 from rfl]
  omega

theorem vpn_eq_table_index (vaddr : ULong) (k : Nat) : vpn vaddr k = tableIndex (12 + 9 * k) vaddr :=
  rfl

/-! ## The walkers are the depth-parameterised walk -/

theorem descend_congr {entry : ULong × σ} {rest rest' : ULong → σ → Option ULong × σ}
    (same : ∀ table state, pageBase table = table → rest table state = rest' table state) :
    descend entry rest = descend entry rest' := by
  unfold descend
  split
  · rfl
  · exact same _ _ (next_table_aligned ‹_›)

theorem decode_descend (vaddr : ULong) (entry : ULong × σ)
    (rest : ULong → σ → Option ULong × σ) :
    decodeLeaf vaddr (descend entry rest) =
      descend entry fun table state => decodeLeaf vaddr (rest table state) := by
  unfold descend
  split <;> rfl

theorem decode_some (vaddr entry : ULong) (state : σ) :
    decodeLeaf vaddr (some entry, state) = (leafPage entry vaddr, state) := rfl

theorem read_lower_aligned {level : Level} {table : ULong} (aligned : pageBase table = table)
    (shift : Nat) (addr : ULong) (state : σ) :
    readLower read level table (tableIndex shift addr) state =
      read level .physaddr table (8 * tableIndex shift addr) state := by
  rw [readLower, aligned, page_offset_entry]

/-- For any root pointer, each walker is the depth-parameterised walk started
from the root entry the PGD block reads. -/
theorem vtop_eq_walk_from_pgd_block (flag : VmFlag) (pgd vaddr : ULong) (state : σ) :
    riscv64Vtop read flag pgd vaddr state =
      decodeLeaf vaddr
        (leafEntry read flag vaddr (readPgd read pgd (vpn vaddr (flag.levels - 1)) state)) := by
  cases flag <;>
    simp only [riscv64Vtop, riscv64Vtop3level4k, riscv64Vtop4level4k, riscv64Vtop5level4k,
      leafEntry, VmFlag.levels, leafEntryFrom, decode_descend, readLeaf, lowerLevel, decode_some,
      Nat.reduceAdd, Nat.reduceMul, Nat.reduceSub, vpn_eq_table_index, pgdIndexL3_4k,
      pmdIndexL3_4k, pteIndexL3_4k, pgdIndexL4_4k, pudIndexL4_4k, pmdIndexL4_4k, pteIndexL4_4k,
      pgdIndexL5_4k, p4dIndexL5_4k, pudIndexL5_4k, pageShift, geometry4k] <;>
    repeat (first | refine descend_congr fun table state tableAligned => ?_ |
      simp only [read_lower_aligned read tableAligned] | rfl)

/-- Through a page-aligned root pointer, each of the three walkers returns what
the depth-parameterised walk over `VPN[L - 1]` ... `VPN[0]` returns, and leaves
the buffers as it does. -/
theorem vtop_is_depth_walk (flag : VmFlag) {pgd : ULong} (aligned : pageOffset pgd = 0)
    (vaddr : ULong) : riscv64Vtop read flag pgd vaddr = walk read flag pgd vaddr := by
  funext state
  rw [vtop_eq_walk_from_pgd_block, walk, rootEntry, readPgd, vpn_eq_table_index,
    page_offset_root aligned]

/-- On success a walker stores the frame of the leaf entry it reached plus the
page offset of `vaddr`, below `2^56`, with no carry into the frame. -/
theorem walker_paddr_bits (flag : VmFlag) (pgd vaddr : ULong) (state : σ) {paddr : ULong}
    (success : (riscv64Vtop read flag pgd vaddr state).1 = some paddr) :
    ∃ leaf, (leafEntry read flag vaddr (readPgd read pgd (vpn vaddr (flag.levels - 1)) state)).1 =
        some leaf ∧
      paddr &&& 0xfff = vaddr &&& 0xfff ∧
        paddr >>> 12 = (leaf &&& ptePfnProtMask) >>> pagePfnShift ∧ paddr.toNat < 2 ^ 56 := by
  rw [vtop_eq_walk_from_pgd_block, decodeLeaf, Option.bind_eq_some] at success
  obtain ⟨leaf, reached, decoded⟩ := success
  obtain ⟨-, rfl⟩ := leaf_page_eq_some.mp decoded
  exact ⟨leaf, reached, leaf_address_bits leaf vaddr⟩

end Walkers

/-! ## What a walk sees of an entry

Each block tests the raw entry for zero before it masks it, so an entry word matters
through that test and its bits 0..53, and not through those bits alone. -/

section SameWords

variable {image image' : Image}

theorem leaf_entry_from_congr
    (same : ∀ type addr, SameToWalkers (image.word type addr) (image'.word type addr))
    (vaddr : ULong) : ∀ (k : Nat) (table : ULong),
      Option.Rel SameToWalkers (leafEntryFrom (freshRead image) vaddr k table ()).1
        (leafEntryFrom (freshRead image') vaddr k table ()).1
  | 0, _ => .some (same _ _)
  | k + 1, _ => by
    simp only [leafEntryFrom, descend, freshRead, Image.readPage]
    rw [next_table_congr (same _ _)]
    split
    · exact .none
    · exact leaf_entry_from_congr same vaddr k _

theorem bind_leaf_page_congr {entry entry' : Option ULong}
    (same : Option.Rel SameToWalkers entry entry') (vaddr : ULong) :
    entry.bind (leafPage · vaddr) = entry'.bind (leafPage · vaddr) := by
  cases same with
  | some same => exact leaf_page_congr same vaddr
  | none => rfl

end SameWords

/-- Two images whose words agree on the zero test and on bits 0..53 are walked alike by
each walker from any root pointer; a nonzero entry with bits 0..53 clear leads to table
0 above the leaf and is not present at it. -/
theorem walkers_see_zero_test_and_low_bits :
    (∀ image image' : Image,
      (∀ type addr, SameToWalkers (image.word type addr) (image'.word type addr)) →
      ∀ flag pgd vaddr, riscv64Vtop (freshRead image) flag pgd vaddr () =
        riscv64Vtop (freshRead image') flag pgd vaddr ()) ∧
    ∀ entry vaddr : ULong, entry ≠ 0 → entry &&& ptePfnProtMask = 0 →
      nextTable entry = some 0 ∧ leafPage entry vaddr = none := by
  refine ⟨fun image image' same flag pgd vaddr => ?_,
    fun entry vaddr nonzero masked => masked_zero_entry nonzero masked vaddr⟩
  rw [vtop_eq_walk_from_pgd_block, vtop_eq_walk_from_pgd_block]
  simp only [decodeLeaf, leafEntry, descend, readPgd, freshRead, Image.readPage]
  rw [next_table_congr (same _ _)]
  split
  · rfl
  · exact Prod.ext (bind_leaf_page_congr (leaf_entry_from_congr same vaddr _ _) vaddr) rfl

/-! ## Entries read per walk -/

def countingRead (image : Image) : TableRead Nat := fun _ type addr offset reads =>
  (image.readPage type addr offset, reads + 1)

theorem leaf_entry_from_reads (image : Image) (vaddr : ULong) :
    ∀ (k : Nat) (table : ULong) (reads : Nat),
      reads < (leafEntryFrom (countingRead image) vaddr k table reads).2 ∧
        (leafEntryFrom (countingRead image) vaddr k table reads).2 ≤ reads + k + 1 ∧
        ((leafEntryFrom (countingRead image) vaddr k table reads).2 = reads + k + 1 ↔
          (leafEntryFrom (countingRead image) vaddr k table reads).1.isSome)
  | 0, _, _ => by simp [leafEntryFrom, countingRead]
  | k + 1, table, reads => by
    simp only [leafEntryFrom, descend, countingRead]
    split
    · simp only [Option.isSome_none, Bool.false_eq_true, iff_false]
      omega
    · rename_i next _
      obtain ⟨more, within, full⟩ := leaf_entry_from_reads image vaddr k next (reads + 1)
      exact ⟨by omega, by omega, by rw [← full]; omega⟩

/-- A walker reads at least the root entry and at most one entry per level of its
depth, and a walk that reads fewer than one per level ends not present. -/
theorem walker_reads_per_level (image : Image) (flag : VmFlag) (pgd vaddr : ULong) :
    1 ≤ (riscv64Vtop (countingRead image) flag pgd vaddr 0).2 ∧
      (riscv64Vtop (countingRead image) flag pgd vaddr 0).2 ≤ flag.levels ∧
      ((riscv64Vtop (countingRead image) flag pgd vaddr 0).2 < flag.levels →
        (riscv64Vtop (countingRead image) flag pgd vaddr 0).1 = none) := by
  have deep : 2 ≤ flag.levels := by cases flag <;> decide
  rw [vtop_eq_walk_from_pgd_block]
  simp only [decodeLeaf, leafEntry, descend, readPgd, countingRead]
  split
  · exact ⟨le_rfl, show 1 ≤ flag.levels by omega, fun _ => rfl⟩
  · rename_i table _
    obtain ⟨more, within, full⟩ := leaf_entry_from_reads image vaddr (flag.levels - 2) table (0 + 1)
    refine ⟨by omega, by omega, fun early => ?_⟩
    have missing : (leafEntryFrom (countingRead image) vaddr (flag.levels - 2) table (0 + 1)).1 =
        none :=
      Option.not_isSome_iff_eq_none.mp fun reached => by have := full.mpr reached; omega
    rw [missing, Option.none_bind]

/-! ## Where each entry is read

`pt_level_alloc` gives every level a buffer of `PAGESIZE()` bytes, and a walker runs
only with 4 KiB pages. Every `ULONG` a walker reads out of a buffer lies inside it at
a multiple of 8: below the root the offset is `sizeof(x_t)` times a 9-bit index, and
at the root it is `PAGEOFFSET` of an aligned `ulong *`. -/

def offsetRead (image : Image) : TableRead (List ULong) := fun _ type addr offset offsets =>
  (image.readPage type addr offset, offsets ++ [offset])

/-- An 8-byte read at `offset` lies inside a `PAGESIZE()` buffer, at a multiple of 8. -/
def InsideBuffer (offset : ULong) : Prop :=
  offset.toNat % 8 = 0 ∧ offset.toNat + 8 ≤ geometry4k.pagesize.toNat

instance : DecidablePred InsideBuffer := fun offset =>
  inferInstanceAs (Decidable (offset.toNat % 8 = 0 ∧ offset.toNat + 8 ≤ geometry4k.pagesize.toNat))

def AllInside (offsets : List ULong) : Prop := ∀ offset ∈ offsets, InsideBuffer offset

theorem entry_inside_buffer (vaddr : ULong) (k : Nat) : InsideBuffer (8 * vpn vaddr k) := by
  have bound := table_index_lt (12 + 9 * k) vaddr
  rw [InsideBuffer, vpn_eq_table_index, BitVec.toNat_mul, show (8 : ULong).toNat = 8 from rfl,
    show geometry4k.pagesize.toNat = 4096 from rfl]
  omega

theorem root_inside_buffer {pgd : ULong} (aligned : pgd.toNat % 8 = 0) (vaddr : ULong) (k : Nat) :
    InsideBuffer (pageOffset (pgd + 8 * vpn vaddr k)) := by
  have bound := table_index_lt (12 + 9 * k) vaddr
  rw [InsideBuffer, to_nat_page_offset, BitVec.toNat_add, vpn_eq_table_index, BitVec.toNat_mul,
    show (8 : ULong).toNat = 8 from rfl, show geometry4k.pagesize.toNat = 4096 from rfl]
  omega

theorem offset_read_inside (image : Image) (level : Level) (type : MemType) (addr : ULong)
    {offset : ULong} {offsets : List ULong} (inside : AllInside offsets) (new : InsideBuffer offset) :
    AllInside (offsetRead image level type addr offset offsets).2 := by
  simp only [AllInside, offsetRead, List.mem_append, List.mem_singleton]
  rintro _ (old | rfl)
  exacts [inside _ old, new]

theorem descend_keeps {σ : Type} {keep : σ → Prop} {entry : ULong × σ}
    {rest : ULong → σ → Option ULong × σ} (first : keep entry.2)
    (after : ∀ table state, keep state → keep (rest table state).2) : keep (descend entry rest).2 := by
  unfold descend
  split
  exacts [first, after _ _ first]

theorem leaf_entry_from_inside (image : Image) (vaddr : ULong) :
    ∀ (k : Nat) (table : ULong) (offsets : List ULong), AllInside offsets →
      AllInside (leafEntryFrom (offsetRead image) vaddr k table offsets).2
  | 0, table, _, inside =>
    offset_read_inside image .ptbl .physaddr table inside (entry_inside_buffer vaddr 0)
  | k + 1, _, _, inside =>
    descend_keeps (offset_read_inside image _ _ _ inside (entry_inside_buffer vaddr (k + 1)))
      (leaf_entry_from_inside image vaddr k)

/-- Through a root pointer aligned as a `ulong *`, every entry a walker reads lies
inside the `PAGESIZE()` buffer of its level, at a multiple of 8. -/
theorem walker_reads_inside_buffers (image : Image) (flag : VmFlag) {pgd : ULong}
    (aligned : pgd.toNat % 8 = 0) (vaddr : ULong) :
    AllInside (riscv64Vtop (offsetRead image) flag pgd vaddr []).2 := by
  rw [vtop_eq_walk_from_pgd_block]
  exact descend_keeps
    (offset_read_inside image _ _ _ (List.forall_mem_nil _) (root_inside_buffer aligned vaddr _))
    (leaf_entry_from_inside image vaddr _)

/-- A root pointer 4 bytes short of a page boundary: the PGD read runs 4 bytes past
the buffer. -/
example : (riscv64Vtop (offsetRead ⟨fun _ _ => 0⟩) .vmL3_4k 0xffc 0 []).2 = [0xffc] ∧
    ¬InsideBuffer 0xffc := by
  decide

/-- A memory image whose kernel-virtual words are all `2^63`, only the N bit set,
and whose physical words are all 1, the V bit over frame 0. -/
def highBitImage : Image := ⟨fun type _ => if type = .kvaddr then 0x8000000000000000 else 1⟩

def zeroRootImage : Image := ⟨fun type _ => if type = .kvaddr then 0 else 1⟩

/-- The walker at the root pointer 0 of the all-`2^63` image reaches frame 0 and
succeeds, while the 3-level walker of the image differing only in those words'
bits 54..63 ends at the PGD. -/
theorem high_bits_entry_continues_walk :
    (∀ type addr, highBitImage.word type addr &&& ptePfnProtMask =
      zeroRootImage.word type addr &&& ptePfnProtMask) ∧
      (riscv64Vtop3level4k (freshRead highBitImage) 0 0 ()).1 = some 0 ∧
      (riscv64Vtop3level4k (freshRead zeroRootImage) 0 0 ()).1 = none := by
  refine ⟨fun type _ => ?_, by decide, by decide⟩
  cases type
  · show (0x8000000000000000 : ULong) &&& ptePfnProtMask = 0 &&& ptePfnProtMask
    decide
  · rfl

def frameZeroImage : Image := ⟨fun _ _ => 1⟩

def pbmtImage : Image := ⟨fun _ _ => 0x4000000000000001⟩

theorem pbmt_bits_leave_walk_unchanged :
    riscv64Vtop (freshRead pbmtImage) .vmL3_4k 0 0 () =
        riscv64Vtop (freshRead frameZeroImage) .vmL3_4k 0 0 () ∧
      nextTable 0x8000000000000000 = some 0 ∧ leafPage 0x8000000000000000 0 = none :=
  ⟨walkers_see_zero_test_and_low_bits.1 pbmtImage frameZeroImage
      (fun _ _ => (by decide : SameToWalkers 0x4000000000000001 1)) .vmL3_4k 0 0,
    walkers_see_zero_test_and_low_bits.2 0x8000000000000000 0 (by decide) (by decide)⟩

theorem vtop_is_depth_walk_five_levels :
    pageOffset (0x1000 : ULong) = 0 ∧
      riscv64Vtop (countingRead frameZeroImage) .vmL5_4k 0x1000 0x7654321 =
        walk (countingRead frameZeroImage) .vmL5_4k 0x1000 0x7654321 ∧
      walk (countingRead frameZeroImage) .vmL5_4k 0x1000 0x7654321 0 = (some 0x321, 5) :=
  ⟨by decide, vtop_is_depth_walk (countingRead frameZeroImage) .vmL5_4k (by decide) 0x7654321,
    by decide⟩

theorem walker_paddr_bits_high_bit_image :
    (riscv64Vtop (freshRead highBitImage) .vmL3_4k 0 0 ()).1 = some 0 ∧
      ∃ leaf, (leafEntry (freshRead highBitImage) .vmL3_4k 0
          (readPgd (freshRead highBitImage) 0 (vpn 0 (VmFlag.vmL3_4k.levels - 1)) ())).1 = some leaf ∧
        (0 : ULong) &&& 0xfff = (0 : ULong) &&& 0xfff ∧
          (0 : ULong) >>> 12 = (leaf &&& ptePfnProtMask) >>> pagePfnShift ∧ (0 : ULong).toNat < 2 ^ 56 :=
  ⟨by decide, walker_paddr_bits (freshRead highBitImage) .vmL3_4k 0 0 () (by decide)⟩

theorem root_page_walk_reads_inside :
    (0x1000 : ULong).toNat % 8 = 0 ∧
      AllInside (riscv64Vtop (offsetRead highBitImage) .vmL5_4k 0x1000 0x7654321 []).2 :=
  ⟨by decide, walker_reads_inside_buffers highBitImage .vmL5_4k (by decide) 0x7654321⟩

end CrashRiscv64.Walk
