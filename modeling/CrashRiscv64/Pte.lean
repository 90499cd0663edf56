import CrashRiscv64.Machine

/-!
# Page-table entry decoding

The two ways `riscv64.c` decodes an entry word. The walkers mask the word with
`PTE_PFN_PROT_MASK` before taking its frame and its present bit;
`riscv64_translate_pte` takes both from the raw word. The present bit lies
inside the mask, so the two agree on presence; the frame address agrees exactly
when bits 54..61 of the word are clear, the bits `PTOB` keeps after the shift.
-/

namespace CrashRiscv64.Pte

open CrashRiscv64.Machine

set_option autoImplicit false

/-! ## The walkers' decoding -/

/-- A non-leaf entry: `goto no_page` on a zero word, else the next table
`pt_phys = ((val & PTE_PFN_PROT_MASK) >> _PAGE_PFN_SHIFT) << PAGESHIFT()`. -/
def nextTable (entry : ULong) : Option ULong :=
  if entry = 0 then none
  else some (((entry &&& ptePfnProtMask) >>> pagePfnShift) <<< pageShift)

/-- The leaf entry: `goto no_page` on a zero word, `FALSE` when the masked word
has no present bit, else `*paddr = PTOB(pte_pfn) + PAGEOFFSET(vaddr)`. -/
def leafPage (pteVal vaddr : ULong) : Option ULong :=
  if pteVal = 0 then none
  else
    let pteVal := pteVal &&& ptePfnProtMask
    if pteVal &&& pagePresent = 0 then none
    else some (ptob (pteVal >>> pagePfnShift) + pageOffset vaddr)

/-- Two entry words the walkers cannot tell apart: both zero or both not, and equal
under `PTE_PFN_PROT_MASK`. -/
def SameToWalkers (entry entry' : ULong) : Prop :=
  (entry = 0 ↔ entry' = 0) ∧ entry &&& ptePfnProtMask = entry' &&& ptePfnProtMask

instance (entry entry' : ULong) : Decidable (SameToWalkers entry entry') :=
  inferInstanceAs (Decidable ((entry = 0 ↔ entry' = 0) ∧ _))

theorem next_table_congr {entry entry' : ULong} (same : SameToWalkers entry entry') :
    nextTable entry = nextTable entry' := by
  simp only [nextTable, same.1, same.2]

theorem leaf_page_congr {entry entry' : ULong} (same : SameToWalkers entry entry') (vaddr : ULong) :
    leafPage entry vaddr = leafPage entry' vaddr := by
  simp only [leafPage, same.1, same.2]

theorem masked_zero_entry {entry : ULong} (nonzero : entry ≠ 0)
    (masked : entry &&& ptePfnProtMask = 0) (vaddr : ULong) :
    nextTable entry = some 0 ∧ leafPage entry vaddr = none := by
  simp only [nextTable, leafPage, nonzero, masked, if_false]
  exact ⟨rfl, if_pos (by decide)⟩

/-! ## `riscv64_translate_pte` -/

/-- `riscv64_translate_pte(pte, physaddr, _)` with a non-null `physaddr`: the
returned `page_present` and the stored `PTOB(pte >> _PAGE_PFN_SHIFT)`. -/
def riscv64TranslatePte (pte : ULong) : Bool × ULong :=
  (pte &&& pagePresent ≠ 0, ptob (pte >>> pagePfnShift))

def pageFlags : List (String × ULong) :=
  [("PRESENT", pagePresent), ("READ", 1 <<< 1), ("WRITE", 1 <<< 2), ("EXEC", 1 <<< 3),
    ("USER", 1 <<< 4), ("GLOBAL", 1 <<< 5), ("ACCESSED", 1 <<< 6), ("DIRTY", 1 <<< 7),
    ("SOFT", 1 <<< 8)]

/-- One `CHECK_PAGE_FLAG(flag)`: when the flag's bit is nonzero and set in `pte`, print
its name, after `"|"` if `others` already counts a printed flag, and count it. -/
def checkPageFlag (pte : ULong) (printed : String × Nat) (flag : String × ULong) :
    String × Nat :=
  if flag.2 ≠ 0 ∧ pte &&& flag.2 ≠ 0 then
    (printed.1 ++ (if printed.2 ≠ 0 then "|" else "") ++ flag.1, printed.2 + 1)
  else printed

def checkPageFlags (pte : ULong) : String :=
  (pageFlags.foldl (checkPageFlag pte) ("", 0)).1

/-- The flag text `riscv64_translate_pte(pte, NULL, _)` prints, or `none` when it
returns at `!page_present` before reaching it. -/
def riscv64TranslatePteFlags (pte : ULong) : Option String :=
  if pte &&& pagePresent = 0 then none
  else some ("(" ++ (if pte ≠ 0 then checkPageFlags pte else "no mapping") ++ ")\n")

/-! ## Bit lemmas -/

theorem to_nat_mask (word : ULong) : (word &&& ptePfnProtMask).toNat = word.toNat % 2 ^ 54 := by
  rw [BitVec.toNat_and, show ptePfnProtMask.toNat = 2 ^ 54 - 1 from rfl,
    Nat.and_pow_two_sub_one_eq_mod]

theorem to_nat_page_offset (addr : ULong) : (pageOffset addr).toNat = addr.toNat % 2 ^ 12 := by
  rw [pageOffset, BitVec.toNat_and, show geometry4k.pageoffset.toNat = 2 ^ 12 - 1 from rfl,
    Nat.and_pow_two_sub_one_eq_mod]

theorem to_nat_ptob (pfn : ULong) : (ptob pfn).toNat = pfn.toNat * 2 ^ 12 % 2 ^ 64 := by
  rw [ptob, BitVec.toNat_shiftLeft, Nat.shiftLeft_eq]
  rfl

theorem mask_present (word : ULong) :
    word &&& ptePfnProtMask &&& pagePresent = word &&& pagePresent := by
  rw [BitVec.and_assoc]
  rfl

theorem leaf_page_eq_some {pteVal vaddr paddr : ULong} :
    leafPage pteVal vaddr = some paddr ↔
      pteVal &&& pagePresent ≠ 0 ∧
        paddr = ptob ((pteVal &&& ptePfnProtMask) >>> pagePfnShift) + pageOffset vaddr := by
  dsimp only [leafPage]
  rw [mask_present]
  by_cases zero : pteVal = 0
  · subst zero
    exact iff_of_false (by simp) fun ⟨present, _⟩ => present (by decide)
  · by_cases absent : pteVal &&& pagePresent = 0
    · simp [zero, absent]
    · simp only [zero, absent, if_false, Option.some.injEq, ne_eq, not_false_eq_true, true_and]
      exact eq_comm

/-- The address a walker stores never wraps and never carries into the frame. -/
theorem leaf_address_bits (pteVal vaddr : ULong) :
    let paddr := ptob ((pteVal &&& ptePfnProtMask) >>> pagePfnShift) + pageOffset vaddr
    paddr &&& 0xfff = vaddr &&& 0xfff ∧
      paddr >>> 12 = (pteVal &&& ptePfnProtMask) >>> pagePfnShift ∧ paddr.toNat < 2 ^ 56 := by
  have low : ∀ word : ULong, (word &&& 0xfff).toNat = word.toNat % 2 ^ 12 := fun word => by
    rw [BitVec.toNat_and, show (0xfff : ULong).toNat = 2 ^ 12 - 1 from rfl,
      Nat.and_pow_two_sub_one_eq_mod]
  have frame : ((pteVal &&& ptePfnProtMask) >>> pagePfnShift).toNat < 2 ^ 44 := by
    rw [BitVec.toNat_ushiftRight, to_nat_mask, pagePfnShift, Nat.shiftRight_eq_div_pow]
    omega
  have sum : (ptob ((pteVal &&& ptePfnProtMask) >>> pagePfnShift) + pageOffset vaddr).toNat =
      ((pteVal &&& ptePfnProtMask) >>> pagePfnShift).toNat * 2 ^ 12 + vaddr.toNat % 2 ^ 12 := by
    rw [BitVec.toNat_add, to_nat_ptob, to_nat_page_offset, Nat.mod_eq_of_lt (by omega),
      Nat.mod_eq_of_lt (by omega)]
  refine ⟨BitVec.eq_of_toNat_eq ?_, BitVec.eq_of_toNat_eq ?_, ?_⟩
  · rw [low, low, sum]
    omega
  · rw [BitVec.toNat_ushiftRight, sum, Nat.shiftRight_eq_div_pow]
    omega
  · rw [sum]
    omega

theorem translate_pte_present (pte : ULong) :
    (riscv64TranslatePte pte).1 = decide (pte &&& ptePfnProtMask &&& pagePresent ≠ 0) := by
  rw [mask_present]
  rfl

theorem translate_pte_frame_eq_iff (pte : ULong) :
    (riscv64TranslatePte pte).2 = ptob ((pte &&& ptePfnProtMask) >>> pagePfnShift) ↔
      (pte.toNat / 2 ^ 54) % 2 ^ 8 = 0 := by
  rw [riscv64TranslatePte, BitVec.toNat_eq]
  simp only [to_nat_ptob, BitVec.toNat_ushiftRight, to_nat_mask, pagePfnShift,
    Nat.shiftRight_eq_div_pow]
  omega

/-- With bit 54 (a reserved bit below PBMT) set, `riscv64_translate_pte` stores `2^56`
where the walkers' decoding of the same leaf gives frame 0. -/
theorem translate_pte_keeps_pbmt_bit :
    riscv64TranslatePte 0x40000000000001 = (true, 0x100000000000000) ∧
      ptob ((0x40000000000001 &&& ptePfnProtMask) >>> pagePfnShift) = 0 ∧
      leafPage 0x40000000000001 0 = some 0 := by
  decide

/-! ## The flag text -/

def flagNames (pte : ULong) : List String :=
  (pageFlags.filter fun flag => flag.2 ≠ 0 ∧ pte &&& flag.2 ≠ 0).map Prod.fst

section FlagText

variable (pte : ULong)

theorem check_page_flags_after_first (flags : List (String × ULong)) :
    ∀ (acc : String) (others : Nat), (flags.foldl (checkPageFlag pte) (acc, others + 1)).1 =
      String.intercalate.go acc "|"
        ((flags.filter fun flag => flag.2 ≠ 0 ∧ pte &&& flag.2 ≠ 0).map Prod.fst) := by
  induction flags with
  | nil => exact fun _ _ => rfl
  | cons flag rest induction =>
    intro acc others
    by_cases selected : flag.2 ≠ 0 ∧ pte &&& flag.2 ≠ 0
    · simp only [List.foldl_cons, checkPageFlag, if_pos selected, List.filter_cons,
        decide_eq_true selected, if_true, List.map_cons, String.intercalate.go]
      exact induction _ (others + 1)
    · simp only [List.foldl_cons, checkPageFlag, if_neg selected, List.filter_cons,
        decide_eq_false selected]
      exact induction acc others

theorem check_page_flags_from_start (flags : List (String × ULong)) :
    (flags.foldl (checkPageFlag pte) ("", 0)).1 =
      "|".intercalate ((flags.filter fun flag => flag.2 ≠ 0 ∧ pte &&& flag.2 ≠ 0).map Prod.fst) := by
  induction flags with
  | nil => rfl
  | cons flag rest induction =>
    by_cases selected : flag.2 ≠ 0 ∧ pte &&& flag.2 ≠ 0
    · simp only [List.foldl_cons, checkPageFlag, if_pos selected, List.filter_cons,
        decide_eq_true selected, if_true, List.map_cons, String.intercalate]
      exact check_page_flags_after_first pte rest _ 0
    · simp only [List.foldl_cons, checkPageFlag, if_neg selected, List.filter_cons,
        decide_eq_false selected]
      exact induction

/-- `riscv64_translate_pte(pte, NULL, _)` prints a flag text only for a present entry,
and then the names of its set flags joined by `"|"`: the `"no mapping"` branch is never
reached, since a present entry is not zero. -/
theorem translate_pte_flags_text :
    riscv64TranslatePteFlags pte =
      if pte &&& pagePresent = 0 then none
      else some ("(" ++ "|".intercalate (flagNames pte) ++ ")\n") := by
  unfold riscv64TranslatePteFlags
  split
  · rfl
  · rename_i present
    have nonzero : pte ≠ 0 := fun zero => present (by rw [zero]; rfl)
    rw [if_pos nonzero, checkPageFlags, check_page_flags_from_start, flagNames]

example : riscv64TranslatePteFlags 0x7 = some "(PRESENT|READ|WRITE)\n" ∧
    riscv64TranslatePteFlags 0 = none := by
  decide

end FlagText

end CrashRiscv64.Pte
