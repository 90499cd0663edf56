import CrashRiscv64.Walk

/-!
# The per-level table buffers

`riscv64_init(PRE_GDB)` allocates one page buffer per level and sets every
`last_X_read` to 0; `FILL_X` then reads a table page only when its address
differs from the level's `last_X_read`. When every buffer holds the image's page
at its key, a cached read returns the fresh word and keeps that so, and a whole
session of `riscv64_uvtop`/`riscv64_kvtop` requests answers as with fresh reads.
The state `PRE_GDB` leaves is not of that kind: its key 0 is also the address of
physical page 0, which the first walk reaching it takes from the uninitialised buffer.
-/

namespace CrashRiscv64.TableCache

open CrashRiscv64.Machine CrashRiscv64.Pte CrashRiscv64.Walk

set_option autoImplicit false

/-- One level's buffer: the page copy, read as `ULONG(buffer + offset)`, and `last_X_read`. -/
structure TableBuffer where
  page : ULong → ULong
  lastRead : ULong

/-- `machdep->pgd`, `machspec->p4d`, `machdep->pud`, `machdep->pmd`, `machdep->ptbl`. -/
abbrev Tables := Level → TableBuffer

def levelType : Level → MemType
  | .pgd => .kvaddr
  | _ => .physaddr

/-- Modelled from the spec: `FILL_X(addr, type, PAGESIZE())` of `defs.h`, a cache
keyed by base address with one slot per level: read the page at `addr` into the
level's buffer and record `addr` in `last_X_read`, unless it is already there. -/
def fill (image : Image) (level : Level) (type : MemType) (addr : ULong) (tables : Tables) :
    Tables :=
  if addr = (tables level).lastRead then tables
  else Function.update tables level ⟨image.readPage type addr, addr⟩

def fillRead (image : Image) : TableRead Tables := fun level type addr offset tables =>
  let tables := fill image level type addr tables
  ((tables level).page offset, tables)

/-- `pt_level_alloc` for each level and `last_X_read = 0`: whatever `malloc`
returned, keyed by address 0. -/
def riscv64InitTables (allocated : Level → ULong → ULong) : Tables :=
  fun level => ⟨allocated level, 0⟩

/-- The cache invariant: every buffer holds the image's page at its `last_X_read`. -/
def Coherent (image : Image) (tables : Tables) : Prop :=
  ∀ level, (tables level).page = image.readPage (levelType level) (tables level).lastRead

/-! ## One read -/

section Reads

variable {image : Image} {tables : Tables}

theorem fill_coherent (coherent : Coherent image tables) (level : Level) (addr : ULong) :
    Coherent image (fill image level (levelType level) addr tables) := by
  unfold fill
  split
  · exact coherent
  · intro other
    by_cases same : other = level
    · subst same
      simp
    · simpa [Function.update_noteq same] using coherent other

theorem fill_page (coherent : Coherent image tables) (level : Level) (addr : ULong) :
    (fill image level (levelType level) addr tables level).page =
      image.readPage (levelType level) addr := by
  unfold fill
  split
  · rename_i cached
    rw [coherent level, ← cached]
  · simp

theorem fill_read_coherent (coherent : Coherent image tables) (level : Level)
    (addr offset : ULong) :
    (fillRead image level (levelType level) addr offset tables).1 =
        (freshRead image level (levelType level) addr offset ()).1 ∧
      Coherent image (fillRead image level (levelType level) addr offset tables).2 :=
  ⟨congrFun (fill_page coherent level addr) offset, fill_coherent coherent level addr⟩

end Reads

/-! ## Whole walks -/

def Agrees (image : Image) (cached : Option ULong × Tables) (fresh : Option ULong × Unit) :
    Prop :=
  cached.1 = fresh.1 ∧ Coherent image cached.2

section Walks

variable {image : Image}

theorem level_type_lower (k : Nat) : levelType (lowerLevel k) = .physaddr := by
  rcases k with _ | _ | _ | _ <;> rfl

theorem descend_agrees {cached : ULong × Tables} {fresh : ULong × Unit}
    {restCached : ULong → Tables → Option ULong × Tables}
    {restFresh : ULong → Unit → Option ULong × Unit}
    (entry : cached.1 = fresh.1) (coherent : Coherent image cached.2)
    (rest : ∀ table tables, Coherent image tables →
      Agrees image (restCached table tables) (restFresh table ())) :
    Agrees image (descend cached restCached) (descend fresh restFresh) := by
  unfold descend
  rw [entry]
  split
  · exact ⟨rfl, coherent⟩
  · exact rest _ _ coherent

theorem leaf_entry_from_agrees (vaddr : ULong) (k : Nat) :
    ∀ (table : ULong) (tables : Tables), Coherent image tables →
      Agrees image (leafEntryFrom (fillRead image) vaddr k table tables)
        (leafEntryFrom (freshRead image) vaddr k table ()) := by
  induction k with
  | zero =>
    intro table tables coherent
    obtain ⟨word, after⟩ := fill_read_coherent coherent .ptbl table (8 * vpn vaddr 0)
    exact ⟨congrArg some word, after⟩
  | succ k induction =>
    intro table tables coherent
    have read := fill_read_coherent coherent (lowerLevel (k + 1)) table (8 * vpn vaddr (k + 1))
    rw [level_type_lower] at read
    exact descend_agrees read.1 read.2 induction

/-- From coherent buffers a cached walker returns what the fresh walker returns,
and leaves the buffers coherent. -/
theorem vtop_cached_agrees {tables : Tables} (coherent : Coherent image tables) (flag : VmFlag)
    (pgd vaddr : ULong) :
    Agrees image (riscv64Vtop (fillRead image) flag pgd vaddr tables)
      (riscv64Vtop (freshRead image) flag pgd vaddr ()) := by
  rw [vtop_eq_walk_from_pgd_block, vtop_eq_walk_from_pgd_block]
  have root := fill_read_coherent coherent .pgd pgd
    (pageOffset (pgd + 8 * vpn vaddr (flag.levels - 1)))
  obtain ⟨same, after⟩ := descend_agrees root.1 root.2
    (fun table tables coherent => leaf_entry_from_agrees vaddr (flag.levels - 2) table tables coherent)
  exact ⟨congrArg (Option.bind · (leafPage · vaddr)) same, after⟩

end Walks

end CrashRiscv64.TableCache
