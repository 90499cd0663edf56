import CrashRiscv64.CrashNotes

/-!
# What the two note extractions attach

`riscv64_get_crash_notes` keeps the word read at `crash_notes` in the last slot of
`notes_ptrs` and overwrites that slot on the last pass of the offset loop; every CPU
still reads its note at the base plus its own offset. From there each CPU's slot is
described by the note it read, the run stops at the first CPU that fails a check, and a
failed run leaves `crash_task_regs` as it was. `riscv64_get_elf_notes` never fails a
CPU: it copies the block of each located note and zeros the slot of a CPU without one.
The register block is copied without a bound check, so a note with a long name or a
short descriptor is read past its end.
-/

namespace CrashRiscv64.NoteExtraction

open CrashRiscv64.Machine CrashRiscv64.NoteRecord CrashRiscv64.CrashNotes

set_option autoImplicit false

section OffsetLoop

variable (cpus : Nat) (offset : Nat → ULong) (ptrs : Nat → ULong)

end OffsetLoop

theorem finish_loop_eq_none (ms : MachineSpecific) (stop : LoopEnd) :
    finishLoop ms stop = none ↔ stop = .outOfBounds := by
  cases stop <;> simp [finishLoop]

/-- `SIZE(note_buf) = 40`, `OFFSET(elf_prstatus_pr_reg) = 4`,
`sizeof(struct riscv64_register) = 4`. -/
def noteGeometry : NoteGeometry := ⟨40, 4, 4⟩

def hugeNameNote : List UInt8 :=
  [0xff, 0xff, 0xff, 0xff, 0, 0, 0, 0, 1, 0, 0, 0] ++ coreName ++ List.replicate 24 0

def oneCpuEnv (note : List UInt8) (dumpfile : DumpFile) (located : Option LocatedNote) :
    NotesEnv where
  cpus := 1
  crashNotes := some 0
  perCpuOffset := none
  kvmem addr := ([8, 0, 0, 0, 0, 0, 0, 0] ++ note)[addr.toNat]?
  dumpfile := dumpfile
  diskdumpPrstatus _ := located
  netdumpPrstatus _ := located

/-- An in-kernel note with `n_namesz = 0` and `n_type = 0`, stray `"CORE"` bytes after
the header and `0xaa` after them. -/
def emptyKernelNote : List UInt8 :=
  [0, 0, 0, 0, 0, 0, 0, 0, 0, 0, 0, 0] ++ coreName ++ List.replicate 24 0xaa

/-- A well-formed located `NT_PRSTATUS` note named `"NOPE"` with the 8-byte descriptor
`0, 0, 0, 0, 1, 2, 3, 4`: 24 bytes, where the buffer less its final header has 28. -/
def locatedNope : LocatedNote where
  bytes := [4, 0, 0, 0, 8, 0, 0, 0, 1, 0, 0, 0] ++ [0x4e, 0x4f, 0x50, 0x45] ++
    [0, 0, 0, 0, 1, 2, 3, 4]
  header := ⟨4, 8, 1⟩
  header_read := by decide
  length_eq := by decide

/-- The type comes from the located note and the name from the in-kernel buffer: the CPU
is copied though the located note fails the name check and the in-kernel note fails the
type check. -/
theorem empty_note_checks_two_records :
    riscv64GetCrashNotes noteGeometry (oneCpuEnv emptyKernelNote .kdump (some locatedNope))
        ⟨none⟩ = some ⟨true, ⟨some [[0xaa, 0xaa, 0xaa, 0xaa]]⟩, []⟩ ∧
      checkAndCopy noteGeometry locatedNope.header locatedNope.bytes =
        .fail "invalid NT_PRSTATUS note (name != \"CORE\"\n" ∧
      (readNhdr emptyKernelNote).map (fun note => checkAndCopy noteGeometry note emptyKernelNote) =
        some (.fail "invalid NT_PRSTATUS note (n_type != NT_PRSTATUS)\n") :=
  ⟨by decide, by decide, by decide⟩

/-! ## The register block bound -/

theorem elf_note_step_ne_fail (geometry : NoteGeometry) (env : NotesEnv) (i : Nat)
    (warning : String) : elfNoteStep geometry env i ≠ .fail warning := by
  unfold elfNoteStep
  split
  · simp
  · split <;> simp

theorem elf_note_step_eq_out_of_bounds (geometry : NoteGeometry) (env : NotesEnv) (i : Nat) :
    elfNoteStep geometry env i = .outOfBounds ↔ ∃ located, prstatusPercpu env i = some located ∧
      located.header.descsz < geometry.prRegOffset + geometry.regSize := by
  unfold elfNoteStep
  cases locate : prstatusPercpu env i with
  | none => simp
  | some located =>
    have bound := located_register_block_is_some_iff geometry located
    cases block : registerBlock geometry located.bytes located.header.namesz with
    | none =>
      simp only [block, Option.isSome_none, Bool.false_eq_true, false_iff, Nat.not_le] at bound
      simp [block, bound]
    | some regs =>
      simp only [block, Option.isSome_some, true_iff] at bound
      simp [block, Nat.not_lt.mpr bound]

theorem register_block_bounds (geometry : NoteGeometry) :
    (∀ (note : Nhdr) (buf : List UInt8), buf.length = geometry.noteBufSize →
      note.type = ntPrstatus → strneqAt buf nhdrSize coreName = some true →
      (checkAndCopy geometry note buf = .outOfBounds ↔
        geometry.noteBufSize < regOffset geometry note.namesz + geometry.regSize)) ∧
    (∀ located : LocatedNote, (registerBlock geometry located.bytes located.header.namesz).isSome ↔
        geometry.prRegOffset + geometry.regSize ≤ located.header.descsz) ∧
    (∀ (env : NotesEnv) (ms : MachineSpecific), env.dumpfile.hasLocator →
      (riscv64GetElfNotes geometry env ms = none ↔
        ∃ i < env.cpus, ∃ located, prstatusPercpu env i = some located ∧
          located.header.descsz < geometry.prRegOffset + geometry.regSize)) := by
  refine ⟨fun note buf sized typed named => ?_, located_register_block_is_some_iff geometry,
    fun env ms hasLocator => ?_⟩
  · have bound : (registerBlock geometry buf note.namesz).isSome ↔
        regOffset geometry note.namesz + geometry.regSize ≤ geometry.noteBufSize := by
      rw [registerBlock, bcopy_is_some_iff, sized]
    unfold checkAndCopy
    rw [if_neg (not_not.mpr typed), named]
    cases block : registerBlock geometry buf note.namesz with
    | none =>
      simp only [block, Option.isSome_none, Bool.false_eq_true, false_iff, Nat.not_le] at bound
      simp [bound]
    | some regs =>
      simp only [block, Option.isSome_some, true_iff] at bound
      simp [Nat.not_lt.mpr bound]
  · unfold riscv64GetElfNotes
    rw [if_pos hasLocator, finish_loop_eq_none, cpu_loop_out_of_bounds_iff _
      (fun i _ warning => elf_note_step_ne_fail geometry env i warning)]
    simp only [List.mem_range, elf_note_step_eq_out_of_bounds, exists_prop]

def emptyDescriptorNote : LocatedNote where
  bytes := [4, 0, 0, 0, 0, 0, 0, 0, 1, 0, 0, 0] ++ coreName
  header := ⟨4, 0, 1⟩
  header_read := by decide
  length_eq := by decide

/-- Both extractions read past the note record: Strategy A at a name size of
`0xffffffff`, Strategy B at an empty descriptor. -/
theorem oversized_name_reads_past_buffer :
    riscv64GetCrashNotes noteGeometry (oneCpuEnv hugeNameNote .other none) ⟨none⟩ = none ∧
      riscv64GetElfNotes noteGeometry (oneCpuEnv [] .kdump (some emptyDescriptorNote)) ⟨none⟩ =
        none :=
  ⟨by decide, by decide⟩

/-! ## What Strategy B attaches -/

/-- What slot `i` holds after `riscv64_get_elf_notes`: the `sizeof(struct riscv64_register)`
bytes at the register offset of CPU `i`'s located note, or `calloc`'s zeros without one. -/
def elfSlot (geometry : NoteGeometry) (env : NotesEnv) (i : Nat) : List UInt8 :=
  match prstatusPercpu env i with
  | none => zeroRegs geometry
  | some located =>
    (located.bytes.drop (regOffset geometry located.header.namesz)).take geometry.regSize

theorem elf_note_step_fits (geometry : NoteGeometry) (env : NotesEnv) (i : Nat)
    (fits : ∀ located, prstatusPercpu env i = some located →
      geometry.prRegOffset + geometry.regSize ≤ located.header.descsz) :
    (elfNoteStep geometry env i).proceeds ∧
      (elfNoteStep geometry env i).slot (zeroRegs geometry) = elfSlot geometry env i ∧
      (elfNoteStep geometry env i).skipWarning =
        if (prstatusPercpu env i).isNone then some (noNoteWarning i) else none := by
  unfold elfNoteStep elfSlot
  cases locate : prstatusPercpu env i with
  | none => exact ⟨rfl, rfl, rfl⟩
  | some located =>
    have inside := (located_register_block_is_some_iff geometry located).mpr (fits located locate)
    rw [registerBlock, bcopy_is_some_iff] at inside
    simp only [registerBlock, bcopy, if_pos inside]
    exact ⟨rfl, rfl, rfl⟩

/-- On a disk or kdump file whose located notes hold the register block, the call attaches
one slot a CPU, the block of its note or zeros, and warns once for each CPU without a
note; on any other capture it returns `FALSE` and attaches nothing. -/
theorem get_elf_notes_outcome (geometry : NoteGeometry) (env : NotesEnv) (ms : MachineSpecific)
    (fits : ∀ i < env.cpus, ∀ located, prstatusPercpu env i = some located →
      geometry.prRegOffset + geometry.regSize ≤ located.header.descsz) :
    riscv64GetElfNotes geometry env ms =
      if env.dumpfile.hasLocator then
        some ⟨true, { ms with crashTaskRegs := some ((List.range env.cpus).map (elfSlot geometry env)) },
          ((List.range env.cpus).filter fun i => (prstatusPercpu env i).isNone).map noNoteWarning⟩
      else some ⟨false, ms, []⟩ := by
  unfold riscv64GetElfNotes
  split
  · have step := fun i (member : i ∈ List.range env.cpus) =>
      elf_note_step_fits geometry env i (fits i (List.mem_range.mp member))
    obtain ⟨slots, warnings, done⟩ := cpu_loop_proceeds_done _ (fun i member => (step i member).1)
      (List.replicate env.cpus (zeroRegs geometry)) []
    rw [done, cpu_loop_done_range _ done, cpu_loop_done_warnings _ done, List.nil_append,
      List.map_congr_left fun i member => (step i member).2.1,
      List.filterMap_congr fun i member => (step i member).2.2,
      ← List.filterMap_eq_map noNoteWarning, List.filterMap_filter]
    rfl
  · rfl

def locatedNotesEnv (cpus : Nat) (dumpfile : DumpFile) (locate : Nat → Option LocatedNote) :
    NotesEnv where
  cpus := cpus
  crashNotes := none
  perCpuOffset := none
  kvmem _ := none
  dumpfile := dumpfile
  diskdumpPrstatus := locate
  netdumpPrstatus := locate

theorem short_descriptor_after_missing_note :
    riscv64GetElfNotes noteGeometry
      (locatedNotesEnv 2 .diskdump fun i => if i = 1 then some emptyDescriptorNote else none)
      ⟨none⟩ = none := by
  decide

def cpuOneMissingEnv : NotesEnv :=
  locatedNotesEnv 3 .kdump fun i => if i = 1 then none else some locatedNope

theorem missing_cpu_gets_zeroed_slot :
    riscv64GetElfNotes noteGeometry cpuOneMissingEnv ⟨none⟩ =
      some ⟨true, ⟨some [[1, 2, 3, 4], [0, 0, 0, 0], [1, 2, 3, 4]]⟩, [noNoteWarning 1]⟩ :=
  (get_elf_notes_outcome noteGeometry cpuOneMissingEnv ⟨none⟩ fun i _ located found => by
    simp only [cpuOneMissingEnv, locatedNotesEnv, prstatusPercpu] at found
    split at found
    · cases found
    · rw [← Option.some.inj found]
      decide).trans (by decide)


/-! ## A failed extraction -/

theorem get_crash_notes_false {geometry : NoteGeometry} {env : NotesEnv} {ms : MachineSpecific}
    {result : NotesResult} (returned : riscv64GetCrashNotes geometry env ms = some result)
    (rejected : result.ok = false) : result.machspec = ms := by
  unfold riscv64GetCrashNotes at returned
  split at returned
  · cases returned; rfl
  · split at returned
    · cases returned
    · split at returned
      · cases returned; rfl
      · exact finish_loop_false returned rejected

theorem get_elf_notes_false {geometry : NoteGeometry} {env : NotesEnv} {ms : MachineSpecific}
    {result : NotesResult} (returned : riscv64GetElfNotes geometry env ms = some result)
    (rejected : result.ok = false) : result.machspec = ms := by
  unfold riscv64GetElfNotes at returned
  split at returned
  · exact finish_loop_false returned rejected
  · cases returned; rfl

/-- Whichever extraction ends it, a `FALSE` from `riscv64_init_active_task_regs` leaves
`crash_task_regs` as it was: no partly filled array is attached. -/
theorem init_active_task_regs_false_keeps_regs (geometry : NoteGeometry) (env : NotesEnv)
    (ms : MachineSpecific) (result : NotesResult)
    (returned : riscv64InitActiveTaskRegs geometry env ms = some result)
    (rejected : result.ok = false) : result.machspec = ms := by
  simp only [riscv64InitActiveTaskRegs, Option.bind_eq_bind, Option.bind_eq_some] at returned
  obtain ⟨crash, crashReturned, rest⟩ := returned
  split at rest <;> rename_i crashOk <;>
    simp only [Option.bind_eq_some, Option.pure_def, Option.some.injEq] at rest
  · subst rest
    rw [rejected] at crashOk
    cases crashOk
  · obtain ⟨elf, elfReturned, rfl⟩ := rest
    rw [get_elf_notes_false elfReturned rejected,
      get_crash_notes_false crashReturned (by simpa using crashOk)]

end CrashRiscv64.NoteExtraction
