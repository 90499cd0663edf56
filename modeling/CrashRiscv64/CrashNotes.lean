import CrashRiscv64.NoteRecord

/-!
# `riscv64_get_crash_notes`, `riscv64_get_elf_notes` and `riscv64_init_active_task_regs`

The registers of the crashed tasks are taken from the per-CPU `NT_PRSTATUS` notes:
first from the kernel's own `crash_notes` (through `__per_cpu_offset`), else from the
notes the disk or kdump file carries. Both extractions are one loop over the CPUs whose
body ends a CPU with a copy, a skip or a failure; the loop is modelled once and each
extraction supplies its body.
-/

namespace CrashRiscv64.CrashNotes

open CrashRiscv64.Machine CrashRiscv64.NoteRecord

set_option autoImplicit false

inductive DumpFile
  | diskdump
  | kdump
  | other
  deriving DecidableEq, Repr

def DumpFile.hasLocator : DumpFile → Bool
  | .other => false
  | _ => true

/-- What the extraction consults: `kt->cpus`, the `crash_notes` symbol, the
`__per_cpu_offset` symbol with `kt->__per_cpu_offset`, the kernel-virtual bytes
`readmem` can read, the dump-file kind and the two per-CPU note locators. -/
structure NotesEnv where
  cpus : Nat
  crashNotes : Option ULong
  perCpuOffset : Option (Nat → ULong)
  kvmem : ULong → Option UInt8
  dumpfile : DumpFile
  diskdumpPrstatus : Nat → Option LocatedNote
  netdumpPrstatus : Nat → Option LocatedNote

structure MachineSpecific where
  crashTaskRegs : Option (List (List UInt8))
  deriving DecidableEq, Repr

/-- What a call leaves: its `TRUE` or `FALSE`, the `machine_specific` after it and
the warnings it printed. -/
structure NotesResult where
  ok : Bool
  machspec : MachineSpecific
  warnings : List String
  deriving DecidableEq, Repr

/-- `readmem(addr, KVADDR, buf, len, ..., RETURN_ON_ERROR)`: the `len` bytes from
`addr` on, or `none` (the call returns `FALSE`) when one cannot be read. -/
def readmem (env : NotesEnv) (addr : ULong) : Nat → Option (List UInt8)
  | 0 => some []
  | len + 1 => do
    let byte ← env.kvmem addr
    let rest ← readmem env (addr + 1) len
    pure (byte :: rest)

def decodeULong (bytes : List UInt8) : ULong :=
  BitVec.ofNat 64 (bytes.foldr (fun byte acc => byte.toNat + 2 ^ 8 * acc) 0)

/-- `diskdump_get_prstatus_percpu(i)` on a diskdump, `netdump_get_prstatus_percpu(i)`
on a kdump. -/
def prstatusPercpu (env : NotesEnv) (i : Nat) : Option LocatedNote :=
  match env.dumpfile with
  | .diskdump => env.diskdumpPrstatus i
  | .kdump => env.netdumpPrstatus i
  | .other => none

def noNoteWarning (i : Nat) : String := s!"cannot find NT_PRSTATUS note for cpu: {i}\n"

/-! ## The per-CPU loop -/

/-- How the loop body ends for one CPU: the register block copied into its slot,
`continue` with the slot left as it was, `goto fail`, or a read past a buffer. -/
inductive CpuStep
  | copy (regs : List UInt8)
  | skip (warning : String)
  | fail (warning : String)
  | outOfBounds
  deriving DecidableEq, Repr

def CpuStep.proceeds : CpuStep → Bool
  | .copy _ => true
  | .skip _ => true
  | _ => false

def CpuStep.slot : CpuStep → List UInt8 → List UInt8
  | .copy regs, _ => regs
  | _, old => old

def CpuStep.skipWarning : CpuStep → Option String
  | .skip warning => some warning
  | _ => none

inductive LoopEnd
  | done (slots : List (List UInt8)) (warnings : List String)
  | failed (warnings : List String)
  | outOfBounds
  deriving DecidableEq, Repr

/-- `for (i = 0; i < kt->cpus; i++) { ... }` over `panic_task_regs`. -/
def cpuLoop (step : Nat → CpuStep) : List Nat → List (List UInt8) → List String → LoopEnd
  | [], slots, warnings => .done slots warnings
  | i :: rest, slots, warnings =>
    match step i with
    | .copy regs => cpuLoop step rest (slots.set i regs) warnings
    | .skip warning => cpuLoop step rest slots (warnings ++ [warning])
    | .fail warning => .failed (warnings ++ [warning])
    | .outOfBounds => .outOfBounds

/-- The exits after the loop: `ms->crash_task_regs = panic_task_regs; return TRUE`,
or `return FALSE` from `fail:`. -/
def finishLoop (ms : MachineSpecific) : LoopEnd → Option NotesResult
  | .done slots warnings => some ⟨true, { ms with crashTaskRegs := some slots }, warnings⟩
  | .failed warnings => some ⟨false, ms, warnings⟩
  | .outOfBounds => none

/-! ## `riscv64_get_crash_notes` -/

/-- The `notes_ptrs` loop run for `count` CPUs:
`notes_ptrs[i] = notes_ptrs[kt->cpus-1] + kt->__per_cpu_offset[i]` for `i` in turn. -/
def offsetLoop (cpus : Nat) (offset : Nat → ULong) : Nat → (Nat → ULong) → Nat → ULong
  | 0, ptrs => ptrs
  | i + 1, ptrs =>
    let ptrs := offsetLoop cpus offset i ptrs
    Function.update ptrs i (ptrs (cpus - 1) + offset i)

/-- `notes_ptrs` after the offset loop, from `GETBUF`'s zeroed array with the word
read at `crash_notes` in its last slot. -/
def notesPtrs (env : NotesEnv) (base : ULong) : Nat → ULong :=
  let ptrs : Nat → ULong := Function.update (fun _ => 0) (env.cpus - 1) base
  match env.perCpuOffset with
  | none => ptrs
  | some offset => offsetLoop env.cpus offset env.cpus ptrs

/-- The checks and the copy: `note` is the header `n_type` and `n_namesz` are read
from, `buf` the bytes checked for `"CORE"` and copied from. -/
def checkAndCopy (geometry : NoteGeometry) (note : Nhdr) (buf : List UInt8) : CpuStep :=
  if note.type ≠ ntPrstatus then .fail "invalid NT_PRSTATUS note (n_type != NT_PRSTATUS)\n"
  else
    match strneqAt buf nhdrSize coreName with
    | none => .outOfBounds
    | some false => .fail "invalid NT_PRSTATUS note (name != \"CORE\"\n"
    | some true =>
      match registerBlock geometry buf note.namesz with
      | none => .outOfBounds
      | some regs => .copy regs

/-- `BCOPY((char *)note, buf, notesz)` when `sizeof(Elf64_Nhdr) + roundup(n_namesz, 4) +
n_descsz` equals `notesz`, `SIZE(note_buf)` less the final empty header. -/
def copyOver (geometry : NoteGeometry) (located : LocatedNote) (buf : List UInt8) : List UInt8 :=
  let notesz := geometry.noteBufSize - nhdrSize
  if nhdrSize + roundupWord located.header.namesz + located.header.descsz = notesz then
    located.bytes.take notesz ++ buf.drop notesz
  else buf

def crashNoteStep (geometry : NoteGeometry) (env : NotesEnv) (i : Nat) (address : ULong) :
    CpuStep :=
  match readmem env address geometry.noteBufSize with
  | none => .fail (noNoteWarning i)
  | some buf =>
    match readWord32 buf 0 with
    | none => .outOfBounds
    | some namesz =>
      if namesz = 0 ∧ env.dumpfile.hasLocator then
        match prstatusPercpu env i with
        | none => .skip (noNoteWarning i)
        | some located => checkAndCopy geometry located.header (copyOver geometry located buf)
      else
        match readNhdr buf with
        | none => .outOfBounds
        | some note => checkAndCopy geometry note buf

/-- `riscv64_get_crash_notes`; `none` where it reads or writes past a buffer
(`notes_ptrs[kt->cpus-1]` with no CPU, or a note read out of bounds). -/
def riscv64GetCrashNotes (geometry : NoteGeometry) (env : NotesEnv) (ms : MachineSpecific) :
    Option NotesResult :=
  match env.crashNotes with
  | none => some ⟨false, ms, []⟩
  | some crashNotes =>
    if env.cpus = 0 then none
    else
      match readmem env crashNotes 8 with
      | none => some ⟨false, ms, ["cannot read crash_notes\n"]⟩
      | some word =>
        let ptrs := notesPtrs env (decodeULong word)
        finishLoop ms (cpuLoop (fun i => crashNoteStep geometry env i (ptrs i))
          (List.range env.cpus) (List.replicate env.cpus (zeroRegs geometry)) [])

/-! ## `riscv64_get_elf_notes` and `riscv64_init_active_task_regs` -/

def elfNoteStep (geometry : NoteGeometry) (env : NotesEnv) (i : Nat) : CpuStep :=
  match prstatusPercpu env i with
  | none => .skip (noNoteWarning i)
  | some located =>
    match registerBlock geometry located.bytes located.header.namesz with
    | none => .outOfBounds
    | some regs => .copy regs

def riscv64GetElfNotes (geometry : NoteGeometry) (env : NotesEnv) (ms : MachineSpecific) :
    Option NotesResult :=
  if env.dumpfile.hasLocator then
    finishLoop ms (cpuLoop (elfNoteStep geometry env) (List.range env.cpus)
      (List.replicate env.cpus (zeroRegs geometry)) [])
  else some ⟨false, ms, []⟩

def riscv64InitActiveTaskRegs (geometry : NoteGeometry) (env : NotesEnv)
    (ms : MachineSpecific) : Option NotesResult := do
  let crash ← riscv64GetCrashNotes geometry env ms
  if crash.ok then pure crash
  else
    let elf ← riscv64GetElfNotes geometry env crash.machspec
    pure { elf with warnings := crash.warnings ++ elf.warnings }

/-! ## Reads -/

theorem readmem_length (env : NotesEnv) :
    ∀ (len : Nat) (addr : ULong) {bytes : List UInt8}, readmem env addr len = some bytes →
      bytes.length = len
  | 0, _, _, read => by cases read; rfl
  | len + 1, addr, bytes, read => by
    simp only [readmem, Option.bind_eq_bind, Option.bind_eq_some, Option.pure_def,
      Option.some.injEq] at read
    obtain ⟨_, _, rest, restRead, rfl⟩ := read
    simp only [List.length_cons, readmem_length env len (addr + 1) restRead]

section Loop

variable (step : Nat → CpuStep)

/-- Each CPU's slot is written by its own step only, so when the indices are distinct
the slots after the loop are the steps' slots over the ones before. -/
theorem cpu_loop_done_slots :
    ∀ {cpus : List Nat}, cpus.Nodup → ∀ {slots : List (List UInt8)} {warnings : List String}
      {slots' : List (List UInt8)} {warnings' : List String},
      cpuLoop step cpus slots warnings = .done slots' warnings' → ∀ j,
        slots'[j]? = if j ∈ cpus then slots[j]?.map (step j).slot else slots[j]?
  | [], _, _, _, _, _, done, j => by cases done; simp
  | i :: rest, distinct, slots, warnings, slots', warnings', done, j => by
    obtain ⟨fresh, distinct⟩ := List.nodup_cons.mp distinct
    simp only [cpuLoop] at done
    split at done <;> rename_i stepped
    · rw [cpu_loop_done_slots distinct done j]
      by_cases same : j = i
      · subst same
        simp only [fresh, if_false, List.mem_cons_self, if_true, List.getElem?_set', stepped,
          CpuStep.slot]
        rfl
      · simp [same, List.getElem?_set_ne (Ne.symm same)]
    · rw [cpu_loop_done_slots distinct done j]
      by_cases same : j = i
      · subst same
        simp only [fresh, if_false, List.mem_cons_self, if_true, stepped]
        cases slots[j]? <;> rfl
      · simp [same]
    · cases done
    · cases done

theorem cpu_loop_done_warnings :
    ∀ {cpus : List Nat} {slots : List (List UInt8)} {warnings : List String}
      {slots' : List (List UInt8)} {warnings' : List String},
      cpuLoop step cpus slots warnings = .done slots' warnings' →
        warnings' = warnings ++ cpus.filterMap fun i => (step i).skipWarning
  | [], _, _, _, _, done => by cases done; simp
  | i :: rest, slots, warnings, slots', warnings', done => by
    simp only [cpuLoop] at done
    split at done <;> rename_i stepped
    · simp only [cpu_loop_done_warnings done, List.filterMap_cons, stepped, CpuStep.skipWarning]
    · simp only [cpu_loop_done_warnings done, List.filterMap_cons, stepped, CpuStep.skipWarning,
        List.append_assoc, List.singleton_append]
    · cases done
    · cases done

theorem cpu_loop_done_range {n : Nat} {fill : List UInt8} {warnings : List String}
    {slots' : List (List UInt8)} {warnings' : List String}
    (done : cpuLoop step (List.range n) (List.replicate n fill) warnings = .done slots' warnings') :
    slots' = (List.range n).map fun i => (step i).slot fill := by
  apply List.ext_getElem?
  intro j
  rw [cpu_loop_done_slots step (List.nodup_range n) done j]
  by_cases lt : j < n
  · simp [lt]
  · have beyond : n ≤ j := Nat.le_of_not_lt lt
    simp [lt, List.getElem?_eq_none, beyond]

theorem cpu_loop_proceeds_done :
    ∀ {cpus : List Nat}, (∀ i ∈ cpus, (step i).proceeds) → ∀ slots warnings,
      ∃ slots' warnings', cpuLoop step cpus slots warnings = .done slots' warnings'
  | [], _, slots, warnings => ⟨slots, warnings, rfl⟩
  | i :: rest, all, slots, warnings => by
    have tail : ∀ slots warnings, ∃ slots' warnings', cpuLoop step rest slots warnings = .done slots' warnings' :=
      cpu_loop_proceeds_done fun j member => all j (.tail i member)
    have head := all i (.head rest)
    simp only [cpuLoop]
    split <;> rename_i stepped <;> simp only [stepped, CpuStep.proceeds, Bool.false_eq_true] at head
    · exact tail _ _
    · exact tail _ _

theorem cpu_loop_out_of_bounds_iff :
    ∀ {cpus : List Nat}, (∀ i ∈ cpus, ∀ warning, step i ≠ .fail warning) → ∀ slots warnings,
      cpuLoop step cpus slots warnings = .outOfBounds ↔ ∃ i ∈ cpus, step i = .outOfBounds
  | [], _, _, _ => by simp [cpuLoop]
  | i :: rest, noFail, slots, warnings => by
    have tail : ∀ slots warnings,
        cpuLoop step rest slots warnings = .outOfBounds ↔ ∃ i ∈ rest, step i = .outOfBounds :=
      cpu_loop_out_of_bounds_iff fun j member => noFail j (.tail i member)
    simp only [cpuLoop, List.mem_cons, exists_eq_or_imp]
    split <;> rename_i stepped
    · simp [tail, stepped]
    · simp [tail, stepped]
    · exact absurd stepped (noFail i (.head rest) _)
    · simp [stepped]

end Loop

theorem finish_loop_false {ms : MachineSpecific} {stop : LoopEnd} {result : NotesResult}
    (finished : finishLoop ms stop = some result) (rejected : result.ok = false) :
    result.machspec = ms := by
  cases stop <;> cases finished
  · cases rejected
  · rfl

end CrashRiscv64.CrashNotes
