import CrashRiscv64.TableCache

/-!
# `riscv64_uvtop`, `riscv64_kvtop` and a session of requests

The two translation entry points pick a root table, or answer without walking,
and then dispatch on the paging mode. A session serves requests one after
another over one set of table buffers; a request that ends in `error(FATAL, ...)`
returns to the command loop with the buffers as they were.
-/

namespace CrashRiscv64.Translate

open CrashRiscv64.Machine CrashRiscv64.Pte CrashRiscv64.Walk CrashRiscv64.TableCache

set_option autoImplicit false

structure TaskContext where
  task : ULong
  mmStruct : ULong

/-- What the entry points consult outside the walkers: `IS_KVADDR`,
`IS_VMALLOC_ADDR`, `vt->vmalloc_start`, `VTOP`, `vt->kernel_pgd[0]`,
`is_kernel_thread`, `task_mm(task, TRUE)` with the pgd of the mm it read,
`readmem` of a kernel word, the two member offsets and `machdep->flags & VM_FLAGS`. -/
structure TranslationEnv where
  isKvaddr : ULong → Bool
  isVmallocAddr : ULong → Bool
  vmallocStart : ULong
  vtop : ULong → ULong
  kernelPgd : ULong
  isKernelThread : ULong → Bool
  taskMmPgd : ULong → Option ULong
  readKvaddrWord : ULong → Option ULong
  activeMmOffset : ULong
  mmStructPgdOffset : ULong
  vmFlags : Option VmFlag

/-- `readmem(addr, KVADDR, ..., type, FAULT_ON_ERROR)` of one word; a failed read
is fatal and is named by its `type` string. -/
def readmemFault (env : TranslationEnv) (addr : ULong) (type : String) : Except String ULong :=
  match env.readKvaddrWord addr with
  | none => .error type
  | some word => .ok word

def uvtopPgd (env : TranslationEnv) (tc : TaskContext) (uvaddr : ULong) : Except String ULong :=
  if env.isKernelThread tc.task && env.isKvaddr uvaddr then do
    let activeMm ← readmemFault env (tc.task + env.activeMmOffset) "task active_mm contents"
    if activeMm = 0 then .error "no active_mm for this kernel thread\n"
    else readmemFault env (activeMm + env.mmStructPgdOffset) "mm_struct pgd"
  else
    match env.taskMmPgd tc.task with
    | some pgd => .ok pgd
    | none => readmemFault env (tc.mmStruct + env.mmStructPgdOffset) "mm_struct pgd"

section EntryPoints

variable {σ : Type} (env : TranslationEnv) (read : TableRead σ)

/-- The `switch (machdep->flags & VM_FLAGS)`: the walker's `TRUE`/`FALSE` and
`*paddr`, which the caller has set to 0 before. -/
def dispatchWalk (pgd vaddr : ULong) (state : σ) : (Bool × ULong) × σ :=
  match env.vmFlags with
  | none => ((false, 0), state)
  | some flag =>
    let walked := riscv64Vtop read flag pgd vaddr state
    ((walked.1.isSome, walked.1.getD 0), walked.2)

/-- `riscv64_uvtop`; `verbose` only selects what is printed. -/
def riscv64Uvtop (tc : Option TaskContext) (uvaddr : ULong) (state : σ) :
    Except String ((Bool × ULong) × σ) :=
  match tc with
  | none => .error "current context invalid\n"
  | some tc => (uvtopPgd env tc uvaddr).map fun pgd => dispatchWalk env read pgd uvaddr state

def riscv64Kvtop (kvaddr paddr : ULong) (verbose : Bool) (state : σ) : (Bool × ULong) × σ :=
  if !env.isKvaddr kvaddr then ((false, paddr), state)
  else if env.vmallocStart = 0 then ((true, env.vtop kvaddr), state)
  else if !env.isVmallocAddr kvaddr && !verbose then ((true, env.vtop kvaddr), state)
  else dispatchWalk env read env.kernelPgd kvaddr state

end EntryPoints

inductive Request
  | uvtop (tc : Option TaskContext) (uvaddr : ULong)
  | kvtop (kvaddr paddr : ULong) (verbose : Bool)

section Session

variable {σ : Type} (env : TranslationEnv) (read : TableRead σ)

/-- One request: its answer, or the fatal error that ends it with the buffers untouched. -/
def Request.serve (request : Request) (state : σ) : Except String (Bool × ULong) × σ :=
  match request with
  | .uvtop tc uvaddr =>
    match riscv64Uvtop env read tc uvaddr state with
    | .error message => (.error message, state)
    | .ok (answer, state) => (.ok answer, state)
  | .kvtop kvaddr paddr verbose =>
    let answered := riscv64Kvtop env read kvaddr paddr verbose state
    (.ok answered.1, answered.2)

def serve : List Request → σ → List (Except String (Bool × ULong)) × σ
  | [], state => ([], state)
  | request :: rest, state =>
    let first := request.serve env read state
    let others := serve rest first.2
    (first.1 :: others.1, others.2)

end Session

/-! ## Cached sessions -/

section Cached

variable (env : TranslationEnv) {image : Image}

theorem dispatch_walk_cached {tables : Tables} (coherent : Coherent image tables)
    (pgd vaddr : ULong) :
    (dispatchWalk env (fillRead image) pgd vaddr tables).1 =
        (dispatchWalk env (freshRead image) pgd vaddr ()).1 ∧
      Coherent image (dispatchWalk env (fillRead image) pgd vaddr tables).2 := by
  unfold dispatchWalk
  split
  · exact ⟨rfl, coherent⟩
  · obtain ⟨same, after⟩ := vtop_cached_agrees coherent ‹_› pgd vaddr
    exact ⟨by simp only [same], after⟩

/-- The step lemma: one request from coherent buffers answers as with fresh
reads and leaves the buffers coherent. -/
theorem serve_request_cached {tables : Tables} (coherent : Coherent image tables)
    (request : Request) :
    (request.serve env (fillRead image) tables).1 = (request.serve env (freshRead image) ()).1 ∧
      Coherent image (request.serve env (fillRead image) tables).2 := by
  cases request with
  | uvtop tc uvaddr =>
    rcases tc with _ | tc
    · exact ⟨rfl, coherent⟩
    · cases found : uvtopPgd env tc uvaddr with
      | error message =>
        simp only [Request.serve, riscv64Uvtop, found, Except.map]
        exact ⟨trivial, coherent⟩
      | ok pgd =>
        obtain ⟨same, after⟩ := dispatch_walk_cached env coherent pgd uvaddr
        simp only [Request.serve, riscv64Uvtop, found, Except.map]
        exact ⟨by rw [same], after⟩
  | kvtop kvaddr paddr verbose =>
    simp only [Request.serve, riscv64Kvtop]
    split_ifs
    · exact ⟨rfl, coherent⟩
    · exact ⟨rfl, coherent⟩
    · exact ⟨rfl, coherent⟩
    · obtain ⟨same, after⟩ := dispatch_walk_cached env coherent env.kernelPgd kvaddr
      exact ⟨by rw [same], after⟩

/-- The run lemma: from coherent buffers, every session answers every request as
the same session with every table page read afresh, and keeps the buffers coherent. -/
theorem serve_cached_eq_fresh (requests : List Request) :
    ∀ tables : Tables, Coherent image tables →
      (serve env (fillRead image) requests tables).1 = (serve env (freshRead image) requests ()).1 ∧
        Coherent image (serve env (fillRead image) requests tables).2 := by
  induction requests with
  | nil => exact fun _ coherent => ⟨rfl, coherent⟩
  | cons request rest induction =>
    intro tables coherent
    obtain ⟨first, after⟩ := serve_request_cached env coherent request
    obtain ⟨others, final⟩ := induction _ after
    exact ⟨by simp only [serve, first, others], final⟩

end Cached

/-- A 3-level session with the kernel root table at `0x1000`, in which `0x123` and
`0x7654321` are vmalloc addresses and walked, and `VTOP` answers for every other
kernel address. -/
def vmallocWalkEnv : TranslationEnv where
  isKvaddr := fun _ => true
  isVmallocAddr := fun addr => addr = 0x123 || addr = 0x7654321
  vmallocStart := 1
  vtop := id
  kernelPgd := 0x1000
  isKernelThread := fun _ => false
  taskMmPgd := fun _ => none
  readKvaddrWord := fun _ => none
  activeMmOffset := 0
  mmStructPgdOffset := 0
  vmFlags := some .vmL3_4k

/-- After `PRE_GDB` with zeroed allocations the PMD buffer is keyed by 0 but does
not hold physical page 0, and the first `kvtop` whose walk reaches that page
answers `FALSE` where fresh reads answer `TRUE`. -/
theorem first_walk_to_page_zero_reads_stale_buffer :
    ¬Coherent frameZeroImage (riscv64InitTables fun _ _ => 0) ∧
      (serve vmallocWalkEnv (fillRead frameZeroImage) [.kvtop 0x123 0 false]
        (riscv64InitTables fun _ _ => 0)).1 = [.ok (false, 0)] ∧
      (serve vmallocWalkEnv (freshRead frameZeroImage) [.kvtop 0x123 0 false] ()).1 =
        [.ok (true, 0x123)] :=
  ⟨fun coherent => absurd (congrFun (coherent .pmd) 0) (by decide), rfl, rfl⟩


theorem filled_tables_answer_fresh :
    Coherent frameZeroImage (fun level => ⟨frameZeroImage.readPage (levelType level) 0, 0⟩) ∧
      (serve vmallocWalkEnv (fillRead frameZeroImage) [.kvtop 0x123 0 false]
          (fun level => ⟨frameZeroImage.readPage (levelType level) 0, 0⟩)).1 =
        (serve vmallocWalkEnv (freshRead frameZeroImage) [.kvtop 0x123 0 false] ()).1 :=
  ⟨fun _ => rfl,
    (serve_cached_eq_fresh vmallocWalkEnv [.kvtop 0x123 0 false] _ fun _ => rfl).1⟩

end CrashRiscv64.Translate
