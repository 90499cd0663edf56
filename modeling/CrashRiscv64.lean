import CrashRiscv64.Machine
import CrashRiscv64.Pte
import CrashRiscv64.Walk
import CrashRiscv64.Mmu
import CrashRiscv64.TableCache
import CrashRiscv64.Translate
import CrashRiscv64.CacheRuns
import CrashRiscv64.Release
import CrashRiscv64.Layout
import CrashRiscv64.Lifecycle
import CrashRiscv64.NoteRecord
import CrashRiscv64.CrashNotes
import CrashRiscv64.NoteExtraction
