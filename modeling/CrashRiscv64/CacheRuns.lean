import CrashRiscv64.Translate

/-!
# Runs of the table buffers

Two facts about `FILL_X` over whole walks and sessions, for every image and from any
buffers. A request served twice in a row is answered the same the second time and
reads no table page: each level its walk visits still holds the page the first walk
put there, under the same key. And a session that starts where `riscv64_init(PRE_GDB)`
leaves the buffers, keyed by 0 with whatever `malloc` returned, answers as with every
page read afresh unless one of its walks asks `FILL_X` for address 0: a buffer that was
never read can only be hit through the key 0 it starts with.
-/

namespace CrashRiscv64.CacheRuns

open CrashRiscv64.Machine CrashRiscv64.Pte CrashRiscv64.Walk CrashRiscv64.TableCache
  CrashRiscv64.Translate

set_option autoImplicit false

/-! ## One fill -/

section Fill

variable (image : Image) (type : MemType) (addr : ULong) (tables : Tables)

theorem fill_other {level other : Level} (different : other ≠ level) :
    fill image level type addr tables other = tables other := by
  unfold fill
  split
  · rfl
  · exact Function.update_noteq different _ _

theorem fill_last_read (level : Level) :
    (fill image level type addr tables level).lastRead = addr := by
  unfold fill
  split
  · rename_i hit
    exact hit.symm
  · simp

theorem fill_hit {level : Level} (hit : (tables level).lastRead = addr) :
    fill image level type addr tables = tables :=
  if_pos hit.symm

end Fill

theorem lower_level_ne_pgd (k : Nat) : lowerLevel k ≠ .pgd := by
  rcases k with _ | _ | _ | _ <;> simp [lowerLevel]

theorem lower_level_ne {j k : Nat} (below : j < k) (top : k ≤ 3) : lowerLevel j ≠ lowerLevel k := by
  rcases k with _ | _ | _ | _ | k <;> rcases j with _ | _ | _ | j <;>
    first | omega | simp [lowerLevel]

theorem flag_levels_sub_two (flag : VmFlag) : flag.levels - 2 ≤ 3 := by
  cases flag <;> decide

section Descend

variable {σ : Type} {entry : ULong × σ} {rest : ULong → σ → Option ULong × σ}

theorem descend_none (next : nextTable entry.1 = none) : descend entry rest = (none, entry.2) := by
  unfold descend
  rw [next]

theorem descend_some {table : ULong} (next : nextTable entry.1 = some table) :
    descend entry rest = rest table entry.2 := by
  unfold descend
  rw [next]

end Descend

/-! ## What one request does -/

theorem kvtop_answers_or_walks (env : TranslationEnv) (kvaddr paddr : ULong) (verbose : Bool) :
    (∃ answer, ∀ {σ : Type} (read : TableRead σ) (state : σ),
      riscv64Kvtop env read kvaddr paddr verbose state = (answer, state)) ∨
    ∀ {σ : Type} (read : TableRead σ) (state : σ),
      riscv64Kvtop env read kvaddr paddr verbose state = dispatchWalk env read env.kernelPgd kvaddr state := by
  by_cases user : (!env.isKvaddr kvaddr) = true
  · exact .inl ⟨(false, paddr), fun _ _ => if_pos user⟩
  by_cases unmapped : env.vmallocStart = 0
  · exact .inl ⟨(true, env.vtop kvaddr), fun _ _ => by rw [riscv64Kvtop, if_neg user, if_pos unmapped]⟩
  by_cases direct : (!env.isVmallocAddr kvaddr && !verbose) = true
  · exact .inl ⟨(true, env.vtop kvaddr), fun _ _ => by
      rw [riscv64Kvtop, if_neg user, if_neg unmapped, if_pos direct]⟩
  · exact .inr fun _ _ => by rw [riscv64Kvtop, if_neg user, if_neg unmapped, if_neg direct]

/-- A request either answers without reading a table, with the same answer from every
state, or is the walk from a root table that no state changes. -/
theorem request_answers_or_walks (env : TranslationEnv) (request : Request) :
    (∃ answer, ∀ {σ : Type} (read : TableRead σ) (state : σ),
      request.serve env read state = (answer, state)) ∨
    ∃ pgd vaddr, ∀ {σ : Type} (read : TableRead σ) (state : σ),
      request.serve env read state =
        (.ok (dispatchWalk env read pgd vaddr state).1, (dispatchWalk env read pgd vaddr state).2) := by
  cases request with
  | uvtop tc uvaddr =>
    rcases tc with _ | tc
    · exact .inl ⟨_, fun _ _ => rfl⟩
    · cases found : uvtopPgd env tc uvaddr with
      | error message =>
        exact .inl ⟨.error message, fun _ _ => by simp only [Request.serve, riscv64Uvtop, found, Except.map]⟩
      | ok pgd =>
        exact .inr ⟨pgd, uvaddr, fun _ _ => by simp only [Request.serve, riscv64Uvtop, found, Except.map]⟩
  | kvtop kvaddr paddr verbose =>
    rcases kvtop_answers_or_walks env kvaddr paddr verbose with ⟨answer, plain⟩ | walks
    · exact .inl ⟨.ok answer, fun _ _ => by simp only [Request.serve, plain]⟩
    · exact .inr ⟨env.kernelPgd, kvaddr, fun _ _ => by simp only [Request.serve, walks]⟩

/-! ## A request served twice -/

def frameOneImage : Image := ⟨fun _ _ => 0x401⟩

/-- `fillRead` with a count of the table pages `FILL_X` reads: those whose address is
not the level's `last_X_read`. -/
def countedFillRead (image : Image) : TableRead (Tables × Nat) :=
  fun level type addr offset state =>
    let read := fillRead image level type addr offset state.1
    (read.1, read.2, if addr = (state.1 level).lastRead then state.2 else state.2 + 1)

section Repeat

variable {image : Image}

theorem counted_read_again {level : Level} {type : MemType} {addr offset : ULong}
    {state final : Tables × Nat}
    (same : final.1 level = (countedFillRead image level type addr offset state).2.1 level) :
    countedFillRead image level type addr offset final =
      ((countedFillRead image level type addr offset state).1, final) := by
  have hit : (final.1 level).lastRead = addr := by
    rw [same]
    exact fill_last_read image type addr state.1 level
  simp only [countedFillRead, fillRead, fill_hit image type addr final.1 hit, hit, eq_self, if_true]
  rw [same]
  rfl

theorem leaf_entry_from_frame (vaddr : ULong) {level : Level} :
    ∀ k, (∀ j ≤ k, lowerLevel j ≠ level) → ∀ table state,
      (leafEntryFrom (countedFillRead image) vaddr k table state).2.1 level = state.1 level
  | 0, untouched, _, _ => fill_other image _ _ _ (untouched 0 le_rfl).symm
  | k + 1, untouched, table, state => by
    have filled : (countedFillRead image (lowerLevel (k + 1)) .physaddr table
        (8 * vpn vaddr (k + 1)) state).2.1 level = state.1 level :=
      fill_other image _ _ _ (untouched (k + 1) le_rfl).symm
    simp only [leafEntryFrom]
    cases next : nextTable (countedFillRead image (lowerLevel (k + 1)) .physaddr table
        (8 * vpn vaddr (k + 1)) state).1 with
    | none => rw [descend_none next, filled]
    | some lower =>
      rw [descend_some next, leaf_entry_from_frame vaddr k (fun j below => untouched j (by omega)),
        filled]

/-- A walk from the level-`k` table, run again from buffers that hold what the first run
left at the levels it filled, reads the same entries and no page. -/
theorem leaf_entry_from_repeat (vaddr : ULong) :
    ∀ k, k ≤ 3 → ∀ table state final,
      (∀ j ≤ k, final.1 (lowerLevel j) =
        (leafEntryFrom (countedFillRead image) vaddr k table state).2.1 (lowerLevel j)) →
      leafEntryFrom (countedFillRead image) vaddr k table final =
        ((leafEntryFrom (countedFillRead image) vaddr k table state).1, final)
  | 0, _, table, state, final, agree => by
    have same : final.1 .ptbl =
        (countedFillRead image .ptbl .physaddr table (8 * vpn vaddr 0) state).2.1 .ptbl :=
      agree 0 le_rfl
    simp only [leafEntryFrom, counted_read_again same]
  | k + 1, top, table, state, final, agree => by
    have frame : ∀ table state, (leafEntryFrom (countedFillRead image) vaddr k table state).2.1
        (lowerLevel (k + 1)) = state.1 (lowerLevel (k + 1)) :=
      leaf_entry_from_frame vaddr k fun j below => lower_level_ne (by omega) top
    simp only [leafEntryFrom] at agree ⊢
    cases next : nextTable (countedFillRead image (lowerLevel (k + 1)) .physaddr table
        (8 * vpn vaddr (k + 1)) state).1 with
    | none =>
      simp only [descend_none next] at agree ⊢
      rw [counted_read_again (agree (k + 1) le_rfl)]
      exact descend_none next
    | some lower =>
      simp only [descend_some next] at agree ⊢
      rw [counted_read_again ((agree (k + 1) le_rfl).trans (frame _ _)),
        ← leaf_entry_from_repeat vaddr k (by omega) _ _ final fun j below => agree j (by omega)]
      exact descend_some next

theorem leaf_entry_repeat (flag : VmFlag) (vaddr pgd index : ULong) (state final : Tables × Nat)
    (root : final.1 .pgd = (leafEntry (countedFillRead image) flag vaddr
      (readPgd (countedFillRead image) pgd index state)).2.1 .pgd)
    (agree : ∀ j ≤ flag.levels - 2, final.1 (lowerLevel j) = (leafEntry (countedFillRead image)
      flag vaddr (readPgd (countedFillRead image) pgd index state)).2.1 (lowerLevel j)) :
    leafEntry (countedFillRead image) flag vaddr (readPgd (countedFillRead image) pgd index final) =
      ((leafEntry (countedFillRead image) flag vaddr
        (readPgd (countedFillRead image) pgd index state)).1, final) := by
  have frame : ∀ table state, (leafEntryFrom (countedFillRead image) vaddr (flag.levels - 2)
      table state).2.1 .pgd = state.1 .pgd :=
    leaf_entry_from_frame vaddr _ fun j _ => lower_level_ne_pgd j
  simp only [leafEntry, readPgd] at root agree ⊢
  cases next : nextTable
      (countedFillRead image .pgd .kvaddr pgd (pageOffset (pgd + 8 * index)) state).1 with
  | none =>
    simp only [descend_none next] at root ⊢
    rw [counted_read_again root]
    exact descend_none next
  | some lower =>
    simp only [descend_some next] at root agree ⊢
    rw [counted_read_again (root.trans (frame _ _)),
      ← leaf_entry_from_repeat vaddr _ (flag_levels_sub_two flag) _ _ final agree]
    exact descend_some next

theorem vtop_repeat (flag : VmFlag) (pgd vaddr : ULong) (state : Tables × Nat) :
    riscv64Vtop (countedFillRead image) flag pgd vaddr
        (riscv64Vtop (countedFillRead image) flag pgd vaddr state).2 =
      riscv64Vtop (countedFillRead image) flag pgd vaddr state := by
  rw [vtop_eq_walk_from_pgd_block, vtop_eq_walk_from_pgd_block, decodeLeaf, decodeLeaf,
    leaf_entry_repeat flag vaddr pgd _ state _ rfl fun _ _ => rfl]

theorem dispatch_walk_repeat (env : TranslationEnv) (pgd vaddr : ULong) (state : Tables × Nat) :
    dispatchWalk env (countedFillRead image) pgd vaddr
        (dispatchWalk env (countedFillRead image) pgd vaddr state).2 =
      dispatchWalk env (countedFillRead image) pgd vaddr state := by
  unfold dispatchWalk
  split
  · rfl
  · simp only [vtop_repeat]

/-- A request served again right after itself is answered the same, and `FILL_X` reads
no page the second time: the buffers and the count of pages read stay as the first
serve left them. -/
theorem serve_again_reads_no_page (env : TranslationEnv) (request : Request) (tables : Tables)
    (reads : Nat) :
    (request.serve env (countedFillRead image)
        (request.serve env (countedFillRead image) (tables, reads)).2).1 =
        (request.serve env (countedFillRead image) (tables, reads)).1 ∧
      (request.serve env (countedFillRead image)
        (request.serve env (countedFillRead image) (tables, reads)).2).2.1 =
        (request.serve env (countedFillRead image) (tables, reads)).2.1 ∧
      (request.serve env (countedFillRead image)
        (request.serve env (countedFillRead image) (tables, reads)).2).2.2 =
        (request.serve env (countedFillRead image) (tables, reads)).2.2 := by
  rcases request_answers_or_walks env request with ⟨answer, plain⟩ | ⟨pgd, vaddr, walks⟩
  · simp only [plain, and_self]
  · simp only [walks, dispatch_walk_repeat, and_self]

end Repeat

/-- From the buffers `PRE_GDB` leaves, the first `kvtop` of `0x123` reads its three table
pages and the same request after it reads none. -/
example :
    (Request.serve vmallocWalkEnv (countedFillRead frameOneImage) (.kvtop 0x123 0 false)
        (riscv64InitTables fun _ _ => 0, 0)).2.2 = 3 ∧
      (Request.serve vmallocWalkEnv (countedFillRead frameOneImage) (.kvtop 0x123 0 false)
        (Request.serve vmallocWalkEnv (countedFillRead frameOneImage) (.kvtop 0x123 0 false)
          (riscv64InitTables fun _ _ => 0, 0)).2).2.2 = 3 := by
  decide

/-! ## Sessions from the buffers `PRE_GDB` leaves -/

/-- Every table page read afresh, with the address each `FILL_X` is asked for appended
to a record. -/
def tracedRead (image : Image) : TableRead (List ULong) := fun _ type addr offset pages =>
  (image.readPage type addr offset, pages ++ [addr])

/-- What `PRE_GDB` starts: every buffer keyed by a nonzero address holds the image's
page there, and a buffer keyed by 0 may hold anything. -/
def CoherentOffZero (image : Image) (tables : Tables) : Prop :=
  ∀ level, (tables level).lastRead ≠ 0 →
    (tables level).page = image.readPage (levelType level) (tables level).lastRead

theorem init_tables_coherent_off_zero (image : Image) (allocated : Level → ULong → ULong) :
    CoherentOffZero image (riscv64InitTables allocated) :=
  fun _ keyed => absurd rfl keyed

section Traced

variable {image : Image}

theorem leaf_entry_from_traced (vaddr : ULong) :
    ∀ k table pages, pages ++ [table] <+: (leafEntryFrom (tracedRead image) vaddr k table pages).2
  | 0, _, _ => List.prefix_refl _
  | k + 1, table, pages => by
    simp only [leafEntryFrom]
    cases next : nextTable (tracedRead image (lowerLevel (k + 1)) .physaddr table
        (8 * vpn vaddr (k + 1)) pages).1 with
    | none => rw [descend_none next]; exact List.prefix_refl _
    | some lower =>
      rw [descend_some next]
      exact (List.prefix_append _ _).trans (leaf_entry_from_traced vaddr k lower _)

theorem vtop_traced (flag : VmFlag) (pgd vaddr : ULong) (pages : List ULong) :
    pages ++ [pgd] <+: (riscv64Vtop (tracedRead image) flag pgd vaddr pages).2 := by
  rw [vtop_eq_walk_from_pgd_block]
  simp only [decodeLeaf, leafEntry, readPgd]
  cases next : nextTable (tracedRead image .pgd .kvaddr pgd
      (pageOffset (pgd + 8 * vpn vaddr (flag.levels - 1))) pages).1 with
  | none => rw [descend_none next]; exact List.prefix_refl _
  | some lower =>
    rw [descend_some next]
    exact (List.prefix_append _ _).trans (leaf_entry_from_traced vaddr _ lower _)

theorem dispatch_walk_traced (env : TranslationEnv) (pgd vaddr : ULong) (pages : List ULong) :
    pages <+: (dispatchWalk env (tracedRead image) pgd vaddr pages).2 := by
  unfold dispatchWalk
  split
  · exact List.prefix_refl _
  · exact (List.prefix_append _ _).trans (vtop_traced _ pgd vaddr pages)

theorem serve_request_traced (env : TranslationEnv) (request : Request) (pages : List ULong) :
    pages <+: (request.serve env (tracedRead image) pages).2 := by
  rcases request_answers_or_walks env request with ⟨answer, plain⟩ | ⟨pgd, vaddr, walks⟩
  · rw [plain]
  · rw [walks]
    exact dispatch_walk_traced env pgd vaddr pages

theorem serve_traced (env : TranslationEnv) :
    ∀ (requests : List Request) (pages : List ULong),
      pages <+: (serve env (tracedRead image) requests pages).2
  | [], _ => List.prefix_refl _
  | request :: rest, pages =>
    (serve_request_traced env request pages).trans (serve_traced env rest _)

end Traced

section OffZero

variable {image : Image}

theorem fill_read_off_zero {tables : Tables} (coherent : CoherentOffZero image tables)
    (level : Level) {addr : ULong} (nonzero : addr ≠ 0) (offset : ULong) :
    (fillRead image level (levelType level) addr offset tables).1 =
        (freshRead image level (levelType level) addr offset ()).1 ∧
      CoherentOffZero image (fillRead image level (levelType level) addr offset tables).2 := by
  simp only [fillRead, freshRead]
  unfold fill
  split
  · rename_i hit
    rw [hit] at nonzero
    exact ⟨by rw [coherent level nonzero, ← hit], coherent⟩
  · refine ⟨by simp, fun other keyed => ?_⟩
    by_cases same : other = level
    · subst same
      simp
    · simp only [Function.update_noteq same] at keyed ⊢
      exact coherent other keyed

/-- The step lemma over `descend`: the cached, fresh and recorded runs read the same
word, and whatever the rest does, so does the whole. -/
theorem descend_off_zero {cached : ULong × Tables} {fresh : ULong × Unit}
    {traced : ULong × List ULong} {restCached : ULong → Tables → Option ULong × Tables}
    {restFresh : ULong → Unit → Option ULong × Unit}
    {restTraced : ULong → List ULong → Option ULong × List ULong}
    (entry : cached.1 = fresh.1) (recorded : traced.1 = fresh.1)
    (coherent : CoherentOffZero image cached.2) (away : 0 ∉ (descend traced restTraced).2)
    (rest : ∀ table, 0 ∉ (restTraced table traced.2).2 →
      (restCached table cached.2).1 = (restFresh table ()).1 ∧
        CoherentOffZero image (restCached table cached.2).2) :
    (descend cached restCached).1 = (descend fresh restFresh).1 ∧
      CoherentOffZero image (descend cached restCached).2 := by
  cases next : nextTable fresh.1 with
  | none =>
    rw [descend_none (entry ▸ next), descend_none next]
    exact ⟨rfl, coherent⟩
  | some table =>
    rw [descend_some (entry ▸ next), descend_some next]
    rw [descend_some (recorded ▸ next)] at away
    exact rest table away

theorem leaf_entry_from_off_zero (vaddr : ULong) (k : Nat) :
    ∀ table tables pages, CoherentOffZero image tables →
      0 ∉ (leafEntryFrom (tracedRead image) vaddr k table pages).2 →
      (leafEntryFrom (fillRead image) vaddr k table tables).1 =
          (leafEntryFrom (freshRead image) vaddr k table ()).1 ∧
        CoherentOffZero image (leafEntryFrom (fillRead image) vaddr k table tables).2 := by
  induction k with
  | zero =>
    intro table tables pages coherent away
    have nonzero : table ≠ 0 := fun zero =>
      away (zero ▸ (leaf_entry_from_traced vaddr 0 table pages).subset (by simp))
    obtain ⟨word, after⟩ := fill_read_off_zero coherent .ptbl nonzero (8 * vpn vaddr 0)
    exact ⟨congrArg some word, after⟩
  | succ k induction =>
    intro table tables pages coherent away
    have nonzero : table ≠ 0 := fun zero =>
      away (zero ▸ (leaf_entry_from_traced vaddr (k + 1) table pages).subset (by simp))
    have read := fill_read_off_zero coherent (lowerLevel (k + 1)) nonzero (8 * vpn vaddr (k + 1))
    rw [level_type_lower] at read
    exact descend_off_zero read.1 rfl read.2 away fun lower away =>
      induction lower _ _ read.2 away

theorem vtop_off_zero {tables : Tables} (coherent : CoherentOffZero image tables) (flag : VmFlag)
    (pgd vaddr : ULong) (pages : List ULong)
    (away : 0 ∉ (riscv64Vtop (tracedRead image) flag pgd vaddr pages).2) :
    (riscv64Vtop (fillRead image) flag pgd vaddr tables).1 =
        (riscv64Vtop (freshRead image) flag pgd vaddr ()).1 ∧
      CoherentOffZero image (riscv64Vtop (fillRead image) flag pgd vaddr tables).2 := by
  have nonzero : pgd ≠ 0 := fun zero =>
    away (zero ▸ (vtop_traced flag pgd vaddr pages).subset (by simp))
  rw [vtop_eq_walk_from_pgd_block] at away ⊢
  rw [vtop_eq_walk_from_pgd_block]
  have root := fill_read_off_zero coherent .pgd nonzero
    (pageOffset (pgd + 8 * vpn vaddr (flag.levels - 1)))
  obtain ⟨same, after⟩ := descend_off_zero root.1 rfl root.2 away fun lower away =>
    leaf_entry_from_off_zero vaddr _ lower _ _ root.2 away
  exact ⟨congrArg (Option.bind · (leafPage · vaddr)) same, after⟩

theorem dispatch_walk_off_zero (env : TranslationEnv) {tables : Tables}
    (coherent : CoherentOffZero image tables) (pgd vaddr : ULong) (pages : List ULong)
    (away : 0 ∉ (dispatchWalk env (tracedRead image) pgd vaddr pages).2) :
    (dispatchWalk env (fillRead image) pgd vaddr tables).1 =
        (dispatchWalk env (freshRead image) pgd vaddr ()).1 ∧
      CoherentOffZero image (dispatchWalk env (fillRead image) pgd vaddr tables).2 := by
  unfold dispatchWalk at away ⊢
  split
  · exact ⟨rfl, coherent⟩
  · rename_i flag found
    simp only [found] at away
    obtain ⟨same, after⟩ := vtop_off_zero coherent flag pgd vaddr pages away
    exact ⟨by simp only [same], after⟩

theorem serve_request_off_zero (env : TranslationEnv) {tables : Tables}
    (coherent : CoherentOffZero image tables) (request : Request) (pages : List ULong)
    (away : 0 ∉ (request.serve env (tracedRead image) pages).2) :
    (request.serve env (fillRead image) tables).1 = (request.serve env (freshRead image) ()).1 ∧
      CoherentOffZero image (request.serve env (fillRead image) tables).2 := by
  rcases request_answers_or_walks env request with ⟨answer, plain⟩ | ⟨pgd, vaddr, walks⟩
  · exact ⟨by simp only [plain], by simpa only [plain] using coherent⟩
  · rw [walks] at away
    obtain ⟨same, after⟩ := dispatch_walk_off_zero env coherent pgd vaddr pages away
    simp only [walks]
    exact ⟨by rw [same], after⟩

/-- The run lemma: from buffers coherent off 0, a session that never asks `FILL_X` for
address 0 answers as the same session read afresh. -/
theorem serve_off_zero (env : TranslationEnv) :
    ∀ (requests : List Request) (tables : Tables) (pages : List ULong),
      CoherentOffZero image tables → 0 ∉ (serve env (tracedRead image) requests pages).2 →
      (serve env (fillRead image) requests tables).1 = (serve env (freshRead image) requests ()).1 ∧
        CoherentOffZero image (serve env (fillRead image) requests tables).2
  | [], _, _, coherent, _ => ⟨rfl, coherent⟩
  | request :: rest, tables, pages, coherent, away => by
    have restAway : 0 ∉ (serve env (tracedRead image) rest
        (request.serve env (tracedRead image) pages).2).2 := away
    have firstAway := fun zero => restAway ((serve_traced env rest _).subset zero)
    obtain ⟨first, after⟩ := serve_request_off_zero env coherent request pages firstAway
    obtain ⟨others, final⟩ := serve_off_zero env rest _ _ after restAway
    exact ⟨by simp only [serve, first, others], final⟩

theorem serve_init_tables_eq_fresh (env : TranslationEnv) (allocated : Level → ULong → ULong)
    (requests : List Request) (away : 0 ∉ (serve env (tracedRead image) requests []).2) :
    (serve env (fillRead image) requests (riscv64InitTables allocated)).1 =
      (serve env (freshRead image) requests ()).1 :=
  (serve_off_zero env requests _ [] (init_tables_coherent_off_zero image allocated) away).1

end OffZero

theorem walks_away_from_page_zero_answer_fresh :
    0 ∉ (serve vmallocWalkEnv (tracedRead frameOneImage)
        [.kvtop 0x123 0 false, .kvtop 0x7654321 0 true] []).2 ∧
      (serve vmallocWalkEnv (fillRead frameOneImage) [.kvtop 0x123 0 false, .kvtop 0x7654321 0 true]
          (riscv64InitTables fun _ _ => 0)).1 =
        (serve vmallocWalkEnv (freshRead frameOneImage)
          [.kvtop 0x123 0 false, .kvtop 0x7654321 0 true] ()).1 :=
  have away : 0 ∉ (serve vmallocWalkEnv (tracedRead frameOneImage)
      [.kvtop 0x123 0 false, .kvtop 0x7654321 0 true] []).2 := by
    decide
  ⟨away, serve_init_tables_eq_fresh vmallocWalkEnv _ _ away⟩

end CrashRiscv64.CacheRuns
