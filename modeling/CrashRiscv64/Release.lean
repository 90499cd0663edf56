import CrashRiscv64.Machine
import Mathlib.Data.List.GetD

/-!
# `riscv64_get_kernel_version`

The release string is copied into a `BUFSIZE`-byte stack buffer and cut at its
first two dots and at the end of the digits after them, each piece handed to
`atoi`. The buffer is explicit here: its bytes past the copy are whatever the
stack held, and an access at or past `BUFSIZE` has no defined result (`none`).
`BUFSIZE` is a parameter throughout.
-/

namespace CrashRiscv64.Release

open CrashRiscv64.Machine

set_option autoImplicit false

def nullChar : Char := '\x00'

/-- A C string as `read_vmcoreinfo` returns it: the bytes before its NUL. -/
structure CString where
  chars : List Char
  no_nul : nullChar ∉ chars

structure KernelVersion where
  major : BitVec 32
  minor : BitVec 32
  patch : BitVec 32
  deriving DecidableEq, Repr

/-- Modelled from the spec: `THIS_KERNEL_VERSION` of `defs.h`, the comparable
encoding `(major << 16) + (minor << 8) + patch` in `uint` arithmetic. -/
def thisKernelVersion (version : KernelVersion) : ULong :=
  ((version.major <<< 16) + (version.minor <<< 8) + version.patch).zeroExtend 64

/-! ## `atoi` -/

def isSpace (c : Char) : Bool :=
  c = ' ' || c = '\t' || c = '\n' || c = '\x0b' || c = '\x0c' || c = '\r'

def decimalValue (digits : List Char) : Nat :=
  digits.foldl (fun value digit => 10 * value + (digit.toNat - '0'.toNat)) 0

def takeSign : List Char → Bool × List Char
  | '-' :: rest => (true, rest)
  | '+' :: rest => (false, rest)
  | rest => (false, rest)

/-- `atoi` on a C string: `(int) strtol(s, NULL, 10)`, which skips blanks, takes
a sign and the digits after it, saturates at the `long` range and truncates to
`int`; the `uint` it is stored in keeps the same 32 bits. -/
def atoi (chars : List Char) : BitVec 32 :=
  let signed := takeSign (chars.dropWhile isSpace)
  let magnitude : Int := decimalValue (signed.2.takeWhile Char.isDigit)
  let value := if signed.1 then -magnitude else magnitude
  BitVec.ofInt 32 (max (-2 ^ 63) (min (2 ^ 63 - 1) value))

/-- `strtol(s, NULL, 10)` on a C string: skip blanks, take a sign and the digits after
it, and saturate at the `long` range. -/
def strtol (chars : List Char) : Int :=
  let signed := takeSign (chars.dropWhile isSpace)
  let magnitude : Int := decimalValue (signed.2.takeWhile Char.isDigit)
  let value := if signed.1 then -magnitude else magnitude
  max (-2 ^ 63) (min (2 ^ 63 - 1) value)

/-- `atol`: the `long` `strtol` returns, kept in a `ulong` field. -/
def atol (chars : List Char) : ULong := BitVec.ofInt 64 (strtol chars)

theorem atoi_eq_strtol (chars : List Char) : atoi chars = BitVec.ofInt 32 (strtol chars) := rfl

/-! ## The buffer -/

section Buffer

variable (bufsize : Nat)

/-- `strcpy(buf, string)`: the string and its NUL over the first bytes of `buf`,
or `none` when they do not fit in `BUFSIZE` bytes. -/
def strcpy (buf : Nat → Char) (string : CString) : Option (Nat → Char) :=
  if string.chars.length < bufsize then
    some fun index => if index ≤ string.chars.length then string.chars.getD index nullChar
      else buf index
  else none

def scanFrom (cond : Char → Bool) (buf : Nat → Char) : (remaining p2 : Nat) → Option Nat
  | 0, _ => none
  | remaining + 1, p2 => if cond (buf p2) then scanFrom cond buf remaining (p2 + 1) else some p2

/-- `while (cond(*p2)) p2++;` in `buf`: where `p2` stops, or `none` for a read at or
past `BUFSIZE`. -/
def scanWhile (cond : Char → Bool) (buf : Nat → Char) (p2 : Nat) : Option Nat :=
  scanFrom cond buf (bufsize - p2) p2

def cStringAt (buf : Nat → Char) (p1 : Nat) : Option (List Char) :=
  (scanWhile bufsize (· ≠ nullChar) buf p1).map fun nul =>
    (List.range (nul - p1)).map fun offset => buf (p1 + offset)

def cut (buf : Nat → Char) (p2 : Nat) : Nat → Char := Function.update buf p2 nullChar

structure ReleaseScan where
  firstDot : Nat
  secondDot : Nat
  digitsEnd : Nat
  deriving DecidableEq, Repr

/-- The body under `if (string)`: copy, three scans, three `atoi`s. `stack` is what
`buf` held before the copy. -/
def parseOsrelease (stack : Nat → Char) (string : CString) :
    Option (ReleaseScan × KernelVersion) := do
  let buf ← strcpy bufsize stack string
  let firstDot ← scanWhile bufsize (· ≠ '.') buf 0
  let buf := cut buf firstDot
  let major := atoi (← cStringAt bufsize buf 0)
  let secondDot ← scanWhile bufsize (· ≠ '.') buf (firstDot + 1)
  let buf := cut buf secondDot
  let minor := atoi (← cStringAt bufsize buf (firstDot + 1))
  let digitsEnd ← scanWhile bufsize Char.isDigit buf (secondDot + 1)
  let buf := cut buf digitsEnd
  let patch := atoi (← cStringAt bufsize buf (secondDot + 1))
  pure (⟨firstDot, secondDot, digitsEnd⟩, ⟨major, minor, patch⟩)

/-- `riscv64_get_kernel_version`: the new `kt->kernel_version` and the value
returned, from the current one and `read_vmcoreinfo("OSRELEASE")`. -/
def riscv64GetKernelVersion (stack : Nat → Char) (osrelease : Option CString)
    (current : KernelVersion) : Option (KernelVersion × ULong) :=
  if thisKernelVersion current ≠ 0 then some (current, thisKernelVersion current)
  else
    match osrelease with
    | none => some (current, thisKernelVersion current)
    | some string =>
      (parseOsrelease bufsize stack string).map fun parsed =>
        (parsed.2, thisKernelVersion parsed.2)

end Buffer

/-! ## The buffer, window by window -/

def Window (buf : Nat → Char) : Nat → List Char → Prop
  | _, [] => True
  | p, c :: rest => buf p = c ∧ Window buf (p + 1) rest

theorem window_append (buf : Nat → Char) (first second : List Char) :
    ∀ p, Window buf p (first ++ second) ↔ Window buf p first ∧ Window buf (p + first.length) second := by
  induction first with
  | nil => simp [Window]
  | cons c first induction =>
    intro p
    show (buf p = c ∧ Window buf (p + 1) (first ++ second)) ↔
      (buf p = c ∧ Window buf (p + 1) first) ∧ Window buf (p + (first.length + 1)) second
    rw [induction, and_assoc, show p + (first.length + 1) = p + 1 + first.length by omega]

theorem window_cut {buf : Nat → Char} {q : Nat} :
    ∀ {p : Nat} {chars : List Char}, Window buf p chars → (q < p ∨ p + chars.length ≤ q) →
      Window (cut buf q) p chars
  | _, [], _, _ => trivial
  | p, c :: rest, ⟨here, later⟩, outside => by
    refine ⟨?_, window_cut later ?_⟩
    · rw [cut, Function.update_noteq (by simp at outside; omega), here]
    · simp only [List.length_cons] at outside; omega

theorem window_cut_here (buf : Nat → Char) (q : Nat) : Window (cut buf q) q [nullChar] := by
  simp [Window, cut]

theorem window_of_get_d {buf : Nat → Char} :
    ∀ {p : Nat} {chars : List Char}, (∀ k < chars.length, buf (p + k) = chars.getD k nullChar) →
      Window buf p chars
  | _, [], _ => trivial
  | p, c :: rest, agree =>
    ⟨agree 0 (Nat.succ_pos _), window_of_get_d fun k bound => by
      rw [show p + 1 + k = p + (k + 1) by omega]
      exact agree (k + 1) (Nat.succ_lt_succ bound)⟩

theorem window_range_map {buf : Nat → Char} :
    ∀ {p : Nat} {chars : List Char}, Window buf p chars →
      (List.range chars.length).map (fun offset => buf (p + offset)) = chars
  | _, [], _ => rfl
  | p, c :: rest, ⟨here, later⟩ => by
    rw [List.length_cons, List.range_succ_eq_map, List.map_cons, List.map_map, Nat.add_zero, here]
    refine congrArg (c :: ·) (Eq.trans (List.map_congr_left fun offset _ => ?_)
      (window_range_map later))
    simp only [Function.comp, Nat.succ_eq_add_one]
    rw [Nat.add_comm offset 1, Nat.add_assoc]

theorem window_tail {buf : Nat → Char} {p : Nat} {first second : List Char}
    (window : Window buf p (first ++ second)) : Window buf (p + first.length) second :=
  ((window_append buf first second p).mp window).2

theorem window_head {buf : Nat → Char} {p : Nat} {first second : List Char}
    (window : Window buf p (first ++ second)) : Window buf p first :=
  ((window_append buf first second p).mp window).1

section Scans

variable (bufsize : Nat)

theorem scan_while_step (cond : Char → Bool) (buf : Nat → Char) {p2 : Nat} (inside : p2 < bufsize) :
    scanWhile bufsize cond buf p2 =
      if cond (buf p2) then scanWhile bufsize cond buf (p2 + 1) else some p2 := by
  obtain ⟨remaining, split⟩ : ∃ remaining, bufsize - p2 = remaining + 1 := ⟨bufsize - p2 - 1, by omega⟩
  rw [scanWhile, split, scanFrom, scanWhile, show bufsize - (p2 + 1) = remaining by omega]

theorem scan_window (cond : Char → Bool) {buf : Nat → Char} {stop : Char} (stops : ¬cond stop) :
    ∀ {p : Nat} {chars : List Char}, Window buf p (chars ++ [stop]) → (∀ c ∈ chars, cond c) →
      p + chars.length < bufsize → scanWhile bufsize cond buf p = some (p + chars.length)
  | p, [], ⟨here, _⟩, _, inside => by
    rw [scan_while_step bufsize cond buf (show p < bufsize from inside), here, if_neg stops]
    rfl
  | p, c :: rest, ⟨here, later⟩, passes, inside => by
    simp only [List.length_cons] at inside
    rw [scan_while_step bufsize cond buf (by omega), here, if_pos (passes c (.head rest)),
      scan_window cond stops later (fun c member => passes c (.tail _ member)) (by omega)]
    exact congrArg some (by simp only [List.length_cons]; omega)

theorem strcpy_fits (stack : Nat → Char) (string : CString) (fits : string.chars.length < bufsize) :
    ∃ buf, strcpy bufsize stack string = some buf ∧ Window buf 0 (string.chars ++ [nullChar]) := by
  refine ⟨_, if_pos fits, window_of_get_d fun k bound => ?_⟩
  simp only [List.length_append, List.length_singleton] at bound
  simp only [Nat.zero_add, if_pos (Nat.lt_succ_iff.mp bound)]
  rcases Nat.lt_succ_iff_lt_or_eq.mp bound with inside | last
  · rw [List.getD_append _ _ _ _ inside]
  · subst last
    rw [List.getD_append_right _ _ _ _ le_rfl, Nat.sub_self, List.getD_eq_default _ _ le_rfl]
    rfl

theorem parse_osrelease_long (stack : Nat → Char) (string : CString)
    (long : ¬string.chars.length < bufsize) : parseOsrelease bufsize stack string = none := by
  rw [parseOsrelease, strcpy, if_neg long]
  rfl

theorem c_string_at_window {buf : Nat → Char} {p : Nat} {chars : List Char}
    (window : Window buf p (chars ++ [nullChar])) (noNul : nullChar ∉ chars)
    (inside : p + chars.length < bufsize) : cStringAt bufsize buf p = some chars := by
  have scanned := scan_window bufsize (· ≠ nullChar) (by simp) window
    (fun c member => by simp only [decide_eq_true_eq]; rintro rfl; exact noNul member) inside
  rw [cStringAt, scanned, Option.map_some', Nat.add_sub_cancel_left,
    window_range_map ((window_append buf chars [nullChar] p).mp window).1]

/-- One piece of the release string: the scan stops at its end and, once that
byte is cut to NUL, `atoi` reads exactly the piece. -/
theorem segment_parse (cond : Char → Bool) {buf : Nat → Char} {p : Nat} {chars : List Char}
    {stop : Char} (window : Window buf p (chars ++ [stop])) (passes : ∀ c ∈ chars, cond c)
    (stops : ¬cond stop) (noNul : nullChar ∉ chars) (inside : p + chars.length < bufsize) :
    scanWhile bufsize cond buf p = some (p + chars.length) ∧
      cStringAt bufsize (cut buf (p + chars.length)) p = some chars := by
  refine ⟨scan_window bufsize cond stops window passes inside, c_string_at_window bufsize ?_ noNul inside⟩
  rw [window_append] at window ⊢
  exact ⟨window_cut window.1 (.inr le_rfl), window_cut_here _ _⟩

/-- A release string with two dots is cut at them and at the end of the digits
after the second, inside the copy, and each piece goes to `atoi`. -/
theorem parse_osrelease_dots (stack : Nat → Char) (string : CString) {major minor rest : List Char}
    (shape : string.chars = major ++ '.' :: (minor ++ '.' :: rest))
    (majorDots : '.' ∉ major) (minorDots : '.' ∉ minor) (fits : string.chars.length < bufsize) :
    parseOsrelease bufsize stack string =
      some (⟨major.length, major.length + 1 + minor.length,
          major.length + 1 + minor.length + 1 + (rest.takeWhile Char.isDigit).length⟩,
        ⟨atoi major, atoi minor, atoi (rest.takeWhile Char.isDigit)⟩) := by
  obtain ⟨buf, copied, window⟩ := strcpy_fits bufsize stack string fits
  have noNul := string.no_nul
  rw [shape] at window noNul fits
  simp only [List.length_append, List.length_cons] at fits
  rw [List.append_assoc, List.cons_append, List.append_assoc, List.cons_append] at window
  obtain ⟨stop, more, afterShape, stopDigit⟩ : ∃ stop more,
      rest.dropWhile Char.isDigit ++ [nullChar] = stop :: more ∧ stop.isDigit = false := by
    cases found : rest.dropWhile Char.isDigit with
    | nil => exact ⟨nullChar, [], rfl, rfl⟩
    | cons c more =>
      refine ⟨c, more ++ [nullChar], rfl, ?_⟩
      simpa [found] using List.head_dropWhile_not Char.isDigit rest (by simp [found])
  have restWindow : Window buf (major.length + 1 + minor.length + 1)
      (rest.takeWhile Char.isDigit ++ stop :: more) := by
    rw [← afterShape, ← List.append_assoc, List.takeWhile_append_dropWhile]
    have := (window_tail (window_tail window).2).2
    rwa [Nat.zero_add] at this
  have firstWindow : Window buf 0 (major ++ ['.']) :=
    (window_append _ _ _ _).mpr ⟨window_head window, (window_tail window).1, trivial⟩
  have secondWindow : Window buf (major.length + 1) (minor ++ ['.']) := by
    have := (window_tail window).2
    rw [Nat.zero_add] at this
    exact (window_append _ _ _ _).mpr ⟨window_head this, (window_tail this).1, trivial⟩
  have thirdWindow : Window buf (major.length + 1 + minor.length + 1)
      (rest.takeWhile Char.isDigit ++ [stop]) :=
    (window_append _ _ _ _).mpr ⟨window_head restWindow, (window_tail restWindow).1, trivial⟩
  have digitsShort := (List.takeWhile_prefix Char.isDigit (l := rest)).length_le
  obtain ⟨scan1, text1⟩ := segment_parse bufsize (· ≠ '.') firstWindow
    (fun c member => by simp only [ne_eq, decide_eq_true_eq]; rintro rfl; exact majorDots member)
    (by simp) (fun member => noNul (List.mem_append_left _ member)) (by omega)
  obtain ⟨scan2, text2⟩ := segment_parse bufsize (· ≠ '.')
    (window_cut (q := major.length) secondWindow (.inl (by omega)))
    (fun c member => by simp only [ne_eq, decide_eq_true_eq]; rintro rfl; exact minorDots member)
    (by simp) (fun member => noNul (by simp [member])) (by omega)
  obtain ⟨scan3, text3⟩ := segment_parse bufsize Char.isDigit
    (window_cut (q := major.length + 1 + minor.length)
      (window_cut (q := major.length) thirdWindow (.inl (by omega))) (.inl (by omega)))
    (fun c member => List.mem_takeWhile_imp member) (by simp [stopDigit])
    (fun member => noNul (by simp [List.takeWhile_subset _ member])) (by omega)
  rw [Nat.zero_add] at scan1 text1
  rw [parseOsrelease, copied]
  dsimp only [Option.bind_eq_bind, Option.some_bind]
  rw [scan1]; dsimp only [Option.some_bind]
  rw [text1]; dsimp only [Option.some_bind]
  rw [scan2]; dsimp only [Option.some_bind]
  rw [text2]; dsimp only [Option.some_bind]
  rw [scan3]; dsimp only [Option.some_bind]
  rw [text3]
  rfl

end Scans

/-! ## `atoi` of digits -/

theorem digit_not_space {c : Char} (digit : c.isDigit) : isSpace c = false := by
  refine Bool.eq_false_iff.mpr fun space => ?_
  simp only [isSpace, Bool.or_eq_true, decide_eq_true_eq] at space
  rcases space with ((((rfl | rfl) | rfl) | rfl) | rfl) | rfl <;> simp at digit

theorem take_sign_digit {c : Char} (digit : c.isDigit) (more : List Char) :
    takeSign (c :: more) = (false, c :: more) := by
  unfold takeSign
  split <;> simp_all

theorem atoi_digits {digits : List Char} (allDigits : ∀ c ∈ digits, c.isDigit)
    (small : decimalValue digits < 2 ^ 31) : atoi digits = BitVec.ofNat 32 (decimalValue digits) := by
  have signed : takeSign (digits.dropWhile isSpace) = (false, digits) := by
    cases digits with
    | nil => rfl
    | cons c more =>
      have digit := allDigits c (List.mem_cons_self _ _)
      rw [List.dropWhile_cons_of_neg (by simp [digit_not_space digit]), take_sign_digit digit]
  simp only [atoi, signed, List.takeWhile_eq_self_iff.mpr allDigits, Bool.false_eq_true, if_false]
  rw [min_eq_right (by omega), max_eq_right (by omega), BitVec.ofInt_natCast]

/-! ## Release strings -/

theorem take_digits {patch rest : List Char} (patchDigits : ∀ c ∈ patch, c.isDigit)
    (restStart : ∀ c ∈ rest.head?, c.isDigit = false) :
    (patch ++ rest).takeWhile Char.isDigit = patch := by
  rw [List.takeWhile_append_of_pos patchDigits]
  cases rest with
  | nil => simp
  | cons c more => simp [restStart c rfl]

theorem digits_no_dot {digits : List Char} (allDigits : ∀ c ∈ digits, c.isDigit) : '.' ∉ digits :=
  fun member => absurd (allDigits '.' member) (by decide)

/-- A release string `A.B.C` followed by a suffix `r`: `5.17.0-rc1`. -/
def rcRelease : CString := ⟨"5.17.0-rc1".toList, by decide⟩

/-- With no version known yet, a release string `A.B.C r` that fits in `buf`, with
`A`, `B`, `C` decimal numbers fitting in an `int` and `r` not starting with a
digit, sets `kt->kernel_version` to `(A, B, C)` and returns its encoding. -/
theorem get_kernel_version_release (bufsize : Nat) (stack : Nat → Char) (string : CString)
    (current : KernelVersion) {major minor patch rest : List Char}
    (shape : string.chars = major ++ '.' :: (minor ++ '.' :: (patch ++ rest)))
    (majorDigits : ∀ c ∈ major, c.isDigit) (minorDigits : ∀ c ∈ minor, c.isDigit)
    (patchDigits : ∀ c ∈ patch, c.isDigit) (majorInt : decimalValue major < 2 ^ 31)
    (minorInt : decimalValue minor < 2 ^ 31) (patchInt : decimalValue patch < 2 ^ 31)
    (restStart : ∀ c ∈ rest.head?, c.isDigit = false) (unknown : thisKernelVersion current = 0)
    (fits : string.chars.length < bufsize) :
    riscv64GetKernelVersion bufsize stack (some string) current =
      some (⟨.ofNat 32 (decimalValue major), .ofNat 32 (decimalValue minor),
          .ofNat 32 (decimalValue patch)⟩,
        thisKernelVersion ⟨.ofNat 32 (decimalValue major), .ofNat 32 (decimalValue minor),
          .ofNat 32 (decimalValue patch)⟩) := by
  have parsed := parse_osrelease_dots bufsize stack string shape (digits_no_dot majorDigits)
    (digits_no_dot minorDigits) fits
  rw [take_digits patchDigits restStart, atoi_digits majorDigits majorInt,
    atoi_digits minorDigits minorInt, atoi_digits patchDigits patchInt] at parsed
  simp only [riscv64GetKernelVersion, unknown, ne_eq, not_true_eq_false, if_false, parsed,
    Option.map_some']

theorem rc_release_version :
    riscv64GetKernelVersion 64 (fun _ => nullChar) (some rcRelease) ⟨0, 0, 0⟩ =
      some (⟨.ofNat 32 (decimalValue ['5']), .ofNat 32 (decimalValue ['1', '7']),
          .ofNat 32 (decimalValue ['0'])⟩,
        thisKernelVersion ⟨.ofNat 32 (decimalValue ['5']), .ofNat 32 (decimalValue ['1', '7']),
          .ofNat 32 (decimalValue ['0'])⟩) :=
  get_kernel_version_release 64 (fun _ => nullChar) rcRelease ⟨0, 0, 0⟩
    (show rcRelease.chars = ['5'] ++ '.' :: (['1', '7'] ++ '.' :: (['0'] ++ "-rc1".toList))
      from rfl)
    (by decide) (by decide) (by decide) (by decide) (by decide) (by decide) (by decide) (by decide)
    (by decide)

def paddedRelease (n : Nat) : CString :=
  ⟨"5.17.0".toList ++ List.replicate n 'x', by simp [nullChar]⟩

/-- A release string `A.B.C` followed by a suffix `r`, at least `BUFSIZE` bytes long,
has no defined result: `strcpy` writes past `buf`. -/
theorem padded_release_overflows (bufsize : Nat) :
    riscv64GetKernelVersion bufsize (fun _ => nullChar) (some (paddedRelease bufsize))
      ⟨0, 0, 0⟩ = none := by
  have long : ¬(paddedRelease bufsize).chars.length < bufsize := by simp [paddedRelease]; omega
  have unknown : thisKernelVersion ⟨0, 0, 0⟩ = 0 := by decide
  simp only [riscv64GetKernelVersion, unknown, ne_eq, not_true_eq_false, if_false,
    parse_osrelease_long bufsize _ _ long, Option.map_none']

theorem padded_release_overflows_buf :
    riscv64GetKernelVersion 1500 (fun _ => nullChar) (some (paddedRelease 1500)) ⟨0, 0, 0⟩ =
      none :=
  padded_release_overflows 1500

end CrashRiscv64.Release
