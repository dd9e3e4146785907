import Mathlib.Data.List.Basic
import Mathlib.Logic.Function.Basic

/-!
# The env file

`loadEnvFile` of `internal/config`, which `Load` runs on the file named by `--env-file`, or on
`.env` when there is one. `bufio.Scanner` cuts the file into lines; each is trimmed by
`strings.TrimSpace`; a blank line or a `#` comment is skipped; any other line must hold a `=`, and
is split at the first one into a key and a value, both trimmed, the value losing one pair of
matching quotes. The variable is set with `os.Setenv` only when `os.Getenv` reads it as empty. The
loop stops at the first line it cannot use and returns its error, and what the lines before it set
stays set. When the loop has run out of lines, `scanner.Err()` is the result: the scanner stops at
a line of 64 KiB or more (`scanLines`), which its buffer cannot hold, and the file then ends in
`token too long` with the lines before it handled.

A Go string is modelled by the characters it holds, and a line's size by their UTF-8 bytes. The
environment is the value of each variable that is set. `os.Getenv` and `os.Setenv` are Go's Unix
implementations: the empty key reads as `""`, and `Setenv` refuses an empty key, a key with `=` or
a NUL, and a value with a NUL. The errors of opening or reading the file are left out.

`loadEnvFile_spec` says what a run does, for every file and environment: it processes a prefix of
the lines the scanner returns, after which every variable holds the first non-empty value the
file gave it unless it already read as non-empty, and then it either has read every line, or the
scanner stopped at a line too long, or the loop stopped at the next line with that line's error.
So a variable that reads as non-empty is never changed, a later line does not override an earlier
one, and a bad line leaves what the lines before it set. Loading the file again, into the
environment the first load left, changes nothing and returns the same error
(`loadEnvFile_idempotent`): each line the run handled is `Settled`, and later lines keep it so.
A line `KEY="value"` shorter than 64 KiB sets exactly `value`, white space, quotes, `=` and `#`
included (`loadEnvFile_quoted`).
-/

namespace MatterServer.Config

/-! ## Lines -/

/-- `unicode.IsSpace`: the Latin-1 spaces `\t`, `\n`, `\v`, `\f`, `\r`, space, U+0085 and U+00A0,
and above them the `White_Space` characters of Unicode. -/
def isSpace (c : Char) : Bool :=
  let n := c.toNat
  (9 ≤ n && n ≤ 13) || n == 0x20 || n == 0x85 || n == 0xA0 || n == 0x1680 ||
    (0x2000 ≤ n && n ≤ 0x200A) || n == 0x2028 || n == 0x2029 || n == 0x202F || n == 0x205F ||
    n == 0x3000

/-- `strings.TrimSpace`: the white space at either end removed. -/
def trimSpace (s : List Char) : List Char :=
  ((s.dropWhile isSpace).reverse.dropWhile isSpace).reverse

/-- `dropCR`: a carriage return that ends a line is dropped. -/
def dropCR (line : List Char) : List Char :=
  if line.getLast? = some '\r' then line.dropLast else line

/-- `bufio.ScanLines`'s cuts, from the line whose characters so far are `cur`, reversed: a line at
each line feed, and at the end a last line without one unless it is empty. A line is as the
scanner buffers it, before `dropCR`. -/
def splitLinesFrom (cur : List Char) : List Char → List (List Char)
  | [] => if cur = [] then [] else [cur.reverse]
  | c :: text =>
    if c = '\n' then cur.reverse :: splitLinesFrom [] text
    else splitLinesFrom (c :: cur) text

/-- `bufio.MaxScanTokenSize`: the scanner's buffer holds at most this many bytes of a line. -/
def maxScanTokenSize : Nat := 64 * 1024

/-- The bytes of a line: the UTF-8 size of each of its characters. -/
def byteLength : List Char → Nat
  | [] => 0
  | c :: line => c.utf8Size + byteLength line

/-- `scanner.Scan()` called until it returns `false`, on the file `text`: the lines it returns, each
without the `\r` before its line feed, and whether it stopped with `bufio.ErrTooLong`. A line of
`maxScanTokenSize` bytes or more fills the buffer before its line feed: the scanner stops there and
returns no later line. -/
def scanLines (text : List Char) : List (List Char) × Bool :=
  let lines := splitLinesFrom [] text
  ((lines.takeWhile fun l => byteLength l < maxScanTokenSize).map dropCR,
    lines.any fun l => maxScanTokenSize ≤ byteLength l)

/-- A scanner that meets no line too long returns every line of the file. -/
theorem scanLines_of_short {text : List Char} (h : (scanLines text).2 = false) :
    (scanLines text).1 = (splitLinesFrom [] text).map dropCR := by
  simp only [scanLines, List.any_eq_false, decide_eq_true_eq, not_le] at h ⊢
  rw [List.takeWhile_eq_self_iff.mpr fun l hl => decide_eq_true (h l hl)]

/-- `strings.SplitN(line, "=", 2)` when it returns two parts: what stands before the first `=`,
and what follows it. -/
def splitFirstEq : List Char → Option (List Char × List Char)
  | [] => none
  | c :: cs => if c = '=' then some ([], cs) else (splitFirstEq cs).map fun p => (c :: p.1, p.2)

/-- The quote stripping: a value of at least two bytes that starts and ends with `"`, or starts
and ends with `'`, loses both. Those bytes are ASCII characters, so counting characters gives the
same test. -/
def stripQuotes (value : List Char) : List Char :=
  if 2 ≤ value.length ∧ (value.head? = some '"' ∧ value.getLast? = some '"' ∨
      value.head? = some '\'' ∧ value.getLast? = some '\'') then (value.drop 1).dropLast
  else value

/-- What the loop makes of a scanned line: nothing (empty once trimmed, or a comment), an
assignment, or a line without `=`. -/
inductive Line
  | skip
  | assign (key value : String)
  | invalid
  deriving DecidableEq

/-- The line as the loop reads it: trimmed, then skipped, split at the first `=` with both sides
trimmed and the value unquoted, or invalid. -/
def parseLine (raw : List Char) : Line :=
  let line := trimSpace raw
  if line = [] ∨ line.head? = some '#' then .skip
  else
    match splitFirstEq line with
    | none => .invalid
    | some (k, v) => .assign ⟨trimSpace k⟩ ⟨stripQuotes (trimSpace v)⟩

/-! ## The environment -/

/-- The process environment: the value of each variable that is set. -/
abbrev Env := String → Option String

/-- What `os.Getenv(key)` returns when the variable holds `value`: `""` for the empty key and
for a variable that is not set. -/
def readValue (key : String) (value : Option String) : String :=
  if key = "" then "" else value.getD ""

/-- `os.Getenv(key)`. -/
def getenv (env : Env) (key : String) : String := readValue key (env key)

/-- `os.Setenv(key, value)`: `EINVAL` for an empty key, a key with `=` or a NUL, or a value with
a NUL; otherwise the variable is set. -/
def setenv (env : Env) (key value : String) : Option Env :=
  if key = "" ∨ '=' ∈ key.data ∨ '\x00' ∈ key.data ∨ '\x00' ∈ value.data then none
  else some (Function.update env key (some value))

/-- The errors of `loadEnvFile`'s loop. -/
inductive EnvFileError
  /-- A line with no `=`: its number and its trimmed text. -/
  | invalidLine (lineNum : Nat) (line : String)
  /-- A key `os.Setenv` refuses. -/
  | setenvFailed (key : String)
  /-- `scanner.Err()` after the scanner met a line too long for its buffer. -/
  | tokenTooLong
  deriving DecidableEq

/-- The error's text, as `fmt.Errorf` writes it; `os.Setenv`'s own error reads
`setenv: invalid argument`. -/
def EnvFileError.message : EnvFileError → String
  | .invalidLine lineNum line => "invalid line " ++ toString lineNum ++ ": " ++ line
  | .setenvFailed key =>
    "failed to set environment variable " ++ key ++ ": setenv: invalid argument"
  | .tokenTooLong => "error reading file: bufio.Scanner: token too long"

/-- One pass of `loadEnvFile`'s loop, on the line numbered `lineNum`. -/
def processLine (env : Env) (lineNum : Nat) (raw : List Char) : Except EnvFileError Env :=
  match parseLine raw with
  | .skip => .ok env
  | .invalid => .error (.invalidLine lineNum ⟨trimSpace raw⟩)
  | .assign key value =>
    if getenv env key = "" then
      match setenv env key value with
      | some env' => .ok env'
      | none => .error (.setenvFailed key)
    else .ok env

/-- The loop over the lines numbered from `n + 1` on: the environment it leaves, and the error that
stopped it if one did. -/
def loadLines (env : Env) (n : Nat) : List (List Char) → Env × Option EnvFileError
  | [] => (env, none)
  | raw :: lines =>
    match processLine env (n + 1) raw with
    | .ok env' => loadLines env' (n + 1) lines
    | .error e => (env, some e)

/-- `loadEnvFile` on a file whose contents are `text`: the loop over the lines the scanner returns,
then `scanner.Err()`; the environment it leaves, and its error. -/
def loadEnvFile (text : String) (env : Env) : Env × Option EnvFileError :=
  let scan := scanLines text.data
  let run := loadLines env 0 scan.1
  (run.1, run.2.or (if scan.2 then some .tokenTooLong else none))

/-! ## One line at a time -/

/-- `Setenv` succeeds on a nonempty key, and sets that variable alone. -/
theorem setenv_eq_some {env env' : Env} {key value : String}
    (h : setenv env key value = some env') :
    key ≠ "" ∧ env' = Function.update env key (some value) := by
  unfold setenv at h
  split at h
  · cases h
  · rename_i hv
    exact ⟨fun hk => hv (.inl hk), (Option.some.inj h).symm⟩

/-- A pass of the loop that goes on: a skipped line, an assignment to a variable that does not
read as empty, or one that `Setenv` performs. -/
theorem processLine_eq_ok {env env' : Env} {n : Nat} {raw : List Char} :
    processLine env n raw = .ok env' ↔
      parseLine raw = .skip ∧ env' = env ∨
      ∃ key value, parseLine raw = .assign key value ∧
        (getenv env key ≠ "" ∧ env' = env ∨
          getenv env key = "" ∧ setenv env key value = some env') := by
  unfold processLine
  cases hp : parseLine raw with
  | skip => simp [eq_comm]
  | invalid => simp
  | assign key value =>
    simp only [reduceCtorEq, false_and, false_or, Line.assign.injEq, and_assoc, exists_and_left,
      exists_eq_left', ne_eq]
    by_cases hg : getenv env key = ""
    · cases hs : setenv env key value <;> simp [hg, hs]
    · simp [hg, eq_comm]

/-- A pass of the loop that stops it: a line without `=`, or an assignment that `Setenv` refuses
to a variable that reads as empty. -/
theorem processLine_eq_error {env : Env} {n : Nat} {raw : List Char} {e : EnvFileError} :
    processLine env n raw = .error e ↔
      parseLine raw = .invalid ∧ e = .invalidLine n ⟨trimSpace raw⟩ ∨
      ∃ key value, parseLine raw = .assign key value ∧ getenv env key = "" ∧
        setenv env key value = none ∧ e = .setenvFailed key := by
  unfold processLine
  cases hp : parseLine raw with
  | skip => simp
  | invalid => simp [eq_comm]
  | assign key value =>
    simp only [reduceCtorEq, false_and, false_or, Line.assign.injEq, and_assoc, exists_and_left,
      exists_eq_left']
    by_cases hg : getenv env key = ""
    · cases hs : setenv env key value <;> simp [hg, hs, eq_comm]
    · simp [hg]

/-! ## What a run sets -/

/-- The values the line `raw` assigns to `key`: one, or none. -/
def lineValues (raw : List Char) (key : String) : List String :=
  match parseLine raw with
  | .assign k v => if k = key then [v] else []
  | _ => []

/-- The values the lines assign to `key`, in order. -/
def assigned (lines : List (List Char)) (key : String) : List String :=
  lines.flatMap fun raw => lineValues raw key

/-- The value a variable that held `old` ends with after the assignments `values` to it: `old`
if it read as non-empty, and otherwise the first non-empty value assigned, or `""` if every one
was empty. -/
def firstValue (key : String) (old : Option String) (values : List String) : Option String :=
  if readValue key old ≠ "" then old
  else
    match values.find? (· != "") with
    | some v => some v
    | none => if values = [] then old else some ""

theorem firstValue_nil (key : String) (old : Option String) : firstValue key old [] = old := by
  unfold firstValue
  split <;> simp

/-- Assigning `v` to a variable that reads as empty. -/
theorem firstValue_assign {key : String} {old : Option String} (hk : key ≠ "")
    (he : readValue key old = "") (v : String) (values : List String) :
    firstValue key (some v) values = firstValue key old (v :: values) := by
  have hr : readValue key (some v) = v := by simp [readValue, hk]
  by_cases hv : v = ""
  · subst hv
    simp only [firstValue, hr, he, ne_eq, not_true_eq_false, if_false, List.find?_cons,
      bne_self_eq_false]
    cases values.find? (· != "") <;> simp
  · simp [firstValue, hr, he, hv]

/-- One pass of the loop is one more assignment to the variable it sets, and none to the
others. -/
theorem firstValue_processLine {env env' : Env} {n : Nat} {raw : List Char}
    (h : processLine env n raw = .ok env') (key : String) (values : List String) :
    firstValue key (env' key) values = firstValue key (env key) (lineValues raw key ++ values) := by
  rcases processLine_eq_ok.mp h with ⟨hp, rfl⟩ | ⟨k, v, hp, ⟨hne, rfl⟩ | ⟨he, hs⟩⟩
  · -- a skipped line
    simp [lineValues, hp]
  · -- a variable that reads as non-empty keeps its value
    by_cases hk : k = key
    · subst hk
      have hne : readValue k (env' k) ≠ "" := hne
      simp [lineValues, hp, firstValue, hne]
    · simp [lineValues, hp, hk]
  · -- `Setenv` performs the assignment
    obtain ⟨hk0, rfl⟩ := setenv_eq_some hs
    by_cases hk : k = key
    · subst hk
      simpa [lineValues, hp] using firstValue_assign hk0 he v values
    · simp [lineValues, hp, hk, Function.update_noteq (Ne.symm hk)]

/-- A run of the loop over any lines from any environment: it handles a prefix `pre` of them,
after which each variable holds `firstValue` of what `pre` assigned to it; then either `pre` was
every line and there is no error, or the run stopped at the next line, numbered
`n + pre.length + 1`, whose pass returns the run's error. -/
theorem loadLines_spec (env : Env) (n : Nat) (lines : List (List Char)) :
    ∃ pre post, lines = pre ++ post ∧
      (∀ key, (loadLines env n lines).1 key = firstValue key (env key) (assigned pre key)) ∧
      ((loadLines env n lines).2 = none ∧ post = [] ∨
        ∃ raw rest e, post = raw :: rest ∧ (loadLines env n lines).2 = some e ∧
          processLine (loadLines env n lines).1 (n + pre.length + 1) raw = .error e) := by
  induction lines generalizing env n with
  | nil => exact ⟨[], [], rfl, fun key => (firstValue_nil key _).symm, .inl ⟨rfl, rfl⟩⟩
  | cons raw lines ih =>
    cases h : processLine env (n + 1) raw with
    | error e =>
      refine ⟨[], raw :: lines, rfl, fun key => ?_, .inr ⟨raw, lines, e, rfl, ?_, ?_⟩⟩ <;>
        simp [loadLines, h, assigned, firstValue_nil]
    | ok env' =>
      obtain ⟨pre, post, hl, hv, hend⟩ := ih env' (n + 1)
      have hrun : loadLines env n (raw :: lines) = loadLines env' (n + 1) lines := by
        simp [loadLines, h]
      refine ⟨raw :: pre, post, by rw [hl]; rfl, fun key => ?_, ?_⟩
      · rw [hrun, hv, firstValue_processLine h]
        rfl
      · rw [hrun]
        rcases hend with hend | ⟨raw', rest, e, hpost, he, hpe⟩
        · exact .inl hend
        · refine .inr ⟨raw', rest, e, hpost, he, ?_⟩
          rwa [List.length_cons, ← Nat.add_assoc, Nat.add_right_comm n]

/-- What `loadEnvFile` does to the environment, for every file: it handles the first lines `pre`
the scanner returns, after which every variable that read as non-empty holds what it held, and
every other one the first non-empty value those lines gave it, or `""` if each was empty. Then
either the scanner returned no other line and the file has no line too long for it, with no error;
or it returned no other line because the next one is too long, and the error is
`tokenTooLong`; or the run stopped at the next line, numbered `pre.length + 1` counting blank
lines and comments, and returns that line's error. -/
theorem loadEnvFile_spec (text : String) (env : Env) :
    ∃ pre post, (scanLines text.data).1 = pre ++ post ∧
      (∀ key, (loadEnvFile text env).1 key = firstValue key (env key) (assigned pre key)) ∧
      ((loadEnvFile text env).2 = none ∧ post = [] ∧ (scanLines text.data).2 = false ∨
        (loadEnvFile text env).2 = some .tokenTooLong ∧ post = [] ∧
          (scanLines text.data).2 = true ∨
        ∃ raw rest e, post = raw :: rest ∧ (loadEnvFile text env).2 = some e ∧
          processLine (loadEnvFile text env).1 (pre.length + 1) raw = .error e) := by
  obtain ⟨pre, post, hl, hv, hend⟩ := loadLines_spec env 0 (scanLines text.data).1
  refine ⟨pre, post, hl, hv, ?_⟩
  simp only [loadEnvFile, Nat.zero_add] at hend ⊢
  rcases hend with ⟨hnone, hpost⟩ | ⟨raw, rest, e, hpost, he, hpe⟩
  · -- the loop ran to the end: the error is `scanner.Err()`
    rw [hnone, Option.none_or]
    cases (scanLines text.data).2
    · exact .inl ⟨rfl, hpost, rfl⟩
    · exact .inr (.inl ⟨rfl, hpost, rfl⟩)
  · exact .inr (.inr ⟨raw, rest, e, hpost, by rw [he, Option.or_some], hpe⟩)

/-! ## Loading twice -/

/-- `Setenv`'s checks read the key and the value only. -/
theorem setenv_of_some {env env' : Env} {key value : String}
    (h : setenv env key value = some env') (env₂ : Env) :
    setenv env₂ key value = some (Function.update env₂ key (some value)) := by
  unfold setenv at h ⊢
  split at h
  · cases h
  · rw [if_neg ‹_›]

/-- The line `raw`, read again in `env`, leaves it as it is. -/
def Settled (env : Env) (raw : List Char) : Prop := ∀ n, processLine env n raw = .ok env

/-- A line the loop has just handled is settled. -/
theorem processLine_settled {env env' : Env} {n : Nat} {raw : List Char}
    (h : processLine env n raw = .ok env') : Settled env' raw := by
  intro m
  rcases processLine_eq_ok.mp h with ⟨hp, rfl⟩ | ⟨key, value, hp, ⟨hg, rfl⟩ | ⟨-, hset⟩⟩
  · exact processLine_eq_ok.mpr (.inl ⟨hp, rfl⟩)
  · exact processLine_eq_ok.mpr (.inr ⟨key, value, hp, .inl ⟨hg, rfl⟩⟩)
  · obtain ⟨hk, rfl⟩ := setenv_eq_some hset
    have hv : getenv (Function.update env key (some value)) key = value := by
      simp [getenv, readValue, hk]
    by_cases he : value = ""
    · -- an empty value reads as unset, and setting it again changes nothing
      refine processLine_eq_ok.mpr (.inr ⟨key, value, hp, .inr ⟨hv.trans he, ?_⟩⟩)
      rw [setenv_of_some hset, Function.update_idem]
    · exact processLine_eq_ok.mpr (.inr ⟨key, value, hp, .inl ⟨hv.trans_ne he, rfl⟩⟩)

/-- A settled line stays settled through every later pass of the loop. -/
theorem Settled.processLine {env env' : Env} {raw raw' : List Char} {n : Nat}
    (hs : Settled env raw) (h : processLine env n raw' = .ok env') : Settled env' raw := by
  rcases processLine_eq_ok.mp h with ⟨-, rfl⟩ | ⟨key', value', -, ⟨-, rfl⟩ | ⟨hg', hset'⟩⟩
  · exact hs
  · exact hs
  obtain ⟨-, rfl⟩ := setenv_eq_some hset'
  intro m
  rcases processLine_eq_ok.mp (hs m) with ⟨hp, -⟩ | ⟨key, value, hp, ⟨hg, -⟩ | ⟨hg, hset⟩⟩
  · exact processLine_eq_ok.mpr (.inl ⟨hp, rfl⟩)
  · -- `raw` sets a variable that reads as non-empty, so not the one `raw'` set
    have hne : key ≠ key' := fun he => hg (he ▸ hg')
    refine processLine_eq_ok.mpr (.inr ⟨key, value, hp, .inl ⟨?_, rfl⟩⟩)
    rwa [getenv, Function.update_noteq hne]
  · -- `raw` holds the variable at `value`, which reads as empty
    obtain ⟨hk, hfix⟩ := setenv_eq_some hset
    have hkey : env key = some value := by rw [hfix, Function.update_same]
    by_cases hkk : key = key'
    · subst hkk
      by_cases hv' : value' = ""
      · -- `raw'` set the variable to `""`, as it was
        have hv : value = "" := by simpa [getenv, readValue, hk, hkey] using hg
        rw [hv', ← hv, ← hkey, Function.update_eq_self]
        exact hs m
      · refine processLine_eq_ok.mpr (.inr ⟨key, value, hp, .inl ⟨?_, rfl⟩⟩)
        simpa [getenv, readValue, hk] using hv'
    · -- `raw'` set another variable
      have hg₂ : getenv (Function.update env key' (some value')) key = "" := by
        rwa [getenv, Function.update_noteq hkk]
      have hkey₂ : Function.update env key' (some value') key = some value := by
        rw [Function.update_noteq hkk, hkey]
      refine processLine_eq_ok.mpr (.inr ⟨key, value, hp, .inr ⟨hg₂, ?_⟩⟩)
      rw [setenv_of_some hset, ← hkey₂, Function.update_eq_self]

/-- A settled line stays settled through the rest of a run. -/
theorem Settled.loadLines {raw : List Char} :
    ∀ {env : Env} {n : Nat} {lines : List (List Char)},
      Settled env raw → Settled (loadLines env n lines).1 raw
  | _, _, [], hs => hs
  | env, n, raw' :: lines, hs => by
    cases h : MatterServer.Config.processLine env (n + 1) raw' with
    | error e => simpa [MatterServer.Config.loadLines, h] using hs
    | ok env' =>
      simpa [MatterServer.Config.loadLines, h] using Settled.loadLines (hs.processLine h)

/-- A second run over the same lines, from where the first one left the environment, changes
nothing and stops where the first stopped. -/
theorem loadLines_idempotent (env : Env) (n : Nat) (lines : List (List Char)) :
    loadLines (loadLines env n lines).1 n lines = loadLines env n lines := by
  induction lines generalizing env n with
  | nil => rfl
  | cons raw lines ih =>
    cases h : processLine env (n + 1) raw with
    | error e => simp [loadLines, h]
    | ok env' =>
      have hrun : loadLines env n (raw :: lines) = loadLines env' (n + 1) lines := by
        simp [loadLines, h]
      have hagain : Settled (loadLines env' (n + 1) lines).1 raw :=
        (processLine_settled h).loadLines
      rw [hrun, loadLines, hagain (n + 1)]
      exact ih env' (n + 1)

/-- Loading an env file a second time, into the environment the first load left, changes no
variable and returns the same error. -/
theorem loadEnvFile_idempotent (text : String) (env : Env) :
    loadEnvFile text (loadEnvFile text env).1 = loadEnvFile text env := by
  simp only [loadEnvFile, loadLines_idempotent]

/-! ## A line `KEY="value"` -/

/-- `dropWhile` keeps a list whose first element fails the test. -/
theorem dropWhile_of_head {p : Char → Bool} {l : List Char}
    (h : (l.head?.all fun c => !p c) = true) : l.dropWhile p = l := by
  cases l with
  | nil => rfl
  | cons c l =>
    simp only [List.head?_cons, Option.all_some, Bool.not_eq_true'] at h
    simp [List.dropWhile_cons, h]

/-- `TrimSpace` keeps a string that neither starts nor ends with white space. -/
theorem trimSpace_of_ends {s : List Char} (h₁ : (s.head?.all fun c => !isSpace c) = true)
    (h₂ : (s.getLast?.all fun c => !isSpace c) = true) : trimSpace s = s := by
  unfold trimSpace
  rw [dropWhile_of_head h₁, dropWhile_of_head (by rwa [List.head?_reverse]),
    List.reverse_reverse]

/-- `SplitN` cuts at the first `=`. -/
theorem splitFirstEq_append {k : List Char} (hk : '=' ∉ k) (rest : List Char) :
    splitFirstEq (k ++ '=' :: rest) = some (k, rest) := by
  induction k with
  | nil => simp [splitFirstEq]
  | cons c k ih =>
    have hc : c ≠ '=' := fun h => hk (h ▸ List.mem_cons_self _ _)
    simp [splitFirstEq, hc, ih fun h => hk (List.mem_cons_of_mem _ h)]

/-- A value in double quotes loses them. -/
theorem stripQuotes_quoted (v : List Char) : stripQuotes ('"' :: (v ++ ['"'])) = v := by
  have hlast : ('"' :: (v ++ ['"'])).getLast? = some '"' := by
    rw [← List.cons_append, List.getLast?_concat]
  simp [stripQuotes, hlast]

/-- `ScanLines` cuts a line at the line feed that ends it. -/
theorem splitLinesFrom_line {l : List Char} (hl : '\n' ∉ l) (cur rest : List Char) :
    splitLinesFrom cur (l ++ '\n' :: rest) = (cur.reverse ++ l) :: splitLinesFrom [] rest := by
  induction l generalizing cur with
  | nil => simp [splitLinesFrom]
  | cons c l ih =>
    have hc : c ≠ '\n' := fun h => hl (h ▸ List.mem_cons_self _ _)
    rw [List.cons_append, splitLinesFrom, if_neg hc, ih (fun h => hl (List.mem_cons_of_mem _ h))]
    simp

/-- A name `loadEnvFile` sets from a line `KEY="value"`. -/
structure ValidKey (key : String) : Prop where
  /-- `Setenv` refuses the empty key. -/
  ne_nil : key.data ≠ []
  /-- A `=` would end the key, a NUL is refused by `Setenv`, and a line feed ends the line. -/
  plain : ∀ c ∈ key.data, c ≠ '=' ∧ c ≠ '\x00' ∧ c ≠ '\n'
  /-- The line would be a comment. -/
  notComment : key.data.head? ≠ some '#'
  /-- `TrimSpace` would take white space off either end. -/
  startsPlain : (key.data.head?.all fun c => !isSpace c) = true
  endsPlain : (key.data.getLast?.all fun c => !isSpace c) = true

instance (key : String) : Decidable (ValidKey key) :=
  decidable_of_iff (key.data ≠ [] ∧ (∀ c ∈ key.data, c ≠ '=' ∧ c ≠ '\x00' ∧ c ≠ '\n') ∧
      key.data.head? ≠ some '#' ∧ (key.data.head?.all fun c => !isSpace c) = true ∧
      (key.data.getLast?.all fun c => !isSpace c) = true)
    ⟨fun ⟨a, b, c, d, e⟩ => ⟨a, b, c, d, e⟩, fun ⟨a, b, c, d, e⟩ => ⟨a, b, c, d, e⟩⟩

/-- A value a line `KEY="value"` carries: no NUL, which `Setenv` refuses, and no line feed,
which ends the line. -/
def ValidValue (value : String) : Prop := ∀ c ∈ value.data, c ≠ '\x00' ∧ c ≠ '\n'

instance : DecidablePred ValidValue := fun _ => inferInstanceAs (Decidable (∀ c ∈ _, _))

/-- The line `KEY="value"`. -/
def quotedLine (key value : String) : List Char :=
  key.data ++ '=' :: '"' :: (value.data ++ ['"'])

/-- The file of the lines `KEY="value"` of `entries`, each ended by a line feed. -/
def quotedFile (entries : List (String × String)) : String :=
  ⟨entries.flatMap fun e => quotedLine e.1 e.2 ++ ['\n']⟩

/-- The line ends with the closing quote. -/
theorem quotedLine_getLast (key value : String) :
    (quotedLine key value).getLast? = some '"' := by
  simp only [quotedLine, ← List.cons_append, ← List.append_assoc, List.getLast?_concat]

/-- The loop reads the line `KEY="value"` as the assignment of `value` to `KEY`. -/
theorem parseLine_quotedLine {key : String} (hk : ValidKey key) (value : String) :
    parseLine (quotedLine key value) = .assign key value := by
  have hhead : (quotedLine key value).head? = key.data.head? :=
    List.head?_append_of_ne_nil _ hk.ne_nil
  have hline : trimSpace (quotedLine key value) = quotedLine key value :=
    trimSpace_of_ends (hhead ▸ hk.startsPlain) (by rw [quotedLine_getLast]; rfl)
  have hvalue : trimSpace ('"' :: (value.data ++ ['"'])) = '"' :: (value.data ++ ['"']) :=
    trimSpace_of_ends rfl (by rw [← List.cons_append, List.getLast?_concat]; rfl)
  have hnil : quotedLine key value ≠ [] := by simp [quotedLine]
  have heq : '=' ∉ key.data := fun h => (hk.plain _ h).1 rfl
  simp only [parseLine, hline, hhead, hnil, hk.notComment, or_self, if_false]
  rw [quotedLine, splitFirstEq_append heq]
  simp only [trimSpace_of_ends hk.startsPlain hk.endsPlain, hvalue, stripQuotes_quoted]

/-- `ScanLines` cuts the file at the line feed after each line. -/
theorem splitLinesFrom_quotedFile {entries : List (String × String)}
    (hk : ∀ e ∈ entries, ValidKey e.1) (hv : ∀ e ∈ entries, ValidValue e.2) :
    splitLinesFrom [] (quotedFile entries).data = entries.map fun e => quotedLine e.1 e.2 := by
  induction entries with
  | nil => rfl
  | cons e entries ih =>
    have hlf : '\n' ∉ quotedLine e.1 e.2 := by
      simp only [quotedLine, List.mem_append, List.mem_cons, List.mem_singleton, not_or]
      exact ⟨fun h => ((hk e (List.mem_cons_self _ _)).plain _ h).2.2 rfl, by decide, by decide,
        fun h => (hv e (List.mem_cons_self _ _) _ h).2 rfl, by decide, by simp⟩
    simp only [quotedFile, List.flatMap_cons, List.append_assoc, List.singleton_append,
      splitLinesFrom_line hlf, List.reverse_nil, List.nil_append, List.map_cons]
    exact congrArg (List.cons _) (ih (fun e' h => hk e' (List.mem_cons_of_mem _ h))
      (fun e' h => hv e' (List.mem_cons_of_mem _ h)))

/-- The scanner reads the file back as its lines, when each fits its buffer. -/
theorem scanLines_quotedFile {entries : List (String × String)}
    (hk : ∀ e ∈ entries, ValidKey e.1) (hv : ∀ e ∈ entries, ValidValue e.2)
    (hfit : ∀ e ∈ entries, byteLength (quotedLine e.1 e.2) < maxScanTokenSize) :
    scanLines (quotedFile entries).data = (entries.map fun e => quotedLine e.1 e.2, false) := by
  have hcr : ∀ e : String × String, dropCR (quotedLine e.1 e.2) = quotedLine e.1 e.2 := fun e => by
    simp [dropCR, quotedLine_getLast]
  have hshort : ∀ l ∈ entries.map (fun e => quotedLine e.1 e.2),
      byteLength l < maxScanTokenSize := by
    intro l hl
    obtain ⟨e, he, rfl⟩ := List.mem_map.mp hl
    exact hfit e he
  have hlong : (scanLines (quotedFile entries).data).2 = false := by
    simp only [scanLines, splitLinesFrom_quotedFile hk hv]
    exact List.any_eq_false.mpr fun l hl => by simpa using hshort l hl
  refine Prod.ext ?_ hlong
  rw [scanLines_of_short hlong, splitLinesFrom_quotedFile hk hv, List.map_map]
  exact List.map_congr_left fun e _ => hcr e

/-- `Setenv` takes a valid key and a valid value. -/
theorem setenv_valid {key value : String} (hk : ValidKey key) (hv : ValidValue value)
    (env : Env) : setenv env key value = some (Function.update env key (some value)) := by
  rw [setenv, if_neg]
  rintro (h | h | h | h)
  · exact hk.ne_nil (by rw [h])
  · exact (hk.plain _ h).1 rfl
  · exact (hk.plain _ h).2.1 rfl
  · exact (hv _ h).1 rfl

/-- The line `KEY="value"` sets a variable that reads as empty. -/
theorem processLine_quotedLine {key value : String} (hk : ValidKey key) (hv : ValidValue value)
    {env : Env} (hunset : getenv env key = "") (n : Nat) :
    processLine env n (quotedLine key value) = .ok (Function.update env key (some value)) := by
  simp [processLine, parseLine_quotedLine hk, hunset, setenv_valid hk hv]

/-- The loop over the lines `KEY="value"` of distinct names, none of which reads as set, sets each
to its value and leaves every other variable as it was. -/
theorem loadLines_quoted (entries : List (String × String)) (hk : ∀ e ∈ entries, ValidKey e.1)
    (hv : ∀ e ∈ entries, ValidValue e.2) (hd : (entries.map Prod.fst).Nodup) (env : Env)
    (hunset : ∀ e ∈ entries, getenv env e.1 = "") (n : Nat) :
    (loadLines env n (entries.map fun e => quotedLine e.1 e.2)).2 = none ∧
      (∀ e ∈ entries,
        (loadLines env n (entries.map fun e => quotedLine e.1 e.2)).1 e.1 = some e.2) ∧
      ∀ key, key ∉ entries.map Prod.fst →
        (loadLines env n (entries.map fun e => quotedLine e.1 e.2)).1 key = env key := by
  induction entries generalizing env n with
  | nil => exact ⟨rfl, nofun, fun _ _ => rfl⟩
  | cons e entries ih =>
    obtain ⟨key, value⟩ := e
    rw [List.map_cons, List.nodup_cons] at hd
    have hother : ∀ k ∈ entries.map Prod.fst, k ≠ key := fun k hk h => hd.1 (h ▸ hk)
    obtain ⟨herr, hset, hkeep⟩ := ih (fun e h => hk e (.tail _ h)) (fun e h => hv e (.tail _ h))
      hd.2 (Function.update env key (some value))
      (fun e h => by
        rw [getenv, Function.update_noteq (hother _ (List.mem_map_of_mem _ h))]
        exact hunset e (.tail _ h)) (n + 1)
    simp only [List.map_cons, loadLines,
      processLine_quotedLine (hk _ (.head _)) (hv _ (.head _)) (hunset _ (.head _))]
    refine ⟨herr, fun e h => ?_, fun k hk' => ?_⟩
    · rcases List.mem_cons.mp h with rfl | h
      · rw [hkeep _ hd.1, Function.update_same]
      · exact hset e h
    · simp only [List.map_cons, List.mem_cons, not_or] at hk'
      rw [hkeep k hk'.2, Function.update_noteq hk'.1]

/-- A file of lines `KEY="value"`, one per variable, loaded where none of those variables reads as
set, sets each to exactly its value, whatever white space, quotes, `=` or `#` it holds, returns no
error, and leaves every other variable as it was. -/
theorem loadEnvFile_quoted (entries : List (String × String)) (hk : ∀ e ∈ entries, ValidKey e.1)
    (hv : ∀ e ∈ entries, ValidValue e.2)
    (hfit : ∀ e ∈ entries, byteLength (quotedLine e.1 e.2) < maxScanTokenSize)
    (hd : (entries.map Prod.fst).Nodup) (env : Env)
    (hunset : ∀ e ∈ entries, getenv env e.1 = "") :
    (loadEnvFile (quotedFile entries) env).2 = none ∧
      (∀ e ∈ entries, (loadEnvFile (quotedFile entries) env).1 e.1 = some e.2) ∧
      ∀ key, key ∉ entries.map Prod.fst →
        (loadEnvFile (quotedFile entries) env).1 key = env key := by
  obtain ⟨herr, hset, hkeep⟩ := loadLines_quoted entries hk hv hd env hunset 0
  simp only [loadEnvFile, scanLines_quotedFile hk hv hfit]
  exact ⟨by rw [herr]; rfl, hset, hkeep⟩

/-- A log level with white space, a `#` and quotes in it, and a port after a `=`. -/
def levelAndPort : List (String × String) :=
  [("MATTER_LOG_LEVEL", " debug # \"x\" "), ("MATTER_SERVER_PORT", "=5580")]

theorem loadEnvFile_quoted_levelAndPort :
    (∀ e ∈ levelAndPort, ValidKey e.1) ∧ (∀ e ∈ levelAndPort, ValidValue e.2) ∧
      (∀ e ∈ levelAndPort, byteLength (quotedLine e.1 e.2) < maxScanTokenSize) ∧
      (levelAndPort.map Prod.fst).Nodup ∧ (∀ e ∈ levelAndPort, getenv (fun _ => none) e.1 = "") ∧
      (loadEnvFile (quotedFile levelAndPort) fun _ => none).2 = none ∧
      (∀ e ∈ levelAndPort, (loadEnvFile (quotedFile levelAndPort) fun _ => none).1 e.1 = some e.2) ∧
      ∀ key, key ∉ levelAndPort.map Prod.fst →
        (loadEnvFile (quotedFile levelAndPort) fun _ => none).1 key = none :=
  have hk : ∀ e ∈ levelAndPort, ValidKey e.1 := by decide
  have hv : ∀ e ∈ levelAndPort, ValidValue e.2 := by decide
  have hfit : ∀ e ∈ levelAndPort, byteLength (quotedLine e.1 e.2) < maxScanTokenSize := by decide
  have hd : (levelAndPort.map Prod.fst).Nodup := by decide
  have hu : ∀ e ∈ levelAndPort, getenv (fun _ => none) e.1 = "" := by decide
  ⟨hk, hv, hfit, hd, hu, loadEnvFile_quoted levelAndPort hk hv hfit hd _ hu⟩

end MatterServer.Config
