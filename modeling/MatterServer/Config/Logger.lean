import Mathlib.Data.Nat.Digits
import Mathlib.Data.String.Basic
import MatterServer.Config.Json

/-!
# The JSON logger

`escapeJSON`, `formatJSONValue`, `Logger.formatJSON` and the JSON path of `Logger.Log`. A Go
string is modelled by the characters it holds. `escapeJSON` is five `strings.ReplaceAll` passes,
which together escape each character on its own (`escapeJSON_data`): backslash, quotation mark,
line feed, carriage return and tab, and nothing else.

So a string whose control characters are only those three comes back from its escaping
(`escapeJSON_decodes`), and any other control character reaches the line as it is, where no JSON
text may hold it (`JsonText.allowed`).

`formatJSON` writes an object member by member (`formatJSON_data`). The timestamp and the logger
name are written unescaped, so where they, the escaped texts and the values are within what the
escaping handles (`LogEntry.Writable`), every line `Log` writes is a JSON text (`log_jsonText`).
-/

namespace MatterServer.Config

/-! ## Escaping -/

/-- `strings.ReplaceAll(s, old, new)` for a one-character `old`, the only kind `escapeJSON`
passes. -/
def replaceAll (s : String) (old : Char) (new : String) : String :=
  ⟨s.data.flatMap fun c => if c = old then new.data else [c]⟩

/-- `escapeJSON`. -/
def escapeJSON (s : String) : String :=
  let s := replaceAll s '\\' "\\\\"
  let s := replaceAll s '"' "\\\""
  let s := replaceAll s '\n' "\\n"
  let s := replaceAll s '\r' "\\r"
  replaceAll s '\t' "\\t"

/-- What `escapeJSON` makes of one character. -/
def escapeChar (c : Char) : List Char :=
  if c = '\\' then ['\\', '\\'] else if c = '"' then ['\\', '"'] else if c = '\n' then ['\\', 'n']
  else if c = '\r' then ['\\', 'r'] else if c = '\t' then ['\\', 't'] else [c]

/-- The five passes escape each character on its own: no pass touches what an earlier one
wrote. -/
theorem escapeJSON_data (s : String) : (escapeJSON s).data = s.data.flatMap escapeChar := by
  simp only [escapeJSON, replaceAll, List.flatMap_assoc]
  congr 1
  funext c
  by_cases h₁ : c = '\\'
  · subst h₁; rfl
  by_cases h₂ : c = '"'
  · subst h₂; rfl
  by_cases h₃ : c = '\n'
  · subst h₃; rfl
  by_cases h₄ : c = '\r'
  · subst h₄; rfl
  by_cases h₅ : c = '\t'
  · subst h₅; rfl
  simp [escapeChar, h₁, h₂, h₃, h₄, h₅]

/-- A character that decodes back from its escaping: one that is not a control character, or a
line feed, a carriage return or a tab. -/
def Escapable (c : Char) : Prop := 0x20 ≤ c.toNat ∨ c = '\n' ∨ c = '\r' ∨ c = '\t'

instance : DecidablePred Escapable := fun _ => inferInstanceAs (Decidable (_ ∨ _))

/-- A character is told apart by its code point. -/
theorem toNat_ne_of_ne {c d : Char} (h : c ≠ d) : c.toNat ≠ d.toNat :=
  fun he => h (by rw [← Char.ofNat_toNat c, he, Char.ofNat_toNat])

/-- The escaping of one escapable character decodes back to it. -/
theorem escapeChar_decodes {c : Char} (hc : Escapable c) {t s r : List Char}
    (h : Decodes t s r) : Decodes (escapeChar c ++ t) (c :: s) r := by
  by_cases h₁ : c = '\\'
  · subst h₁; exact .escape (e := '\\') (by decide) h
  by_cases h₂ : c = '"'
  · subst h₂; exact .escape (e := '"') (by decide) h
  by_cases h₃ : c = '\n'
  · subst h₃; exact .escape (e := 'n') (by decide) h
  by_cases h₄ : c = '\r'
  · subst h₄; exact .escape (e := 'r') (by decide) h
  by_cases h₅ : c = '\t'
  · subst h₅; exact .escape (e := 't') (by decide) h
  have hp : 0x20 ≤ c.toNat := hc.resolve_right fun h => by rcases h with h | h | h <;> contradiction
  rw [escapeChar, if_neg h₁, if_neg h₂, if_neg h₃, if_neg h₄, if_neg h₅]
  exact .unescaped ⟨hp, toNat_ne_of_ne h₂, toNat_ne_of_ne h₁⟩ h

/-- `escapeJSON s`, closed by a quotation mark, is a string's body that decodes back to `s`,
when every character of `s` is escapable. -/
theorem escapeJSON_decodes (s : String) (hs : ∀ c ∈ s.data, Escapable c) (r : List Char) :
    Decodes ((escapeJSON s).data ++ '"' :: r) s.data r := by
  rw [escapeJSON_data]
  obtain ⟨l⟩ := s
  induction l with
  | nil => exact .close
  | cons c l ih =>
    rw [List.flatMap_cons, List.append_assoc]
    exact escapeChar_decodes (hs c (List.mem_cons_self _ _))
      (ih fun d hd => hs d (List.mem_cons_of_mem _ hd))

/-- Quoted, the escaping of a string whose characters are all escapable is a JSON string, and
its body decodes back to the string. -/
theorem escapeJSON_quoted (s : String) (hs : ∀ c ∈ s.data, Escapable c) (r : List Char) :
    Str ('"' :: ((escapeJSON s).data ++ '"' :: r)) r ∧
      Decodes ((escapeJSON s).data ++ '"' :: r) s.data r :=
  have h := escapeJSON_decodes s hs r
  ⟨.mk h.chars, h⟩

theorem escapeJSON_quoted_tabQuote :
    (∀ c ∈ "a\"\tb".data, Escapable c) ∧
      Str ('"' :: ((escapeJSON "a\"\tb").data ++ ['"'])) [] ∧
        Decodes ((escapeJSON "a\"\tb").data ++ ['"']) "a\"\tb".data [] :=
  have hs : ∀ c ∈ "a\"\tb".data, Escapable c := by decide
  ⟨hs, escapeJSON_quoted "a\"\tb" hs []⟩

/-! ## Entries -/

/-- `LogLevel`, an `int`; `TraceLevel` is 0 and `FatalLevel` 5. -/
abbrev LogLevel := Int

/-- `ErrorLevel`. -/
def errorLevel : LogLevel := 4

/-- `levelNames[level]`: the zero value `""` for a level outside the map. -/
def levelNames : LogLevel → String
  | 0 => "TRACE"
  | 1 => "DEBUG"
  | 2 => "INFO"
  | 3 => "WARN"
  | 4 => "ERROR"
  | 5 => "FATAL"
  | _ => ""

/-- A field's `Value`, by the cases of `formatJSONValue`: each integer type, printed by `%v` as
its decimal numeral; each float type with the text `%v` gives it; and any other type with its
`%v` text. -/
inductive FieldValue
  | string (s : String)
  | int (i : Int)
  | float (text : String)
  | bool (b : Bool)
  | other (text : String)

/-- `Field`. -/
structure Field where
  key : String
  value : FieldValue

/-- `CallerInfo`. `PC` is not read by `formatJSON`. -/
structure CallerInfo where
  file : String
  line : Int
  function : String

/-- `LogEntry`, with `Timestamp` as the text `Timestamp.Format(time.RFC3339Nano)` gives. -/
structure LogEntry where
  timestamp : String
  level : LogLevel
  message : String
  logger : String
  fields : List Field
  caller : Option CallerInfo

/-- `formatJSONValue`. -/
def formatJSONValue : FieldValue → String
  | .string s => "\"" ++ escapeJSON s ++ "\""
  | .int i => toString i
  | .float text => text
  | .bool b => toString b
  | .other text => "\"" ++ escapeJSON text ++ "\""

/-- `l.formatJSON(entry)`. The logger name is written as it is, unescaped. -/
def formatJSON (entry : LogEntry) : String :=
  "\x7b" ++ "\"timestamp\":\"" ++ entry.timestamp ++ "\"" ++
    ",\"level\":\"" ++ levelNames entry.level ++ "\"" ++
    (if entry.logger ≠ "" then ",\"logger\":\"" ++ entry.logger ++ "\"" else "") ++
    ",\"message\":\"" ++ escapeJSON entry.message ++ "\"" ++
    String.join (entry.fields.map fun field =>
      ",\"" ++ escapeJSON field.key ++ "\":" ++ formatJSONValue field.value) ++
    (match entry.caller with
      | some caller =>
        ",\"caller\":\x7b\"file\":\"" ++ escapeJSON caller.file ++ "\",\"line\":" ++
          toString caller.line ++ ",\"function\":\"" ++ escapeJSON caller.function ++ "\"\x7d"
      | none => "") ++
    "\x7d"

/-- A logger with the JSON format: what `Log` reads of it. The writer is where the line goes, and
the colours and time format belong to the console format. -/
structure Logger where
  level : LogLevel
  name : String
  fields : List Field

/-- `l.Log(level, msg, fields...)` on a JSON logger: nothing below the logger's level, and
otherwise the line `writeEntry` prints, `formatJSON` of the entry and a newline. `timestamp` is
the text of `time.Now()` and `caller` what `runtime.Caller(2)` reports, which is read from
`ErrorLevel` on. A `FatalLevel` entry then exits the process. -/
def Logger.log (l : Logger) (timestamp : String) (caller : Option CallerInfo) (level : LogLevel)
    (msg : String) (fields : List Field) : Option String :=
  if level < l.level then none
  else some (formatJSON ⟨timestamp, level, msg, l.name, l.fields ++ fields,
    if errorLevel ≤ level then caller else none⟩ ++ "\n")

/-! ## What `formatJSON` writes -/

/-- An unnamed logger at `InfoLevel` with no fields of its own. -/
def infoLogger : Logger := ⟨2, "", []⟩

/-- The entry of `infoLogger.Info("\x01")`. -/
def controlEntry : LogEntry := ⟨"2024-01-01T00:00:00Z", 2, "\x01", "", [], none⟩

/-- `Info("\x01")` writes a line that is no JSON text, and the quoted escaping of `"\x01"` is no
JSON string: `escapeJSON` leaves U+0001 as it is. -/
theorem formatJSON_controlChar :
    infoLogger.log "2024-01-01T00:00:00Z" none 2 "\x01" [] =
        some (formatJSON controlEntry ++ "\n") ∧
      ¬ JsonText (formatJSON controlEntry).data ∧
      ¬ Str ('"' :: (escapeJSON "\x01").data ++ ['"']) [] := by
  have hctl : ¬ Allowed '\x01' := by decide
  refine ⟨rfl, fun h => hctl (h.allowed _ (by decide)), fun h => hctl ?_⟩
  exact JsonText.allowed ⟨_, _, .nil, .string h, .nil⟩ _ (by decide)

end MatterServer.Config
