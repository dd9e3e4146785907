import Mathlib.Algebra.Order.BigOperators.Group.List
import Mathlib.Algebra.Order.Ring.Nat
import Mathlib.Data.List.AList

/-!
# Commands

`Server.HandleCommand` of `internal/server/server.go` and the six handlers it dispatches to, with
`parseNodeID`, which reads the `node_id` argument of `get_node` and `ping_node`.

A Go `interface{}` argument is a `Value`: what `encoding/json` decodes (`nil`, a `bool`, a
`float64`, a `string`, a slice, a map) and the other dynamic types `parseNodeID` switches on
(`int`, `int64`, `json.Number`). A `float64` is finite, as every number `encoding/json` decodes is:
a 53-bit mantissa times a power of two, which `Float64` carries as fields. `int(t)` truncates
toward zero, and gives `-2^63` (amd64's `CVTTSD2SQ`) when the result does not fit. A string
argument goes through `strconv.ParseInt(s, 10, 64)`, modelled as the digit loop of `ParseUint`
and the sign and range checks of `ParseInt`.

The handlers return Go's pair `(interface{}, error)` as a pair of options, so that "exactly one is
non-nil" is a statement about the code (`handleCommand_spec`). The registry `s.nodes` is a map
from node ID to record (`AList`); Go ranges over a map in an unspecified order, and the model
ranges over the list of entries in theirs, so a statement about every `AList` covers every order.
-/

namespace MatterServer.Server

/-! ## Values -/

/-- The smallest Go `int` (64 bits). -/
def intMin : Int := -2 ^ 63

/-- The largest Go `int`. -/
def intMax : Int := 2 ^ 63 - 1

/-- A finite `float64`: `mantissa · 2^exponent`, with a mantissa of at most 53 bits and an
exponent of the binary64 range. -/
structure Float64 where
  mantissa : Int
  exponent : Int
  mantissa_lt : mantissa.natAbs < 2 ^ 53
  exponent_ge : -1074 ≤ exponent
  exponent_le : exponent ≤ 971

/-- The value truncated toward zero. -/
def Float64.trunc (x : Float64) : Int :=
  if 0 ≤ x.exponent then x.mantissa * 2 ^ x.exponent.toNat
  else x.mantissa.tdiv (2 ^ (-x.exponent).toNat)

/-- `int(t)` on amd64: the value truncated toward zero when that is a Go `int`, and `-2^63`
otherwise. -/
def Float64.toInt (x : Float64) : Int :=
  if intMin ≤ x.trunc ∧ x.trunc ≤ intMax then x.trunc else intMin

/-- The number is exactly the integer `n`. -/
def Float64.Denotes (x : Float64) (n : Int) : Prop :=
  if 0 ≤ x.exponent then n = x.mantissa * 2 ^ x.exponent.toNat
  else x.mantissa = n * 2 ^ (-x.exponent).toNat

instance (x : Float64) (n : Int) : Decidable (x.Denotes n) := by
  unfold Float64.Denotes; infer_instance

/-- A Go `interface{}` as a handler meets it. `int` and `int64` values are Go `int`s. -/
inductive Value
  | null
  | bool (b : Bool)
  | float64 (x : Float64)
  | string (s : String)
  | array (xs : List Value)
  | object (kvs : List (String × Value))
  | int (n : Int)
  | int64 (n : Int)
  /-- `json.Number`, the text of a JSON number. -/
  | number (s : String)

/-- `CommandMessage.Args`, a `map[string]interface{}`. -/
abbrev Args := AList fun _ : String => Value

/-! ## `strconv.ParseInt(s, 10, 64)` -/

/-- `*strconv.NumError`'s `Err`: `ErrSyntax` or `ErrRange`. -/
inductive NumError
  | errSyntax
  | errRange
  deriving DecidableEq, Repr

/-- The digit loop of `ParseUint(s, 10, 64)` from the value `n` read so far: a byte that is not a
digit is a syntax error, and a value past `2^64 - 1` a range error, whichever comes first. -/
def parseUintDigits : List Char → Nat → Except NumError Nat
  | [], n => .ok n
  | c :: cs, n =>
    if '0' ≤ c ∧ c ≤ '9' then
      if 1844674407370955162 ≤ n then .error .errRange
      else if 2 ^ 64 - 1 < n * 10 + (c.toNat - 48) then .error .errRange
      else parseUintDigits cs (n * 10 + (c.toNat - 48))
    else .error .errSyntax

/-- `strconv.ParseUint(s, 10, 64)`: at least one byte, then the digit loop. -/
def parseUint (s : List Char) : Except NumError Nat :=
  if s = [] then .error .errSyntax else parseUintDigits s 0

/-- The end of `strconv.ParseInt(s, 10, 64)`, after the sign: `ParseUint` on the rest, then the
range of `int64`. A range error of `ParseUint` ends in a range error of `ParseInt`, as in Go. -/
def parseSigned (neg : Bool) (body : List Char) : Except NumError Int :=
  match parseUint body with
  | .error err => .error err
  | .ok un =>
    if !neg ∧ 2 ^ 63 ≤ un then .error .errRange
    else if neg ∧ 2 ^ 63 < un then .error .errRange
    else .ok (if neg then -(un : Int) else un)

/-- `strconv.ParseInt(s, 10, 64)`: an optional sign picked off, then `parseSigned`. -/
def parseInt64 (s : String) : Except NumError Int :=
  match s.toList with
  | [] => .error .errSyntax
  | c :: cs =>
    if c = '+' then parseSigned false cs else if c = '-' then parseSigned true cs
    else parseSigned false (c :: cs)

/-- The number the digits `cs` write after the digits whose value is `n`. -/
def decimalValue (n : Nat) (cs : List Char) : Nat := cs.foldl (fun n c => n * 10 + (c.toNat - 48)) n

/-- `s` is a decimal numeral of `n` as `strconv.ParseInt(s, 10, 64)` reads one: an optional sign
and at least one decimal digit, whose value with the sign is `n`, an `int64`. -/
def IsDecimal (s : String) (n : Int) : Prop :=
  ∃ sign digits, s.toList = sign ++ digits ∧ (sign = [] ∨ sign = ['+'] ∨ sign = ['-']) ∧
    digits ≠ [] ∧ (∀ c ∈ digits, '0' ≤ c ∧ c ≤ '9') ∧
    n = (if sign = ['-'] then -(decimalValue 0 digits : Int) else decimalValue 0 digits) ∧
    intMin ≤ n ∧ n ≤ intMax

/-- More digits write a larger number. -/
theorem le_decimalValue (n : Nat) (cs : List Char) : n ≤ decimalValue n cs := by
  induction cs generalizing n with
  | nil => exact Nat.le_refl n
  | cons c cs ih => exact Nat.le_trans (by omega) (ih (n * 10 + (c.toNat - 48)))

/-- The digit loop succeeds exactly on digits whose value fits in 64 bits, and returns it. -/
theorem parseUintDigits_eq_ok {v : Nat} :
    ∀ (cs : List Char) (n : Nat), n ≤ 2 ^ 64 - 1 →
      (parseUintDigits cs n = .ok v ↔
        (∀ c ∈ cs, '0' ≤ c ∧ c ≤ '9') ∧ decimalValue n cs ≤ 2 ^ 64 - 1 ∧ v = decimalValue n cs)
  | [], n, hn => by
    simp only [parseUintDigits, Except.ok.injEq, List.not_mem_nil, false_implies, implies_true,
      true_and]
    exact ⟨fun h => ⟨h ▸ hn, h.symm⟩, fun h => h.2.symm⟩
  | c :: cs, n, hn => by
    have hge : n * 10 + (c.toNat - 48) ≤ decimalValue n (c :: cs) := le_decimalValue _ cs
    unfold parseUintDigits
    by_cases hc : '0' ≤ c ∧ c ≤ '9'
    · rw [if_pos hc]
      by_cases hcut : 1844674407370955162 ≤ n
      · -- past the cutoff: the value has more than 64 bits
        rw [if_pos hcut]
        exact ⟨nofun, fun h => absurd h.2.1 (by omega)⟩
      rw [if_neg hcut]
      by_cases hmax : 2 ^ 64 - 1 < n * 10 + (c.toNat - 48)
      · -- the next digit takes the value past `2^64 - 1`
        rw [if_pos hmax]
        exact ⟨nofun, fun h => absurd h.2.1 (by omega)⟩
      rw [if_neg hmax, parseUintDigits_eq_ok cs _ (by omega)]
      simp only [List.forall_mem_cons, hc, true_and]
      rfl
    · rw [if_neg hc]
      exact ⟨nofun, fun h => absurd (List.forall_mem_cons.mp h.1).1 hc⟩

/-- `ParseUint` succeeds exactly on a nonempty run of digits whose value fits in 64 bits. -/
theorem parseUint_eq_ok {body : List Char} {un : Nat} :
    parseUint body = .ok un ↔ body ≠ [] ∧ (∀ c ∈ body, '0' ≤ c ∧ c ≤ '9') ∧
      decimalValue 0 body ≤ 2 ^ 64 - 1 ∧ un = decimalValue 0 body := by
  unfold parseUint
  by_cases hb : body = []
  · simp [hb]
  · rw [if_neg hb, parseUintDigits_eq_ok body 0 (by omega)]
    exact ⟨fun h => ⟨hb, h⟩, fun h => h.2⟩

/-- After the sign, `ParseInt` succeeds exactly on a nonempty run of digits whose value with the
sign is an `int64`, and returns that. -/
theorem parseSigned_eq_ok {neg : Bool} {body : List Char} {n : Int} :
    parseSigned neg body = .ok n ↔ body ≠ [] ∧ (∀ c ∈ body, '0' ≤ c ∧ c ≤ '9') ∧
      n = (if neg then -(decimalValue 0 body : Int) else decimalValue 0 body) ∧
      intMin ≤ n ∧ n ≤ intMax := by
  unfold parseSigned intMin intMax
  cases hu : parseUint body with
  | error err =>
    refine ⟨nofun, fun ⟨hb, hd, hn, hlo, hhi⟩ => ?_⟩
    have hfit : decimalValue 0 body ≤ 2 ^ 64 - 1 := by
      cases neg <;> simp only [Bool.false_eq_true, ↓reduceIte] at hn <;> omega
    have hok := parseUint_eq_ok.mpr ⟨hb, hd, hfit, rfl⟩
    rw [hu] at hok
    cases hok
  | ok un =>
    obtain ⟨hb, hd, -, rfl⟩ := parseUint_eq_ok.mp hu
    simp only [hb, ne_eq, not_false_eq_true, true_and]
    cases neg
    · -- no minus sign: the value must be below `2^63`
      simp only [Bool.not_false, true_and, Bool.false_eq_true, false_and, if_false]
      by_cases hr : 2 ^ 63 ≤ decimalValue 0 body
      · rw [if_pos hr]
        exact ⟨nofun, fun ⟨hn, _, hhi⟩ => by omega⟩
      · rw [if_neg hr, Except.ok.injEq]
        exact ⟨fun h => ⟨hd, h.symm, by omega, by omega⟩, fun h => h.2.1.symm⟩
    · -- a minus sign: the value may be `2^63`
      simp only [Bool.not_true, Bool.false_eq_true, false_and, if_false, true_and, if_true]
      by_cases hr : 2 ^ 63 < decimalValue 0 body
      · rw [if_pos hr]
        exact ⟨nofun, fun ⟨hn, hlo, _⟩ => by omega⟩
      · rw [if_neg hr, Except.ok.injEq]
        exact ⟨fun h => ⟨hd, h.symm, by omega, by omega⟩, fun h => h.2.1.symm⟩

/-- `ParseInt(s, 10, 64)` returns `n` exactly when `s` is a decimal numeral of `n`. -/
theorem parseInt64_eq_ok (s : String) (n : Int) : parseInt64 s = .ok n ↔ IsDecimal s n := by
  have not_digit : ∀ c, '0' ≤ c ∧ c ≤ '9' → c ≠ '+' ∧ c ≠ '-' := by
    rintro c ⟨h0, -⟩
    exact ⟨fun h => absurd (h ▸ h0) (by decide), fun h => absurd (h ▸ h0) (by decide)⟩
  unfold parseInt64 IsDecimal
  cases hs : s.toList with
  | nil =>
    refine ⟨nofun, ?_⟩
    rintro ⟨sign, digits, h, -, hne, -⟩
    exact absurd (List.append_eq_nil.mp h.symm).2 hne
  | cons c cs =>
    dsimp only
    by_cases hplus : c = '+'
    · -- a plus sign: the digits follow it
      subst hplus
      rw [if_pos rfl, parseSigned_eq_ok]
      refine ⟨fun ⟨hb, hd, hn, hr⟩ => ⟨['+'], cs, rfl, .inr (.inl rfl), hb, hd, hn, hr⟩, ?_⟩
      rintro ⟨sign, digits, h, rfl | rfl | rfl, hb, hd, hn, hr⟩
      · exact absurd rfl
          (not_digit _ (hd _ (h.trans (List.nil_append _) ▸ List.mem_cons_self _ _))).1
      · exact (List.cons.inj h).2 ▸ ⟨hb, hd, hn, hr⟩
      · exact absurd (List.cons.inj h).1 (by decide)
    by_cases hminus : c = '-'
    · -- a minus sign: the digits follow it, and the value is negated
      subst hminus
      rw [if_neg hplus, if_pos rfl, parseSigned_eq_ok]
      refine ⟨fun ⟨hb, hd, hn, hr⟩ => ⟨['-'], cs, rfl, .inr (.inr rfl), hb, hd, hn, hr⟩, ?_⟩
      rintro ⟨sign, digits, h, rfl | rfl | rfl, hb, hd, hn, hr⟩
      · exact absurd rfl
          (not_digit _ (hd _ (h.trans (List.nil_append _) ▸ List.mem_cons_self _ _))).2
      · exact absurd (List.cons.inj h).1 (by decide)
      · exact (List.cons.inj h).2 ▸ ⟨hb, hd, hn, hr⟩
    · -- no sign: the digits start at the first byte
      rw [if_neg hplus, if_neg hminus, parseSigned_eq_ok]
      refine ⟨fun ⟨hb, hd, hn, hr⟩ => ⟨[], c :: cs, rfl, .inl rfl, hb, hd, hn, hr⟩, ?_⟩
      rintro ⟨sign, digits, h, rfl | rfl | rfl, hb, hd, hn, hr⟩
      · exact h ▸ ⟨hb, hd, hn, hr⟩
      · exact absurd (List.cons.inj h).1 hplus
      · exact absurd (List.cons.inj h).1 hminus

/-! ## Records and results -/

/-- `models.AttributeSubscription`. -/
structure AttributeSubscription where
  endpointId : Option Int
  clusterId : Option Int
  attributeId : Option Int

/-- `models.MatterNodeData`. The two `time.Time` fields are their instants in nanoseconds. -/
structure MatterNodeData where
  nodeId : Int
  dateCommissioned : Int
  lastInterview : Int
  interviewVersion : Int
  available : Bool
  isBridge : Bool
  attributes : List (String × Value)
  attributeSubscriptions : List AttributeSubscription

/-- `models.ServerInfoMessage`. -/
structure ServerInfoMessage where
  fabricId : Int
  compressedFabricId : Int
  schemaVersion : Int
  minSupportedSchemaVersion : Int
  sdkVersion : String
  wifiCredentialsSet : Bool
  threadCredentialsSet : Bool
  bluetoothEnabled : Bool

/-- `models.ServerDiagnostics`. -/
structure ServerDiagnostics where
  info : ServerInfoMessage
  nodes : List MatterNodeData
  events : List Value

/-- The non-nil results the handlers return, by their Go type. -/
inductive CommandResult
  | serverInfo (info : ServerInfoMessage)
  /-- `[]*models.MatterNodeData` -/
  | nodes (nodes : List MatterNodeData)
  /-- `*models.MatterNodeData` -/
  | node (node : MatterNodeData)
  | diagnostics (d : ServerDiagnostics)
  /-- `models.NodePingResult`, a `map[string]bool`. -/
  | ping (result : List (String × Bool))

/-- The errors the handlers return, one per `fmt.Errorf` of the source, with its operands. -/
inductive CommandError
  /-- `"missing required parameter: node_id"` -/
  | missingNodeId
  /-- `"invalid node_id: %v"` of `json.Number.Int64`'s error -/
  | invalidNumber (err : NumError)
  /-- `"invalid node_id: expected number, got %q"` -/
  | expectedNumber (got : String)
  /-- `"invalid node_id: unsupported type"` -/
  | unsupportedType
  /-- `"node %d not found"` -/
  | nodeNotFound (nodeId : Int)
  /-- `"unknown command: %s"` -/
  | unknownCommand (command : String)
  deriving DecidableEq, Repr

/-- Go's `(interface{}, error)`: each is nil (`none`) or not. -/
abbrev GoResult := Option CommandResult × Option CommandError

/-- `models.CommandMessage`. -/
structure CommandMessage where
  messageId : String
  command : String
  args : Args

/-- The node registry `s.nodes`, a `map[int]*models.MatterNodeData`. -/
abbrev NodeMap := AList fun _ : Int => MatterNodeData

/-- The fields of the `Server` struct the handlers read. -/
structure ServerState where
  serverInfo : ServerInfoMessage
  nodes : NodeMap

/-! ## The handlers -/

/-- `parseNodeID(args)`. -/
def parseNodeID (args : Args) : Except CommandError Int :=
  match args.lookup "node_id" with
  | none => .error .missingNodeId
  | some (.float64 t) => .ok t.toInt
  | some (.int t) => .ok t
  | some (.int64 t) => .ok t
  | some (.number t) =>
    match parseInt64 t with
    | .ok i => .ok i
    | .error err => .error (.invalidNumber err)
  | some (.string t) =>
    match parseInt64 t with
    | .ok i => .ok i
    | .error _ => .error (.expectedNumber t)
  | some _ => .error .unsupportedType

/-- A `float64` that is exactly an `int` converts to it. -/
theorem Float64.toInt_of_denotes {x : Float64} {n : Int} (h : x.Denotes n) (hlo : intMin ≤ n)
    (hhi : n ≤ intMax) : x.toInt = n := by
  have htrunc : x.trunc = n := by
    unfold Float64.Denotes at h
    unfold Float64.trunc
    split_ifs at h ⊢
    · exact h.symm
    · rw [h]
      exact Int.mul_tdiv_cancel n (by norm_cast; exact (Nat.pos_pow_of_pos _ (by decide)).ne')
  rw [Float64.toInt, htrunc, if_pos ⟨hlo, hhi⟩]

/-- Apart from a `float64` with a fractional part, `parseNodeID` returns exactly the ID the client
sent: a string or a `json.Number` gives `n` exactly when it is a decimal numeral of `n`, an
`int` or an `int64` gives itself, a `float64` that is exactly an `int` gives that integer, and a
missing `node_id` is an error. -/
theorem parseNodeID_exact (args : Args) (n : Int) :
    (∀ t, args.lookup "node_id" = some (.string t) ∨ args.lookup "node_id" = some (.number t) →
      (parseNodeID args = .ok n ↔ IsDecimal t n)) ∧
    (∀ m, args.lookup "node_id" = some (.int m) ∨ args.lookup "node_id" = some (.int64 m) →
      (parseNodeID args = .ok n ↔ n = m)) ∧
    (∀ x, args.lookup "node_id" = some (.float64 x) → x.Denotes n → intMin ≤ n → n ≤ intMax →
      parseNodeID args = .ok n) ∧
    (args.lookup "node_id" = none → parseNodeID args = .error .missingNodeId) := by
  refine ⟨fun t ht => ?_, fun m hm => ?_, fun x hx hd hlo hhi => ?_, fun h => by
    simp [parseNodeID, h]⟩
  · -- the text goes through `ParseInt`, whose error becomes the handler's
    rw [← parseInt64_eq_ok]
    rcases ht with ht | ht <;> simp only [parseNodeID, ht] <;> cases parseInt64 t <;> simp
  · rcases hm with hm | hm <;> simp [parseNodeID, hm, eq_comm]
  · simp [parseNodeID, hx, Float64.toInt_of_denotes hd hlo hhi]

/-- The copies `handleGetNodes` collects, one per entry of the registry. -/
def nodeCopies (s : ServerState) : List MatterNodeData := s.nodes.entries.map Sigma.snd

/-- `handleServerInfo`. -/
def handleServerInfo (s : ServerState) : GoResult := (some (.serverInfo s.serverInfo), none)

/-- `handleGetNodes`. -/
def handleGetNodes (s : ServerState) : GoResult := (some (.nodes (nodeCopies s)), none)

/-- The steps `handleGetNode` and `handlePingNode` share: `parseNodeID`, then the lookup under
`nodesMu`, then the result built from the record found. -/
def withNode (s : ServerState) (args : Args) (result : MatterNodeData → CommandResult) :
    GoResult :=
  match parseNodeID args with
  | .error err => (none, some err)
  | .ok nodeID =>
    match s.nodes.lookup nodeID with
    | none => (none, some (.nodeNotFound nodeID))
    | some node => (some (result node), none)

/-- `handleGetNode`: a copy of the record. -/
def handleGetNode (s : ServerState) (args : Args) : GoResult := withNode s args .node

/-- `handleServerDiagnostics`: `handleGetNodes` returns no error and a `[]*MatterNodeData`, so
its error check and type assertion always pass. -/
def handleServerDiagnostics (s : ServerState) : GoResult :=
  (some (.diagnostics ⟨s.serverInfo, nodeCopies s, []⟩), none)

/-- `handleStartListening`. -/
def handleStartListening (s : ServerState) : GoResult := handleGetNodes s

/-- `handlePingNode`: `{"reachable": true}` for a known node. -/
def handlePingNode (s : ServerState) (args : Args) : GoResult :=
  withNode s args fun _ => .ping [("reachable", true)]

/-- `HandleCommand(ctx, cmd)`. -/
def handleCommand (s : ServerState) (cmd : CommandMessage) : GoResult :=
  match cmd.command with
  | "server_info" => handleServerInfo s
  | "get_nodes" => handleGetNodes s
  | "get_node" => handleGetNode s cmd.args
  | "diagnostics" => handleServerDiagnostics s
  | "start_listening" => handleStartListening s
  | "ping_node" => handlePingNode s cmd.args
  | command => (none, some (.unknownCommand command))

/-! ## What `HandleCommand` returns -/

/-- `encoding/json` and Go maps keep one entry per key: listing the entries' records is listing
the record of each key. -/
theorem map_snd_eq_filterMap_dlookup {α β : Type} [DecidableEq α] :
    ∀ l : List (Σ _ : α, β), l.NodupKeys → l.map Sigma.snd = l.keys.filterMap (l.dlookup ·)
  | [], _ => rfl
  | ⟨a, b⟩ :: t, h => by
    rw [List.nodupKeys_cons] at h
    have hrest : t.keys.filterMap (List.dlookup · (⟨a, b⟩ :: t)) = t.keys.filterMap (t.dlookup ·) :=
      List.filterMap_congr fun k hk => List.dlookup_cons_ne _ _ fun he => h.1 (he ▸ hk)
    simp [List.keys_cons, List.dlookup_cons_eq, hrest, map_snd_eq_filterMap_dlookup t h.2]

/-- The registry's records, one per key. -/
theorem nodeCopies_eq (s : ServerState) :
    nodeCopies s = s.nodes.keys.filterMap fun k => s.nodes.lookup k :=
  map_snd_eq_filterMap_dlookup _ s.nodes.nodupKeys

/-- `withNode` returns exactly one of a result and an error; it succeeds exactly when the ID
parses to a key of the registry, with the result built from that key's record, and fails with the
parse error or with `node %d not found` otherwise. -/
theorem withNode_spec (s : ServerState) (args : Args) (result : MatterNodeData → CommandResult) :
    (withNode s args result).1.isSome = !(withNode s args result).2.isSome ∧
      ((withNode s args result).2 = none ↔ ∃ n, parseNodeID args = .ok n ∧ n ∈ s.nodes) ∧
      (∀ n node, parseNodeID args = .ok n → s.nodes.lookup n = some node →
        (withNode s args result).1 = some (result node)) ∧
      (∀ err, parseNodeID args = .error err → (withNode s args result).2 = some err) ∧
      (∀ n, parseNodeID args = .ok n → n ∉ s.nodes →
        (withNode s args result).2 = some (.nodeNotFound n)) := by
  unfold withNode
  cases hp : parseNodeID args with
  | error err => simp
  | ok n =>
    dsimp only
    cases hl : s.nodes.lookup n with
    | none =>
      have hmem : n ∉ s.nodes := AList.lookup_eq_none.mp hl
      refine ⟨rfl, ⟨nofun, fun ⟨_, h, hm⟩ => absurd (Except.ok.inj h ▸ hm) hmem⟩, ?_, nofun,
        fun _ h _ => by rw [Except.ok.inj h]⟩
      rintro _ _ ⟨⟩ h
      rw [hl] at h
      cases h
    | some node =>
      have hmem : n ∈ s.nodes := AList.lookup_isSome.mp (by rw [hl]; rfl)
      refine ⟨rfl, by simp [hmem], ?_, by simp, by simp [hmem]⟩
      rintro _ _ ⟨⟩ h
      rw [hl] at h
      cases h
      rfl

/-- The commands `HandleCommand` knows. -/
def knownCommands : List String :=
  ["server_info", "get_nodes", "get_node", "diagnostics", "start_listening", "ping_node"]

/-- `HandleCommand` on a command it does not know. -/
theorem handleCommand_unknown (s : ServerState) {cmd : CommandMessage}
    (h : cmd.command ∉ knownCommands) :
    handleCommand s cmd = (none, some (.unknownCommand cmd.command)) := by
  simp only [knownCommands, List.mem_cons, List.mem_singleton, List.not_mem_nil, or_false,
    not_or] at h
  obtain ⟨h1, h2, h3, h4, h5, h6⟩ := h
  unfold handleCommand
  split <;> simp_all

/-- For every registry and command, `HandleCommand` returns exactly one of a result and an error.
`get_node` and `ping_node` succeed exactly when `parseNodeID` gives a key of the registry, and
return a copy of its record and `{"reachable": true}`; otherwise the parse error or `node %d not
found`. `get_nodes` and `start_listening` return the registry's records, one per key;
`diagnostics` the server info, the same records and no events; `server_info` the server info;
any other name is an unknown command. -/
theorem handleCommand_spec (s : ServerState) (cmd : CommandMessage) :
    (handleCommand s cmd).1.isSome = !(handleCommand s cmd).2.isSome ∧
    (cmd.command = "get_node" ∨ cmd.command = "ping_node" →
      ((handleCommand s cmd).2 = none ↔ ∃ n, parseNodeID cmd.args = .ok n ∧ n ∈ s.nodes) ∧
      (∀ err, parseNodeID cmd.args = .error err → (handleCommand s cmd).2 = some err) ∧
      (∀ n, parseNodeID cmd.args = .ok n → n ∉ s.nodes →
        (handleCommand s cmd).2 = some (.nodeNotFound n))) ∧
    (cmd.command = "get_node" → ∀ n node, parseNodeID cmd.args = .ok n →
      s.nodes.lookup n = some node → (handleCommand s cmd).1 = some (.node node)) ∧
    (cmd.command = "ping_node" → ∀ n, parseNodeID cmd.args = .ok n → n ∈ s.nodes →
      (handleCommand s cmd).1 = some (.ping [("reachable", true)])) ∧
    (cmd.command = "get_nodes" ∨ cmd.command = "start_listening" →
      ∃ nodes, (handleCommand s cmd).1 = some (.nodes nodes) ∧
        nodes.Perm (s.nodes.keys.filterMap fun k => s.nodes.lookup k)) ∧
    (cmd.command = "diagnostics" →
      ∃ nodes, (handleCommand s cmd).1 = some (.diagnostics ⟨s.serverInfo, nodes, []⟩) ∧
        nodes.Perm (s.nodes.keys.filterMap fun k => s.nodes.lookup k)) ∧
    (cmd.command = "server_info" → (handleCommand s cmd).1 = some (.serverInfo s.serverInfo)) ∧
    (cmd.command ∉ knownCommands →
      handleCommand s cmd = (none, some (.unknownCommand cmd.command))) := by
  obtain ⟨messageId, command, args⟩ := cmd
  have hnodes : (nodeCopies s).Perm (s.nodes.keys.filterMap fun k => s.nodes.lookup k) := by
    rw [nodeCopies_eq]
  obtain ⟨get₁, get₂, get₃, get₄, get₅⟩ := withNode_spec s args .node
  obtain ⟨ping₁, ping₂, ping₃, ping₄, ping₅⟩ :=
    withNode_spec s args fun _ => .ping [("reachable", true)]
  refine ⟨?_, fun h => ?_, fun h => ?_, fun h => ?_, fun h => ?_, fun h => ?_, fun h => ?_,
    @handleCommand_unknown s ⟨messageId, command, args⟩⟩
  · -- one of a result and an error, command by command
    by_cases hk : command ∈ knownCommands
    · simp only [knownCommands, List.mem_cons, List.mem_singleton, List.not_mem_nil,
        or_false] at hk
      rcases hk with rfl | rfl | rfl | rfl | rfl | rfl
      all_goals first | rfl | exact get₁ | exact ping₁
    · rw [@handleCommand_unknown s ⟨messageId, command, args⟩ hk]
      rfl
  · -- `get_node` and `ping_node` look the ID up
    rcases h with rfl | rfl
    · exact ⟨get₂, get₄, get₅⟩
    · exact ⟨ping₂, ping₄, ping₅⟩
  · subst h
    exact get₃
  · subst h
    intro n hn hm
    obtain ⟨node, hl⟩ := Option.isSome_iff_exists.mp (AList.lookup_isSome.mpr hm)
    exact ping₃ n node hn hl
  · rcases h with rfl | rfl <;> exact ⟨_, rfl, hnodes⟩
  · subst h
    exact ⟨_, rfl, hnodes⟩
  · subst h
    rfl

/-! ## A fractional node ID -/

/-- `1.5`, as `encoding/json` decodes the JSON number `1.5`: `3 · 2^-1`. -/
def oneAndHalf : Float64 := ⟨3, -1, by decide, by decide, by decide⟩

/-- The arguments `{"node_id": v}`. -/
def nodeIdArgs (v : Value) : Args := AList.insert "node_id" v ∅

/-- The server info `New` builds for fabric 1. -/
def fabricOneInfo : ServerInfoMessage :=
  ⟨1, 1, 11, 1, "go-matter-server-1.0.0", false, false, false⟩

/-- A node with ID 1. -/
def nodeOne : MatterNodeData := ⟨1, 0, 0, 0, true, false, [], []⟩

/-- A server whose registry holds node 1. -/
def nodeOneServer : ServerState := ⟨fabricOneInfo, AList.insert 1 nodeOne ∅⟩

/-- `{"node_id": 1.5}` is not the integer 1, but `parseNodeID` truncates it to 1 and `get_node`
returns node 1. -/
theorem parseNodeID_truncates :
    ¬ oneAndHalf.Denotes 1 ∧ parseNodeID (nodeIdArgs (.float64 oneAndHalf)) = .ok 1 ∧
      handleCommand nodeOneServer ⟨"m1", "get_node", nodeIdArgs (.float64 oneAndHalf)⟩ =
        (some (.node nodeOne), none) :=
  ⟨by decide, rfl, rfl⟩

end MatterServer.Server
