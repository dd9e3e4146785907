import MatterServer.Mdns.Message

/-!
# Parsing DNS messages

`parseName` and `parseDNSMessage` of `internal/mdns/server.go`. The label loop of `parseName` is
`nameStep`, one pass of the Go `for offset < len(buf)` loop on the loop's variables `NameLoop`;
`nameLoop` runs it with fuel, since nothing in the loop bounds how often a compression pointer
may be followed. `parseQuestions` is the `for i < qdCount` loop of `parseDNSMessage`, which gives
each `parseName` call the same fuel and keeps the offset variable, so that the position after the
last question can be read off.

The general facts are that more fuel never changes a result that does not depend on the fuel
(`nameLoop_mono`, `parseDNSMessage_mono`) and that the only read that can fall outside the
buffer is the second byte of a pointer whose first byte is the packet's last byte
(`nameStep_eq_panic`, then the same for the whole parser). The last section evaluates the parser
on three packets: one it panics on, one it never returns on, and one whose name points outside the
buffer and that it accepts.
-/

namespace MatterServer.Mdns

/-- The variables of `parseName`'s loop: the labels read so far, the read position, the offset to
return once a pointer has been followed, and whether one has. -/
structure NameLoop where
  name : List Bytes
  offset : Nat
  original : Nat
  jumped : Bool
  deriving DecidableEq, Repr

/-- What one pass of the loop does: go round again, or leave the loop (by `break` or by its
condition) with the variables as they are then. -/
inductive NameStep where
  | next (s : NameLoop)
  | exit (s : NameLoop)
  deriving DecidableEq, Repr

/-- `int(buf[offset]&0x3f)<<8 | int(buf[offset+1])`: the offset a compression pointer names. -/
def pointerTarget (hi lo : UInt8) : Nat := (hi &&& 0x3f).toNat <<< 8 ||| lo.toNat

/-- One pass of the label loop of `parseName`. -/
def nameStep (buf : Bytes) (s : NameLoop) : Run NameStep :=
  if s.offset < buf.length then do
    let length ← index buf s.offset
    if length = 0 then return .exit { s with offset := s.offset + 1 }
    else if length &&& 0xc0 = 0xc0 then do
      let lo ← index buf (s.offset + 1)
      return .next { s with
        original := if s.jumped then s.original else s.offset + 2
        offset := pointerTarget length lo
        jumped := true }
    else if buf.length ≤ s.offset + 1 + length.toNat then .error "name extends past buffer"
    else do
      let label ← slice buf (s.offset + 1) (s.offset + 1 + length.toNat)
      return .next { s with name := s.name ++ [label], offset := s.offset + 1 + length.toNat }
  else return .exit s

/-- After the loop: the labels joined with `'.'`, and the offset after the name, which is the one
after the first pointer once a pointer has been followed. -/
def nameResult (s : NameLoop) : Bytes × Nat :=
  ([dot].intercalate s.name, if s.jumped then s.original else s.offset)

/-- The label loop run for at most `fuel` passes. -/
def nameLoop (buf : Bytes) : Nat → NameLoop → Run (Bytes × Nat)
  | 0, _ => .outOfFuel
  | fuel + 1, s => do
    match ← nameStep buf s with
    | .next s' => nameLoop buf fuel s'
    | .exit s' => return nameResult s'

/-- `parseName(buf, offset)`, its loop given `fuel` passes. -/
def parseName (fuel : Nat) (buf : Bytes) (offset : Nat) : Run (Bytes × Nat) :=
  nameLoop buf fuel ⟨[], offset, offset, false⟩

/-- The question loop of `parseDNSMessage`: `n` more questions from `offset`, with the offset
after the last one. -/
def parseQuestions (fuel : Nat) (buf : Bytes) : Nat → Nat → Run (List DnsQuestion × Nat)
  | 0, offset => return ([], offset)
  | n + 1, offset => do
    let (name, newOffset) ← parseName fuel buf offset
    if buf.length < newOffset + 4 then .error "question truncated"
    else do
      let t0 ← index buf newOffset
      let t1 ← index buf (newOffset + 1)
      let c0 ← index buf (newOffset + 2)
      let c1 ← index buf (newOffset + 3)
      let (qs, offset') ← parseQuestions fuel buf n (newOffset + 4)
      return (⟨name, be16 t0 t1, be16 c0 c1⟩ :: qs, offset')

/-- The message `parseDNSMessage` builds from bytes 0 to 3 and the questions. -/
def decodeHeader (b0 b1 b2 b3 : UInt8) (questions : List DnsQuestion) : DnsMessage where
  id := be16 b0 b1
  response := b2 &&& 0x80 != 0
  opcode := (b2 >>> 3) &&& 0x0f
  authoritative := b2 &&& 0x04 != 0
  truncated := b2 &&& 0x02 != 0
  recursionDesired := b2 &&& 0x01 != 0
  recursionAvailable := b3 &&& 0x80 != 0
  rcode := b3 &&& 0x0f
  questions := questions
  answers := []

/-- `parseDNSMessage`: the header, then `qdCount` questions from offset 12. Answers are not read. -/
def parseDNSMessage (fuel : Nat) (buf : Bytes) : Run DnsMessage :=
  if buf.length < 12 then .error "DNS message too short"
  else do
    let b0 ← index buf 0
    let b1 ← index buf 1
    let b2 ← index buf 2
    let b3 ← index buf 3
    let b4 ← index buf 4
    let b5 ← index buf 5
    let (questions, _) ← parseQuestions fuel buf (be16 b4 b5).toNat 12
    return decodeHeader b0 b1 b2 b3 questions

/-- On a packet of at least twelve bytes, the header reads are in range and `parseDNSMessage`
is its question loop. -/
theorem parseDNSMessage_eq {fuel : Nat} {buf : Bytes} (h : 12 ≤ buf.length) :
    parseDNSMessage fuel buf =
      (parseQuestions fuel buf (be16 buf[4] buf[5]).toNat 12 >>= fun r =>
        .ok (decodeHeader buf[0] buf[1] buf[2] buf[3] r.1)) := by
  simp only [parseDNSMessage, show ¬buf.length < 12 by omega, if_false,
    index_of_lt (show 0 < buf.length by omega), index_of_lt (show 1 < buf.length by omega),
    index_of_lt (show 2 < buf.length by omega), index_of_lt (show 3 < buf.length by omega),
    index_of_lt (show 4 < buf.length by omega), index_of_lt (show 5 < buf.length by omega),
    Run.ok_bind]
  rfl

/-! ## The branches of one pass -/

/-- At a zero byte the loop leaves, past it. -/
theorem nameStep_zero (pre rest : Bytes) {s : NameLoop} (h : s.offset = pre.length) :
    nameStep (pre ++ 0 :: rest) s = .ok (.exit { s with offset := pre.length + 1 }) := by
  have hidx : index (pre ++ 0 :: rest) pre.length = .ok 0 := by
    rw [← Nat.add_zero pre.length, index_append_right]
    simp [index]
  simp [nameStep, hidx, h]

/-- At the length byte of a label that has bytes after it, the loop reads the label. -/
theorem nameStep_label (pre label rest : Bytes) {b : UInt8} {s : NameLoop}
    (h : s.offset = pre.length) (hb0 : b ≠ 0) (hbc : b &&& 0xc0 ≠ 0xc0)
    (hlen : b.toNat = label.length) (hrest : rest ≠ []) :
    nameStep (pre ++ b :: label ++ rest) s =
      .ok (.next { s with
        name := s.name ++ [label], offset := pre.length + 1 + label.length }) := by
  have hidx : index (pre ++ b :: label ++ rest) pre.length = .ok b := by
    rw [← Nat.add_zero pre.length, List.append_assoc, index_append_right]
    simp [index]
  have hslice : slice (pre ++ b :: label ++ rest) (pre.length + 1) (pre.length + 1 + label.length)
      = .ok label := by
    simpa using slice_append_prefix (pre ++ [b]) label rest
  have hrest' : 0 < rest.length := List.length_pos.mpr hrest
  have hfits : ¬(pre ++ b :: label ++ rest).length ≤ pre.length + 1 + label.length := by
    simp only [List.length_append, List.length_cons]
    omega
  simp only [nameStep, h, hidx, hb0, hbc, hlen, hfits, hslice, if_false, Run.ok_bind,
    Run.pure_eq]
  simp

/-- At a pointer, the loop jumps to its target and remembers the offset after the pointer if it
is the first. -/
theorem nameStep_pointer (pre rest : Bytes) {b lo : UInt8} {s : NameLoop}
    (h : s.offset = pre.length) (hbc : b &&& 0xc0 = 0xc0) :
    nameStep (pre ++ b :: lo :: rest) s =
      .ok (.next { s with
        original := if s.jumped then s.original else pre.length + 2
        offset := pointerTarget b lo
        jumped := true }) := by
  have hb0 : b ≠ 0 := by rintro rfl; exact absurd hbc (by decide)
  have hidx : index (pre ++ b :: lo :: rest) pre.length = .ok b := by
    rw [← Nat.add_zero pre.length, index_append_right]
    simp [index]
  have hidx1 : index (pre ++ b :: lo :: rest) (pre.length + 1) = .ok lo := by
    rw [index_append_right]
    simp [index]
  simp [nameStep, hidx, hidx1, h, hb0, hbc]

/-! ## Fuel -/

/-- A run of the label loop that ended within `n` passes ends the same way with more fuel. -/
theorem nameLoop_mono {buf : Bytes} :
    ∀ {n m : Nat} {s : NameLoop}, nameLoop buf n s ≠ .outOfFuel → n ≤ m →
      nameLoop buf m s = nameLoop buf n s
  | 0, _, _, h, _ => absurd rfl h
  | n + 1, 0, _, _, hle => absurd hle (by omega)
  | n + 1, m + 1, s, h, hle => by
    simp only [nameLoop] at h ⊢
    cases hs : nameStep buf s with
    | ok st =>
      cases st with
      | next s' =>
        simp only [hs, Run.ok_bind] at h ⊢
        exact nameLoop_mono h (by omega)
      | exit s' => rfl
    | _ => rfl

/-- More fuel does not change a result of the question loop that did not run out of fuel. -/
theorem parseQuestions_mono {fuel fuel' : Nat} {buf : Bytes} (hle : fuel ≤ fuel') :
    ∀ {n offset : Nat}, parseQuestions fuel buf n offset ≠ .outOfFuel →
      parseQuestions fuel' buf n offset = parseQuestions fuel buf n offset
  | 0, _, _ => rfl
  | n + 1, offset, h => by
    simp only [parseQuestions] at h ⊢
    have hname : parseName fuel buf offset ≠ .outOfFuel :=
      fun h0 => h (by simp only [h0, Run.outOfFuel_bind])
    rw [parseName, nameLoop_mono hname hle, ← parseName]
    cases hp : parseName fuel buf offset with
    | ok r =>
      simp only [hp, Run.ok_bind] at h ⊢
      by_cases hlen : buf.length < r.2 + 4
      · simp only [hlen, if_true]
      · simp only [hlen, if_false, index_of_lt (show r.2 < buf.length by omega),
          index_of_lt (show r.2 + 1 < buf.length by omega),
          index_of_lt (show r.2 + 2 < buf.length by omega),
          index_of_lt (show r.2 + 3 < buf.length by omega), Run.ok_bind] at h ⊢
        have hrest : parseQuestions fuel buf n (r.2 + 4) ≠ .outOfFuel :=
          fun h0 => h (by simp only [h0, Run.outOfFuel_bind])
        rw [parseQuestions_mono hle hrest]
    | _ => simp only [Run.error_bind, Run.panic_bind, Run.outOfFuel_bind]

/-- A parse that ended within `fuel` passes of each name's loop ends the same way with more. -/
theorem parseDNSMessage_mono {fuel fuel' : Nat} {buf : Bytes} (hle : fuel ≤ fuel')
    (h : parseDNSMessage fuel buf ≠ .outOfFuel) :
    parseDNSMessage fuel' buf = parseDNSMessage fuel buf := by
  by_cases hlen : buf.length < 12
  · simp [parseDNSMessage, hlen]
  · simp only [parseDNSMessage_eq (show 12 ≤ buf.length by omega)] at h ⊢
    have hq : parseQuestions fuel buf (be16 buf[4] buf[5]).toNat 12 ≠ .outOfFuel :=
      fun h0 => h (by simp only [h0, Run.outOfFuel_bind])
    rw [parseQuestions_mono hle hq]

/-! ## Reads out of range -/

/-- One pass of the label loop panics exactly when it reads a pointer whose first byte is the
last byte of the buffer: `buf[offset+1]` is then one past the end. -/
theorem nameStep_eq_panic {buf : Bytes} {s : NameLoop} :
    nameStep buf s = .panic ↔
      s.offset + 1 = buf.length ∧ ∃ b, buf[s.offset]? = some b ∧ b &&& 0xc0 = 0xc0 := by
  unfold nameStep
  by_cases hoff : s.offset < buf.length
  · simp only [hoff, if_true, index_of_lt hoff, Run.ok_bind, List.getElem?_eq_getElem hoff,
      Option.some.injEq, exists_eq_left']
    by_cases h0 : buf[s.offset] = 0
    · simp only [h0, if_true, Run.pure_eq, reduceCtorEq, false_iff, not_and]
      exact fun _ => by decide
    by_cases hc : buf[s.offset] &&& 0xc0 = 0xc0
    · simp only [h0, hc, if_true, if_false, Run.bind_eq_panic, index_eq_panic, and_true]
      constructor
      · rintro (h | ⟨a, -, h⟩)
        · omega
        · cases h
      · intro h
        exact .inl (by omega)
    · simp only [h0, hc, if_false, and_false, iff_false]
      split
      · simp
      · simp [slice, show s.offset + 1 + buf[s.offset].toNat ≤ buf.length by omega]
  · simp only [hoff, if_false, Run.pure_eq, reduceCtorEq, false_iff, not_and]
    intro h
    omega

/-- A run of the label loop that panics has met the last byte of the buffer as a pointer. -/
theorem nameLoop_panic {buf : Bytes} :
    ∀ {n : Nat} {s : NameLoop}, nameLoop buf n s = .panic →
      ∃ b, buf.getLast? = some b ∧ b &&& 0xc0 = 0xc0
  | 0, _, h => by cases h
  | n + 1, s, h => by
    simp only [nameLoop, Run.bind_eq_panic] at h
    rcases h with h | ⟨st, -, h⟩
    · obtain ⟨hlast, b, hb, hc⟩ := nameStep_eq_panic.mp h
      refine ⟨b, ?_, hc⟩
      rw [List.getLast?_eq_getElem?, ← hlast]
      simpa using hb
    · cases st with
      | next s' => exact nameLoop_panic h
      | exit s' => cases h

/-- The question loop panics only where a name's label loop does. -/
theorem parseQuestions_panic {fuel : Nat} {buf : Bytes} :
    ∀ {n offset : Nat}, parseQuestions fuel buf n offset = .panic →
      ∃ b, buf.getLast? = some b ∧ b &&& 0xc0 = 0xc0
  | 0, _, h => by cases h
  | n + 1, offset, h => by
    simp only [parseQuestions, Run.bind_eq_panic] at h
    rcases h with h | ⟨r, -, h⟩
    · exact nameLoop_panic h
    · by_cases hlen : buf.length < r.2 + 4
      · simp [hlen] at h
      · simp only [hlen, if_false, index_of_lt (show r.2 < buf.length by omega),
          index_of_lt (show r.2 + 1 < buf.length by omega),
          index_of_lt (show r.2 + 2 < buf.length by omega),
          index_of_lt (show r.2 + 3 < buf.length by omega), Run.ok_bind, Run.bind_eq_panic] at h
        rcases h with h | ⟨_, -, h⟩
        · exact parseQuestions_panic h
        · cases h

/-- `parseDNSMessage` panics only on a packet whose last byte has its two top bits set: every
read but the second byte of a pointer starting at the last byte is in range. -/
theorem parseDNSMessage_panic {fuel : Nat} {buf : Bytes} (h : parseDNSMessage fuel buf = .panic) :
    ∃ b, buf.getLast? = some b ∧ b &&& 0xc0 = 0xc0 := by
  by_cases hlen : buf.length < 12
  · simp [parseDNSMessage, hlen] at h
  · rw [parseDNSMessage_eq (by omega), Run.bind_eq_panic] at h
    rcases h with h | ⟨_, -, h⟩
    · exact parseQuestions_panic h
    · cases h

/-! ## Three packets

Each is a 12-byte header with one question (`qdCount = 1`) and a name that begins with a
compression pointer. -/

/-- The name is the pointer byte `0xc0` alone, at the last position of the packet. -/
def pointerAtEnd : Bytes := [0, 0, 0, 0, 0, 1, 0, 0, 0, 0, 0, 0, 0xc0]

/-- `parseDNSMessage` panics on `pointerAtEnd`: it reads `buf[13]` of a 13-byte packet. -/
theorem parseDNSMessage_pointerAtEnd (fuel : Nat) :
    parseDNSMessage (fuel + 1) pointerAtEnd = .panic := rfl

/-- On `pointerAtEnd` the panic is the one `parseDNSMessage_panic` allows: its last byte is the
pointer tag. -/
theorem parseDNSMessage_panic_pointerAtEnd :
    parseDNSMessage 1 pointerAtEnd = .panic ∧
      ∃ b, pointerAtEnd.getLast? = some b ∧ b &&& 0xc0 = 0xc0 :=
  ⟨rfl, @parseDNSMessage_panic 1 pointerAtEnd rfl⟩

/-- The name is a pointer to itself, at offset 12. -/
def selfPointer : Bytes := [0, 0, 0, 0, 0, 1, 0, 0, 0, 0, 0, 0, 0xc0, 0x0c]

/-- After the first jump, a pass of the loop leaves its variables as they were. -/
theorem nameStep_selfPointer :
    nameStep selfPointer ⟨[], 12, 14, true⟩ = .ok (.next ⟨[], 12, 14, true⟩) := rfl

/-- From there the loop runs out of any fuel. -/
theorem nameLoop_selfPointer : ∀ n, nameLoop selfPointer n ⟨[], 12, 14, true⟩ = .outOfFuel
  | 0 => rfl
  | n + 1 => by
    rw [nameLoop, nameStep_selfPointer, Run.ok_bind]
    exact nameLoop_selfPointer n

/-- No fuel is enough for `parseDNSMessage` on `selfPointer`: the label loop never exits. -/
theorem parseDNSMessage_selfPointer : ∀ fuel, parseDNSMessage fuel selfPointer = .outOfFuel
  | 0 => rfl
  | n + 1 => by
    have h : parseName (n + 1) selfPointer 12 = .outOfFuel := nameLoop_selfPointer n
    rw [parseDNSMessage_eq (by decide)]
    show (parseQuestions (n + 1) selfPointer 1 12 >>= _) = _
    rw [parseQuestions, h]
    rfl

/-- The name is a pointer to offset 255, past the end of the 18-byte packet, followed by the
question's type and class. -/
def outsidePointer : Bytes := [0, 0, 0, 0, 0, 1, 0, 0, 0, 0, 0, 0, 0xc0, 0xff, 0, 1, 0, 1]

/-- `parseDNSMessage` accepts `outsidePointer`, with the empty name for its question, although
the name's pointer leaves the buffer. -/
theorem parseDNSMessage_outsidePointer (fuel : Nat) :
    outsidePointer.length ≤ pointerTarget 0xc0 0xff ∧
      parseDNSMessage (fuel + 2) outsidePointer =
        .ok ⟨0, false, 0, false, false, false, false, 0, [⟨[], 1, 1⟩], []⟩ :=
  ⟨by decide, rfl⟩

end MatterServer.Mdns
