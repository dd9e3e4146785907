import Mathlib.Algebra.Order.BigOperators.Group.List
import Mathlib.Algebra.Order.Ring.Nat
import MatterServer.Mdns.Parse

/-!
# Encoding then parsing

`parseDNSMessage` reads back what `encodeDNSMessage` writes, when every label of every name is
shorter than 192 bytes and the parser has a pass of its name loop for every label
(`encodeDNSMessage_roundTrip`, with `labelFuel`). The encoder writes a label's length
as `byte(len(part))` and checks no bound, so a label of 192 to 255 bytes gets a length byte whose
top two bits are set, which the parser takes for a compression pointer: `longLabelMessage` is such
a message, and parsing its encoding never succeeds.

The answer section is not read by `parseDNSMessage`; `readAnswers` reads it as the wire format
lays it out (a name by `parseName`, then type, class, TTL and RDLENGTH big-endian, then RDLENGTH
bytes), from the offset at which the question loop stops.

The proof goes up from one name (`parseName_encodeName`, by induction over its labels with
`nameStep_label` and `nameStep_zero`), to the question list and the answer list (by induction
over the list), to the header's flag bytes (a finite check over the flags and the nibble).
-/

namespace MatterServer.Mdns

/-! ## Names -/

/-- The labels of a name: its nonempty parts at `'.'`, the parts `encodeName` writes. -/
def nameLabels (name : Bytes) : List Bytes := (name.splitOn dot).filter (· ≠ [])

/-- A name the round trip admits: empty, or `'.'`-separated nonempty labels. -/
def WellFormedName (name : Bytes) : Prop := name = [] ∨ ∀ l ∈ name.splitOn dot, l ≠ []

/-- Every part of the name is shorter than 192 bytes, so that its length byte does not carry the
pointer tag `0xc0`. -/
def ShortLabels (name : Bytes) : Prop := ∀ l ∈ name.splitOn dot, l.length < 192

/-- Well-formedness is decided label by label. -/
instance (name : Bytes) : Decidable (WellFormedName name) :=
  inferInstanceAs (Decidable (name = [] ∨ ∀ l ∈ name.splitOn dot, l ≠ []))

/-- The label bound is decided label by label. -/
instance (name : Bytes) : Decidable (ShortLabels name) :=
  inferInstanceAs (Decidable (∀ l ∈ name.splitOn dot, l.length < 192))

/-- `encodeParts` writes nothing for an empty part, so dropping empty parts changes nothing. -/
theorem encodeParts_filter :
    ∀ ls : List Bytes, encodeParts (ls.filter (· ≠ [])) = encodeParts ls
  | [] => rfl
  | l :: ls => by
    by_cases h : l = []
    · subst h
      simpa [encodeParts] using encodeParts_filter ls
    · simpa [encodeParts, List.filter_cons, h] using encodeParts_filter ls

/-- A well-formed name is written as its labels and the zero byte: it is not `"."`. -/
theorem encodeName_eq {name : Bytes} (hw : WellFormedName name) :
    encodeName name = encodeParts (nameLabels name) ++ [0] := by
  have hdot : name ≠ [dot] := by
    rintro rfl
    rcases hw with h | h
    · cases h
    · exact h [] (by decide) rfl
  rw [encodeName, if_neg hdot, nameLabels, encodeParts_filter]

/-- Joining the labels of a well-formed name gives the name back. -/
theorem intercalate_nameLabels {name : Bytes} (hw : WellFormedName name) :
    [dot].intercalate (nameLabels name) = name := by
  rcases hw with rfl | h
  · rfl
  · rw [nameLabels, List.filter_eq_self.mpr (fun l hl => by simpa using h l hl),
      List.intercalate_splitOn]

/-- The length byte of a label of `n` bytes, `0 < n < 192`: its value, not zero, and without the
pointer tag. -/
theorem labelByte {n : Nat} (h0 : 0 < n) (h : n < 192) :
    (UInt8.ofNat n).toNat = n ∧ UInt8.ofNat n ≠ 0 ∧ UInt8.ofNat n &&& 0xc0 ≠ 0xc0 := by
  have hn : (UInt8.ofNat n).toNat = n := UInt8.toNat_ofNat_of_lt (show n < 256 by omega)
  have hc : (0xc0 : UInt8).toNat = 192 := rfl
  refine ⟨hn, fun h' => ?_, fun h' => ?_⟩
  · have h0' := congrArg UInt8.toNat h'
    rw [hn, UInt8.toNat_zero] at h0'
    omega
  · have h192 := congrArg UInt8.toNat h'
    have hle : n &&& 192 ≤ n := Nat.and_le_left
    rw [UInt8.and_toNat, hn, hc] at h192
    omega

/-- The label loop reads labels written by `encodeParts`, one pass each, and stands at what
follows them. -/
theorem nameLoop_labels (post : Bytes) (orig : Nat) (j : Bool) (hpost : post ≠ []) :
    ∀ (ls : List Bytes) (pre : Bytes) (acc : List Bytes) (k : Nat),
      (∀ l ∈ ls, 0 < l.length ∧ l.length < 192) →
      nameLoop (pre ++ encodeParts ls ++ post) (ls.length + k) ⟨acc, pre.length, orig, j⟩ =
        nameLoop (pre ++ encodeParts ls ++ post) k
          ⟨acc ++ ls, (pre ++ encodeParts ls).length, orig, j⟩
  | [], pre, acc, k, _ => by simp [encodeParts]
  | l :: ls, pre, acc, k, h => by
    obtain ⟨hn, hz, hc⟩ := labelByte (h l (.head _)).1 (h l (.head _)).2
    have hl : l ≠ [] := List.length_pos.mp (h l (.head _)).1
    have hbuf : pre ++ encodeParts (l :: ls) ++ post =
        pre ++ UInt8.ofNat l.length :: l ++ (encodeParts ls ++ post) := by
      simp [encodeParts, hl]
    have hbuf' : pre ++ UInt8.ofNat l.length :: l ++ (encodeParts ls ++ post) =
        (pre ++ UInt8.ofNat l.length :: l) ++ encodeParts ls ++ post := by
      simp
    have hoff : pre.length + 1 + l.length = (pre ++ UInt8.ofNat l.length :: l).length := by
      simp only [List.length_append, List.length_cons]
      omega
    have ih := nameLoop_labels post orig j hpost ls (pre ++ UInt8.ofNat l.length :: l)
      (acc ++ [l]) k (fun l' hl' => h l' (.tail _ hl'))
    rw [show (l :: ls).length + k = (ls.length + k) + 1 by simp; omega, nameLoop, hbuf,
      nameStep_label pre l _ rfl hz hc hn (by simp [hpost]), Run.ok_bind]
    simp only
    rw [hbuf', hoff, ih]
    simp [encodeParts, hl]

/-- The label loop reads labels written by `encodeParts` and stops at the zero byte after them. -/
theorem nameLoop_encodeParts (post : Bytes) (orig : Nat) :
    ∀ (ls : List Bytes) (pre : Bytes) (acc : List Bytes) (k : Nat),
      (∀ l ∈ ls, 0 < l.length ∧ l.length < 192) →
      nameLoop (pre ++ encodeParts ls ++ 0 :: post) (ls.length + 1 + k)
          ⟨acc, pre.length, orig, false⟩ =
        .ok ([dot].intercalate (acc ++ ls), pre.length + (encodeParts ls).length + 1) := by
  intro ls pre acc k h
  rw [Nat.add_assoc, nameLoop_labels (0 :: post) orig false (List.cons_ne_nil _ _) ls pre acc _ h,
    Nat.add_comm, nameLoop, nameStep_zero _ post rfl]
  simp [nameResult, Nat.add_assoc]

/-- `parseName` reads an encoded well-formed name with short labels back, with the offset after
it, given a pass of its loop for each label and one for the zero byte. -/
theorem parseName_encodeName (pre post : Bytes) {name : Bytes} (hw : WellFormedName name)
    (hs : ShortLabels name) {fuel : Nat} (hf : (nameLabels name).length < fuel) :
    parseName fuel (pre ++ encodeName name ++ post) pre.length =
      .ok (name, (pre ++ encodeName name).length) := by
  have hls : ∀ l ∈ nameLabels name, 0 < l.length ∧ l.length < 192 := fun l hl => by
    simp only [nameLabels, List.mem_filter, decide_eq_true_eq] at hl
    exact ⟨List.length_pos.mpr hl.2, hs l hl.1⟩
  have h := nameLoop_encodeParts post pre.length (nameLabels name) pre []
    (fuel - (nameLabels name).length - 1) hls
  rw [show (nameLabels name).length + 1 + (fuel - (nameLabels name).length - 1) = fuel by omega,
    List.nil_append, intercalate_nameLabels hw] at h
  have hbuf : pre ++ (encodeParts (nameLabels name) ++ [0]) ++ post =
      pre ++ encodeParts (nameLabels name) ++ 0 :: post := by
    simp
  rw [encodeName_eq hw, parseName, hbuf, h]
  simp [Nat.add_assoc]

/-- A read behind a prefix and a field list reads the field. -/
theorem index_fields (pre : Bytes) (fields rest : Bytes) (i : Nat) (h : i < fields.length) :
    index (pre ++ (fields ++ rest)) (pre.length + i) = .ok fields[i] := by
  rw [index_append_right, index_of_lt (by simp; omega)]
  simp [List.getElem_append_left h]

/-! ## Questions -/

/-- The question loop reads back a list of encoded questions whose names are well-formed, have
short labels and fit the fuel, and stops right after them. -/
theorem parseQuestions_encode {fuel : Nat} (post : Bytes) :
    ∀ (qs : List DnsQuestion) (pre : Bytes),
      (∀ q ∈ qs, WellFormedName q.name ∧ ShortLabels q.name ∧
        (nameLabels q.name).length < fuel) →
      parseQuestions fuel (pre ++ qs.flatMap encodeQuestion ++ post) qs.length pre.length =
        .ok (qs, (pre ++ qs.flatMap encodeQuestion).length)
  | [], pre, _ => by simp [parseQuestions]
  | q :: qs, pre, h => by
    obtain ⟨hw, hs, hf⟩ := h q (.head _)
    -- The name, then the four bytes of type and class, then the other questions.
    have hbuf : pre ++ (q :: qs).flatMap encodeQuestion ++ post = pre ++ encodeName q.name ++
        ([hi8 q.type, lo8 q.type, hi8 q.class, lo8 q.class] ++
          (qs.flatMap encodeQuestion ++ post)) := by
      simp [encodeQuestion]
    have hname := parseName_encodeName pre
      ([hi8 q.type, lo8 q.type, hi8 q.class, lo8 q.class] ++ (qs.flatMap encodeQuestion ++ post))
      hw hs hf
    have hlen : ¬(pre ++ encodeName q.name ++
        ([hi8 q.type, lo8 q.type, hi8 q.class, lo8 q.class] ++
          (qs.flatMap encodeQuestion ++ post))).length < (pre ++ encodeName q.name).length + 4 := by
      simp
      omega
    have hidx := index_fields (pre ++ encodeName q.name)
      [hi8 q.type, lo8 q.type, hi8 q.class, lo8 q.class] (qs.flatMap encodeQuestion ++ post)
    have ih := parseQuestions_encode post qs (pre ++ encodeQuestion q)
      (fun q' hq' => h q' (.tail _ hq'))
    have hbuf' : pre ++ encodeName q.name ++ ([hi8 q.type, lo8 q.type, hi8 q.class, lo8 q.class] ++
        (qs.flatMap encodeQuestion ++ post)) =
        pre ++ encodeQuestion q ++ qs.flatMap encodeQuestion ++ post := by
      simp [encodeQuestion]
    have hoff : (pre ++ encodeName q.name).length + 4 = (pre ++ encodeQuestion q).length := by
      simp [encodeQuestion, Nat.add_assoc]
    rw [List.length_cons, parseQuestions, hbuf, hname, Run.ok_bind]
    simp only [hlen, if_false]
    rw [← Nat.add_zero (pre ++ encodeName q.name).length, hidx 0 (by simp), Nat.add_zero,
      hidx 1 (by simp), hidx 2 (by simp), hidx 3 (by simp)]
    simp only [Run.ok_bind]
    rw [hbuf', hoff, ih]
    simp [encodeQuestion]

/-! ## Answers -/

/-- A big-endian 32-bit field. -/
def be32 (b0 b1 b2 b3 : UInt8) : UInt32 :=
  UInt32.ofNat (((b0.toNat * 256 + b1.toNat) * 256 + b2.toNat) * 256 + b3.toNat)

/-- The answer section as the wire format lays it out: `n` records from `offset`, each a name
read by `parseName`, then type, class, TTL and RDLENGTH big-endian, then RDLENGTH bytes of data. -/
def readAnswers (fuel : Nat) (buf : Bytes) : Nat → Nat → Run (List DnsRecord)
  | 0, _ => return []
  | n + 1, offset => do
    let (name, o) ← parseName fuel buf offset
    let t0 ← index buf o
    let t1 ← index buf (o + 1)
    let c0 ← index buf (o + 2)
    let c1 ← index buf (o + 3)
    let l0 ← index buf (o + 4)
    let l1 ← index buf (o + 5)
    let l2 ← index buf (o + 6)
    let l3 ← index buf (o + 7)
    let r0 ← index buf (o + 8)
    let r1 ← index buf (o + 9)
    let data ← slice buf (o + 10) (o + 10 + (be16 r0 r1).toNat)
    let rest ← readAnswers fuel buf n (o + 10 + (be16 r0 r1).toNat)
    return ⟨name, be16 t0 t1, be16 c0 c1, be32 l0 l1 l2 l3, data⟩ :: rest

/-- The answer section of a packet: ANCOUNT records from where the question loop stops. -/
def readAnswerSection (fuel : Nat) (buf : Bytes) : Run (List DnsRecord) := do
  let b4 ← index buf 4
  let b5 ← index buf 5
  let b6 ← index buf 6
  let b7 ← index buf 7
  let (_, offset) ← parseQuestions fuel buf (be16 b4 b5).toNat 12
  readAnswers fuel buf (be16 b6 b7).toNat offset

/-- The four TTL bytes of the encoder read back as the TTL. -/
theorem be32_ttlBytes (ttl : UInt32) :
    be32 (ttl >>> 24).toUInt8 (ttl >>> 16).toUInt8 (ttl >>> 8).toUInt8 ttl.toUInt8 = ttl := by
  have hlt : ttl.toNat < 2 ^ 32 := ttl.toBitVec.isLt
  have h8 : ∀ x : UInt32, x.toUInt8.toNat = x.toNat % 256 := fun x => by
    show (BitVec.ofNat 8 x.toNat).toNat = _
    simp [BitVec.toNat_ofNat]
  have h24 : (ttl >>> 24).toNat = ttl.toNat / 2 ^ 24 := by
    show ttl.toNat >>> 24 = _
    rw [Nat.shiftRight_eq_div_pow]
  have h16 : (ttl >>> 16).toNat = ttl.toNat / 2 ^ 16 := by
    show ttl.toNat >>> 16 = _
    rw [Nat.shiftRight_eq_div_pow]
  have h8' : (ttl >>> 8).toNat = ttl.toNat / 2 ^ 8 := by
    show ttl.toNat >>> 8 = _
    rw [Nat.shiftRight_eq_div_pow]
  have hv : (((ttl >>> 24).toUInt8.toNat * 256 + (ttl >>> 16).toUInt8.toNat) * 256 +
      (ttl >>> 8).toUInt8.toNat) * 256 + ttl.toUInt8.toNat = ttl.toNat := by
    rw [h8, h8, h8, h8, h24, h16, h8']
    omega
  apply UInt32.toNat.inj
  rw [be32, hv, UInt32.toNat_ofNat_of_lt hlt]

/-- The answer reader reads back a list of encoded records whose names are well-formed, have
short labels and fit the fuel, and whose data are shorter than `2^16` bytes. -/
theorem readAnswers_encode {fuel : Nat} (post : Bytes) :
    ∀ (rs : List DnsRecord) (pre : Bytes),
      (∀ r ∈ rs, WellFormedName r.name ∧ ShortLabels r.name ∧
        (nameLabels r.name).length < fuel ∧ r.data.length < 65536) →
      readAnswers fuel (pre ++ rs.flatMap encodeRecord ++ post) rs.length pre.length = .ok rs
  | [], pre, _ => rfl
  | r :: rs, pre, h => by
    obtain ⟨hw, hs, hf, hd⟩ := h r (.head _)
    -- The ten bytes between the name and the data.
    have hbuf : pre ++ (r :: rs).flatMap encodeRecord ++ post = pre ++ encodeName r.name ++
        ([hi8 r.type, lo8 r.type, hi8 r.class, lo8 r.class, (r.ttl >>> 24).toUInt8,
          (r.ttl >>> 16).toUInt8, (r.ttl >>> 8).toUInt8, r.ttl.toUInt8, (intBytes r.data.length).1,
          (intBytes r.data.length).2] ++ (r.data ++ (rs.flatMap encodeRecord ++ post))) := by
      simp [encodeRecord, ttlBytes]
    have hname := parseName_encodeName pre ([hi8 r.type, lo8 r.type, hi8 r.class, lo8 r.class,
      (r.ttl >>> 24).toUInt8, (r.ttl >>> 16).toUInt8, (r.ttl >>> 8).toUInt8, r.ttl.toUInt8,
      (intBytes r.data.length).1, (intBytes r.data.length).2] ++
      (r.data ++ (rs.flatMap encodeRecord ++ post))) hw hs hf
    have hidx := index_fields (pre ++ encodeName r.name) [hi8 r.type, lo8 r.type, hi8 r.class,
      lo8 r.class, (r.ttl >>> 24).toUInt8, (r.ttl >>> 16).toUInt8, (r.ttl >>> 8).toUInt8,
      r.ttl.toUInt8, (intBytes r.data.length).1, (intBytes r.data.length).2]
      (r.data ++ (rs.flatMap encodeRecord ++ post))
    rw [List.length_cons, readAnswers, hbuf, hname, Run.ok_bind]
    simp only
    rw [← Nat.add_zero (pre ++ encodeName r.name).length, hidx 0 (by simp), Nat.add_zero,
      hidx 1 (by simp), hidx 2 (by simp), hidx 3 (by simp), hidx 4 (by simp), hidx 5 (by simp),
      hidx 6 (by simp), hidx 7 (by simp), hidx 8 (by simp), hidx 9 (by simp)]
    simp only [Run.ok_bind, List.getElem_cons_zero, List.getElem_cons_succ, be16_intBytes hd]
    have hslice := slice_append_prefix (pre ++ encodeName r.name ++ [hi8 r.type, lo8 r.type,
      hi8 r.class, lo8 r.class, (r.ttl >>> 24).toUInt8, (r.ttl >>> 16).toUInt8,
      (r.ttl >>> 8).toUInt8, r.ttl.toUInt8, (intBytes r.data.length).1, (intBytes r.data.length).2])
      r.data (rs.flatMap encodeRecord ++ post)
    simp only [List.append_assoc, List.length_append, List.length_cons, List.length_nil,
      List.cons_append, List.nil_append, Nat.reduceAdd, Nat.add_assoc] at hslice ⊢
    rw [hslice, Run.ok_bind]
    have hrest := readAnswers_encode post rs (pre ++ encodeRecord r)
      (fun r' hr' => h r' (.tail _ hr'))
    simp only [encodeRecord, ttlBytes, List.append_assoc, List.length_append, List.length_cons,
      List.length_nil, List.cons_append, List.nil_append, Nat.reduceAdd, Nat.add_assoc] at hrest
    rw [Nat.add_comm 10, hrest]
    simp [be32_ttlBytes]

/-! ## The header -/

/-- A nibble `x &&& 0x0f` is `x % 16`. -/
theorem and_0x0f_eq_mod (x : UInt8) : x &&& 0x0f = x % 16 :=
  UInt8.toNat.inj <| by
    rw [UInt8.and_toNat, UInt8.toNat_mod]
    exact Nat.and_pow_two_sub_one_eq_mod _ 4

/-- `x % 16` is one of the sixteen nibbles. -/
theorem mod16_eq_ofNat (x : UInt8) : ∃ k : Fin 16, x % 16 = UInt8.ofNat k := by
  have hlt : (x % 16).toNat < 16 := by rw [UInt8.toNat_mod]; exact Nat.mod_lt _ (by decide)
  exact ⟨⟨(x % 16).toNat, hlt⟩,
    UInt8.toNat.inj (by rw [UInt8.toNat_ofNat_of_lt (show (x % 16).toNat < 256 by omega)])⟩

/-- Taking the nibble twice is taking it once. -/
theorem mod16_mod16 (x : UInt8) : x % 16 % 16 = x % 16 :=
  UInt8.toNat.inj (by simp only [UInt8.toNat_mod]; exact Nat.mod_mod _ _)

/-- The flag bytes depend on the opcode and the response code only through their nibbles. -/
theorem flags_mod16 (r aa tc rd ra : Bool) (op rc : UInt8) :
    flagsHi r (op % 16) aa tc rd = flagsHi r op aa tc rd ∧
      flagsLo ra (rc % 16) = flagsLo ra rc := by
  simp only [flagsHi, flagsLo, and_0x0f_eq_mod, mod16_mod16, and_self]

/-- The high flag byte for each setting of the flags and each opcode nibble reads back as that
setting. -/
theorem flagsHi_decode : ∀ (r aa tc rd : Bool) (k : Fin 16),
    let hi := flagsHi r (UInt8.ofNat k) aa tc rd
    (hi &&& 0x80 != 0) = r ∧ (hi >>> 3) &&& 0x0f = UInt8.ofNat k ∧ (hi &&& 0x04 != 0) = aa ∧
      (hi &&& 0x02 != 0) = tc ∧ (hi &&& 0x01 != 0) = rd := by
  decide

/-- The low flag byte for each setting of RA and each response-code nibble reads back as that
setting. -/
theorem flagsLo_decode : ∀ (ra : Bool) (k : Fin 16),
    let lo := flagsLo ra (UInt8.ofNat k)
    (lo &&& 0x80 != 0) = ra ∧ lo &&& 0x0f = UInt8.ofNat k := by
  decide

/-- The header bytes of a message read back as its ID and flags, the opcode and the response
code cut to their nibbles. -/
theorem decodeHeader_encodeHeader (m : DnsMessage) (qs : List DnsQuestion) :
    decodeHeader (hi8 m.id) (lo8 m.id)
      (flagsHi m.response m.opcode m.authoritative m.truncated m.recursionDesired)
      (flagsLo m.recursionAvailable m.rcode) qs =
      { m with
        opcode := m.opcode % 16, rcode := m.rcode % 16, questions := qs, answers := [] } := by
  obtain ⟨k, hk⟩ := mod16_eq_ofNat m.opcode
  obtain ⟨j, hj⟩ := mod16_eq_ofNat m.rcode
  rw [← (flags_mod16 m.response m.authoritative m.truncated m.recursionDesired
      m.recursionAvailable m.opcode m.rcode).1,
    ← (flags_mod16 m.response m.authoritative m.truncated m.recursionDesired
      m.recursionAvailable m.opcode m.rcode).2, hk, hj]
  obtain ⟨h1, h2, h3, h4, h5⟩ := flagsHi_decode m.response m.authoritative m.truncated
    m.recursionDesired k
  obtain ⟨h6, h7⟩ := flagsLo_decode m.recursionAvailable j
  simp only [decodeHeader, be16_hi8_lo8, h1, h2, h3, h4, h5, h6, h7, hk, hj]

/-! ## The round trip -/

/-- The bytes of the header of an encoded message are those of `encodeHeader`. -/
theorem encodeDNSMessage_getElem (m : DnsMessage) {i : Nat} (hi : i < (encodeDNSMessage m).length)
    (hh : i < (encodeHeader m).length) : (encodeDNSMessage m)[i] = (encodeHeader m)[i] := by
  simp only [encodeDNSMessage, List.append_assoc]
  rw [List.getElem_append_left]

/-- Fuel enough to parse an encoded message: a pass of the name loop for every label of every
name, and one more. -/
def labelFuel (m : DnsMessage) : Nat :=
  (m.questions.map fun q => (nameLabels q.name).length).sum +
    (m.answers.map fun r => (nameLabels r.name).length).sum + 1

/-- `labelFuel` exceeds the label count of every question's name. -/
theorem labelFuel_questions {m : DnsMessage} {q : DnsQuestion} (hq : q ∈ m.questions) :
    (nameLabels q.name).length < labelFuel m := by
  have : (nameLabels q.name).length ≤ (m.questions.map fun q => (nameLabels q.name).length).sum :=
    List.le_sum_of_mem (List.mem_map_of_mem _ hq)
  unfold labelFuel
  omega

/-- `labelFuel` exceeds the label count of every answer's name. -/
theorem labelFuel_answers {m : DnsMessage} {r : DnsRecord} (hr : r ∈ m.answers) :
    (nameLabels r.name).length < labelFuel m := by
  have : (nameLabels r.name).length ≤ (m.answers.map fun r => (nameLabels r.name).length).sum :=
    List.le_sum_of_mem (List.mem_map_of_mem _ hr)
  unfold labelFuel
  omega

/-- Encoding then parsing, with any fuel above the label count of every name: for a message with
fewer than `2^16` questions and answers, answer data shorter than `2^16` bytes, and names that are
empty or nonempty labels each shorter than 192 bytes, `parseDNSMessage` returns its ID and flags,
its opcode and response code modulo 16, and its questions, and the answer section after the last
question reads back as its answers. -/
theorem encodeDNSMessage_roundTrip {fuel : Nat} (m : DnsMessage)
    (hq : m.questions.length < 65536) (ha : m.answers.length < 65536)
    (hd : ∀ r ∈ m.answers, r.data.length < 65536)
    (hnq : ∀ q ∈ m.questions,
      WellFormedName q.name ∧ ShortLabels q.name ∧ (nameLabels q.name).length < fuel)
    (hna : ∀ r ∈ m.answers,
      WellFormedName r.name ∧ ShortLabels r.name ∧ (nameLabels r.name).length < fuel) :
    parseDNSMessage fuel (encodeDNSMessage m) =
        .ok { m with opcode := m.opcode % 16, rcode := m.rcode % 16, answers := [] } ∧
      readAnswerSection fuel (encodeDNSMessage m) = .ok m.answers := by
  have hh := encodeHeader_length m
  have hqs := parseQuestions_encode (m.answers.flatMap encodeRecord) m.questions (encodeHeader m)
    hnq
  have has := readAnswers_encode [] m.answers (encodeHeader m ++ m.questions.flatMap encodeQuestion)
    (fun r hr => ⟨(hna r hr).1, (hna r hr).2.1, (hna r hr).2.2, hd r hr⟩)
  rw [List.append_nil] at has
  rw [hh] at hqs
  have hlen : 12 ≤ (encodeDNSMessage m).length := by simp [encodeDNSMessage, encodeHeader]
  -- The first twelve bytes are the header's.
  have hget : ∀ i (hi : i < 12), (encodeDNSMessage m)[i] = (encodeHeader m)[i] := fun i hi =>
    encodeDNSMessage_getElem m (by omega) (by omega)
  have hqd : (be16 (encodeDNSMessage m)[4] (encodeDNSMessage m)[5]).toNat = m.questions.length := by
    rw [hget 4 (by omega), hget 5 (by omega)]
    exact be16_intBytes hq
  refine ⟨?_, ?_⟩
  · rw [parseDNSMessage_eq hlen, hqd,
      show parseQuestions fuel (encodeDNSMessage m) m.questions.length 12 = _ from hqs, Run.ok_bind,
      hget 0 (by omega), hget 1 (by omega), hget 2 (by omega), hget 3 (by omega)]
    exact congrArg Run.ok (decodeHeader_encodeHeader m m.questions)
  · have had :
        (be16 (encodeDNSMessage m)[6] (encodeDNSMessage m)[7]).toNat = m.answers.length := by
      rw [hget 6 (by omega), hget 7 (by omega)]
      exact be16_intBytes ha
    simp only [readAnswerSection, index_of_lt (show 4 < (encodeDNSMessage m).length by omega),
      index_of_lt (show 5 < (encodeDNSMessage m).length by omega),
      index_of_lt (show 6 < (encodeDNSMessage m).length by omega),
      index_of_lt (show 7 < (encodeDNSMessage m).length by omega), Run.ok_bind, hqd, had]
    rw [show parseQuestions fuel (encodeDNSMessage m) m.questions.length 12 = _ from hqs,
      Run.ok_bind]
    exact has

/-- Encoding then parsing: for a message with fewer than `2^16` questions and answers, answer data
shorter than `2^16` bytes, and names that are empty or nonempty labels each shorter than 192
bytes, `parseDNSMessage` returns its ID and flags, its opcode and response code modulo 16, and its
questions, and the answer section after the last question reads back as its answers. -/
theorem parseDNSMessage_encodeDNSMessage (m : DnsMessage)
    (hq : m.questions.length < 65536) (ha : m.answers.length < 65536)
    (hd : ∀ r ∈ m.answers, r.data.length < 65536)
    (hnq : ∀ q ∈ m.questions, WellFormedName q.name ∧ ShortLabels q.name)
    (hna : ∀ r ∈ m.answers, WellFormedName r.name ∧ ShortLabels r.name) :
    ∃ fuel, parseDNSMessage fuel (encodeDNSMessage m) =
        .ok { m with opcode := m.opcode % 16, rcode := m.rcode % 16, answers := [] } ∧
      readAnswerSection fuel (encodeDNSMessage m) = .ok m.answers :=
  ⟨labelFuel m, encodeDNSMessage_roundTrip m hq ha hd
    (fun q h => ⟨(hnq q h).1, (hnq q h).2, labelFuel_questions h⟩)
    (fun r h => ⟨(hna r h).1, (hna r h).2, labelFuel_answers h⟩)⟩

/-- A message whose one question's name is a single label of 192 bytes `'a'`. -/
def longLabelMessage : DnsMessage :=
  ⟨0, false, 0, false, false, false, false, 0, [⟨List.replicate 192 97, 1, 1⟩], []⟩

set_option maxRecDepth 20000 in
/-- Without a bound on label length the round trip fails: `longLabelMessage` meets every other
condition, and parsing its encoding never returns a message. The label's length byte `0xc0` is
taken for a pointer to offset 97, from where the label bytes run past the end. -/
theorem parseDNSMessage_encode_longLabel :
    longLabelMessage.questions.length < 65536 ∧ longLabelMessage.answers.length < 65536 ∧
      (∀ q ∈ longLabelMessage.questions, WellFormedName q.name) ∧
      ∀ fuel msg, parseDNSMessage fuel (encodeDNSMessage longLabelMessage) ≠ .ok msg := by
  refine ⟨by decide, by decide, by decide, fun fuel msg h => ?_⟩
  have hrun : parseDNSMessage fuel (encodeDNSMessage longLabelMessage) = .outOfFuel ∨
      parseDNSMessage fuel (encodeDNSMessage longLabelMessage) =
        .error "name extends past buffer" := by
    rcases fuel with _ | _ | _ | n
    · exact .inl rfl
    · exact .inl rfl
    · exact .inl rfl
    · exact .inr rfl
  rcases hrun with h' | h' <;> rw [h'] at h <;> cases h

/-- A message with one question and one answer, both for `a.b`. -/
def abMessage : DnsMessage :=
  ⟨0x1234, true, 0, true, false, false, false, 0, [⟨[97, 46, 98], 1, 1⟩],
    [⟨[97, 46, 98], 1, 1, 120, [10, 0, 0, 1]⟩]⟩

/-- The round trip at `abMessage`, its conditions decided. -/
theorem parseDNSMessage_encodeDNSMessage_abMessage :
    (abMessage.questions.length < 65536 ∧ abMessage.answers.length < 65536 ∧
      (∀ r ∈ abMessage.answers, r.data.length < 65536) ∧
      (∀ q ∈ abMessage.questions, WellFormedName q.name ∧ ShortLabels q.name) ∧
      ∀ r ∈ abMessage.answers, WellFormedName r.name ∧ ShortLabels r.name) ∧
    ∃ fuel, parseDNSMessage fuel (encodeDNSMessage abMessage) =
        .ok { abMessage with
          opcode := abMessage.opcode % 16, rcode := abMessage.rcode % 16, answers := [] } ∧
      readAnswerSection fuel (encodeDNSMessage abMessage) = .ok abMessage.answers :=
  ⟨by decide, parseDNSMessage_encodeDNSMessage abMessage (by decide) (by decide) (by decide)
    (by decide) (by decide)⟩

end MatterServer.Mdns
