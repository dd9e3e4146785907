import MatterServer.Mdns.RoundTrip
import MatterServer.Mdns.Zone

/-!
# Answering a query

`parsePacket`, `handleQuery`, `sendResponse` and `encodeRecordData` of `internal/mdns/server.go`:
the path from a received payload to the datagram the server writes back. `parsePacket` returns
the datagram it hands to `WriteToUDP`, or `none` when it sends nothing; an error, a panic or a
parse that does not end leaves it with no datagram either. The zone is a function from a question
to records, as the `Zone` interface is.

For the Matter zone, the payloads that get an answer are exactly the standard queries (QR, opcode
and response code zero) with a question the zone has a record for, answered by one message with
the query's ID, the AA bit and the zone's records for each question in order, A records carrying
four address bytes and AAAA records sixteen.

A client that reads such a reply with the same codec gets back what the responder put in it:
this is the round trip `encodeDNSMessage_roundTrip` applied to the response `handleQuery` builds,
whose names are all the zone's hostname and whose RDATA are four or sixteen
bytes. Its answer count fits the 16-bit ANCOUNT field as soon as the datagram fits in UDP, since an
answer takes at least eleven bytes.

With the addresses `updateIPs` read, `parsePacket_advertises` follows every answer of every
datagram back to an interface that is up and not a loopback, and to an address of it that is
neither loopback nor link-local.
-/

namespace MatterServer.Mdns

/-- `encodeRecordData`: the RDATA of each record type; a nil `To4` or `To16` writes nothing. -/
def encodeRecordData : Record → Bytes
  | .a _ ip => ip.to4.getD []
  | .aaaa _ ip => ip.to16.getD []
  | .ptr _ p => encodeName p
  | .txt _ t => encodeTXT t
  | .srv _ priority weight port target => encodeSRV priority weight port target

/-- The `dnsRecord` that `handleQuery` appends for a record of the zone. -/
def answerOf (r : Record) : DnsRecord :=
  ⟨r.header.name, r.header.type, r.header.class, r.header.ttl, encodeRecordData r⟩

/-- `handleQuery`: the response to a query with at least one question, if the zone has a record
for some question; the datagram is `encodeDNSMessage` of it, as `sendResponse` writes it. -/
def handleQuery (records : Question → List Record) (msg : DnsMessage) : Option Bytes :=
  if msg.questions = [] then none
  else
    let response : DnsMessage :=
      { id := msg.id, response := true, opcode := 0, authoritative := true, truncated := false,
        recursionDesired := false, recursionAvailable := false, rcode := 0, questions := [],
        answers := msg.questions.flatMap fun q =>
          (records ⟨q.name, q.type, q.class⟩).map answerOf }
    if response.answers ≠ [] then some (encodeDNSMessage response) else none

/-- `parsePacket`: parse, drop responses, non-standard opcodes and set response codes, then answer
the query. -/
def parsePacket (fuel : Nat) (records : Question → List Record) (buf : Bytes) :
    Run (Option Bytes) := do
  let msg ← parseDNSMessage fuel buf
  if msg.response then return none
  else if msg.opcode ≠ 0 then return none
  else if msg.rcode ≠ 0 then return none
  else return handleQuery records msg

/-- `handleQuery` sends exactly when some question has a record, and then the response with the
records of every question in order. -/
theorem handleQuery_eq_some (records : Question → List Record) (msg : DnsMessage) (d : Bytes) :
    handleQuery records msg = some d ↔
      (∃ q ∈ msg.questions, records ⟨q.name, q.type, q.class⟩ ≠ []) ∧
        d = encodeDNSMessage
          { id := msg.id, response := true, opcode := 0, authoritative := true, truncated := false,
            recursionDesired := false, recursionAvailable := false, rcode := 0, questions := [],
            answers := msg.questions.flatMap fun q =>
              (records ⟨q.name, q.type, q.class⟩).map answerOf } := by
  have hne : (msg.questions.flatMap fun q =>
      (records ⟨q.name, q.type, q.class⟩).map answerOf) ≠ [] ↔
      ∃ q ∈ msg.questions, records ⟨q.name, q.type, q.class⟩ ≠ [] := by
    simp [List.flatMap_eq_nil_iff]
  by_cases hq : msg.questions = []
  · simp [handleQuery, hq]
  · simp only [handleQuery, hq, if_false]
    split
    · rename_i h
      simp only [Option.some.injEq]
      exact ⟨fun h' => ⟨hne.mp h, h'.symm⟩, fun h' => h'.2.symm⟩
    · rename_i h
      simp only [reduceCtorEq, false_iff, not_and]
      exact fun h' => absurd (hne.mpr h') h

/-- The records of the Matter zone with their RDATA: for a question on the hostname, an A record
with the four IPv4 bytes of an address of the list, or an AAAA record with the sixteen bytes of
an address of the list that has no IPv4 form and is not a loopback. -/
theorem encodeRecordData_matterZone {toLower : Bytes → Bytes} {z : MatterZone} {q : Question}
    {r : Record} (h : r ∈ z.records toLower q) :
    toLower q.name = toLower z.hostname ∧
      ((∃ ip ∈ z.ips, q.type = dnsTypeA ∧ r = .a ⟨z.hostname, dnsTypeA, 1, 120⟩ ip ∧
          ip.to4 = some (encodeRecordData r) ∧ (encodeRecordData r).length = 4) ∨
        (∃ ip ∈ z.ips, q.type = dnsTypeAAAA ∧
          r = .aaaa ⟨z.hostname, dnsTypeAAAA, 1, 120⟩ ip ∧ ip.to4 = none ∧
          ip.isLoopback = false ∧ encodeRecordData r = ip.bytes ∧
          (encodeRecordData r).length = 16)) := by
  obtain ⟨hn, hr⟩ := MatterZone.mem_records h
  refine ⟨hn, ?_⟩
  rcases hr with ⟨ip, hip, ht, rfl, h4⟩ | ⟨ip, hip, ht, rfl, h4, hl⟩
  · obtain ⟨b, hb⟩ := Option.isSome_iff_exists.mp h4
    exact .inl ⟨ip, hip, ht, rfl, by simp [encodeRecordData, hb],
      by simp [encodeRecordData, hb, IP.to4_length hb]⟩
  · have h16 := IP.to16_of_to4_none h4
    have hlen : ip.bytes.length = 16 :=
      ip.valid.resolve_left fun h' => by simp [IP.to4, h'] at h4
    exact .inr ⟨ip, hip, ht, rfl, h4, hl, by simp [encodeRecordData, h16],
      by simp [encodeRecordData, h16, hlen]⟩

/-- Every answer of the zone carries the hostname and four or sixteen bytes of address. -/
theorem answerOf_matterZone {toLower : Bytes → Bytes} {z : MatterZone} {q : Question}
    {r : Record} (h : r ∈ z.records toLower q) :
    (answerOf r).name = z.hostname ∧ (answerOf r).data.length < 65536 := by
  obtain ⟨-, ⟨ip, -, -, rfl, -, hl⟩ | ⟨ip, -, -, rfl, -, -, -, hl⟩⟩ :=
    encodeRecordData_matterZone h
  · exact ⟨rfl, by simp only [answerOf, hl]; omega⟩
  · exact ⟨rfl, by simp only [answerOf, hl]; omega⟩

/-- `parsePacket` answers exactly the standard queries that `handleQuery` answers. -/
theorem parsePacket_eq_some (fuel : Nat) (records : Question → List Record) (buf d : Bytes) :
    parsePacket fuel records buf = .ok (some d) ↔
      ∃ msg, parseDNSMessage fuel buf = .ok msg ∧ msg.response = false ∧ msg.opcode = 0 ∧
        msg.rcode = 0 ∧ handleQuery records msg = some d := by
  simp only [parsePacket, Run.bind_eq_ok]
  constructor
  · rintro ⟨msg, hp, h⟩
    refine ⟨msg, hp, ?_⟩
    by_cases hr : msg.response <;> by_cases ho : msg.opcode = 0 <;> by_cases hc : msg.rcode = 0 <;>
      simp_all
  · rintro ⟨msg, hp, hr, ho, hc, hq⟩
    exact ⟨msg, hp, by simp [hr, ho, hc, hq]⟩

/-- For the Matter zone with any hostname and addresses, a received payload gets at most one
datagram, and gets one exactly when it parses as a standard query (QR, opcode and response code
zero) with a question the zone has a record for. The datagram is the response with the query's
ID, QR and AA set, the other flags and codes zero, no questions, and the zone's records for each
question in order, with their name, type, class, TTL and RDATA. Every such record is, for a
question whose name matches the hostname, an A record carrying the four bytes of an IPv4 address
of the list, or an AAAA record carrying the sixteen bytes of a non-IPv4, non-loopback one. -/
theorem parsePacket_sends_iff (fuel : Nat) (toLower : Bytes → Bytes) (z : MatterZone)
    (buf d : Bytes) :
    (parsePacket fuel (z.records toLower) buf = .ok (some d) ↔
      ∃ msg, parseDNSMessage fuel buf = .ok msg ∧ msg.response = false ∧ msg.opcode = 0 ∧
        msg.rcode = 0 ∧ (∃ q ∈ msg.questions, z.records toLower ⟨q.name, q.type, q.class⟩ ≠ []) ∧
        d = encodeDNSMessage
          { id := msg.id, response := true, opcode := 0, authoritative := true, truncated := false,
            recursionDesired := false, recursionAvailable := false, rcode := 0, questions := [],
            answers := msg.questions.flatMap fun q =>
              (z.records toLower ⟨q.name, q.type, q.class⟩).map fun r =>
                ⟨r.header.name, r.header.type, r.header.class, r.header.ttl,
                  encodeRecordData r⟩ }) ∧
    ∀ q, ∀ r ∈ z.records toLower q, toLower q.name = toLower z.hostname ∧
      ((∃ ip ∈ z.ips, q.type = dnsTypeA ∧ r = .a ⟨z.hostname, dnsTypeA, 1, 120⟩ ip ∧
          ip.to4 = some (encodeRecordData r) ∧ (encodeRecordData r).length = 4) ∨
        (∃ ip ∈ z.ips, q.type = dnsTypeAAAA ∧ r = .aaaa ⟨z.hostname, dnsTypeAAAA, 1, 120⟩ ip ∧
          ip.to4 = none ∧ ip.isLoopback = false ∧ encodeRecordData r = ip.bytes ∧
          (encodeRecordData r).length = 16)) := by
  refine ⟨?_, fun q r hr => encodeRecordData_matterZone hr⟩
  rw [parsePacket_eq_some]
  simp only [handleQuery_eq_some]
  rfl

/-! ## What a client reads back -/

/-- A record takes at least eleven bytes: a name of at least its zero byte, and the ten bytes of
type, class, TTL and RDLENGTH. -/
theorem encodeRecord_length (r : DnsRecord) : 11 ≤ (encodeRecord r).length := by
  have hname : 1 ≤ (encodeName r.name).length := by
    unfold encodeName
    split <;> simp
  simp only [encodeRecord, ttlBytes, List.length_append, List.length_cons, List.length_nil]
  omega

/-- An answer section is at least eleven bytes per answer. -/
theorem flatMap_encodeRecord_length : ∀ rs : List DnsRecord,
    11 * rs.length ≤ (rs.flatMap encodeRecord).length
  | [] => by simp
  | r :: rs => by
    have := encodeRecord_length r
    have := flatMap_encodeRecord_length rs
    simp only [List.flatMap_cons, List.length_append, List.length_cons]
    omega

/-- An encoded message is at least eleven bytes per answer. -/
theorem answers_length_le (m : DnsMessage) :
    11 * m.answers.length ≤ (encodeDNSMessage m).length := by
  have := flatMap_encodeRecord_length m.answers
  simp only [encodeDNSMessage, List.length_append]
  omega

/-- A reply the responder sends for the Matter zone, when it fits in a UDP datagram, decodes with
the same codec to what it was built from: `parseDNSMessage` reads the query's ID with QR and AA
set and no questions, and the answer section reads back as the zone's records for each question
of the query, in order. The hostname must be empty or nonempty labels each shorter than 192
bytes. -/
theorem parsePacket_reply_decodes {fuel : Nat} {toLower : Bytes → Bytes} {z : MatterZone}
    (hw : WellFormedName z.hostname) (hs : ShortLabels z.hostname) {buf d : Bytes}
    (h : parsePacket fuel (z.records toLower) buf = .ok (some d)) (hudp : d.length ≤ 65535) :
    ∃ msg, parseDNSMessage fuel buf = .ok msg ∧ ∃ fuel',
      parseDNSMessage fuel' d =
        .ok { id := msg.id, response := true, opcode := 0, authoritative := true,
              truncated := false, recursionDesired := false, recursionAvailable := false,
              rcode := 0, questions := [], answers := [] } ∧
      readAnswerSection fuel' d = .ok (msg.questions.flatMap fun q =>
        (z.records toLower ⟨q.name, q.type, q.class⟩).map answerOf) := by
  obtain ⟨msg, hp, -, -, -, hq⟩ := (parsePacket_eq_some fuel _ buf d).mp h
  obtain ⟨-, rfl⟩ := (handleQuery_eq_some _ msg d).mp hq
  refine ⟨msg, hp, ?_⟩
  set answers := msg.questions.flatMap fun q =>
    (z.records toLower ⟨q.name, q.type, q.class⟩).map answerOf
  have hans : ∀ r ∈ answers, r.name = z.hostname ∧ r.data.length < 65536 := by
    intro r hr
    simp only [answers, List.mem_flatMap, List.mem_map] at hr
    obtain ⟨q, -, r, hr, rfl⟩ := hr
    exact answerOf_matterZone hr
  let response : DnsMessage := ⟨msg.id, true, 0, true, false, false, false, 0, [], answers⟩
  have hcount := answers_length_le response
  exact ⟨labelFuel response, encodeDNSMessage_roundTrip response (by simp)
    (show answers.length < 65536 by simp only [response] at hcount; omega)
    (fun r hr => (hans r hr).2) (by simp)
    (fun r hr => ⟨(hans r hr).1 ▸ hw, (hans r hr).1 ▸ hs, labelFuel_answers hr⟩)⟩

/-- The zone `m.local` with the one address `10.0.0.1`. -/
def mLocalZone : MatterZone := ⟨ascii "m.local", [⟨[10, 0, 0, 1], by decide⟩]⟩

/-- A standard query with ID `0x1234` and the one question `m.local`, type A, class IN. -/
def mLocalQuery : Bytes :=
  [0x12, 0x34, 0, 0, 0, 1, 0, 0, 0, 0, 0, 0] ++ encodeName (ascii "m.local") ++ [0, 1, 0, 1]

/-- The reply to `mLocalQuery`: the A record of `m.local`. -/
def mLocalReply : Bytes :=
  encodeDNSMessage ⟨0x1234, true, 0, true, false, false, false, 0, [],
    [⟨ascii "m.local", 1, 1, 120, [10, 0, 0, 1]⟩]⟩

/-- The reply to `mLocalQuery` decodes to the A record of `m.local`. -/
theorem parsePacket_reply_decodes_mLocal :
    (WellFormedName mLocalZone.hostname ∧ ShortLabels mLocalZone.hostname ∧
      parsePacket 4 (mLocalZone.records id) mLocalQuery = .ok (some mLocalReply) ∧
      mLocalReply.length ≤ 65535) ∧
    ∃ msg, parseDNSMessage 4 mLocalQuery = .ok msg ∧ ∃ fuel',
      parseDNSMessage fuel' mLocalReply =
        .ok { id := msg.id, response := true, opcode := 0, authoritative := true,
              truncated := false, recursionDesired := false, recursionAvailable := false,
              rcode := 0, questions := [], answers := [] } ∧
      readAnswerSection fuel' mLocalReply = .ok (msg.questions.flatMap fun q =>
        (mLocalZone.records id ⟨q.name, q.type, q.class⟩).map answerOf) :=
  have hw : WellFormedName mLocalZone.hostname := by decide
  have hs : ShortLabels mLocalZone.hostname := by decide
  have h : parsePacket 4 (mLocalZone.records id) mLocalQuery = .ok (some mLocalReply) := rfl
  have hudp : mLocalReply.length ≤ 65535 := by decide
  ⟨⟨hw, hs, h, hudp⟩, parsePacket_reply_decodes hw hs h hudp⟩

/-! ## The zone's own name

A client asks for the name the zone advertises by writing `GetHostname()` with `encodeName` into
the question of a standard query. `encodeName` drops empty labels, so the name that arrives is the
hostname only when the hostname has none: the records come back for every hostname whose
normalised form is dot-separated nonempty labels shorter than 192 bytes, and not for one such as
`printer.`, which `NewMatterZone` turns into `printer..local`. -/

/-- A standard query (QR, opcode and response code zero) with ID `id` and the one question
`name`, type A, class IN. -/
def standardQuery (id : UInt16) (name : Bytes) : Bytes :=
  encodeDNSMessage ⟨id, false, 0, false, false, false, false, 0, [⟨name, dnsTypeA, 1⟩], []⟩

/-- For a hostname whose normalised form is nonempty labels shorter than 192 bytes, and an address
list with an IPv4 address, a standard query for the advertised name parses to that name, type A,
class IN, and the zone answers it with an A record, whatever the case mapping. -/
theorem newMatterZone_answers_hostname (toLower : Bytes → Bytes) (hostname : Bytes)
    (ips : List IP) (hv4 : ∃ ip ∈ ips, ip.to4.isSome)
    (hw : WellFormedName (newMatterZone hostname ips).hostname)
    (hs : ShortLabels (newMatterZone hostname ips).hostname) (id : UInt16) {fuel : Nat}
    (hf : (nameLabels (newMatterZone hostname ips).hostname).length < fuel) :
    ∃ msg, parseDNSMessage fuel (standardQuery id (newMatterZone hostname ips).hostname) =
        .ok msg ∧ msg.questions = [⟨(newMatterZone hostname ips).hostname, dnsTypeA, 1⟩] ∧
      ∃ q ∈ msg.questions, ∃ hdr ip, Record.a hdr ip ∈
        (newMatterZone hostname ips).records toLower ⟨q.name, q.type, q.class⟩ := by
  set z := newMatterZone hostname ips
  have hq : ∀ q ∈ [(⟨z.hostname, dnsTypeA, 1⟩ : DnsQuestion)],
      WellFormedName q.name ∧ ShortLabels q.name ∧ (nameLabels q.name).length < fuel := by
    simp [hw, hs, hf]
  obtain ⟨hp, -⟩ := encodeDNSMessage_roundTrip
    ⟨id, false, 0, false, false, false, false, 0, [⟨z.hostname, dnsTypeA, 1⟩], []⟩
    (by simp) (by simp) (by simp) hq (by simp)
  refine ⟨_, hp, rfl, _, List.mem_singleton_self _, ?_⟩
  obtain ⟨ip, hip, h4⟩ := hv4
  refine ⟨⟨z.hostname, dnsTypeA, 1, 120⟩, ip, ?_⟩
  simp only [MatterZone.records, ne_eq, not_true_eq_false, if_false, if_true]
  exact List.mem_map_of_mem _ (List.mem_filter.mpr ⟨hip, h4⟩)

/-- The one address `10.0.0.1`. -/
def tenOne : IP := ⟨[10, 0, 0, 1], by decide⟩

/-- `NewMatterZone("matter")` with the address `10.0.0.1` answers a query for `matter.local`. -/
theorem newMatterZone_answers_hostname_matter :
    ((∃ ip ∈ [tenOne], ip.to4.isSome) ∧
      WellFormedName (newMatterZone (ascii "matter") [tenOne]).hostname ∧
      ShortLabels (newMatterZone (ascii "matter") [tenOne]).hostname ∧
      (nameLabels (newMatterZone (ascii "matter") [tenOne]).hostname).length < 3) ∧
    ∃ msg, parseDNSMessage 3 (standardQuery 0 (newMatterZone (ascii "matter") [tenOne]).hostname) =
        .ok msg ∧
        msg.questions = [⟨(newMatterZone (ascii "matter") [tenOne]).hostname, dnsTypeA, 1⟩] ∧
      ∃ q ∈ msg.questions, ∃ hdr ip, Record.a hdr ip ∈
        (newMatterZone (ascii "matter") [tenOne]).records asciiToLower ⟨q.name, q.type, q.class⟩ :=
  have hv4 : ∃ ip ∈ [tenOne], ip.to4.isSome := ⟨tenOne, List.mem_singleton_self _, rfl⟩
  have hw : WellFormedName (newMatterZone (ascii "matter") [tenOne]).hostname := by decide
  have hs : ShortLabels (newMatterZone (ascii "matter") [tenOne]).hostname := by decide
  have hf : (nameLabels (newMatterZone (ascii "matter") [tenOne]).hostname).length < 3 := by decide
  ⟨⟨hv4, hw, hs, hf⟩, newMatterZone_answers_hostname asciiToLower _ _ hv4 hw hs 0 hf⟩

/-- `NewMatterZone("printer.")` advertises `printer..local`; a query for it arrives as
`printer.local`, and the zone has no record for that name. -/
theorem newMatterZone_trailingDot :
    (newMatterZone (ascii "printer.") [tenOne]).hostname = ascii "printer..local" ∧
      parseDNSMessage 4 (standardQuery 0 (newMatterZone (ascii "printer.") [tenOne]).hostname) =
        .ok ⟨0, false, 0, false, false, false, false, 0, [⟨ascii "printer.local", 1, 1⟩], []⟩ ∧
      (newMatterZone (ascii "printer.") [tenOne]).records asciiToLower
        ⟨ascii "printer.local", 1, 1⟩ = [] :=
  ⟨by decide, rfl, by decide⟩

/-! ## The host's addresses -/

/-- Whatever interfaces the host has, each answer the responder sends after `updateIPs` read them
carries a host address: an A record with its IPv4 bytes, or an AAAA record with its sixteen
bytes. No loopback or link-local address, and no address of a loopback or down interface, is
advertised. -/
theorem parsePacket_advertises (fuel : Nat) (toLower : Bytes → Bytes) (z : MatterZone)
    (ifaces : List Interface) (buf d : Bytes)
    (h : parsePacket fuel ((z.updateIPs (some ifaces)).records toLower) buf = .ok (some d)) :
    ∃ id answers, d = encodeDNSMessage ⟨id, true, 0, true, false, false, false, 0, [], answers⟩ ∧
      ∀ a ∈ answers, ∃ ip, HostAddress ifaces ip ∧
        (a.type = dnsTypeA ∧ ip.to4 = some a.data ∨ a.type = dnsTypeAAAA ∧ a.data = ip.bytes) := by
  obtain ⟨msg, -, -, -, -, hq⟩ := (parsePacket_eq_some fuel _ buf d).mp h
  obtain ⟨-, rfl⟩ := (handleQuery_eq_some _ msg d).mp hq
  refine ⟨msg.id, _, rfl, fun a ha => ?_⟩
  simp only [List.mem_flatMap, List.mem_map] at ha
  obtain ⟨q, -, r, hr, rfl⟩ := ha
  obtain ⟨-, ⟨ip, hip, -, rfl, h4, -⟩ | ⟨ip, hip, -, rfl, -, -, h16, -⟩⟩ :=
    encodeRecordData_matterZone hr
  · exact ⟨ip, mem_interfaceIPs.mp hip, .inl ⟨rfl, h4⟩⟩
  · exact ⟨ip, mem_interfaceIPs.mp hip, .inr ⟨rfl, h16⟩⟩

/-- A host with an interface that is up, holding `10.0.0.1`, the loopback `127.0.0.1` and the
link-local `169.254.1.1`, a loopback interface, and an interface that is down. -/
def hostInterfaces : List Interface :=
  [⟨flagUp, some [.ipNet (some tenOne), .ipAddr (some ⟨[127, 0, 0, 1], by decide⟩),
      .ipNet (some ⟨[169, 254, 1, 1], by decide⟩), .other]⟩,
    ⟨flagUp ||| flagLoopback, some [.ipNet (some ⟨[127, 0, 0, 1], by decide⟩)]⟩,
    ⟨0, some [.ipNet (some ⟨[192, 168, 1, 2], by decide⟩)]⟩]

/-- After `updateIPs` on `hostInterfaces`, the zone `m.local` answers `mLocalQuery` with
`10.0.0.1` only. -/
theorem parsePacket_advertises_hostInterfaces :
    parsePacket 4 (((newMatterZone (ascii "m") []).updateIPs (some hostInterfaces)).records id)
        mLocalQuery = .ok (some mLocalReply) ∧
      ∃ id answers, mLocalReply =
          encodeDNSMessage ⟨id, true, 0, true, false, false, false, 0, [], answers⟩ ∧
        ∀ a ∈ answers, ∃ ip, HostAddress hostInterfaces ip ∧
          (a.type = dnsTypeA ∧ ip.to4 = some a.data ∨
            a.type = dnsTypeAAAA ∧ a.data = ip.bytes) :=
  have h : parsePacket 4
      (((newMatterZone (ascii "m") []).updateIPs (some hostInterfaces)).records id) mLocalQuery =
        .ok (some mLocalReply) := rfl
  ⟨h, parsePacket_advertises 4 id _ hostInterfaces mLocalQuery mLocalReply h⟩

end MatterServer.Mdns
