import MatterServer.Mdns.Wire

/-!
# DNS messages and their encoding

`dnsMessage`, `dnsQuestion` and `dnsRecord` of `internal/mdns/server.go`, and the encoder side of
the codec: `encodeDNSMessage`, `encodeName`, `encodeTXT` and `encodeSRV`. Each is a transcription
of the Go function: the header's flag bytes are built by the same sequence of `|=` on a zero
byte, counts and lengths are truncated to bytes as `byte(...)` truncates them, and names are split
at `'.'` with empty parts skipped. Nothing here bounds a label's length, as nothing in the
source does.
-/

namespace MatterServer.Mdns

/-- `dnsQuestion`: a question of a parsed or encoded message. -/
structure DnsQuestion where
  name : Bytes
  type : UInt16
  «class» : UInt16
  deriving DecidableEq, Repr

/-- `dnsRecord`: an answer record of an encoded message. -/
structure DnsRecord where
  name : Bytes
  type : UInt16
  «class» : UInt16
  ttl : UInt32
  data : Bytes
  deriving DecidableEq, Repr

/-- `dnsMessage`: the header fields, the questions and the answers. -/
structure DnsMessage where
  id : UInt16
  response : Bool
  opcode : UInt8
  authoritative : Bool
  truncated : Bool
  recursionDesired : Bool
  recursionAvailable : Bool
  rcode : UInt8
  questions : List DnsQuestion
  answers : List DnsRecord
  deriving DecidableEq, Repr

/-! ## Names -/

/-- The loop of `encodeName` over the parts of the name: each nonempty part as its length
`byte(len(part))` followed by its bytes. -/
def encodeParts : List Bytes → Bytes
  | [] => []
  | part :: parts =>
    (if part = [] then [] else UInt8.ofNat part.length :: part) ++ encodeParts parts

/-- `encodeName`: `"."` is the root, anything else its parts at `'.'` as length-prefixed labels,
then the zero byte. -/
def encodeName (name : Bytes) : Bytes :=
  if name = [dot] then [0] else encodeParts (name.splitOn dot) ++ [0]

/-- `encodeTXT`: each string cut to 255 bytes, as its length and its bytes. -/
def encodeTXT : List Bytes → Bytes
  | [] => []
  | t :: ts =>
    let t := if 255 < t.length then t.take 255 else t
    (UInt8.ofNat t.length :: t) ++ encodeTXT ts

/-- `encodeSRV`: priority, weight and port big-endian, then the target's name. -/
def encodeSRV (priority weight port : UInt16) (target : Bytes) : Bytes :=
  [hi8 priority, lo8 priority, hi8 weight, lo8 weight, hi8 port, lo8 port] ++ encodeName target

/-! ## Messages -/

/-- `buf[2]` of `encodeDNSMessage`: QR, the opcode nibble, AA, TC and RD, or-ed into a zero byte
in the source's order. -/
def flagsHi (response : Bool) (opcode : UInt8) (authoritative truncated recursionDesired : Bool) :
    UInt8 :=
  let b : UInt8 := if response then 0 ||| 0x80 else 0
  let b := b ||| ((opcode &&& 0x0f) <<< 3)
  let b := if authoritative then b ||| 0x04 else b
  let b := if truncated then b ||| 0x02 else b
  if recursionDesired then b ||| 0x01 else b

/-- `buf[3]` of `encodeDNSMessage`: RA and the response-code nibble. -/
def flagsLo (recursionAvailable : Bool) (rcode : UInt8) : UInt8 :=
  let b : UInt8 := if recursionAvailable then 0 ||| 0x80 else 0
  b ||| (rcode &&& 0x0f)

/-- The twelve header bytes: ID, the flag bytes, the question and answer counts as
`byte(len >> 8), byte(len)`, and zero authority and additional counts. -/
def encodeHeader (m : DnsMessage) : Bytes :=
  [hi8 m.id, lo8 m.id,
    flagsHi m.response m.opcode m.authoritative m.truncated m.recursionDesired,
    flagsLo m.recursionAvailable m.rcode,
    (intBytes m.questions.length).1, (intBytes m.questions.length).2,
    (intBytes m.answers.length).1, (intBytes m.answers.length).2, 0, 0, 0, 0]

/-- One question: its name, type and class. -/
def encodeQuestion (q : DnsQuestion) : Bytes :=
  encodeName q.name ++ [hi8 q.type, lo8 q.type, hi8 q.class, lo8 q.class]

/-- `byte(ttl>>24), byte(ttl>>16), byte(ttl>>8), byte(ttl)`. -/
def ttlBytes (ttl : UInt32) : Bytes :=
  [(ttl >>> 24).toUInt8, (ttl >>> 16).toUInt8, (ttl >>> 8).toUInt8, ttl.toUInt8]

/-- One answer: name, type, class, TTL, `byte(len(data)>>8), byte(len(data))`, and the data. -/
def encodeRecord (r : DnsRecord) : Bytes :=
  encodeName r.name ++ [hi8 r.type, lo8 r.type, hi8 r.class, lo8 r.class] ++ ttlBytes r.ttl ++
    [(intBytes r.data.length).1, (intBytes r.data.length).2] ++ r.data

/-- `encodeDNSMessage`: the header, every question, every answer. It never returns an error. -/
def encodeDNSMessage (m : DnsMessage) : Bytes :=
  encodeHeader m ++ m.questions.flatMap encodeQuestion ++ m.answers.flatMap encodeRecord

@[simp]
theorem encodeHeader_length (m : DnsMessage) : (encodeHeader m).length = 12 := rfl

end MatterServer.Mdns
