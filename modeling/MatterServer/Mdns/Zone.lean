import MatterServer.Mdns.Message

/-!
# The Matter zone

`MatterZone` of `internal/mdns/zone.go`: the advertised hostname and the addresses it answers
with, `NewMatterZone`'s normalisation of the hostname, and `Records`, which answers an A query
with the IPv4 addresses and an AAAA query with the other non-loopback ones, for the hostname only.

Go's `strings.ToLower` is Unicode case mapping and is not part of this repository: `records` takes
it as the parameter `toLower`. The address functions `To4`, `To16` and `IsLoopback` are Go's
`net` package on the byte forms it uses. An address of the zone is 4 or 16 bytes long, as every
address `updateIPs` reads off an interface is; `IP` carries that as a field.

`updateIPs` reads the addresses off `net.Interfaces()`, which the model takes as its argument
(nil when the call fails): `mem_interfaceIPs` says which addresses it keeps, those of an interface
that is up and not a loopback, that are neither loopback nor link-local.
-/

namespace MatterServer.Mdns

/-- The bytes of an ASCII string literal of the source. -/
def ascii (s : String) : Bytes := s.toList.map fun c => UInt8.ofNat c.toNat

/-- `net.IP` as the zone holds it: 4 bytes, or 16. -/
structure IP where
  bytes : Bytes
  valid : bytes.length = 4 ∨ bytes.length = 16
  deriving DecidableEq

/-- `ip.To4()`: a 4-byte address itself, the last four bytes of an IPv4-mapped 16-byte address,
and nil for any other. -/
def IP.to4 (ip : IP) : Option Bytes :=
  if ip.bytes.length = 4 then some ip.bytes
  else if ip.bytes.length = 16 ∧ ip.bytes.take 12 = List.replicate 10 0 ++ [0xff, 0xff] then
    some (ip.bytes.drop 12)
  else none

/-- `ip.To16()`: a 4-byte address mapped into IPv6, a 16-byte address itself. -/
def IP.to16 (ip : IP) : Option Bytes :=
  if ip.bytes.length = 4 then some (List.replicate 10 0 ++ [0xff, 0xff] ++ ip.bytes)
  else if ip.bytes.length = 16 then some ip.bytes
  else none

/-- `ip.IsLoopback()`: `127.0.0.0/8` for an IPv4 address, `::1` for any other. -/
def IP.isLoopback (ip : IP) : Bool :=
  match ip.to4 with
  | some ip4 => ip4.head? == some 127
  | none => ip.bytes == List.replicate 15 0 ++ [1]

/-- `To4` returns four bytes when it returns. -/
theorem IP.to4_length {ip : IP} {b : Bytes} (h : ip.to4 = some b) : b.length = 4 := by
  unfold IP.to4 at h
  split at h
  · cases h
    assumption
  · split at h
    · cases h
      simp only [List.length_drop]
      omega
    · cases h

/-- An address with no IPv4 form is 16 bytes, and `To16` returns it. -/
theorem IP.to16_of_to4_none {ip : IP} (h : ip.to4 = none) : ip.to16 = some ip.bytes := by
  have h4 : ip.bytes.length ≠ 4 := fun h4 => by simp [IP.to4, h4] at h
  have h16 : ip.bytes.length = 16 := ip.valid.resolve_left h4
  simp [IP.to16, h4, h16]

/-- `Question`: what `Zone.Records` is asked. -/
structure Question where
  name : Bytes
  type : UInt16
  «class» : UInt16
  deriving DecidableEq, Repr

/-- `RR_Header`. Its `Length` field is never read and is left out. -/
structure RRHeader where
  name : Bytes
  type : UInt16
  «class» : UInt16
  ttl : UInt32
  deriving DecidableEq

/-- The five record types of `server.go`, each with its header. -/
inductive Record where
  | a (hdr : RRHeader) (a : IP)
  | aaaa (hdr : RRHeader) (aaaa : IP)
  | ptr (hdr : RRHeader) (ptr : Bytes)
  | txt (hdr : RRHeader) (txt : List Bytes)
  | srv (hdr : RRHeader) (priority weight port : UInt16) (target : Bytes)
  deriving DecidableEq

/-- `r.Header()`. -/
def Record.header : Record → RRHeader
  | .a hdr _ | .aaaa hdr _ | .ptr hdr _ | .txt hdr _ | .srv hdr _ _ _ _ => hdr

/-- `dnsTypeA`. -/
def dnsTypeA : UInt16 := 1

/-- `dnsTypeAAAA`. -/
def dnsTypeAAAA : UInt16 := 28

/-- `MatterZone`: the hostname and the addresses from the last `updateIPs`. -/
structure MatterZone where
  hostname : Bytes
  ips : List IP

/-- `NewMatterZone(hostname)` with the addresses `updateIPs` found: an empty hostname becomes
`matter-server`, and `.local` is appended unless the name already ends with it. -/
def newMatterZone (hostname : Bytes) (ips : List IP) : MatterZone :=
  let hostname := if hostname = [] then ascii "matter-server" else hostname
  let hostname := if ascii ".local" <:+ hostname then hostname else hostname ++ ascii ".local"
  ⟨hostname, ips⟩

/-- `z.Records(q)`, with `strings.ToLower` as `toLower`: for a question whose lower-cased name is
the lower-cased hostname, an A record for each address with an IPv4 form when the type is A,
an AAAA record for each address with none that is not a loopback when the type is AAAA, and
nothing otherwise. Records carry the hostname as configured, class IN and TTL 120. -/
def MatterZone.records (toLower : Bytes → Bytes) (z : MatterZone) (q : Question) : List Record :=
  if toLower q.name ≠ toLower z.hostname then []
  else if q.type = dnsTypeA then
    (z.ips.filter fun ip => ip.to4.isSome).map fun ip => .a ⟨z.hostname, dnsTypeA, 1, 120⟩ ip
  else if q.type = dnsTypeAAAA then
    (z.ips.filter fun ip => ip.to4.isNone && !ip.isLoopback).map fun ip =>
      .aaaa ⟨z.hostname, dnsTypeAAAA, 1, 120⟩ ip
  else []

/-- Go's `strings.ToLower` on a string whose bytes are all below `0x80`: `'A'` to `'Z'` become
`'a'` to `'z'` and every other byte stays, which is the path `strings.ToLower` takes for such a
string. -/
def asciiToLower (s : Bytes) : Bytes := s.map fun b => if 65 ≤ b ∧ b ≤ 90 then b + 32 else b

/-- What a record of the zone is: an A record for an address of the list with an IPv4 form, or
an AAAA record for one without that is not a loopback, both for a question on the hostname. -/
theorem MatterZone.mem_records {toLower : Bytes → Bytes} {z : MatterZone} {q : Question}
    {r : Record} (h : r ∈ z.records toLower q) :
    toLower q.name = toLower z.hostname ∧
      ((∃ ip ∈ z.ips, q.type = dnsTypeA ∧ r = .a ⟨z.hostname, dnsTypeA, 1, 120⟩ ip ∧
          ip.to4.isSome) ∨
        (∃ ip ∈ z.ips, q.type = dnsTypeAAAA ∧
          r = .aaaa ⟨z.hostname, dnsTypeAAAA, 1, 120⟩ ip ∧ ip.to4 = none ∧
          ip.isLoopback = false)) := by
  unfold MatterZone.records at h
  by_cases hn : toLower q.name = toLower z.hostname
  · refine ⟨hn, ?_⟩
    by_cases ha : q.type = dnsTypeA
    · simp only [hn, ha, ne_eq, not_true_eq_false, if_false, if_true] at h
      obtain ⟨ip, hip, rfl⟩ := List.mem_map.mp h
      rw [List.mem_filter] at hip
      exact .inl ⟨ip, hip.1, ha, rfl, hip.2⟩
    · by_cases haaaa : q.type = dnsTypeAAAA
      · simp only [hn, ha, haaaa, ne_eq, not_true_eq_false, if_false, if_true] at h
        obtain ⟨ip, hip, rfl⟩ := List.mem_map.mp h
        simp only [List.mem_filter, Bool.and_eq_true, Option.isNone_iff_eq_none,
          Bool.not_eq_true'] at hip
        exact .inr ⟨ip, hip.1, haaaa, rfl, hip.2.1, hip.2.2⟩
      · simp [hn, ha, haaaa] at h
  · simp [hn] at h

/-! ## The addresses -/

/-- `ip.IsLinkLocalUnicast()`: `169.254.0.0/16` for an address with an IPv4 form, `fe80::/10` for
any other that is 16 bytes long. -/
def IP.isLinkLocalUnicast (ip : IP) : Bool :=
  match ip.to4 with
  | some ip4 => ip4.take 2 == [169, 254]
  | none =>
    match ip.bytes with
    | b0 :: b1 :: _ => ip.bytes.length == 16 && b0 == 0xfe && (b1 &&& 0xc0) == 0x80
    | _ => false

/-- `net.FlagUp`. -/
def flagUp : Nat := 1

/-- `net.FlagLoopback`. -/
def flagLoopback : Nat := 4

/-- A `net.Addr` of an interface: an `*net.IPNet` or an `*net.IPAddr` with its IP, which may be
nil, or a value of another type. -/
inductive Addr
  | ipNet (ip : Option IP)
  | ipAddr (ip : Option IP)
  | other

/-- The IP that `updateIPs`'s type switch takes from an address: nil for another type. -/
def Addr.ip : Addr → Option IP
  | .ipNet ip | .ipAddr ip => ip
  | .other => none

/-- `net.Interface` as `updateIPs` reads it: its flags, and the addresses `iface.Addrs()`
returned, or `none` when it returned an error. -/
structure Interface where
  flags : Nat
  addrs : Option (List Addr)

/-- The addresses `updateIPs` takes from one interface: none from one that is down or a loopback,
or whose `Addrs` failed; from the others, in order, each IP that is not nil and neither a loopback
nor link-local. -/
def Interface.ips (iface : Interface) : List IP :=
  if iface.flags &&& flagUp = 0 ∨ iface.flags &&& flagLoopback ≠ 0 then []
  else
    match iface.addrs with
    | none => []
    | some addrs => addrs.filterMap fun addr =>
        match addr.ip with
        | none => none
        | some ip => if ip.isLoopback || ip.isLinkLocalUnicast then none else some ip

/-- `z.updateIPs()` with what `net.Interfaces()` returned: on an error the zone keeps its
addresses; otherwise they become those of each interface in turn. -/
def MatterZone.updateIPs (z : MatterZone) (interfaces : Option (List Interface)) : MatterZone :=
  match interfaces with
  | none => z
  | some ifaces => { z with ips := ifaces.flatMap Interface.ips }

/-- An address of an `*net.IPNet` or `*net.IPAddr` of an interface in `ifaces` that is up and not
a loopback, itself neither a loopback nor link-local. -/
def HostAddress (ifaces : List Interface) (ip : IP) : Prop :=
  ∃ iface ∈ ifaces, iface.flags &&& flagUp ≠ 0 ∧ iface.flags &&& flagLoopback = 0 ∧
    ∃ addrs, iface.addrs = some addrs ∧ ∃ addr ∈ addrs, addr.ip = some ip ∧
      ip.isLoopback = false ∧ ip.isLinkLocalUnicast = false

/-- The addresses `updateIPs` keeps are exactly the host addresses. -/
theorem mem_interfaceIPs {ifaces : List Interface} {ip : IP} :
    ip ∈ ifaces.flatMap Interface.ips ↔ HostAddress ifaces ip := by
  simp only [List.mem_flatMap, HostAddress]
  refine exists_congr fun iface => and_congr_right fun _ => ?_
  unfold Interface.ips
  split_ifs with hf
  · simp only [List.not_mem_nil, false_iff]
    omega
  · have hf' : iface.flags &&& flagUp ≠ 0 ∧ iface.flags &&& flagLoopback = 0 := by omega
    cases iface.addrs with
    | none => simp
    | some addrs =>
      simp only [hf', ne_eq, not_false_eq_true, List.mem_filterMap, Option.some.injEq,
        exists_eq_left', true_and]
      refine exists_congr fun addr => and_congr_right fun _ => ?_
      cases addr.ip with
      | none => simp
      | some ip' =>
        -- the address is kept unless it is a loopback or link-local
        by_cases hb : ip'.isLoopback || ip'.isLinkLocalUnicast
        · simp only [hb, if_true, reduceCtorEq, false_iff, not_exists, not_and, Option.some.injEq]
          rintro rfl hl hk
          simp [hl, hk] at hb
        · simp only [Bool.or_eq_true, not_or, Bool.not_eq_true] at hb
          simp only [hb, Bool.or_self, Bool.false_eq_true, if_false, Option.some.injEq]
          exact ⟨fun h => ⟨h, h ▸ hb⟩, And.left⟩

/-- `NewMatterZone` runs `updateIPs` on the zone it builds: the addresses it starts with are those
`net.Interfaces()` gave, or none when that failed. -/
theorem newMatterZone_updateIPs (hostname : Bytes) (interfaces : Option (List Interface)) :
    (newMatterZone hostname []).updateIPs interfaces =
      newMatterZone hostname
        ((interfaces.map fun ifaces => ifaces.flatMap Interface.ips).getD []) := by
  cases interfaces <;> rfl

end MatterServer.Mdns
