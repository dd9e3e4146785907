import MatterServer.Mdns.RoundTrip
import MatterServer.Mdns.Zone

/-!
# Compressed names

A name in a DNS packet may end with a compression pointer, two bytes `0xC0|(p>>8)`, `p&0xFF` that
send `parseName`'s loop to offset `p`. The loop then goes on from `p` as a fresh `parseName(buf, p)`
would, with two differences: the labels read before the pointer stay in front, and the offset it
returns is the one after the first pointer (`jumped` is set, so `original` no longer moves).
`NameLoop.underPointer` is that relation between the two runs; one pass of the loop keeps it
(`nameStep_underPointer`), so a whole run does (`nameLoop_underPointer`).

Every label the loop reads is nonempty and shorter than 192 bytes, since its length byte is not
zero and does not carry the pointer tag (`nameStep_name`). So the labels of a compressed name can
be written again uncompressed, and `parseName` reads the same name back from that encoding
(`nameLoop_encodeParts`).
-/

namespace MatterServer.Mdns

/-- The two bytes of a compression pointer to offset `p`: `0xC0|(p>>8)`, then `p&0xFF`. -/
def pointerBytes (p : Nat) : Bytes := [UInt8.ofNat (0xc0 ||| p >>> 8), UInt8.ofNat (p &&& 0xff)]

/-- A pointer to an offset below `2^14` carries the tag and names that offset. -/
theorem pointerTarget_pointerBytes {p : Nat} (hp : p < 16384) :
    UInt8.ofNat (0xc0 ||| p >>> 8) &&& 0xc0 = 0xc0 ∧
      pointerTarget (UInt8.ofNat (0xc0 ||| p >>> 8)) (UInt8.ofNat (p &&& 0xff)) = p := by
  have hi : ∀ k : Fin 64, UInt8.ofNat (0xc0 ||| k.val) &&& 0xc0 = 0xc0 ∧
      (UInt8.ofNat (0xc0 ||| k.val) &&& 0x3f).toNat = k.val := by
    decide
  have hk : p >>> 8 < 64 := by rw [Nat.shiftRight_eq_div_pow]; omega
  obtain ⟨htag, hhi⟩ := hi ⟨p >>> 8, hk⟩
  have hlo : (UInt8.ofNat (p &&& 0xff)).toNat = p % 256 := by
    rw [show (0xff : Nat) = 2 ^ 8 - 1 from rfl, Nat.and_pow_two_sub_one_eq_mod]
    simp [UInt8.toNat, UInt8.ofNat, BitVec.toNat_ofNat]
  refine ⟨htag, ?_⟩
  rw [pointerTarget, hhi, hlo, Nat.shiftLeft_eq, Nat.mul_comm, ← Nat.mul_add_lt_is_or (by omega)]
  show 2 ^ 8 * (p >>> 8) + p % 256 = p
  rw [Nat.shiftRight_eq_div_pow]
  omega

/-! ## The labels the loop reads -/

/-- A label as the loop reads it: not empty, and shorter than 192 bytes. -/
def LabelOk (l : Bytes) : Prop := 0 < l.length ∧ l.length < 192

/-- A length byte that is not zero and has not both top bits set is between 1 and 191. -/
theorem labelLength_of_byte {b : UInt8} (h0 : b ≠ 0) (hc : b &&& 0xc0 ≠ 0xc0) :
    0 < b.toNat ∧ b.toNat < 192 := by
  have tag : ∀ r : Fin 64, (192 + r.val) &&& 192 = 192 := by decide
  have hb := UInt8.toNat_lt b
  refine ⟨Nat.pos_of_ne_zero fun h => h0 (UInt8.toNat.inj h), Nat.lt_of_not_le fun hge => hc ?_⟩
  apply UInt8.toNat.inj
  rw [UInt8.and_toNat, show b.toNat = 192 + (b.toNat - 192) by omega]
  exact tag ⟨b.toNat - 192, by omega⟩

/-- One pass adds at most one label, and only one it may read: a pass that leaves the loop adds
none. -/
theorem nameStep_name {buf : Bytes} {s : NameLoop} {st : NameStep} (h : nameStep buf s = .ok st) :
    match st with
    | .next s' => s'.name = s.name ∨ ∃ l, LabelOk l ∧ s'.name = s.name ++ [l]
    | .exit s' => s'.name = s.name := by
  unfold nameStep at h
  by_cases hoff : s.offset < buf.length
  · simp only [hoff, if_true, index_of_lt hoff, Run.ok_bind] at h
    split at h
    · cases h; rfl
    split at h
    · obtain ⟨lo, -, h⟩ := Run.bind_eq_ok.mp h
      cases h
      exact .inl rfl
    split at h
    · cases h
    · rename_i h0 hc hlen
      obtain ⟨hpos, hlt⟩ := labelLength_of_byte h0 hc
      obtain ⟨l, hl, h⟩ := Run.bind_eq_ok.mp h
      cases h
      unfold slice at hl
      rw [if_pos (by omega)] at hl
      cases hl
      refine .inr ⟨_, ⟨?_, ?_⟩, rfl⟩ <;> simp only [List.length_take, List.length_drop] <;> omega
  · simp only [hoff, if_false, Run.pure_eq, Run.ok.injEq] at h
    cases h
    rfl

/-! ## After a pointer -/

/-- The loop's variables after a pointer, against those of a fresh parse from its target: the
labels `pfx` read before it in front, and the offset `orig` after it kept. -/
def NameLoop.underPointer (pfx : List Bytes) (orig : Nat) (s : NameLoop) : NameLoop :=
  { s with name := pfx ++ s.name, original := orig, jumped := true }

/-- `NameLoop.underPointer` on the outcome of a pass. -/
def NameStep.underPointer (pfx : List Bytes) (orig : Nat) : NameStep → NameStep
  | .next s => .next (s.underPointer pfx orig)
  | .exit s => .exit (s.underPointer pfx orig)

/-- A pass after a pointer does what the same pass of the fresh parse does. -/
theorem nameStep_underPointer (buf : Bytes) (pfx : List Bytes) (orig : Nat) (s : NameLoop) :
    nameStep buf (s.underPointer pfx orig) =
      (nameStep buf s >>= fun st => .ok (st.underPointer pfx orig)) := by
  unfold nameStep
  by_cases hoff : s.offset < buf.length
  · simp only [NameLoop.underPointer, hoff, if_true, index_of_lt hoff, Run.ok_bind]
    split_ifs
    · -- the end of the name
      rfl
    · -- a pointer after a pointer: the labels before and the offset after are already set
      cases index buf (s.offset + 1) <;> rfl
    · -- a first pointer, whose offset after is replaced by the outer one
      cases index buf (s.offset + 1) <;> rfl
    · -- a label past the buffer
      rfl
    · -- a label, added after those before the pointer
      cases slice buf (s.offset + 1) (s.offset + 1 + buf[s.offset].toNat) <;>
        simp [NameStep.underPointer, NameLoop.underPointer]
  · simp [NameLoop.underPointer, hoff, NameStep.underPointer]

/-- A run of the loop after a pointer ends as the fresh parse from its target does, with the
labels before the pointer in front and the offset after the pointer; the fresh parse reads only
labels the loop may read. -/
theorem nameLoop_underPointer {buf : Bytes} (pfx : List Bytes) (orig : Nat) :
    ∀ {n : Nat} {s : NameLoop} {r : Bytes × Nat}, nameLoop buf n s = .ok r →
      ∃ t : NameLoop, r = nameResult t ∧ (∃ M, t.name = s.name ++ M ∧ ∀ l ∈ M, LabelOk l) ∧
        nameLoop buf n (s.underPointer pfx orig) = .ok (nameResult (t.underPointer pfx orig))
  | 0, _, _, h => by cases h
  | n + 1, s, r, h => by
    obtain ⟨st, hst, h⟩ := Run.bind_eq_ok.mp h
    have hname := nameStep_name hst
    rw [nameLoop, nameStep_underPointer, hst, Run.ok_bind, Run.ok_bind]
    cases st with
    | next s' =>
      obtain ⟨t, rfl, ⟨M, hM, hok⟩, hrun⟩ := nameLoop_underPointer pfx orig h
      refine ⟨t, rfl, ?_, hrun⟩
      rcases hname with hn | ⟨l, hl, hn⟩
      · exact ⟨M, by rw [hM, hn], hok⟩
      · exact ⟨l :: M, by rw [hM, hn, List.append_assoc, List.singleton_append],
          List.forall_mem_cons.mpr ⟨hl, hok⟩⟩
    | exit s' =>
      cases h
      exact ⟨s', rfl, ⟨[], by rw [hname, List.append_nil], by simp⟩, rfl⟩

/-- A name written as labels `L` and then a pointer to `p < 2^14`, where `parseName` reads the
name `N`. `parseName` from the labels returns the labels followed by those it read from `p`, and
the offset right after the pointer; the labels it read from `p` are those of `N`, and the same
name comes back from them written uncompressed with a zero byte at the end. -/
theorem parseName_compressed {fuel p o : Nat} {pre rest N : Bytes} {L : List Bytes}
    (hp : p < 16384) (hL : ∀ l ∈ L, 0 < l.length ∧ l.length < 192)
    (hN : parseName fuel (pre ++ encodeParts L ++ pointerBytes p ++ rest) p = .ok (N, o)) :
    ∃ M : List Bytes, (∀ l ∈ M, 0 < l.length ∧ l.length < 192) ∧ N = [dot].intercalate M ∧
      parseName (L.length + 1 + fuel) (pre ++ encodeParts L ++ pointerBytes p ++ rest)
          pre.length =
        .ok ([dot].intercalate (L ++ M), (pre ++ encodeParts L).length + 2) ∧
      parseName ((L ++ M).length + 1) (encodeParts (L ++ M) ++ [0]) 0 =
        .ok ([dot].intercalate (L ++ M), (encodeParts (L ++ M)).length + 1) := by
  obtain ⟨htag, htarget⟩ := pointerTarget_pointerBytes hp
  set buf := pre ++ encodeParts L ++ pointerBytes p ++ rest
  obtain ⟨t, hr, ⟨M, hM, hok⟩, hrun⟩ :=
    nameLoop_underPointer L ((pre ++ encodeParts L).length + 2) hN
  simp only [List.nil_append] at hM
  refine ⟨M, hok, by rw [← hM]; exact (congrArg Prod.fst hr).trans rfl, ?_, ?_⟩
  · have hlabels := nameLoop_labels (pointerBytes p ++ rest) pre.length false
      (by simp [pointerBytes]) L pre [] (fuel + 1) hL
    have hbuf : buf = pre ++ encodeParts L ++ (pointerBytes p ++ rest) := by
      simp [buf]
    rw [parseName, show L.length + 1 + fuel = L.length + (fuel + 1) by omega, hbuf, hlabels,
      List.nil_append, nameLoop, show pre ++ encodeParts L ++ (pointerBytes p ++ rest) =
        (pre ++ encodeParts L) ++ _ :: _ :: rest from rfl,
      nameStep_pointer _ rest rfl htag, Run.ok_bind]
    simp only [Bool.false_eq_true, if_false, htarget]
    rw [show pre ++ encodeParts L ++
        UInt8.ofNat (0xc0 ||| p >>> 8) :: UInt8.ofNat (p &&& 0xff) :: rest = buf from hbuf.symm]
    have hstart : (⟨L, p, (pre ++ encodeParts L).length + 2, true⟩ : NameLoop) =
        (⟨[], p, p, false⟩ : NameLoop).underPointer L ((pre ++ encodeParts L).length + 2) := by
      simp [NameLoop.underPointer]
    rw [hstart, hrun]
    simp [nameResult, NameLoop.underPointer, hM]
  · have h := nameLoop_encodeParts [] 0 (L ++ M) [] [] 0 (List.forall_mem_append.mpr ⟨hL, hok⟩)
    simpa [parseName] using h

/-- A header of twelve zero bytes, then `m.local` written out at offset 12. -/
def mLocalAt12 : Bytes := List.replicate 12 0 ++ encodeName (ascii "m.local")

/-- After `mLocalAt12`, the label `x` and a pointer to offset 12 spell `x.m.local`, read back
from the labels `x`, `m`, `local`. -/
theorem parseName_compressed_xmLocal :
    parseName 3 (mLocalAt12 ++ encodeParts [ascii "x"] ++ pointerBytes 12 ++ []) 12 =
        .ok (ascii "m.local", 21) ∧
      ∃ M : List Bytes, (∀ l ∈ M, 0 < l.length ∧ l.length < 192) ∧
        ascii "m.local" = [dot].intercalate M ∧
        parseName ([ascii "x"].length + 1 + 3)
            (mLocalAt12 ++ encodeParts [ascii "x"] ++ pointerBytes 12 ++ []) mLocalAt12.length =
          .ok ([dot].intercalate ([ascii "x"] ++ M),
            (mLocalAt12 ++ encodeParts [ascii "x"]).length + 2) ∧
        parseName (([ascii "x"] ++ M).length + 1) (encodeParts ([ascii "x"] ++ M) ++ [0]) 0 =
          .ok ([dot].intercalate ([ascii "x"] ++ M), (encodeParts ([ascii "x"] ++ M)).length + 1) :=
  ⟨rfl, parseName_compressed (by decide) (by decide) rfl⟩

end MatterServer.Mdns
