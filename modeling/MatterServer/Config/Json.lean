import Mathlib.Data.List.Basic

/-!
# JSON text

The grammar of RFC 8259 over characters, written as relations between a text and what is left of
it after the part named: `Ws t r` holds when `t` is whitespace followed by `r`, `Json .value t r`
when `t` is a value followed by `r`, and so on. Character classes are the RFC's code point ranges.
`value`, an array's elements and an object's members refer to one another, and are the three
`Part`s of one relation `Json`.

Every character of a JSON text is whitespace or at least U+0020 (`JsonText.allowed`): a control
character other than tab, line feed and carriage return stands nowhere in one, inside a string or
outside. `Decodes` is what a string's body stands for, which the logger's escaping is compared
with.
-/

namespace MatterServer.Config

/-! ## Grammar -/

/-- `ws = *( %x20 / %x09 / %x0A / %x0D )`, one character of it. -/
def IsWs (c : Char) : Prop := c.toNat = 0x20 ∨ c.toNat = 0x09 ∨ c.toNat = 0x0A ∨ c.toNat = 0x0D

instance : DecidablePred IsWs := fun _ => inferInstanceAs (Decidable (_ ∨ _))

/-- `ws`. -/
inductive Ws : List Char → List Char → Prop
  | nil {t} : Ws t t
  | cons {c t r} : IsWs c → Ws t r → Ws (c :: t) r

/-- A structural character with the whitespace around it: `begin-array = ws %x5B ws` and the
five others. -/
inductive Token (c : Char) : List Char → List Char → Prop
  | mk {t t₁ r} : Ws t (c :: t₁) → Ws t₁ r → Token c t r

/-- `DIGIT = %x30-39`. -/
def IsDigit (c : Char) : Prop := 0x30 ≤ c.toNat ∧ c.toNat ≤ 0x39

instance : DecidablePred IsDigit := fun _ => inferInstanceAs (Decidable (_ ∧ _))

/-- `*DIGIT`. -/
inductive Digits : List Char → List Char → Prop
  | nil {t} : Digits t t
  | cons {c t r} : IsDigit c → Digits t r → Digits (c :: t) r

/-- `int = zero / ( digit1-9 *DIGIT )`. -/
inductive IntPart : List Char → List Char → Prop
  | zero {t} : IntPart ('0' :: t) t
  | digits {c t r} : 0x31 ≤ c.toNat → c.toNat ≤ 0x39 → Digits t r → IntPart (c :: t) r

/-- `[ frac ]`, with `frac = decimal-point 1*DIGIT`. -/
inductive Frac : List Char → List Char → Prop
  | none {t} : Frac t t
  | some {c t r} : IsDigit c → Digits t r → Frac ('.' :: c :: t) r

/-- `[ exp ]`, with `exp = e [ minus / plus ] 1*DIGIT`. -/
inductive Exp : List Char → List Char → Prop
  | none {t} : Exp t t
  | some {e s c t r} : (e = 'e' ∨ e = 'E') → (s = [] ∨ s = ['-'] ∨ s = ['+']) → IsDigit c →
      Digits t r → Exp (e :: (s ++ c :: t)) r

/-- `number = [ minus ] int [ frac ] [ exp ]`. -/
inductive Number : List Char → List Char → Prop
  | mk {m t t₁ t₂ r} : (m = [] ∨ m = ['-']) → IntPart t t₁ → Frac t₁ t₂ → Exp t₂ r →
      Number (m ++ t) r

/-- `unescaped = %x20-21 / %x23-5B / %x5D-10FFFF`. -/
def IsUnescaped (c : Char) : Prop := 0x20 ≤ c.toNat ∧ c.toNat ≠ 0x22 ∧ c.toNat ≠ 0x5C

instance : DecidablePred IsUnescaped := fun _ => inferInstanceAs (Decidable (_ ∧ _))

/-- `HEXDIG`: a digit, or `A` to `F` in either case. -/
def IsHexDigit (c : Char) : Prop :=
  IsDigit c ∨ (0x41 ≤ c.toNat ∧ c.toNat ≤ 0x46) ∨ (0x61 ≤ c.toNat ∧ c.toNat ≤ 0x66)

instance : DecidablePred IsHexDigit := fun _ => inferInstanceAs (Decidable (_ ∨ _))

/-- The value of a hexadecimal digit. -/
def hexValue (c : Char) : Nat :=
  if c.toNat ≤ 0x39 then c.toNat - 0x30 else if c.toNat ≤ 0x46 then c.toNat - 0x37
  else c.toNat - 0x57

/-- `4HEXDIG`, with the number it writes. -/
inductive Hex4 : List Char → Nat → List Char → Prop
  | mk {a b c d t} : IsHexDigit a → IsHexDigit b → IsHexDigit c → IsHexDigit d →
      Hex4 (a :: b :: c :: d :: t)
        (((hexValue a * 16 + hexValue b) * 16 + hexValue c) * 16 + hexValue d) t

/-- The characters that may follow the escape character other than `u`, each with the character
the escape stands for. -/
def simpleEscapes : List (Char × Char) :=
  [('"', '"'), ('\\', '\\'), ('/', '/'), ('b', '\x08'), ('f', '\x0c'), ('n', '\n'), ('r', '\r'),
    ('t', '\t')]

/-- `char = unescaped / escape ( … / %x75 4HEXDIG )`. -/
inductive StrChar : List Char → List Char → Prop
  | unescaped {c t} : IsUnescaped c → StrChar (c :: t) t
  | escape {e c t} : (e, c) ∈ simpleEscapes → StrChar ('\\' :: e :: t) t
  | unicode {n t r} : Hex4 t n r → StrChar ('\\' :: 'u' :: t) r

/-- `*char quotation-mark`: a string's body and its closing quotation mark. -/
inductive Chars : List Char → List Char → Prop
  | close {t} : Chars ('"' :: t) t
  | char {t t₁ r} : StrChar t t₁ → Chars t₁ r → Chars t r

/-- `string = quotation-mark *char quotation-mark`. -/
inductive Str : List Char → List Char → Prop
  | mk {t r} : Chars t r → Str ('"' :: t) r

/-- The nonterminals that refer to one another. -/
inductive Part
  /-- `value` -/
  | value
  /-- `value *( value-separator value )`: an array's elements -/
  | elements
  /-- `member *( value-separator member )`: an object's members -/
  | members

/-- `value`, `array` and `object`, with `member = string name-separator value`. -/
inductive Json : Part → List Char → List Char → Prop
  | null {r} : Json .value ('n' :: 'u' :: 'l' :: 'l' :: r) r
  | true {r} : Json .value ('t' :: 'r' :: 'u' :: 'e' :: r) r
  | false {r} : Json .value ('f' :: 'a' :: 'l' :: 's' :: 'e' :: r) r
  | number {t r} : Number t r → Json .value t r
  | string {t r} : Str t r → Json .value t r
  | emptyArray {t t₁ r} : Token '[' t t₁ → Token ']' t₁ r → Json .value t r
  | array {t t₁ t₂ r} : Token '[' t t₁ → Json .elements t₁ t₂ → Token ']' t₂ r → Json .value t r
  | emptyObject {t t₁ r} : Token '\x7b' t t₁ → Token '\x7d' t₁ r → Json .value t r
  | object {t t₁ t₂ r} : Token '\x7b' t t₁ → Json .members t₁ t₂ → Token '\x7d' t₂ r →
      Json .value t r
  | element {t r} : Json .value t r → Json .elements t r
  | elementMore {t t₁ t₂ r} : Json .value t t₁ → Token ',' t₁ t₂ → Json .elements t₂ r →
      Json .elements t r
  | member {t t₁ t₂ r} : Str t t₁ → Token ':' t₁ t₂ → Json .value t₂ r → Json .members t r
  | memberMore {t t₁ t₂ t₃ t₄ r} : Str t t₁ → Token ':' t₁ t₂ → Json .value t₂ t₃ →
      Token ',' t₃ t₄ → Json .members t₄ r → Json .members t r

/-- `JSON-text = ws value ws`. -/
def JsonText (t : List Char) : Prop := ∃ t₁ t₂, Ws t t₁ ∧ Json .value t₁ t₂ ∧ Ws t₂ []

/-! ## The characters of a JSON text -/

/-- A character that may stand in a JSON text: whitespace, or not a control character. -/
def Allowed (c : Char) : Prop := IsWs c ∨ 0x20 ≤ c.toNat

instance : DecidablePred Allowed := fun _ => inferInstanceAs (Decidable (_ ∨ _))

/-- `t` is characters that may stand in a JSON text, followed by `r`. -/
def AllowedUpTo (t r : List Char) : Prop := ∃ p, t = p ++ r ∧ ∀ c ∈ p, Allowed c

theorem AllowedUpTo.refl (t : List Char) : AllowedUpTo t t := ⟨[], rfl, nofun⟩

theorem AllowedUpTo.trans {t s r : List Char} :
    AllowedUpTo t s → AllowedUpTo s r → AllowedUpTo t r := by
  rintro ⟨p, rfl, hp⟩ ⟨q, rfl, hq⟩
  refine ⟨p ++ q, (List.append_assoc _ _ _).symm, fun c hc => ?_⟩
  rcases List.mem_append.mp hc with h | h
  exacts [hp c h, hq c h]

theorem AllowedUpTo.cons {c : Char} {t r : List Char} (hc : Allowed c) (h : AllowedUpTo t r) :
    AllowedUpTo (c :: t) r := by
  obtain ⟨p, rfl, hp⟩ := h
  exact ⟨c :: p, rfl, List.forall_mem_cons.mpr ⟨hc, hp⟩⟩

/-- Printable characters, as every character the grammar names literally is. -/
theorem AllowedUpTo.word {w t r : List Char} (hw : ∀ c ∈ w, 0x20 ≤ c.toNat)
    (h : AllowedUpTo t r) : AllowedUpTo (w ++ t) r :=
  AllowedUpTo.trans ⟨w, rfl, fun c hc => .inr (hw c hc)⟩ h

theorem Ws.allowedUpTo {t r : List Char} (h : Ws t r) : AllowedUpTo t r := by
  induction h with
  | nil => exact .refl _
  | cons hc _ ih => exact ih.cons (.inl hc)

theorem Token.allowedUpTo {c : Char} {t r : List Char} (hc : 0x20 ≤ c.toNat) :
    Token c t r → AllowedUpTo t r
  | .mk h₁ h₂ => h₁.allowedUpTo.trans (h₂.allowedUpTo.cons (.inr hc))

theorem IsDigit.printable {c : Char} (h : IsDigit c) : 0x20 ≤ c.toNat := by
  unfold IsDigit at h
  omega

theorem Digits.allowedUpTo {t r : List Char} (h : Digits t r) : AllowedUpTo t r := by
  induction h with
  | nil => exact .refl _
  | cons hc _ ih => exact ih.cons (.inr hc.printable)

theorem IntPart.allowedUpTo {t r : List Char} : IntPart t r → AllowedUpTo t r
  | .zero => (AllowedUpTo.refl _).word (w := ['0']) (by decide)
  | .digits h _ hd => hd.allowedUpTo.cons (.inr (by omega))

theorem Frac.allowedUpTo {t r : List Char} : Frac t r → AllowedUpTo t r
  | .none => .refl _
  | .some hc hd => (hd.allowedUpTo.cons (.inr hc.printable)).word (w := ['.']) (by decide)

theorem Exp.allowedUpTo {t r : List Char} : Exp t r → AllowedUpTo t r
  | .none => .refl _
  | @Exp.some e s _ _ _ he hs hc hd => by
    have hw : ∀ x ∈ e :: s, 0x20 ≤ x.toNat := by
      rcases he with rfl | rfl <;> rcases hs with rfl | rfl | rfl <;> decide
    exact (hd.allowedUpTo.cons (.inr hc.printable)).word (w := e :: s) hw

theorem Number.allowedUpTo {t r : List Char} : Number t r → AllowedUpTo t r
  | @Number.mk m _ _ _ _ hm hi hf he => by
    have hw : ∀ x ∈ m, 0x20 ≤ x.toNat := by rcases hm with rfl | rfl <;> decide
    exact (hi.allowedUpTo.trans (hf.allowedUpTo.trans he.allowedUpTo)).word hw

theorem IsHexDigit.printable {c : Char} (h : IsHexDigit c) : 0x20 ≤ c.toNat := by
  unfold IsHexDigit IsDigit at h
  omega

theorem Hex4.allowedUpTo {t r : List Char} {n : Nat} : Hex4 t n r → AllowedUpTo t r
  | .mk ha hb hc hd => ((((AllowedUpTo.refl _).cons (.inr hd.printable)).cons
      (.inr hc.printable)).cons (.inr hb.printable)).cons (.inr ha.printable)

theorem StrChar.allowedUpTo {t r : List Char} : StrChar t r → AllowedUpTo t r
  | .unescaped hu => (AllowedUpTo.refl _).cons (.inr hu.1)
  | @StrChar.escape e _ _ he => by
    have hw : ∀ x ∈ ['\\', e], 0x20 ≤ x.toNat := by
      simp only [simpleEscapes, List.mem_cons, Prod.mk.injEq, List.mem_singleton,
        List.not_mem_nil, or_false] at he
      rcases he with ⟨rfl, -⟩ | ⟨rfl, -⟩ | ⟨rfl, -⟩ | ⟨rfl, -⟩ | ⟨rfl, -⟩ | ⟨rfl, -⟩ | ⟨rfl, -⟩ |
        ⟨rfl, -⟩ <;> decide
    exact (AllowedUpTo.refl _).word hw
  | .unicode h => h.allowedUpTo.word (w := ['\\', 'u']) (by decide)

theorem Chars.allowedUpTo {t r : List Char} (h : Chars t r) : AllowedUpTo t r := by
  induction h with
  | close => exact (AllowedUpTo.refl _).word (w := ['"']) (by decide)
  | char hc _ ih => exact hc.allowedUpTo.trans ih

theorem Str.allowedUpTo {t r : List Char} : Str t r → AllowedUpTo t r
  | .mk h => h.allowedUpTo.word (w := ['"']) (by decide)

/-- Whatever a derivation reads is whitespace or printable. -/
theorem Json.allowedUpTo {p : Part} {t r : List Char} (h : Json p t r) : AllowedUpTo t r := by
  induction h with
  | null => exact (AllowedUpTo.refl _).word (w := ['n', 'u', 'l', 'l']) (by decide)
  | «true» => exact (AllowedUpTo.refl _).word (w := ['t', 'r', 'u', 'e']) (by decide)
  | «false» => exact (AllowedUpTo.refl _).word (w := ['f', 'a', 'l', 's', 'e']) (by decide)
  | number h => exact h.allowedUpTo
  | string h => exact h.allowedUpTo
  | emptyArray h₁ h₂ | emptyObject h₁ h₂ =>
    exact (h₁.allowedUpTo (by decide)).trans (h₂.allowedUpTo (by decide))
  | array h₁ _ h₃ ih | object h₁ _ h₃ ih =>
    exact (h₁.allowedUpTo (by decide)).trans (ih.trans (h₃.allowedUpTo (by decide)))
  | element _ ih => exact ih
  | elementMore _ h₂ _ ih₁ ih₃ => exact ih₁.trans ((h₂.allowedUpTo (by decide)).trans ih₃)
  | member h₁ h₂ _ ih => exact h₁.allowedUpTo.trans ((h₂.allowedUpTo (by decide)).trans ih)
  | memberMore h₁ h₂ _ h₄ _ ih₃ ih₅ =>
    exact h₁.allowedUpTo.trans ((h₂.allowedUpTo (by decide)).trans
      (ih₃.trans ((h₄.allowedUpTo (by decide)).trans ih₅)))

/-- Every character of a JSON text is whitespace or printable. -/
theorem JsonText.allowed {t : List Char} (h : JsonText t) : ∀ c ∈ t, Allowed c := by
  obtain ⟨t₁, t₂, hw₁, hv, hw₂⟩ := h
  obtain ⟨p, hp, hpa⟩ := hw₁.allowedUpTo.trans (hv.allowedUpTo.trans hw₂.allowedUpTo)
  rw [hp, List.append_nil]
  exact hpa

/-! ## Building JSON texts -/

/-- A structural character with no whitespace around it. -/
theorem Token.single (c : Char) (r : List Char) : Token c (c :: r) r := .mk .nil .nil

/-- Characters that need no escaping, between quotation marks, are a string. -/
theorem Str.plain {w : List Char} (hw : ∀ c ∈ w, IsUnescaped c) (r : List Char) :
    Str ('"' :: (w ++ '"' :: r)) r := by
  refine .mk ?_
  induction w with
  | nil => exact .close
  | cons c w ih =>
    exact .char (.unescaped (hw c (List.mem_cons_self _ _)))
      (ih fun d hd => hw d (List.mem_cons_of_mem _ hd))

/-- A number stays a number when text follows it. -/
theorem Digits.append {t r : List Char} (h : Digits t r) (x : List Char) :
    Digits (t ++ x) (r ++ x) := by
  induction h with
  | nil => exact .nil
  | cons hc _ ih => exact .cons hc ih

theorem IntPart.append {t r : List Char} : IntPart t r → ∀ x, IntPart (t ++ x) (r ++ x)
  | .zero, _ => .zero
  | .digits h₁ h₂ hd, x => .digits h₁ h₂ (hd.append x)

theorem Frac.append {t r : List Char} : Frac t r → ∀ x, Frac (t ++ x) (r ++ x)
  | .none, _ => .none
  | .some hc hd, x => .some hc (hd.append x)

theorem Exp.append {t r : List Char} : Exp t r → ∀ x, Exp (t ++ x) (r ++ x)
  | .none, _ => .none
  | .some he hs hc hd, x => by
    rw [List.cons_append, List.append_assoc, List.cons_append]
    exact .some he hs hc (hd.append x)

theorem Number.append {t r : List Char} : Number t r → ∀ x, Number (t ++ x) (r ++ x)
  | .mk hm hi hf he, x => by
    rw [List.append_assoc]
    exact .mk hm (hi.append x) (hf.append x) (he.append x)

/-- `t` starts with a member, `string name-separator value`, and `r` follows. -/
def Member (t r : List Char) : Prop := ∃ t₁ t₂, Str t t₁ ∧ Token ':' t₁ t₂ ∧ Json .value t₂ r

/-- A name, `:` and a value, with nothing between them, are a member. -/
theorem Member.mk {k v : List Char} (hk : ∀ r, Str (k ++ r) r) (hv : ∀ r, Json .value (v ++ r) r)
    (r : List Char) : Member (k ++ ':' :: (v ++ r)) r :=
  ⟨_, _, hk _, .single ':' _, hv r⟩

/-- `Decodes t s r`: `t` starts with a string's body and its closing quotation mark, the body
stands for `s`, and `r` follows. An escape `\uXXXX` outside the surrogates stands for the code
point it writes, and two escapes of a surrogate pair for the code point they encode (RFC 8259
§7); an escape of a lone surrogate stands for no character. -/
inductive Decodes : List Char → List Char → List Char → Prop
  | close {t} : Decodes ('"' :: t) [] t
  | unescaped {c t s r} : IsUnescaped c → Decodes t s r → Decodes (c :: t) (c :: s) r
  | escape {e c t s r} : (e, c) ∈ simpleEscapes → Decodes t s r →
      Decodes ('\\' :: e :: t) (c :: s) r
  | unicode {n t t₁ s r} : Hex4 t n t₁ → (n < 0xD800 ∨ 0xDFFF < n) → Decodes t₁ s r →
      Decodes ('\\' :: 'u' :: t) (Char.ofNat n :: s) r
  | surrogatePair {hi lo t t₁ t₂ s r} : Hex4 t hi ('\\' :: 'u' :: t₁) → Hex4 t₁ lo t₂ →
      0xD800 ≤ hi → hi ≤ 0xDBFF → 0xDC00 ≤ lo → lo ≤ 0xDFFF → Decodes t₂ s r →
      Decodes ('\\' :: 'u' :: t)
        (Char.ofNat (0x10000 + (hi - 0xD800) * 0x400 + (lo - 0xDC00)) :: s) r

/-- What decodes is a string's body by the grammar. -/
theorem Decodes.chars {t s r : List Char} (h : Decodes t s r) : Chars t r := by
  induction h with
  | close => exact .close
  | unescaped hc _ ih => exact .char (.unescaped hc) ih
  | escape he _ ih => exact .char (.escape he) ih
  | unicode hn _ _ ih => exact .char (.unicode hn) ih
  | surrogatePair hhi hlo _ _ _ _ _ ih => exact .char (.unicode hhi) (.char (.unicode hlo) ih)

end MatterServer.Config
