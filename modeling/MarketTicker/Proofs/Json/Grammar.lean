import Mathlib.Algebra.Ring.Nat
import MarketTicker.Json.Value
import MarketTicker.Proofs.Text.Numeral

namespace MarketTicker.Json

open Text

structure Blanks where
  chars : List Char
  blank : ∀ c ∈ chars, Json.isBlank c = true

def Blanks.none : Blanks :=
  ⟨[], by simp⟩

/-- The ways to spell the characters of a text: as they are, by a short escape, by their code, or by the two
surrogates of their code. -/
inductive SpellsChars : List Char → List Char → Prop
  | nil : SpellsChars [] []
  | plain {s cs : List Char} {c : Char} : c ≠ '"' → c ≠ '\\' → ¬c.toNat < 0x20 → SpellsChars s cs →
      SpellsChars (c :: s) (c :: cs)
  | short {s cs : List Char} {e c : Char} : simpleEscape? e = some c → SpellsChars s cs →
      SpellsChars ('\\' :: e :: s) (c :: cs)
  | code {s cs : List Char} {a b c d : Char} {n : Nat} : hexQuad? a b c d = some n →
      isHighSurrogate n = false → isLowSurrogate n = false → SpellsChars s cs →
      SpellsChars ('\\' :: 'u' :: a :: b :: c :: d :: s) (.ofNat n :: cs)
  | pair {s cs : List Char} {a b c d a' b' c' d' : Char} {high low : Nat} :
      hexQuad? a b c d = some high → isHighSurrogate high = true →
      hexQuad? a' b' c' d' = some low → isLowSurrogate low = true → SpellsChars s cs →
      SpellsChars ('\\' :: 'u' :: a :: b :: c :: d :: '\\' :: 'u' :: a' :: b' :: c' :: d' :: s)
        (.ofNat (0x10000 + (high - 0xD800) * 0x400 + (low - 0xDC00)) :: cs)

def SpellsText (text : List Char) (s : String) : Prop :=
  ∃ body, text = '"' :: body ++ ['"'] ∧ SpellsChars body s.toList

/-- What may stand between quotation marks, surrogates in any order included. -/
inductive Letters : List Char → Prop
  | nil : Letters []
  | plain {s : List Char} {c : Char} : c ≠ '"' → c ≠ '\\' → ¬c.toNat < 0x20 → Letters s → Letters (c :: s)
  | short {s : List Char} {e : Char} : (simpleEscape? e).isSome → Letters s → Letters ('\\' :: e :: s)
  | code {s : List Char} {a b c d : Char} : (hexQuad? a b c d).isSome → Letters s →
      Letters ('\\' :: 'u' :: a :: b :: c :: d :: s)

def IsString (text : List Char) : Prop :=
  ∃ body, text = '"' :: body ++ ['"'] ∧ Letters body

structure DigitRun where
  chars : List Char
  all : AllDigits chars
  ne_nil : chars ≠ []

structure Exponent where
  mark : Char
  sign : Option Bool
  run : DigitRun
  isMark : isExponentMark mark = true

namespace Exponent

def negative (e : Exponent) : Bool :=
  e.sign.getD false

def signText : Option Bool → List Char
  | none => []
  | some negative => [if negative then '-' else '+']

def text (e : Exponent) : List Char :=
  e.mark :: (signText e.sign ++ e.run.chars)

end Exponent

/-- A number as it is written, in which only zero begins with a zero. -/
structure Numeral where
  negative : Bool
  whole : DigitRun
  fraction : Option DigitRun
  exponent : Option Exponent
  leading : whole.chars.head? = some '0' → whole.chars = ['0']

namespace Numeral

def fractionText : Option DigitRun → List Char
  | none => []
  | some run => '.' :: run.chars

def exponentText : Option Exponent → List Char
  | none => []
  | some e => e.text

def unsignedText (n : Numeral) : List Char :=
  n.whole.chars ++ (fractionText n.fraction ++ exponentText n.exponent)

def text (n : Numeral) : List Char :=
  if n.negative then '-' :: n.unsignedText else n.unsignedText

def value (n : Numeral) : Except Fault Number :=
  let (whole, extra) := gatherWhole 0 n.whole.chars
  match n.fraction with
  | none =>
    match n.exponent with
    | none => wholeNumber n.negative whole extra
    | some e => withExponent n.negative whole extra (e.negative, e.run.chars)
  | some run =>
    let (all, places) := gatherDecimals whole 0 run.chars
    let shift : Int := extra - places
    match n.exponent with
    | none => realNumber n.negative all shift
    | some e => withExponent n.negative all shift (e.negative, e.run.chars)

end Numeral

structure ItemText where
  before : Blanks
  text : List Char
  behind : Blanks

structure MemberText where
  before : Blanks
  key : List Char
  beforeColon : Blanks
  beforeValue : Blanks
  value : List Char
  behind : Blanks

def ItemText.chars (i : ItemText) : List Char :=
  i.before.chars ++ (i.text ++ i.behind.chars)

def MemberText.tail (m : MemberText) : List Char :=
  m.beforeColon.chars ++ ':' :: (m.beforeValue.chars ++ m.value)

def MemberText.chars (m : MemberText) : List Char :=
  m.before.chars ++ (m.key ++ (m.tail ++ m.behind.chars))

def separated : List (List Char) → List Char
  | [] => []
  | t :: ts => t ++ ts.flatMap (',' :: ·)

/-- A list; the inner blanks count only where it is empty. -/
def listText (inner : Blanks) (items : List ItemText) : List Char :=
  '[' :: (if items = [] then inner.chars else separated (items.map ItemText.chars)) ++ [']']

def objectText (inner : Blanks) (members : List MemberText) : List Char :=
  '\x7b' :: (if members = [] then inner.chars else separated (members.map MemberText.chars)) ++ ['\x7d']

/-- What may stand where a value is passed over: numbers of any size, surrogates in any order, containers nested
without limit, and keys that come again. -/
inductive IsValue : List Char → Prop
  | null : IsValue ['n', 'u', 'l', 'l']
  | true : IsValue ['t', 'r', 'u', 'e']
  | false : IsValue ['f', 'a', 'l', 's', 'e']
  | number (n : Numeral) : IsValue n.text
  | text {s : List Char} : IsString s → IsValue s
  | list (inner : Blanks) (items : List ItemText) : (∀ i ∈ items, IsValue i.text) → IsValue (listText inner items)
  | object (inner : Blanks) (members : List MemberText) : (∀ m ∈ members, IsString m.key) →
      (∀ m ∈ members, IsValue m.value) → IsValue (objectText inner members)

/-- The texts of a value in which at most `room` containers are nested and no object has a key twice. The members
of an object are a set, listed by ascending key. -/
inductive Spells : Nat → List Char → Value → Prop
  | null {room : Nat} : Spells room ['n', 'u', 'l', 'l'] .null
  | true {room : Nat} : Spells room ['t', 'r', 'u', 'e'] (.boolean true)
  | false {room : Nat} : Spells room ['f', 'a', 'l', 's', 'e'] (.boolean false)
  | number {room : Nat} (n : Numeral) {number : Number} : n.value = .ok number → Spells room n.text (.number number)
  | text {room : Nat} {text : List Char} {s : String} : SpellsText text s → Spells room text (.text s)
  | list {room : Nat} (inner : Blanks) (items : List (ItemText × Value)) : (∀ i ∈ items, Spells room i.1.text i.2) →
      Spells (room + 1) (listText inner (items.map Prod.fst)) (.array (items.map Prod.snd))
  | object {room : Nat} (inner : Blanks) (members : List (MemberText × String × Value)) :
      (∀ m ∈ members, SpellsText m.1.key m.2.1) → (∀ m ∈ members, Spells room m.1.value m.2.2) →
      (members.map fun m => m.2.1).Nodup →
      Spells (room + 1) (objectText inner (members.map Prod.fst)) (.object (Value.sortMembers (members.map Prod.snd)))

end MarketTicker.Json
