import MarketTicker.Json.Fault

namespace MarketTicker.Json

structure Taken (α : Type) (s : List Char) where
  value : α
  rest : List Char
  rest_le : rest.length ≤ s.length

def Taken.after {α : Type} {s r : List Char} (h : r.length ≤ s.length) (t : Taken α r) : Taken α s :=
  ⟨t.value, t.rest, Nat.le_trans t.rest_le h⟩

def Taken.cons {α : Type} {s r : List Char} (a : α) (h : r.length ≤ s.length) (t : Taken (List α) r) :
    Taken (List α) s :=
  ⟨a :: t.value, t.rest, Nat.le_trans t.rest_le h⟩

/-- Readers go once from left to right, so of two faults the first in the text is found. -/
def Reader (α : Type) : Type :=
  (s : List Char) → Except Fault (Taken α s)

namespace Reader

def pure {α : Type} (a : α) : Reader α :=
  fun s => .ok ⟨a, s, Nat.le_refl _⟩

def bind {α β : Type} (x : Reader α) (f : α → Reader β) : Reader β := fun s =>
  match x s with
  | .error e => .error e
  | .ok t => (f t.value t.rest).map (·.after t.rest_le)

instance : Monad Reader where
  pure := pure
  bind := bind

def fail {α : Type} (fault : Fault) : Reader α :=
  fun _ => .error fault

def lift {α : Type} : Except Fault α → Reader α
  | .ok a => pure a
  | .error e => fail e

theorem bind_ok {α β : Type} {x : Reader α} {f : α → Reader β} {s : List Char} {t : Taken α s}
    (h : x s = .ok t) : (x >>= f) s = (f t.value t.rest).map (·.after t.rest_le) := by
  show bind x f s = _
  rw [bind, h]

theorem bind_error {α β : Type} {x : Reader α} {f : α → Reader β} {s : List Char} {e : Fault}
    (h : x s = .error e) : (x >>= f) s = .error e := by
  show bind x f s = _
  rw [bind, h]

end Reader

def isBlank (c : Char) : Bool :=
  c = ' ' || c = '\n' || c = '\t' || c = '\r'

def dropBlanks (s : List Char) : List Char :=
  s.dropWhile isBlank

theorem dropBlanks_length_le (s : List Char) : (dropBlanks s).length ≤ s.length :=
  (List.dropWhile_suffix isBlank).length_le

def blanks : Reader Unit :=
  fun s => .ok ⟨(), dropBlanks s, dropBlanks_length_le s⟩

def peek : Reader (Option Char) :=
  fun s => .ok ⟨s.head?, s, Nat.le_refl _⟩

def ahead : Reader (Option Char) := do
  blanks
  peek

def advance : Reader Unit :=
  fun s => .ok ⟨(), s.tail, by simp⟩

def ident : List Char → Reader Unit
  | [] => pure ()
  | c :: cs => do
    match ← peek with
    | none => .fail .endOfValue
    | some d =>
      if d = c then
        advance
        ident cs
      else .fail .expectedIdent

def colon : Reader Unit := do
  match ← ahead with
  | some ':' => advance
  | some _ => .fail .expectedColon
  | none => .fail .endOfObject

def readAll {α : Type} (reader : Reader α) (s : List Char) : Except Fault α := do
  let t ← reader s
  if dropBlanks t.rest = [] then .ok t.value else .error .trailingCharacters

end MarketTicker.Json
