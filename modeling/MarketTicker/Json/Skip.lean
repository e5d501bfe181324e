import MarketTicker.Json.Value

namespace MarketTicker.Json

inductive Bracket where
  | square
  | curly
  deriving DecidableEq, Repr

namespace Bracket

def closing : Bracket → Char
  | .square => ']'
  | .curly => '\x7d'

def endFault : Bracket → Fault
  | .square => .endOfList
  | .curly => .endOfObject

def commaFault : Bracket → Fault
  | .square => .expectedListCommaOrEnd
  | .curly => .expectedObjectCommaOrEnd

end Bracket

def skipFrom (c : Char) : Reader (Option Bracket) := do
  match c with
  | 'n' =>
    ident ['u', 'l', 'l']
    return none
  | 't' =>
    ident ['r', 'u', 'e']
    return none
  | 'f' =>
    ident ['a', 'l', 's', 'e']
    return none
  | '-' =>
    skipUnsigned
    return none
  | '"' =>
    skipChars
    return none
  | '[' => return some .square
  | '\x7b' => return some .curly
  | c =>
    if Text.isDigit c then
      skipNumberAfter c
      return none
    else .fail .expectedValue

def skipKey : Reader Unit := do
  match ← ahead with
  | some '"' =>
    advance
    skipChars
    match ← ahead with
    | some ':' => advance
    | some _ => .fail .expectedColon
    | none => .fail .endOfObject
  | some _ => .fail .keyMustBeText
  | none => .fail .endOfObject

def skipLead : Bracket → Reader Unit
  | .square => pure ()
  | .curly => skipKey

inductive Place where
  | opened
  | afterItem
  deriving DecidableEq

/-- Closes what ends here, innermost first, and stops before the next value, or with nothing open. -/
def settle (place : Place) (s : List Char) : List Bracket → Except Fault (Taken (List Bracket) s)
  | [] => .ok ⟨[], s, Nat.le_refl _⟩
  | top :: stack =>
    match h : dropBlanks s with
    | [] => .error top.endFault
    | c :: r =>
      have hr : r.length < s.length := by have := dropBlanks_length_le s; rw [h] at this; exact this
      if c = top.closing then (settle .afterItem r stack).map (·.after (Nat.le_of_lt hr))
      else if place = .opened then (skipLead top (c :: r)).map fun t => ⟨top :: stack, t.rest, Nat.le_trans t.rest_le hr⟩
      else if c = ',' then (skipLead top r).map fun t => ⟨top :: stack, t.rest, Nat.le_trans t.rest_le (Nat.le_of_lt hr)⟩
      else .error top.commaFault
  termination_by stack => stack.length

/-- Passes over values until nothing is open; containers nest without limit. -/
def skipWithin (stack : List Bracket) (s : List Char) : Except Fault (Taken Unit s) :=
  match h : dropBlanks s with
  | [] => .error .endOfValue
  | c :: r =>
    have hr : r.length < s.length := by have := dropBlanks_length_le s; rw [h] at this; exact this
    match skipFrom c r with
    | .error e => .error e
    | .ok t =>
      let settled := match t.value with
        | none => settle .afterItem t.rest stack
        | some bracket => settle .opened t.rest (bracket :: stack)
      match settled with
      | .error e => .error e
      | .ok u =>
        have hu : u.rest.length < s.length := Nat.lt_of_le_of_lt (Nat.le_trans u.rest_le t.rest_le) hr
        if u.value = [] then .ok ⟨(), u.rest, Nat.le_of_lt hu⟩
        else (skipWithin u.value u.rest).map (·.after (Nat.le_of_lt hu))
  termination_by s.length

def skipValue : Reader Unit :=
  skipWithin []

end MarketTicker.Json
