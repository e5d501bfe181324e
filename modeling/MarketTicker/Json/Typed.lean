import MarketTicker.Json.Skip

namespace MarketTicker.Json

/-- Reads what stands here only as far as it takes to name it. -/
def found : Reader Found := do
  match ← peek with
  | some 'n' =>
    advance
    ident ['u', 'l', 'l']
    return .null
  | some 't' =>
    advance
    ident ['r', 'u', 'e']
    return .boolean true
  | some 'f' =>
    advance
    ident ['a', 'l', 's', 'e']
    return .boolean false
  | some '"' => return .text (← text)
  | some '[' => return .sequence
  | some '\x7b' => return .map
  | some c => if c = '-' ∨ Text.isDigit c then return .number (← number) else .fail .expectedValue
  | none => .fail .expectedValue

def mismatch {α : Type} (expected : String) : Reader α := do
  .fail (.invalidType (← found) expected)

def onNext {α : Type} (read : Char → Reader α) : Reader α := do
  match ← ahead with
  | none => .fail .endOfValue
  | some c => read c

def textAs (expected : String) : Reader String :=
  onNext fun c => if c = '"' then text else mismatch expected

def boolean : Reader Bool :=
  onNext fun c =>
    if c = 't' then do
      advance
      ident ['r', 'u', 'e']
      return true
    else if c = 'f' then do
      advance
      ident ['a', 'l', 's', 'e']
      return false
    else mismatch "a boolean"

def intoRange (low high : Int) (expected : String) : Number → Except Fault Int
  | .whole n =>
    if low ≤ n ∧ n ≤ high then .ok n else .error (.invalidValue (.number (.whole n)) expected)
  | n => .error (.invalidType (.number n) expected)

def integer (low high : Int) (expected : String) : Reader Int :=
  onNext fun c =>
    if c = '-' ∨ Text.isDigit c then do
      .lift (intoRange low high expected (← number))
    else mismatch expected

def word32 : Reader UInt32 := do
  return .ofNat (← integer 0 4294967295 "u32").toNat

def word16 : Reader UInt16 := do
  return .ofNat (← integer 0 65535 "u16").toNat

def int32 : Reader Int32 := do
  return .ofInt (← integer (-2147483648) 2147483647 "i32")

def optional {α : Type} (read : Reader α) : Reader (Option α) := do
  if (← ahead) = some 'n' then
    advance
    ident ['u', 'l', 'l']
    return none
  else return some (← read)

def listOf {α : Type} (item : Reader α) : Reader (List α) :=
  onNext fun c => if c = '[' then items item else mismatch "a sequence"

def variant {α : Type} (ofName? : String → Option α) (known : List String) (name : String) : Except Fault α :=
  match ofName? name with
  | some a => .ok a
  | none => .error (.unknownVariant name known)

def unit : Reader Unit :=
  onNext fun c =>
    if c = 'n' then do
      advance
      ident ['u', 'l', 'l']
    else mismatch "unit"

/-- A name, or an object of that name as the only key with `null` for its value. -/
def choice {α : Type} (ofName? : String → Option α) (known : List String) : Reader α :=
  onNext fun c =>
    if c = '"' then do
      .lift (variant ofName? known (← text))
    else if c = '\x7b' then do
      advance
      let a ← .lift (variant ofName? known (← textAs "variant identifier"))
      colon
      unit
      match ← ahead with
      | some '\x7d' => advance
      | some _ => .fail .expectedValue
      | none => .fail .endOfObject
      return a
    else .fail .expectedValue

def itemsExactly {α : Type} (item : Reader α) (expected : String) (done : Nat) : Nat → Reader (List α)
  | 0 => pure []
  | n + 1 => do
    if ← nextElement (done = 0) then
      let head ← item
      let tail ← itemsExactly item expected (done + 1) n
      return head :: tail
    else .fail (.invalidLength done expected)

def exactly {α : Type} (n : Nat) (item : Reader α) (expected : String) : Reader (List α) :=
  onNext fun c =>
    if c = '[' then do
      advance
      let list ← itemsExactly item expected 0 n
      endList
      return list
    else mismatch expected

end MarketTicker.Json
