import MarketTicker.Json.Number
import MarketTicker.Json.Text

namespace MarketTicker.Json

inductive Value where
  | null
  | boolean (b : Bool)
  | number (n : Number)
  | text (s : String)
  | array (items : List Value)
  | object (members : List (String × Value))
  deriving Inhabited

abbrev Members := List (String × Value)

def Value.found : Value → Found
  | .null => .null
  | .boolean b => .boolean b
  | .number n => .number n
  | .text s => .text s
  | .array _ => .sequence
  | .object _ => .map

def afterListComma : Reader Bool := fun s =>
  match dropBlanks s with
  | [] => .error .endOfValue
  | c :: _ => if c = ']' then .error .trailingComma else .ok ⟨true, dropBlanks s, dropBlanks_length_le s⟩

def nextElement (first : Bool) : Reader Bool := fun s =>
  match h : dropBlanks s with
  | [] => .error .endOfList
  | c :: r =>
    have hr : r.length < s.length := by have := dropBlanks_length_le s; rw [h] at this; exact this
    if c = ']' then .ok ⟨false, c :: r, hr⟩
    else if first then .ok ⟨true, c :: r, hr⟩
    else if c = ',' then (afterListComma r).map (·.after (Nat.le_of_lt hr))
    else .error .expectedListCommaOrEnd

theorem nextElement_rest_lt {s : List Char} {t : Taken Bool s} (h : nextElement false s = .ok t)
    (ht : t.value = true) : t.rest.length < s.length := by
  unfold nextElement at h
  split at h
  · cases h
  · rename_i c r hs
    have hr : r.length < s.length := by have := dropBlanks_length_le s; rw [hs] at this; exact this
    split at h
    · cases h; cases ht
    · split at h
      · contradiction
      · split at h
        · cases ha : afterListComma r with
          | error e => simp [ha, Except.map] at h
          | ok u =>
            simp only [ha, Except.map, Except.ok.injEq] at h
            subst h
            exact Nat.lt_of_le_of_lt u.rest_le hr
        · cases h

def endList : Reader Unit := do
  match ← ahead with
  | some ']' => advance
  | some ',' =>
    advance
    match ← ahead with
    | some ']' => .fail .trailingComma
    | _ => .fail .trailingCharacters
  | some _ => .fail .trailingCharacters
  | none => .fail .endOfList

def nextMember (first : Bool) : Reader Bool := do
  match ← ahead with
  | none => .fail .endOfObject
  | some c =>
    if c = '\x7d' then return false
    else if first then
      if c = '"' then return true else .fail .keyMustBeText
    else if c = ',' then
      advance
      match ← ahead with
      | some '"' => return true
      | some '\x7d' => .fail .trailingComma
      | some _ => .fail .keyMustBeText
      | none => .fail .endOfValue
    else .fail .expectedObjectCommaOrEnd

theorem text_rest_lt {s : List Char} {t : Taken String s} (h : text s = .ok t) :
    t.rest.length < s.length := by
  change Reader.bind advance (fun _ => Reader.bind chars fun cs => Reader.pure (String.ofList cs)) s
    = .ok t at h
  simp only [Reader.bind, advance] at h
  cases s with
  | nil => simp [chars, Except.map] at h
  | cons c r =>
    simp only [List.tail_cons] at h
    cases hc : chars r with
    | error e => simp [hc, Except.map] at h
    | ok u =>
      simp only [hc, Except.map, Reader.pure, Taken.after, Except.ok.injEq] at h
      subst h
      exact Nat.lt_succ_of_le u.rest_le

def moreItems {α : Type} (item : Reader α) (s : List Char) : Except Fault (Taken (List α) s) :=
  match _hn : nextElement false s with
  | .error e => .error e
  | .ok t =>
    if _ht : t.value then
      match item t.rest with
      | .error e => .error e
      | .ok u =>
        match moreItems item u.rest with
        | .error e => .error e
        | .ok v => .ok ⟨u.value :: v.value, v.rest,
            Nat.le_trans v.rest_le (Nat.le_trans u.rest_le t.rest_le)⟩
    else .ok ⟨[], t.rest, t.rest_le⟩
  termination_by s.length
  decreasing_by exact Nat.lt_of_le_of_lt u.rest_le (nextElement_rest_lt _hn _ht)

def items {α : Type} (item : Reader α) : Reader (List α) := do
  advance
  if ← nextElement true then
    let head ← item
    let tail ← moreItems item
    endList
    return head :: tail
  else
    endList
    return []

def foldMembers {σ : Type} (step : σ → String → Reader σ) (state : σ) (first : Bool) (s : List Char) :
    Except Fault (Taken σ s) :=
  match nextMember first s with
  | .error e => .error e
  | .ok t =>
    if t.value then
      match _hk : text t.rest with
      | .error e => .error e
      | .ok k =>
        match step state k.value k.rest with
        | .error e => .error e
        | .ok u =>
          (foldMembers step u.value false u.rest).map
            (·.after (Nat.le_trans u.rest_le (Nat.le_trans k.rest_le t.rest_le)))
    else .ok ⟨state, t.rest, t.rest_le⟩
  termination_by s.length
  decreasing_by
    exact Nat.lt_of_le_of_lt u.rest_le (Nat.lt_of_lt_of_le (text_rest_lt _hk) t.rest_le)

def members {σ : Type} (step : σ → String → Reader σ) (state : σ) : Reader σ := do
  advance
  let result ← foldMembers step state true
  advance
  return result

namespace Value

def dispatch (list object : Reader Value) : Reader Value := do
  match ← ahead with
  | none => .fail .endOfValue
  | some 'n' =>
    advance
    ident ['u', 'l', 'l']
    return .null
  | some 't' =>
    advance
    ident ['r', 'u', 'e']
    return .boolean true
  | some 'f' =>
    advance
    ident ['a', 'l', 's', 'e']
    return .boolean false
  | some '"' => return .text (← Json.text)
  | some '[' => list
  | some '\x7b' => object
  | some c => if c = '-' ∨ Text.isDigit c then return .number (← Json.number) else .fail .expectedValue

/-- Reads what follows a key; members are gathered last first. -/
def addMember (value : Reader Value) (ms : Members) (key : String) : Reader Members := do
  colon
  return (key, ← value) :: ms

/-- A value in which at most `room` containers are nested; `arrange` says what becomes of the members
of an object, in the order in which they are written. -/
def reader (arrange : Members → Members) : Nat → Reader Value
  | 0 => dispatch (.fail .recursionLimit) (.fail .recursionLimit)
  | room + 1 =>
    dispatch (.array <$> items (reader arrange room))
      ((fun ms => .object (arrange ms.reverse)) <$> members (addMember (reader arrange room)) [])

def innerRoom : Nat :=
  126

def insertMember (key : String) (value : Value) : Members → Members
  | [] => [(key, value)]
  | m :: rest =>
    if key < m.1 then (key, value) :: m :: rest
    else if key = m.1 then (key, value) :: rest
    else m :: insertMember key value rest

/-- Members by ascending key, the last of each key. -/
def sortMembers (ms : Members) : Members :=
  ms.foldl (fun sorted m => insertMember m.1 m.2 sorted) []

def sorted : Reader Value :=
  reader sortMembers innerRoom

def written : Reader Value :=
  reader id innerRoom

mutual

def write : Value → List Char
  | .null => ['n', 'u', 'l', 'l']
  | .boolean b => if b then ['t', 'r', 'u', 'e'] else ['f', 'a', 'l', 's', 'e']
  | .number n => n.spell
  | .text s => writeText s
  | .array items => '[' :: writeItems items ++ [']']
  | .object members => '\x7b' :: writeMembers members ++ ['\x7d']

def writeItems : List Value → List Char
  | [] => []
  | [item] => write item
  | item :: rest => write item ++ ',' :: writeItems rest

def writeMembers : List (String × Value) → List Char
  | [] => []
  | [(key, value)] => writeText key ++ ':' :: write value
  | (key, value) :: rest => writeText key ++ ':' :: write value ++ ',' :: writeMembers rest

end

end Value

end MarketTicker.Json
