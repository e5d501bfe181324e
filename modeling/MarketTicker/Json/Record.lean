import MarketTicker.Json.Typed

namespace MarketTicker.Json

/-- One field of a record `α`: how it is read into a record and written from one. A field that is not
`needed` may be missing in an object, and one that is not `listed` at the end of an array. -/
structure Member (α : Type) where
  name : String
  needed : Bool
  listed : Bool
  read : Reader (α → α)
  write : α → List Char

namespace Member

variable {α β : Type}

def make (name : String) (read : Reader β) (write : β → List Char) (get : α → β) (set : β → α → α)
    (needed listed : Bool) : Member α :=
  ⟨name, needed, listed, set <$> read, write ∘ get⟩

def required (name : String) (read : Reader β) (write : β → List Char) (get : α → β) (set : β → α → α) :
    Member α :=
  make name read write get set true true

/-- A field that an object may lack, but not an array. -/
def nullable (name : String) (read : Reader β) (write : β → List Char) (get : α → β) (set : β → α → α) :
    Member α :=
  make name read write get set false true

def defaulted (name : String) (read : Reader β) (write : β → List Char) (get : α → β) (set : β → α → α) :
    Member α :=
  make name read write get set false false

end Member

structure Partial (α : Type) where
  seen : List String
  record : α

/-- A known name may come once; what an unknown one holds is passed over. -/
def stepMember {α : Type} (fields : List (Member α)) (p : Partial α) (key : String) : Reader (Partial α) :=
  match fields.find? (·.name = key) with
  | none => do
    colon
    skipValue
    return p
  | some field =>
    if key ∈ p.seen then .fail (.duplicateField key)
    else do
      colon
      let set ← field.read
      return ⟨key :: p.seen, set p.record⟩

def Partial.finish {α : Type} (fields : List (Member α)) (p : Partial α) : Except Fault α :=
  match fields.find? fun field => field.needed && !(p.seen.contains field.name) with
  | some field => .error (.missingField field.name)
  | none => .ok p.record

def readListed {α : Type} (expected : String) (done : Nat) (record : α) : List (Member α) → Reader α
  | [] => pure record
  | field :: rest => do
    if ← nextElement (done = 0) then
      let set ← field.read
      readListed expected (done + 1) (set record) rest
    else if field.listed then .fail (.invalidLength done expected)
    else readListed expected done record rest

structure Schema (α : Type) where
  name : String
  start : α
  fields : List (Member α)

namespace Schema

variable {α : Type}

def expected (s : Schema α) : String :=
  "struct " ++ s.name

def countText (n : Nat) : String :=
  if n = 1 then "1 element" else String.ofList (Text.numeral n) ++ " elements"

/-- An object of the fields in any order, or an array of them in the given one. -/
def read (s : Schema α) : Reader α :=
  onNext fun c =>
    if c = '\x7b' then do
      let p ← members (stepMember s.fields) ⟨[], s.start⟩
      .lift (p.finish s.fields)
    else if c = '[' then do
      advance
      let record ← readListed (s.expected ++ " with " ++ countText s.fields.length) 0 s.start s.fields
      endList
      return record
    else mismatch s.expected

def writeFields (record : α) : List (Member α) → List Char
  | [] => []
  | [field] => writeText field.name ++ ':' :: field.write record
  | field :: rest => writeText field.name ++ ':' :: field.write record ++ ',' :: writeFields record rest

def write (s : Schema α) (record : α) : List Char :=
  '\x7b' :: writeFields record s.fields ++ ['\x7d']

end Schema

def writeList {α : Type} (write : α → List Char) (list : List α) : List Char :=
  '[' :: List.flatten (List.intersperse [','] (list.map write)) ++ [']']

def writeOption {α : Type} (write : α → List Char) : Option α → List Char
  | none => ['n', 'u', 'l', 'l']
  | some a => write a

def writeBool (b : Bool) : List Char :=
  if b then ['t', 'r', 'u', 'e'] else ['f', 'a', 'l', 's', 'e']

end MarketTicker.Json
