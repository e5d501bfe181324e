import MarketTicker.Text.Blank
import MarketTicker.Text.LetterCase

namespace MarketTicker

inductive Mode where
  | ltp
  | quote
  | full
  deriving DecidableEq, Repr, Inhabited

namespace Mode

/-- In the order in which subscriptions are restored. -/
def all : List Mode :=
  [.ltp, .quote, .full]

theorem mem_all (m : Mode) : m ∈ all := by
  cases m <;> decide

def initial : Mode :=
  .quote

def name : Mode → String
  | .ltp => "ltp"
  | .quote => "quote"
  | .full => "full"

def ofName? (s : String) : Option Mode :=
  all.find? (·.name = s)

theorem ofName?_name (m : Mode) : ofName? m.name = some m := by
  cases m <;> decide

structure UnknownName where
  name : String
  deriving DecidableEq, Repr

def UnknownName.message (e : UnknownName) : String :=
  "unknown streaming mode: " ++ e.name

def read (cs : List Char) : Except UnknownName Mode :=
  let name := String.ofList (Text.lower (Text.trim cs))
  match ofName? name with
  | some mode => .ok mode
  | none => .error ⟨name⟩

end Mode

end MarketTicker
