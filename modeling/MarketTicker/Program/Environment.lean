namespace MarketTicker

abbrev Environment :=
  String → Option String

namespace Environment

def ofList (pairs : List (String × String)) : Environment :=
  fun name => pairs.lookup name

/-- A variable that is there already keeps its value. -/
def provide (env : Environment) (name value : String) : Environment :=
  fun n => if n = name then (env name).orElse fun () => some value else env n

end Environment

end MarketTicker
