import Mathlib.Data.List.Forall2
import MarketTicker.Program.Settings
import MarketTicker.Proofs.Text.Grammar
import MarketTicker.Proofs.Text.LetterCase

namespace MarketTicker

open Text

theorem Mode.read_eq_ok {cs : List Char} {m : Mode} : Mode.read cs = .ok m ↔ lower (trim cs) = m.name.toList := by
  have hname : ofName? (String.ofList (lower (trim cs))) = some m ↔ lower (trim cs) = m.name.toList := by
    constructor
    · intro h
      have hfound := List.find?_some h
      rw [of_decide_eq_true hfound, String.toList_ofList]
    · intro h
      rw [h, String.ofList_toList, ofName?_name]
  rw [← hname, Mode.read]
  cases ofName? (String.ofList (lower (trim cs))) <;> simp

section Failing

variable {ε α β : Type} {e : ε} {x : Except ε α} {f : α → Except ε β} {b : β}

theorem bind_eq_ok : (x >>= f) = .ok b ↔ ∃ a, x = .ok a ∧ f a = .ok b := by
  cases x <;> simp [bind, Except.bind]

theorem bind_eq_error : (x >>= f) = .error e ↔ x = .error e ∨ ∃ a, x = .ok a ∧ f a = .error e := by
  cases x <;> simp [bind, Except.bind]

theorem map_eq_error {g : α → β} : x.map g = .error e ↔ x = .error e := by
  cases x <;> simp [Except.map]

theorem mapM_eq_ok {xs : List α} {ys : List β} :
    xs.mapM f = .ok ys ↔ List.Forall₂ (fun x y => f x = .ok y) xs ys := by
  induction xs generalizing ys with
  | nil => simp [pure, Except.pure, eq_comm]
  | cons x xs ih =>
    simp only [List.mapM_cons, bind_eq_ok, ih, List.forall₂_cons_left_iff]
    constructor
    · rintro ⟨y, hx, zs, hxs, hys⟩
      exact ⟨y, zs, hx, hxs, (Except.ok.inj hys).symm⟩
    · rintro ⟨y, zs, hx, hxs, rfl⟩
      exact ⟨y, hx, zs, hxs, rfl⟩

theorem mapM_eq_error {xs : List α} :
    xs.mapM f = .error e ↔
      ∃ good bad rest, xs = good ++ bad :: rest ∧ (∀ x ∈ good, ∃ y, f x = .ok y) ∧ f bad = .error e := by
  induction xs with
  | nil => simp [pure, Except.pure]
  | cons x xs ih =>
    simp only [List.mapM_cons, bind_eq_error, ih]
    constructor
    · rintro (hx | ⟨y, hx, ⟨good, bad, rest, rfl, hgood, hbad⟩ | ⟨ys, -, hys⟩⟩)
      · exact ⟨[], x, xs, rfl, nofun, hx⟩
      · exact ⟨x :: good, bad, rest, rfl, List.forall_mem_cons.2 ⟨⟨y, hx⟩, hgood⟩, hbad⟩
      · exact absurd hys nofun
    · rintro ⟨good, bad, rest, hxs, hgood, hbad⟩
      cases good with
      | nil =>
        obtain ⟨rfl, -⟩ := List.cons.inj hxs
        exact .inl hbad
      | cons z good =>
        obtain ⟨rfl, rfl⟩ := List.cons.inj hxs
        obtain ⟨⟨y, hx⟩, hgood⟩ := List.forall_mem_cons.1 hgood
        exact .inr ⟨y, hx, .inl ⟨good, bad, rest, rfl, hgood, hbad⟩⟩

end Failing

namespace Settings

inductive Variable where
  | apiKey
  | accessToken
  | root
  | retry
  | interval
  | retries
  | tokens
  | mode
  | port
  deriving DecidableEq, Repr

namespace Variable

def name : Variable → String
  | .apiKey => "KITE_API_KEY"
  | .accessToken => "KITE_ACCESS_TOKEN"
  | .root => "KITE_TICKER_ROOT"
  | .retry => "KITE_TICKER_RECONNECT"
  | .interval => "KITE_TICKER_RECONNECT_INTERVAL_SECS"
  | .retries => "KITE_TICKER_RECONNECT_TRIES"
  | .tokens => "KITE_TICKER_TOKENS"
  | .mode => "KITE_TICKER_MODE"
  | .port => "KITE_TICKER_METRICS_PORT"

def lenient : Variable → Bool
  | .root | .retry | .interval | .retries | .port => true
  | .apiKey | .accessToken | .tokens | .mode => false

def forget (s : Settings) : Variable → Settings
  | .apiKey => { s with credentials := { s.credentials with apiKey := "" } }
  | .accessToken => { s with credentials := { s.credentials with accessToken := "" } }
  | .root => { s with root := "" }
  | .retry => { s with retryEnabled := true }
  | .interval => { s with retryInterval := .ofSeconds 0 }
  | .retries => { s with maxRetries := 0 }
  | .tokens => { s with tokens := [] }
  | .mode => { s with mode := .initial }
  | .port => { s with metricsPort := 0 }

end Variable

variable {α : Type} {env : Environment} {name value : String} {fault : SettingsFault} {a fallback : α}
  {means : String → α → Prop}

/-- What a variable means, where a value without a meaning counts as if the variable were not there. -/
def Lenient (env : Environment) (name : String) (means : String → α → Prop) (fallback a : α) : Prop :=
  (∃ value, env name = some value ∧ means value a) ∨
    (∀ value, env name = some value → ∀ b, ¬means value b) ∧ a = fallback

/-- What a variable means that has to have a meaning if it is there. -/
def Strict (env : Environment) (name : String) (means : String → α → Prop) (fallback a : α) : Prop :=
  (∃ value, env name = some value ∧ means value a) ∨ env name = none ∧ a = fallback

theorem lenient_iff {parse : String → α}
    (hparse : ∀ value a, parse value = a ↔ means value a ∨ (∀ b, ¬means value b) ∧ a = fallback) :
    ((env name).map parse).getD fallback = a ↔ Lenient env name means fallback a := by
  unfold Lenient
  cases env name with
  | none => simp [eq_comm]
  | some value => simpa using hparse value a

theorem optional_eq_ok {parse : String → Except SettingsFault α}
    (hparse : ∀ value a, parse value = .ok a ↔ means value a) :
    optional (env name) parse fallback = .ok a ↔ Strict env name means fallback a := by
  unfold Strict optional
  cases env name with
  | none => simp [eq_comm]
  | some value => simpa using hparse value a

theorem optional_eq_error {parse : String → Except SettingsFault α} :
    optional (env name) parse fallback = .error fault ↔
      ∃ value, env name = some value ∧ parse value = .error fault := by
  unfold optional
  cases env name <;> simp

inductive Absent (env : Environment) (name : String) : SettingsFault → Prop
  | missing (h : env name = none) : Absent env name (.missing name)
  | blank {value : String} (h : env name = some value) (hblank : Blank value.toList) :
    Absent env name (.blank name)

theorem require_eq_ok : require env name = .ok value ↔ env name = some value ∧ ¬Blank value.toList := by
  unfold require
  cases env name with
  | none => simp
  | some v =>
    by_cases hv : trim v.toList = []
    · have hblank := trim_eq_nil.1 hv
      simp only [hv, if_true, Option.some.injEq, reduceCtorEq, false_iff, not_and, not_not]
      rintro rfl
      exact hblank
    · have hblank := mt trim_eq_nil.2 hv
      simp only [hv, if_false, Except.ok.injEq, Option.some.injEq]
      constructor
      · rintro rfl
        exact ⟨rfl, hblank⟩
      · exact And.left

theorem require_eq_error : require env name = .error fault ↔ Absent env name fault := by
  unfold require
  constructor
  · intro h
    cases henv : env name with
    | none =>
      rw [henv] at h
      obtain rfl := Except.error.inj h
      exact .missing henv
    | some value =>
      simp only [henv] at h
      split at h
      · rename_i hblank
        obtain rfl := Except.error.inj h
        exact .blank henv (trim_eq_nil.1 hblank)
      · exact absurd h nofun
  · rintro (henv | ⟨henv, hblank⟩)
    · rw [henv]
    · simp only [henv, trim_eq_nil.2 hblank, if_true]

def Numeric (max : Nat) (value : String) (n : Nat) : Prop :=
  ∃ core, Wraps value.toList core ∧ Literal max core n

theorem numeric_iff {max n : Nat} : Numeric max value n ↔ readBounded max (trim value.toList) = some n := by
  simp only [Numeric, wraps_iff, exists_eq_left', readBounded_eq_some]

theorem readNumber_iff {max n d : Nat} :
    readNumber env name max d = n ↔ Lenient env name (Numeric max) d n := by
  have hparse (value : String) (n : Nat) : (readBounded max (trim value.toList)).getD d = n ↔
      Numeric max value n ∨ (∀ m, ¬Numeric max value m) ∧ n = d := by
    simp only [numeric_iff]
    cases readBounded max (trim value.toList) <;> simp [eq_comm]
  rw [← lenient_iff hparse, readNumber]
  cases env name <;> rfl

theorem Lenient.le {max n d : Nat} (h : Lenient env name (Numeric max) d n) (hd : d ≤ max) : n ≤ max := by
  obtain ⟨_, -, _, -, _, -, -, -, -, hn⟩ | ⟨-, rfl⟩ := h
  · exact hn
  · exact hd

def switchWords : Bool → List String
  | true => ["1", "true", "yes", "on"]
  | false => ["0", "false", "no", "off"]

/-- One of the words for `b`, in small letters or capitals, with blanks around it. -/
def Switched (value : String) (b : Bool) : Prop :=
  ∃ core, Wraps value.toList core ∧ (String.ofList core).map Char.toLower ∈ switchWords b

theorem switched_iff {b : Bool} :
    Switched value b ↔ (String.ofList (trim value.toList)).map Char.toLower ∈ switchWords b := by
  simp only [Switched, wraps_iff, exists_eq_left']

theorem switchWords_disjoint {word : String} (h : word ∈ switchWords true) : word ∉ switchWords false := by
  revert word
  decide

theorem readSwitch_iff {fallback b : Bool} :
    readSwitch fallback value = b ↔ Switched value b ∨ (∀ c, ¬Switched value c) ∧ b = fallback := by
  change (let word := (String.ofList (trim value.toList)).map Char.toLower
    if (switchWords true).contains word then true
    else if (switchWords false).contains word then false else fallback) = b ↔ _
  simp only [switched_iff]
  generalize (String.ofList (trim value.toList)).map Char.toLower = word
  by_cases htrue : word ∈ switchWords true
  · have hfalse := switchWords_disjoint htrue
    cases b <;> simp [htrue, hfalse]
  · by_cases hfalse : word ∈ switchWords false
    · cases b <;> simp [htrue, hfalse]
    · cases b <;> simp [htrue, hfalse, eq_comm]

theorem readRoot_iff {root : String} :
    readRoot env = root ↔
      Lenient env rootName (fun value root => value = root ∧ root ≠ "") ConnectRequest.defaultRoot root := by
  have hparse (value root : String) : (if value = "" then ConnectRequest.defaultRoot else value) = root ↔
      (value = root ∧ root ≠ "") ∨ (∀ r, ¬(value = r ∧ r ≠ "")) ∧ root = ConnectRequest.defaultRoot := by
    by_cases hvalue : value = ""
    · simp [hvalue, eq_comm]
    · simp only [hvalue, if_false]
      constructor
      · rintro rfl
        exact .inl ⟨rfl, hvalue⟩
      · rintro (⟨h, -⟩ | ⟨h, -⟩)
        · exact h
        · exact absurd ⟨rfl, hvalue⟩ (h value)
  rw [← lenient_iff hparse, readRoot]
  cases env rootName <;> rfl

/-- The name of a mode in any case, with blanks around it. -/
def Names (value : String) (m : Mode) : Prop :=
  ∃ core, Wraps value.toList core ∧ lower core = m.name.toList

theorem names_iff {m : Mode} : Names value m ↔ Mode.read value.toList = .ok m := by
  simp only [Names, wraps_iff, exists_eq_left', Mode.read_eq_ok]

theorem own_name (m : Mode) : ∀ c ∈ m.name.toList, Own c := by
  have h : m.name.toList.all (fun c => decide (Own c)) = true := by
    cases m <;> decide
  exact fun c hc => of_decide_eq_true (List.all_eq_true.1 h c hc)

/-- Only the case of ASCII letters is free in the name of a mode. -/
theorem names_iff_ascii {m : Mode} :
    Names value m ↔ ∃ core, Wraps value.toList core ∧
      (core.map Char.toLower, m) ∈ [("ltp".toList, Mode.ltp), ("quote".toList, .quote), ("full".toList, .full)] := by
  simp only [Names, lower_eq_iff (own_name m)]
  cases m <;> simp [Mode.name]

theorem readMode_eq_ok {m : Mode} : readMode value = .ok m ↔ Names value m := by
  rw [names_iff, readMode]
  cases Mode.read value.toList <;> simp

theorem readMode_eq_error :
    readMode value = .error fault ↔ (∀ m, ¬Names value m) ∧ fault = .invalid modeName value := by
  simp only [names_iff, readMode]
  cases Mode.read value.toList <;> simp [eq_comm]

def Lists (value : String) (is : List (List Char)) : Prop :=
  ∃ ps, Divided ',' value.toList ps ∧ Itemized ps is

theorem lists_iff {is : List (List Char)} : Lists value is ↔ items value.toList = is := by
  simp only [Lists, divided_iff, itemized_iff, exists_eq_left', items]

def Word (item : List Char) (t : Token) : Prop :=
  Literal 0xFFFFFFFF item t.toNat

def TokenList (value : String) (ts : List Token) : Prop :=
  ∃ is, Lists value is ∧ List.Forall₂ Word is ts

theorem readToken_eq_ok {item : List Char} {t : Token} : readToken item = .ok t ↔ Word item t := by
  rw [Word, ← readWord_eq_some, readToken]
  cases readWord item <;> simp

theorem readToken_eq_error {item : List Char} :
    readToken item = .error fault ↔ (∀ t, ¬Word item t) ∧ fault = .invalid tokensName (String.ofList item) := by
  simp only [Word, ← readWord_eq_some, readToken]
  cases readWord item <;> simp [eq_comm]

theorem readTokens_eq_ok {ts : List Token} : readTokens value.toList = .ok ts ↔ TokenList value ts := by
  simp only [readTokens, mapM_eq_ok, readToken_eq_ok, TokenList, lists_iff, exists_eq_left']

theorem readTokens_eq_error :
    readTokens value.toList = .error fault ↔
      ∃ good bad rest, Lists value (good ++ bad :: rest) ∧ (∀ i ∈ good, ∃ t, Word i t) ∧
        (∀ t, ¬Word bad t) ∧ fault = .invalid tokensName (String.ofList bad) := by
  simp only [readTokens, mapM_eq_error, readToken_eq_ok, readToken_eq_error, lists_iff]

end Settings

end MarketTicker
