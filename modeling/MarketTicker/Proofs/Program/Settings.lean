import MarketTicker.Proofs.Program.Variable

namespace MarketTicker

open Text

namespace Settings

variable {env env' : Environment} {fault : SettingsFault} {s s' : Settings}

inductive Check where
  | apiKey
  | accessToken
  | tokens
  | mode
  deriving DecidableEq, Repr

def Check.all : List Check :=
  [.apiKey, .accessToken, .tokens, .mode]

inductive Hindrance (env : Environment) : Check → SettingsFault → Prop
  | apiKey {fault : SettingsFault} (h : Absent env "KITE_API_KEY" fault) : Hindrance env .apiKey fault
  | accessToken {fault : SettingsFault} (h : Absent env "KITE_ACCESS_TOKEN" fault) :
    Hindrance env .accessToken fault
  | token {value : String} {good : List (List Char)} {bad : List Char} {rest : List (List Char)}
    (h : env "KITE_TICKER_TOKENS" = some value) (hlist : Lists value (good ++ bad :: rest))
    (hgood : ∀ i ∈ good, ∃ t, Word i t) (hbad : ∀ t, ¬Word bad t) :
    Hindrance env .tokens (.invalid "KITE_TICKER_TOKENS" (String.ofList bad))
  | mode {value : String} (h : env "KITE_TICKER_MODE" = some value) (hbad : ∀ m, ¬Names value m) :
    Hindrance env .mode (.invalid "KITE_TICKER_MODE" value)

/-- The first check that finds something decides. -/
def Stops (env : Environment) (fault : SettingsFault) : Prop :=
  ∃ before check after, Check.all = before ++ check :: after ∧
    (∀ c ∈ before, ∀ fault, ¬Hindrance env c fault) ∧ Hindrance env check fault

/-- What every variable has to say for the settings `s`. -/
structure Accepts (env : Environment) (s : Settings) : Prop where
  apiKey : env "KITE_API_KEY" = some s.credentials.apiKey ∧ ¬Blank s.credentials.apiKey.toList
  accessToken : env "KITE_ACCESS_TOKEN" = some s.credentials.accessToken ∧
    ¬Blank s.credentials.accessToken.toList
  root : Lenient env "KITE_TICKER_ROOT" (fun value root => value = root ∧ root ≠ "")
    "wss://ws.kite.trade/" s.root
  retryEnabled : Lenient env "KITE_TICKER_RECONNECT" Switched true s.retryEnabled
  retryInterval : ∃ n, Lenient env "KITE_TICKER_RECONNECT_INTERVAL_SECS" (Numeric 0xFFFFFFFFFFFFFFFF) 5 n ∧
    s.retryInterval.nanos = n * 1000000000
  maxRetries : Lenient env "KITE_TICKER_RECONNECT_TRIES" (Numeric 0xFFFFFFFF) 50 s.maxRetries
  tokens : Strict env "KITE_TICKER_TOKENS" TokenList [] s.tokens
  mode : Strict env "KITE_TICKER_MODE" Names .quote s.mode
  metricsPort : Lenient env "KITE_TICKER_METRICS_PORT" (Numeric 0xFFFF) 0 s.metricsPort

def Check.outcome (env : Environment) : Check → Except SettingsFault Unit
  | .apiKey => (require env apiKeyName).map fun _ => ()
  | .accessToken => (require env accessTokenName).map fun _ => ()
  | .tokens => (optional (env tokensName) (readTokens ·.toList) []).map fun _ => ()
  | .mode => (optional (env modeName) readMode .initial).map fun _ => ()

theorem hindrance_iff {c : Check} : Hindrance env c fault ↔ c.outcome env = .error fault := by
  cases c with
  | apiKey =>
    rw [Check.outcome, map_eq_error, require_eq_error]
    exact ⟨fun (.apiKey h) => h, .apiKey⟩
  | accessToken =>
    rw [Check.outcome, map_eq_error, require_eq_error]
    exact ⟨fun (.accessToken h) => h, .accessToken⟩
  | tokens =>
    rw [Check.outcome, map_eq_error, optional_eq_error]
    simp only [readTokens_eq_error]
    constructor
    · intro (.token h hlist hgood hbad)
      exact ⟨_, h, _, _, _, hlist, hgood, hbad, rfl⟩
    · rintro ⟨value, h, good, bad, rest, hlist, hgood, hbad, rfl⟩
      exact .token h hlist hgood hbad
  | mode =>
    rw [Check.outcome, map_eq_error, optional_eq_error]
    simp only [readMode_eq_error]
    constructor
    · intro (.mode h hbad)
      exact ⟨_, h, hbad, rfl⟩
    · rintro ⟨value, h, hbad, rfl⟩
      exact .mode h hbad

theorem read_eq_error_iff_mapM :
    read env = .error fault ↔ Check.all.mapM (Check.outcome env) = .error fault := by
  simp only [read, Check.all, List.mapM_cons, List.mapM_nil, Check.outcome]
  cases require env apiKeyName with
  | error e => simp [bind, Except.bind, Except.map]
  | ok apiKey =>
    cases require env accessTokenName with
    | error e => simp [bind, Except.bind, Except.map]
    | ok accessToken =>
      cases optional (env tokensName) (readTokens ·.toList) [] with
      | error e => simp [bind, Except.bind, Except.map]
      | ok tokens =>
        cases optional (env modeName) readMode .initial <;>
          simp [bind, Except.bind, Except.map, pure, Except.pure]

theorem read_eq_error : read env = .error fault ↔ Stops env fault := by
  have hpasses (c : Check) : (∃ u, c.outcome env = .ok u) ↔ ∀ fault, ¬Hindrance env c fault := by
    simp only [hindrance_iff]
    cases c.outcome env <;> simp
  simp only [read_eq_error_iff_mapM, mapM_eq_error, Stops, hpasses, hindrance_iff]

theorem read_eq_ok_iff_fields :
    read env = .ok s ↔
      require env apiKeyName = .ok s.credentials.apiKey ∧
      require env accessTokenName = .ok s.credentials.accessToken ∧
      optional (env tokensName) (readTokens ·.toList) [] = .ok s.tokens ∧
      optional (env modeName) readMode .initial = .ok s.mode ∧
      readRoot env = s.root ∧
      ((env retryName).map (readSwitch true)).getD true = s.retryEnabled ∧
      .ofSeconds (.ofNat (readNumber env intervalName 0xFFFFFFFFFFFFFFFF 5)) = s.retryInterval ∧
      readNumber env retriesName 0xFFFFFFFF 50 = s.maxRetries ∧
      readNumber env portName 0xFFFF 0 = s.metricsPort := by
  simp only [read, bind_eq_ok]
  constructor
  · rintro ⟨apiKey, hkey, accessToken, haccess, tokens, htokens, mode, hmode, hs⟩
    obtain rfl := Except.ok.inj hs
    exact ⟨hkey, haccess, htokens, hmode, rfl, rfl, rfl, rfl, rfl⟩
  · rintro ⟨hkey, haccess, htokens, hmode, hroot, hretry, hinterval, hretries, hport⟩
    refine ⟨_, hkey, _, haccess, _, htokens, _, hmode, ?_⟩
    rw [hroot, hretry, hinterval, hretries, hport]
    rfl

theorem ofSeconds_eq_iff {n : Nat} (h : n ≤ 0xFFFFFFFFFFFFFFFF) {span : Span} :
    .ofSeconds (.ofNat n) = span ↔ span.nanos = n * 1000000000 := by
  have hword : (UInt64.ofNat n).toNat = n := UInt64.toNat_ofNat_of_lt' (by rw [UInt64.size]; omega)
  obtain ⟨nanos, hnanos⟩ := span
  rw [Span.ofSeconds, Span.mk.injEq, hword, eq_comm]

theorem read_eq_ok : read env = .ok s ↔ Accepts env s := by
  rw [read_eq_ok_iff_fields]
  constructor
  · rintro ⟨hkey, haccess, htokens, hmode, hroot, hretry, hinterval, hretries, hport⟩
    have hseconds := readNumber_iff.1 (Eq.refl (readNumber env intervalName 0xFFFFFFFFFFFFFFFF 5))
    refine ⟨require_eq_ok.1 hkey, require_eq_ok.1 haccess, readRoot_iff.1 hroot,
      (lenient_iff fun _ _ => readSwitch_iff).1 hretry, ⟨_, hseconds, ?_⟩, readNumber_iff.1 hretries,
      (optional_eq_ok fun _ _ => readTokens_eq_ok).1 htokens,
      (optional_eq_ok fun _ _ => readMode_eq_ok).1 hmode, readNumber_iff.1 hport⟩
    exact (ofSeconds_eq_iff (hseconds.le (by decide))).1 hinterval
  · rintro ⟨hkey, haccess, hroot, hretry, ⟨n, hseconds, hinterval⟩, hretries, htokens, hmode, hport⟩
    refine ⟨require_eq_ok.2 hkey, require_eq_ok.2 haccess,
      (optional_eq_ok fun _ _ => readTokens_eq_ok).2 htokens,
      (optional_eq_ok fun _ _ => readMode_eq_ok).2 hmode, readRoot_iff.2 hroot,
      (lenient_iff fun _ _ => readSwitch_iff).2 hretry, ?_, readNumber_iff.2 hretries, readNumber_iff.2 hport⟩
    have hread : readNumber env intervalName 0xFFFFFFFFFFFFFFFF 5 = n := readNumber_iff.2 hseconds
    rw [hread]
    exact (ofSeconds_eq_iff (hseconds.le (by decide))).2 hinterval

theorem require_congr {name : String} (h : env' name = env name) : require env' name = require env name := by
  unfold require
  rw [h]

theorem readNumber_congr {name : String} (h : env' name = env name) (max fallback : Nat) :
    readNumber env' name max fallback = readNumber env name max fallback := by
  unfold readNumber
  rw [h]

theorem readRoot_congr (h : env' rootName = env rootName) : readRoot env' = readRoot env := by
  unfold readRoot
  rw [h]

def AgreeBut (v : Variable) (env env' : Environment) : Prop :=
  ∀ w : Variable, w ≠ v → env' w.name = env w.name

namespace AgreeBut

variable {v : Variable}

theorem outcome (h : AgreeBut v env env') (hv : v.lenient = true) (c : Check) :
    c.outcome env' = c.outcome env := by
  have hsame (w : Variable) (hw : w.lenient = false) : env' w.name = env w.name := by
    refine h w ?_
    rintro rfl
    exact Bool.noConfusion (hw.symm.trans hv)
  cases c with
  | apiKey => exact congrArg (Except.map _) (require_congr (hsame .apiKey rfl))
  | accessToken => exact congrArg (Except.map _) (require_congr (hsame .accessToken rfl))
  | tokens =>
    have htokens : env' tokensName = env tokensName := hsame .tokens rfl
    rw [Check.outcome, Check.outcome, htokens]
  | mode =>
    have hmode : env' modeName = env modeName := hsame .mode rfl
    rw [Check.outcome, Check.outcome, hmode]

/-- A variable that means nothing does not keep the program from starting. -/
theorem read_eq_error (h : AgreeBut v env env') (hv : v.lenient = true) :
    read env' = .error fault ↔ read env = .error fault := by
  rw [read_eq_error_iff_mapM, read_eq_error_iff_mapM, funext (h.outcome hv)]

theorem forget (h : AgreeBut v env env') (hs : read env = .ok s) (hs' : read env' = .ok s') :
    v.forget s' = v.forget s := by
  obtain ⟨hkey, haccess, htokens, hmode, hroot, hretry, hinterval, hretries, hport⟩ := read_eq_ok_iff_fields.1 hs
  obtain ⟨hkey', haccess', htokens', hmode', hroot', hretry', hinterval', hretries', hport'⟩ :=
    read_eq_ok_iff_fields.1 hs'
  have key (hv : .apiKey ≠ v) : s'.credentials.apiKey = s.credentials.apiKey :=
    Except.ok.inj ((hkey'.symm.trans (require_congr (h .apiKey hv))).trans hkey)
  have access (hv : .accessToken ≠ v) : s'.credentials.accessToken = s.credentials.accessToken :=
    Except.ok.inj ((haccess'.symm.trans (require_congr (h .accessToken hv))).trans haccess)
  have tokens (hv : .tokens ≠ v) : s'.tokens = s.tokens :=
    Except.ok.inj ((htokens'.symm.trans (congrArg (optional · _ _) (h .tokens hv))).trans htokens)
  have mode (hv : .mode ≠ v) : s'.mode = s.mode :=
    Except.ok.inj ((hmode'.symm.trans (congrArg (optional · _ _) (h .mode hv))).trans hmode)
  have root (hv : .root ≠ v) : s'.root = s.root :=
    (hroot'.symm.trans (readRoot_congr (h .root hv))).trans hroot
  have retry (hv : .retry ≠ v) : s'.retryEnabled = s.retryEnabled :=
    (hretry'.symm.trans (congrArg (fun value => (value.map (readSwitch true)).getD true)
      (h .retry hv))).trans hretry
  have interval (hv : .interval ≠ v) : s'.retryInterval = s.retryInterval :=
    (hinterval'.symm.trans (congrArg (fun n => Span.ofSeconds (.ofNat n))
      (readNumber_congr (h .interval hv) _ _))).trans hinterval
  have retries (hv : .retries ≠ v) : s'.maxRetries = s.maxRetries :=
    (hretries'.symm.trans (readNumber_congr (h .retries hv) _ _)).trans hretries
  have port (hv : .port ≠ v) : s'.metricsPort = s.metricsPort :=
    (hport'.symm.trans (readNumber_congr (h .port hv) _ _)).trans hport
  obtain ⟨⟨_, _⟩, _, _, _, _, _, _, _⟩ := s
  obtain ⟨⟨_, _⟩, _, _, _, _, _, _, _⟩ := s'
  cases v <;> simp_all [Variable.forget]

end AgreeBut

theorem tokenList_of_itemized {ps : List (List Char)} {ts : List Token}
    (h : Itemized ps (ts.map fun t => t.toNat.repr.toList)) :
    TokenList (String.ofList ([','].intercalate ps)) ts := by
  have hdigits : ∀ i ∈ ts.map fun t => t.toNat.repr.toList, ',' ∉ i := by
    intro i hi
    obtain ⟨t, -, rfl⟩ := List.mem_map.1 hi
    rw [toList_repr]
    exact fun hmem => absurd (allDigits_numeral t.toNat ',' hmem) (by decide)
  have hwords : List.Forall₂ Word (ts.map fun t => t.toNat.repr.toList) ts := by
    refine List.forall₂_map_left_iff.2 (List.forall₂_same.2 fun t _ => ?_)
    rw [Word, toList_repr]
    exact literal_numeral (Nat.le_of_lt_succ t.toNat_lt)
  refine ⟨_, ?_, hwords⟩
  cases ps with
  | nil =>
    -- Joined, no pieces at all are the same as one blank piece.
    exact ⟨[[]], ⟨rfl, by simp, by simp⟩, .blank blank_nil h⟩
  | cons p ps =>
    exact ⟨p :: ps, ⟨(String.toList_ofList).symm, h.free (by decide) hdigits, List.cons_ne_nil p ps⟩, h⟩

theorem read_of_tokenList {value : String} {ts : List Token} (h : env "KITE_TICKER_TOKENS" = some value)
    (hlist : TokenList value ts) :
    (∀ fault, ¬Hindrance env .tokens fault) ∧ ∀ s, read env = .ok s → s.tokens = ts := by
  have htokens : optional (env tokensName) (readTokens ·.toList) [] = .ok ts :=
    (optional_eq_ok fun _ _ => readTokens_eq_ok).2 (.inl ⟨value, h, hlist⟩)
  constructor
  · intro fault hfault
    rw [hindrance_iff, Check.outcome, htokens] at hfault
    exact absurd hfault nofun
  · intro s hs
    obtain ⟨-, -, hread, -⟩ := read_eq_ok_iff_fields.1 hs
    exact Except.ok.inj (hread.symm.trans htokens)

theorem nanos_setup_interval (s : Settings) :
    s.setup.rule.interval.nanos = max 5000000000 s.retryInterval.nanos := by
  change (s.retryInterval.longer RetryRule.leastInterval).nanos = _
  rw [Span.nanos_longer, Nat.max_comm]
  rfl

theorem interval_of_seconds {n : Nat}
    (h : Lenient env "KITE_TICKER_RECONNECT_INTERVAL_SECS" (Numeric 0xFFFFFFFFFFFFFFFF) 5 n)
    (hs : read env = .ok s) : s.setup.rule.interval.nanos = max 5 n * 1000000000 := by
  obtain ⟨m, hm, hnanos⟩ := (read_eq_ok.1 hs).retryInterval
  obtain rfl : n = m := (readNumber_iff.2 h).symm.trans (readNumber_iff.2 hm)
  rw [nanos_setup_interval, hnanos]
  omega

/-- Settings accept their grammar and nothing else, and the first check that fails decides the fault. A list of
numbers reads back, a variable changes its own field alone, and the interval between retries is at least five
seconds. -/
theorem read_exactly (env : Environment) :
    (∀ fault, read env = .error fault ↔ Stops env fault) ∧
    (∀ s, read env = .ok s ↔ Accepts env s) ∧
    (∀ value m, Names value m ↔ ∃ core, Wraps value.toList core ∧
      (core.map Char.toLower, m) ∈ [("ltp".toList, Mode.ltp), ("quote".toList, .quote), ("full".toList, .full)]) ∧
    (∀ (ps : List (List Char)) (ts : List Token),
      env "KITE_TICKER_TOKENS" = some (String.ofList ([','].intercalate ps)) →
      Itemized ps (ts.map fun t => t.toNat.repr.toList) →
      (∀ fault, ¬Hindrance env .tokens fault) ∧ ∀ s, read env = .ok s → s.tokens = ts) ∧
    (∀ v env', AgreeBut v env env' →
      (v.lenient = true → ∀ fault, read env' = .error fault ↔ read env = .error fault) ∧
      ∀ s s', read env = .ok s → read env' = .ok s' → v.forget s' = v.forget s) ∧
    ∀ n, Lenient env "KITE_TICKER_RECONNECT_INTERVAL_SECS" (Numeric 0xFFFFFFFFFFFFFFFF) 5 n →
      ∀ s, read env = .ok s → s.setup.rule.interval.nanos = max 5 n * 1000000000 := by
  refine ⟨fun fault => read_eq_error, fun s => read_eq_ok, fun value m => names_iff_ascii, ?_, ?_, ?_⟩
  · intro ps ts h hitems
    exact read_of_tokenList h (tokenList_of_itemized hitems)
  · intro v env' h
    exact ⟨fun hv fault => h.read_eq_error hv, fun s s' => h.forget⟩
  · intro n h s hs
    exact interval_of_seconds h hs

/-- Both credentials, a list of tokens with one of them twice, a mode in mixed case, and an interval of seven
seconds. -/
def listed : Environment :=
  .ofList [("KITE_API_KEY", "key"), ("KITE_ACCESS_TOKEN", "token"), ("KITE_TICKER_TOKENS", "408065, 884737,,408065"),
    ("KITE_TICKER_MODE", " FuLL "), ("KITE_TICKER_RECONNECT_INTERVAL_SECS", "7")]

theorem read_exactly_of_listed :
    ∃ s, read listed = .ok s ∧ s.tokens = [408065, 884737, 408065] ∧ s.mode = .full ∧
      s.setup.rule.interval.nanos = 7000000000 ∧
      ∃ s', read (listed.provide "KITE_TICKER_RECONNECT_TRIES" "-1") = .ok s' ∧
        Variable.retries.forget s' = Variable.retries.forget s := by
  obtain ⟨-, haccepts, hnames, hlist, hother, hinterval⟩ := read_exactly listed
  obtain ⟨s, hs⟩ : ∃ s, read listed = .ok s := ⟨_, rfl⟩
  have hitems : Itemized ["408065".toList, " 884737".toList, [], "408065".toList]
      (([408065, 884737, 408065] : List Token).map fun t => t.toNat.repr.toList) :=
    itemized_iff.2 (by decide)
  have hseconds : Numeric 0xFFFFFFFFFFFFFFFF "7" 7 := numeric_iff.2 (by decide)
  have hmode : s.mode = .full := by
    obtain ⟨value, hvalue, hname⟩ | ⟨hnone, -⟩ := ((haccepts s).1 hs).mode
    · obtain rfl : " FuLL " = value := Option.some.inj hvalue
      obtain ⟨core, hcore, hname⟩ := (hnames _ _).1 hname
      have hword : core = "FuLL".toList := (wraps_iff.1 hcore).symm.trans (by decide)
      rw [hword] at hname
      generalize s.mode = mode at hname
      cases mode with
      | full => rfl
      | _ => exact absurd hname (by decide)
    · cases hnone
  have hagree : AgreeBut .retries listed (listed.provide "KITE_TICKER_RECONNECT_TRIES" "-1") := by
    intro w hw
    cases w <;> first | rfl | exact absurd rfl hw
  have hstart : ∃ s', read (listed.provide "KITE_TICKER_RECONNECT_TRIES" "-1") = .ok s' := by
    cases hread : read (listed.provide "KITE_TICKER_RECONNECT_TRIES" "-1") with
    | ok s' => exact ⟨s', rfl⟩
    | error fault => exact absurd (hs.symm.trans (((hother .retries _ hagree).1 rfl fault).1 hread)) nofun
  obtain ⟨s', hs'⟩ := hstart
  refine ⟨s, hs, (hlist _ _ rfl hitems).2 s hs, hmode, hinterval 7 (.inl ⟨"7", rfl, hseconds⟩) s hs, s', hs', ?_⟩
  exact (hother .retries _ hagree).2 s s' hs hs'

end Settings

end MarketTicker
