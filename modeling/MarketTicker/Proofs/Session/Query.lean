import MarketTicker.Proofs.Program.Settings
import MarketTicker.Proofs.Text.Division
import MarketTicker.Proofs.Text.Percent

namespace MarketTicker

open Text

namespace ConnectRequest

variable {root name value : String} {c d : Credentials} {v : List Char}

/-- What stands between the first question mark of an address and its fragment. -/
def query (url : String) : List Char :=
  behind '?' (before '#' url.toList)

def parameter (piece : List Char) : Option String × Option String :=
  (percentText (before '=' piece), percentText (behind '=' piece))

def parameters (query : List Char) : List (Option String × Option String) :=
  (pieces '&' query).map parameter

def valuesOf (name : String) (ps : List (Option String × Option String)) : List (Option String) :=
  (ps.filter (·.1 = some name)).map (·.2)

theorem valuesOf_nil (name : String) : valuesOf name [] = [] := rfl

theorem valuesOf_cons_self (name : String) (value : Option String) (ps : List (Option String × Option String)) :
    valuesOf name ((some name, value) :: ps) = value :: valuesOf name ps := by
  simp [valuesOf]

theorem valuesOf_cons_of_ne {other : String} (h : other ≠ name) (value : Option String)
    (ps : List (Option String × Option String)) :
    valuesOf name ((some other, value) :: ps) = valuesOf name ps := by
  simp [valuesOf, h]

/-- A reader of the address finds one key and one token, which are those of `c`. -/
structure Carries (url : String) (c : Credentials) : Prop where
  apiKey : valuesOf "api_key" (parameters (query url)) = [some c.apiKey]
  accessToken : valuesOf "access_token" (parameters (query url)) = [some c.accessToken]

/-- Nothing in the value is a sign to a reader of addresses. -/
structure Plain (value : String) : Prop where
  ampersand : '&' ∉ value.toList
  fragment : '#' ∉ value.toList
  escape : ¬HoldsEscape value.toList

theorem plain_iff :
    Plain value ↔ '&' ∉ value.toList ∧ '#' ∉ value.toList ∧ ¬HoldsEscape value.toList :=
  ⟨fun ⟨ha, hf, he⟩ => ⟨ha, hf, he⟩, fun ⟨ha, hf, he⟩ => ⟨ha, hf, he⟩⟩

instance : Decidable (Plain value) :=
  decidable_of_iff' _ plain_iff

def reach (v : List Char) : List Char :=
  before '&' (before '#' v)

theorem reach_append (v rest : List Char) : reach (v ++ '&' :: rest) = reach v := by
  by_cases h : '#' ∈ v
  · obtain ⟨first, more, rfl, hfirst⟩ := List.eq_append_cons_of_mem h
    rw [reach, reach, List.append_assoc, List.cons_append, before_append_self, before_append_self]
  · rw [reach, reach, before_append h, before_cons (by decide), before_append_self, before_eq_self_iff.2 h]

theorem reach_eq_self_iff : reach v = v ↔ '&' ∉ v ∧ '#' ∉ v := by
  constructor
  · intro h
    have hfragment : '#' ∉ reach v := fun hmem => notMem_before '#' v ((before_isPrefix '&' _).subset hmem)
    have hampersand : '&' ∉ reach v := notMem_before '&' _
    rw [h] at hampersand hfragment
    exact ⟨hampersand, hfragment⟩
  · rintro ⟨ha, hf⟩
    rw [reach, before_eq_self_iff.2 hf, before_eq_self_iff.2 ha]

theorem percentText_reach : percentText (reach value.toList) = some value ↔ Plain value := by
  have hreach : reach value.toList <+: value.toList := (before_isPrefix '&' _).trans (before_isPrefix '#' _)
  rw [percentText_of_isPrefix hreach, reach_eq_self_iff, and_assoc, plain_iff]

structure Bare (name : String) : Prop extends Plain name where
  equals : '=' ∉ name.toList

def labelled (name : String) (v : List Char) : List Char :=
  name.toList ++ '=' :: v

theorem before_labelled {sep : Char} (h : sep ∉ name.toList) (hsep : '=' ≠ sep) (v : List Char) :
    before sep (labelled name v) = labelled name (before sep v) := by
  rw [labelled, before_append h, before_cons hsep, labelled]

theorem notMem_labelled {sep : Char} (h : sep ∉ name.toList) (hsep : '=' ≠ sep) (hv : sep ∉ v) :
    sep ∉ labelled name v := by
  simp [labelled, h, hsep.symm, hv]

theorem parameter_labelled (h : Bare name) (v : List Char) :
    parameter (labelled name v) = (some name, percentText v) := by
  rw [parameter, labelled, before_append h.equals, before_self, List.append_nil, percentText_toList h.escape,
    behind_append h.equals]

theorem exists_parameters (h : Bare name) (v : List Char) :
    ∃ more, parameters (before '#' (labelled name v)) = (some name, percentText (reach v)) :: more := by
  rw [before_labelled h.fragment (by decide)]
  obtain ⟨more, hmore⟩ := exists_pieces '&' (labelled name (before '#' v))
  rw [parameters, hmore, before_labelled h.ampersand (by decide), List.map_cons, parameter_labelled h]
  exact ⟨_, rfl⟩

theorem parameters_append (h : Bare name) (hv : Plain value) (rest : List Char) :
    parameters (before '#' (labelled name (value.toList ++ '&' :: rest))) =
      (some name, some value) :: parameters (before '#' rest) := by
  have hfirst : '&' ∉ labelled name value.toList := notMem_labelled h.ampersand (by decide) hv.ampersand
  have hwhole : labelled name (value.toList ++ '&' :: before '#' rest) =
      labelled name value.toList ++ '&' :: before '#' rest := by
    simp [labelled]
  rw [before_labelled h.fragment (by decide), before_append hv.fragment, before_cons (by decide), hwhole,
    parameters, pieces_append hfirst, List.map_cons, parameter_labelled h, percentText_toList hv.escape, parameters]

theorem parameters_labelled (h : Bare name) (hv : Plain value) :
    parameters (before '#' (labelled name value.toList)) = [(some name, some value)] := by
  have hwhole : '&' ∉ labelled name value.toList := notMem_labelled h.ampersand (by decide) hv.ampersand
  rw [before_labelled h.fragment (by decide), before_eq_self_iff.2 hv.fragment, parameters, pieces_of_notMem hwhole,
    List.map_singleton, parameter_labelled h, percentText_toList hv.escape]

theorem toList_url_make (root : String) (c : Credentials) :
    (make root c).url.toList = root.toList ++
      '?' :: labelled "api_key" (c.apiKey.toList ++ '&' :: labelled "access_token" c.accessToken.toList) := by
  simp [make, labelled]

theorem query_make (hquery : '?' ∉ root.toList) (hfragment : '#' ∉ root.toList) (c : Credentials) :
    query (make root c).url =
      before '#' (labelled "api_key" (c.apiKey.toList ++ '&' :: labelled "access_token" c.accessToken.toList)) := by
  rw [query, toList_url_make, before_append hfragment, before_cons (by decide), behind_append hquery]

theorem bare_apiKey : Bare "api_key" :=
  ⟨by decide, by decide⟩

theorem bare_accessToken : Bare "access_token" :=
  ⟨by decide, by decide⟩

theorem carries_make_iff (hquery : '?' ∉ root.toList) (hfragment : '#' ∉ root.toList) :
    Carries (make root c).url c ↔ Plain c.apiKey ∧ Plain c.accessToken := by
  constructor
  · rintro ⟨hkey, htoken⟩
    rw [query_make hquery hfragment] at hkey htoken
    have hplain : Plain c.apiKey := by
      obtain ⟨more, hmore⟩ := exists_parameters bare_apiKey
        (c.apiKey.toList ++ '&' :: labelled "access_token" c.accessToken.toList)
      rw [hmore, reach_append, valuesOf_cons_self] at hkey
      exact percentText_reach.1 (List.cons.inj hkey).1
    refine ⟨hplain, ?_⟩
    obtain ⟨more, hmore⟩ := exists_parameters bare_accessToken c.accessToken.toList
    rw [parameters_append bare_apiKey hplain, hmore, valuesOf_cons_of_ne (by decide), valuesOf_cons_self] at htoken
    exact percentText_reach.1 (List.cons.inj htoken).1
  · rintro ⟨hkey, htoken⟩
    have hread : parameters (query (make root c).url) =
        [(some "api_key", some c.apiKey), (some "access_token", some c.accessToken)] := by
      rw [query_make hquery hfragment, parameters_append bare_apiKey hkey,
        parameters_labelled bare_accessToken htoken]
    constructor
    · rw [hread, valuesOf_cons_self, valuesOf_cons_of_ne (by decide), valuesOf_nil]
    · rw [hread, valuesOf_cons_of_ne (by decide), valuesOf_cons_self, valuesOf_nil]

/-- The key of `d` goes on where that of `c` ends, over the name of the token and a part of the token of `c`. -/
def Overruns (c d : Credentials) : Prop :=
  ∃ between, d.apiKey = c.apiKey ++ "&access_token=" ++ between ∧
    c.accessToken = between ++ "&access_token=" ++ d.accessToken

theorem Overruns.ampersand (h : Overruns c d) : '&' ∈ d.apiKey.toList := by
  obtain ⟨between, hkey, -⟩ := h
  simp [hkey]

theorem overruns_iff :
    Overruns c d ↔ ∃ between, d.apiKey.toList = c.apiKey.toList ++ (('&' :: "access_token=".toList) ++ between) ∧
      c.accessToken.toList = between ++ (('&' :: "access_token=".toList) ++ d.accessToken.toList) := by
  constructor
  · rintro ⟨between, hkey, htoken⟩
    exact ⟨between.toList, by simp [hkey], by simp [htoken]⟩
  · rintro ⟨between, hkey, htoken⟩
    refine ⟨String.ofList between, String.toList_inj.1 ?_, String.toList_inj.1 ?_⟩
    · simpa using hkey
    · simpa using htoken

theorem eq_iff_toList : c = d ↔ c.apiKey.toList = d.apiKey.toList ∧ c.accessToken.toList = d.accessToken.toList := by
  cases c
  cases d
  simp only [Credentials.mk.injEq, String.toList_inj]

theorem url_make_eq_iff :
    (make root c).url = (make root d).url ↔ c = d ∨ Overruns c d ∨ Overruns d c := by
  have hurl (e : Credentials) : (make root e).url.toList = (root ++ "?api_key=").toList ++
      (e.apiKey.toList ++ (('&' :: "access_token=".toList) ++ e.accessToken.toList)) := by
    simp [make]
  rw [← String.toList_inj, hurl, hurl, List.append_cancel_left_eq, append_label_append_iff (by decide),
    eq_iff_toList, overruns_iff, overruns_iff]

/-- The address of a handshake carries the credentials of the environment exactly if neither of them holds an
ampersand, a number sign or an escape. It is the address for other credentials as well exactly if one key goes on
where the other one ends. -/
theorem credentials_carried_iff (root : String) {env : Environment} {s : Settings} (hs : Settings.read env = .ok s)
    (hquery : '?' ∉ root.toList) (hfragment : '#' ∉ root.toList) :
    ∃ c : Credentials, env "KITE_API_KEY" = some c.apiKey ∧ env "KITE_ACCESS_TOKEN" = some c.accessToken ∧
      (Carries (make root s.credentials).url c ↔ Plain c.apiKey ∧ Plain c.accessToken) ∧
      ∀ d, (make root s.credentials).url = (make root d).url ↔ c = d ∨ Overruns c d ∨ Overruns d c := by
  have haccepts := Settings.read_eq_ok.1 hs
  exact ⟨s.credentials, haccepts.apiKey.1, haccepts.accessToken.1, carries_make_iff hquery hfragment,
    fun d => url_make_eq_iff⟩

/-- Every sign but those that matter: `=`, `+`, `?`, a blank, a letter that is no ASCII, a percent sign alone. -/
def signs : Environment :=
  .ofList [("KITE_API_KEY", "k=1+2?ü 5%"), ("KITE_ACCESS_TOKEN", "%2z/=t%")]

theorem credentials_carried_iff_of_signs :
    ∃ s, Settings.read signs = .ok s ∧
      Carries (make "wss://example.org/ü" s.credentials).url ⟨"k=1+2?ü 5%", "%2z/=t%"⟩ ∧
      (make "wss://example.org/ü" s.credentials).url ≠ (make "wss://example.org/ü" ⟨"k", "1+2?ü 5%"⟩).url := by
  obtain ⟨s, hs⟩ : ∃ s, Settings.read signs = .ok s := ⟨_, rfl⟩
  obtain ⟨⟨key, token⟩, hkey, htoken, hcarries, hother⟩ :=
    credentials_carried_iff "wss://example.org/ü" hs (by decide) (by decide)
  obtain rfl : "k=1+2?ü 5%" = key := Option.some.inj hkey
  obtain rfl : "%2z/=t%" = token := Option.some.inj htoken
  refine ⟨s, hs, hcarries.2 ⟨by decide, by decide⟩, fun h => ?_⟩
  rcases (hother _).1 h with h | h | h
  · exact absurd h (by decide)
  · exact absurd h.ampersand (by decide)
  · exact absurd h.ampersand (by decide)

/-- The token of the one says what the key of the other says. -/
theorem credentials_run_together :
    ∃ s t,
      Settings.read (.ofList [("KITE_API_KEY", "a"), ("KITE_ACCESS_TOKEN", "b&access_token=c")]) = .ok s ∧
      Settings.read (.ofList [("KITE_API_KEY", "a&access_token=b"), ("KITE_ACCESS_TOKEN", "c")]) = .ok t ∧
      s.credentials ≠ t.credentials ∧ (make defaultRoot s.credentials).url = (make defaultRoot t.credentials).url ∧
      ¬Carries (make defaultRoot s.credentials).url s.credentials ∧
      ¬Carries (make defaultRoot t.credentials).url t.credentials := by
  refine ⟨_, _, rfl, rfl, by decide, by decide, ?_, ?_⟩
  · rw [carries_make_iff (by decide) (by decide)]
    decide
  · rw [carries_make_iff (by decide) (by decide)]
    decide

end ConnectRequest

end MarketTicker
