import MarketTicker.Feed.Packet
import MarketTicker.Proofs.Calendar.Epoch
import MarketTicker.Proofs.Feed.Bytes
import MarketTicker.Proofs.Market.Price

namespace MarketTicker.Feed

namespace Layout

def isPadding : Layout → Nat → Bool
  | .full, i => 64 ≤ i && 10 ≤ (i - 64) % 12
  | _, _ => false

theorem isPadding_of_lt (l : Layout) {i : Nat} (h : i < 64) : l.isPadding i = false := by
  cases l with
  | full =>
    have hlt : ¬ 64 ≤ i := by omega
    simp [isPadding, hlt]
  | ltp | indexQuote | indexFull | quote => rfl

theorem isPadding_full (i : Nat) : full.isPadding (64 + i) = decide (10 ≤ i % 12) := by
  simp [isPadding]

def blank (l : Layout) (body : List UInt8) : List UInt8 :=
  wiped l.isPadding 0 body

def stripIndex (tick : Tick) : Tick :=
  { tick with
    lastPrice := .zero, high := .zero, low := .zero, openPrice := .zero, close := .zero, change := .zero }

def stripQuote (tick : Tick) : Tick :=
  { tick with
    lastPrice := .zero, lastQuantity := 0, averagePrice := .zero, volume := 0, buyQuantity := 0
    sellQuantity := 0, openPrice := .zero, high := .zero, low := .zero, close := .zero }

def strip (l : Layout) (tick : Tick) : Tick :=
  match l with
  | .ltp => { tick with lastPrice := .zero }
  | .indexQuote => stripIndex tick
  | .indexFull => { stripIndex tick with timestamp := none }
  | .quote => stripQuote tick
  | .full =>
    { stripQuote tick with
      lastTradeTime := none, openInterest := 0, openInterestHigh := 0, openInterestLow := 0
      timestamp := none, depth := none }

theorem mode_strip (l : Layout) (tick : Tick) : (l.strip tick).mode = tick.mode := by
  cases l <;> rfl

theorem token_strip (l : Layout) (tick : Tick) : (l.strip tick).token = tick.token := by
  cases l <;> rfl

theorem tradable_strip (l : Layout) (tick : Tick) : (l.strip tick).tradable = tick.tradable := by
  cases l <;> rfl

theorem exists_length_iff {n : Nat} : (∃ l : Layout, l.length = n) ↔ n ∈ [8, 28, 32, 44, 184] := by
  constructor
  · rintro ⟨l, rfl⟩
    cases l <;> decide
  · intro h
    simp only [List.mem_cons, List.not_mem_nil, or_false] at h
    rcases h with rfl | rfl | rfl | rfl | rfl
    · exact ⟨.ltp, rfl⟩
    · exact ⟨.indexQuote, rfl⟩
    · exact ⟨.indexFull, rfl⟩
    · exact ⟨.quote, rfl⟩
    · exact ⟨.full, rfl⟩

end Layout

namespace Packet

/-- Prices are told in hundredths, but in ten-millionths in segment three, the one of currencies. -/
def parts (token : Token) : Nat :=
  if token.toUInt8 = 3 then 10000000 else 100

theorem priceDivisor_eq_parts (token : Token) : token.priceDivisor = parts token :=
  Segment.priceDivisor_ofId token.toUInt8

def priceBytes (token : Token) (d : Decimal) : Option (List UInt8) :=
  match d.times? (parts token) with
  | some n => if 0 ≤ n ∧ n < 0x100000000 then some (bytes32 (.ofNat n.toNat)) else none
  | none => none

def changeBytes (token : Token) (d : Decimal) : Option (List UInt8) :=
  match d.times? (parts token) with
  | some n => if -0x80000000 ≤ n ∧ n < 0x80000000 then some (bytes32 (Int32.ofInt n).toUInt32) else none
  | none => none

def timeBytes : Option Instant → Option (List UInt8)
  | some t => if t.nano = 0 ∧ t.epochSecond < 0x100000000 then some (bytes32 (.ofNat t.epochSecond)) else none
  | none => none

theorem priceBytes_price (token : Token) (raw : UInt32) : priceBytes token (token.price raw) = some (bytes32 raw) := by
  have h := times?_price_ofUInt32 (Segment.priceDivisor_eq (.ofToken token)) raw
  have hlt := raw.toNat_lt
  unfold priceBytes
  rw [← priceDivisor_eq_parts, show (token.price raw).times? token.priceDivisor = some raw.toNat from h]
  have hrange : (0 : Int) ≤ raw.toNat ∧ (raw.toNat : Int) < 0x100000000 := by omega
  simp [hrange]

theorem changeBytes_change (token : Token) (raw : UInt32) :
    changeBytes token (token.change raw.toInt32) = some (bytes32 raw) := by
  have h := times?_price_ofInt32 (Segment.priceDivisor_eq (.ofToken token)) raw.toInt32
  have hlt := raw.toInt32.toInt_lt
  have hle := raw.toInt32.le_toInt
  unfold changeBytes
  rw [← priceDivisor_eq_parts,
    show (token.change raw.toInt32).times? token.priceDivisor = some raw.toInt32.toInt from h]
  have hrange : -0x80000000 ≤ raw.toInt32.toInt ∧ raw.toInt32.toInt < 0x80000000 := by omega
  simp [hrange]

theorem timeBytes_ofEpochSecond? (raw : UInt32) :
    timeBytes (Instant.ofEpochSecond? raw.toNat) = some (bytes32 raw) := by
  obtain ⟨t, ht, hsecond, hnano⟩ := Instant.ofEpochSecond?_spec raw.toNat_lt
  have hlt := raw.toNat_lt
  rw [ht, timeBytes, hsecond, if_pos ⟨hnano, hlt⟩, UInt32.ofNat_toNat]

section

variable {pad : Nat → Bool} {off : Nat}

theorem yields_takePrice (hpad : ∀ i < 4, pad (off + i) = false) (token : Token) :
    Yields pad off 4 (takePrice token) fun d bs => priceBytes token d = some bs := by
  refine (yields_word32 hpad).bind fun raw => .pure fun bs hbs => ?_
  rw [priceBytes_price, hbs, List.append_nil]

theorem yields_takeChange (hpad : ∀ i < 4, pad (off + i) = false) (token : Token) :
    Yields pad off 4 (takeChange token) fun d bs => changeBytes token d = some bs := by
  refine (yields_word32 hpad).bind fun raw => .pure fun bs hbs => ?_
  rw [changeBytes_change, hbs, List.append_nil]

theorem yields_takeTime (hpad : ∀ i < 4, pad (off + i) = false) :
    Yields pad off 4 takeTime fun t bs => timeBytes t = some bs := by
  refine (yields_word32 hpad).bind fun raw => .pure fun bs hbs => ?_
  rw [timeBytes_ofEpochSecond?, hbs, List.append_nil]

end

def levelBytes (token : Token) (l : DepthLevel) : Option (List UInt8) := do
  return bytes32 l.quantity ++ (← priceBytes token l.price) ++ bytes16 l.orders ++ [0, 0]

def sideBytes (token : Token) (s : DepthSide) : Option (List UInt8) := do
  return (← levelBytes token s.first) ++ (← levelBytes token s.second) ++ (← levelBytes token s.third)
    ++ (← levelBytes token s.fourth) ++ (← levelBytes token s.fifth)

def ltpBytes (tick : Tick) : Option (List UInt8) :=
  priceBytes tick.token tick.lastPrice

def indexBytes (tick : Tick) : Option (List UInt8) := do
  let price := priceBytes tick.token
  return (← price tick.lastPrice) ++ (← price tick.high) ++ (← price tick.low) ++ (← price tick.openPrice)
    ++ (← price tick.close) ++ (← changeBytes tick.token tick.change)

def indexFullBytes (tick : Tick) : Option (List UInt8) := do
  return (← indexBytes tick) ++ (← timeBytes tick.timestamp)

def quoteBytes (tick : Tick) : Option (List UInt8) := do
  let price := priceBytes tick.token
  return (← price tick.lastPrice) ++ bytes32 tick.lastQuantity ++ (← price tick.averagePrice)
    ++ bytes32 tick.volume ++ bytes32 tick.buyQuantity ++ bytes32 tick.sellQuantity
    ++ (← price tick.openPrice) ++ (← price tick.high) ++ (← price tick.low) ++ (← price tick.close)

def fullBytes (tick : Tick) : Option (List UInt8) := do
  let depth ← tick.depth
  return (← quoteBytes tick) ++ (← timeBytes tick.lastTradeTime) ++ bytes32 tick.openInterest
    ++ bytes32 tick.openInterestHigh ++ bytes32 tick.openInterestLow ++ (← timeBytes tick.timestamp)
    ++ (← sideBytes tick.token depth.bids) ++ (← sideBytes tick.token depth.offers)

def fieldBytes : Layout → Tick → Option (List UInt8)
  | .ltp => ltpBytes
  | .indexQuote => indexBytes
  | .indexFull => indexFullBytes
  | .quote => quoteBytes
  | .full => fullBytes

/-- The packet of a layout that says what the tick says. -/
def encode (layout : Layout) (tick : Tick) : Option (List UInt8) := do
  return bytes32 tick.token ++ (← fieldBytes layout tick)

section

variable {pad : Nat → Bool} {off : Nat}

theorem yields_takeLevel (hpad : ∀ i < 12, pad (off + i) = decide (10 ≤ i)) (token : Token) :
    Yields pad off 12 (takeLevel token) fun l bs => levelBytes token l = some bs := by
  have hclear {k i : Nat} (h : k + i < 10) : pad (off + k + i) = false := by
    rw [Nat.add_assoc, hpad (k + i) (by omega)]
    simpa using h
  have hend {i : Nat} (h : i < 2) : pad (off + 10 + i) = true := by
    rw [Nat.add_assoc, hpad (10 + i) (by omega)]
    simp
  refine (yields_word32 fun i h => hclear (k := 0) (by omega)).bind fun quantity => ?_
  refine (yields_takePrice (fun i h => hclear (k := 4) (by omega)) token).bind fun price => ?_
  refine (yields_word16 fun i h => hclear (k := 8) (by omega)).bind fun orders => ?_
  refine (yields_padding fun i h => hend h).bind fun _ => .pure ?_
  rintro _ rfl _ rfl bs hprice _ rfl
  simp [levelBytes, hprice]

theorem yields_takeSide (hpad : ∀ i < 60, pad (off + i) = decide (10 ≤ i % 12)) (token : Token) :
    Yields pad off 60 (takeSide token) fun s bs => sideBytes token s = some bs := by
  have hlevel (k : Nat) (hk : k < 5) : ∀ i < 12, pad (off + 12 * k + i) = decide (10 ≤ i) := by
    intro i hi
    have hmod : (12 * k + i) % 12 = i := by omega
    rw [Nat.add_assoc, hpad (12 * k + i) (by omega), hmod]
  refine (yields_takeLevel (hlevel 0 (by decide)) token).bind fun first => ?_
  refine (yields_takeLevel (hlevel 1 (by decide)) token).bind fun second => ?_
  refine (yields_takeLevel (hlevel 2 (by decide)) token).bind fun third => ?_
  refine (yields_takeLevel (hlevel 3 (by decide)) token).bind fun fourth => ?_
  refine (yields_takeLevel (hlevel 4 (by decide)) token).bind fun fifth => .pure ?_
  intro _ h5 _ h4 _ h3 _ h2 _ h1
  simp [sideBytes, h1, h2, h3, h4, h5]

theorem yields_takeLtp (hpad : ∀ i < 64, pad i = false) (token : Token) :
    Yields pad 4 4 (takeLtp token) fun tick bs =>
      ltpBytes tick = some bs ∧ Layout.ltp.strip tick = .empty .ltp token := by
  refine (yields_takePrice (fun i h => hpad (4 + i) (by omega)) token).bind fun lastPrice => .pure ?_
  intro bs h
  refine ⟨?_, rfl⟩
  rw [List.append_nil]
  exact h

theorem yields_takeIndex (hpad : ∀ i < 64, pad i = false) (mode : Mode) (token : Token) :
    Yields pad 4 24 (takeIndex mode token) fun tick bs =>
      indexBytes tick = some bs ∧ Layout.stripIndex tick = .empty mode token := by
  have hprice (k : Nat) (hk : k ≤ 60) := yields_takePrice (fun i h => hpad (k + i) (by omega)) token
  refine (hprice 4 (by decide)).bind fun lastPrice => ?_
  refine (hprice 8 (by decide)).bind fun high => ?_
  refine (hprice 12 (by decide)).bind fun low => ?_
  refine (hprice 16 (by decide)).bind fun openPrice => ?_
  refine (hprice 20 (by decide)).bind fun close => ?_
  refine (yields_takeChange (fun i h => hpad (24 + i) (by omega)) token).bind fun change => .pure ?_
  intro _ hchange _ hclose _ hopen _ hlow _ hhigh _ hlast
  refine ⟨?_, rfl⟩
  simp [indexBytes, Tick.empty, hlast, hhigh, hlow, hopen, hclose, hchange]

theorem yields_takeIndexFull (hpad : ∀ i < 64, pad i = false) (token : Token) :
    Yields pad 4 28 (takeIndexFull token) fun tick bs =>
      indexFullBytes tick = some bs ∧ Layout.indexFull.strip tick = .empty .full token := by
  refine (yields_takeIndex hpad .full token).bind fun tick => ?_
  refine (yields_takeTime fun i h => hpad (28 + i) (by omega)).bind fun timestamp => .pure ?_
  rintro _ htime bs ⟨hindex, hstrip⟩
  have hkept : indexBytes { tick with timestamp } = indexBytes tick := rfl
  have hbare : Layout.indexFull.strip { tick with timestamp } = { Layout.stripIndex tick with timestamp := none } := rfl
  refine ⟨?_, ?_⟩
  · simp [indexFullBytes, hkept, hindex, htime]
  · rw [hbare, hstrip]
    rfl

theorem yields_takeQuote (hpad : ∀ i < 64, pad i = false) (mode : Mode) (token : Token) :
    Yields pad 4 40 (takeQuote mode token) fun tick bs =>
      quoteBytes tick = some bs ∧ Layout.stripQuote tick = .empty mode token := by
  have hprice (k : Nat) (hk : k ≤ 60) := yields_takePrice (fun i h => hpad (k + i) (by omega)) token
  have hword (k : Nat) (hk : k ≤ 60) := yields_word32 (fun i h => hpad (k + i) (by omega))
  refine (hprice 4 (by decide)).bind fun lastPrice => ?_
  refine (hword 8 (by decide)).bind fun lastQuantity => ?_
  refine (hprice 12 (by decide)).bind fun averagePrice => ?_
  refine (hword 16 (by decide)).bind fun volume => ?_
  refine (hword 20 (by decide)).bind fun buyQuantity => ?_
  refine (hword 24 (by decide)).bind fun sellQuantity => ?_
  refine (hprice 28 (by decide)).bind fun openPrice => ?_
  refine (hprice 32 (by decide)).bind fun high => ?_
  refine (hprice 36 (by decide)).bind fun low => ?_
  refine (hprice 40 (by decide)).bind fun close => .pure ?_
  rintro _ hclose _ hlow _ hhigh _ hopen _ rfl _ rfl _ rfl _ haverage _ rfl _ hlast
  refine ⟨?_, rfl⟩
  simp [quoteBytes, Tick.empty, hlast, haverage, hopen, hhigh, hlow, hclose]

theorem yields_takeFull (hpad : ∀ i < 64, pad i = false)
    (hdepth : ∀ i < 120, pad (64 + i) = decide (10 ≤ i % 12)) (token : Token) :
    Yields pad 4 180 (takeFull token) fun tick bs =>
      fullBytes tick = some bs ∧ Layout.full.strip tick = .empty .full token := by
  have hword (k : Nat) (hk : k ≤ 60) := yields_word32 (fun i h => hpad (k + i) (by omega))
  have htime (k : Nat) (hk : k ≤ 60) := yields_takeTime (fun i h => hpad (k + i) (by omega))
  have hoffers : ∀ i < 60, pad (124 + i) = decide (10 ≤ i % 12) := by
    intro i hi
    have hmod : (60 + i) % 12 = i % 12 := by omega
    rw [show 124 + i = 64 + (60 + i) by omega, hdepth (60 + i) (by omega), hmod]
  refine (yields_takeQuote hpad .full token).bind fun tick => ?_
  refine (htime 44 (by decide)).bind fun lastTradeTime => ?_
  refine (hword 48 (by decide)).bind fun openInterest => ?_
  refine (hword 52 (by decide)).bind fun openInterestHigh => ?_
  refine (hword 56 (by decide)).bind fun openInterestLow => ?_
  refine (htime 60 (by decide)).bind fun timestamp => ?_
  refine (yields_takeSide (fun i h => hdepth i (by omega)) token).bind fun bids => ?_
  refine (yields_takeSide hoffers token).bind fun offers => .pure ?_
  rintro _ hoffers _ hbids _ htime _ rfl _ rfl _ rfl _ htrade bs ⟨hquote, hstrip⟩
  let full : Tick :=
    { tick with
      lastTradeTime, openInterest, openInterestHigh, openInterestLow, timestamp, depth := some ⟨bids, offers⟩ }
  have htoken : tick.token = token := congrArg Tick.token hstrip
  have hkept : quoteBytes full = quoteBytes tick := rfl
  have hbare : Layout.full.strip full =
      { Layout.stripQuote tick with
        lastTradeTime := none, openInterest := 0, openInterestHigh := 0, openInterestLow := 0
        timestamp := none, depth := none } := rfl
  refine ⟨?_, ?_⟩
  · show fullBytes full = _
    rw [← htoken] at hbids hoffers
    simp [fullBytes, hkept, hquote, full, hbids, hoffers, htime, htrade]
  · show Layout.full.strip full = _
    rw [hbare, hstrip]
    rfl

end

theorem yields_take (layout : Layout) (token : Token) :
    Yields layout.isPadding 4 (layout.length - 4) (take layout token) fun tick bs =>
      fieldBytes layout tick = some bs ∧ layout.strip tick = .empty layout.mode token := by
  have hpad : ∀ i < 64, layout.isPadding i = false := fun i h => layout.isPadding_of_lt h
  cases layout with
  | ltp => exact yields_takeLtp hpad token
  | indexQuote => exact yields_takeIndex hpad .quote token
  | indexFull => exact yields_takeIndexFull hpad token
  | quote => exact yields_takeQuote hpad .quote token
  | full => exact yields_takeFull hpad (fun i _ => Layout.isPadding_full i) token

/-- A tick says what the bytes of its packet say, and nothing else. -/
structure Faithful (layout : Layout) (body : List UInt8) (tick : Tick) : Prop where
  length : layout.length = body.length
  encode : encode layout tick = some (layout.blank body)
  bare : layout.strip tick =
    { mode := tick.mode, token := tick.token, tradable := tick.tradable
      lastPrice := .zero, lastQuantity := 0, averagePrice := .zero, volume := 0, buyQuantity := 0, sellQuantity := 0
      openPrice := .zero, high := .zero, low := .zero, close := .zero, change := .zero, lastTradeTime := none
      timestamp := none, openInterest := 0, openInterestHigh := 0, openInterestLow := 0, depth := none }
  mode : (body.length, tick.mode) ∈ [(8, .ltp), (28, .quote), (32, .full), (44, .quote), (184, .full)]
  segment : ∃ low, body[3]? = some low ∧ (tick.tradable = true ↔ low ≠ 9) ∧
    tick.token.priceDivisor = if low = 3 then 10000000 else 100

theorem low_of_word32 {body rest : List UInt8} {token : Token} (h : word32 body = some (token, rest)) :
    body[3]? = some token.toUInt8 := by
  rw [eq_of_word32 h]
  rfl

theorem mem_modes (layout : Layout) :
    (layout.length, layout.mode) ∈ [(8, Mode.ltp), (28, .quote), (32, .full), (44, .quote), (184, .full)] := by
  cases layout <;> decide

theorem decode_of_length {layout : Layout} {body : List UInt8} (h : layout.length = body.length) :
    ∃ tick, decode body = .ok tick ∧ Faithful layout body tick := by
  have h4 : 4 ≤ layout.length := by cases layout <;> decide
  have hpad : ∀ i < 4, layout.isPadding (0 + i) = false := fun i hi => layout.isPadding_of_lt (by omega)
  obtain ⟨token, hword, htoken⟩ := yields_word32 hpad body (by omega)
  have hrest : layout.length - 4 ≤ (body.drop 4).length := by
    rw [List.length_drop]
    omega
  obtain ⟨tick, htake, hfields, hbare⟩ := yields_take layout token (body.drop 4) hrest
  have hown : tick.token = token := (layout.token_strip tick).symm.trans (congrArg Tick.token hbare)
  have hmode : tick.mode = layout.mode := (layout.mode_strip tick).symm.trans (congrArg Tick.mode hbare)
  have htradable : tick.tradable = Token.tradable token :=
    (layout.tradable_strip tick).symm.trans (congrArg Tick.tradable hbare)
  have hwhole : (body.drop 4).take (layout.length - 4) = body.drop 4 := by
    rw [List.take_of_length_le]
    rw [List.length_drop]
    omega
  have hhead : (body.take 4).length = 4 := by
    rw [List.length_take]
    omega
  have hblank : layout.blank body =
      wiped layout.isPadding 0 (body.take 4) ++ wiped layout.isPadding 4 (body.drop 4) := by
    have happend := wiped_append layout.isPadding 0 (body.take 4) (body.drop 4)
    rw [List.take_append_drop, hhead] at happend
    exact happend
  refine ⟨tick, ?_, h, ?_, ?_, ?_, ?_⟩
  · simp only [decode, hword, ← h, Layout.ofLength?_length, htake]
  · rw [hwhole] at hfields
    simp only [encode, hown, hfields, htoken, hblank]
    rfl
  · rw [hbare, hmode, hown, htradable]
    rfl
  · rw [hmode, ← h]
    exact mem_modes layout
  · refine ⟨token.toUInt8, low_of_word32 hword, ?_, ?_⟩
    · rw [htradable]
      exact Segment.tradable_ofId token.toUInt8
    · rw [hown]
      exact Segment.priceDivisor_ofId token.toUInt8

theorem length_of_decode {body : List UInt8} {tick : Tick} (h : decode body = .ok tick) :
    ∃ layout : Layout, layout.length = body.length := by
  unfold decode at h
  split at h
  · cases h
  · split at h
    · cases h
    · rename_i layout hlayout
      exact ⟨layout, Layout.length_of_ofLength? hlayout⟩

/-- A body of a length that has a layout decodes, and the tick gives every byte of it back. -/
theorem decode_lossless (body : List UInt8) :
    ((∃ tick, decode body = .ok tick) ↔ body.length ∈ [8, 28, 32, 44, 184]) ∧
    (∀ tick, decode body = .ok tick → ∃ layout, Faithful layout body tick) ∧
    ∀ divisor ∈ [100, 10000000],
      (∀ raw : UInt32, (price (.ofUInt32 raw) divisor).times? divisor = some raw.toNat) ∧
        ∀ raw : Int32, (price (.ofInt32 raw) divisor).times? divisor = some raw.toInt := by
  refine ⟨⟨?_, ?_⟩, ?_, ?_⟩
  · rintro ⟨tick, h⟩
    exact Layout.exists_length_iff.1 (length_of_decode h)
  · intro h
    obtain ⟨layout, hlayout⟩ := Layout.exists_length_iff.2 h
    obtain ⟨tick, htick, _⟩ := decode_of_length hlayout
    exact ⟨tick, htick⟩
  · intro tick h
    obtain ⟨layout, hlayout⟩ := length_of_decode h
    obtain ⟨tick', htick', hfaithful⟩ := decode_of_length hlayout
    have heq : tick' = tick := Except.ok.inj (htick'.symm.trans h)
    exact ⟨layout, heq ▸ hfaithful⟩
  · intro divisor hdivisor
    have hd : divisor = 100 ∨ divisor = 10000000 := by simpa using hdivisor
    exact ⟨times?_price_ofUInt32 hd, times?_price_ofInt32 hd⟩

end Packet

end MarketTicker.Feed
