import Mathlib.Algebra.Ring.Nat
import MarketTicker.Proofs.Session.Dispatch

namespace MarketTicker

namespace Recording

def amountIn? (σ : Series) (r : Recording) : Option Nat :=
  if r.series = σ then some r.amount else none

end Recording

namespace Samples

theorem lookup_put (σ τ : Series) (update : Option Nat → Nat) (samples : Samples) :
    (samples.put σ update).lookup τ =
      if σ = τ then some (update (samples.lookup τ)) else samples.lookup τ := by
  have apart {ρ : Series} (h : ρ ≠ τ) : (τ == ρ) = false := beq_false_of_ne h.symm
  induction samples with
  | nil =>
    by_cases h : σ = τ
    · simp [put, h]
    · simp [put, List.lookup_cons, apart h, h]
  | cons x rest ih =>
    obtain ⟨ρ, n⟩ := x
    by_cases hρ : ρ = σ
    · subst hρ
      by_cases h : ρ = τ
      · simp [put, h]
      · simp [put, List.lookup_cons, apart h, h]
    · rw [put, if_neg hρ]
      by_cases h : ρ = τ
      · subst h
        simp [Ne.symm hρ]
      · simp [List.lookup_cons, apart h, ih]

theorem lookup_record (samples : Samples) (r : Recording) (σ : Series) :
    (samples.record r).lookup σ =
      match r.amountIn? σ with
      | none => samples.lookup σ
      | some n => some (if σ.metric.isGauge then n else (samples.lookup σ).getD 0 + n) := by
  rw [record, lookup_put, Recording.amountIn?]
  by_cases h : r.series = σ
  · simp [h]
  · simp [h]

theorem lookup_of_counter {σ : Series} (hσ : σ.metric.isGauge = false) (rs : List Recording) :
    ((ofRecordings rs).lookup σ).getD 0 = (rs.filterMap (Recording.amountIn? σ)).sum := by
  have key (samples : Samples) :
      ((rs.foldl record samples).lookup σ).getD 0 =
        (samples.lookup σ).getD 0 + (rs.filterMap (Recording.amountIn? σ)).sum := by
    induction rs generalizing samples with
    | nil => rfl
    | cons r rs ih =>
      rw [List.foldl_cons, ih, lookup_record, List.filterMap_cons]
      cases r.amountIn? σ with
      | none => rfl
      | some n => simp [hσ, Nat.add_assoc]
  exact (key []).trans (Nat.zero_add _)

theorem lookup_of_gauge {σ : Series} (hσ : σ.metric.isGauge = true) (rs : List Recording) :
    (ofRecordings rs).lookup σ = (rs.filterMap (Recording.amountIn? σ)).getLast? := by
  have key (samples : Samples) :
      (rs.foldl record samples).lookup σ =
        (rs.filterMap (Recording.amountIn? σ)).getLast?.or (samples.lookup σ) := by
    induction rs generalizing samples with
    | nil => rfl
    | cons r rs ih =>
      rw [List.foldl_cons, ih, lookup_record, List.filterMap_cons]
      cases r.amountIn? σ with
      | none => rfl
      | some n =>
        dsimp only
        rw [if_pos hσ, List.getLast?_cons]
        cases (rs.filterMap (Recording.amountIn? σ)).getLast? with
        | none => rfl
        | some m => rfl
  exact (key []).trans (Option.or_none ..)

end Samples

def Metric.gauge (m : Metric) : Series :=
  ⟨m, none⟩

def Happening.recorded? : Happening → Option Recording
  | .recorded r => some r
  | _ => none

namespace Session

variable {s t : Session}

def readings (s : Session) (σ : Series) : List Nat :=
  s.recordings.filterMap (Recording.amountIn? σ)

theorem recordings_eq (s : Session) : s.recordings = s.collect Happening.recorded? := rfl

theorem recordings_note (s : Session) (h : Happening) :
    (s.note h).recordings = s.recordings ++ h.recorded?.toList :=
  collect_note Happening.recorded? s h

theorem recordings_record (s : Session) (r : Recording) : (s.record r).recordings = s.recordings ++ [r] :=
  recordings_note s (.recorded r)

theorem readings_record (s : Session) (r : Recording) (σ : Series) :
    (s.record r).readings σ = s.readings σ ++ (r.amountIn? σ).toList := by
  rw [readings, recordings_record, List.filterMap_append, readings]
  cases h : r.amountIn? σ <;> simp [h]

theorem readings_recordWatchlist (s : Session) (w : Watchlist) :
    (s.recordWatchlist w).readings (Metric.gauge .subscriptions) =
      s.readings (Metric.gauge .subscriptions) ++ [w.size] :=
  readings_record ..

theorem recordings_congr (h : t.trace = s.trace) : t.recordings = s.recordings :=
  collect_congr (f := Happening.recorded?) h

def total (s : Session) (σ : Series) : Nat :=
  (s.samples.lookup σ).getD 0

def gauge? (s : Session) (m : Metric) : Option Nat :=
  s.samples.lookup m.gauge

theorem total_eq (s : Session) {σ : Series} (hσ : σ.metric.isGauge = false) : s.total σ = (s.readings σ).sum :=
  Samples.lookup_of_counter hσ s.recordings

theorem gauge?_eq (s : Session) {m : Metric} (hm : m.isGauge = true) : s.gauge? m = (s.readings m.gauge).getLast? :=
  Samples.lookup_of_gauge hm s.recordings

end Session

end MarketTicker
