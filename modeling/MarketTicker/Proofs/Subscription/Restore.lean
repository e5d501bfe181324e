import MarketTicker.Proofs.Subscription.Server

namespace MarketTicker.Watchlist

open Control

/-- What the far side streams after a restoration, where it kept `server` from before. -/
def restored (w : Watchlist) (server : Token → Option Mode) (t : Token) : Option Mode :=
  serve t (server t) w.restorePlan.controls

theorem restored_eq (w : Watchlist) (server : Token → Option Mode) (t : Token) :
    w.restored server t = (w.mode? t).or (server t) :=
  serve_restorePlan w t (server t)

/-- Every instrument of the watchlist is streamed as it says, whatever was streamed before, and every other
one as it was before; so only what the watchlist does not name can stand in the way. -/
theorem restored_exactly_iff (w : Watchlist) (server : Token → Option Mode) :
    (∀ t, w.restored server t = (w.mode? t).or (server t)) ∧
      (w.restored server = w.mode? ↔ ∀ t, t ∉ w.tokens → server t = none) := by
  refine ⟨restored_eq w server, ?_, ?_⟩
  · intro h t ht
    have hkept := restored_eq w server t
    rw [h, (notMem_tokens_iff w t).1 ht] at hkept
    exact hkept.symm
  · intro h
    funext t
    rw [restored_eq]
    by_cases ht : t ∈ w.tokens
    · obtain ⟨mode, hm⟩ := (mem_tokens_iff w t).1 ht
      rw [hm]
      rfl
    · rw [h t ht, Option.or_none]

/-- An instrument that left the watchlist while nothing could be sent is still streamed. -/
theorem stale_instrument_survives :
    let before := (empty.subscribe [7, 9]).2
    let after := (before.unsubscribe [7]).2
    after.restorePlan.controls = [.unsubscribe [9], .subscribe [9], .mode .quote [9]] ∧
      after.mode? 7 = none ∧ after.restored before.mode? 7 = some .quote := by
  decide

end MarketTicker.Watchlist
