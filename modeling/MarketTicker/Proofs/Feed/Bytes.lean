import MarketTicker.Feed.Bytes

namespace MarketTicker.Feed

/-- The bytes from a place on, with zeros where nothing is carried. -/
def wiped (pad : Nat → Bool) (off : Nat) (bs : List UInt8) : List UInt8 :=
  bs.mapIdx fun i b => if pad (off + i) then 0 else b

theorem wiped_append (pad : Nat → Bool) (off : Nat) (bs cs : List UInt8) :
    wiped pad off (bs ++ cs) = wiped pad off bs ++ wiped pad (off + bs.length) cs := by
  have hplace (i : Nat) : off + (i + bs.length) = off + bs.length + i := by omega
  simp only [wiped, List.mapIdx_append, hplace]

theorem wiped_of_clear {pad : Nat → Bool} {off : Nat} {bs : List UInt8}
    (h : ∀ i < bs.length, pad (off + i) = false) : wiped pad off bs = bs := by
  apply List.ext_getElem?
  intro i
  unfold wiped
  rw [List.getElem?_mapIdx]
  by_cases hi : i < bs.length
  · simp [List.getElem?_eq_getElem hi, h i hi]
  · simp [List.getElem?_eq_none (Nat.le_of_not_lt hi)]

def Yields {α : Type} (pad : Nat → Bool) (off n : Nat) (read : Take α) (fits : α → List UInt8 → Prop) : Prop :=
  ∀ bs : List UInt8, n ≤ bs.length →
    ∃ x, read bs = some (x, bs.drop n) ∧ fits x (wiped pad off (bs.take n))

namespace Yields

variable {α β : Type} {pad : Nat → Bool} {off n m : Nat}

theorem bind {read : Take α} {next : α → Take β} {fits : α → List UInt8 → Prop} {post : β → List UInt8 → Prop}
    (h : Yields pad off n read fits)
    (h' : ∀ x, Yields pad (off + n) m (next x) fun y cs => ∀ bs, fits x bs → post y (bs ++ cs)) :
    Yields pad off (m + n) (read >>= next) post := by
  intro bs hlen
  obtain ⟨x, hx, hfits⟩ := h bs (by omega)
  have hrest : m ≤ (bs.drop n).length := by
    rw [List.length_drop]
    omega
  obtain ⟨y, hy, hpost⟩ := h' x (bs.drop n) hrest
  refine ⟨y, ?_, ?_⟩
  · show (read bs).bind (fun p => next p.1 p.2) = _
    rw [hx, Option.bind_some, hy, List.drop_drop, Nat.add_comm]
  · have hsplit : bs.take (m + n) = bs.take n ++ (bs.drop n).take m := by rw [Nat.add_comm, List.take_add]
    have htake : (bs.take n).length = n := by
      rw [List.length_take]
      omega
    rw [hsplit, wiped_append, htake]
    exact hpost _ hfits

theorem pure {x : α} {post : α → List UInt8 → Prop} (h : post x []) :
    Yields pad off 0 (pure x : Take α) post :=
  fun _ _ => ⟨x, rfl, h⟩

end Yields

section

variable {pad : Nat → Bool} {off : Nat}

theorem yields_word32 (hpad : ∀ i < 4, pad (off + i) = false) :
    Yields pad off 4 word32 fun w bs => bytes32 w = bs := by
  intro bs hlen
  match bs, hlen with
  | a :: b :: c :: d :: rest, _ =>
    have hclear : wiped pad off [a, b, c, d] = [a, b, c, d] := wiped_of_clear hpad
    exact ⟨word32Of a b c d, rfl, (bytes32_word32Of a b c d).trans hclear.symm⟩

theorem yields_word16 (hpad : ∀ i < 2, pad (off + i) = false) :
    Yields pad off 2 word16 fun w bs => bytes16 w = bs := by
  intro bs hlen
  match bs, hlen with
  | a :: b :: rest, _ =>
    have hclear : wiped pad off [a, b] = [a, b] := wiped_of_clear hpad
    exact ⟨word16Of a b, rfl, (bytes16_word16Of a b).trans hclear.symm⟩

theorem yields_padding (hpad : ∀ i < 2, pad (off + i) = true) :
    Yields pad off 2 word16 fun _ bs => [0, 0] = bs := by
  intro bs hlen
  match bs, hlen with
  | a :: b :: rest, _ =>
    refine ⟨word16Of a b, rfl, ?_⟩
    have h0 := hpad 0 (by decide)
    have h1 := hpad 1 (by decide)
    simp only [Nat.add_zero] at h0
    simp [wiped, h0, h1]

end

end MarketTicker.Feed
