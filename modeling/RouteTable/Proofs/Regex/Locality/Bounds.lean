import RouteTable.Proofs.Regex.Locality.Blanks

namespace RouteTable.Regex

variable {free : Bool} {c : Char} {s rest u : Text}

theorem decimal_nil (free : Bool) : plainly (decimal? free []) = none := by
  have none_ : ran free Char.isDigit [] = ([], []) := by
    rw [ran, run]
    cases free <;> rfl
  rw [decimal_eq, List.dropWhile_nil, none_]
  rfl

def laziness (free : Bool) (low : Nat) (high : Option Nat) (s : Text) :
    (Nat × Option Nat × Bool) × Text :=
  match skip free s with
  | '?' :: later => ((low, high, false), later)
  | _ => ((low, high, true), s)

-- What follows an upper bound, a comma and a lower bound.
def afterHigh? (free : Bool) (low high : Nat) :
    Text → Option ((Nat × Option Nat × Bool) × Text)
  | '\x7d' :: final => if low ≤ high then some (laziness free low (some high) final) else none
  | _ => none

def afterComma? (free : Bool) (low : Nat) : Text → Option ((Nat × Option Nat × Bool) × Text)
  | '\x7d' :: final => some (laziness free low none final)
  | inner => (plainly (decimal? free inner)).bind fun (high, later) => afterHigh? free low high later

def afterLow? (free : Bool) (low : Nat) : Text → Option ((Nat × Option Nat × Bool) × Text)
  | '\x7d' :: rest => some (laziness free low (some low) rest)
  | ',' :: rest => afterComma? free low (skip free rest)
  | _ => none

-- What a repetition count says, with the rest as a text of its own.
def boundsFrom? (free : Bool) (s : Text) : Option ((Nat × Option Nat × Bool) × Text) :=
  (plainly (decimal? free (skip free s))).bind fun (low, later) => afterLow? free low later

-- How greedy a repetition is, with the rest as a part of the text.
def lazinessIn (free : Bool) (low : Nat) (high : Option Nat) (rest : Rest s) :
    (Nat × Option Nat × Bool) × Rest s :=
  match _lazy : skip free rest.1 with
  | '?' :: later => ((low, high, false), ⟨later, by
      have fits := Nat.le_trans (length_skip_le free rest.1) rest.2
      rw [_lazy] at fits
      exact Nat.le_of_succ_le fits⟩)
  | _ => ((low, high, true), rest)

theorem plainly_lazinessIn (low : Nat) (high : Option Nat) (rest : Rest s) :
    plainly (some (lazinessIn free low high rest)) = some (laziness free low high rest.1) := by
  unfold lazinessIn laziness
  split
  · next later marked => simp only [marked, plainly, Option.map_some]
  · next other => simp only [plainly, Option.map_some]

theorem readBounds_eq (free : Bool) (s : Text) :
    plainly (readBounds free s) = boundsFrom? free s := by
  have lazy (low : Nat) (high : Option Nat) (rest : Text) (fits : rest.length ≤ s.length) :
      plainly (some (lazinessIn free low high (⟨rest, fits⟩ : Rest s))) =
        some (laziness free low high rest) :=
    plainly_lazinessIn low high ⟨rest, fits⟩
  unfold readBounds boundsFrom?
  simp only
  split
  · next none =>
    rw [none]
    rfl
  · next low afterLow first =>
    rw [first]
    simp only [plainly, Option.map_some, Option.bind_some] at lazy ⊢
    split
    · next rest separator =>
      conv => rhs; rw [separator]
      exact lazy low (some low) rest _
    · next rest separator =>
      conv => rhs; rw [separator, afterLow?]
      split
      · next final ended =>
        conv => rhs; rw [ended]
        exact lazy low none final _
      · next inner ended =>
        refine Eq.trans ?_ (afterComma?.eq_2 free low _ ended).symm
        · split
          · next none =>
            rw [none]
            rfl
          · next high afterHigh second =>
            rw [second]
            simp only [plainly, Option.map_some, Option.bind_some]
            split
            · next final closed =>
              conv => rhs; rw [closed, afterHigh?]
              split
              · exact lazy low (some high) final _
              · rfl
            · next other =>
              exact (afterHigh?.eq_2 free low high _ other).symm
    · next bare other =>
      exact (afterLow?.eq_3 free low _ bare other).symm

theorem laziness_closing {low : Nat} {high : Option Nat} {later : Text}
    {bounds : Nat × Option Nat × Bool} (read : laziness free low high s = (bounds, later))
    (line : commented free later = true → '\n' ∉ u) :
    laziness free low high (s ++ ')' :: u) = (bounds, later ++ ')' :: u) := by
  unfold laziness at read ⊢
  cases found : skip free s with
  | nil =>
    rw [found] at read
    cases read
    cases unfinished : commented free s with
    | true =>
      have inside : '\n' ∉ ')' :: u := by simpa using line unfinished
      rw [skip_commented inside unfinished]
    | false =>
      rw [skip_closing u unfinished, found]
      rfl
  | cons c rest =>
    rw [found] at read
    rw [skip_append _ found]
    split at read
    · next same =>
      cases same
      cases read
      rfl
    · next other =>
      cases read
      split
      · next same => 
        cases same
        exact absurd rfl (other rest)
      · rfl

theorem afterHigh_closing {low high : Nat} {later : Text} {bounds : Nat × Option Nat × Bool}
    (read : afterHigh? free low high s = some (bounds, later))
    (line : commented free later = true → '\n' ∉ u) :
    afterHigh? free low high (s ++ ')' :: u) = some (bounds, later ++ ')' :: u) := by
  unfold afterHigh? at read
  split at read
  · next final =>
    split at read
    · next ordered =>
      exact (if_pos ordered).trans (congrArg some (laziness_closing (Option.some.inj read) line))
    · cases read
  · cases read

theorem afterComma_closing {low : Nat} {later : Text} {bounds : Nat × Option Nat × Bool}
    (read : afterComma? free low s = some (bounds, later))
    (line : commented free later = true → '\n' ∉ u) :
    afterComma? free low (s ++ ')' :: u) = some (bounds, later ++ ')' :: u) := by
  unfold afterComma? at read
  split at read
  · next final =>
    exact congrArg some (laziness_closing (Option.some.inj read) line)
  · next other =>
    obtain ⟨⟨high, rest⟩, second, read⟩ := Option.bind_eq_some_iff.mp read
    obtain ⟨final, found, rfl⟩ := of_plainly second
    have more : final.1 ≠ [] := by
      intro ended
      simp only [ended] at read
      cases read
    rw [afterComma?]
    · rw [decimal_append _ found more]
      exact afterHigh_closing read line
    · intro final same
      -- Digits stand before the parenthesis.
      cases s with
      | nil =>
        rw [decimal_nil] at second
        cases second
      | cons c rest => exact other rest (congrArg (· :: rest) (List.cons.inj same).1)

theorem afterLow_closing {low : Nat} {later : Text} {bounds : Nat × Option Nat × Bool}
    (read : afterLow? free low s = some (bounds, later))
    (line : commented free later = true → '\n' ∉ u) :
    afterLow? free low (s ++ ')' :: u) = some (bounds, later ++ ')' :: u) := by
  unfold afterLow? at read
  split at read
  · next rest =>
    exact congrArg some (laziness_closing (Option.some.inj read) line)
  · next rest =>
    cases found : skip free rest with
    | nil =>
      rw [found, afterComma?, decimal_nil] at read
      · cases read
      · nofun
    | cons c inner =>
      change afterComma? free low (skip free (rest ++ ')' :: u)) = _
      rw [skip_append _ found]
      rw [found] at read
      exact afterComma_closing read line
  · cases read

theorem boundsFrom_closing {later : Text} {bounds : Nat × Option Nat × Bool}
    (read : boundsFrom? free s = some (bounds, later))
    (line : commented free later = true → '\n' ∉ u) :
    boundsFrom? free (s ++ ')' :: u) = some (bounds, later ++ ')' :: u) := by
  unfold boundsFrom? at read
  obtain ⟨⟨low, rest⟩, first, read⟩ := Option.bind_eq_some_iff.mp read
  have more : rest ≠ [] := by
    rintro rfl
    cases read
  cases start : skip free s with
  | nil =>
    rw [start, decimal_nil] at first
    cases first
  | cons c inner =>
    have longer := skip_append (')' :: u) start
    rw [start] at first
    obtain ⟨final, found, rfl⟩ := of_plainly first
    rw [boundsFrom?, longer, ← List.cons_append, decimal_append _ found more]
    exact afterLow_closing read line

end RouteTable.Regex
