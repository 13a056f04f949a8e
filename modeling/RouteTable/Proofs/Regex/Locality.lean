import RouteTable.Proofs.Regex.Locality.Bounds
import RouteTable.Proofs.Regex.Locality.Class
import RouteTable.Proofs.Regex.Locality.Opening

namespace RouteTable.Regex

variable {free : Bool} {c : Char} {s rest u : Text}

theorem quantified_closing {low : Nat} {high : Option Nat} {token : Token} {later : Text}
    (u : Text) (read : quantified low high s = (token, later)) :
    quantified low high (s ++ ')' :: u) = (token, later ++ ')' :: u) := by
  unfold quantified at read
  split at read
  · cases read
    rfl
  · next greedy =>
    cases read
    refine quantified_greedy fun later same => ?_
    cases s with
    | nil => cases same
    | cons c s => exact greedy s (congrArg (· :: s) (List.cons.inj same).1)

theorem tokenFrom_closing {token : Token} {later : Text}
    (read : tokenFrom? free c s = some (token, later))
    (inside : token = .opening (.capture none) → later ≠ [])
    (line : (∃ low high greedy, token = .quantifier low high greedy) →
      commented free later = true → '\n' ∉ u) :
    tokenFrom? free c (s ++ ')' :: u) = some (token, later ++ ')' :: u) := by
  -- What is read is kept, whatever the token makes of it.
  have keep {α : Type} {value : α} {read : Option (α × Rest (s ++ ')' :: u))} {rest : Text}
      (make : α → Token) (found : plainly read = some (value, rest)) :
      (read.map fun (value, later) => (make value, later.1)) = some (make value, rest) := by
    obtain ⟨final, here, rfl⟩ := of_plainly found
    rw [here]
    rfl
  unfold tokenFrom? at read ⊢
  split at read
  case h_1 =>
    obtain ⟨⟨opening, rest⟩, opened, same⟩ := Option.map_eq_some_iff.mp read
    cases same
    exact keep _ (readOpening_append _ (plainly_of opened) fun same => inside (congrArg _ same))
  case h_2 | h_3 | h_10 | h_11 | h_12 | h_13 =>
    cases read
    rfl
  case h_4 =>
    obtain ⟨⟨set, rest⟩, found, same⟩ := Option.map_eq_some_iff.mp read
    cases same
    exact keep (fun set => .part (.class set)) (readClass_closing u (plainly_of found))
  case h_5 | h_6 | h_7 => exact congrArg some (quantified_closing u (Option.some.inj read))
  case h_8 =>
    obtain ⟨⟨bounds, rest⟩, found, same⟩ := Option.map_eq_some_iff.mp read
    cases same
    have counted := plainly_of found
    rw [readBounds_eq] at counted
    have longer := boundsFrom_closing counted (line ⟨_, _, _, rfl⟩)
    rw [← readBounds_eq] at longer
    exact keep (fun bounds => .quantifier bounds.1 bounds.2.1 bounds.2.2) longer
  case h_9 =>
    obtain ⟨⟨atom, rest⟩, found, same⟩ := Option.map_eq_some_iff.mp read
    cases same
    exact keep (fun atom => .part atom.toAst) (readEscape_closing u found)

end RouteTable.Regex
