import RouteTable.Proofs.Regex.Locality.Blanks

namespace RouteTable.Regex

variable {free : Bool} {c : Char} {s rest u : Text}

theorem readHex_append (t : Text) {count : Nat} {atom : Atom} {later : Rest s}
    (read : readHex free count s = some (atom, later)) :
    plainly (readHex free count (s ++ t)) = some (atom, later.1 ++ t) := by
  unfold readHex at read
  split at read
  · cases read
  · next found =>
    obtain ⟨_, next⟩ := next_append t found
    split at read
    · next brace =>
      split at read
      · cases read
      · next digits =>
        obtain ⟨atom, literal, same⟩ := Option.map_eq_some_iff.mp read
        cases same
        obtain ⟨_, further, same⟩ := of_plainly (upToBrace_append t digits)
        rw [readHex, next]
        simp only [if_pos brace, further, literal]
        exact congrArg (fun rest => some (atom, rest)) same
    · next other =>
      split at read
      · cases read
      · next digits =>
        obtain ⟨atom, literal, same⟩ := Option.map_eq_some_iff.mp read
        cases same
        obtain ⟨_, further, same⟩ := of_plainly (fixed_append t digits)
        rw [readHex, next]
        simp only [if_neg other, further, literal]
        exact congrArg (fun rest => some (atom, rest)) same

theorem readProperty_append (t : Text) {negated : Bool} {atom : Atom} {later : Rest s}
    (read : readProperty free negated s = some (atom, later)) :
    plainly (readProperty free negated (s ++ t)) = some (atom, later.1 ++ t) := by
  unfold readProperty at read
  split at read
  · cases read
  · next found =>
    obtain ⟨_, next⟩ := next_append t found
    split at read
    · next brace =>
      split at read
      · cases read
      · next text =>
        cases read
        obtain ⟨_, further, same⟩ := of_plainly (upToBrace_append t text)
        rw [readProperty, next]
        simp only [if_pos brace, further]
        exact congrArg (fun rest => some (_, rest)) same
    · next other =>
      split at read
      · cases read
      · next plain =>
        cases read
        rw [readProperty, next]
        simp only [if_neg other, if_neg plain]
        rfl

theorem readBoundary_closing (u : Text) {atom : Atom} {later : Rest s}
    (read : readBoundary free s = some (atom, later)) :
    plainly (readBoundary free (s ++ ')' :: u)) = some (atom, later.1 ++ ')' :: u) := by
  unfold readBoundary at read
  split at read
  · next inner =>
    simp only at read
    split at read
    · next unnamed =>
      split at read
      · cases read
      · next more =>
        cases read
        have rest : (run free (fun c => c.isAlpha || c == '-') inner).2.1 ≠ [] := by
          simpa using more
        obtain ⟨name, after⟩ := run_append (')' :: u) rest
        rw [List.cons_append, readBoundary]
        simp only [name, after, unnamed, if_true]
        rw [if_neg (by simp)]
        rfl
    · next named =>
      split at read
      · cases read
      · next closing =>
        split at read
        · next brace =>
          obtain ⟨kind, boundary, same⟩ := Option.map_eq_some_iff.mp read
          cases same
          have rest : (run free (fun c => c.isAlpha || c == '-') inner).2.1 ≠ [] := by
            rw [closing]
            exact List.cons_ne_nil _ _
          obtain ⟨name, after⟩ := run_append (')' :: u) rest
          rw [List.cons_append, readBoundary]
          simp only [name, if_neg named]
          split
          · next none =>
            rw [after, closing] at none
            cases none
          · next other =>
            rw [after, closing] at other
            cases other
            simp only [if_pos brace, boundary]
            rfl
        · cases read
  · next unbraced =>
    cases read
    rw [readBoundary]
    · rfl
    · cases s with
      | nil =>
        intro inner same
        cases same
      | cons c s =>
        intro inner same
        cases same
        exact unbraced s rfl

theorem plainly_map {α : Type} {s s' : Text} {read : Option (α × Rest s)} (longer : Rest s → Rest s')
    (kept : ∀ later, (longer later).1 = later.1) :
    plainly (read.map fun (value, later) => (value, longer later)) = plainly read := by
  cases read with
  | none => rfl
  | some pair => simp [plainly, kept]

theorem readEscape_closing (u : Text) {atom : Atom} {later : Rest s}
    (read : readEscape free s = some (atom, later)) :
    plainly (readEscape free (s ++ ')' :: u)) = some (atom, later.1 ++ ')' :: u) := by
  cases s with
  | nil => cases read
  | cons c rest =>
    rw [List.cons_append]
    unfold readEscape at read ⊢
    simp only at read ⊢
    split at read
    case h_1 | h_2 | h_3 =>
      obtain ⟨pair, found, same⟩ := Option.map_eq_some_iff.mp read
      cases same
      exact (plainly_map (fun later => later.cons.toRest) fun _ => rfl).trans
        (readHex_append (')' :: u) found)
    case h_4 | h_5 =>
      obtain ⟨pair, found, same⟩ := Option.map_eq_some_iff.mp read
      cases same
      exact (plainly_map (fun later => later.cons.toRest) fun _ => rfl).trans
        (readProperty_append (')' :: u) found)
    case h_6 =>
      obtain ⟨pair, found, same⟩ := Option.map_eq_some_iff.mp read
      cases same
      exact (plainly_map (fun later => later.cons.toRest) fun _ => rfl).trans
        (readBoundary_closing u found)
    case h_7 =>
      obtain ⟨atom, simple, same⟩ := Option.map_eq_some_iff.mp read
      cases same
      rw [simple]
      rfl

end RouteTable.Regex
