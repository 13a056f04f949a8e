import RouteTable.Text.Basic

namespace RouteTable.Text

variable {token part s before after : Text}

theorem eq_of_cutAt? (cut : cutAt? token s = some (before, after)) :
    s = before ++ token ++ after := by
  induction s generalizing before after with
  | nil =>
    unfold cutAt? at cut
    split at cut
    · next empty =>
      cases cut
      rw [List.isEmpty_iff.mp empty]
      rfl
    · cases cut
  | cons c rest ih =>
    unfold cutAt? at cut
    split at cut
    · next found =>
      obtain ⟨tail, same⟩ := List.isPrefixOf_iff_prefix.mp found
      cases cut
      rw [← same, List.drop_left, List.nil_append]
    · obtain ⟨⟨start, tail⟩, later, same⟩ := Option.map_eq_some_iff.mp cut
      cases same
      rw [ih later]
      rfl

theorem includes_of_infix (inside : part <:+: s) : includes part s = true := by
  obtain ⟨before, after, rfl⟩ := inside
  unfold includes
  induction before with
  | nil =>
    cases part with
    | nil => cases after <;> simp [cutAt?]
    | cons c part => simp [cutAt?]
  | cons c before ih =>
    rw [List.cons_append, List.cons_append, cutAt?]
    split
    · rfl
    · simpa using ih

theorem exists_of_includes (inside : includes part s = true) :
    ∃ before after, s = before ++ part ++ after := by
  obtain ⟨⟨before, after⟩, cut⟩ := Option.isSome_iff_exists.mp inside
  exact ⟨before, after, eq_of_cutAt? cut⟩

theorem length_of_includes (inside : includes part s = true) : part.length ≤ s.length := by
  obtain ⟨before, after, rfl⟩ := exists_of_includes inside
  simp only [List.length_append]
  omega

theorem includes_cons (part : Text) (c : Char) (rest : Text) :
    includes part (c :: rest) = (part.isPrefixOf (c :: rest) || includes part rest) := by
  rw [includes, cutAt?]
  cases part.isPrefixOf (c :: rest) with
  | true => rfl
  | false => exact Option.isSome_map

theorem cutAt?_append (cut : cutAt? token s = some (before, after)) (more : Text) :
    cutAt? token (s ++ more) = some (before, after ++ more) := by
  induction s generalizing before with
  | nil =>
    unfold cutAt? at cut
    split at cut
    · next empty =>
      cases cut
      obtain rfl := List.isEmpty_iff.mp empty
      cases more <;> rfl
    · cases cut
  | cons c rest ih =>
    unfold cutAt? at cut
    rw [List.cons_append, cutAt?]
    split at cut
    · next found =>
      have starts := List.isPrefixOf_iff_prefix.mp found
      have starts' : token.isPrefixOf (c :: (rest ++ more)) = true :=
        List.isPrefixOf_iff_prefix.mpr (starts.trans (List.prefix_append (c :: rest) more))
      cases cut
      rw [if_pos starts', ← List.cons_append, List.drop_append_of_le_length starts.length_le]
    · next missing =>
      obtain ⟨⟨start, tail⟩, later, same⟩ := Option.map_eq_some_iff.mp cut
      cases same
      -- The token fits into the rest, so it is too short to begin here and end in what is added.
      have short : token.length ≤ (c :: rest).length := by
        have := length_of_cutAt? later
        rw [List.length_cons]
        omega
      have missing' : ¬ token.isPrefixOf (c :: (rest ++ more)) = true := by
        intro starts
        apply missing
        rw [List.isPrefixOf_iff_prefix] at starts ⊢
        exact List.prefix_of_prefix_length_le starts (List.prefix_append (c :: rest) more) short
      rw [if_neg missing', ih later]
      rfl

theorem not_includes_of_cutAt? (nonempty : token ≠ [])
    (cut : cutAt? token s = some (before, after)) : includes token before = false := by
  cases inside : includes token before with
  | false => rfl
  | true =>
    obtain ⟨⟨start, tail⟩, earlier⟩ := Option.isSome_iff_exists.mp inside
    have first := cutAt?_append earlier (token ++ after)
    rw [← List.append_assoc, ← eq_of_cutAt? cut, cut] at first
    obtain ⟨same, _⟩ := Prod.mk.inj (Option.some.inj first)
    have longer := congrArg List.length (eq_of_cutAt? earlier)
    have positive := List.length_pos_iff.mpr nonempty
    rw [same] at longer
    simp only [List.length_append] at longer
    omega

end RouteTable.Text
