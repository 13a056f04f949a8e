import Mathlib.Data.Nat.Init
import RouteTable.Proofs.Regex.Locality.Blanks

namespace RouteTable.Regex

variable {free : Bool} {c : Char} {s rest u : Text}

theorem readFlags_append (t : Text) {change change' : FlagChange} {negating dangling : Bool}
    {later : Rest s} (read : readFlags change negating dangling s = some (change', c, later)) :
    ∃ final, readFlags change negating dangling (s ++ t) = some (change', c, final) ∧
      final.1 = later.1 ++ t := by
  induction s generalizing change negating dangling with
  | nil => cases read
  | cons d s ih =>
    rw [List.cons_append]
    unfold readFlags at read ⊢
    split at read
    · next ending =>
      rw [if_pos ending]
      split at read
      · cases read
      · next valid =>
        cases read
        rw [if_neg valid]
        exact ⟨_, rfl, rfl⟩
    · next other =>
      rw [if_neg other]
      obtain ⟨⟨change'', e, rest⟩, onward, same⟩ := Option.map_eq_some_iff.mp read
      cases same
      simp only at onward ⊢
      split at onward
      · next hyphen =>
        rw [if_pos hyphen]
        split at onward
        · cases onward
        · next first =>
          rw [if_neg first]
          obtain ⟨final, further, same⟩ := ih onward
          rw [further]
          exact ⟨_, rfl, same⟩
      · next letter =>
        rw [if_neg letter]
        split at onward
        · cases onward
        · next flag known =>
          split at onward
          · cases onward
          · next fresh =>
            rw [if_neg fresh]
            split at onward
            · next off =>
              rw [if_pos off]
              obtain ⟨final, further, same⟩ := ih onward
              rw [further]
              exact ⟨_, rfl, same⟩
            · next on =>
              rw [if_neg on]
              obtain ⟨final, further, same⟩ := ih onward
              rw [further]
              exact ⟨_, rfl, same⟩

theorem readName_append (t : Text) {opening : Opening} {later : Rest s}
    (read : readName s = some (opening, later)) :
    plainly (readName (s ++ t)) = some (opening, later.1 ++ t) := by
  unfold readName at read
  simp only at read
  split at read
  · cases read
  · next found =>
    split at read
    · next valid =>
      cases read
      have present : s.dropWhile (· != '>') ≠ [] := by
        rw [found]
        nofun
      have longer := dropWhile_append t present
      rw [found] at longer
      unfold readName
      simp only [takeWhile_append t present]
      split
      · next none =>
        rw [longer] at none
        cases none
      · next other =>
        rw [longer] at other
        cases other
        rw [if_pos valid]
        rfl
    · cases read

-- What an opening parenthesis starts, from the first character behind it that counts.
def openingFrom? : Text → Option (Opening × Text)
  | '?' :: '=' :: _ => none
  | '?' :: '!' :: _ => none
  | '?' :: '<' :: '=' :: _ => none
  | '?' :: '<' :: '!' :: _ => none
  | '?' :: 'P' :: '<' :: rest => plainly (readName rest)
  | '?' :: '<' :: rest => plainly (readName rest)
  | '?' :: rest =>
    match readFlags {} false false rest with
    | none => none
    | some (change, c, later) =>
      if c = ':' then some (.group change, later.1)
      else if change.isEmpty then none
      else some (.flags change, later.1)
  | rest => some (.capture none, rest)

theorem openingFrom_plain {start : Text} (plain : ∀ rest, start ≠ '?' :: rest) :
    openingFrom? start = some (.capture none, start) := by
  unfold openingFrom?
  split
  case h_8 => rfl
  all_goals exact absurd rfl (plain _)

theorem readOpening_eq (free : Bool) (s : Text) :
    plainly (readOpening free s) = openingFrom? (skip free s) := by
  unfold readOpening
  simp only
  split
  case h_1 marked _ | h_2 marked _ | h_3 marked _ | h_4 marked _ =>
    rw [marked]
    rfl
  case h_5 rest _ _ marked _ =>
    rw [marked]
    change _ = plainly (readName rest)
    cases readName rest <;> rfl
  case h_6 rest fits equal exclaimed _ marked _ =>
    rw [marked, openingFrom?]
    · cases readName rest <;> rfl
    · rintro tail rfl
      exact equal tail fits HEq.rfl rfl
    · rintro tail rfl
      exact exclaimed tail fits HEq.rfl rfl
  case h_7 rest fits none₁ none₂ none₃ none₄ none₅ none₆ _ marked _ =>
    rw [marked, openingFrom?]
    · cases readFlags {} false false rest with
      | none => rfl
      | some triple =>
        simp only
        split
        · rfl
        · split <;> rfl
    · rintro tail rfl
      exact none₁ tail fits HEq.rfl rfl
    · rintro tail rfl
      exact none₂ tail fits HEq.rfl rfl
    · rintro tail rfl
      exact none₃ tail fits HEq.rfl rfl
    · rintro tail rfl
      exact none₄ tail fits HEq.rfl rfl
    · rintro tail rfl
      exact none₅ tail fits HEq.rfl rfl
    · rintro tail rfl
      exact none₆ tail fits HEq.rfl rfl
  case h_8 plain =>
    refine (openingFrom_plain fun rest marked => ?_).symm
    have fits := length_skip_le free s
    change skip free s = '?' :: rest at marked
    rw [marked] at fits
    exact plain rest fits marked (proof_irrel_heq _ _)

theorem head_of_readFlags {change : FlagChange} {found : FlagChange × Char × Rest s}
    (read : readFlags change false false s = some found) :
    ∃ c rest, s = c :: rest ∧ c ≠ '=' ∧ c ≠ '!' ∧ c ≠ '<' ∧ c ≠ 'P' := by
  cases s with
  | nil => cases read
  | cons c rest =>
    refine ⟨c, rest, rfl, ?_⟩
    refine ⟨?_, ?_, ?_, ?_⟩
    all_goals
      rintro rfl
      cases read

theorem openingFrom_append {start later : Text} (t : Text) {opening : Opening} (more : start ≠ [])
    (read : openingFrom? start = some (opening, later)) :
    openingFrom? (start ++ t) = some (opening, later ++ t) := by
  obtain ⟨c, rest, rfl⟩ := List.exists_cons_of_ne_nil more
  by_cases marked : c = '?'
  · subst marked
    unfold openingFrom? at read
    split at read
    case h_1 | h_2 | h_3 | h_4 => cases read
    case h_5 rest same =>
      cases same
      obtain ⟨final, found, rfl⟩ := of_plainly read
      exact readName_append t found
    case h_6 rest equal exclaimed same =>
      cases same
      obtain ⟨final, found, rfl⟩ := of_plainly read
      have longer := readName_append t found
      cases rest with
      | nil => cases found
      | cons d rest =>
        rw [← longer]
        -- The marks of a lookbehind are decided by the next character, which is there already.
        change openingFrom? ('?' :: '<' :: d :: (rest ++ t)) = _
        rw [openingFrom?]
        · rfl
        · intro tail same
          exact equal rest (congrArg (· :: rest) (List.cons.inj same).1)
        · intro tail same
          exact exclaimed rest (congrArg (· :: rest) (List.cons.inj same).1)
    case h_7 same =>
      cases same
      split at read
      · cases read
      · next change c final found =>
        -- Flags begin with none of the characters that the earlier cases look for.
        obtain ⟨d, rest, rfl, ne₁, ne₂, ne₃, ne₄⟩ := head_of_readFlags found
        obtain ⟨_, longer, same⟩ := readFlags_append t found
        change openingFrom? ('?' :: d :: (rest ++ t)) = _
        rw [openingFrom?]
        · have further : readFlags {} false false (d :: (rest ++ t)) = _ := longer
          rw [further]
          simp only at read ⊢
          split at read
          · next colon =>
            cases read
            rw [if_pos colon, same]
          · next other =>
            rw [if_neg other]
            split at read
            · cases read
            · next some_ =>
              cases read
              rw [if_neg some_, same]
        all_goals
          intro tail alike
          have head := (List.cons.inj alike).1
          contradiction
    case h_8 plain => exact absurd rfl (plain rest)
  · have plain (c : Char) (rest : Text) (other : c ≠ '?') : ∀ tail, c :: rest ≠ '?' :: tail := by
      intro tail same
      exact other (List.cons.inj same).1
    rw [openingFrom_plain (plain c rest marked)] at read
    cases read
    exact openingFrom_plain (plain c (rest ++ t) marked)

theorem readOpening_append {later : Text} (t : Text) {opening : Opening}
    (read : plainly (readOpening free s) = some (opening, later))
    (inside : opening = .capture none → later ≠ []) :
    plainly (readOpening free (s ++ t)) = some (opening, later ++ t) := by
  rw [readOpening_eq] at read ⊢
  cases found : skip free s with
  | nil =>
    rw [found] at read
    cases read
    exact absurd rfl (inside rfl)
  | cons c rest =>
    rw [found] at read
    rw [skip_append t found]
    exact openingFrom_append t (List.cons_ne_nil c rest) read

end RouteTable.Regex
