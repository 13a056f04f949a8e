import RouteTable.Proofs.Regex.Locality.Item

namespace RouteTable.Regex

variable {free : Bool} {c : Char} {s rest u : Text}

-- Hyphens in front of the items, with the rest as a text of its own.
def led (free : Bool) (level : OpenClass) (s : Text) : OpenClass × Text :=
  ((leadingHyphens free level s).1, (leadingHyphens free level s).2.1)

theorem led_of_end {level : OpenClass} (ended : skip free s = []) :
    led free level s = (level, s) := by
  unfold led
  rw [leadingHyphens, next_of_end ended]
  rfl

theorem led_of_skip {level : OpenClass} (found : skip free s = c :: rest) :
    led free level s =
      if c = '-' then led free (level.add (.literal ⟨'-', false⟩)) rest else (level, s) := by
  obtain ⟨_, next⟩ := next_of_skip found
  unfold led
  rw [leadingHyphens, next]
  simp only
  split <;> rfl

theorem led_append {s : Text} (t : Text) {level : OpenClass}
    (more : skip free (led free level s).2 ≠ []) :
    led free level (s ++ t) = ((led free level s).1, (led free level s).2 ++ t) := by
  cases found : skip free s with
  | nil =>
    rw [led_of_end found] at more
    exact absurd found more
  | cons c rest =>
    have fits : rest.length < s.length := (next_of_skip found).1
    rw [led_of_skip found] at more ⊢
    rw [led_of_skip (skip_append t found)]
    split at more
    · next hyphen =>
      rw [if_pos hyphen, if_pos hyphen]
      exact led_append t more
    · next other => rw [if_neg other, if_neg other]
termination_by s.length

-- Whether a caret comes first, and what is behind it.
def afterCaret (free : Bool) (s : Text) : Bool × Text :=
  match skip free s with
  | '^' :: rest => (true, rest)
  | _ => (false, s)

def opened (free : Bool) (s : Text) : OpenClass × Text :=
  let inner := led free { negated := (afterCaret free s).1 } (afterCaret free s).2
  match skip free inner.2, inner.1.items with
  | ']' :: rest, .empty => (inner.1.add (.literal ⟨']', false⟩), rest)
  | _, _ => inner

-- The bracket that a class may begin with, as a part of the text.
def bracketIn (free : Bool) {start : Rest s} (level : OpenClass) (inner : Rest start.1) :
    OpenClass × Rest s :=
  match next? free inner.1, level.items with
  | some (']', rest), .empty =>
    (level.add (.literal ⟨']', false⟩), start.trans (inner.trans rest.toRest))
  | _, _ => (level, start.trans inner)

theorem bracketIn_eq {start : Rest s} (level : OpenClass) (inner : Rest start.1) :
    ((bracketIn free level inner).1, (bracketIn free level inner).2.1) =
      match skip free inner.1, level.items with
      | ']' :: rest, .empty => (level.add (.literal ⟨']', false⟩), rest)
      | _, _ => (level, inner.1) := by
  unfold bracketIn
  cases found : skip free inner.1 with
  | nil =>
    rw [next_of_end found]
    rfl
  | cons c rest =>
    obtain ⟨shorter, here⟩ := next_of_skip found
    rw [here]
    split
    · next same none =>
      cases same
      rw [none]
      rfl
    · next other =>
      split
      · next same none =>
        cases same
        exact absurd none (other _ rfl)
      · rfl

theorem openClass_eq (free : Bool) (s : Text) :
    ((openClass free s).1, (openClass free s).2.1) = opened free s := by
  unfold openClass
  split
  rename_i negated start first
  split
  rename_i level inner second
  have caret : afterCaret free s = (negated, start.1) := by
    unfold afterCaret
    split at first
    · next rest found =>
      cases first
      rw [skip_of_next found]
      rfl
    · next other =>
      cases first
      split
      · next rest found =>
        obtain ⟨shorter, here⟩ := next_of_skip found
        exact absurd here (other ⟨rest, shorter⟩)
      · rfl
  have hyphens : led free { negated } start.1 = (level, inner.1) := by
    unfold led
    rw [second]
  unfold opened
  rw [caret, hyphens]
  exact bracketIn_eq level inner

theorem afterCaret_append (t : Text) (more : skip free s ≠ []) :
    afterCaret free (s ++ t) = ((afterCaret free s).1, (afterCaret free s).2 ++ t) := by
  obtain ⟨c, rest, found⟩ := List.exists_cons_of_ne_nil more
  unfold afterCaret
  rw [skip_append t found, found]
  by_cases caret : c = '^'
  · subst caret
    rfl
  · split
    · next same => exact absurd (List.cons.inj same).1 caret
    · split
      · next same => exact absurd (List.cons.inj same).1 caret
      · rfl

theorem opened_append (t : Text) (more : skip free (opened free s).2 ≠ []) :
    opened free (s ++ t) = ((opened free s).1, (opened free s).2 ++ t) := by
  have some_ : skip free s ≠ [] := by
    intro found
    have caret : afterCaret free s = (false, s) := by
      unfold afterCaret
      rw [found]
    have same : opened free s = ({ negated := false }, s) := by
      unfold opened
      rw [caret, led_of_end found]
      simp only [found]
    rw [same] at more
    exact more found
  have inner : skip free (led free { negated := (afterCaret free s).1 } (afterCaret free s).2).2 ≠
      [] := by
    intro found
    have same : opened free s =
        led free { negated := (afterCaret free s).1 } (afterCaret free s).2 := by
      unfold opened
      simp only [found]
    rw [same] at more
    exact more found
  obtain ⟨c, rest, found⟩ := List.exists_cons_of_ne_nil inner
  unfold opened
  simp only [afterCaret_append t some_, led_append t inner, skip_append t found, found]
  split
  · next same none =>
    cases same
    rw [none]
    rfl
  · next other =>
    split
    · next same none =>
      cases same
      exact absurd none (other _ rfl)
    · rfl

-- What a class goes on with behind one of its characters, as a text and its rest.
def itemsFrom (free : Bool) (outer : List OpenClass) (level : OpenClass) (c : Char) (rest : Text) :
    Option (ClassAst × Text) :=
  let onward (outer : List OpenClass) (level : OpenClass) (later : Text) :=
    plainly (readClassItems free outer level later)
  if c = '[' then
    match plainly (readAsciiClass rest) with
    | some (item, later) => onward outer (level.add item) later
    | none => onward (level :: outer) (opened free rest).1 (opened free rest).2
  else if c = ']' then
    match outer with
    | [] => some (level.close, rest)
    | parent :: outer => onward outer (parent.add level.close) rest
  else if c = '&' && rest.head? == some '&' then
    onward outer (level.operate .intersection) (rest.drop 1)
  else if c = '-' && rest.head? == some '-' then
    onward outer (level.operate .difference) (rest.drop 1)
  else if c = '~' && rest.head? == some '~' then
    onward outer (level.operate .symmetricDifference) (rest.drop 1)
  else
    (plainly (readRange free c rest)).bind fun (item, later) => onward outer (level.add item) later

theorem readClassItems_end {outer : List OpenClass} {level : OpenClass} (ended : skip free s = []) :
    readClassItems free outer level s = none := by
  rw [readClassItems, next_of_end ended]

theorem readClassItems_skip {outer : List OpenClass} {level : OpenClass}
    (found : skip free s = c :: rest) :
    plainly (readClassItems free outer level s) = itemsFrom free outer level c rest := by
  obtain ⟨shorter, here⟩ := next_of_skip found
  rw [readClassItems, here]
  unfold itemsFrom
  simp only [Rest.whole, Rest.drop]
  -- Reading on keeps what was read and its rest.
  split
  · have start := openClass_eq free rest
    split
    · next item later named =>
      have plain := plainly_of named
      rw [plain]
      simp only
      cases readClassItems free outer (level.add item) later.1 <;> rfl
    · next unnamed =>
      have plain : plainly (readAsciiClass rest) = none := by rw [unnamed]; rfl
      rw [plain, ← start]
      simp only
      cases readClassItems free (level :: outer) (openClass free rest).1 (openClass free rest).2.1
        <;> rfl
  · split
    · cases outer with
      | nil => rfl
      | cons parent outer =>
        simp only
        cases readClassItems free outer (parent.add level.close) rest <;> rfl
    · split
      · cases readClassItems free outer (level.operate .intersection) (rest.drop 1) <;> rfl
      · split
        · cases readClassItems free outer (level.operate .difference) (rest.drop 1) <;> rfl
        · split
          · cases readClassItems free outer (level.operate .symmetricDifference) (rest.drop 1) <;> rfl
          · split
            · next none =>
              rw [none]
              rfl
            · next item later ranged =>
              rw [ranged]
              simp only [plainly, Option.map_some, Option.bind_some]
              cases readClassItems free outer (level.add item) later.1 <;> rfl

theorem skip_of_readClassItems {outer : List OpenClass} {level : OpenClass}
    {read : ClassAst × Text} (found : plainly (readClassItems free outer level s) = some read) :
    skip free s ≠ [] := by
  intro ended
  rw [readClassItems_end ended] at found
  cases found

-- No operator is doubled into the parenthesis.
theorem head_closing (u : Text) {d : Char} (different : ')' ≠ d) :
    ((s ++ ')' :: u).head? == some d) = (s.head? == some d) := by
  cases s with
  | nil => simpa using different
  | cons => rfl

theorem itemsFrom_closing {later : Text} {outer : List OpenClass} {level : OpenClass}
    {set : ClassAst}
    (onward : ∀ (outer : List OpenClass) (level : OpenClass) (inner : Text),
      inner.length ≤ rest.length → plainly (readClassItems free outer level inner) = some (set, later) →
        plainly (readClassItems free outer level (inner ++ ')' :: u)) =
          some (set, later ++ ')' :: u))
    (read : itemsFrom free outer level c rest = some (set, later)) :
    itemsFrom free outer level c (rest ++ ')' :: u) = some (set, later ++ ')' :: u) := by
  have operated {d : Char} {operator : SetOperator} (twice : rest.head? = some d)
      (read : plainly (readClassItems free outer (level.operate operator) (rest.drop 1)) =
        some (set, later)) :
      plainly (readClassItems free outer (level.operate operator)
        ((rest ++ ')' :: u).drop 1)) = some (set, later ++ ')' :: u) := by
    cases rest with
    | nil => cases twice
    | cons e rest => exact onward _ _ rest (Nat.le_succ _) read
  -- What is read on is no longer than the remainder here, so onward speaks of it in every case.
  unfold itemsFrom at read ⊢
  simp only at read ⊢
  split at read
  · next bracket =>
    rw [if_pos bracket, readAsciiClass_closing]
    split at read
    · next item inner named =>
      obtain ⟨final, _, rfl⟩ := of_plainly named
      rw [named]
      exact onward _ _ _ final.2 read
    · next unnamed =>
      have shorter : (opened free rest).2.length ≤ rest.length := by
        rw [← openClass_eq]
        exact (openClass free rest).2.2
      rw [unnamed, opened_append _ (skip_of_readClassItems read)]
      exact onward _ _ _ shorter read
  · next other =>
    rw [if_neg other]
    split at read
    · next closing =>
      rw [if_pos closing]
      split at read
      · cases read
        rfl
      · exact onward _ _ _ (Nat.le_refl _) read
    · next inside =>
      rw [if_neg inside, head_closing u (by decide), head_closing u (by decide),
        head_closing u (by decide)]
      split at read
      · next twice =>
        rw [if_pos twice]
        exact operated (eq_of_beq (Bool.and_eq_true_iff.mp twice).2) read
      · next single =>
        rw [if_neg single]
        split at read
        · next twice =>
          rw [if_pos twice]
          exact operated (eq_of_beq (Bool.and_eq_true_iff.mp twice).2) read
        · next single =>
          rw [if_neg single]
          split at read
          · next twice =>
            rw [if_pos twice]
            exact operated (eq_of_beq (Bool.and_eq_true_iff.mp twice).2) read
          · next single =>
            rw [if_neg single]
            obtain ⟨⟨item, inner⟩, ranged, further⟩ := Option.bind_eq_some_iff.mp read
            rw [readRange_closing u ranged (skip_of_readClassItems further)]
            obtain ⟨final, _, rfl⟩ := of_plainly ranged
            exact onward _ _ _ final.2 further

theorem readClassItems_closing {s later : Text} (u : Text) {outer : List OpenClass}
    {level : OpenClass} {set : ClassAst}
    (read : plainly (readClassItems free outer level s) = some (set, later)) :
    plainly (readClassItems free outer level (s ++ ')' :: u)) = some (set, later ++ ')' :: u) := by
  cases found : skip free s with
  | nil =>
    rw [readClassItems_end found] at read
    cases read
  | cons c rest =>
    have fits : rest.length < s.length := (next_of_skip found).1
    rw [readClassItems_skip found] at read
    rw [readClassItems_skip (skip_append (')' :: u) found)]
    refine itemsFrom_closing ?_ read
    intro outer level inner shorter read
    exact readClassItems_closing u read
termination_by s.length

theorem readClass_eq (free : Bool) (s : Text) :
    plainly (readClass free s) =
      plainly (readClassItems free [] (opened free s).1 (opened free s).2) := by
  rw [← openClass_eq]
  unfold readClass
  split
  rename_i level inner found
  rw [found]
  exact plainly_map (fun later => inner.trans later) fun _ => rfl

theorem readClass_closing {later : Text} (u : Text) {set : ClassAst}
    (read : plainly (readClass free s) = some (set, later)) :
    plainly (readClass free (s ++ ')' :: u)) = some (set, later ++ ')' :: u) := by
  rw [readClass_eq] at read ⊢
  rw [opened_append _ (skip_of_readClassItems read)]
  exact readClassItems_closing u read

end RouteTable.Regex
