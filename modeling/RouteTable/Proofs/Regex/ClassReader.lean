import RouteTable.Regex.ClassReader
import RouteTable.Template.Basic

namespace RouteTable.Regex

theorem next_cons (c : Char) (rest : Text) :
    next? false (c :: rest) = some (c, ⟨rest, Nat.lt_succ_self _⟩) := rfl

-- What was read, with the rest as a text of its own.
def plainly {α : Type} {s : Text} (read : Option (α × Rest s)) : Option (α × Text) :=
  read.map fun (value, later) => (value, later.1)

theorem of_plainly {α : Type} {s rest : Text} {read : Option (α × Rest s)} {value : α}
    (plain : plainly read = some (value, rest)) :
    ∃ later, read = some (value, later) ∧ later.1 = rest := by
  obtain ⟨⟨_, later⟩, found, same⟩ := Option.map_eq_some_iff.mp plain
  cases same
  exact ⟨later, found, rfl⟩

theorem plainly_of {α : Type} {s : Text} {read : Option (α × Rest s)} {value : α} {later : Rest s}
    (found : read = some (value, later)) : plainly read = some (value, later.1) := by
  rw [found]
  rfl

theorem readClassItems_item {outer : List OpenClass} {level : OpenClass} {c : Char} {rest : Text}
    {item : ClassAst} {later : Rest rest} (ordinary : c ∉ ['[', ']', '&', '-', '~'])
    (read : readRange false c rest = some (item, later)) :
    plainly (readClassItems false outer level (c :: rest)) =
      plainly (readClassItems false outer (level.add item) later.1) := by
  simp only [List.mem_cons, List.not_mem_nil, or_false, not_or] at ordinary
  obtain ⟨opening, closing, ampersand, hyphen, tilde⟩ := ordinary
  rw [readClassItems, next_cons]
  simp only [if_neg opening, if_neg closing, ampersand, hyphen, tilde, decide_false,
    Bool.false_and, Bool.false_eq_true, if_false, read]
  cases readClassItems false outer (level.add item) later.1 with
  | none => rfl
  | some _ => rfl

theorem readClassItems_close {level : OpenClass} {rest : Text} :
    plainly (readClassItems false [] level (']' :: rest)) = some (level.close, rest) := by
  rw [readClassItems, next_cons]
  rfl

theorem openClass_letter (rest : Text) :
    openClass false ('a' :: rest) = ({ negated := false }, .whole ('a' :: rest)) := by
  have lead : leadingHyphens false { negated := false } (Rest.whole ('a' :: rest)).1 =
      ({ negated := false }, .whole ('a' :: rest)) := by
    change leadingHyphens false { negated := false } ('a' :: rest) = _
    rw [leadingHyphens, next_cons]
    rfl
  unfold openClass
  split
  rename_i negated start found
  cases found
  split
  rename_i level inner found
  rw [lead] at found
  cases found
  rfl

-- The class of the default requirement as it is read.
def unitClass : ClassAst :=
  .bracketed false (.union (.union (.union (.union (.range ⟨'a', false⟩ ⟨'z', false⟩)
    (.range ⟨'0', false⟩ ⟨'9', false⟩)) (.literal ⟨'-', false⟩)) (.literal ⟨'.', false⟩))
    (.literal ⟨'_', false⟩))

theorem readClassItems_units (rest : Text) :
    plainly (readClassItems false [] { negated := false } ("a-z0-9\\-._]".toList ++ rest)) =
      some (unitClass, rest) := by
  have letters : ∃ later : Rest ("-z0-9\\-._]".toList ++ rest),
      readRange false 'a' ("-z0-9\\-._]".toList ++ rest) =
        some (.range ⟨'a', false⟩ ⟨'z', false⟩, later) ∧ later.1 = "0-9\\-._]".toList ++ rest :=
    ⟨_, rfl, rfl⟩
  have digits : ∃ later : Rest ("-9\\-._]".toList ++ rest),
      readRange false '0' ("-9\\-._]".toList ++ rest) =
        some (.range ⟨'0', false⟩ ⟨'9', false⟩, later) ∧ later.1 = "\\-._]".toList ++ rest :=
    ⟨_, rfl, rfl⟩
  have hyphen : ∃ later : Rest ("-._]".toList ++ rest),
      readRange false '\\' ("-._]".toList ++ rest) = some (.literal ⟨'-', false⟩, later) ∧
        later.1 = "._]".toList ++ rest :=
    ⟨_, rfl, rfl⟩
  have dot : ∃ later : Rest ("_]".toList ++ rest),
      readRange false '.' ("_]".toList ++ rest) = some (.literal ⟨'.', false⟩, later) ∧
        later.1 = "_]".toList ++ rest :=
    ⟨_, rfl, rfl⟩
  have underscore : ∃ later : Rest ("]".toList ++ rest),
      readRange false '_' ("]".toList ++ rest) = some (.literal ⟨'_', false⟩, later) ∧
        later.1 = "]".toList ++ rest :=
    ⟨_, rfl, rfl⟩
  obtain ⟨_, letters, afterLetters⟩ := letters
  obtain ⟨_, digits, afterDigits⟩ := digits
  obtain ⟨_, hyphen, afterHyphen⟩ := hyphen
  obtain ⟨_, dot, afterDot⟩ := dot
  obtain ⟨_, underscore, afterUnderscore⟩ := underscore
  refine (readClassItems_item (by decide) letters).trans ?_
  rw [afterLetters]
  refine (readClassItems_item (by decide) digits).trans ?_
  rw [afterDigits]
  refine (readClassItems_item (by decide) hyphen).trans ?_
  rw [afterHyphen]
  refine (readClassItems_item (by decide) dot).trans ?_
  rw [afterDot]
  refine (readClassItems_item (by decide) underscore).trans ?_
  rw [afterUnderscore]
  exact readClassItems_close

theorem readClass_units (rest : Text) :
    plainly (readClass false ("a-z0-9\\-._]".toList ++ rest)) = some (unitClass, rest) := by
  have items := readClassItems_units rest
  rw [show "a-z0-9\\-._]".toList ++ rest = 'a' :: ("-z0-9\\-._]".toList ++ rest) from rfl]
    at items ⊢
  unfold readClass
  rw [openClass_letter]
  change plainly (Option.map _ (readClassItems false [] { negated := false } ('a' :: _))) = _
  cases read : readClassItems false [] { negated := false }
      ('a' :: ("-z0-9\\-._]".toList ++ rest)) with
  | none =>
    rw [read] at items
    cases items
  | some pair =>
    rw [read] at items
    exact items

end RouteTable.Regex
