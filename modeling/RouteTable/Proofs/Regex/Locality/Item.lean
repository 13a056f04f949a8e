import Mathlib.Data.List.TakeWhile
import RouteTable.Proofs.Regex.Locality.Escape

namespace RouteTable.Regex

variable {free : Bool} {c : Char} {s rest u : Text}

def asciiBody (inner : Text) : Text :=
  if inner.head? == some '^' then inner.drop 1 else inner

theorem asciiBody_closing (inner u : Text) :
    ((inner ++ ')' :: u).head? == some '^') = (inner.head? == some '^') ∧
      asciiBody (inner ++ ')' :: u) = asciiBody inner ++ ')' :: u := by
  cases inner with
  | nil => exact ⟨rfl, rfl⟩
  | cons c inner =>
    refine ⟨rfl, ?_⟩
    unfold asciiBody
    rw [List.cons_append, List.head?_cons, List.head?_cons]
    split <;> rfl

def asciiClass? (negated : Bool) (body : Text) : Option (ClassAst × Text) :=
  match body.dropWhile (· != ':') with
  | ':' :: ']' :: rest =>
    if asciiClassNames.any (·.toList = body.takeWhile (· != ':')) then
      some (.ascii (body.takeWhile (· != ':')) negated, rest)
    else none
  | _ => none

theorem readAsciiClass_colon (inner : Text) : plainly (readAsciiClass (':' :: inner)) =
    asciiClass? (inner.head? == some '^') (asciiBody inner) := by
  unfold readAsciiClass
  simp only
  split
  · next rest found =>
    have there : asciiClass? (inner.head? == some '^') (asciiBody inner) =
        if asciiClassNames.any (·.toList = (asciiBody inner).takeWhile (· != ':')) then
          some (.ascii ((asciiBody inner).takeWhile (· != ':')) (inner.head? == some '^'), rest)
        else none := by
      unfold asciiClass? asciiBody
      rw [found]
      rfl
    rw [there]
    change plainly (if asciiClassNames.any
      (·.toList = (asciiBody inner).takeWhile (· != ':')) then _ else _) = _
    split <;> rfl
  · next other =>
    unfold asciiClass?
    split
    · next found => exact absurd found (other _)
    · rfl

theorem readAsciiClass_other (other : s.head? ≠ some ':') : readAsciiClass s = none := by
  unfold readAsciiClass
  split
  · exact absurd rfl other
  · rfl

theorem asciiClass_unnamed {name : Text} (closing : ')' ∈ name) :
    asciiClassNames.any (·.toList = name) = false := by
  have letters : ∀ known ∈ asciiClassNames, ')' ∉ known.toList := by decide
  refine List.any_eq_false.mpr fun known listed same => ?_
  exact letters known listed (of_decide_eq_true same ▸ closing)

-- So no name begins in one text and ends in what follows.
theorem asciiClass_closing (negated : Bool) (body u : Text) :
    asciiClass? negated (body ++ ')' :: u) =
      (asciiClass? negated body).map fun (item, rest) => (item, rest ++ ')' :: u) := by
  cases more : body.dropWhile (· != ':') with
  | nil =>
    have none : asciiClass? negated body = none := by
      unfold asciiClass?
      rw [more]
    have every : ∀ c ∈ body, (c != ':') = true := List.dropWhile_eq_nil_iff.mp more
    have closing : ')' ∈ (body ++ ')' :: u).takeWhile (· != ':') := by
      rw [List.takeWhile_append_of_pos every]
      simp
    rw [none]
    unfold asciiClass?
    rw [asciiClass_unnamed closing]
    split <;> rfl
  | cons c later =>
    have present : body.dropWhile (· != ':') ≠ [] := by
      rw [more]
      nofun
    have name := takeWhile_append (')' :: u) present
    have rest := dropWhile_append (')' :: u) present
    rw [more] at rest
    unfold asciiClass?
    rw [name, rest, more]
    cases later with
    | nil =>
      simp only [List.cons_append, List.nil_append]
      split
      · next same => cases same
      · rfl
    | cons d later =>
      simp only [List.cons_append]
      split
      · next same =>
        cases same
        simp only
        split <;> rfl
      · next other =>
        split
        · next same =>
          cases same
          exact absurd rfl (other _)
        · rfl

theorem readAsciiClass_closing (s u : Text) :
    plainly (readAsciiClass (s ++ ')' :: u)) =
      (plainly (readAsciiClass s)).map fun (item, later) => (item, later ++ ')' :: u) := by
  by_cases colon : s.head? = some ':'
  · cases s with
    | nil => cases colon
    | cons c inner =>
      obtain rfl : c = ':' := Option.some.inj colon
      obtain ⟨caret, body⟩ := asciiBody_closing inner u
      rw [List.cons_append, readAsciiClass_colon, readAsciiClass_colon, caret, body,
        asciiClass_closing]
  · have other : (s ++ ')' :: u).head? ≠ some ':' := by
      cases s with
      | nil => nofun
      | cons c s => exact colon
    rw [readAsciiClass_other colon, readAsciiClass_other other]
    rfl

theorem readItem_closing (u : Text) {atom : Atom} {later : Rest s}
    (read : readItem free c s = some (atom, later)) :
    plainly (readItem free c (s ++ ')' :: u)) = some (atom, later.1 ++ ')' :: u) := by
  unfold readItem at read ⊢
  split at read
  · next escape =>
    rw [if_pos escape]
    exact readEscape_closing u read
  · next plain =>
    cases read
    rw [if_neg plain]
    rfl

-- Whether a hyphen is followed by the end of a class or by another hyphen.
def endsHyphen (free : Bool) (s : Text) : Bool :=
  [some ']', some '-'].contains (peekAfterHyphen free s)

theorem not_end_of_head (blank : ∀ d, s.head? = some d → Unicode.isWhitespace d = true ∨ d = '#') :
    [some ']', some '-'].contains s.head? = false := by
  cases s with
  | nil => rfl
  | cons d s =>
    have bracket : Unicode.isWhitespace ']' = false := by decide
    have hyphen : Unicode.isWhitespace '-' = false := by decide
    cases ends : [some ']', some '-'].contains (d :: s).head? with
    | false => rfl
    | true =>
      rcases blank d rfl with white | rfl
      · simp only [List.contains_iff_mem, List.mem_cons, List.head?_cons, Option.some.injEq,
          List.not_mem_nil, or_false] at ends
        rcases ends with rfl | rfl
        · rw [bracket] at white; cases white
        · rw [hyphen] at white; cases white
      · rw [List.head?_cons] at ends
        exact absurd ends (by decide)

theorem head_of_dropWhile {kind : Char → Bool} {d : Char} (head : s.head? = some d) :
    kind d = true ∨ (s.dropWhile kind).head? = some d := by
  cases s with
  | nil => cases head
  | cons e s =>
    obtain rfl : e = d := Option.some.inj head
    cases member : kind e with
    | true => exact Or.inl rfl
    | false =>
      rw [List.dropWhile_cons_of_neg (by simp [member])]
      exact Or.inr rfl

theorem endsHyphen_closing (s u : Text) :
    endsHyphen free (s ++ ')' :: u) = endsHyphen free s := by
  unfold endsHyphen peekAfterHyphen
  cases free with
  | false => cases s <;> rfl
  | true =>
    have plain : Unicode.isWhitespace ')' = false := by decide
    have stop : (')' :: u).dropWhile Unicode.isWhitespace = ')' :: u :=
      List.dropWhile_cons_of_neg (by simp [plain])
    cases found : s.dropWhile Unicode.isWhitespace with
    | nil =>
      have blank := not_end_of_head fun d head => by
        rcases head_of_dropWhile head with white | first
        · exact Or.inl white
        · rw [found] at first
          cases first
      simp only [if_true, List.dropWhile_append, found, stop, List.isEmpty_nil]
      exact blank.symm
    | cons c rest =>
      have filled : s.dropWhile Unicode.isWhitespace ≠ [] := by
        rw [found]
        nofun
      have longer := dropWhile_append (')' :: u) filled
      rw [found] at longer
      by_cases sign : c = '#'
      · subst sign
        have blank : [some ']', some '-'].contains s.head? = false := not_end_of_head fun d head => by
          rcases head_of_dropWhile head with white | first
          · exact Or.inl white
          · rw [found] at first
            exact Or.inr (Option.some.inj first).symm
        simp only [if_true, longer, List.cons_append, List.dropWhile_append, stop]
        cases after : rest.dropWhile Unicode.isWhitespace with
        | nil =>
          simp only [List.isEmpty_nil, if_true, List.head?_nil, Option.none_or]
          exact blank.symm
        | cons d rest => rfl
      · simp only [if_true, longer]
        split
        · next same => exact absurd (List.cons.inj same).1 sign
        · split
          · next same => exact absurd (List.cons.inj same).1 sign
          · rfl

def rangeTail? (free : Bool) (s : Text) : Option Text :=
  match skip free s with
  | '-' :: tail => if endsHyphen free tail then none else some tail
  | _ => none

theorem rangeTail_hyphen {tail : Text} (found : skip free s = '-' :: tail) :
    rangeTail? free s = if endsHyphen free tail then none else some tail := by
  unfold rangeTail?
  simp only [found]

theorem rangeTail_other (other : ∀ tail, skip free s ≠ '-' :: tail) : rangeTail? free s = none := by
  unfold rangeTail?
  split
  · next tail found => exact absurd found (other tail)
  · rfl

theorem skip_of_rangeTail {tail : Text} (found : rangeTail? free s = some tail) :
    skip free s = '-' :: tail := by
  unfold rangeTail? at found
  split at found
  · next later hyphen =>
    split at found
    · cases found
    · exact Option.some.inj found ▸ hyphen
  · cases found

theorem rangeTail_closing (u : Text) (more : skip free s ≠ []) :
    rangeTail? free (s ++ ')' :: u) = (rangeTail? free s).map (· ++ ')' :: u) := by
  obtain ⟨c, tail, found⟩ := List.exists_cons_of_ne_nil more
  have longer := skip_append (')' :: u) found
  by_cases hyphen : c = '-'
  · subst hyphen
    rw [rangeTail_hyphen longer, rangeTail_hyphen found, endsHyphen_closing]
    cases endsHyphen free tail <;> rfl
  · have other {later later' : Text} : c :: later ≠ '-' :: later' :=
      fun same => hyphen (List.cons.inj same).1
    rw [rangeTail_other fun _ => longer ▸ other, rangeTail_other fun _ => found ▸ other]
    rfl

-- The upper end of a range, read behind its hyphen.
def upTo? (free : Bool) (low : Atom) (tail : Text) : Option (ClassAst × Text) :=
  match skip free tail with
  | [] => none
  | first :: rest =>
    (plainly (readItem free first rest)).bind fun (high, later) =>
      match low.toLiteral?, high.toLiteral? with
      | some lo, some hi => if lo.char ≤ hi.char then some (.range lo hi, later) else none
      | _, _ => none

theorem upTo_eq_some_iff {low : Atom} {tail later : Text} {item : ClassAst} :
    upTo? free low tail = some (item, later) ↔ ∃ first rest high lo hi,
      skip free tail = first :: rest ∧ plainly (readItem free first rest) = some (high, later) ∧
        low.toLiteral? = some lo ∧ high.toLiteral? = some hi ∧ lo.char ≤ hi.char ∧
          item = .range lo hi := by
  unfold upTo?
  constructor
  · intro read
    split at read
    · cases read
    · next first rest found =>
      obtain ⟨⟨high, left⟩, highItem, made⟩ := Option.bind_eq_some_iff.mp read
      simp only at made
      split at made
      · next lo hi least most =>
        split at made
        · next ordered =>
          cases made
          exact ⟨first, rest, high, lo, hi, found, highItem, least, most, ordered, rfl⟩
        · cases made
      · cases made
  · rintro ⟨first, rest, high, lo, hi, found, highItem, least, most, ordered, rfl⟩
    simp only [found, highItem, Option.bind_some, least, most, if_pos ordered]

theorem upTo_closing (u : Text) {low : Atom} {tail later : Text} {item : ClassAst}
    (read : upTo? free low tail = some (item, later)) :
    upTo? free low (tail ++ ')' :: u) = some (item, later ++ ')' :: u) := by
  obtain ⟨first, rest, high, lo, hi, found, highItem, ends⟩ := upTo_eq_some_iff.mp read
  obtain ⟨_, known, rfl⟩ := of_plainly highItem
  exact upTo_eq_some_iff.mpr
    ⟨first, _, high, lo, hi, skip_append _ found, readItem_closing u known, ends⟩

-- What an item goes on with behind its first atom.
def rangeFrom? (free : Bool) (low : Atom) (middle : Text) : Option (ClassAst × Text) :=
  match rangeTail? free middle with
  | none => low.toClass?.map fun item => (item, middle)
  | some tail => upTo? free low tail

theorem readRange_eq (free : Bool) (c : Char) (s : Text) :
    plainly (readRange free c s) =
      (plainly (readItem free c s)).bind fun (low, middle) => rangeFrom? free low middle := by
  unfold readRange
  cases readItem free c s with
  | none => rfl
  | some pair =>
    obtain ⟨low, middle⟩ := pair
    change _ = rangeFrom? free low middle.1
    have alone : plainly (low.toClass?.map fun item => (item, middle)) =
        low.toClass?.map fun item => (item, middle.1) := by
      cases low.toClass? <;> rfl
    unfold rangeFrom?
    simp only
    split
    · next tail hyphen =>
      rw [rangeTail_hyphen hyphen]
      change plainly (if endsHyphen free tail = true then _ else _) = _
      cases endsHyphen free tail with
      | true => exact alone
      | false =>
        simp only [Bool.false_eq_true, if_false]
        unfold upTo?
        cases found : skip free tail with
        | nil =>
          rw [next_of_end found]
          rfl
        | cons first rest =>
          obtain ⟨_, next⟩ := next_of_skip found
          simp only [next]
          cases readItem free first rest with
          | none => rfl
          | some pair =>
            simp only [plainly, Option.map_some, Option.bind_some]
            cases low.toLiteral? with
            | none => rfl
            | some lo =>
              cases pair.1.toLiteral? with
              | none => rfl
              | some hi =>
                simp only
                split <;> rfl
    · next other =>
      rw [rangeTail_other other]
      exact alone

theorem rangeFrom_closing (u : Text) {low : Atom} {item : ClassAst} {middle later : Text}
    (read : rangeFrom? free low middle = some (item, later)) (more : skip free later ≠ []) :
    rangeFrom? free low (middle ++ ')' :: u) = some (item, later ++ ')' :: u) := by
  unfold rangeFrom? at read ⊢
  split at read
  · next alone =>
    obtain ⟨value, set, same⟩ := Option.map_eq_some_iff.mp read
    cases same
    rw [rangeTail_closing u more, alone, set]
    rfl
  · next tail hyphen =>
    have filled : skip free middle ≠ [] := by
      rw [skip_of_rangeTail hyphen]
      nofun
    rw [rangeTail_closing u filled, hyphen]
    exact upTo_closing u read

theorem readRange_closing (u : Text) {item : ClassAst} {later : Text}
    (read : plainly (readRange free c s) = some (item, later)) (more : skip free later ≠ []) :
    plainly (readRange free c (s ++ ')' :: u)) = some (item, later ++ ')' :: u) := by
  rw [readRange_eq] at read ⊢
  obtain ⟨⟨low, middle⟩, lowItem, onward⟩ := Option.bind_eq_some_iff.mp read
  obtain ⟨_, known, rfl⟩ := of_plainly lowItem
  rw [readItem_closing u known, Option.bind_some]
  exact rangeFrom_closing u onward more

end RouteTable.Regex
