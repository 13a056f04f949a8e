import RouteTable.Regex.Search

namespace RouteTable.Regex

open Unicode (CharSet)

-- A position between two characters of a text.
structure Place where
  past : Text
  rest : Text
deriving DecidableEq

namespace Place

def text (p : Place) : Text := p.past ++ p.rest

-- The way from one place to another over a piece of text.
def Moves (p : Place) (piece : Text) (q : Place) : Prop :=
  p.rest = piece ++ q.rest ∧ q.past = p.past ++ piece

variable {p q r : Place} {s t : Text}

theorem Moves.trans (first : p.Moves s q) (later : q.Moves t r) : p.Moves (s ++ t) r := by
  obtain ⟨rest, past⟩ := first
  obtain ⟨rest', past'⟩ := later
  exact ⟨by rw [rest, rest', List.append_assoc], by rw [past', past, List.append_assoc]⟩

theorem Moves.split (both : p.Moves (s ++ t) r) : ∃ q, p.Moves s q ∧ q.Moves t r := by
  obtain ⟨rest, past⟩ := both
  refine ⟨⟨p.past ++ s, t ++ r.rest⟩, ⟨?_, rfl⟩, ⟨rfl, ?_⟩⟩
  · rw [rest, List.append_assoc]
  · rw [past, List.append_assoc]

theorem moves_nil : p.Moves [] q ↔ q = p := by
  constructor
  · rintro ⟨rest, past⟩
    cases p
    cases q
    simp_all
  · rintro rfl
    exact ⟨rfl, by simp⟩

theorem Moves.unique (moves : p.Moves s q) (moves' : p.Moves t q) : s = t :=
  List.append_cancel_right (moves.1.symm.trans moves'.1)

theorem Moves.same_end (moves : p.Moves s q) (moves' : p.Moves s r) : q = r := by
  obtain ⟨past, rest⟩ := q
  obtain ⟨past', rest'⟩ := r
  obtain ⟨ahead, rfl⟩ := moves
  obtain ⟨ahead', rfl⟩ := moves'
  obtain rfl := List.append_cancel_left (ahead.symm.trans ahead')
  rfl

theorem Moves.text_eq (moves : p.Moves s q) : q.text = p.text := by
  obtain ⟨rest, past⟩ := moves
  rw [text, text, rest, past, List.append_assoc]

def thread (p : Place) (address : Nat) (marks : List Mark) : Thread :=
  ⟨address, p.past.length, p.past.getLast?, p.rest, marks⟩

end Place

-- From a place to a place, with the marks left on the way, last one first.
abbrev Passage := Place → List Mark → Place → Prop

namespace Passage

def stay : Passage := fun p marks q => marks = [] ∧ q = p

def along (piece : Text) : Passage := fun p marks q => marks = [] ∧ p.Moves piece q

def oneOf (accepts : Char → Prop) : Passage := fun p marks q =>
  ∃ c, accepts c ∧ along [c] p marks q

def checked (assertion : Look) : Passage := fun p marks q =>
  assertion.holds p.past.getLast? p.rest.head? = true ∧ stay p marks q

def andThen (first later : Passage) : Passage := fun p marks r =>
  ∃ q left left', first p left q ∧ later q left' r ∧ marks = left' ++ left

def either (a b : Passage) : Passage := fun p marks q => a p marks q ∨ b p marks q

def rounds (a : Passage) : Nat → Passage
  | 0 => stay
  | count + 1 => a.andThen (a.rounds count)

-- Any number of rounds within bounds.
def repeated (low : Nat) (high : Option Nat) (a : Passage) : Passage := fun p marks q =>
  ∃ count, low ≤ count ∧ (∀ most, high = some most → count ≤ max low most) ∧
    a.rounds count p marks q

def named (name : Text) (a : Passage) : Passage := fun p marks q =>
  ∃ left, a p left q ∧
    marks = .leave name q.past.length :: (left ++ [.enter name p.past.length])

variable (a b c : Passage)

theorem stay_andThen : stay.andThen a = a := by
  funext p marks r
  refine propext ⟨?_, ?_⟩
  · rintro ⟨q, left, left', ⟨rfl, rfl⟩, rest, rfl⟩
    simpa using rest
  · intro rest
    exact ⟨p, [], marks, ⟨rfl, rfl⟩, rest, by simp⟩

theorem andThen_stay : a.andThen stay = a := by
  funext p marks r
  refine propext ⟨?_, ?_⟩
  · rintro ⟨q, left, left', first, ⟨rfl, rfl⟩, rfl⟩
    simpa using first
  · intro first
    exact ⟨r, marks, [], first, ⟨rfl, rfl⟩, by simp⟩

theorem andThen_assoc : (a.andThen b).andThen c = a.andThen (b.andThen c) := by
  funext p marks s
  refine propext ⟨?_, ?_⟩
  · rintro ⟨r, _, left'', ⟨q, left, left', first, second, rfl⟩, third, rfl⟩
    exact ⟨q, left, left'' ++ left', first, ⟨r, left', left'', second, third, rfl⟩,
      by rw [List.append_assoc]⟩
  · rintro ⟨q, left, _, first, ⟨r, left', left'', second, third, rfl⟩, rfl⟩
    exact ⟨r, left' ++ left, left'', ⟨q, left, left', first, second, rfl⟩, third,
      by rw [List.append_assoc]⟩

theorem along_andThen (s t : Text) : (along s).andThen (along t) = along (s ++ t) := by
  funext p marks r
  refine propext ⟨?_, ?_⟩
  · rintro ⟨q, left, left', ⟨rfl, first⟩, ⟨rfl, later⟩, rfl⟩
    exact ⟨rfl, first.trans later⟩
  · rintro ⟨rfl, both⟩
    obtain ⟨q, first, later⟩ := both.split
    exact ⟨q, [], [], ⟨rfl, first⟩, ⟨rfl, later⟩, rfl⟩

theorem rounds_add (m n : Nat) : a.rounds (m + n) = (a.rounds m).andThen (a.rounds n) := by
  induction m with
  | zero => rw [Nat.zero_add, rounds, stay_andThen]
  | succ m ih => rw [Nat.succ_add, rounds, rounds, ih, andThen_assoc]

theorem rounds_oneOf {accepts : Char → Prop} {count : Nat} {p q : Place} {marks : List Mark} :
    (oneOf accepts).rounds count p marks q ↔
      marks = [] ∧ ∃ piece, piece.length = count ∧ (∀ c ∈ piece, accepts c) ∧ p.Moves piece q := by
  induction count generalizing p marks q with
  | zero =>
    constructor
    · rintro ⟨rfl, rfl⟩
      exact ⟨rfl, [], rfl, nofun, Place.moves_nil.mpr rfl⟩
    · rintro ⟨rfl, piece, empty, _, moves⟩
      rw [List.length_eq_zero_iff.mp empty] at moves
      exact ⟨rfl, Place.moves_nil.mp moves⟩
  | succ count ih =>
    constructor
    · rintro ⟨middle, left, left', ⟨c, accepted, rfl, first⟩, later, rfl⟩
      obtain ⟨rfl, piece, rfl, others, moves⟩ := ih.mp later
      refine ⟨rfl, c :: piece, rfl, ?_, first.trans moves⟩
      simpa using ⟨accepted, others⟩
    · rintro ⟨rfl, piece, long, each, moves⟩
      cases piece with
      | nil => cases long
      | cons c piece =>
        obtain ⟨middle, first, rest⟩ := moves.split (s := [c])
        have accepted := each c List.mem_cons_self
        refine ⟨middle, [], [], ⟨c, accepted, rfl, first⟩, ih.mpr ⟨rfl, piece, ?_, ?_, rest⟩, rfl⟩
        · simpa using long
        · exact fun d member => each d (List.mem_cons_of_mem c member)

theorem repeated_oneOf {accepts : Char → Prop} {low : Nat} {p q : Place} {marks : List Mark} :
    (oneOf accepts).repeated low none p marks q ↔
      marks = [] ∧ ∃ piece, low ≤ piece.length ∧ (∀ c ∈ piece, accepts c) ∧ p.Moves piece q := by
  constructor
  · rintro ⟨count, least, _, passed⟩
    obtain ⟨rfl, piece, rfl, each, moves⟩ := rounds_oneOf.mp passed
    exact ⟨rfl, piece, least, each, moves⟩
  · rintro ⟨rfl, piece, least, each, moves⟩
    exact ⟨piece.length, least, nofun, rounds_oneOf.mpr ⟨rfl, piece, rfl, each, moves⟩⟩

theorem named_eq (name : Text) :
    a.named name =
      andThen (fun p marks q => q = p ∧ marks = [.enter name p.past.length])
        (a.andThen fun p marks q => q = p ∧ marks = [.leave name p.past.length]) := by
  funext p marks q
  refine propext ⟨?_, ?_⟩
  · rintro ⟨left, passed, rfl⟩
    exact ⟨p, _, _, ⟨rfl, rfl⟩, ⟨q, left, _, passed, ⟨rfl, rfl⟩, rfl⟩, rfl⟩
  · rintro ⟨_, _, _, ⟨rfl, rfl⟩, ⟨_, left, _, passed, ⟨rfl, rfl⟩, rfl⟩, rfl⟩
    exact ⟨left, passed, rfl⟩

theorem repeated_none : a.repeated 0 none = (a.andThen (a.repeated 0 none)).either stay := by
  funext p marks r
  refine propext ⟨?_, ?_⟩
  · rintro ⟨count, _, _, passed⟩
    cases count with
    | zero => exact Or.inr passed
    | succ count =>
      obtain ⟨q, left, left', first, rest, joined⟩ := passed
      exact Or.inl ⟨q, left, left', first, ⟨count, Nat.zero_le _, nofun, rest⟩, joined⟩
  · rintro (⟨q, left, left', first, ⟨count, _, _, rest⟩, joined⟩ | stayed)
    · exact ⟨count + 1, Nat.zero_le _, nofun, q, left, left', first, rest, joined⟩
    · exact ⟨0, Nat.le_refl _, nofun, stayed⟩

theorem repeated_zero : a.repeated 0 (some 0) = stay := by
  funext p marks q
  refine propext ⟨?_, ?_⟩
  · rintro ⟨count, _, most, passed⟩
    obtain rfl : count = 0 := Nat.le_zero.mp (most 0 rfl)
    exact passed
  · intro stayed
    exact ⟨0, Nat.le_refl _, fun _ _ => Nat.zero_le _, stayed⟩

theorem repeated_succ (k : Nat) :
    a.repeated 0 (some (k + 1)) = (a.andThen (a.repeated 0 (some k))).either stay := by
  funext p marks r
  refine propext ⟨?_, ?_⟩
  · rintro ⟨count, _, most, passed⟩
    have fits := most (k + 1) rfl
    cases count with
    | zero => exact Or.inr passed
    | succ count =>
      obtain ⟨q, left, left', first, rest, joined⟩ := passed
      refine Or.inl ⟨q, left, left', first, ⟨count, Nat.zero_le _, ?_, rest⟩, joined⟩
      rintro _ ⟨⟩
      omega
  · rintro (⟨q, left, left', first, ⟨count, _, most, rest⟩, joined⟩ | stayed)
    · have fits := most k rfl
      refine ⟨count + 1, Nat.zero_le _, ?_, q, left, left', first, rest, joined⟩
      rintro _ ⟨⟩
      omega
    · exact ⟨0, Nat.le_refl _, fun _ _ => Nat.zero_le _, stayed⟩

theorem repeated_one : a.repeated 0 (some 1) = a.either stay := by
  rw [repeated_succ, repeated_zero, andThen_stay]

theorem repeated_eq (low : Nat) (high : Option Nat) :
    a.repeated low high = (a.rounds low).andThen (a.repeated 0 (high.map (· - low))) := by
  funext p marks r
  refine propext ⟨?_, ?_⟩
  · rintro ⟨count, least, most, passed⟩
    obtain ⟨more, rfl⟩ := Nat.exists_eq_add_of_le least
    rw [rounds_add] at passed
    obtain ⟨q, left, left', first, rest, joined⟩ := passed
    refine ⟨q, left, left', first, ⟨more, Nat.zero_le _, ?_, rest⟩, joined⟩
    intro bound given
    obtain ⟨high, rfl, rfl⟩ := Option.map_eq_some_iff.mp given
    have := most high rfl
    omega
  · rintro ⟨q, left, left', first, ⟨more, _, most, rest⟩, joined⟩
    refine ⟨low + more, Nat.le_add_right _ _, ?_, ?_⟩
    · rintro high rfl
      have := most (high - low) rfl
      omega
    · rw [rounds_add]
      exact ⟨q, left, left', first, rest, joined⟩

end Passage

-- How greedy a repetition is decides only which passage is preferred.
def passage : Regex → Passage
  | empty => .stay
  | literal first rest => .along (first :: rest)
  | char _ set => .oneOf (set.contains · = true)
  | look assertion => .checked assertion
  | seq a b => a.passage.andThen b.passage
  | alt a b => a.passage.either b.passage
  | repeated low high _ a => a.passage.repeated low high
  | group none a => a.passage
  | group (some name) a => a.passage.named name

theorem contains_single {c d : Char} : (CharSet.single c).contains d = true ↔ d = c := by
  simp only [CharSet.single, CharSet.range, CharSet.contains, Unicode.inSpans, List.any_cons,
    List.any_nil, Bool.or_false, Unicode.Span.contains, Nat.mod_one, beq_self_eq_true,
    Bool.and_true, Bool.and_eq_true, decide_eq_true_eq]
  constructor
  · rintro ⟨low, high⟩
    exact Char.toNat_inj.mp (by omega)
  · rintro rfl
    exact ⟨Nat.le_refl _, Nat.le_refl _⟩

theorem oneOf_single (c : Char) :
    Passage.oneOf ((CharSet.single c).contains · = true) = .along [c] := by
  funext p marks q
  refine propext ⟨?_, ?_⟩
  · rintro ⟨d, member, passed⟩
    obtain rfl := contains_single.mp member
    exact passed
  · intro passed
    exact ⟨c, contains_single.mpr rfl, passed⟩

theorem passage_cons (a b : Regex) : (a.cons b).passage = a.passage.andThen b.passage := by
  fun_cases Regex.cons a b with
  | case1 b => exact (Passage.stay_andThen _).symm
  | case2 a nonempty => exact (Passage.andThen_stay _).symm
  | case3 c cs d ds => exact (Passage.along_andThen (c :: cs) (d :: ds)).symm
  | case4 c cs d ds b =>
    simp only [passage]
    rw [← Passage.andThen_assoc, Passage.along_andThen]
    rfl
  | case5 => rfl

theorem passage_append (a b : Regex) : (a.append b).passage = a.passage.andThen b.passage := by
  fun_induction Regex.append a b with
  | case1 b a rest ih => rw [passage_cons, ih, passage, Passage.andThen_assoc]
  | case2 a b lone => exact passage_cons a b

end RouteTable.Regex
