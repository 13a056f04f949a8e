import RouteTable.Proofs.Regex.Uses

namespace RouteTable.Regex

variable {path name : Text} {marks earlier : List Mark} {r : Regex} {p q : Place}

theorem rounds_induction {good a : Passage} (stay : ∀ p, good p [] p)
    (trans : ∀ p q s left left', good p left q → good q left' s → good p (left' ++ left) s)
    (each : ∀ p marks q, a p marks q → good p marks q) {count : Nat}
    (passed : a.rounds count p marks q) : good p marks q := by
  induction count generalizing p marks with
  | zero =>
    obtain ⟨rfl, rfl⟩ := passed
    exact stay _
  | succ count ih =>
    obtain ⟨middle, left, left', first, rest, rfl⟩ := passed
    exact trans _ _ _ _ _ (each _ _ _ first) (ih rest)

-- Pieces of text, ways one after another and groups: there is nothing else in a passage.
theorem passage_induction (good : Passage) {group : Text → Regex → Prop}
    (along : ∀ p piece q, p.Moves piece q → good p [] q)
    (trans : ∀ p q s left left', good p left q → good q left' s → good p (left' ++ left) s)
    (named : ∀ key body p left q, group key body → body.passage p left q → good p left q →
      good p (.leave key q.past.length :: (left ++ [.enter key p.past.length])) q)
    (uses : r.Uses (fun _ => True) group) (passed : r.passage p marks q) : good p marks q := by
  have stay (p : Place) : good p [] p := along p [] p (Place.moves_nil.mpr rfl)
  induction r generalizing p marks q with
  | empty =>
    obtain ⟨rfl, rfl⟩ := passed
    exact stay _
  | literal c rest =>
    obtain ⟨rfl, moves⟩ := passed
    exact along _ _ _ moves
  | char alphabet set =>
    obtain ⟨c, _, rfl, moves⟩ := passed
    exact along _ _ _ moves
  | look assertion =>
    obtain ⟨_, rfl, rfl⟩ := passed
    exact stay _
  | seq a b ihA ihB =>
    obtain ⟨middle, left, left', first, later, rfl⟩ := passed
    exact trans _ _ _ _ _ (ihA uses.1 first) (ihB uses.2 later)
  | alt a b ihA ihB => exact passed.elim (ihA uses.1) (ihB uses.2)
  | repeated low high greedy a ih =>
    obtain ⟨count, _, _, rounds⟩ := passed
    exact rounds_induction stay trans (fun p marks q round => ih uses round) rounds
  | group key a ih =>
    cases key with
    | none => exact ih uses passed
    | some key =>
      obtain ⟨left, inside, rfl⟩ := passed
      exact named key a _ left _ uses.1 inside (ih uses.2 inside)

theorem uses_all (r : Regex) : r.Uses (fun _ => True) fun _ _ => True := by
  induction r with
  | empty | literal | char | look => trivial
  | seq a b ihA ihB | alt a b ihA ihB => exact ⟨ihA, ihB⟩
  | repeated _ _ _ a ih => exact ih
  | group key a ih =>
    cases key with
    | none => exact ih
    | some key => exact ⟨trivial, ih⟩

theorem moves_of_passage (passed : r.passage p marks q) : ∃ piece, p.Moves piece q := by
  refine passage_induction (fun p _ q => ∃ piece, p.Moves piece q) ?_ ?_ ?_ (uses_all r) passed
  · intro p piece q moves
    exact ⟨piece, moves⟩
  · rintro p q s left left' ⟨first, moves⟩ ⟨later, moves'⟩
    exact ⟨first ++ later, moves.trans moves'⟩
  · intro key body p left q _ _ moves
    exact moves

theorem moves_of_rounds {count : Nat} (rounds : r.passage.rounds count p marks q) :
    ∃ piece, p.Moves piece q := by
  induction count generalizing p marks with
  | zero => exact ⟨[], Place.moves_nil.mpr rounds.2⟩
  | succ count ih =>
    obtain ⟨middle, _, _, first, rest, _⟩ := rounds
    obtain ⟨piece, moves⟩ := moves_of_passage first
    obtain ⟨piece', moves'⟩ := ih rest
    exact ⟨piece ++ piece', moves.trans moves'⟩

def markName : Mark → Text
  | .enter name _ | .leave name _ => name

def entered? (name : Text) : Mark → Option Nat
  | .enter key position => if key = name then some position else none
  | .leave _ _ => none

def left? (name : Text) : Mark → Option Nat
  | .leave key position => if key = name then some position else none
  | .enter _ _ => none

theorem captured_eq : captured? path marks name =
    (marks.findSome? (entered? name)).bind fun start =>
      (marks.findSome? (left? name)).map fun stop => (path.drop start).take (stop - start) := by
  unfold captured?
  change (marks.findSome? (entered? name)).bind (fun start =>
    (marks.findSome? (left? name)).bind fun stop => some _) = _
  simp only [Option.map_eq_bind]
  rfl

theorem findSome_foreign (foreign : ∀ mark ∈ marks, markName mark ≠ name) :
    marks.findSome? (entered? name) = none ∧ marks.findSome? (left? name) = none := by
  constructor <;> refine List.findSome?_eq_none_iff.mpr fun mark member => ?_
  · cases mark with
    | enter key position => exact if_neg (foreign _ member)
    | leave key position => rfl
  · cases mark with
    | enter key position => rfl
    | leave key position => exact if_neg (foreign _ member)

theorem captured_of_later (foreign : ∀ mark ∈ marks, markName mark ≠ name) :
    captured? path (marks ++ earlier) name = captured? path earlier name := by
  obtain ⟨entered, left⟩ := findSome_foreign foreign
  rw [captured_eq, captured_eq, List.findSome?_append, List.findSome?_append, entered, left,
    Option.none_or, Option.none_or]

theorem captured_of_earlier (foreign : ∀ mark ∈ earlier, markName mark ≠ name) :
    captured? path (marks ++ earlier) name = captured? path marks name := by
  obtain ⟨entered, left⟩ := findSome_foreign foreign
  rw [captured_eq, captured_eq, List.findSome?_append, List.findSome?_append, entered, left,
    Option.or_none, Option.or_none]

theorem names_of_passage {names : Text → Prop} (uses : r.Uses (fun _ => True) fun key _ => names key)
    (passed : r.passage p marks q) : ∀ mark ∈ marks, names (markName mark) := by
  refine passage_induction (fun _ marks _ => ∀ mark ∈ marks, names (markName mark)) ?_ ?_ ?_ uses
    passed
  · intro p piece q _
    nofun
  · intro p q s left left' first later
    exact List.forall_mem_append.mpr ⟨later, first⟩
  · intro key body p left q known _ inside
    refine List.forall_mem_cons.mpr ⟨known, List.forall_mem_append.mpr ⟨inside, ?_⟩⟩
    exact List.forall_mem_singleton.mpr known

theorem captured_named (passed : r.passage.named name p marks q)
    (inner : r.Uses (fun _ => True) fun key _ => key ≠ name) :
    ∃ left value, r.passage p left q ∧ p.Moves value q ∧
      captured? p.text marks name = some value := by
  obtain ⟨left, inside, rfl⟩ := passed
  obtain ⟨value, moves⟩ := moves_of_passage inside
  refine ⟨left, value, inside, moves, ?_⟩
  obtain ⟨entered, _⟩ := findSome_foreign (names_of_passage inner inside)
  have start : (.leave name q.past.length :: (left ++ [.enter name p.past.length])
      ).findSome? (entered? name) = some p.past.length := by
    change (left ++ [Mark.enter name p.past.length]).findSome? (entered? name) = _
    rw [List.findSome?_append, entered, Option.none_or]
    simp [entered?]
  have stop : (.leave name q.past.length :: (left ++ [.enter name p.past.length])
      ).findSome? (left? name) = some q.past.length := by
    simp [left?]
  -- The places delimit the piece.
  have between : (p.text.drop p.past.length).take (q.past.length - p.past.length) = value := by
    rw [Place.text, moves.1, moves.2, List.drop_left, List.length_append, Nat.add_sub_cancel_left,
      List.take_left]
  rw [captured_eq, start, stop, Option.bind_some, Option.map_some, between]

-- Only the piece between the two places matters.
def Passage.Anywhere (a : Passage) : Prop := ∀ p marks q, a p marks q →
  ∃ piece, p.Moves piece q ∧ ∀ p' q', p'.Moves piece q' → ∃ marks', a p' marks' q'

namespace Passage.Anywhere

variable {a b : Passage}

theorem stay : Passage.stay.Anywhere := by
  rintro p marks q ⟨rfl, rfl⟩
  exact ⟨[], Place.moves_nil.mpr rfl, fun p' q' moves => ⟨[], rfl, Place.moves_nil.mp moves⟩⟩

theorem along (piece : Text) : (Passage.along piece).Anywhere := by
  rintro p marks q ⟨rfl, moves⟩
  exact ⟨piece, moves, fun p' q' moves => ⟨[], rfl, moves⟩⟩

theorem andThen (first : a.Anywhere) (later : b.Anywhere) : (a.andThen b).Anywhere := by
  rintro p marks s ⟨q, left, left', passed, passed', rfl⟩
  obtain ⟨piece, moves, again⟩ := first _ _ _ passed
  obtain ⟨piece', moves', again'⟩ := later _ _ _ passed'
  refine ⟨piece ++ piece', moves.trans moves', fun p' s' both => ?_⟩
  obtain ⟨q', here, there⟩ := both.split
  obtain ⟨left, passed⟩ := again _ _ here
  obtain ⟨left', passed'⟩ := again' _ _ there
  exact ⟨_, q', left, left', passed, passed', rfl⟩

theorem rounds (each : a.Anywhere) (count : Nat) : (a.rounds count).Anywhere := by
  induction count with
  | zero => exact stay
  | succ count ih => exact each.andThen ih

end Passage.Anywhere

-- The whole of a text is passed.
def Passage.Takes (a : Passage) (text : Text) : Prop := ∃ marks, a ⟨[], text⟩ marks ⟨text, []⟩

namespace Passage.Anywhere

variable {a b : Passage} {text piece : Text}

theorem takes_iff (anywhere : a.Anywhere) (moves : p.Moves piece q) :
    a.Takes piece ↔ ∃ marks, a p marks q := by
  constructor
  · rintro ⟨marks, passed⟩
    obtain ⟨piece', moves', again⟩ := anywhere _ _ _ passed
    obtain rfl : piece' = piece := moves'.unique ⟨by simp, by simp⟩
    exact again p q moves
  · rintro ⟨marks, passed⟩
    obtain ⟨piece', moves', again⟩ := anywhere _ _ _ passed
    obtain rfl : piece' = piece := moves'.unique moves
    exact again _ _ ⟨by simp, by simp⟩

theorem takes_andThen (first : a.Anywhere) (later : b.Anywhere) :
    (a.andThen b).Takes text ↔ ∃ s t, text = s ++ t ∧ a.Takes s ∧ b.Takes t := by
  constructor
  · rintro ⟨_, q, left, left', passed, passed', rfl⟩
    obtain ⟨s, moves, _⟩ := first _ _ _ passed
    obtain ⟨t, moves', _⟩ := later _ _ _ passed'
    refine ⟨s, t, ?_, (first.takes_iff moves).mpr ⟨_, passed⟩,
      (later.takes_iff moves').mpr ⟨_, passed'⟩⟩
    simpa using (moves.trans moves').1
  · rintro ⟨s, t, rfl, taken, taken'⟩
    have moves : Place.Moves ⟨[], s ++ t⟩ s ⟨s, t⟩ := ⟨rfl, rfl⟩
    have moves' : Place.Moves ⟨s, t⟩ t ⟨s ++ t, []⟩ := ⟨by simp, rfl⟩
    obtain ⟨left, passed⟩ := (first.takes_iff moves).mp taken
    obtain ⟨left', passed'⟩ := (later.takes_iff moves').mp taken'
    exact ⟨_, _, left, left', passed, passed', rfl⟩

theorem takes_rounds (each : a.Anywhere) {count : Nat} :
    (a.rounds count).Takes text ↔
      ∃ pieces : List Text, pieces.length = count ∧ text = pieces.flatten ∧
        ∀ piece ∈ pieces, a.Takes piece := by
  induction count generalizing text with
  | zero =>
    constructor
    · rintro ⟨_, _, same⟩
      obtain rfl : text = [] := congrArg Place.past same
      exact ⟨[], rfl, rfl, nofun⟩
    · rintro ⟨pieces, none, rfl, _⟩
      rw [List.length_eq_zero_iff.mp none]
      exact ⟨[], rfl, rfl⟩
  | succ count ih =>
    rw [Passage.rounds, each.takes_andThen (each.rounds count)]
    constructor
    · rintro ⟨s, t, rfl, first, rest⟩
      obtain ⟨pieces, rfl, rfl, others⟩ := ih.mp rest
      exact ⟨s :: pieces, rfl, rfl, List.forall_mem_cons.mpr ⟨first, others⟩⟩
    · rintro ⟨pieces, many, rfl, all⟩
      cases pieces with
      | nil => cases many
      | cons s pieces =>
        obtain ⟨first, others⟩ := List.forall_mem_cons.mp all
        exact ⟨s, pieces.flatten, rfl, first,
          ih.mpr ⟨pieces, Nat.succ.inj many, rfl, others⟩⟩

end Passage.Anywhere

theorem anywhere_of_uses {group : Text → Regex → Prop} (uses : r.Uses (fun _ => False) group) :
    r.passage.Anywhere := by
  induction r with
  | empty => exact .stay
  | literal c rest => exact .along _
  | char alphabet set =>
    rintro p marks q ⟨c, member, passed⟩
    obtain ⟨piece, moves, again⟩ := Passage.Anywhere.along [c] _ _ _ passed
    refine ⟨piece, moves, fun p' q' moves => ?_⟩
    obtain ⟨marks', passed⟩ := again p' q' moves
    exact ⟨marks', c, member, passed⟩
  -- Only an assertion looks at what stands around the piece.
  | look assertion => exact uses.elim
  | seq a b ihA ihB => exact (ihA uses.1).andThen (ihB uses.2)
  | alt a b ihA ihB =>
    rintro p marks q (passed | passed)
    · obtain ⟨piece, moves, again⟩ := ihA uses.1 _ _ _ passed
      refine ⟨piece, moves, fun p' q' moves => ?_⟩
      obtain ⟨marks', passed⟩ := again p' q' moves
      exact ⟨marks', Or.inl passed⟩
    · obtain ⟨piece, moves, again⟩ := ihB uses.2 _ _ _ passed
      refine ⟨piece, moves, fun p' q' moves => ?_⟩
      obtain ⟨marks', passed⟩ := again p' q' moves
      exact ⟨marks', Or.inr passed⟩
  | repeated low high greedy a ih =>
    rintro p marks q ⟨count, least, most, rounds⟩
    obtain ⟨piece, moves, again⟩ := (ih uses).rounds count _ _ _ rounds
    refine ⟨piece, moves, fun p' q' moves => ?_⟩
    obtain ⟨marks', rounds⟩ := again p' q' moves
    exact ⟨marks', count, least, most, rounds⟩
  | group key a ih =>
    cases key with
    | none => exact ih uses
    | some key =>
      rintro p marks q ⟨left, inside, rfl⟩
      obtain ⟨piece, moves, again⟩ := ih uses.2 _ _ _ inside
      refine ⟨piece, moves, fun p' q' moves => ?_⟩
      obtain ⟨left', inside⟩ := again p' q' moves
      exact ⟨_, left', inside, rfl⟩

theorem stays_of_matchesOnlyEmpty (only : r.matchesOnlyEmpty = true) (passed : r.passage p marks q) :
    q = p := by
  induction r generalizing p marks q with
  | empty => exact passed.2
  | literal | char => cases only
  | look => exact passed.2.2
  | seq a b ihA ihB =>
    obtain ⟨onlyA, onlyB⟩ := Bool.and_eq_true_iff.mp only
    obtain ⟨middle, _, _, first, later, _⟩ := passed
    exact (ihB onlyB later).trans (ihA onlyA first)
  | alt a b ihA ihB =>
    obtain ⟨onlyA, onlyB⟩ := Bool.and_eq_true_iff.mp only
    exact passed.elim (ihA onlyA) (ihB onlyB)
  | repeated low high greedy a ih =>
    obtain ⟨count, _, _, rounds⟩ := passed
    have each : ∀ p marks q, a.passage p marks q → q = p := fun _ _ _ round => ih only round
    exact rounds_induction (fun _ => rfl) (fun _ _ _ _ _ first later => later.trans first) each
      rounds
  | group key a ih =>
    cases key with
    | none => exact ih only passed
    | some key =>
      obtain ⟨left, inside, _⟩ := passed
      exact ih only inside

end RouteTable.Regex
