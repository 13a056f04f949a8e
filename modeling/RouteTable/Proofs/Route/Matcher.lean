import RouteTable.Proofs.Regex.Capture
import RouteTable.Proofs.Regex.Compile
import RouteTable.Proofs.Regex.Search
import RouteTable.Proofs.Template.Reading
import RouteTable.Route.Match

namespace RouteTable.Route

open Regex
open Unicode (foldCase)

def unitsRegex (low : Nat) : Regex := .repeated low none true (.char .unicode unitSet)

def letters (text : Text) : List Regex := text.map (ofVariants .unicode)

def segmentAtoms : Segment → List Regex
  | .literal text => letters text
  | .hole placeholder =>
    if placeholder.optional then
      [.repeated 0 (some 1) true (sequence
        (.group (some placeholder.name) (unitsRegex 0) :: letters placeholder.trailing))]
    else [.group (some placeholder.name) (unitsRegex 1)]

def matcherAtoms (segments : List Segment) : List Regex :=
  .look .textStart :: (bare segments).flatMap segmentAtoms ++
    [.repeated 0 (some 1) true (.literal '/' []), .look .textEnd]

def validatorAtoms : List Regex := [.look .textStart, unitsRegex 1, .look .textEnd]

-- The holes of these segments are held to the default requirement.
def Plain (requirementOf : Placeholder → Text) (segments : List Segment) : Prop :=
  ∀ placeholder ∈ segments.filterMap Segment.placeholder?,
    requirementOf placeholder = defaultRequirement

theorem compiles_units {c : Char} {low : Nat} (allowed : Reader.quantifier c = some (low, none)) :
    Compiles ("(?:".toList ++ defaultRequirement ++ [')', c]) [] [unitsRegex low] :=
  Compiles.units.repeated allowed rfl

theorem compiles_validator :
    Compiles (Requirement.wholeValue defaultRequirement) [] validatorAtoms := by
  have units := compiles_units (c := '+') rfl
  exact (Compiles.caret.append units nofun).append .dollar nofun

theorem compiles_required {name : Text} (valid : Reader.IsGroupName name) :
    Compiles ("(?P<".toList ++ name ++ ">(?:".toList ++ defaultRequirement ++ ")+)".toList) [name]
      [.group (some name) (unitsRegex 1)] := by
  have units := compiles_units (c := '+') rfl
  have group : Compiles _ [name] [.group (some name) (unitsRegex 1)] :=
    units.captured valid List.not_mem_nil
  simpa using group

theorem compiles_optional {name : Text} (trailing : Text) (valid : Reader.IsGroupName name) :
    Compiles ("(?:".toList ++
        ("(?P<".toList ++ name ++ ">(?:".toList ++ defaultRequirement) ++ ")*)".toList ++
        escape trailing ++ ")?".toList) [name]
      [.repeated 0 (some 1) true (sequence
        (.group (some name) (unitsRegex 0) :: letters trailing))] := by
  have units := compiles_units (c := '*') rfl
  have value : Compiles _ [name] [.group (some name) (unitsRegex 0)] :=
    units.captured valid List.not_mem_nil
  have inside := value.append (.escaped trailing) nofun
  have substantial : (sequence (.group (some name) (unitsRegex 0) :: letters trailing)
      ).matchesOnlyEmpty = false :=
    matchesOnlyEmpty_sequence inside.atom
  simpa [letters] using inside.repeated (c := '?') rfl substantial

theorem compiles_segment {requirementOf : Placeholder → Text} {segment : Segment} (isLast : Bool)
    (plain : Plain requirementOf [segment])
    (valid : ∀ name ∈ holeNames [segment], Reader.IsGroupName name) :
    Compiles (segmentPattern requirementOf isLast segment) (holeNames [segment])
      (segmentAtoms (if isLast then segment.strip else segment)) := by
  cases segment with
  | literal text => cases isLast <;> exact Compiles.escaped _
  | hole placeholder =>
    have unit := plain placeholder List.mem_cons_self
    have named := valid placeholder.name List.mem_cons_self
    change Compiles _ [placeholder.name] _
    unfold segmentPattern
    simp only [unit]
    cases optional : placeholder.optional with
    | true =>
      have compiled (trailing : Text) := compiles_optional trailing named
      cases isLast <;> simpa [segmentAtoms, Segment.strip, optional] using compiled _
    | false =>
      have compiled := compiles_required named
      cases isLast <;> simpa [segmentAtoms, Segment.strip, optional] using compiled

theorem compiles_segments {requirementOf : Placeholder → Text} {segments : List Segment}
    (plain : Plain requirementOf segments)
    (valid : ∀ name ∈ holeNames segments, Reader.IsGroupName name)
    (distinct : (holeNames segments).Nodup) :
    Compiles (segmentsPattern requirementOf segments) (holeNames segments)
      ((bare segments).flatMap segmentAtoms) := by
  induction segments using bare.induct with
  | case1 => exact .nil
  | case2 last =>
    have alone : (bare [last]).flatMap segmentAtoms = segmentAtoms last.strip := by simp [bare]
    rw [alone]
    exact compiles_segment true plain valid
  | case3 segment rest several ih =>
    have names : holeNames (segment :: rest) = holeNames [segment] ++ holeNames rest := by
      cases segment <;> rfl
    rw [names] at valid distinct
    have holes : (segment :: rest).filterMap Segment.placeholder? =
        [segment].filterMap Segment.placeholder? ++ rest.filterMap Segment.placeholder? := by
      cases segment <;> rfl
    rw [Plain, holes] at plain
    obtain ⟨_, distinctRest, apart⟩ := List.nodup_append.mp distinct
    have first := compiles_segment false (fun p member => plain p (List.mem_append_left _ member))
      fun name member => valid name (List.mem_append_left _ member)
    have later := ih (fun p member => plain p (List.mem_append_right _ member))
      (fun name member => valid name (List.mem_append_right _ member)) distinctRest
    rw [segmentsPattern, bare, names, List.flatMap_cons]
    · exact first.append later fun name member both => apart name member name both rfl
    · exact several
    · exact several

theorem compiles_matcher {requirementOf : Placeholder → Text} {segments : List Segment}
    (plain : Plain requirementOf segments)
    (valid : ∀ name ∈ holeNames segments, Reader.IsGroupName name)
    (distinct : (holeNames segments).Nodup) :
    Compiles (matcherPattern requirementOf segments) (holeNames segments)
      (matcherAtoms segments) := by
  have body := compiles_segments plain valid distinct
  have ending := Compiles.optionalSlash.append .dollar nofun
  simpa [matcherPattern, matcherAtoms] using
    (Compiles.caret.append body nofun).append ending (by simp)

theorem passage_letters {text : Text} {p q : Place} {marks : List Mark} :
    (sequence (letters text)).passage p marks q ↔
      marks = [] ∧ ∃ piece, Alike piece text ∧ p.Moves piece q := by
  induction text generalizing p marks q with
  | nil =>
    constructor
    · rintro ⟨rfl, rfl⟩
      exact ⟨rfl, [], rfl, Place.moves_nil.mpr rfl⟩
    · rintro ⟨rfl, piece, alike, moves⟩
      obtain rfl : piece = [] := by simpa [Alike] using alike
      exact ⟨rfl, Place.moves_nil.mp moves⟩
  | cons c text ih =>
    have unrolled : (sequence (letters (c :: text))).passage =
        (Passage.oneOf fun d => foldCase d = foldCase c).andThen
          (sequence (letters text)).passage := by
      rw [← passage_ofVariants, ← passage_append]
      rfl
    rw [unrolled]
    constructor
    · rintro ⟨middle, left, left', ⟨d, alike, rfl, first⟩, later, rfl⟩
      obtain ⟨rfl, piece, alikes, moves⟩ := ih.mp later
      exact ⟨rfl, d :: piece, by simpa [Alike] using ⟨alike, alikes⟩, first.trans moves⟩
    · rintro ⟨rfl, piece, alike, moves⟩
      cases piece with
      | nil => cases alike
      | cons d piece =>
        simp only [Alike, List.map_cons, List.cons.injEq] at alike
        obtain ⟨middle, first, rest⟩ := moves.split (s := [d])
        exact ⟨middle, [], [], ⟨d, alike.1, rfl, first⟩, ih.mpr ⟨rfl, piece, alike.2, rest⟩, rfl⟩

-- The marks that a value leaves, from the place where it starts.
def valueMarks (name value : Text) (start : Nat) : List Mark :=
  [.leave name (start + value.length), .enter name start]

theorem passage_named {name : Text} {low : Nat} {set : Unicode.CharSet} {p q : Place}
    {marks : List Mark} :
    (Regex.group (some name) (.repeated low none true (.char .unicode set))).passage p marks q ↔
      ∃ value, low ≤ value.length ∧ (∀ c ∈ value, set.contains c = true) ∧ p.Moves value q ∧
        marks = valueMarks name value p.past.length := by
  constructor
  · rintro ⟨left, passed, rfl⟩
    obtain ⟨rfl, value, least, each, moves⟩ := Passage.repeated_oneOf.mp passed
    refine ⟨value, least, each, moves, ?_⟩
    rw [moves.2, List.length_append]
    rfl
  · rintro ⟨value, least, each, moves, rfl⟩
    refine ⟨[], Passage.repeated_oneOf.mpr ⟨rfl, value, least, each, moves⟩, ?_⟩
    rw [moves.2, List.length_append]
    rfl

theorem passage_value {name : Text} {low : Nat} {p q : Place} {marks : List Mark} :
    (Regex.group (some name) (unitsRegex low)).passage p marks q ↔
      ∃ value, low ≤ value.length ∧ (∀ c ∈ value, UnitChar c) ∧ p.Moves value q ∧
        marks = valueMarks name value p.past.length := by
  refine passage_named.trans ?_
  simp only [contains_unitSet]

def spellingMarks (start : Nat) : Segment → List (Option Text) → List Mark
  | .hole placeholder, [some value] => valueMarks placeholder.name value start
  | _, _ => []

theorem passage_segment {segment : Segment} {p q : Place} {marks : List Mark} :
    (sequence (segmentAtoms segment)).passage p marks q ↔
      ∃ values piece, Spelling segment values piece ∧ p.Moves piece q ∧
        marks = spellingMarks p.past.length segment values := by
  cases segment with
  | literal text =>
    refine passage_letters.trans ⟨?_, ?_⟩
    · rintro ⟨rfl, piece, alike, moves⟩
      exact ⟨[], piece, .literal alike, moves, rfl⟩
    · rintro ⟨_, piece, ⟨alike⟩, moves, rfl⟩
      exact ⟨rfl, piece, alike, moves⟩
  | hole placeholder =>
    cases optional : placeholder.optional with
    | false =>
      have atoms : sequence (segmentAtoms (.hole placeholder)) =
          .group (some placeholder.name) (unitsRegex 1) := by
        simp only [segmentAtoms, optional]
        rfl
      rw [atoms, passage_value]
      constructor
      · rintro ⟨value, least, units, moves, rfl⟩
        refine ⟨[some value], value, .required optional ?_ units, moves, rfl⟩
        exact List.ne_nil_of_length_pos least
      · rintro ⟨values, piece, spelling, moves, rfl⟩
        cases spelling with
        | required _ nonempty units =>
          exact ⟨piece, List.length_pos_iff.mpr nonempty, units, moves, rfl⟩
        | absent given => rw [optional] at given; cases given
        | present given => rw [optional] at given; cases given
    | true =>
      -- An optional hole is passed together with its trailing text, or not at all.
      have atoms : (sequence (segmentAtoms (.hole placeholder))).passage =
          ((Regex.group (some placeholder.name) (unitsRegex 0)).passage.andThen
            (sequence (letters placeholder.trailing)).passage).either .stay := by
        rw [← passage_append, ← Passage.repeated_one]
        simp only [segmentAtoms, optional]
        rfl
      rw [atoms]
      constructor
      · rintro (⟨middle, left, left', first, later, rfl⟩ | ⟨rfl, rfl⟩)
        · obtain ⟨value, _, units, moves, rfl⟩ := passage_value.mp first
          obtain ⟨rfl, spelled, alike, further⟩ := passage_letters.mp later
          exact ⟨[some value], value ++ spelled, .present optional units alike,
            moves.trans further, rfl⟩
        · exact ⟨[none], [], .absent optional, Place.moves_nil.mpr rfl, rfl⟩
      · rintro ⟨values, piece, spelling, moves, rfl⟩
        cases spelling with
        | required given => rw [optional] at given; cases given
        | absent => exact Or.inr ⟨rfl, Place.moves_nil.mp moves⟩
        | present _ units alike =>
          obtain ⟨middle, first, further⟩ := moves.split
          exact Or.inl ⟨middle, _, [], passage_value.mpr ⟨_, Nat.zero_le _, units, first, rfl⟩,
            passage_letters.mpr ⟨rfl, _, alike, further⟩, rfl⟩

variable {path name : Text} {marks earlier : List Mark}

theorem captured_value {past value rest : Text} (whole : path = past ++ (value ++ rest)) :
    captured? path (valueMarks name value past.length) name = some value := by
  simp [captured?, valueMarks, whole]

theorem captured_spelling {segment : Segment} {values : List (Option Text)} {piece : Text}
    {p q : Place} (spelling : Spelling segment values piece) (moves : p.Moves piece q) :
    (∀ mark ∈ spellingMarks p.past.length segment values, markName mark ∈ holeNames [segment]) ∧
      (holeNames [segment]).map
        (captured? p.text (spellingMarks p.past.length segment values)) = values := by
  have whole : p.text = p.past ++ (piece ++ q.rest) := by rw [Place.text, moves.1]
  cases spelling with
  | literal => exact ⟨by simp [spellingMarks], rfl⟩
  | absent => exact ⟨by simp [spellingMarks], rfl⟩
  | @required placeholder =>
    refine ⟨?_, congrArg (fun value => [value]) (captured_value whole)⟩
    simp [spellingMarks, valueMarks, markName, holeNames, Segment.placeholder?]
  | @present placeholder =>
    rw [List.append_assoc] at whole
    refine ⟨?_, congrArg (fun value => [value]) (captured_value whole)⟩
    simp [spellingMarks, valueMarks, markName, holeNames, Segment.placeholder?]

theorem holeNames_cons (segment : Segment) (rest : List Segment) :
    holeNames (segment :: rest) = holeNames [segment] ++ holeNames rest := by
  cases segment <;> rfl

theorem reading_of_passage {segments : List Segment} {p q : Place}
    (distinct : (holeNames segments).Nodup)
    (passed : (sequence (segments.flatMap segmentAtoms)).passage p marks q) :
    ∃ values piece, Reading segments values piece ∧ p.Moves piece q ∧
      (∀ mark ∈ marks, markName mark ∈ holeNames segments) ∧
      (holeNames segments).map (captured? p.text marks) = values := by
  induction segments generalizing p marks with
  | nil =>
    obtain ⟨rfl, rfl⟩ := passed
    exact ⟨[], [], .nil, Place.moves_nil.mpr rfl, nofun, rfl⟩
  | cons segment rest ih =>
    rw [holeNames_cons] at distinct
    obtain ⟨_, distinctRest, apart⟩ := List.nodup_append.mp distinct
    rw [List.flatMap_cons, passage_sequence_append] at passed
    obtain ⟨middle, left, left', first, later, rfl⟩ := passed
    obtain ⟨values, piece, spelling, moves, rfl⟩ := passage_segment.mp first
    obtain ⟨ownMarks, ownValues⟩ := captured_spelling spelling moves
    obtain ⟨values', piece', reading, moves', named, captures⟩ := ih distinctRest later
    rw [moves.text_eq] at captures
    refine ⟨values ++ values', piece ++ piece', .cons spelling reading, moves.trans moves', ?_, ?_⟩
    · intro mark member
      rw [holeNames_cons]
      rcases List.mem_append.mp member with late | early
      · exact List.mem_append_right _ (named mark late)
      · exact List.mem_append_left _ (ownMarks mark early)
    · -- A name is either that of the first segment or one of the rest, and so are its marks.
      have own : ∀ name ∈ holeNames [segment],
          captured? p.text (left' ++ spellingMarks p.past.length segment values) name =
            captured? p.text (spellingMarks p.past.length segment values) name :=
        fun name member => captured_of_later fun mark late same =>
          apart name member _ (named mark late) same.symm
      have others : ∀ name ∈ holeNames rest,
          captured? p.text (left' ++ spellingMarks p.past.length segment values) name =
            captured? p.text left' name :=
        fun name member => captured_of_earlier fun mark early same =>
          apart _ (ownMarks mark early) name member same
      rw [holeNames_cons, List.map_append, List.map_congr_left own, List.map_congr_left others,
        ownValues, captures]

theorem passage_of_reading {segments : List Segment} {values : List (Option Text)} {piece : Text}
    {p q : Place} (reading : Reading segments values piece) (moves : p.Moves piece q) :
    ∃ marks, (sequence (segments.flatMap segmentAtoms)).passage p marks q := by
  induction reading generalizing p with
  | nil => exact ⟨[], rfl, Place.moves_nil.mp moves⟩
  | cons spelling reading ih =>
    obtain ⟨middle, first, later⟩ := moves.split
    obtain ⟨marks, passed⟩ := ih later
    rw [List.flatMap_cons, passage_sequence_append]
    exact ⟨_, middle, _, marks, passage_segment.mpr ⟨_, _, spelling, first, rfl⟩, passed, rfl⟩

-- From one end of a path to the other, with a slash that may be left at the end.
def endedAtoms (body : List Regex) : List Regex :=
  .look .textStart :: body ++ [.repeated 0 (some 1) true (.literal '/' []), .look .textEnd]

theorem passage_ended {body : List Regex} {p q : Place} :
    (sequence (endedAtoms body)).passage p marks q ↔
      p.past = [] ∧ q.rest = [] ∧ ∃ middle, (sequence body).passage p marks middle ∧
        (q = middle ∨ middle.Moves ['/'] q) := by
  have parts : (sequence (endedAtoms body)).passage =
      ((Passage.checked .textStart).andThen (sequence body).passage).andThen
        (((Passage.along ['/']).either .stay).andThen (.checked .textEnd)) := by
    rw [← Passage.repeated_one, endedAtoms, passage_sequence_append, ← List.singleton_append,
      passage_sequence_append]
    rfl
  rw [parts]
  constructor
  · rintro ⟨middle, _, _, ⟨first, _, left, ⟨start, rfl, rfl⟩, passed, rfl⟩,
      ⟨last, _, _, ending, ⟨finish, rfl, rfl⟩, rfl⟩, rfl⟩
    have began : first.past = [] := by simpa [Look.holds] using start
    have ended : q.rest = [] := by simpa [Look.holds] using finish
    rcases ending with ⟨rfl, slash⟩ | ⟨rfl, same⟩
    · exact ⟨began, ended, middle, by simpa using passed, Or.inr slash⟩
    · exact ⟨began, ended, middle, by simpa using passed, Or.inl same⟩
  · rintro ⟨began, ended, middle, passed, ending⟩
    have start : Passage.checked .textStart p [] p := ⟨by simp [Look.holds, began], rfl, rfl⟩
    have finish : Passage.checked .textEnd q [] q := ⟨by simp [Look.holds, ended], rfl, rfl⟩
    have final : ((Passage.along ['/']).either .stay) middle [] q :=
      ending.elim (fun same => Or.inr ⟨rfl, same⟩) fun slash => Or.inl ⟨rfl, slash⟩
    exact ⟨middle, marks, [], ⟨p, [], marks, start, passed, by simp⟩,
      ⟨q, [], [], final, finish, rfl⟩, rfl⟩

theorem reading_of_search {segments : List Segment} (distinct : (holeNames segments).Nodup)
    (found : (sequence (matcherAtoms segments)).search path = some marks) :
    ∃ values text, Slashed text path ∧ Reading (bare segments) values text ∧
      (holeNames segments).map (captured? path marks) = values := by
  obtain ⟨p, q, rfl, passed⟩ := search_sound found
  obtain ⟨start, finish, middle, passed, ending⟩ := passage_ended.mp passed
  rw [← holeNames_bare] at distinct ⊢
  obtain ⟨values, text, reading, moves, _, captures⟩ := reading_of_passage distinct passed
  refine ⟨values, text, ?_, reading, captures⟩
  rw [Place.text, start, moves.1, List.nil_append]
  rcases ending with rfl | slash
  · exact Or.inl (by rw [finish, List.append_nil])
  · exact Or.inr (by rw [slash.1, finish, List.append_nil])

theorem search_of_reading {segments : List Segment} {values : List (Option Text)} {text : Text}
    (slashed : Slashed text path) (reading : Reading (bare segments) values text) :
    ((sequence (matcherAtoms segments)).search path).isSome = true := by
  rcases slashed with rfl | rfl
  · have moves : Place.Moves ⟨[], path⟩ path ⟨path, []⟩ := ⟨by simp, by simp⟩
    obtain ⟨marks, passed⟩ := passage_of_reading reading moves
    exact search_complete rfl (passage_ended.mpr ⟨rfl, rfl, _, passed, Or.inl rfl⟩)
  · have moves : Place.Moves ⟨[], text ++ ['/']⟩ text ⟨text, ['/']⟩ := ⟨rfl, by simp⟩
    have slash : Place.Moves ⟨text, ['/']⟩ ['/'] ⟨text ++ ['/'], []⟩ := ⟨rfl, rfl⟩
    obtain ⟨marks, passed⟩ := passage_of_reading reading moves
    exact search_complete rfl (passage_ended.mpr ⟨rfl, rfl, _, passed, Or.inr slash⟩)

end RouteTable.Route
