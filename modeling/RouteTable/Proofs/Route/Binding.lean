import RouteTable.Proofs.Route.Agreement

namespace RouteTable.Route

open Regex

variable {route : Route} {hole : Hole} {path : Text} {marks : List Mark}
  {unitOf : Text → Regex} {innerOf : Text → List Text}
  {before after : List Segment} {placeholder : Placeholder}

theorem rounds_advance {r : Regex} {p q : Place} (never : ∀ p marks, ¬r.passage p marks p)
    {count : Nat} (least : 1 ≤ count) (rounds : r.passage.rounds count p marks q) : q ≠ p := by
  obtain ⟨count, rfl⟩ := Nat.exists_eq_add_of_le' least
  obtain ⟨middle, left, _, first, rest, _⟩ := rounds
  rintro rfl
  obtain ⟨piece, moves⟩ := moves_of_passage first
  obtain ⟨piece', moves'⟩ := moves_of_rounds rest
  have nothing : piece ++ piece' = [] := (moves.trans moves').unique (Place.moves_nil.mpr rfl)
  rw [(List.append_eq_nil_iff.mp nothing).1] at moves
  obtain rfl := Place.moves_nil.mp moves
  exact never _ _ first

theorem Woven.Cut.required (cut : Woven.Cut route innerOf hole before placeholder after)
    (woven : Woven route unitOf innerOf) (listed : hole ∈ route.holes)
    (required : hole.placeholder.optional = false) {a b : Place}
    (here : holePassage unitOf placeholder a marks b) :
    ∃ count left value, 1 ≤ count ∧
      (unitOf hole.placeholder.name).passage.rounds count a left b ∧ a.Moves value b ∧
      captured? a.text marks hole.placeholder.name = some value := by
  obtain ⟨ast, _, _, meant⟩ := (woven.holes hole listed).own
  rcases cut.value woven here with ⟨optional, _⟩ | ⟨left, value, _, moves, passed, captured, same⟩
  · rw [required] at optional
    cases optional
  · obtain rfl := same required
    rw [required] at passed
    obtain ⟨count, least, rounds⟩ := rounds_of_units (Nat.le_refl 1) meant passed
    exact ⟨count, left, value, least, rounds, moves, captured⟩

theorem Woven.Cut.matched (cut : Woven.Cut route innerOf hole before placeholder after)
    (woven : Woven route unitOf innerOf) (listed : hole ∈ route.holes)
    (required : hole.placeholder.optional = false) {matched : Arguments}
    (taken : route.matchPath? path = some matched) :
    ∃ count left a b value, 1 ≤ count ∧
      (unitOf hole.placeholder.name).passage.rounds count a left b ∧ a.Moves value b ∧
      matched.lookup hole.placeholder.name = some ((some value).filter (!·.isEmpty)) := by
  have named : hole.placeholder.name ∈ route.holes.map (·.placeholder.name) :=
    List.mem_map_of_mem listed
  obtain ⟨marks, found, lookups⟩ := lookup_of_match taken
  obtain ⟨_, a, own, b, _, _, _, _, here, _, _, _, same⟩ := cut.of_search woven found
  obtain ⟨count, left, value, least, rounds, moves, captured⟩ :=
    cut.required woven listed required here
  refine ⟨count, left, a, b, value, least, rounds, moves, ?_⟩
  rw [lookups, if_pos named, same, captured]

theorem Woven.anywhere (woven : Woven route unitOf innerOf)
    (lookFree : ∀ hole ∈ route.holes, Requirement.LookFree hole.requirement)
    {segments : List Segment}
    (inside : ∀ name ∈ holeNames segments, name ∈ holeNames route.template.segments) :
    (segmentsRegex unitOf segments).passage.Anywhere := by
  have uses : (segmentsRegex unitOf segments).Uses (fun _ => False) fun _ _ => True := by
    refine uses_segments fun name named => ?_
    obtain ⟨hole, listed, rfl⟩ := woven.hole_of_name (inside name named)
    exact ⟨fun _ => trivial, (woven.holes hole listed).own.lookFree (lookFree hole listed)⟩
  exact anywhere_of_uses uses

theorem Woven.Cut.stays (cut : Woven.Cut route innerOf hole before placeholder after)
    (woven : Woven route unitOf innerOf) (listed : hole ∈ route.holes)
    (required : hole.placeholder.optional = false)
    (lookFree : Requirement.LookFree hole.requirement)
    (accepted : hole.validator.isMatch [] = true) (p : Place) :
    ∃ marks, holePassage unitOf placeholder p marks p := by
  have standing := woven.holes hole listed
  obtain ⟨ast, _, _, meant⟩ := standing.own
  have anywhere : (unitOf hole.placeholder.name).passage.Anywhere :=
    anywhere_of_uses (standing.own.lookFree lookFree)
  obtain ⟨pieces, some_, joined, each⟩ := (standing.isMatch_iff lookFree).mp accepted
  have taken := anywhere.takes_rounds.mpr ⟨pieces, rfl, joined, each⟩
  have still : p.Moves [] p := Place.moves_nil.mpr rfl
  obtain ⟨left, rounds⟩ := ((anywhere.rounds pieces.length).takes_iff still).mp taken
  obtain ⟨left, passed⟩ := units_of_rounds meant (List.length_pos_iff.mpr some_) rounds
  rw [holePassage, cut.optional, required, cut.name]
  exact ⟨_, left, passed, rfl⟩

theorem Woven.Cut.shorten (cut : Woven.Cut route innerOf hole before placeholder after)
    (woven : Woven route unitOf innerOf) (listed : hole ∈ route.holes)
    (required : hole.placeholder.optional = false)
    (lookFree : ∀ hole ∈ route.holes, Requirement.LookFree hole.requirement)
    (accepted : hole.validator.isMatch [] = true) (found : route.matcher.search path = some marks) :
    captured? path marks hole.placeholder.name = some [] ∨
      ∃ shorter, shorter.length < path.length ∧ (route.matcher.search shorter).isSome = true := by
  have earlier : (segmentsRegex unitOf before).passage.Anywhere :=
    woven.anywhere lookFree fun name named => cut.names ▸ List.mem_append_left _ named
  have later : (segmentsRegex unitOf after).passage.Anywhere :=
    woven.anywhere lookFree fun name named =>
      cut.names ▸ List.mem_append_right _ (List.mem_cons_of_mem _ named)
  obtain ⟨left, a, own, b, right, c, q, first, here, last, ending, finish, same⟩ :=
    cut.of_search woven found
  obtain ⟨_, _, value, _, _, moves, captured⟩ := cut.required woven listed required here
  cases value with
  | nil => exact Or.inl (same.trans captured)
  | cons letter value =>
    right
    obtain ⟨s, moves₁, again₁⟩ := earlier _ _ _ first
    obtain ⟨t, moves₂, again₂⟩ := later _ _ _ last
    -- The path without the value, and the places on the way over it.
    have start : Place.Moves ⟨[], s ++ (t ++ c.rest)⟩ s ⟨s, t ++ c.rest⟩ := ⟨rfl, rfl⟩
    have middle : Place.Moves ⟨s, t ++ c.rest⟩ t ⟨s ++ t, c.rest⟩ := ⟨rfl, rfl⟩
    obtain ⟨left, first⟩ := again₁ _ _ start
    obtain ⟨right, last⟩ := again₂ _ _ middle
    obtain ⟨own, here⟩ :=
      cut.stays woven listed required (lookFree hole listed) accepted ⟨s, t ++ c.rest⟩
    refine ⟨s ++ (t ++ c.rest), ?_, ?_⟩
    · have whole : path = s ++ (letter :: value ++ (t ++ c.rest)) := by
        rw [show path = s ++ a.rest from moves₁.1, moves.1, moves₂.1]
      rw [whole]
      simp only [List.length_append, List.length_cons]
      omega
    · have body : (segmentsRegex unitOf (bare route.template.segments)).passage
          ⟨[], s ++ (t ++ c.rest)⟩ (right ++ own ++ left) ⟨s ++ t, c.rest⟩ := by
        rw [cut.segments, passage_segments_cut]
        exact ⟨_, left, _, first, ⟨_, own, right, here, last, rfl⟩, rfl⟩
      rcases ending with same | slash
      · have passed : route.matcher.passage _ _ ⟨s ++ t, c.rest⟩ :=
          woven.passage_iff.mpr ⟨rfl, same ▸ finish, _, body, Or.inl rfl⟩
        exact search_complete rfl passed
      · have final : Place.Moves ⟨s ++ t, c.rest⟩ ['/'] ⟨s ++ t ++ ['/'], []⟩ := by
          rw [slash.1, finish]
          exact ⟨rfl, rfl⟩
        exact search_complete rfl (woven.passage_iff.mpr ⟨rfl, rfl, _, body, Or.inr final⟩)

-- By induction on the length of the path.
theorem Woven.Cut.leave (cut : Woven.Cut route innerOf hole before placeholder after)
    (woven : Woven route unitOf innerOf) (listed : hole ∈ route.holes)
    (required : hole.placeholder.optional = false)
    (lookFree : ∀ hole ∈ route.holes, Requirement.LookFree hole.requirement)
    (accepted : hole.validator.isMatch [] = true)
    (found : (route.matcher.search path).isSome = true) :
    ∃ path marks, route.matcher.search path = some marks ∧
      captured? path marks hole.placeholder.name = some [] := by
  induction length : path.length using Nat.strongRecOn generalizing path with
  | ind count ih =>
    obtain ⟨marks, searched⟩ := Option.isSome_iff_exists.mp found
    rcases cut.shorten woven listed required lookFree accepted searched with
      empty | ⟨shorter, less, found⟩
    · exact ⟨path, marks, searched, empty⟩
    · exact ih shorter.length (length ▸ less) found rfl

structure Binding (route : Route) (hole : Hole) : Prop where
  bound : (∀ own, Regex.ofText? true hole.requirement = some own →
      ∀ p marks, ¬own.passage p marks p) →
    ∀ path matched, route.matchPath? path = some matched →
      ∃ value, value ≠ [] ∧ matched.lookup hole.placeholder.name = some (some value)
  unset : (∀ other ∈ route.holes, Requirement.LookFree other.requirement) →
    (∃ path, (route.matchPath? path).isSome = true) →
      ((∃ path matched, route.matchPath? path = some matched ∧
          matched.lookup hole.placeholder.name = some none) ↔
        hole.validator.isMatch [] = true)

-- A required hole is unset after some match exactly when its requirement takes the empty text.
theorem binding_of_required (built : Built route)
    (alone : ∀ hole ∈ route.holes, (Ast.ofText? hole.requirement).isSome = true)
    (listed : hole ∈ route.holes) (required : hole.placeholder.optional = false) :
    Binding route hole := by
  obtain ⟨unitOf, innerOf, woven⟩ := built.woven alone
  obtain ⟨before, placeholder, after, cut⟩ := woven.cut listed
  have named : hole.placeholder.name ∈ route.holes.map (·.placeholder.name) :=
    List.mem_map_of_mem listed
  have standing := woven.holes hole listed
  refine ⟨?_, ?_⟩
  · intro never path matched taken
    obtain ⟨count, left, a, b, value, least, rounds, moves, set⟩ :=
      cut.matched woven listed required taken
    -- A unit that never matches nothing moves the place, so the value is not empty.
    have further := rounds_advance (never _ standing.read) least rounds
    have filled : value ≠ [] := by
      rintro rfl
      exact further (Place.moves_nil.mp moves)
    have kept : (some value).filter (!·.isEmpty) = some value :=
      Option.filter_eq_some_iff.mpr ⟨rfl, by simpa using filled⟩
    exact ⟨value, filled, kept ▸ set⟩
  · rintro lookFree ⟨path, taken⟩
    constructor
    · rintro ⟨path, matched, taken, unset⟩
      obtain ⟨count, left, a, b, value, least, rounds, moves, set⟩ :=
        cut.matched woven listed required taken
      obtain rfl : value = [] := by simpa using Option.some.inj (set.symm.trans unset)
      exact standing.isMatch_of_rounds (lookFree hole listed) least rounds moves
    · intro accepted
      rw [matchPath?, Option.isSome_map] at taken
      obtain ⟨path, marks, found, empty⟩ := cut.leave woven listed required lookFree accepted taken
      obtain ⟨matched, taken, lookups⟩ := match_of_search found
      refine ⟨path, matched, taken, ?_⟩
      rw [lookups, if_pos named, empty]
      rfl

def slugHole : Hole := standardHole { name := "slug", requirement := defaultRequirement }

theorem advances_default {own : Regex} (read : Regex.ofText? true defaultRequirement = some own)
    (p : Place) (marks : List Mark) : ¬own.passage p marks p := by
  rw [Compiles.units.eq_sequence read]
  rintro ⟨c, _, _, moves⟩
  cases moves.unique (Place.moves_nil.mpr rfl)

theorem binding_of_required_docs :
    Built (standardRoute "page" docs) ∧ slugHole ∈ (standardRoute "page" docs).holes ∧
      Binding (standardRoute "page" docs) slugHole ∧
      ∀ path matched, (standardRoute "page" docs).matchPath? path = some matched →
        ∃ value, value ≠ [] ∧ matched.lookup "slug" = some (some value) := by
  have default := hasDefaultRequirements_standardRoute "page" docs
  have listed : slugHole ∈ (standardRoute "page" docs).holes := List.mem_cons_self
  have binding := binding_of_required (built_docs "page") default.alone listed rfl
  exact ⟨built_docs "page", listed, binding, binding.bound fun _ => advances_default⟩

def countUnits : Regex :=
  .repeated 1 none true (.repeated 0 (some 1) true (ofVariants .unicode 'a'))

def countHole : Hole where
  placeholder := { name := "id", requirement := "a\x7b0,1\x7d" }
  requirement := "a\x7b0,1\x7d"
  validator := sequence [.look .textStart, countUnits, .look .textEnd]

def countAtoms : List Regex := [.literal '/' [], .group (some "id".toList) countUnits]

def counted : Route where
  target := "page"
  template := {
    text := "/\x7bid:a\x7b0,1\x7d\x7d"
    segments := [.literal "/", .hole countHole.placeholder] }
  holes := [countHole]
  matcher := sequence (endedAtoms countAtoms)

theorem ofTemplate_counted : ofTemplate "/\x7bid:a\x7b0,1\x7d\x7d" "page" = .ok counted := by
  have read : Template.read "/\x7bid:a\x7b0,1\x7d\x7d" = .ok counted.template :=
    ok_of_toOption (by decide +kernel)
  have matcher : Regex.ofText? true
      (matcherPattern (·.requirement) counted.template.segments) = some counted.matcher := by
    decide +kernel
  have validator : Regex.ofText? true
      (Requirement.wholeValue countHole.placeholder.requirement) = some countHole.validator := by
    decide +kernel
  exact ofTemplate_of_read read matcher (congrArg (fun made => [made]) (compileHole_of_read validator))

theorem passage_counted {p q : Place} :
    counted.matcher.passage p marks q ↔ p.past = [] ∧ q.rest = [] ∧
      ∃ first middle, p.Moves ['/'] first ∧ countUnits.passage.named "id" first marks middle ∧
        (q = middle ∨ middle.Moves ['/'] q) := by
  have body : (sequence countAtoms).passage =
      (Passage.along ['/']).andThen ((countUnits.passage.named "id").andThen .stay) := by
    rw [passage_sequence]
    rfl
  change (sequence (endedAtoms countAtoms)).passage p marks q ↔ _
  rw [passage_ended, body, Passage.andThen_stay]
  constructor
  · rintro ⟨start, finish, middle, ⟨first, _, left, ⟨rfl, moves⟩, inside, rfl⟩, ending⟩
    exact ⟨start, finish, first, middle, moves, by simpa using inside, ending⟩
  · rintro ⟨start, finish, first, middle, moves, inside, ending⟩
    exact ⟨start, finish, middle, ⟨first, [], marks, ⟨rfl, moves⟩, inside, by simp⟩, ending⟩

-- The hole is required, but the slash alone is a path of the route.
theorem counted_unset : Built counted ∧ countHole ∈ counted.holes ∧
    countHole.placeholder.optional = false ∧
    ∃ matched, counted.matchPath? "/" = some matched ∧ matched.lookup "id" = some none := by
  refine ⟨.ofTemplate ofTemplate_counted, List.mem_cons_self, rfl, ?_⟩
  have slash : Place.Moves ⟨[], "/"⟩ ['/'] ⟨"/", []⟩ := ⟨rfl, rfl⟩
  have inside : countUnits.passage.named "id" ⟨"/", []⟩ (valueMarks "id" [] 1) ⟨"/", []⟩ :=
    ⟨[], ⟨1, Nat.le_refl 1, nofun, _, [], [],
      ⟨0, Nat.le_refl 0, fun _ _ => Nat.zero_le _, rfl, rfl⟩, ⟨rfl, rfl⟩, rfl⟩, rfl⟩
  have found : (counted.matcher.search "/").isSome = true :=
    search_complete rfl (passage_counted.mpr ⟨rfl, rfl, _, _, slash, inside, Or.inl rfl⟩)
  obtain ⟨marks, searched⟩ := Option.isSome_iff_exists.mp found
  obtain ⟨matched, taken, lookups⟩ := match_of_search searched
  refine ⟨matched, taken, ?_⟩
  rw [lookups, if_pos (by decide)]
  obtain ⟨⟨past, rest⟩, q, whole, passed⟩ := search_sound searched
  obtain ⟨rfl, _, first, middle, moves, group, _⟩ := passage_counted.mp passed
  have inner : countUnits.Uses (fun _ => True) fun key _ => key ≠ "id".toList :=
    (Uses.kept _ _).ofVariants _ _
  obtain ⟨_, value, _, further, captured⟩ := captured_named group inner
  rw [moves.text_eq, whole] at captured
  -- Behind the slash nothing is left to capture.
  have path : ['/'] = ['/'] ++ first.rest := whole.symm.trans moves.1
  have spent : value ++ middle.rest = [] := by
    rw [← further.1]
    simpa using path
  rw [captured, (List.append_eq_nil_iff.mp spent).1]
  rfl

end RouteTable.Route
