import RouteTable.Proofs.Arguments.History
import RouteTable.Proofs.Route.Agreement

namespace RouteTable

open Regex

-- Pieces that stand in a text one behind another, with any text around them.
inductive InOrder : List Text → Text → Prop
  | nil (text : Text) : InOrder [] text
  | piece {later : List Text} {after : Text} (before piece : Text) (onward : InOrder later after) :
    InOrder (piece :: later) (before ++ (piece ++ after))

namespace InOrder

variable {pieces pieces' : List Text} {text text' : Text}

theorem prepend (earlier : Text) (ordered : InOrder pieces text) : InOrder pieces (earlier ++ text) := by
  cases ordered with
  | nil => exact .nil _
  | piece before piece onward =>
    rw [← List.append_assoc]
    exact .piece _ _ onward

theorem append (first : InOrder pieces text) (later : InOrder pieces' text') :
    InOrder (pieces ++ pieces') (text ++ text') := by
  induction first with
  | nil text => exact later.prepend text
  | piece before piece _ ih =>
    rw [List.append_assoc, List.append_assoc]
    exact .piece _ _ ih

theorem sublist (ordered : InOrder pieces text) (fewer : pieces'.Sublist pieces) :
    InOrder pieces' text := by
  induction ordered generalizing pieces' with
  | nil =>
    rw [List.sublist_nil.mp fewer]
    exact .nil _
  | piece before piece _ ih =>
    cases fewer with
    | cons _ fewer => exact ((ih fewer).prepend piece).prepend before
    | cons_cons _ fewer => exact .piece _ _ (ih fewer)

theorem length_le (ordered : InOrder pieces text) : pieces.flatten.length ≤ text.length := by
  induction ordered with
  | nil => exact Nat.zero_le _
  | piece before piece _ ih =>
    simp only [List.flatten_cons, List.length_append]
    omega

end InOrder

theorem Regex.infix_of_captured {path name value : Text} {marks : List Mark}
    (captured : captured? path marks name = some value) : value <:+: path := by
  rw [captured_eq] at captured
  obtain ⟨start, _, captured⟩ := Option.bind_eq_some_iff.mp captured
  obtain ⟨stop, _, rfl⟩ := Option.map_eq_some_iff.mp captured
  exact (List.take_prefix _ _).isInfix.trans (List.drop_suffix _ _).isInfix

namespace Route

variable {route : Route} {path : Text} {matched : Arguments} {marks : List Mark} {p q : Place}
  {unitOf : Text → Regex} {innerOf : Text → List Text}
  {segment : Segment} {segments : List Segment}

-- The groups in the units of a hole have the names that are listed for the hole.
def NamesUnits (unitOf : Text → Regex) (innerOf : Text → List Text) (segments : List Segment) :
    Prop :=
  ∀ name ∈ holeNames segments,
    (unitOf name).Uses (fun _ => True) fun key _ => key ∈ innerOf name

theorem names_of_segments (named : NamesUnits unitOf innerOf segments)
    (passed : (segmentsRegex unitOf segments).passage p marks q) :
    ∀ mark ∈ marks, markName mark ∈ segments.flatMap (segmentNames innerOf) := by
  refine names_of_passage (uses_segments fun name listed => ?_) passed
  have known := mem_segmentNames innerOf listed
  refine ⟨fun _ => known name List.mem_cons_self, ?_⟩
  exact (named name listed).mono (fun _ => id)
    fun key _ inner => known key (List.mem_cons_of_mem _ inner)

theorem inOrder_of_segment (named : NamesUnits unitOf innerOf [segment])
    (distinct : (segmentNames innerOf segment).Nodup)
    (passed : (sequence (segmentParts unitOf segment)).passage p marks q) :
    ∃ piece, p.Moves piece q ∧
      InOrder ((holeNames [segment]).filterMap (captured? p.text marks)) piece := by
  cases segment with
  | literal text =>
    obtain ⟨_, piece, _, moves⟩ := passage_letters.mp passed
    exact ⟨piece, moves, .nil piece⟩
  | hole placeholder =>
    obtain ⟨new, _⟩ := List.nodup_cons.mp distinct
    have inside (low : Nat) : (unitsOf (unitOf placeholder.name) low).Uses (fun _ => True)
        fun key _ => key ≠ placeholder.name := by
      refine ((named placeholder.name List.mem_cons_self).mono (fun _ => id) ?_).unitsOf low
      rintro key _ inner rfl
      exact new inner
    have names : holeNames [.hole placeholder] = [placeholder.name] := rfl
    rw [passage_hole_parts] at passed
    rw [names]
    rcases passage_hole inside passed with
      ⟨_, rfl, absent⟩ | ⟨_, value, middle, further, moves, onward, _, captured, _⟩
    · refine ⟨[], Place.moves_nil.mpr rfl, ?_⟩
      rw [List.filterMap_cons_none absent]
      exact .nil []
    · refine ⟨value ++ further, moves.trans onward, ?_⟩
      rw [List.filterMap_cons_some captured]
      exact .piece [] value (.nil further)

-- By induction on the segments. What a segment captures, the marks of the others leave alone.
theorem inOrder_of_passage (named : NamesUnits unitOf innerOf segments)
    (distinct : (segments.flatMap (segmentNames innerOf)).Nodup)
    (passed : (segmentsRegex unitOf segments).passage p marks q) :
    ∃ piece, p.Moves piece q ∧
      InOrder ((holeNames segments).filterMap (captured? p.text marks)) piece := by
  induction segments generalizing p marks with
  | nil =>
    obtain ⟨rfl, rfl⟩ := passed
    exact ⟨[], Place.moves_nil.mpr rfl, .nil []⟩
  | cons segment rest ih =>
    have namedFirst : NamesUnits unitOf innerOf [segment] := by
      intro name listed
      exact named name (holeNames_cons segment rest ▸ List.mem_append_left _ listed)
    have namedRest : NamesUnits unitOf innerOf rest := by
      intro name listed
      exact named name (holeNames_cons segment rest ▸ List.mem_append_right _ listed)
    rw [List.flatMap_cons] at distinct
    obtain ⟨distinctFirst, distinctRest, apart⟩ := List.nodup_append.mp distinct
    rw [passage_segments_cons] at passed
    obtain ⟨middle, left, left', first, later, rfl⟩ := passed
    obtain ⟨piece, moves, ordered⟩ := inOrder_of_segment namedFirst distinctFirst first
    obtain ⟨piece', moves', ordered'⟩ := ih namedRest distinctRest later
    -- The segment and the rest share no name, so neither sets marks that the other reads.
    have early : ∀ mark ∈ left, markName mark ∈ segmentNames innerOf segment := by
      have alone : segmentsRegex unitOf [segment] = sequence (segmentParts unitOf segment) := by
        rw [segmentsRegex, List.flatMap_singleton]
      simpa using names_of_segments namedFirst (alone ▸ first)
    have late := names_of_segments namedRest later
    have own : ∀ name ∈ holeNames [segment],
        captured? p.text (left' ++ left) name = captured? p.text left name := by
      intro name listed
      have known : name ∈ segmentNames innerOf segment := by
        simpa using mem_segmentNames innerOf listed name List.mem_cons_self
      exact captured_of_later fun mark member same =>
        apart name known _ (late mark member) same.symm
    have others : ∀ name ∈ holeNames rest,
        captured? p.text (left' ++ left) name = captured? middle.text left' name := by
      intro name listed
      have known := mem_segmentNames innerOf listed name List.mem_cons_self
      rw [moves.text_eq]
      exact captured_of_earlier fun mark member same => apart _ (early mark member) name known same
    refine ⟨piece ++ piece', moves.trans moves', ?_⟩
    rw [holeNames_cons, List.filterMap_append, List.filterMap_congr own,
      List.filterMap_congr others]
    exact ordered.append ordered'

structure MatchShape (route : Route) (path : Text) (matched : Arguments) : Prop where
  distinct : matched.names.Nodup
  names : matched.names = route.defaults.names ++
    (holeNames route.template.segments).filter (· ∉ route.defaults.names)
  others : ∀ name ∉ holeNames route.template.segments,
    matched.lookup name = route.defaults.lookup name
  values : ∀ name ∈ holeNames route.template.segments, matched.lookup name = some none ∨
    ∃ value, matched.lookup name = some (some value) ∧ value ≠ [] ∧ value <:+: path
  inOrder : (∀ hole ∈ route.holes, (Ast.ofText? hole.requirement).isSome = true) →
    InOrder ((holeNames route.template.segments).filterMap matched.get?) path

theorem Built.nodup_holeNames (built : Built route) :
    (holeNames route.template.segments).Nodup :=
  (Template.scanned_of_scan (Template.scan_of_read built.compiled.read).2).nodup

theorem matchPath_overlay (taken : route.matchPath? path = some matched) :
    ∃ entries, entries.map (·.1) = route.holes.map (·.placeholder.name) ∧
      matched = route.defaults.overlay ⟨entries⟩ := by
  obtain ⟨marks, _, rfl⟩ := Option.map_eq_some_iff.mp taken
  refine ⟨route.holes.map fun hole => (hole.placeholder.name,
    (captured? path marks hole.placeholder.name).filter (!·.isEmpty)), List.map_map, ?_⟩
  rw [Arguments.overlay, List.foldl_map]

-- By defaults, marks and the expression of the matcher, in this order.
theorem shape_of_match (built : Built route) (taken : route.matchPath? path = some matched) :
    MatchShape route path matched := by
  obtain ⟨entries, keys, laid⟩ := matchPath_overlay taken
  obtain ⟨marks, found, lookups⟩ := lookup_of_match taken
  rw [holeNames_of_placeholders built.placeholders] at keys lookups
  refine ⟨?_, ?_, ?_, ?_, ?_⟩
  · rw [laid]
    exact Arguments.nodup_overlay built.nodup_defaults _
  · have distinct : Arguments.names ⟨entries⟩ = holeNames route.template.segments := keys
    rw [laid, Arguments.names_overlay_of_nodup built.nodup_defaults
      (distinct ▸ built.nodup_holeNames), distinct]
  · intro name other
    rw [lookups, if_neg other]
  · intro name listed
    rw [lookups, if_pos listed]
    cases kept : (captured? path marks name).filter (!·.isEmpty) with
    | none => exact Or.inl rfl
    | some value =>
      obtain ⟨captured, filled⟩ := Option.filter_eq_some_iff.mp kept
      exact Or.inr ⟨value, rfl, by simpa using filled, infix_of_captured captured⟩
  · intro alone
    obtain ⟨unitOf, innerOf, woven⟩ := built.woven alone
    obtain ⟨p, q, rfl, passed⟩ := search_sound found
    obtain ⟨start, finish, middle, passed, ending⟩ := woven.passage_iff.mp passed
    have named : NamesUnits unitOf innerOf (bare route.template.segments) := by
      intro name listed
      exact woven.names (holeNames_bare route.template.segments ▸ listed)
    have distinct : ((bare route.template.segments).flatMap (segmentNames innerOf)).Nodup := by
      rw [segmentNames_bare]
      exact woven.distinct
    obtain ⟨piece, moves, ordered⟩ := inOrder_of_passage named distinct passed
    rw [holeNames_bare] at ordered
    -- Behind the last segment there is at most a slash.
    have whole : InOrder ((holeNames route.template.segments).filterMap (captured? p.text marks))
        p.text := by
      rw [Place.text, start, moves.1] at ordered ⊢
      simpa using ordered.append (.nil middle.rest)
    have kept : (holeNames route.template.segments).filterMap matched.get? =
        ((holeNames route.template.segments).filterMap (captured? p.text marks)).filter
          (!·.isEmpty) := by
      rw [List.filter_filterMap]
      refine List.filterMap_congr fun name listed => ?_
      rw [Arguments.get?, lookups, if_pos listed]
      rfl
    rw [kept]
    exact whole.sublist List.filter_sublist

theorem shape_of_match_docs : ∃ matched,
    (standardRoute "page" docs).matchPath? "/DOCS.v1/Intro/2/" = some matched ∧
      MatchShape (standardRoute "page" docs) "/DOCS.v1/Intro/2/" matched ∧
      InOrder ((holeNames docs.segments).filterMap matched.get?) "/DOCS.v1/Intro/2/" := by
  obtain ⟨matched, taken⟩ := Option.isSome_iff_exists.mp docs_accepts
  have shape := shape_of_match (built_docs "page") taken
  have default := hasDefaultRequirements_standardRoute "page" docs
  exact ⟨matched, taken, shape, shape.inOrder default.alone⟩

-- With white space ignored, the rest of the line is a comment, so the group of the first hole goes on
-- around the second one.
def openRequirement : Text := "0)(?x)#"

def innerRequirement : Text := "12)#(\n"

def openHole : Hole where
  placeholder := { name := "id", requirement := openRequirement }
  requirement := openRequirement
  validator := .seq (.look .textStart) (.literal '0' [])

def innerUnits : Regex := .seq (.literal '1' ['2', '#'])
  (.seq (.repeated 1 none true (.group none (.literal '\n' []))) (.look .textEnd))

def innerHole : Hole where
  placeholder := { name := "b", requirement := innerRequirement }
  requirement := innerRequirement
  validator := .seq (.look .textStart) innerUnits

def innerGroup : Regex := .group (some "b".toList) (.literal '1' ['2'])

def nestedAtoms : List Regex :=
  [.literal '/' [],
    .group (some "id".toList) (.seq (.literal '0' []) (.repeated 1 none true innerGroup))]

def nestedText : Text := "/\x7bid:0)(?x)#\x7d\n\x7bb:12)#(\n\x7d"

def nested : Route where
  target := "page"
  template := {
    text := nestedText
    segments := [.literal "/", .hole openHole.placeholder, .literal "\n",
      .hole innerHole.placeholder] }
  holes := [openHole, innerHole]
  matcher := sequence (endedAtoms nestedAtoms)

theorem ofTemplate_nested : ofTemplate nestedText "page" = .ok nested := by
  have read : Template.read nestedText = .ok nested.template := ok_of_toOption (by decide +kernel)
  have matcher : Regex.ofText? true
      (matcherPattern (·.requirement) nested.template.segments) = some nested.matcher := by
    decide +kernel
  have validators : Regex.ofText? true (Requirement.wholeValue openRequirement) =
        some openHole.validator ∧
      Regex.ofText? true (Requirement.wholeValue innerRequirement) = some innerHole.validator := by
    decide +kernel
  refine ofTemplate_of_read read matcher ?_
  exact congrArg₂ (fun first later => [first, later]) (compileHole_of_read validators.1)
    (compileHole_of_read validators.2)

def nestedMarks : List Mark :=
  [.leave "id" 4, .leave "b" 4, .enter "b" 2, .enter "id" 1]

-- There is one way over the path, and the second group is passed inside the first one.
theorem passage_nested : nested.matcher.passage ⟨[], "/012"⟩ marks q ↔
    marks = nestedMarks ∧ q = ⟨"/012", []⟩ := by
  have body : (sequence nestedAtoms).passage = (Passage.along ['/']).andThen
      ((((Passage.along ['0']).andThen
        (((Passage.along ['1', '2']).named "b").repeated 1 none)).named "id").andThen .stay) := by
    rw [passage_sequence]
    rfl
  change (sequence (endedAtoms nestedAtoms)).passage _ _ _ ↔ _
  rw [passage_ended, body, Passage.andThen_stay]
  constructor
  · rintro ⟨_, _, last, passed, ending⟩
    obtain ⟨a, _, _, ⟨rfl, slash⟩, ⟨_, ⟨b, _, _, ⟨rfl, nought⟩, rounds, rfl⟩, rfl⟩, rfl⟩ := passed
    obtain rfl : a = ⟨"/", "012"⟩ := slash.same_end ⟨rfl, rfl⟩
    obtain rfl : b = ⟨"/0", "12"⟩ := nought.same_end ⟨rfl, rfl⟩
    -- There is room for one round.
    obtain ⟨count, least, _, rounds⟩ := rounds
    obtain ⟨count, rfl⟩ := Nat.exists_eq_add_of_le' least
    obtain ⟨c, _, _, ⟨_, ⟨rfl, round⟩, rfl⟩, rounds, rfl⟩ := rounds
    obtain rfl : c = ⟨"/012", []⟩ := round.same_end ⟨rfl, rfl⟩
    cases count with
    | zero =>
      obtain ⟨rfl, rfl⟩ := rounds
      rcases ending with rfl | ⟨beyond, _⟩
      · exact ⟨rfl, rfl⟩
      · cases beyond
    | succ count =>
      obtain ⟨_, _, _, ⟨_, ⟨_, beyond, _⟩, _⟩, _⟩ := rounds
      cases beyond
  · rintro ⟨rfl, rfl⟩
    have slash : Place.Moves ⟨[], "/012"⟩ ['/'] ⟨"/", "012"⟩ := ⟨rfl, rfl⟩
    have nought : Place.Moves ⟨"/", "012"⟩ ['0'] ⟨"/0", "12"⟩ := ⟨rfl, rfl⟩
    have round : ((Passage.along ['1', '2']).named "b") ⟨"/0", "12"⟩
        [.leave "b" 4, .enter "b" 2] ⟨"/012", []⟩ := ⟨[], ⟨rfl, rfl, rfl⟩, rfl⟩
    have rounds : (((Passage.along ['1', '2']).named "b").repeated 1 none) ⟨"/0", "12"⟩
        [.leave "b" 4, .enter "b" 2] ⟨"/012", []⟩ :=
      ⟨1, Nat.le_refl 1, nofun, _, _, [], round, ⟨rfl, rfl⟩, rfl⟩
    exact ⟨rfl, rfl, _, ⟨_, [], nestedMarks, ⟨rfl, slash⟩,
      ⟨_, ⟨_, [], _, ⟨rfl, nought⟩, rounds, rfl⟩, rfl⟩, rfl⟩, Or.inl rfl⟩

theorem overlap_of_nested : Built nested ∧ ∃ matched, nested.matchPath? "/012" = some matched ∧
    matched.get? "id" = some "012".toList ∧ matched.get? "b" = some "12".toList ∧
    ¬InOrder ((holeNames nested.template.segments).filterMap matched.get?) "/012" := by
  have found : (nested.matcher.search "/012").isSome = true :=
    search_complete rfl (passage_nested.mpr ⟨rfl, rfl⟩)
  obtain ⟨marks, searched⟩ := Option.isSome_iff_exists.mp found
  obtain ⟨matched, taken, lookups⟩ := match_of_search searched
  obtain ⟨⟨past, rest⟩, q, whole, passed⟩ := search_sound searched
  have ended : (sequence (endedAtoms nestedAtoms)).passage ⟨past, rest⟩ marks q := passed
  obtain ⟨rfl, _⟩ := passage_ended.mp ended
  obtain rfl : rest = "/012" := whole
  obtain ⟨rfl, _⟩ := passage_nested.mp passed
  have first : matched.get? "id" = some "012".toList := by
    rw [Arguments.get?, lookups, if_pos (by decide)]
    rfl
  have second : matched.get? "b" = some "12".toList := by
    rw [Arguments.get?, lookups, if_pos (by decide)]
    rfl
  have pieces : (holeNames nested.template.segments).filterMap matched.get? =
      ["012".toList, "12".toList] := by
    change ["id".toList, "b".toList].filterMap matched.get? = _
    rw [List.filterMap_cons_some first, List.filterMap_cons_some second]
    rfl
  refine ⟨.ofTemplate ofTemplate_nested, matched, taken, first, second, ?_⟩
  rw [pieces]
  intro ordered
  exact absurd ordered.length_le (by decide)

end Route

end RouteTable
