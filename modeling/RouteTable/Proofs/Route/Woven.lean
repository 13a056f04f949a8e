import RouteTable.Proofs.Regex.Wrapped
import RouteTable.Proofs.Route.Consistent

namespace RouteTable

open Regex

-- A requirement as it is read on its own: the names of its groups, and one unit of it.
def Requirement.Own (requirement : Text) (inner : List Text) (unit : Regex) : Prop :=
  ∃ ast, Ast.ofText? requirement = some ast ∧ Stands requirement inner ast ∧
    ast.meaning? insensitive = some unit

theorem Requirement.own_default :
    Requirement.Own defaultRequirement [] (.char .unicode unitSet) := by
  refine ⟨.class unitClass, ReadsAs.units.whole, stands_units, ?_⟩
  rw [Ast.meaning?, denotes_units.offered]
  rfl

namespace Route

-- The units of the holes and the names of the groups in them, by the name of the hole.
variable {unitOf : Text → Regex} {innerOf : Text → List Text} {segment : Segment}
  {segments : List Segment} {requirementOf : Placeholder → Text}

def valueGroup (unitOf : Text → Regex) (name : Text) (low : Nat) : Regex :=
  .group (some name) (unitsOf (unitOf name) low)

def segmentParts (unitOf : Text → Regex) : Segment → List Regex
  | .literal text => letters text
  | .hole placeholder =>
    if placeholder.optional then
      [.repeated 0 (some 1) true
        (sequence (valueGroup unitOf placeholder.name 0 :: letters placeholder.trailing))]
    else [valueGroup unitOf placeholder.name 1]

def segmentsRegex (unitOf : Text → Regex) (segments : List Segment) : Regex :=
  sequence (segments.flatMap (segmentParts unitOf))

def segmentNames (innerOf : Text → List Text) : Segment → List Text
  | .literal _ => []
  | .hole placeholder => placeholder.name :: innerOf placeholder.name

theorem segmentNames_bare (segments : List Segment) :
    (bare segments).flatMap (segmentNames innerOf) = segments.flatMap (segmentNames innerOf) := by
  induction segments using bare.induct with
  | case1 => rfl
  | case2 last => cases last <;> rfl
  | case3 segment rest several ih =>
    rw [bare, List.flatMap_cons, List.flatMap_cons, ih]
    exact several

theorem mem_segmentNames (innerOf : Text → List Text) {name : Text}
    (named : name ∈ holeNames segments) :
    ∀ key ∈ name :: innerOf name, key ∈ segments.flatMap (segmentNames innerOf) := by
  obtain ⟨placeholder, listed, rfl⟩ := List.mem_map.mp named
  obtain ⟨segment, member, found⟩ := List.mem_filterMap.mp listed
  cases segment with
  | literal => cases found
  | hole =>
    cases found
    exact fun key known => List.mem_flatMap.mpr ⟨_, member, known⟩

theorem becomes_escaped (text : Text) : Becomes (escape text) [] (letters text) :=
  .of_compiles (.escaped text)

theorem becomes_segment (isLast : Bool)
    (valid : ∀ name ∈ holeNames [segment], Reader.IsGroupName name)
    (own : ∀ placeholder ∈ [segment].filterMap Segment.placeholder?,
      Requirement.Own (requirementOf placeholder) (innerOf placeholder.name)
        (unitOf placeholder.name)) :
    Becomes (segmentPattern requirementOf isLast segment) (segmentNames innerOf segment)
      (segmentParts unitOf (if isLast then segment.strip else segment)) := by
  cases segment with
  | literal text => cases isLast <;> exact becomes_escaped _
  | hole placeholder =>
    have named := valid placeholder.name List.mem_cons_self
    obtain ⟨ast, _, stands, meant⟩ := own placeholder List.mem_cons_self
    unfold segmentPattern
    cases optional : placeholder.optional with
    | true =>
      have value := Becomes.value (c := '*') named stands meant rfl
      have whole (trailing : Text) := (value.append (becomes_escaped trailing)).leftOut
      cases isLast <;>
        simpa [segmentParts, segmentNames, Segment.strip, valueGroup, optional] using whole _
    | false =>
      have value := Becomes.value (c := '+') named stands meant rfl
      cases isLast <;>
        simpa [segmentParts, segmentNames, Segment.strip, valueGroup, optional] using value

theorem becomes_segments (valid : ∀ name ∈ holeNames segments, Reader.IsGroupName name)
    (own : ∀ placeholder ∈ segments.filterMap Segment.placeholder?,
      Requirement.Own (requirementOf placeholder) (innerOf placeholder.name)
        (unitOf placeholder.name)) :
    Becomes (segmentsPattern requirementOf segments) (segments.flatMap (segmentNames innerOf))
      ((bare segments).flatMap (segmentParts unitOf)) := by
  induction segments using bare.induct with
  | case1 => exact .of_compiles .nil
  | case2 last =>
    simp only [bare, List.flatMap_singleton]
    exact becomes_segment true valid own
  | case3 segment rest several ih =>
    have holes : (segment :: rest).filterMap Segment.placeholder? =
        [segment].filterMap Segment.placeholder? ++ rest.filterMap Segment.placeholder? := by
      cases segment <;> rfl
    rw [holeNames_cons] at valid
    rw [holes] at own
    have first := becomes_segment false
      (fun name member => valid name (List.mem_append_left _ member))
      fun placeholder member => own placeholder (List.mem_append_left _ member)
    have later := ih (fun name member => valid name (List.mem_append_right _ member))
      fun placeholder member => own placeholder (List.mem_append_right _ member)
    rw [segmentsPattern, bare, List.flatMap_cons, List.flatMap_cons]
    · exact first.append later
    · exact several
    · exact several

theorem becomes_matcher (valid : ∀ name ∈ holeNames segments, Reader.IsGroupName name)
    (own : ∀ placeholder ∈ segments.filterMap Segment.placeholder?,
      Requirement.Own (requirementOf placeholder) (innerOf placeholder.name)
        (unitOf placeholder.name)) :
    Becomes (matcherPattern requirementOf segments) (segments.flatMap (segmentNames innerOf))
      (endedAtoms ((bare segments).flatMap (segmentParts unitOf))) := by
  have start : Becomes ['^'] [] _ := .of_compiles .caret
  have slash : Becomes "/?".toList [] _ := .of_compiles .optionalSlash
  have finish : Becomes ['$'] [] _ := .of_compiles .dollar
  simpa [matcherPattern, endedAtoms] using
    ((start.append (becomes_segments valid own)).append slash).append finish

variable {route : Route}

-- A hole whose requirement is a pattern in its own right, with its validator.
structure Standing (hole : Hole) (inner : List Text) (unit : Regex) : Prop where
  own : Requirement.Own hole.requirement inner unit
  read : Regex.ofText? true hole.requirement = some unit
  validator : hole.validator = wholeUnits unit

structure Woven (route : Route) (unitOf : Text → Regex) (innerOf : Text → List Text) : Prop where
  matcher : route.matcher =
    sequence (endedAtoms ((bare route.template.segments).flatMap (segmentParts unitOf)))
  distinct : (route.template.segments.flatMap (segmentNames innerOf)).Nodup
  placeholders : route.holes.map (·.placeholder) =
    route.template.segments.filterMap Segment.placeholder?
  holes : ∀ hole ∈ route.holes,
    Standing hole (innerOf hole.placeholder.name) (unitOf hole.placeholder.name)

theorem standing_of_validated {hole : Hole} (alone : (Ast.ofText? hole.requirement).isSome = true)
    (validated :
      Regex.ofText? true (Requirement.wholeValue hole.requirement) = some hole.validator) :
    ∃ inner unit, Standing hole inner unit := by
  obtain ⟨ast, valid⟩ := Option.isSome_iff_exists.mp alone
  obtain ⟨inner, unit, stands, meant, read, same⟩ := own_of_wholeValue valid validated
  exact ⟨inner, unit, ⟨ast, valid, stands, meant⟩, read, same⟩

theorem Built.woven (built : Built route)
    (alone : ∀ hole ∈ route.holes, (Ast.ofText? hole.requirement).isSome = true) :
    ∃ unitOf innerOf, Woven route unitOf innerOf := by
  obtain ⟨text, consistent⟩ := built.consistent
  have scanned := Template.scanned_of_scan (Template.scan_of_read consistent.read).2
  have placeholders := consistent.placeholders
  rw [Template.placeholders_eq] at placeholders
  -- The parsed requirement and its meaning are chosen by name, since names tell the holes apart.
  have byName (name : Text) : ∃ inner unit, ∀ hole, route.hole? name = some hole →
      Standing hole inner unit := by
    cases found : route.hole? name with
    | none => exact ⟨[], .empty, nofun⟩
    | some hole =>
      have listed : hole ∈ route.holes := List.mem_of_find?_eq_some found
      obtain ⟨inner, unit, standing⟩ :=
        standing_of_validated (alone hole listed) (consistent.validator listed)
      refine ⟨inner, unit, ?_⟩
      rintro _ ⟨⟩
      exact standing
  obtain ⟨innerOf, chosen⟩ := Classical.skolem.mp byName
  obtain ⟨unitOf, standing⟩ := Classical.skolem.mp chosen
  have holes : ∀ hole ∈ route.holes,
      Standing hole (innerOf hole.placeholder.name) (unitOf hole.placeholder.name) :=
    fun hole listed => standing _ hole (hole?_of_mem consistent.distinct listed)
  have own : ∀ placeholder ∈ route.template.segments.filterMap Segment.placeholder?,
      Requirement.Own (route.requirementOf placeholder) (innerOf placeholder.name)
        (unitOf placeholder.name) := by
    intro placeholder member
    obtain ⟨hole, listed, rfl, same⟩ := consistent.hole_of_placeholder member
    exact same ▸ (holes hole listed).own
  obtain ⟨distinct, matcher, _⟩ :=
    (becomes_matcher scanned.valid own).ofText.mp (compile_ok consistent.compiled).1
  exact ⟨unitOf, innerOf, matcher.symm, distinct, placeholders, holes⟩

theorem uses_segments {look : Look → Prop} {group : Text → Regex → Prop}
    (each : ∀ name ∈ holeNames segments,
      (∀ body, group name body) ∧ (unitOf name).Uses look group) :
    (segmentsRegex unitOf segments).Uses look group := by
  have kept := Uses.kept look group
  have letter (text : Text) : ∀ a ∈ letters text, a.Uses look group := by
    intro a member
    obtain ⟨c, _, rfl⟩ := List.mem_map.mp member
    exact kept.ofVariants _ _
  refine kept.sequence fun a member => ?_
  obtain ⟨segment, listed, part⟩ := List.mem_flatMap.mp member
  cases segment with
  | literal text => exact letter text a part
  | hole placeholder =>
    have named : placeholder.name ∈ holeNames segments :=
      List.mem_map_of_mem (List.mem_filterMap.mpr ⟨_, listed, rfl⟩)
    have value (low : Nat) : (valueGroup unitOf placeholder.name low).Uses look group :=
      ⟨(each _ named).1 _, (each _ named).2.unitsOf low⟩
    cases optional : placeholder.optional with
    | true =>
      simp only [segmentParts, optional, if_true, List.mem_singleton] at part
      subst part
      exact kept.sequence (List.forall_mem_cons.mpr ⟨value 0, letter placeholder.trailing⟩)
    | false =>
      simp only [segmentParts, optional, Bool.false_eq_true, if_false, List.mem_singleton] at part
      subst part
      exact value 1

-- What is passed over one hole. Without the value there is no trailing text either.
def holePassage (unitOf : Text → Regex) (placeholder : Placeholder) : Passage :=
  if placeholder.optional then
    ((valueGroup unitOf placeholder.name 0).passage.andThen
      (sequence (letters placeholder.trailing)).passage).either .stay
  else (valueGroup unitOf placeholder.name 1).passage

theorem passage_hole_parts (placeholder : Placeholder) :
    (sequence (segmentParts unitOf (.hole placeholder))).passage =
      holePassage unitOf placeholder := by
  cases optional : placeholder.optional with
  | true =>
    simp only [segmentParts, holePassage, optional, if_true]
    rw [← passage_append, ← Passage.repeated_one]
    rfl
  | false =>
    simp only [segmentParts, holePassage, optional]
    rfl

theorem passage_segments_cons (segment : Segment) (rest : List Segment) :
    (segmentsRegex unitOf (segment :: rest)).passage =
      (sequence (segmentParts unitOf segment)).passage.andThen
        (segmentsRegex unitOf rest).passage := by
  unfold segmentsRegex
  rw [List.flatMap_cons, passage_sequence_append]

theorem passage_segments_cut (before after : List Segment) (placeholder : Placeholder) :
    (segmentsRegex unitOf (before ++ .hole placeholder :: after)).passage =
      (segmentsRegex unitOf before).passage.andThen
        ((holePassage unitOf placeholder).andThen (segmentsRegex unitOf after).passage) := by
  rw [← passage_hole_parts, ← passage_segments_cons]
  unfold segmentsRegex
  rw [List.flatMap_append, passage_sequence_append]

theorem passage_hole {placeholder : Placeholder} {a b : Place} {marks : List Mark}
    (inside : ∀ low, (unitsOf (unitOf placeholder.name) low).Uses (fun _ => True)
      fun key _ => key ≠ placeholder.name)
    (here : holePassage unitOf placeholder a marks b) :
    (placeholder.optional = true ∧ b = a ∧ captured? a.text marks placeholder.name = none) ∨
      ∃ left value middle further, a.Moves value middle ∧ middle.Moves further b ∧
        (unitsOf (unitOf placeholder.name) (if placeholder.optional then 0 else 1)
          ).passage a left middle ∧
        captured? a.text marks placeholder.name = some value ∧
        (placeholder.optional = false → b = middle) := by
  rw [holePassage] at here
  cases optional : placeholder.optional with
  | false =>
    simp only [optional, Bool.false_eq_true, if_false] at here ⊢
    obtain ⟨left, value, passed, moves, captured⟩ := captured_named here (inside 1)
    have nothing : b.Moves [] b := Place.moves_nil.mpr rfl
    exact Or.inr ⟨left, value, b, [], moves, nothing, passed, captured, fun _ => rfl⟩
  | true =>
    simp only [optional, if_true] at here ⊢
    rcases here with ⟨middle, group, _, here, spelled, rfl⟩ | ⟨rfl, rfl⟩
    · obtain ⟨rfl, further, _, onward⟩ := passage_letters.mp spelled
      obtain ⟨left, value, passed, moves, captured⟩ := captured_named here (inside 0)
      exact Or.inr ⟨left, value, middle, further, moves, onward, passed, captured, nofun⟩
    · exact Or.inl ⟨trivial, rfl, rfl⟩

namespace Woven

variable {hole : Hole} {path : Text} {marks : List Mark}

theorem hole_of_name (woven : Woven route unitOf innerOf) {name : Text}
    (named : name ∈ holeNames route.template.segments) :
    ∃ hole ∈ route.holes, hole.placeholder.name = name := by
  rw [holeNames, ← woven.placeholders, List.map_map] at named
  exact List.mem_map.mp named

theorem names (woven : Woven route unitOf innerOf) {name : Text}
    (named : name ∈ holeNames route.template.segments) :
    (unitOf name).Uses (fun _ => True) fun key _ => key ∈ innerOf name := by
  obtain ⟨hole, listed, rfl⟩ := woven.hole_of_name named
  obtain ⟨ast, _, stands, meant⟩ := (woven.holes hole listed).own
  exact uses_of_meaning stands.uses (fun _ _ _ => trivial) (fun _ _ => id) meant

theorem passage_iff (woven : Woven route unitOf innerOf) {p q : Place} :
    route.matcher.passage p marks q ↔ p.past = [] ∧ q.rest = [] ∧
      ∃ middle, (segmentsRegex unitOf (bare route.template.segments)).passage p marks middle ∧
        (q = middle ∨ middle.Moves ['/'] q) := by
  rw [woven.matcher]
  exact passage_ended

-- The segments around a hole. The name of the hole is used nowhere else.
structure Cut (route : Route) (innerOf : Text → List Text) (hole : Hole)
    (before : List Segment) (placeholder : Placeholder) (after : List Segment) : Prop where
  segments : bare route.template.segments = before ++ .hole placeholder :: after
  name : placeholder.name = hole.placeholder.name
  optional : placeholder.optional = hole.placeholder.optional
  inner : placeholder.name ∉ innerOf placeholder.name
  others : ∀ name ∈ holeNames before ++ holeNames after,
    name ≠ placeholder.name ∧ placeholder.name ∉ innerOf name

theorem cut (woven : Woven route unitOf innerOf) (listed : hole ∈ route.holes) :
    ∃ before placeholder after, Cut route innerOf hole before placeholder after := by
  have known : hole.placeholder ∈ route.template.segments.filterMap Segment.placeholder? :=
    woven.placeholders ▸ List.mem_map_of_mem listed
  obtain ⟨segment, member, found⟩ := List.mem_filterMap.mp known
  cases segment with
  | literal => cases found
  | hole placeholder =>
    obtain rfl : placeholder = hole.placeholder := Option.some.inj found
    obtain ⟨stripped, member, name, optional⟩ := mem_bare member
    obtain ⟨before, after, segments⟩ := List.mem_iff_append.mp member
    have distinct := woven.distinct
    rw [← segmentNames_bare, segments, List.flatMap_append, List.flatMap_cons, segmentNames,
      List.cons_append] at distinct
    obtain ⟨_, later, apart⟩ := List.nodup_append.mp distinct
    obtain ⟨new, _⟩ := List.nodup_cons.mp later
    rw [List.mem_append, not_or] at new
    refine ⟨before, stripped, after, segments, name, optional, new.1, ?_⟩
    intro other named
    have foreign : ∀ key ∈ other :: innerOf other, key ≠ stripped.name := by
      rcases List.mem_append.mp named with here | there
      · exact fun key used => apart key (mem_segmentNames innerOf here key used) _ List.mem_cons_self
      · rintro key used rfl
        exact new.2 (mem_segmentNames innerOf there _ used)
    exact ⟨foreign other List.mem_cons_self,
      fun used => foreign _ (List.mem_cons_of_mem _ used) rfl⟩

variable {before after : List Segment} {placeholder : Placeholder}

theorem Cut.names (cut : Cut route innerOf hole before placeholder after) :
    holeNames route.template.segments =
      holeNames before ++ hole.placeholder.name :: holeNames after := by
  rw [← holeNames_bare, cut.segments, ← cut.name]
  simp [holeNames, Segment.placeholder?]

theorem Cut.foreign (cut : Cut route innerOf hole before placeholder after)
    (woven : Woven route unitOf innerOf)
    (apart : ∀ name ∈ holeNames segments, name ∈ holeNames before ++ holeNames after)
    {p q : Place} (passed : (segmentsRegex unitOf segments).passage p marks q) :
    ∀ mark ∈ marks, markName mark ≠ hole.placeholder.name := by
  rw [← cut.name]
  have uses : (segmentsRegex unitOf segments).Uses (fun _ => True)
      fun key _ => key ≠ placeholder.name := by
    refine uses_segments fun name named => ?_
    obtain ⟨different, unused⟩ := cut.others name (apart name named)
    have known : name ∈ holeNames route.template.segments := by
      rw [cut.names]
      rcases List.mem_append.mp (apart name named) with here | there
      · exact List.mem_append_left _ here
      · exact List.mem_append_right _ (List.mem_cons_of_mem _ there)
    exact ⟨fun _ => different, (woven.names known).mono (fun _ => id)
      fun key _ used same => unused (same ▸ used)⟩
  exact names_of_passage uses passed

theorem Cut.inside (cut : Cut route innerOf hole before placeholder after)
    (woven : Woven route unitOf innerOf) (low : Nat) :
    (unitsOf (unitOf hole.placeholder.name) low).Uses (fun _ => True)
      fun key _ => key ≠ hole.placeholder.name := by
  have known : hole.placeholder.name ∈ holeNames route.template.segments := by
    rw [cut.names]
    exact List.mem_append_right _ List.mem_cons_self
  refine ((woven.names known).mono (fun _ => id) ?_).unitsOf low
  rintro key _ used rfl
  exact cut.inner (cut.name.symm ▸ used)

-- An accepted path is passed up to the hole, over it and on to the end. What is captured for the hole
-- is captured there.
theorem Cut.of_search (cut : Cut route innerOf hole before placeholder after)
    (woven : Woven route unitOf innerOf) (found : route.matcher.search path = some marks) :
    ∃ left a own b right c q,
      (segmentsRegex unitOf before).passage ⟨[], path⟩ left a ∧
      holePassage unitOf placeholder a own b ∧
      (segmentsRegex unitOf after).passage b right c ∧
      (q = c ∨ c.Moves ['/'] q) ∧ q.rest = [] ∧
      captured? path marks hole.placeholder.name =
        captured? a.text own hole.placeholder.name := by
  obtain ⟨⟨past, rest⟩, q, rfl, passed⟩ := search_sound found
  obtain ⟨rfl, finish, c, passed, ending⟩ := woven.passage_iff.mp passed
  rw [cut.segments, passage_segments_cut] at passed
  obtain ⟨a, left, _, first, ⟨b, own, right, here, last, rfl⟩, rfl⟩ := passed
  obtain ⟨_, moves⟩ := moves_of_passage first
  refine ⟨left, a, own, b, right, c, q, first, here, last, ending, finish, ?_⟩
  have earlier := cut.foreign woven (fun name => List.mem_append_left _) first
  have later := cut.foreign woven (fun name => List.mem_append_right _) last
  rw [captured_of_earlier earlier, captured_of_later later, moves.text_eq]

theorem Cut.value (cut : Cut route innerOf hole before placeholder after)
    (woven : Woven route unitOf innerOf) {a b : Place}
    (here : holePassage unitOf placeholder a marks b) :
    (hole.placeholder.optional = true ∧ b = a ∧
        captured? a.text marks hole.placeholder.name = none) ∨
      ∃ left value middle, a.Moves value middle ∧
        (unitsOf (unitOf hole.placeholder.name) (if hole.placeholder.optional then 0 else 1)
          ).passage a left middle ∧
        captured? a.text marks hole.placeholder.name = some value ∧
        (hole.placeholder.optional = false → b = middle) := by
  have value := passage_hole (fun low => cut.name.symm ▸ cut.inside woven low) here
  rw [cut.name, cut.optional] at value
  rcases value with absent | ⟨left, value, middle, _, moves, _, passed, captured, same⟩
  · exact Or.inl absent
  · exact Or.inr ⟨left, value, middle, moves, passed, captured, same⟩

end Woven

end Route

end RouteTable
