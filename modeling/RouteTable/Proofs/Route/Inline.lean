import RouteTable.Proofs.Route.Outcome
import RouteTable.Proofs.Route.Overrides
import RouteTable.Proofs.Route.Woven
import RouteTable.Proofs.Template.Inline

namespace RouteTable

open Regex Template

-- A hole of the template with another requirement written into it, compiled as it was.
def Hole.requiring (name requirement : Text) (hole : Hole) : Hole :=
  { hole with placeholder := hole.placeholder.requiring name requirement }

namespace Route

variable {route plain inlined : Route} {template : Template}
  {text name requirement target : Text} {current args : Arguments} {slot : Slot}

structure Interchangeable (first second : Route) : Prop where
  requirements : first.requirements = second.requirements
  pattern : first.pattern = second.pattern
  matchPath : ∀ path, first.matchPath? path = second.matchPath? path
  checkFrom : ∀ current target args,
    first.checkFrom current target args = second.checkFrom current target args
  makeFrom : ∀ current hint args relative url,
    first.makeFrom current hint args relative = .ok url ↔
      second.makeFrom current hint args relative = .ok url

-- The route with another requirement written into its template, and everything else as it was.
def rewritten (route : Route) (text name requirement : Text) : Route :=
  { route with
      template := ⟨text, route.template.segments.map (Segment.requiring name requirement)⟩
      holes := route.holes.map (Hole.requiring name requirement) }

theorem hasPlaceholder_rewritten (route : Route) (other : Text) :
    (route.rewritten text name requirement).template.hasPlaceholder other =
      route.template.hasPlaceholder other := by
  have names : holeNames (route.template.segments.map (Segment.requiring name requirement)) =
      holeNames route.template.segments := by
    rw [holeNames, placeholders_requiring, List.map_map]
    exact List.map_congr_left fun placeholder _ => Placeholder.requiring_name
  rw [Bool.eq_iff_iff, hasPlaceholder_iff, hasPlaceholder_iff, ← names]
  rfl

theorem requirement?_rewritten (route : Route) (other : Text) :
    (route.rewritten text name requirement).requirement? other = route.requirement? other := by
  have same : (fun hole : Hole => hole.placeholder.name == other) ∘ Hole.requiring name requirement =
      fun hole => hole.placeholder.name == other :=
    funext fun hole => congrArg (· == other) Placeholder.requiring_name
  unfold requirement? hole?
  rw [rewritten, List.find?_map, same, Option.map_map]
  rfl

theorem refuser?_rewritten (route : Route) :
    (route.rewritten text name requirement).refuser? current args =
      (route.refuser? current args).map (Hole.requiring name requirement) := by
  have same : (fun hole : Hole => !(route.rewritten text name requirement).takes current args hole) ∘
      Hole.requiring name requirement = fun hole => !route.takes current args hole := by
    funext hole
    simp only [Function.comp, takes, Hole.requiring, Placeholder.requiring_name,
      Placeholder.requiring_optional]
    rfl
  rw [refuser?, rewritten, List.find?_map]
  exact congrArg (Option.map _) (congrArg (List.find? · route.holes) same)

theorem fill_requiring (segments : List Segment) (values : List (Option Text)) :
    fill (segments.map (Segment.requiring name requirement)) values = fill segments values := by
  induction segments generalizing values with
  | nil => rfl
  | cons segment rest ih =>
    cases segment with
    | literal text => exact congrArg (text ++ ·) (ih values)
    | hole placeholder =>
      cases values with
      | nil => exact ih []
      | cons value values =>
        cases value with
        | none => exact ih values
        | some value =>
          simp only [List.map_cons, Segment.requiring, fill, Placeholder.requiring_trailing, ih]

theorem pathOf_rewritten (route : Route) :
    (route.rewritten text name requirement).pathOf current args = route.pathOf current args := by
  have values : (route.rewritten text name requirement).holes.map
      ((route.rewritten text name requirement).slugAt current args) =
        route.holes.map (route.slugAt current args) := by
    rw [rewritten, List.map_map]
    refine List.map_congr_left fun hole _ => ?_
    simp only [Function.comp, slugAt, Hole.requiring, Placeholder.requiring_name]
    rfl
  rw [pathOf, values]
  exact congrArg Path.generated (fill_requiring _ _)

theorem withQuery_rewritten (route : Route) (args : Arguments) :
    (route.rewritten text name requirement).withQuery args = route.withQuery args := by
  have same : (route.rewritten text name requirement).queryOf args = route.queryOf args := by
    unfold queryOf
    simp only [hasPlaceholder_rewritten]
  funext url
  unfold withQuery
  rw [same]

theorem locate_rewritten (route : Route) {hint path place : Text} {relative : Bool} :
    (route.rewritten text name requirement).locate hint path relative = .ok place ↔
      route.locate hint path relative = .ok place := by
  unfold locate
  rw [rewritten]
  cases route.host with
  | none => rfl
  | some pattern =>
    simp only
    split
    · simp
    · rfl

theorem matchPath?_rewritten (route : Route) (path : Text) :
    (route.rewritten text name requirement).matchPath? path = route.matchPath? path := by
  unfold matchPath?
  simp only [rewritten, List.foldl_map, Hole.requiring, Placeholder.requiring_name]

theorem requirements_rewritten (route : Route) :
    (route.rewritten text name requirement).requirements = route.requirements := by
  unfold requirements
  rw [rewritten, List.map_map]
  refine List.map_congr_left fun hole _ => ?_
  simp only [Function.comp, Hole.requiring, Placeholder.requiring_name]

theorem segmentPattern_requiring (requirementOf : Placeholder → Text) (isLast : Bool)
    (segment : Segment) :
    segmentPattern requirementOf isLast (segment.requiring name requirement) =
      segmentPattern (fun placeholder => requirementOf (placeholder.requiring name requirement))
        isLast segment := by
  cases segment with
  | literal text => rfl
  | hole placeholder =>
    simp only [Segment.requiring, segmentPattern, Placeholder.requiring_name,
      Placeholder.requiring_optional, Placeholder.requiring_trailing]

theorem matcherPattern_requiring (requirementOf : Placeholder → Text) (segments : List Segment) :
    matcherPattern requirementOf (segments.map (Segment.requiring name requirement)) =
      matcherPattern (fun placeholder => requirementOf (placeholder.requiring name requirement))
        segments := by
  suffices pieces : segmentsPattern requirementOf (segments.map (Segment.requiring name requirement)) =
      segmentsPattern (fun placeholder => requirementOf (placeholder.requiring name requirement))
        segments by
    rw [matcherPattern, pieces]
    rfl
  induction segments with
  | nil => rfl
  | cons segment rest ih =>
    cases rest with
    | nil => exact segmentPattern_requiring requirementOf true segment
    | cons other rest =>
      exact congrArg₂ (· ++ ·) (segmentPattern_requiring requirementOf false segment) ih

theorem Consistent.pattern_rewritten (consistent : Consistent text route) (other : Text) :
    (route.rewritten other name requirement).pattern = route.pattern := by
  refine (matcherPattern_requiring _ _).trans (matcherPattern_congr fun placeholder member => ?_)
  obtain ⟨hole, listed, rfl, _⟩ := consistent.hole_of_placeholder member
  have known : route.requirement? hole.placeholder.name = some hole.requirement :=
    congrArg (Option.map _) (hole?_of_mem consistent.distinct listed)
  simp only [requirement?_rewritten, Placeholder.requiring_name, known, Option.getD_some]

theorem Consistent.interchangeable (consistent : Consistent text route) (other : Text) :
    Interchangeable route (route.rewritten other name requirement) where
  requirements := route.requirements_rewritten.symm
  pattern := (consistent.pattern_rewritten other).symm
  matchPath path := (route.matchPath?_rewritten path).symm
  checkFrom current target args := by
    rw [Bool.eq_iff_iff, checkFrom_iff, checkFrom_iff, refuser?_rewritten, Option.map_eq_none_iff]
    rfl
  makeFrom current hint args relative url := by
    rw [makeFrom_eq_ok, makeFrom_eq_ok, refuser?_rewritten, Option.map_eq_none_iff,
      pathOf_rewritten, withQuery_rewritten]
    simp only [locate_rewritten]

theorem mapM_requiring (requirementOf : Placeholder → Text) (placeholders : List Placeholder) :
    (placeholders.map (·.requiring name requirement)).mapM (compileHole requirementOf) =
      (placeholders.mapM (compileHole fun placeholder =>
        requirementOf (placeholder.requiring name requirement))).map
          (List.map (Hole.requiring name requirement)) := by
  induction placeholders with
  | nil => rfl
  | cons placeholder rest ih =>
    have here : compileHole requirementOf (placeholder.requiring name requirement) =
        (compileHole (fun placeholder => requirementOf (placeholder.requiring name requirement))
          placeholder).map (Hole.requiring name requirement) := by
      unfold compileHole
      simp only
      split <;> rfl
    rw [List.map_cons, List.mapM_cons, List.mapM_cons, here, ih]
    cases compileHole (fun placeholder => requirementOf (placeholder.requiring name requirement))
      placeholder with
    | error fault => rfl
    | ok hole =>
      cases rest.mapM (compileHole fun placeholder =>
        requirementOf (placeholder.requiring name requirement)) <;> rfl

theorem compile_requiring {matcher : Regex} {holes : List Hole} {requirementOf : Placeholder → Text} :
    compile ⟨text, template.segments.map (Segment.requiring name requirement)⟩ requirementOf =
        .ok (matcher, holes) ↔
      ∃ others, compile template (fun placeholder =>
        requirementOf (placeholder.requiring name requirement)) = .ok (matcher, others) ∧
          holes = others.map (Hole.requiring name requirement) := by
  have placeholders : Template.placeholders
      ⟨text, template.segments.map (Segment.requiring name requirement)⟩ =
        template.placeholders.map (·.requiring name requirement) := by
    rw [Template.placeholders_eq, Template.placeholders_eq]
    exact placeholders_requiring template.segments
  unfold compile
  rw [matcherPattern_requiring, placeholders, mapM_requiring]
  split
  · simp
  · cases template.placeholders.mapM (compileHole fun placeholder =>
      requirementOf (placeholder.requiring name requirement)) with
    | error fault => simp [Except.map]
    | ok others => simp [Except.map, eq_comm]

theorem overridden_of_ofTemplate (made : ofTemplate text target = .ok plain)
    (name requirement : Text) : ∀ placeholder ∈ plain.template.placeholders,
      plain.overridden name requirement placeholder =
        (placeholder.requiring name requirement).requirement := by
  obtain ⟨template, matcher, holes, read, compiled, rfl⟩ := ofTemplate_ok made
  intro placeholder member
  rw [overridden, inForce_of_compile read compiled placeholder member,
    Placeholder.requirement_requiring]

-- The template as it is, and then the requirement in place of the default.
def overriddenAt (slot : Slot) (requirement target : Text) : Except RouteError Route := do
  (← ofTemplate slot.plain target).withRequirement slot.name requirement

theorem overriddenAt_iff : overriddenAt slot requirement target = .ok route ↔
    ∃ plain, ofTemplate slot.plain target = .ok plain ∧
      plain.withRequirement slot.name requirement = .ok route := by
  unfold overriddenAt
  cases ofTemplate slot.plain target with
  | error fault => simp [bind, Except.bind]
  | ok plain => simp [bind, Except.bind]

theorem inline_of_overridden (verbatim : slot.Verbatim requirement)
    (made : ofTemplate slot.plain target = .ok plain)
    (changed : plain.withRequirement slot.name requirement = .ok route) :
    ofTemplate (slot.inline requirement) target =
      .ok (route.rewritten (slot.inline requirement) slot.name requirement) := by
  have inForce := compile_congr (overridden_of_ofTemplate made slot.name requirement)
  obtain ⟨template, _, _, read, _, rfl⟩ := ofTemplate_ok made
  obtain ⟨_, checked, matcher, holes, compiled, rfl, _⟩ :=
    overrideRequirement_ok (withRequirement_ok changed)
  refine ofTemplate_of_compile ((Slot.read_inline_iff verbatim).mpr ⟨checked, template, read, rfl⟩) ?_
  exact compile_requiring.mpr ⟨holes, inForce.symm.trans compiled, rfl⟩

theorem overridden_of_inline (verbatim : slot.Verbatim requirement)
    (made : ofTemplate slot.plain target = .ok plain)
    (written : ofTemplate (slot.inline requirement) target = .ok inlined) :
    ∃ route, plain.withRequirement slot.name requirement = .ok route ∧
      inlined = route.rewritten (slot.inline requirement) slot.name requirement := by
  have inForce := compile_congr (overridden_of_ofTemplate made slot.name requirement)
  obtain ⟨template, _, _, read, _, rfl⟩ := ofTemplate_ok made
  obtain ⟨_, matcher, _, readInline, compiledInline, rfl⟩ := ofTemplate_ok written
  obtain ⟨checked, _, same, rfl⟩ := (Slot.read_inline_iff verbatim).mp readInline
  cases read.symm.trans same
  obtain ⟨holes, compiled, rfl⟩ := compile_requiring.mp compiledInline
  obtain ⟨placeholder, member, here, _⟩ := Slot.hole_of_plain read
  have known : template.hasPlaceholder slot.name = true := by
    rw [hasPlaceholder_iff, holeNames, ← Template.placeholders_eq, ← here]
    exact List.mem_map_of_mem member
  refine ⟨_, withRequirement_of_compile known checked (inForce.trans compiled) ?_, rfl⟩
  intro value set
  cases set

-- The matcher of the template as it is has a meaning, which is too large to be compiled.
def TooLarge (slot : Slot) : Prop :=
  ∃ template, Template.read slot.plain = .ok template ∧
    ∃ regex, (Ast.ofText? (matcherPattern (·.requirement) template.segments)).bind
      (·.meaning? insensitive) = some regex ∧ sizeLimit < regex.size

theorem segmentNames_sublist {innerOf innerOf' : Text → List Text} (segments : List Segment)
    (fewer : ∀ other, (innerOf' other).Sublist (innerOf other)) :
    (segments.flatMap (segmentNames innerOf')).Sublist
      ((segments.map (Segment.requiring name requirement)).flatMap (segmentNames innerOf)) := by
  induction segments with
  | nil => exact List.Sublist.refl _
  | cons segment rest ih =>
    rw [List.map_cons, List.flatMap_cons, List.flatMap_cons]
    refine List.Sublist.append ?_ ih
    cases segment with
    | literal text => exact List.Sublist.refl _
    | hole placeholder =>
      simp only [Segment.requiring, segmentNames, Placeholder.requiring_name]
      exact (fewer placeholder.name).cons_cons placeholder.name

theorem hole_elsewhere (verbatim : slot.Verbatim requirement)
    (written : ofTemplate (slot.inline requirement) target = .ok inlined)
    (read : Template.read slot.plain = .ok template) {placeholder : Placeholder}
    (member : placeholder ∈ template.placeholders) (elsewhere : placeholder.name ≠ slot.name) :
    ∃ hole ∈ inlined.holes, hole.placeholder = placeholder ∧
      hole.requirement = placeholder.requirement := by
  have consistent := consistent_of_ofTemplate written
  obtain ⟨_, _, _, readInline, compiled, rfl⟩ := ofTemplate_ok written
  obtain ⟨_, _, same, rfl⟩ := (Slot.read_inline_iff verbatim).mp readInline
  cases read.symm.trans same
  have kept : placeholder.requiring slot.name requirement = placeholder := if_neg elsewhere
  have listed : placeholder ∈ Template.placeholders
      ⟨slot.inline requirement, template.segments.map (Segment.requiring slot.name requirement)⟩ := by
    rw [Template.placeholders_eq] at member ⊢
    rw [placeholders_requiring, ← kept]
    exact List.mem_map_of_mem member
  obtain ⟨hole, known, here, inForce⟩ := consistent.hole_of_placeholder listed
  exact ⟨hole, known, here, inForce.trans (inForce_of_compile readInline compiled placeholder listed)⟩

theorem own_plain (verbatim : slot.Verbatim requirement)
    (written : ofTemplate (slot.inline requirement) target = .ok inlined)
    (read : Template.read slot.plain = .ok template) {unitOf : Text → Regex}
    {innerOf : Text → List Text} (woven : Woven inlined unitOf innerOf) :
    ∀ placeholder ∈ template.placeholders, Requirement.Own placeholder.requirement
      (Function.update innerOf slot.name [] placeholder.name)
      (Function.update unitOf slot.name (.char .unicode unitSet) placeholder.name) := by
  intro placeholder member
  by_cases here : placeholder.name = slot.name
  · rw [Slot.requirement_of_plain read member here, here, Function.update_self, Function.update_self]
    exact Requirement.own_default
  · obtain ⟨hole, listed, rfl, required⟩ := hole_elsewhere verbatim written read member here
    rw [Function.update_of_ne here, Function.update_of_ne here, ← required]
    exact (woven.holes hole listed).own

theorem validated_plain (verbatim : slot.Verbatim requirement)
    (written : ofTemplate (slot.inline requirement) target = .ok inlined)
    (read : Template.read slot.plain = .ok template) :
    ∀ placeholder ∈ template.placeholders,
      (Regex.ofText? true (Requirement.wholeValue placeholder.requirement)).isSome = true := by
  intro placeholder member
  by_cases here : placeholder.name = slot.name
  · rw [Slot.requirement_of_plain read member here]
    exact Option.isSome_of_eq_some ofText_validator
  · obtain ⟨hole, listed, rfl, required⟩ := hole_elsewhere verbatim written read member here
    rw [← required]
    exact Option.isSome_of_eq_some ((consistent_of_ofTemplate written).validator listed)

-- The default is a pattern in its own right without groups, so it gets along with the others.
theorem plain_of_inline (verbatim : slot.Verbatim requirement)
    (written : ofTemplate (slot.inline requirement) target = .ok inlined)
    (alone : ∀ hole ∈ inlined.holes, (Ast.ofText? hole.requirement).isSome = true) :
    (∃ plain, ofTemplate slot.plain target = .ok plain) ∨ TooLarge slot := by
  obtain ⟨unitOf, innerOf, woven⟩ := (Built.ofTemplate written).woven alone
  obtain ⟨_, _, _, readInline, _, segments⟩ := ofTemplate_ok written
  obtain ⟨_, template, read, rfl⟩ := (Slot.read_inline_iff verbatim).mp readInline
  have own := own_plain verbatim written read woven
  rw [Template.placeholders_eq] at own
  have becomes := becomes_matcher (scanned_of_scan (scan_of_read read).2).valid own
  have fewer (other : Text) :
      (Function.update innerOf slot.name [] other).Sublist (innerOf other) := by
    by_cases here : other = slot.name
    · rw [here, Function.update_self]
      exact List.nil_sublist _
    · rw [Function.update_of_ne here]
  have distinct := woven.distinct
  rw [segments] at distinct
  have distinct := (segmentNames_sublist template.segments fewer).nodup distinct
  by_cases large : sizeLimit < (sequence (endedAtoms ((bare template.segments).flatMap
      (segmentParts (Function.update unitOf slot.name (.char .unicode unitSet)))))).size
  · exact Or.inr ⟨template, read, _, becomes.meaning.mpr ⟨distinct, rfl⟩, large⟩
  · have matcher := becomes.ofText.mpr ⟨distinct, rfl, Nat.le_of_not_lt large⟩
    obtain ⟨_, _, compiled⟩ := exists_compiled (Option.isSome_of_eq_some matcher)
      (validated_plain verbatim written read)
    exact Or.inl ⟨_, ofTemplate_of_compile read compiled⟩

-- Both ways make routes that cannot be told apart, and the second way goes through where the first
-- one does and the template as it is makes a route. Where every requirement is a pattern in its own
-- right, it makes one unless its matcher is too large.
theorem inline_or_overridden (verbatim : slot.Verbatim requirement) (target : Text) :
    ((overriddenAt slot requirement target).isOk = true ↔
      (ofTemplate slot.plain target).isOk = true ∧
        (ofTemplate (slot.inline requirement) target).isOk = true) ∧
    (∀ route inlined, overriddenAt slot requirement target = .ok route →
      ofTemplate (slot.inline requirement) target = .ok inlined → Interchangeable route inlined) ∧
    ∀ inlined, ofTemplate (slot.inline requirement) target = .ok inlined →
      (∀ hole ∈ inlined.holes, (Ast.ofText? hole.requirement).isSome = true) →
        (overriddenAt slot requirement target).isOk = true ∨ TooLarge slot := by
  have both {plain inlined : Route} (made : ofTemplate slot.plain target = .ok plain)
      (written : ofTemplate (slot.inline requirement) target = .ok inlined) :
      (overriddenAt slot requirement target).isOk = true := by
    obtain ⟨route, changed, _⟩ := overridden_of_inline verbatim made written
    exact isOk_iff.mpr ⟨route, overriddenAt_iff.mpr ⟨plain, made, changed⟩⟩
  refine ⟨⟨?_, ?_⟩, ?_, ?_⟩
  · intro done
    obtain ⟨route, done⟩ := isOk_iff.mp done
    obtain ⟨plain, made, changed⟩ := overriddenAt_iff.mp done
    exact ⟨isOk_iff.mpr ⟨plain, made⟩,
      isOk_iff.mpr ⟨_, inline_of_overridden verbatim made changed⟩⟩
  · rintro ⟨made, written⟩
    obtain ⟨plain, made⟩ := isOk_iff.mp made
    obtain ⟨inlined, written⟩ := isOk_iff.mp written
    exact both made written
  · intro route inlined done written
    obtain ⟨plain, made, changed⟩ := overriddenAt_iff.mp done
    have consistent := (consistent_of_ofTemplate made).withRequirement changed
    cases written.symm.trans (inline_of_overridden verbatim made changed)
    exact consistent.interchangeable _
  · intro inlined written alone
    rcases plain_of_inline verbatim written alone with ⟨plain, made⟩ | large
    · exact Or.inl (both made written)
    · exact Or.inr large

def idTemplate : Template where
  text := "/\x7bid\x7d"
  segments := [.literal "/", .hole { name := "id", requirement := defaultRequirement }]

-- The requirement opens a comment, which goes on up to a line break.
def covering : Template where
  text := "/\x7bb:q)(?x)#\x7d"
  segments := [.literal "/", .hole { name := "b", requirement := "q)(?x)#" }]

def brokenLines : Text := "\n(w#)\n"

theorem read_slots : (Template.read "/").toOption = some ⟨"/", [.literal "/"]⟩ ∧
    (Template.read covering.text).toOption = some covering ∧
    (Template.read idTemplate.text).toOption = some idTemplate := by
  decide +kernel

def idSlot : Slot where
  before := "/"
  grouped := false
  name := "id"
  after := []
  readable := ⟨_, ok_of_toOption read_slots.1⟩
  named := isName_iff.mpr ⟨rfl, rfl, List.all_eq_true.mp rfl⟩

def coveredSlot : Slot where
  before := covering.text
  grouped := false
  name := "a"
  after := []
  readable := ⟨_, ok_of_toOption read_slots.2.1⟩
  named := isName_iff.mpr ⟨rfl, rfl, List.all_eq_true.mp rfl⟩

theorem outcomes_slots :
    (ofTemplate (idSlot.inline "a|bc") "page").toOption.any (fun route =>
      route.holes.all fun hole => (Ast.ofText? hole.requirement).isSome) = true ∧
    (ofTemplate (coveredSlot.inline brokenLines) "page").isOk = true ∧
    (ofTemplate coveredSlot.plain "page").isOk = false := by
  decide +kernel

theorem ofTemplate_id : ofTemplate idSlot.plain "page" = .ok (standardRoute "page" idTemplate) :=
  ofTemplate_plain (ok_of_toOption read_slots.2.2) (by unfold Plain; decide) (by decide)

theorem inline_or_overridden_id : idSlot.Verbatim "a|bc" ∧ ∃ route inlined,
    ofTemplate (idSlot.inline "a|bc") "page" = .ok inlined ∧
    (∀ hole ∈ inlined.holes, (Ast.ofText? hole.requirement).isSome = true) ∧
    ((overriddenAt idSlot "a|bc" "page").isOk = true ∨ TooLarge idSlot) ∧
    overriddenAt idSlot "a|bc" "page" = .ok route ∧ Interchangeable route inlined := by
  have verbatim : idSlot.Verbatim "a|bc" := by
    unfold Slot.Verbatim
    decide
  obtain ⟨inlined, written, alone⟩ := (Option.any_eq_true _ _).mp outcomes_slots.1
  have written := ok_of_toOption written
  have alone := List.all_eq_true.mp alone
  obtain ⟨bothWays, same, onlySize⟩ := inline_or_overridden verbatim "page"
  obtain ⟨route, done⟩ := isOk_iff.mp
    (bothWays.mpr ⟨isOk_iff.mpr ⟨_, ofTemplate_id⟩, isOk_iff.mpr ⟨_, written⟩⟩)
  exact ⟨verbatim, route, inlined, written, alone, onlySize inlined written alone, done,
    same route inlined done written⟩

-- Behind a comment that only a written requirement ends, the template as it is makes no route.
theorem inline_without_plain : coveredSlot.Verbatim brokenLines ∧
    (ofTemplate (coveredSlot.inline brokenLines) "page").isOk = true ∧
    (overriddenAt coveredSlot brokenLines "page").isOk = false := by
  obtain ⟨_, written, refused⟩ := outcomes_slots
  refine ⟨by unfold Slot.Verbatim; decide, written, ?_⟩
  cases done : overriddenAt coveredSlot brokenLines "page" with
  | error fault => rfl
  | ok route =>
    obtain ⟨plain, made, _⟩ := overriddenAt_iff.mp done
    rw [made] at refused
    cases refused

end Route

end RouteTable
