import RouteTable.Proofs.Arguments
import RouteTable.Proofs.Route.Matcher
import RouteTable.Router.Basic

namespace RouteTable

open Regex

variable {route : Route}

inductive Route.Built : Route → Prop
  | ofTemplate {text target : Text} {route : Route}
    (made : Route.ofTemplate text target = .ok route) : Built route
  | withMethods {route : Route} (built : Built route) (methods : List Text) :
    Built (route.withMethods methods)
  | withScheme {route : Route} (built : Built route) (scheme : Text) :
    Built (route.withScheme scheme)
  | withHost {route next : Route} {pattern : Text} (built : Built route)
    (changed : route.withHost pattern = .ok next) : Built next
  | withRequirement {route next : Route} {name requirement : Text} (built : Built route)
    (changed : route.withRequirement name requirement = .ok next) : Built next
  | withDefault {route next : Route} {name value : Text} (built : Built route)
    (changed : route.withDefault name value = .ok next) : Built next
  | named {route : Route} (built : Built route) (name : Text) :
    Built { route with name := some name }

namespace Route

-- What matcher and holes of a route are, seen from its template.
structure Compiled (route : Route) : Prop where
  read : Template.read route.template.text = .ok route.template
  compiled : ∃ requirementOf,
    compile route.template requirementOf = .ok (route.matcher, route.holes)

theorem ofTemplate_ok {text target : Text} (made : ofTemplate text target = .ok route) :
    ∃ template matcher holes, Template.read text = .ok template ∧
      compile template (·.requirement) = .ok (matcher, holes) ∧
      route = { target, template, holes, matcher } := by
  unfold ofTemplate at made
  cases read : Template.read text with
  | error fault => rw [read] at made; cases made
  | ok template =>
    rw [read] at made
    simp only [bind, Except.bind] at made
    split at made
    · cases made
    · next compiled => exact ⟨_, _, _, rfl, compiled, (Except.ok.inj made).symm⟩

theorem compiled_of_ofTemplate {text target : Text} (made : ofTemplate text target = .ok route) :
    Compiled route := by
  obtain ⟨template, matcher, holes, read, compiled, rfl⟩ := ofTemplate_ok made
  obtain ⟨same, _⟩ := Template.scan_of_read read
  exact ⟨same ▸ read, _, compiled⟩

def requirementOf (route : Route) (placeholder : Placeholder) : Text :=
  (route.requirement? placeholder.name).getD placeholder.requirement

def overridden (route : Route) (name requirement : Text) (placeholder : Placeholder) : Text :=
  if placeholder.name = name then requirement else route.requirementOf placeholder

theorem overrideRequirement_ok {name requirement : Text} {next : Route}
    (changed : route.overrideRequirement name requirement = .ok next) :
    route.template.hasPlaceholder name = true ∧ Requirement.check name requirement = .ok () ∧
      ∃ matcher holes,
        compile route.template (route.overridden name requirement) = .ok (matcher, holes) ∧
        next = { route with matcher, holes } ∧
        ∀ value, route.defaults.get? name = some value →
          acceptsDefault holes name value = true := by
  -- Each check that could refuse is passed in turn.
  unfold overrideRequirement at changed
  simp only [bind, Except.bind, pure, Except.pure, throw, throwThe, MonadExceptOf.throw] at changed
  split at changed
  · cases changed
  · next known =>
    split at changed
    · cases changed
    · next checked =>
      split at changed
      · cases changed
      · next compiled =>
        refine ⟨?_, checked, _, _, compiled, ?_⟩
        · cases found : route.template.hasPlaceholder name with
          | true => rfl
          | false =>
            rw [found] at known
            exact absurd rfl known
        · split at changed
          · next value set =>
            split at changed
            · next accepted =>
              cases changed
              refine ⟨rfl, ?_⟩
              intro other found
              obtain rfl : value = other := Option.some.inj (set.symm.trans found)
              exact accepted
            · cases changed
          · next unset =>
            cases changed
            exact ⟨rfl, fun other found => by rw [unset] at found; cases found⟩

theorem withRequirement_ok {name requirement : Text} {next : Route}
    (changed : route.withRequirement name requirement = .ok next) :
    route.overrideRequirement name requirement = .ok next := by
  unfold withRequirement at changed
  cases overridden : route.overrideRequirement name requirement with
  | error fault => rw [overridden] at changed; cases changed
  | ok other =>
    rw [overridden] at changed
    exact congrArg Except.ok (Except.ok.inj changed)

theorem withDefault_ok {name value : Text} {next : Route}
    (changed : route.withDefault name value = .ok next) :
    acceptsDefault route.holes name value = true ∧
      next = { route with defaults := route.defaults.insert name value } := by
  unfold withDefault at changed
  split at changed
  · next accepted => exact ⟨accepted, (Except.ok.inj changed).symm⟩
  · cases changed

theorem withHost_ok {pattern : Text} {next : Route} (changed : route.withHost pattern = .ok next) :
    ∃ host, HostPattern.compile pattern = .ok host ∧ next = { route with host := some host } := by
  unfold withHost at changed
  cases compiled : HostPattern.compile pattern with
  | error fault =>
    rw [compiled] at changed
    cases changed
  | ok host =>
    rw [compiled] at changed
    exact ⟨host, rfl, (Except.ok.inj changed).symm⟩

theorem Built.compiled (built : Built route) : Compiled route := by
  induction built with
  | ofTemplate made => exact compiled_of_ofTemplate made
  | withMethods _ _ ih => exact ⟨ih.read, ih.compiled⟩
  | withScheme _ _ ih => exact ⟨ih.read, ih.compiled⟩
  | withHost _ changed ih =>
    obtain ⟨_, _, rfl⟩ := withHost_ok changed
    exact ⟨ih.read, ih.compiled⟩
  | named _ _ ih => exact ⟨ih.read, ih.compiled⟩
  | withRequirement _ changed ih =>
    obtain ⟨_, _, matcher, holes, compiled, rfl, _⟩ :=
      overrideRequirement_ok (withRequirement_ok changed)
    exact ⟨ih.read, _, compiled⟩
  | withDefault _ changed ih =>
    obtain ⟨_, rfl⟩ := withDefault_ok changed
    exact ⟨ih.read, ih.compiled⟩

theorem mapM_eq_ok {α β ε : Type} {f : α → Except ε β} {xs : List α} {ys : List β} :
    xs.mapM f = .ok ys ↔ xs.map f = ys.map .ok := by
  induction xs generalizing ys with
  | nil =>
    rw [List.mapM_nil]
    constructor
    · intro done
      cases done
      rfl
    · intro none
      obtain rfl := List.map_eq_nil_iff.mp none.symm
      rfl
  | cons x xs ih =>
    rw [List.mapM_cons]
    constructor
    · intro done
      cases first : f x with
      | error fault => rw [first] at done; cases done
      | ok y =>
        cases rest : xs.mapM f with
        | error fault => rw [first, rest] at done; cases done
        | ok others =>
          rw [first, rest] at done
          cases done
          rw [List.map_cons, List.map_cons, first, ih.mp rest]
    · intro each
      cases ys with
      | nil => cases each
      | cons y ys =>
        obtain ⟨first, rest⟩ := List.cons.inj each
        rw [first, ih.mpr rest]
        rfl

theorem compileHole_ok {requirementOf : Placeholder → Text} {placeholder : Placeholder} {hole : Hole}
    (made : compileHole requirementOf placeholder = .ok hole) :
    hole.placeholder = placeholder ∧ hole.requirement = requirementOf hole.placeholder ∧
      Regex.ofText? true (Requirement.wholeValue hole.requirement) = some hole.validator := by
  unfold compileHole at made
  simp only at made
  split at made
  · cases made
  · next validated =>
    cases made
    exact ⟨rfl, rfl, validated⟩

theorem holes_of_mapM {requirementOf : Placeholder → Text} {placeholders : List Placeholder}
    {holes : List Hole} (made : placeholders.mapM (compileHole requirementOf) = .ok holes) :
    holes.map (·.placeholder) = placeholders ∧ ∀ hole ∈ holes,
      hole.requirement = requirementOf hole.placeholder ∧
        Regex.ofText? true (Requirement.wholeValue hole.requirement) = some hole.validator := by
  have each := mapM_eq_ok.mp made
  induction placeholders generalizing holes with
  | nil =>
    cases holes with
    | nil => exact ⟨rfl, nofun⟩
    | cons => cases each
  | cons placeholder placeholders ih =>
    cases holes with
    | nil => cases each
    | cons hole holes =>
      obtain ⟨first, rest⟩ := List.cons.inj each
      obtain ⟨rfl, facts⟩ := compileHole_ok first
      obtain ⟨same, others⟩ := ih (mapM_eq_ok.mpr rest) rest
      exact ⟨congrArg (hole.placeholder :: ·) same, List.forall_mem_cons.mpr ⟨facts, others⟩⟩

theorem compile_ok {template : Template} {requirementOf : Placeholder → Text} {matcher : Regex}
    {holes : List Hole} (compiled : compile template requirementOf = .ok (matcher, holes)) :
    Regex.ofText? true (matcherPattern requirementOf template.segments) = some matcher ∧
      template.placeholders.mapM (compileHole requirementOf) = .ok holes := by
  unfold compile at compiled
  split at compiled
  · cases compiled
  · next found =>
    cases made : template.placeholders.mapM (compileHole requirementOf) with
    | error fault => rw [made] at compiled; cases compiled
    | ok others =>
      rw [made] at compiled
      cases compiled
      exact ⟨found, rfl⟩

theorem compileHole_of_read {requirementOf : Placeholder → Text} {placeholder : Placeholder}
    {validator : Regex}
    (read : Regex.ofText? true (Requirement.wholeValue (requirementOf placeholder)) =
      some validator) :
    compileHole requirementOf placeholder =
      .ok { placeholder, requirement := requirementOf placeholder, validator } := by
  simp only [compileHole, read]

theorem ofTemplate_of_compile {text target : Text} {template : Template} {matcher : Regex}
    {holes : List Hole} (read : Template.read text = .ok template)
    (compiled : compile template (·.requirement) = .ok (matcher, holes)) :
    Route.ofTemplate text target = .ok { target, template, holes, matcher } := by
  unfold Route.ofTemplate
  rw [read]
  simp only [bind, Except.bind, compiled]

theorem ofTemplate_of_read {text target : Text} {template : Template} {matcher : Regex}
    {holes : List Hole} (read : Template.read text = .ok template)
    (found : Regex.ofText? true (matcherPattern (·.requirement) template.segments) = some matcher)
    (made : template.placeholders.map (compileHole (·.requirement)) = holes.map .ok) :
    Route.ofTemplate text target = .ok { target, template, holes, matcher } := by
  refine ofTemplate_of_compile read ?_
  rw [compile, found, mapM_eq_ok.mpr made]
  rfl

theorem Built.placeholders (built : Built route) :
    route.holes.map (·.placeholder) = route.template.placeholders := by
  obtain ⟨_, requirementOf, compiled⟩ := built.compiled
  exact (holes_of_mapM (compile_ok compiled).2).1

theorem holeNames_of_placeholders
    (placeholders : route.holes.map (·.placeholder) = route.template.placeholders) :
    route.holes.map (·.placeholder.name) = holeNames route.template.segments := by
  rw [holeNames, ← Template.placeholders_eq, ← placeholders, List.map_map]
  rfl

theorem Built.nodup_defaults (built : Built route) :
    route.defaults.names.Nodup := by
  induction built with
  | ofTemplate made =>
    obtain ⟨template, matcher, holes, _, _, rfl⟩ := ofTemplate_ok made
    exact List.nodup_nil
  | withMethods | withScheme | named => assumption
  | withHost _ changed ih =>
    obtain ⟨_, _, rfl⟩ := withHost_ok changed
    exact ih
  | withRequirement _ changed ih =>
    obtain ⟨_, _, matcher, holes, _, rfl, _⟩ :=
      overrideRequirement_ok (withRequirement_ok changed)
    exact ih
  | withDefault _ changed ih =>
    obtain ⟨_, rfl⟩ := withDefault_ok changed
    exact Arguments.nodup_set ih

def HasDefaultRequirements (route : Route) : Prop :=
  ∀ hole ∈ route.holes, hole.requirement = defaultRequirement

-- A route whose matcher and validators are those of the default requirement.
structure Standard (route : Route) : Prop where
  scanned : Template.Scanned [] route.template.segments
  matcher : route.matcher = sequence (matcherAtoms route.template.segments)
  placeholders : route.holes.map (·.placeholder) =
    route.template.segments.filterMap Segment.placeholder?
  validators : ∀ hole ∈ route.holes, hole.validator = sequence validatorAtoms

theorem Built.standard (built : Built route) (default : route.HasDefaultRequirements) :
    Standard route := by
  obtain ⟨read, requirementOf, compiled⟩ := built.compiled
  obtain ⟨_, scan⟩ := Template.scan_of_read read
  have scanned := Template.scanned_of_scan scan
  obtain ⟨found, made⟩ := compile_ok compiled
  obtain ⟨placeholders, each⟩ := holes_of_mapM made
  have plain : Plain requirementOf route.template.segments := by
    intro placeholder member
    rw [← Template.placeholders_eq, ← placeholders] at member
    obtain ⟨hole, listed, rfl⟩ := List.mem_map.mp member
    exact (each hole listed).1.symm.trans (default hole listed)
  refine ⟨scanned, ?_, placeholders, ?_⟩
  · exact (compiles_matcher plain scanned.valid scanned.nodup).eq_sequence found
  · intro hole listed
    have validated := (each hole listed).2
    rw [default hole listed] at validated
    exact compiles_validator.eq_sequence validated

end Route

end RouteTable
