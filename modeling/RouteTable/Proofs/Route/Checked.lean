import RouteTable.Proofs.Route.Generation
import RouteTable.Proofs.Route.Outcome
import RouteTable.Proofs.Route.RoundTrip

namespace RouteTable.Route

variable {route : Route} {current args : Arguments} {hint name : Text} {hole : Hole}

-- The first layer of arguments that has the name decides, also when it leaves the name unset. An empty
-- text counts as none.
def firstValue (name : Text) : List Arguments → Option Text
  | [] => none
  | layer :: later =>
    if layer.contains name then (layer.get? name).filter (!·.isEmpty) else firstValue name later

-- The caller comes before the current arguments, and these before the defaults.
def layers (route : Route) (current args : Arguments) : List Arguments :=
  [args, current, route.defaults]

theorem firstValue_cons (layer : Arguments) (later : List Arguments) :
    firstValue name (layer :: later) = match layer.lookup name with
      | some value => value.filter (!·.isEmpty)
      | none => firstValue name later := by
  rw [firstValue, Arguments.contains, Arguments.get?]
  cases layer.lookup name <;> rfl

theorem chosenValue_eq_firstValue (route : Route) (current args : Arguments) (name : Text) :
    route.chosenValue current args name = firstValue name (route.layers current args) := by
  rw [chosenValue, layers, firstValue_cons, firstValue_cons, firstValue_cons, firstValue]
  cases args.lookup name with
  | some value => rfl
  | none =>
    cases current.lookup name with
    | some value => rfl
    | none =>
      cases route.defaults.lookup name with
      | some value => rfl
      | none => rfl

-- What can be wrong with the value of a placeholder.
inductive Fails (hole : Hole) : Option Text → Prop
  | missing (required : hole.placeholder.optional = false) : Fails hole none
  | rejected {value : Text} (refused : hole.validator.isMatch value = false) :
    Fails hole (some value)
  | slugless {value : Text} (empty : Slug.ofText value = []) : Fails hole (some value)

theorem fails_iff : Fails hole (firstValue hole.placeholder.name (route.layers current args)) ↔
    route.takes current args hole = false := by
  rw [takes, chosenValue_eq_firstValue]
  cases firstValue hole.placeholder.name (route.layers current args) with
  | none =>
    constructor
    · intro fails
      cases fails with
      | missing required => exact required
    · exact Fails.missing
  | some value =>
    rw [Bool.and_eq_false_iff, Bool.not_eq_false', List.isEmpty_iff]
    constructor
    · intro fails
      cases fails with
      | rejected refused => exact Or.inl refused
      | slugless empty => exact Or.inr empty
    · rintro (refused | empty)
      · exact .rejected refused
      · exact .slugless empty

-- The first placeholder that fails, in the order of the template.
def FirstFailing (route : Route) (current args : Arguments) (hole : Hole) : Prop :=
  ∃ earlier later, route.holes = earlier ++ hole :: later ∧
    (∀ other ∈ earlier,
      ¬ Fails other (firstValue other.placeholder.name (route.layers current args))) ∧
    Fails hole (firstValue hole.placeholder.name (route.layers current args))

theorem firstFailing_of_refuser (refused : route.refuser? current args = some hole) :
    route.FirstFailing current args hole := by
  obtain ⟨fails, earlier, later, whole, before⟩ := List.find?_eq_some_iff_append.mp refused
  refine ⟨earlier, later, whole, ?_, ?_⟩
  · intro other member
    rw [fails_iff]
    simpa using before other member
  · rw [fails_iff]
    simpa using fails

-- The route stands on a host of its own, and there is none to fill in.
def LacksHost (route : Route) (hint : Text) : Prop := route.host.isSome = true ∧ hint = []

theorem locate_of_lacksHost (lacks : route.LacksHost hint) (path : Text) (relative : Bool) :
    route.locate hint path relative = .error (.missingHost route.displayName) := by
  obtain ⟨hosted, rfl⟩ := lacks
  obtain ⟨pattern, host⟩ := Option.isSome_iff_exists.mp hosted
  rw [locate, host]
  rfl

theorem locate_of_host (has : ¬ route.LacksHost hint) (path : Text) (relative : Bool) :
    ∃ url, route.locate hint path relative = .ok url := by
  rw [locate]
  cases host : route.host with
  | none =>
    by_cases here : (relative || hint.isEmpty) = true
    · exact ⟨_, if_pos here⟩
    · exact ⟨_, if_neg here⟩
  | some pattern =>
    have known : ¬ hint.isEmpty = true := by
      intro unknown
      exact has ⟨Option.isSome_of_eq_some host, List.isEmpty_iff.mp unknown⟩
    exact ⟨_, if_neg known⟩

theorem exists_withQuery (route : Route) (args : Arguments) (url : Text) :
    ∃ query, route.withQuery args url = url ++ query := by
  unfold withQuery
  split
  · exact ⟨[], (List.append_nil url).symm⟩
  · exact ⟨['?'] ++ route.queryOf args, List.append_assoc _ _ _⟩

theorem absolute_of_makeFrom {pattern : HostPattern} {url : Text} {relative : Bool}
    (hosted : route.host = some pattern)
    (made : route.makeFrom current hint args relative = .ok url) :
    ∃ rest, url = ((HostHint.ofText hint).scheme.or route.scheme).getD defaultScheme ++
      "://".toList ++ pattern.resolve (HostHint.ofText hint).host ++ '/' :: rest := by
  obtain ⟨_, place, located, rfl⟩ := makeFrom_eq_ok.mp made
  rw [locate, hosted] at located
  by_cases unknown : hint.isEmpty = true
  · simp only [if_pos unknown] at located
    cases located
  · simp only [if_neg unknown] at located
    obtain rfl := Except.ok.inj located
    obtain ⟨query, added⟩ := route.exists_withQuery args
      (route.absolute (.ofText hint) (pattern.resolve (HostHint.ofText hint).host)
        (route.pathOf current args))
    refine ⟨route.pathOf current args ++ query, ?_⟩
    rw [added, absolute]
    simp only [List.append_assoc, List.cons_append, List.nil_append]

-- What comes of generating a URL, as the check and the host decide it.
structure Decided (route : Route) (current args : Arguments) (hint : Text)
    (result : Except RouteError Text) : Prop where
  refused : Refused result ↔ route.checkFrom current route.target args = false
  first : ∀ shown placeholder value, result = .error (.argument shown placeholder value) →
    ∃ hole, route.FirstFailing current args hole ∧ shown = route.displayName ∧
      placeholder = hole.placeholder.name ∧
      value = firstValue hole.placeholder.name (route.layers current args)
  missingHost : route.checkFrom current route.target args = true →
    (result = .error (.missingHost route.displayName) ↔ route.LacksHost hint)
  made : route.checkFrom current route.target args = true →
    ((∃ url, result = .ok url) ↔ ¬ route.LacksHost hint)

theorem checked_iff : route.checkFrom current route.target args = true ↔
    route.refuser? current args = none := by
  rw [checkFrom_iff]
  exact and_iff_right rfl

theorem decided_of_refuser (refused : route.refuser? current args = some hole) :
    Decided route current args hint (.error (route.refusal current args hole)) := by
  have unchecked : ¬ route.checkFrom current route.target args = true := by
    rw [checked_iff, refused]
    nofun
  refine ⟨?_, ?_, ?_, ?_⟩
  · exact iff_of_true ⟨_, _, _, rfl⟩ (Bool.eq_false_iff.mpr unchecked)
  · intro shown placeholder value failed
    cases failed
    exact ⟨hole, firstFailing_of_refuser refused, rfl, rfl, chosenValue_eq_firstValue _ _ _ _⟩
  · intro checked
    exact absurd checked unchecked
  · intro checked
    exact absurd checked unchecked

theorem decided_of_taken (taken : route.refuser? current args = none) (path : Text)
    (relative : Bool) :
    Decided route current args hint
      ((route.locate hint path relative).map (route.withQuery args)) := by
  have checked := checked_iff.mpr taken
  have unrefused : ¬ route.checkFrom current route.target args = false := by simp [checked]
  by_cases lacks : route.LacksHost hint
  · rw [locate_of_lacksHost lacks]
    refine ⟨iff_of_false nofun unrefused, nofun, ?_, ?_⟩
    · intro _
      exact iff_of_true rfl lacks
    · intro _
      exact iff_of_false nofun (not_not_intro lacks)
  · obtain ⟨url, located⟩ := locate_of_host lacks path relative
    rw [located]
    refine ⟨iff_of_false nofun unrefused, nofun, ?_, ?_⟩
    · intro _
      exact iff_of_false nofun lacks
    · intro _
      exact iff_of_true ⟨_, rfl⟩ lacks

theorem decided_of_makeFrom (route : Route) (current : Arguments) (hint : Text) (args : Arguments)
    (relative : Bool) : Decided route current args hint (route.makeFrom current hint args relative) := by
  rw [makeFrom_eq]
  cases decided : route.refuser? current args with
  | some hole => exact decided_of_refuser decided
  | none => exact decided_of_taken decided _ relative

-- Whether the URL may be relative has no say in what becomes of it.
theorem makeFrom_decided (built : Built route) (current : Arguments) (hint : Text)
    (args : Arguments) :
    route.holes.map (·.placeholder) = route.template.placeholders ∧
      ∀ relative, Decided route current args hint (route.makeFrom current hint args relative) :=
  ⟨built.placeholders, route.decided_of_makeFrom current hint args⟩

theorem makeFrom_decided_hostedDocs :
    hostedDocs.makeFrom .empty [] docsArgs true = .error (.missingHost hostedDocs.displayName) ∧
      (∃ url, hostedDocs.makeFrom .empty "docs.org" docsArgs true = .ok url) ∧
      Refused (hostedDocs.makeFrom .empty [] .empty true) := by
  have decided (hint : Text) (args : Arguments) :
      Decided hostedDocs .empty args hint (hostedDocs.makeFrom .empty hint args true) :=
    (makeFrom_decided built_hostedDocs .empty hint args).2 true
  have unrefused : ¬ Refused ((standardRoute "page" docs).make [] docsArgs true) := by
    rw [make_docs]
    nofun
  -- The host has no part in the check.
  have taken : hostedDocs.refuser? .empty docsArgs = none :=
    (standardRoute "page" docs).not_refused_iff.mp unrefused
  have checked := checked_iff.mpr taken
  refine ⟨?_, ?_, ?_⟩
  · exact ((decided [] docsArgs).missingHost checked).mpr ⟨rfl, rfl⟩
  · refine ((decided "docs.org" docsArgs).made checked).mpr ?_
    rintro ⟨_, unknown⟩
    cases unknown
  · refine (decided [] .empty).refused.mpr ?_
    decide

end RouteTable.Route
