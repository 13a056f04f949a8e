import Mathlib.Data.List.Find
import RouteTable.Route.Generate

namespace RouteTable.Route

variable {route : Route} {current args : Arguments}

def takes (route : Route) (current args : Arguments) (hole : Hole) : Bool :=
  match route.chosenValue current args hole.placeholder.name with
  | none => hole.placeholder.optional
  | some value => hole.validator.isMatch value && !(Slug.ofText value).isEmpty

def slugAt (route : Route) (current args : Arguments) (hole : Hole) : Option Text :=
  (route.chosenValue current args hole.placeholder.name).map Slug.ofText

def refusal (route : Route) (current args : Arguments) (hole : Hole) : RouteError :=
  .argument route.displayName hole.placeholder.name
    (route.chosenValue current args hole.placeholder.name)

theorem resolveHole_eq (route : Route) (current args : Arguments) (hole : Hole) :
    route.resolveHole current args hole =
      if route.takes current args hole then .ok (route.slugAt current args hole)
      else .error (route.refusal current args hole) := by
  unfold takes
  simp only [resolveHole, slugAt, refusal]
  cases route.chosenValue current args hole.placeholder.name with
  | none => rfl
  | some value =>
    simp only [slugOf?]
    by_cases taken : (hole.validator.isMatch value && !(Slug.ofText value).isEmpty) = true
    · simp only [if_pos taken, Option.map_some]
    · simp only [if_neg taken]

theorem mapM_eq_first {α β ε : Type} {f : α → Except ε β} {passes : α → Bool} {value : α → β}
    {fault : α → ε} {xs : List α}
    (each : ∀ x ∈ xs, f x = if passes x then .ok (value x) else .error (fault x)) :
    xs.mapM f = match xs.find? (!passes ·) with
      | none => .ok (xs.map value)
      | some x => .error (fault x) := by
  induction xs with
  | nil => rfl
  | cons x xs ih =>
    obtain ⟨here, later⟩ := List.forall_mem_cons.mp each
    rw [List.mapM_cons, here, ih later]
    cases decided : passes x with
    | false =>
      rw [List.find?_cons_of_pos (by simp [decided])]
      rfl
    | true =>
      rw [List.find?_cons_of_neg (by simp [decided])]
      cases xs.find? (!passes ·) <;> rfl

-- The first hole, in the order of the template, that refuses.
def refuser? (route : Route) (current args : Arguments) : Option Hole :=
  route.holes.find? (!route.takes current args ·)

theorem resolve_eq (route : Route) (current args : Arguments) :
    route.resolve current args = match route.refuser? current args with
      | none => .ok (route.holes.map (route.slugAt current args))
      | some hole => .error (route.refusal current args hole) := by
  have each : ∀ hole ∈ route.holes, route.resolveHole current args hole =
      if route.takes current args hole then .ok (route.slugAt current args hole)
      else .error (route.refusal current args hole) :=
    fun hole _ => route.resolveHole_eq current args hole
  rw [resolve, mapM_eq_first each, refuser?]
  cases route.holes.find? (!route.takes current args ·) <;> rfl

theorem refuser?_eq_none :
    route.refuser? current args = none ↔ ∀ hole ∈ route.holes, route.takes current args hole = true := by
  simp [refuser?]

theorem refuses_of_refuser {hole : Hole} (first : route.refuser? current args = some hole) :
    hole ∈ route.holes ∧ route.takes current args hole = false := by
  have refuses := List.find?_some first
  exact ⟨List.mem_of_find?_eq_some first, by simpa using refuses⟩

def pathOf (route : Route) (current args : Arguments) : Text :=
  Path.generated (fill route.template.segments (route.holes.map (route.slugAt current args)))

-- What no placeholder takes is added as a query, if there is any.
def withQuery (route : Route) (args : Arguments) (url : Text) : Text :=
  if (route.queryOf args).isEmpty then url else url ++ ['?'] ++ route.queryOf args

theorem makeFrom_eq (route : Route) (current : Arguments) (hint : Text) (args : Arguments)
    (relative : Bool) :
    route.makeFrom current hint args relative = match route.refuser? current args with
      | none => (route.locate hint (route.pathOf current args) relative).map (route.withQuery args)
      | some hole => .error (route.refusal current args hole) := by
  unfold makeFrom
  rw [resolve_eq]
  cases route.refuser? current args with
  | some hole => rfl
  | none =>
    change (route.locate hint (route.pathOf current args) relative).bind _ = _
    cases route.locate hint (route.pathOf current args) relative <;> rfl

theorem makeFrom_eq_ok {hint url : Text} {relative : Bool} :
    route.makeFrom current hint args relative = .ok url ↔
      route.refuser? current args = none ∧
        ∃ place, route.locate hint (route.pathOf current args) relative = .ok place ∧
          url = route.withQuery args place := by
  rw [makeFrom_eq]
  cases refused : route.refuser? current args with
  | some hole => simp
  | none =>
    cases located : route.locate hint (route.pathOf current args) relative with
    | error fault => simp [Except.map]
    | ok place => simp [Except.map, eq_comm]

theorem checkFrom_iff {target : Text} :
    route.checkFrom current target args = true ↔
      route.target = target ∧ route.refuser? current args = none := by
  rw [checkFrom, resolve_eq, Bool.and_eq_true, beq_iff_eq]
  cases route.refuser? current args <;> simp [Except.toOption]

theorem locate_error {hint path : Text} {relative : Bool} {fault : RouteError}
    (failed : route.locate hint path relative = .error fault) :
    fault = .missingHost route.displayName := by
  unfold locate at failed
  split at failed
  · split at failed <;> cases failed
  · split at failed
    · exact (Except.error.inj failed).symm
    · cases failed

def Refused (result : Except RouteError Text) : Prop :=
  ∃ name placeholder value, result = .error (.argument name placeholder value)

theorem makeFrom_outcome (route : Route) (current : Arguments) (hint : Text) (args : Arguments)
    (relative : Bool) :
    (∃ hole, route.refuser? current args = some hole ∧
      route.makeFrom current hint args relative = .error (route.refusal current args hole)) ∨
    route.refuser? current args = none ∧
      ((∃ url, route.makeFrom current hint args relative = .ok url) ∨
        route.makeFrom current hint args relative = .error (.missingHost route.displayName)) := by
  rw [makeFrom_eq]
  cases route.refuser? current args with
  | some hole => exact Or.inl ⟨hole, rfl, rfl⟩
  | none =>
    right
    refine ⟨rfl, ?_⟩
    cases located : route.locate hint (route.pathOf current args) relative with
    | ok url => exact Or.inl ⟨_, rfl⟩
    | error fault =>
      obtain rfl := locate_error located
      exact Or.inr rfl

theorem not_refused_iff {hint : Text} {relative : Bool} :
    ¬ Refused (route.makeFrom current hint args relative) ↔ route.refuser? current args = none := by
  rcases route.makeFrom_outcome current hint args relative with
    ⟨hole, refused, made⟩ | ⟨taken, ⟨url, made⟩ | made⟩
  · rw [made, refused]
    constructor
    · intro fine
      exact absurd ⟨_, _, _, rfl⟩ fine
    · nofun
  · rw [made, taken]
    exact ⟨fun _ => rfl, fun _ => nofun⟩
  · rw [made, taken]
    exact ⟨fun _ => rfl, fun _ => nofun⟩

theorem makeFrom_ne_routeNotFound {hint sought : Text} {relative : Bool} :
    route.makeFrom current hint args relative ≠ .error (.routeNotFound sought) := by
  rcases route.makeFrom_outcome current hint args relative with
    ⟨hole, _, made⟩ | ⟨_, ⟨url, made⟩ | made⟩
  all_goals
    rw [made]
    nofun

section

variable {other otherArgs : Arguments}

theorem chosenValue_congr {name : Text}
    (agree : args.contains name = false → current.lookup name = other.lookup name) :
    route.chosenValue current args name = route.chosenValue other args name := by
  unfold chosenValue
  cases given : args.lookup name with
  | some value => rfl
  | none =>
    have missing : args.contains name = false := by rw [Arguments.contains, given]; rfl
    rw [agree missing]

-- Two layers of arguments that give every hole the same value.
def SameValues (route : Route) (current args other otherArgs : Arguments) : Prop :=
  ∀ hole ∈ route.holes, route.chosenValue current args hole.placeholder.name =
    route.chosenValue other otherArgs hole.placeholder.name

theorem SameValues.refuser? (same : route.SameValues current args other otherArgs) :
    route.refuser? current args = route.refuser? other otherArgs := by
  apply List.find?_congr
  intro hole listed
  rw [takes, takes, same hole listed]

theorem SameValues.pathOf (same : route.SameValues current args other otherArgs) :
    route.pathOf current args = route.pathOf other otherArgs := by
  have slugs : route.holes.map (route.slugAt current args) =
      route.holes.map (route.slugAt other otherArgs) := by
    apply List.map_congr_left
    intro hole listed
    rw [slugAt, slugAt, same hole listed]
  rw [Route.pathOf, slugs, Route.pathOf]

theorem SameValues.makeFrom (same : route.SameValues current args other otherArgs)
    (query : route.queryOf args = route.queryOf otherArgs) (hint : Text) (relative : Bool) :
    route.makeFrom current hint args relative = route.makeFrom other hint otherArgs relative := by
  have added : route.withQuery args = route.withQuery otherArgs := by
    funext url
    rw [withQuery, withQuery, query]
  rw [makeFrom_eq, makeFrom_eq, same.refuser?, same.pathOf, added]
  cases first : route.refuser? other otherArgs with
  | none => rfl
  | some hole =>
    have listed := (refuses_of_refuser first).1
    simp only [refusal, same hole listed]

end

theorem locate_named {hint path url : Text} {relative : Bool}
    (located : route.locate hint path relative = .ok url) (name : Text) :
    ({ route with name := some name } : Route).locate hint path relative = .ok url := by
  unfold locate at located ⊢
  cases hosted : route.host with
  | none =>
    rw [hosted] at located
    exact located
  | some pattern =>
    rw [hosted] at located
    by_cases unknown : hint.isEmpty = true
    · simp only [if_pos unknown] at located
      cases located
    · simp only [if_neg unknown] at located ⊢
      exact located

theorem makeFrom_named {hint url : Text} {relative : Bool}
    (made : route.makeFrom current hint args relative = .ok url) (name : Text) :
    ({ route with name := some name } : Route).makeFrom current hint args relative = .ok url := by
  obtain ⟨taken, place, located, rfl⟩ := makeFrom_eq_ok.mp made
  exact makeFrom_eq_ok.mpr ⟨taken, place, locate_named located name, rfl⟩

end RouteTable.Route
