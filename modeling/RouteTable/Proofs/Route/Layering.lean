import RouteTable.Proofs.Arguments
import RouteTable.Proofs.Route.Checked

namespace RouteTable

namespace Arguments

variable {args current : Arguments} {name : Text}

-- Takes over the entry of a name unless there is one already.
def adopt (current args : Arguments) (name : Text) : Arguments :=
  match args.lookup name, current.lookup name with
  | none, some value => args.set name value
  | _, _ => args

theorem lookup_adopt (current args : Arguments) (name other : Text) :
    (adopt current args name).lookup other =
      if other = name then (args.lookup name).or (current.lookup name) else args.lookup other := by
  by_cases here : other = name
  · subst here
    rw [if_pos rfl]
    unfold adopt
    cases kept : args.lookup other with
    | some value => exact kept
    | none =>
      cases given : current.lookup other with
      | none => exact kept
      | some value => rw [lookup_set, if_pos rfl]; rfl
  · rw [if_neg here]
    unfold adopt
    split
    · rw [lookup_set, if_neg here]
    · rfl

theorem lookup_foldl_adopt (current : Arguments) (names : List Text) (args : Arguments)
    (other : Text) :
    (names.foldl (adopt current) args).lookup other =
      (args.lookup other).or (if other ∈ names then current.lookup other else none) := by
  induction names generalizing args with
  | nil => simp
  | cons name names ih =>
    rw [List.foldl_cons, ih, lookup_adopt]
    by_cases here : other = name
    · subst here
      rw [if_pos rfl, if_pos List.mem_cons_self, Option.or_assoc]
      split
      · rw [Option.or_self]
      · rw [Option.or_none]
    · simp only [List.mem_cons, here, if_false, false_or]

end Arguments

namespace Route

variable {route : Route} {current other args defaults : Arguments} {hint name : Text}
  {relative : Bool}

-- The arguments of the caller, with the current ones for the placeholders that they do not have.
def layered (route : Route) (current args : Arguments) : Arguments :=
  (route.template.placeholders.map (·.name)).foldl (Arguments.adopt current) args

theorem lookup_layered (route : Route) (current args : Arguments) (name : Text) :
    (route.layered current args).lookup name = (args.lookup name).or
      (if name ∈ route.template.placeholders.map (·.name) then current.lookup name else none) :=
  Arguments.lookup_foldl_adopt current _ args name

theorem queryOf_set {value : Option Text} (known : route.template.hasPlaceholder name = true) :
    route.queryOf (args.set name value) = route.queryOf args := by
  refine congrArg (['&'].intercalate) ?_
  unfold Arguments.set
  induction args.entries with
  | nil => exact List.filterMap_cons_none (if_pos known)
  | cons entry rest ih =>
    obtain ⟨key, old⟩ := entry
    unfold Arguments.setEntry
    split
    · next same =>
      subst same
      rw [List.filterMap_cons, List.filterMap_cons]
      simp only [if_pos known]
    · rw [List.filterMap_cons, List.filterMap_cons, ih]

theorem queryOf_adopt (known : route.template.hasPlaceholder name = true) :
    route.queryOf (Arguments.adopt current args name) = route.queryOf args := by
  unfold Arguments.adopt
  split
  · exact queryOf_set known
  · rfl

theorem queryOf_layered (route : Route) (current args : Arguments) :
    route.queryOf (route.layered current args) = route.queryOf args := by
  have known : ∀ name ∈ route.template.placeholders.map (·.name),
      route.template.hasPlaceholder name = true := by
    intro name member
    rw [Template.placeholders_eq] at member
    exact hasPlaceholder_iff.mpr member
  unfold layered
  generalize route.template.placeholders.map (·.name) = names at known
  induction names generalizing args with
  | nil => rfl
  | cons name names ih =>
    obtain ⟨here, later⟩ := List.forall_mem_cons.mp known
    rw [List.foldl_cons, ih _ later, queryOf_adopt here]

theorem chosenValue_layered (listed : name ∈ route.template.placeholders.map (·.name)) :
    route.chosenValue .empty (route.layered current args) name =
      route.chosenValue current args name := by
  unfold chosenValue
  rw [lookup_layered, if_pos listed, Option.or_assoc]
  rfl

theorem chosenValue_defaults (agree : args.contains name = false → current.contains name = false →
      defaults.lookup name = route.defaults.lookup name) :
    ({ route with defaults } : Route).chosenValue current args name =
      route.chosenValue current args name := by
  unfold chosenValue
  cases given : args.lookup name with
  | some value => rfl
  | none =>
    cases known : current.lookup name with
    | some value => rfl
    | none =>
      have missing : args.contains name = false := by rw [Arguments.contains, given]; rfl
      have absent : current.contains name = false := by rw [Arguments.contains, known]; rfl
      rw [agree missing absent]

theorem makeFrom_defaults (agree : ∀ hole ∈ route.holes,
      ({ route with defaults } : Route).chosenValue current args hole.placeholder.name =
        route.chosenValue current args hole.placeholder.name) :
    ({ route with defaults } : Route).makeFrom current hint args relative =
      route.makeFrom current hint args relative := by
  have refused : ({ route with defaults } : Route).refuser? current args =
      route.refuser? current args := by
    refine List.find?_congr fun hole listed => ?_
    rw [takes, takes, agree hole listed]
  have path : ({ route with defaults } : Route).pathOf current args = route.pathOf current args := by
    have slugs : route.holes.map (({ route with defaults } : Route).slugAt current args) =
        route.holes.map (route.slugAt current args) :=
      List.map_congr_left fun hole listed => by rw [slugAt, slugAt, agree hole listed]
    exact congrArg (fun values => Path.generated (fill route.template.segments values)) slugs
  rw [makeFrom_eq, makeFrom_eq, refused, path]
  cases first : route.refuser? current args with
  | none => rfl
  | some hole =>
    have listed : hole ∈ route.holes := List.mem_of_find?_eq_some first
    simp only [refusal, agree hole listed]
    rfl

theorem chosenValue_of_blocked (given : args.contains name = true)
    (blank : (args.get? name).filter (!·.isEmpty) = none) :
    route.chosenValue current args name = none := by
  obtain ⟨value, found⟩ := Option.isSome_iff_exists.mp given
  rw [Arguments.get?, found] at blank
  rw [chosenValue, found]
  exact blank

theorem refused_of_missing {hole : Hole} (listed : hole ∈ route.holes)
    (required : hole.placeholder.optional = false)
    (missing : route.chosenValue current args hole.placeholder.name = none) :
    Refused (route.makeFrom current hint args relative) := by
  by_contra fine
  have taken := refuser?_eq_none.mp (not_refused_iff.mp fine) hole listed
  rw [takes, missing] at taken
  exact absurd (required.symm.trans taken) Bool.false_ne_true

-- What the layers of arguments have to do with the URL of a route.
structure Layered (route : Route) (current args : Arguments) (hint : Text) (relative : Bool) :
    Prop where
  merged : route.makeFrom current hint args relative =
    route.make hint (route.layered current args) relative
  entries : ∀ name, (route.layered current args).lookup name = (args.lookup name).or
    (if name ∈ route.template.placeholders.map (·.name) then current.lookup name else none)
  blocked : ∀ hole ∈ route.holes, args.contains hole.placeholder.name = true →
    (args.get? hole.placeholder.name).filter (!·.isEmpty) = none →
    ∀ other defaults : Arguments,
      ({ route with defaults } : Route).chosenValue other args hole.placeholder.name = none ∧
      (hole.placeholder.optional = false →
        Refused (({ route with defaults } : Route).makeFrom other hint args relative))
  shadowed : ∀ other : Arguments, (∀ name ∈ route.template.placeholders.map (·.name),
      args.contains name = false → other.lookup name = current.lookup name) →
    route.makeFrom other hint args relative = route.makeFrom current hint args relative
  unneeded : ∀ defaults : Arguments, (∀ name ∈ route.template.placeholders.map (·.name),
      args.contains name = false → current.contains name = false →
        defaults.lookup name = route.defaults.lookup name) →
    ({ route with defaults } : Route).makeFrom current hint args relative =
      route.makeFrom current hint args relative
  query : ∀ (other defaults : Arguments) (url : Text),
    ({ route with defaults } : Route).makeFrom other hint args relative = .ok url →
      ∃ path place, route.locate hint path relative = .ok place ∧ url = route.withQuery args place

theorem makeFrom_layered (built : Built route) (current args : Arguments) (hint : Text)
    (relative : Bool) : Layered route current args hint relative := by
  have named : ∀ hole ∈ route.holes,
      hole.placeholder.name ∈ route.template.placeholders.map (·.name) := by
    intro hole listed
    rw [← built.placeholders]
    exact List.mem_map_of_mem (List.mem_map_of_mem listed)
  refine ⟨?_, lookup_layered route current args, ?_, ?_, ?_, ?_⟩
  · have same : route.SameValues current args .empty (route.layered current args) :=
      fun hole listed => (chosenValue_layered (named hole listed)).symm
    exact same.makeFrom (route.queryOf_layered current args).symm hint relative
  · intro hole listed given blank other defaults
    have missing : ({ route with defaults } : Route).chosenValue other args hole.placeholder.name =
        none :=
      chosenValue_of_blocked given blank
    exact ⟨missing, fun required => refused_of_missing listed required missing⟩
  · intro other agree
    have same : route.SameValues other args current args :=
      fun hole listed => chosenValue_congr (agree _ (named hole listed))
    exact same.makeFrom rfl hint relative
  · intro defaults agree
    exact makeFrom_defaults fun hole listed => chosenValue_defaults (agree _ (named hole listed))
  · intro other defaults url made
    obtain ⟨_, place, located, added⟩ := makeFrom_eq_ok.mp made
    exact ⟨_, place, located, added⟩

-- The current page serves again, without what is no placeholder; an empty slug of the caller hides it.
theorem makeFrom_layered_docs :
    (standardRoute "page" docs).makeFrom (docsArgs.insert "draft" "1") [] .empty true =
        .ok ("./".toList ++ "docs.v1/intro/2/") ∧
      Refused ((standardRoute "page" docs).makeFrom docsArgs [] (Arguments.empty.insert "slug" [])
        true) := by
  constructor
  · have merged := (makeFrom_layered (built_docs "page") (docsArgs.insert "draft" "1") .empty []
      true).merged
    have filled : (standardRoute "page" docs).layered (docsArgs.insert "draft" "1") .empty =
        docsArgs := by
      decide
    rw [merged, filled, make_docs]
  · have layered := makeFrom_layered (built_docs "page") docsArgs (Arguments.empty.insert "slug" [])
      [] true
    exact (layered.blocked _ List.mem_cons_self rfl rfl docsArgs .empty).2 rfl

end Route

end RouteTable
