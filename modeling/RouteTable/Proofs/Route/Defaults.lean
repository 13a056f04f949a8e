import RouteTable.Proofs.Route.Outcome
import RouteTable.Proofs.Route.Slugs
import RouteTable.Proofs.Router.SelfLink
import RouteTable.Proofs.Slug.Runs

namespace RouteTable.Route

open Regex

variable {route : Route} {hole : Hole} {value : Text}

def defaultOf (route : Route) (hole : Hole) : Option Text :=
  route.defaults.get? hole.placeholder.name

def Defaulted (route : Route) : Prop :=
  ∀ hole ∈ route.holes, hole.placeholder.optional = false → (route.defaultOf hole).isSome = true

-- A default that no URL can be made of. An empty one leaves an optional placeholder out instead.
def Slugless (route : Route) (hole : Hole) : Prop :=
  ∃ value, route.defaultOf hole = some value ∧ Slug.ofText value = [] ∧
    (value = [] → hole.placeholder.optional = false)

theorem slugless_iff (set : route.defaultOf hole = some value) :
    route.Slugless hole ↔
      Slug.ofText value = [] ∧ (value = [] → hole.placeholder.optional = false) := by
  constructor
  · intro slugless
    obtain ⟨other, found, lacks⟩ := slugless
    obtain rfl := Option.some.inj (set.symm.trans found)
    exact lacks
  · intro lacks
    exact ⟨value, set, lacks⟩

theorem Built.isMatch_default (built : Built route) (listed : hole ∈ route.holes)
    (set : route.defaultOf hole = some value) : hole.validator.isMatch value = true := by
  obtain ⟨text, consistent⟩ := built.consistent
  exact consistent.defaults hole listed value set

theorem Built.not_slugless (built : Built route) (listed : hole ∈ route.holes)
    (standard : (route.defaultOf hole).isSome = true → hole.requirement = defaultRequirement) :
    ¬ route.Slugless hole := by
  intro slugless
  obtain ⟨value, set, lacks, _⟩ := slugless
  have accepted := built.isMatch_default listed set
  have plain := built.standardValidator listed (standard (Option.isSome_of_eq_some set))
  rw [plain] at accepted
  obtain ⟨nonempty, units⟩ := isMatch_validator.mp accepted
  exact (survives_of_units nonempty units).nonempty lacks

theorem chosenValue_empty (route : Route) (hole : Hole) :
    route.chosenValue .empty .empty hole.placeholder.name =
      (route.defaultOf hole).filter (!·.isEmpty) := rfl

theorem takes_default (built : Built route) (defaulted : route.Defaulted)
    (listed : hole ∈ route.holes) :
    route.takes .empty .empty hole = true ↔ ¬ route.Slugless hole := by
  have chosen := chosenValue_empty route hole
  cases set : route.defaultOf hole with
  | none =>
    have left : ¬ route.Slugless hole := by
      intro slugless
      obtain ⟨value, found, _⟩ := slugless
      cases set.symm.trans found
    have optional : hole.placeholder.optional = true := by
      by_contra required
      have filled := defaulted hole listed (Bool.eq_false_iff.mpr required)
      rw [set] at filled
      cases filled
    rw [set] at chosen
    rw [takes, chosen]
    exact iff_of_true optional left
  | some value =>
    rw [set] at chosen
    rw [slugless_iff set, takes, chosen]
    cases value with
    | nil =>
      -- An empty text counts as none.
      change hole.placeholder.optional = true ↔ ¬([] = [] ∧ _)
      simp
    | cons c rest =>
      have accepted := built.isMatch_default listed set
      change (hole.validator.isMatch (c :: rest) && !(Slug.ofText (c :: rest)).isEmpty) = true ↔ _
      simp [accepted]

-- What comes of generating a URL out of defaults.
structure MadeOfDefaults (route : Route) (result : Except RouteError Text) : Prop where
  accepted : ∀ hole ∈ route.holes, ∀ value, route.defaultOf hole = some value →
    hole.validator.isMatch value = true
  refused : Refused result ↔ ∃ hole ∈ route.holes, route.Slugless hole
  named : ∀ shown placeholder value, result = .error (.argument shown placeholder value) →
    ∃ hole ∈ route.holes, route.Slugless hole ∧ placeholder = hole.placeholder.name ∧
      value = (route.defaultOf hole).filter (!·.isEmpty)
  standard : (∀ hole ∈ route.holes, (route.defaultOf hole).isSome = true →
    hole.requirement = defaultRequirement) → ¬ Refused result

theorem make_of_defaults (built : Built route) (defaulted : route.Defaulted) (hint : Text)
    (relative : Bool) : MadeOfDefaults route (route.make hint .empty relative) := by
  have takes (hole : Hole) (listed : hole ∈ route.holes) :
      route.takes .empty .empty hole = true ↔ ¬ route.Slugless hole :=
    takes_default built defaulted listed
  have fine : ¬ Refused (route.make hint .empty relative) ↔
      ∀ hole ∈ route.holes, ¬ route.Slugless hole := by
    rw [make, not_refused_iff, refuser?_eq_none]
    exact forall₂_congr takes
  refine ⟨?_, ?_, ?_, ?_⟩
  · intro hole listed value set
    exact built.isMatch_default listed set
  · rw [← not_iff_not, fine]
    simp only [not_exists, not_and]
  · intro shown placeholder value failed
    rcases route.makeFrom_outcome .empty hint .empty relative with
      ⟨hole, first, made⟩ | ⟨_, ⟨url, made⟩ | made⟩
    · obtain ⟨listed, refuses⟩ := refuses_of_refuser first
      have slugless : route.Slugless hole := by
        by_contra fits
        rw [(takes hole listed).mpr fits] at refuses
        cases refuses
      cases made.symm.trans failed
      exact ⟨hole, listed, slugless, rfl, chosenValue_empty route hole⟩
    · cases made.symm.trans failed
    · cases made.symm.trans failed
  · intro standard
    refine fine.mpr ?_
    intro hole listed
    exact built.not_slugless listed (standard hole listed)

def introduced : Route :=
  { standardRoute "page" docs with defaults := Arguments.empty.insert "slug" "Intro" }

theorem withDefault_docs : (standardRoute "page" docs).withDefault "slug" "Intro" = .ok introduced := by
  have accepted : (sequence validatorAtoms).isMatch "Intro" = true :=
    isMatch_validator.mpr ⟨by decide, units_of_ascii (by decide) (by decide)⟩
  exact if_pos accepted

-- The second placeholder is optional and has no default.
theorem make_of_defaults_introduced :
    introduced.Defaulted ∧ ¬ Refused (introduced.make [] .empty true) := by
  have built : Built introduced := (built_docs "page").withDefault withDefault_docs
  have defaulted : introduced.Defaulted := by
    unfold Defaulted
    decide
  have made := make_of_defaults built defaulted [] true
  exact ⟨defaulted, made.standard fun hole listed _ =>
    hasDefaultRequirements_standardRoute "page" docs hole listed⟩

def exclaimed : Route :=
  { Router.titled with defaults := Arguments.empty.insert "title" "!!!" }

theorem withDefault_titled : Router.titled.withDefault "title" "!!!" = .ok exclaimed := by
  have line : "!!!".toList.all (Unicode.CharSet.compl (.single '\n')).contains = true := by decide
  have accepted : Router.titleHole.validator.isMatch "!!!" = true :=
    isMatch_whole.mpr ⟨List.cons_ne_nil _ _, List.all_eq_true.mp line⟩
  exact if_pos accepted

theorem ofText_exclaimed : Slug.ofText "!!!" = [] := by
  refine Slug.ofText_eq_nil.mpr fun c member => ?_
  obtain rfl : c = '!' := by simpa using member
  rw [Slug.spelled_of_ascii (by decide)]
  intro letter written
  obtain rfl := List.mem_singleton.mp written
  rw [Unicode.foldCase_of_ascii (by decide)]
  decide

theorem make_of_defaults_exclaimed :
    Router.titled.withDefault "title" "!!!" = .ok exclaimed ∧ Built exclaimed ∧
      exclaimed.Defaulted ∧
      exclaimed.make [] .empty true =
        .error (.argument "/\x7btitle:.\x7d" "title" (some "!!!")) := by
  have built : Built exclaimed := (Built.ofTemplate Router.ofTemplate_titled).withDefault withDefault_titled
  refine ⟨withDefault_titled, built, ?_, ?_⟩
  · unfold Defaulted
    decide
  · have refuses : exclaimed.takes .empty .empty Router.titleHole = false := by
      change (Router.titleHole.validator.isMatch "!!!" && !(Slug.ofText "!!!").isEmpty) = false
      rw [ofText_exclaimed]
      exact Bool.and_false _
    have first : exclaimed.refuser? .empty .empty = some Router.titleHole :=
      List.find?_cons_of_pos (by rw [refuses]; rfl)
    rw [make, makeFrom_eq, first]
    rfl

end RouteTable.Route
