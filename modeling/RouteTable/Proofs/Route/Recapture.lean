import RouteTable.Proofs.Route.Agreement
import RouteTable.Proofs.Route.Checked

namespace RouteTable

namespace Route

variable {route : Route} {matched : Arguments}

-- Whether a hole takes again what was captured for it.
def regenerates (matched : Arguments) (hole : Hole) : Bool :=
  match matched.get? hole.placeholder.name with
  | none => hole.placeholder.optional
  | some value => hole.validator.isMatch value && !(Slug.ofText value).isEmpty

-- Whether there is a slug for a hole, or the hole may be left out.
def hasSlug (matched : Arguments) (hole : Hole) : Bool :=
  match matched.get? hole.placeholder.name with
  | none => hole.placeholder.optional
  | some value => !(Slug.ofText value).isEmpty

def recaptured (matched : Arguments) (hole : Hole) : Option Text :=
  (matched.get? hole.placeholder.name).map Slug.ofText

def selfLink (route : Route) (matched : Arguments) : Text :=
  "./".toList ++
    Path.generated (fill route.template.segments (route.holes.map (recaptured matched)))

-- Arguments that hold a capture for every hole: something or nothing, but no empty text.
def Captures (route : Route) (matched : Arguments) : Prop :=
  ∀ hole ∈ route.holes, ∃ captured, matched.lookup hole.placeholder.name = some captured ∧
    captured ≠ some []

theorem captures_of_match {path : Text} (accepted : route.matchPath? path = some matched) :
    route.Captures matched := by
  obtain ⟨marks, _, lookups⟩ := lookup_of_match accepted
  intro hole listed
  have known : hole.placeholder.name ∈ route.holes.map (·.placeholder.name) :=
    List.mem_map_of_mem listed
  refine ⟨_, (lookups _).trans (if_pos known), ?_⟩
  intro empty
  have filled := (Option.filter_eq_some_iff.mp empty).2
  cases filled

theorem nonempty_of_captures {captured : Option Text} (filled : captured ≠ some []) :
    captured.filter (!·.isEmpty) = captured := by
  cases captured with
  | none => rfl
  | some value =>
    cases value with
    | nil => exact absurd rfl filled
    | cons => rfl

theorem chosenValue_of_captures (captures : route.Captures matched) {hole : Hole}
    (listed : hole ∈ route.holes) :
    route.chosenValue matched .empty hole.placeholder.name =
      matched.get? hole.placeholder.name := by
  obtain ⟨captured, found, filled⟩ := captures hole listed
  have known : route.chosenValue matched .empty hole.placeholder.name =
      captured.filter (!·.isEmpty) := by
    rw [chosenValue, found]
    rfl
  rw [known, Arguments.get?, found, nonempty_of_captures filled]
  rfl

theorem takes_of_captures (captures : route.Captures matched) {hole : Hole}
    (listed : hole ∈ route.holes) :
    route.takes matched .empty hole = regenerates matched hole := by
  have chosen := chosenValue_of_captures captures listed
  cases captured : matched.get? hole.placeholder.name <;>
    simp only [takes, regenerates, chosen, captured]

theorem slugAt_of_captures (captures : route.Captures matched) {hole : Hole}
    (listed : hole ∈ route.holes) : route.slugAt matched .empty hole = recaptured matched hole := by
  rw [slugAt, chosenValue_of_captures captures listed, recaptured]

theorem Standard.regenerates {path : Text} (standard : Standard route)
    (accepted : route.matchPath? path = some matched) :
    ∀ hole ∈ route.holes, Route.regenerates matched hole = true := by
  obtain ⟨values, whole, reading, _, lookups, _⟩ := standard.reading_of_match accepted
  have suited := suits_of_reading reading (chosen_of_lookups route lookups)
  intro hole listed
  have suits := suited hole.placeholder
    (standard.placeholders ▸ List.mem_map_of_mem listed)
  obtain ⟨captured, found, filled⟩ := captures_of_match accepted hole listed
  rw [chosenValue_of_lookup found, nonempty_of_captures filled] at suits
  rw [Route.regenerates, Arguments.get?, found]
  cases captured with
  | none => exact suits
  | some value =>
    have slug : (Slug.ofText value).isEmpty = false := by
      simpa using slug_nonempty suits.1 suits.2
    change (hole.validator.isMatch value && !(Slug.ofText value).isEmpty) = true
    rw [standard.validators hole listed, isMatch_validator.mpr suits, slug]
    rfl

theorem Built.regenerates_eq (built : Built route)
    (alone : ∀ hole ∈ route.holes, (Regex.Ast.ofText? hole.requirement).isSome = true) {path : Text}
    (accepted : route.matchPath? path = some matched) {hole : Hole} (listed : hole ∈ route.holes)
    (lookFree : Requirement.LookFree hole.requirement) :
    Route.regenerates matched hole = hasSlug matched hole := by
  unfold Route.regenerates hasSlug
  cases captured : matched.get? hole.placeholder.name with
  | none => rfl
  | some value =>
    have taken := built.isMatch_of_captured alone accepted listed lookFree captured
    simp only [taken, Bool.true_and]

theorem makeFrom_of_captures (captures : route.Captures matched) (hostless : route.host = none)
    (hint : Text) :
    route.makeFrom matched hint .empty true =
      match route.holes.find? (!regenerates matched ·) with
      | none => .ok (route.selfLink matched)
      | some hole => .error (.argument route.displayName hole.placeholder.name
          (matched.get? hole.placeholder.name)) := by
  have refused : route.refuser? matched .empty = route.holes.find? (!regenerates matched ·) := by
    apply List.find?_congr
    intro hole listed
    rw [takes_of_captures captures listed]
  have path : "./".toList ++ route.pathOf matched .empty = route.selfLink matched := by
    rw [pathOf, List.map_congr_left fun hole listed => slugAt_of_captures captures listed]
    rfl
  rw [makeFrom_eq, refused]
  cases first : route.holes.find? (!regenerates matched ·) with
  | none =>
    rw [← path, locate, hostless]
    rfl
  | some hole =>
    have listed := List.mem_of_find?_eq_some first
    simp only [refusal, chosenValue_of_captures captures listed]

-- Every hole is given what was captured for it.
def GivesBack (route : Route) (matched current args : Arguments) : Prop :=
  ∀ hole ∈ route.holes, firstValue hole.placeholder.name (route.layers current args) =
    matched.get? hole.placeholder.name

theorem firstValue_of_captures (captures : route.Captures matched) {hole : Hole}
    (listed : hole ∈ route.holes) (later : List Arguments) :
    firstValue hole.placeholder.name (matched :: later) = matched.get? hole.placeholder.name := by
  obtain ⟨captured, found, filled⟩ := captures hole listed
  rw [firstValue_cons, Arguments.get?, found]
  exact nonempty_of_captures filled

structure Recapturable (route : Route) (matched : Arguments) : Prop where
  accepted : ∀ hole ∈ route.holes, ∀ value, matched.get? hole.placeholder.name = some value →
    hole.validator.isMatch value = true
  given : ∀ current, GivesBack route matched current matched
  kept : ∀ args, (∀ hole ∈ route.holes, args.lookup hole.placeholder.name = none) →
    GivesBack route matched matched args
  refused : ∀ current args, GivesBack route matched current args →
    ∀ hint relative shown name value,
      route.makeFrom current hint args relative = .error (.argument shown name value) →
      ∃ hole ∈ route.holes, name = hole.placeholder.name ∧
        (value = none ∧ hole.placeholder.optional = false ∨
          ∃ text, value = some text ∧ hole.validator.isMatch text = true ∧ Slug.ofText text = [])

-- No captured value fails its requirement when it comes back.
theorem recapturable_of_match (built : Built route)
    (alone : ∀ hole ∈ route.holes, (Regex.Ast.ofText? hole.requirement).isSome = true)
    (lookFree : ∀ hole ∈ route.holes, Requirement.LookFree hole.requirement) {path : Text}
    (taken : route.matchPath? path = some matched) : Recapturable route matched := by
  have captures := captures_of_match taken
  have accepted : ∀ hole ∈ route.holes, ∀ value,
      matched.get? hole.placeholder.name = some value → hole.validator.isMatch value = true :=
    fun hole listed value => built.isMatch_of_captured alone taken listed (lookFree hole listed)
  refine ⟨accepted, ?_, ?_, ?_⟩
  · exact fun current hole listed => firstValue_of_captures captures listed _
  · intro args free hole listed
    rw [layers, firstValue_cons, free hole listed]
    exact firstValue_of_captures captures listed _
  · intro current args back hint relative shown name value failed
    obtain ⟨hole, ⟨earlier, later, holes, _, fails⟩, _, rfl, rfl⟩ :=
      (route.decided_of_makeFrom current hint args relative).first _ _ _ failed
    have listed : hole ∈ route.holes := holes ▸ List.mem_append_right _ List.mem_cons_self
    refine ⟨hole, listed, rfl, ?_⟩
    -- The fault comes from a captured value, which the validator accepts: only the slug can fail.
    have same := back hole listed
    cases given : firstValue hole.placeholder.name (route.layers current args) with
    | none =>
      rw [given] at fails
      cases fails with
      | missing required => exact Or.inl ⟨rfl, required⟩
    | some text =>
      have kept := accepted hole listed text (same.symm.trans given)
      rw [given] at fails
      refine Or.inr ⟨text, rfl, kept, ?_⟩
      cases fails with
      | rejected refused =>
        rw [kept] at refused
        cases refused
      | slugless empty => exact empty

theorem recapturable_of_match_docs :
    ∃ matched, (standardRoute "page" docs).matchPath? "/DOCS.v1/Intro/2/" = some matched ∧
      Recapturable (standardRoute "page" docs) matched := by
  have default := hasDefaultRequirements_standardRoute "page" docs
  obtain ⟨matched, taken⟩ := Option.isSome_iff_exists.mp docs_accepts
  exact ⟨matched, taken,
    recapturable_of_match (built_docs "page") default.alone default.lookFree taken⟩

end Route

end RouteTable
