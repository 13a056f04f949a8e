import RouteTable.Proofs.Route.Consistent

namespace RouteTable.Route

variable {route next : Route} {text name requirement : Text}
  {changes order part : List (Text × Text)}

def overrideAll (route : Route) (changes : List (Text × Text)) : Except RouteError Route :=
  changes.foldlM (fun route (name, requirement) => route.withRequirement name requirement) route

-- The requirements in force once all of these are replaced.
def overriddenBy (route : Route) (changes : List (Text × Text)) (placeholder : Placeholder) : Text :=
  (changes.lookup placeholder.name).getD (route.requirementOf placeholder)

-- With these requirements there is a matcher of the whole path.
def HasMatcher (route : Route) (changes : List (Text × Text)) : Prop :=
  (Regex.ofText? true
    (matcherPattern (route.overriddenBy changes) route.template.segments)).isSome = true

-- What is asked of one requirement, whatever the others are.
structure Fits (route : Route) (name requirement : Text) : Prop where
  known : route.template.hasPlaceholder name = true
  checked : Requirement.check name requirement = .ok ()
  validated : ∃ validator, Regex.ofText? true (Requirement.wholeValue requirement) = some validator ∧
    ∀ value, route.defaults.get? name = some value → validator.isMatch value = true

def Combined (route : Route) (changes : List (Text × Text)) (next : Route) : Prop :=
  ∃ matcher holes, compile route.template (route.overriddenBy changes) = .ok (matcher, holes) ∧
    next = { route with matcher, holes }

theorem overriddenBy_single (route : Route) (name requirement : Text) :
    route.overriddenBy [(name, requirement)] = route.overridden name requirement := by
  funext placeholder
  unfold overriddenBy overridden
  rw [List.lookup_cons]
  by_cases here : placeholder.name = name
  · simp [here]
  · simp [here, beq_false_of_ne here]

theorem Combined.unique {other : Route} (combined : route.Combined changes next)
    (combined' : route.Combined changes other) : next = other := by
  obtain ⟨matcher, holes, compiled, rfl⟩ := combined
  obtain ⟨matcher', holes', compiled', rfl⟩ := combined'
  obtain ⟨rfl, rfl⟩ := Prod.mk.inj (Except.ok.inj (compiled.symm.trans compiled'))
  rfl

theorem withRequirement_of_compile {matcher : Regex} {holes : List Hole}
    (known : route.template.hasPlaceholder name = true)
    (checked : Requirement.check name requirement = .ok ())
    (compiled : compile route.template (route.overridden name requirement) = .ok (matcher, holes))
    (accepted : ∀ value, route.defaults.get? name = some value →
      acceptsDefault holes name value = true) :
    route.withRequirement name requirement = .ok { route with matcher, holes } := by
  unfold overridden requirementOf at compiled
  unfold withRequirement overrideRequirement
  simp only [known, checked, compiled, bind, Except.bind, Bool.not_true, Bool.false_eq_true, if_false]
  cases set : route.defaults.get? name with
  | none => rfl
  | some value =>
    simp only [accepted value set, if_true]
    rfl

theorem exists_holes {requirementOf : Placeholder → Text} {placeholders : List Placeholder}
    (validated : ∀ placeholder ∈ placeholders,
      (Regex.ofText? true (Requirement.wholeValue (requirementOf placeholder))).isSome = true) :
    ∃ holes, placeholders.mapM (compileHole requirementOf) = .ok holes := by
  induction placeholders with
  | nil => exact ⟨[], rfl⟩
  | cons placeholder rest ih =>
    obtain ⟨first, others⟩ := List.forall_mem_cons.mp validated
    obtain ⟨validator, read⟩ := Option.isSome_iff_exists.mp first
    obtain ⟨holes, made⟩ := ih others
    exact ⟨_ :: holes, mapM_eq_ok.mpr
      (congrArg₂ List.cons (compileHole_of_read read) (mapM_eq_ok.mp made))⟩

theorem exists_compiled {template : Template} {requirementOf : Placeholder → Text}
    (matcher : (Regex.ofText? true (matcherPattern requirementOf template.segments)).isSome = true)
    (validated : ∀ placeholder ∈ template.placeholders,
      (Regex.ofText? true (Requirement.wholeValue (requirementOf placeholder))).isSome = true) :
    ∃ matcher holes, compile template requirementOf = .ok (matcher, holes) := by
  obtain ⟨matcher, read⟩ := Option.isSome_iff_exists.mp matcher
  obtain ⟨holes, made⟩ := exists_holes validated
  refine ⟨matcher, holes, ?_⟩
  rw [compile, read, made]
  rfl

-- What was in force before has validators, so only the matcher of a combination may be missing.
theorem Consistent.combined (consistent : Consistent text route)
    (distinct : (changes.map (·.1)).Nodup)
    (fits : ∀ change ∈ changes, Fits route change.1 change.2) (combines : HasMatcher route changes) :
    ∃ next, route.Combined changes next := by
  suffices validated : ∀ placeholder ∈ route.template.placeholders,
      (Regex.ofText? true (Requirement.wholeValue
        (route.overriddenBy changes placeholder))).isSome = true by
    obtain ⟨matcher, holes, compiled⟩ := exists_compiled combines validated
    exact ⟨_, matcher, holes, compiled, rfl⟩
  intro placeholder member
  unfold overriddenBy
  cases found : changes.lookup placeholder.name with
  | some requirement =>
    obtain ⟨validator, read, _⟩ := (fits _ ((lookup_iff_mem distinct).mp found)).validated
    exact Option.isSome_of_eq_some read
  | none =>
    obtain ⟨hole, listed, _, inForce⟩ := consistent.hole_of_placeholder member
    exact Option.isSome_of_eq_some (inForce ▸ consistent.validator listed)

theorem Consistent.withRequirement_iff (consistent : Consistent text route) :
    route.withRequirement name requirement = .ok next ↔
      Fits route name requirement ∧ route.Combined [(name, requirement)] next := by
  rw [Combined, overriddenBy_single]
  constructor
  · intro changed
    obtain ⟨known, checked, matcher, holes, compiled, rfl, accepted⟩ :=
      overrideRequirement_ok (withRequirement_ok changed)
    refine ⟨⟨known, checked, ?_⟩, matcher, holes, compiled, rfl⟩
    -- The hole that the change compiled carries the validator of the new requirement.
    obtain ⟨placeholders, each⟩ := holes_of_mapM (compile_ok compiled).2
    obtain ⟨placeholder, member, rfl⟩ := List.mem_map.mp (hasPlaceholder_iff.mp known)
    rw [← Template.placeholders_eq, ← placeholders] at member
    obtain ⟨hole, listed, rfl⟩ := List.mem_map.mp member
    obtain ⟨required, validated⟩ := each hole listed
    rw [overridden, if_pos rfl] at required
    refine ⟨hole.validator, required ▸ validated, fun value set => ?_⟩
    exact acceptsDefault_of_mem { route with matcher, holes }
      (nodup_holes consistent.read placeholders) listed (accepted value set)
  · rintro ⟨fits, matcher, holes, compiled, rfl⟩
    refine withRequirement_of_compile fits.known fits.checked compiled fun value set => ?_
    obtain ⟨validator, read, accepts⟩ := fits.validated
    obtain ⟨_, each⟩ := holes_of_mapM (compile_ok compiled).2
    unfold acceptsDefault
    split
    · next hole found =>
      obtain ⟨required, validated⟩ := each hole (List.mem_of_find?_eq_some found)
      have here : hole.placeholder.name = name := by simpa using List.find?_some found
      rw [required, overridden, if_pos here, read] at validated
      cases validated
      exact accepts value set
    · rfl

theorem overrideAll_cons {final : Route} :
    route.overrideAll ((name, requirement) :: changes) = .ok final ↔
      ∃ next, route.withRequirement name requirement = .ok next ∧
        next.overrideAll changes = .ok final := by
  have unrolled : route.overrideAll ((name, requirement) :: changes) =
      (route.withRequirement name requirement).bind (·.overrideAll changes) := List.foldlM_cons
  rw [unrolled]
  cases changed : route.withRequirement name requirement with
  | error fault => simp [Except.bind]
  | ok next => simp [Except.bind]

section

variable {final : Route}

theorem overriddenBy_cons (consistent : Consistent text route) (fresh : name ∉ changes.map (·.1))
    (changed : route.withRequirement name requirement = .ok next) :
    ∀ placeholder ∈ next.template.placeholders, next.overriddenBy changes placeholder =
      route.overriddenBy ((name, requirement) :: changes) placeholder := by
  have after := consistent.withRequirement changed
  obtain ⟨_, _, matcher, holes, compiled, rfl, _⟩ :=
    overrideRequirement_ok (withRequirement_ok changed)
  intro placeholder member
  obtain ⟨hole, listed, rfl, inForce⟩ := after.hole_of_placeholder member
  obtain ⟨required, _⟩ := (holes_of_mapM (compile_ok compiled).2).2 hole listed
  unfold overriddenBy
  rw [← inForce, required, overridden, List.lookup_cons]
  by_cases here : hole.placeholder.name = name
  · rw [here, lookup_of_not_mem fresh]
    simp
  · simp [here, beq_false_of_ne here]

theorem hasMatcher_cons (consistent : Consistent text route) (fresh : name ∉ changes.map (·.1))
    (changed : route.withRequirement name requirement = .ok next) :
    next.HasMatcher changes ↔ route.HasMatcher ((name, requirement) :: changes) := by
  have same := matcherPattern_congr (overriddenBy_cons consistent fresh changed)
  obtain ⟨_, _, matcher, holes, _, rfl, _⟩ := overrideRequirement_ok (withRequirement_ok changed)
  rw [HasMatcher, same]
  rfl

theorem combined_cons (consistent : Consistent text route) (fresh : name ∉ changes.map (·.1))
    (changed : route.withRequirement name requirement = .ok next) :
    next.Combined changes final ↔ route.Combined ((name, requirement) :: changes) final := by
  have same := compile_congr (overriddenBy_cons consistent fresh changed)
  obtain ⟨_, _, matcher, holes, _, rfl, _⟩ := overrideRequirement_ok (withRequirement_ok changed)
  rw [Combined, same]
  rfl

theorem fits_changed {other otherRequirement : Text}
    (changed : route.withRequirement name requirement = .ok next) :
    Fits next other otherRequirement ↔ Fits route other otherRequirement := by
  obtain ⟨_, _, matcher, holes, _, rfl, _⟩ := overrideRequirement_ok (withRequirement_ok changed)
  exact ⟨fun fits => ⟨fits.known, fits.checked, fits.validated⟩,
    fun fits => ⟨fits.known, fits.checked, fits.validated⟩⟩

theorem Consistent.hasMatcher_nil (consistent : Consistent text route) : route.HasMatcher [] :=
  Option.isSome_of_eq_some (compile_ok consistent.compiled).1

theorem Consistent.combined_nil (consistent : Consistent text route) :
    route.Combined [] next ↔ next = route := by
  have here : route.Combined [] route := ⟨_, _, consistent.compiled, rfl⟩
  constructor
  · intro combined
    exact combined.unique here
  · rintro rfl
    exact here

-- By induction on the overrides: each one fits or not, whatever the others are, and every beginning
-- of the series has to compile.
theorem Consistent.overrideAll_iff (consistent : Consistent text route)
    (distinct : (changes.map (·.1)).Nodup) :
    route.overrideAll changes = .ok final ↔
      (∀ change ∈ changes, Fits route change.1 change.2) ∧
        (∀ part, part <+: changes → HasMatcher route part) ∧ route.Combined changes final := by
  -- A change leaves a consistent route, and no later change names the same placeholder. So the
  -- conditions on the later ones are the same before it and after it.
  induction changes generalizing route with
  | nil =>
    rw [consistent.combined_nil]
    constructor
    · intro done
      refine ⟨List.forall_mem_nil _, fun part first => ?_, (Except.ok.inj done).symm⟩
      rw [List.prefix_nil.mp first]
      exact consistent.hasMatcher_nil
    · rintro ⟨_, _, rfl⟩
      rfl
  | cons change rest ih =>
    obtain ⟨name, requirement⟩ := change
    obtain ⟨fresh, distinctRest⟩ := List.nodup_cons.mp distinct
    have freshIn {part : List (Text × Text)} (first : part <+: rest) : name ∉ part.map (·.1) :=
      fun listed => fresh ((first.map _).subset listed)
    rw [overrideAll_cons]
    constructor
    · rintro ⟨next, changed, later⟩
      have step := consistent.withRequirement_iff.mp changed
      obtain ⟨fits, matchers, combined⟩ :=
        (ih (consistent.withRequirement changed) distinctRest).mp later
      refine ⟨?_, ?_, (combined_cons consistent fresh changed).mp combined⟩
      · refine List.forall_mem_cons.mpr ⟨step.1, fun other listed => ?_⟩
        exact (fits_changed changed).mp (fits other listed)
      · intro part first
        rcases List.prefix_cons_iff.mp first with rfl | ⟨part, rfl, further⟩
        · exact consistent.hasMatcher_nil
        · exact (hasMatcher_cons consistent (freshIn further) changed).mp (matchers part further)
    · rintro ⟨fits, matchers, combined⟩
      obtain ⟨fit, fits⟩ := List.forall_mem_cons.mp fits
      have alone : [(name, requirement)] <+: (name, requirement) :: rest :=
        List.prefix_cons_inj _ |>.mpr List.nil_prefix
      obtain ⟨next, single⟩ := consistent.combined (by simp)
        (List.forall_mem_singleton.mpr fit) (matchers _ alone)
      have changed := consistent.withRequirement_iff.mpr ⟨fit, single⟩
      refine ⟨next, changed, (ih (consistent.withRequirement changed) distinctRest).mpr ⟨?_, ?_, ?_⟩⟩
      · exact fun other listed => (fits_changed changed).mpr (fits other listed)
      · intro part first
        refine (hasMatcher_cons consistent (freshIn first) changed).mpr (matchers _ ?_)
        exact (List.prefix_cons_inj _).mpr first
      · exact (combined_cons consistent fresh changed).mpr combined

end

-- What two series of overrides come to: the same, and where one of them goes through, the other one
-- does exactly under its own condition.
structure Exchange (first second : Except RouteError Route) (condition condition' : Prop) : Prop where
  same : ∀ next other, first = .ok next → second = .ok other → next = other
  forward : first.isOk = true → (second.isOk = true ↔ condition')
  backward : second.isOk = true → (first.isOk = true ↔ condition)

section

variable {first second : Except RouteError Route} {condition condition' : Prop}
  {made : Route → Prop}

theorem isOk_iff {result : Except RouteError Route} :
    result.isOk = true ↔ ∃ next, result = .ok next := by
  cases result with
  | error fault => simp [Except.isOk, Except.toBool]
  | ok next => simp [Except.isOk, Except.toBool]

theorem isOk_iff_of_made (one : ∀ next, first = .ok next ↔ condition ∧ made next)
    (two : ∀ next, second = .ok next ↔ condition' ∧ made next) (done : first.isOk = true) :
    second.isOk = true ↔ condition' := by
  obtain ⟨next, done⟩ := isOk_iff.mp done
  obtain ⟨_, here⟩ := (one next).mp done
  rw [isOk_iff]
  constructor
  · rintro ⟨other, done'⟩
    exact ((two other).mp done').1
  · intro holds
    exact ⟨next, (two next).mpr ⟨holds, here⟩⟩

theorem exchange_of_made (unique : ∀ next other, made next → made other → next = other)
    (one : ∀ next, first = .ok next ↔ condition ∧ made next)
    (two : ∀ next, second = .ok next ↔ condition' ∧ made next) :
    Exchange first second condition condition' where
  same next other done done' :=
    unique next other ((one next).mp done).2 ((two other).mp done').2
  forward := isOk_iff_of_made one two
  backward := isOk_iff_of_made two one

end

theorem lookup_perm {β : Type} {entries others : List (Text × β)}
    (distinct : (entries.map (·.1)).Nodup) (same : others.Perm entries) (name : Text) :
    others.lookup name = entries.lookup name := by
  refine Option.ext fun value => ?_
  rw [lookup_iff_mem distinct, lookup_iff_mem ((same.map _).nodup_iff.mpr distinct)]
  exact same.mem_iff

theorem overriddenBy_perm (route : Route) (distinct : (changes.map (·.1)).Nodup)
    (same : order.Perm changes) : route.overriddenBy order = route.overriddenBy changes := by
  funext placeholder
  unfold overriddenBy
  rw [lookup_perm distinct same]

-- All combinations on the way have matchers.
def MatchersOnTheWay (route : Route) (changes : List (Text × Text)) : Prop :=
  ∀ part, part <+: changes → route.HasMatcher part

-- What a series of overrides makes, apart from the combinations on the way.
def Overridden (route : Route) (changes : List (Text × Text)) (next : Route) : Prop :=
  (∀ change ∈ changes, Fits route change.1 change.2) ∧ route.Combined changes next

theorem Overridden.unique {other : Route} (made : route.Overridden changes next)
    (made' : route.Overridden changes other) : next = other :=
  made.2.unique made'.2

theorem overridden_perm (distinct : (changes.map (·.1)).Nodup) (same : order.Perm changes) :
    route.Overridden order next ↔ route.Overridden changes next := by
  have fits : (∀ change ∈ order, Fits route change.1 change.2) ↔
      ∀ change ∈ changes, Fits route change.1 change.2 :=
    forall_congr' fun change => imp_congr_left same.mem_iff
  rw [Overridden, fits, Combined, overriddenBy_perm route distinct same]
  rfl

theorem Consistent.overrideAll_made (consistent : Consistent text route)
    (distinct : (changes.map (·.1)).Nodup) :
    route.overrideAll changes = .ok next ↔
      route.MatchersOnTheWay changes ∧ route.Overridden changes next := by
  rw [consistent.overrideAll_iff distinct]
  exact and_left_comm

theorem Consistent.overrideAll_perm (consistent : Consistent text route)
    (distinct : (changes.map (·.1)).Nodup) (same : order.Perm changes) :
    route.overrideAll order = .ok next ↔
      route.MatchersOnTheWay order ∧ route.Overridden changes next := by
  rw [consistent.overrideAll_made ((same.map _).nodup_iff.mpr distinct),
    overridden_perm distinct same]

end RouteTable.Route
