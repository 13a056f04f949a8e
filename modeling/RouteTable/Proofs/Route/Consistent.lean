import RouteTable.Proofs.Route.Generation
import RouteTable.Proofs.Template.Grammar

namespace RouteTable.Route

variable {route next : Route} {text name : Text}

inductive Change where
  | methods (methods : List Text)
  | scheme (scheme : Text)
  | host (pattern : Text)
  | requirement (name requirement : Text)
  | default (name value : Text)
deriving DecidableEq, Repr

def change? (route : Route) : Change → Except RouteError Route
  | .methods methods => .ok (route.withMethods methods)
  | .scheme scheme => .ok (route.withScheme scheme)
  | .host pattern => route.withHost pattern
  | .requirement name requirement => route.withRequirement name requirement
  | .default name value => route.withDefault name value

-- A change that is refused leaves the route as it was.
def change (route : Route) (wanted : Change) : Route :=
  match route.change? wanted with
  | .error _ => route
  | .ok next => next

def changeAll (route : Route) (changes : List Change) : Route := changes.foldl change route

structure Consistent (text : Text) (route : Route) : Prop where
  read : Template.read text = .ok route.template
  placeholders : route.holes.map (·.placeholder) = route.template.placeholders
  keys : route.requirements.map (·.1) = route.template.placeholders.map (·.name)
  checked : ∀ entry ∈ route.requirements, Requirement.check entry.1 entry.2 = .ok ()
  compiled : compile route.template route.requirementOf = .ok (route.matcher, route.holes)
  defaults : ∀ hole ∈ route.holes, ∀ value,
    route.defaults.get? hole.placeholder.name = some value → hole.validator.isMatch value = true
  once : route.methods.Nodup
  capitals : ∀ method ∈ route.methods, ∀ c ∈ method, c.isLower = false

-- The numbers of the template's holes, and the positions that are looked up by name, stay inside
-- the placeholders, the validators and any values that were resolved.
structure InRange (route : Route) : Prop where
  placeholders : ∀ index ∈ route.template.markers, index < route.template.placeholders.length
  holes : ∀ name index, route.template.position? name = some index → index < route.holes.length
  values : ∀ current args values, route.resolve current args = .ok values →
    ∀ index ∈ route.template.markers, index < values.length

theorem requirements_keys : route.requirements.map (·.1) =
    (route.holes.map (·.placeholder)).map (·.name) := by
  simp [requirements]

theorem hole?_of_mem {hole : Hole} (distinct : (route.holes.map (·.placeholder.name)).Nodup)
    (member : hole ∈ route.holes) : route.hole? hole.placeholder.name = some hole := by
  unfold hole?
  generalize route.holes = holes at distinct member
  induction holes with
  | nil => cases member
  | cons first rest ih =>
    obtain ⟨absent, distinctRest⟩ := List.nodup_cons.mp distinct
    rcases List.mem_cons.mp member with rfl | later
    · exact List.find?_cons_of_pos (beq_self_eq_true _)
    · have different : first.placeholder.name ≠ hole.placeholder.name := by
        intro same
        exact absent (List.mem_map.mpr ⟨hole, later, same.symm⟩)
      rw [List.find?_cons_of_neg (by simpa using different)]
      exact ih distinctRest later

theorem requirementOf_of_mem {hole : Hole} (distinct : (route.holes.map (·.placeholder.name)).Nodup)
    (member : hole ∈ route.holes) : route.requirementOf hole.placeholder = hole.requirement := by
  unfold requirementOf requirement?
  rw [hole?_of_mem distinct member]
  rfl

theorem matcherPattern_congr {template : Template} {first second : Placeholder → Text}
    (same : ∀ placeholder ∈ template.placeholders, first placeholder = second placeholder) :
    matcherPattern first template.segments = matcherPattern second template.segments := by
  have pieces : ∀ segment ∈ template.segments, ∀ isLast,
      segmentPattern first isLast segment = segmentPattern second isLast segment := by
    intro segment member isLast
    cases segment with
    | literal text => rfl
    | hole placeholder =>
      have listed : placeholder ∈ template.placeholders :=
        List.mem_filterMap.mpr ⟨_, member, rfl⟩
      simp only [segmentPattern, same placeholder listed]
  unfold matcherPattern
  congr 2
  generalize template.segments = segments at pieces
  induction segments with
  | nil => rfl
  | cons segment rest ih =>
    have here := pieces segment List.mem_cons_self
    have later := ih fun other member => pieces other (List.mem_cons_of_mem _ member)
    cases rest with
    | nil => exact here true
    | cons other rest =>
      unfold segmentsPattern
      rw [here false, later]

theorem compile_congr {template : Template} {first second : Placeholder → Text}
    (same : ∀ placeholder ∈ template.placeholders, first placeholder = second placeholder) :
    compile template first = compile template second := by
  have validators : template.placeholders.mapM (compileHole first) =
      template.placeholders.mapM (compileHole second) := by
    generalize template.placeholders = placeholders at same
    induction placeholders with
    | nil => rfl
    | cons placeholder rest ih =>
      obtain ⟨here, later⟩ := List.forall_mem_cons.mp same
      have compiled : compileHole first placeholder = compileHole second placeholder := by
        unfold compileHole
        rw [here]
      rw [List.mapM_cons, List.mapM_cons, compiled, ih later]
  unfold compile
  rw [matcherPattern_congr same, validators]

theorem addMethods_facts (methods : List Text) {known : List Text} (once : known.Nodup)
    (capitals : ∀ method ∈ known, ∀ c ∈ method, c.isLower = false) :
    let all := methods.foldl (fun known method =>
      let method := Text.asciiUpper method
      if known.contains method then known else known ++ [method]) known
    all.Nodup ∧ ∀ method ∈ all, ∀ c ∈ method, c.isLower = false := by
  induction methods generalizing known with
  | nil => exact ⟨once, capitals⟩
  | cons method methods ih =>
    have listed : known.contains (Text.asciiUpper method) =
        decide (Text.asciiUpper method ∈ known) := List.contains_eq_mem _ _
    simp only [List.foldl_cons, listed, decide_eq_true_eq]
    apply ih (nodup_addNew once)
    split
    · exact capitals
    · intro other member c inside
      rcases List.mem_append.mp member with old | new
      · exact capitals other old c inside
      · obtain rfl := List.mem_singleton.mp new
        obtain ⟨letter, _, rfl⟩ := List.mem_map.mp inside
        exact Unicode.not_isLower_toUpper letter

theorem nodup_holes (read : Template.read text = .ok route.template)
    (placeholders : route.holes.map (·.placeholder) = route.template.placeholders) :
    (route.holes.map (·.placeholder.name)).Nodup := by
  rw [holeNames_of_placeholders placeholders]
  exact (Template.scanned_of_scan (Template.scan_of_read read).2).nodup

theorem inForce_of_compile {requirementOf : Placeholder → Text}
    (read : Template.read text = .ok route.template)
    (compiled : compile route.template requirementOf = .ok (route.matcher, route.holes)) :
    ∀ placeholder ∈ route.template.placeholders,
      route.requirementOf placeholder = requirementOf placeholder := by
  obtain ⟨placeholders, each⟩ := holes_of_mapM (compile_ok compiled).2
  intro placeholder member
  rw [← placeholders] at member
  obtain ⟨hole, listed, rfl⟩ := List.mem_map.mp member
  rw [requirementOf_of_mem (nodup_holes read placeholders) listed, (each hole listed).1]

theorem consistent_of_compile {requirementOf : Placeholder → Text}
    (read : Template.read text = .ok route.template)
    (compiled : compile route.template requirementOf = .ok (route.matcher, route.holes))
    (checked : ∀ placeholder ∈ route.template.placeholders,
      Requirement.check placeholder.name (requirementOf placeholder) = .ok ())
    (defaults : ∀ hole ∈ route.holes, ∀ value,
      route.defaults.get? hole.placeholder.name = some value → hole.validator.isMatch value = true)
    (once : route.methods.Nodup)
    (capitals : ∀ method ∈ route.methods, ∀ c ∈ method, c.isLower = false) :
    Consistent text route := by
  obtain ⟨placeholders, each⟩ := holes_of_mapM (compile_ok compiled).2
  refine ⟨read, placeholders, ?_, ?_, ?_, defaults, once, capitals⟩
  · rw [requirements_keys, placeholders]
  · intro entry member
    obtain ⟨hole, listed, rfl⟩ := List.mem_map.mp member
    have known : hole.placeholder ∈ route.template.placeholders := by
      rw [← placeholders]
      exact List.mem_map_of_mem listed
    rw [(each hole listed).1]
    exact checked hole.placeholder known
  · exact (compile_congr (inForce_of_compile read compiled)).trans compiled

theorem Consistent.distinct (consistent : Consistent text route) :
    (route.holes.map (·.placeholder.name)).Nodup :=
  nodup_holes consistent.read consistent.placeholders

theorem Consistent.hole_of_placeholder (consistent : Consistent text route)
    {placeholder : Placeholder} (member : placeholder ∈ route.template.placeholders) :
    ∃ hole ∈ route.holes, hole.placeholder = placeholder ∧
      hole.requirement = route.requirementOf placeholder := by
  rw [← consistent.placeholders] at member
  obtain ⟨hole, listed, rfl⟩ := List.mem_map.mp member
  exact ⟨hole, listed, rfl, (requirementOf_of_mem consistent.distinct listed).symm⟩

theorem Consistent.validator (consistent : Consistent text route) {hole : Hole}
    (member : hole ∈ route.holes) :
    Regex.ofText? true (Requirement.wholeValue hole.requirement) = some hole.validator :=
  ((holes_of_mapM (compile_ok consistent.compiled).2).2 hole member).2

theorem acceptsDefault_of_mem (route : Route) {hole : Hole} {value : Text}
    (distinct : (route.holes.map (·.placeholder.name)).Nodup) (member : hole ∈ route.holes)
    (accepted : acceptsDefault route.holes hole.placeholder.name value = true) :
    hole.validator.isMatch value = true := by
  have found := hole?_of_mem distinct member
  unfold hole? at found
  unfold acceptsDefault at accepted
  rw [found] at accepted
  exact accepted

theorem consistent_of_ofTemplate {target : Text} (made : ofTemplate text target = .ok route) :
    Consistent text route := by
  obtain ⟨template, matcher, holes, read, compiled, rfl⟩ := ofTemplate_ok made
  refine consistent_of_compile read compiled ?_ ?_ List.nodup_nil nofun
  · intro placeholder member
    obtain ⟨formed, _⟩ := Template.formed_of_scan (Template.scan_of_read read).2 nofun
    exact (formed.holes placeholder member).checked
  · intro hole listed value set
    cases set

theorem Consistent.withRequirement {requirement : Text} (consistent : Consistent text route)
    (changed : route.withRequirement name requirement = .ok next) : Consistent text next := by
  obtain ⟨_, valid, matcher, holes, compiled, rfl, accepted⟩ :=
    overrideRequirement_ok (withRequirement_ok changed)
  obtain ⟨placeholders, each⟩ := holes_of_mapM (compile_ok compiled).2
  refine consistent_of_compile consistent.read compiled ?_ ?_ consistent.once consistent.capitals
  · intro placeholder member
    unfold overridden
    split
    · next here => exact here ▸ valid
    · obtain ⟨hole, listed, rfl, inForce⟩ := consistent.hole_of_placeholder member
      rw [← inForce]
      exact consistent.checked _ (List.mem_map_of_mem listed)
  · intro hole listed value set
    by_cases here : hole.placeholder.name = name
    · subst here
      exact acceptsDefault_of_mem { route with matcher, holes }
        (nodup_holes consistent.read placeholders) listed (accepted value set)
    · have known : hole.placeholder ∈ route.template.placeholders :=
        placeholders ▸ List.mem_map_of_mem listed
      obtain ⟨requirement, validated⟩ := each hole listed
      obtain ⟨old, oldListed, same, inForce⟩ := consistent.hole_of_placeholder known
      -- The requirement is the one of before, and so is the validator.
      have kept : hole.requirement = old.requirement := by
        rw [requirement, overridden, if_neg here, inForce]
      have validator : some hole.validator = some old.validator := by
        rw [← validated, kept]
        exact consistent.validator oldListed
      rw [Option.some.inj validator]
      exact consistent.defaults old oldListed value (same ▸ set)

theorem Consistent.withDefault {value : Text} (consistent : Consistent text route)
    (changed : route.withDefault name value = .ok next) : Consistent text next := by
  obtain ⟨accepted, rfl⟩ := withDefault_ok changed
  refine { consistent with defaults := ?_ }
  intro hole listed other set
  simp only [Arguments.insert, Arguments.get?, Arguments.lookup_set] at set
  split at set
  · next here =>
    obtain rfl : value = other := Option.some.inj set
    exact acceptsDefault_of_mem _ consistent.distinct listed (here ▸ accepted)
  · exact consistent.defaults hole listed other set

theorem Consistent.withMethods (consistent : Consistent text route) (methods : List Text) :
    Consistent text (route.withMethods methods) := by
  obtain ⟨once, capitals⟩ := addMethods_facts methods consistent.once consistent.capitals
  exact { consistent with once, capitals }

theorem Consistent.withHost {pattern : Text} (consistent : Consistent text route)
    (changed : route.withHost pattern = .ok next) : Consistent text next := by
  obtain ⟨_, _, rfl⟩ := withHost_ok changed
  exact { consistent with }

theorem Consistent.change (consistent : Consistent text route) (wanted : Change) :
    Consistent text (route.change wanted) := by
  unfold Route.change
  split
  · exact consistent
  · next changed =>
    cases wanted with
    | methods methods =>
      cases changed
      exact consistent.withMethods methods
    | scheme scheme =>
      cases changed
      exact { consistent with }
    | host pattern => exact consistent.withHost changed
    | requirement name requirement => exact consistent.withRequirement changed
    | default name value => exact consistent.withDefault changed

theorem Consistent.changeAll (consistent : Consistent text route) (changes : List Change) :
    Consistent text (route.changeAll changes) := by
  induction changes generalizing route with
  | nil => exact consistent
  | cons wanted changes ih => exact ih (consistent.change wanted)

theorem Built.consistent (built : Built route) : ∃ text, Consistent text route := by
  induction built with
  | ofTemplate made => exact ⟨_, consistent_of_ofTemplate made⟩
  | withMethods _ methods ih =>
    obtain ⟨text, consistent⟩ := ih
    exact ⟨text, consistent.withMethods methods⟩
  | withScheme _ _ ih | named _ _ ih =>
    obtain ⟨text, consistent⟩ := ih
    exact ⟨text, { consistent with }⟩
  | withHost _ changed ih =>
    obtain ⟨text, consistent⟩ := ih
    exact ⟨text, consistent.withHost changed⟩
  | withRequirement _ changed ih =>
    obtain ⟨text, consistent⟩ := ih
    exact ⟨text, consistent.withRequirement changed⟩
  | withDefault _ changed ih =>
    obtain ⟨text, consistent⟩ := ih
    exact ⟨text, consistent.withDefault changed⟩

theorem Consistent.inRange (consistent : Consistent text route) : InRange route where
  placeholders index member := by
    rw [Template.markers_eq] at member
    exact List.mem_range.mp member
  holes name index found := by
    have count := congrArg List.length consistent.placeholders
    rw [List.length_map] at count
    rw [count]
    exact (List.findIdx?_eq_some_iff_findIdx_eq.mp found).1
  values current args values resolved index member := by
    rw [Template.markers_eq, ← consistent.placeholders, List.length_map] at member
    have count := congrArg List.length (mapM_eq_ok.mp resolved)
    rw [List.length_map, List.length_map] at count
    rw [← count]
    exact List.mem_range.mp member

-- However a route is changed, step by step, from the template it was made from.
theorem consistent_changeAll {target : Text} (made : ofTemplate text target = .ok route)
    (changes : List Change) :
    Consistent text (route.changeAll changes) ∧ InRange (route.changeAll changes) := by
  have consistent := (consistent_of_ofTemplate made).changeAll changes
  exact ⟨consistent, consistent.inRange⟩

def docsChanges : List Change :=
  [.methods ["get", "GET"], .requirement "slug" [], .scheme "HTTPS"]

theorem consistent_changeAll_docs :
    Consistent docsText ((standardRoute "page" docs).changeAll docsChanges) ∧
      InRange ((standardRoute "page" docs).changeAll docsChanges) :=
  consistent_changeAll (ofTemplate_docs "page") docsChanges

end RouteTable.Route
