import RouteTable.Proofs.Router.Resolution

namespace RouteTable.Router

variable {router : Router} {first second : Context} {sought meant : Text} {args : Arguments}
  {relative : Bool} {entry : Text × Route}

-- Contexts of the same host and the same dispatched route.
structure Twins (first second : Context) : Prop where
  host : first.host = second.host
  routeName : first.routeName = second.routeName

-- An entry takes the same values from both.
def Blind (first second : Context) (args : Arguments) (entry : Text × Route) : Prop :=
  entry.2.SameValues (currentAt first entry.1) args (currentAt second entry.1) args

theorem blind_of_other (twins : Twins first second) (other : first.routeName ≠ some entry.1) :
    Blind first second args entry := by
  have none : currentAt first entry.1 = currentAt second entry.1 := by
    rw [currentAt, if_neg other, currentAt, if_neg (twins.routeName ▸ other)]
  intro hole _
  rw [none]

-- The contexts agree on what the dispatched route may still take from them.
def AgreeOn (router : Router) (args : Arguments) (first second : Context) : Prop :=
  ∀ name route, first.routeName = some name → (name, route) ∈ router.entries →
    ∀ placeholder ∈ route.template.placeholders, args.contains placeholder.name = false →
      first.arguments.lookup placeholder.name = second.arguments.lookup placeholder.name

theorem blind_of_agreeOn (registered : Registered router) (twins : Twins first second)
    (agree : AgreeOn router args first second) (listed : entry ∈ router.entries) :
    Blind first second args entry := by
  by_cases dispatched : first.routeName = some entry.1
  · have here : currentAt first entry.1 = first.arguments := if_pos dispatched
    have there : currentAt second entry.1 = second.arguments :=
      if_pos (twins.routeName ▸ dispatched)
    intro hole member
    rw [here, there]
    apply Route.chosenValue_congr
    intro missing
    have known : hole.placeholder ∈ entry.2.template.placeholders := by
      rw [← (registered.made entry listed).placeholders]
      exact List.mem_map_of_mem member
    exact agree _ _ dispatched listed _ known missing
  · exact blind_of_other twins dispatched

def Concerns (router : Router) (meant : Text) (entry : Text × Route) : Prop :=
  entry.1 = meant ∨ meant ∉ router.names ∧ entry.2.target = meant

theorem attempt_congr (twins : Twins first second) (blind : Blind first second args entry) :
    attempt first args relative entry = attempt second args relative entry := by
  rw [attempt, attempt, twins.host]
  exact blind.makeFrom rfl second.host relative

theorem serves_congr (twins : Twins first second)
    (blind : entry.2.target = meant → Blind first second args entry) :
    Serves first meant args relative entry ↔ Serves second meant args relative entry := by
  apply and_congr_right
  intro target
  rw [attempt_congr twins (blind target)]

theorem generate_congr (registered : Registered router) (twins : Twins first second)
    (each : ∀ meant, sought? first sought = .ok meant → ∀ entry ∈ router.entries,
      Concerns router meant entry → Blind first second args entry) :
    router.generate first sought args relative = router.generate second sought args relative := by
  have same : sought? second sought = sought? first sought := by
    rw [sought?, sought?, twins.routeName]
  cases meaning : sought? first sought with
  | error fault =>
    rw [generate, generate, same, meaning]
    rfl
  | ok meant =>
    rw [meaning] at same
    have blind := each meant meaning
    by_cases listed : meant ∈ router.names
    · obtain ⟨⟨_, route⟩, member, rfl⟩ := List.mem_map.mp listed
      rw [generate_of_name registered meaning member, generate_of_name registered same member]
      exact attempt_congr twins (blind _ member (Or.inl rfl))
    · have serves : ∀ entry ∈ router.entries,
          (Serves first meant args relative entry ↔ Serves second meant args relative entry) := by
        intro entry member
        apply serves_congr twins
        intro target
        exact blind entry member (Or.inr ⟨listed, target⟩)
      rcases first_or_none (Serves first meant args relative) router.entries with
        ⟨earlier, entry, later, whole, before, found⟩ | none
      · have member : entry ∈ router.entries := by simp [whole]
        have before' : ∀ other ∈ earlier, ¬ Serves second meant args relative other := by
          intro other known
          rw [← serves other (by simp [whole, known])]
          exact before other known
        rw [generate_of_first registered meaning listed whole before found,
          generate_of_first registered same listed whole before' ((serves entry member).mp found)]
        exact attempt_congr twins (blind entry member (Or.inr ⟨listed, found.1⟩))
      · have none' : ∀ entry ∈ router.entries, ¬ Serves second meant args relative entry := by
          intro entry member
          rw [← serves entry member]
          exact none entry member
        rw [generate_of_none registered meaning listed none,
          generate_of_none registered same listed none']

-- The name of another route, or a text that is no name and not the target of the dispatched route.
def PassesBy (router : Router) (dispatched : Option Text) (sought : Text) : Prop :=
  sought ≠ [] ∧
    (sought ∈ router.names ∧ dispatched ≠ some sought ∨
      sought ∉ router.names ∧ ∀ name route, dispatched = some name →
        (name, route) ∈ router.entries → route.target ≠ sought)

theorem other_of_passesBy (passes : PassesBy router first.routeName meant)
    (listed : entry ∈ router.entries) (concerns : Concerns router meant entry) :
    first.routeName ≠ some entry.1 := by
  intro dispatched
  rcases passes.2 with ⟨known, other⟩ | ⟨unknown, other⟩
  · rcases concerns with rfl | ⟨unlisted, _⟩
    · exact other dispatched
    · exact unlisted known
  · rcases concerns with rfl | ⟨_, target⟩
    · exact unknown (List.mem_map_of_mem listed)
    · exact other entry.1 entry.2 dispatched listed target

-- What a dispatch captured shows only in URLs of the route that it went to, and there only where the
-- caller leaves a placeholder open.
theorem urls_confined (built : Built router) (twins : Twins first second) (args : Arguments)
    (sought : Text)
    (kept : PassesBy router first.routeName sought ∨ AgreeOn router args first second) :
    router.url first sought args = router.url second sought args ∧
      router.relativeUrl first sought args = router.relativeUrl second sought args := by
  have registered := built.registered
  have each : ∀ meant, sought? first sought = .ok meant → ∀ entry ∈ router.entries,
      Concerns router meant entry → Blind first second args entry := by
    intro meant meaning entry listed concerns
    rcases kept with passes | agree
    · rw [sought?_given passes.1] at meaning
      cases meaning
      exact blind_of_other twins (other_of_passesBy passes listed concerns)
    · exact blind_of_agreeOn registered twins agree listed
  exact ⟨generate_congr registered twins each, generate_congr registered twins each⟩

def reprinted : Context :=
  { printed with arguments := (Arguments.empty.insert "slug" "FAQ").insert "page" "2" }

def startArgs : Arguments := Arguments.empty.insert "slug" "Start"

theorem urls_confined_twice : printed.arguments ≠ reprinted.arguments ∧
    twiceRouter.relativeUrl printed "docs" .empty =
      twiceRouter.relativeUrl reprinted "docs" .empty ∧
    twiceRouter.relativeUrl printed [] startArgs = twiceRouter.relativeUrl reprinted [] startArgs := by
  have twins : Twins printed reprinted := ⟨rfl, rfl⟩
  have passes : PassesBy twiceRouter printed.routeName "docs" :=
    ⟨by decide, Or.inl ⟨by decide, by decide⟩⟩
  have agree : AgreeOn twiceRouter startArgs printed reprinted := by
    intro name route dispatched listed
    cases dispatched
    rw [entries_twiceRouter] at listed
    have same : ("print".toList, route) = docsEntry "print" := by
      rcases List.mem_cons.mp listed with docs | print
      · have key : "print".toList = "docs".toList := congrArg Prod.fst docs
        exact absurd key (by decide)
      · exact List.mem_singleton.mp print
    cases same
    exact List.forall_mem_cons.mpr
      ⟨fun missing => absurd missing (by decide), List.forall_mem_cons.mpr ⟨fun _ => rfl, nofun⟩⟩
  exact ⟨by decide, (urls_confined built_twiceRouter twins _ _ (Or.inl passes)).2,
    (urls_confined built_twiceRouter twins _ _ (Or.inr agree)).2⟩

end RouteTable.Router
