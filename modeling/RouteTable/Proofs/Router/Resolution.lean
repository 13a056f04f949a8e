import RouteTable.Proofs.Route.Outcome
import RouteTable.Proofs.Route.RoundTrip
import RouteTable.Proofs.Router.Dispatch
import RouteTable.Router.Generate

namespace RouteTable.Router

variable {router : Router} {context : Context} {sought meant : Text} {args : Arguments} {relative : Bool}
  {entry : Text × Route}

-- The arguments of the last dispatch, for the name it went to, and none for any other name.
def currentAt (context : Context) (name : Text) : Arguments :=
  if context.routeName = some name then context.arguments else .empty

def attempt (context : Context) (args : Arguments) (relative : Bool) (entry : Text × Route) :
    Except RouteError Text :=
  entry.2.makeFrom (currentAt context entry.1) context.host args relative

def Serves (context : Context) (target : Text) (args : Arguments) (relative : Bool)
    (entry : Text × Route) : Prop :=
  entry.2.target = target ∧ ¬ Route.Refused (attempt context args relative entry)

theorem currentFor_eq (registered : Registered router) (listed : entry ∈ router.entries)
    (context : Context) : currentFor context entry.2 = currentAt context entry.1 := by
  rw [currentFor, registered.named entry listed, currentAt]

theorem serves_iff (registered : Registered router) (listed : entry ∈ router.entries) :
    Serves context sought args relative entry ↔
      entry.2.checkFrom (currentFor context entry.2) sought args = true := by
  rw [currentFor_eq registered listed, Route.checkFrom_iff, Serves, attempt, Route.not_refused_iff]

theorem attempt_ne_routeNotFound : attempt context args relative entry ≠ .error (.routeNotFound sought) :=
  Route.makeFrom_ne_routeNotFound

theorem attempt_of_serves (serves : Serves context sought args relative entry) :
    (∃ url, attempt context args relative entry = .ok url) ∨
      attempt context args relative entry = .error (.missingHost entry.2.displayName) := by
  rcases entry.2.makeFrom_outcome (currentAt context entry.1) context.host args relative with
    ⟨hole, _, made⟩ | ⟨_, made⟩
  · exact absurd ⟨_, _, _, made⟩ serves.2
  · exact made

theorem sought?_given (given : sought ≠ []) : sought? context sought = .ok sought := by
  have nonempty : sought.isEmpty = false := by simpa using given
  rw [sought?, nonempty]
  rfl

theorem generate_of_sought (meaning : sought? context sought = .ok meant) :
    router.generate context sought args relative =
      match router.select? context meant args with
      | none => .error (.routeNotFound meant)
      | some route => route.makeFrom (currentFor context route) context.host args relative := by
  rw [generate, meaning]
  simp only [bind, Except.bind]
  cases router.select? context meant args <;> rfl

theorem select?_of_name (indexed : Indexed router) {route : Route}
    (listed : (meant, route) ∈ router.entries) : router.select? context meant args = some route := by
  rw [select?, indexed.route?_iff.mpr listed]
  rfl

theorem generate_of_name (registered : Registered router)
    (meaning : sought? context sought = .ok meant) {route : Route}
    (listed : (meant, route) ∈ router.entries) :
    router.generate context sought args relative = attempt context args relative (meant, route) := by
  have current := currentFor_eq registered listed context
  rw [generate_of_sought meaning, select?_of_name registered.indexed listed]
  simp only [attempt, current]

theorem select?_of_target (registered : Registered router) (unlisted : meant ∉ router.names) :
    router.select? context meant args = (router.entries.find? fun entry =>
      entry.2.checkFrom (currentFor context entry.2) meant args).map (·.2) := by
  rw [select?, registered.indexed.route?_eq_none.mpr unlisted, Option.none_or, List.find?_map]
  rfl

theorem generate_of_first (registered : Registered router)
    (meaning : sought? context sought = .ok meant) (unlisted : meant ∉ router.names)
    {earlier later : List (Text × Route)} (whole : router.entries = earlier ++ entry :: later)
    (before : ∀ other ∈ earlier, ¬ Serves context meant args relative other)
    (serves : Serves context meant args relative entry) :
    router.generate context sought args relative = attempt context args relative entry := by
  have listed : entry ∈ router.entries := by simp [whole]
  have found : router.entries.find? (fun entry =>
      entry.2.checkFrom (currentFor context entry.2) meant args) = some entry := by
    rw [List.find?_eq_some_iff_append]
    refine ⟨(serves_iff registered listed).mp serves, earlier, later, whole, ?_⟩
    intro other member
    have known : other ∈ router.entries := by simp [whole, member]
    have refused := mt (serves_iff registered known).mpr (before other member)
    simpa using refused
  rw [generate_of_sought meaning, select?_of_target registered unlisted, found]
  simp only [Option.map_some, attempt, currentFor_eq registered listed]

theorem generate_of_none (registered : Registered router)
    (meaning : sought? context sought = .ok meant) (unlisted : meant ∉ router.names)
    (none : ∀ entry ∈ router.entries, ¬ Serves context meant args relative entry) :
    router.generate context sought args relative = .error (.routeNotFound meant) := by
  have missing : router.entries.find? (fun entry =>
      entry.2.checkFrom (currentFor context entry.2) meant args) = .none := by
    rw [List.find?_eq_none]
    intro entry listed checked
    exact none entry listed ((serves_iff registered listed).mpr checked)
  rw [generate_of_sought meaning, select?_of_target registered unlisted, missing]
  rfl

theorem first_or_none (serves : Text × Route → Prop) (entries : List (Text × Route)) :
    (∃ earlier entry later, entries = earlier ++ entry :: later ∧
      (∀ other ∈ earlier, ¬ serves other) ∧ serves entry) ∨ ∀ entry ∈ entries, ¬ serves entry := by
  induction entries with
  | nil => exact Or.inr nofun
  | cons first rest ih =>
    by_cases here : serves first
    · exact Or.inl ⟨[], first, rest, rfl, nofun, here⟩
    · rcases ih with ⟨earlier, entry, later, rfl, before, found⟩ | none
      · exact Or.inl ⟨first :: earlier, entry, later, rfl, List.forall_mem_cons.mpr ⟨here, before⟩,
          found⟩
      · exact Or.inr (List.forall_mem_cons.mpr ⟨here, none⟩)

theorem generate_of_target (registered : Registered router)
    (meaning : sought? context sought = .ok meant) (unlisted : meant ∉ router.names) :
    (∃ entry, Serves context meant args relative entry ∧
      router.generate context sought args relative = attempt context args relative entry) ∨
    (∀ entry ∈ router.entries, ¬ Serves context meant args relative entry) ∧
      router.generate context sought args relative = .error (.routeNotFound meant) := by
  rcases first_or_none (Serves context meant args relative) router.entries with
    ⟨earlier, entry, later, whole, before, serves⟩ | none
  · exact Or.inl ⟨entry, serves,
      generate_of_first registered meaning unlisted whole before serves⟩
  · exact Or.inr ⟨none, generate_of_none registered meaning unlisted none⟩

structure Resolved (router : Router) (context : Context) (sought : Text) (args : Arguments)
    (relative : Bool) (result : Except RouteError Text) : Prop where
  named : ∀ route, (sought, route) ∈ router.entries →
    result = attempt context args relative (sought, route)
  targeted : sought ∉ router.names → ∀ earlier entry later,
    router.entries = earlier ++ entry :: later →
    (∀ other ∈ earlier, ¬ Serves context sought args relative other) →
    Serves context sought args relative entry → result = attempt context args relative entry
  missing : result = .error (.routeNotFound sought) ↔
    sought ∉ router.names ∧ ∀ entry ∈ router.entries, ¬ Serves context sought args relative entry
  outcome : sought ∉ router.names → (∃ url, result = .ok url) ∨
    (∃ name, result = .error (.missingHost name)) ∨ result = .error (.routeNotFound sought)

-- A name resolves to its route, a target to the first of its routes that refuses nothing; and the
-- route sees the arguments of the last dispatch only if the dispatch went there.
theorem generate_resolved (built : Built router) (context : Context) (given : sought ≠ [])
    (args : Arguments) (relative : Bool) :
    Resolved router context sought args relative
      (router.generate context sought args relative) := by
  have registered := built.registered
  have meaning : sought? context sought = .ok sought := sought?_given given
  refine ⟨?_, ?_, ?_, ?_⟩
  · intro route listed
    exact generate_of_name registered meaning listed
  · intro unlisted earlier entry later whole before serves
    exact generate_of_first registered meaning unlisted whole before serves
  · constructor
    · intro failed
      have unlisted : sought ∉ router.names := by
        intro listed
        obtain ⟨⟨_, route⟩, member, rfl⟩ := List.mem_map.mp listed
        rw [generate_of_name registered meaning member] at failed
        exact attempt_ne_routeNotFound failed
      rcases generate_of_target registered meaning unlisted with ⟨entry, _, made⟩ | ⟨none, _⟩
      · rw [made] at failed
        exact absurd failed attempt_ne_routeNotFound
      · exact ⟨unlisted, none⟩
    · rintro ⟨unlisted, none⟩
      exact generate_of_none registered meaning unlisted none
  · intro unlisted
    rcases generate_of_target registered meaning unlisted with ⟨entry, serves, made⟩ | ⟨_, made⟩
    · rw [made]
      rcases attempt_of_serves serves with ⟨url, located⟩ | hostless
      · exact Or.inl ⟨url, located⟩
      · exact Or.inr (Or.inl ⟨_, hostless⟩)
    · exact Or.inr (Or.inr made)

def docsEntry (name : Text) : Text × Route :=
  (name, { Route.standardRoute "page" Route.docs with name := some name })

-- The documents under two names, of which the second is where the last dispatch went.
def twiceRouter : Router := docsRouter.add "print" (Route.standardRoute "page" Route.docs)

theorem built_twiceRouter : Built twiceRouter := built_docsRouter.add "print" (Route.built_docs "page")

theorem entries_twiceRouter : twiceRouter.entries = [docsEntry "docs", docsEntry "print"] := rfl

def printed : Context := { routeName := some "print".toList, arguments := Route.docsArgs }

theorem attempt_print :
    attempt printed .empty true (docsEntry "print") = .ok ("./".toList ++ "docs.v1/intro/2/") := by
  have same : Route.SameValues (Route.standardRoute "page" Route.docs) Route.docsArgs .empty .empty
      Route.docsArgs := fun _ _ => rfl
  have query : (Route.standardRoute "page" Route.docs).queryOf .empty =
      (Route.standardRoute "page" Route.docs).queryOf Route.docsArgs :=
    (Route.queryOf_nil (by decide)).symm
  exact Route.makeFrom_named ((same.makeFrom query [] true).trans Route.make_docs) "print"

theorem refused_docs : ¬ Serves printed "page" .empty true (docsEntry "docs") := by
  rintro ⟨_, fine⟩
  have taken := Route.refuser?_eq_none.mp (Route.not_refused_iff.mp fine)
  exact absurd (taken _ List.mem_cons_self) (by decide)

-- The first route of the target is passed over, as it does not see the arguments of the other.
theorem generate_resolved_twice :
    twiceRouter.generate printed "page" .empty true = .ok ("./".toList ++ "docs.v1/intro/2/") := by
  have resolved := generate_resolved built_twiceRouter printed (by decide : ("page" : Text) ≠ [])
    .empty true
  have unlisted : ("page" : Text) ∉ twiceRouter.names := by decide
  refine (resolved.targeted unlisted [docsEntry "docs"] _ [] entries_twiceRouter ?_ ?_).trans
    attempt_print
  · intro other member
    rw [List.mem_singleton.mp member]
    exact refused_docs
  · refine ⟨rfl, ?_⟩
    rw [attempt_print]
    nofun

end RouteTable.Router
