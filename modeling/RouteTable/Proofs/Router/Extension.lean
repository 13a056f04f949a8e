import RouteTable.Proofs.Router.Resolution
import RouteTable.Proofs.Router.SelfLink

namespace RouteTable.Router

variable {router : Router} {name sought meant : Text} {route : Route} {request : Request}
  {context : Context} {args : Arguments} {relative : Bool}

def alone (name : Text) (route : Route) : Router := empty.add name route

theorem indexed_empty : Indexed empty := ⟨rfl, List.nodup_nil⟩

theorem entries_add_new (indexed : Indexed router) (new : name ∉ router.names) (route : Route) :
    (router.add name route).entries = router.entries ++ (alone name route).entries := by
  rw [indexed.add_new new]
  rfl

theorem firstMatch?_append (request : Request) (earlier later : List (Text × Route)) :
    firstMatch? request (earlier ++ later) =
      (firstMatch? request earlier).or (firstMatch? request later) := by
  induction earlier with
  | nil => rfl
  | cons entry rest ih =>
    obtain ⟨key, other⟩ := entry
    rw [List.cons_append, firstMatch?, firstMatch?]
    cases other.matches? request with
    | some matched => rfl
    | none => exact ih

theorem dispatch_add_new (indexed : Indexed router) (new : name ∉ router.names) (route : Route)
    (request : Request) (context : Context) :
    (router.add name route).dispatch request context =
      match router.dispatch request context with
      | .ok dispatched => .ok dispatched
      | .error _ => (alone name route).dispatch request context := by
  have whole : firstMatch? request (router.add name route).entries =
      (firstMatch? request router.entries).or (firstMatch? request (alone name route).entries) := by
    rw [entries_add_new indexed new, firstMatch?_append]
  cases search : firstMatch? request router.entries with
  | some found =>
    rw [search] at whole
    rw [dispatch_of_some search, dispatch_of_some whole]
  | none =>
    rw [search, Option.none_or] at whole
    rw [dispatch_of_none search]
    cases lone : firstMatch? request (alone name route).entries with
    | some found => rw [dispatch_of_some lone, dispatch_of_some (whole.trans lone)]
    | none => rw [dispatch_of_none lone, dispatch_of_none (whole.trans lone)]

theorem select?_add_new (indexed : Indexed router) (new : name ∉ router.names) (route : Route)
    (other : meant ≠ name) :
    (router.add name route).select? context meant args =
      (router.select? context meant args).or ((alone name route).select? context meant args) := by
  have unnamed : (alone name route).route? meant = none :=
    indexed_empty.route?_add_other other route
  rw [select?, select?, select?, indexed.route?_add_other other, unnamed, Option.none_or,
    entries_add_new indexed new, List.map_append, List.find?_append, Option.or_assoc]

theorem sought?_other (dispatched : context.routeName ≠ some name) (other : sought ≠ name)
    (meaning : sought? context sought = .ok meant) : meant ≠ name := by
  unfold sought? at meaning
  split at meaning
  · split at meaning
    · next current set =>
      cases meaning
      intro same
      exact dispatched (set.trans (congrArg some same))
    · cases meaning
  · cases meaning
    exact other

theorem sought?_error {fault : RouteError} (meaning : sought? context sought = .error fault) :
    fault = .noCurrentRoute := by
  unfold sought? at meaning
  split at meaning
  · split at meaning
    · cases meaning
    · exact (Except.error.inj meaning).symm
  · cases meaning

theorem generate_add_new (indexed : Indexed router) (new : name ∉ router.names) (route : Route)
    (dispatched : context.routeName ≠ some name) (other : sought ≠ name) :
    (router.add name route).generate context sought args relative =
      match router.generate context sought args relative with
      | .error (.routeNotFound _) => (alone name route).generate context sought args relative
      | result => result := by
  cases meaning : sought? context sought with
  | error fault =>
    rw [generate, generate, meaning, sought?_error meaning]
    rfl
  | ok meant =>
    rw [generate_of_sought meaning, generate_of_sought meaning, generate_of_sought meaning,
      select?_add_new indexed new route (sought?_other dispatched other meaning)]
    cases router.select? context meant args with
    | none => rfl
    | some found =>
      rcases found.makeFrom_outcome (currentFor context found) context.host args relative with
        ⟨_, _, made⟩ | ⟨_, ⟨_, made⟩ | made⟩
      all_goals simp only [Option.some_or, made, Route.refusal]

-- What the registry says with a new route in it.
structure Extends (router : Router) (name : Text) (route : Route) : Prop where
  dispatched : ∀ request context dispatched, router.dispatch request context = .ok dispatched →
    (router.add name route).dispatch request context = .ok dispatched
  generated : ∀ context sought args relative, context.routeName ≠ some name → sought ≠ name →
    (∀ missing, router.generate context sought args relative ≠ .error (.routeNotFound missing)) →
    (router.add name route).generate context sought args relative =
      router.generate context sought args relative
  -- Only what nothing was found for is left to the new route.
  undispatched : ∀ request context fault, router.dispatch request context = .error fault →
    (router.add name route).dispatch request context = (alone name route).dispatch request context
  missing : ∀ context sought args relative missing, context.routeName ≠ some name → sought ≠ name →
    router.generate context sought args relative = .error (.routeNotFound missing) →
    (router.add name route).generate context sought args relative =
      (alone name route).generate context sought args relative

-- Registering a route under a new name changes no answer that the registry gave before.
theorem extends_add (built : Built router) (new : name ∉ router.names) (route : Route) :
    Extends router name route := by
  have indexed := built.registered.indexed
  refine ⟨?_, ?_, ?_, ?_⟩
  · intro request context dispatched answered
    rw [dispatch_add_new indexed new, answered]
  · intro context sought args relative current other found
    rw [generate_add_new indexed new route current other]
    split
    · next missing failed => exact absurd failed (found missing)
    · rfl
  · intro request context fault failed
    rw [dispatch_add_new indexed new, failed]
  · intro context sought args relative missing current other failed
    rw [generate_add_new indexed new route current other, failed]

theorem generate_docsRouter :
    docsRouter.generate {} "page" Route.docsArgs true = .ok ("./".toList ++ "docs.v1/intro/2/") := by
  have made : attempt {} Route.docsArgs true (docsEntry "docs") =
      .ok ("./".toList ++ "docs.v1/intro/2/") :=
    Route.makeFrom_named Route.make_docs "docs"
  have serves : Serves {} "page" Route.docsArgs true (docsEntry "docs") := by
    refine ⟨rfl, ?_⟩
    rw [made]
    nofun
  have meaning : sought? {} "page" = .ok "page".toList := sought?_given (by decide)
  have unlisted : ("page" : Text) ∉ docsRouter.names := by decide
  have whole : docsRouter.entries = [] ++ docsEntry "docs" :: [] := rfl
  exact (generate_of_first built_docsRouter.registered meaning unlisted whole nofun serves).trans made

-- A second route for the same paths and the same target takes nothing away from the first.
theorem extends_add_docs :
    ∃ dispatched, docsRouter.dispatch docsVisit docsRouter.context = .ok dispatched ∧
      twiceRouter.dispatch docsVisit docsRouter.context = .ok dispatched ∧
      twiceRouter.generate {} "page" Route.docsArgs true =
        .ok ("./".toList ++ "docs.v1/intro/2/") := by
  have new : ("print" : Text) ∉ docsRouter.names := by decide
  have extended := extends_add built_docsRouter new (Route.standardRoute "page" Route.docs)
  obtain ⟨dispatched, answered⟩ := dispatch_of_accepted docsRouter_accepts docsRouter.context
  have found : ∀ missing, docsRouter.generate {} "page" Route.docsArgs true ≠
      .error (.routeNotFound missing) := by
    intro missing
    rw [generate_docsRouter]
    nofun
  have same := extended.generated {} "page" Route.docsArgs true (by decide) (by decide) found
  exact ⟨dispatched, answered, extended.dispatched _ _ _ answered, same.trans generate_docsRouter⟩

end RouteTable.Router
