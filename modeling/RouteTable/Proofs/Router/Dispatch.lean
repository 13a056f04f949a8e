import RouteTable.Proofs.Route.RoundTrip
import RouteTable.Proofs.Router.Registry
import RouteTable.Router.Dispatch

namespace RouteTable

namespace Arguments

-- The names that are set in a map and new to a store, in the order of the map.
def newNames (store matched : Arguments) : List Text :=
  (matched.entries.filter fun entry => entry.2.isSome && !store.contains entry.1).map (·.1)

theorem lookup_writeSet {entries : List (Text × Option Text)}
    (distinct : (entries.map (·.1)).Nodup) (store : Arguments) (name : Text) :
    (store.writeSet entries).lookup name =
      match entries.lookup name with
      | some (some value) => some (some value)
      | _ => store.lookup name := by
  induction entries generalizing store with
  | nil => rfl
  | cons entry rest ih =>
    obtain ⟨key, value⟩ := entry
    obtain ⟨absent, distinctRest⟩ := List.nodup_cons.mp distinct
    rw [writeSet, List.foldl_cons, ← writeSet, ih distinctRest]
    by_cases here : name = key
    · subst here
      rw [lookup_of_not_mem absent, List.lookup_cons_self]
      cases value with
      | none => rfl
      | some value => simp [insert, lookup_set]
    · rw [List.lookup_cons, beq_false_of_ne here]
      cases value with
      | none => rfl
      | some value => simp only [insert, lookup_set, if_neg here]

theorem contains_insert {store : Arguments} {key name value : Text} (other : name ≠ key) :
    (store.insert key value).contains name = store.contains name := by
  rw [contains, insert, lookup_set, if_neg other, contains]

theorem names_writeSet {entries : List (Text × Option Text)} (distinct : (entries.map (·.1)).Nodup)
    (store : Arguments) :
    (store.writeSet entries).names = store.names ++ newNames store ⟨entries⟩ := by
  induction entries generalizing store with
  | nil => exact (List.append_nil _).symm
  | cons entry rest ih =>
    obtain ⟨key, value⟩ := entry
    obtain ⟨absent, distinctRest⟩ := List.nodup_cons.mp distinct
    cases value with
    | none => exact ih distinctRest store
    | some value =>
      -- Behind the entry its own name is not met again, so the store may as well have it already.
      have others : newNames (store.insert key value) ⟨rest⟩ = newNames store ⟨rest⟩ := by
        unfold newNames
        refine congrArg (List.map Prod.fst) (List.filter_congr ?_)
        intro later listed
        have other : later.1 ≠ key := by
          rintro rfl
          exact absent (List.mem_map.mpr ⟨later, listed, rfl⟩)
        rw [contains_insert other]
      refine (ih distinctRest (store.insert key value)).trans ?_
      have added : (store.insert key value).names = _ := names_set store key (some value)
      rw [others, added]
      by_cases known : key ∈ store.names
      · have held : store.contains key = true := (isSome_lookup store key).mpr known
        simp [newNames, known, held]
      · have new : store.contains key = false :=
          Bool.eq_false_iff.mpr (mt (isSome_lookup store key).mp known)
        simp [newNames, known, new]

theorem nodup_writeSet (entries : List (Text × Option Text)) {store : Arguments}
    (distinct : store.names.Nodup) :
    (store.writeSet entries).names.Nodup := by
  induction entries generalizing store with
  | nil => exact distinct
  | cons entry rest ih =>
    obtain ⟨key, value⟩ := entry
    cases value with
    | none => exact ih distinct
    | some value => exact ih (nodup_set distinct)

end Arguments

namespace Request

-- Names that were there keep their place, and the ones that are not set keep their value.
structure Written (request : Request) (matched : Arguments) (after : Request) : Prop where
  frame : after = { request with arguments := after.arguments }
  names : after.arguments.names = request.arguments.names ++ request.arguments.newNames matched
  distinct : request.arguments.names.Nodup → after.arguments.names.Nodup
  written : ∀ name value, matched.lookup name = some (some value) →
    after.arguments.lookup name = some (some value)
  kept : ∀ name, (∀ value, matched.lookup name ≠ some (some value)) →
    after.arguments.lookup name = request.arguments.lookup name

theorem merge_written {matched : Arguments} (distinct : matched.names.Nodup) (request : Request) :
    Written request matched (request.merge matched) where
  frame := rfl
  names := Arguments.names_writeSet distinct request.arguments
  distinct := Arguments.nodup_writeSet matched.entries
  written name value set := by
    have merged := Arguments.lookup_writeSet distinct request.arguments name
    rw [← Arguments.lookup, set] at merged
    exact merged
  kept name unset := by
    have merged := Arguments.lookup_writeSet distinct request.arguments name
    refine merged.trans ?_
    split
    · next value set => exact absurd set (unset value)
    · rfl

end Request

theorem Route.matches?_eq_some {route : Route} {request : Request} {matched : Arguments} :
    route.matches? request = some matched ↔ route.acceptsScheme request.scheme = true ∧
      route.acceptsMethod request.method = true ∧ route.acceptsHost request.host = true ∧
      route.matchPath? request.path = some matched := by
  unfold Route.matches?
  split
  · next gates =>
    simp only [Bool.and_eq_true] at gates
    simp only [gates, true_and]
  · next shut =>
    simp only [Bool.and_eq_true] at shut
    constructor
    · nofun
    · intro ⟨scheme, method, host, _⟩
      exact absurd ⟨⟨scheme, method⟩, host⟩ shut

theorem Route.nodup_of_matches {route : Route} (built : Route.Built route) {request : Request}
    {matched : Arguments} (accepted : route.matches? request = some matched) :
    matched.names.Nodup := by
  obtain ⟨_, _, _, found⟩ := Route.matches?_eq_some.mp accepted
  obtain ⟨marks, _, rfl⟩ := Option.map_eq_some_iff.mp found
  have defaults := built.nodup_defaults
  generalize route.defaults = args at defaults
  induction route.holes generalizing args with
  | nil => exact defaults
  | cons hole holes ih => exact ih _ (Arguments.nodup_set defaults)

namespace Router

variable {router : Router} {request : Request} {start final : Context} {name : Text} {route : Route}
  {matched : Arguments}

-- The first route that accepts the request, in the order of registration.
structure Chosen (router : Router) (request : Request) (name : Text) (route : Route)
    (matched : Arguments) : Prop where
  first : ∃ earlier later, router.entries = earlier ++ (name, route) :: later ∧
    ∀ entry ∈ earlier, entry.2.matches? request = none
  accepted : route.matches? request = some matched

theorem firstMatch?_eq_none {entries : List (Text × Route)} :
    firstMatch? request entries = none ↔ ∀ entry ∈ entries, entry.2.matches? request = none := by
  induction entries with
  | nil => exact ⟨nofun, fun _ => rfl⟩
  | cons entry rest ih =>
    obtain ⟨name, route⟩ := entry
    unfold firstMatch?
    rw [List.forall_mem_cons]
    cases here : route.matches? request with
    | some matched => simp
    | none => simpa using ih

theorem first_of_firstMatch? {entries : List (Text × Route)}
    (found : firstMatch? request entries = some (name, route, matched)) :
    (∃ earlier later, entries = earlier ++ (name, route) :: later ∧
      ∀ entry ∈ earlier, entry.2.matches? request = none) ∧
      route.matches? request = some matched := by
  induction entries with
  | nil => cases found
  | cons entry rest ih =>
    obtain ⟨key, other⟩ := entry
    unfold firstMatch? at found
    split at found
    · next accepted =>
      cases found
      exact ⟨⟨[], rest, rfl, nofun⟩, accepted⟩
    · next refused =>
      obtain ⟨⟨earlier, later, rfl, none⟩, accepted⟩ := ih found
      exact ⟨⟨(key, other) :: earlier, later, rfl, List.forall_mem_cons.mpr ⟨refused, none⟩⟩,
        accepted⟩

theorem chosen_of_firstMatch? (search : firstMatch? request router.entries =
    some (name, route, matched)) : Chosen router request name route matched := by
  obtain ⟨first, accepted⟩ := first_of_firstMatch? search
  exact ⟨first, accepted⟩

theorem Chosen.listed (chosen : Chosen router request name route matched) :
    (name, route) ∈ router.entries := by
  obtain ⟨earlier, later, whole, _⟩ := chosen.first
  rw [whole]
  exact List.mem_append_right _ List.mem_cons_self

theorem Chosen.matchPath (chosen : Chosen router request name route matched) :
    route.matchPath? request.path = some matched :=
  (Route.matches?_eq_some.mp chosen.accepted).2.2.2

theorem Chosen.acceptsHost (chosen : Chosen router request name route matched) :
    route.acceptsHost request.host = true :=
  (Route.matches?_eq_some.mp chosen.accepted).2.2.1

theorem answer_eq (router : Router) (visit : Visit) :
    router.answer visit =
      match firstMatch? visit.request router.entries with
      | none => .error (.routeNotFound visit.request.path) visit
      | some (name, route, matched) => .ok route.target (visit.arrive name matched) := by
  change (match firstMatch? visit.request router.entries with
    | none => throw (.routeNotFound visit.request.path)
    | some (name, route, matched) => do
      set (visit.arrive name matched)
      return route.target : EStateM RouteError Visit Text) visit = _
  cases firstMatch? visit.request router.entries <;> rfl

theorem serve_of_none (search : firstMatch? request router.entries = none) (context : Context) :
    router.serve request context = ⟨.error (.routeNotFound request.path), request, context⟩ := by
  rw [serve, answer_eq, search]

theorem serve_of_some (search : firstMatch? request router.entries = some (name, route, matched))
    (context : Context) : router.serve request context =
      ⟨.ok route.target, (Visit.arrive { request, context } name matched).request,
        (Visit.arrive { request, context } name matched).context⟩ := by
  rw [serve, answer_eq, search]

theorem dispatch_of_none (search : firstMatch? request router.entries = none) (context : Context) :
    router.dispatch request context = .error (.routeNotFound request.path) := by
  rw [dispatch, serve_of_none search]
  rfl

theorem dispatch_of_some (search : firstMatch? request router.entries = some (name, route, matched))
    (context : Context) : router.dispatch request context =
      .ok ⟨route.target, (Visit.arrive { request, context } name matched).request,
        (Visit.arrive { request, context } name matched).context⟩ := by
  rw [dispatch, serve_of_some search]
  rfl

theorem chosen_of_dispatch {context : Context} {dispatched : Dispatched}
    (answered : router.dispatch request context = .ok dispatched) :
    ∃ name route matched, Chosen router request name route matched ∧
      dispatched.context.host = (if request.host.isEmpty then context.host else request.host) ∧
      dispatched.context.routeName = some name ∧ dispatched.context.arguments = matched := by
  cases search : firstMatch? request router.entries with
  | none =>
    rw [dispatch_of_none search] at answered
    cases answered
  | some found =>
    obtain ⟨name, route, matched⟩ := found
    rw [dispatch_of_some search] at answered
    cases answered
    exact ⟨name, route, matched, chosen_of_firstMatch? search, rfl, rfl, rfl⟩

def Served.succeeded (served : Served) : Bool := served.answer.isOk

structure Answers (router : Router) (request : Request) (context : Context) (served : Served) :
    Prop where
  succeeds : served.succeeded = true ↔
    ∃ entry ∈ router.entries, (entry.2.matches? request).isSome = true
  found : ∀ target, served.answer = .ok target → ∃ name route matched,
    Chosen router request name route matched ∧ target = route.target ∧
    request.Written matched served.request ∧
    served.context = {
      host := if request.host.isEmpty then context.host else request.host
      routeName := some name
      locale := served.request.arguments.get? "locale"
      format := served.request.arguments.get? "format"
      arguments := matched }
  failed : ∀ fault, served.answer = .error fault →
    fault = .routeNotFound request.path ∧ served.request = request ∧ served.context = context

theorem serve_answers (built : Built router) (request : Request) (context : Context) :
    Answers router request context (router.serve request context) := by
  cases search : firstMatch? request router.entries with
  | none =>
    have none := firstMatch?_eq_none.mp search
    rw [serve_of_none search]
    refine ⟨⟨nofun, ?_⟩, nofun, ?_⟩
    · rintro ⟨entry, listed, accepted⟩
      rw [none entry listed] at accepted
      cases accepted
    · intro fault answered
      cases answered
      exact ⟨rfl, rfl, rfl⟩
  | some found =>
    obtain ⟨name, route, matched⟩ := found
    have chosen := chosen_of_firstMatch? search
    have accepted := chosen.accepted
    have listed := chosen.listed
    rw [serve_of_some search]
    refine ⟨⟨fun _ => ⟨_, listed, by rw [accepted]; rfl⟩, fun _ => rfl⟩, ?_, nofun⟩
    intro target answered
    cases answered
    have made := built.registered.made _ listed
    have distinct := Route.nodup_of_matches made accepted
    exact ⟨name, route, matched, chosen, rfl, Request.merge_written distinct request, rfl⟩

def run (router : Router) : List Request → Context → List Served × Context
  | [], context => ([], context)
  | request :: rest, context =>
    let served := router.serve request context
    let (later, final) := run router rest served.context
    (served :: later, final)

-- Every request is answered in the context that the ones before left behind.
inductive Run (router : Router) : Context → List Request → List Served → Context → Prop
  | nil {context : Context} : Run router context [] [] context
  | cons {context final : Context} {request : Request} {served : Served} {rest : List Request}
    {later : List Served} (answers : Answers router request context served)
    (onward : Run router served.context rest later final) :
    Run router context (request :: rest) (served :: later) final

structure Remembers (start : Context) (served : List Served) (final : Context) : Prop where
  last : ∀ last, (served.filter (·.succeeded)).getLast? = some last →
    final.routeName = last.context.routeName ∧ final.arguments = last.context.arguments ∧
    final.locale = last.request.arguments.get? "locale" ∧
    final.format = last.request.arguments.get? "format"
  untouched : served.filter (·.succeeded) = [] → final = start
  host : final.host =
    ((served.filter fun served => served.succeeded && !served.request.host.isEmpty).getLast?.map
      (·.request.host)).getD start.host

theorem run_answers (built : Built router) (requests : List Request) (context : Context) :
    Run router context requests (router.run requests context).1 (router.run requests context).2 := by
  induction requests generalizing context with
  | nil => exact .nil
  | cons request rest ih => exact .cons (serve_answers built request context) (ih _)

theorem getLast?_cons_value {α β : Type} (value : α → β) (first : α) (rest : List α)
    (otherwise : β) : ((first :: rest).getLast?.map value).getD otherwise =
      (rest.getLast?.map value).getD (value first) := by
  rw [List.getLast?_cons]
  cases rest.getLast? <;> rfl

theorem Answers.remembers {served : Served} {later : List Served}
    (answers : Answers router request start served)
    (remembers : Remembers served.context later final) :
    Remembers start (served :: later) final := by
  cases answered : served.answer with
  | error fault =>
    -- A failure is not among those that count, and it hands its context on.
    obtain ⟨rfl, sameRequest, sameContext⟩ := answers.failed fault answered
    have failed : served.succeeded = false := by rw [Served.succeeded, answered]; rfl
    rw [sameContext] at remembers
    refine ⟨?_, ?_, ?_⟩
    · rw [List.filter_cons_of_neg (by simp [failed])]
      exact remembers.last
    · rw [List.filter_cons_of_neg (by simp [failed])]
      exact remembers.untouched
    · rw [List.filter_cons_of_neg (by simp [failed])]
      exact remembers.host
  | ok target =>
    obtain ⟨name, route, matched, _, _, written, context⟩ := answers.found target answered
    have succeeded : served.succeeded = true := by rw [Served.succeeded, answered]; rfl
    have sameHost : served.request.host = request.host := by rw [written.frame]
    refine ⟨?_, ?_, ?_⟩
    · rw [List.filter_cons_of_pos succeeded]
      intro last found
      -- This one is the last unless a later one succeeds.
      cases others : later.filter (·.succeeded) with
      | nil =>
        rw [others] at found
        obtain rfl : served = last := Option.some.inj found
        rw [remembers.untouched others, context]
        exact ⟨rfl, rfl, rfl, rfl⟩
      | cons first rest =>
        rw [others, List.getLast?_cons_cons, ← others] at found
        exact remembers.last last found
    · rw [List.filter_cons_of_pos succeeded]
      nofun
    · rw [remembers.host]
      cases hostless : request.host.isEmpty with
      | true =>
        rw [List.filter_cons_of_neg (by simp [sameHost, hostless]), context, hostless]
        rfl
      | false =>
        rw [List.filter_cons_of_pos (by simp [succeeded, sameHost, hostless]),
          getLast?_cons_value, sameHost, context, hostless]
        rfl

theorem Run.remembers {requests : List Request} {served : List Served}
    (run : Run router start requests served final) : Remembers start served final := by
  induction run with
  | nil => exact ⟨nofun, fun _ => rfl, rfl⟩
  | cons answers _ ih => exact answers.remembers ih

-- Every request of a run is answered by the first route that accepts it, and what the context holds
-- at the end is what the answers left in it.
theorem run_spec (built : Built router) (requests : List Request) (context : Context) :
    Run router context requests (router.run requests context).1 (router.run requests context).2 ∧
      Remembers context (router.run requests context).1 (router.run requests context).2 := by
  have run := run_answers built requests context
  exact ⟨run, run.remembers⟩

def docsRouter : Router :=
  (Router.empty.withDefaultHost "docs.org").add "docs" (Route.standardRoute "page" Route.docs)

theorem built_docsRouter : Built docsRouter :=
  .add (.withDefaultHost .empty "docs.org") "docs" (Route.built_docs "page")

-- News in the language that the path names, or else in the one that the request brings along.
def news : Template where
  text := "/news/(\x7blocale\x7d/)"
  segments := [.literal "/news/", .hole
    { name := "locale", requirement := defaultRequirement, optional := true, trailing := "/" }]

def newsRoute : Route := { Route.standardRoute "page" news with methods := ["GET"] }

theorem built_newsRoute : newsRoute.Built := by
  have read : Template.read news.text = .ok news := Route.ok_of_toOption (by decide +kernel)
  have made : Route.ofTemplate news.text "page" = .ok (Route.standardRoute "page" news) :=
    Route.ofTemplate_plain read (by unfold Route.Plain; decide) (by decide)
  have capitals : Text.asciiUpper "GET" = "GET".toList := by decide
  have methods : (Route.standardRoute "page" news).withMethods ["GET"] = newsRoute := by
    rw [Route.withMethods, List.foldl_cons, List.foldl_nil, capitals]
    rfl
  rw [← methods]
  exact (Route.Built.ofTemplate made).withMethods ["GET"]

theorem standard_newsRoute : newsRoute.Standard := by
  refine built_newsRoute.standard ?_
  intro hole listed
  exact Route.hasDefaultRequirements_standardRoute "page" news hole listed

theorem match_news {path text : Text} {value : Option Text} (slashed : Slashed text path)
    (spelled : Spells (bare news.segments) text)
    (picks : picked news.segments (Path.segments path) = [value]) :
    newsRoute.matchPath? path = some ⟨[("locale", value)]⟩ := by
  have template : newsRoute.template = news := rfl
  have slotted : Slotted newsRoute.template.segments := by
    unfold Slotted
    exact ⟨⟨⟨rfl, by decide⟩, rfl⟩, rfl, rfl⟩
  have accepted := standard_newsRoute.accepts_iff path
  rw [template] at accepted
  obtain ⟨matched, found⟩ := Option.isSome_iff_exists.mp (accepted.mpr ⟨text, slashed, spelled⟩)
  have held := standard_newsRoute.lookups_of_match slotted found
  rw [template, picks] at held
  -- One hole and no defaults, so there is one entry.
  obtain ⟨marks, _, rfl⟩ := Option.map_eq_some_iff.mp found
  rw [found]
  change [some _] = [some value] at held
  obtain rfl := Option.some.inj (List.head_eq_of_cons_eq held)
  rfl

def newsRouter : Router := (Router.empty.withDefaultHost "docs.org").add "news" newsRoute

theorem built_newsRouter : Built newsRouter :=
  .add (.withDefaultHost .empty "docs.org") "news" built_newsRoute

theorem serve_news {request : Request} {value : Option Text} {text : Text}
    (get : request.method = "GET") (slashed : Slashed text request.path)
    (spelled : Spells (bare news.segments) text)
    (picks : picked news.segments (Path.segments request.path) = [value]) (context : Context) :
    newsRouter.serve request context =
      ⟨.ok "page", (Visit.arrive { request, context } "news" ⟨[("locale", value)]⟩).request,
        (Visit.arrive { request, context } "news" ⟨[("locale", value)]⟩).context⟩ := by
  have accepted : { newsRoute with name := some "news".toList }.matches? request =
      some ⟨[("locale", value)]⟩ := by
    have method : newsRoute.acceptsMethod request.method = true := by
      rw [get]
      decide
    exact Route.matches?_eq_some.mpr ⟨rfl, method, rfl, match_news slashed spelled picks⟩
  have search : firstMatch? request newsRouter.entries =
      some ("news".toList, { newsRoute with name := some "news".toList }, ⟨[("locale", value)]⟩) := by
    change firstMatch? request [_] = _
    rw [firstMatch?, accepted]
  exact serve_of_some search context

-- The first request brings another language than its path names, and the last one names none. The one
-- in between is of a kind that no route takes.
def frenchVisit : Request where
  path := "/news/fr/"
  host := "b.org"
  arguments := ⟨[("locale", some "de"), ("format", some "html")]⟩

def postedVisit : Request where
  path := "/news/"
  method := "POST"
  host := "c.org"
  arguments := ⟨[("locale", some "it")]⟩

def germanVisit : Request where
  path := "/news/"
  arguments := ⟨[("locale", some "de")]⟩

def frenchContext : Context where
  host := "b.org"
  routeName := some "news"
  locale := some "fr"
  format := some "html"
  arguments := ⟨[("locale", some "fr")]⟩

def germanContext : Context where
  host := "b.org"
  routeName := some "news"
  locale := some "de"
  arguments := ⟨[("locale", none)]⟩

def newsServed : List Served :=
  [⟨.ok "page", { frenchVisit with
      arguments := ⟨[("locale", some "fr"), ("format", some "html")]⟩ }, frenchContext⟩,
    ⟨.error (.routeNotFound "/news/"), postedVisit, frenchContext⟩,
    ⟨.ok "page", germanVisit, germanContext⟩]

theorem run_news : newsRouter.run [frenchVisit, postedVisit, germanVisit] newsRouter.context =
    (newsServed, germanContext) := by
  have begun : Spelling (.literal "/news/") [] "/news/" := .literal (.refl _)
  have locale : Spelling
      (.hole { name := "locale", requirement := defaultRequirement, optional := true })
      [some "fr"] ("fr".toList ++ []) :=
    .present rfl (units_of_ascii (by decide) (by decide)) (.refl _)
  have french : Spells (bare news.segments) "/news/fr" := ⟨_, .cons begun (.cons locale .nil)⟩
  have german : Spells (bare news.segments) "/news/" :=
    ⟨_, .cons begun (.cons (.absent rfl) .nil)⟩
  have unserved : firstMatch? postedVisit newsRouter.entries = none := rfl
  have first : newsRouter.serve frenchVisit newsRouter.context =
      ⟨.ok "page", { frenchVisit with
        arguments := ⟨[("locale", some "fr"), ("format", some "html")]⟩ }, frenchContext⟩ :=
    serve_news rfl (Or.inr rfl) french rfl _
  have second : newsRouter.serve postedVisit frenchContext =
      ⟨.error (.routeNotFound "/news/"), postedVisit, frenchContext⟩ := serve_of_none unserved _
  have third : newsRouter.serve germanVisit frenchContext = ⟨.ok "page", germanVisit, germanContext⟩ :=
    serve_news rfl (Or.inl rfl) german rfl _
  simp only [run, first, second, third, newsServed]

theorem run_spec_news :
    Run newsRouter newsRouter.context [frenchVisit, postedVisit, germanVisit] newsServed
        germanContext ∧
      Remembers newsRouter.context newsServed germanContext := by
  have spec := run_spec built_newsRouter [frenchVisit, postedVisit, germanVisit] newsRouter.context
  rw [run_news] at spec
  exact spec

end Router

end RouteTable
