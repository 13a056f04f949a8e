import RouteTable.Proofs.Route.Recapture
import RouteTable.Proofs.Router.Dispatch
import RouteTable.Router.Generate

namespace RouteTable

namespace Router

variable {router : Router} {request : Request} {context : Context} {dispatched : Dispatched}

-- What a dispatch leaves behind for links to where it went.
structure Arrived (router : Router) (request : Request) (context : Context) (name : Text)
    (route : Route) (matched : Arguments) : Prop where
  chosen : Chosen router request name route matched
  routeName : context.routeName = some name
  arguments : context.arguments = matched

theorem arrived_of_dispatch (answered : router.dispatch request context = .ok dispatched) :
    ∃ name route matched, Arrived router request dispatched.context name route matched := by
  obtain ⟨name, route, matched, chosen, _, current, arguments⟩ := chosen_of_dispatch answered
  exact ⟨name, route, matched, chosen, current, arguments⟩

variable {name : Text} {route : Route} {matched : Arguments}

-- The name in the context leads back to the route, and the arguments in the context are its own.
theorem generate_of_arrived (registered : Registered router)
    (arrived : Arrived router request context name route matched) (args : Arguments)
    (relative : Bool) :
    router.generate context [] args relative = route.makeFrom matched context.host args relative := by
  have listed := arrived.chosen.listed
  have current : currentFor context route = matched := by
    rw [currentFor, if_pos (arrived.routeName.trans (registered.named _ listed).symm),
      arrived.arguments]
  unfold generate sought? select?
  rw [arrived.routeName, List.isEmpty_nil, if_pos rfl]
  simp only [bind, Except.bind, registered.indexed.route?_iff.mpr listed, Option.some_or, current]

-- What becomes of the link: every hole has to take its capture again, and the first that does not
-- is named with it.
structure SelfLinked (name : Text) (route : Route) (matched : Arguments)
    (link : Except RouteError Text) : Prop where
  succeeds : link.isOk = true ↔ ∀ hole ∈ route.holes, Route.regenerates matched hole = true
  url : ∀ url, link = .ok url → url = route.selfLink matched
  refused : ∀ fault, link = .error fault → ∃ hole ∈ route.holes,
    Route.regenerates matched hole = false ∧
    fault = .argument name hole.placeholder.name (matched.get? hole.placeholder.name)

theorem selfLinked_of_arrived (registered : Registered router)
    (arrived : Arrived router request context name route matched) (hostless : route.host = none) :
    SelfLinked name route matched (router.relativeUrl context [] .empty) := by
  have displayed : route.displayName = name := by
    rw [Route.displayName, registered.named _ arrived.chosen.listed]
    rfl
  rw [relativeUrl, generate_of_arrived registered arrived,
    Route.makeFrom_of_captures (Route.captures_of_match arrived.chosen.matchPath) hostless, displayed]
  cases first : route.holes.find? (!Route.regenerates matched ·) with
  | none =>
    have all : ∀ hole ∈ route.holes, Route.regenerates matched hole = true := by
      simpa using List.find?_eq_none.mp first
    refine ⟨⟨fun _ => all, fun _ => rfl⟩, ?_, nofun⟩
    intro url done
    exact (Except.ok.inj done).symm
  | some hole =>
    have listed := List.mem_of_find?_eq_some first
    have refused : Route.regenerates matched hole = false := by
      simpa using List.find?_some first
    refine ⟨⟨nofun, ?_⟩, nofun, ?_⟩
    · intro all
      rw [all hole listed] at refused
      cases refused
    · intro fault failed
      exact ⟨hole, listed, refused, (Except.error.inj failed).symm⟩

-- Right after a dispatch the link exists exactly if what was captured is accepted again, hole by
-- hole, and goes to the dispatched route. A requirement without assertions never refuses what it has
-- let through, so there it is only the slug that can be missing.
theorem relativeUrl_of_dispatch (built : Built router)
    (hostless : ∀ entry ∈ router.entries, entry.2.host = none)
    (answered : router.dispatch request context = .ok dispatched) :
    ∃ name route matched, Chosen router request name route matched ∧
      SelfLinked name route matched (router.relativeUrl dispatched.context [] .empty) ∧
      ((∀ hole ∈ route.holes, (Regex.Ast.ofText? hole.requirement).isSome = true) →
        ∀ hole ∈ route.holes, Requirement.LookFree hole.requirement →
          Route.regenerates matched hole = Route.hasSlug matched hole) ∧
      (route.HasDefaultRequirements →
        router.relativeUrl dispatched.context [] .empty = .ok (route.selfLink matched)) := by
  obtain ⟨name, route, matched, arrived⟩ := arrived_of_dispatch answered
  have registered := built.registered
  have listed := arrived.chosen.listed
  have made := registered.made _ listed
  have linked := selfLinked_of_arrived registered arrived (hostless _ listed)
  refine ⟨name, route, matched, arrived.chosen, linked, ?_, ?_⟩
  · intro alone hole member lookFree
    exact made.regenerates_eq alone arrived.chosen.matchPath member lookFree
  · intro default
    have taken := (made.standard default).regenerates arrived.chosen.matchPath
    cases done : router.relativeUrl dispatched.context [] .empty with
    | ok url => rw [linked.url url done]
    | error fault =>
      have succeeded := linked.succeeds.mpr taken
      rw [done] at succeeded
      cases succeeded

theorem answer_of_accepted
    (accepted : ∃ entry ∈ router.entries, (entry.2.matches? request).isSome = true)
    (context : Context) : ∃ target, (router.serve request context).answer = .ok target := by
  obtain ⟨entry, listed, accepted⟩ := accepted
  cases search : firstMatch? request router.entries with
  | none =>
    rw [firstMatch?_eq_none.mp search entry listed] at accepted
    cases accepted
  | some found => exact ⟨_, by rw [serve_of_some search]⟩

theorem dispatch_of_accepted
    (accepted : ∃ entry ∈ router.entries, (entry.2.matches? request).isSome = true)
    (context : Context) : ∃ dispatched, router.dispatch request context = .ok dispatched := by
  obtain ⟨target, answered⟩ := answer_of_accepted accepted context
  exact ⟨_, by rw [dispatch, answered]; rfl⟩

def docsVisit : Request := { path := "/DOCS.v1/Intro/2/" }

theorem docsRouter_accepts :
    ∃ entry ∈ docsRouter.entries, (entry.2.matches? docsVisit).isSome = true :=
  ⟨_, List.mem_cons_self, Route.docs_accepts⟩

theorem relativeUrl_of_dispatch_docs :
    ∃ dispatched matched, docsRouter.dispatch docsVisit docsRouter.context = .ok dispatched ∧
      (docsRouter.relativeUrl dispatched.context [] .empty).isOk = true ∧
      ∀ hole ∈ (Route.standardRoute "page" Route.docs).holes,
        Route.regenerates matched hole = Route.hasSlug matched hole := by
  have hostless : ∀ entry ∈ docsRouter.entries, entry.2.host = none := by
    intro entry member
    rw [List.mem_singleton.mp member]
    rfl
  have default := Route.hasDefaultRequirements_standardRoute "page" Route.docs
  obtain ⟨dispatched, answered⟩ := dispatch_of_accepted docsRouter_accepts docsRouter.context
  obtain ⟨name, route, matched, chosen, _, agreed, generated⟩ :=
    relativeUrl_of_dispatch built_docsRouter hostless answered
  obtain ⟨rfl, rfl⟩ := Prod.mk.inj (List.mem_singleton.mp chosen.listed)
  refine ⟨dispatched, matched, answered, congrArg Except.isOk (generated default), ?_⟩
  intro hole listed
  exact agreed default.alone hole listed (default.lookFree hole listed)

def titleHole : Hole where
  placeholder := { name := "title", requirement := "." }
  requirement := "."
  validator := .sequence [.look .textStart,
    .repeated 1 none true (.char .unicode (.compl (.single '\n'))), .look .textEnd]

def titled : Route where
  target := "page"
  template := {
    text := "/\x7btitle:.\x7d"
    segments := [.literal "/", .hole titleHole.placeholder] }
  holes := [titleHole]
  matcher := .sequence [.look .textStart, .literal '/' [],
    .group (some "title".toList) (.repeated 1 none true (.char .unicode (.compl (.single '\n')))),
    .repeated 0 (some 1) true (.literal '/' []), .look .textEnd]

theorem ofTemplate_titled : Route.ofTemplate "/\x7btitle:.\x7d" "page" = .ok titled := by
  have read : Template.read "/\x7btitle:.\x7d" = .ok titled.template :=
    Route.ok_of_toOption (by decide +kernel)
  have matcher : Regex.ofText? true
      (Route.matcherPattern (·.requirement) titled.template.segments) = some titled.matcher := by
    decide +kernel
  have validator : Regex.ofText? true
      (Requirement.wholeValue titleHole.placeholder.requirement) = some titleHole.validator := by
    decide +kernel
  exact Route.ofTemplate_of_read read matcher
    (congrArg (fun made => [made]) (Route.compileHole_of_read validator))

def titledRouter : Router := Router.empty.add "title" titled

def titledVisit : Request := { path := "/!!!" }

section

open Regex

def titleRegex : Regex :=
  .group (some "title".toList) (.repeated 1 none true (.char .unicode (.compl (.single '\n'))))

def titledAtoms : List Regex := [.literal '/' [], titleRegex]

theorem passage_titled {p q : Place} {marks : List Mark} :
    titled.matcher.passage p marks q ↔ p.past = [] ∧ q.rest = [] ∧ ∃ middle,
      (sequence titledAtoms).passage p marks middle ∧ (q = middle ∨ middle.Moves ['/'] q) := by
  change (sequence (Route.endedAtoms titledAtoms)).passage p marks q ↔ _
  exact Route.passage_ended

theorem search_titled : (titled.matcher.search titledVisit.path).isSome = true ∧
    ∀ marks, titled.matcher.search titledVisit.path = some marks →
      captured? titledVisit.path marks "title" = some "!!!".toList := by
  have body : (sequence titledAtoms).passage =
      (Passage.along ['/']).andThen titleRegex.passage := by
    rw [passage_sequence]
    exact congrArg _ (Passage.andThen_stay _)
  constructor
  · have slash : Place.Moves ⟨[], titledVisit.path⟩ ['/'] ⟨['/'], "!!!"⟩ := ⟨rfl, rfl⟩
    have title : Place.Moves ⟨['/'], "!!!"⟩ "!!!" ⟨"/!!!", []⟩ := ⟨rfl, rfl⟩
    have inside : (sequence titledAtoms).passage ⟨[], titledVisit.path⟩
        (Route.valueMarks "title" "!!!" 1 ++ []) ⟨"/!!!", []⟩ := by
      have line : "!!!".toList.all (Unicode.CharSet.compl (.single '\n')).contains = true := by decide
      rw [body]
      exact ⟨_, _, _, ⟨rfl, slash⟩,
        Route.passage_named.mpr ⟨_, by decide, List.all_eq_true.mp line, title, rfl⟩, rfl⟩
    exact search_complete rfl (passage_titled.mpr ⟨rfl, rfl, _, inside, Or.inl rfl⟩)
  · intro marks found
    obtain ⟨p, q, whole, passed⟩ := search_sound found
    obtain ⟨start, finish, middle, inside, ending⟩ := passage_titled.mp passed
    rw [body] at inside
    obtain ⟨first, _, _, ⟨rfl, slash⟩, title, rfl⟩ := inside
    obtain ⟨value, _, _, moves, rfl⟩ := Route.passage_named.mp title
    have path : titledVisit.path = ['/'] ++ (value ++ middle.rest) := by
      rw [← whole, Place.text, start, slash.1, moves.1, List.nil_append]
    have past : first.past = ['/'] := by rw [slash.2, start, List.nil_append]
    have piece : value = "!!!".toList := by
      have rest := List.append_cancel_left (path.symm.trans (show _ = ['/'] ++ "!!!".toList from rfl))
      rcases ending with rfl | final
      · rw [← rest, finish, List.append_nil]
      · -- The path has no slash at its end.
        rw [final.1, finish] at rest
        have last := congrArg List.getLast? rest
        rw [List.getLast?_append] at last
        cases last
    rw [List.append_nil, past, path]
    exact (Route.captured_value rfl).trans (congrArg some piece)

end

theorem relativeUrl_of_dispatch_titled :
    Built titledRouter ∧ (∀ entry ∈ titledRouter.entries, entry.2.host = none) ∧
      ∃ dispatched, titledRouter.dispatch titledVisit titledRouter.context = .ok dispatched ∧
        titledRouter.relativeUrl dispatched.context [] .empty =
          .error (.argument "title" "title" (some "!!!")) := by
  have built : Built titledRouter := .add .empty "title" (.ofTemplate ofTemplate_titled)
  refine ⟨built, ?_, ?_⟩
  · intro entry member
    rw [List.mem_singleton.mp member]
    rfl
  have accepted : ∃ entry ∈ titledRouter.entries, (entry.2.matches? titledVisit).isSome = true := by
    have taken : (titled.matchPath? titledVisit.path).isSome = true := by
      rw [Route.matchPath?, Option.isSome_map]
      exact search_titled.1
    obtain ⟨matched, found⟩ := Option.isSome_iff_exists.mp taken
    exact ⟨("title".toList, { titled with name := some "title".toList }), List.mem_cons_self,
      Option.isSome_of_eq_some (Route.matches?_eq_some.mpr ⟨rfl, rfl, rfl, found⟩)⟩
  obtain ⟨dispatched, answered⟩ := dispatch_of_accepted accepted titledRouter.context
  refine ⟨dispatched, answered, ?_⟩
  obtain ⟨name, route, matched, arrived⟩ := arrived_of_dispatch answered
  obtain ⟨rfl, rfl⟩ := Prod.mk.inj (List.mem_singleton.mp arrived.chosen.listed)
  have linked := selfLinked_of_arrived (Built.registered built) arrived rfl
  have captured : matched.get? "title" = some "!!!".toList := by
    obtain ⟨marks, found, lookups⟩ := Route.lookup_of_match arrived.chosen.matchPath
    rw [Arguments.get?, lookups, if_pos (by decide), search_titled.2 marks found]
    rfl
  have slugless : (Slug.ofText "!!!").isEmpty = true := by decide +kernel
  have refused : Route.regenerates matched titleHole = false := by
    have title : matched.get? titleHole.placeholder.name = some "!!!".toList := captured
    rw [Route.regenerates, title]
    simp only [slugless, Bool.not_true, Bool.and_false]
  cases done : titledRouter.relativeUrl dispatched.context [] .empty with
  | ok url =>
    have taken := linked.succeeds.mp (by rw [done]; rfl) titleHole List.mem_cons_self
    rw [refused] at taken
    cases taken
  | error fault =>
    obtain ⟨hole, listed, _, rfl⟩ := linked.refused fault done
    rw [List.mem_singleton.mp listed]
    exact congrArg (fun value => Except.error (RouteError.argument "title" "title" value)) captured

end Router

end RouteTable
