import RouteTable.Proofs.Host
import RouteTable.Proofs.Route.Checked
import RouteTable.Proofs.Router.SelfLink

namespace RouteTable

def Url.host? (url : Text) : Option Text :=
  (Text.cutAt? "://" url).map fun (_, after) => after.takeWhile (· != '/')

theorem Url.host?_absolute {scheme host : Text} (plain : Text.includes "://" scheme = false)
    (unslashed : '/' ∉ host) (rest : Text) :
    Url.host? (scheme ++ "://".toList ++ host ++ '/' :: rest) = some host := by
  have inside : ∀ c ∈ host, (c != '/') = true := by
    intro c member
    rw [bne_iff_ne]
    rintro rfl
    exact unslashed member
  rw [List.append_assoc, List.append_assoc, Url.host?, Text.cutAt?_scheme plain, Option.map_some]
  dsimp only
  rw [List.takeWhile_append_of_pos inside, List.takeWhile_cons_of_neg (by simp), List.append_nil]

namespace Router

variable {router : Router} {request : Request} {context : Context} {dispatched : Dispatched}
  {name : Text} {route : Route} {matched : Arguments}

theorem host_of_dispatch (answered : router.dispatch request context = .ok dispatched) :
    dispatched.context.host = if request.host.isEmpty then context.host else request.host := by
  obtain ⟨_, _, _, _, host, _⟩ := chosen_of_dispatch answered
  exact host

theorem Chosen.accepts (chosen : Chosen router request name route matched) {pattern : HostPattern}
    (hosted : route.host = some pattern) : pattern.accepts request.host = true := by
  have gate := chosen.acceptsHost
  rw [Route.acceptsHost, hosted] at gate
  exact gate

-- Where a link leads from a page of a host, through the pattern that has let the host in.
structure HostLink (route : Route) (pattern : HostPattern) (host url : Text) : Prop where
  located : ∃ rest, url = route.scheme.getD Route.defaultScheme ++ "://".toList ++
    pattern.resolve host ++ '/' :: rest
  unslashed : '/' ∉ pattern.resolve host
  read : Text.includes "://" (route.scheme.getD Route.defaultScheme) = false →
    Url.host? url = some (pattern.resolve host)
  same : pattern.resolve host = host ↔ pattern.text = HostPattern.basenameToken ∨
    Text.includes HostPattern.basenameToken pattern.text = false ∧ pattern.text = host
  alike : Alike (pattern.resolve host) host ↔ pattern.text = HostPattern.basenameToken ∨
    Text.includes HostPattern.basenameToken pattern.text = false

theorem hostLink_of_makeFrom {pattern : HostPattern} {current args : Arguments} {host url : Text}
    {relative : Bool} (hosted : route.host = some pattern) (nonempty : host ≠ [])
    (plain : '/' ∉ host) (accepted : pattern.accepts host = true)
    (made : route.makeFrom current host args relative = .ok url) :
    HostLink route pattern host url := by
  have fits := HostPattern.accepts_iff.mp accepted
  obtain ⟨rest, located⟩ := Route.absolute_of_makeFrom hosted made
  rw [HostHint.ofText_of_not_mem plain] at fits located
  have unslashed := HostPattern.resolve_not_mem_slash fits plain
  refine ⟨⟨rest, located⟩, unslashed, ?_, pattern.resolve_eq_iff nonempty,
    HostPattern.alike_resolve_iff nonempty fits⟩
  intro scheme
  rw [located]
  exact Url.host?_absolute scheme unslashed rest

theorem hostLink_of_arrived (registered : Registered router)
    (arrived : Arrived router request context name route matched) {pattern : HostPattern}
    (hosted : route.host = some pattern) (nonempty : request.host ≠ []) (plain : '/' ∉ request.host)
    (served : context.host = request.host) {args : Arguments} {url : Text}
    (made : router.url context [] args = .ok url) : HostLink route pattern request.host url := by
  rw [Router.url, generate_of_arrived registered arrived, served] at made
  exact hostLink_of_makeFrom hosted nonempty plain (arrived.chosen.accepts hosted) made

theorem url_of_arrived (registered : Registered router)
    (arrived : Arrived router request context name route matched)
    (default : route.HasDefaultRequirements) (known : context.host ≠ []) :
    ∃ url, router.url context [] .empty = .ok url := by
  have captures := Route.captures_of_match arrived.chosen.matchPath
  have standard := (registered.made _ arrived.chosen.listed).standard default
  have taken : route.refuser? matched .empty = none := by
    rw [Route.refuser?_eq_none]
    intro hole listed
    rw [Route.takes_of_captures captures listed]
    exact standard.regenerates arrived.chosen.matchPath hole listed
  have has : ¬ route.LacksHost context.host := fun lacks => known lacks.2
  obtain ⟨url, located⟩ := Route.locate_of_host has (route.pathOf matched .empty) false
  refine ⟨route.withQuery .empty url, ?_⟩
  rw [Router.url, generate_of_arrived registered arrived, Route.makeFrom_eq, taken, located]
  rfl

-- The host of a self link is what the pattern of the route makes of the host that was served. It is
-- the same host in two cases only, and for other patterns not even alike.
theorem hostLink_of_dispatch (built : Built router) (nonempty : request.host ≠ [])
    (plain : '/' ∉ request.host) (answered : router.dispatch request context = .ok dispatched) :
    ∃ name route matched, Chosen router request name route matched ∧
      ∀ pattern, route.host = some pattern →
        ∀ args url, router.url dispatched.context [] args = .ok url →
          HostLink route pattern request.host url := by
  obtain ⟨name, route, matched, arrived⟩ := arrived_of_dispatch answered
  refine ⟨name, route, matched, arrived.chosen, ?_⟩
  intro pattern hosted args url made
  have served : dispatched.context.host = request.host := by
    rw [host_of_dispatch answered, if_neg (by simpa using nonempty)]
  exact hostLink_of_arrived built.registered arrived hosted nonempty plain served made

def hostedRoute (pattern : HostPattern) : Route :=
  { Route.standardRoute "page" Route.docs with name := some "docs".toList, host := some pattern }

def hostedRouter (pattern : HostPattern) : Router :=
  Router.empty.add "docs" { Route.standardRoute "page" Route.docs with host := some pattern }

theorem built_hostedRouter (pattern : HostPattern) : Built (hostedRouter pattern) :=
  .add .empty "docs" ((Route.built_docs "page").withHost (Route.withHost_text _ pattern))

def hostedVisit : Request := { path := "/DOCS.v1/Intro/2/", host := "docs.org" }

theorem matches_hostedVisit {pattern : HostPattern}
    (fits : HostPattern.Fits pattern.pieces "docs.org") :
    ((hostedRoute pattern).matches? hostedVisit).isSome = true := by
  have built := (built_hostedRouter pattern).registered.made _ List.mem_cons_self
  have default := Route.hasDefaultRequirements_standardRoute "page" Route.docs
  obtain ⟨matched, found⟩ := Route.match_docs built default rfl
  have plain : '/' ∉ hostedVisit.host := by decide
  have gate : pattern.accepts hostedVisit.host = true := by
    rw [HostPattern.accepts_iff, HostHint.ofText_of_not_mem plain]
    exact fits
  exact Option.isSome_of_eq_some (Route.matches?_eq_some.mpr ⟨rfl, rfl, gate, found⟩)

theorem arrived_hostedVisit {pattern : HostPattern}
    (fits : HostPattern.Fits pattern.pieces "docs.org") :
    ∃ dispatched matched url,
      (hostedRouter pattern).dispatch hostedVisit {} = .ok dispatched ∧
      Arrived (hostedRouter pattern) hostedVisit dispatched.context "docs" (hostedRoute pattern)
        matched ∧
      (hostedRouter pattern).url dispatched.context [] .empty = .ok url := by
  have accepted : ∃ entry ∈ (hostedRouter pattern).entries,
      (entry.2.matches? hostedVisit).isSome = true :=
    ⟨("docs".toList, hostedRoute pattern), List.mem_cons_self, matches_hostedVisit fits⟩
  obtain ⟨dispatched, answered⟩ := dispatch_of_accepted accepted {}
  obtain ⟨name, route, matched, arrived⟩ := arrived_of_dispatch answered
  obtain ⟨rfl, rfl⟩ := Prod.mk.inj (List.mem_singleton.mp arrived.chosen.listed)
  have default := Route.hasDefaultRequirements_standardRoute "page" Route.docs
  have known : dispatched.context.host ≠ [] := by
    rw [host_of_dispatch answered]
    decide
  obtain ⟨url, made⟩ := url_of_arrived (built_hostedRouter pattern).registered arrived default known
  exact ⟨dispatched, matched, url, answered, arrived, made⟩

def tokenHost : HostPattern := .ofShort HostPattern.basenameToken (by decide)

-- With the token alone a page links to the host it is shown on.
theorem hostLink_of_dispatch_token :
    ∃ dispatched url,
      (hostedRouter tokenHost).dispatch hostedVisit {} = .ok dispatched ∧
      (hostedRouter tokenHost).url dispatched.context [] .empty = .ok url ∧
      Url.host? url = some hostedVisit.host := by
  have pieces : tokenHost.pieces = [[], []] := HostPattern.pieces_of_cut rfl rfl
  have fits : HostPattern.Fits tokenHost.pieces "docs.org" := by
    rw [pieces]
    change HostPattern.Fits [[], []] ([] ++ "docs.org".toList ++ [])
    exact .token (.refl []) nofun (by decide) (.last (.refl []))
  obtain ⟨dispatched, _, url, answered, _, made⟩ := arrived_hostedVisit fits
  have known : hostedVisit.host ≠ [] := nofun
  have plain : '/' ∉ hostedVisit.host := by decide
  obtain ⟨name, route, matched, chosen, links⟩ :=
    hostLink_of_dispatch (built_hostedRouter tokenHost) known plain answered
  obtain ⟨rfl, rfl⟩ := Prod.mk.inj (List.mem_singleton.mp chosen.listed)
  have link := links _ rfl .empty url made
  refine ⟨dispatched, url, answered, made, ?_⟩
  rw [link.read (by decide), link.same.mpr (Or.inl rfl)]

-- With anything beside the token the same page links to another host.
theorem hostLink_of_dispatch_prefixed :
    Built (hostedRouter Route.docsHost) ∧ hostedVisit.host ≠ [] ∧
      Text.includes "://" hostedVisit.host = false ∧ '/' ∉ hostedVisit.host ∧
      (hostedRoute Route.docsHost).host.isSome = true ∧
      ∃ dispatched matched url,
        (hostedRouter Route.docsHost).dispatch hostedVisit {} = .ok dispatched ∧
        Chosen (hostedRouter Route.docsHost) hostedVisit "docs"
          (hostedRoute Route.docsHost) matched ∧
        (hostedRouter Route.docsHost).url dispatched.context [] .empty = .ok url ∧
        Url.host? url = some "docs.docs.org".toList ∧ Url.host? url ≠ some hostedVisit.host := by
  have pieces : Route.docsHost.pieces = ["docs.".toList, []] := HostPattern.pieces_of_cut rfl rfl
  have fits : HostPattern.Fits Route.docsHost.pieces "docs.org" := by
    rw [pieces]
    change HostPattern.Fits ["docs.".toList, []] ("docs.".toList ++ "org".toList ++ [])
    exact .token (.refl _) nofun (by decide) (.last (.refl []))
  obtain ⟨dispatched, matched, url, answered, arrived, made⟩ := arrived_hostedVisit fits
  have plain : '/' ∉ hostedVisit.host := by decide
  have link := hostLink_of_arrived (built_hostedRouter _).registered arrived rfl nofun plain
    (host_of_dispatch answered) made
  have resolved : Route.docsHost.resolve hostedVisit.host = "docs.docs.org".toList := by
    rw [HostPattern.resolve_eq_intercalate, pieces]
    rfl
  have host : Url.host? url = some "docs.docs.org".toList := by
    rw [link.read (by decide), resolved]
  refine ⟨built_hostedRouter _, nofun, by decide, plain, rfl, dispatched, matched, url, answered,
    arrived.chosen, made, host, ?_⟩
  rw [host]
  decide

end Router

end RouteTable
