import RouteTable.Config.Basic
import RouteTable.Proofs.Router.OrderedMap

namespace RouteTable

namespace RouteEntry

variable {entry : RouteEntry}

def compiles (entry : RouteEntry) : Bool := entry.build.isOk

theorem compiles_of_ok {route : Route} (built : entry.build = .ok route) : entry.compiles = true := by
  rw [compiles, built]
  rfl

theorem compiles_of_error {fault : RouteError} (failed : entry.build = .error fault) :
    entry.compiles = false := by
  rw [compiles, failed]
  rfl

end RouteEntry

namespace Router

variable {router : Router} {entry : RouteEntry} {entries earlier later : List RouteEntry}
  {name : Text} {route : Route}

-- The registrations that a list of entries stands for.
def registrations (entries : List RouteEntry) : List (Text × Route) :=
  entries.filterMap fun entry => entry.build.toOption.map (entry.name, ·)

theorem registrations_append :
    registrations (earlier ++ later) = registrations earlier ++ registrations later :=
  List.filterMap_append

theorem registrations_compiling (built : entry.build = .ok route) :
    registrations (entry :: entries) = (entry.name, route) :: registrations entries := by
  apply List.filterMap_cons_some
  rw [built]
  rfl

theorem registrations_broken (broken : entry.compiles = false) :
    registrations (entry :: entries) = registrations entries := by
  apply List.filterMap_cons_none
  cases made : entry.build with
  | error fault => rfl
  | ok route =>
    rw [RouteEntry.compiles_of_ok made] at broken
    cases broken

theorem mem_registrations : (name, route) ∈ registrations entries ↔
    ∃ entry ∈ entries, entry.name = name ∧ entry.build = .ok route := by
  simp only [registrations, List.mem_filterMap, Option.map_eq_some_iff, Prod.mk.injEq]
  constructor
  · rintro ⟨entry, listed, made, built, rfl, rfl⟩
    refine ⟨entry, listed, rfl, ?_⟩
    cases result : entry.build with
    | error fault =>
      rw [result] at built
      cases built
    | ok other =>
      rw [result] at built
      exact congrArg Except.ok (Option.some.inj built)
  · rintro ⟨entry, listed, rfl, built⟩
    refine ⟨entry, listed, route, ?_, rfl, rfl⟩
    rw [built]
    rfl

theorem names_registrations :
    (registrations entries).map (·.1) = (entries.filter (·.compiles)).map (·.name) := by
  induction entries with
  | nil => rfl
  | cons entry rest ih =>
    cases made : entry.build with
    | error fault =>
      have broken := RouteEntry.compiles_of_error made
      rw [registrations_broken broken, List.filter_cons_of_neg (by simp [broken]), ih]
    | ok route =>
      have compiles := RouteEntry.compiles_of_ok made
      rw [registrations_compiling made, List.filter_cons_of_pos compiles, List.map_cons,
        List.map_cons, ih]

theorem foldl_addEntry (router : Router) (entries : List RouteEntry) :
    entries.foldl addEntry router = router.addAll (registrations entries) := by
  induction entries generalizing router with
  | nil => rfl
  | cons entry rest ih =>
    rw [List.foldl_cons, ih, addEntry]
    cases made : entry.build with
    | error fault =>
      rw [registrations_broken (RouteEntry.compiles_of_error made)]
    | ok route =>
      rw [registrations_compiling made]
      rfl

theorem context_add (router : Router) (name : Text) (route : Route) :
    (router.add name route).context = router.context := by
  unfold add
  split <;> rfl

theorem context_addAll (router : Router) (calls : List (Text × Route)) :
    (router.addAll calls).context = router.context := by
  induction calls generalizing router with
  | nil => rfl
  | cons call rest ih => exact (ih _).trans (context_add router call.1 call.2)

structure Configured (config : Config) (router : Router) : Prop where
  names : router.names = ((config.routes.filter (·.compiles)).map (·.name)).eraseDups
  -- Of the entries under one name the last that compiles counts.
  latest : ∀ earlier entry later route, config.routes = earlier ++ entry :: later →
    entry.build = .ok route →
    (∀ other ∈ later, other.compiles = true → other.name ≠ entry.name) →
    router.route? entry.name = some { route with name := some entry.name }
  unknown : ∀ name, router.route? name = none ↔
    ∀ entry ∈ config.routes, entry.compiles = true → entry.name ≠ name
  context : router.context = { host := config.defaultHost.getD [] }
  isolated : ∀ earlier broken later, config.routes = earlier ++ later → broken.compiles = false →
    ofConfig { config with routes := earlier ++ broken :: later } = router

theorem Lists.latest (lists : Lists router (registrations (earlier ++ entry :: later)))
    (built : entry.build = .ok route)
    (last : ∀ other ∈ later, other.compiles = true → other.name ≠ entry.name) :
    router.route? entry.name = some { route with name := some entry.name } := by
  have unlisted : (registrations later).reverse.lookup entry.name = none := by
    rw [List.lookup_eq_none_iff]
    intro call member
    obtain ⟨other, listed, same, compiled⟩ := mem_registrations.mp (List.mem_reverse.mp member)
    have different := last other listed (RouteEntry.compiles_of_ok compiled)
    rw [same] at different
    simpa using different.symm
  rw [lists.routes, registrations_append, registrations_compiling built, List.reverse_append,
    List.reverse_cons, List.append_assoc, List.lookup_append, unlisted, Option.none_or,
    List.singleton_append, List.lookup_cons_self]
  rfl

-- Whatever the entries of a configuration are, those that do not compile leave no trace in its router.
theorem configured_ofConfig (config : Config) : Configured config (ofConfig config) := by
  have start : Lists (empty.withDefaultHost (config.defaultHost.getD [])) [] := ⟨rfl, fun _ => rfl⟩
  obtain ⟨lists, indexed⟩ := start.addAll ⟨rfl, List.nodup_nil⟩ (registrations config.routes)
  rw [List.nil_append, ← foldl_addEntry] at lists
  rw [← foldl_addEntry] at indexed
  change Lists (ofConfig config) _ at lists
  change Indexed (ofConfig config) at indexed
  have names : (ofConfig config).names =
      ((config.routes.filter (·.compiles)).map (·.name)).eraseDups := by
    rw [lists.names, names_registrations]
  refine ⟨names, ?_, ?_, ?_, ?_⟩
  · intro earlier entry later route whole built last
    rw [whole] at lists
    exact lists.latest built last
  · intro name
    rw [indexed.route?_eq_none, names, List.mem_eraseDups]
    simp
  · rw [ofConfig, foldl_addEntry, context_addAll]
    rfl
  · intro earlier broken later whole fails
    rw [ofConfig, ofConfig, foldl_addEntry, foldl_addEntry, whole, registrations_append,
      registrations_append, registrations_broken fails]

end Router

end RouteTable
