import RouteTable.Config.Basic
import RouteTable.Proofs.Route.Overrides
import RouteTable.Proofs.Router.Registry

namespace RouteTable

open Route

namespace RouteEntry

variable {entry : RouteEntry} {route next : Route} {changes order : List (Text × Text)}

def base (entry : RouteEntry) : Except RouteError Route := do
  let route ← Route.ofTemplate entry.pattern entry.target
  let route := route.withMethods entry.methods
  let route := entry.scheme.elim route route.withScheme
  entry.host.elim (.ok route) route.withHost

def buildIn (entry : RouteEntry) (order : List (Text × Text)) : Except RouteError Route := do
  let route ← entry.base
  entry.addDefaults (← route.overrideAll order)

theorem build_eq (entry : RouteEntry) : entry.build = entry.buildIn entry.requirements.entries := by
  unfold build buildIn base
  cases Route.ofTemplate entry.pattern entry.target with
  | error => rfl
  | ok => rfl

theorem built_of_scheme (built : route.Built) (scheme : Option Text) :
    (scheme.elim route route.withScheme).Built := by
  cases scheme with
  | none => exact built
  | some scheme => exact built.withScheme scheme

theorem built_of_host (built : route.Built) {host : Option Text}
    (changed : host.elim (.ok route) route.withHost = .ok next) : next.Built := by
  cases host with
  | none => exact Except.ok.inj changed ▸ built
  | some pattern => exact built.withHost changed

theorem built_base (based : entry.base = .ok route) : route.Built := by
  unfold base at based
  cases made : Route.ofTemplate entry.pattern entry.target with
  | error fault => rw [made] at based; cases based
  | ok first =>
    rw [made] at based
    have methods := (Route.Built.ofTemplate made).withMethods entry.methods
    exact built_of_host (built_of_scheme methods entry.scheme) based

theorem buildIn_iff :
    entry.buildIn order = .ok route ↔ ∃ first overridden, entry.base = .ok first ∧
      first.overrideAll order = .ok overridden ∧ entry.addDefaults overridden = .ok route := by
  unfold buildIn
  cases based : entry.base with
  | error fault => simp [bind, Except.bind]
  | ok first =>
    cases done : first.overrideAll order with
    | error fault => simp [bind, Except.bind, done]
    | ok overridden => simp [bind, Except.bind, done]

theorem nodup_of_namesRise {entries : List (Text × Text)} (rising : NamesRise entries) :
    (entries.map (·.1)).Nodup := by
  refine List.pairwise_map.mpr (rising.imp ?_)
  intro one later below same
  exact List.lt_irrefl _ (same ▸ below)

-- What an entry makes of the overrides, apart from the combinations on the way.
def Made (entry : RouteEntry) (changes : List (Text × Text)) (route : Route) : Prop :=
  ∃ first overridden, entry.base = .ok first ∧ first.Overridden changes overridden ∧
    entry.addDefaults overridden = .ok route

theorem Made.unique {changes : List (Text × Text)} {other : Route}
    (made : entry.Made changes route) (made' : entry.Made changes other) : route = other := by
  obtain ⟨first, overridden, based, changed, added⟩ := made
  obtain ⟨first', overridden', based', changed', added'⟩ := made'
  obtain rfl := Except.ok.inj (based.symm.trans based')
  obtain rfl := changed.unique changed'
  exact Except.ok.inj (added.symm.trans added')

def MatchersOnTheWay (entry : RouteEntry) (changes : List (Text × Text)) : Prop :=
  ∀ route, entry.base = .ok route → route.MatchersOnTheWay changes

theorem buildIn_perm (distinct : (changes.map (·.1)).Nodup) (same : order.Perm changes) :
    entry.buildIn order = .ok route ↔
      entry.MatchersOnTheWay order ∧ entry.Made changes route := by
  rw [buildIn_iff]
  constructor
  · rintro ⟨first, overridden, based, changed, added⟩
    obtain ⟨text, consistent⟩ := (built_base based).consistent
    obtain ⟨matchers, changed⟩ := (consistent.overrideAll_perm distinct same).mp changed
    refine ⟨fun other based' => ?_, first, overridden, based, changed, added⟩
    exact Except.ok.inj (based.symm.trans based') ▸ matchers
  · rintro ⟨matchers, first, overridden, based, changed, added⟩
    obtain ⟨text, consistent⟩ := (built_base based).consistent
    refine ⟨first, overridden, based, ?_, added⟩
    exact (consistent.overrideAll_perm distinct same).mpr ⟨matchers first based, changed⟩

end RouteEntry

-- The order of overrides, of a route and of an entry, decides on the combinations on the way only.
theorem overrides_in_any_order :
    (∀ (route : Route) (changes order : List (Text × Text)), route.Built →
      (changes.map (·.1)).Nodup → order.Perm changes →
      Exchange (route.overrideAll changes) (route.overrideAll order)
        (route.MatchersOnTheWay changes) (route.MatchersOnTheWay order)) ∧
    ∀ (entry : RouteEntry) (order : List (Text × Text)), order.Perm entry.requirements.entries →
      Exchange entry.build (entry.buildIn order)
        (entry.MatchersOnTheWay entry.requirements.entries) (entry.MatchersOnTheWay order) := by
  constructor
  · intro route changes order built distinct same
    obtain ⟨text, consistent⟩ := built.consistent
    apply exchange_of_made (fun next other => Overridden.unique)
    · exact fun next => consistent.overrideAll_made distinct
    · exact fun next => consistent.overrideAll_perm distinct same
  · intro entry order same
    have distinct := RouteEntry.nodup_of_namesRise entry.requirements.rising
    apply exchange_of_made (fun next other => RouteEntry.Made.unique)
    · intro next
      rw [RouteEntry.build_eq]
      exact RouteEntry.buildIn_perm distinct (.refl _)
    · exact fun next => RouteEntry.buildIn_perm distinct same

def twins : Text := "/\x7ba:q\x7d/\x7bb:(?P<x>q)\x7d"

def plainChanges : List (Text × Text) := [("a", "v"), ("b", "w")]

def groupChanges : List (Text × Text) := [("a", "(?P<x>w)"), ("b", "w")]

def twinsEntry (requirements : List (Text × Text)) : RouteEntry where
  name := "twins"
  pattern := twins
  target := "page"
  requirements := .ofList requirements
  defaults := .empty

def swappedEntry : RouteEntry where
  name := "twins"
  pattern := "/\x7bb:q\x7d/\x7ba:(?P<x>q)\x7d"
  target := "page"
  requirements := .ofList [("b", "(?P<x>w)"), ("a", "w")]
  defaults := .empty

-- The second override of the group changes takes the group away, so with the first one alone the
-- pattern has two groups of one name.
theorem outcomes_twins :
    (ofTemplate twins "page").toOption.any (fun route =>
      (route.overrideAll plainChanges).isOk && (route.overrideAll plainChanges.reverse).isOk &&
      !(route.overrideAll groupChanges).isOk && (route.overrideAll groupChanges.reverse).isOk) ∧
    (twinsEntry plainChanges).build.isOk = true ∧ (twinsEntry groupChanges).build.isOk = false ∧
    swappedEntry.build.isOk = true := by
  decide +kernel

theorem built_twins : ∃ route : Route, route.Built ∧
    (route.overrideAll plainChanges).isOk = true ∧
    (route.overrideAll plainChanges.reverse).isOk = true ∧
    (route.overrideAll groupChanges).isOk = false ∧
    (route.overrideAll groupChanges.reverse).isOk = true := by
  obtain ⟨route, made, outcomes⟩ := (Option.any_eq_true _ _).mp outcomes_twins.1
  simp only [Bool.and_eq_true, Bool.not_eq_true'] at outcomes
  obtain ⟨⟨⟨first, second⟩, third⟩, fourth⟩ := outcomes
  exact ⟨route, .ofTemplate (ok_of_toOption made), first, second, third, fourth⟩

theorem overrides_in_any_order_twins : ∃ route : Route, route.Built ∧
    (route.overrideAll plainChanges).isOk = true ∧
    Exchange (route.overrideAll plainChanges) (route.overrideAll plainChanges.reverse)
      (route.MatchersOnTheWay plainChanges) (route.MatchersOnTheWay plainChanges.reverse) ∧
    (twinsEntry plainChanges).build.isOk = true ∧
    Exchange (twinsEntry plainChanges).build ((twinsEntry plainChanges).buildIn plainChanges.reverse)
      ((twinsEntry plainChanges).MatchersOnTheWay (twinsEntry plainChanges).requirements.entries)
      ((twinsEntry plainChanges).MatchersOnTheWay plainChanges.reverse) := by
  obtain ⟨route, built, done, _⟩ := built_twins
  have ofRoute := overrides_in_any_order.1 route plainChanges plainChanges.reverse built
    (by decide) (List.reverse_perm plainChanges)
  have ofEntry := overrides_in_any_order.2 (twinsEntry plainChanges) plainChanges.reverse
    (List.reverse_perm plainChanges)
  exact ⟨route, built, done, ofRoute, outcomes_twins.2.1, ofEntry⟩

-- One order of two overrides goes through and the other one does not, and so do two entries that
-- differ in the names of the placeholders.
theorem order_decides : ∃ route : Route, route.Built ∧
    (route.overrideAll groupChanges).isOk = false ∧
    (route.overrideAll groupChanges.reverse).isOk = true ∧
    (twinsEntry groupChanges).build.isOk = false ∧ swappedEntry.build.isOk = true := by
  obtain ⟨route, built, _, _, refused, done⟩ := built_twins
  exact ⟨route, built, refused, done, outcomes_twins.2.2⟩

end RouteTable
