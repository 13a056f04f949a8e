import Mathlib.Data.Finset.Card
import RouteTable.Proofs.Router.Registry

namespace RouteTable.Router

variable {router : Router} {calls : List (Text × Route)}

def addAll (router : Router) (calls : List (Text × Route)) : Router :=
  calls.foldl (fun router (name, route) => router.add name route) router

-- The names in the order of their first registration, each with the route of its last one.
structure Lists (router : Router) (calls : List (Text × Route)) : Prop where
  names : router.names = (calls.map (·.1)).eraseDups
  routes : ∀ name, router.route? name =
    (calls.reverse.lookup name).map fun route => { route with name := some name }

theorem Lists.add (lists : Lists router calls) (indexed : Indexed router) (name : Text)
    (route : Route) : Lists (router.add name route) (calls ++ [(name, route)]) where
  names := by
    rw [indexed.names_add, lists.names, List.map_append, List.map_singleton, eraseDups_concat]
    simp only [List.mem_eraseDups]
  routes other := by
    rw [indexed.route?_add, lists.routes, List.reverse_append, List.reverse_singleton,
      List.singleton_append, List.lookup_cons]
    by_cases here : other = name
    · subst here
      simp
    · rw [if_neg here, beq_false_of_ne here]

theorem Lists.addAll {before : List (Text × Route)} (lists : Lists router before)
    (indexed : Indexed router) (calls : List (Text × Route)) :
    Lists (router.addAll calls) (before ++ calls) ∧ Indexed (router.addAll calls) := by
  induction calls generalizing router before with
  | nil =>
    rw [List.append_nil]
    exact ⟨lists, indexed⟩
  | cons call rest ih =>
    obtain ⟨name, route⟩ := call
    have later := ih (lists.add indexed name route) (indexed.add name route)
    rw [List.append_assoc] at later
    exact later

structure OrderedMap (router : Router) (calls : List (Text × Route)) : Prop
    extends Lists router calls where
  unknown : ∀ name, router.route? name = none ↔ name ∉ calls.map (·.1)
  listed : ∀ entry ∈ router.entries, router.route? entry.1 = some entry.2
  size : router.size = (calls.map (·.1)).toFinset.card
  -- No index leads out of range or to another name, and every name has exactly one.
  inRange : ∀ name position, (name, position) ∈ router.positions →
    ∃ route, router.entries[position]? = some (name, route)
  located : router.positions.map (·.1) = router.names
  distinct : router.names.Nodup
  -- A replacement moves nothing, neither its own name nor another.
  replaced : ∀ name ∈ router.names, ∀ route,
    (router.add name route).names = router.names ∧
    (router.add name route).positions = router.positions ∧
    ∀ other, other ≠ name → (router.add name route).route? other = router.route? other

theorem Lists.size (lists : Lists router calls) (indexed : Indexed router) :
    router.size = (calls.map (·.1)).toFinset.card := by
  have same : router.names.toFinset = (calls.map (·.1)).toFinset := by
    apply Finset.ext
    intro name
    rw [List.mem_toFinset, List.mem_toFinset, lists.names, List.mem_eraseDups]
  rw [← same, List.toFinset_card_of_nodup indexed.distinct]
  exact (List.length_map _).symm

theorem Indexed.inRange (indexed : Indexed router) {name : Text} {position : Nat}
    (tabled : (name, position) ∈ router.positions) :
    ∃ route, router.entries[position]? = some (name, route) := by
  rw [indexed.tabled, List.mem_zipIdx_iff_getElem?] at tabled
  exact getElem?_names.mp tabled

theorem Indexed.replaced (indexed : Indexed router) {name : Text} (known : name ∈ router.names)
    (route : Route) : (router.add name route).names = router.names ∧
      (router.add name route).positions = router.positions ∧
      ∀ other, other ≠ name → (router.add name route).route? other = router.route? other := by
  refine ⟨?_, ?_, ?_⟩
  · rw [indexed.names_add, if_pos known]
  · rw [indexed.positions_add, if_pos known]
  · intro other different
    exact indexed.route?_add_other different route

-- Registering routes one after another, under any names, makes an ordered map of them.
theorem orderedMap_addAll (calls : List (Text × Route)) :
    OrderedMap (empty.addAll calls) calls := by
  have start : Lists empty [] := ⟨rfl, fun _ => rfl⟩
  obtain ⟨lists, indexed⟩ := start.addAll ⟨rfl, List.nodup_nil⟩ calls
  rw [List.nil_append] at lists
  refine ⟨lists, ?_, ?_, lists.size indexed, ?_, ?_, indexed.distinct, ?_⟩
  · intro name
    rw [indexed.route?_eq_none, lists.names, List.mem_eraseDups]
  · intro entry member
    exact indexed.route?_iff.mpr member
  · intro name position tabled
    exact indexed.inRange tabled
  · rw [indexed.tabled, List.zipIdx_map_fst]
  · intro name known route
    exact indexed.replaced known route

end RouteTable.Router
