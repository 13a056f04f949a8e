import RouteTable.Router.Basic
import RouteTable.Proofs.Route.Built

namespace RouteTable

namespace Router

inductive Built : Router → Prop
  | empty : Built .empty
  | withDefaultHost {router : Router} (built : Built router) (host : Text) :
    Built (router.withDefaultHost host)
  | add {router : Router} {route : Route} (built : Built router) (name : Text)
    (made : Route.Built route) : Built (router.add name route)

variable {router : Router} {name : Text} {route : Route}

-- The table has every listed name with the place where it stands, and no name is listed twice.
structure Indexed (router : Router) : Prop where
  tabled : router.positions = router.names.zipIdx
  distinct : router.names.Nodup

theorem getElem?_names {position : Nat} :
    router.names[position]? = some name ↔
      ∃ route, router.entries[position]? = some (name, route) := by
  rw [names, List.getElem?_map, Option.map_eq_some_iff]
  constructor
  · rintro ⟨⟨key, route⟩, found, rfl⟩
    exact ⟨route, found⟩
  · rintro ⟨route, found⟩
    exact ⟨_, found, rfl⟩

namespace Indexed

theorem position?_iff (indexed : Indexed router) {position : Nat} :
    router.position? name = some position ↔ router.names[position]? = some name := by
  have keys : (router.names.zipIdx.map (·.1)).Nodup := by
    rw [List.zipIdx_map_fst]
    exact indexed.distinct
  rw [position?, indexed.tabled, lookup_iff_mem keys, List.mem_zipIdx_iff_getElem?]

theorem position?_eq_none (indexed : Indexed router) :
    router.position? name = none ↔ name ∉ router.names := by
  rw [Option.eq_none_iff_forall_ne_some, List.mem_iff_getElem?, not_exists]
  exact forall_congr' fun position => not_congr indexed.position?_iff

theorem route?_iff (indexed : Indexed router) :
    router.route? name = some route ↔ (name, route) ∈ router.entries := by
  rw [route?, Option.bind_eq_some_iff, List.mem_iff_getElem?]
  refine exists_congr fun position => ?_
  rw [indexed.position?_iff, getElem?_names, Option.map_eq_some_iff]
  constructor
  · rintro ⟨⟨listed, found⟩, entry, same, rfl⟩
    rw [found] at same
    cases same
    exact found
  · intro found
    exact ⟨⟨route, found⟩, _, found, rfl⟩

theorem route?_eq_none (indexed : Indexed router) :
    router.route? name = none ↔ name ∉ router.names := by
  rw [Option.eq_none_iff_forall_ne_some, names, List.mem_map]
  constructor
  · rintro missing ⟨⟨key, route⟩, listed, rfl⟩
    exact missing route (indexed.route?_iff.mpr listed)
  · intro unlisted route found
    exact unlisted ⟨_, indexed.route?_iff.mp found, rfl⟩

theorem add_known (indexed : Indexed router) {position : Nat}
    (known : router.names[position]? = some name) (route : Route) :
    router.add name route = { router with
      entries := router.entries.modify position fun (key, _) =>
        (key, { route with name := some name }) } := by
  rw [add, indexed.position?_iff.mpr known]

theorem add_new (indexed : Indexed router) (new : name ∉ router.names) (route : Route) :
    router.add name route = { router with
      entries := router.entries ++ [(name, { route with name := some name })]
      positions := router.positions ++ [(name, router.entries.length)] } := by
  rw [add, indexed.position?_eq_none.mpr new]

theorem map_modify {α β : Type} {entries : List α} {position : Nat} {change : α → α} {view : α → β}
    (kept : ∀ entry, view (change entry) = view entry) :
    (entries.modify position change).map view = entries.map view := by
  apply List.ext_getElem?
  intro other
  rw [List.getElem?_map, List.getElem?_map, List.getElem?_modify]
  cases entries[other]? with
  | none => rfl
  | some entry =>
    by_cases here : position = other
    · simp [here, kept]
    · simp [here]

theorem names_add (indexed : Indexed router) (name : Text) (route : Route) :
    (router.add name route).names =
      if name ∈ router.names then router.names else router.names ++ [name] := by
  split
  · next known =>
    obtain ⟨position, found⟩ := List.mem_iff_getElem?.mp known
    rw [indexed.add_known found]
    exact map_modify fun _ => rfl
  · next new =>
    rw [indexed.add_new new]
    exact List.map_append

theorem positions_add (indexed : Indexed router) (name : Text) (route : Route) :
    (router.add name route).positions =
      if name ∈ router.names then router.positions
      else router.positions ++ [(name, router.size)] := by
  split
  · next known =>
    obtain ⟨position, found⟩ := List.mem_iff_getElem?.mp known
    rw [indexed.add_known found]
  · next new =>
    rw [indexed.add_new new]
    rfl

theorem add (indexed : Indexed router) (name : Text) (route : Route) :
    Indexed (router.add name route) where
  tabled := by
    rw [indexed.names_add, indexed.positions_add]
    split
    · exact indexed.tabled
    · rw [List.zipIdx_append, indexed.tabled, Nat.zero_add, names, List.length_map]
      rfl
  distinct := by
    rw [indexed.names_add]
    exact nodup_addNew indexed.distinct

theorem route?_add_self (indexed : Indexed router) (name : Text) (route : Route) :
    (router.add name route).route? name = some { route with name := some name } := by
  rw [(indexed.add name route).route?_iff]
  by_cases known : name ∈ router.names
  · obtain ⟨position, found⟩ := List.mem_iff_getElem?.mp known
    obtain ⟨old, listed⟩ := getElem?_names.mp found
    rw [indexed.add_known found]
    apply List.mem_of_getElem? (i := position)
    simp [listed]
  · rw [indexed.add_new known]
    exact List.mem_append_right _ List.mem_cons_self

theorem route?_add_other (indexed : Indexed router) {name other : Text} (different : other ≠ name)
    (route : Route) : (router.add name route).route? other = router.route? other := by
  apply Option.ext
  intro listed
  rw [(indexed.add name route).route?_iff, indexed.route?_iff]
  by_cases known : name ∈ router.names
  · obtain ⟨position, found⟩ := List.mem_iff_getElem?.mp known
    obtain ⟨old, replaced⟩ := getElem?_names.mp found
    rw [indexed.add_known found, List.mem_iff_getElem?, List.mem_iff_getElem?]
    apply exists_congr
    intro place
    rw [List.getElem?_modify]
    by_cases here : position = place
    · subst here
      simp [replaced, different.symm]
    · simp [here]
  · rw [indexed.add_new known]
    simp [different]

theorem route?_add (indexed : Indexed router) (name other : Text) (route : Route) :
    (router.add name route).route? other =
      if other = name then some { route with name := some name } else router.route? other := by
  split
  · next same =>
    subst same
    exact indexed.route?_add_self _ route
  · next different => exact indexed.route?_add_other different route

theorem mem_add (indexed : Indexed router) {entry : Text × Route}
    (member : entry ∈ (router.add name route).entries) :
    entry = (name, { route with name := some name }) ∨ entry ∈ router.entries := by
  obtain ⟨key, listed⟩ := entry
  have found := (indexed.add name route).route?_iff.mpr member
  rw [indexed.route?_add] at found
  split at found
  · next same =>
    subst same
    exact Or.inl (congrArg (Prod.mk key) (Option.some.inj found).symm)
  · exact Or.inr (indexed.route?_iff.mp found)

end Indexed

structure Registered (router : Router) : Prop where
  indexed : Indexed router
  named : ∀ entry ∈ router.entries, entry.2.name = some entry.1
  made : ∀ entry ∈ router.entries, Route.Built entry.2

theorem Registered.add (registered : Registered router) (made : Route.Built route) :
    Registered (router.add name route) where
  indexed := registered.indexed.add name route
  named entry member := by
    rcases registered.indexed.mem_add member with rfl | old
    · rfl
    · exact registered.named entry old
  made entry member := by
    rcases registered.indexed.mem_add member with rfl | old
    · exact made.named name
    · exact registered.made entry old

theorem Built.registered (built : Built router) : Registered router := by
  induction built with
  | empty => exact ⟨⟨rfl, List.nodup_nil⟩, nofun, nofun⟩
  | withDefaultHost _ host ih =>
    exact ⟨⟨ih.indexed.tabled, ih.indexed.distinct⟩, ih.named, ih.made⟩
  | add _ name made ih => exact ih.add made

end Router

end RouteTable
