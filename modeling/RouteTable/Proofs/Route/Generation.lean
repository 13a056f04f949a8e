import RouteTable.Proofs.Path
import RouteTable.Proofs.Route.Language

namespace RouteTable.Route

open Regex

variable {route : Route} {args : Arguments}

def slugFor (route : Route) (args : Arguments) (placeholder : Placeholder) : Option Text :=
  (route.chosenValue .empty args placeholder.name).map Slug.ofText

def Suits (placeholder : Placeholder) : Option Text → Prop
  | none => placeholder.optional = true
  | some value => value ≠ [] ∧ ∀ c ∈ value, UnitChar c

theorem slug_nonempty {value : Text} (nonempty : value ≠ []) (units : ∀ c ∈ value, UnitChar c) :
    Slug.ofText value ≠ [] := by
  rw [Slug.ofText_of_units units]
  simpa using nonempty

theorem slugOf_iff {hole : Hole} {value slug : Text}
    (standard : hole.validator = sequence validatorAtoms) :
    slugOf? hole value = some slug ↔
      (value ≠ [] ∧ ∀ c ∈ value, UnitChar c) ∧ slug = Slug.ofText value := by
  unfold slugOf?
  constructor
  · intro accepted
    split at accepted
    · next valid =>
      simp only [Bool.and_eq_true, standard] at valid
      exact ⟨isMatch_validator.mp valid.1, (Option.some.inj accepted).symm⟩
    · cases accepted
  · rintro ⟨valid, rfl⟩
    have filled : (Slug.ofText value).isEmpty = false := by
      simpa using slug_nonempty valid.1 valid.2
    rw [if_pos (by rw [standard, isMatch_validator.mpr valid, filled]; rfl)]

theorem resolveHole_iff {hole : Hole} {value : Option Text}
    (standard : hole.validator = sequence validatorAtoms) :
    route.resolveHole .empty args hole = .ok value ↔
      Suits hole.placeholder (route.chosenValue .empty args hole.placeholder.name) ∧
        value = route.slugFor args hole.placeholder := by
  simp only [resolveHole, slugFor]
  cases chosen : route.chosenValue .empty args hole.placeholder.name with
  | none =>
    constructor
    · intro done
      simp only at done
      split at done
      · next optional => exact ⟨optional, (Except.ok.inj done).symm⟩
      · cases done
    · rintro ⟨optional, rfl⟩
      exact if_pos optional
  | some text =>
    constructor
    · intro done
      simp only at done
      split at done
      · next slug slugged =>
        obtain ⟨valid, rfl⟩ := (slugOf_iff standard).mp slugged
        exact ⟨valid, (Except.ok.inj done).symm⟩
      · cases done
    · rintro ⟨valid, rfl⟩
      simp only [(slugOf_iff standard).mpr ⟨valid, rfl⟩, Option.map_some]

theorem mapM_ok_iff {α β ε : Type} {f : α → Except ε β} {g : α → β} {Holds : α → Prop}
    {xs : List α} {ys : List β} (each : ∀ x ∈ xs, ∀ y, f x = .ok y ↔ Holds x ∧ y = g x) :
    xs.mapM f = .ok ys ↔ (∀ x ∈ xs, Holds x) ∧ ys = xs.map g := by
  rw [mapM_eq_ok]
  induction xs generalizing ys with
  | nil =>
    constructor
    · intro done
      exact ⟨nofun, List.map_eq_nil_iff.mp done.symm⟩
    · rintro ⟨-, rfl⟩
      rfl
  | cons x xs ih =>
    have later (ys : List β) :=
      @ih ys fun other member => each other (List.mem_cons_of_mem x member)
    have here := each x List.mem_cons_self
    constructor
    · intro done
      cases ys with
      | nil => cases done
      | cons y ys =>
        obtain ⟨first, rest⟩ := List.cons.inj done
        obtain ⟨holds, rfl⟩ := (here y).mp first
        obtain ⟨all, rfl⟩ := (later ys).mp rest
        exact ⟨List.forall_mem_cons.mpr ⟨holds, all⟩, rfl⟩
    · rintro ⟨all, rfl⟩
      obtain ⟨holds, others⟩ := List.forall_mem_cons.mp all
      have first := (here (g x)).mpr ⟨holds, rfl⟩
      have rest := (later (xs.map g)).mpr ⟨others, rfl⟩
      rw [List.map_cons, List.map_cons, List.map_cons, first, rest]

theorem Standard.resolve_iff (standard : Standard route) {values : List (Option Text)} :
    route.resolve .empty args = .ok values ↔
      (∀ placeholder ∈ route.template.placeholders,
        Suits placeholder (route.chosenValue .empty args placeholder.name)) ∧
        values = route.template.placeholders.map (route.slugFor args) := by
  rw [resolve, mapM_ok_iff fun hole member value =>
    resolveHole_iff (standard.validators hole member), Template.placeholders_eq,
    ← standard.placeholders, List.forall_mem_map, List.map_map]
  rfl

theorem hasPlaceholder_iff {template : Template} {name : Text} :
    template.hasPlaceholder name = true ↔ name ∈ holeNames template.segments := by
  rw [Template.hasPlaceholder, Template.placeholder?, List.find?_isSome, holeNames,
    ← Template.placeholders_eq, List.mem_map]
  simp

theorem queryOf_nil (known : ∀ name ∈ args.names, route.template.hasPlaceholder name = true) :
    route.queryOf args = [] := by
  -- No argument is left over.
  refine congrArg (['&'].intercalate) (List.filterMap_eq_nil_iff.mpr ?_)
  intro entry member
  exact if_pos (known entry.1 (List.mem_map_of_mem member))

theorem locate_relative {path url : Text} :
    route.locate [] path true = .ok url ↔ route.host = none ∧ url = "./".toList ++ path := by
  unfold locate
  cases route.host with
  | none => simp [eq_comm]
  | some pattern => simp

def filled (route : Route) (args : Arguments) : Text :=
  fill route.template.segments (route.template.placeholders.map (route.slugFor args))

theorem Standard.make_iff (standard : Standard route) {url : Text}
    (known : ∀ name ∈ args.names, route.template.hasPlaceholder name = true) :
    route.make [] args true = .ok url ↔ route.host = none ∧
      (∀ placeholder ∈ route.template.placeholders,
        Suits placeholder (route.chosenValue .empty args placeholder.name)) ∧
      url = "./".toList ++ Path.generated (route.filled args) := by
  have made (values : List (Option Text)) (resolved : route.resolve .empty args = .ok values) :
      route.make [] args true =
        route.locate [] (Path.generated (fill route.template.segments values)) true := by
    rw [make, makeFrom, resolved, queryOf_nil known]
    simp only [bind, Except.bind]
    cases route.locate [] (Path.generated (fill route.template.segments values)) true <;> rfl
  constructor
  · intro done
    cases resolved : route.resolve .empty args with
    | error fault =>
      rw [make, makeFrom, resolved] at done
      cases done
    | ok values =>
      obtain ⟨suited, rfl⟩ := standard.resolve_iff.mp resolved
      obtain ⟨relative, same⟩ := locate_relative.mp ((made _ resolved).symm.trans done)
      exact ⟨relative, suited, same⟩
  · rintro ⟨relative, suited, same⟩
    rw [made _ (standard.resolve_iff.mpr ⟨suited, rfl⟩)]
    exact locate_relative.mpr ⟨relative, same⟩

theorem Standard.reading_filled (standard : Standard route)
    (suited : ∀ placeholder ∈ route.template.placeholders,
      Suits placeholder (route.chosenValue .empty args placeholder.name)) :
    Reading route.template.segments (route.template.placeholders.map (route.slugFor args))
      (route.filled args) := by
  refine reading_fill standard.scanned.alone ?_ ?_
  · intro placeholder member missing
    have suits := suited placeholder member
    rw [Option.map_eq_none_iff.mp missing] at suits
    exact suits
  · intro placeholder member slug slugged
    obtain ⟨value, chosen, rfl⟩ := Option.map_eq_some_iff.mp slugged
    have suits := suited placeholder member
    rw [chosen] at suits
    exact ⟨slug_nonempty suits.1 suits.2, fun c member =>
      unitChar_of_allowed (Slug.allowed_ofText value c member)⟩

end RouteTable.Route
