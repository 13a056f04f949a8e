import RouteTable.Proofs.Route.Woven

namespace RouteTable

open Regex

-- A pattern without assertions.
def Requirement.LookFree (requirement : Text) : Prop :=
  ∀ ast, Ast.ofText? requirement = some ast → ast.Uses (fun _ => False) fun _ => True

theorem Requirement.lookFree_default : LookFree defaultRequirement := by
  intro ast read
  cases ReadsAs.units.whole.symm.trans read
  trivial

theorem Requirement.Own.lookFree {requirement : Text} {inner : List Text} {unit : Regex}
    (own : Own requirement inner unit) (free : LookFree requirement) :
    unit.Uses (fun _ => False) fun _ _ => True := by
  obtain ⟨ast, valid, _, meant⟩ := own
  exact uses_of_meaning (free ast valid) (fun _ _ => id) (fun _ _ => id) meant

namespace Route

variable {route : Route} {hole : Hole} {inner : List Text} {unit : Regex}

theorem HasDefaultRequirements.alone (default : route.HasDefaultRequirements) :
    ∀ hole ∈ route.holes, (Ast.ofText? hole.requirement).isSome = true := by
  intro hole listed
  rw [default hole listed]
  exact Option.isSome_of_eq_some ReadsAs.units.whole

theorem HasDefaultRequirements.lookFree (default : route.HasDefaultRequirements) :
    ∀ hole ∈ route.holes, Requirement.LookFree hole.requirement := by
  intro hole listed
  rw [default hole listed]
  exact Requirement.lookFree_default

theorem Standing.isMatch_iff (standing : Standing hole inner unit)
    (lookFree : Requirement.LookFree hole.requirement) {value : Text} :
    hole.validator.isMatch value = true ↔
      ∃ pieces : List Text, pieces ≠ [] ∧ value = pieces.flatten ∧
        ∀ piece ∈ pieces, unit.passage.Takes piece := by
  obtain ⟨ast, _, _, meant⟩ := standing.own
  rw [standing.validator]
  exact isMatch_iff_pieces meant (anywhere_of_uses (standing.own.lookFree lookFree))

theorem Standing.isMatch_of_rounds (standing : Standing hole inner unit)
    (lookFree : Requirement.LookFree hole.requirement) {count : Nat} {p q : Place}
    {marks : List Mark} {value : Text} (least : 1 ≤ count)
    (rounds : unit.passage.rounds count p marks q) (moves : p.Moves value q) :
    hole.validator.isMatch value = true := by
  have anywhere : unit.passage.Anywhere := anywhere_of_uses (standing.own.lookFree lookFree)
  have taken := ((anywhere.rounds count).takes_iff moves).mpr ⟨marks, rounds⟩
  obtain ⟨pieces, rfl, joined, each⟩ := anywhere.takes_rounds.mp taken
  exact (standing.isMatch_iff lookFree).mpr ⟨pieces, List.ne_nil_of_length_pos least, joined, each⟩

theorem Built.isMatch_of_captured (built : Built route)
    (alone : ∀ hole ∈ route.holes, (Ast.ofText? hole.requirement).isSome = true) {path : Text}
    {matched : Arguments} (accepted : route.matchPath? path = some matched) {hole : Hole}
    (listed : hole ∈ route.holes) (lookFree : Requirement.LookFree hole.requirement) {value : Text}
    (captured : matched.get? hole.placeholder.name = some value) :
    hole.validator.isMatch value = true := by
  obtain ⟨unitOf, innerOf, woven⟩ := built.woven alone
  have standing := woven.holes hole listed
  obtain ⟨ast, _, _, meant⟩ := standing.own
  obtain ⟨marks, found, lookups⟩ := lookup_of_match accepted
  rw [Arguments.get?, lookups, if_pos (List.mem_map_of_mem listed), Option.join_some,
    Option.filter_eq_some_iff] at captured
  obtain ⟨captured, filled⟩ := captured
  obtain ⟨before, placeholder, after, cut⟩ := woven.cut listed
  obtain ⟨_, a, own, b, _, _, _, _, here, _, _, _, same⟩ := cut.of_search woven found
  rw [same] at captured
  rcases cut.value woven here with ⟨_, _, none⟩ | ⟨left, other, q, moves, passed, value, _⟩
  · cases none.symm.trans captured
  · obtain rfl := Option.some.inj (value.symm.trans captured)
    have few : (if hole.placeholder.optional then 0 else 1) ≤ 1 := by split <;> decide
    obtain ⟨count, _, rounds⟩ := rounds_of_units few meant passed
    -- No rounds at all would have captured nothing.
    have least : 1 ≤ count := by
      refine Nat.one_le_iff_ne_zero.mpr ?_
      rintro rfl
      obtain ⟨rest, _⟩ := moves
      rw [rounds.2] at rest
      simp [List.self_eq_append_left.mp rest] at filled
    exact standing.isMatch_of_rounds lookFree least rounds moves

end Route

end RouteTable
