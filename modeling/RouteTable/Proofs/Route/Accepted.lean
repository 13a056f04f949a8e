import RouteTable.Proofs.Route.Agreement

namespace RouteTable.Requirement

open Regex

variable {requirement : Text}

inductive Accepted (requirement : Text) : Prop
  | written {text : Text} {template : Template} {placeholder : Placeholder}
    (read : Template.read text = .ok template) (listed : placeholder ∈ template.placeholders)
    (same : placeholder.requirement = requirement)
  | replaced {route next : Route} {name : Text} (built : route.Built)
    (changed : route.withRequirement name requirement = .ok next)

theorem Accepted.checked (accepted : Accepted requirement) :
    ∃ name, check name requirement = .ok () := by
  cases accepted with
  | @written text template placeholder read listed same =>
    obtain ⟨formed, _⟩ := Template.formed_of_scan (Template.scan_of_read read).2 nofun
    exact ⟨placeholder.name, same ▸ (formed.holes placeholder listed).checked⟩
  | @replaced route next name built changed =>
    obtain ⟨_, checked, _⟩ := Route.overrideRequirement_ok (Route.withRequirement_ok changed)
    exact ⟨name, checked⟩

theorem repeated_of_check {name : Text} (checked : check name requirement = .ok ()) :
    ∃ repeated, Regex.ofText? false (wholeValue requirement) = some repeated := by
  unfold check at checked
  split at checked
  · cases checked
  · split at checked
    · cases checked
    · split at checked
      · cases checked
      · next valid => simpa [Option.isNone_iff_eq_none, Option.ne_none_iff_exists'] using valid

-- The validator of a requirement, seen from the requirement alone.
structure Enclosed (requirement : Text) (validator : Regex) : Prop where
  read : ∃ own, Regex.ofText? true requirement = some own
  takes : LookFree requirement → ∀ own, Regex.ofText? true requirement = some own →
    ∀ value, validator.isMatch value = true ↔
      ∃ pieces : List Text, pieces ≠ [] ∧ value = pieces.flatten ∧
        ∀ piece ∈ pieces, own.passage.Takes piece

theorem enclosed_of_wholeValue {ast : Ast} {validator : Regex}
    (valid : Ast.ofText? requirement = some ast)
    (validated : Regex.ofText? true (wholeValue requirement) = some validator) :
    Enclosed requirement validator := by
  obtain ⟨inner, unit, stands, meant, read, rfl⟩ := own_of_wholeValue valid validated
  refine ⟨⟨unit, read⟩, fun lookFree own same value => ?_⟩
  obtain rfl : unit = own := Option.some.inj (read.symm.trans same)
  have own : Own requirement inner unit := ⟨ast, valid, stands, meant⟩
  exact isMatch_iff_pieces meant (anywhere_of_uses (own.lookFree lookFree))

-- An accepted requirement is a valid expression if it can be read alone at all, and then nothing in
-- it reaches beyond its repetition.
theorem enclosed_of_accepted (accepted : Accepted requirement) :
    ((Regex.ofText? false requirement).isSome = true ↔
      (Ast.ofText? requirement).isSome = true) ∧
    ((Ast.ofText? requirement).isSome = true → ∀ validator,
      Regex.ofText? true (wholeValue requirement) = some validator →
        Enclosed requirement validator) := by
  obtain ⟨name, checked⟩ := accepted.checked
  obtain ⟨repeated, whole⟩ := repeated_of_check checked
  refine ⟨⟨?_, ?_⟩, ?_⟩
  · intro valid
    obtain ⟨own, read⟩ := Option.isSome_iff_exists.mp valid
    obtain ⟨ast, parsed, _⟩ := Option.bind_eq_some_iff.mp read
    exact Option.isSome_of_eq_some parsed
  · intro parsed
    obtain ⟨ast, parsed⟩ := Option.isSome_iff_exists.mp parsed
    obtain ⟨_, own, _, _, read, _⟩ := own_of_wholeValue parsed whole
    exact Option.isSome_of_eq_some read
  · intro parsed validator validated
    obtain ⟨ast, parsed⟩ := Option.isSome_iff_exists.mp parsed
    exact enclosed_of_wholeValue parsed validated

theorem accepted_of_hole {text requirement : Text}
    (read : (Template.read text).toOption =
      some ⟨text, [.literal "/", .hole { name := "id", requirement }]⟩) :
    Accepted requirement :=
  .written (Route.ok_of_toOption read) (List.mem_singleton_self _) rfl

-- A letter, or two others.
def pairRequirement : Text := "a|bc"

theorem accepted_pair : Accepted pairRequirement := by
  have read : (Template.read "/\x7bid:a|bc\x7d").toOption = some ⟨"/\x7bid:a|bc\x7d",
      [.literal "/", .hole { name := "id", requirement := pairRequirement }]⟩ := by
    decide +kernel
  exact accepted_of_hole read

theorem enclosed_of_accepted_pair : Accepted pairRequirement ∧
    (Regex.ofText? false pairRequirement).isSome = true ∧
    ∃ validator, Regex.ofText? true (wholeValue pairRequirement) = some validator ∧
      Enclosed pairRequirement validator := by
  obtain ⟨valid, enclosed⟩ := enclosed_of_accepted accepted_pair
  have parsed : (Ast.ofText? pairRequirement).isSome = true := by decide +kernel
  have validated : (Regex.ofText? true (wholeValue pairRequirement)).isSome = true := by
    decide +kernel
  obtain ⟨validator, read⟩ := Option.isSome_iff_exists.mp validated
  exact ⟨accepted_pair, valid.mpr parsed, validator, read, enclosed parsed validator read⟩

-- The first parenthesis closes the group of the repetition, and the last one closes another group.
def brokenRequirement : Text := "a)|(?:b"

def brokenValidator : Regex :=
  .alt (.seq (.look .textStart) (ofVariants .unicode 'a'))
    (.seq (.repeated 1 none true (ofVariants .unicode 'b')) (.look .textEnd))

-- The requirement is no expression, but it is accepted, and any text that begins with the letter is
-- a value.
theorem accepted_broken : Accepted brokenRequirement ∧
    Regex.ofText? false brokenRequirement = none ∧
    Regex.ofText? true (wholeValue brokenRequirement) = some brokenValidator ∧
    brokenValidator.isMatch "axyz" = true := by
  have read : (Template.read "/\x7bid:a)|(?:b\x7d").toOption = some ⟨"/\x7bid:a)|(?:b\x7d",
      [.literal "/", .hole { name := "id", requirement := brokenRequirement }]⟩ := by
    decide +kernel
  refine ⟨accepted_of_hole read, by decide +kernel, by decide +kernel, ?_⟩
  have start : Passage.checked .textStart ⟨[], "axyz"⟩ [] ⟨[], "axyz"⟩ := ⟨rfl, rfl, rfl⟩
  have letter : (ofVariants .unicode 'a').passage ⟨[], "axyz"⟩ [] ⟨['a'], "xyz"⟩ := by
    rw [passage_ofVariants]
    exact ⟨'a', rfl, rfl, rfl, rfl⟩
  have passed : brokenValidator.passage ⟨[], "axyz"⟩ ([] ++ []) ⟨['a'], "xyz"⟩ :=
    Or.inl ⟨_, _, _, start, letter, rfl⟩
  exact search_complete rfl passed

end RouteTable.Requirement
