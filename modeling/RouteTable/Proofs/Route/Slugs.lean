import RouteTable.Proofs.Route.Consistent

namespace RouteTable.Route

open Regex
open Unicode (foldCase)

variable {route : Route} {hole : Hole} {value : Text}

-- What a value and its slug have in common, as far as a validator and a reader go.
structure Survives (validator : Regex) (value : Text) : Prop where
  nonempty : Slug.ofText value ≠ []
  length : (Slug.ofText value).length = value.length
  folded : Slug.ofText value = value.map foldCase
  accepted : validator.isMatch (Slug.ofText value) = true
  unchanged : (∀ c ∈ value, c.toNat < 0x80 ∧ c.isUpper = false) → Slug.ofText value = value

theorem unitChar_iff {c : Char} : UnitChar c ↔ Slug.allowed (foldCase c) = true :=
  ⟨fun unit => (Slug.spelled_of_unit unit).2,
    fun fits => ⟨foldCase c, fits, Unicode.foldCase_idem c⟩⟩

theorem Built.standardValidator (built : Built route) (member : hole ∈ route.holes)
    (default : hole.requirement = defaultRequirement) :
    hole.validator = sequence validatorAtoms := by
  obtain ⟨text, consistent⟩ := built.consistent
  have read := consistent.validator member
  rw [default] at read
  exact compiles_validator.eq_sequence read

theorem foldCase_of_not_isUpper {c : Char} (ascii : c.toNat < 0x80) (small : c.isUpper = false) :
    foldCase c = c := by
  have outside : c.toNat < 0x41 ∨ 0x5A < c.toNat := by
    have capital : ¬(0x41 ≤ c.toNat ∧ c.toNat ≤ 0x5A) := fun range =>
      Bool.eq_false_iff.mp small (Unicode.isUpper_iff.mpr range)
    omega
  rw [Unicode.foldCase_of_ascii ascii, Unicode.foldAscii_of_small outside]

theorem survives_of_units (nonempty : value ≠ []) (units : ∀ c ∈ value, UnitChar c) :
    Survives (sequence validatorAtoms) value where
  nonempty := slug_nonempty nonempty units
  length := by rw [Slug.ofText_of_units units, List.length_map]
  folded := Slug.ofText_of_units units
  accepted := isMatch_validator.mpr ⟨slug_nonempty nonempty units, fun c member =>
    unitChar_of_allowed (Slug.allowed_ofText value c member)⟩
  unchanged small := by
    have still : ∀ c ∈ value, foldCase c = c := fun c member =>
      foldCase_of_not_isUpper (small c member).1 (small c member).2
    rw [Slug.ofText_of_units units, List.map_congr_left still, List.map_id']

theorem resolveHole_of_validator (standard : hole.validator = sequence validatorAtoms)
    {current args : Arguments}
    (chosen : route.chosenValue current args hole.placeholder.name = some value) :
    route.resolveHole current args hole =
      if hole.validator.isMatch value then .ok (some (value.map foldCase))
      else .error (.argument route.displayName hole.placeholder.name (some value)) := by
  cases accepted : hole.validator.isMatch value with
  | true =>
    have valid := isMatch_validator.mp (standard ▸ accepted)
    have slugged := (slugOf_iff standard).mpr ⟨valid, rfl⟩
    simp only [resolveHole, chosen, slugged, Slug.ofText_of_units valid.2, if_true]
  | false =>
    have refused : slugOf? hole value = none := by rw [slugOf?, accepted]; rfl
    simp only [resolveHole, chosen, refused, Bool.false_eq_true, if_false]

theorem slug_of_default (built : Built route) (member : hole ∈ route.holes)
    (default : hole.requirement = defaultRequirement) :
    (∀ value, hole.validator.isMatch value = true ↔
      value ≠ [] ∧ ∀ c ∈ value, Slug.allowed (foldCase c) = true) ∧
      (∀ value, hole.validator.isMatch value = true → Survives hole.validator value) ∧
      ∀ current args value, route.chosenValue current args hole.placeholder.name = some value →
        route.resolveHole current args hole =
          if hole.validator.isMatch value then .ok (some (value.map foldCase))
          else .error (.argument route.displayName hole.placeholder.name (some value)) := by
  have standard := built.standardValidator member default
  refine ⟨fun value => ?_, fun value accepted => ?_, fun current args value chosen => ?_⟩
  · rw [standard, isMatch_validator]
    exact and_congr_right' (forall₂_congr fun _ _ => unitChar_iff)
  · rw [standard] at accepted ⊢
    obtain ⟨nonempty, units⟩ := isMatch_validator.mp accepted
    exact survives_of_units nonempty units
  · exact resolveHole_of_validator standard chosen

-- The Kelvin sign and the long s stand for a `k` and an `s`.
theorem slug_of_default_docs : ∃ hole ∈ (standardRoute "page" docs).holes,
    hole.requirement = defaultRequirement ∧
      hole.validator.isMatch "7\u212A-\u017FET" = true ∧
      Slug.ofText "7\u212A-\u017FET" = "7k-set".toList ∧
      (standardRoute "page" docs).resolveHole .empty (.ofList [("slug", "7\u212A-\u017FET")]) hole =
        .ok (some "7k-set".toList) := by
  have folded : "7\u212A-\u017FET".toList.map foldCase = "7k-set".toList := by decide +kernel
  have listed : standardHole { name := "slug", requirement := defaultRequirement } ∈
      (standardRoute "page" docs).holes := List.mem_cons_self
  obtain ⟨takes, survives, resolves⟩ := slug_of_default (built_docs "page") listed rfl
  have slugs : ("7\u212A-\u017FET".toList.all fun c => Slug.allowed (foldCase c)) = true := by
    decide +kernel
  have accepted := (takes "7\u212A-\u017FET").mpr ⟨by decide, List.all_eq_true.mp slugs⟩
  refine ⟨_, listed, rfl, accepted, (survives _ accepted).folded.trans folded, ?_⟩
  rw [resolves .empty (.ofList [("slug", "7\u212A-\u017FET")]) "7\u212A-\u017FET" (by decide),
    if_pos accepted, folded]

end RouteTable.Route
