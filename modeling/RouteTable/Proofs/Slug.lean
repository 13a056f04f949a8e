import RouteTable.Proofs.Alike
import RouteTable.Proofs.Regex.Units

namespace RouteTable

open Unicode (foldCase)

namespace Slug

variable {value : Text}

theorem allowed_joinAllowed (last : Option Char) (gap : Bool) (text : Text) :
    ∀ c ∈ joinAllowed last gap text, allowed c = true := by
  induction text generalizing last gap with
  | nil => nofun
  | cons c text ih =>
    unfold joinAllowed
    split
    · next fits =>
      intro d member
      rcases List.mem_append.mp member with here | later
      · split at here
        · rcases List.mem_cons.mp here with rfl | here
          · rfl
          · rw [List.mem_singleton.mp here]
            exact fits
        · rw [List.mem_singleton.mp here]
          exact fits
      · exact ih _ _ d later
    · exact ih _ _

theorem allowed_ofText (value : Text) : ∀ c ∈ ofText value, allowed c = true :=
  allowed_joinAllowed none false _

theorem joinAllowed_of_allowed {last : Option Char} {text : Text}
    (fits : ∀ c ∈ text, allowed c = true) : joinAllowed last false text = text := by
  induction text generalizing last with
  | nil => rfl
  | cons c text ih =>
    rw [joinAllowed, if_pos (fits c List.mem_cons_self),
      ih fun d member => fits d (List.mem_cons_of_mem c member)]
    rfl

theorem toNat_of_allowed {c : Char} (fits : allowed c = true) :
    c.toNat < 0x80 ∧ (c.toNat < 0x41 ∨ 0x5A < c.toNat) := by
  have spans := Regex.inSpans_slugSpans c
  rw [fits] at spans
  simp only [Regex.slugSpans, Unicode.inSpans, List.any_cons, List.any_nil, Bool.or_false,
    Bool.or_eq_true, Unicode.Span.contains_iff] at spans
  omega

-- What becomes of one character, before characters that are not allowed are left out.
def spelled (c : Char) : Text := Unicode.lowercase (transliterate [c])

theorem lowercase_transliterate (value : Text) :
    Unicode.lowercase (transliterate value) = value.flatMap spelled := by
  induction value with
  | nil => rfl
  | cons c value ih =>
    rw [List.flatMap_cons, ← ih, spelled, Unicode.lowercase, Unicode.lowercase, Unicode.lowercase,
      ← List.flatMap_append]
    simp [transliterate]

theorem spelled_of_ascii {c : Char} (ascii : c.toNat < 0x80) : spelled c = [foldCase c] := by
  have whole : Unicode.decomposeChar c = [c] := if_pos ascii
  have standing : Unicode.isMark c = false := by
    refine Unicode.contains_ofTables_above ?_ ascii
    decide +kernel
  have kept : spelling c = [c] := by
    unfold spelling
    split
    case h_16 => rfl
    all_goals exact absurd ascii (by decide)
  rw [spelled, transliterate, List.flatMap_singleton, whole, List.filter_cons, standing,
    List.filter_nil]
  simp only [Bool.not_false, if_true, List.flatMap_singleton, kept, Unicode.lowercase]
  exact Unicode.lowerChar_of_ascii ascii

theorem foldCase_of_allowed {c : Char} (fits : allowed c = true) : foldCase c = c := by
  obtain ⟨ascii, small⟩ := toNat_of_allowed fits
  rw [Unicode.foldCase_of_ascii ascii, Unicode.foldAscii_of_small small]

theorem spelled_of_unit {c : Char} (unit : UnitChar c) :
    spelled c = [foldCase c] ∧ allowed (foldCase c) = true := by
  obtain ⟨d, fits, alike⟩ := unit
  rw [foldCase_of_allowed fits] at alike
  have ascii : (foldCase c).toNat < 0x80 := alike ▸ (toNat_of_allowed fits).1
  refine ⟨?_, alike ▸ fits⟩
  rcases Unicode.folds_to_ascii ascii with ascii | rfl | rfl
  · exact spelled_of_ascii ascii
  · decide +kernel
  · decide +kernel

theorem flatMap_spelled_of_units (units : ∀ c ∈ value, UnitChar c) :
    value.flatMap spelled = value.map foldCase := by
  induction value with
  | nil => rfl
  | cons c value ih =>
    rw [List.flatMap_cons, (spelled_of_unit (units c List.mem_cons_self)).1,
      ih fun d member => units d (List.mem_cons_of_mem c member)]
    rfl

theorem ofText_of_units (units : ∀ c ∈ value, UnitChar c) : ofText value = value.map foldCase := by
  have fits : ∀ c ∈ value.map foldCase, allowed c = true := by
    intro c member
    obtain ⟨d, listed, rfl⟩ := List.mem_map.mp member
    exact (spelled_of_unit (units d listed)).2
  rw [ofText, lowercase_transliterate, flatMap_spelled_of_units units,
    joinAllowed_of_allowed fits]

end Slug

theorem unitChar_of_allowed {c : Char} (fits : Slug.allowed c = true) : UnitChar c := ⟨c, fits, rfl⟩

theorem units_of_ascii {value : Text} (ascii : value.all (·.toNat.blt 0x80) = true)
    (fits : (value.map Unicode.foldAscii).all Slug.allowed = true) : ∀ c ∈ value, UnitChar c := by
  intro c member
  refine ⟨foldCase c, ?_, Unicode.foldCase_idem c⟩
  rw [← Unicode.map_foldCase_of_ascii ascii] at fits
  exact List.all_eq_true.mp fits _ (List.mem_map_of_mem member)

theorem Slug.ofText_of_ascii {value : Text} (ascii : value.all (·.toNat.blt 0x80) = true)
    (fits : (value.map Unicode.foldAscii).all Slug.allowed = true) :
    Slug.ofText value = value.map Unicode.foldAscii := by
  rw [Slug.ofText_of_units (units_of_ascii ascii fits), Unicode.map_foldCase_of_ascii ascii]

theorem not_unitChar_slash : ¬UnitChar '/' := by
  rintro ⟨d, fits, alike⟩
  rw [foldCase_slash, foldCase_eq_slash] at alike
  rw [alike] at fits
  exact absurd fits (by decide)

end RouteTable
