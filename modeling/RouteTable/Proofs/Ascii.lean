import RouteTable.Proofs.Folding
import RouteTable.Unicode.Character
import RouteTable.Unicode.Lowercase

namespace RouteTable.Unicode

theorem not_contains_of_above {span : Span} {code : Nat} (above : Nat.blt 0x7F span.first = true)
    (ascii : code < 0x80) : span.contains code = false := by
  rw [Nat.blt_eq] at above
  cases found : span.contains code with
  | false => rfl
  | true =>
    have low := (Span.contains_iff.mp found).1.1
    omega

theorem contains_ofTables_above {tables : List (List Span)} {c : Char}
    (above : (tables.all (·.all fun span => Nat.blt 0x7F span.first)) = true)
    (ascii : c.toNat < 0x80) : (CharSet.ofTables tables).contains c = false := by
  induction tables with
  | nil => rfl
  | cons spans tables ih =>
    simp only [List.all_cons, Bool.and_eq_true] at above
    have first : inSpans spans c = false := by
      refine List.any_eq_false.mpr fun span listed => ?_
      rw [not_contains_of_above (List.all_eq_true.mp above.1 span listed) ascii]
      exact Bool.false_ne_true
    have others := ih above.2
    unfold CharSet.ofTables at others ⊢
    rw [List.foldr_cons, CharSet.contains, CharSet.contains, first, others]
    rfl

theorem contains_ofTables {tables : List (List Span)} {spans : List Span} {span : Span} {c : Char}
    (listed : spans ∈ tables) (inside : span ∈ spans) (member : span.contains c.toNat = true) :
    (CharSet.ofTables tables).contains c = true := by
  induction tables with
  | nil => cases listed
  | cons first tables ih =>
    unfold CharSet.ofTables at ih ⊢
    rw [List.foldr_cons, CharSet.contains, CharSet.contains, Bool.or_eq_true]
    rcases List.mem_cons.mp listed with rfl | later
    · exact Or.inl (List.any_eq_true.mpr ⟨span, inside, member⟩)
    · exact Or.inr (ih later)

theorem span_of_contains_ofTables {tables : List (List Span)} {c : Char}
    (member : (CharSet.ofTables tables).contains c = true) :
    ∃ spans ∈ tables, ∃ span ∈ spans, span.contains c.toNat = true := by
  induction tables with
  | nil => cases member
  | cons first tables ih =>
    unfold CharSet.ofTables at ih member
    rw [List.foldr_cons, CharSet.contains, CharSet.contains, Bool.or_eq_true] at member
    rcases member with here | later
    · exact ⟨first, List.mem_cons_self, List.any_eq_true.mp here⟩
    · obtain ⟨spans, listed, inside⟩ := ih later
      exact ⟨spans, List.mem_cons_of_mem _ listed, inside⟩

theorem contains_interval {low high code : Nat} (least : low ≤ code) (most : code ≤ high) :
    Span.contains ⟨low, high, 1⟩ code = true :=
  Span.contains_iff.mpr ⟨⟨least, most⟩, Nat.mod_one _⟩

theorem isUpper_iff {c : Char} : c.isUpper = true ↔ 0x41 ≤ c.toNat ∧ c.toNat ≤ 0x5A :=
  decide_eq_true_iff.trans (and_congr UInt32.le_iff_toNat_le UInt32.le_iff_toNat_le)

theorem isLower_iff {c : Char} : c.isLower = true ↔ 0x61 ≤ c.toNat ∧ c.toNat ≤ 0x7A :=
  Bool.and_eq_true_iff.trans (and_congr (decide_eq_true_iff.trans UInt32.le_iff_toNat_le)
    (decide_eq_true_iff.trans UInt32.le_iff_toNat_le))

theorem isDigit_iff {c : Char} : c.isDigit = true ↔ 0x30 ≤ c.toNat ∧ c.toNat ≤ 0x39 :=
  Bool.and_eq_true_iff.trans (and_congr (decide_eq_true_iff.trans UInt32.le_iff_toNat_le)
    (decide_eq_true_iff.trans UInt32.le_iff_toNat_le))

theorem toNat_toLower (c : Char) : c.toLower.toNat =
    if 0x41 ≤ c.toNat ∧ c.toNat ≤ 0x5A then c.toNat + 0x20 else c.toNat := by
  have bounds : (c.val ≥ 'A'.val ∧ c.val ≤ 'Z'.val) ↔ 0x41 ≤ c.toNat ∧ c.toNat ≤ 0x5A :=
    and_congr UInt32.le_iff_toNat_le UInt32.le_iff_toNat_le
  unfold Char.toLower
  split
  · next capital =>
    rw [if_pos (bounds.mp capital)]
    have most : c.val.toNat ≤ 0x5A := (bounds.mp capital).2
    change (c.val + ('a'.val - 'A'.val)).toNat = c.val.toNat + 0x20
    have shift : ('a'.val - 'A'.val).toNat = 0x20 := by decide
    rw [UInt32.toNat_add, shift]
    omega
  · next other => rw [if_neg fun range => other (bounds.mpr range)]

theorem toNat_toUpper (c : Char) : c.toUpper.toNat =
    if 0x61 ≤ c.toNat ∧ c.toNat ≤ 0x7A then c.toNat - 0x20 else c.toNat := by
  have bounds : ('a'.val ≤ c.val ∧ c.val ≤ 'z'.val) ↔ 0x61 ≤ c.toNat ∧ c.toNat ≤ 0x7A :=
    and_congr UInt32.le_iff_toNat_le UInt32.le_iff_toNat_le
  unfold Char.toUpper
  split
  · next small =>
    rw [if_pos (bounds.mp small)]
    have least : 0x61 ≤ c.val.toNat := (bounds.mp small).1
    have most : c.val.toNat ≤ 0x7A := (bounds.mp small).2
    change (c.val + ('A'.val - 'a'.val)).toNat = c.val.toNat - 0x20
    have shift : ('A'.val - 'a'.val).toNat = 2 ^ 32 - 0x20 := by decide
    rw [UInt32.toNat_add, shift]
    omega
  · next other => rw [if_neg fun range => other (bounds.mpr range)]

theorem not_isLower_toUpper (c : Char) : c.toUpper.isLower = false := by
  refine Bool.eq_false_iff.mpr fun lower => ?_
  have range := isLower_iff.mp lower
  rw [toNat_toUpper] at range
  split at range <;> omega

theorem toLower_toLower (c : Char) : c.toLower.toLower = c.toLower := by
  apply Char.toNat_inj.mp
  rw [toNat_toLower c.toLower, toNat_toLower c]
  by_cases capital : 0x41 ≤ c.toNat ∧ c.toNat ≤ 0x5A
  · rw [if_pos capital, if_neg (by omega)]
  · rw [if_neg capital, if_neg capital]

theorem isAlpha_iff {c : Char} : c.isAlpha = true ↔
    (0x41 ≤ c.toNat ∧ c.toNat ≤ 0x5A) ∨ (0x61 ≤ c.toNat ∧ c.toNat ≤ 0x7A) :=
  Bool.or_eq_true_iff.trans (or_congr isUpper_iff isLower_iff)

theorem toLower_cases (c : Char) :
    c.toLower = c ∨ c.isAlpha = true ∧ c.toLower.isAlpha = true := by
  by_cases capital : 0x41 ≤ c.toNat ∧ c.toNat ≤ 0x5A
  · have small : c.toLower.toNat = c.toNat + 0x20 := (toNat_toLower c).trans (if_pos capital)
    exact Or.inr ⟨isAlpha_iff.mpr (by omega), isAlpha_iff.mpr (by omega)⟩
  · exact Or.inl (Char.toNat_inj.mp ((toNat_toLower c).trans (if_neg capital)))

theorem isAlphabetic_of_isAlpha {c : Char} (letter : c.isAlpha = true) : isAlphabetic c = true := by
  rw [isAlphabetic, Bool.or_eq_true]
  apply Or.inl
  rcases Bool.or_eq_true_iff.mp letter with upper | lower
  · obtain ⟨least, most⟩ := isUpper_iff.mp upper
    have listed : uppercaseLetters ∈ letters ++ [letterNumbers, otherAlphabetic] :=
      List.mem_cons_self
    exact contains_ofTables listed List.mem_cons_self (contains_interval least most)
  · obtain ⟨least, most⟩ := isLower_iff.mp lower
    have listed : lowercaseLetters ∈ letters ++ [letterNumbers, otherAlphabetic] :=
      List.mem_cons_of_mem _ List.mem_cons_self
    exact contains_ofTables listed List.mem_cons_self (contains_interval least most)

theorem isAlphanumeric_of_isAlphanum {c : Char} (letter : c.isAlphanum = true) :
    isAlphanumeric c = true := by
  rw [isAlphanumeric, Bool.or_eq_true]
  rcases Bool.or_eq_true_iff.mp letter with alpha | digit
  · exact Or.inl (isAlphabetic_of_isAlpha alpha)
  · obtain ⟨least, most⟩ := isDigit_iff.mp digit
    have listed : decimalDigits ∈ laterNumbers :: numbers :=
      List.mem_cons_of_mem _ List.mem_cons_self
    exact Or.inr (contains_ofTables listed List.mem_cons_self (contains_interval least most))

-- The capital letters of ASCII, which both tables begin with.
def capitals : Shift := ⟨⟨0x41, 0x5A, 1⟩, 0x61⟩

theorem findSome_of_ascii {shifts : List Shift} {code : Nat}
    (above : (shifts.all fun shift => Nat.blt 0x7F shift.first) = true) (ascii : code < 0x80) :
    (capitals :: shifts).findSome? (·.image? code) = capitals.image? code := by
  have others : shifts.findSome? (·.image? code) = none := by
    refine List.findSome?_eq_none_iff.mpr fun shift listed => ?_
    rw [Shift.image?, not_contains_of_above (List.all_eq_true.mp above shift listed) ascii]
    rfl
  rw [List.findSome?_cons, others]
  cases capitals.image? code <;> rfl

-- Case folding of ASCII, which needs no table.
def foldAscii (c : Char) : Char := Char.ofNat ((capitals.image? c.toNat).getD c.toNat)

theorem foldAscii_eq_toLower (c : Char) : foldAscii c = c.toLower := by
  apply Char.toNat_inj.mp
  rw [foldAscii, toNat_toLower, Shift.image?]
  split
  · next capital =>
    have range := (Span.contains_iff.mp capital).1
    simp only [capitals] at range
    have moved : capitals.target + (c.toNat - capitals.first) = c.toNat + 0x20 := by
      simp only [capitals]
      omega
    rw [if_pos range, moved, Option.getD_some]
    exact toNat_ofNat_of_valid (Or.inl (by omega))
  · next other =>
    rw [if_neg fun range => other (contains_interval range.1 range.2)]
    exact toNat_ofNat_of_valid c.valid

theorem foldCase_of_ascii {c : Char} (ascii : c.toNat < 0x80) : foldCase c = foldAscii c := by
  have whole : caseFoldings = capitals :: caseFoldings.tail := rfl
  rw [foldCase, foldCode, whole, findSome_of_ascii (by decide) ascii, foldAscii]

theorem foldCase_toLower (c : Char) : foldCase c.toLower = foldCase c := by
  by_cases capital : 0x41 ≤ c.toNat ∧ c.toNat ≤ 0x5A
  · have small : c.toLower.toNat = c.toNat + 0x20 := (toNat_toLower c).trans (if_pos capital)
    rw [foldCase_of_ascii (by omega), foldCase_of_ascii (by omega), foldAscii_eq_toLower,
      foldAscii_eq_toLower, toLower_toLower]
  · rw [Char.toNat_inj.mp ((toNat_toLower c).trans (if_neg capital))]

theorem map_foldCase_of_ascii {s : Text} (ascii : s.all (·.toNat.blt 0x80) = true) :
    s.map foldCase = s.map foldAscii :=
  List.map_congr_left fun c member =>
    foldCase_of_ascii (Nat.blt_eq.mp (List.all_eq_true.mp ascii c member))

theorem lowerChar_of_ascii {c : Char} (ascii : c.toNat < 0x80) : lowerChar c = [foldCase c] := by
  have dotless : c ≠ '\u0130' := by
    rintro rfl
    exact absurd ascii (by decide)
  have whole : lowercaseShifts = capitals :: lowercaseShifts.tail := rfl
  rw [lowerChar, if_neg dotless, whole, findSome_of_ascii (by decide) ascii,
    foldCase_of_ascii ascii, foldAscii]

theorem foldAscii_of_small {c : Char} (small : c.toNat < 0x41 ∨ 0x5A < c.toNat) :
    foldAscii c = c := by
  have outside : capitals.contains c.toNat = false := by
    cases found : capitals.contains c.toNat with
    | false => rfl
    | true =>
      have bounds := (Span.contains_iff.mp found).1
      simp only [capitals] at bounds
      omega
  rw [foldAscii, Shift.image?, outside]
  exact Char.ofNat_toNat c

theorem foldings_to_ascii : caseFoldings.filter (·.target.blt 0x80) =
    [capitals, ⟨⟨0x17F, 0x17F, 1⟩, 0x73⟩, ⟨⟨0x212A, 0x212A, 1⟩, 0x6B⟩] := by
  decide

theorem foldCode_to_ascii {code : Nat} (ascii : foldCode code < 0x80) :
    foldCode code = code ∨
      0x61 ≤ foldCode code ∧ (code < 0x80 ∨ code = 0x17F ∨ code = 0x212A) := by
  rcases foldCode_cases code with still | ⟨shift, listed, moved⟩
  · exact Or.inl still
  · apply Or.inr
    unfold Shift.image? at moved
    split at moved
    · next member =>
      obtain ⟨⟨low, high⟩, _⟩ := Span.contains_iff.mp member
      have image := Option.some.inj moved
      have few : shift ∈ caseFoldings.filter (·.target.blt 0x80) :=
        List.mem_filter.mpr ⟨listed, Nat.blt_eq.mpr (by omega)⟩
      rw [foldings_to_ascii] at few
      simp only [List.mem_cons, List.not_mem_nil, or_false] at few
      rcases few with rfl | rfl | rfl
      all_goals
        simp only [capitals] at low high image
        omega
    · cases moved

theorem folds_to_ascii {c : Char} (ascii : (foldCase c).toNat < 0x80) :
    c.toNat < 0x80 ∨ c = '\u017F' ∨ c = '\u212A' := by
  rw [foldCase_toNat] at ascii
  rcases foldCode_to_ascii ascii with still | ⟨_, small | long | kelvin⟩
  · exact Or.inl (still ▸ ascii)
  · exact Or.inl small
  · exact Or.inr (Or.inl (Char.toNat_inj.mp long))
  · exact Or.inr (Or.inr (Char.toNat_inj.mp kelvin))

theorem foldCase_eq_small {c d : Char} (small : d.toNat < 0x41) : foldCase c = d ↔ c = d := by
  constructor
  · rintro rfl
    rw [foldCase_toNat] at small
    rcases foldCode_to_ascii (Nat.lt_trans small (by decide)) with still | ⟨letter, _⟩
    · exact Char.toNat_inj.mp (still.symm.trans (foldCase_toNat c).symm)
    · omega
  · rintro rfl
    rw [foldCase_of_ascii (Nat.lt_trans small (by decide)), foldAscii_of_small (Or.inl small)]

end RouteTable.Unicode
