import RouteTable.Text.Basic
import RouteTable.Unicode.CharSet

namespace RouteTable.Unicode

theorem Span.contains_iff {span : Span} {code : Nat} : span.contains code = true ↔
    (span.first ≤ code ∧ code ≤ span.last) ∧ (code - span.first) % span.step = 0 := by
  simp [Span.contains]

-- Members of a span with one parity: a lone member, or every second code point.
def Span.keepsParity (span : Span) : Bool := span.first.beq span.last || span.step.beq 2

-- Comparisons of bounds and parities that show two spans to be disjoint.
def Span.apart (a b : Span) : Bool :=
  b.last.blt a.first || a.last.blt b.first ||
    a.keepsParity && b.keepsParity && !(a.first % 2).beq (b.first % 2)

theorem parity_of_contains {span : Span} {code : Nat} (parity : span.keepsParity = true)
    (member : span.contains code = true) : code % 2 = span.first % 2 := by
  obtain ⟨⟨low, high⟩, stride⟩ := Span.contains_iff.mp member
  simp only [Span.keepsParity, Bool.or_eq_true, Nat.beq_eq] at parity
  rcases parity with lone | second
  · omega
  · rw [second] at stride
    omega

theorem not_contains_of_apart {a b : Span} {code : Nat} (disjoint : a.apart b = true)
    (member : a.contains code = true) : b.contains code = false := by
  cases found : b.contains code with
  | false => rfl
  | true =>
    obtain ⟨⟨low, high⟩, _⟩ := Span.contains_iff.mp member
    obtain ⟨⟨low', high'⟩, _⟩ := Span.contains_iff.mp found
    simp only [Span.apart, Bool.or_eq_true, Bool.and_eq_true, Nat.blt_eq, Bool.not_eq_true']
      at disjoint
    rcases disjoint with (before | after) | ⟨⟨parity, parity'⟩, differ⟩
    · omega
    · omega
    · have := parity_of_contains parity member
      have := parity_of_contains parity' found
      have := Nat.ne_of_beq_eq_false differ
      omega

namespace Shift

-- The span that the members of a shift move to.
def images (shift : Shift) : Span :=
  ⟨shift.target, shift.target + (shift.last - shift.first), shift.step⟩

theorem contains_of_image {shift : Shift} {code image : Nat}
    (moved : shift.image? code = some image) : shift.contains code = true := by
  unfold image? at moved
  split at moved
  · assumption
  · cases moved

theorem images_contains {shift : Shift} {code image : Nat}
    (moved : shift.image? code = some image) : shift.images.contains image = true := by
  unfold image? at moved
  split at moved
  · next member =>
    cases moved
    obtain ⟨⟨low, high⟩, stride⟩ := Span.contains_iff.mp member
    refine Span.contains_iff.mpr ⟨⟨?_, ?_⟩, ?_⟩
    · exact Nat.le_add_right _ _
    · exact Nat.add_le_add_left (Nat.sub_le_sub_right high _) _
    · rwa [images, Nat.add_sub_cancel_left]
  · cases moved

theorem origin_of_image {shift : Shift} {code image : Nat}
    (moved : shift.image? code = some image) : shift.origin? image = some code := by
  unfold image? at moved
  split at moved
  · next member =>
    cases moved
    have low : shift.first ≤ code := (Span.contains_iff.mp member).1.1
    have back : shift.first + (shift.target + (code - shift.first) - shift.target) = code := by
      omega
    simp only [origin?, back, member, Bool.and_true]
    simp
  · cases moved

theorem image_of_origin {shift : Shift} {code image : Nat}
    (came : shift.origin? image = some code) : shift.image? code = some image := by
  unfold origin? at came
  split at came
  · next member =>
    cases came
    simp only [Bool.and_eq_true, decide_eq_true_eq] at member
    have forth : shift.target + (shift.first + (image - shift.target) - shift.first) = image := by
      omega
    simp only [image?, member.2, if_true, forth]
  · cases came

end Shift

-- The spans of the list begin one after another, none of them before `low`.
def ascends (low : Nat) : List Shift → Bool
  | [] => true
  | shift :: rest => low.ble shift.first && ascends shift.first rest

-- Of a list that ascends, only the spans that begin before the end of `span` have to be looked at.
def Span.clearOf (span : Span) : List Shift → Bool
  | [] => true
  | shift :: rest =>
    span.last.blt shift.first || span.apart shift.toSpan && span.clearOf rest

def clearAhead : List Shift → Bool
  | [] => true
  | shift :: rest => shift.toSpan.clearOf rest && clearAhead rest

theorem first_of_ascends {low : Nat} {shifts : List Shift} (sorted : ascends low shifts = true) :
    ∀ shift ∈ shifts, low ≤ shift.first := by
  induction shifts generalizing low with
  | nil => nofun
  | cons first rest ih =>
    simp only [ascends, Bool.and_eq_true, Nat.ble_eq] at sorted
    exact List.forall_mem_cons.mpr
      ⟨sorted.1, fun later member => Nat.le_trans sorted.1 (ih sorted.2 later member)⟩

theorem apart_of_clearOf {span : Span} {low : Nat} {shifts : List Shift}
    (sorted : ascends low shifts = true) (clear : span.clearOf shifts = true) :
    ∀ shift ∈ shifts, span.apart shift.toSpan = true := by
  induction shifts generalizing low with
  | nil => nofun
  | cons first rest ih =>
    simp only [ascends, Bool.and_eq_true] at sorted
    simp only [Span.clearOf, Bool.or_eq_true, Bool.and_eq_true, Nat.blt_eq] at clear
    rcases clear with before | ⟨here, later⟩
    · intro shift member
      have begins : first.first ≤ shift.first := by
        rcases List.mem_cons.mp member with rfl | member
        · exact Nat.le_refl _
        · exact first_of_ascends sorted.2 shift member
      simp only [Span.apart, Bool.or_eq_true, Nat.blt_eq]
      exact Or.inl (Or.inr (Nat.lt_of_lt_of_le before begins))
    · exact List.forall_mem_cons.mpr ⟨here, ih sorted.2 later⟩

theorem pairwise_apart {low : Nat} {shifts : List Shift} (sorted : ascends low shifts = true)
    (clear : clearAhead shifts = true) :
    shifts.Pairwise fun a b => a.toSpan.apart b.toSpan = true := by
  induction shifts generalizing low with
  | nil => exact .nil
  | cons first rest ih =>
    simp only [ascends, Bool.and_eq_true] at sorted
    simp only [clearAhead, Bool.and_eq_true] at clear
    exact .cons (apart_of_clearOf sorted.2 clear.1) (ih sorted.2 clear.2)

def validSpan (span : Span) : Bool :=
  span.last.blt 0xD800 || !span.first.blt 0xE000 && span.last.blt 0x110000

theorem caseFoldings_ascends : ascends 0 caseFoldings = true := by decide

theorem caseFoldings_apart : caseFoldings.Pairwise fun a b => a.toSpan.apart b.toSpan = true :=
  pairwise_apart caseFoldings_ascends (by decide)

theorem caseFoldings_images_apart : ∀ a ∈ caseFoldings, ∀ b ∈ caseFoldings,
    a.images.apart b.toSpan = true := by
  have clear : (caseFoldings.all fun shift => shift.images.clearOf caseFoldings) = true := by
    decide +kernel
  exact fun shift listed =>
    apart_of_clearOf caseFoldings_ascends (List.all_eq_true.mp clear shift listed)

theorem caseFoldings_valid :
    (caseFoldings.all fun shift => validSpan shift.toSpan && validSpan shift.images) = true := by
  decide

theorem isValidChar_of_contains {span : Span} {code : Nat} (valid : validSpan span = true)
    (member : span.contains code = true) : code.isValidChar := by
  obtain ⟨⟨low, high⟩, _⟩ := Span.contains_iff.mp member
  simp only [validSpan, Bool.or_eq_true, Bool.and_eq_true, Nat.blt_eq, Bool.not_eq_true'] at valid
  rcases valid with below | ⟨above, inside⟩
  · exact Or.inl (by omega)
  · have : ¬span.first < 0xE000 := by
      intro less
      rw [Nat.blt_eq.mpr less] at above
      cases above
    exact Or.inr ⟨by omega, by omega⟩

theorem toNat_ofNat_of_valid {code : Nat} (valid : code.isValidChar) :
    (Char.ofNat code).toNat = code := by
  rw [Char.ofNat, dif_pos valid]
  rfl

-- A span of a list of disjoint spans decides alone where its members go.
theorem findSome_image {shifts : List Shift} {shift : Shift} {code image : Nat}
    (apart : shifts.Pairwise fun a b => a.toSpan.apart b.toSpan = true) (listed : shift ∈ shifts)
    (moved : shift.image? code = some image) :
    shifts.findSome? (·.image? code) = some image := by
  induction shifts with
  | nil => cases listed
  | cons first rest ih =>
    obtain ⟨here, others⟩ := List.pairwise_cons.mp apart
    rcases List.mem_cons.mp listed with rfl | later
    · simp [moved]
    · have member : shift.contains code = true := by
        unfold Shift.image? at moved
        split at moved
        · assumption
        · cases moved
      have other : first.contains code = false := by
        cases found : first.contains code with
        | false => rfl
        | true => rw [not_contains_of_apart (here shift later) found] at member; cases member
      have still : first.image? code = none := by simp [Shift.image?, other]
      simpa [List.findSome?_cons, still] using ih others later

theorem foldCode_of_image {shift : Shift} {code image : Nat} (listed : shift ∈ caseFoldings)
    (moved : shift.image? code = some image) : foldCode code = image := by
  simp [foldCode, findSome_image caseFoldings_apart listed moved]

def moved (shifts : List Shift) (code : Nat) : Nat :=
  (shifts.findSome? (·.image? code)).getD code

theorem moved_cases (shifts : List Shift) (code : Nat) :
    moved shifts code = code ∨ ∃ shift ∈ shifts, shift.image? code = some (moved shifts code) := by
  unfold moved
  cases found : shifts.findSome? (·.image? code) with
  | none => exact Or.inl rfl
  | some image =>
    obtain ⟨shift, listed, moves⟩ := List.exists_of_findSome?_eq_some found
    exact Or.inr ⟨shift, listed, moves⟩

theorem moved_idem {shifts : List Shift}
    (apart : ∀ a ∈ shifts, ∀ b ∈ shifts, a.images.apart b.toSpan = true) (code : Nat) :
    moved shifts (moved shifts code) = moved shifts code := by
  rcases moved_cases shifts code with still | ⟨shift, listed, moves⟩
  · rw [still, still]
  · rcases moved_cases shifts (moved shifts code) with still | ⟨other, listed', moves'⟩
    · exact still
    · -- What was moved would have to lie in a span of the table.
      have outside :=
        not_contains_of_apart (apart shift listed other listed') (Shift.images_contains moves)
      simp [Shift.image?, outside] at moves'

theorem foldCode_cases (code : Nat) :
    foldCode code = code ∨
      ∃ shift ∈ caseFoldings, shift.image? code = some (foldCode code) :=
  moved_cases caseFoldings code

theorem foldCode_idem (code : Nat) : foldCode (foldCode code) = foldCode code :=
  moved_idem caseFoldings_images_apart code

theorem foldCode_valid (c : Char) : (foldCode c.toNat).isValidChar := by
  rcases foldCode_cases c.toNat with still | ⟨shift, listed, moved⟩
  · rw [still]
    exact c.valid
  · have valid := List.all_eq_true.mp caseFoldings_valid shift listed
    simp only [Bool.and_eq_true] at valid
    exact isValidChar_of_contains valid.2 (Shift.images_contains moved)

theorem foldCase_toNat (c : Char) : (foldCase c).toNat = foldCode c.toNat :=
  toNat_ofNat_of_valid (foldCode_valid c)

theorem foldCase_idem (c : Char) : foldCase (foldCase c) = foldCase c := by
  unfold foldCase
  rw [show (Char.ofNat (foldCode c.toNat)).toNat = foldCode c.toNat from foldCase_toNat c,
    foldCode_idem]

theorem mem_caseVariants {c d : Char} : c ∈ caseVariants d ↔ foldCase c = foldCase d := by
  constructor
  · intro member
    simp only [caseVariants, List.mem_cons, List.mem_map, List.mem_filterMap] at member
    rcases member with rfl | ⟨code, ⟨shift, listed, came⟩, rfl⟩
    · exact foldCase_idem d
    · have moved := Shift.image_of_origin came
      have valid : code.isValidChar := by
        have spans := List.all_eq_true.mp caseFoldings_valid shift listed
        rw [Bool.and_eq_true] at spans
        exact isValidChar_of_contains spans.1 (Shift.contains_of_image moved)
      unfold foldCase
      rw [toNat_ofNat_of_valid valid, foldCode_of_image listed moved]
  · intro alike
    have codes : foldCode c.toNat = foldCode d.toNat := by
      rw [← foldCase_toNat, ← foldCase_toNat, alike]
    simp only [caseVariants, List.mem_cons, List.mem_map, List.mem_filterMap]
    rcases foldCode_cases c.toNat with still | ⟨shift, listed, moved⟩
    · apply Or.inl
      rw [← codes, still, Char.ofNat_toNat]
    · refine Or.inr ⟨c.toNat, ⟨shift, listed, ?_⟩, Char.ofNat_toNat c⟩
      rw [← codes]
      exact Shift.origin_of_image moved

end RouteTable.Unicode
