import RouteTable.Proofs.Ascii
import RouteTable.Unicode.Decomposition

namespace RouteTable.Unicode

open CharSet (table ofTables)

def cased : CharSet := .union (table titlecaseLetters) (.union lowercaseSet uppercaseSet)

def caseIgnorable : CharSet :=
  ofTables [nonspacingMarks, enclosingMarks, formatCharacters, modifierLetters, modifierSymbols,
    otherCaseIgnorable]

-- Whether a letter stands next, whatever may be attached to it left out.
def meetsLetter (s : Text) : Bool :=
  (s.find? fun c => !caseIgnorable.contains c).any cased.contains

-- A capital sigma at the end of a word has a lower case of its own. What stands before is given
-- last character first.
def lowercaseAfter (before : Text) : Text → Text
  | [] => []
  | c :: rest =>
    (if c = 'Σ' then if meetsLetter before && !meetsLetter rest then ['ς'] else ['σ']
      else lowerChar c) ++ lowercaseAfter (c :: before) rest

def toLowercase (s : Text) : Text := lowercaseAfter [] s

theorem lowercaseShifts_images_apart : ∀ a ∈ lowercaseShifts, ∀ b ∈ lowercaseShifts,
    a.images.apart b.toSpan = true := by
  have sorted : ascends 0 lowercaseShifts = true := by decide
  have clear : (lowercaseShifts.all fun shift => shift.images.clearOf lowercaseShifts) = true := by
    decide +kernel
  exact fun shift listed => apart_of_clearOf sorted (List.all_eq_true.mp clear shift listed)

theorem lowercaseShifts_valid :
    (lowercaseShifts.all fun shift => validSpan shift.images && !shift.images.contains 0x130) =
      true := by
  decide

-- The lower case of every character but one.
def lowered (c : Char) : Char := Char.ofNat (moved lowercaseShifts c.toNat)

theorem lowerChar_eq {c : Char} (single : c ≠ '\u0130') : lowerChar c = [lowered c] :=
  if_neg single

theorem lowered_toNat (c : Char) : (lowered c).toNat = moved lowercaseShifts c.toNat := by
  refine toNat_ofNat_of_valid ?_
  rcases moved_cases lowercaseShifts c.toNat with still | ⟨shift, listed, moves⟩
  · rw [still]
    exact c.valid
  · have valid := List.all_eq_true.mp lowercaseShifts_valid shift listed
    rw [Bool.and_eq_true] at valid
    exact isValidChar_of_contains valid.1 (Shift.images_contains moves)

theorem lowered_idem (c : Char) : lowered (lowered c) = lowered c := by
  rw [lowered, lowered_toNat, moved_idem lowercaseShifts_images_apart]
  rfl

def Lowers (c : Char) : Prop :=
  ∃ shift ∈ lowercaseShifts, shift.image? c.toNat = some (lowered c).toNat

theorem lowered_cases (c : Char) : lowered c = c ∨ Lowers c := by
  rcases moved_cases lowercaseShifts c.toNat with still | ⟨shift, listed, moves⟩
  · exact Or.inl (by rw [lowered, still, Char.ofNat_toNat])
  · exact Or.inr ⟨shift, listed, (lowered_toNat c).symm ▸ moves⟩

theorem lowered_single {c : Char} (single : c ≠ '\u0130') : lowered c ≠ '\u0130' := by
  intro same
  rcases lowered_cases c with still | ⟨shift, listed, moves⟩
  · exact single (still.symm.trans same)
  · have outside := List.all_eq_true.mp lowercaseShifts_valid shift listed
    rw [same] at moves
    have inside : shift.images.contains 0x130 = true := Shift.images_contains moves
    rw [inside, Bool.not_true, Bool.and_false] at outside
    cases outside

theorem lowerChar_lowered {c : Char} (single : c ≠ '\u0130') :
    lowerChar (lowered c) = [lowered c] := by
  rw [lowerChar_eq (lowered_single single), lowered_idem]

-- Where marks stand no letter has case. The Hangul syllables are in one of the gaps.
def caselessGaps : List Span :=
  [⟨0x300, 0x36F, 1⟩, ⟨0x483, 0x489, 1⟩, ⟨0x591, 0x109D, 1⟩, ⟨0x135D, 0x135F, 1⟩,
   ⟨0x1712, 0x1C37, 1⟩, ⟨0x1CD0, 0x1CF9, 1⟩, ⟨0x1DC0, 0x1DFF, 1⟩, ⟨0x20D0, 0x20F0, 1⟩,
   ⟨0x2CEF, 0x2CF1, 1⟩, ⟨0x2D7F, 0x309A, 1⟩, ⟨0xA66F, 0xA67D, 1⟩, ⟨0xA69E, 0xA6F1, 1⟩,
   ⟨0xA802, 0xAAF6, 1⟩, ⟨0xABE3, 0xFE2F, 1⟩, ⟨0x101FD, 0x1037A, 1⟩, ⟨0x10A01, 0x10AE6, 1⟩,
   ⟨0x10D24, 0x10D27, 1⟩, ⟨0x10D69, 0x10D6D, 1⟩, ⟨0x10EAB, 0x1183A, 1⟩, ⟨0x11930, 0x16B36, 1⟩,
   ⟨0x16F4F, 0x1E8D6, 1⟩, ⟨0x1E944, 0xE01EF, 1⟩]

theorem caselessGaps_dense : (caselessGaps.all (·.step.beq 1)) = true := by decide

theorem caselessGaps_sound : ((laterMarks :: marks).all (·.all fun span =>
      caselessGaps.any fun gap => gap.first.ble span.first && span.last.ble gap.last) &&
    caselessGaps.all fun gap => lowercaseShifts.all fun shift =>
      gap.apart shift.toSpan && gap.apart shift.images) = true := by
  decide +kernel

theorem caselessGaps_apart {gap : Span} (known : gap ∈ caselessGaps) {shift : Shift}
    (listed : shift ∈ lowercaseShifts) :
    gap.apart shift.toSpan = true ∧ gap.apart shift.images = true := by
  have apart := (Bool.and_eq_true_iff.mp caselessGaps_sound).2
  exact Bool.and_eq_true_iff.mp
    (List.all_eq_true.mp (List.all_eq_true.mp apart gap known) shift listed)

theorem gap_of_isMark {c : Char} (mark : isMark c = true) :
    ∃ gap ∈ caselessGaps, gap.first ≤ c.toNat ∧ c.toNat ≤ gap.last := by
  obtain ⟨spans, listed, span, member, inside⟩ := span_of_contains_ofTables mark
  obtain ⟨⟨least, most⟩, _⟩ := Span.contains_iff.mp inside
  have marked := (Bool.and_eq_true_iff.mp caselessGaps_sound).1
  have gaps := List.all_eq_true.mp (List.all_eq_true.mp marked spans listed) span member
  obtain ⟨gap, known, bounds⟩ := List.any_eq_true.mp gaps
  rw [Bool.and_eq_true, Nat.ble_eq, Nat.ble_eq] at bounds
  exact ⟨gap, known, by omega, by omega⟩

theorem Lowers.outside {c : Char} (lowers : Lowers c) {gap : Span} (known : gap ∈ caselessGaps) :
    ¬(gap.first ≤ c.toNat ∧ c.toNat ≤ gap.last) ∧
      ¬(gap.first ≤ (lowered c).toNat ∧ (lowered c).toNat ≤ gap.last) := by
  obtain ⟨shift, listed, moves⟩ := lowers
  have apart := caselessGaps_apart known listed
  have inside {code : Nat} (bounds : gap.first ≤ code ∧ code ≤ gap.last) :
      gap.contains code = true := by
    have dense := List.all_eq_true.mp caselessGaps_dense gap known
    exact Span.contains_iff.mpr ⟨bounds, by rw [Nat.eq_of_beq_eq_true dense, Nat.mod_one]⟩
  constructor
  · intro bounds
    have still : shift.image? c.toNat = none := by
      rw [Shift.image?, not_contains_of_apart apart.1 (inside bounds)]
      rfl
    cases still.symm.trans moves
  · intro bounds
    cases (not_contains_of_apart apart.2 (inside bounds)).symm.trans (Shift.images_contains moves)

theorem Lowers.not_isMark {c : Char} (lowers : Lowers c) :
    isMark c = false ∧ isMark (lowered c) = false := by
  refine ⟨Bool.eq_false_iff.mpr fun mark => ?_, Bool.eq_false_iff.mpr fun mark => ?_⟩
  · obtain ⟨gap, known, bounds⟩ := gap_of_isMark mark
    exact (lowers.outside known).1 bounds
  · obtain ⟨gap, known, bounds⟩ := gap_of_isMark mark
    exact (lowers.outside known).2 bounds

-- A code point beside the one it moves to, for all members.
def Shift.moves (shift : Shift) : List (Nat × Nat) :=
  (List.range ((shift.last - shift.first) / shift.step + 1)).map fun i =>
    (shift.first + i * shift.step, shift.target + i * shift.step)

theorem Shift.mem_moves {shift : Shift} {code image : Nat} (moves : shift.image? code = some image) :
    (code, image) ∈ shift.moves := by
  unfold Shift.image? at moves
  split at moves
  · next member =>
    cases moves
    obtain ⟨⟨least, most⟩, stride⟩ := Span.contains_iff.mp member
    have whole := Nat.div_add_mod' (code - shift.first) shift.step
    rw [stride, Nat.add_zero] at whole
    refine List.mem_map.mpr ⟨(code - shift.first) / shift.step, ?_, ?_⟩
    · have fewer := Nat.div_le_div_right (c := shift.step) (Nat.sub_le_sub_right most shift.first)
      exact List.mem_range.mpr (Nat.lt_succ_of_le fewer)
    · rw [whole]
      exact Prod.ext (by simp only; omega) rfl
  · cases moves

-- The same without a search of the table for what stands in a gap.
def lowerPart (code : Nat) : Nat :=
  if caselessGaps.any (·.contains code) then code else moved lowercaseShifts code

theorem lowerPart_eq (code : Nat) : lowerPart code = moved lowercaseShifts code := by
  unfold lowerPart
  split
  · next inside =>
    obtain ⟨gap, known, member⟩ := List.any_eq_true.mp inside
    rcases moved_cases lowercaseShifts code with still | ⟨shift, listed, moves⟩
    · exact still.symm
    · have apart := (caselessGaps_apart known listed).1
      simp [Shift.image?, not_contains_of_apart apart member] at moves
  · rfl

-- Letters that do not decompose like their lower case, or have none of one character.
def unevenLetters : List Nat := [0x130, 0x3F9, 0x1E9E]

def decompositionPage (code : Nat) : DecompositionPage :=
  (decompositionPages.lookup (code / 256)).getD []

theorem listedDecomposition_eq (code : Nat) :
    listedDecomposition? code = (decompositionPage code).lookup (code % 256) := by
  unfold listedDecomposition? decompositionPage
  cases decompositionPages.lookup (code / 256) <;> rfl

-- Whether the second decomposition is the first one in lower case.
def decomposesAlike (image : Nat) : Option (List Nat) → Option (List Nat) → Bool
  | none, parts' => parts'.isNone
  | some parts, parts' =>
    parts'.getD [image] == parts.map lowerPart &&
      parts.all fun part => part.blt 0xD800 && !unevenLetters.contains part

def onePage (span : Span) : Bool := (span.first / 256).beq (span.last / 256)

-- The part of a page that a span within it reaches.
def decompositionsIn (span : Span) : DecompositionPage :=
  (decompositionPage span.first).filter fun entry =>
    (span.first % 256).ble entry.1 && entry.1.ble (span.last % 256)

theorem lookup_filter {entries : DecompositionPage} {key : Nat} (keep : Nat → Bool)
    (kept : keep key = true) :
    (entries.filter fun entry => keep entry.1).lookup key = entries.lookup key := by
  induction entries with
  | nil => rfl
  | cons entry entries ih =>
    obtain ⟨found, parts⟩ := entry
    rw [List.filter_cons]
    by_cases here : key = found
    · subst here
      simp [kept]
    · have other : (key == found) = false := beq_eq_false_iff_ne.mpr here
      split
      · rw [List.lookup_cons, List.lookup_cons, other, ih]
      · rw [List.lookup_cons, other, ih]

theorem lookup_decompositionsIn {span : Span} {code : Nat} (within : onePage span = true)
    (member : span.contains code = true) :
    (decompositionsIn span).lookup (code % 256) = listedDecomposition? code := by
  obtain ⟨⟨least, most⟩, _⟩ := Span.contains_iff.mp member
  have page : span.first / 256 = span.last / 256 := Nat.eq_of_beq_eq_true within
  have here : code / 256 = span.first / 256 := by omega
  have inside : ((span.first % 256).ble (code % 256) && (code % 256).ble (span.last % 256)) =
      true := by
    rw [Bool.and_eq_true, Nat.ble_eq, Nat.ble_eq]
    omega
  rw [listedDecomposition_eq, decompositionPage, here]
  exact lookup_filter (fun key => (span.first % 256).ble key && key.ble (span.last % 256)) inside

-- A page is searched once for a shift within it.
def Shift.decomposesAlike (shift : Shift) : Bool :=
  bif onePage shift.toSpan && onePage shift.images then
    shift.moves.all fun pair => unevenLetters.contains pair.1 ||
      Unicode.decomposesAlike pair.2 ((decompositionsIn shift.toSpan).lookup (pair.1 % 256))
        ((decompositionsIn shift.images).lookup (pair.2 % 256))
  else
    shift.moves.all fun pair => unevenLetters.contains pair.1 ||
      Unicode.decomposesAlike pair.2 (listedDecomposition? pair.1) (listedDecomposition? pair.2)

theorem lowercaseShifts_decompose : lowercaseShifts.all (·.decomposesAlike) = true := by
  decide +kernel

theorem Shift.decomposesAlike_image {shift : Shift} {code image : Nat}
    (alike : shift.decomposesAlike = true) (moves : shift.image? code = some image)
    (even : code ∉ unevenLetters) :
    Unicode.decomposesAlike image (listedDecomposition? code) (listedDecomposition? image) =
      true := by
  have known : unevenLetters.contains code = false := by simpa using even
  have member := Shift.contains_of_image moves
  unfold Shift.decomposesAlike at alike
  cases within : onePage shift.toSpan && onePage shift.images with
  | true =>
    rw [within, cond_true] at alike
    obtain ⟨here, there⟩ := Bool.and_eq_true_iff.mp within
    have pair := List.all_eq_true.mp alike (code, image) (Shift.mem_moves moves)
    rwa [known, Bool.false_or, lookup_decompositionsIn here member,
      lookup_decompositionsIn there (Shift.images_contains moves)] at pair
  | false =>
    rw [within, cond_false] at alike
    have pair := List.all_eq_true.mp alike (code, image) (Shift.mem_moves moves)
    rwa [known, Bool.false_or] at pair

theorem listedDecomposition_ascii {code : Nat} (ascii : code < 0x80) :
    listedDecomposition? code = none := by
  have beyond : (decompositionPage 0).all (Nat.ble 0x80 ·.1) = true := by decide
  rw [listedDecomposition_eq, decompositionPage, Nat.div_eq_of_lt (by omega),
    Nat.mod_eq_of_lt (by omega), List.lookup_eq_none_iff]
  intro entry listed
  have least := Nat.le_of_ble_eq_true (List.all_eq_true.mp beyond entry listed)
  exact bne_iff_ne.mpr (by omega)

theorem decomposeChar_eq {c : Char} (other : hangulLetters? c.toNat = none) :
    decomposeChar c = ((listedDecomposition? c.toNat).getD [c.toNat]).map Char.ofNat := by
  unfold decomposeChar
  split
  · next ascii =>
    rw [listedDecomposition_ascii ascii]
    simp
  · rw [other, Option.none_or]
    cases listedDecomposition? c.toNat with
    | none => simp
    | some codes => rfl

theorem Lowers.no_hangul {c : Char} (lowers : Lowers c) :
    hangulLetters? c.toNat = none ∧ hangulLetters? (lowered c).toNat = none := by
  have syllables : (⟨0xABE3, 0xFE2F, 1⟩ : Span) ∈ caselessGaps := by decide
  obtain ⟨here, there⟩ := lowers.outside syllables
  simp only at here there
  unfold hangulLetters?
  constructor
  · rw [if_neg]
    simp only [Bool.and_eq_true, decide_eq_true_eq]
    omega
  · rw [if_neg]
    simp only [Bool.and_eq_true, decide_eq_true_eq]
    omega

theorem Lowers.decompose {c : Char} (lowers : Lowers c) (even : c.toNat ∉ unevenLetters) :
    decomposeChar (lowered c) = (decomposeChar c).map lowered ∧
      ∀ part ∈ decomposeChar c, part.toNat ∉ unevenLetters := by
  obtain ⟨shift, listed, moves⟩ := id lowers
  -- The table of shifts was checked entry by entry, letters with an uneven decomposition apart.
  have alike := Shift.decomposesAlike_image
    (List.all_eq_true.mp lowercaseShifts_decompose shift listed) moves even
  rw [decomposeChar_eq lowers.no_hangul.1, decomposeChar_eq lowers.no_hangul.2]
  cases parts : listedDecomposition? c.toNat with
  | none =>
    rw [parts, decomposesAlike] at alike
    rw [Option.isNone_iff_eq_none.mp alike]
    simpa [Char.ofNat_toNat] using even
  | some codes =>
    rw [parts] at alike
    simp only [decomposesAlike, Bool.and_eq_true, beq_iff_eq] at alike
    obtain ⟨same, each⟩ := alike
    have valid : ∀ code ∈ codes, (Char.ofNat code).toNat = code ∧ code ∉ unevenLetters := by
      intro code member
      have fits := List.all_eq_true.mp each code member
      simp only [Bool.and_eq_true, Nat.blt_eq, Bool.not_eq_true', List.contains_eq_mem,
        decide_eq_false_iff_not] at fits
      exact ⟨toNat_ofNat_of_valid (Or.inl fits.1), fits.2⟩
    rw [same, Option.getD_some, List.map_map, List.map_map]
    constructor
    · refine List.map_congr_left fun code member => ?_
      rw [Function.comp, Function.comp, lowered, (valid code member).1, lowerPart_eq]
    · intro part member
      obtain ⟨code, inside, rfl⟩ := List.mem_map.mp member
      rw [(valid code inside).1]
      exact (valid code inside).2

end RouteTable.Unicode
