import RouteTable.Proofs.Slug.Runs

namespace RouteTable.Slug

open Unicode (decomposeChar lowered lowerChar Lowers unevenLetters lowercaseShifts)

variable {last : Option Char} {gap : Bool} {s : Text}

def base (part : Char) : Text :=
  Unicode.lowercase (if Unicode.isMark part then [] else spelling part)

theorem spelled_eq (c : Char) : spelled c = (decomposeChar c).flatMap base := by
  have parts (letters : Text) :
      Unicode.lowercase ((letters.filter (!Unicode.isMark ·)).flatMap spelling) =
        letters.flatMap base := by
    induction letters with
    | nil => rfl
    | cons part letters ih =>
      rw [List.flatMap_cons, ← ih, base, Unicode.lowercase, Unicode.lowercase, Unicode.lowercase,
        ← List.flatMap_append, List.filter_cons]
      cases Unicode.isMark part <;> rfl
  rw [spelled, transliterate, List.flatMap_singleton, parts]

def spelledLetters : List Char :=
  ['ß', 'Æ', 'æ', 'Œ', 'œ', 'Ø', 'ø', 'Đ', 'đ', 'Ð', 'ð', 'Ł', 'ł', 'Þ', 'þ']

theorem spelling_of_unlisted {c : Char} (unlisted : c ∉ spelledLetters) : spelling c = [c] := by
  unfold spelling
  split
  case h_16 => rfl
  all_goals exact absurd (by decide) unlisted

theorem spelling_lowered : ∀ c ∈ spelledLetters,
    Unicode.lowercase (spelling (lowered c)) = Unicode.lowercase (spelling c) := by
  have alike : (spelledLetters.all fun c =>
      Unicode.lowercase (spelling (lowered c)) == Unicode.lowercase (spelling c)) = true := by
    decide +kernel
  exact fun c member => eq_of_beq (List.all_eq_true.mp alike c member)

-- No letter but the capital sharp s is left out of the list while its lower case is in it.
theorem spelledLetters_origins : (spelledLetters.all fun letter =>
    (lowercaseShifts.filterMap (·.origin? letter.toNat)).all fun code =>
      unevenLetters.contains code || spelledLetters.contains (Char.ofNat code)) = true := by
  decide +kernel

theorem listed_of_lowered {c : Char} (lowers : Lowers c) (even : c.toNat ∉ unevenLetters)
    (listed : lowered c ∈ spelledLetters) : c ∈ spelledLetters := by
  obtain ⟨shift, member, moves⟩ := lowers
  have origins := List.all_eq_true.mp (List.all_eq_true.mp spelledLetters_origins _ listed) c.toNat
    (List.mem_filterMap.mpr ⟨shift, member, Unicode.Shift.origin_of_image moves⟩)
  rw [Bool.or_eq_true, List.contains_iff_mem, List.contains_iff_mem, Char.ofNat_toNat] at origins
  exact origins.resolve_left even

theorem base_lowered {c : Char} (even : c.toNat ∉ unevenLetters) : base (lowered c) = base c := by
  rcases Unicode.lowered_cases c with still | lowers
  · rw [still]
  · obtain ⟨letter, letter'⟩ := lowers.not_isMark
    have single : c ≠ '\u0130' := by
      rintro rfl
      exact even (by decide)
    rw [base, base, letter, letter']
    by_cases listed : c ∈ spelledLetters
    · exact spelling_lowered c listed
    · have unlisted : lowered c ∉ spelledLetters :=
        fun member => listed (listed_of_lowered lowers even member)
      simp only [Bool.false_eq_true, if_false, spelling_of_unlisted listed,
        spelling_of_unlisted unlisted, Unicode.lowercase, List.flatMap_singleton,
        Unicode.lowerChar_lowered single, Unicode.lowerChar_eq single]

theorem spelled_lowered {c : Char} (even : c.toNat ∉ unevenLetters) :
    spelled (lowered c) = spelled c := by
  rcases Unicode.lowered_cases c with still | lowers
  · rw [still]
  · obtain ⟨parts, each⟩ := lowers.decompose even
    rw [spelled_eq, spelled_eq, parts, List.flatMap_map]
    exact congrArg List.flatten
      (List.map_congr_left fun part member => base_lowered (each part member))

theorem spelled_uneven : spelled 'ẞ' = ['ß'] ∧ spelled 'ß' = ['s', 's'] ∧
    lowerChar 'ẞ' = ['ß'] ∧ spelled '\u0130' = (lowerChar '\u0130').flatMap spelled ∧
    spelled '\u03F9' = ['σ'] ∧ (lowerChar '\u03F9').flatMap spelled = ['ς'] ∧
    spelled 'Σ' = ['σ'] ∧ spelled 'σ' = ['σ'] ∧ spelled 'ς' = ['ς'] := by
  decide +kernel

-- A lunate sigma is another letter in lower case, but neither letter is one of a slug.
theorem kept_lowerChar {c : Char} (other : c ≠ 'ẞ') :
    kept ((lowerChar c).flatMap spelled) = kept (spelled c) := by
  by_cases uneven : c.toNat ∈ unevenLetters
  · simp only [unevenLetters, List.mem_cons, List.not_mem_nil, or_false] at uneven
    obtain ⟨_, _, _, dottedI, capital, small, _⟩ := spelled_uneven
    rcases uneven with dotted | lunate | sharp
    · obtain rfl : c = '\u0130' := Char.toNat_inj.mp dotted
      rw [dottedI]
    · obtain rfl : c = '\u03F9' := Char.toNat_inj.mp lunate
      rw [capital, small]
      decide
    · exact absurd (Char.toNat_inj.mp sharp) other
  · have single : c ≠ '\u0130' := by
      rintro rfl
      exact uneven (by decide)
    rw [Unicode.lowerChar_eq single, List.flatMap_singleton, spelled_lowered uneven]

def smallSharp (c : Char) : Char := if c = 'ẞ' then 'ß' else c

theorem kept_flatMap_toLowercase (value : Text) :
    kept ((Unicode.toLowercase value).flatMap spelled) =
      kept ((value.map smallSharp).flatMap spelled) := by
  have after (before : Text) : kept ((Unicode.lowercaseAfter before value).flatMap spelled) =
      kept ((value.map smallSharp).flatMap spelled) := by
    induction value generalizing before with
    | nil => rfl
    | cons c value ih =>
      have letter : kept ((if c = 'Σ' then
            if Unicode.meetsLetter before && !Unicode.meetsLetter value then ['ς'] else ['σ']
          else lowerChar c).flatMap spelled) = kept (spelled (smallSharp c)) := by
        by_cases sigma : c = 'Σ'
        · subst sigma
          obtain ⟨_, _, _, _, _, _, capital, small, final⟩ := spelled_uneven
          have itself : smallSharp 'Σ' = 'Σ' := if_neg (by decide)
          rw [if_pos rfl, itself, capital]
          split
          · rw [List.flatMap_singleton, final]
            decide
          · rw [List.flatMap_singleton, small]
        · rw [if_neg sigma, smallSharp]
          split
          · next sharp =>
            subst sharp
            rw [spelled_uneven.2.2.1, List.flatMap_singleton]
          · next other => exact kept_lowerChar other
      rw [Unicode.lowercaseAfter, List.flatMap_append, kept_append, letter, ih, List.map_cons,
        List.flatMap_cons, kept_append]
  exact after []

theorem ofText_toLowercase_eq (value : Text) :
    ofText (Unicode.toLowercase value) = ofText (value.map smallSharp) := by
  rw [ofText, ofText, lowercase_transliterate, lowercase_transliterate]
  exact joinAllowed_congr (kept_flatMap_toLowercase value)

theorem countP_joinAllowed : (joinAllowed last gap s).countP (· != '-') =
    s.countP fun c => allowed c && c != '-' := by
  induction s generalizing last gap with
  | nil => rfl
  | cons c s ih =>
    rw [joinAllowed]
    split
    · next fits =>
      have here : (if gap && last.any (· != '-') && c != '-' then ['-', c] else [c]).countP
          (· != '-') = [c].countP (· != '-') := by split <;> simp
      rw [List.countP_append, here, ih, List.countP_cons, List.countP_cons, fits]
      simp [Nat.add_comm]
    · next refused => simp [ih, refused]

theorem countP_smallSharp (value : Text) :
    ((value.map smallSharp).flatMap spelled).countP (fun c => allowed c && c != '-') =
      (value.flatMap spelled).countP (fun c => allowed c && c != '-') + 2 * value.count 'ẞ' := by
  induction value with
  | nil => rfl
  | cons c value ih =>
    rw [List.map_cons, List.flatMap_cons, List.flatMap_cons, List.countP_append,
      List.countP_append, ih, List.count_cons, smallSharp]
    by_cases sharp : c = 'ẞ'
    · subst sharp
      obtain ⟨capital, small, _⟩ := spelled_uneven
      have letters : ['s', 's'].countP (fun c => allowed c && c != '-') = 2 := by decide
      have nothing : ['ß'].countP (fun c => allowed c && c != '-') = 0 := by decide
      simp only [if_true, small, capital, letters, nothing, beq_self_eq_true]
      omega
    · have other : (c == 'ẞ') = false := beq_eq_false_iff_ne.mpr sharp
      rw [if_neg sharp, other]
      simp only [Bool.false_eq_true, if_false]
      omega

-- A text and its lower case have one slug, unless the text has a capital sharp s.
theorem ofText_toLowercase (value : Text) :
    ofText (Unicode.toLowercase value) = ofText (value.map smallSharp) ∧
      (ofText (Unicode.toLowercase value) = ofText value ↔ 'ẞ' ∉ value) := by
  refine ⟨ofText_toLowercase_eq value, ?_, ?_⟩
  · intro same
    have counts := congrArg (List.countP (· != '-')) ((ofText_toLowercase_eq value).symm.trans same)
    rw [ofText, ofText, countP_joinAllowed, countP_joinAllowed, lowercase_transliterate,
      lowercase_transliterate, countP_smallSharp] at counts
    exact List.count_eq_zero.mp (by omega)
  · intro without
    have small : ∀ c ∈ value, smallSharp c = c := by
      intro c member
      exact if_neg fun sharp : c = 'ẞ' => without (sharp ▸ member)
    rw [ofText_toLowercase_eq, List.map_congr_left small, List.map_id']

-- The capital letter alone leaves nothing, the small one `ss`.
theorem ofText_capital_sharp : ofText ['ẞ'] = [] ∧
    ofText (Unicode.toLowercase ['ẞ']) = ['s', 's'] := by
  decide +kernel

end RouteTable.Slug
