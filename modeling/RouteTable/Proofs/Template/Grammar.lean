import RouteTable.Proofs.Regex.Compile
import RouteTable.Proofs.Template.Scan

namespace RouteTable.Template

open Regex

def BracketFree (text : Text) : Prop := ∀ c ∈ text, c ∉ ['\x7b', '\x7d', '(', ')']

-- A letter or an underscore, then letters, digits and underscores.
def IsName : Text → Prop
  | [] => False
  | first :: rest =>
    (first.isAlpha = true ∨ first = '_') ∧ ∀ c ∈ rest, c.isAlphanum = true ∨ c = '_'

-- Braces come in pairs, where a backslash takes the character behind it as it is and so cannot
-- stand at the end.
inductive Balanced : Text → Prop
  | nil : Balanced []
  | char {c : Char} {rest : Text} (ordinary : c ∉ ['\\', '\x7b', '\x7d'])
    (later : Balanced rest) : Balanced (c :: rest)
  | escaped {c : Char} {rest : Text} (later : Balanced rest) : Balanced ('\\' :: c :: rest)
  | braces {inner rest : Text} (inside : Balanced inner) (later : Balanced rest) :
    Balanced ('\x7b' :: (inner ++ '\x7d' :: rest))

-- A hole in its braces. The default requirement need not be written.
inductive Braced (placeholder : Placeholder) : Text → Prop
  | explicit :
    Braced placeholder
      ('\x7b' :: (placeholder.name ++ ':' :: (placeholder.requirement ++ ['\x7d'])))
  | implicit (default : placeholder.requirement = defaultRequirement) :
    Braced placeholder ('\x7b' :: (placeholder.name ++ ['\x7d']))

theorem Braced.of_same {placeholder other : Placeholder} {text : Text}
    (braced : Braced placeholder text) (name : other.name = placeholder.name)
    (requirement : other.requirement = placeholder.requirement) : Braced other text := by
  cases braced with
  | explicit =>
    rw [← name, ← requirement]
    exact .explicit
  | implicit default =>
    rw [← name]
    exact .implicit (requirement.trans default)

theorem Braced.opening {placeholder : Placeholder} {text : Text} (braced : Braced placeholder text) :
    ∃ inner, text = '\x7b' :: inner := by
  cases braced with
  | explicit => exact ⟨_, rfl⟩
  | implicit => exact ⟨_, rfl⟩

inductive Written (placeholder : Placeholder) : Text → Prop
  | required {text : Text} (required : placeholder.optional = false)
    (braced : Braced placeholder text) : Written placeholder text
  | optional {text : Text} (optional : placeholder.optional = true)
    (braced : Braced placeholder text) :
    Written placeholder ('(' :: (text ++ (placeholder.trailing ++ [')'])))

-- The ways to write segments.
inductive Renders : List Segment → Text → Prop
  | nil : Renders [] []
  | literal {text later : Text} {rest : List Segment} (onward : Renders rest later) :
    Renders (.literal text :: rest) (text ++ later)
  | hole {placeholder : Placeholder} {text later : Text} {rest : List Segment}
    (written : Written placeholder text) (onward : Renders rest later) :
    Renders (.hole placeholder :: rest) (text ++ later)

def markers (template : Template) : List Nat := template.numbered.filterMap Sum.getRight?

structure SoundHole (placeholder : Placeholder) : Prop where
  named : IsName placeholder.name
  alone : placeholder.optional = false → placeholder.trailing = []
  trailing : BracketFree placeholder.trailing
  checked : Requirement.check placeholder.name placeholder.requirement = .ok ()
  balanced : Balanced placeholder.requirement

structure WellFormed (template : Template) : Prop where
  literals : ∀ text, .literal text ∈ template.segments → text ≠ [] ∧ BracketFree text
  apart : ∀ earlier first second later,
    template.segments ≠ earlier ++ .literal first :: .literal second :: later
  markers : template.markers = List.range template.placeholders.length
  distinct : (template.placeholders.map (·.name)).Nodup
  holes : ∀ placeholder ∈ template.placeholders, SoundHole placeholder

-- A text that closes so many braces of those that are open around it.
inductive Closes : Nat → Text → Prop
  | balanced {text : Text} (balanced : Balanced text) : Closes 0 text
  | brace {depth : Nat} {text later : Text} (balanced : Balanced text)
    (onward : Closes depth later) : Closes (depth + 1) (text ++ '\x7d' :: later)

theorem Closes.prepend {depth : Nat} {text : Text} (front : Text)
    (before : ∀ text, Balanced text → Balanced (front ++ text)) (closes : Closes depth text) :
    Closes depth (front ++ text) := by
  cases closes with
  | balanced balanced => exact .balanced (before _ balanced)
  | brace balanced onward =>
    rw [← List.append_assoc]
    exact .brace (before _ balanced) onward

-- The next brace that is closed pairs with one that is opened in front.
theorem Closes.braces {depth : Nat} {text : Text} (closes : Closes (depth + 1) text) :
    Closes depth ('\x7b' :: text) := by
  cases closes with
  | @brace _ inner later balanced onward =>
    have joined : Closes depth (('\x7b' :: (inner ++ ['\x7d'])) ++ later) := by
      apply onward.prepend
      intro text after
      have whole := Balanced.braces balanced after
      simpa using whole
    simpa using joined

theorem closes_of_readRequirement {depth : Nat} {escaped : Bool} {s requirement rest : Text}
    (read : readRequirement depth escaped s = some (requirement, rest)) :
    s = requirement ++ '\x7d' :: rest ∧ ∃ front text, requirement = front ++ text ∧
      front.length = escaped.toNat ∧ Closes depth text := by
  induction s generalizing depth escaped requirement with
  | nil => cases read
  | cons c s ih =>
    unfold readRequirement at read
    simp only at read
    split at read
    · next active =>
      obtain ⟨⟨taken, rest⟩, later, same⟩ := Option.map_eq_some_iff.mp read
      cases same
      obtain ⟨rfl, front, text, rfl, none, closes⟩ := ih later
      obtain rfl : front = [] := List.length_eq_zero_iff.mp none
      exact ⟨rfl, [c], text, rfl, by rw [active]; rfl, closes⟩
    · next inactive =>
      obtain rfl : escaped = false := by simpa using inactive
      split at read
      case h_3 =>
        cases read
        exact ⟨rfl, [], [], rfl, rfl, .balanced .nil⟩
      all_goals
        obtain ⟨⟨taken, rest⟩, later, same⟩ := Option.map_eq_some_iff.mp read
        cases same
        obtain ⟨rfl, front, text, rfl, length, closes⟩ := ih later
        refine ⟨rfl, [], _, rfl, rfl, ?_⟩
      case h_1 =>
        obtain ⟨taken, rfl⟩ := List.length_eq_one_iff.mp length
        exact closes.prepend ['\\', taken] fun _ balanced => .escaped balanced
      all_goals obtain rfl : front = [] := List.length_eq_zero_iff.mp length
      case h_2 => exact closes.braces
      case h_4 => exact .brace .nil closes
      case h_5 backslash opening closing =>
        have ordinary : c ∉ ['\\', '\x7b', '\x7d'] := by
          cases depth <;> simp_all
        exact closes.prepend [c] fun _ balanced => .char ordinary balanced

theorem readRequirement_append {text : Text} (balanced : Balanced text) (depth : Nat)
    (later : Text) : readRequirement depth false (text ++ later) =
      (readRequirement depth false later).map fun (requirement, rest) =>
        (text ++ requirement, rest) := by
  induction balanced generalizing depth later with
  | nil => simp
  | @char c rest ordinary _ ih =>
    simp only [List.mem_cons, List.not_mem_nil, or_false, not_or] at ordinary
    obtain ⟨backslash, opening, closing⟩ := ordinary
    have step : readRequirement depth false (c :: (rest ++ later)) =
        (readRequirement depth false (rest ++ later)).map fun (requirement, rest) =>
          (c :: requirement, rest) := by
      conv => lhs; unfold readRequirement
      simp only [Bool.false_eq_true, if_false]
      split
      case h_5 => rfl
      all_goals contradiction
    rw [List.cons_append, step, ih, Option.map_map]
    rfl
  | @escaped c rest _ ih =>
    have step : readRequirement depth false ('\\' :: c :: (rest ++ later)) =
        (readRequirement depth false (rest ++ later)).map fun (requirement, rest) =>
          ('\\' :: c :: requirement, rest) := by
      simp [readRequirement, Option.map_map, Function.comp_def]
    rw [List.cons_append, List.cons_append, step, ih, Option.map_map]
    rfl
  | @braces inner rest _ _ ihInner ihRest =>
    -- The text inside is read one level deeper, up to its own closing brace.
    have opened (tail : Text) : readRequirement depth false ('\x7b' :: tail) =
        (readRequirement (depth + 1) false tail).map fun (requirement, rest) =>
          ('\x7b' :: requirement, rest) := by
      simp [readRequirement]
    have closed (tail : Text) : readRequirement (depth + 1) false ('\x7d' :: tail) =
        (readRequirement depth false tail).map fun (requirement, rest) =>
          ('\x7d' :: requirement, rest) := by
      simp [readRequirement]
    have whole : '\x7b' :: (inner ++ '\x7d' :: rest) ++ later =
        '\x7b' :: (inner ++ '\x7d' :: (rest ++ later)) := by simp
    rw [whole, opened, ihInner, closed, ihRest, Option.map_map, Option.map_map, Option.map_map]
    refine congrArg (Option.map · _) (funext fun pair => ?_)
    simp

theorem readRequirement_iff {s requirement rest : Text} :
    readRequirement 0 false s = some (requirement, rest) ↔
      Balanced requirement ∧ s = requirement ++ '\x7d' :: rest := by
  constructor
  · intro read
    obtain ⟨whole, front, text, rfl, none, closes⟩ := closes_of_readRequirement read
    obtain rfl : front = [] := List.length_eq_zero_iff.mp none
    cases closes with
    | balanced balanced => exact ⟨balanced, whole⟩
  · rintro ⟨balanced, rfl⟩
    rw [readRequirement_append balanced]
    simp [readRequirement]

theorem balanced_default : Balanced defaultRequirement := by
  have read : readRequirement 0 false (defaultRequirement ++ ['\x7d']) =
      some (defaultRequirement, []) := by decide
  exact (readRequirement_iff.mp read).1

theorem isNameChar_iff {c : Char} : isNameChar c = true ↔ c.isAlphanum = true ∨ c = '_' := by
  rw [isNameChar, Bool.or_eq_true, beq_iff_eq]

theorem not_isDigit_of_isAlpha {c : Char} (letter : c.isAlpha = true) : c.isDigit = false := by
  cases digit : c.isDigit with
  | false => rfl
  | true =>
    have range := Unicode.isDigit_iff.mp digit
    rcases Bool.or_eq_true_iff.mp letter with upper | lower
    · have := Unicode.isUpper_iff.mp upper
      omega
    · have := Unicode.isLower_iff.mp lower
      omega

theorem isName_iff {name : Text} :
    IsName name ↔ name.isEmpty = false ∧ name.head?.any Char.isDigit = false ∧
      ∀ c ∈ name, isNameChar c = true := by
  cases name with
  | nil => simp [IsName]
  | cons first rest =>
    have begins : (first.isAlpha = true ∨ first = '_') ↔
        first.isDigit = false ∧ isNameChar first = true := by
      rw [isNameChar_iff]
      constructor
      · intro start
        rcases start with letter | rfl
        · exact ⟨not_isDigit_of_isAlpha letter, Or.inl (Bool.or_eq_true_iff.mpr (Or.inl letter))⟩
        · exact ⟨by decide, Or.inr rfl⟩
      · intro start
        obtain ⟨plain, alphanumeric | underscore⟩ := start
        · rcases Bool.or_eq_true_iff.mp alphanumeric with letter | digit
          · exact Or.inl letter
          · rw [plain] at digit
            cases digit
        · exact Or.inr underscore
    simp only [IsName, begins, List.isEmpty_cons, List.head?_cons, Option.any_some,
      List.forall_mem_cons, ← isNameChar_iff, true_and, and_assoc]

theorem takeWhile_name {name : Text} {c : Char} (named : IsName name)
    (ends : isNameChar c = false) (rest : Text) :
    (name ++ c :: rest).takeWhile isNameChar = name ∧
      (name ++ c :: rest).dropWhile isNameChar = c :: rest := by
  have chars := (isName_iff.mp named).2.2
  constructor
  · rw [List.takeWhile_append_of_pos chars]
    simp [ends]
  · rw [List.dropWhile_append_of_pos chars]
    simp [ends]

theorem valid_default :
    (Regex.ofText? false (Requirement.wholeValue defaultRequirement)).isSome = true := by
  have value := ReadsAs.units.repeatedGroup (c := '+') rfl
  have reads := ((ReadsAs.caret.append value nofun).append .dollar nofun).whole
  change Regex.Ast.ofText? (Requirement.wholeValue defaultRequirement) = _ at reads
  have inside : ({} : Flags).apply {} = {} := rfl
  have units : ofSet ({} : Flags).alphabet (.table slugSpans) =
      .char .unicode (.table slugSpans) := ofSet_slugSpans
  unfold Regex.ofText?
  rw [reads]
  simp [Ast.ofParts, Ast.meaning?, Ast.branches?, set_unitClass_plain, units, inside]
  decide

theorem check_default (name : Text) : Requirement.check name defaultRequirement = .ok () := by
  have stable : Requirement.endsWithQuantifier defaultRequirement = false := by decide
  have valid : (Regex.ofText? false (Requirement.wholeValue defaultRequirement)).isNone = false := by
    rw [← Option.not_isSome, valid_default]
    rfl
  unfold Requirement.check
  rw [stable, valid]
  rfl

theorem readHole_iff {s name requirement rest : Text} :
    readHole s = .ok (name, requirement, rest) ↔
      IsName name ∧ Requirement.check name requirement = .ok () ∧ Balanced requirement ∧
        ∃ text, Braced { name, requirement } text ∧ '\x7b' :: s = text ++ rest := by
  -- Every way the reader succeeds is one form of a hole, and every form is read that way.
  constructor
  · intro read
    have taken : name = s.takeWhile isNameChar ∧ name.isEmpty = false ∧
        name.head?.any Char.isDigit = false := taken_of_readHole read
    obtain ⟨same, nonempty, letter⟩ := taken
    have chars : ∀ c ∈ name, isNameChar c = true := by
      intro c member
      rw [same] at member
      exact List.all_eq_true.mp List.all_takeWhile c member
    have named := isName_iff.mpr ⟨nonempty, letter, chars⟩
    have whole : name ++ s.dropWhile isNameChar = s := by
      rw [same]
      exact List.takeWhile_append_dropWhile
    unfold readHole at read
    simp only [← same, nonempty, letter, Bool.false_eq_true, if_false] at read
    split at read
    · next ending =>
      cases read
      rw [ending] at whole
      exact ⟨named, check_default _, balanced_default, _, .implicit rfl, by simp [← whole]⟩
    · next colon =>
      split at read
      · cases read
      · next inner =>
        split at read
        · cases read
        · next checked =>
          cases read
          obtain ⟨balanced, rfl⟩ := readRequirement_iff.mp inner
          rw [colon] at whole
          exact ⟨named, checked, balanced, _, .explicit, by simp [← whole]⟩
    · cases read
  · rintro ⟨named, checked, balanced, text, braced, whole⟩
    obtain ⟨nonempty, letter, _⟩ := isName_iff.mp named
    cases braced with
    | explicit =>
      obtain rfl : s = name ++ ':' :: (requirement ++ '\x7d' :: rest) := by
        simpa using (List.cons.inj whole).2
      obtain ⟨taken, dropped⟩ := takeWhile_name (c := ':') named (by decide)
        (requirement ++ '\x7d' :: rest)
      have inner := readRequirement_iff.mpr ⟨balanced, Eq.refl (requirement ++ '\x7d' :: rest)⟩
      unfold readHole
      simp only [taken, dropped, nonempty, letter, Bool.false_eq_true, if_false, inner, checked]
    | implicit default =>
      obtain rfl : s = name ++ '\x7d' :: rest := by
        simpa using (List.cons.inj whole).2
      obtain rfl : requirement = defaultRequirement := default
      obtain ⟨taken, dropped⟩ := takeWhile_name (c := '\x7d') named (by decide) rest
      unfold readHole
      simp only [taken, dropped, nonempty, letter, Bool.false_eq_true, if_false]

theorem readTrailing_iff {s text rest : Text} :
    readTrailing s = .ok (text, rest) ↔ BracketFree text ∧ s = text ++ ')' :: rest := by
  constructor
  · intro read
    induction s generalizing text with
    | nil => cases read
    | cons c s ih =>
      unfold readTrailing at read
      split at read
      · next closing =>
        cases read
        exact ⟨List.forall_mem_nil _, by rw [closing]; rfl⟩
      · next closing =>
        split at read
        · cases read
        · next opening =>
          split at read
          · cases read
          · next unbalanced =>
            split at read
            · cases read
            · next later =>
              cases read
              obtain ⟨free, rfl⟩ := ih later
              refine ⟨List.forall_mem_cons.mpr ⟨?_, free⟩, rfl⟩
              simp_all
  · rintro ⟨free, rfl⟩
    induction text with
    | nil => simp [readTrailing]
    | cons c text ih =>
      obtain ⟨plain, others⟩ := List.forall_mem_cons.mp free
      simp only [List.mem_cons, List.not_mem_nil, or_false, not_or] at plain
      obtain ⟨opening, closing, group, final⟩ := plain
      simp [readTrailing, opening, closing, group, final, ih others]

theorem written_of_readHole {s name requirement later : Text}
    (read : readHole s = .ok (name, requirement, later)) :
    ∃ text, SoundHole { name, requirement } ∧ Written { name, requirement } text ∧
      '\x7b' :: s = text ++ later := by
  obtain ⟨named, checked, balanced, text, braced, whole⟩ := readHole_iff.mp read
  have sound : SoundHole { name, requirement } :=
    ⟨named, fun _ => rfl, List.forall_mem_nil _, checked, balanced⟩
  exact ⟨text, sound, .required rfl braced, whole⟩

theorem written_of_readTrailing {s name requirement after trailing later : Text}
    (read : readHole s = .ok (name, requirement, after))
    (closed : readTrailing after = .ok (trailing, later)) :
    ∃ text, SoundHole { name, requirement, optional := true, trailing } ∧
      Written { name, requirement, optional := true, trailing } text ∧
      '(' :: '\x7b' :: s = text ++ later := by
  obtain ⟨named, checked, balanced, text, braced, whole⟩ := readHole_iff.mp read
  obtain ⟨free, rfl⟩ := readTrailing_iff.mp closed
  have sound : SoundHole { name, requirement, optional := true, trailing } :=
    ⟨named, fun required => absurd required.symm Bool.false_ne_true, free, checked, balanced⟩
  exact ⟨_, sound, .optional rfl (braced.of_same rfl rfl), by simp [whole]⟩

-- Segments that are written one after another, where these names are taken already.
inductive Formed : List Text → List Segment → Prop
  | nil {taken : List Text} : Formed taken []
  | literal {taken : List Text} {text : Text} {rest : List Segment} (nonempty : text ≠ [])
    (free : BracketFree text) (apart : ∀ other later, rest ≠ .literal other :: later)
    (onward : Formed taken rest) : Formed taken (.literal text :: rest)
  | hole {taken : List Text} {placeholder : Placeholder} {rest : List Segment}
    (sound : SoundHole placeholder) (fresh : placeholder.name ∉ taken)
    (onward : Formed (placeholder.name :: taken) rest) : Formed taken (.hole placeholder :: rest)

theorem formed_flush {taken : List Text} {literal : Text} {segments : List Segment}
    (free : BracketFree literal) (apart : ∀ other later, segments ≠ .literal other :: later)
    (formed : Formed taken segments) : Formed taken (flush literal segments) := by
  unfold flush
  split
  · exact formed
  · next nonempty => exact .literal (by simpa using nonempty) free apart formed

theorem renders_flush {literal later : Text} {segments : List Segment}
    (renders : Renders segments later) : Renders (flush literal segments) (literal ++ later) := by
  unfold flush
  split
  · next empty =>
    obtain rfl := List.isEmpty_iff.mp empty
    exact renders
  · exact .literal renders

theorem hole_ne_literal {placeholder : Placeholder} {text : Text} {rest later : List Segment} :
    .hole placeholder :: rest ≠ .literal text :: later := by
  intro same
  cases same

theorem formed_of_scan {names : List Text} {literal s : Text} {segments : List Segment}
    (scanned : scan names literal s = .ok segments) (free : BracketFree literal.reverse) :
    Formed names segments ∧ Renders segments (literal.reverse ++ s) := by
  fun_induction scan names literal s generalizing segments with
  | case1 =>
    cases scanned
    exact ⟨formed_flush free (fun _ _ => (List.cons_ne_nil _ _).symm) .nil, renders_flush .nil⟩
  | case5 names literal rest name requirement later read unused inner scannedInner ih =>
    cases scanned
    obtain ⟨formed, renders⟩ := ih scannedInner (List.forall_mem_nil _)
    obtain ⟨text, sound, written, whole⟩ := written_of_readHole read
    have hole : Formed names (.hole { name, requirement } :: inner) :=
      .hole sound (by simpa using unused) formed
    refine ⟨formed_flush free (fun _ _ => hole_ne_literal) hole, ?_⟩
    rw [whole]
    exact renders_flush (.hole written renders)
  | case10 names literal start name requirement after read trailing later closed unused inner
      scannedInner different ih =>
    cases scanned
    obtain ⟨formed, renders⟩ := ih scannedInner (List.forall_mem_nil _)
    obtain ⟨text, sound, written, whole⟩ := written_of_readTrailing read closed
    have hole : Formed names (.hole { name, requirement, optional := true, trailing } :: inner) :=
      .hole sound (by simpa using unused) formed
    refine ⟨formed_flush free (fun _ _ => hole_ne_literal) hole, ?_⟩
    rw [whole]
    exact renders_flush (.hole written renders)
  | case13 names literal c rest opening group closing ih =>
    have plain : BracketFree (c :: literal).reverse := by
      intro other member
      rcases List.mem_append.mp (List.reverse_cons ▸ member) with earlier | last
      · exact free other earlier
      · obtain rfl := List.mem_singleton.mp last
        simp_all
    simpa using ih scanned plain
  | case2 | case3 | case4 | case6 | case7 | case8 | case9 | case11 | case12 => cases scanned

theorem scan_literal {text : Text} (free : BracketFree text) (names : List Text)
    (literal later : Text) :
    scan names literal (text ++ later) = scan names (text.reverse ++ literal) later := by
  induction text generalizing literal with
  | nil => rfl
  | cons c text ih =>
    obtain ⟨plain, others⟩ := List.forall_mem_cons.mp free
    simp only [List.mem_cons, List.not_mem_nil, or_false, not_or] at plain
    obtain ⟨opening, closing, group, final⟩ := plain
    have step : scan names literal (c :: (text ++ later)) =
        scan names (c :: literal) (text ++ later) := by
      rw [scan.eq_def]
      simp [opening, closing, group, final]
    rw [List.cons_append, step, ih others]
    simp

-- Behind the text of a hole, with the literal text in front of it.
def resume (names : List Text) (literal : Text) (placeholder : Placeholder) (later : Text) :
    Except TemplateFault (List Segment) :=
  if placeholder.name ∈ names then .error (.repeatedPlaceholder placeholder.name)
  else (scan (placeholder.name :: names) [] later).map fun segments =>
    flush literal.reverse (.hole placeholder :: segments)

theorem scan_braced (names : List Text) (literal inner : Text) :
    scan names literal ('\x7b' :: inner) = (readHole inner).bind fun hole =>
      resume names literal { name := hole.1, requirement := hole.2.1 } hole.2.2 := by
  rw [scan.eq_def]
  simp only [if_true]
  split
  · next fault read =>
    rw [read]
    rfl
  · next name requirement later read =>
    rw [read]
    simp only [Except.bind, resume, List.contains_iff_mem]
    split
    · rfl
    · cases scan (name :: names) [] later <;> rfl

theorem scan_grouped (names : List Text) (literal inner : Text) :
    scan names literal ('(' :: '\x7b' :: inner) = (readHole inner).bind fun hole =>
      (readTrailing hole.2.2).bind fun group => resume names literal
        { name := hole.1, requirement := hole.2.1, optional := true, trailing := group.1 }
        group.2 := by
  rw [scan.eq_def]
  simp only [show '(' ≠ '\x7b' from by decide, if_true, if_false]
  split
  · next fault read =>
    rw [read]
    rfl
  · next name requirement after read =>
    rw [read]
    simp only [Except.bind]
    split
    · next fault closed =>
      rw [closed]
    · next trailing later closed =>
      rw [closed]
      simp only [resume, List.contains_iff_mem]
      split
      · rfl
      · cases scan (name :: names) [] later <;> rfl

theorem scan_hole {placeholder : Placeholder} {text : Text} (sound : SoundHole placeholder)
    (written : Written placeholder text) (names : List Text) (literal later : Text) :
    scan names literal (text ++ later) = resume names literal placeholder later := by
  obtain ⟨name, requirement, optional, trailing⟩ := placeholder
  cases written with
  | required required braced =>
    obtain rfl : optional = false := required
    obtain rfl : trailing = [] := sound.alone rfl
    obtain ⟨inner, rfl⟩ := braced.opening
    have read : readHole (inner ++ later) = .ok (name, requirement, later) :=
      readHole_iff.mpr ⟨sound.named, sound.checked, sound.balanced, _, braced, rfl⟩
    rw [List.cons_append, scan_braced, read]
    rfl
  | @optional text grouped braced =>
    obtain rfl : optional = true := grouped
    obtain ⟨inner, rfl⟩ := braced.opening
    have read : readHole (inner ++ (trailing ++ ')' :: later)) =
        .ok (name, requirement, trailing ++ ')' :: later) :=
      readHole_iff.mpr
        ⟨sound.named, sound.checked, sound.balanced, _, braced.of_same rfl rfl, rfl⟩
    have closed : readTrailing (trailing ++ ')' :: later) = .ok (trailing, later) :=
      readTrailing_iff.mpr ⟨sound.trailing, rfl⟩
    have whole : '(' :: ('\x7b' :: inner ++ (trailing ++ [')'])) ++ later =
        '(' :: '\x7b' :: (inner ++ (trailing ++ ')' :: later)) := by simp
    rw [whole, scan_grouped, read]
    simp only [Except.bind, closed]

theorem scan_of_formed {taken : List Text} {segments : List Segment} {s : Text}
    (formed : Formed taken segments) (renders : Renders segments s) (literal : Text)
    (apart : literal ≠ [] → ∀ other later, segments ≠ .literal other :: later) :
    scan taken literal s = .ok (flush literal.reverse segments) := by
  induction formed generalizing literal s with
  | nil =>
    cases renders
    rw [scan.eq_def]
  | @literal taken text rest nonempty free lone _ ih =>
    obtain rfl : literal = [] := by
      by_cases empty : literal = []
      · exact empty
      · exact absurd rfl (apart empty text rest)
    cases renders with
    | literal onward =>
      rw [scan_literal free, List.append_nil, ih onward text.reverse fun _ => lone]
      simp [flush, nonempty]
  | hole sound fresh _ ih =>
    cases renders with
    | hole written onward =>
      rw [scan_hole sound written, resume, if_neg fresh, ih onward [] (absurd rfl)]
      rfl

theorem markers_eq (template : Template) :
    template.markers = List.range template.placeholders.length := by
  suffices numbered : ∀ (segments : List Segment) (count : Nat),
      (numbered.go count segments).filterMap Sum.getRight? =
        List.range' count (segments.filterMap Segment.placeholder?).length by
    rw [List.range_eq_range']
    exact numbered template.segments 0
  intro segments
  induction segments with
  | nil => intro count; rfl
  | cons segment rest ih =>
    intro count
    cases segment with
    | literal text => exact ih count
    | hole placeholder => exact congrArg (count :: ·) (ih (count + 1))

theorem Formed.literals {taken : List Text} {segments : List Segment}
    (formed : Formed taken segments) :
    ∀ text, .literal text ∈ segments → text ≠ [] ∧ BracketFree text := by
  induction formed with
  | nil => nofun
  | literal nonempty free _ _ ih =>
    intro text member
    rcases List.mem_cons.mp member with same | later
    · cases same
      exact ⟨nonempty, free⟩
    · exact ih text later
  | hole _ _ _ ih =>
    intro text member
    rcases List.mem_cons.mp member with same | later
    · cases same
    · exact ih text later

theorem Formed.apart {taken : List Text} {segments : List Segment}
    (formed : Formed taken segments) (earlier : List Segment) (first second : Text)
    (later : List Segment) : segments ≠ earlier ++ .literal first :: .literal second :: later := by
  induction formed generalizing earlier with
  | nil => simp
  | literal _ _ lone _ ih =>
    intro same
    cases earlier with
    | nil =>
      cases same
      exact lone _ _ rfl
    | cons head earlier => exact ih earlier (List.cons.inj same).2
  | hole _ _ _ ih =>
    intro same
    cases earlier with
    | nil => cases same
    | cons head earlier => exact ih earlier (List.cons.inj same).2

theorem Formed.holes {taken : List Text} {segments : List Segment}
    (formed : Formed taken segments) :
    ∀ placeholder ∈ segments.filterMap Segment.placeholder?, SoundHole placeholder := by
  induction formed with
  | nil => nofun
  | literal _ _ _ _ ih => exact ih
  | hole sound _ _ ih =>
    intro other member
    rcases List.mem_cons.mp member with rfl | later
    · exact sound
    · exact ih other later

theorem formed_of_wellFormed {taken : List Text} {segments : List Segment}
    (literals : ∀ text, .literal text ∈ segments → text ≠ [] ∧ BracketFree text)
    (apart : ∀ earlier first second later,
      segments ≠ earlier ++ .literal first :: .literal second :: later)
    (distinct : (holeNames segments).Nodup) (fresh : ∀ name ∈ holeNames segments, name ∉ taken)
    (holes : ∀ placeholder ∈ segments.filterMap Segment.placeholder?, SoundHole placeholder) :
    Formed taken segments := by
  induction segments generalizing taken with
  | nil => exact .nil
  | cons segment rest ih =>
    have literalsRest := fun text member => literals text (List.mem_cons_of_mem segment member)
    have apartRest := fun earlier first second later same =>
      apart (segment :: earlier) first second later (congrArg (segment :: ·) same)
    cases segment with
    | literal text =>
      obtain ⟨nonempty, free⟩ := literals text List.mem_cons_self
      have lone : ∀ other later, rest ≠ .literal other :: later := by
        rintro other later rfl
        exact apart [] text other later rfl
      exact .literal nonempty free lone (ih literalsRest apartRest distinct fresh holes)
    | hole placeholder =>
      obtain ⟨absent, distinctRest⟩ := List.nodup_cons.mp distinct
      have freshRest : ∀ name ∈ holeNames rest, name ∉ placeholder.name :: taken := by
        intro name member listed
        rcases List.mem_cons.mp listed with rfl | earlier
        · exact absent member
        · exact fresh name (List.mem_cons_of_mem _ member) earlier
      exact .hole (holes placeholder List.mem_cons_self) (fresh _ List.mem_cons_self)
        (ih literalsRest apartRest distinctRest freshRest
          fun other member => holes other (List.mem_cons_of_mem _ member))

-- A text is read as a template exactly when the template is well formed and the text is a way to
-- write its segments.
theorem read_eq_ok_iff (text : Text) (template : Template) :
    Template.read text = .ok template ↔
      WellFormed template ∧ Renders template.segments text ∧ template.text = text := by
  constructor
  · intro read
    obtain ⟨same, scanned⟩ := scan_of_read read
    obtain ⟨formed, renders⟩ := formed_of_scan scanned nofun
    refine ⟨⟨formed.literals, formed.apart, markers_eq template, ?_, formed.holes⟩, renders, same⟩
    exact (scanned_of_scan scanned).nodup
  · rintro ⟨wellFormed, renders, rfl⟩
    have formed : Formed [] template.segments :=
      formed_of_wellFormed wellFormed.literals wellFormed.apart wellFormed.distinct nofun
        wellFormed.holes
    have scanned := scan_of_formed formed renders [] (absurd rfl)
    unfold Template.read
    rw [scanned]
    rfl

end RouteTable.Template
