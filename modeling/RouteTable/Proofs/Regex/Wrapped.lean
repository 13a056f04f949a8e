import RouteTable.Proofs.Regex.Capture
import RouteTable.Proofs.Regex.Compile
import RouteTable.Proofs.Regex.NormalForm
import RouteTable.Proofs.Regex.Search
import RouteTable.Template.Requirement

namespace RouteTable.Regex

open Reader

variable {requirement : Text} {inner : List Text} {ast : Ast} {unit validator : Regex}
  {p q : Place} {marks : List Mark} {caseInsensitive : Bool} {low : Nat}

theorem stands_of_wholeValue {whole : Ast} (valid : Ast.ofText? requirement = some ast)
    (read : Ast.ofText? (Requirement.wholeValue requirement) = some whole) :
    ∃ inner, Stands requirement inner ast := by
  have spelled : Requirement.wholeValue requirement =
      '^' :: ("(?:".toList ++ (requirement ++ ')' :: "+$".toList)) := by
    simp [Requirement.wholeValue]
  rw [spelled] at read
  have start : Reader.read {} ('^' :: ("(?:".toList ++ (requirement ++ ')' :: "+$".toList))) = _ :=
    read_caret rfl
  have inside := start.symm.trans read
  rw [read_group rfl] at inside
  exact Stands.of_grouped rfl valid (by decide) inside

def unitsOf (unit : Regex) (low : Nat) : Regex := alternation [unit.between low none true]

theorem branches_units (ast : Ast) (low : Nat) :
    (Ast.repetition (.group {} ast) low none true).branches? { caseInsensitive } =
      (ast.meaning? { caseInsensitive }).map fun unit =>
        ([unit.between low none true], { caseInsensitive }) := by
  have inside : Flags.apply { caseInsensitive } {} = { caseInsensitive } := rfl
  simp only [Ast.branches?, inside, Ast.meaning?]
  cases found : ast.branches? { caseInsensitive } with
  | none => rfl
  | some offered =>
    have again : alternation [alternation offered.1] = alternation offered.1 :=
      alternation_again (Tidy.offered found)
    change some ([(alternation [alternation offered.1]).between low none true], _) = _
    rw [again]
    rfl

theorem unitsOf_of_substantial (some_ : unit.matchesOnlyEmpty = false) :
    unitsOf unit low = .repeated low none true unit := by
  have unbounded : unit.between low none true = .repeated low none true unit := by
    simp [Regex.between, some_]
  rw [unitsOf, unbounded]
  exact alternation_single rfl

-- A unit without a place for a character is not repeated.
theorem unitsOf_of_matchesOnlyEmpty (meant : ast.meaning? { caseInsensitive } = some unit)
    (only : unit.matchesOnlyEmpty = true) :
    unitsOf unit 0 = .repeated 0 (some 1) true unit ∧ unitsOf unit 1 = unit := by
  simp only [unitsOf, Regex.between, only]
  exact ⟨alternation_single rfl, alternation_meaning meant⟩

theorem rounds_of_units (few : low ≤ 1) (meant : ast.meaning? { caseInsensitive } = some unit)
    (passed : (unitsOf unit low).passage p marks q) :
    ∃ count, low ≤ count ∧ unit.passage.rounds count p marks q := by
  cases only : unit.matchesOnlyEmpty with
  | false =>
    rw [unitsOf_of_substantial only] at passed
    obtain ⟨count, least, _, rounds⟩ := passed
    exact ⟨count, least, rounds⟩
  | true =>
    obtain ⟨optional, required⟩ := unitsOf_of_matchesOnlyEmpty meant only
    rcases Nat.le_one_iff_eq_zero_or_eq_one.mp few with rfl | rfl
    · rw [optional] at passed
      obtain ⟨count, least, _, rounds⟩ := passed
      exact ⟨count, least, rounds⟩
    · rw [required] at passed
      refine ⟨1, Nat.le_refl _, ?_⟩
      rw [Passage.rounds, Passage.rounds, Passage.andThen_stay]
      exact passed

theorem units_of_rounds (meant : ast.meaning? { caseInsensitive } = some unit) {count : Nat}
    (least : 1 ≤ count) (rounds : unit.passage.rounds count p marks q) :
    ∃ marks, (unitsOf unit 1).passage p marks q := by
  cases only : unit.matchesOnlyEmpty with
  | false =>
    rw [unitsOf_of_substantial only]
    exact ⟨marks, count, least, nofun, rounds⟩
  | true =>
    rw [(unitsOf_of_matchesOnlyEmpty meant only).2]
    have each : ∀ p marks q, unit.passage p marks q → q = p :=
      fun _ _ _ passed => stays_of_matchesOnlyEmpty only passed
    obtain rfl : q = p := rounds_induction (fun _ => rfl)
      (fun _ _ _ _ _ first later => later.trans first) each rounds
    obtain ⟨count, rfl⟩ := Nat.exists_eq_add_of_le' least
    obtain ⟨middle, left, _, first, _, _⟩ := rounds
    obtain rfl := each _ _ _ first
    exact ⟨left, first⟩

theorem branches_concat (a b : Ast) (flags : Flags) :
    (Ast.concat a b).branches? flags =
      (a.branches? flags).bind fun first => (b.branches? first.2).map fun later =>
        ([(alternation first.1).append (alternation later.1)], later.2) := by
  simp only [Ast.branches?]
  cases a.branches? flags with
  | none => rfl
  | some first =>
    change (b.branches? first.2).bind _ = (b.branches? first.2).map _
    cases b.branches? first.2 <;> rfl

def wholeUnits (unit : Regex) : Regex :=
  (look .textStart).append ((unitsOf unit 1).append (look .textEnd))

theorem passage_wholeUnits (unit : Regex) : (wholeUnits unit).passage =
    (Passage.checked .textStart).andThen
      ((unitsOf unit 1).passage.andThen (.checked .textEnd)) := by
  rw [wholeUnits, passage_append, passage_append]
  rfl

theorem wholeUnits_of_stands (stands : Stands requirement inner ast)
    (read : Regex.ofText? caseInsensitive (Requirement.wholeValue requirement) = some validator) :
    ∃ unit, ast.meaning? { caseInsensitive } = some unit ∧ validator = wholeUnits unit ∧
      validator.size ≤ sizeLimit := by
  have units : Continues ("(?:".toList ++ requirement ++ ")+".toList) inner _ :=
    Continues.repeated (c := '+') stands.groups rfl
  have pieces := ((Continues.of_reads .caret).append units).append (.of_reads .dollar)
  have spelled : Requirement.wholeValue requirement =
      ['^'] ++ ("(?:".toList ++ requirement ++ ")+".toList) ++ ['$'] := by
    simp [Requirement.wholeValue]
  unfold Regex.ofText? at read
  obtain ⟨whole, parsed, read⟩ := Option.bind_eq_some_iff.mp read
  rw [spelled] at parsed
  obtain ⟨_, rfl⟩ := pieces.whole.mp parsed
  -- The meaning of the whole fails exactly where that of the requirement does.
  have offered : (Ast.concat (.assertion .caret) (.concat
      (.repetition (.group {} ast) 1 none true) (.assertion .dollar))).branches?
        { caseInsensitive } = (ast.meaning? { caseInsensitive }).map fun unit =>
          ([(alternation [.look .textStart]).append
            (alternation [(unitsOf unit 1).append (alternation [.look .textEnd])])],
            { caseInsensitive }) := by
    have start : (Ast.assertion .caret).branches? { caseInsensitive } =
        some ([.look .textStart], { caseInsensitive }) := rfl
    rw [branches_concat, start, Option.bind_some, branches_concat, branches_units]
    cases ast.meaning? { caseInsensitive } <;> rfl
  obtain ⟨meaning, meant, read⟩ := Option.bind_eq_some_iff.mp read
  obtain ⟨_, found, same⟩ := Option.bind_eq_some_iff.mp meant
  obtain ⟨unit, given, rfl⟩ := Option.map_eq_some_iff.mp (offered.symm.trans found)
  refine ⟨unit, given, ?_⟩
  split at read
  · cases read
  · next fits =>
    cases read
    cases same
    have ending : Solid ((unitsOf unit 1).append (alternation [.look .textEnd])) :=
      (Solid.look .textEnd).append
    rw [ending.alternation, (Solid.append ending).alternation] at fits ⊢
    exact ⟨rfl, Nat.le_of_not_lt fits⟩

theorem size_le_wholeUnits (meant : ast.meaning? { caseInsensitive } = some unit) :
    unit.size ≤ (wholeUnits unit).size := by
  have repeated : unit.size ≤ (unitsOf unit 1).size ∧ (unitsOf unit 1).Tidy := by
    cases only : unit.matchesOnlyEmpty with
    | false =>
      rw [unitsOf_of_substantial only]
      exact ⟨by simp [size], trivial⟩
    | true =>
      rw [(unitsOf_of_matchesOnlyEmpty meant only).2]
      exact ⟨Nat.le_refl _, Tidy.meaning meant⟩
  have ended := (repeated.2.size_le_append (Solid.look .textEnd).2).1
  have started : Tidy (look .textStart) := trivial
  exact Nat.le_trans (Nat.le_trans repeated.1 ended)
    (started.size_le_append (Solid.look .textEnd).append.2).2

theorem own_of_wholeValue (valid : Ast.ofText? requirement = some ast)
    (read : Regex.ofText? caseInsensitive (Requirement.wholeValue requirement) = some validator) :
    ∃ inner unit, Stands requirement inner ast ∧
      ast.meaning? { caseInsensitive } = some unit ∧
      Regex.ofText? caseInsensitive requirement = some unit ∧ validator = wholeUnits unit := by
  obtain ⟨whole, parsed, _⟩ := Option.bind_eq_some_iff.mp read
  obtain ⟨inner, stands⟩ := stands_of_wholeValue valid parsed
  obtain ⟨unit, meant, rfl, fits⟩ := wholeUnits_of_stands stands read
  refine ⟨inner, unit, stands, meant, ?_, rfl⟩
  have small : ¬sizeLimit < unit.size :=
    Nat.not_lt.mpr (Nat.le_trans (size_le_wholeUnits meant) fits)
  simp [Regex.ofText?, valid, meant, small]

theorem isMatch_wholeUnits (meant : ast.meaning? { caseInsensitive } = some unit) {value : Text} :
    (wholeUnits unit).isMatch value = true ↔
      ∃ count marks q, 1 ≤ count ∧ q.rest = [] ∧
        unit.passage.rounds count ⟨[], value⟩ marks q := by
  rw [isMatch_anchored (passage_wholeUnits unit)]
  constructor
  · rintro ⟨marks, q, ended, passed⟩
    obtain ⟨count, least, rounds⟩ := rounds_of_units (Nat.le_refl 1) meant passed
    exact ⟨count, marks, q, least, ended, rounds⟩
  · rintro ⟨count, marks, q, least, ended, rounds⟩
    obtain ⟨marks, passed⟩ := units_of_rounds meant least rounds
    exact ⟨marks, q, ended, passed⟩

-- Where nothing looks around, it is put together from texts that the requirement takes alone.
theorem isMatch_iff_pieces (meant : ast.meaning? { caseInsensitive } = some unit)
    (anywhere : unit.passage.Anywhere) {value : Text} :
    (wholeUnits unit).isMatch value = true ↔
      ∃ pieces : List Text, pieces ≠ [] ∧ value = pieces.flatten ∧
        ∀ piece ∈ pieces, unit.passage.Takes piece := by
  rw [isMatch_wholeUnits meant]
  constructor
  · rintro ⟨count, marks, q, least, ended, rounds⟩
    obtain ⟨piece, moves, _⟩ := anywhere.rounds count _ _ _ rounds
    obtain rfl : value = piece := by simpa [ended] using moves.1
    have taken := ((anywhere.rounds count).takes_iff moves).mpr ⟨marks, rounds⟩
    obtain ⟨pieces, rfl, joined, each⟩ := anywhere.takes_rounds.mp taken
    exact ⟨pieces, List.ne_nil_of_length_pos least, joined, each⟩
  · rintro ⟨pieces, some_, joined, each⟩
    obtain ⟨marks, rounds⟩ := anywhere.takes_rounds.mpr ⟨pieces, rfl, joined, each⟩
    exact ⟨pieces.length, marks, _, List.length_pos_iff.mpr some_, rfl, rounds⟩

theorem uses_of_meaning {look : Look → Prop} {group : Text → Regex → Prop}
    {assertion : AssertionAst → Prop} {name : Text → Prop} (uses : ast.Uses assertion name)
    (looks : ∀ kind flags, assertion kind → look (AssertionAst.look flags kind))
    (groups : ∀ key body, name key → group key body)
    (meant : ast.meaning? { caseInsensitive } = some unit) : unit.Uses look group := by
  obtain ⟨⟨offered, flags⟩, found, same⟩ := Option.bind_eq_some_iff.mp meant
  cases same
  exact (Uses.kept look group).alternation (uses.branches? looks groups found)

theorem Uses.unitsOf {look : Look → Prop} {group : Text → Regex → Prop}
    (uses : unit.Uses look group) (low : Nat) : (unitsOf unit low).Uses look group := by
  have kept := Uses.kept look group
  exact kept.alternation (List.forall_mem_singleton.mpr (kept.between _ _ _ uses))

-- A piece with these names that becomes these atoms in a row wherever it stands.
def Becomes (piece : Text) (names : List Text) (atoms : List Regex) : Prop :=
  ∃ pairs : List (Ast × Regex), Continues piece names (pairs.map Prod.fst) ∧
    (∀ pair ∈ pairs, Denotes pair.1 pair.2) ∧ pairs.map Prod.snd = atoms

theorem between_zero_one (r : Regex) : r.between 0 (some 1) true = .repeated 0 (some 1) true r := by
  unfold Regex.between
  cases r.matchesOnlyEmpty <;> rfl

namespace Becomes

variable {piece piece' : Text} {names names' : List Text} {atoms atoms' : List Regex}

theorem of_compiles (compiles : Compiles piece [] atoms) : Becomes piece [] atoms := by
  obtain ⟨pairs, reads, each, rfl⟩ := compiles
  exact ⟨pairs, .of_reads reads, each, rfl⟩

theorem append (first : Becomes piece names atoms) (later : Becomes piece' names' atoms') :
    Becomes (piece ++ piece') (names ++ names') (atoms ++ atoms') := by
  obtain ⟨pairs, onward, each, rfl⟩ := first
  obtain ⟨pairs', onward', each', rfl⟩ := later
  refine ⟨pairs ++ pairs', ?_, ?_, List.map_append⟩
  · rw [List.map_append]
    exact onward.append onward'
  · intro pair member
    exact (List.mem_append.mp member).elim (each pair) (each' pair)

theorem leftOut (inside : Becomes piece names atoms) :
    Becomes ("(?:".toList ++ piece ++ ")?".toList) names
      [.repeated 0 (some 1) true (sequence atoms)] := by
  obtain ⟨pairs, onward, each, rfl⟩ := inside
  refine ⟨[(.repetition (.group {} (.ofParts (pairs.map Prod.fst).reverse)) 0 (some 1) true, _)],
    .repeated (c := '?') onward.groups rfl, List.forall_mem_singleton.mpr ⟨?_, rfl⟩, rfl⟩
  have inside : insensitive.apply {} = insensitive := rfl
  simp only [Ast.branches?, inside, branches_ofParts each, Option.bind_eq_bind, Option.bind_some,
    Option.pure_def, alternation_single (branches_sequence (atoms_of_denotes each))]
  rw [← between_zero_one]
  rfl

theorem value {name : Text} {c : Char} (valid : IsGroupName name)
    (stands : Stands requirement inner ast) (meant : ast.meaning? insensitive = some unit)
    (allowed : quantifier c = some (low, none)) :
    Becomes ("(?P<".toList ++ name ++ ">(?:".toList ++ requirement ++ [')', c, ')'])
      (name :: inner) [.group (some name) (unitsOf unit low)] := by
  have onward : Continues _ _ [.capture (some name) (.repetition (.group {} ast) low none true)] :=
    (Continues.repeated stands.groups allowed).captured valid
  refine ⟨[(.capture (some name) (.repetition (.group {} ast) low none true), _)],
    by simpa using onward, List.forall_mem_singleton.mpr ⟨?_, rfl⟩, rfl⟩
  have units : (Ast.repetition (.group {} ast) low none true).branches? insensitive =
      (ast.meaning? insensitive).map fun unit => ([unit.between low none true], insensitive) :=
    branches_units ast low
  rw [meant] at units
  rw [Ast.branches?, units]
  rfl

-- A pattern is the sequence of what its pieces became, and is one if their names are distinct.
theorem meaning (becomes : Becomes piece names atoms) {r : Regex} :
    (Ast.ofText? piece).bind (·.meaning? insensitive) = some r ↔
      names.Nodup ∧ sequence atoms = r := by
  obtain ⟨pairs, onward, each, rfl⟩ := becomes
  have meant : (Ast.ofParts (pairs.map Prod.fst).reverse).meaning? insensitive =
      some (sequence (pairs.map Prod.snd)) := by
    rw [Ast.meaning?, branches_ofParts each]
    exact congrArg some (alternation_single (branches_sequence (atoms_of_denotes each)))
  rw [Option.bind_eq_some_iff]
  simp only [onward.whole, and_assoc, exists_and_left, exists_eq_left', meant, Option.some.injEq]

theorem ofText (becomes : Becomes piece names atoms) {r : Regex} :
    Regex.ofText? true piece = some r ↔
      names.Nodup ∧ sequence atoms = r ∧ r.size ≤ sizeLimit := by
  change ((Ast.ofText? piece).bind fun ast => (ast.meaning? insensitive).bind fun regex =>
    if sizeLimit < regex.size then none else some regex) = some r ↔ _
  rw [← Option.bind_assoc, Option.bind_eq_some_iff]
  simp only [becomes.meaning]
  constructor
  · rintro ⟨_, ⟨distinct, rfl⟩, fits⟩
    split at fits
    · cases fits
    · next small =>
      cases fits
      exact ⟨distinct, rfl, Nat.le_of_not_lt small⟩
  · rintro ⟨distinct, rfl, fits⟩
    exact ⟨_, ⟨distinct, rfl⟩, if_neg (Nat.not_lt.mpr fits)⟩

end Becomes

end RouteTable.Regex
