import RouteTable.Proofs.Regex.Units

namespace RouteTable.Regex

-- A part that offers one alternative, which holds together.
structure Denotes (part : Ast) (r : Regex) : Prop where
  offered : part.branches? insensitive = some ([r], insensitive)
  atom : r.isAtom = true

theorem denotes_literal (c : Char) :
    Denotes (.literal ⟨c, false⟩) (ofVariants .unicode c) where
  offered := rfl
  atom := isAtom_ofVariants c

theorem denotes_caret : Denotes (.assertion .caret) (.look .textStart) := ⟨rfl, rfl⟩

theorem denotes_dollar : Denotes (.assertion .dollar) (.look .textEnd) := ⟨rfl, rfl⟩

theorem denotes_units : Denotes (.class unitClass) (.char .unicode unitSet) where
  offered := by
    simp only [Ast.branches?, set_unitClass]
    exact congrArg (fun r => some ([r], insensitive)) ofSet_unitSet
  atom := rfl

theorem atoms_of_denotes {pairs : List (Ast × Regex)}
    (each : ∀ pair ∈ pairs, Denotes pair.1 pair.2) :
    ∀ a ∈ pairs.map Prod.snd, a.isAtom = true := by
  intro a member
  obtain ⟨pair, listed, rfl⟩ := List.mem_map.mp member
  exact (each pair listed).atom

theorem ofParts_reverse (parts : List Ast) (last : Ast) :
    Ast.ofParts (parts ++ [last]).reverse = parts.foldr .concat last := by
  simp [Ast.ofParts, List.foldl_reverse]

theorem branches_ofParts {pairs : List (Ast × Regex)}
    (each : ∀ pair ∈ pairs, Denotes pair.1 pair.2) :
    (Ast.ofParts (pairs.map Prod.fst).reverse).branches? insensitive =
      some ([sequence (pairs.map Prod.snd)], insensitive) := by
  rcases List.eq_nil_or_concat pairs with rfl | ⟨init, last, rfl⟩
  · rfl
  rw [List.concat_eq_append] at each ⊢
  rw [List.map_append, List.map_singleton, ofParts_reverse]
  induction init with
  | nil =>
    have final := each last (by simp)
    change last.1.branches? insensitive = some ([last.2.append empty], insensitive)
    rw [append_empty final.atom]
    exact final.offered
  | cons first init ih =>
    have head := each first (by simp)
    have rest := ih fun pair member => each pair (by simp_all)
    have atoms : ∀ a ∈ (init ++ [last]).map Prod.snd, a.isAtom = true :=
      atoms_of_denotes fun pair listed => each pair (List.mem_cons_of_mem first listed)
    have lone : alternation [first.2] = first.2 := by
      apply alternation_single
      simpa [append_empty head.atom] using branches_append (b := empty) head.atom
    change Ast.branches? insensitive (.concat first.1 _) = _
    simp only [Ast.branches?, head.offered, rest, Option.bind_eq_bind, Option.bind_some, lone,
      alternation_single (branches_sequence atoms)]
    rfl

-- A piece of pattern text that defines these names and stands for these atoms in a row.
def Compiles (piece : Text) (names : List Text) (atoms : List Regex) : Prop :=
  ∃ pairs : List (Ast × Regex), ReadsAs piece names (pairs.map Prod.fst) ∧
    (∀ pair ∈ pairs, Denotes pair.1 pair.2) ∧ pairs.map Prod.snd = atoms

namespace Compiles

variable {piece piece' : Text} {names names' : List Text} {atoms atoms' : List Regex}

theorem nil : Compiles [] [] [] := ⟨[], .nil, nofun, rfl⟩

theorem single {part : Ast} {r : Regex} (reads : ReadsAs piece names [part])
    (denotes : Denotes part r) : Compiles piece names [r] :=
  ⟨[(part, r)], reads, by simpa using denotes, rfl⟩

theorem append (first : Compiles piece names atoms) (later : Compiles piece' names' atoms')
    (apart : ∀ name ∈ names, name ∉ names') :
    Compiles (piece ++ piece') (names ++ names') (atoms ++ atoms') := by
  obtain ⟨pairs, reads, each, rfl⟩ := first
  obtain ⟨pairs', reads', each', rfl⟩ := later
  refine ⟨pairs ++ pairs', ?_, ?_, List.map_append⟩
  · rw [List.map_append]
    exact reads.append reads' apart
  · intro pair member
    exact (List.mem_append.mp member).elim (each pair) (each' pair)

theorem atom (compiles : Compiles piece names atoms) : ∀ a ∈ atoms, a.isAtom = true := by
  obtain ⟨pairs, _, each, rfl⟩ := compiles
  exact atoms_of_denotes each

theorem escaped (text : Text) : Compiles (escape text) [] (text.map (ofVariants .unicode)) := by
  refine ⟨text.map fun c => (.literal ⟨c, false⟩, ofVariants .unicode c), ?_, ?_, ?_⟩
  · rw [List.map_map]
    exact ReadsAs.escaped text
  · intro pair member
    obtain ⟨c, _, rfl⟩ := List.mem_map.mp member
    exact denotes_literal c
  · simp

theorem caret : Compiles ['^'] [] [.look .textStart] := single .caret denotes_caret

theorem dollar : Compiles ['$'] [] [.look .textEnd] := single .dollar denotes_dollar

theorem units : Compiles defaultRequirement [] [.char .unicode unitSet] :=
  single .units denotes_units

theorem optionalSlash : Compiles "/?".toList [] [.repeated 0 (some 1) true (.literal '/' [])] := by
  refine single .optionalSlash ⟨?_, rfl⟩
  have alone : ∀ c ∈ Unicode.caseVariants '/', decide (c = '/') = true := by
    intro c variant
    rw [decide_eq_true_eq, ← foldCase_eq_slash, Unicode.mem_caseVariants.mp variant, foldCase_slash]
  have slash : ofVariants .unicode '/' = .literal '/' [] := if_pos (List.all_eq_true.mpr alone)
  simp only [Ast.branches?, Ast.letter?]
  change some ([(alternation [ofVariants .unicode '/']).between 0 (some 1) true], insensitive) = _
  rw [slash]
  rfl

theorem repeated {c : Char} {low : Nat} {high : Option Nat}
    (compiles : Compiles piece names atoms) (allowed : Reader.quantifier c = some (low, high))
    (substantial : (sequence atoms).matchesOnlyEmpty = false) :
    Compiles ("(?:".toList ++ piece ++ [')', c]) names
      [.repeated low high true (sequence atoms)] := by
  have atom := compiles.atom
  obtain ⟨pairs, reads, each, rfl⟩ := compiles
  refine single (reads.repeatedGroup allowed) ⟨?_, rfl⟩
  have bounds : (sequence (pairs.map Prod.snd)).between low high true =
      .repeated low high true (sequence (pairs.map Prod.snd)) := by
    simp only [between, substantial, Bool.false_eq_true, if_false]
    unfold Reader.quantifier at allowed
    split at allowed <;> cases allowed <;> rfl
  have inside : insensitive.apply {} = insensitive := rfl
  simp only [Ast.branches?, inside, branches_ofParts each, Option.bind_eq_bind, Option.bind_some,
    Option.pure_def, alternation_single (branches_sequence atom), ← bounds]
  rfl

theorem captured {name : Text} (valid : Reader.IsGroupName name)
    (compiles : Compiles piece names atoms) (fresh : name ∉ names) :
    Compiles ("(?P<".toList ++ name ++ ">".toList ++ piece ++ ")".toList) (name :: names)
      [.group (some name) (sequence atoms)] := by
  have atom := compiles.atom
  obtain ⟨pairs, reads, each, rfl⟩ := compiles
  refine single (reads.captured valid fresh) ⟨?_, rfl⟩
  simp only [Ast.branches?, branches_ofParts each, Option.bind_eq_bind, Option.bind_some,
    alternation_single (branches_sequence atom)]
  rfl

theorem meaning (compiles : Compiles piece names atoms) :
    (Ast.ofText? piece).bind (·.meaning? insensitive) = some (sequence atoms) := by
  have atom := compiles.atom
  obtain ⟨pairs, reads, each, rfl⟩ := compiles
  rw [reads.whole, Option.bind_some, Ast.meaning?, branches_ofParts each]
  exact congrArg some (alternation_single (branches_sequence atom))

theorem ofText? (compiles : Compiles piece names atoms) :
    Regex.ofText? true piece =
      if sizeLimit < (sequence atoms).size then none else some (sequence atoms) := by
  change ((Ast.ofText? piece).bind fun ast => (ast.meaning? insensitive).bind fun regex =>
    if sizeLimit < regex.size then none else some regex) = _
  rw [← Option.bind_assoc, compiles.meaning, Option.bind_some]

theorem eq_sequence {r : Regex} (compiles : Compiles piece names atoms)
    (read : Regex.ofText? true piece = some r) : r = sequence atoms := by
  rw [compiles.ofText?] at read
  split at read
  · cases read
  · exact (Option.some.inj read).symm

end Compiles

end RouteTable.Regex
