import RouteTable.Proofs.Regex.ClassReader
import RouteTable.Regex.Reader

namespace RouteTable.Regex

variable {reader inner : Reader} {rest : Text}

namespace Reader

theorem read_plain {c : Char} (counting : reader.free = false) (plain : isMeta c = false) :
    reader.read (c :: rest) = (reader.push (.literal ⟨c, false⟩)).read rest := by
  rw [Reader.read, counting, next_cons]
  simp only
  -- Every character with a case of its own has a meaning.
  split
  case h_13 => rfl
  all_goals exact absurd plain (by decide)

theorem readEscape_meta {c : Char} (special : isMeta c = true) (rest : Text) :
    ∃ later : Rest (c :: rest), readEscape false (c :: rest) = some (.literal ⟨c, false⟩, later) ∧
      later.1 = rest := by
  have simple : simpleEscape? c = some (.literal ⟨c, false⟩) := by
    unfold simpleEscape?
    split
    case h_18 => simp [isPlainEscape, special]
    all_goals exact absurd special (by decide)
  unfold readEscape
  simp only
  split
  case h_7 => exact ⟨_, by rw [simple]; rfl, rfl⟩
  all_goals exact absurd special (by decide)

theorem read_escaped {c : Char} (counting : reader.free = false) (special : isMeta c = true) :
    reader.read ('\\' :: c :: rest) = (reader.push (.literal ⟨c, false⟩)).read rest := by
  obtain ⟨later, escaped, left⟩ := readEscape_meta special rest
  rw [Reader.read, counting, next_cons]
  simp only [escaped, left, Atom.toAst]

theorem read_open {opening : Opening} {later : Rest rest} (counting : reader.free = false)
    (opened : readOpening false rest = some (opening, later))
    (entered : reader.open? opening = some inner) :
    reader.read ('(' :: rest) = inner.read later.1 := by
  rw [Reader.read, counting, next_cons]
  simp only [opened, entered]

theorem read_close (counting : reader.free = false) (closed : reader.close? = some inner) :
    reader.read (')' :: rest) = inner.read rest := by
  rw [Reader.read, counting, next_cons]
  simp only [closed]

theorem read_caret (counting : reader.free = false) :
    reader.read ('^' :: rest) = (reader.push (.assertion .caret)).read rest := by
  rw [Reader.read, counting, next_cons]
  rfl

theorem read_dollar (counting : reader.free = false) :
    reader.read ('$' :: rest) = (reader.push (.assertion .dollar)).read rest := by
  rw [Reader.read, counting, next_cons]
  rfl

theorem read_nil (counting : reader.free = false) (closed : reader.groups = []) :
    reader.read [] = some reader.body := by
  rw [Reader.read, counting]
  simp only [next?, skip]
  rw [closed]
  rfl

def quantifier : Char → Option (Nat × Option Nat)
  | '?' => some (0, some 1)
  | '*' => some (0, none)
  | '+' => some (1, none)
  | _ => none

theorem read_quantifier {c : Char} {low : Nat} {high : Option Nat}
    (counting : reader.free = false) (quantified : quantifier c = some (low, high))
    (greedy : rest.head? ≠ some '?') (repeated : reader.repeat? low high true = some inner) :
    reader.read (c :: rest) = inner.read rest := by
  rw [Reader.read, counting, next_cons]
  unfold quantifier at quantified
  split at quantified
  case h_4 => cases quantified
  all_goals
    cases quantified
    simp only [repeated]
    split
    · simp at greedy
    · rfl

theorem read_units (counting : reader.free = false) :
    reader.read (defaultRequirement ++ rest) = (reader.push (.class unitClass)).read rest := by
  have units := readClass_units rest
  change reader.read ('[' :: ("a-z0-9\\-._]".toList ++ rest)) = _
  rw [Reader.read, counting, next_cons]
  cases read : readClass false ("a-z0-9\\-._]".toList ++ rest) with
  | none =>
    rw [read] at units
    cases units
  | some pair =>
    rw [read] at units
    obtain ⟨set, later⟩ := pair
    simp only [plainly, Option.map_some, Option.some.injEq, Prod.mk.injEq] at units
    obtain ⟨rfl, left⟩ := units
    simp only [read, left]

theorem readOpening_group (rest : Text) : ∃ later : Rest ('?' :: ':' :: rest),
    readOpening false ('?' :: ':' :: rest) = some (.group {}, later) ∧ later.1 = rest :=
  ⟨_, rfl, rfl⟩

-- Names that end where their bracket does.
def IsGroupName (name : Text) : Prop :=
  name.head?.any isNameStart = true ∧ name.all isNameChar = true ∧ '>' ∉ name

theorem readName_named {name : Text} (valid : IsGroupName name) (rest : Text) :
    ∃ later : Rest (name ++ '>' :: rest),
      readName (name ++ '>' :: rest) = some (.capture (some name), later) ∧ later.1 = rest := by
  obtain ⟨start, chars, closing⟩ := valid
  have inside : ∀ c ∈ name, (c != '>') = true := by
    intro c member
    simp only [bne_iff_ne]
    rintro rfl
    exact closing member
  have taken : (name ++ '>' :: rest).takeWhile (· != '>') = name := by
    rw [List.takeWhile_append_of_pos inside]
    simp
  have dropped : (name ++ '>' :: rest).dropWhile (· != '>') = '>' :: rest := by
    rw [List.dropWhile_append_of_pos inside]
    simp
  unfold readName
  simp only [taken]
  split
  · next missing =>
    rw [dropped] at missing
    cases missing
  · next found =>
    rw [dropped] at found
    cases found
    rw [if_pos (by rw [start, chars]; rfl)]
    exact ⟨_, rfl, rfl⟩

theorem readOpening_capture {name : Text} (valid : IsGroupName name) (rest : Text) :
    ∃ later : Rest ('?' :: 'P' :: '<' :: (name ++ '>' :: rest)),
      readOpening false ('?' :: 'P' :: '<' :: (name ++ '>' :: rest)) =
        some (.capture (some name), later) ∧ later.1 = rest := by
  obtain ⟨later, named, left⟩ := readName_named valid rest
  refine ⟨⟨later.1, ?_⟩, ?_, left⟩
  · have := later.2
    simp only [List.length_cons]
    omega
  · change Option.map _ (readName (name ++ '>' :: rest)) = _
    rw [named]
    rfl

def take (reader : Reader) (names : List Text) (parts : List Ast) : Reader :=
  { reader with parts := parts.reverse ++ reader.parts, names := names.reverse ++ reader.names }

def grouped (reader : Reader) : Reader :=
  { reader with
      parts := [], branches := []
      groups := ⟨.group {}, reader.parts, reader.branches, reader.free⟩ :: reader.groups }

def capturing (reader : Reader) (name : Text) : Reader :=
  { reader with
      parts := [], branches := []
      groups := ⟨.capture (some name), reader.parts, reader.branches, reader.free⟩ :: reader.groups
      names := name :: reader.names }

theorem read_group (counting : reader.free = false) (rest : Text) :
    reader.read ("(?:".toList ++ rest) = reader.grouped.read rest := by
  obtain ⟨later, opened, left⟩ := readOpening_group rest
  have entered : reader.open? (.group {}) = some reader.grouped := rfl
  have step := read_open counting opened entered
  rw [left] at step
  exact step

theorem read_capture {name : Text} (counting : reader.free = false) (valid : IsGroupName name)
    (fresh : name ∉ reader.names) (rest : Text) :
    reader.read ("(?P<".toList ++ name ++ ">".toList ++ rest) = (reader.capturing name).read rest := by
  obtain ⟨later, opened, left⟩ := readOpening_capture valid rest
  have entered : reader.open? (.capture (some name)) = some (reader.capturing name) := by
    have new : reader.names.contains name = false := by simpa using fresh
    simp only [Reader.open?, new]
    rfl
  have whole : "(?P<".toList ++ name ++ ">".toList ++ rest =
      '(' :: '?' :: 'P' :: '<' :: (name ++ '>' :: rest) := by
    simp
  have step := read_open counting opened entered
  rw [left] at step
  rw [whole]
  exact step

theorem read_capture_used {name : Text} (counting : reader.free = false)
    (valid : IsGroupName name) (used : name ∈ reader.names) (rest : Text) :
    reader.read ("(?P<".toList ++ name ++ ">".toList ++ rest) = none := by
  obtain ⟨later, opened, _⟩ := readOpening_capture valid rest
  have refused : reader.open? (.capture (some name)) = none := by
    have known : reader.names.contains name = true := by simpa using used
    simp only [Reader.open?, known]
    rfl
  have whole : "(?P<".toList ++ name ++ ">".toList ++ rest =
      '(' :: '?' :: 'P' :: '<' :: (name ++ '>' :: rest) := by
    simp
  rw [whole, Reader.read, counting, next_cons]
  simp only [opened, refused]

theorem close_grouped (names : List Text) (parts : List Ast) :
    (reader.grouped.take names parts).close? =
      some (reader.take names [.group {} (.ofParts parts.reverse)]) := by
  simp [take, grouped, Reader.close?, Reader.body, Ast.ofBranches]

theorem close_capturing (name : Text) (names : List Text) (parts : List Ast) :
    ((reader.capturing name).take names parts).close? =
      some (reader.take (name :: names) [.capture (some name) (.ofParts parts.reverse)]) := by
  simp [take, capturing, Reader.close?, Reader.body, Ast.ofBranches]

theorem repeat_group {names : List Text} {ast : Ast} (low : Nat) (high : Option Nat) :
    (reader.take names [.group {} ast]).repeat? low high true =
      some (reader.take names [.repetition (.group {} ast) low high true]) := rfl

end Reader

open Reader

structure ReadsAs (piece : Text) (names : List Text) (parts : List Ast) : Prop where
  notLazy : piece.head? ≠ some '?'
  onward : ∀ (reader : Reader) (rest : Text), reader.free = false →
    (∀ name ∈ names, name ∉ reader.names) → rest.head? ≠ some '?' →
      reader.read (piece ++ rest) = (reader.take names parts).read rest

namespace ReadsAs

variable {piece piece' : Text} {names names' : List Text} {parts parts' : List Ast} {part : Ast}

theorem nil : ReadsAs [] [] [] := ⟨nofun, fun _ _ _ _ _ => rfl⟩

theorem append (first : ReadsAs piece names parts) (later : ReadsAs piece' names' parts')
    (apart : ∀ name ∈ names, name ∉ names') :
    ReadsAs (piece ++ piece') (names ++ names') (parts ++ parts') where
  notLazy := by
    cases piece with
    | nil => exact later.notLazy
    | cons c piece => exact first.notLazy
  onward reader rest counting unused greedy := by
    have greedy' : (piece' ++ rest).head? ≠ some '?' := by
      cases piece' with
      | nil => exact greedy
      | cons c piece' => exact later.notLazy
    rw [List.append_assoc, first.onward reader _ counting
      (fun name member => unused name (List.mem_append_left _ member)) greedy',
      later.onward (reader.take names parts) rest counting ?_ greedy]
    · simp only [take, List.reverse_append, List.append_assoc]
    · intro name member
      simp only [take, List.mem_append, List.mem_reverse, not_or]
      exact ⟨fun both => apart name both member, unused name (List.mem_append_right _ member)⟩

theorem escaped (text : Text) :
    ReadsAs (escape text) [] (text.map fun c => .literal ⟨c, false⟩) := by
  induction text with
  | nil => exact nil
  | cons c text ih =>
    have first : ReadsAs (if isMeta c then ['\\', c] else [c]) [] [.literal ⟨c, false⟩] := by
      cases special : isMeta c with
      | true =>
        refine ⟨by simp, ?_⟩
        intro reader rest counting _ _
        exact read_escaped counting special
      | false =>
        refine ⟨?_, ?_⟩
        · simp only [Bool.false_eq_true, if_false, List.head?_cons, ne_eq, Option.some.injEq]
          rintro rfl
          cases special
        · intro reader rest counting _ _
          exact read_plain counting special
    exact first.append ih nofun

theorem repeatedGroup {c : Char} {low : Nat} {high : Option Nat}
    (inside : ReadsAs piece names parts) (allowed : quantifier c = some (low, high)) :
    ReadsAs ("(?:".toList ++ piece ++ [')', c]) names
      [.repetition (.group {} (.ofParts parts.reverse)) low high true] where
  notLazy := by simp
  onward reader rest counting unused greedy := by
    have whole : "(?:".toList ++ piece ++ [')', c] ++ rest =
        "(?:".toList ++ (piece ++ ')' :: c :: rest) := by
      simp
    have closed : (reader.grouped.take names parts).read (')' :: c :: rest) = _ :=
      read_close counting (close_grouped names parts)
    have ending : (reader.take names [.group {} (.ofParts parts.reverse)]).read (c :: rest) = _ :=
      read_quantifier counting allowed greedy (repeat_group low high)
    rw [whole, read_group counting,
      inside.onward reader.grouped (')' :: c :: rest) counting unused (by simp), closed, ending]

theorem captured {name : Text} (valid : IsGroupName name) (inside : ReadsAs piece names parts)
    (fresh : name ∉ names) :
    ReadsAs ("(?P<".toList ++ name ++ ">".toList ++ piece ++ ")".toList) (name :: names)
      [.capture (some name) (.ofParts parts.reverse)] where
  notLazy := by simp
  onward reader rest counting unused greedy := by
    have whole : "(?P<".toList ++ name ++ ">".toList ++ piece ++ ")".toList ++ rest =
        "(?P<".toList ++ name ++ ">".toList ++ (piece ++ ')' :: rest) := by
      simp
    have unused' : ∀ other ∈ names, other ∉ (reader.capturing name).names := by
      intro other member
      simp only [capturing, List.mem_cons, not_or]
      refine ⟨?_, unused other (List.mem_cons_of_mem _ member)⟩
      rintro rfl
      exact fresh member
    have closed : ((reader.capturing name).take names parts).read (')' :: rest) = _ :=
      read_close counting (close_capturing name names parts)
    rw [whole, read_capture counting valid (unused name List.mem_cons_self),
      inside.onward (reader.capturing name) (')' :: rest) counting unused' (by simp), closed]

theorem units : ReadsAs defaultRequirement [] [.class unitClass] where
  notLazy := by decide
  onward _ _ counting _ _ := read_units counting

theorem caret : ReadsAs ['^'] [] [.assertion .caret] where
  notLazy := by decide
  onward _ _ counting _ _ := read_caret counting

theorem dollar : ReadsAs ['$'] [] [.assertion .dollar] where
  notLazy := by decide
  onward _ _ counting _ _ := read_dollar counting

theorem optionalSlash :
    ReadsAs "/?".toList [] [.repetition (.literal ⟨'/', false⟩) 0 (some 1) true] where
  notLazy := by decide
  onward reader rest counting _ greedy := by
    refine Eq.trans (read_plain counting rfl) ?_
    have quantified : (reader.push (.literal ⟨'/', false⟩)).repeat? 0 (some 1) true =
        some (reader.take [] [.repetition (.literal ⟨'/', false⟩) 0 (some 1) true]) := rfl
    exact read_quantifier counting rfl greedy quantified

theorem whole (reads : ReadsAs piece names parts) :
    Ast.ofText? piece = some (.ofParts parts.reverse) := by
  have read := reads.onward {} [] rfl (fun _ _ => List.not_mem_nil) (by simp)
  rw [List.append_nil] at read
  refine read.trans ((read_nil rfl rfl).trans ?_)
  simp [take, Reader.body, Ast.ofBranches]

end ReadsAs

end RouteTable.Regex
