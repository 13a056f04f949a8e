import RouteTable.Proofs.Regex.Locality

namespace RouteTable.Regex

namespace Reader

variable {outer inner next final reached : Reader} {s left u : Text}

def within (outer inner : Reader) : Reader where
  parts := inner.parts
  branches := inner.branches
  free := inner.free
  names := inner.names ++ outer.names
  groups := inner.groups ++ outer.groups

-- The names of the piece are none of those in use around it.
def Apart (outer inner : Reader) : Prop := ∀ name ∈ inner.names, name ∉ outer.names

theorem within_iff {result : Option Reader} (names : next.names = inner.names)
    (same : result = some (outer.within next)) (apart : outer.Apart inner) :
    result = some reached ↔ outer.Apart next ∧ outer.within next = reached := by
  rw [same, Apart, names, Option.some.injEq]
  exact (and_iff_right apart).symm

theorem open_within {opening : Opening} (opened : inner.open? opening = some next)
    (apart : outer.Apart inner) : (outer.within inner).open? opening = some reached ↔
      outer.Apart next ∧ outer.within next = reached := by
  unfold Reader.open? at opened
  cases opening with
  | flags | group =>
    cases opened
    exact within_iff rfl rfl apart
  | capture name =>
    cases name with
    | none =>
      cases opened
      exact within_iff rfl rfl apart
    | some name =>
      simp only at opened
      split at opened
      · cases opened
      · next fresh =>
        have names : next.names = name :: inner.names := by
          cases opened
          rfl
        have used : (outer.within inner).names.contains name = true ↔ name ∈ outer.names := by
          rw [List.contains_iff_mem, within, List.mem_append]
          exact or_iff_right fun known => fresh (List.contains_iff_mem.mpr known)
        have new : outer.Apart next ↔ name ∉ outer.names := by
          rw [Apart, names]
          exact List.forall_mem_cons.trans (and_iff_left apart)
        unfold Reader.open?
        simp only [used, new]
        cases opened
        split
        · next known => simp [known]
        · next unknown => simp [unknown, within]

theorem close_within (closed : inner.close? = some next) :
    (outer.within inner).close? = some (outer.within next) := by
  unfold Reader.close? at closed ⊢
  cases open_ : inner.groups with
  | nil =>
    rw [open_] at closed
    cases closed
  | cons innermost groups =>
    rw [open_] at closed
    cases closed
    simp only [within, open_, List.cons_append]
    rfl

theorem names_of_close (closed : inner.close? = some next) : next.names = inner.names := by
  unfold Reader.close? at closed
  split at closed <;> cases closed
  rfl

theorem repeat_within {low : Nat} {high : Option Nat} {greedy : Bool}
    (repeated : inner.repeat? low high greedy = some next) :
    (outer.within inner).repeat? low high greedy = some (outer.within next) := by
  unfold Reader.repeat? at repeated ⊢
  cases some_ : inner.parts with
  | nil =>
    rw [some_] at repeated
    cases repeated
  | cons part parts =>
    rw [some_] at repeated
    simp only [within, some_] at repeated ⊢
    split at repeated
    · next operand =>
      cases repeated
      exact if_pos operand
    · cases repeated

theorem same_of_repeat {low : Nat} {high : Option Nat} {greedy : Bool}
    (repeated : inner.repeat? low high greedy = some next) :
    next.names = inner.names ∧ next.free = inner.free := by
  unfold Reader.repeat? at repeated
  split at repeated
  · cases repeated
  · split at repeated <;> cases repeated
    exact ⟨rfl, rfl⟩

theorem advance_within {token : Token} (applied : inner.advance? token = some next)
    (apart : outer.Apart inner) : (outer.within inner).advance? token = some reached ↔
      outer.Apart next ∧ outer.within next = reached := by
  cases token with
  | opening opening => exact open_within applied apart
  | closing => exact within_iff (names_of_close applied) (close_within applied) apart
  | quantifier low high greedy =>
    exact within_iff (same_of_repeat applied).1 (repeat_within applied) apart
  | bar | part =>
    cases applied
    exact within_iff rfl rfl apart

theorem Reads.ends (reads : Reads inner s final left) : skip final.free left = [] := by
  induction reads with
  | ended ended => exact ended
  | token _ _ _ _ ih => exact ih

theorem Reads.of_end (reads : Reads inner s final left) (ended : skip inner.free s = []) :
    final = inner ∧ left = s := by
  cases reads with
  | ended => exact ⟨rfl, rfl⟩
  | token found =>
    rw [ended] at found
    cases found

theorem names_of_advance {token : Token} (applied : inner.advance? token = some next) :
    next.names = inner.names ∨ ∃ name ∉ inner.names, next.names = name :: inner.names := by
  cases token with
  | opening opening =>
    have opened : inner.open? opening = some next := applied
    unfold Reader.open? at opened
    cases opening with
    | flags | group =>
      cases opened
      exact Or.inl rfl
    | capture name =>
      cases name with
      | none =>
        cases opened
        exact Or.inl rfl
      | some name =>
        simp only at opened
        split at opened
        · cases opened
        · next fresh =>
          cases opened
          exact Or.inr ⟨name, fun used => fresh (List.contains_iff_mem.mpr used), rfl⟩
  | closing => exact Or.inl (names_of_close applied)
  | quantifier => exact Or.inl (same_of_repeat applied).1
  | bar | part =>
    cases applied
    exact Or.inl rfl

theorem Reads.nodup (reads : Reads inner s final left) (distinct : inner.names.Nodup) :
    final.names.Nodup := by
  induction reads with
  | ended => exact distinct
  | token _ _ applied _ ih =>
    rcases names_of_advance applied with same | ⟨name, fresh, same⟩
    · exact ih (same ▸ distinct)
    · exact ih (same ▸ List.nodup_cons.mpr ⟨fresh, distinct⟩)

theorem Reads.names_subset (reads : Reads inner s final left) : inner.names ⊆ final.names := by
  induction reads with
  | ended => exact List.Subset.refl _
  | token _ _ applied _ ih =>
    rcases names_of_advance applied with same | ⟨name, _, same⟩
    · exact same ▸ ih
    · rw [same] at ih
      exact List.Subset.trans (List.subset_cons_self name _) ih

-- A token of the piece is read inside the group as it is alone. No line may end behind a comment that
-- is still open.
theorem tokenFrom_within {rest later : Text} {c : Char} {token : Token}
    (tokenized : tokenFrom? inner.free c rest = some (token, later))
    (applied : inner.advance? token = some next) (onward : Reads next later final left)
    (closed : final.groups = []) (line : commented final.free left = true → '\n' ∉ u) :
    tokenFrom? (outer.within inner).free c (rest ++ ')' :: u) = some (token, later ++ ')' :: u) := by
  change tokenFrom? inner.free c _ = _
  refine tokenFrom_closing tokenized ?_ ?_
  · rintro rfl rfl
    obtain ⟨rfl, _⟩ := onward.of_end (by cases next.free <;> rfl)
    have opened : inner.open? (.capture none) = some _ := applied
    cases opened
    cases closed
  · rintro ⟨low, high, greedy, rfl⟩ unfinished
    have same := (same_of_repeat applied).2
    have ended : skip next.free later = [] := by
      rw [same]
      have ended := skip_commented (List.not_mem_nil) unfinished
      rwa [List.append_nil] at ended
    obtain ⟨rfl, rfl⟩ := onward.of_end ended
    rw [← same] at unfinished
    exact line unfinished

-- By induction on the tokens of the piece: it is read inside the group as it is alone, unless it
-- takes a name that is in use around it.
theorem read_within {ast : Ast} (reads : Reads inner s final left) (closed : final.groups = [])
    (line : commented final.free left = true → '\n' ∉ u) (apart : outer.Apart inner) :
    (outer.within inner).read (s ++ ')' :: u) = some ast ↔
      outer.Apart final ∧ (outer.within final).read (left ++ ')' :: u) = some ast := by
  induction reads with
  | ended => exact (and_iff_right apart).symm
  | @token inner next final s rest later left c token found tokenized applied onward ih =>
    have here : skip (outer.within inner).free (s ++ ')' :: u) = c :: (rest ++ ')' :: u) :=
      skip_append _ found
    rw [read_token here, tokenFrom_within tokenized applied onward closed line, Option.bind_some,
      Option.bind_eq_some_iff]
    simp only [advance_within applied apart]
    constructor
    · rintro ⟨_, ⟨apart, rfl⟩, read⟩
      exact (ih closed line apart).mp read
    · rintro ⟨apart, read⟩
      have before : outer.Apart next := fun name used => apart name (onward.names_subset used)
      exact ⟨_, ⟨before, rfl⟩, (ih closed line before).mpr ⟨apart, read⟩⟩

end Reader

open Reader

variable {piece piece' : Text} {names names' : List Text} {parts parts' : List Ast} {ast : Ast}

-- A pattern that is read to its end, with these capture names, and leaves no comment open.
def Stands (piece : Text) (names : List Text) (ast : Ast) : Prop :=
  ∃ final left, Reads {} piece final left ∧ final.groups = [] ∧ final.body = ast ∧
    final.names.reverse = names ∧ commented final.free left = false

namespace Stands

theorem nodup (stands : Stands piece names ast) : names.Nodup := by
  obtain ⟨final, left, reads, _, _, rfl, _⟩ := stands
  exact List.pairwise_reverse.mpr ((reads.nodup List.nodup_nil).imp Ne.symm)

theorem of_grouped {reader : Reader} {whole : Ast} {u : Text} (counting : reader.free = false)
    (valid : Ast.ofText? piece = some ast) (line : '\n' ∉ u)
    (read : reader.grouped.read (piece ++ ')' :: u) = some whole) :
    ∃ names, Stands piece names ast := by
  obtain ⟨final, left, reads, closed, body⟩ := reads_of_read valid
  refine ⟨_, final, left, reads, closed, body, rfl, ?_⟩
  have entered : reader.grouped = reader.grouped.within {} := by
    simp [within, grouped, counting]
  rw [entered] at read
  have inside := ((read_within reads closed (fun _ => line) (List.forall_mem_nil _)).mp read).2
  cases unfinished : commented final.free left with
  | false => rfl
  | true =>
    -- The comment would take in the parenthesis, and the group would stay open.
    have ended : skip (reader.grouped.within final).free (left ++ ')' :: u) = [] :=
      skip_commented (by simpa using line) unfinished
    rw [read_end ended] at inside
    simp [within, grouped] at inside

end Stands

theorem stands_units : Stands defaultRequirement [] (.class unitClass) := by
  obtain ⟨later, read, left⟩ := of_plainly (readClass_units [])
  have token : tokenFrom? false '[' ("a-z0-9\\-._]".toList ++ []) =
      some (.part (.class unitClass), []) := by
    unfold tokenFrom?
    simp only [read, Option.map_some, left]
  exact ⟨_, [], .token rfl token rfl (.ended rfl), rfl, rfl, rfl, rfl⟩

def Unused (reader : Reader) (names : List Text) : Prop :=
  names.Nodup ∧ ∀ name ∈ names, name ∉ reader.names

-- A piece that is one part with these names wherever it stands in a group.
def Groups (piece : Text) (names : List Text) (ast : Ast) : Prop :=
  ∀ (reader : Reader) (rest : Text) (whole : Ast), reader.free = false →
    (reader.grouped.read (piece ++ ')' :: rest) = some whole ↔
      Unused reader names ∧ (reader.take names [.group {} ast]).read rest = some whole)

theorem Stands.groups (stands : Stands piece names ast) : Groups piece names ast := by
  intro reader rest whole counting
  have distinct := stands.nodup
  obtain ⟨final, left, reads, closed, rfl, rfl, finished⟩ := stands
  have entered : reader.grouped = reader.grouped.within {} := by
    simp [within, grouped, counting]
  have line : commented final.free left = true → '\n' ∉ rest := by
    rw [finished]
    intro unfinished
    cases unfinished
  have here : skip (reader.grouped.within final).free (left ++ ')' :: rest) = ')' :: rest := by
    have here := skip_closing rest finished
    rw [reads.ends] at here
    exact here
  have shut : (reader.grouped.within final).close? =
      some (reader.take final.names.reverse [.group {} final.body]) := by
    simp [within, grouped, take, Reader.close?, closed, Reader.body, counting]
  have behind : (reader.grouped.within final).read (left ++ ')' :: rest) =
      (reader.take final.names.reverse [.group {} final.body]).read rest := by
    rw [read_token here]
    simp [tokenFrom?, advance?, shut]
  have apart : Unused reader final.names.reverse ↔ reader.grouped.Apart final := by
    rw [Unused, and_iff_right distinct]
    exact forall_congr' fun name => imp_congr_left List.mem_reverse
  rw [entered, read_within reads closed line (List.forall_mem_nil _), behind, apart]

-- A piece that leaves these names and parts behind wherever it stands, and is read nowhere else.
structure Continues (piece : Text) (names : List Text) (parts : List Ast) : Prop where
  notLazy : piece.head? ≠ some '?'
  onward : ∀ (reader : Reader) (rest : Text) (whole : Ast), reader.free = false →
    rest.head? ≠ some '?' → (reader.read (piece ++ rest) = some whole ↔
      Unused reader names ∧ (reader.take names parts).read rest = some whole)

theorem unused_append (reader : Reader) (parts : List Ast) : Unused reader (names ++ names') ↔
    Unused reader names ∧ Unused (reader.take names parts) names' := by
  simp only [Unused, take, List.nodup_append, List.mem_append, List.mem_reverse, not_or]
  constructor
  · rintro ⟨⟨distinct, distinct', apart⟩, fresh⟩
    refine ⟨⟨distinct, fun name here => fresh name (Or.inl here)⟩, distinct', ?_⟩
    exact fun name there => ⟨fun here => apart name here name there rfl, fresh name (Or.inr there)⟩
  · rintro ⟨⟨distinct, fresh⟩, distinct', fresh'⟩
    refine ⟨⟨distinct, distinct', ?_⟩, ?_⟩
    · rintro name here _ there rfl
      exact (fresh' name there).1 here
    · exact fun name member => member.elim (fresh name) fun there => (fresh' name there).2

theorem unused_cons {reader : Reader} {name : Text} :
    Unused reader (name :: names) ↔ name ∉ reader.names ∧ Unused (reader.capturing name) names := by
  rw [Unused, Unused, List.nodup_cons, List.forall_mem_cons]
  simp only [capturing, List.mem_cons, not_or]
  constructor
  · rintro ⟨⟨new, distinct⟩, fresh, others⟩
    refine ⟨fresh, distinct, fun other member => ⟨?_, others other member⟩⟩
    rintro rfl
    exact new member
  · rintro ⟨fresh, distinct, others⟩
    exact ⟨⟨fun member => (others name member).1 rfl, distinct⟩, fresh,
      fun other member => (others other member).2⟩

namespace Continues

theorem of_reads (reads : ReadsAs piece [] parts) : Continues piece [] parts where
  notLazy := reads.notLazy
  onward reader rest whole counting greedy := by
    rw [reads.onward reader rest counting (List.forall_mem_nil _) greedy]
    exact (and_iff_right ⟨List.nodup_nil, List.forall_mem_nil _⟩).symm

theorem append (first : Continues piece names parts) (later : Continues piece' names' parts') :
    Continues (piece ++ piece') (names ++ names') (parts ++ parts') where
  notLazy := by
    cases piece with
    | nil => exact later.notLazy
    | cons c piece => exact first.notLazy
  onward reader rest whole counting greedy := by
    have greedy' : (piece' ++ rest).head? ≠ some '?' := by
      cases piece' with
      | nil => exact greedy
      | cons c piece' => exact later.notLazy
    have taken : (reader.take names parts).take names' parts' =
        reader.take (names ++ names') (parts ++ parts') := by
      simp only [take, List.reverse_append, List.append_assoc]
    rw [List.append_assoc, first.onward reader _ whole counting greedy',
      later.onward (reader.take names parts) rest whole counting greedy, taken,
      unused_append reader parts, and_assoc]

theorem groups (inside : Continues piece names parts) :
    Groups piece names (.ofParts parts.reverse) := by
  intro reader rest whole counting
  have closed : (reader.grouped.take names parts).read (')' :: rest) = _ :=
    read_close counting (close_grouped names parts)
  rw [inside.onward reader.grouped (')' :: rest) whole counting (by simp), closed]
  rfl

theorem repeated {c : Char} {low : Nat} {high : Option Nat} (inside : Groups piece names ast)
    (allowed : quantifier c = some (low, high)) :
    Continues ("(?:".toList ++ piece ++ [')', c]) names
      [.repetition (.group {} ast) low high true] where
  notLazy := by simp
  onward reader rest whole counting greedy := by
    have spelled : "(?:".toList ++ piece ++ [')', c] ++ rest =
        "(?:".toList ++ (piece ++ ')' :: c :: rest) := by
      simp
    have ending : (reader.take names [.group {} ast]).read (c :: rest) = _ :=
      read_quantifier counting allowed greedy (repeat_group low high)
    rw [spelled, read_group counting, inside reader (c :: rest) whole counting, ending]

theorem captured {name : Text} (valid : IsGroupName name)
    (inside : Continues piece names parts) :
    Continues ("(?P<".toList ++ name ++ ">".toList ++ piece ++ ")".toList) (name :: names)
      [.capture (some name) (.ofParts parts.reverse)] where
  notLazy := by simp
  onward reader rest whole counting greedy := by
    have spelled : "(?P<".toList ++ name ++ ">".toList ++ piece ++ ")".toList ++ rest =
        "(?P<".toList ++ name ++ ">".toList ++ (piece ++ ')' :: rest) := by
      simp
    rw [spelled, unused_cons]
    by_cases used : name ∈ reader.names
    · rw [read_capture_used counting valid used]
      simp [used]
    · have closed : ((reader.capturing name).take names parts).read (')' :: rest) = _ :=
        read_close counting (close_capturing name names parts)
      rw [read_capture counting valid used,
        inside.onward (reader.capturing name) (')' :: rest) whole counting (by simp), closed,
        and_iff_right used]

theorem whole (continues : Continues piece names parts) :
    Ast.ofText? piece = some ast ↔ names.Nodup ∧ .ofParts parts.reverse = ast := by
  have start := continues.onward {} [] ast rfl (by simp)
  have distinct : Unused {} names ↔ names.Nodup :=
    and_iff_left fun _ _ => List.not_mem_nil
  have body : (take {} names parts).body = .ofParts parts.reverse := by
    simp [take, Reader.body, Ast.ofBranches]
  rw [List.append_nil, distinct, read_nil rfl rfl, Option.some.injEq, body] at start
  exact start

end Continues

end RouteTable.Regex
