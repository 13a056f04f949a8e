import Mathlib.Data.List.Induction
import RouteTable.Proofs.Template.Grammar

namespace RouteTable.Requirement

open Template (readRequirement)

-- Where the reader is: how many braces are open, and whether the next character is escaped.
structure Progress where
  depth : Nat := 0
  escaped : Bool := false
deriving DecidableEq, Repr

namespace Progress

variable {progress next : Progress} {c : Char} {front s requirement rest : Text}

-- Behind one more character; there is nothing behind the brace that closes the hole.
def step (progress : Progress) (c : Char) : Option Progress :=
  if progress.escaped then some { progress with escaped := false }
  else if c = '\\' then some { progress with escaped := true }
  else if c = '\x7b' then some { progress with depth := progress.depth + 1 }
  else if c ≠ '\x7d' then some progress
  else if progress.depth = 0 then none
  else some { progress with depth := progress.depth - 1 }

def after (progress : Progress) (text : Text) : Option Progress := text.foldlM step progress

theorem step_eq_none_iff : progress.step c = none ↔ c = '\x7d' ∧ progress = {} := by
  obtain ⟨depth, escaped⟩ := progress
  unfold step
  grind

theorem escaped_of_step (stepped : progress.step c = some next) :
    next.escaped = true ↔ progress.escaped = false ∧ c = '\\' := by
  unfold step at stepped
  grind

theorem depth_of_step (stepped : progress.step c = some next) :
    next.depth + (if c = '\x7d' ∧ progress.escaped = false then 1 else 0) =
      progress.depth + (if c = '\x7b' ∧ progress.escaped = false then 1 else 0) := by
  unfold step at stepped
  grind

theorem after_cons (progress : Progress) (c : Char) (later : Text) :
    progress.after (c :: later) = (progress.step c).bind (·.after later) :=
  List.foldlM_cons

theorem after_append (progress : Progress) (front later : Text) :
    progress.after (front ++ later) = (progress.after front).bind (·.after later) :=
  List.foldlM_append

theorem after_concat (progress : Progress) (front : Text) (c : Char) :
    progress.after (front ++ [c]) = (progress.after front).bind (·.step c) := by
  rw [after_append]
  refine congrArg _ (funext fun next => ?_)
  rw [after_cons]
  exact Option.bind_fun_some _

theorem exists_after_front {later : Text} (ran : progress.after (front ++ later) = some next) :
    ∃ middle, progress.after front = some middle := by
  rw [after_append] at ran
  obtain ⟨middle, earlier, _⟩ := Option.bind_eq_some_iff.mp ran
  exact ⟨middle, earlier⟩

theorem readRequirement_cons (progress : Progress) (c : Char) (rest : Text) :
    readRequirement progress.depth progress.escaped (c :: rest) =
      (progress.step c).elim (some ([], rest)) fun next =>
        (readRequirement next.depth next.escaped rest).map (Prod.map (c :: ·) id) := by
  obtain ⟨depth, escaped⟩ := progress
  cases escaped with
  | true => rfl
  | false =>
    by_cases backslash : c = '\\'
    · rw [backslash]
      rfl
    by_cases opening : c = '\x7b'
    · rw [opening]
      rfl
    by_cases closing : c = '\x7d'
    · rw [closing]
      cases depth <;> rfl
    · have stepped : step { depth } c = some { depth } := by
        simp [step, backslash, opening, closing]
      rw [stepped, Option.elim_some]
      conv => lhs; unfold readRequirement
      simp only [Bool.false_eq_true, if_false]
      split
      case h_5 => rfl
      all_goals contradiction

theorem readRequirement_after (ran : progress.after front = some next) (later : Text) :
    readRequirement progress.depth progress.escaped (front ++ later) =
      (readRequirement next.depth next.escaped later).map (Prod.map (front ++ ·) id) := by
  induction front generalizing progress with
  | nil =>
    obtain rfl : progress = next := by simpa [after] using ran
    exact (congrFun Option.map_id _).symm
  | cons c front ih =>
    rw [after_cons] at ran
    obtain ⟨middle, stepped, onward⟩ := Option.bind_eq_some_iff.mp ran
    rw [List.cons_append, readRequirement_cons, stepped, Option.elim_some, ih onward,
      Option.map_map]
    rfl

theorem readRequirement_eq_none_iff (progress : Progress) :
    readRequirement progress.depth progress.escaped s = none ↔
      (progress.after s).isSome = true := by
  induction s generalizing progress with
  | nil => simp [readRequirement, after]
  | cons c s ih =>
    rw [readRequirement_cons, after_cons]
    cases progress.step c with
    | none => simp
    | some next => simp [ih]

theorem readRequirement_eq_some_iff (progress : Progress) :
    readRequirement progress.depth progress.escaped s = some (requirement, rest) ↔
      progress.after requirement = some {} ∧ s = requirement ++ '\x7d' :: rest := by
  constructor
  · intro read
    induction s generalizing progress requirement with
    | nil => cases read
    | cons c s ih =>
      rw [readRequirement_cons] at read
      cases stepped : progress.step c with
      | none =>
        obtain ⟨rfl, rfl⟩ := step_eq_none_iff.mp stepped
        rw [stepped] at read
        cases read
        exact ⟨rfl, rfl⟩
      | some next =>
        rw [stepped, Option.elim_some] at read
        obtain ⟨⟨later, rest'⟩, onward, same⟩ := Option.map_eq_some_iff.mp read
        cases same
        obtain ⟨ran, rfl⟩ := ih next onward
        refine ⟨?_, rfl⟩
        rw [after_cons, stepped]
        exact ran
  · rintro ⟨ran, rfl⟩
    rw [readRequirement_after ran]
    simp [readRequirement]

end Progress

-- How many backslashes a text ends in. What stands behind an odd number of them is escaped.
def backslashes (text : Text) : Nat := (text.reverse.takeWhile (· == '\\')).length

-- How often a character stands in a text without being escaped.
def unescaped (c : Char) (text : Text) : Nat :=
  (List.range text.length).countP fun i =>
    text[i]? == some c && backslashes (text.take i) % 2 == 0

theorem backslashes_concat (before : Text) (last : Char) :
    backslashes (before ++ [last]) = if last = '\\' then backslashes before + 1 else 0 := by
  unfold backslashes
  rw [List.reverse_append, List.reverse_singleton, List.singleton_append, List.takeWhile_cons]
  split <;> simp_all

theorem unescaped_concat (c : Char) (before : Text) (last : Char) :
    unescaped c (before ++ [last]) =
      unescaped c before + if last = c ∧ backslashes before % 2 = 0 then 1 else 0 := by
  have earlier : ∀ i ∈ List.range before.length,
      ((before ++ [last])[i]? == some c && backslashes ((before ++ [last]).take i) % 2 == 0) =
        (before[i]? == some c && backslashes (before.take i) % 2 == 0) := by
    intro i member
    have inside := List.mem_range.mp member
    rw [List.getElem?_append_left inside, List.take_append_of_le_length (Nat.le_of_lt inside)]
  unfold unescaped
  rw [List.length_append, List.length_singleton, List.range_succ, List.countP_append,
    List.countP_congr fun i member => by rw [earlier i member]]
  simp [List.countP_singleton]

-- What the reader knows behind a text, and what the text tells by itself.
structure Told (text : Text) (progress : Progress) : Prop where
  depth : progress.depth + unescaped '\x7d' text = unescaped '\x7b' text
  escaped : progress.escaped = true ↔ backslashes text % 2 = 1

theorem told_start : Told [] {} := ⟨rfl, by decide⟩

theorem Told.plain {text : Text} {progress : Progress} (told : Told text progress) :
    progress.escaped = false ↔ backslashes text % 2 = 0 := by
  rw [← Bool.not_eq_true, told.escaped]
  omega

-- The flag is the parity of the backslashes in front: one more turns it, anything else clears both.
theorem Told.step {before : Text} {progress next : Progress} {c : Char}
    (told : Told before progress) (stepped : progress.step c = some next) :
    Told (before ++ [c]) next := by
  constructor
  · have counted := Progress.depth_of_step stepped
    simp only [told.plain] at counted
    rw [unescaped_concat, unescaped_concat]
    have depth := told.depth
    omega
  · rw [Progress.escaped_of_step stepped, told.plain, backslashes_concat]
    by_cases backslash : c = '\\'
    · rw [if_pos backslash, and_iff_left backslash]
      omega
    · simp [backslash]

theorem Told.of_after {text : Text} {progress : Progress}
    (ran : Progress.after {} text = some progress) : Told text progress := by
  induction text using List.reverseRecOn generalizing progress with
  | nil =>
    obtain rfl : {} = progress := Option.some.inj ran
    exact told_start
  | append_singleton before c ih =>
    rw [Progress.after_concat] at ran
    obtain ⟨middle, earlier, stepped⟩ := Option.bind_eq_some_iff.mp ran
    exact (ih earlier).step stepped

-- A requirement with a closing brace behind it that is not escaped, where as many braces are opened
-- as are closed.
structure Closed (s requirement rest : Text) : Prop where
  whole : s = requirement ++ '\x7d' :: rest
  plain : backslashes requirement % 2 = 0
  balanced : unescaped '\x7b' requirement = unescaped '\x7d' requirement

structure ShortestClosed (s requirement rest : Text) : Prop extends Closed s requirement rest where
  shortest : ∀ other later, Closed s other later → requirement.length ≤ other.length

variable {s requirement rest : Text}

theorem closed_of_after (ran : Progress.after {} requirement = some {}) (rest : Text) :
    Closed (requirement ++ '\x7d' :: rest) requirement rest := by
  have told := Told.of_after ran
  have depth : 0 + unescaped '\x7d' requirement = unescaped '\x7b' requirement := told.depth
  exact ⟨rfl, told.plain.mp rfl, by omega⟩

theorem Closed.after_eq_none (closed : Closed s requirement rest) (later : Text) :
    Progress.after {} (requirement ++ '\x7d' :: later) = none := by
  rw [Progress.after_append]
  cases ran : Progress.after {} requirement with
  | none => rfl
  | some progress =>
    have told := Told.of_after ran
    have depth : progress.depth = 0 := by
      have counted := told.depth
      have balanced := closed.balanced
      omega
    have plain : progress.escaped = false := told.plain.mpr closed.plain
    have ends : progress.step '\x7d' = none := by
      refine Progress.step_eq_none_iff.mpr ⟨rfl, ?_⟩
      obtain ⟨_, _⟩ := progress
      cases depth
      cases plain
      rfl
    rw [Option.bind_some, Progress.after_cons, ends]
    rfl

theorem ShortestClosed.unique {other later : Text} (closed : ShortestClosed s requirement rest)
    (closed' : ShortestClosed s other later) : requirement = other ∧ rest = later := by
  have length : requirement.length = other.length :=
    Nat.le_antisymm (closed.shortest _ _ closed'.toClosed) (closed'.shortest _ _ closed.toClosed)
  obtain ⟨same, ends⟩ := List.append_inj (closed.whole.symm.trans closed'.whole) length
  exact ⟨same, (List.cons.inj ends).2⟩

theorem shortestClosed_of_read (read : readRequirement 0 false s = some (requirement, rest)) :
    ShortestClosed s requirement rest := by
  obtain ⟨ran, rfl⟩ := (Progress.readRequirement_eq_some_iff {}).mp read
  refine ⟨closed_of_after ran rest, fun other later closed => ?_⟩
  by_contra shorter
  have inside : other ++ ['\x7d'] <+: requirement := by
    refine List.prefix_of_prefix_length_le ?_ (List.prefix_append requirement ('\x7d' :: rest)) ?_
    · exact ⟨later, by simp [closed.whole]⟩
    · simp only [List.length_append, List.length_singleton]
      omega
  obtain ⟨further, same⟩ := inside
  rw [← same, List.append_assoc, List.singleton_append, closed.after_eq_none] at ran
  cases ran

theorem readRequirement_iff_shortest :
    readRequirement 0 false s = some (requirement, rest) ↔ ShortestClosed s requirement rest := by
  refine ⟨shortestClosed_of_read, fun closed => ?_⟩
  cases read : readRequirement 0 false s with
  | none =>
    have ran := (Progress.readRequirement_eq_none_iff {}).mp read
    rw [closed.whole, closed.after_eq_none] at ran
    cases ran
  | some found =>
    obtain ⟨rfl, rfl⟩ := closed.unique (shortestClosed_of_read read)
    rfl

example : readRequirement 0 false "\\d\x7b4\x7d\\\x7d\x7d/".toList =
    some ("\\d\x7b4\x7d\\\x7d".toList, "/".toList) := by decide

-- Whether the reader takes the character behind a text as escaped.
def readEscaped (before : Text) : Bool := (Progress.after {} before).any (·.escaped)

-- A quantifier at the end that the reader does not take as escaped.
def EndsInQuantifier (requirement : Text) : Prop :=
  ∃ before last, requirement = before ++ [last] ∧ last ∈ ['+', '*', '?'] ∧
    readEscaped before = false

theorem readEscaped_iff {before : Text} {progress : Progress}
    (ran : Progress.after {} before = some progress) :
    readEscaped before = true ↔ backslashes before % 2 = 1 := by
  unfold readEscaped
  rw [ran, Option.any_some, (Told.of_after ran).escaped]

theorem endsWithQuantifier_concat (before : Text) (last : Char) :
    endsWithQuantifier (before ++ [last]) = true ↔
      last ∈ ['+', '*', '?'] ∧ backslashes before % 2 = 0 := by
  simp [endsWithQuantifier, backslashes, or_assoc]

theorem endsWithQuantifier_iff_of_after {progress : Progress}
    (ran : Progress.after {} requirement = some progress) :
    endsWithQuantifier requirement = true ↔ EndsInQuantifier requirement := by
  have agree {before : Text} {last : Char} (same : requirement = before ++ [last]) :
      readEscaped before = false ↔ backslashes before % 2 = 0 := by
    obtain ⟨middle, earlier⟩ := Progress.exists_after_front (same ▸ ran)
    rw [← Bool.not_eq_true, readEscaped_iff earlier]
    omega
  constructor
  · intro ends
    rcases List.eq_nil_or_concat requirement with rfl | ⟨before, last, same⟩
    · cases ends
    · rw [List.concat_eq_append] at same
      rw [same, endsWithQuantifier_concat] at ends
      exact ⟨before, last, same, ends.1, (agree same).mpr ends.2⟩
  · rintro ⟨before, last, same, quantifier, plain⟩
    rw [same, endsWithQuantifier_concat]
    exact ⟨quantifier, (agree same).mp plain⟩

-- At every point the reader goes on with as many braces open as the text in front leaves open, and
-- takes the next character as the backslashes in front of it say.
structure ReadTo (s requirement rest : Text) : Prop where
  shortest : ShortestClosed s requirement rest
  states : ∀ front later, requirement = front ++ later → ∃ progress,
    Progress.after {} front = some progress ∧ Told front progress ∧
      readRequirement 0 false s = (readRequirement progress.depth progress.escaped
        (later ++ '\x7d' :: rest)).map (Prod.map (front ++ ·) id)
  last : ∀ before last, requirement = before ++ [last] →
    (readEscaped before = true ↔ backslashes before % 2 = 1)
  quantifier : endsWithQuantifier requirement = true ↔ EndsInQuantifier requirement

theorem readRequirement_iff_readTo :
    readRequirement 0 false s = some (requirement, rest) ↔ ReadTo s requirement rest := by
  refine ⟨fun read => ?_, fun read => readRequirement_iff_shortest.mpr read.shortest⟩
  obtain ⟨ran, whole⟩ := (Progress.readRequirement_eq_some_iff {}).mp read
  refine ⟨shortestClosed_of_read read, fun front later same => ?_, fun before last same => ?_,
    endsWithQuantifier_iff_of_after ran⟩
  · obtain ⟨progress, earlier⟩ := Progress.exists_after_front (same ▸ ran)
    refine ⟨progress, earlier, .of_after earlier, ?_⟩
    rw [whole, same, List.append_assoc]
    exact Progress.readRequirement_after earlier _
  · obtain ⟨progress, earlier⟩ := Progress.exists_after_front (same ▸ ran)
    exact readEscaped_iff earlier

end RouteTable.Requirement
