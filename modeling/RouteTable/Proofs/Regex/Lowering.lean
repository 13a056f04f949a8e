import RouteTable.Proofs.Regex.Capture
import RouteTable.Proofs.Regex.Caseless
import RouteTable.Proofs.Regex.Search

namespace RouteTable

open Unicode (CharSet toLower_cases)

namespace Look

theorem kind_toLower (kind : Char → Bool) (all : Bool) (letters : ∀ c, c.isAlpha = true → kind c = all)
    (c : Char) : kind c.toLower = kind c := by
  rcases toLower_cases c with still | ⟨letter, small⟩
  · rw [still]
  · rw [letters c letter, letters _ small]

theorem beq_toLower {c : Char} (plain : c.isAlpha = false) (d : Char) :
    (d.toLower == c) = (d == c) := by
  refine kind_toLower (· == c) false (fun d letter => ?_) d
  refine beq_eq_false_iff_ne.mpr ?_
  rintro rfl
  rw [plain] at letter
  cases letter

theorem isWord_toLower (unicode : Bool) (c : Char) :
    isWord unicode c.toLower = isWord unicode c := by
  cases unicode with
  | true => exact (Regex.ClassAst.caseless_wordClass true .word).both c
  | false =>
    refine kind_toLower (isWord false) true (fun c letter => ?_) c
    simp [isWord, Char.isAlphanum, letter]

theorem holds_toLower (look : Look) (before after : Option Char) :
    look.holds (before.map Char.toLower) (after.map Char.toLower) = look.holds before after := by
  have feed : ∀ c : Char, (c.toLower == '\n') = (c == '\n') := beq_toLower (by decide)
  have return_ : ∀ c : Char, (c.toLower == '\r') = (c == '\r') := beq_toLower (by decide)
  cases before <;> cases after <;> cases look <;>
    simp [holds, feed, return_, isWord_toLower, bne]

end Look

namespace Regex

-- Instructions that do not tell the cases apart.
def Instr.Caseless : Instr → Prop
  | consume set _ => set.Caseless
  | check _ _ | choose _ _ | enter _ _ | leave _ _ | jump _ | accept => True

theorem caseless_choice (greedy : Bool) (body exit : Nat) : (choice greedy body exit).Caseless := by
  cases greedy <;> trivial

theorem caseless_single {c : Char} (plain : c.isAlpha = false) : (CharSet.single c).Caseless :=
  .ofList (List.forall_mem_singleton.mpr plain)

theorem caseless_literalCode {first : Char} {rest : Text} (here next : Nat)
    (plain : ∀ c ∈ first :: rest, c.isAlpha = false) :
    ∀ instr ∈ literalCode first rest here next, instr.Caseless := by
  induction rest generalizing first here with
  | nil => exact List.forall_mem_singleton.mpr (caseless_single (plain first List.mem_cons_self))
  | cons c rest ih =>
    obtain ⟨head, others⟩ := List.forall_mem_cons.mp plain
    exact List.forall_mem_cons.mpr ⟨caseless_single head, ih (here + 1) others⟩

theorem caseless_copies {count size here : Nat} {piece : Nat → List Instr}
    (each : ∀ address, ∀ instr ∈ piece address, instr.Caseless) :
    ∀ instr ∈ copies count size here piece, instr.Caseless := by
  intro instr member
  obtain ⟨i, _, inside⟩ := List.mem_flatMap.mp member
  exact each _ instr inside

theorem caseless_code {r : Regex} (caseless : r.Caseless) (here next : Nat) :
    ∀ instr ∈ r.code here next, instr.Caseless := by
  induction r generalizing here next with
  | empty | look => exact List.forall_mem_singleton.mpr trivial
  | literal first rest => exact caseless_literalCode here next caseless
  | char alphabet set => exact List.forall_mem_singleton.mpr caseless
  | seq a b ihA ihB =>
    exact List.forall_mem_append.mpr ⟨ihA caseless.1 _ _, ihB caseless.2 _ _⟩
  | alt a b ihA ihB =>
    exact List.forall_mem_cons.mpr
      ⟨trivial, List.forall_mem_append.mpr ⟨ihA caseless.1 _ _, ihB caseless.2 _ _⟩⟩
  | repeated low high greedy a ih =>
    have body := ih caseless
    have rounds (here : Nat) : ∀ instr ∈ copies low a.size here
        fun start => a.code start (start + a.size), instr.Caseless :=
      caseless_copies fun start => body start (start + a.size)
    cases high with
    | none =>
      simp only [code]
      split
      · refine List.forall_mem_cons.mpr ⟨caseless_choice _ _ _, ?_⟩
        split
        · exact body _ _
        · exact List.forall_mem_append.mpr
            ⟨body _ _, List.forall_mem_singleton.mpr (caseless_choice _ _ _)⟩
      · exact List.forall_mem_append.mpr
          ⟨rounds here, List.forall_mem_singleton.mpr (caseless_choice _ _ _)⟩
    | some high =>
      simp only [code]
      refine List.forall_mem_append.mpr
        ⟨List.forall_mem_append.mpr ⟨rounds here, ?_⟩, List.forall_mem_singleton.mpr trivial⟩
      exact caseless_copies fun start =>
        List.forall_mem_cons.mpr ⟨caseless_choice _ _ _, body _ _⟩
  | group name a ih =>
    cases name with
    | none => exact ih caseless here next
    | some name =>
      exact List.forall_mem_cons.mpr ⟨trivial,
        List.forall_mem_append.mpr ⟨ih caseless _ _, List.forall_mem_singleton.mpr trivial⟩⟩

theorem caseless_program {r : Regex} (caseless : r.Caseless) {address : Nat} {instr : Instr}
    (found : r.program[address]? = some instr) : instr.Caseless := by
  have member := Array.mem_of_getElem? found
  rw [program, List.mem_toArray] at member
  rcases List.mem_append.mp member with inside | last
  · exact caseless_code caseless 0 r.size instr inside
  · obtain rfl := List.mem_singleton.mp last
    trivial

-- The same thread, on the text in small letters.
def Thread.lower (thread : Thread) : Thread :=
  { thread with before := thread.before.map Char.toLower, rest := Text.asciiLower thread.rest }

theorem step_lower {instr : Instr} (caseless : instr.Caseless) (thread : Thread) :
    thread.lower.step instr = (thread.step instr).map Thread.lower := by
  obtain ⟨address, position, before, rest, marks⟩ := thread
  cases instr with
  | consume set next =>
    cases rest with
    | nil => rfl
    | cons c rest =>
      simp only [Thread.step, Thread.lower, Text.asciiLower, List.map_cons, CharSet.Caseless.both caseless]
      split <;> rfl
  | check assertion next =>
    have ahead : (Text.asciiLower rest).head? = rest.head?.map Char.toLower := List.head?_map
    simp only [Thread.step, Thread.lower, ahead, Look.holds_toLower]
    split <;> rfl
  | choose | enter | leave | jump | accept => rfl

-- Only addresses, positions and marks count, and both searches have the same ones.
theorem explore_lower {instrs : Array Instr}
    (caseless : ∀ {address : Nat} {instr : Instr}, instrs[address]? = some instr → instr.Caseless)
    (fresh : Fresh) (todo : List Thread) :
    explore instrs fresh (todo.map Thread.lower) = explore instrs fresh todo := by
  fun_induction explore instrs fresh todo with
  | case1 => rw [List.map_nil, explore]
  | case2 fresh thread todo unexplored here =>
    rw [List.map_cons, explore, dif_pos (show fresh.contains thread.lower = true from unexplored)]
    simp only [Thread.lower, here]
  | case3 fresh thread todo unexplored instr working here ih =>
    rw [List.map_append, ← step_lower (caseless here)] at ih
    rw [List.map_cons, explore, dif_pos (show fresh.contains thread.lower = true from unexplored)]
    simp only [show instrs[thread.lower.address]? = some instr from here]
    exact ih
  | case4 fresh thread todo unexplored missing ih =>
    rw [List.map_cons, explore, dif_pos (show fresh.contains thread.lower = true from unexplored)]
    simp only [show instrs[thread.lower.address]? = none from missing]
    exact ih
  | case5 fresh thread todo explored ih =>
    rw [List.map_cons, explore, dif_neg (show ¬fresh.contains thread.lower = true from explored)]
    exact ih

theorem starts_lower (position : Nat) (before : Option Char) (text : Text) :
    starts position (before.map Char.toLower) (Text.asciiLower text) =
      (starts position before text).map Thread.lower := by
  induction text generalizing position before with
  | nil => rfl
  | cons c rest ih => exact congrArg (_ :: ·) (ih (position + 1) (some c))

theorem search_lower {r : Regex} (caseless : r.Caseless) (text : Text) :
    r.search (Text.asciiLower text) = r.search text := by
  have length : (Text.asciiLower text).length = text.length := List.length_map _
  have lowered : starts 0 none (Text.asciiLower text) = (starts 0 none text).map Thread.lower :=
    starts_lower 0 none text
  unfold search
  simp only [length, lowered]
  exact explore_lower (caseless_program caseless) _ _

theorem captured_lower (text : Text) (marks : List Mark) (name : Text) :
    captured? (Text.asciiLower text) marks name =
      (captured? text marks name).map Text.asciiLower := by
  rw [captured_eq, captured_eq]
  cases marks.findSome? (entered? name) with
  | none => rfl
  | some start =>
    cases marks.findSome? (left? name) with
    | none => rfl
    | some stop => simp [Text.asciiLower, List.map_take, List.map_drop]

end Regex

end RouteTable
