import RouteTable.Proofs.Ascii
import RouteTable.Proofs.Regex.Reader
import RouteTable.Template.Scan

namespace RouteTable

open Regex.Reader (IsGroupName)

namespace Segment

def placeholder? : Segment → Option Placeholder
  | .literal _ => none
  | .hole placeholder => some placeholder

end Segment

theorem Template.placeholders_eq (template : Template) :
    template.placeholders = template.segments.filterMap Segment.placeholder? := rfl

def holeNames (segments : List Segment) : List Text :=
  (segments.filterMap Segment.placeholder?).map (·.name)

theorem holeNames_hole (placeholder : Placeholder) (rest : List Segment) :
    holeNames (.hole placeholder :: rest) = placeholder.name :: holeNames rest := rfl

namespace Template

theorem taken_of_readHole {s name requirement rest : Text}
    (read : readHole s = .ok (name, requirement, rest)) :
    name = s.takeWhile isNameChar ∧ name.isEmpty = false ∧ name.head?.any Char.isDigit = false := by
  unfold readHole at read
  simp only at read
  split at read
  · cases read
  · next nonempty =>
    split at read
    · cases read
    · next letter =>
      have same : name = s.takeWhile isNameChar := by
        split at read
        · cases read; rfl
        · split at read
          · cases read
          · split at read
            · cases read
            · cases read; rfl
        · cases read
      rw [same]
      exact ⟨rfl, by simpa using nonempty, by simpa using letter⟩

theorem isNameChar_of_isNameChar {c : Char} (char : isNameChar c = true) :
    Regex.isNameChar c = true := by
  simp only [isNameChar, Bool.or_eq_true, beq_iff_eq] at char
  rcases char with alphanumeric | underscore
  · simp [Regex.isNameChar, Unicode.isAlphanumeric_of_isAlphanum alphanumeric]
  · simp [Regex.isNameChar, underscore]

theorem isNameStart_of_isNameChar {c : Char} (char : isNameChar c = true)
    (letter : c.isDigit = false) : Regex.isNameStart c = true := by
  simp only [isNameChar, Char.isAlphanum, Bool.or_eq_true, beq_iff_eq] at char
  rcases char with (alpha | digit) | underscore
  · simp [Regex.isNameStart, Unicode.isAlphabetic_of_isAlpha alpha]
  · rw [digit] at letter
    cases letter
  · simp [Regex.isNameStart, underscore]

theorem name_of_readHole {s name requirement rest : Text}
    (read : readHole s = .ok (name, requirement, rest)) : IsGroupName name := by
  obtain ⟨taken, nonempty, letter⟩ := taken_of_readHole read
  have chars : ∀ c ∈ name, isNameChar c = true := by
    intro c member
    rw [taken] at member
    exact List.all_eq_true.mp List.all_takeWhile c member
  refine ⟨?_, ?_, ?_⟩
  · cases name with
    | nil => cases nonempty
    | cons c name => exact isNameStart_of_isNameChar (chars c List.mem_cons_self) letter
  · exact List.all_eq_true.mpr fun c member => isNameChar_of_isNameChar (chars c member)
  · intro member
    exact absurd (chars '>' member) (by decide)

-- Segments as they are read: the names of holes are valid and differ from each other and from those
-- that are taken, and only a group has text of its own.
inductive Scanned : List Text → List Segment → Prop
  | nil {taken : List Text} : Scanned taken []
  | literal {taken : List Text} {text : Text} {rest : List Segment} (later : Scanned taken rest) :
    Scanned taken (.literal text :: rest)
  | hole {taken : List Text} {placeholder : Placeholder} {rest : List Segment}
    (valid : IsGroupName placeholder.name) (free : placeholder.name ∉ taken)
    (alone : placeholder.optional = false → placeholder.trailing = [])
    (later : Scanned (placeholder.name :: taken) rest) : Scanned taken (.hole placeholder :: rest)

theorem scanned_flush {taken : List Text} {segments : List Segment} (literal : Text)
    (scanned : Scanned taken segments) : Scanned taken (flush literal segments) := by
  unfold flush
  split
  · exact scanned
  · exact .literal scanned

theorem scanned_of_scan {names : List Text} {literal s : Text} {segments : List Segment}
    (scanned : scan names literal s = .ok segments) : Scanned names segments := by
  fun_induction scan names literal s generalizing segments with
  | case1 =>
    cases scanned
    exact scanned_flush _ .nil
  | case5 names literal rest name requirement later read free rest_ inner ih =>
    cases scanned
    exact scanned_flush _
      (.hole (name_of_readHole read) (by simpa using free) (fun _ => rfl) (ih inner))
  | case10 names literal start name requirement after read trailing later closed free rest_ inner
      different ih =>
    cases scanned
    exact scanned_flush _ (.hole (name_of_readHole read) (by simpa using free) nofun (ih inner))
  | case13 names literal c rest _ _ _ ih => exact ih scanned
  | case2 | case3 | case4 | case6 | case7 | case8 | case9 | case11 | case12 => cases scanned

theorem Scanned.valid {taken : List Text} {segments : List Segment}
    (scanned : Scanned taken segments) : ∀ name ∈ holeNames segments, IsGroupName name := by
  induction scanned with
  | nil => nofun
  | literal _ ih => exact ih
  | hole valid _ _ _ ih => simpa [holeNames_hole] using ⟨valid, ih⟩

theorem Scanned.fresh {taken : List Text} {segments : List Segment}
    (scanned : Scanned taken segments) : ∀ name ∈ holeNames segments, name ∉ taken := by
  induction scanned with
  | nil => nofun
  | literal _ ih => exact ih
  | hole _ free _ _ ih =>
    intro name member
    rcases List.mem_cons.mp member with rfl | later
    · exact free
    · exact fun listed => ih name later (List.mem_cons_of_mem _ listed)

theorem Scanned.nodup {taken : List Text} {segments : List Segment}
    (scanned : Scanned taken segments) : (holeNames segments).Nodup := by
  induction scanned with
  | nil => exact List.nodup_nil
  | literal _ ih => exact ih
  | hole _ _ _ later ih =>
    refine List.nodup_cons.mpr ⟨?_, ih⟩
    exact fun listed => later.fresh _ listed List.mem_cons_self

theorem Scanned.alone {taken : List Text} {segments : List Segment}
    (scanned : Scanned taken segments) :
    ∀ placeholder ∈ segments.filterMap Segment.placeholder?,
      placeholder.optional = false → placeholder.trailing = [] := by
  induction scanned with
  | nil => nofun
  | literal _ ih => exact ih
  | hole _ _ alone _ ih =>
    intro other member
    rcases List.mem_cons.mp member with rfl | later
    · exact alone
    · exact ih other later

theorem head_of_scan {names : List Text} {literal s : Text} {segments : List Segment} {c : Char}
    (scanned : scan names literal s = .ok segments) (begun : literal.reverse.head? = some c) :
    ∃ text rest, segments = .literal text :: rest ∧ text.head? = some c := by
  have nonempty : literal.reverse.isEmpty = false := by
    cases same : literal.reverse with
    | nil => rw [same] at begun; cases begun
    | cons => rfl
  fun_induction scan names literal s generalizing segments with
  | case1 =>
    cases scanned
    exact ⟨_, _, by rw [flush, nonempty]; rfl, begun⟩
  | case5 | case10 =>
    cases scanned
    exact ⟨_, _, by rw [flush, nonempty]; rfl, begun⟩
  | case13 names literal c' rest _ _ _ ih =>
    refine ih scanned ?_ ?_
    · rw [List.reverse_cons]
      cases same : literal.reverse with
      | nil => rw [same] at begun; cases begun
      | cons => rw [same] at begun; exact begun
    · simp
  | case2 | case3 | case4 | case6 | case7 | case8 | case9 | case11 | case12 => cases scanned

theorem scan_of_read {text : Text} {template : Template}
    (read : Template.read text = .ok template) :
    template.text = text ∧ scan [] [] text = .ok template.segments := by
  unfold Template.read at read
  split at read
  · cases read
  · next scanned =>
    cases read
    exact ⟨rfl, scanned⟩

theorem rooted_of_read {text : Text} {template : Template}
    (read : Template.read text = .ok template) (rooted : text.head? = some '/') :
    ∃ first rest, template.segments = .literal first :: rest ∧ first.head? = some '/' := by
  obtain ⟨_, scanned⟩ := scan_of_read read
  cases text with
  | nil => cases rooted
  | cons c text =>
    obtain rfl : c = '/' := by simpa using rooted
    have step : scan [] [] ('/' :: text) = scan [] ['/'] text := by
      rw [scan.eq_def]
      rfl
    exact head_of_scan (step.symm.trans scanned) rfl

end Template

end RouteTable
