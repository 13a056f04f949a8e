import RouteTable.Proofs.Template.Escape
import RouteTable.Proofs.Template.Inline

namespace RouteTable

-- What the check of a requirement finds.
def TemplateFault.ofRequirement : TemplateFault → Bool
  | emptyRequirement _ | trailingQuantifier _ _ | invalidRequirement _ _ => true
  | _ => false

namespace Template

open Requirement (EndsInQuantifier)

variable {names : List Text} {literal name requirement after s : Text} {fault : TemplateFault}

theorem readTrailing_refused (refused : readTrailing s = .error fault) :
    fault.ofRequirement = false := by
  induction s with
  | nil => cases refused; rfl
  | cons c s ih =>
    unfold readTrailing at refused
    split at refused
    · cases refused
    · split at refused
      · cases refused; rfl
      · split at refused
        · cases refused; rfl
        · split at refused
          · next later => cases refused; exact ih later
          · cases refused

theorem readHole_refused (about : fault.ofRequirement = true)
    (refused : readHole s = .error fault) :
    ∃ name requirement after, s = name ++ ':' :: (requirement ++ '\x7d' :: after) ∧ IsName name ∧
      readRequirement 0 false (requirement ++ '\x7d' :: after) = some (requirement, after) ∧
      Requirement.check name requirement = .error fault := by
  unfold readHole at refused
  simp only at refused
  split at refused
  · cases refused; cases about
  · next nonempty =>
    split at refused
    · cases refused; cases about
    · next letter =>
      have chars : ∀ c ∈ s.takeWhile isNameChar, isNameChar c = true := fun c member =>
        List.all_eq_true.mp List.all_takeWhile c member
      have named : IsName (s.takeWhile isNameChar) :=
        isName_iff.mpr ⟨by simpa using nonempty, by simpa using letter, chars⟩
      have whole : s.takeWhile isNameChar ++ s.dropWhile isNameChar = s :=
        List.takeWhile_append_dropWhile
      split at refused
      · cases refused
      · next colon =>
        split at refused
        · cases refused; cases about
        · next requirement after read =>
          obtain ⟨_, same⟩ := readRequirement_iff.mp read
          split at refused
          · next checked =>
            cases refused
            rw [same] at read
            rw [colon, same] at whole
            exact ⟨_, requirement, after, whole.symm, named, read, checked⟩
          · cases refused
      · cases refused; cases about

-- The reader comes to a requirement that the check does not accept, with all in front read.
inductive StopsAt (names : List Text) (literal : Text) (fault : TemplateFault) : Text → Prop
  | requirement {before name requirement after : Text} {segments : List Segment} (grouped : Bool)
    (front : scan names literal before = .ok segments) (named : IsName name)
    (verbatim :
      readRequirement 0 false (requirement ++ '\x7d' :: after) = some (requirement, after))
    (refused : Requirement.check name requirement = .error fault) :
    StopsAt names literal fault
      (before ++ (opening grouped ++ (name ++ ':' :: (requirement ++ '\x7d' :: after))))

theorem StopsAt.at_hole {inner : Text} (grouped : Bool) (about : fault.ofRequirement = true)
    (refused : readHole inner = .error fault) :
    StopsAt names literal fault (opening grouped ++ inner) := by
  obtain ⟨name, requirement, after, rfl, named, verbatim, checked⟩ := readHole_refused about refused
  have front : scan names literal [] = .ok (flush literal.reverse []) := by rw [scan.eq_def]
  exact .requirement grouped front named verbatim checked

theorem StopsAt.prepend {names' : List Text} {literal' front : Text}
    (reads : ∀ later segments, scan names' literal' later = .ok segments →
      ∃ segments, scan names literal (front ++ later) = .ok segments)
    (stops : StopsAt names' literal' fault s) : StopsAt names literal fault (front ++ s) := by
  cases stops with
  | requirement grouped earlier named verbatim refused =>
    obtain ⟨_, read⟩ := reads _ _ earlier
    rw [← List.append_assoc]
    exact .requirement grouped read named verbatim refused

theorem StopsAt.behind_hole {placeholder : Placeholder} {text : Text}
    (stops : StopsAt (placeholder.name :: names) [] fault s) (sound : SoundHole placeholder)
    (written : Written placeholder text) (fresh : placeholder.name ∉ names) :
    StopsAt names literal fault (text ++ s) := by
  refine stops.prepend fun later segments read => ?_
  rw [scan_hole sound written, resume, if_neg fresh, read]
  exact ⟨_, rfl⟩

theorem stopsAt_of_scan (about : fault.ofRequirement = true)
    (refused : scan names literal s = .error fault) : StopsAt names literal fault s := by
  -- What was scanned before the fault reads the same whatever follows, so it can be put in front.
  fun_induction scan names literal s with
  | case2 names literal rest fault' hole =>
    cases refused
    exact .at_hole false about hole
  | case4 names literal rest name requirement later hole fresh fault' found ih =>
    cases refused
    obtain ⟨text, sound, written, whole⟩ := written_of_readHole hole
    rw [whole]
    exact (ih found).behind_hole sound written (by simpa using fresh)
  | case6 names literal inner fault' hole =>
    cases refused
    exact .at_hole true about hole
  | case7 names literal inner name requirement after _ fault' trailing =>
    cases refused
    rw [readTrailing_refused trailing] at about
    cases about
  | case9 names literal inner name requirement after hole trailing later group fresh fault' found
      different ih =>
    cases refused
    obtain ⟨text, sound, written, whole⟩ := written_of_readTrailing hole group
    rw [whole]
    exact (ih found).behind_hole sound written (by simpa using fresh)
  | case13 names literal c rest opening group closing ih =>
    have free : BracketFree [c] := by simp_all [BracketFree]
    have stops : StopsAt names literal fault ([c] ++ rest) := by
      refine (ih refused).prepend fun later segments read => ⟨segments, ?_⟩
      rw [scan_literal free]
      exact read
    exact stops
  | case1 | case5 | case10 => cases refused
  | case3 | case8 | case11 | case12 => cases refused; cases about

theorem read_eq_error_iff {text : Text} :
    Template.read text = .error (.template text fault) ↔ scan [] [] text = .error fault := by
  unfold Template.read
  cases scan [] [] text <;> simp

theorem read_refused_iff {text : Text} (about : fault.ofRequirement = true) :
    Template.read text = .error (.template text fault) ↔
      ∃ (slot : Slot) (requirement : Text), text = slot.inline requirement ∧
        slot.Verbatim requirement ∧ Requirement.check slot.name requirement = .error fault := by
  rw [read_eq_error_iff]
  constructor
  · intro scanned
    cases stopsAt_of_scan about scanned with
    | @requirement before name requirement after segments grouped front named verbatim refused =>
      have readable : ∃ template, Template.read before = .ok template :=
        ⟨⟨before, segments⟩, Slot.read_iff_scan.mpr ⟨rfl, front⟩⟩
      exact ⟨⟨before, grouped, name, after, readable, named⟩, requirement, rfl, verbatim, refused⟩
  · rintro ⟨slot, requirement, rfl, verbatim, refused⟩
    obtain ⟨names, literal, front, _, inline⟩ := slot.scan_slot
    rw [inline requirement verbatim, refused]
    rfl

theorem check_eq_trailingQuantifier_iff {name' requirement' : Text} :
    Requirement.check name requirement = .error (.trailingQuantifier requirement' name') ↔
      requirement = requirement' ∧ name = name' ∧
        Requirement.endsWithQuantifier requirement = true := by
  unfold Requirement.check
  split
  · next empty =>
    obtain rfl := List.isEmpty_iff.mp empty
    simp [Requirement.endsWithQuantifier]
  · split
    · next ends => simp [ends]
    · next plain => split <;> simp [plain]

-- The check counts escapes as the reader took them, so a template is refused for a quantifier
-- exactly where the reader comes to a requirement that ends in one it did not take as escaped.
theorem escapes_agree :
    (∀ s requirement rest, readRequirement 0 false s = some (requirement, rest) ↔
      Requirement.ReadTo s requirement rest) ∧
    ∀ text requirement name,
      Template.read text = .error (.template text (.trailingQuantifier requirement name)) ↔
        ∃ slot : Slot, slot.name = name ∧ text = slot.inline requirement ∧
          slot.Verbatim requirement ∧ EndsInQuantifier requirement := by
  refine ⟨fun _ _ _ => Requirement.readRequirement_iff_readTo, fun text requirement name => ?_⟩
  rw [read_refused_iff rfl]
  constructor
  · rintro ⟨slot, _, whole, verbatim, refused⟩
    obtain ⟨rfl, named, ends⟩ := check_eq_trailingQuantifier_iff.mp refused
    have read := Requirement.readRequirement_iff_readTo.mp verbatim
    exact ⟨slot, named, whole, verbatim, read.quantifier.mp ends⟩
  · rintro ⟨slot, named, whole, verbatim, ends⟩
    have read := Requirement.readRequirement_iff_readTo.mp verbatim
    have refused := check_eq_trailingQuantifier_iff.mpr ⟨rfl, named, read.quantifier.mpr ends⟩
    exact ⟨slot, requirement, whole, verbatim, refused⟩

end Template

end RouteTable
