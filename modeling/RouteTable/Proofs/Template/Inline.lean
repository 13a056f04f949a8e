import Mathlib.Data.List.Nodup
import RouteTable.Proofs.Template.Grammar

namespace RouteTable

open Template

-- With another requirement, if it is the placeholder of this name.
def Placeholder.requiring (placeholder : Placeholder) (name requirement : Text) : Placeholder :=
  if placeholder.name = name then { placeholder with requirement } else placeholder

def Segment.requiring (name requirement : Text) : Segment → Segment
  | .literal text => .literal text
  | .hole placeholder => .hole (placeholder.requiring name requirement)

section

variable {name requirement : Text} {placeholder : Placeholder} {segments : List Segment}

@[simp] theorem Placeholder.requiring_name :
    (placeholder.requiring name requirement).name = placeholder.name := by
  unfold requiring
  split <;> rfl

@[simp] theorem Placeholder.requiring_optional :
    (placeholder.requiring name requirement).optional = placeholder.optional := by
  unfold requiring
  split <;> rfl

@[simp] theorem Placeholder.requiring_trailing :
    (placeholder.requiring name requirement).trailing = placeholder.trailing := by
  unfold requiring
  split <;> rfl

theorem Placeholder.requirement_requiring :
    (placeholder.requiring name requirement).requirement =
      if placeholder.name = name then requirement else placeholder.requirement := by
  unfold requiring
  split <;> rfl

theorem placeholders_requiring (segments : List Segment) :
    (segments.map (Segment.requiring name requirement)).filterMap Segment.placeholder? =
      (segments.filterMap Segment.placeholder?).map (·.requiring name requirement) := by
  induction segments with
  | nil => rfl
  | cons segment rest ih =>
    cases segment with
    | literal text => exact ih
    | hole placeholder => exact congrArg (_ :: ·) ih

theorem requiring_of_not_mem (unused : name ∉ holeNames segments) :
    segments.map (Segment.requiring name requirement) = segments := by
  induction segments with
  | nil => rfl
  | cons segment rest ih =>
    cases segment with
    | literal text => exact congrArg _ (ih unused)
    | hole placeholder =>
      obtain ⟨other, later⟩ := not_or.mp (mt List.mem_cons.mpr unused)
      have same : placeholder.requiring name requirement = placeholder :=
        if_neg fun here => other here.symm
      rw [List.map_cons, ih later, Segment.requiring, same]

theorem requiring_flush (literal : Text) (segments : List Segment) :
    (flush literal segments).map (Segment.requiring name requirement) =
      flush literal (segments.map (Segment.requiring name requirement)) := by
  unfold flush
  split <;> rfl

end

namespace Template

variable {names taken : List Text} {literal name requirement after s : Text}
  {segments : List Segment}

theorem scan_front (formed : Formed taken segments) (renders : Renders segments s) (literal : Text) :
    ∃ names literal' front, ∀ later,
      scan taken literal (s ++ later) = (scan names literal' later).map (front ++ ·) := by
  induction formed generalizing literal s with
  | @nil taken =>
    cases renders
    refine ⟨taken, literal, [], fun later => ?_⟩
    cases found : scan taken literal later <;> exact found
  | @literal taken text rest _ free _ _ ih =>
    cases renders with
    | @literal _ written _ onward =>
      obtain ⟨names, literal', front, same⟩ := ih onward (text.reverse ++ literal)
      refine ⟨names, literal', front, fun later => ?_⟩
      rw [List.append_assoc, scan_literal free, same]
  | @hole taken placeholder rest sound fresh _ ih =>
    cases renders with
    | hole written onward =>
      obtain ⟨names, literal', front, same⟩ := ih onward []
      refine ⟨names, literal', flush literal.reverse (.hole placeholder :: front), fun later => ?_⟩
      rw [List.append_assoc, scan_hole sound written, resume, if_neg fresh, same]
      cases scan names literal' later with
      | error fault => rfl
      | ok segments =>
        unfold flush
        split <;> rfl

def opening (grouped : Bool) : Text := if grouped then "(\x7b" else "\x7b"

def resumeIn (grouped : Bool) (names : List Text) (literal name requirement after : Text) :
    Except TemplateFault (List Segment) :=
  if grouped then
    (readTrailing after).bind fun group => resume names literal
      { name, requirement, optional := true, trailing := group.1 } group.2
  else resume names literal { name, requirement } after

theorem scan_opening (grouped : Bool) (names : List Text) (literal inner : Text) :
    scan names literal (opening grouped ++ inner) = (readHole inner).bind fun hole =>
      resumeIn grouped names literal hole.1 hole.2.1 hole.2.2 := by
  cases grouped with
  | false => exact scan_braced names literal inner
  | true => exact scan_grouped names literal inner

theorem readHole_plain (named : IsName name) (after : Text) :
    readHole (name ++ '\x7d' :: after) = .ok (name, defaultRequirement, after) :=
  readHole_iff.mpr ⟨named, check_default name, balanced_default, _, .implicit rfl, by simp⟩

theorem readHole_inline (named : IsName name)
    (verbatim : readRequirement 0 false (requirement ++ '\x7d' :: after) = some (requirement, after)) :
    readHole (name ++ ':' :: (requirement ++ '\x7d' :: after)) =
      (Requirement.check name requirement).map fun _ => (name, requirement, after) := by
  obtain ⟨nonempty, letter, _⟩ := isName_iff.mp named
  obtain ⟨taken, dropped⟩ := takeWhile_name (c := ':') named (by decide)
    (requirement ++ '\x7d' :: after)
  unfold readHole
  simp only [taken, dropped, nonempty, letter, Bool.false_eq_true, if_false, verbatim]
  cases Requirement.check name requirement <;> rfl

theorem resume_requiring (names : List Text) (literal later : Text) (placeholder : Placeholder)
    (requirement : Text) :
    resume names literal { placeholder with requirement } later =
      (resume names literal placeholder later).map
        (List.map (Segment.requiring placeholder.name requirement)) := by
  unfold resume
  simp only
  split
  · rfl
  · cases found : scan (placeholder.name :: names) [] later with
    | error fault => rfl
    | ok segments =>
      have unused : placeholder.name ∉ holeNames segments := by
        intro used
        exact (scanned_of_scan found).fresh _ used List.mem_cons_self
      have here : placeholder.requiring placeholder.name requirement =
          { placeholder with requirement } := if_pos rfl
      simp only [Except.map, requiring_flush, List.map_cons, requiring_of_not_mem unused,
        Segment.requiring, here]

theorem resumeIn_requiring (grouped : Bool) (names : List Text)
    (literal name other requirement after : Text) :
    resumeIn grouped names literal name requirement after =
      (resumeIn grouped names literal name other after).map
        (List.map (Segment.requiring name requirement)) := by
  cases grouped with
  | false => exact resume_requiring names literal after { name, requirement := other } requirement
  | true =>
    unfold resumeIn
    simp only [if_true]
    cases readTrailing after with
    | error fault => rfl
    | ok group =>
      exact resume_requiring names literal group.2
        { name, requirement := other, optional := true, trailing := group.1 } requirement

theorem hole_of_resumeIn {grouped : Bool}
    (found : resumeIn grouped names literal name requirement after = .ok segments) :
    ∃ placeholder ∈ segments.filterMap Segment.placeholder?,
      placeholder.name = name ∧ placeholder.requirement = requirement := by
  have inside {placeholder : Placeholder} {later : Text}
      (found : resume names literal placeholder later = .ok segments) :
      placeholder ∈ segments.filterMap Segment.placeholder? := by
    unfold resume at found
    split at found
    · cases found
    · cases rest : scan (placeholder.name :: names) [] later with
      | error fault => rw [rest] at found; cases found
      | ok others =>
        rw [rest] at found
        cases found
        have member : .hole placeholder ∈ flush literal.reverse (.hole placeholder :: others) := by
          unfold flush
          split <;> simp
        exact List.mem_filterMap.mpr ⟨_, member, rfl⟩
  cases grouped with
  | false => exact ⟨_, inside found, rfl, rfl⟩
  | true =>
    unfold resumeIn at found
    simp only [if_true] at found
    cases closed : readTrailing after with
    | error fault => rw [closed] at found; cases found
    | ok group =>
      rw [closed] at found
      exact ⟨_, inside found, rfl, rfl⟩

-- A place in a template text where a hole of this name stands, in a group of its own or not.
structure Slot where
  before : Text
  grouped : Bool
  name : Text
  after : Text
  readable : ∃ template, Template.read before = .ok template
  named : IsName name

namespace Slot

def plain (slot : Slot) : Text :=
  slot.before ++ (opening slot.grouped ++ (slot.name ++ '\x7d' :: slot.after))

def inline (slot : Slot) (requirement : Text) : Text :=
  slot.before ++
    (opening slot.grouped ++ (slot.name ++ ':' :: (requirement ++ '\x7d' :: slot.after)))

def Verbatim (slot : Slot) (requirement : Text) : Prop :=
  readRequirement 0 false (requirement ++ '\x7d' :: slot.after) = some (requirement, slot.after)

variable {slot : Slot} {template : Template}

-- The reader is at the hole in one state, whatever is written into the hole.
theorem scan_slot (slot : Slot) : ∃ names literal front,
    scan [] [] slot.plain = (resumeIn slot.grouped names literal slot.name defaultRequirement
      slot.after).map (front ++ ·) ∧
    ∀ requirement, slot.Verbatim requirement → scan [] [] (slot.inline requirement) =
      (Requirement.check slot.name requirement).bind fun _ => (resumeIn slot.grouped names literal
        slot.name requirement slot.after).map (front ++ ·) := by
  obtain ⟨template, read⟩ := slot.readable
  obtain ⟨formed, renders⟩ := formed_of_scan (scan_of_read read).2 (List.forall_mem_nil _)
  have written : Renders template.segments slot.before := renders
  obtain ⟨names, literal, front, same⟩ := scan_front formed written []
  refine ⟨names, literal, front, ?_, fun requirement verbatim => ?_⟩
  · rw [plain, same, scan_opening, readHole_plain slot.named]
    rfl
  · rw [inline, same, scan_opening, readHole_inline slot.named verbatim]
    cases Requirement.check slot.name requirement <;> rfl

theorem hole_of_plain (read : Template.read slot.plain = .ok template) :
    ∃ placeholder ∈ template.placeholders,
      placeholder.name = slot.name ∧ placeholder.requirement = defaultRequirement := by
  obtain ⟨names, literal, front, same, _⟩ := slot.scan_slot
  have scanned := (scan_of_read read).2
  rw [same] at scanned
  cases found : resumeIn slot.grouped names literal slot.name defaultRequirement slot.after with
  | error fault => rw [found] at scanned; cases scanned
  | ok segments =>
    rw [found] at scanned
    obtain ⟨placeholder, member, facts⟩ := hole_of_resumeIn found
    refine ⟨placeholder, ?_, facts⟩
    rw [Template.placeholders_eq, ← Except.ok.inj scanned, List.filterMap_append]
    exact List.mem_append_right _ member

-- Names are distinct, so every hole of this name is the one that leaves its requirement open.
theorem requirement_of_plain {placeholder : Placeholder}
    (read : Template.read slot.plain = .ok template) (member : placeholder ∈ template.placeholders)
    (here : placeholder.name = slot.name) : placeholder.requirement = defaultRequirement := by
  obtain ⟨hole, listed, named, required⟩ := hole_of_plain read
  have distinct := (scanned_of_scan (scan_of_read read).2).nodup
  rw [holeNames, ← Template.placeholders_eq] at distinct
  have same := List.inj_on_of_nodup_map distinct member listed (here.trans named.symm)
  exact same ▸ required

theorem requiring_front {front segments : List Segment} {text : Text} (requirement : Text)
    (scanned : scan [] [] text = .ok (front ++ segments)) (here : name ∈ holeNames segments) :
    (front ++ segments).map (Segment.requiring name requirement) =
      front ++ segments.map (Segment.requiring name requirement) := by
  have distinct := (scanned_of_scan scanned).nodup
  rw [holeNames, List.filterMap_append, List.map_append] at distinct
  obtain ⟨_, _, apart⟩ := List.nodup_append.mp distinct
  rw [List.map_append, requiring_of_not_mem fun used => apart name used name here rfl]

theorem scan_inline {requirement : Text} (verbatim : slot.Verbatim requirement) :
    scan [] [] (slot.inline requirement) = (Requirement.check slot.name requirement).bind fun _ =>
      (scan [] [] slot.plain).map (List.map (Segment.requiring slot.name requirement)) := by
  obtain ⟨names, literal, front, same, inline⟩ := slot.scan_slot
  rw [inline requirement verbatim, resumeIn_requiring _ _ _ _ defaultRequirement]
  refine congrArg _ (funext fun _ => ?_)
  cases found : resumeIn slot.grouped names literal slot.name defaultRequirement slot.after with
  | error fault =>
    rw [found] at same
    rw [same]
    rfl
  | ok segments =>
    obtain ⟨placeholder, member, named, _⟩ := hole_of_resumeIn found
    have here : slot.name ∈ holeNames segments := named ▸ List.mem_map_of_mem member
    rw [found] at same
    rw [same]
    exact congrArg Except.ok (requiring_front requirement same here).symm

theorem read_iff_scan {text : Text} :
    Template.read text = .ok template ↔
      template.text = text ∧ scan [] [] text = .ok template.segments := by
  refine ⟨scan_of_read, ?_⟩
  rintro ⟨rfl, scanned⟩
  unfold Template.read
  rw [scanned]

theorem read_inline_iff {requirement : Text} (verbatim : slot.Verbatim requirement) :
    Template.read (slot.inline requirement) = .ok template ↔
      Requirement.check slot.name requirement = .ok () ∧
        ∃ plain, Template.read slot.plain = .ok plain ∧ template =
          ⟨slot.inline requirement, plain.segments.map (Segment.requiring slot.name requirement)⟩ := by
  rw [read_iff_scan, scan_inline verbatim]
  constructor
  · rintro ⟨text, scanned⟩
    cases checked : Requirement.check slot.name requirement with
    | error fault => rw [checked] at scanned; cases scanned
    | ok =>
      cases found : scan [] [] slot.plain with
      | error fault => rw [checked, found] at scanned; cases scanned
      | ok segments =>
        rw [checked, found] at scanned
        refine ⟨rfl, ⟨slot.plain, segments⟩, read_iff_scan.mpr ⟨rfl, found⟩, ?_⟩
        obtain ⟨_, _⟩ := template
        cases text
        cases scanned
        rfl
  · rintro ⟨checked, plain, read, rfl⟩
    rw [checked, (scan_of_read read).2]
    exact ⟨rfl, rfl⟩

end Slot

end Template

end RouteTable
