import RouteTable.Proofs.Slug
import RouteTable.Proofs.Template.Scan
import RouteTable.Route.Generate

namespace RouteTable

open Unicode (foldCase)

-- The texts that a segment may be spelled as, with the value that its hole takes, if it has one.
inductive Spelling : Segment → List (Option Text) → Text → Prop
  | literal {text spelled : Text} (alike : Alike spelled text) :
    Spelling (.literal text) [] spelled
  | required {placeholder : Placeholder} {value : Text} (required : placeholder.optional = false)
    (nonempty : value ≠ []) (units : ∀ c ∈ value, UnitChar c) :
    Spelling (.hole placeholder) [some value] value
  | absent {placeholder : Placeholder} (optional : placeholder.optional = true) :
    Spelling (.hole placeholder) [none] []
  | present {placeholder : Placeholder} {value spelled : Text}
    (optional : placeholder.optional = true) (units : ∀ c ∈ value, UnitChar c)
    (alike : Alike spelled placeholder.trailing) :
    Spelling (.hole placeholder) [some value] (value ++ spelled)

-- A text read segment by segment, with the values of all holes in order.
inductive Reading : List Segment → List (Option Text) → Text → Prop
  | nil : Reading [] [] []
  | cons {segment : Segment} {rest : List Segment} {values values' : List (Option Text)}
    {piece later : Text} (first : Spelling segment values piece)
    (onward : Reading rest values' later) :
    Reading (segment :: rest) (values ++ values') (piece ++ later)

def Spells (segments : List Segment) (text : Text) : Prop := ∃ values, Reading segments values text

-- The text itself or with a slash behind it.
def Slashed (text path : Text) : Prop := path = text ∨ path = text ++ ['/']

theorem Slashed.append_left {text path : Text} (slashed : Slashed text path) (earlier : Text) :
    Slashed (earlier ++ text) (earlier ++ path) := by
  rcases slashed with rfl | rfl
  · exact Or.inl rfl
  · exact Or.inr (List.append_assoc _ _ _).symm

theorem Slashed.length_le {text path : Text} (slashed : Slashed text path) :
    text.length ≤ path.length := by
  rcases slashed with rfl | rfl <;> simp

theorem slashed_stripSlash (text : Text) : Slashed (Route.stripSlash text) text := by
  unfold Route.stripSlash Text.dropSuffix?
  split
  · next ending =>
    obtain ⟨before, rfl⟩ := List.isSuffixOf_iff_suffix.mp ending
    exact Or.inr (by simp)
  · exact Or.inl rfl

def Segment.strip : Segment → Segment
  | .literal text => .literal (Route.stripSlash text)
  | .hole placeholder =>
    .hole { placeholder with trailing := Route.stripSlash placeholder.trailing }

-- The segments without the slash that the last one ends in.
def bare : List Segment → List Segment
  | [] => []
  | [last] => [last.strip]
  | segment :: rest => segment :: bare rest

theorem Alike.of_slashed {text path spelled : Text} (slashed : Slashed text path)
    (alike : Alike spelled text) : ∃ longer, Slashed spelled longer ∧ Alike longer path := by
  rcases slashed with rfl | rfl
  · exact ⟨spelled, Or.inl rfl, alike⟩
  · exact ⟨spelled ++ ['/'], Or.inr rfl, alike.append (.refl _)⟩

theorem Alike.to_slashed {text path longer : Text} (slashed : Slashed text path)
    (alike : Alike longer path) : ∃ spelled, Slashed spelled longer ∧ Alike spelled text := by
  rcases slashed with rfl | rfl
  · exact ⟨longer, Or.inl rfl, alike⟩
  · obtain ⟨spelled, final, rfl, first, last⟩ := alike.split
    exact ⟨spelled, Or.inr (by rw [last.slash]), first⟩

theorem Spelling.of_strip {segment : Segment} {values : List (Option Text)} {text : Text}
    (spelling : Spelling segment.strip values text) :
    ∃ path, Slashed text path ∧ Spelling segment values path := by
  cases segment with
  | literal written =>
    cases spelling with
    | literal alike =>
      obtain ⟨longer, slashed, alike⟩ := alike.of_slashed (slashed_stripSlash written)
      exact ⟨longer, slashed, .literal alike⟩
  | hole placeholder =>
    cases spelling with
    | required required nonempty units =>
      exact ⟨text, Or.inl rfl, .required required nonempty units⟩
    | absent optional => exact ⟨[], Or.inl rfl, .absent optional⟩
    | present optional units alike =>
      obtain ⟨longer, slashed, alike⟩ := alike.of_slashed (slashed_stripSlash placeholder.trailing)
      exact ⟨_, slashed.append_left _, .present optional units alike⟩

theorem Spelling.to_strip {segment : Segment} {values : List (Option Text)} {path : Text}
    (spelling : Spelling segment values path) :
    ∃ text, Slashed text path ∧ Spelling segment.strip values text := by
  cases spelling with
  | @literal written _ alike =>
    obtain ⟨spelled, slashed, alike⟩ := alike.to_slashed (slashed_stripSlash written)
    exact ⟨spelled, slashed, .literal alike⟩
  | required required nonempty units => exact ⟨path, Or.inl rfl, .required required nonempty units⟩
  | absent optional => exact ⟨[], Or.inl rfl, .absent optional⟩
  | @present placeholder _ _ optional units alike =>
    obtain ⟨spelled, slashed, alike⟩ := alike.to_slashed (slashed_stripSlash placeholder.trailing)
    exact ⟨_, slashed.append_left _, .present optional units alike⟩

theorem Reading.of_bare {segments : List Segment} {values : List (Option Text)} {text : Text}
    (reading : Reading (bare segments) values text) :
    ∃ path, Slashed text path ∧ Reading segments values path := by
  induction segments using bare.induct generalizing values text with
  | case1 => exact ⟨text, Or.inl rfl, reading⟩
  | case2 last =>
    obtain _ | ⟨first, onward⟩ := reading
    cases onward
    obtain ⟨path, slashed, spelling⟩ := first.of_strip
    exact ⟨path ++ [], by simpa using slashed, .cons spelling .nil⟩
  | case3 segment rest several ih =>
    rw [bare] at reading
    · obtain _ | ⟨first, onward⟩ := reading
      obtain ⟨path, slashed, later⟩ := ih onward
      exact ⟨_, slashed.append_left _, .cons first later⟩
    · exact several

theorem Reading.to_bare {segments : List Segment} {values : List (Option Text)} {path : Text}
    (reading : Reading segments values path) :
    ∃ text, Slashed text path ∧ Reading (bare segments) values text := by
  induction segments using bare.induct generalizing values path with
  | case1 => exact ⟨path, Or.inl rfl, reading⟩
  | case2 last =>
    obtain _ | ⟨first, onward⟩ := reading
    cases onward
    obtain ⟨text, slashed, spelling⟩ := first.to_strip
    exact ⟨text ++ [], by simpa using slashed, .cons spelling .nil⟩
  | case3 segment rest several ih =>
    rw [bare]
    · obtain _ | ⟨first, onward⟩ := reading
      obtain ⟨text, slashed, later⟩ := ih onward
      exact ⟨_, slashed.append_left _, .cons first later⟩
    · exact several

theorem holeNames_bare (segments : List Segment) :
    holeNames (bare segments) = holeNames segments := by
  induction segments using bare.induct with
  | case1 => rfl
  | case2 last => cases last <;> rfl
  | case3 segment rest several ih =>
    rw [bare]
    · cases segment with
      | literal text => exact ih
      | hole placeholder => exact congrArg (placeholder.name :: ·) ih
    · exact several

theorem mem_bare {segments : List Segment} {placeholder : Placeholder}
    (listed : .hole placeholder ∈ segments) :
    ∃ stripped : Placeholder, .hole stripped ∈ bare segments ∧
      stripped.name = placeholder.name ∧ stripped.optional = placeholder.optional := by
  induction segments using bare.induct with
  | case1 => cases listed
  | case2 last =>
    obtain rfl := List.mem_singleton.mp listed
    exact ⟨_, List.mem_singleton_self _, rfl, rfl⟩
  | case3 segment rest several ih =>
    rw [bare]
    · rcases List.mem_cons.mp listed with rfl | later
      · exact ⟨placeholder, List.mem_cons_self, rfl, rfl⟩
      · obtain ⟨stripped, member, same⟩ := ih later
        exact ⟨stripped, List.mem_cons_of_mem _ member, same⟩
    · exact several

theorem reading_fill {segments : List Segment} {value : Placeholder → Option Text}
    (alone : ∀ placeholder ∈ segments.filterMap Segment.placeholder?,
      placeholder.optional = false → placeholder.trailing = [])
    (needed : ∀ placeholder ∈ segments.filterMap Segment.placeholder?,
      value placeholder = none → placeholder.optional = true)
    (slugs : ∀ placeholder ∈ segments.filterMap Segment.placeholder?, ∀ text,
      value placeholder = some text → text ≠ [] ∧ ∀ c ∈ text, UnitChar c) :
    Reading segments ((segments.filterMap Segment.placeholder?).map value)
      (Route.fill segments ((segments.filterMap Segment.placeholder?).map value)) := by
  induction segments with
  | nil => exact .nil
  | cons segment rest ih =>
    cases segment with
    | literal text => exact .cons (.literal (.refl text)) (ih alone needed slugs)
    | hole placeholder =>
      have later := ih (fun other member => alone other (List.mem_cons_of_mem _ member))
        (fun other member => needed other (List.mem_cons_of_mem _ member))
        (fun other member => slugs other (List.mem_cons_of_mem _ member))
      have bareHole := alone placeholder List.mem_cons_self
      have needed := needed placeholder List.mem_cons_self
      have slugs := slugs placeholder List.mem_cons_self
      change Reading _ (value placeholder :: _) (Route.fill _ (value placeholder :: _))
      cases chosen : value placeholder with
      | none => exact .cons (.absent (needed chosen)) later
      | some text =>
        obtain ⟨nonempty, units⟩ := slugs text chosen
        cases optional : placeholder.optional with
        | true => exact .cons (.present optional units (.refl _)) later
        | false =>
          rw [Route.fill, bareHole optional, List.append_nil]
          exact .cons (.required optional nonempty units) later

end RouteTable
