import RouteTable.Proofs.Path
import RouteTable.Proofs.Template.Reading

namespace RouteTable

open Unicode (foldCase)

namespace Path

def Interchangeable (s t : Text) : Prop :=
  ∀ later, segments (s ++ later) = segments (t ++ later)

namespace Interchangeable

variable {s t u : Text}

theorem append (same : Interchangeable s t) (piece : Text) :
    Interchangeable (s ++ piece) (t ++ piece) := by
  intro later
  rw [List.append_assoc, List.append_assoc]
  exact same (piece ++ later)

theorem trans (first : Interchangeable s t) (later : Interchangeable t u) : Interchangeable s u :=
  fun rest => (first rest).trans (later rest)

theorem slash (s : Text) : Interchangeable (s ++ ['/'] ++ ['/']) (s ++ ['/']) := by
  intro later
  have twice : s ++ ['/'] ++ ['/'] ++ later = s ++ '/' :: '/' :: later := by simp
  have once : s ++ ['/'] ++ later = s ++ '/' :: later := by simp
  rw [twice, once, segments_append_slash, segments_append_slash, segments_slash]

end Interchangeable

end Path

-- Every group ends in a slash and follows one; `after` tells whether a slash was just passed.
def Grouped (after : Bool) : List Segment → Prop
  | [] => True
  | .literal text :: rest => Grouped (text.getLast? == some '/') rest
  | .hole placeholder :: rest =>
    if placeholder.optional then after = true ∧ placeholder.trailing = ['/'] ∧ Grouped true rest
    else Grouped false rest

def slugOf (value : Option Text) : Option Text := (value.filter (!·.isEmpty)).map Slug.ofText

theorem filter_nonempty {value : Text} (nonempty : value ≠ []) :
    (some value).filter (!·.isEmpty) = some value := by
  cases value with
  | nil => exact absurd rfl nonempty
  | cons => rfl

theorem filter_slugs {slugs : List (Option Text)} (nonempty : some [] ∉ slugs) :
    slugs.map (·.filter (!·.isEmpty)) = slugs := by
  refine (List.map_congr_left fun slug member => ?_).trans (List.map_id slugs)
  cases slug with
  | none => rfl
  | some slug => exact filter_nonempty fun empty => nonempty (empty ▸ member)

theorem slugOf_units {value : Text} (nonempty : value ≠ []) (units : ∀ c ∈ value, UnitChar c) :
    slugOf (some value) = some (value.map foldCase) := by
  rw [slugOf, filter_nonempty nonempty, Option.map_some, Slug.ofText_of_units units]

theorem foldCase_comp : foldCase ∘ foldCase = foldCase := funext Unicode.foldCase_idem

theorem fill_value {placeholder : Placeholder} {rest : List Segment} {value : Text}
    {values : List (Option Text)} (nonempty : value ≠ []) (units : ∀ c ∈ value, UnitChar c) :
    Route.fill (.hole placeholder :: rest) (([some value] ++ values).map slugOf) =
      value.map foldCase ++ placeholder.trailing ++ Route.fill rest (values.map slugOf) := by
  rw [List.map_append, List.map_singleton, slugOf_units nonempty units]
  rfl

theorem Reading.interchangeable_fill {after : Bool} {segments : List Segment}
    {values : List (Option Text)} {text : Text} (grouped : Grouped after segments)
    (alone : ∀ placeholder ∈ segments.filterMap Segment.placeholder?,
      placeholder.optional = false → placeholder.trailing = [])
    (reading : Reading segments values text) {u v : Text} (same : Path.Interchangeable u v)
    (slash : after = true → v.getLast? = some '/') :
    Path.Interchangeable (u ++ text.map foldCase)
      (v ++ (Route.fill segments (values.map slugOf)).map foldCase) := by
  -- What is written so far counts only up to interchange and by whether it ends in a slash.
  induction reading generalizing after u v with
  | nil => exact same.append []
  | @cons segment rest values values' piece later first onward ih =>
    cases first with
    | @literal text _ alike =>
      have filled : Route.fill (.literal text :: rest) (([] ++ values').map slugOf) =
          text ++ Route.fill rest (values'.map slugOf) := rfl
      rw [filled, List.map_append, List.map_append, alike, ← List.append_assoc,
        ← List.append_assoc]
      refine ih grouped alone (same.append _) fun ends => ?_
      obtain ⟨before, rfl⟩ := List.getLast?_eq_some_iff.mp (by simpa using ends)
      simp [foldCase_slash]
    | @required placeholder _ required nonempty units =>
      rw [Grouped, required, if_neg Bool.false_ne_true] at grouped
      rw [fill_value nonempty units, alone placeholder List.mem_cons_self required,
        List.append_nil, List.map_append, List.map_append, List.map_map, foldCase_comp,
        ← List.append_assoc, ← List.append_assoc]
      exact ih grouped (fun other member => alone other (List.mem_cons_of_mem _ member))
        (same.append _) nofun
    | @absent placeholder optional =>
      rw [Grouped, optional, if_pos rfl] at grouped
      obtain ⟨passed, _, groupedRest⟩ := grouped
      exact ih groupedRest (fun other member => alone other (List.mem_cons_of_mem _ member)) same
        fun _ => slash passed
    | @present placeholder value spelled optional units alike =>
      rw [Grouped, optional, if_pos rfl] at grouped
      obtain ⟨passed, trailing, groupedRest⟩ := grouped
      rw [trailing] at alike
      obtain rfl := alike.slash
      have onward := @ih true groupedRest
        (fun other member => alone other (List.mem_cons_of_mem _ member))
      by_cases empty : value = []
      · -- An empty value leaves its slash behind, next to the one that was passed.
        subst empty
        obtain ⟨before, rfl⟩ := List.getLast?_eq_some_iff.mp (slash passed)
        have slashes : Path.Interchangeable (u ++ ['/']) (before ++ ['/']) :=
          (same.append ['/']).trans (.slash before)
        have joined := onward slashes fun _ => by simp
        have filled : Route.fill (.hole placeholder :: rest) (([some []] ++ values').map slugOf) =
            Route.fill rest (values'.map slugOf) := rfl
        rw [filled]
        simpa [foldCase_slash] using joined
      · rw [fill_value empty units, trailing]
        have joined := onward (same.append (value.map foldCase ++ ['/'])) fun _ => by simp
        simpa [foldCase_slash, foldCase_comp] using joined

theorem Reading.segments_fill {segments : List Segment} {values : List (Option Text)} {text : Text}
    (grouped : Grouped false segments)
    (alone : ∀ placeholder ∈ segments.filterMap Segment.placeholder?,
      placeholder.optional = false → placeholder.trailing = [])
    (reading : Reading segments values text) :
    (Path.segments (Route.fill segments (values.map slugOf))).map (·.map foldCase) =
      (Path.segments text).map (·.map foldCase) := by
  have begun : Path.Interchangeable [] [] := fun _ => rfl
  have same := reading.interchangeable_fill grouped alone begun (absurd · Bool.false_ne_true) []
  simp only [List.nil_append, List.append_nil] at same
  rw [← Path.segments_fold, ← same, Path.segments_fold]

-- Literal text between holes, or at the end: it starts with a slash and no slashes meet in it.
def IsStretch (text : Text) : Prop := text.head? = some '/' ∧ Path.Single text

-- Slashes on both sides of every hole; one group may stand at the end, with a slash of its own.
def Slotted : List Segment → Prop
  | [.literal text] => IsStretch text
  | .literal text :: .hole placeholder :: rest =>
    (IsStretch text ∧ text.getLast? = some '/') ∧
      if placeholder.optional then placeholder.trailing = ['/'] ∧ rest = []
      else rest = [] ∨ Slotted rest
  | _ => False

def picked : List Segment → List Text → List (Option Text)
  | [], _ => []
  | .literal text :: rest, pieces => picked rest (pieces.drop (Path.segments text).length)
  | .hole _ :: rest, pieces => pieces.head? :: picked rest pieces.tail

theorem Alike.head {s t : Text} (alike : Alike s t) (first : t.head? = some '/') :
    s.head? = some '/' := by
  have folded := congrArg List.head? alike
  rw [List.head?_map, List.head?_map, first, Option.map_some, foldCase_slash] at folded
  obtain ⟨c, found, slash⟩ := Option.map_eq_some_iff.mp folded
  rw [found, foldCase_eq_slash.mp slash]

theorem Alike.last {s t : Text} (alike : Alike s t) (last : t.getLast? = some '/') :
    s.getLast? = some '/' := by
  have folded := congrArg List.getLast? alike
  rw [List.getLast?_map, List.getLast?_map, last, Option.map_some, foldCase_slash] at folded
  obtain ⟨c, found, slash⟩ := Option.map_eq_some_iff.mp folded
  rw [found, foldCase_eq_slash.mp slash]

theorem Alike.length_segments {s t : Text} (alike : Alike s t) :
    (Path.segments s).length = (Path.segments t).length := by
  have folded := congrArg Path.segments alike
  rw [Path.segments_fold, Path.segments_fold] at folded
  simpa using congrArg List.length folded

theorem not_mem_of_units {value : Text} (units : ∀ c ∈ value, UnitChar c) : '/' ∉ value :=
  fun member => not_unitChar_slash (units '/' member)

def Stops (later : Text) : Prop := later = [] ∨ later.head? = some '/'

theorem segments_value {value later : Text} (nonempty : value ≠ [])
    (units : ∀ c ∈ value, UnitChar c) (stops : Stops later) :
    Path.segments (value ++ later) = value :: Path.segments later := by
  have alone := Path.segments_piece nonempty (not_mem_of_units units)
  rcases stops with rfl | slash
  · rw [List.append_nil, alone]
    rfl
  · obtain ⟨rest, rfl⟩ := List.head?_eq_some_iff.mp slash
    rw [Path.segments_append_slash, alone, Path.segments_slash]
    rfl

theorem Slotted.rooted {segments : List Segment} (slotted : Slotted segments)
    {values : List (Option Text)} {path : Text} (reading : Reading segments values path) :
    path.head? = some '/' := by
  have begins {text : Text} {rest : List Segment} (stretch : IsStretch text)
      (reading : Reading (.literal text :: rest) values path) : path.head? = some '/' := by
    obtain _ | ⟨first, onward⟩ := reading
    cases first with
    | literal alike =>
      obtain ⟨later, rfl⟩ := List.head?_eq_some_iff.mp (alike.head stretch.1)
      rfl
  unfold Slotted at slotted
  split at slotted
  · exact begins slotted reading
  · exact begins slotted.1.1 reading
  · cases slotted

theorem Slotted.stops {segments : List Segment} (slotted : segments = [] ∨ Slotted segments)
    {values : List (Option Text)} {text : Text} (reading : Reading segments values text) :
    Stops text := by
  rcases slotted with rfl | slotted
  · cases reading
    exact Or.inl rfl
  · exact Or.inr (slotted.rooted reading)

-- What is read from a hole between slashes on: a value and the rest of the template, or the last
-- group, which may be left out.
inductive Held (rest : List Segment) : List (Option Text) → Text → Prop
  | value {value later : Text} {values : List (Option Text)} (nonempty : value ≠ [])
    (units : ∀ c ∈ value, UnitChar c) (shape : rest = [] ∨ Slotted rest)
    (onward : Reading rest values later) : Held rest (some value :: values) (value ++ later)
  | absent (final : rest = []) : Held rest [none] []
  | group {value : Text} (final : rest = []) (units : ∀ c ∈ value, UnitChar c) :
    Held rest [some value] (value ++ ['/'])

theorem Slotted.split {written : Text} {placeholder : Placeholder} {rest : List Segment}
    (slotted : Slotted (.literal written :: .hole placeholder :: rest))
    {values : List (Option Text)} {text : Text}
    (reading : Reading (.literal written :: .hole placeholder :: rest) values text) :
    ∃ before tail, text = before ++ ['/'] ++ tail ∧ Alike (before ++ ['/']) written ∧
      Held rest values tail := by
  obtain ⟨⟨_, ends⟩, shape⟩ := slotted
  obtain _ | ⟨first, onward⟩ := reading
  obtain _ | ⟨second, onward⟩ := onward
  cases first with
  | literal alike =>
    obtain ⟨before, rfl⟩ := List.getLast?_eq_some_iff.mp (alike.last ends)
    refine ⟨before, _, rfl, alike, ?_⟩
    cases second with
    | required required nonempty units =>
      rw [required, if_neg Bool.false_ne_true] at shape
      exact .value nonempty units shape onward
    | absent optional =>
      rw [optional, if_pos rfl] at shape
      obtain ⟨_, rfl⟩ := shape
      cases onward
      exact .absent rfl
    | present optional units alike =>
      rw [optional, if_pos rfl] at shape
      obtain ⟨trailing, rfl⟩ := shape
      cases onward
      rw [trailing] at alike
      rw [alike.slash, List.append_nil, List.append_nil]
      exact .group rfl units

theorem Reading.picked {segments : List Segment} (slotted : Slotted segments)
    {values : List (Option Text)} {text : Text} (reading : Reading segments values text) :
    values.map (·.filter (!·.isEmpty)) = picked segments (Path.segments text) := by
  induction segments using Slotted.induct generalizing values text with
  | case1 written =>
    obtain _ | ⟨first, onward⟩ := reading
    cases onward
    cases first
    rfl
  | case2 written placeholder rest ih =>
    obtain ⟨before, tail, rfl, alike, held⟩ := slotted.split reading
    have passed := alike.length_segments
    -- The literal accounts for as many segments as its spelling has, and the hole for the next.
    rw [Path.segments_append_final] at passed
    rw [List.append_assoc, List.singleton_append, Path.segments_append_slash, RouteTable.picked,
      List.drop_left' passed, RouteTable.picked]
    cases held with
    | value nonempty units shape onward =>
      rw [segments_value nonempty units (Slotted.stops shape onward), List.map_cons,
        filter_nonempty nonempty]
      refine congrArg (some _ :: ·) ?_
      rcases shape with rfl | slotted
      · cases onward
        rfl
      · exact ih slotted onward
    | absent final =>
      rw [final]
      rfl
    | @group value final units =>
      rw [final, Path.segments_append_final]
      by_cases empty : value = []
      · rw [empty]
        rfl
      · rw [Path.segments_piece empty (not_mem_of_units units), List.map_singleton,
          filter_nonempty empty]
        rfl
  | case3 => simp_all [Slotted]

theorem single_value {value later : Text} (nonempty : value ≠ [])
    (units : ∀ c ∈ value, UnitChar c) (single : Path.Single later) :
    Path.Single (value ++ later) ∧ (value ++ later).head? ≠ some '/' := by
  have within := not_mem_of_units units
  constructor
  · refine Path.single_append.mpr ⟨Path.single_of_not_mem within, single, fun last => ?_⟩
    exact absurd (List.mem_of_getLast? last) within
  · cases value with
    | nil => exact absurd rfl nonempty
    | cons c value =>
      intro first
      obtain rfl : c = '/' := Option.some.inj first
      exact within List.mem_cons_self

theorem Reading.single {segments : List Segment} (slotted : Slotted segments)
    {values : List (Option Text)} {text : Text} (reading : Reading segments values text)
    (filled : some [] ∉ values) : Path.Single text := by
  induction segments using Slotted.induct generalizing values text with
  | case1 written =>
    obtain _ | ⟨first, onward⟩ := reading
    cases onward
    cases first with
    | literal alike =>
      rw [List.append_nil]
      exact Path.single_of_alike alike slotted.2
  | case2 written placeholder rest ih =>
    obtain ⟨before, tail, rfl, alike, held⟩ := slotted.split reading
    have begun := Path.single_of_alike alike slotted.1.1.2
    have joined (go : Path.Single tail ∧ tail.head? ≠ some '/') :
        Path.Single (before ++ ['/'] ++ tail) :=
      Path.single_append.mpr ⟨begun, go.1, fun _ => go.2⟩
    cases held with
    | value nonempty units shape onward =>
      refine joined (single_value nonempty units ?_)
      rcases shape with rfl | slotted
      · cases onward
        exact List.isChain_nil
      · exact ih slotted onward fun member => filled (List.mem_cons_of_mem _ member)
    | absent => exact joined ⟨List.isChain_nil, nofun⟩
    | group _ units =>
      refine joined (single_value ?_ units (List.isChain_singleton _))
      rintro rfl
      exact filled List.mem_cons_self
  | case3 => simp_all [Slotted]

end RouteTable
