import RouteTable.Proofs.Regex.Caseless
import RouteTable.Proofs.Regex.Locality.Bounds
import RouteTable.Proofs.Regex.Locality.Class
import RouteTable.Proofs.Regex.Locality.Opening

namespace RouteTable.Regex

variable {free : Bool} {c : Char} {s rest : Text}

theorem skipBlanks_suffix (comment : Bool) (s : Text) : skipBlanks comment s <:+ s := by
  fun_induction skipBlanks comment s with
  | case1 => exact List.suffix_refl _
  | case2 c s ih | case3 _ c s _ _ ih | case4 _ s _ _ ih => exact ih.trans (List.suffix_cons _ _)
  | case5 => exact List.suffix_refl _

theorem skip_suffix (free : Bool) (s : Text) : skip free s <:+ s := by
  cases free with
  | false => exact List.suffix_refl s
  | true => exact skipBlanks_suffix false s

theorem suffix_of_skip (found : skip free s = c :: rest) : rest <:+ s :=
  (List.suffix_cons c rest).trans (found ▸ skip_suffix free s)

theorem suffix_of_next {later : Shorter s} (found : next? free s = some (c, later)) :
    later.1 <:+ s := suffix_of_skip (skip_of_next found)

theorem suffix_of_upToBrace {chars : Text} {later : Rest s}
    (read : upToBrace free s = some (chars, later)) : later.1 <:+ s := by
  fun_induction upToBrace free s generalizing chars with
  | case1 => cases read
  | case2 s rest found =>
    cases read
    exact suffix_of_next found
  | case3 => cases read
  | case4 s c rest found other chars inner onward ih =>
    cases read
    exact (ih onward).trans (suffix_of_next found)

theorem run_suffix (free : Bool) (kind : Char → Bool) (s : Text) : (run free kind s).2.1 <:+ s := by
  fun_induction run free kind s with
  | case1 => exact List.nil_suffix
  | case2 s c rest found shorter member chars later onward ih =>
    rw [onward] at ih
    exact ih.trans (suffix_of_skip found)
  | case3 s c rest found => exact (found ▸ skip_suffix free s : c :: rest <:+ s)

theorem suffix_of_decimal {number : Nat} {later : Rest s}
    (read : decimal? free s = some (number, later)) : later.1 <:+ s := by
  unfold decimal? at read
  simp only at read
  split at read
  · cases read
  · cases read
    exact (List.dropWhile_suffix _).trans
      ((run_suffix free Char.isDigit _).trans (List.dropWhile_suffix _))

theorem suffix_of_fixed {count : Nat} {chars : Text} {later : Rest s}
    (read : fixed? free count s = some (chars, later)) : later.1 <:+ s := by
  induction count generalizing s chars with
  | zero =>
    cases read
    exact List.suffix_refl s
  | succ count ih =>
    unfold fixed? at read
    split at read
    · cases read
    · next found =>
      split at read
      · cases read
      · next onward =>
        cases read
        exact (ih onward).trans (suffix_of_next found)

-- A class that stands for itself is one in a pattern.
def Atom.Complete : Atom → Prop
  | .class set => set.Complete
  | .literal _ | .assertion _ => True

theorem of_hexLiteral {digits : Text} {asByte : Bool} {atom : Atom}
    (read : hexLiteral? digits asByte = some atom) : atom.Complete := by
  unfold hexLiteral? at read
  split at read
  · cases read
  · obtain ⟨_, _, rfl⟩ := Option.map_eq_some_iff.mp read
    trivial

theorem of_readHex {count : Nat} {atom : Atom} {later : Rest s}
    (read : readHex free count s = some (atom, later)) : atom.Complete ∧ later.1 <:+ s := by
  unfold readHex at read
  split at read
  · cases read
  · next found =>
    split at read
    · split at read
      · cases read
      · next digits =>
        obtain ⟨atom, literal, same⟩ := Option.map_eq_some_iff.mp read
        cases same
        exact ⟨of_hexLiteral literal, (suffix_of_upToBrace digits).trans (suffix_of_next found)⟩
    · split at read
      · cases read
      · next digits =>
        obtain ⟨atom, literal, same⟩ := Option.map_eq_some_iff.mp read
        cases same
        exact ⟨of_hexLiteral literal, suffix_of_fixed digits⟩

theorem of_readProperty {negated : Bool} {atom : Atom} {later : Rest s}
    (read : readProperty free negated s = some (atom, later)) :
    atom.Complete ∧ later.1 <:+ s := by
  have named (query : PropertyQuery) (negated : Bool) :
      (Atom.class (.property query negated)).Complete :=
    ⟨trivial, Or.inr (Or.inr ⟨query, negated, rfl⟩)⟩
  unfold readProperty at read
  split at read
  · cases read
  · next found =>
    split at read
    · split at read
      · cases read
      · next text =>
        cases read
        exact ⟨named _ _, (suffix_of_upToBrace text).trans (suffix_of_next found)⟩
    · split at read
      · cases read
      · cases read
        exact ⟨named _ _, suffix_of_next found⟩

theorem of_readBoundary {atom : Atom} {later : Rest s}
    (read : readBoundary free s = some (atom, later)) : atom.Complete ∧ later.1 <:+ s := by
  unfold readBoundary at read
  split at read
  · next inner =>
    simp only at read
    split at read
    · split at read
      · cases read
      · cases read
        exact ⟨trivial, List.suffix_refl _⟩
    · split at read
      · cases read
      · next c rest closing =>
        split at read
        · obtain ⟨kind, _, same⟩ := Option.map_eq_some_iff.mp read
          cases same
          have after := run_suffix free (fun c => c.isAlpha || c == '-') inner
          rw [closing] at after
          exact ⟨trivial, (List.suffix_cons c rest).trans (after.trans (List.suffix_cons _ _))⟩
        · cases read
  · cases read
    exact ⟨trivial, List.suffix_refl _⟩

theorem of_simpleEscape {atom : Atom} (read : simpleEscape? c = some atom) : atom.Complete := by
  have word (kind : WordClass) (negated : Bool) : (Atom.class (.word kind negated)).Complete :=
    ⟨trivial, Or.inr (Or.inl ⟨kind, negated, rfl⟩)⟩
  unfold simpleEscape? at read
  split at read
  case h_1 | h_2 | h_3 | h_4 | h_5 | h_6 =>
    cases read
    exact word _ _
  case h_18 =>
    split at read
    · cases read
      trivial
    · cases read
  all_goals
    cases read
    trivial

theorem of_readEscape {atom : Atom} {later : Rest s}
    (read : readEscape free s = some (atom, later)) : atom.Complete ∧ later.1 <:+ s := by
  cases s with
  | nil => cases read
  | cons c rest =>
    have further {atom : Atom} {later : Rest rest} (found : atom.Complete ∧ later.1 <:+ rest) :
        atom.Complete ∧ later.1 <:+ c :: rest :=
      ⟨found.1, found.2.trans (List.suffix_cons c rest)⟩
    unfold readEscape at read
    simp only at read
    split at read
    case h_1 | h_2 | h_3 =>
      obtain ⟨pair, found, same⟩ := Option.map_eq_some_iff.mp read
      cases same
      exact further (of_readHex found)
    case h_4 | h_5 =>
      obtain ⟨pair, found, same⟩ := Option.map_eq_some_iff.mp read
      cases same
      exact further (of_readProperty found)
    case h_6 =>
      obtain ⟨pair, found, same⟩ := Option.map_eq_some_iff.mp read
      cases same
      exact further (of_readBoundary found)
    case h_7 =>
      obtain ⟨atom, simple, same⟩ := Option.map_eq_some_iff.mp read
      cases same
      exact ⟨of_simpleEscape simple, List.suffix_cons _ _⟩

theorem of_readAsciiClass {item : ClassAst} {later : Rest s}
    (read : readAsciiClass s = some (item, later)) : item.Ordered ∧ later.1 <:+ s := by
  have plain := plainly_of read
  by_cases colon : s.head? = some ':'
  · obtain ⟨inner, rfl⟩ := List.head?_eq_some_iff.mp colon
    have body : asciiBody inner <:+ inner := by
      unfold asciiBody
      split
      · exact List.drop_suffix 1 inner
      · exact List.suffix_refl inner
    rw [readAsciiClass_colon] at plain
    unfold asciiClass? at plain
    split at plain
    · next rest closed =>
      split at plain
      · obtain ⟨rfl, same⟩ := Prod.mk.inj (Option.some.inj plain)
        have after : rest <:+ ':' :: ']' :: rest := List.suffix_append [':', ']'] rest
        have name : ':' :: ']' :: rest <:+ asciiBody inner := closed ▸ List.dropWhile_suffix _
        exact ⟨trivial, same ▸ after.trans (name.trans (body.trans (List.suffix_cons ':' inner)))⟩
      · cases plain
    · cases plain
  · rw [readAsciiClass_other colon] at plain
    cases plain

theorem of_readItem {atom : Atom} {later : Rest s} (read : readItem free c s = some (atom, later)) :
    atom.Complete ∧ later.1 <:+ s := by
  unfold readItem at read
  split at read
  · exact of_readEscape read
  · cases read
    exact ⟨trivial, List.suffix_refl s⟩

theorem ordered_of_toClass {atom : Atom} {item : ClassAst} (complete : atom.Complete)
    (found : atom.toClass? = some item) : item.Ordered := by
  cases atom with
  | literal =>
    cases found
    trivial
  | assertion => cases found
  | «class» =>
    cases found
    exact complete.1

theorem of_readRange {item : ClassAst} {later : Rest s}
    (read : readRange free c s = some (item, later)) : item.Ordered ∧ later.1 <:+ s := by
  have plain := plainly_of read
  rw [readRange_eq] at plain
  obtain ⟨⟨low, middle⟩, lowItem, onward⟩ := Option.bind_eq_some_iff.mp plain
  obtain ⟨_, lowRead, rfl⟩ := of_plainly lowItem
  obtain ⟨complete, left⟩ := of_readItem lowRead
  simp only [rangeFrom?] at onward
  split at onward
  · obtain ⟨value, found, same⟩ := Option.map_eq_some_iff.mp onward
    obtain ⟨rfl, rest⟩ := Prod.mk.inj same
    exact ⟨ordered_of_toClass complete found, rest ▸ left⟩
  · next tail hyphen =>
    obtain ⟨first, rest, high, lo, hi, found, highItem, _, _, ordered, rfl⟩ :=
      upTo_eq_some_iff.mp onward
    obtain ⟨_, highRead, same⟩ := of_plainly highItem
    have behind := (suffix_of_skip found).trans (suffix_of_skip (skip_of_rangeTail hyphen))
    exact ⟨ordered, same ▸ (of_readItem highRead).2.trans (behind.trans left)⟩

namespace OpenClass

variable {level : OpenClass} {item : ClassAst}

-- The items of an open bracket and what waits for them have ranges that go upwards.
def Ordered (level : OpenClass) : Prop :=
  level.items.Ordered ∧ ∀ waiting ∈ level.pending, waiting.2.Ordered

theorem Ordered.add (ordered : level.Ordered) (here : item.Ordered) : (level.add item).Ordered := by
  refine ⟨?_, ordered.2⟩
  simp only [OpenClass.add]
  split
  · exact here
  · exact ⟨ordered.1, here⟩

theorem Ordered.value (ordered : level.Ordered) : level.value.Ordered := by
  unfold OpenClass.value
  split
  · exact ordered.1
  · next operator left waiting => exact ⟨ordered.2 _ waiting, ordered.1⟩

theorem Ordered.operate (ordered : level.Ordered) (operator : SetOperator) :
    (level.operate operator).Ordered := by
  refine ⟨trivial, ?_⟩
  rintro _ ⟨⟩
  exact ordered.value

theorem Ordered.close (ordered : level.Ordered) : level.close.Complete :=
  ⟨ordered.value, Or.inl ⟨_, _, rfl⟩⟩

end OpenClass

theorem of_led (free : Bool) {level : OpenClass} (ordered : level.Ordered) (s : Text) :
    (led free level s).1.Ordered ∧ (led free level s).2 <:+ s := by
  cases found : skip free s with
  | nil =>
    rw [led_of_end found]
    exact ⟨ordered, List.suffix_refl s⟩
  | cons c rest =>
    have fits : rest.length < s.length := (next_of_skip found).1
    rw [led_of_skip found]
    split
    · have hyphen : (level.add (.literal ⟨'-', false⟩)).Ordered := ordered.add trivial
      obtain ⟨inside, left⟩ := of_led free hyphen rest
      exact ⟨inside, left.trans (suffix_of_skip found)⟩
    · exact ⟨ordered, List.suffix_refl s⟩
termination_by s.length

theorem afterCaret_suffix (free : Bool) (s : Text) : (afterCaret free s).2 <:+ s := by
  unfold afterCaret
  split
  · next found => exact suffix_of_skip found
  · exact List.suffix_refl s

theorem of_opened (free : Bool) (s : Text) :
    (opened free s).1.Ordered ∧ (opened free s).2 <:+ s := by
  have start : OpenClass.Ordered { negated := (afterCaret free s).1 } := ⟨trivial, nofun⟩
  obtain ⟨inside, left⟩ := of_led free start (afterCaret free s).2
  unfold opened
  simp only
  split
  · next found _ =>
    exact ⟨inside.add trivial,
      (suffix_of_skip found).trans (left.trans (afterCaret_suffix free s))⟩
  · exact ⟨inside, left.trans (afterCaret_suffix free s)⟩

theorem of_readClassItems {outer : List OpenClass} {level : OpenClass} {set : ClassAst}
    {s later : Text} (ordered : ∀ inner ∈ level :: outer, inner.Ordered)
    (read : plainly (readClassItems free outer level s) = some (set, later)) :
    set.Complete ∧ later <:+ s := by
  cases found : skip free s with
  | nil =>
    rw [readClassItems_end found] at read
    cases read
  | cons c rest =>
    have fits : rest.length < s.length := (next_of_skip found).1
    obtain ⟨here, others⟩ := List.forall_mem_cons.mp ordered
    -- What is read on from an end of the text.
    have onward {outer : List OpenClass} {level : OpenClass} {inner : Text} (left : inner <:+ rest)
        (ordered : ∀ inner ∈ level :: outer, inner.Ordered)
        (read : plainly (readClassItems free outer level inner) = some (set, later)) :
        set.Complete ∧ later <:+ s := by
      have shorter := left.length_le
      obtain ⟨complete, further⟩ := of_readClassItems ordered read
      exact ⟨complete, further.trans (left.trans (suffix_of_skip found))⟩
    rw [readClassItems_skip found] at read
    unfold itemsFrom at read
    simp only at read
    split at read
    · split at read
      · next item inner named =>
        obtain ⟨final, known, rfl⟩ := of_plainly named
        obtain ⟨upward, left⟩ := of_readAsciiClass known
        exact onward left (List.forall_mem_cons.mpr ⟨here.add upward, others⟩) read
      · obtain ⟨inside, left⟩ := of_opened free rest
        exact onward left (List.forall_mem_cons.mpr ⟨inside, ordered⟩) read
    · split at read
      · split at read
        · cases read
          exact ⟨here.close, suffix_of_skip found⟩
        · obtain ⟨parent, above⟩ := List.forall_mem_cons.mp others
          exact onward (List.suffix_refl rest)
            (List.forall_mem_cons.mpr ⟨parent.add here.close.1, above⟩) read
      · split at read
        · exact onward (List.drop_suffix 1 rest)
            (List.forall_mem_cons.mpr ⟨here.operate _, others⟩) read
        · split at read
          · exact onward (List.drop_suffix 1 rest)
              (List.forall_mem_cons.mpr ⟨here.operate _, others⟩) read
          · split at read
            · exact onward (List.drop_suffix 1 rest)
                (List.forall_mem_cons.mpr ⟨here.operate _, others⟩) read
            · obtain ⟨⟨item, inner⟩, ranged, further⟩ := Option.bind_eq_some_iff.mp read
              obtain ⟨final, item, rfl⟩ := of_plainly ranged
              obtain ⟨upward, left⟩ := of_readRange item
              exact onward left (List.forall_mem_cons.mpr ⟨here.add upward, others⟩) further
termination_by s.length

theorem of_readClass {set : ClassAst} {later : Rest s}
    (read : readClass free s = some (set, later)) : set.Complete ∧ later.1 <:+ s := by
  have plain := plainly_of read
  rw [readClass_eq] at plain
  obtain ⟨inside, left⟩ := of_opened free s
  obtain ⟨complete, further⟩ := of_readClassItems (List.forall_mem_singleton.mpr inside) plain
  exact ⟨complete, further.trans left⟩

theorem laziness_suffix (free : Bool) (low : Nat) (high : Option Nat) (s : Text) :
    (laziness free low high s).2 <:+ s := by
  unfold laziness
  split
  · next found => exact suffix_of_skip found
  · exact List.suffix_refl s

theorem suffix_of_afterHigh {low high : Nat} {bounds : Nat × Option Nat × Bool} {s later : Text}
    (read : afterHigh? free low high s = some (bounds, later)) : later <:+ s := by
  unfold afterHigh? at read
  split at read
  · split at read
    · have left := laziness_suffix free low (some high) ‹Text›
      rw [Option.some.inj read] at left
      exact left.trans (List.suffix_cons _ _)
    · cases read
  · cases read

theorem suffix_of_afterComma {low : Nat} {bounds : Nat × Option Nat × Bool} {s later : Text}
    (read : afterComma? free low s = some (bounds, later)) : later <:+ s := by
  unfold afterComma? at read
  split at read
  · have left := laziness_suffix free low none ‹Text›
    rw [Option.some.inj read] at left
    exact left.trans (List.suffix_cons _ _)
  · obtain ⟨⟨high, inner⟩, number, ended⟩ := Option.bind_eq_some_iff.mp read
    obtain ⟨final, found, rfl⟩ := of_plainly number
    exact (suffix_of_afterHigh ended).trans (suffix_of_decimal found)

theorem suffix_of_afterLow {low : Nat} {bounds : Nat × Option Nat × Bool} {s later : Text}
    (read : afterLow? free low s = some (bounds, later)) : later <:+ s := by
  unfold afterLow? at read
  split at read
  · have left := laziness_suffix free low (some low) ‹Text›
    rw [Option.some.inj read] at left
    exact left.trans (List.suffix_cons _ _)
  · exact (suffix_of_afterComma read).trans ((skip_suffix free _).trans (List.suffix_cons _ _))
  · cases read

theorem suffix_of_readBounds {bounds : Nat × Option Nat × Bool} {later : Rest s}
    (read : readBounds free s = some (bounds, later)) : later.1 <:+ s := by
  have plain := plainly_of read
  rw [readBounds_eq] at plain
  obtain ⟨⟨low, inner⟩, number, ended⟩ := Option.bind_eq_some_iff.mp plain
  obtain ⟨final, found, rfl⟩ := of_plainly number
  exact (suffix_of_afterLow ended).trans ((suffix_of_decimal found).trans (skip_suffix free s))

theorem readFlags_cases {change : FlagChange} {negating dangling : Bool} {d : Char}
    {found : FlagChange × Char × Rest (d :: s)}
    (read : readFlags change negating dangling (d :: s) = some found) :
    (found.1 = change ∧ found.2.2.1 = s) ∨
      ∃ change' negating' dangling' inner,
        readFlags change' negating' dangling' s = some inner ∧
        found.1 = inner.1 ∧ found.2.2.1 = inner.2.2.1 ∧
        ((d = '-' ∧ negating = false ∧ negating' = true ∧ change' = change) ∨
          ∃ flag, Flag.ofChar? d = some flag ∧ negating' = negating ∧
            change' = if negating then { change with off := flag :: change.off }
              else { change with on := flag :: change.on }) := by
  unfold readFlags at read
  split at read
  · split at read
    · cases read
    · cases read
      exact Or.inl ⟨rfl, rfl⟩
  · obtain ⟨inner, onward, same⟩ := Option.map_eq_some_iff.mp read
    cases same
    refine Or.inr ?_
    -- A hyphen that turns to the flags to switch off, or one more flag.
    split at onward
    · next hyphen =>
      split at onward
      · cases onward
      · next first =>
        exact ⟨_, _, _, inner, onward, rfl, rfl,
          Or.inl ⟨hyphen, Bool.eq_false_iff.mpr first, rfl, rfl⟩⟩
    · split at onward
      · cases onward
      · next flag known =>
        split at onward
        · cases onward
        · split at onward
          · next off =>
            exact ⟨_, _, _, inner, onward, rfl, rfl,
              Or.inr ⟨flag, known, off.symm, by rw [if_pos off]⟩⟩
          · next on =>
            exact ⟨_, _, _, inner, onward, rfl, rfl,
              Or.inr ⟨flag, known, (Bool.eq_false_iff.mpr on).symm, by rw [if_neg on]⟩⟩

theorem suffix_of_readFlags {change : FlagChange} {negating dangling : Bool}
    {found : FlagChange × Char × Rest s} (read : readFlags change negating dangling s = some found) :
    found.2.2.1 <:+ s := by
  induction s generalizing change negating dangling with
  | nil => cases read
  | cons d s ih =>
    rcases readFlags_cases read with ⟨_, rest⟩ | ⟨_, _, _, inner, onward, _, rest, _⟩
    · rw [rest]
      exact List.suffix_cons d s
    · rw [rest]
      exact (ih onward).trans (List.suffix_cons d s)

theorem suffix_of_readName {opening : Opening} {later : Rest s}
    (read : readName s = some (opening, later)) :
    (∃ name, opening = .capture (some name)) ∧ later.1 <:+ s := by
  unfold readName at read
  simp only at read
  split at read
  · cases read
  · next closed =>
    split at read
    · cases read
      exact ⟨⟨_, rfl⟩, (List.suffix_cons _ _).trans (closed ▸ List.dropWhile_suffix _)⟩
    · cases read

theorem of_openingFrom {opening : Opening} {start later : Text}
    (read : openingFrom? start = some (opening, later)) :
    later <:+ start ∧ ((∃ name, opening = .capture name) ∨
      ∃ rest change found, start = '?' :: rest ∧ readFlags {} false false rest = some found ∧
        found.1 = change ∧ (opening = .group change ∨ opening = .flags change)) := by
  unfold openingFrom? at read
  split at read
  case h_1 | h_2 | h_3 | h_4 => cases read
  case h_5 rest =>
    obtain ⟨final, named, rfl⟩ := of_plainly read
    obtain ⟨⟨name, rfl⟩, left⟩ := suffix_of_readName named
    exact ⟨left.trans (List.suffix_append ['?', 'P', '<'] rest), Or.inl ⟨_, rfl⟩⟩
  case h_6 rest _ _ =>
    obtain ⟨final, named, rfl⟩ := of_plainly read
    obtain ⟨⟨name, rfl⟩, left⟩ := suffix_of_readName named
    exact ⟨left.trans (List.suffix_append ['?', '<'] rest), Or.inl ⟨_, rfl⟩⟩
  case h_7 rest _ _ _ _ _ _ =>
    split at read
    · cases read
    · next change c final flags =>
      have left : final.1 <:+ '?' :: rest :=
        (suffix_of_readFlags flags).trans (List.suffix_cons '?' rest)
      split at read
      · cases read
        exact ⟨left, Or.inr ⟨rest, change, _, rfl, flags, rfl, Or.inl rfl⟩⟩
      · split at read
        · cases read
        · cases read
          exact ⟨left, Or.inr ⟨rest, change, _, rfl, flags, rfl, Or.inr rfl⟩⟩
  case h_8 =>
    cases read
    exact ⟨List.suffix_refl _, Or.inl ⟨none, rfl⟩⟩

theorem suffix_of_token {token : Token} {later : Text}
    (read : tokenFrom? free c s = some (token, later)) : later <:+ s := by
  cases made_of_token read with
  | opening found =>
    have plain := plainly_of found
    rw [readOpening_eq] at plain
    exact (of_openingFrom plain).1.trans (skip_suffix free s)
  | set found => exact (of_readClass found).2
  | escape found => exact (of_readEscape found).2
  | bounds found => exact suffix_of_readBounds found
  | lazy _ _ marked => exact marked ▸ List.suffix_cons _ _
  | greedy | closing | bar | dot | assertion | literal => exact List.suffix_refl s

end RouteTable.Regex
