import Mathlib.Data.List.Infix
import RouteTable.Proofs.Regex.Growth
import RouteTable.Proofs.Regex.Remainder

namespace RouteTable.Regex

variable {pattern : Text} {ast : Ast}

namespace Ast

variable {change : FlagChange → Prop} {set : ClassAst → Prop}

-- Openings that change flags as stated.
def Switches (change : FlagChange → Prop) (opening : Opening) : Prop :=
  ∀ found, opening = .group found ∨ opening = .flags found → change found

theorem Spells.grows : Grows (Switches change) (Spells change set) where
  empty := trivial
  flags switches := switches _ (Or.inr rfl)
  repetition _ _ _ spells := spells
  capture _ spells := spells
  group switches spells := ⟨switches _ (Or.inl rfl), spells⟩
  concat first later := ⟨first, later⟩
  alternation first other := ⟨first, other⟩

theorem Spells.mono {set' : ClassAst → Prop} (sets : ∀ found, set found → set' found)
    (spells : ast.Spells change set) : ast.Spells change set' := by
  induction ast with
  | empty | literal | dot | assertion => trivial
  | flags => exact spells
  | «class» found => exact sets found spells
  | repetition _ _ _ _ ih | capture _ _ ih => exact ih spells
  | group _ _ ih => exact ⟨spells.1, ih spells.2⟩
  | concat _ _ ihA ihB | alternation _ _ ihA ihB => exact ⟨ihA spells.1, ihB spells.2⟩

theorem Spells.both (changes : ast.Spells change fun _ => True)
    (sets : ast.Spells (fun _ => True) set) : ast.Spells change set := by
  induction ast with
  | empty | literal | dot | assertion => trivial
  | flags => exact changes
  | «class» => exact sets
  | repetition _ _ _ _ ih | capture _ _ ih => exact ih changes sets
  | group _ _ ih => exact ⟨changes.1, ih changes.2 sets.2⟩
  | concat _ _ ihA ihB | alternation _ _ ihA ihB =>
    exact ⟨ihA changes.1 sets.1, ihB changes.2 sets.2⟩

end Ast

theorem spells_of_part {free : Bool} {c : Char} {s later : Text} {change : FlagChange → Prop}
    (read : tokenFrom? free c s = some (.part ast, later)) : ast.Spells change ClassAst.Complete := by
  cases made_of_token read with
  | set found => exact (of_readClass found).1
  | @escape atom _ found =>
    have complete := (of_readEscape found).1
    cases atom with
    | «class» => exact complete
    | literal | assertion => trivial
  | dot | assertion | literal => trivial

theorem complete_of_ofText (read : Ast.ofText? pattern = some ast) :
    ast.Spells (fun _ => True) ClassAst.Complete := by
  refine good_of_ofText (fun _ => True) Ast.Spells.grows ?_ trivial read
  intro free s c rest token later _ _ found
  refine ⟨?_, trivial⟩
  cases token with
  | opening => exact fun _ _ => trivial
  | part => exact spells_of_part found
  | closing | bar | quantifier => trivial

def isFlag (c : Char) : Bool := (Flag.ofChar? c).isSome

-- Somewhere in the text a question mark and flags are followed by a hyphen and flags with an `i`.
def SpellsCaseOff (text : Text) : Prop :=
  ∃ on off, on.all isFlag = true ∧ off.all isFlag = true ∧ 'i' ∈ off ∧
    '?' :: on ++ '-' :: off <:+: text

theorem SpellsCaseOff.of_infix {part text : Text} (spelled : SpellsCaseOff part)
    (inside : part <:+: text) : SpellsCaseOff text := by
  obtain ⟨on, off, left, right, letter, here⟩ := spelled
  exact ⟨on, off, left, right, letter, here.trans inside⟩

theorem plain_of_not_mem {text : Text} (none_ : '?' ∉ text) : ¬SpellsCaseOff text := by
  rintro ⟨on, off, _, _, _, inside⟩
  exact none_ (inside.subset List.mem_cons_self)

theorem ofChar_caseInsensitive {c : Char} (found : Flag.ofChar? c = some .caseInsensitive) :
    c = 'i' := by
  unfold Flag.ofChar? at found
  split at found
  · rfl
  all_goals cases found

theorem spelled_of_readFlags {change : FlagChange} {negating dangling : Bool} {s : Text}
    {found : FlagChange × Char × Rest s} (read : readFlags change negating dangling s = some found)
    (still : Flag.caseInsensitive ∉ change.off) (off : Flag.caseInsensitive ∈ found.1.off) :
    ∃ off, off.all isFlag = true ∧ 'i' ∈ off ∧ (if negating then off <+: s
      else ∃ on, on.all isFlag = true ∧ on ++ '-' :: off <+: s) := by
  induction s generalizing change negating dangling with
  | nil => cases read
  | cons d s ih =>
    rcases readFlags_cases read with ⟨same, _⟩ | ⟨change', negating', _, inner, onward, same, _, step⟩
    · exact absurd (same ▸ off) still
    rw [same] at off
    rcases step with ⟨rfl, rfl, rfl, rfl⟩ | ⟨flag, known, rfl, rfl⟩
    · obtain ⟨off, flags, letter, spelled⟩ := ih onward still off
      exact ⟨off, flags, letter, [], rfl, (List.prefix_cons_inj '-').mpr spelled⟩
    · have flagged : isFlag d = true := by rw [isFlag, known]; rfl
      cases negating' with
      | false =>
        obtain ⟨off, flags, letter, on, others, spelled⟩ := ih onward still off
        refine ⟨off, flags, letter, d :: on, ?_, (List.prefix_cons_inj d).mpr spelled⟩
        rw [List.all_cons, flagged, others, Bool.and_self]
      | true =>
        by_cases here : flag = .caseInsensitive
        · subst here
          obtain rfl := ofChar_caseInsensitive known
          exact ⟨['i'], rfl, List.mem_cons_self, List.prefix_append ['i'] s⟩
        · have later : Flag.caseInsensitive ∉ flag :: change.off := fun member =>
            (List.mem_cons.mp member).elim (fun same => here same.symm) still
          obtain ⟨off, flags, letter, spelled⟩ := ih onward later off
          refine ⟨d :: off, ?_, List.mem_cons_of_mem d letter, (List.prefix_cons_inj d).mpr spelled⟩
          rw [List.all_cons, flagged, flags, Bool.and_self]

theorem opening_of_token {free : Bool} {c : Char} {s later : Text} {opening : Opening}
    (read : tokenFrom? free c s = some (.opening opening, later)) :
    openingFrom? (skip free s) = some (opening, later) := by
  cases made_of_token read with
  | opening found => rw [← readOpening_eq, plainly_of found]

theorem keepsCase_of_ofText (plain : ¬SpellsCaseOff pattern) (read : Ast.ofText? pattern = some ast) :
    ast.KeepsCase := by
  refine good_of_ofText (fun s => ¬SpellsCaseOff s) Ast.Spells.grows ?_ plain read
  intro free s c rest token later clear skipped found
  have ends := suffix_of_skip skipped
  refine ⟨?_, fun spelled =>
    clear (spelled.of_infix ((suffix_of_token found).trans ends).isInfix)⟩
  cases token with
  | opening opening =>
    obtain ⟨_, ⟨name, rfl⟩ | ⟨inner, change, flags, marked, switches, rfl, same⟩⟩ :=
      of_openingFrom (opening_of_token found)
    · rintro change (same | same) <;> cases same
    · have keeps : Flag.caseInsensitive ∉ flags.1.off := fun off => by
        obtain ⟨off, later, letter, on, earlier, here⟩ := spelled_of_readFlags switches nofun off
        have behind : '?' :: inner <:+ s := marked ▸ (skip_suffix free rest).trans ends
        exact clear ⟨on, off, earlier, later, letter,
          ((List.prefix_cons_inj '?').mpr here).isInfix.trans behind.isInfix⟩
      rintro change (group | switch)
      · rcases same with same | same <;> cases same.symm.trans group
        exact keeps
      · rcases same with same | same <;> cases same.symm.trans switch
        exact keeps
  | part => exact (spells_of_part found).mono fun _ _ => trivial
  | closing | bar | quantifier => trivial

theorem caseless_of_ofText {r : Regex} (read : Ast.ofText? pattern = some ast)
    (keeps : ast.KeepsCase) (meant : Regex.ofText? true pattern = some r) : r.Caseless := by
  obtain ⟨ast', read', rest⟩ := Option.bind_eq_some_iff.mp meant
  cases read.symm.trans read'
  obtain ⟨regex, meaning, sized⟩ := Option.bind_eq_some_iff.mp rest
  obtain ⟨⟨offered, flags⟩, found, same⟩ := Option.bind_eq_some_iff.mp meaning
  cases same
  split at sized
  · cases sized
  · cases sized
    exact Regex.Caseless.joins.alternation
      ((keeps.both (complete_of_ofText read)).caseless rfl found).2

variable {s t u : Text} {x : Char}

theorem infix_or_infix (inside : u <:+: s ++ x :: t) (foreign : x ∉ u) : u <:+: s ∨ u <:+: t := by
  obtain ⟨front, back, whole⟩ := inside
  rw [List.append_assoc] at whole
  rcases List.append_eq_append_iff.mp whole with ⟨mid, rfl, rest⟩ | ⟨mid, rfl, rest⟩
  · rcases List.append_eq_append_iff.mp rest with ⟨tail, rfl, _⟩ | ⟨tail, rfl, ends⟩
    · exact Or.inl ⟨front, tail, List.append_assoc _ _ _⟩
    · cases tail with
      | nil => exact Or.inl ⟨front, [], by rw [List.append_nil, List.append_nil]⟩
      | cons y tail =>
        obtain rfl := (List.cons.inj ends).1
        exact absurd (List.mem_append_right mid List.mem_cons_self) foreign
  · cases mid with
    | nil =>
      cases u with
      | nil => exact Or.inl (List.nil_infix)
      | cons y u =>
        obtain rfl := (List.cons.inj rest).1
        exact absurd List.mem_cons_self foreign
    | cons y mid =>
      obtain ⟨rfl, rfl⟩ := List.cons.inj rest
      exact Or.inr ⟨mid, back, List.append_assoc _ _ _⟩

theorem SpellsCaseOff.split (spelled : SpellsCaseOff (s ++ x :: t))
    (mark : x ≠ '?' ∧ x ≠ '-') (foreign : isFlag x = false) :
    SpellsCaseOff s ∨ SpellsCaseOff t := by
  obtain ⟨on, off, left, right, letter, inside⟩ := spelled
  have apart {flags : Text} (all : flags.all isFlag = true) : x ∉ flags := fun member => by
    rw [List.all_eq_true.mp all x member] at foreign
    cases foreign
  have absent : x ∉ '?' :: on ++ '-' :: off := by
    simp only [List.cons_append, List.mem_cons, List.mem_append, not_or]
    exact ⟨mark.1, apart left, mark.2, apart right⟩
  rcases infix_or_infix inside absent with here | there
  · exact Or.inl ⟨on, off, left, right, letter, here⟩
  · exact Or.inr ⟨on, off, left, right, letter, there⟩

-- Every hyphen comes right after a backslash.
def Guarded (text : Text) : Prop :=
  ∀ before after, text = before ++ '-' :: after → before.getLast? = some '\\'

theorem guarded_of_not_mem (none_ : '-' ∉ s) : Guarded s := by
  rintro before after rfl
  exact absurd (List.mem_append_right before List.mem_cons_self) none_

theorem Guarded.append (first : Guarded s) (later : Guarded t) : Guarded (s ++ t) := by
  intro before after whole
  rcases List.append_eq_append_iff.mp whole with ⟨mid, rfl, rest⟩ | ⟨mid, rfl, rest⟩
  · rw [List.getLast?_append, later mid after rest, Option.some_or]
  · cases mid with
    | nil => exact absurd (later [] after rest.symm) nofun
    | cons y mid =>
      obtain rfl := (List.cons.inj rest).1
      exact first before mid rfl

theorem guarded_escape (text : Text) : Guarded (escape text) := by
  induction text with
  | nil => exact guarded_of_not_mem nofun
  | cons c rest ih =>
    change Guarded ((if isMeta c then ['\\', c] else [c]) ++ escape rest)
    refine Guarded.append ?_ ih
    split
    · intro before after whole
      match before with
      | [] => cases whole
      | [d] =>
        obtain rfl := (List.cons.inj whole).1
        rfl
      | d :: e :: before => simp at whole
    · next plain =>
      refine guarded_of_not_mem fun member => ?_
      obtain rfl := List.mem_singleton.mp member
      exact plain rfl

theorem Guarded.plain (guarded : Guarded s) : ¬SpellsCaseOff s := by
  rintro ⟨on, off, left, _, _, front, back, whole⟩
  have last := guarded (front ++ '?' :: on) (off ++ back) (by simp [← whole])
  rw [List.getLast?_append_of_ne_nil _ (List.cons_ne_nil _ _)] at last
  rcases List.mem_cons.mp (List.mem_of_getLast? last) with same | flag
  · cases same
  · cases List.all_eq_true.mp left _ flag

-- Behind any guarded text, nothing goes back to case.
def Silent (text : Text) : Prop := ∀ before, Guarded before → ¬SpellsCaseOff (before ++ text)

theorem Guarded.silent (guarded : Guarded s) : Silent s :=
  fun _ first => (first.append guarded).plain

theorem Silent.behind (silent : Silent t) (guarded : Guarded s) : Silent (s ++ t) := by
  intro before first
  rw [← List.append_assoc]
  exact silent _ (first.append guarded)

theorem Silent.requirement (silent : Silent t) (plain : ¬SpellsCaseOff s) :
    Silent (':' :: s ++ ')' :: t) := by
  intro before first spelled
  rw [List.cons_append] at spelled
  rcases spelled.split ⟨by decide, by decide⟩ rfl with here | later
  · exact first.plain here
  · rcases later.split ⟨by decide, by decide⟩ rfl with here | there
    · exact plain here
    · exact silent [] (guarded_of_not_mem nofun) there

end RouteTable.Regex
