import Mathlib.Data.List.TakeDrop
import RouteTable.Proofs.Ranges
import RouteTable.Unicode.Property

namespace RouteTable.Unicode

namespace CharSet

variable {alphabet : Alphabet} {a b set : CharSet} {c : Char}

structure Caseless (set : CharSet) : Prop where
  sound : set.sound = true
  both : ∀ c : Char, set.contains c.toLower = set.contains c

namespace Caseless

theorem union (left : Caseless a) (right : Caseless b) : Caseless (.union a b) where
  sound := Bool.and_eq_true_iff.mpr ⟨left.sound, right.sound⟩
  both c := by rw [contains, contains, left.both, right.both]

theorem inter (left : Caseless a) (right : Caseless b) : Caseless (.inter a b) where
  sound := Bool.and_eq_true_iff.mpr ⟨left.sound, right.sound⟩
  both c := by rw [contains, contains, left.both, right.both]

theorem diff (left : Caseless a) (right : Caseless b) : Caseless (.diff a b) where
  sound := Bool.and_eq_true_iff.mpr ⟨left.sound, right.sound⟩
  both c := by rw [contains, contains, left.both, right.both]

theorem symmDiff (left : Caseless a) (right : Caseless b) : Caseless (.symmDiff a b) where
  sound := Bool.and_eq_true_iff.mpr ⟨left.sound, right.sound⟩
  both c := by rw [contains, contains, left.both, right.both]

theorem compl (inner : Caseless a) : Caseless (.compl a) where
  sound := inner.sound
  both c := by rw [contains, contains, inner.both]

theorem empty : Caseless .empty := ⟨rfl, fun _ => rfl⟩

theorem caseClosure (alphabet : Alphabet) (sound : a.sound = true) :
    Caseless (.caseClosure alphabet a) where
  sound := sound
  both c := by
    have same (d : Char) : d ∈ alphabet.variants c.toLower ↔ d ∈ alphabet.variants c := by
      cases alphabet with
      | ascii =>
        have lower (e : Char) : e.toLower.toNat = asciiFold e.toNat := toNat_toLower e
        simp only [Alphabet.variants, mem_asciiVariants, lower, pairs_asciiFold.idem]
      | unicode => simp only [Alphabet.variants, mem_caseVariants, foldCase_toLower]
    rw [contains, contains, Bool.eq_iff_iff, List.any_eq_true, List.any_eq_true]
    exact exists_congr fun d => and_congr_left fun _ => same d

theorem of_isClosed (sound : set.sound = true) (closed : set.isClosed alphabet = true) :
    Caseless set := by
  have pair {p q : Bool} (both : (p && q) = true) : p = true ∧ q = true :=
    Bool.and_eq_true_iff.mp both
  induction set with
  | table spans =>
    obtain rfl : spans = [] := of_decide_eq_true closed
    exact empty
  | union a b ihA ihB =>
    exact (ihA (pair sound).1 (pair closed).1).union (ihB (pair sound).2 (pair closed).2)
  | inter a b ihA ihB =>
    exact (ihA (pair sound).1 (pair closed).1).inter (ihB (pair sound).2 (pair closed).2)
  | diff a b ihA ihB =>
    exact (ihA (pair sound).1 (pair closed).1).diff (ihB (pair sound).2 (pair closed).2)
  | symmDiff a b ihA ihB =>
    exact (ihA (pair sound).1 (pair closed).1).symmDiff (ihB (pair sound).2 (pair closed).2)
  | compl a ih => exact (ih sound closed).compl
  | caseClosure other a => exact caseClosure other sound

theorem close (alphabet : Alphabet) (sound : set.sound = true) :
    Caseless (set.close alphabet) := by
  fun_induction CharSet.close alphabet set with
  | case1 a b open_ ihA ihB =>
    obtain ⟨left, right⟩ := Bool.and_eq_true_iff.mp sound
    exact (ihA left).union (ihB right)
  | case2 a b plain => exact caseClosure alphabet sound
  | case3 a other closed => exact of_isClosed sound closed
  | case4 a other loose => exact caseClosure alphabet sound

-- Whether a set has both cases of each letter of ASCII, or neither.
def hasBothCases (set : CharSet) : Bool :=
  (List.range 26).all fun i =>
    set.contains (Char.ofNat (0x61 + i)) == set.contains (Char.ofNat (0x41 + i))

theorem of_hasBothCases (sound : set.sound = true) (both : hasBothCases set = true) :
    Caseless set where
  sound := sound
  both c := by
    by_cases capital : 0x41 ≤ c.toNat ∧ c.toNat ≤ 0x5A
    · have letter : Char.ofNat (0x41 + (c.toNat - 0x41)) = c := by
        rw [Nat.add_sub_cancel' capital.1, Char.ofNat_toNat]
      have small : Char.ofNat (0x61 + (c.toNat - 0x41)) = c.toLower := by
        rw [← Char.ofNat_toNat c.toLower, toNat_toLower, if_pos capital]
        congr 1
        omega
      have found := List.all_eq_true.mp both (c.toNat - 0x41) (List.mem_range.mpr (by omega))
      rw [letter, small] at found
      exact beq_iff_eq.mp found
    · rw [Char.toNat_inj.mp ((toNat_toLower c).trans (if_neg capital))]

theorem negate (inner : Caseless set) : Caseless set.negate := by
  have gap : Caseless (table [⟨0xD7FF, 0xE000, 1⟩]) := of_hasBothCases (by decide) (by decide)
  unfold CharSet.negate
  simp only
  split
  · exact inner.compl.union gap
  · exact inner.compl

end Caseless

theorem sound_range {lo hi : Char} (order : lo ≤ hi) : (range lo hi).sound = true := by
  obtain ⟨first, _, _, _⟩ := CodeRange.fits_of_isValidChar lo.valid
  obtain ⟨_, last, _, top⟩ := CodeRange.fits_of_isValidChar hi.valid
  have codes : lo.toNat ≤ hi.toNat := order
  simp only [range, sound, List.all_cons, List.all_nil, Bool.and_true, Span.sound,
    Bool.and_eq_true, Bool.or_eq_true, Nat.ble_eq, Nat.blt_eq, Nat.beq_eq, true_or, and_true]
  exact ⟨⟨⟨codes, top⟩, first⟩, last⟩

theorem sound_single (c : Char) : (single c).sound = true := sound_range (Nat.le_refl c.toNat)

theorem sound_ofList (letters : List Char) : (ofList letters).sound = true := by
  refine List.all_eq_true.mpr fun span member => ?_
  obtain ⟨c, _, rfl⟩ := List.mem_map.mp member
  exact List.all_eq_true.mp (sound_single c) _ List.mem_cons_self

theorem Caseless.ofList {chars : List Char} (plain : ∀ c ∈ chars, c.isAlpha = false) :
    Caseless (ofList chars) where
  sound := sound_ofList chars
  both c := by
    have listed (d : Char) (letter : d.isAlpha = true) : (CharSet.ofList chars).contains d = false := by
      refine Bool.eq_false_iff.mpr fun member => ?_
      obtain ⟨span, known, holds⟩ := List.any_eq_true.mp member
      obtain ⟨e, given, rfl⟩ := List.mem_map.mp known
      obtain ⟨⟨least, most⟩, _⟩ := Span.contains_iff.mp holds
      obtain rfl : d = e := Char.toNat_inj.mp (Nat.le_antisymm most least)
      rw [plain d given] at letter
      cases letter
    rcases toLower_cases c with still | ⟨letter, small⟩
    · rw [still]
    · rw [listed c letter, listed _ small]

theorem Caseless.unions {sets : List CharSet} (each : ∀ set ∈ sets, Caseless set) :
    Caseless (sets.foldr .union .empty) := by
  induction sets with
  | nil => exact .empty
  | cons set sets ih =>
    obtain ⟨first, others⟩ := List.forall_mem_cons.mp each
    exact first.union (ih others)

theorem exists_otherCase (letter : c.isAlpha = true) : ∃ d : Char, d ≠ c ∧ d.toLower = c.toLower := by
  rcases isAlpha_iff.mp letter with capital | small
  · refine ⟨c.toLower, fun same => ?_, toLower_toLower c⟩
    have moved := toNat_toLower c
    rw [same, if_pos capital] at moved
    omega
  · have upper : c.toUpper.toNat = c.toNat - 0x20 := (toNat_toUpper c).trans (if_pos small)
    refine ⟨c.toUpper, fun same => ?_, Char.toNat_inj.mp ?_⟩
    · rw [same] at upper
      omega
    · rw [toNat_toLower, toNat_toLower c, upper, if_pos (by omega), if_neg (by omega)]
      omega

theorem mem_variants_of_toLower {d : Char} (alphabet : Alphabet) (same : d.toLower = c.toLower) :
    d ∈ alphabet.variants c := by
  cases alphabet with
  | ascii =>
    have codes : asciiFold d.toNat = asciiFold c.toNat :=
      (toNat_toLower d).symm.trans ((congrArg Char.toNat same).trans (toNat_toLower c))
    exact mem_asciiVariants.mpr codes
  | unicode =>
    refine mem_caseVariants.mpr ?_
    rw [← foldCase_toLower d, same, foldCase_toLower]

-- The other case of a letter would have to be the letter.
theorem Caseless.not_isAlpha_of_only (caseless : Caseless set) (only : set.only? = some c) :
    c.isAlpha = false := by
  refine Bool.eq_false_iff.mpr fun letter => ?_
  have alone := contains_only caseless.sound only
  obtain ⟨d, other, same⟩ := exists_otherCase letter
  refine other ((alone d).mp ?_)
  rw [← caseless.both d, same, caseless.both, (alone c).mpr rfl]

end CharSet

open CharSet (ofTables table)

variable {name value : Text} {set : CharSet}

theorem sound_ofTables {tables : List (List Span)}
    (sound : ∀ spans ∈ tables, spans.all (·.sound) = true) : (ofTables tables).sound = true := by
  induction tables with
  | nil => rfl
  | cons spans tables ih =>
    obtain ⟨first, others⟩ := List.forall_mem_cons.mp sound
    exact Bool.and_eq_true_iff.mpr ⟨first, ih others⟩

def namedSets : List (List (List String × CharSet)) :=
  [binaryProperties, generalCategories, clusterBreaks, wordBreaks, sentenceBreaks]

theorem sound_tables : (namedSets.all (·.all (·.2.sound)) &&
    (scripts.all fun script => script.members.sound && script.users.sound) &&
      versions.all (·.introduced.all (·.sound))) = true := by
  decide +kernel

theorem sound_of_named {entries : List (List String × CharSet)} (listed : entries ∈ namedSets)
    (found : named name entries = some set) : set.sound = true := by
  have sound := (Bool.and_eq_true_iff.mp (Bool.and_eq_true_iff.mp sound_tables).1).1
  obtain ⟨entry, first, rfl⟩ := Option.map_eq_some_iff.mp found
  exact List.all_eq_true.mp (List.all_eq_true.mp sound entries listed) entry
    (List.mem_of_find?_eq_some first)

theorem sound_of_script {script : Script} (found : script? name = some script) :
    script.members.sound = true ∧ script.users.sound = true := by
  have sound := (Bool.and_eq_true_iff.mp (Bool.and_eq_true_iff.mp sound_tables).1).2
  exact Bool.and_eq_true_iff.mp
    (List.all_eq_true.mp sound script (List.mem_of_find?_eq_some found))

theorem sound_of_introducedBy (found : introducedBy? name = some set) : set.sound = true := by
  obtain ⟨version, first, rfl⟩ := Option.map_eq_some_iff.mp found
  simp only [List.span_eq_takeWhile_dropWhile] at first ⊢
  have each : ∀ other ∈ versions, other.introduced.all (·.sound) = true :=
    List.all_eq_true.mp (Bool.and_eq_true_iff.mp sound_tables).2
  refine sound_ofTables (List.forall_mem_cons.mpr ⟨?_, List.forall_mem_map.mpr ?_⟩)
  · exact each version ((List.dropWhile_sublist _).subset (List.mem_of_head? first))
  · exact fun other member => each other ((List.takeWhile_sublist _).subset member)

theorem sound_of_property (found : property? name = some set) : set.sound = true := by
  rcases Option.or_eq_some_iff.mp found with binary | ⟨_, later⟩
  · exact sound_of_named (by simp [namedSets]) binary
  · rcases Option.or_eq_some_iff.mp later with category | ⟨_, script⟩
    · exact sound_of_named (by simp [namedSets]) category
    · obtain ⟨known, first, rfl⟩ := Option.map_eq_some_iff.mp script
      exact (sound_of_script first).1

theorem sound_of_propertyValue (found : propertyValue? name value = some set) :
    set.sound = true := by
  obtain ⟨entry, first, sought⟩ := Option.bind_eq_some_iff.mp found
  have listed := List.mem_of_find?_eq_some first
  simp only [valuedProperties, List.mem_cons, List.not_mem_nil, or_false] at listed
  rcases listed with rfl | rfl | rfl | rfl | rfl | rfl | rfl
  · exact sound_of_named (by simp [namedSets]) sought
  · obtain ⟨script, known, rfl⟩ := Option.map_eq_some_iff.mp sought
    exact (sound_of_script known).1
  · obtain ⟨script, known, rfl⟩ := Option.map_eq_some_iff.mp sought
    exact (sound_of_script known).2
  · exact sound_of_introducedBy sought
  · exact sound_of_named (by simp [namedSets]) sought
  · exact sound_of_named (by simp [namedSets]) sought
  · exact sound_of_named (by simp [namedSets]) sought

end RouteTable.Unicode
