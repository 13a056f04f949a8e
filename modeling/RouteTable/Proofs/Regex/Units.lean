import RouteTable.Proofs.Regex.Meaning
import RouteTable.Slug

namespace RouteTable

open Unicode (CharSet)

namespace Unicode.CodeRange

-- Ranges that begin at one code point or before it, and reach another one.
def Reach (low high : Nat) (ranges : List CodeRange) : Prop :=
  (∃ first ∈ ranges.head?, first.1 ≤ low) ∧ ∃ range ∈ ranges, high ≤ range.2

variable {low high : Nat} {ranges more : List CodeRange}

theorem head_go (current : CodeRange) (rest : List CodeRange) :
    ∃ first ∈ (join.go current rest).head?, first.1 = current.1 := by
  induction rest generalizing current with
  | nil => exact ⟨current, rfl, rfl⟩
  | cons next rest ih =>
    unfold join.go
    split
    · exact ih (current.1, max current.2 next.2)
    · exact ⟨current, rfl, rfl⟩

theorem reach_go {current range : CodeRange} {rest : List CodeRange}
    (listed : range ∈ current :: rest) : ∃ joined ∈ join.go current rest, range.2 ≤ joined.2 := by
  induction rest generalizing current range with
  | nil => exact ⟨current, List.mem_singleton_self current, by simp_all⟩
  | cons next rest ih =>
    unfold join.go
    split
    · obtain ⟨joined, member, reached⟩ :=
        @ih (current.1, max current.2 next.2) _ List.mem_cons_self
      have further : ∀ range ∈ rest, ∃ joined ∈ join.go (current.1, max current.2 next.2) rest,
          range.2 ≤ joined.2 := fun _ member => ih (List.mem_cons_of_mem _ member)
      simp only [List.mem_cons] at listed
      rcases listed with rfl | rfl | later
      · exact ⟨joined, member, by simp only at reached; omega⟩
      · exact ⟨joined, member, by simp only at reached; omega⟩
      · exact further range later
    · rcases List.mem_cons.mp listed with rfl | later
      · exact ⟨range, List.mem_cons_self, Nat.le_refl _⟩
      · obtain ⟨joined, member, reached⟩ := ih later
        exact ⟨joined, List.mem_cons_of_mem _ member, reached⟩

theorem Reach.join (reach : Reach low high ranges) : Reach low high (join ranges) := by
  obtain ⟨⟨first, begins, least⟩, range, member, most⟩ := reach
  cases ranges with
  | nil => cases begins
  | cons head rest =>
    obtain rfl : head = first := by simpa using begins
    obtain ⟨first, begins, same⟩ := head_go head rest
    obtain ⟨joined, kept, reached⟩ := reach_go member
    exact ⟨⟨first, begins, by omega⟩, joined, kept, by omega⟩

theorem Reach.unite (reach : Reach low high ranges) : Reach low high (unite ranges more) := by
  obtain ⟨⟨first, begins, least⟩, range, member, most⟩ := reach
  refine Reach.join ⟨?_, range, List.mem_merge.mpr (Or.inl member), most⟩
  cases ranges with
  | nil => cases begins
  | cons head rest =>
    obtain rfl : head = first := by simpa using begins
    cases more with
    | nil => exact ⟨head, by simp, least⟩
    | cons other more =>
      rw [List.cons_merge_cons]
      split
      · exact ⟨head, rfl, least⟩
      · next before =>
        simp only [decide_eq_true_eq] at before
        exact ⟨other, rfl, by omega⟩

theorem reach_ofUnordered (first last : CodeRange) (begins : first ∈ ranges)
    (ends : last ∈ ranges) : Reach first.1 last.2 (ofUnordered ranges) := by
  refine Reach.join ⟨?_, last, List.mem_mergeSort.mpr ends, Nat.le_refl _⟩
  have sorted : (ranges.mergeSort fun a b => a.1 ≤ b.1).Pairwise fun a b => decide (a.1 ≤ b.1) :=
    List.pairwise_mergeSort (by simp only [decide_eq_true_eq]; omega)
      (by simp only [Bool.or_eq_true, decide_eq_true_eq]; omega) ranges
  have member : first ∈ ranges.mergeSort fun a b => a.1 ≤ b.1 := List.mem_mergeSort.mpr begins
  cases same : ranges.mergeSort fun a b : CodeRange => decide (a.1 ≤ b.1) with
  | nil => rw [same] at member; cases member
  | cons head rest =>
    rw [same] at sorted member
    refine ⟨head, rfl, ?_⟩
    rcases List.mem_cons.mp member with rfl | later
    · exact Nat.le_refl _
    · simpa using List.rel_of_pairwise_cons sorted later

theorem several_of_reach {set : CharSet} (reach : Reach low high set.ranges) (wide : low < high) :
    set.only? = none ∧ set.ranges.isEmpty = false := by
  obtain ⟨⟨first, begins, least⟩, range, member, most⟩ := reach
  constructor
  · unfold CharSet.only?
    split
    · next alone =>
      rw [alone] at begins member
      cases begins
      cases List.mem_singleton.mp member
      rw [if_neg (by simp only at least most; omega)]
    · rfl
  · cases none : set.ranges with
    | nil => rw [none] at member; cases member
    | cons => rfl

end Unicode.CodeRange

namespace Regex

open Unicode (CharSet foldCase)

def slugSpans : List Unicode.Span :=
  [⟨0x61, 0x7a, 1⟩, ⟨0x30, 0x39, 1⟩, ⟨0x2d, 0x2d, 1⟩, ⟨0x2e, 0x2e, 1⟩, ⟨0x5f, 0x5f, 1⟩]

def unitSet : CharSet := .caseClosure .unicode (.table slugSpans)

theorem set_unitClass : unitClass.set? insensitive = some unitSet := rfl

theorem set_unitClass_plain : unitClass.set? {} = some (.table slugSpans) := rfl

theorem ofSet_slugSpans :
    ofSet .unicode (.table slugSpans) = .char .unicode (.table slugSpans) := by
  have reach : Unicode.CodeRange.Reach 0x2d 0x7a (CharSet.table slugSpans).ranges :=
    Unicode.CodeRange.reach_ofUnordered (0x2d, 0x2d) (0x61, 0x7a) (by decide) (by decide)
  obtain ⟨several, nonempty⟩ := Unicode.CodeRange.several_of_reach reach (by decide)
  simp [ofSet, several, nonempty]

theorem ofSet_unitSet : ofSet .unicode unitSet = .char .unicode unitSet := by
  have reach : Unicode.CodeRange.Reach 0x2d 0x7a unitSet.ranges :=
    (Unicode.CodeRange.reach_ofUnordered (0x2d, 0x2d) (0x61, 0x7a) (by decide)
      (by decide)).unite.unite
  obtain ⟨several, nonempty⟩ := Unicode.CodeRange.several_of_reach reach (by decide)
  simp [ofSet, several, nonempty]

end Regex

-- A character of slugs in either case, or one that folds like it.
def UnitChar (c : Char) : Prop :=
  ∃ d, Slug.allowed d = true ∧ Unicode.foldCase d = Unicode.foldCase c

namespace Regex

theorem inSpans_slugSpans (c : Char) : Unicode.inSpans slugSpans c = Slug.allowed c := by
  apply Bool.eq_iff_iff.mpr
  simp only [slugSpans, Unicode.inSpans, List.any_cons, List.any_nil, Bool.or_false,
    Bool.or_eq_true, Unicode.Span.contains_iff, Nat.mod_one, and_true, Slug.allowed,
    Unicode.isLower_iff, Unicode.isDigit_iff, beq_iff_eq, ← Char.toNat_inj]
  change _ ↔ (((97 ≤ c.toNat ∧ c.toNat ≤ 122 ∨ 48 ≤ c.toNat ∧ c.toNat ≤ 57) ∨ c.toNat = 45) ∨
    c.toNat = 46) ∨ c.toNat = 95
  omega

theorem contains_unitSet {c : Char} : unitSet.contains c = true ↔ UnitChar c := by
  simp only [unitSet, CharSet.contains, List.any_eq_true, inSpans_slugSpans, UnitChar]
  constructor
  · rintro ⟨d, variant, allowed⟩
    exact ⟨d, allowed, Unicode.mem_caseVariants.mp variant⟩
  · rintro ⟨d, allowed, alike⟩
    exact ⟨d, Unicode.mem_caseVariants.mpr alike, allowed⟩

end Regex

end RouteTable
