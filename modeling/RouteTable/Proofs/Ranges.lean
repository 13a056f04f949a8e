import RouteTable.Proofs.Ascii
import RouteTable.Unicode.Ranges

namespace RouteTable.Unicode

namespace CodeRange

variable {a b : CodeRange} {as bs ranges more : List CodeRange} {code : Nat}

def Covers (ranges : List CodeRange) (code : Nat) : Prop :=
  ∃ range ∈ ranges, range.1 ≤ code ∧ code ≤ range.2

theorem covers_cons : Covers (a :: as) code ↔ (a.1 ≤ code ∧ code ≤ a.2) ∨ Covers as code := by
  simp [Covers]

theorem not_covers_nil : ¬Covers [] code := by simp [Covers]

-- No surrogate.
def Scalar (code : Nat) : Prop := code < 0xD800 ∨ 0xDFFF < code

theorem scalar_toNat (c : Char) : Scalar c.toNat := by
  rcases c.valid with below | ⟨above, _⟩
  · exact Or.inl below
  · exact Or.inr above

-- A range begins with a character or with the surrogates, and ends with a character or with them.
-- What is left of a range may be nothing.
structure Fits (range : CodeRange) : Prop where
  first : range.1 ≤ 0xD800 ∨ 0xDFFF < range.1
  last : range.2 < 0xD800 ∨ 0xDFFF ≤ range.2
  order : range.1 ≤ range.2 + 1
  top : range.2 ≤ lastCode

structure Ascending (ranges : List CodeRange) : Prop where
  apart : ranges.Pairwise fun a b => a.1 ≤ b.1 ∧ a.2 < b.1
  fits : ∀ range ∈ ranges, Fits range

namespace Ascending

theorem nil : Ascending [] := ⟨.nil, nofun⟩

theorem tail (ascending : Ascending (a :: as)) : Ascending as :=
  ⟨(List.pairwise_cons.mp ascending.apart).2,
    fun range member => ascending.fits range (List.mem_cons_of_mem a member)⟩

theorem head (ascending : Ascending (a :: as)) :
    Fits a ∧ ∀ range ∈ as, a.1 ≤ range.1 ∧ a.2 < range.1 :=
  ⟨ascending.fits a List.mem_cons_self, (List.pairwise_cons.mp ascending.apart).1⟩

theorem cons (fits : Fits a) (before : ∀ range ∈ as, a.1 ≤ range.1 ∧ a.2 < range.1)
    (later : Ascending as) : Ascending (a :: as) :=
  ⟨List.pairwise_cons.mpr ⟨before, later.apart⟩, List.forall_mem_cons.mpr ⟨fits, later.fits⟩⟩

theorem begins (ascending : Ascending ranges) : ranges.Pairwise fun a b => a.1 ≤ b.1 :=
  ascending.apart.imp And.left

theorem later (ascending : Ascending (a :: as)) (covered : Covers as code) :
    a.1 ≤ code ∧ a.2 < code := by
  obtain ⟨range, member, least, _⟩ := covered
  have beyond := ascending.head.2 range member
  omega

theorem least (ascending : Ascending (a :: as)) (covered : Covers (a :: as) code) :
    a.1 ≤ code := by
  rcases covers_cons.mp covered with here | later
  · exact here.1
  · exact (ascending.later later).1

end Ascending

theorem first_of_go {current : CodeRange} (begins : (current :: as).Pairwise fun a b => a.1 ≤ b.1) :
    ∀ range ∈ join.go current as, current.1 ≤ range.1 := by
  induction as generalizing current with
  | nil => exact List.forall_mem_singleton.mpr (Nat.le_refl _)
  | cons next rest ih =>
    obtain ⟨first, later⟩ := List.pairwise_cons.mp begins
    have least := first next List.mem_cons_self
    unfold join.go
    split
    · refine @ih (current.1, max current.2 next.2) (List.pairwise_cons.mpr ⟨?_, ?_⟩)
      · exact fun range member => first range (List.mem_cons_of_mem _ member)
      · exact (List.pairwise_cons.mp later).2
    · refine List.forall_mem_cons.mpr ⟨Nat.le_refl _, fun range member => ?_⟩
      exact Nat.le_trans least (ih later range member)

theorem ascending_go {current : CodeRange} (begins : (current :: as).Pairwise fun a b => a.1 ≤ b.1)
    (fits : ∀ range ∈ current :: as, Fits range) :
    Ascending (join.go current as) ∧
      ∀ code, Covers (join.go current as) code ↔ Covers (current :: as) code := by
  induction as generalizing current with
  | nil => exact ⟨.cons (fits current List.mem_cons_self) nofun .nil, fun _ => Iff.rfl⟩
  | cons next rest ih =>
    obtain ⟨first, later⟩ := List.pairwise_cons.mp begins
    obtain ⟨here, others⟩ := List.forall_mem_cons.mp fits
    obtain ⟨there, beyond⟩ := List.forall_mem_cons.mp others
    have least := first next List.mem_cons_self
    unfold join.go
    split
    · next touching =>
      -- Ranges that touch become one, which stands in the place of the first.
      have whole : Fits (current.1, max current.2 next.2) := by
        obtain ⟨low, high, order, top⟩ := here
        obtain ⟨_, high', order', top'⟩ := there
        exact ⟨low, by simp only; omega, by simp only; omega, by simp only; omega⟩
      have begins' : ((current.1, max current.2 next.2) :: rest).Pairwise fun a b => a.1 ≤ b.1 :=
        List.pairwise_cons.mpr ⟨fun range member => first range (List.mem_cons_of_mem _ member),
          (List.pairwise_cons.mp later).2⟩
      obtain ⟨ascending, covers⟩ := ih begins' (List.forall_mem_cons.mpr ⟨whole, beyond⟩)
      refine ⟨ascending, fun code => ?_⟩
      rw [covers, covers_cons, covers_cons, covers_cons, ← or_assoc]
      refine or_congr_left ?_
      simp only
      omega
    · next apart =>
      obtain ⟨ascending, covers⟩ := ih later others
      refine ⟨.cons here (fun range member => ?_) ascending, fun code => ?_⟩
      · have further := first_of_go later range member
        omega
      · exact covers_cons.trans ((or_congr_right (covers code)).trans covers_cons.symm)

theorem ascending_join (begins : ranges.Pairwise fun a b => a.1 ≤ b.1)
    (fits : ∀ range ∈ ranges, Fits range) :
    Ascending (join ranges) ∧ ∀ code, Covers (join ranges) code ↔ Covers ranges code := by
  cases ranges with
  | nil => exact ⟨.nil, fun _ => Iff.rfl⟩
  | cons first rest => exact ascending_go begins fits

theorem firstOrder_trans (a b c : CodeRange) (first : decide (a.1 ≤ b.1) = true)
    (later : decide (b.1 ≤ c.1) = true) : decide (a.1 ≤ c.1) = true := by
  rw [decide_eq_true_eq] at *
  exact Nat.le_trans first later

theorem firstOrder_total (a b : CodeRange) : (decide (a.1 ≤ b.1) || decide (b.1 ≤ a.1)) = true := by
  rw [Bool.or_eq_true, decide_eq_true_eq, decide_eq_true_eq]
  exact Nat.le_total a.1 b.1

theorem ascending_ofUnordered (fits : ∀ range ∈ ranges, Fits range) :
    Ascending (ofUnordered ranges) ∧
      ∀ code, Covers (ofUnordered ranges) code ↔ Covers ranges code := by
  have begins := List.pairwise_mergeSort firstOrder_trans firstOrder_total ranges
  obtain ⟨ascending, covers⟩ := ascending_join (begins.imp of_decide_eq_true)
    fun range member => fits range (List.mem_mergeSort.mp member)
  refine ⟨ascending, fun code => (covers code).trans ?_⟩
  simp only [Covers, List.mem_mergeSort]

theorem ascending_unite (left : Ascending as) (right : Ascending bs) :
    Ascending (unite as bs) ∧
      ∀ code, Covers (unite as bs) code ↔ Covers as code ∨ Covers bs code := by
  have begins := List.pairwise_merge firstOrder_trans firstOrder_total as bs
    (left.begins.imp decide_eq_true) (right.begins.imp decide_eq_true)
  obtain ⟨ascending, covers⟩ := ascending_join (begins.imp of_decide_eq_true) fun range member =>
    (List.mem_merge.mp member).elim (left.fits range) (right.fits range)
  refine ⟨ascending, fun code => (covers code).trans ?_⟩
  simp only [Covers, List.mem_merge, or_and_right, exists_or]

theorem first_of_intersect (as bs : List CodeRange) : ∀ range ∈ intersect as bs,
    (∃ first ∈ as, first.1 ≤ range.1) ∧ ∃ second ∈ bs, second.1 ≤ range.1 := by
  have onward (a b : CodeRange) (as bs : List CodeRange)
      (ihA : ∀ range ∈ intersect as (b :: bs),
        (∃ first ∈ as, first.1 ≤ range.1) ∧ ∃ second ∈ b :: bs, second.1 ≤ range.1)
      (ihB : ∀ range ∈ intersect (a :: as) bs,
        (∃ first ∈ a :: as, first.1 ≤ range.1) ∧ ∃ second ∈ bs, second.1 ≤ range.1) :
      ∀ range ∈ if a.2 < b.2 then intersect as (b :: bs) else intersect (a :: as) bs,
        (∃ first ∈ a :: as, first.1 ≤ range.1) ∧ ∃ second ∈ b :: bs, second.1 ≤ range.1 := by
    intro range member
    split at member
    · obtain ⟨⟨first, listed, least⟩, right⟩ := ihA range member
      exact ⟨⟨first, List.mem_cons_of_mem _ listed, least⟩, right⟩
    · obtain ⟨left, second, listed, least⟩ := ihB range member
      exact ⟨left, second, List.mem_cons_of_mem _ listed, least⟩
  fun_induction intersect as bs with
  | case1 a as b bs rest shared ihA ihB =>
    refine List.forall_mem_cons.mpr ⟨?_, onward a b as bs ihA ihB⟩
    exact ⟨⟨a, List.mem_cons_self, Nat.le_max_left _ _⟩, b, List.mem_cons_self, Nat.le_max_right _ _⟩
  | case2 a as b bs rest apart ihA ihB => exact onward a b as bs ihA ihB
  | case3 => nofun

theorem shared_iff (right : Ascending (b :: bs)) (sooner : a.2 ≤ b.2) :
    Covers (a :: as) code ∧ Covers (b :: bs) code ↔
      (max a.1 b.1 ≤ code ∧ code ≤ min a.2 b.2) ∨ Covers as code ∧ Covers (b :: bs) code := by
  have both : (max a.1 b.1 ≤ code ∧ code ≤ min a.2 b.2) ↔
      (a.1 ≤ code ∧ code ≤ a.2) ∧ b.1 ≤ code ∧ code ≤ b.2 := by omega
  have none : code ≤ a.2 → ¬Covers bs code := fun within covered => by
    have := (right.later covered).2
    omega
  rw [both, covers_cons (a := a), covers_cons (a := b)]
  constructor
  · rintro ⟨here | later, second⟩
    · exact Or.inl ⟨here, second.resolve_right (none here.2)⟩
    · exact Or.inr ⟨later, second⟩
  · rintro (⟨here, there⟩ | ⟨later, second⟩)
    · exact ⟨Or.inl here, Or.inl there⟩
    · exact ⟨Or.inr later, second⟩

theorem intersect_rest (left : Ascending (a :: as)) (right : Ascending (b :: bs))
    (ihA : Ascending as → Ascending (b :: bs) → Ascending (intersect as (b :: bs)) ∧
      ∀ code, Covers (intersect as (b :: bs)) code ↔ Covers as code ∧ Covers (b :: bs) code)
    (ihB : Ascending (a :: as) → Ascending bs → Ascending (intersect (a :: as) bs) ∧
      ∀ code, Covers (intersect (a :: as) bs) code ↔ Covers (a :: as) code ∧ Covers bs code) :
    let rest := if a.2 < b.2 then intersect as (b :: bs) else intersect (a :: as) bs
    Ascending rest ∧ (∀ range ∈ rest, min a.2 b.2 < range.1) ∧
      ∀ code, Covers (a :: as) code ∧ Covers (b :: bs) code ↔
        (max a.1 b.1 ≤ code ∧ code ≤ min a.2 b.2) ∨ Covers rest code := by
  intro rest
  simp only [rest]
  split
  · next sooner =>
    obtain ⟨ascending, covers⟩ := ihA left.tail right
    refine ⟨ascending, fun range member => ?_, fun code => ?_⟩
    · obtain ⟨⟨first, listed, least⟩, _⟩ := first_of_intersect _ _ range member
      have := left.head.2 first listed
      omega
    · rw [covers]
      exact shared_iff right (Nat.le_of_lt sooner)
  · next later =>
    obtain ⟨ascending, covers⟩ := ihB left right.tail
    refine ⟨ascending, fun range member => ?_, fun code => ?_⟩
    · obtain ⟨_, second, listed, least⟩ := first_of_intersect _ _ range member
      have := right.head.2 second listed
      omega
    · rw [covers, and_comm, shared_iff left (Nat.le_of_not_lt later), Nat.max_comm,
        Nat.min_comm, and_comm (a := Covers bs code)]

theorem ascending_intersect (left : Ascending as) (right : Ascending bs) :
    Ascending (intersect as bs) ∧
      ∀ code, Covers (intersect as bs) code ↔ Covers as code ∧ Covers bs code := by
  fun_induction intersect as bs with
  | case1 a as b bs rest shared ihA ihB =>
    obtain ⟨ascending, beyond, covers⟩ := intersect_rest left right ihA ihB
    have fits : Fits (max a.1 b.1, min a.2 b.2) := by
      obtain ⟨first, last, _, top⟩ := left.head.1
      obtain ⟨first', last', _, top'⟩ := right.head.1
      exact ⟨by simp only; omega, by simp only; omega, by simp only; omega, by simp only; omega⟩
    refine ⟨.cons fits (fun range member => ?_) ascending, fun code => ?_⟩
    · have := beyond range member
      simp only
      omega
    · exact covers_cons.trans (covers code).symm
  | case2 a as b bs rest apart ihA ihB =>
    obtain ⟨ascending, _, covers⟩ := intersect_rest left right ihA ihB
    refine ⟨ascending, fun code => ?_⟩
    rw [covers]
    constructor
    · exact Or.inr
    · exact fun found => found.resolve_left fun shared => apart (Nat.le_trans shared.1 shared.2)
  | case3 as bs ended =>
    refine ⟨.nil, fun code => ⟨fun none => absurd none not_covers_nil, ?_⟩⟩
    rintro ⟨⟨a, listed, _⟩, b, listed', _⟩
    cases as with
    | nil => cases listed
    | cons a as =>
      cases bs with
      | nil => cases listed'
      | cons b bs => exact (ended a as b bs rfl rfl).elim

theorem lt_following (code : Nat) : code < following code := by
  unfold following
  split <;> omega

theorem following_le_following {low high : Nat} (below : low ≤ high)
    (last : high < 0xD800 ∨ 0xDFFF ≤ high) : following low ≤ following high := by
  unfold following
  split <;> split <;> omega

theorem following_le_iff {low : Nat} (scalar : Scalar code) : following low ≤ code ↔ low < code := by
  unfold following
  unfold Scalar at scalar
  split <;> omega

theorem le_preceding_iff {high : Nat} (scalar : Scalar code) (some_ : 0 < high) :
    code ≤ preceding high ↔ code < high := by
  unfold preceding
  unfold Scalar at scalar
  split <;> omega

theorem preceding_lt {high : Nat} (some_ : 0 < high) : preceding high < high := by
  unfold preceding
  split <;> omega

-- What is left of a range on either side of another one.
theorem Fits.left (fits : Fits a) (fits' : Fits b) (sooner : a.1 < b.1) :
    Fits (a.1, preceding b.1) := by
  obtain ⟨first, _, _, _⟩ := fits
  obtain ⟨first', _, order', top'⟩ := fits'
  unfold preceding
  refine ⟨first, ?_, ?_, ?_⟩ <;> simp only <;> split <;> omega

theorem Fits.right (fits : Fits a) (fits' : Fits b) (later : b.2 < a.2) :
    Fits (following b.2, a.2) := by
  obtain ⟨_, last, _, top⟩ := fits
  obtain ⟨_, last', _, _⟩ := fits'
  unfold following
  refine ⟨?_, last, ?_, top⟩ <;> simp only <;> split <;> omega

theorem Fits.behind (fits : Fits a) : following a.2 ≤ 0xD800 ∨ 0xDFFF < following a.2 := by
  have last := fits.last
  unfold following
  split <;> omega

theorem Ascending.right (left : Ascending (a :: as)) (fits : Fits b) (later : b.2 < a.2) :
    Ascending ((following b.2, a.2) :: as) := by
  refine .cons (left.head.1.right fits later) (fun range member => ?_) left.tail
  have beyond := left.head.2 range member
  obtain ⟨_, last, _, _⟩ := left.head.1
  refine ⟨?_, beyond.2⟩
  simp only [following]
  split <;> omega

theorem first_of_subtract (as bs : List CodeRange) : ∀ range ∈ subtract as bs,
    (∃ first ∈ as, first.1 ≤ range.1) := by
  have onward (a b : CodeRange) (as bs : List CodeRange) (overlap : ¬b.2 < a.1)
      (ihA : ∀ range ∈ subtract ((following b.2, a.2) :: as) bs,
        ∃ first ∈ (following b.2, a.2) :: as, first.1 ≤ range.1)
      (ihB : ∀ range ∈ subtract as (b :: bs), ∃ first ∈ as, first.1 ≤ range.1) :
      ∀ range ∈ if b.2 < a.2 then subtract ((following b.2, a.2) :: as) bs
        else subtract as (b :: bs), ∃ first ∈ a :: as, first.1 ≤ range.1 := by
    intro range member
    split at member
    · obtain ⟨first, listed, least⟩ := ihA range member
      rcases List.mem_cons.mp listed with rfl | listed
      · have := lt_following b.2
        exact ⟨a, List.mem_cons_self, by simp only at least; omega⟩
      · exact ⟨first, List.mem_cons_of_mem _ listed, least⟩
    · obtain ⟨first, listed, least⟩ := ihB range member
      exact ⟨first, List.mem_cons_of_mem _ listed, least⟩
  fun_induction subtract as bs with
  | case1 a as b bs before ih => exact ih
  | case2 a as b bs overlap after ih =>
    refine List.forall_mem_cons.mpr ⟨⟨a, List.mem_cons_self, Nat.le_refl _⟩, fun range member => ?_⟩
    obtain ⟨first, listed, least⟩ := ih range member
    exact ⟨first, List.mem_cons_of_mem _ listed, least⟩
  | case3 a as b bs overlap overlap' rest sooner ihA ihB =>
    exact List.forall_mem_cons.mpr
      ⟨⟨a, List.mem_cons_self, Nat.le_refl _⟩, onward a b as bs overlap ihA ihB⟩
  | case4 a as b bs overlap overlap' rest later ihA ihB => exact onward a b as bs overlap ihA ihB
  | case5 as bs ended => exact fun range member => ⟨range, member, Nat.le_refl _⟩

-- A range that is taken away leaves what lies before it and, where it ends sooner than the one it is
-- taken from, what comes behind it.
theorem taken_sooner (left : Ascending (a :: as)) (right : Ascending (b :: bs))
    (overlap : ¬b.2 < a.1) (overlap' : ¬a.2 < b.1) (longer : b.2 < a.2) (scalar : Scalar code) :
    Covers (a :: as) code ∧ ¬Covers (b :: bs) code ↔
      (a.1 ≤ code ∧ code < b.1) ∨
        Covers ((following b.2, a.2) :: as) code ∧ ¬Covers bs code := by
  have order := right.head.1.order
  have none : code < b.1 → ¬Covers bs code := fun low covered =>
    Nat.not_lt.mpr (right.later covered).1 low
  rw [covers_cons (a := a), covers_cons (a := b), covers_cons (a := (following b.2, a.2)),
    following_le_iff scalar]
  constructor
  · rintro ⟨here, refused⟩
    rw [not_or] at refused
    rcases here with here | later
    · by_cases low : code < b.1
      · exact Or.inl ⟨here.1, low⟩
      · exact Or.inr ⟨Or.inl ⟨by omega, here.2⟩, refused.2⟩
    · exact Or.inr ⟨Or.inr later, refused.2⟩
  · rintro (⟨least, low⟩ | ⟨here, refused⟩)
    · exact ⟨Or.inl ⟨least, by omega⟩, not_or.mpr ⟨by omega, none low⟩⟩
    · have high : b.2 < code :=
        here.elim And.left fun later => Nat.lt_trans longer (left.later later).2
      exact ⟨here.imp_left fun inside => ⟨by omega, inside.2⟩, not_or.mpr ⟨by omega, refused⟩⟩

theorem taken_later (right : Ascending (b :: bs)) (overlap' : ¬a.2 < b.1) (shorter : ¬b.2 < a.2) :
    Covers (a :: as) code ∧ ¬Covers (b :: bs) code ↔
      (a.1 ≤ code ∧ code < b.1) ∨ Covers as code ∧ ¬Covers (b :: bs) code := by
  have none : code < b.1 → ¬Covers (b :: bs) code := fun low covered =>
    Nat.not_lt.mpr (right.least covered) low
  rw [covers_cons (a := a)]
  constructor
  · rintro ⟨here | later, refused⟩
    · rw [covers_cons, not_or] at refused
      exact Or.inl ⟨here.1, by omega⟩
    · exact Or.inr ⟨later, refused⟩
  · rintro (⟨least, low⟩ | ⟨later, refused⟩)
    · exact ⟨Or.inl ⟨least, by omega⟩, none low⟩
    · exact ⟨Or.inr later, refused⟩

theorem subtract_rest (left : Ascending (a :: as)) (right : Ascending (b :: bs))
    (overlap : ¬b.2 < a.1) (overlap' : ¬a.2 < b.1)
    (ihA : Ascending ((following b.2, a.2) :: as) → Ascending bs →
      Ascending (subtract ((following b.2, a.2) :: as) bs) ∧ ∀ code, Scalar code →
        (Covers (subtract ((following b.2, a.2) :: as) bs) code ↔
          Covers ((following b.2, a.2) :: as) code ∧ ¬Covers bs code))
    (ihB : Ascending as → Ascending (b :: bs) → Ascending (subtract as (b :: bs)) ∧
      ∀ code, Scalar code →
        (Covers (subtract as (b :: bs)) code ↔ Covers as code ∧ ¬Covers (b :: bs) code)) :
    let rest := if b.2 < a.2 then subtract ((following b.2, a.2) :: as) bs
      else subtract as (b :: bs)
    Ascending rest ∧ (∀ range ∈ rest, a.1 ≤ range.1 ∧ b.1 ≤ range.1) ∧ ∀ code, Scalar code →
      (Covers (a :: as) code ∧ ¬Covers (b :: bs) code ↔
        (a.1 ≤ code ∧ code < b.1) ∨ Covers rest code) := by
  intro rest
  simp only [rest]
  split
  · next longer =>
    have ascendingA := left.right right.head.1 longer
    obtain ⟨ascending, covers⟩ := ihA ascendingA right.tail
    refine ⟨ascending, fun range member => ?_, fun code scalar => ?_⟩
    · obtain ⟨first, listed, least⟩ := first_of_subtract _ _ range member
      have further : following b.2 ≤ first.1 := by
        rcases List.mem_cons.mp listed with rfl | listed
        · exact Nat.le_refl _
        · exact (ascendingA.head.2 first listed).1
      have behind := lt_following b.2
      have order := right.head.1.order
      omega
    · rw [covers code scalar]
      exact taken_sooner left right overlap overlap' longer scalar
  · next shorter =>
    obtain ⟨ascending, covers⟩ := ihB left.tail right
    refine ⟨ascending, fun range member => ?_, fun code scalar => ?_⟩
    · obtain ⟨first, listed, least⟩ := first_of_subtract _ _ range member
      have beyond := left.head.2 first listed
      omega
    · rw [covers code scalar]
      exact taken_later right overlap' shorter

theorem ascending_subtract (left : Ascending as) (right : Ascending bs) :
    Ascending (subtract as bs) ∧ ∀ code, Scalar code →
      (Covers (subtract as bs) code ↔ Covers as code ∧ ¬Covers bs code) := by
  fun_induction subtract as bs with
  | case1 a as b bs before ih =>
    obtain ⟨ascending, covers⟩ := ih left right.tail
    refine ⟨ascending, fun code scalar => ?_⟩
    rw [covers code scalar, covers_cons (a := b)]
    refine and_congr_right fun found => not_congr ⟨Or.inr, fun inside => inside.resolve_left ?_⟩
    have first := left.least found
    omega
  | case2 a as b bs overlap after ih =>
    obtain ⟨ascending, covers⟩ := ih left.tail right
    refine ⟨.cons left.head.1 (fun range member => ?_) ascending, fun code scalar => ?_⟩
    · obtain ⟨first, listed, least⟩ := first_of_subtract _ _ range member
      have := left.head.2 first listed
      omega
    · have none : code ≤ a.2 → ¬Covers (b :: bs) code := fun within covered =>
        Nat.not_lt.mpr (right.least covered) (Nat.lt_of_le_of_lt within after)
      rw [covers_cons (a := a), covers_cons (a := a), covers code scalar]
      constructor
      · rintro (here | ⟨later, refused⟩)
        · exact ⟨Or.inl here, none here.2⟩
        · exact ⟨Or.inr later, refused⟩
      · rintro ⟨here | later, refused⟩
        · exact Or.inl here
        · exact Or.inr ⟨later, refused⟩
  | case3 a as b bs overlap overlap' rest sooner ihA ihB =>
    -- The second range begins inside the first: what stands before it is kept.
    obtain ⟨ascending, beyond, covers⟩ := subtract_rest left right overlap overlap' ihA ihB
    have some_ : 0 < b.1 := Nat.zero_lt_of_lt sooner
    refine ⟨.cons (left.head.1.left right.head.1 sooner) (fun range member => ?_) ascending,
      fun code scalar => ?_⟩
    · have least := beyond range member
      have := preceding_lt some_
      exact ⟨least.1, by simp only; omega⟩
    · refine covers_cons.trans (Iff.trans ?_ (covers code scalar).symm)
      exact or_congr_left (and_congr_right' (le_preceding_iff scalar some_))
  | case4 a as b bs overlap overlap' rest later ihA ihB =>
    obtain ⟨ascending, _, covers⟩ := subtract_rest left right overlap overlap' ihA ihB
    refine ⟨ascending, fun code scalar => ?_⟩
    rw [covers code scalar]
    exact ⟨Or.inr, fun found => found.resolve_left fun inside => by omega⟩
  | case5 as bs ended =>
    refine ⟨left, fun code _ => ⟨fun found => ⟨found, ?_⟩, And.left⟩⟩
    rintro ⟨b, listed', _⟩
    obtain ⟨a, listed, _⟩ := found
    cases as with
    | nil => cases listed
    | cons a as =>
      cases bs with
      | nil => cases listed'
      | cons b bs => exact (ended a as b bs rfl rfl).elim

theorem Ascending.onward (ascending : Ascending (a :: as)) :
    ∀ range ∈ as, following a.2 ≤ following range.2 := by
  intro range member
  have beyond := ascending.head.2 range member
  obtain ⟨_, last, order, _⟩ := ascending.tail.fits range member
  exact following_le_following (by omega) last

theorem first_of_gaps {start : Nat} (onward : ∀ range ∈ ranges, start ≤ following range.2)
    (ascending : Ascending ranges) : ∀ range ∈ gaps start ranges, start ≤ range.1 := by
  fun_induction gaps start ranges with
  | case1 start more => exact List.forall_mem_singleton.mpr (Nat.le_refl _)
  | case2 => nofun
  | case3 start next rest between ih =>
    refine List.forall_mem_cons.mpr ⟨Nat.le_refl _, fun range member => ?_⟩
    exact Nat.le_trans (onward next List.mem_cons_self)
      (ih ascending.onward ascending.tail range member)
  | case4 start next rest none ih =>
    exact fun range member => Nat.le_trans (onward next List.mem_cons_self)
      (ih ascending.onward ascending.tail range member)

theorem outside_iff {start : Nat} (ascending : Ascending (a :: as))
    (further : start ≤ following a.2) (scalar : Scalar code) :
    start ≤ code ∧ ¬Covers (a :: as) code ↔
      (start ≤ code ∧ code < a.1) ∨ following a.2 ≤ code ∧ ¬Covers as code := by
  have order := ascending.head.1.order
  constructor
  · rintro ⟨least, refused⟩
    rw [covers_cons, not_or] at refused
    by_cases low : code < a.1
    · exact Or.inl ⟨least, low⟩
    · exact Or.inr ⟨(following_le_iff scalar).mpr (by omega), refused.2⟩
  · rintro (⟨least, low⟩ | ⟨high, refused⟩)
    · exact ⟨least, fun covered => Nat.not_lt.mpr (ascending.least covered) low⟩
    · have beyond := (following_le_iff scalar).mp high
      exact ⟨Nat.le_trans further high,
        fun covered => (covers_cons.mp covered).elim (fun here => by omega) refused⟩

theorem ascending_gaps {start : Nat} (plain : start ≤ 0xD800 ∨ 0xDFFF < start)
    (onward : ∀ range ∈ ranges, start ≤ following range.2) (ascending : Ascending ranges) :
    Ascending (gaps start ranges) ∧ ∀ code, Scalar code → code ≤ lastCode →
      (Covers (gaps start ranges) code ↔ start ≤ code ∧ ¬Covers ranges code) := by
  fun_induction gaps start ranges with
  | case1 start more =>
    have fits : Fits (start, lastCode) :=
      ⟨plain, Or.inr (by decide : 0xDFFF ≤ lastCode), Nat.le_succ_of_le more, Nat.le_refl _⟩
    refine ⟨.cons fits nofun .nil, fun code _ top => ?_⟩
    rw [covers_cons]
    exact ⟨fun found => ⟨(found.resolve_right not_covers_nil).1, not_covers_nil⟩,
      fun found => Or.inl ⟨found.1, top⟩⟩
  | case2 start none =>
    refine ⟨.nil, fun code _ top => ⟨fun found => absurd found not_covers_nil, fun found => ?_⟩⟩
    exact absurd (Nat.le_trans found.1 top) none
  | case3 start next rest between ih =>
    obtain ⟨begins, _, order, limit⟩ := ascending.head.1
    obtain ⟨ascending', covers⟩ := ih ascending.head.1.behind ascending.onward ascending.tail
    rw [Bool.and_eq_true, decide_eq_true_eq, decide_eq_true_eq] at between
    have some_ : 0 < next.1 := Nat.zero_lt_of_lt between.1
    have further := onward next List.mem_cons_self
    have gap : Fits (start, preceding next.1) := by
      refine ⟨plain, ?_, Nat.le_succ_of_le between.2, ?_⟩ <;> simp only [preceding] <;> split <;>
        omega
    refine ⟨.cons gap (fun range member => ?_) ascending', fun code scalar top => ?_⟩
    · have least := first_of_gaps ascending.onward ascending.tail range member
      have before := preceding_lt some_
      have behind := lt_following next.2
      simp only
      omega
    · rw [outside_iff ascending further scalar, covers_cons, covers code scalar top,
        le_preceding_iff scalar some_]
  | case4 start next rest none ih =>
    obtain ⟨ascending', covers⟩ := ih ascending.head.1.behind ascending.onward ascending.tail
    have further := onward next List.mem_cons_self
    refine ⟨ascending', fun code scalar top => ?_⟩
    -- No character lies between the start and the range.
    have nothing : ¬(start ≤ code ∧ code < next.1) := by
      rintro ⟨least, low⟩
      have before := (le_preceding_iff scalar (Nat.zero_lt_of_lt low)).mpr low
      apply none
      rw [Bool.and_eq_true, decide_eq_true_eq, decide_eq_true_eq]
      omega
    rw [outside_iff ascending further scalar, covers code scalar top]
    exact ⟨Or.inr, fun found => found.resolve_left nothing⟩

theorem ascending_complement (ascending : Ascending ranges) :
    Ascending (complement ranges) ∧ ∀ code, Scalar code → code ≤ lastCode →
      (Covers (complement ranges) code ↔ ¬Covers ranges code) := by
  obtain ⟨ascending', covers⟩ :=
    ascending_gaps (Or.inl (Nat.zero_le _)) (fun _ _ => Nat.zero_le _) ascending
  refine ⟨ascending', fun code scalar top => (covers code scalar top).trans ?_⟩
  simp only [Nat.zero_le, true_and]

theorem mem_images {pairs : List (Nat × Nat)} {range : CodeRange}
    (sorted : pairs.Pairwise fun p q => p.1 ≤ q.1) (ascending : Ascending ranges) :
    range ∈ images pairs ranges ↔
      ∃ pair ∈ pairs, Covers ranges pair.1 ∧ range = (pair.2, pair.2) := by
  fun_induction images pairs ranges with
  | case1 pair pairs first rest before ih =>
    rw [ih sorted ascending.tail]
    have further : ∀ other ∈ pair :: pairs, pair.1 ≤ other.1 :=
      List.forall_mem_cons.mpr ⟨Nat.le_refl _, (List.pairwise_cons.mp sorted).1⟩
    refine exists_congr fun other => and_congr_right fun listed => and_congr_left fun _ => ?_
    have least := further other listed
    rw [covers_cons]
    exact ⟨Or.inr, fun found => found.resolve_left fun inside => by omega⟩
  | case2 pair pairs first rest fits before ih =>
    rw [ih (List.pairwise_cons.mp sorted).2 ascending]
    have outside : ¬Covers (first :: rest) pair.1 := fun covered =>
      Nat.not_lt.mpr (ascending.least covered) before
    simp [outside]
  | case3 pair pairs first rest fits fits' ih =>
    rw [List.mem_cons, ih (List.pairwise_cons.mp sorted).2 ascending]
    have inside : Covers (first :: rest) pair.1 := covers_cons.mpr (Or.inl (by omega))
    simp [inside]
  | case4 pairs ranges ended =>
    refine ⟨nofun, ?_⟩
    rintro ⟨pair, listed, ⟨first, listed', _⟩, _⟩
    cases pairs with
    | nil => cases listed
    | cons pair pairs =>
      cases ranges with
      | nil => cases listed'
      | cons first rest => exact (ended pair pairs first rest rfl rfl).elim

theorem fits_of_isValidChar {code : Nat} (valid : code.isValidChar) : Fits (code, code) := by
  refine ⟨?_, ?_, Nat.le_succ _, ?_⟩
  all_goals
    simp only [lastCode]
    rcases valid with below | ⟨above, most⟩ <;> omega

theorem ascending_images {pairs : List (Nat × Nat)}
    (fits : ∀ pair ∈ pairs, Fits (pair.2, pair.2)) (ascending : Ascending ranges) :
    Ascending (ofUnordered (images (sortPairs pairs) ranges)) ∧
      ∀ code, Covers (ofUnordered (images (sortPairs pairs) ranges)) code ↔
        ∃ other, (other, code) ∈ pairs ∧ Covers ranges other := by
  have sorted : (sortPairs pairs).Pairwise fun p q => p.1 ≤ q.1 :=
    (List.pairwise_mergeSort firstOrder_trans firstOrder_total pairs).imp of_decide_eq_true
  have member (range : CodeRange) : range ∈ images (sortPairs pairs) ranges ↔
      ∃ pair ∈ pairs, Covers ranges pair.1 ∧ range = (pair.2, pair.2) := by
    rw [mem_images sorted ascending]
    simp only [sortPairs, List.mem_mergeSort]
  obtain ⟨ascending', covers⟩ := ascending_ofUnordered fun range found => by
    obtain ⟨pair, listed, _, rfl⟩ := (member range).mp found
    exact fits pair listed
  refine ⟨ascending', fun code => (covers code).trans ?_⟩
  constructor
  · rintro ⟨range, found, least, most⟩
    obtain ⟨pair, listed, inside, rfl⟩ := (member range).mp found
    obtain rfl : pair.2 = code := Nat.le_antisymm least most
    exact ⟨pair.1, listed, inside⟩
  · rintro ⟨other, listed, inside⟩
    exact ⟨_, (member _).mpr ⟨_, listed, inside, rfl⟩, Nat.le_refl _, Nat.le_refl _⟩

-- Pairs of a code point and another one that a function takes it to, where it takes it anywhere.
structure Pairs (fold : Nat → Nat) (pairs : List (Nat × Nat)) : Prop where
  fits : ∀ pair ∈ pairs, Fits (pair.1, pair.1) ∧ Fits (pair.2, pair.2)
  sound : ∀ pair ∈ pairs, fold pair.1 = pair.2
  complete : ∀ code, fold code = code ∨ (code, fold code) ∈ pairs
  idem : ∀ code, fold (fold code) = fold code

-- To the folded forms and from them to what folds to them leads to whatever folds alike.
theorem Pairs.closed_iff {fold : Nat → Nat} {pairs : List (Nat × Nat)} (folds : Pairs fold pairs) :
    ((Covers ranges code ∨ ∃ other, (other, code) ∈ pairs ∧ Covers ranges other) ∨
      ∃ image, (code, image) ∈ pairs ∧
        (Covers ranges image ∨ ∃ other, (other, image) ∈ pairs ∧ Covers ranges other)) ↔
      ∃ other, Covers ranges other ∧ fold other = fold code := by
  constructor
  · rintro ((here | ⟨other, listed, inside⟩) | ⟨image, listed, inside⟩)
    · exact ⟨code, here, rfl⟩
    · have image : fold other = code := folds.sound _ listed
      exact ⟨other, inside, by rw [← image, folds.idem]⟩
    · have same : fold code = image := folds.sound _ listed
      rcases inside with here | ⟨other, listed', inside⟩
      · exact ⟨image, here, by rw [← same, folds.idem]⟩
      · exact ⟨other, inside, (folds.sound _ listed').trans same.symm⟩
  · rintro ⟨other, inside, same⟩
    have image : Covers ranges (fold other) ∨
        ∃ origin, (origin, fold other) ∈ pairs ∧ Covers ranges origin := by
      rcases folds.complete other with still | listed
      · exact Or.inl (still.symm ▸ inside)
      · exact Or.inr ⟨other, listed, inside⟩
    rcases folds.complete code with still | listed
    · rw [same, still] at image
      exact Or.inl image
    · exact Or.inr ⟨fold code, listed, same ▸ image⟩

theorem ascending_closeUnderCase {fold : Nat → Nat} {pairs : List (Nat × Nat)}
    (folds : Pairs fold pairs) (ascending : Ascending ranges) :
    Ascending (closeUnderCase (.ofPairs pairs) ranges) ∧
      ∀ code, Covers (closeUnderCase (.ofPairs pairs) ranges) code ↔
        ∃ other, Covers ranges other ∧ fold other = fold code := by
  have swapped (x y : Nat) : (x, y) ∈ pairs.map (fun pair => (pair.2, pair.1)) ↔ (y, x) ∈ pairs := by
    simp only [List.mem_map, Prod.mk.injEq, Prod.exists]
    exact ⟨fun ⟨_, _, listed, first, second⟩ => first ▸ second ▸ listed,
      fun listed => ⟨y, x, listed, rfl, rfl⟩⟩
  obtain ⟨sorted, forth⟩ := ascending_images (fun pair listed => (folds.fits pair listed).2) ascending
  obtain ⟨folded, covers⟩ := ascending_unite ascending sorted
  have fits : ∀ pair ∈ pairs.map fun pair => (pair.2, pair.1), Fits (pair.2, pair.2) :=
    fun pair listed => (folds.fits _ ((swapped pair.1 pair.2).mp listed)).1
  obtain ⟨sorted', back⟩ := ascending_images fits folded
  obtain ⟨closed, covers'⟩ := ascending_unite folded sorted'
  refine ⟨closed, fun code => (covers' code).trans ?_⟩
  rw [back]
  simp only [swapped, covers, forth]
  exact folds.closed_iff

end CodeRange

open CodeRange

variable {code : Nat}

theorem covers_span {span : Span} (order : span.first ≤ span.last) :
    Covers span.ranges code ↔ span.contains code = true := by
  unfold Span.ranges
  rw [Span.contains_iff]
  split
  · next single =>
    rw [covers_cons, single, Nat.mod_one]
    simp only [not_covers_nil, or_false, and_true]
  · simp only [Covers, List.mem_map, List.mem_range, Nat.lt_succ_iff]
    constructor
    · rintro ⟨_, ⟨i, inside, rfl⟩, least, most⟩
      obtain rfl := Nat.le_antisymm least most
      have within := Nat.le_trans (Nat.mul_le_mul_right span.step inside)
        (Nat.div_mul_le_self (span.last - span.first) span.step)
      refine ⟨by omega, ?_⟩
      rw [Nat.add_sub_cancel_left, Nat.mul_mod_left]
    · rintro ⟨⟨least, most⟩, stride⟩
      have whole := Nat.div_add_mod' (code - span.first) span.step
      rw [stride, Nat.add_zero] at whole
      refine ⟨_, ⟨(code - span.first) / span.step, ?_, rfl⟩, by omega, by omega⟩
      exact Nat.div_le_div_right (Nat.sub_le_sub_right most span.first)

-- Spans with two ends in order, neither of them between surrogates.
def Span.sound (span : Span) : Bool :=
  span.first.ble span.last && span.last.ble lastCode &&
    (span.first.ble 0xD800 || Nat.blt 0xDFFF span.first) &&
    (span.last.blt 0xD800 || Nat.ble 0xDFFF span.last) &&
    (span.step.beq 1 || span.last.blt 0xD800 || Nat.blt 0xDFFF span.first)

theorem fits_span {span : Span} (sound : span.sound = true) :
    span.first ≤ span.last ∧ ∀ range ∈ span.ranges, Fits range := by
  simp only [Span.sound, Bool.and_eq_true, Bool.or_eq_true, Nat.ble_eq, Nat.blt_eq, Nat.beq_eq]
    at sound
  obtain ⟨⟨⟨⟨order, top⟩, first⟩, last⟩, stride⟩ := sound
  refine ⟨order, ?_⟩
  unfold Span.ranges
  split
  · exact List.forall_mem_singleton.mpr ⟨first, last, Nat.le_succ_of_le order, top⟩
  · next several =>
    intro range member
    obtain ⟨i, inside, rfl⟩ := List.mem_map.mp member
    have within := Nat.le_trans
      (Nat.mul_le_mul_right span.step (Nat.lt_succ_iff.mp (List.mem_range.mp inside)))
      (Nat.div_mul_le_self (span.last - span.first) span.step)
    refine ⟨?_, ?_, Nat.le_succ _, ?_⟩ <;> simp only <;> omega

theorem mem_foldedPairs {pair : Nat × Nat} : pair ∈ foldedPairs ↔
    ∃ shift ∈ caseFoldings, shift.image? pair.1 = some pair.2 := by
  have ordered : (caseFoldings.all fun shift => shift.first.ble shift.last) = true := by decide
  unfold foldedPairs
  rw [List.mem_flatMap]
  refine exists_congr fun shift => and_congr_right fun listed => ?_
  have order := Nat.ble_eq.mp (List.all_eq_true.mp ordered shift listed)
  rw [Shift.image?, List.mem_flatMap]
  constructor
  · rintro ⟨range, member, inside⟩
    obtain ⟨i, least, rfl⟩ := List.mem_map.mp inside
    rw [List.mem_range] at least
    have found : shift.contains (range.1 + i) = true :=
      (covers_span order).mp ⟨range, member, by omega, by omega⟩
    rw [if_pos found]
  · intro moves
    split at moves
    · next found =>
      obtain ⟨range, member, least, most⟩ := (covers_span order).mpr found
      refine ⟨range, member, List.mem_map.mpr ⟨pair.1 - range.1, ?_, ?_⟩⟩
      · rw [List.mem_range]
        omega
      · rw [Nat.add_sub_cancel' least]
        exact Prod.ext rfl (Option.some.inj moves)
    · cases moves

theorem pairs_foldCode : Pairs foldCode foldedPairs where
  fits pair listed := by
    obtain ⟨shift, known, moves⟩ := mem_foldedPairs.mp listed
    have valid := List.all_eq_true.mp caseFoldings_valid shift known
    rw [Bool.and_eq_true] at valid
    exact ⟨fits_of_isValidChar (isValidChar_of_contains valid.1 (Shift.contains_of_image moves)),
      fits_of_isValidChar (isValidChar_of_contains valid.2 (Shift.images_contains moves))⟩
  sound pair listed := by
    obtain ⟨shift, known, moves⟩ := mem_foldedPairs.mp listed
    exact foldCode_of_image known moves
  complete code := (foldCode_cases code).imp_right mem_foldedPairs.mpr
  idem := foldCode_idem

-- The code point of the small letter of ASCII.
def asciiFold (code : Nat) : Nat := if 0x41 ≤ code ∧ code ≤ 0x5A then code + 0x20 else code

theorem pairs_asciiFold : Pairs asciiFold asciiPairs where
  fits pair listed := by
    obtain ⟨i, few, rfl⟩ := List.mem_map.mp listed
    rw [List.mem_range] at few
    exact ⟨fits_of_isValidChar (Or.inl (by simp only; omega)),
      fits_of_isValidChar (Or.inl (by simp only; omega))⟩
  sound pair listed := by
    obtain ⟨i, few, rfl⟩ := List.mem_map.mp listed
    rw [List.mem_range] at few
    simp only [asciiFold]
    rw [if_pos (by omega)]
    omega
  complete code := by
    by_cases capital : 0x41 ≤ code ∧ code ≤ 0x5A
    · refine Or.inr (List.mem_map.mpr ⟨code - 0x41, List.mem_range.mpr (by omega), ?_⟩)
      rw [asciiFold, if_pos capital]
      exact Prod.ext (by simp only; omega) (by simp only; omega)
    · exact Or.inl (if_neg capital)
  idem code := by
    unfold asciiFold
    by_cases capital : 0x41 ≤ code ∧ code ≤ 0x5A
    · rw [if_pos capital, if_neg (by omega)]
    · rw [if_neg capital, if_neg capital]

theorem mem_asciiVariants {c d : Char} :
    d ∈ asciiVariants c ↔ asciiFold d.toNat = asciiFold c.toNat := by
  have lower (e : Char) : e.toLower.toNat = asciiFold e.toNat := toNat_toLower e
  unfold asciiVariants
  split
  · next alpha =>
    have range := isAlpha_iff.mp alpha
    simp only [List.mem_cons, List.not_mem_nil, or_false, ← Char.toNat_inj, lower, toNat_toUpper,
      asciiFold]
    split <;> split <;> split <;> omega
  · next other =>
    have range := mt isAlpha_iff.mpr other
    rw [List.mem_singleton, ← Char.toNat_inj]
    simp only [asciiFold]
    split <;> split <;> omega

namespace CharSet

def sound : CharSet → Bool
  | table spans => spans.all (·.sound)
  | union a b | inter a b | diff a b | symmDiff a b => a.sound && b.sound
  | compl a | caseClosure _ a => a.sound

theorem ascending_table {spans : List Span} (sound : spans.all (·.sound) = true) :
    Ascending (table spans).ranges ∧
      ∀ code, Covers (table spans).ranges code ↔ spans.any (·.contains code) = true := by
  have each : ∀ span ∈ spans, span.first ≤ span.last ∧ ∀ range ∈ span.ranges, Fits range :=
    fun span listed => fits_span (List.all_eq_true.mp sound span listed)
  obtain ⟨ascending, covers⟩ := ascending_ofUnordered fun range member => by
    obtain ⟨span, listed, inside⟩ := List.mem_flatMap.mp member
    exact (each span listed).2 range inside
  refine ⟨ascending, fun code => (covers code).trans ?_⟩
  rw [List.any_eq_true]
  constructor
  · rintro ⟨range, member, within⟩
    obtain ⟨span, listed, inside⟩ := List.mem_flatMap.mp member
    exact ⟨span, listed, (covers_span (each span listed).1).mp ⟨range, inside, within⟩⟩
  · rintro ⟨span, listed, found⟩
    obtain ⟨range, inside, within⟩ := (covers_span (each span listed).1).mpr found
    exact ⟨range, List.mem_flatMap.mpr ⟨span, listed, inside⟩, within⟩

theorem valid_of_foldCode {other : Nat} {c : Char} (same : foldCode other = foldCode c.toNat) :
    other.isValidChar := by
  rcases foldCode_cases other with still | ⟨shift, listed, moves⟩
  · rw [still] at same
    exact same ▸ foldCode_valid c
  · have valid := List.all_eq_true.mp caseFoldings_valid shift listed
    rw [Bool.and_eq_true] at valid
    exact isValidChar_of_contains valid.1 (Shift.contains_of_image moves)

theorem valid_of_asciiFold {other : Nat} {c : Char} (same : asciiFold other = asciiFold c.toNat) :
    other.isValidChar := by
  by_cases low : other < 0xD800
  · exact Or.inl low
  · have equal : other = c.toNat := by
      unfold asciiFold at same
      split at same <;> split at same <;> omega
    exact equal ▸ c.valid

-- A closure covers what varies a member, where a folding decides which characters are variants.
theorem covers_closure {fold : Nat → Nat} {variants : Char → List Char} {a : CharSet}
    {ranges closed : List CodeRange} (covers : ∀ d : Char, Covers ranges d.toNat ↔ a.contains d = true)
    (folds : ∀ code, Covers closed code ↔ ∃ other, Covers ranges other ∧ fold other = fold code)
    (valid : ∀ (other : Nat) (c : Char), fold other = fold c.toNat → other.isValidChar)
    (mem : ∀ c d : Char, d ∈ variants c ↔ fold d.toNat = fold c.toNat) (c : Char) :
    Covers closed c.toNat ↔ (variants c).any a.contains = true := by
  rw [folds, List.any_eq_true]
  constructor
  · rintro ⟨other, inside, same⟩
    have code : (Char.ofNat other).toNat = other := toNat_ofNat_of_valid (valid other c same)
    rw [← code] at inside same
    exact ⟨_, (mem c _).mpr same, (covers _).mp inside⟩
  · rintro ⟨d, listed, member⟩
    exact ⟨d.toNat, (covers d).mpr member, (mem c d).mp listed⟩

theorem ascending_ranges {set : CharSet} (sound : set.sound = true) :
    Ascending set.ranges ∧ ∀ c : Char, Covers set.ranges c.toNat ↔ set.contains c = true := by
  have top (c : Char) : c.toNat ≤ lastCode := (fits_of_isValidChar c.valid).top
  have pair {a b : CharSet} (both : (a.sound && b.sound) = true) :
      a.sound = true ∧ b.sound = true := Bool.and_eq_true_iff.mp both
  induction set with
  | table spans =>
    obtain ⟨ascending, covers⟩ := ascending_table sound
    exact ⟨ascending, fun c => covers c.toNat⟩
  | union a b ihA ihB =>
    obtain ⟨left, coversA⟩ := ihA (pair sound).1
    obtain ⟨right, coversB⟩ := ihB (pair sound).2
    obtain ⟨ascending, covers⟩ := ascending_unite left right
    refine ⟨ascending, fun c => (covers c.toNat).trans ?_⟩
    rw [coversA, coversB, contains, Bool.or_eq_true]
  | inter a b ihA ihB =>
    obtain ⟨left, coversA⟩ := ihA (pair sound).1
    obtain ⟨right, coversB⟩ := ihB (pair sound).2
    obtain ⟨ascending, covers⟩ := ascending_intersect left right
    refine ⟨ascending, fun c => (covers c.toNat).trans ?_⟩
    rw [coversA, coversB, contains, Bool.and_eq_true]
  | diff a b ihA ihB =>
    obtain ⟨left, coversA⟩ := ihA (pair sound).1
    obtain ⟨right, coversB⟩ := ihB (pair sound).2
    obtain ⟨ascending, covers⟩ := ascending_subtract left right
    refine ⟨ascending, fun c => (covers c.toNat (scalar_toNat c)).trans ?_⟩
    rw [coversA, coversB, contains, Bool.and_eq_true, Bool.not_eq_true', Bool.not_eq_true]
  | symmDiff a b ihA ihB =>
    obtain ⟨left, coversA⟩ := ihA (pair sound).1
    obtain ⟨right, coversB⟩ := ihB (pair sound).2
    obtain ⟨either, covers⟩ := ascending_unite left right
    obtain ⟨both, covers'⟩ := ascending_intersect left right
    obtain ⟨ascending, covers''⟩ := ascending_subtract either both
    refine ⟨ascending, fun c => (covers'' c.toNat (scalar_toNat c)).trans ?_⟩
    rw [covers, covers', coversA, coversB, contains]
    cases a.contains c <;> cases b.contains c <;> simp
  | compl a ih =>
    obtain ⟨inner, covers⟩ := ih sound
    obtain ⟨ascending, covers'⟩ := ascending_complement inner
    refine ⟨ascending, fun c => (covers' c.toNat (scalar_toNat c) (top c)).trans ?_⟩
    rw [covers, contains, Bool.not_eq_true', Bool.not_eq_true]
  | caseClosure alphabet a ih =>
    -- Closing adds what the ranges fold to and from, which are the variants of the members.
    obtain ⟨inner, covers⟩ := ih sound
    cases alphabet with
    | ascii =>
      obtain ⟨ascending, folds⟩ := ascending_closeUnderCase pairs_asciiFold inner
      exact ⟨ascending, covers_closure covers folds (fun _ _ => valid_of_asciiFold)
        fun _ _ => mem_asciiVariants⟩
    | unicode =>
      obtain ⟨ascending, folds⟩ := ascending_closeUnderCase pairs_foldCode inner
      refine ⟨ascending, covers_closure covers folds (fun _ _ => valid_of_foldCode) fun c d => ?_⟩
      rw [Alphabet.variants, mem_caseVariants, ← Char.toNat_inj, foldCase_toNat, foldCase_toNat]

theorem contains_only {set : CharSet} {c : Char} (sound : set.sound = true)
    (only : set.only? = some c) (d : Char) : set.contains d = true ↔ d = c := by
  obtain ⟨ascending, covers⟩ := ascending_ranges sound
  unfold only? at only
  split at only
  · next first last single =>
    split at only
    · next same =>
      subst same
      obtain ⟨begins, ends, _, limit⟩ := ascending.fits (first, first) (single ▸ List.mem_cons_self)
      have valid : first.isValidChar := by
        simp only [lastCode] at begins ends limit
        rcases ends with below | above
        · exact Or.inl below
        · exact Or.inr ⟨by omega, by omega⟩
      rw [← covers, single, covers_cons, ← Option.some.inj only, ← Char.toNat_inj,
        toNat_ofNat_of_valid valid]
      simp only [not_covers_nil, or_false]
      omega
    · cases only
  · cases only

end CharSet

end RouteTable.Unicode
