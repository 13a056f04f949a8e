import Mathlib.Data.List.DropRight
import RouteTable.Host
import RouteTable.Proofs.Occurrence
import RouteTable.Proofs.Route.Matcher

namespace RouteTable

open Regex
open Unicode (CharSet)

namespace Text

variable {token s before after : Text}

theorem splitOn_of_absent (absent : cutAt? token s = none) : splitOn token s = [s] := by
  rw [splitOn.eq_def]
  split
  · rfl
  · next cut =>
    rw [absent] at cut
    cases cut

theorem splitOn_of_cut (nonempty : token ≠ []) (cut : cutAt? token s = some (before, after)) :
    splitOn token s = before :: splitOn token after := by
  have substantial : token.isEmpty = false := by simpa using nonempty
  rw [splitOn.eq_def]
  split
  · next absent =>
    rw [cut] at absent
    cases absent
  · next found =>
    rw [cut] at found
    cases found
    rw [substantial]
    rfl

theorem splitOn_cases (nonempty : token ≠ []) (s : Text) :
    splitOn token s = [s] ∧ includes token s = false ∨
      ∃ before after, cutAt? token s = some (before, after) ∧
        splitOn token s = before :: splitOn token after ∧ includes token s = true := by
  rw [includes]
  cases cut : cutAt? token s with
  | none => exact Or.inl ⟨splitOn_of_absent cut, rfl⟩
  | some parts =>
    obtain ⟨before, after⟩ := parts
    exact Or.inr ⟨before, after, rfl, splitOn_of_cut nonempty cut, rfl⟩

theorem splitOn_ne_nil (token s : Text) : splitOn token s ≠ [] := by
  rw [splitOn.eq_def]
  split
  · exact List.cons_ne_nil _ _
  · split
    · exact List.cons_ne_nil _ _
    · exact List.cons_ne_nil _ _

theorem intercalate_splitOn (token s : Text) : token.intercalate (splitOn token s) = s := by
  fun_induction splitOn token s with
  | case1 s cut => exact List.intercalate_singleton
  | case2 s before after cut empty => exact List.intercalate_singleton
  | case3 s before after cut substantial ih =>
    rw [List.intercalate_cons_of_ne_nil (splitOn_ne_nil token after), ih, ← eq_of_cutAt? cut]

theorem length_intercalate (token : Text) (pieces : List Text) :
    (token.intercalate pieces).length =
      pieces.flatten.length + token.length * (pieces.length - 1) := by
  induction pieces with
  | nil => simp
  | cons piece rest ih =>
    cases rest with
    | nil => simp
    | cons next rest =>
      rw [List.intercalate_cons_cons, List.length_append, List.length_append, ih]
      simp only [List.flatten_cons, List.length_append, List.length_cons, Nat.add_sub_cancel,
        Nat.mul_add]
      omega

-- Of two pieces or more, only two empty ones leave room for nothing but what stands between them.
theorem length_lt_intercalate {value first next : Text} {rest : List Text} (nonempty : value ≠ [])
    (filled : ¬ (first = [] ∧ next = [] ∧ rest = [])) :
    value.length < (value.intercalate (first :: next :: rest)).length := by
  have positive := List.length_pos_iff.mpr nonempty
  rw [List.intercalate_cons_cons, List.length_append, List.length_append]
  cases rest with
  | nil =>
    rw [List.intercalate_singleton]
    have some : 0 < first.length + next.length := by
      by_contra none
      exact filled ⟨List.length_eq_zero_iff.mp (by omega), List.length_eq_zero_iff.mp (by omega), rfl⟩
    omega
  | cons other rest =>
    rw [List.intercalate_cons_cons, List.length_append, List.length_append]
    omega

theorem not_mem_intercalate {value : Text} {pieces : List Text} {c : Char} (clear : c ∉ value)
    (each : ∀ piece ∈ pieces, c ∉ piece) : c ∉ value.intercalate pieces := by
  induction pieces with
  | nil => exact List.not_mem_nil
  | cons piece rest ih =>
    obtain ⟨here, later⟩ := List.forall_mem_cons.mp each
    cases rest with
    | nil => rwa [List.intercalate_singleton]
    | cons next rest =>
      rw [List.intercalate_cons_cons]
      simp only [List.mem_append, not_or]
      exact ⟨⟨here, clear⟩, ih later⟩

theorem cutAt?_of_not_mem_slash (plain : '/' ∉ s) : cutAt? "://" s = none := by
  cases cut : cutAt? "://" s with
  | none => rfl
  | some parts =>
    rw [eq_of_cutAt? cut] at plain
    simp at plain

-- The mark does not overlap with itself, so nothing of it can begin in what stands before it.
theorem cutAt?_scheme {scheme : Text} (plain : includes "://" scheme = false) (rest : Text) :
    cutAt? "://" (scheme ++ ("://".toList ++ rest)) = some (scheme, rest) := by
  induction scheme with
  | nil => rfl
  | cons c scheme ih =>
    rw [includes_cons, Bool.or_eq_false_iff] at plain
    have apart : "://".toList.isPrefixOf (c :: (scheme ++ ("://".toList ++ rest))) = false := by
      match scheme, plain.1 with
      | [], _ => simp [List.isPrefixOf]
      | [d], _ => simp [List.isPrefixOf]
      | d :: e :: more, before => simpa [List.isPrefixOf] using before
    rw [List.cons_append, cutAt?, apart, ih plain.2]
    rfl

end Text

namespace HostHint

variable {host : Text}

theorem dropWhileEnd_slash (ending : host.getLast? ≠ some '/') :
    Text.dropWhileEnd (· == '/') host = host := by
  refine List.rdropWhile_eq_self_iff.mpr fun nonempty slash => ?_
  rw [beq_iff_eq] at slash
  exact ending (slash ▸ List.getLast?_eq_some_getLast nonempty)

theorem ofText_of_plain (bare : Text.includes "://" host = false)
    (ending : host.getLast? ≠ some '/') : ofText host = ⟨none, host⟩ := by
  have absent := Option.isNone_iff_eq_none.mp (Option.isSome_eq_false_iff.mp bare)
  rw [ofText, absent]
  exact congrArg (HostHint.mk none) (dropWhileEnd_slash ending)

theorem ofText_of_not_mem (plain : '/' ∉ host) : ofText host = ⟨none, host⟩ := by
  refine ofText_of_plain ?_ ?_
  · rw [Text.includes, Text.cutAt?_of_not_mem_slash plain]
    rfl
  · intro last
    exact plain (List.mem_of_getLast? last)

end HostHint

namespace Regex

theorem Reader.read_dot {reader : Reader} {rest : Text} (counting : reader.free = false) :
    reader.read ('.' :: rest) = (reader.push .dot).read rest := by
  rw [Reader.read, counting, next_cons]
  rfl

theorem ReadsAs.wildcard : ReadsAs ".+".toList [] [.repetition .dot 1 none true] where
  notLazy := by decide
  onward reader rest counting _ greedy := by
    refine Eq.trans (Reader.read_dot counting) ?_
    have quantified : (reader.push .dot).repeat? 1 none true =
        some (reader.take [] [.repetition .dot 1 none true]) := rfl
    exact Reader.read_quantifier counting rfl greedy quantified

end Regex

namespace HostPattern

variable {pattern : HostPattern} {host text : Text}

theorem basenameToken_ne_nil : basenameToken ≠ [] := List.cons_ne_nil _ _

-- A token does not match across a line feed.
def basenameRegex : Regex := .repeated 1 none true (.char .unicode (.compl (.single '\n')))

theorem compiles_basename : Compiles ".+".toList [] [basenameRegex] := .single .wildcard ⟨rfl, rfl⟩

def pieceAtoms : List Text → List Regex
  | [] => []
  | [piece] => Route.letters piece
  | piece :: rest => Route.letters piece ++ basenameRegex :: pieceAtoms rest

theorem compiles_pieces (pieces : List Text) :
    Compiles (".+".toList.intercalate (pieces.map escape)) [] (pieceAtoms pieces) := by
  induction pieces using pieceAtoms.induct with
  | case1 => exact .nil
  | case2 piece =>
    rw [List.map_singleton, List.intercalate_singleton]
    exact .escaped piece
  | case3 piece rest several ih =>
    obtain ⟨next, later, rfl⟩ := List.exists_cons_of_ne_nil several
    rw [List.map_cons, List.map_cons, List.intercalate_cons_cons, pieceAtoms, List.append_assoc]
    · exact (Compiles.escaped piece).append (compiles_basename.append ih nofun) nofun
    · exact several

def sourceAtoms (text : Text) : List Regex :=
  .look .textStart ::
    (pieceAtoms (Text.splitOn basenameToken text) ++ [.look .textEnd])

theorem compiles_source (text : Text) : Compiles (source text) [] (sourceAtoms text) :=
  Compiles.caret.append ((compiles_pieces _).append .dollar nofun) nofun

theorem regex_eq (pattern : HostPattern) : pattern.regex = sequence (sourceAtoms pattern.text) :=
  (compiles_source pattern.text).eq_sequence pattern.compiled

-- Two ends, every letter of a piece, and two instructions for a token.
def size (text : Text) : Nat :=
  (Text.splitOn basenameToken text).flatten.length +
    2 * (Text.splitOn basenameToken text).length

theorem sizes_letters (piece : Text) : sizes (Route.letters piece) = piece.length := by
  induction piece with
  | nil => rfl
  | cons c piece ih =>
    rw [Route.letters] at ih
    rw [Route.letters, List.map_cons, sizes, ih, size_ofVariants, List.length_cons, Nat.add_comm]

theorem sizes_pieceAtoms (pieces : List Text) :
    sizes (pieceAtoms pieces) = pieces.flatten.length + 2 * (pieces.length - 1) := by
  induction pieces using pieceAtoms.induct with
  | case1 => rfl
  | case2 piece => rw [pieceAtoms, sizes_letters, List.flatten_singleton]; rfl
  | case3 piece rest several ih =>
    have positive := List.length_pos_iff.mpr several
    have token : basenameRegex.size = 2 := rfl
    rw [pieceAtoms, sizes_append, sizes_letters, sizes, ih, token, List.flatten_cons,
      List.length_append, List.length_cons]
    · omega
    · exact several

theorem size_source (text : Text) : (sequence (sourceAtoms text)).size = size text := by
  have positive := List.length_pos_iff.mpr (Text.splitOn_ne_nil basenameToken text)
  have ends (look : Look) : (Regex.look look).size = 1 := rfl
  rw [size_sequence (compiles_source text).atom (List.cons_ne_nil _ _), sourceAtoms, size, sizes,
    sizes_append, sizes_pieceAtoms, sizes, sizes, ends, ends]
  omega

theorem size_le (text : Text) : size text ≤ text.length + 2 := by
  have positive := List.length_pos_iff.mpr (Text.splitOn_ne_nil basenameToken text)
  have whole := congrArg List.length (Text.intercalate_splitOn basenameToken text)
  have token : basenameToken.length = 10 := rfl
  rw [Text.length_intercalate, token] at whole
  rw [size]
  omega

theorem ofText?_source (text : Text) : Regex.ofText? true (source text) =
    if Regex.sizeLimit < size text then none else some (sequence (sourceAtoms text)) := by
  rw [(compiles_source text).ofText?, size_source]

def ofShort (text : Text) (short : text.length + 2 ≤ Regex.sizeLimit) : HostPattern where
  text
  regex := sequence (sourceAtoms text)
  compiled := by
    have small := Nat.le_trans (size_le text) short
    rw [ofText?_source, if_neg (Nat.not_lt.mpr small)]

theorem compile_text (pattern : HostPattern) : compile pattern.text = .ok pattern := by
  obtain ⟨text, regex, compiled⟩ := pattern
  unfold compile
  split
  · next other found =>
    obtain rfl := Option.some.inj (compiled.symm.trans found)
    rfl
  · next absent =>
    rw [compiled] at absent
    cases absent

theorem pieces_of_cut {before after : Text}
    (cut : Text.cutAt? basenameToken pattern.text = some (before, after))
    (last : Text.cutAt? basenameToken after = none) : pattern.pieces = [before, after] := by
  rw [pieces, Text.splitOn_of_cut basenameToken_ne_nil cut, Text.splitOn_of_absent last]

theorem resolve_eq_intercalate (pattern : HostPattern) (host : Text) :
    pattern.resolve host = host.intercalate pattern.pieces := rfl

-- How a host spells the pieces, with a value in the place of every token. Values are not compared, so
-- two tokens may stand for different ones.
inductive Fits : List Text → Text → Prop
  | last {piece host : Text} (alike : Alike host piece) : Fits [piece] host
  | token {piece next start value tail : Text} {rest : List Text} (alike : Alike start piece)
    (nonempty : value ≠ []) (line : '\n' ∉ value) (others : Fits (next :: rest) tail) :
    Fits (piece :: next :: rest) (start ++ value ++ tail)

theorem contains_basename {c : Char} :
    (CharSet.compl (.single '\n')).contains c = true ↔ c ≠ '\n' := by
  rw [CharSet.contains, Bool.not_eq_true', ← Bool.not_eq_true, contains_single]

theorem passage_basename {p q : Place} {marks : List Mark} :
    basenameRegex.passage p marks q ↔
      marks = [] ∧ ∃ value, value ≠ [] ∧ '\n' ∉ value ∧ p.Moves value q := by
  refine Passage.repeated_oneOf.trans (and_congr_right fun _ => exists_congr fun value => ?_)
  have line : (∀ c ∈ value, (CharSet.compl (.single '\n')).contains c = true) ↔ '\n' ∉ value := by
    simp only [contains_basename, ne_eq, List.forall_mem_ne']
  rw [line, Nat.one_le_iff_ne_zero, ne_eq, List.length_eq_zero_iff]

theorem passage_pieceAtoms_cons (piece next : Text) (rest : List Text) :
    (sequence (pieceAtoms (piece :: next :: rest))).passage =
      (sequence (Route.letters piece)).passage.andThen
        (basenameRegex.passage.andThen (sequence (pieceAtoms (next :: rest))).passage) :=
  (passage_sequence_append _ _).trans (congrArg _ (passage_append _ _))

theorem passage_pieces {pieces : List Text} {p q : Place} {marks : List Mark} (some : pieces ≠ []) :
    (sequence (pieceAtoms pieces)).passage p marks q ↔
      marks = [] ∧ ∃ host, Fits pieces host ∧ p.Moves host q := by
  induction pieces generalizing p marks with
  | nil => exact absurd rfl some
  | cons piece rest ih =>
    cases rest with
    | nil =>
      refine Route.passage_letters.trans (and_congr_right fun _ => exists_congr fun host => ?_)
      refine and_congr_left fun _ => ⟨Fits.last, ?_⟩
      rintro ⟨alike⟩
      exact alike
    | cons next rest =>
      rw [passage_pieceAtoms_cons]
      constructor
      · rintro ⟨_, _, _, first, ⟨_, _, _, middle, later, rfl⟩, rfl⟩
        obtain ⟨rfl, start, alike, moves⟩ := Route.passage_letters.mp first
        obtain ⟨rfl, value, nonempty, line, further⟩ := passage_basename.mp middle
        obtain ⟨rfl, tail, others, last⟩ := (ih (List.cons_ne_nil _ _)).mp later
        exact ⟨rfl, _, .token alike nonempty line others, (moves.trans further).trans last⟩
      · rintro ⟨rfl, _, fits, moves⟩
        cases fits with
        | token alike nonempty line others =>
          obtain ⟨_, both, last⟩ := moves.split
          obtain ⟨_, first, middle⟩ := both.split
          have later := (ih (List.cons_ne_nil _ _)).mpr ⟨rfl, _, others, last⟩
          exact ⟨_, [], [], Route.passage_letters.mpr ⟨rfl, _, alike, first⟩,
            ⟨_, [], [], passage_basename.mpr ⟨rfl, _, nonempty, line, middle⟩, later, rfl⟩, rfl⟩

theorem accepts_iff :
    pattern.accepts host = true ↔ Fits pattern.pieces (HostHint.ofText host).host := by
  have anchored : (sequence (sourceAtoms pattern.text)).passage =
      (Passage.checked .textStart).andThen
        ((sequence (pieceAtoms pattern.pieces)).passage.andThen (.checked .textEnd)) :=
    (passage_append _ _).trans (congrArg _ (passage_sequence_append _ _))
  rw [accepts, regex_eq, isMatch_anchored anchored]
  generalize (HostHint.ofText host).host = plain
  have some : pattern.pieces ≠ [] := Text.splitOn_ne_nil _ _
  constructor
  · rintro ⟨marks, q, ended, passed⟩
    obtain ⟨rfl, piece, fits, moves⟩ := (passage_pieces some).mp passed
    obtain rfl : plain = piece := by simpa [ended] using moves.1
    exact fits
  · intro fits
    have moves : Place.Moves ⟨[], plain⟩ plain ⟨plain, []⟩ := ⟨by simp, by simp⟩
    exact ⟨[], _, rfl, (passage_pieces some).mpr ⟨rfl, _, fits, moves⟩⟩

theorem Fits.not_mem_slash {pieces : List Text} (fits : Fits pieces host) (plain : '/' ∉ host) :
    ∀ piece ∈ pieces, '/' ∉ piece := by
  induction fits with
  | last alike =>
    rw [alike.mem_slash] at plain
    simpa using plain
  | token alike _ _ _ ih =>
    simp only [List.mem_append, not_or] at plain
    rw [alike.mem_slash] at plain
    exact List.forall_mem_cons.mpr ⟨plain.1.1, ih plain.2⟩

theorem resolve_not_mem_slash (fits : Fits pattern.pieces host) (plain : '/' ∉ host) :
    '/' ∉ pattern.resolve host :=
  Text.not_mem_intercalate plain (fits.not_mem_slash plain)

-- The token alone gives the host back, a pattern without a token gives itself, and any other pattern
-- gives something longer than the host.
theorem resolve_cases (pattern : HostPattern) (nonempty : host ≠ []) :
    pattern.text = basenameToken ∧ pattern.resolve host = host ∨
      (pattern.text ≠ basenameToken ∧ Text.includes basenameToken pattern.text = false ∧
        pattern.pieces = [pattern.text] ∧ pattern.resolve host = pattern.text) ∨
      (pattern.text ≠ basenameToken ∧ Text.includes basenameToken pattern.text = true ∧
        host.length < (pattern.resolve host).length) := by
  have itself : Text.includes basenameToken basenameToken = true := by decide
  have whole := Text.intercalate_splitOn basenameToken pattern.text
  rw [resolve_eq_intercalate, pieces]
  rcases Text.splitOn_cases basenameToken_ne_nil pattern.text with
    ⟨one, absent⟩ | ⟨before, after, cut, several, present⟩
  · refine Or.inr (Or.inl ⟨?_, absent, one, ?_⟩)
    · intro same
      rw [same, itself] at absent
      cases absent
    · rw [one, List.intercalate_singleton]
  · obtain ⟨next, rest, others⟩ := List.exists_cons_of_ne_nil (Text.splitOn_ne_nil basenameToken after)
    rw [several, others] at whole ⊢
    by_cases bare : before = [] ∧ next = [] ∧ rest = []
    · obtain ⟨rfl, rfl, rfl⟩ := bare
      refine Or.inl ⟨whole.symm, ?_⟩
      rw [List.intercalate_cons_cons, List.intercalate_singleton]
      simp
    · refine Or.inr (Or.inr ⟨?_, present, Text.length_lt_intercalate nonempty bare⟩)
      intro same
      have longer := Text.length_lt_intercalate basenameToken_ne_nil bare
      rw [whole, same] at longer
      exact Nat.lt_irrefl _ longer

theorem resolve_eq_iff (nonempty : host ≠ []) :
    pattern.resolve host = host ↔ pattern.text = basenameToken ∨
      Text.includes basenameToken pattern.text = false ∧ pattern.text = host := by
  rcases pattern.resolve_cases nonempty with
    ⟨token, same⟩ | ⟨other, absent, _, same⟩ | ⟨other, present, longer⟩
  · simp only [token, same, true_or]
  · simp only [other, absent, same, false_or, true_and]
  · have differs : pattern.resolve host ≠ host := by
      intro same
      rw [same] at longer
      exact Nat.lt_irrefl _ longer
    simp [other, present, differs]

theorem alike_resolve_iff (nonempty : host ≠ []) (fits : Fits pattern.pieces host) :
    Alike (pattern.resolve host) host ↔ pattern.text = basenameToken ∨
      Text.includes basenameToken pattern.text = false := by
  rcases pattern.resolve_cases nonempty with
    ⟨token, same⟩ | ⟨_, absent, one, same⟩ | ⟨other, present, longer⟩
  · simp only [token, same, Alike.refl, true_or]
  · rw [one] at fits
    cases fits with
    | last alike =>
      rw [same]
      exact iff_of_true (Eq.symm alike) (Or.inr absent)
  · have differs : ¬ Alike (pattern.resolve host) host := by
      intro alike
      rw [alike.length] at longer
      exact Nat.lt_irrefl _ longer
    simp [other, present, differs]

end HostPattern

theorem Route.withHost_text (route : Route) (pattern : HostPattern) :
    route.withHost pattern.text = .ok { route with host := some pattern } := by
  rw [withHost, HostPattern.compile_text]
  rfl

end RouteTable
