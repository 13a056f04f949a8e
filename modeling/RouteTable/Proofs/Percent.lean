import RouteTable.Proofs.Path
import RouteTable.Text.Percent
import RouteTable.Text.Rest

namespace RouteTable

namespace Text.Percent

-- A `%` without two hexadecimal digits behind it stands for nothing.
def octets? : Text → Option (List UInt8)
  | [] => some []
  | c :: rest =>
    if c = '%' then
      match rest with
      | high :: low :: later =>
        if isHexDigit high && isHexDigit low then
          (octets? later).map (UInt8.ofNat (16 * digitValue high + digitValue low) :: ·)
        else none
      | _ => none
    else (octets? rest).map (String.utf8EncodeChar c ++ ·)

-- The text whose UTF-8 form was written.
def decode? (s : Text) : Option Text := do
  let octets ← octets? s
  let chars ← octets.toByteArray.utf8Decode?
  return chars.toList

theorem octets?_cons {c : Char} (other : c ≠ '%') (rest : Text) :
    octets? (c :: rest) = (octets? rest).map (String.utf8EncodeChar c ++ ·) := by
  rw [octets?.eq_def]
  exact if_neg other

theorem hexDigit_facts : ∀ n < 16, isHexDigit (hexDigit n) = true ∧ digitValue (hexDigit n) = n ∧
    unreserved (hexDigit n) = true := by
  decide

theorem octets?_encodeByte (byte : UInt8) (rest : Text) :
    octets? (encodeByte byte ++ rest) = (octets? rest).map (byte :: ·) := by
  have bounded := byte.toNat_lt
  obtain ⟨high, highValue, _⟩ := hexDigit_facts (byte.toNat / 16) (by omega)
  obtain ⟨low, lowValue, _⟩ := hexDigit_facts (byte.toNat % 16) (by omega)
  have whole : UInt8.ofNat (16 * (byte.toNat / 16) + byte.toNat % 16) = byte := by
    rw [Nat.div_add_mod, UInt8.ofNat_toNat]
  simp only [encodeByte, List.cons_append, List.nil_append, octets?, if_true, high, low,
    Bool.and_true, highValue, lowValue, whole]

theorem octets?_encodeBytes (bytes : List UInt8) (rest : Text) :
    octets? (bytes.flatMap encodeByte ++ rest) = (octets? rest).map (bytes ++ ·) := by
  induction bytes with
  | nil => simp
  | cons byte bytes ih =>
    rw [List.flatMap_cons, List.append_assoc, octets?_encodeByte, ih, Option.map_map]
    rfl

theorem octets?_encodeChar (c : Char) (rest : Text) :
    octets? (encodeChar c ++ rest) = (octets? rest).map (String.utf8EncodeChar c ++ ·) := by
  unfold encodeChar
  split
  · next plain =>
    have other : c ≠ '%' := by
      rintro rfl
      cases plain
    exact octets?_cons other rest
  · exact octets?_encodeBytes _ rest

theorem octets?_encode (s rest : Text) :
    octets? (encode s ++ rest) = (octets? rest).map (s.flatMap String.utf8EncodeChar ++ ·) := by
  induction s with
  | nil => simp [encode]
  | cons c s ih =>
    change octets? ((encodeChar c ++ encode s) ++ rest) = _
    rw [List.append_assoc, octets?_encodeChar, ih, Option.map_map, List.flatMap_cons]
    simp only [Function.comp_def, List.append_assoc]

theorem decode?_encode (s : Text) : decode? (encode s) = some s := by
  have octets := octets?_encode s []
  rw [List.append_nil] at octets
  have utf8 : (s.flatMap String.utf8EncodeChar).toByteArray.utf8Decode? = some s.toArray :=
    List.utf8Decode?_utf8Encode
  simp [decode?, octets, octets?, utf8]

theorem mem_encode {s : Text} {c : Char} (member : c ∈ encode s) : unreserved c = true ∨ c = '%' := by
  obtain ⟨d, _, written⟩ := List.mem_flatMap.mp member
  unfold encodeChar at written
  split at written
  · next plain =>
    rw [List.mem_singleton.mp written]
    exact Or.inl plain
  · obtain ⟨byte, _, digits⟩ := List.mem_flatMap.mp written
    have bounded := byte.toNat_lt
    obtain ⟨_, _, high⟩ := hexDigit_facts (byte.toNat / 16) (by omega)
    obtain ⟨_, _, low⟩ := hexDigit_facts (byte.toNat % 16) (by omega)
    simp only [encodeByte, List.mem_cons, List.not_mem_nil, or_false] at digits
    rcases digits with rfl | rfl | rfl
    · exact Or.inr rfl
    · exact Or.inl high
    · exact Or.inl low

theorem not_mem_encode {c : Char} (reserved : unreserved c = false) (other : c ≠ '%') (s : Text) :
    c ∉ encode s := by
  intro member
  rcases mem_encode member with plain | mark
  · rw [reserved] at plain
    cases plain
  · exact other mark

end Text.Percent

namespace Text

theorem splitAt_intercalate {sep : Char} {pieces : List Text} (nonempty : pieces ≠ [])
    (plain : ∀ piece ∈ pieces, sep ∉ piece) : splitAt sep ([sep].intercalate pieces) = pieces := by
  induction pieces with
  | nil => exact absurd rfl nonempty
  | cons piece rest ih =>
    obtain ⟨here, later⟩ := List.forall_mem_cons.mp plain
    cases rest with
    | nil => rw [List.intercalate_singleton, splitAt_of_not_mem here]
    | cons next rest =>
      rw [List.intercalate_cons_cons, List.append_assoc, List.singleton_append, splitAt_append,
        splitAt_of_not_mem here, ih (List.cons_ne_nil _ _) later]
      rfl

theorem cutAt?_singleton {sep : Char} {before : Text} (plain : sep ∉ before) (after : Text) :
    cutAt? [sep] (before ++ sep :: after) = some (before, after) := by
  induction before with
  | nil => simp [cutAt?, List.isPrefixOf]
  | cons c before ih =>
    simp only [List.mem_cons, not_or] at plain
    have apart : [sep].isPrefixOf (c :: (before ++ sep :: after)) = false := by
      simp [List.isPrefixOf, plain.1]
    rw [List.cons_append, cutAt?, apart, ih plain.2]
    rfl

end Text

namespace Query

open Text.Percent

def writePair (pair : Text × Text) : Text := encode pair.1 ++ ['='] ++ encode pair.2

def write (pairs : List (Text × Text)) : Text := ['&'].intercalate (pairs.map writePair)

def readPair? (part : Text) : Option (Text × Text) := do
  let (name, value) ← Text.cutAt? ['='] part
  return (← decode? name, ← decode? value)

def read? (query : Text) : Option (List (Text × Text)) :=
  (Text.splitAt '&' query).mapM readPair?

theorem readPair?_writePair (pair : Text × Text) : readPair? (writePair pair) = some pair := by
  have cut : Text.cutAt? ['='] (encode pair.1 ++ '=' :: encode pair.2) = _ :=
    Text.cutAt?_singleton (not_mem_encode rfl (by decide) pair.1) _
  rw [writePair, List.append_assoc, List.singleton_append, readPair?, cut]
  simp [decode?_encode]

theorem writePair_ne_nil (pair : Text × Text) : writePair pair ≠ [] := by
  simp [writePair]

theorem not_mem_writePair (pair : Text × Text) : '&' ∉ writePair pair := by
  have absent := not_mem_encode (c := '&') rfl (by decide)
  simp [writePair, absent]

theorem read?_write {pairs : List (Text × Text)} (nonempty : pairs ≠ []) :
    read? (write pairs) = some pairs := by
  have plain : ∀ part ∈ pairs.map writePair, '&' ∉ part := by
    intro part member
    obtain ⟨pair, _, rfl⟩ := List.mem_map.mp member
    exact not_mem_writePair pair
  have parts : pairs.map writePair ≠ [] := by simpa using nonempty
  have each : readPair? ∘ writePair = pure := funext readPair?_writePair
  rw [read?, write, Text.splitAt_intercalate parts plain, List.mapM_map, each, List.mapM_pure]
  simp

theorem write_eq_nil {pairs : List (Text × Text)} : write pairs = [] ↔ pairs = [] := by
  constructor
  · intro nothing
    cases pairs with
    | nil => rfl
    | cons pair pairs =>
      cases pairs with
      | nil =>
        rw [write, List.map_singleton, List.intercalate_singleton] at nothing
        exact absurd nothing (writePair_ne_nil pair)
      | cons next pairs =>
        rw [write, List.map_cons, List.map_cons, List.intercalate_cons_cons] at nothing
        simp at nothing
  · rintro rfl
    rfl

end Query

end RouteTable
