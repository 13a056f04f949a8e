namespace RouteTable

abbrev Text := List Char

instance : Coe String Text := ⟨String.toList⟩

namespace Text

-- The pieces between the occurrences of one character; never empty.
def splitAt (sep : Char) : Text → List Text
  | [] => [[]]
  | c :: rest =>
    if c = sep then [] :: splitAt sep rest
    else match splitAt sep rest with
      | [] => [[c]]
      | piece :: pieces => (c :: piece) :: pieces

def cutAt? (token : Text) : Text → Option (Text × Text)
  | [] => if token.isEmpty then some ([], []) else none
  | c :: rest =>
    if token.isPrefixOf (c :: rest) then some ([], (c :: rest).drop token.length)
    else (cutAt? token rest).map fun (before, after) => (c :: before, after)

theorem length_of_cutAt? {token s before after : Text}
    (cut : cutAt? token s = some (before, after)) :
    before.length + token.length + after.length = s.length := by
  induction s generalizing before after with
  | nil =>
    simp only [cutAt?] at cut
    split at cut <;> simp_all
  | cons c rest ih =>
    simp only [cutAt?] at cut
    split at cut
    · next found =>
      have fits := (List.isPrefixOf_iff_prefix.mp found).length_le
      simp only [Option.some.injEq, Prod.mk.injEq] at cut
      obtain ⟨rfl, rfl⟩ := cut
      simp only [List.length_nil, List.length_drop]
      omega
    · simp only [Option.map_eq_some_iff, Prod.exists, Prod.mk.injEq] at cut
      obtain ⟨before', after', later, rfl, rfl⟩ := cut
      have := ih later
      simp only [List.length_cons]
      omega

-- The pieces between the occurrences of a token, found from the left without overlap.
def splitOn (token s : Text) : List Text :=
  match _cut : cutAt? token s with
  | none => [s]
  | some (before, after) =>
    if token.isEmpty then [s] else before :: splitOn token after
termination_by s.length
decreasing_by
  have := length_of_cutAt? _cut
  have : token.length ≠ 0 := by simp_all
  omega

def replace (token value s : Text) : Text :=
  value.intercalate (splitOn token s)

def includes (part : Text) (s : Text) : Bool :=
  (cutAt? part s).isSome

def dropSuffix? (suffix s : Text) : Option Text :=
  if suffix.isSuffixOf s then some (s.take (s.length - suffix.length)) else none

def dropWhileEnd (p : Char → Bool) (s : Text) : Text :=
  (s.reverse.dropWhile p).reverse

def asciiLower (s : Text) : Text := s.map Char.toLower

def asciiUpper (s : Text) : Text := s.map Char.toUpper

end Text

end RouteTable
