import RouteTable.Proofs.Ascii

namespace RouteTable

open Unicode (foldCase)

def Alike (s t : Text) : Prop := s.map foldCase = t.map foldCase

theorem foldCase_eq_slash {c : Char} : foldCase c = '/' ↔ c = '/' :=
  Unicode.foldCase_eq_small (by decide)

theorem foldCase_slash : foldCase '/' = '/' := foldCase_eq_slash.mpr rfl

namespace Alike

variable {s s' t t' : Text}

theorem refl (s : Text) : Alike s s := rfl

theorem length (alike : Alike s t) : s.length = t.length := by
  simpa using congrArg List.length alike

theorem append (first : Alike s t) (later : Alike s' t') : Alike (s ++ s') (t ++ t') := by
  rw [Alike, List.map_append, List.map_append, first, later]

theorem split (both : Alike s (t ++ t')) : ∃ u u', s = u ++ u' ∧ Alike u t ∧ Alike u' t' := by
  rw [Alike, List.map_append] at both
  obtain ⟨u, u', rfl, first, later⟩ := List.map_eq_append_iff.mp both
  exact ⟨u, u', rfl, first, later⟩

theorem mem_slash (alike : Alike s t) : '/' ∈ s ↔ '/' ∈ t := by
  have folded (u : Text) : '/' ∈ u.map foldCase ↔ '/' ∈ u := by
    simp only [List.mem_map, foldCase_eq_slash, exists_eq_right]
  rw [← folded s, alike, folded t]

theorem of_small {c : Char} (small : c.toNat < 0x41) (alike : Alike s [c]) : s = [c] := by
  cases s with
  | nil => cases alike
  | cons d rest =>
    simp only [Alike, List.map_cons, List.map_nil, List.cons.injEq, List.map_eq_nil_iff] at alike
    rw [(Unicode.foldCase_eq_small small).mpr rfl, Unicode.foldCase_eq_small small] at alike
    rw [alike.1, alike.2]

theorem of_ascii (ascii : s.all (·.toNat.blt 0x80) = true)
    (ascii' : t.all (·.toNat.blt 0x80) = true)
    (same : s.map Unicode.foldAscii = t.map Unicode.foldAscii) : Alike s t := by
  rw [Alike, Unicode.map_foldCase_of_ascii ascii, same, Unicode.map_foldCase_of_ascii ascii']

theorem slash (alike : Alike s ['/']) : s = ['/'] := of_small (by decide) alike

theorem dot (alike : Alike s ['.']) : s = ['.'] := of_small (by decide) alike

end Alike

end RouteTable
