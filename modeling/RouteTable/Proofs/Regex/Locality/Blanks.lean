import RouteTable.Proofs.Regex.Token

namespace RouteTable.Regex

variable {free : Bool} {c : Char} {s rest u : Text}

-- Whether a comment is open at the end of a text that holds nothing else.
def inComment (comment : Bool) : Text → Bool
  | [] => comment
  | c :: rest =>
    if comment then inComment (c != '\n') rest
    else if Unicode.isWhitespace c then inComment false rest
    else if c = '#' then inComment true rest
    else false

def commented (free : Bool) (s : Text) : Bool := free && inComment false s

theorem skipBlanks_append {comment : Bool} (t : Text) (found : skipBlanks comment s = c :: rest) :
    skipBlanks comment (s ++ t) = c :: (rest ++ t) := by
  fun_induction skipBlanks comment s with
  | case1 => cases found
  | case2 d s ih | case3 d s _ _ ih | case4 s _ _ ih => simp_all [skipBlanks]
  | case5 => simp_all [skipBlanks]

theorem skip_append (t : Text) (found : skip free s = c :: rest) :
    skip free (s ++ t) = c :: (rest ++ t) := by
  cases free with
  | false =>
    obtain rfl : s = c :: rest := found
    rfl
  | true => exact skipBlanks_append t found

theorem skipBlanks_closing {comment : Bool} (u : Text) (closed : inComment comment s = false) :
    skipBlanks comment (s ++ ')' :: u) = skipBlanks comment s ++ ')' :: u := by
  fun_induction inComment comment s with
  | case1 comment =>
    obtain rfl : comment = false := closed
    have plain : Unicode.isWhitespace ')' = false := by decide
    simp [skipBlanks, plain]
  | case2 d s ih | case3 d s _ _ ih | case4 s _ _ ih => simp_all [skipBlanks]
  | case5 => simp_all [skipBlanks]

theorem skipBlanks_commented {comment : Bool} {t : Text} (line : '\n' ∉ t)
    (unfinished : inComment comment s = true) : skipBlanks comment (s ++ t) = [] := by
  fun_induction inComment comment s with
  | case1 comment =>
    obtain rfl : comment = true := unfinished
    induction t with
    | nil => rfl
    | cons c t ih =>
      obtain ⟨here, later⟩ := not_or.mp (mt List.mem_cons.mpr line)
      have inside : (c != '\n') = true := bne_iff_ne.mpr fun same => here same.symm
      simpa [skipBlanks, inside] using ih later
  | case2 d s ih | case3 d s _ _ ih | case4 s _ _ ih => simp_all [skipBlanks]
  | case5 => cases unfinished

theorem skip_closing (u : Text) (closed : commented free s = false) :
    skip free (s ++ ')' :: u) = skip free s ++ ')' :: u := by
  cases free with
  | false => rfl
  | true => exact skipBlanks_closing u closed

theorem skip_commented {t : Text} (line : '\n' ∉ t) (unfinished : commented free s = true) :
    skip free (s ++ t) = [] := by
  cases free with
  | false => cases unfinished
  | true => exact skipBlanks_commented line unfinished

theorem next_append (t : Text) {later : Shorter s} (found : next? free s = some (c, later)) :
    ∃ shorter, next? free (s ++ t) = some (c, ⟨later.1 ++ t, shorter⟩) := by
  unfold next? at found
  split at found
  · cases found
  · next skipped =>
    cases found
    exact next_of_skip (skip_append t skipped)

theorem skip_of_next {later : Shorter s} (found : next? free s = some (c, later)) :
    skip free s = c :: later.1 := by
  unfold next? at found
  split at found
  · cases found
  · next skipped =>
    cases found
    exact skipped

theorem upToBrace_append (t : Text) {chars : Text} {later : Rest s}
    (read : upToBrace free s = some (chars, later)) :
    plainly (upToBrace free (s ++ t)) = some (chars, later.1 ++ t) := by
  fun_induction upToBrace free s generalizing chars with
  | case1 => cases read
  | case2 s rest found =>
    cases read
    obtain ⟨_, next⟩ := next_append t found
    rw [upToBrace, next]
    rfl
  | case3 => cases read
  | case4 s c rest found other chars inner onward ih =>
    cases read
    obtain ⟨_, next⟩ := next_append t found
    obtain ⟨_, further, same⟩ := of_plainly (ih onward)
    rw [upToBrace, next]
    simp only [if_neg other, further]
    exact congrArg (fun rest => some (c :: chars, rest)) same

-- The characters of one kind that stand next, with the rest as a text of its own.
def ran (free : Bool) (kind : Char → Bool) (s : Text) : Text × Text :=
  ((run free kind s).1, (run free kind s).2.1)

theorem ran_of_skip {kind : Char → Bool} (found : skip free s = c :: rest) :
    ran free kind s =
      if kind c then (c :: (ran free kind rest).1, (ran free kind rest).2) else ([], c :: rest) := by
  unfold ran
  rw [run]
  split
  · next none =>
    rw [found] at none
    cases none
  · next other =>
    rw [found] at other
    cases other
    split <;> rfl

theorem ran_append (t : Text) {kind : Char → Bool} (more : (ran free kind s).2 ≠ []) :
    ran free kind (s ++ t) = ((ran free kind s).1, (ran free kind s).2 ++ t) := by
  unfold ran at more ⊢
  fun_induction run free kind s with
  | case1 => exact absurd rfl more
  | case2 s c rest found shorter member chars later onward ih =>
    rw [onward] at ih
    have further : ran free kind (rest ++ t) = _ := ih more
    have whole : ran free kind (s ++ t) = _ := ran_of_skip (skip_append t found)
    rw [if_pos member, further] at whole
    exact whole
  | case3 s c rest found shorter foreign =>
    have whole : ran free kind (s ++ t) = _ := ran_of_skip (skip_append t found)
    rw [if_neg foreign] at whole
    exact whole

theorem run_append (t : Text) {kind : Char → Bool} (more : (run free kind s).2.1 ≠ []) :
    (run free kind (s ++ t)).1 = (run free kind s).1 ∧
      (run free kind (s ++ t)).2.1 = (run free kind s).2.1 ++ t :=
  Prod.mk.inj (ran_append t more)

theorem dropWhile_append {kind : Char → Bool} (t : Text) (more : s.dropWhile kind ≠ []) :
    (s ++ t).dropWhile kind = s.dropWhile kind ++ t := by
  rw [List.dropWhile_append, if_neg (mt List.isEmpty_iff.mp more)]

theorem takeWhile_append {kind : Char → Bool} (t : Text) (more : s.dropWhile kind ≠ []) :
    (s ++ t).takeWhile kind = s.takeWhile kind := by
  have parts := congrArg List.length (List.takeWhile_append_dropWhile (p := kind) (l := s))
  have longer := List.length_pos_iff.mpr more
  rw [List.length_append] at parts
  rw [List.takeWhile_append, if_neg (by omega)]

theorem decimal_eq (free : Bool) (s : Text) :
    plainly (decimal? free s) =
      let found := ran free Char.isDigit (s.dropWhile Unicode.isWhitespace)
      if found.1.isEmpty || 0x100000000 ≤ Text.numberValue 10 found.1 then none
      else some (Text.numberValue 10 found.1, found.2.dropWhile Unicode.isWhitespace) := by
  unfold decimal? ran
  simp only
  split <;> rfl

theorem decimal_append (t : Text) {number : Nat} {later : Rest s}
    (read : decimal? free s = some (number, later)) (more : later.1 ≠ []) :
    plainly (decimal? free (s ++ t)) = some (number, later.1 ++ t) := by
  have plain := plainly_of read
  rw [decimal_eq] at plain ⊢
  simp only at plain ⊢
  split at plain
  · cases plain
  · next valid =>
    obtain ⟨same, after⟩ := Prod.mk.inj (Option.some.inj plain)
    have rest : (ran free Char.isDigit (s.dropWhile Unicode.isWhitespace)).2 ≠ [] := by
      intro none
      rw [none] at after
      exact more after.symm
    have start : s.dropWhile Unicode.isWhitespace ≠ [] := by
      intro none
      rw [none, ran, run] at rest
      cases free <;> exact rest rfl
    rw [← after] at more
    rw [dropWhile_append t start, ran_append t rest]
    rw [if_neg valid, dropWhile_append t more, same, after]

theorem fixed_append (t : Text) {count : Nat} {chars : Text} {later : Rest s}
    (read : fixed? free count s = some (chars, later)) :
    plainly (fixed? free count (s ++ t)) = some (chars, later.1 ++ t) := by
  induction count generalizing s chars with
  | zero =>
    cases read
    rfl
  | succ count ih =>
    unfold fixed? at read
    split at read
    · cases read
    · next found =>
      split at read
      · cases read
      · next onward =>
        cases read
        obtain ⟨_, next⟩ := next_append t found
        obtain ⟨_, further, same⟩ := of_plainly (ih onward)
        rw [fixed?, next]
        simp only [further]
        exact congrArg (fun rest => some (_, rest)) same

end RouteTable.Regex
