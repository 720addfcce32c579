import CodeReview.Proofs.Json.Scanning
import CodeReview.Proofs.Text.Trimming

/-!
The lines of a JSON text. Line feeds stand in its white space only, and behind white space comes a sign, a
word, a string or a number, where a dash has a digit after it. So of a text that is scanned to its end no line
begins with a dash and something else. Every scanner goes along its text, so what holds of the text behind
what it has scanned holds of the whole.
-/

namespace CodeReview.Json

open Text

def Dashed (cs : List Char) : Prop :=
  ∃ rest, trimStart cs = '-' :: rest ∧ ∀ c ∈ rest.head?, c.isDigit = false

def Undashed (cs : List Char) : Prop :=
  ∀ before rest, cs = before ++ '\n' :: rest → ¬ Dashed rest

def OneLine (cs rest : List Char) : Prop := ∃ taken, cs = taken ++ rest ∧ '\n' ∉ taken

section OneLine

variable {cs rest : List Char}

theorem one_line_refl (cs : List Char) : OneLine cs cs := ⟨[], rfl, List.not_mem_nil⟩

theorem one_line_cons {c : Char} (other : c ≠ '\n') (line : OneLine cs rest) : OneLine (c :: cs) rest := by
  obtain ⟨taken, rfl, one⟩ := line
  refine ⟨c :: taken, rfl, ?_⟩
  rw [List.mem_cons, not_or]
  exact ⟨other.symm, one⟩

theorem digit_no_feed {c : Char} (digit : c.isDigit = true) : c ≠ '\n' := by
  rintro rfl
  cases digit

theorem one_line_digits {digits : List Char} (taken : takeDigits cs = (digits, rest)) : OneLine cs rest := by
  rw [takeDigits, List.span_eq_takeWhile_dropWhile] at taken
  obtain ⟨rfl, rfl⟩ := Prod.mk.inj taken
  refine ⟨_, List.takeWhile_append_dropWhile.symm, ?_⟩
  intro member
  exact digit_no_feed (List.mem_takeWhile_imp member) rfl

end OneLine

section Tokens

variable {cs rest : List Char}

theorem scan_word_line (value : Scan) (word : List Char) (one : '\n' ∉ word)
    (scanned : (scanWord value word cs).rest = some rest) : OneLine cs rest := by
  induction word generalizing cs with
  | nil =>
      cases scanned
      exact one_line_refl _
  | cons d word ih =>
      obtain ⟨other, more⟩ := List.ne_and_not_mem_of_not_mem_cons one
      cases cs with
      | nil => cases scanned
      | cons c cs =>
          rw [scanWord] at scanned
          split at scanned
          · next same =>
              rw [← eq_of_beq same]
              exact one_line_cons other.symm (ih more scanned)
          · cases scanned

theorem scan_exponent_line (negative : Bool) (significand : Nat) (exponent : Int)
    (scanned : (scanExponent negative significand exponent cs).rest = some rest) : OneLine cs rest := by
  unfold scanExponent at scanned
  split at scanned
  next down after sign =>
  have behind : OneLine after rest := by
    split at scanned
    · cases scanned
    · cases scanned
    · next taken =>
        dsimp only at scanned
        split at scanned
        · split at scanned
          · cases scanned
            exact one_line_digits taken
          · cases scanned
            exact one_line_digits taken
        · cases scanned
          exact one_line_digits taken
  split at sign
  · cases sign
    exact one_line_cons (by decide) behind
  · cases sign
    exact one_line_cons (by decide) behind
  · cases sign
    exact behind

theorem scan_after_digits_line (negative : Bool) (significand : Nat) (exponent : Int)
    (scanned : (scanAfterDigits negative significand exponent cs).rest = some rest) : OneLine cs rest := by
  unfold scanAfterDigits at scanned
  split at scanned
  · next c after =>
      split at scanned
      · next mark =>
          have other : c ≠ '\n' := by
            rintro rfl
            exact absurd mark (by decide)
          exact one_line_cons other (scan_exponent_line _ _ _ scanned)
      · cases scanned
        exact one_line_refl _
  · cases scanned
    exact one_line_refl _

theorem one_line_trans {cs middle rest : List Char} (line : OneLine cs middle)
    (line' : OneLine middle rest) : OneLine cs rest := by
  obtain ⟨taken, rfl, one⟩ := line
  obtain ⟨taken', rfl, one'⟩ := line'
  refine ⟨taken ++ taken', (List.append_assoc ..).symm, ?_⟩
  rw [List.mem_append, not_or]
  exact ⟨one, one'⟩

theorem scan_after_whole_line (negative : Bool) (whole : Significand)
    (scanned : (scanAfterWhole negative whole cs).rest = some rest) : OneLine cs rest := by
  unfold scanAfterWhole at scanned
  split at scanned
  · next after =>
      split at scanned
      · cases scanned
      · cases scanned
      · next taken =>
          exact one_line_cons (by decide)
            (one_line_trans (one_line_digits taken) (scan_after_digits_line _ _ _ scanned))
  · split at scanned
    · exact scan_after_digits_line _ _ _ scanned
    · cases scanned
      exact one_line_refl _
  · cases scanned
    exact one_line_refl _

theorem scan_number_line (negative : Bool) (scanned : (scanNumber negative cs).rest = some rest) :
    OneLine cs rest ∧ ∃ c more, cs = c :: more ∧ c.isDigit = true := by
  unfold scanNumber at scanned
  split at scanned
  · cases scanned
  · cases scanned
  · next digits after bare empty taken =>
      constructor
      · split at scanned
        · cases scanned
        · exact one_line_trans (one_line_digits taken) (scan_after_whole_line _ _ scanned)
      · cases cs with
        | nil =>
            cases taken
            exact absurd rfl (bare rfl)
        | cons c more =>
            refine ⟨c, more, rfl, ?_⟩
            by_contra other
            have none : takeDigits (c :: more) = ([], c :: more) := by
              rw [takeDigits, List.span_eq_takeWhile_dropWhile]
              simp [other]
            obtain ⟨rfl, rfl⟩ := Prod.mk.inj (none.symm.trans taken)
            exact empty c more rfl rfl

end Tokens

def Piece.behind : Piece → Option (List Char)
  | .char _ rest => some rest
  | .half rest => some rest
  | .closed rest => some rest
  | .fault _ => none

section Strings

variable {cs rest : List Char}

theorem hex_value_line {c : Char} {n : Nat} (value : hexValue? c = some n) : c ≠ '\n' := by
  rintro rfl
  cases value

theorem scan_hex_line {n : Nat} (scanned : scanHex cs = .unit n rest) : OneLine cs rest := by
  unfold scanHex at scanned
  split at scanned
  · split at scanned
    · next first second third fourth =>
        cases scanned
        exact one_line_cons (hex_value_line first) (one_line_cons (hex_value_line second)
          (one_line_cons (hex_value_line third) (one_line_cons (hex_value_line fourth) (one_line_refl _))))
    · cases scanned
  · cases scanned

theorem scan_piece_line (scanned : (scanPiece cs).behind = some rest) : OneLine cs rest := by
  unfold scanPiece at scanned
  split at scanned
  · cases scanned
  · cases scanned
    exact one_line_cons (by decide) (one_line_refl _)
  · next after =>
      refine one_line_cons (by decide) ?_
      split at scanned
      · cases scanned
      · next escape =>
          refine one_line_cons (by decide) ?_
          split at scanned
          · cases scanned
          · next unit =>
              refine one_line_trans (scan_hex_line unit) ?_
              split at scanned
              · cases scanned
                exact one_line_refl _
              · split at scanned
                · split at scanned
                  · split at scanned
                    · cases scanned
                    · next low =>
                        have pair := one_line_cons (c := '\\') (by decide)
                          (one_line_cons (c := 'u') (by decide) (scan_hex_line low))
                        split at scanned
                        · cases scanned
                          exact pair
                        · cases scanned
                          exact one_line_refl _
                  · cases scanned
                  · cases scanned
                  · cases scanned
                    exact one_line_refl _
                · cases scanned
                  exact one_line_refl _
      · next escape =>
          split at scanned
          · next named =>
              cases scanned
              refine one_line_cons ?_ (one_line_refl _)
              rintro rfl
              cases named
          · cases scanned
  · split at scanned
    · cases scanned
    · next plain =>
        cases scanned
        refine one_line_cons ?_ (one_line_refl _)
        rintro rfl
        exact plain (by decide)

theorem scan_string_line (fuel : Nat) (done : List Char) (whole : Bool)
    (scanned : (scanString fuel done whole cs).rest = some rest) : OneLine cs rest := by
  induction fuel generalizing done whole cs with
  | zero => cases scanned
  | succ fuel ih =>
      rw [scanString] at scanned
      split at scanned
      · next c after piece =>
          exact one_line_trans (scan_piece_line (congrArg Piece.behind piece)) (ih _ _ scanned)
      · next after piece =>
          exact one_line_trans (scan_piece_line (congrArg Piece.behind piece)) (ih _ _ scanned)
      · next after piece =>
          cases scanned
          exact scan_piece_line (congrArg Piece.behind piece)
      · cases scanned

end Strings

section Values

variable {cs rest : List Char}

theorem undashed_nil : Undashed [] := by
  intro before rest same
  cases before <;> cases same

theorem undashed_cons {c : Char} (lead : c = '\n' → ¬ Dashed cs) (undashed : Undashed cs) :
    Undashed (c :: cs) := by
  intro before rest same
  cases before with
  | nil =>
      obtain ⟨rfl, rfl⟩ := List.cons.inj same
      exact lead rfl
  | cons d before => exact undashed before rest (List.cons.inj same).2

theorem undashed_line (line : OneLine cs rest) (undashed : Undashed rest) : Undashed cs := by
  obtain ⟨taken, rfl, one⟩ := line
  induction taken with
  | nil => exact undashed
  | cons c taken ih =>
      obtain ⟨other, more⟩ := List.ne_and_not_mem_of_not_mem_cons one
      exact undashed_cons (fun feed => absurd feed.symm other) (ih more)

/-- What may come behind white space: no other white space, and no dash without a digit. -/
def Follows (cs : List Char) : Prop := (∀ c ∈ cs.head?, isBlank c = false) ∧ ¬ Dashed cs

theorem space_is_blank (c : Char) (space : isSpace c = true) : isBlank c = true := by
  simp only [isSpace, Bool.or_eq_true, beq_iff_eq] at space
  rcases space with ((rfl | rfl) | rfl) | rfl <;> decide

theorem skipped_dashed (follows : Follows (skipSpace cs)) : ¬ Dashed cs := by
  induction cs with
  | nil =>
      rintro ⟨rest, start, -⟩
      cases start
  | cons c cs ih =>
      by_cases space : isSpace c = true
      · rw [skipSpace, List.dropWhile_cons_of_pos space] at follows
        rintro ⟨rest, start, digit⟩
        rw [trimStart, List.dropWhile_cons_of_pos (space_is_blank c space)] at start
        exact ih follows ⟨rest, start, digit⟩
      · rw [skipSpace, List.dropWhile_cons_of_neg space] at follows
        exact follows.2

theorem undashed_space (follows : Follows (skipSpace cs)) (undashed : Undashed (skipSpace cs)) :
    Undashed cs := by
  induction cs with
  | nil => exact undashed_nil
  | cons c cs ih =>
      by_cases space : isSpace c = true
      · rw [skipSpace, List.dropWhile_cons_of_pos space] at follows undashed
        exact undashed_cons (fun _ => skipped_dashed follows) (ih follows undashed)
      · rwa [skipSpace, List.dropWhile_cons_of_neg space] at undashed

theorem follows_sign (c : Char) (cs : List Char) (solid : isBlank c = false) (noDash : c ≠ '-') :
    Follows (c :: cs) := by
  constructor
  · rintro _ ⟨⟩
    exact solid
  · rintro ⟨rest, start, -⟩
    rw [trim_start_head (by rintro _ ⟨⟩; exact solid)] at start
    exact noDash (List.cons.inj start).1

theorem undashed_sign {c : Char} (skipped : skipSpace cs = c :: rest) (solid : isBlank c = false)
    (noDash : c ≠ '-') (undashed : Undashed rest) : Undashed cs := by
  apply undashed_space
  · rw [skipped]
    exact follows_sign c rest solid noDash
  · rw [skipped]
    apply undashed_cons _ undashed
    rintro rfl
    cases solid

theorem follows_minus (c : Char) (cs : List Char) (digit : c.isDigit = true) : Follows ('-' :: c :: cs) := by
  constructor
  · rintro _ ⟨⟩
    rfl
  · rintro ⟨rest, start, other⟩
    rw [trim_start_head (by rintro _ ⟨⟩; rfl)] at start
    cases start
    rw [other c rfl] at digit
    cases digit

theorem scan_value_skip (fuel : Nat) (cs : List Char) :
    scanValue fuel (skipSpace cs) = scanValue fuel cs := by
  conv_rhs => rw [← List.takeWhile_append_dropWhile (p := isSpace) (l := cs)]
  exact (scan_value_blank fuel _ _ fun _ => List.mem_takeWhile_imp).symm

mutual

theorem scan_value_undashed (fuel : Nat) (cs rest : List Char)
    (scanned : (scanValue fuel cs).rest = some rest) (undashed : Undashed rest) : Undashed cs := by
  cases fuel with
  | zero =>
      rw [scanValue] at scanned
      cases scanned
  | succ n =>
      rw [scanValue] at scanned
      split at scanned
      · cases scanned
      · next c after skipped =>
          split at scanned
          · exact undashed_sign skipped (by decide) (by decide)
              (undashed_line (scan_word_line _ _ (by decide) scanned) undashed)
          · exact undashed_sign skipped (by decide) (by decide)
              (undashed_line (scan_word_line _ _ (by decide) scanned) undashed)
          · exact undashed_sign skipped (by decide) (by decide)
              (undashed_line (scan_word_line _ _ (by decide) scanned) undashed)
          · exact undashed_sign skipped (by decide) (by decide)
              (undashed_line (scan_string_line _ _ _ scanned) undashed)
          · obtain ⟨line, c, more, rfl, digit⟩ := scan_number_line true scanned
            apply undashed_space
            · rw [skipped]
              exact follows_minus c more digit
            · rw [skipped]
              exact undashed_line (one_line_cons (by decide) line) undashed
          · split at scanned
            · next closed =>
                cases scanned
                exact undashed_sign skipped (by decide) (by decide)
                  (undashed_sign closed (by decide) (by decide) undashed)
            · exact undashed_sign skipped (by decide) (by decide)
                (scan_items_undashed n _ _ _ scanned undashed)
          · split at scanned
            · next closed =>
                cases scanned
                exact undashed_sign skipped (by decide) (by decide)
                  (undashed_sign closed (by decide) (by decide) undashed)
            · exact undashed_sign skipped (by decide) (by decide)
                (scan_members_undashed n _ _ _ scanned undashed)
          · split at scanned
            · next digit =>
                apply undashed_space
                · rw [skipped]
                  refine follows_sign c after (digit_plain c digit).1 ?_
                  rintro rfl
                  cases digit
                · rw [skipped]
                  exact undashed_line (scan_number_line false scanned).1 undashed
            · cases scanned

theorem scan_items_undashed (fuel : Nat) (done : List Scan) (cs rest : List Char)
    (scanned : (scanItems fuel done cs).rest = some rest) (undashed : Undashed rest) : Undashed cs := by
  cases fuel with
  | zero =>
      rw [scanItems] at scanned
      cases scanned
  | succ n =>
      rw [scanItems] at scanned
      split at scanned
      · split at scanned <;> cases scanned
      · cases scanned
      · dsimp only at scanned
        split at scanned
        · cases scanned
        · next behind read =>
            rw [scan_value_skip] at read
            apply scan_value_undashed n cs behind read
            split at scanned
            · next comma =>
                exact undashed_sign comma (by decide) (by decide)
                  (scan_items_undashed n _ _ _ scanned undashed)
            · next closed =>
                cases scanned
                exact undashed_sign closed (by decide) (by decide) undashed
            · cases scanned
            · cases scanned

theorem scan_members_undashed (fuel : Nat) (done : List (String × Scan)) (cs rest : List Char)
    (scanned : (scanMembers fuel done cs).rest = some rest) (undashed : Undashed rest) : Undashed cs := by
  cases fuel with
  | zero =>
      rw [scanMembers] at scanned
      cases scanned
  | succ n =>
      rw [scanMembers] at scanned
      dsimp only at scanned
      split at scanned
      · cases scanned
      · next after quoted =>
          split at scanned
          · cases scanned
          · cases scanned
          · next name _ =>
              refine undashed_sign quoted (by decide) (by decide)
                (undashed_line (scan_string_line _ _ _ name) ?_)
              split at scanned
              · next colon =>
                  refine undashed_sign colon (by decide) (by decide) ?_
                  split at scanned
                  · cases scanned
                  · next behind read =>
                      apply scan_value_undashed n _ behind read
                      split at scanned
                      · next comma =>
                          exact undashed_sign comma (by decide) (by decide)
                            (scan_members_undashed n _ _ _ scanned undashed)
                      · next closed =>
                          cases scanned
                          exact undashed_sign closed (by decide) (by decide) undashed
                      · cases scanned
                      · cases scanned
              · cases scanned
              · cases scanned
      · cases scanned

end

theorem scan_text_undashed (cs rest : List Char) (scanned : (scanText cs).rest = some rest)
    (space : skipSpace rest = []) : Undashed cs := by
  apply scan_value_undashed _ cs rest scanned
  apply undashed_space
  · rw [space]
    exact ⟨by simp, fun ⟨_, start, _⟩ => by cases start⟩
  · rw [space]
    exact undashed_nil

end Values

end CodeReview.Json
