import CodeReview.Review.Answer
import Mathlib.Data.List.Basic
import Mathlib.Data.List.TakeWhile

/-!
Trimmed texts and the lines they are made of. A text that has no white space at its ends is what trimming
leaves, and what it leaves alone. Joined with line feeds, such texts are the lines of the joined text.
-/

namespace CodeReview.Text

def Blanks (cs : List Char) : Prop := ∀ c ∈ cs, isBlank c = true

instance (cs : List Char) : Decidable (Blanks cs) :=
  decidable_of_iff (cs.all isBlank = true) List.all_eq_true

def Solid (cs : List Char) : Prop :=
  (∀ c ∈ cs.head?, isBlank c = false) ∧ ∀ c ∈ cs.getLast?, isBlank c = false

instance (cs : List Char) : Decidable (Solid cs) :=
  decidable_of_iff
    (cs.head?.all (fun c => !isBlank c) = true ∧ cs.getLast?.all (fun c => !isBlank c) = true) <| by
      simp [Solid, Option.all_eq_true]

theorem blanks_nil : Blanks [] := by
  intro c member
  cases member

theorem space_blank : Blanks [' '] := by
  intro c member
  rw [List.mem_singleton.mp member]
  rfl

theorem digit_plain (c : Char) (digit : c.isDigit = true) :
    isBlank c = false ∧ isDecimalDigit c = true := by
  have each : ∀ n < 58, 48 ≤ n →
      isBlank (Char.ofNat n) = false ∧ isDecimalDigit (Char.ofNat n) = true := by decide
  obtain ⟨least, most⟩ : 48 ≤ c.val ∧ c.val ≤ 57 := by simpa [Char.isDigit] using digit
  rw [← Char.ofNat_toNat c]
  exact each c.toNat (Nat.lt_succ_of_le most) least

section Trimming

variable {before cs after : List Char}

theorem trim_start_blanks (blanks : Blanks before) : trimStart (before ++ cs) = trimStart cs :=
  List.dropWhile_append_of_pos blanks

theorem trim_end_blanks (blanks : Blanks after) : trimEnd (cs ++ after) = trimEnd cs := by
  rw [trimEnd, List.reverse_append, trim_start_blanks, trimEnd]
  intro c member
  exact blanks c (List.mem_reverse.mp member)

theorem trim_start_head (solid : ∀ c ∈ cs.head?, isBlank c = false) : trimStart cs = cs := by
  cases cs with
  | nil => rfl
  | cons c rest => exact List.dropWhile_cons_of_neg (by simp [solid c rfl])

theorem trim_end_last (solid : ∀ c ∈ cs.getLast?, isBlank c = false) : trimEnd cs = cs := by
  rw [trimEnd, trim_start_head, List.reverse_reverse]
  rwa [List.head?_reverse]

theorem trim_solid (solid : Solid cs) : trim cs = cs := by
  rw [trim, trim_start_head solid.1, trim_end_last solid.2]

/-- White space around a text makes no difference to what trimming leaves. -/
theorem trim_surrounded (blanks : Blanks before) (blanks' : Blanks after) :
    trim (before ++ cs ++ after) = trim cs := by
  rw [trim, List.append_assoc, trim_start_blanks blanks, trimStart, List.dropWhile_append]
  split
  · next none =>
      have gone : trimStart cs = [] := List.isEmpty_iff.mp none
      have tail : after.dropWhile isBlank = [] := List.dropWhile_eq_nil_iff.mpr blanks'
      rw [trim, tail, gone]
  · exact trim_end_blanks blanks'

theorem trim_before (blanks : Blanks before) : trim (before ++ cs) = trim cs := by
  rw [trim, trim_start_blanks blanks, trim]

theorem trim_after (blanks : Blanks after) : trim (cs ++ after) = trim cs :=
  trim_surrounded blanks_nil blanks

theorem trim_after_space (cs : List Char) : trim (' ' :: cs) = trim cs := trim_before space_blank

theorem trim_start_solid (cs : List Char) : ∀ c ∈ (trimStart cs).head?, isBlank c = false := by
  intro c first
  have stopped := List.head?_dropWhile_not isBlank cs
  rw [trimStart] at first
  rw [first] at stopped
  exact stopped

theorem trim_end_twice (cs : List Char) : trimEnd (trimEnd cs) = trimEnd cs := by
  apply trim_end_last
  intro c last
  rw [trimEnd, List.getLast?_reverse] at last
  exact trim_start_solid _ c last

theorem trim_end_front (cs : List Char) : trimEnd cs <+: cs := by
  have suffix : trimStart cs.reverse <:+ cs.reverse := List.dropWhile_suffix isBlank
  rwa [← List.reverse_prefix, List.reverse_reverse] at suffix

theorem begins_append (begins : ∃ c ∈ cs.head?, isBlank c = false) :
    ∃ c ∈ (cs ++ after).head?, isBlank c = false := by
  obtain ⟨c, first, solid⟩ := begins
  exact ⟨c, List.mem_head?_append_of_mem_head? first, solid⟩

theorem trim_end_some (begins : ∃ c ∈ cs.head?, isBlank c = false) : trimEnd cs ≠ [] := by
  obtain ⟨c, first, solid⟩ := begins
  intro gone
  have blanks : Blanks cs.reverse := List.dropWhile_eq_nil_iff.mp (List.reverse_eq_nil_iff.mp gone)
  have blank := blanks c (List.mem_reverse.mpr (List.mem_of_mem_head? first))
  rw [solid] at blank
  cases blank

/-- What trimming leaves is a text that it leaves alone. -/
theorem solid_trim (cs : List Char) : Solid (trim cs) := by
  constructor
  · intro c first
    -- the end of the text is cut off, so what is first stays first
    obtain ⟨cut, whole⟩ := trim_end_front (trimStart cs)
    apply trim_start_solid cs
    rw [← whole, List.head?_append]
    rw [trim] at first
    rw [first]
    rfl
  · intro c last
    rw [trim, trimEnd, List.getLast?_reverse] at last
    exact trim_start_solid _ c last

theorem trim_twice (cs : List Char) : trim (trim cs) = trim cs := trim_solid (solid_trim cs)

theorem trim_of_trimmed {s : String} (same : trimmed s = s) : trim s.toList = s.toList := by
  have texts := congrArg String.toList same
  rwa [trimmed, String.toList_ofList] at texts

theorem solid_of_trimmed (same : trim cs = cs) : Solid cs := same ▸ solid_trim cs

end Trimming

section Lines

/-- A line as a writer of lines puts it down: there is something in it, and no white space at its ends. -/
structure Line (cs : List Char) : Prop where
  some_ : cs ≠ []
  solid : Solid cs
  one : '\n' ∉ cs

theorem lines_from_line (done line rest : List Char) (one : '\n' ∉ line) :
    linesFrom done (line ++ '\n' :: rest) = finishLine (line.reverse ++ done) :: linesFrom [] rest := by
  induction line generalizing done with
  | nil => simp [linesFrom]
  | cons c line ih =>
      obtain ⟨other, more⟩ := List.ne_and_not_mem_of_not_mem_cons one
      rw [List.cons_append, linesFrom, if_neg (by simpa using other.symm), ih (c :: done) more]
      simp

theorem lines_from_last (done line : List Char) (one : '\n' ∉ line) (some_ : line ≠ []) :
    linesFrom done line = [(line.reverse ++ done).reverse] := by
  induction line generalizing done with
  | nil => exact absurd rfl some_
  | cons c line ih =>
      obtain ⟨other, more⟩ := List.ne_and_not_mem_of_not_mem_cons one
      rw [linesFrom, if_neg (by simpa using other.symm)]
      cases line with
      | nil => simp [linesFrom]
      | cons d line => simpa using ih (c :: done) more (List.cons_ne_nil d line)

theorem finish_solid (line : List Char) (solid : ∀ c ∈ line.getLast?, isBlank c = false) :
    finishLine line.reverse = line := by
  unfold finishLine
  split
  · next rest same =>
      have last : line.getLast? = some '\r' := by rw [← List.head?_reverse, same]; rfl
      exact absurd (solid '\r' last) (by decide)
  · exact List.reverse_reverse line

theorem trim_finished (done : List Char) : trim (finishLine done) = trim done.reverse := by
  unfold finishLine
  split
  · rw [List.reverse_cons, trim_after]
    decide
  · rfl

theorem finish_unreturned (done : List Char) (noReturn : '\r' ∉ done) : finishLine done = done.reverse := by
  unfold finishLine
  split
  · exact absurd List.mem_cons_self noReturn
  · rfl

theorem finish_front (done : List Char) : finishLine done <+: done.reverse := by
  unfold finishLine
  split
  · next line =>
      rw [List.reverse_cons]
      exact List.prefix_append line.reverse ['\r']
  · exact List.prefix_rfl

theorem lines_joined (all : List (List Char)) (each : ∀ line ∈ all, Line line) :
    lines (joinLines all) = all := by
  induction all with
  | nil => rfl
  | cons line rest ih =>
      obtain ⟨some_, solid, one⟩ := each line List.mem_cons_self
      cases rest with
      | nil => simpa [joinLines, lines] using lines_from_last [] line one some_
      | cons next rest =>
          have others := ih fun l member => each l (List.mem_cons_of_mem line member)
          rw [lines] at others
          rw [joinLines, lines, lines_from_line [] line _ one, others, List.append_nil,
            finish_solid line solid.2]
          exact List.cons_ne_nil _ _

theorem lines_ended (all : List (List Char)) (rest : List Char) (one : ∀ line ∈ all, '\n' ∉ line) :
    lines (all.flatMap (· ++ ['\n']) ++ rest) =
      all.map (fun line => finishLine line.reverse) ++ lines rest := by
  induction all with
  | nil => rfl
  | cons line all ih =>
      have others := ih fun l member => one l (List.mem_cons_of_mem line member)
      rw [lines] at others
      rw [List.flatMap_cons, List.append_assoc, List.append_assoc, List.singleton_append, lines,
        lines_from_line [] line _ (one line List.mem_cons_self), others, List.append_nil, List.map_cons,
        List.cons_append, lines]

-- The induction goes along the text with the line that is open in `done`, its last character first.
theorem joined_from (done cs : List Char) (noReturn : '\r' ∉ done.reverse ++ cs) :
    ∃ tail, Blanks tail ∧ joinLines (linesFrom done cs) ++ tail = done.reverse ++ cs := by
  induction cs generalizing done with
  | nil =>
      refine ⟨[], blanks_nil, ?_⟩
      rw [linesFrom]
      cases done <;> simp [joinLines]
  | cons c cs ih =>
      rw [linesFrom]
      split
      · next feed =>
          obtain rfl := eq_of_beq feed
          have finished := finish_unreturned done fun member => noReturn (by simp [member])
          have more : '\r' ∉ [].reverse ++ cs := by
            intro member
            exact noReturn (List.mem_append_right _ (List.mem_cons_of_mem _ member))
          obtain ⟨tail, blanks, same⟩ := ih [] more
          cases rest : linesFrom [] cs with
          | nil =>
              rw [rest] at same
              refine ⟨'\n' :: tail, ?_, ?_⟩
              · intro d member
                rcases List.mem_cons.mp member with rfl | later
                · rfl
                · exact blanks d later
              · rw [joinLines, finished]
                exact congrArg (fun left => done.reverse ++ '\n' :: left) same
          | cons line lines =>
              rw [rest] at same
              refine ⟨tail, blanks, ?_⟩
              rw [joinLines, finished, List.append_assoc, List.cons_append, same]
              · rfl
              · exact List.cons_ne_nil _ _
      · have again : '\r' ∉ (c :: done).reverse ++ cs := by
          rwa [List.reverse_cons, List.append_assoc]
        obtain ⟨tail, blanks, same⟩ := ih (c :: done) again
        refine ⟨tail, blanks, ?_⟩
        rw [same, List.reverse_cons, List.append_assoc, List.singleton_append]

/-- Lines of a text without carriage returns, joined again, are the text but for a line feed at its end. -/
theorem joined_lines (cs : List Char) (noReturn : '\r' ∉ cs) :
    ∃ tail, Blanks tail ∧ joinLines (lines cs) ++ tail = cs :=
  joined_from [] cs noReturn

theorem joined_head (line : List Char) (rest : List (List Char)) (some_ : line ≠ []) :
    (joinLines (line :: rest)).head? = line.head? := by
  cases rest with
  | nil => rfl
  | cons next rest => exact List.head?_append_of_ne_nil line some_

theorem joined_line (all : List (List Char)) (some_ : all ≠ []) (each : ∀ line ∈ all, Line line) :
    joinLines all ≠ [] ∧ Solid (joinLines all) := by
  induction all with
  | nil => exact absurd rfl some_
  | cons line rest ih =>
      obtain ⟨filled, solid, -⟩ := each line List.mem_cons_self
      cases rest with
      | nil => exact ⟨filled, solid⟩
      | cons next rest =>
          obtain ⟨more, solid'⟩ := ih (List.cons_ne_nil _ _)
            fun l member => each l (List.mem_cons_of_mem line member)
          have last : (joinLines (line :: next :: rest)).getLast? =
              (joinLines (next :: rest)).getLast? := by
            rw [joinLines, List.getLast?_append_of_ne_nil _ (List.cons_ne_nil _ _),
              List.getLast?_cons_of_ne_nil more]
            exact List.cons_ne_nil _ _
          refine ⟨fun none => ?_, ?_, ?_⟩
          · rw [none] at last
            exact more (List.getLast?_eq_none_iff.mp last.symm)
          · rw [joined_head line _ filled]
            exact solid.1
          · rw [last]
            exact solid'.2

end Lines

end CodeReview.Text
