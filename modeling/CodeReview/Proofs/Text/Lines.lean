import CodeReview.Proofs.Text.Leading

/-!
Where the lines of a text stand in it. A text that is empty or ends in a line feed holds whole lines, so the
lines of what stands behind it are counted on from there; every line begins behind such a text, and a word
without line ends lies in one line.
-/

namespace CodeReview.Text

def WholeLines (cs : List Char) : Prop := cs = [] ∨ cs.getLast? = some '\n'

theorem whole_lines_behind (before after : List Char) (whole : WholeLines after) :
    WholeLines (before ++ '\n' :: after) := by
  right
  rcases whole with rfl | last
  · exact List.getLast?_concat
  · rw [List.getLast?_append, List.getLast?_cons, last]
    rfl

theorem lines_from_append (done first rest : List Char) :
    linesFrom done (first ++ '\n' :: rest) = linesFrom done (first ++ ['\n']) ++ lines rest := by
  induction first generalizing done with
  | nil => rfl
  | cons c first ih =>
      rw [List.cons_append, List.cons_append, linesFrom, linesFrom, ih, ih]
      split <;> rfl

theorem lines_append (first rest : List Char) (whole : WholeLines first) :
    lines (first ++ rest) = lines first ++ lines rest := by
  rcases whole with rfl | last
  · rfl
  · obtain ⟨front, rfl⟩ := List.getLast?_eq_some_iff.mp last
    rw [List.append_assoc, List.singleton_append]
    exact lines_from_append [] front rest

-- Along the text, with the line that is open in `done`, its last character first.
theorem lines_from_place (done cs : List Char) (one : '\n' ∉ done) (first : List (List Char))
    (line : List Char) (rest : List (List Char)) (split : linesFrom done cs = first ++ line :: rest) :
    ∃ before after, done.reverse ++ cs = before ++ (line ++ after) ∧ WholeLines before ∧
      lines before = first := by
  induction cs generalizing done first with
  | nil =>
      rw [linesFrom] at split
      split at split
      · simp at split
      · cases first with
        | nil =>
            obtain ⟨rfl, -⟩ := List.cons.inj split
            exact ⟨[], [], rfl, .inl rfl, rfl⟩
        | cons closed first => simp at split
  | cons c cs ih =>
      rw [linesFrom] at split
      split at split
      · next feed =>
          obtain rfl := eq_of_beq feed
          cases first with
          | nil =>
              obtain ⟨rfl, -⟩ := List.cons.inj split
              obtain ⟨cut, whole⟩ := finish_front done
              exact ⟨[], cut ++ '\n' :: cs, by rw [← whole]; simp, .inl rfl, rfl⟩
          | cons closed first =>
              obtain ⟨rfl, others⟩ := List.cons.inj split
              obtain ⟨before, after, same, whole, inside⟩ := ih [] List.not_mem_nil first others
              have open_ : '\n' ∉ done.reverse := by simpa using one
              refine ⟨done.reverse ++ '\n' :: before, after, ?_, whole_lines_behind _ _ whole, ?_⟩
              · rw [List.append_assoc, List.cons_append, ← same]
                rfl
              · rw [lines, lines_from_line [] done.reverse before open_, List.reverse_reverse,
                  List.append_nil, ← lines, inside]
      · next other =>
          have more : '\n' ∉ c :: done := by
            intro member
            rcases List.mem_cons.mp member with rfl | later
            · exact other rfl
            · exact one later
          obtain ⟨before, after, same, place⟩ := ih (c :: done) more first split
          exact ⟨before, after, by rw [← same]; simp, place⟩

theorem lines_place (cs : List Char) (first : List (List Char)) (line : List Char)
    (rest : List (List Char)) (split : lines cs = first ++ line :: rest) :
    ∃ before after, cs = before ++ (line ++ after) ∧ WholeLines before ∧ lines before = first :=
  lines_from_place [] cs List.not_mem_nil first line rest split

theorem lines_from_word (done cs word : List Char) (some_ : word ≠ []) (one : '\n' ∉ word)
    (noReturn : '\r' ∉ word) (inside : word <:+: done.reverse ++ cs) :
    ∃ line ∈ linesFrom done cs, word <:+: line := by
  induction cs generalizing done with
  | nil =>
      rw [List.append_nil] at inside
      cases done with
      | nil => exact absurd (List.infix_nil.mp inside) some_
      | cons c done => exact ⟨_, List.mem_singleton.mpr rfl, inside⟩
  | cons c cs ih =>
      rw [linesFrom]
      split
      · next feed =>
          obtain rfl := eq_of_beq feed
          rcases infix_divided inside one with here | later
          · refine ⟨finishLine done, List.mem_cons_self, ?_⟩
            unfold finishLine
            split
            · next done =>
                rw [List.reverse_cons] at here
                rcases infix_divided here noReturn with whole | none
                · exact whole
                · exact absurd (List.infix_nil.mp none) some_
            · exact here
          · obtain ⟨line, among, there⟩ := ih [] later
            exact ⟨line, List.mem_cons_of_mem _ among, there⟩
      · exact ih (c :: done) (by rwa [List.reverse_cons, List.append_assoc])

theorem lines_word (cs word : List Char) (some_ : word ≠ []) (one : '\n' ∉ word) (noReturn : '\r' ∉ word)
    (inside : word <:+: cs) : ∃ line ∈ lines cs, word <:+: line :=
  lines_from_word [] cs word some_ one noReturn inside

theorem finish_behind (front rest : List Char) (solid : ∀ c ∈ front.getLast?, isBlank c = false) :
    ∃ tail, finishLine (front ++ rest).reverse = front ++ tail := by
  rcases List.eq_nil_or_concat rest with rfl | ⟨rest, d, rfl⟩
  · exact ⟨[], by rw [List.append_nil, finish_solid front solid]⟩
  · rw [List.concat_eq_append, ← List.append_assoc, List.reverse_concat]
    unfold finishLine
    split
    · next line same =>
        obtain ⟨-, rfl⟩ := List.cons.inj same
        exact ⟨rest, List.reverse_reverse _⟩
    · exact ⟨rest ++ [d], by simp⟩

theorem lines_front (front rest : List Char) (one : '\n' ∉ front) (some_ : front ≠ [])
    (solid : ∀ c ∈ front.getLast?, isBlank c = false) :
    ∃ tail more, lines (front ++ rest) = (front ++ tail) :: more := by
  by_cases feed : '\n' ∈ rest
  · obtain ⟨before, after, rfl, early⟩ := List.eq_append_cons_of_mem feed
    have open_ : '\n' ∉ front ++ before := by simp [one, early]
    obtain ⟨tail, same⟩ := finish_behind front before solid
    exact ⟨tail, lines after, by
      rw [← List.append_assoc, lines, lines_from_line [] _ after open_, List.append_nil, same, lines]⟩
  · have open_ : '\n' ∉ front ++ rest := by simp [one, feed]
    refine ⟨rest, [], ?_⟩
    rw [lines, lines_from_last [] _ open_ (by simp [some_])]
    simp

end CodeReview.Text
