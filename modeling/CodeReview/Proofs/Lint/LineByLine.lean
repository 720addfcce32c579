import CodeReview.Lint.Source
import CodeReview.Proofs.Review.Merged
import CodeReview.Proofs.Text.Lines

/-!
The line rules see one line at a time. What they find in a text behind other lines is what they find in it
alone, with the numbers counted on; how the lines end makes no difference; and as no two rules say the same,
all that is found in one text is about different things, so there is nothing in it to merge.
-/

namespace CodeReview

def Finding.later (count : Nat) (f : Finding) : Finding := { f with line := f.line + count }

namespace Lint

section Numbering

variable (filename : String) (number count : Nat)

theorem line_findings_later (first : 1 ≤ number) (line : List Char) :
    lineFindings filename (number + count) line =
      (lineFindings filename number line).map (Finding.later count) := by
  rw [lineFindings, lineFindings, List.map_map]
  apply List.map_congr_left
  intro rule _
  have numbers : max (number + count) 1 = max number 1 + count := by omega
  simp only [Finding.lint, Finding.later, Function.comp_apply, numbers]

theorem numbered_append (all more : List (List Char)) :
    numberedFindings filename number (all ++ more) =
      numberedFindings filename number all ++
        numberedFindings filename (number + all.length) more := by
  induction all generalizing number with
  | nil => rfl
  | cons line rest ih =>
      have numbers : number + 1 + rest.length = number + (line :: rest).length := by
        rw [List.length_cons]
        omega
      rw [List.cons_append, numberedFindings, ih, numbers, numberedFindings, List.append_assoc]

theorem numbered_later (first : 1 ≤ number) (all : List (List Char)) :
    numberedFindings filename (number + count) all =
      (numberedFindings filename number all).map (Finding.later count) := by
  induction all generalizing number with
  | nil => rfl
  | cons line rest ih =>
      rw [numberedFindings, numberedFindings, List.map_append, line_findings_later _ _ _ first,
        Nat.add_right_comm, ih (number + 1) (Nat.le_add_left 1 number)]

theorem lines_concat (a b : String) (whole : Text.WholeLines a.toList) :
    lines filename (a ++ b) =
      lines filename a ++ (lines filename b).map (Finding.later (Text.lines a.toList).length) := by
  rw [lines, String.toList_append, Text.lines_append _ _ whole, numbered_append,
    numbered_later filename 1 _ le_rfl, lines, lines]

/-- The findings have the numbers of the lines that were looked at. -/
theorem numbered_between (first : 1 ≤ number) (all : List (List Char)) :
    ∀ f ∈ numberedFindings filename number all, number ≤ f.line ∧ f.line < number + all.length := by
  induction all generalizing number with
  | nil =>
      intro f member
      cases member
  | cons line rest ih =>
      intro f member
      rw [List.length_cons]
      rcases List.mem_append.mp member with here | later
      · obtain ⟨rule, -, rfl⟩ := List.mem_map.mp here
        simp only [Finding.lint]
        omega
      · have between := ih (number + 1) (Nat.le_add_left 1 number) f later
        omega

end Numbering

section LineEnds

def withReturns (cs : List Char) : List Char :=
  cs.flatMap fun c => if c = '\n' then ['\r', '\n'] else [c]

-- Along the text, with the line that is open in `done`, its last character first.
theorem lines_from_returns (done cs : List Char) (open_ : '\r' ∉ done) (noReturn : '\r' ∉ cs) :
    Text.linesFrom done (withReturns cs) = Text.linesFrom done cs := by
  induction cs generalizing done with
  | nil => rfl
  | cons c cs ih =>
      obtain ⟨other, more⟩ := List.ne_and_not_mem_of_not_mem_cons noReturn
      rw [withReturns, List.flatMap_cons, ← withReturns]
      by_cases feed : c = '\n'
      · subst feed
        have next := ih [] List.not_mem_nil more
        calc Text.linesFrom done ('\r' :: '\n' :: withReturns cs)
            = done.reverse :: Text.linesFrom [] (withReturns cs) := rfl
          _ = Text.finishLine done :: Text.linesFrom [] cs := by
            rw [next, Text.finish_unreturned done open_]
      · have longer : '\r' ∉ c :: done := List.not_mem_cons_of_ne_of_not_mem other open_
        rw [if_neg feed, List.singleton_append, Text.linesFrom, Text.linesFrom, if_neg (by simpa using feed),
          if_neg (by simpa using feed), ih (c :: done) longer more]

theorem lines_returned (filename source : String) (noReturn : '\r' ∉ source.toList) :
    lines filename (String.ofList (withReturns source.toList)) = lines filename source := by
  rw [lines, String.toList_ofList, Text.lines, lines_from_returns [] _ List.not_mem_nil noReturn, lines,
    Text.lines]

end LineEnds

section Identities

variable (filename : String) (number : Nat)

theorem message_trimmed (rule : LineRule) : Text.trimmed rule.message = rule.message := by
  have kept (cs : List Char) (solid : Text.Solid cs) : Text.trimmed (String.ofList cs) = String.ofList cs := by
    rw [Text.trimmed, String.toList_ofList, Text.trim_solid solid]
  cases rule <;> exact kept _ (by decide)

/-- No two rules say the same, white space around it aside. -/
theorem messages_distinct : (LineRule.all.map fun rule => Text.trimmed rule.message).Nodup := by
  simp only [message_trimmed]
  decide +kernel

theorem line_findings_distinct (line : List Char) :
    ((lineFindings filename number line).map Finding.identity).Nodup := by
  have broken : (LineRule.broken line).Sublist LineRule.all := List.filter_sublist
  have said : ((LineRule.broken line).map fun rule => Text.trimmed rule.message).Nodup :=
    List.Nodup.sublist (broken.map _) messages_distinct
  apply List.Nodup.of_map fun id => id.2.2
  have same : ((lineFindings filename number line).map Finding.identity).map (fun id => id.2.2) =
      (LineRule.broken line).map fun rule => Text.trimmed rule.message := by
    rw [lineFindings, List.map_map, List.map_map]
    rfl
  rwa [same]

theorem numbered_distinct (first : 1 ≤ number) (all : List (List Char)) :
    ((numberedFindings filename number all).map Finding.identity).Nodup := by
  induction all generalizing number with
  | nil => exact List.nodup_nil
  | cons line rest ih =>
      have next : 1 ≤ number + 1 := Nat.le_add_left 1 number
      rw [numberedFindings, List.map_append, List.nodup_append]
      refine ⟨line_findings_distinct filename number line, ih (number + 1) next, ?_⟩
      -- the numbers tell the findings of this line from those of the lines behind it
      intro id here other later same
      obtain ⟨f, among, rfl⟩ := List.mem_map.mp here
      obtain ⟨g, behind, rfl⟩ := List.mem_map.mp later
      obtain ⟨rule, -, rfl⟩ := List.mem_map.mp among
      have numbers : max number 1 = g.line := congrArg (fun id => id.2.1) same
      have between := numbered_between filename (number + 1) next rest g behind
      omega

theorem lines_distinct (source : String) : ((lines filename source).map Finding.identity).Nodup :=
  numbered_distinct filename 1 le_rfl _

end Identities

/-- Text behind whole lines is looked at as if it stood alone; line feeds may have carriage returns before
them; and the findings of one text are about different things, each at a line that there is. -/
theorem line_pass_local (filename : String) :
    (∀ a b : String, Text.WholeLines a.toList →
      lines filename (a ++ b) =
        lines filename a ++ (lines filename b).map (Finding.later (Text.lines a.toList).length)) ∧
    (∀ source : String, '\r' ∉ source.toList →
      lines filename (String.ofList (withReturns source.toList)) = lines filename source) ∧
    ∀ source : String, ((lines filename source).map Finding.identity).Nodup ∧
      merge (lines filename source) = lines filename source ∧
      ∀ f ∈ lines filename source, 1 ≤ f.line ∧ f.line ≤ (Text.lines source.toList).length := by
  refine ⟨lines_concat filename, lines_returned filename, ?_⟩
  intro source
  have distinct := lines_distinct filename source
  refine ⟨distinct, merge_distinct _ distinct, ?_⟩
  intro f member
  have between := numbered_between filename 1 le_rfl _ f member
  omega

theorem line_pass_local_behind :
    Text.WholeLines "import os\nprint(1)\n".toList ∧ '\r' ∉ "\neval(password=1)".toList ∧
      (lines "m.py" ("import os\nprint(1)\n" ++ "eval(password=1)")).map
          (fun f => (f.line, f.severity)) = [(2, .warning), (3, .critical), (3, .warning)] ∧
      lines "m.py" (String.ofList (withReturns "\neval(password=1)".toList)) =
        lines "m.py" "\neval(password=1)" := by
  obtain ⟨local_, returned, -⟩ := line_pass_local "m.py"
  have whole : Text.WholeLines "import os\nprint(1)\n".toList := .inr (by decide)
  have noReturn : '\r' ∉ "\neval(password=1)".toList := by decide
  refine ⟨whole, noReturn, ?_, returned _ noReturn⟩
  rw [local_ _ _ whole]
  decide +kernel

end Lint

end CodeReview
