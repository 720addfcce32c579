import CodeReview.Review.Finding

/-!
Merging findings from several sources. Findings with the same identity become one: the place is that of
the first, and the finding kept is the first of those with the greatest severity.
-/

namespace CodeReview

/-- Puts a finding in the place of one with the same identity if it is more severe, and at the end if
there is none. -/
def Finding.absorb (f : Finding) : List Finding → List Finding
  | [] => [f]
  | kept :: rest =>
      if kept.identity = f.identity then
        (if kept.severity < f.severity then f else kept) :: rest
      else kept :: f.absorb rest

def merge (findings : List Finding) : List Finding :=
  findings.foldl (fun merged f => f.absorb merged) []

end CodeReview
