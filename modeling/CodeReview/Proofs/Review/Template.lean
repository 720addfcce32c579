import CodeReview.Review.Prompt
import CodeReview.Proofs.Text.Leading

/-!
Templates are filled in one go. There is one way to take a template apart into its marks and the texts around
them, and it is found without a look at any value; filling puts the values in the places of the marks and
leaves the rest as it is. A mark lies within a line, so a template is filled line by line, which gives the two
prompts as a whole.
-/

namespace CodeReview.Template

structure MarkName (name : List Char) : Prop where
  some_ : name ≠ []
  letters : ∀ c ∈ name, 'a' ≤ c ∧ c ≤ 'z' ∨ c = '_'

theorem mark_char (c : Char) : isMarkChar c = true ↔ 'a' ≤ c ∧ c ≤ 'z' ∨ c = '_' := by
  simp [isMarkChar]

theorem MarkName.each {name : List Char} (named : MarkName name) : ∀ c ∈ name, isMarkChar c = true :=
  fun c inside => (mark_char c).mpr (named.letters c inside)

theorem mark_name_iff (name : List Char) :
    name ≠ [] ∧ name.all isMarkChar = true ↔ MarkName name := by
  rw [List.all_eq_true]
  exact ⟨fun ⟨some_, each⟩ => ⟨some_, fun c inside => (mark_char c).mp (each c inside)⟩,
    fun named => ⟨named.some_, named.each⟩⟩

instance (name : List Char) : Decidable (MarkName name) := decidable_of_iff _ (mark_name_iff name)

def mark (name : List Char) : List Char := '\x7b' :: (name ++ ['\x7d'])

def AtMark (cs : List Char) : Prop := ∃ name, MarkName name ∧ mark name <+: cs

/-- A text without marks. Braces that belong to none may be in it. -/
def Plain (cs : List Char) : Prop := ∀ name, MarkName name → ¬ mark name <:+: cs

structure Parts where
  lead : List Char
  marks : List (List Char × List Char)

def Parts.whole (p : Parts) : List Char := p.lead ++ p.marks.flatMap fun m => mark m.1 ++ m.2

/-- A template taken apart. No marks but those of the parts are in it. -/
structure Parted (template : List Char) (p : Parts) : Prop where
  whole : p.whole = template
  lead : Plain p.lead
  named : ∀ m ∈ p.marks, MarkName m.1
  behind : ∀ m ∈ p.marks, Plain m.2

/-- The value that is listed first under a name; where there is none, the mark. -/
def valueOf (values : List (String × String)) (name : List Char) : List Char :=
  match values.lookup (String.ofList name) with
  | some text => text.toList
  | none => mark name

def Parts.filled (values : List (String × String)) (p : Parts) : List Char :=
  p.lead ++ p.marks.flatMap fun m => valueOf values m.1 ++ m.2

section Marks

variable {name name' rest rest' : List Char}

theorem outside_mark (named : MarkName name) (d : Char) (other : isMarkChar d = false)
    (open_ : d ≠ '\x7d') : d ∉ name ++ ['\x7d'] := by
  intro member
  rcases List.mem_append.mp member with inside | last
  · rw [named.each d inside] at other
    cases other
  · exact open_ (List.mem_singleton.mp last)

theorem closing_stops : ∀ c ∈ ('\x7d' :: rest).head?, isMarkChar c = false := by
  rintro _ ⟨⟩
  rfl

/-- A text begins with one mark at most. -/
theorem mark_same (named : MarkName name) (named' : MarkName name')
    (same : mark name ++ rest = mark name' ++ rest') : name = name' ∧ rest = rest' := by
  simp only [mark, List.cons_append, List.append_assoc] at same
  obtain ⟨rfl, ends⟩ := Text.lead_same named.each named'.each closing_stops closing_stops (List.cons.inj same).2
  exact ⟨rfl, (List.cons.inj ends).2⟩

/-- A mark that begins in a text is over before the next character that no mark has inside. -/
theorem mark_inside (c d : Char) (cs more : List Char) (apart : d ∉ name ++ ['\x7d'])
    (begins : mark name <+: c :: (cs ++ d :: more)) : mark name <+: c :: cs := by
  rw [mark, List.cons_prefix_cons] at begins ⊢
  obtain ⟨rfl, rest, same⟩ := begins
  obtain ⟨left, rfl, -⟩ := @Text.word_before _ [] _ _ _ _ same apart (Nat.zero_le _)
  exact ⟨rfl, List.prefix_append _ _⟩

theorem plain_nil : Plain [] := by
  intro name _ inside
  simp [mark] at inside

theorem plain_cons {c : Char} {cs : List Char} (free : Plain cs) (none : ¬ AtMark (c :: cs)) :
    Plain (c :: cs) := by
  intro name named inside
  rcases List.infix_cons_iff.mp inside with begins | later
  · exact none ⟨name, named, begins⟩
  · exact free name named later

theorem plain_tail {c : Char} {cs : List Char} (free : Plain (c :: cs)) : Plain cs :=
  fun name named inside => free name named (inside.trans (List.suffix_cons c cs).isInfix)

/-- What holds of a text because it holds of what is behind its first mark or character. -/
theorem mark_induction {P : List Char → Prop} (nil : P [])
    (marked : ∀ name rest, MarkName name → P rest → P (mark name ++ rest))
    (plain : ∀ c rest, ¬ AtMark (c :: rest) → P rest → P (c :: rest))
    (cs : List Char) : P cs := by
  induction length : cs.length using Nat.strong_induction_on generalizing cs with
  | _ n ih =>
      subst length
      by_cases begins : AtMark cs
      · obtain ⟨name, named, rest, rfl⟩ := begins
        apply marked name rest named
        -- a mark has its braces at least, so less is left behind it
        apply ih rest.length _ rest rfl
        simp only [mark, List.cons_append, List.length_cons, List.length_append]
        omega
      · cases cs with
        | nil => exact nil
        | cons c rest => exact plain c rest begins (ih rest.length (Nat.lt_succ_self _) rest rfl)

end Marks

section Parting

variable {name rest : List Char} {p : Parts}

theorem marks_begin (marks : List (List Char × List Char)) :
    (marks.flatMap fun m => mark m.1 ++ m.2) = [] ∨
      ∃ more, (marks.flatMap fun m => mark m.1 ++ m.2) = '\x7b' :: more := by
  cases marks with
  | nil => exact .inl rfl
  | cons m marks => exact .inr ⟨_, rfl⟩

theorem lead_begins (lead : List Char) (c : Char) (marks : List (List Char × List Char))
    (named : MarkName name) (begins : mark name <+: (Parts.mk (c :: lead) marks).whole) :
    mark name <+: c :: lead := by
  rw [Parts.whole, List.cons_append] at begins
  rcases marks_begin marks with none | ⟨more, same⟩
  · rwa [none, List.append_nil] at begins
  · rw [same] at begins
    exact mark_inside c '\x7b' lead more (outside_mark named _ rfl (by decide)) begins

theorem parted_nil : Parted [] p ↔ p = ⟨[], []⟩ := by
  constructor
  · intro parted
    obtain ⟨lead, marks⟩ := p
    have whole := parted.whole
    rw [Parts.whole, List.append_eq_nil_iff] at whole
    obtain ⟨rfl, none⟩ := whole
    cases marks with
    | nil => rfl
    | cons m marks => simp [mark] at none
  · rintro rfl
    exact ⟨rfl, plain_nil, by simp, by simp⟩

theorem parted_mark (named : MarkName name) :
    Parted (mark name ++ rest) p ↔
      ∃ text marks, p = ⟨[], (name, text) :: marks⟩ ∧ Parted rest ⟨text, marks⟩ := by
  constructor
  · intro parted
    obtain ⟨lead, marks⟩ := p
    have whole := parted.whole
    cases lead with
    | cons c lead =>
        -- the lead would begin with the mark, but no mark is in it
        have begins := lead_begins lead c marks named (whole ▸ List.prefix_append _ _)
        exact absurd begins.isInfix (parted.lead name named)
    | nil =>
        cases marks with
        | nil => simp [Parts.whole, mark] at whole
        | cons m marks =>
            obtain ⟨first, text⟩ := m
            have each := parted.named (first, text) List.mem_cons_self
            rw [Parts.whole, List.nil_append, List.flatMap_cons, List.append_assoc] at whole
            obtain ⟨rfl, behind⟩ := mark_same each named whole
            exact ⟨text, marks, rfl, behind, parted.behind _ List.mem_cons_self,
              fun m member => parted.named m (List.mem_cons_of_mem _ member),
              fun m member => parted.behind m (List.mem_cons_of_mem _ member)⟩
  · rintro ⟨text, marks, rfl, parted⟩
    refine ⟨?_, plain_nil, List.forall_mem_cons.mpr ⟨named, parted.named⟩,
      List.forall_mem_cons.mpr ⟨parted.lead, parted.behind⟩⟩
    rw [← parted.whole]
    simp [Parts.whole]

theorem parted_plain {c : Char} (none : ¬ AtMark (c :: rest)) :
    Parted (c :: rest) p ↔ ∃ lead, p = ⟨c :: lead, p.marks⟩ ∧ Parted rest ⟨lead, p.marks⟩ := by
  constructor
  · intro parted
    obtain ⟨lead, marks⟩ := p
    have whole := parted.whole
    cases lead with
    | cons d lead =>
        obtain ⟨rfl, behind⟩ := List.cons.inj whole
        exact ⟨lead, rfl, behind, plain_tail parted.lead, parted.named, parted.behind⟩
    | nil =>
        cases marks with
        | nil => cases whole
        | cons m marks =>
            have each := parted.named m List.mem_cons_self
            rw [Parts.whole, List.nil_append, List.flatMap_cons, List.append_assoc] at whole
            exact absurd ⟨m.1, each, whole ▸ List.prefix_append _ _⟩ none
  · rintro ⟨lead, same, parted⟩
    obtain ⟨given, marks⟩ := p
    obtain ⟨rfl, -⟩ := Parts.mk.inj same
    refine ⟨congrArg (List.cons c) parted.whole, plain_cons parted.lead ?_, parted.named, parted.behind⟩
    rintro ⟨name, named, begins⟩
    apply none
    refine ⟨name, named, ?_⟩
    rw [← parted.whole]
    exact begins.trans (List.prefix_append (c :: lead) _)

end Parting

section Filling

variable (values : List (String × String)) {name : List Char}

theorem mark_name_read (named : MarkName name) (rest : List Char) :
    markName? (name ++ '\x7d' :: rest) = some name := by
  obtain ⟨c, more, rfl⟩ := List.exists_cons_of_ne_nil named.some_
  rw [markName?, Text.span_lead named.each closing_stops]
  rfl

theorem mark_name_found (cs : List Char) (found : markName? cs = some name) :
    MarkName name ∧ ∃ rest, cs = name ++ '\x7d' :: rest := by
  rw [markName?] at found
  split at found
  · next c more rest spans =>
      obtain rfl := Option.some.inj found
      obtain ⟨rfl, each, -⟩ := Text.span_parts spans
      exact ⟨⟨List.cons_ne_nil c more, fun d inside => (mark_char d).mp (each d inside)⟩, rest, rfl⟩
  · cases found

/-- The first of the values whose name has the same characters is the one that is listed first. -/
theorem listed_first (name : List Char) :
    (match values.find? fun v => v.1.toList == name with
      | some v => v.2.toList
      | none => '\x7b' :: (name ++ ['\x7d'])) = valueOf values name := by
  induction values with
  | nil => rfl
  | cons v values ih =>
      obtain ⟨key, text⟩ := v
      by_cases same : key.toList = name
      · subst same
        simp [valueOf]
      · have other : (String.ofList name == key) = false := by
          rw [beq_eq_false_iff_ne]
          rintro rfl
          exact same (String.toList_ofList)
        rw [List.find?_cons_of_neg (by simpa using same), ih, valueOf, valueOf, List.lookup_cons, other]

theorem fill_used (used rest : List Char) :
    fillFrom values used.length (used ++ rest) = fillFrom values 0 rest := by
  induction used with
  | nil => rfl
  | cons c used ih => simpa [fillFrom] using ih

theorem fill_mark (named : MarkName name) (rest : List Char) :
    fillFrom values 0 (mark name ++ rest) = valueOf values name ++ fillFrom values 0 rest := by
  have used := fill_used values (name ++ ['\x7d']) rest
  rw [List.length_append, List.length_singleton, List.append_assoc, List.singleton_append] at used
  rw [mark, List.cons_append, List.append_assoc, List.singleton_append, fillFrom,
    if_pos (beq_self_eq_true _), mark_name_read named rest]
  exact congrArg₂ (· ++ ·) (listed_first values name) used

theorem fill_plain (c : Char) (rest : List Char) (none : ¬ AtMark (c :: rest)) :
    fillFrom values 0 (c :: rest) = c :: fillFrom values 0 rest := by
  have unread : (if c == '\x7b' then markName? rest else Option.none) = Option.none := by
    split
    · next brace =>
        obtain rfl := eq_of_beq brace
        cases found : markName? rest with
        | none => rfl
        | some name =>
            obtain ⟨named, more, rfl⟩ := mark_name_found rest found
            exact absurd ⟨name, named, more, by simp [mark]⟩ none
    · rfl
  rw [fillFrom, unread]

/-- A template has one set of parts, and all that filling does is to put values for marks. -/
theorem filled_parts (cs : List Char) :
    ∃ p, Parted cs p ∧ (∀ other, Parted cs other → other = p) ∧
      ∀ values, fillFrom values 0 cs = p.filled values := by
  induction cs using mark_induction with
  | nil => exact ⟨⟨[], []⟩, parted_nil.mpr rfl, fun other => parted_nil.mp, fun values => rfl⟩
  | marked name rest named ih =>
      obtain ⟨⟨text, marks⟩, parted, only, filled⟩ := ih
      refine ⟨⟨[], (name, text) :: marks⟩, (parted_mark named).mpr ⟨text, marks, rfl, parted⟩, ?_, ?_⟩
      · intro other parted'
        obtain ⟨text', marks', rfl, behind⟩ := (parted_mark named).mp parted'
        obtain ⟨rfl, rfl⟩ := Parts.mk.inj (only _ behind)
        rfl
      · intro values
        rw [fill_mark values named, filled]
        simp [Parts.filled]
  | plain c rest none ih =>
      obtain ⟨⟨lead, marks⟩, parted, only, filled⟩ := ih
      refine ⟨⟨c :: lead, marks⟩, (parted_plain none).mpr ⟨lead, rfl, parted⟩, ?_, ?_⟩
      · intro other parted'
        obtain ⟨lead', same, behind⟩ := (parted_plain none).mp parted'
        obtain ⟨rfl, there⟩ := Parts.mk.inj (only _ behind)
        rw [same, there]
      · intro values
        rw [fill_plain values c rest none, filled]
        rfl

end Filling

section Lines

variable (values : List (String × String))

theorem fill_feed (first rest : List Char) :
    fillFrom values 0 (first ++ '\n' :: rest) =
      fillFrom values 0 first ++ '\n' :: fillFrom values 0 rest := by
  induction first using mark_induction with
  | nil =>
      apply fill_plain
      rintro ⟨name, -, begins⟩
      simp [mark] at begins
  | marked name first named ih =>
      rw [List.append_assoc, fill_mark values named, ih, fill_mark values named, List.append_assoc]
  | plain c first none ih =>
      rw [fill_plain values c first none, List.cons_append, fill_plain, ih, List.cons_append]
      rintro ⟨name, named, begins⟩
      exact none ⟨name, named, mark_inside c '\n' first rest (outside_mark named _ rfl (by decide)) begins⟩

theorem fill_lines {values : List (String × String)} {lines texts : List String}
    (each : List.Forall₂ (fun line text => fillTemplate line values = text) lines texts) :
    fillTemplate ("\n".intercalate lines) values = "\n".intercalate texts := by
  induction each with
  | nil => rfl
  | cons first others ih =>
      cases others with
      | nil => exact first
      | cons second others =>
          rw [String.intercalate_cons_cons, String.intercalate_cons_cons, ← ih, ← first]
          apply String.toList_injective
          have feed : "\n".toList = ['\n'] := rfl
          simp only [fillTemplate, String.toList_ofList, String.toList_append, feed, List.append_assoc,
            List.singleton_append, fill_feed]

theorem fill_front (front rest : List Char) (quiet : '\x7b' ∉ front) :
    fillFrom values 0 (front ++ rest) = front ++ fillFrom values 0 rest := by
  induction front with
  | nil => rfl
  | cons c front ih =>
      obtain ⟨other, more⟩ := List.ne_and_not_mem_of_not_mem_cons quiet
      rw [List.cons_append, fill_plain, ih more, List.cons_append]
      rintro ⟨name, -, begins⟩
      rw [mark, List.cons_prefix_cons] at begins
      exact other begins.1

theorem fill_quiet (line : List Char) (quiet : '\x7b' ∉ line) :
    fillTemplate (String.ofList line) values = String.ofList line := by
  have filled := fill_front values line [] quiet
  rw [List.append_nil, fillFrom, List.append_nil] at filled
  rw [fillTemplate, String.toList_ofList, filled]

theorem fill_marked (front name : List Char) (text : String) (quiet : '\x7b' ∉ front)
    (named : MarkName name) (listed : values.lookup (String.ofList name) = some text) :
    fillTemplate (String.ofList (front ++ mark name)) values = String.ofList front ++ text := by
  have filled := fill_mark values named []
  rw [List.append_nil, fillFrom, List.append_nil, valueOf, listed] at filled
  apply String.toList_injective
  rw [fillTemplate, String.toList_ofList, String.toList_ofList, fill_front values front _ quiet, filled,
    String.toList_append, String.toList_ofList]

theorem fill_alone (name : List Char) (text : String) (named : MarkName name)
    (listed : values.lookup (String.ofList name) = some text) :
    fillTemplate (String.ofList (mark name)) values = text := by
  have filled := fill_marked values [] name text List.not_mem_nil named listed
  rwa [List.nil_append, String.ofList_nil, String.empty_append] at filled

end Lines

section Prompts

def reviewText (title repo number diffs lint context : String) : String :=
  "\n".intercalate
    ["You are an expert senior software engineer doing a precise code review.",
      "Be strict, factual, and constructive.",
      "",
      "Pull Request Title: " ++ title,
      "Repository: " ++ repo,
      "PR Number: " ++ number,
      "",
      "Code to review:",
      diffs,
      "Existing lint findings:",
      lint,
      "",
      "Relevant repository context:",
      context,
      "",
      "Task:",
      "1. Identify issues, code smells, anti-patterns, missing documentation, edge cases, and test gaps.",
      "2. Do not repeat existing lint findings.",
      "3. For each finding, return the filename, a line number (best estimate if unknown),",
      "   a severity (info | warning | critical) and a concise fix recommendation.",
      "",
      "Respond in this format (no extra commentary):",
      "FINDINGS:",
      "- filename: <file> | line: <num> | severity: <severity> | message: <text>"]

def testText (code signatures edges complexity : String) : String :=
  "\n".intercalate
    ["You are an expert Python engineer generating unit tests using pytest.",
      "",
      "Code under test:",
      "--------------",
      code,
      "--------------",
      "",
      "Function signatures detected:",
      signatures,
      "",
      "Edge cases to consider:",
      edges,
      "",
      "Estimated cyclomatic complexity: " ++ complexity,
      "",
      "Requirements:",
      "- Use pytest style (no unittest class)",
      "- Include boundary cases, error handling and branches",
      "- Avoid mocking unless necessary",
      "- Make tests deterministic",
      "- Do not add explanations, comments, or markdown",
      "",
      "Output format (strict):",
      "TEST_FILE:",
      "<file_name>",
      "TEST_CODE:",
      "<full test file content>"]

def linesOr (word : String) (lines : List String) : String :=
  if lines = [] then word else "\n".intercalate lines

def codeBlock? (d : FileDiff) : Option String :=
  d.newCode.bind fun code =>
    if code = "" then none
    else some ("FILE: " ++ d.filename ++ "\nNEW CODE:\n" ++ code ++ "\n" ++
      "------------------------------------------------------------" ++ "\n")

def severityWord : Severity → String
  | .info => "info"
  | .warning => "warning"
  | .critical => "critical"

def remarkLine (f : Finding) : String :=
  "- " ++ f.filename ++ ":" ++ toString f.line ++ " [" ++ severityWord f.severity ++ "] " ++ f.message

def excerpt? (d : Document) : Option String :=
  d.chunk.bind fun chunk =>
    if Text.trim chunk.toList = [] then none
    else some ("[" ++ d.source ++ "] " ++ String.ofList (Text.trim chunk.toList))

def callLine (s : Python.Signature) : String :=
  "- " ++ s.name ++ "(" ++ ", ".intercalate s.args ++ ")"

def edgeLine : Python.EdgeCase → String
  | .conditional => "- if"
  | .tryBlock => "- try:"
  | .exceptHandler => "- except"
  | .raises => "- raise"
  | .returnsNone => "- return None"
  | .lengthCheck => "- len("
  | .zeroComparison => "- == 0"
  | .negativeComparison => "- < 0"
  | .positiveComparison => "- > 0"

theorem diff_block (d : FileDiff) : diffBlock d = (codeBlock? d).getD "" := by
  have dashes : diffSeparator = "------------------------------------------------------------" := by
    decide +kernel
  unfold diffBlock codeBlock? FileDiff.newText
  rw [dashes]
  cases d.newCode with
  | none => rfl
  | some code =>
      by_cases empty : code = ""
      · rw [empty]
        rfl
      · rw [Option.filter_some_pos (by simpa using empty), Option.bind_some, if_neg empty]
        rfl

theorem diff_blocks (diffs : List FileDiff) :
    String.join (diffs.map diffBlock) = String.join (diffs.filterMap codeBlock?) := by
  induction diffs with
  | nil => rfl
  | cons d diffs ih =>
      rw [List.map_cons, String.join_cons, ih, diff_block]
      cases block : codeBlock? d with
      | none => rw [List.filterMap_cons_none block, Option.getD_none, String.empty_append]
      | some text => rw [List.filterMap_cons_some block, String.join_cons, Option.getD_some]

theorem bullet_lines (items : List String) :
    bulletList items = linesOr "None" (items.map fun item => "- " ++ item) := by
  cases items <;> rfl

theorem remark_line (f : Finding) : f.summaryLine = remarkLine f := by
  have word : f.severity.name = severityWord f.severity := by cases f.severity <;> rfl
  rw [Finding.summaryLine, word]
  rfl

theorem lint_lines (lint : List Finding) :
    lintSummary lint = linesOr "(none)" (lint.map remarkLine) := by
  rw [lintSummary, funext remark_line]
  cases lint <;> rfl

theorem context_line (d : Document) : contextLine? d = excerpt? d := by
  unfold contextLine? excerpt?
  cases d.chunk with
  | none => rfl
  | some chunk =>
      dsimp only [Option.bind_some, Text.trimmed]
      by_cases blank : Text.trim chunk.toList = []
      · rw [blank, if_pos rfl]
        rfl
      · rw [if_neg blank, if_neg]
        simpa using blank

theorem context_lines (context : List Document) :
    contextSummary context = linesOr "(none)" (context.filterMap excerpt?) := by
  rw [contextSummary, funext context_line]
  cases context.filterMap excerpt? <;> rfl

theorem call_lines (signatures : List Python.Signature) :
    bulletList (signatures.map signatureText) = linesOr "None" (signatures.map callLine) := by
  rw [bullet_lines, List.map_map]
  rfl

theorem edge_line (e : Python.EdgeCase) : "- " ++ e.tag = edgeLine e := by cases e <;> decide +kernel

theorem edge_lines (edgeCases : List Python.EdgeCase) :
    bulletList (edgeCases.map Python.EdgeCase.tag) = linesOr "None" (edgeCases.map edgeLine) := by
  rw [bullet_lines, List.map_map]
  exact congrArg (linesOr "None") (List.map_congr_left fun e _ => edge_line e)

theorem change_number (request : ReviewRequest) :
    request.identifier = (request.prNumber.map toString).getD "local" := by
  unfold ReviewRequest.identifier
  cases request.prNumber <;> rfl

variable {values : List (String × String)}

-- The texts are listed under their names; in which order does not matter.
theorem review_filled {title repo number diffs lint context : String}
    (titled : values.lookup "title" = some title) (placed : values.lookup "repo" = some repo)
    (numbered : values.lookup "number" = some number) (changed : values.lookup "diffs" = some diffs)
    (linted : values.lookup "lint" = some lint) (known : values.lookup "context" = some context) :
    fillTemplate reviewTemplate values = reviewText title repo number diffs lint context := by
  have quiet := fill_quiet values
  have marked := fill_marked values
  have alone := fill_alone values
  apply fill_lines
  iterate 3 refine .cons (quiet _ (by decide)) ?_
  refine .cons (marked "Pull Request Title: ".toList "title".toList _ (by decide) (by decide) titled) ?_
  refine .cons (marked "Repository: ".toList "repo".toList _ (by decide) (by decide) placed) ?_
  refine .cons (marked "PR Number: ".toList "number".toList _ (by decide) (by decide) numbered) ?_
  iterate 2 refine .cons (quiet _ (by decide)) ?_
  refine .cons (alone "diffs".toList _ (by decide) changed) (.cons (quiet _ (by decide)) ?_)
  refine .cons (alone "lint".toList _ (by decide) linted) ?_
  iterate 2 refine .cons (quiet _ (by decide)) ?_
  refine .cons (alone "context".toList _ (by decide) known) ?_
  iterate 10 refine .cons (quiet _ (by decide)) ?_
  exact .nil

theorem test_filled {code signatures edges complexity : String}
    (coded : values.lookup "code" = some code) (signed : values.lookup "signatures" = some signatures)
    (edged : values.lookup "edges" = some edges)
    (counted : values.lookup "complexity" = some complexity) :
    fillTemplate testTemplate values = testText code signatures edges complexity := by
  have quiet := fill_quiet values
  have alone := fill_alone values
  apply fill_lines
  iterate 4 refine .cons (quiet _ (by decide)) ?_
  refine .cons (alone "code".toList _ (by decide) coded) ?_
  iterate 3 refine .cons (quiet _ (by decide)) ?_
  refine .cons (alone "signatures".toList _ (by decide) signed) ?_
  iterate 2 refine .cons (quiet _ (by decide)) ?_
  refine .cons (alone "edges".toList _ (by decide) edged) (.cons (quiet _ (by decide)) ?_)
  refine .cons (fill_marked values "Estimated cyclomatic complexity: ".toList "complexity".toList _
    (by decide) (by decide) counted) ?_
  iterate 13 refine .cons (quiet _ (by decide)) ?_
  exact .nil

/-- A template has marks in certain places, whatever the values are. Filling it puts there the values that
are listed first and keeps the rest, so that the two prompts are their fixed lines with the given texts in
between, just as these are: blocks of code and lines, or a word where there is no line. -/
theorem filled_once :
    (∀ template : String, ∃ parts, Parted template.toList parts ∧
      (∀ other, Parted template.toList other → other = parts) ∧
      ∀ values, (fillTemplate template values).toList = parts.filled values) ∧
    (∀ (request : ReviewRequest) (lint : List Finding) (context : List Document),
      reviewPrompt request lint context =
        reviewText (request.prTitle.getD "-") (request.repoName.getD "-")
          ((request.prNumber.map toString).getD "local")
          (String.join (request.diffs.filterMap codeBlock?)) (linesOr "(none)" (lint.map remarkLine))
          (linesOr "(none)" (context.filterMap excerpt?))) ∧
    ∀ (code : String) (analysis : Python.Analysis),
      testPrompt code analysis =
        testText code (linesOr "None" (analysis.signatures.map callLine))
          (linesOr "None" (analysis.edgeCases.map edgeLine)) (toString analysis.complexity) := by
  refine ⟨?_, ?_, ?_⟩
  · intro template
    obtain ⟨parts, parted, only, filled⟩ := filled_parts template.toList
    refine ⟨parts, parted, only, ?_⟩
    intro values
    rw [fillTemplate, String.toList_ofList, filled]
  · intro request lint context
    rw [reviewPrompt, diff_blocks, change_number, lint_lines, context_lines]
    exact review_filled rfl rfl rfl rfl rfl rfl
  · intro code analysis
    rw [testPrompt, call_lines, edge_lines]
    exact test_filled rfl rfl rfl rfl

/-- An unknown name and braces around no name stay, and so does what looks like a mark in a value. -/
example : fillTemplate "\x7b\x7ba\x7d\x7bb\x7d\x7bA\x7d\x7ba" [("a", "\x7bb\x7d"), ("a", "x")] =
    "\x7b\x7bb\x7d\x7bb\x7d\x7bA\x7d\x7ba" := by decide +kernel

end Prompts

end CodeReview.Template
