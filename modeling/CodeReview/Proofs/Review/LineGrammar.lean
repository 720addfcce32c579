import CodeReview.Proofs.Text.Leading
import Mathlib.Algebra.Group.Int.Defs
import Mathlib.Data.List.TakeDrop

/-!
The grammar of a line that holds a finding. A `FindingLine` is a line cut into its parts; the line reader
accepts the texts of such lines and no others, and finds what the parts say. For each part there is a lemma
that it is read whatever stands after it, one that whatever is read was such a part, and one that a text
has one such part at its front only.
-/

namespace CodeReview

open Text

@[ext]
structure Gap where
  text : List Char
  blanks : Blanks text

namespace Gap

def none : Gap := ⟨[], blanks_nil⟩

def space : Gap := ⟨[' '], space_blank⟩

def front (cs : List Char) : Gap := ⟨cs.takeWhile isBlank, fun _ => List.mem_takeWhile_imp⟩

end Gap

@[ext]
structure BarredPart where
  text : List Char
  some_ : text ≠ []
  clear : '|' ∉ text

@[ext]
structure SignedDigits where
  negative : Bool
  digits : List Char
  some_ : digits ≠ []
  each : ∀ c ∈ digits, isDecimalDigit c = true

namespace SignedDigits

def text (n : SignedDigits) : List Char := (if n.negative then ['-'] else []) ++ n.digits

def value (n : SignedDigits) : Int :=
  if n.negative then -(Nat.ofDigitChars 10 n.digits 0 : Int) else Nat.ofDigitChars 10 n.digits 0

def Fits (n : SignedDigits) : Prop :=
  (∀ c ∈ n.digits, c.isDigit = true) ∧ -2 ^ 63 ≤ n.value ∧ n.value < 2 ^ 63

instance (n : SignedDigits) : Decidable n.Fits := inferInstanceAs (Decidable (_ ∧ _))

/-- A number that fits is kept between one and the largest of thirty-two bits; any other counts as one. -/
def line (n : SignedDigits) : Nat :=
  if n.Fits then (max 1 (min n.value (2 ^ 32 - 1))).toNat else 1

end SignedDigits

/-- A line cut into a file, a number, a label and a message. -/
@[ext]
structure FindingLine where
  beforeFile : Gap
  file : BarredPart
  beforeLine : Gap
  beforeNumber : Gap
  number : SignedDigits
  afterNumber : Gap
  beforeLabel : Gap
  label : BarredPart
  beforeMessage : Gap
  message : List Char
  some_ : message ≠ []

namespace FindingLine

def text (l : FindingLine) : List Char :=
  ['-'] ++ l.beforeFile.text ++ "filename:".toList ++ l.file.text ++ ['|'] ++
    l.beforeLine.text ++ "line:".toList ++
      l.beforeNumber.text ++ l.number.text ++ l.afterNumber.text ++ ['|'] ++
    l.beforeLabel.text ++ "severity:".toList ++ l.label.text ++ ['|'] ++
    l.beforeMessage.text ++ "message:".toList ++ l.message

def finding (l : FindingLine) : Finding :=
  { filename := String.ofList (trim l.file.text)
    line := l.number.line
    severity := .lenient (String.ofList l.label.text)
    message := String.ofList (trim l.message)
    source := .llm }

end FindingLine

inductive Gathered : List (List Char) → List Finding → Prop
  | done : Gathered [] []
  | taken (l : FindingLine) {rest found} : Gathered rest found →
      Gathered (l.text :: rest) (l.finding :: found)
  | passed {line rest found} : (∀ l : FindingLine, l.text ≠ line) → Gathered rest found →
      Gathered (line :: rest) found

def answerBody (raw : String) : List Char := stripFences (trim raw.toList)

section Digits

theorem whole_digits (digits : List Char) (n : Nat) :
    digits.foldl (fun (n : Int) c => n * 10 + (c.toNat - 48 : Nat)) n = Nat.ofDigitChars 10 digits n := by
  induction digits generalizing n with
  | nil => rfl
  | cons c digits ih =>
      rw [List.foldl_cons, Nat.ofDigitChars_cons, ← ih, Nat.mul_comm]
      rfl

variable (n : SignedDigits)

theorem signed_head : ∀ c ∈ n.text.head?, isBlank c = false := by
  obtain ⟨d, digits, same⟩ := List.exists_cons_of_ne_nil n.some_
  have digit := n.each d (by simp [same])
  intro c first
  rw [SignedDigits.text, same] at first
  by_cases minus : n.negative = true
  · simp only [minus, if_true, List.singleton_append, List.head?_cons] at first
    cases first
    rfl
  · simp only [minus, Bool.false_eq_true, if_false, List.nil_append, List.head?_cons] at first
    cases first
    by_contra blank
    rw [Bool.not_eq_false] at blank
    rw [blank_no_digit d blank] at digit
    cases digit

theorem parse_whole_signed : parseWhole? n.text = if n.Fits then some n.value else none := by
  obtain ⟨d, digits, same⟩ := List.exists_cons_of_ne_nil n.some_
  have digit := n.each d (by simp [same])
  unfold parseWhole?
  split
  next negative digits' sign =>
  obtain ⟨rfl, rfl⟩ : negative = n.negative ∧ digits' = n.digits := by
    rw [SignedDigits.text] at sign
    by_cases minus : n.negative = true
    · simp only [minus, if_true, List.singleton_append] at sign
      cases sign
      exact ⟨minus.symm, rfl⟩
    · -- a digit is no sign
      simp only [minus, Bool.false_eq_true, if_false, List.nil_append, same] at sign
      split at sign
      · next first =>
          rw [(List.cons.inj first).1] at digit
          cases digit
      · next first =>
          rw [(List.cons.inj first).1] at digit
          cases digit
      · cases sign
        exact ⟨(Bool.not_eq_true _ ▸ minus).symm, same.symm⟩
  have size : n.digits.foldl (fun (n : Int) c => n * 10 + (c.toNat - 48 : Nat)) 0 =
      Nat.ofDigitChars 10 n.digits 0 := whole_digits n.digits 0
  have filled : n.digits.isEmpty = false := by simp [same]
  rw [size, filled, Bool.false_or]
  by_cases ascii : n.digits.all Char.isDigit = true
  · have each := List.all_eq_true.mp ascii
    rw [ascii, Bool.not_true, if_neg Bool.false_ne_true]
    change (if (decide (-9223372036854775808 ≤ n.value) && decide (n.value ≤ 9223372036854775807)) = true
      then some n.value else none) = _
    refine if_congr ?_ rfl rfl
    rw [Bool.and_eq_true, decide_eq_true_eq, decide_eq_true_eq]
    constructor
    · intro bounds
      exact ⟨each, bounds.1, by omega⟩
    · intro fits
      exact ⟨fits.2.1, by have := fits.2.2; omega⟩
  · have short : ¬ n.Fits := fun fits => ascii (List.all_eq_true.mpr fits.1)
    rw [if_neg short, if_pos (by simp [ascii])]

theorem clamp_signed : clampLine ((parseWhole? n.text).getD 1) = n.line := by
  rw [parse_whole_signed, SignedDigits.line]
  split <;> rfl

end Digits

/-! A reader of one part against the part itself: `_read` says that the part is read, `_found` that nothing
else is, and `_same` that two texts with such a part at the front have the same one there. -/
section Parts

theorem solid_head (label : String) (first : Char) (rest : List Char)
    (begins : label.toList.head? = some first) (solid : isBlank first = false) :
    ∀ c ∈ (label.toList ++ rest).head?, isBlank c = false := by
  rw [List.head?_append, begins]
  rintro _ ⟨⟩
  exact solid

section Labels

variable (label : String) {first : Char} (begins : label.toList.head? = some first)
  (solid : isBlank first = false)

include begins solid

theorem label_read (g : Gap) (rest : List Char) :
    afterLabel? (g.text ++ (label.toList ++ rest)) label = some rest := by
  rw [afterLabel?, trim_start_blanks g.blanks, trim_start_head (solid_head label first rest begins solid),
    drop_lead]

theorem label_same (g g' : Gap) (rest rest' : List Char)
    (same : g.text ++ (label.toList ++ rest) = g'.text ++ (label.toList ++ rest')) :
    g = g' ∧ rest = rest' := by
  obtain ⟨gaps, rests⟩ := lead_same g.blanks g'.blanks (solid_head label first rest begins solid)
    (solid_head label first rest' begins solid) same
  exact ⟨Gap.ext gaps, List.append_cancel_left rests⟩

end Labels

theorem gap_front (cs : List Char) : cs = (Gap.front cs).text ++ trimStart cs :=
  (List.takeWhile_append_dropWhile ..).symm

theorem label_found (cs : List Char) (label : String) (rest : List Char)
    (found : afterLabel? cs label = some rest) : ∃ g : Gap, cs = g.text ++ (label.toList ++ rest) := by
  have labelled := dropped_lead _ _ _ found
  exact ⟨Gap.front cs, by rw [← labelled]; exact gap_front cs⟩

theorem part_read (part : BarredPart) (rest : List Char) :
    partBeforeBar? (part.text ++ '|' :: rest) = some (trim part.text, rest) := by
  obtain ⟨text, some_, clear⟩ := part
  have inside : ∀ c ∈ text, (c != '|') = true := fun c member =>
    bne_iff_ne.mpr (ne_of_mem_of_not_mem member clear)
  have span : (text ++ '|' :: rest).span (· != '|') = (text, '|' :: rest) := span_lead inside (by simp)
  rw [List.span_eq_takeWhile_dropWhile] at span
  obtain ⟨c, more, rfl⟩ := List.exists_cons_of_ne_nil some_
  rw [partBeforeBar?, List.span_eq_takeWhile_dropWhile, span, (Prod.mk.inj span).1]

theorem part_found (cs value rest : List Char) (found : partBeforeBar? cs = some (value, rest)) :
    ∃ part : BarredPart, cs = part.text ++ '|' :: rest ∧ value = trim part.text := by
  rw [partBeforeBar?, List.span_eq_takeWhile_dropWhile] at found
  have whole := List.takeWhile_append_dropWhile (p := (· != '|')) (l := cs)
  split at found
  · next c part d after same =>
      obtain ⟨taken, left⟩ := Prod.mk.inj same
      have clear : '|' ∉ c :: part := by
        intro member
        rw [← taken] at member
        simpa using List.mem_takeWhile_imp member
      have bar : d = '|' := by
        have stop := List.head?_dropWhile_not (· != '|') cs
        rw [left] at stop
        simpa using stop
      subst bar
      cases found
      rw [taken, left] at whole
      exact ⟨⟨c :: part, List.cons_ne_nil c part, clear⟩, whole.symm, by rw [taken]⟩
  · cases found

theorem part_same (part part' : BarredPart) (rest rest' : List Char)
    (same : part.text ++ '|' :: rest = part'.text ++ '|' :: rest') : part = part' ∧ rest = rest' := by
  have inside (part : BarredPart) : ∀ c ∈ part.text, (c != '|') = true := fun c member =>
    bne_iff_ne.mpr (ne_of_mem_of_not_mem member part.clear)
  obtain ⟨parts, bars⟩ := lead_same (inside part) (inside part') (by simp) (by simp) same
  exact ⟨BarredPart.ext parts, (List.cons.inj bars).2⟩

theorem gap_bar (g : Gap) (rest : List Char) :
    ∀ c ∈ (g.text ++ '|' :: rest).head?, isDecimalDigit c = false := by
  intro c first
  cases same : g.text with
  | nil =>
      rw [same] at first
      cases first
      rfl
  | cons d gap =>
      rw [same] at first
      cases first
      exact blank_no_digit c (g.blanks c (by simp [same]))

theorem gap_to_bar (g : Gap) (rest : List Char) : trimStart (g.text ++ '|' :: rest) = '|' :: rest := by
  rw [trim_start_blanks g.blanks, trim_start_head]
  rintro _ ⟨⟩
  rfl

theorem signed_front (n : SignedDigits) (rest : List Char) :
    ∀ c ∈ (n.text ++ rest).head?, isBlank c = false := by
  have some_ : n.text ≠ [] := by
    intro none
    exact n.some_ (List.append_eq_nil_iff.mp none).2
  rw [List.head?_append_of_ne_nil _ some_]
  exact signed_head n

def minusFirst (cs : List Char) : List Char × List Char :=
  match cs with
  | '-' :: rest => (['-'], rest)
  | _ => ([], cs)

theorem number_before_bar (cs : List Char) :
    numberBeforeBar? cs =
      match (minusFirst (trimStart cs)).2.span isDecimalDigit with
      | ([], _) => none
      | (digits, rest) =>
          match trimStart rest with
          | '|' :: rest => some ((parseWhole? ((minusFirst (trimStart cs)).1 ++ digits)).getD 1, rest)
          | _ => none :=
  rfl

theorem minus_read (n : SignedDigits) (rest : List Char) :
    minusFirst (n.text ++ rest) = (if n.negative then ['-'] else [], n.digits ++ rest) := by
  obtain ⟨d, digits, same⟩ := List.exists_cons_of_ne_nil n.some_
  have digit := n.each d (by simp [same])
  rw [SignedDigits.text]
  by_cases minus : n.negative = true
  · simp [minus, minusFirst]
  · have unsigned : d ≠ '-' := by
      rintro rfl
      cases digit
    simp [minus, minusFirst, same, unsigned]

theorem minus_found (cs : List Char) :
    ∃ negative : Bool, (minusFirst cs).1 = (if negative then ['-'] else []) ∧
      cs = (minusFirst cs).1 ++ (minusFirst cs).2 := by
  unfold minusFirst
  split
  · exact ⟨true, rfl, rfl⟩
  · exact ⟨false, rfl, rfl⟩

theorem number_read (g : Gap) (n : SignedDigits) (h : Gap) (rest : List Char) :
    numberBeforeBar? (g.text ++ (n.text ++ (h.text ++ '|' :: rest))) =
      some ((parseWhole? n.text).getD 1, rest) := by
  rw [number_before_bar, trim_start_blanks g.blanks, trim_start_head (signed_front n _), minus_read,
    span_lead n.each (gap_bar h rest)]
  obtain ⟨d, digits, same⟩ := List.exists_cons_of_ne_nil n.some_
  rw [SignedDigits.text, same]
  simp only [gap_to_bar]

theorem number_found (cs rest : List Char) (value : Int)
    (found : numberBeforeBar? cs = some (value, rest)) :
    ∃ (g : Gap) (n : SignedDigits) (h : Gap), cs = g.text ++ (n.text ++ (h.text ++ '|' :: rest)) ∧
      value = (parseWhole? n.text).getD 1 := by
  obtain ⟨negative, sign, body⟩ := minus_found (trimStart cs)
  have whole := List.takeWhile_append_dropWhile (p := isDecimalDigit) (l := (minusFirst (trimStart cs)).2)
  rw [number_before_bar, List.span_eq_takeWhile_dropWhile] at found
  split at found
  · cases found
  · next digits after some_ same =>
      obtain ⟨taken, left⟩ := Prod.mk.inj same
      split at found
      · next bar =>
          cases found
          rw [taken, left, gap_front after, bar] at whole
          refine ⟨Gap.front cs, ⟨negative, digits, ?_, ?_⟩, Gap.front after, ?_, ?_⟩
          · rintro rfl
            exact some_ rfl
          · intro c member
            rw [← taken] at member
            exact List.mem_takeWhile_imp member
          · rw [SignedDigits.text, List.append_assoc, whole, ← sign, ← body]
            exact gap_front cs
          · rw [SignedDigits.text, sign]
      · cases found

theorem number_same (g g' : Gap) (n n' : SignedDigits) (h h' : Gap) (rest rest' : List Char)
    (same : g.text ++ (n.text ++ (h.text ++ '|' :: rest)) =
      g'.text ++ (n'.text ++ (h'.text ++ '|' :: rest'))) :
    g = g' ∧ n = n' ∧ h = h' ∧ rest = rest' := by
  obtain ⟨gaps, same⟩ := lead_same g.blanks g'.blanks (signed_front n _) (signed_front n' _) same
  have signs := congrArg minusFirst same
  rw [minus_read, minus_read] at signs
  obtain ⟨signs, same⟩ := Prod.mk.inj signs
  obtain ⟨digits, same⟩ := lead_same n.each n'.each (gap_bar h rest) (gap_bar h' rest') same
  obtain ⟨gaps', same⟩ := lead_same h.blanks h'.blanks (by simp [isBlank]) (by simp [isBlank]) same
  refine ⟨Gap.ext gaps, SignedDigits.ext ?_ digits, Gap.ext gaps', (List.cons.inj same).2⟩
  cases first : n.negative <;> cases second : n'.negative <;> simp [first, second] at signs ⊢

end Parts

section WholeLines

theorem finding_line_text (l : FindingLine) :
    l.text = '-' :: (l.beforeFile.text ++ ("filename:".toList ++ (l.file.text ++ '|' ::
      (l.beforeLine.text ++ ("line:".toList ++
        (l.beforeNumber.text ++ (l.number.text ++ (l.afterNumber.text ++ '|' ::
      (l.beforeLabel.text ++ ("severity:".toList ++ (l.label.text ++ '|' ::
      (l.beforeMessage.text ++ ("message:".toList ++ l.message))))))))))))) := by
  unfold FindingLine.text
  simp only [List.append_assoc, List.cons_append, List.nil_append]

theorem llm_line (file : String) (number : Nat) (severity : Severity) (message : String)
    (positive : 1 ≤ number) :
    Finding.llm file number severity message =
      { filename := file, line := number, severity, message, source := .llm } := by
  simp only [Finding.llm, Finding.lint, Nat.max_eq_left positive]

theorem signed_line_positive (n : SignedDigits) : 1 ≤ n.line := by
  have kept (m : Int) : 1 ≤ (max 1 m).toNat := by omega
  unfold SignedDigits.line
  split
  · exact kept _
  · exact Nat.le_refl 1

theorem lenient_trimmed (label : List Char) :
    Severity.lenient (String.ofList (trim label)) = .lenient (String.ofList label) := by
  have same : Severity.normalLabel (String.ofList (trim label)) =
      Severity.normalLabel (String.ofList label) := by
    rw [Severity.normalLabel, Severity.normalLabel, trimmed, trimmed, String.toList_ofList,
      String.toList_ofList, trim_twice]
  rw [Severity.lenient, Severity.parse?, same]
  rfl

theorem finding_line_read (l : FindingLine) : parseFindingLine l.text = some l.finding := by
  have atFile (rest) := label_read "filename:" rfl rfl l.beforeFile rest
  have atNumber (rest) := label_read "line:" rfl rfl l.beforeLine rest
  have atLabel (rest) := label_read "severity:" rfl rfl l.beforeLabel rest
  have atMessage (rest) := label_read "message:" rfl rfl l.beforeMessage rest
  have message : l.message.isEmpty = false := by simpa using l.some_
  rw [finding_line_text]
  simp only [parseFindingLine, dropLead?, beq_self_eq_true, if_true, atFile, atNumber, atLabel, atMessage,
    part_read, number_read, Option.bind_eq_bind, Option.bind_some, message, Bool.false_eq_true, if_false,
    clamp_signed, lenient_trimmed, llm_line _ _ _ _ (signed_line_positive l.number)]
  rfl

/-- What is read was such a line. -/
theorem finding_line_found (line : List Char) (finding : Finding)
    (found : parseFindingLine line = some finding) : ∃ l : FindingLine, l.text = line := by
  simp only [parseFindingLine, Option.bind_eq_bind, Option.bind_eq_some_iff] at found
  obtain ⟨afterDash, dash, atFile, fileLabel, ⟨file, afterFile⟩, filePart, atNumber, numberLabel,
    ⟨number, afterNumber⟩, numberPart, atLabel, labelLabel, ⟨label, afterLabel⟩, labelPart, message,
    messageLabel, ends⟩ := found
  obtain ⟨beforeFile, rfl⟩ := label_found _ _ _ fileLabel
  obtain ⟨filePart', rfl, -⟩ := part_found _ _ _ filePart
  obtain ⟨beforeLine, rfl⟩ := label_found _ _ _ numberLabel
  obtain ⟨beforeNumber, digits, afterDigits, rfl, -⟩ := number_found _ _ _ numberPart
  obtain ⟨beforeLabel, rfl⟩ := label_found _ _ _ labelLabel
  obtain ⟨labelPart', rfl, -⟩ := part_found _ _ _ labelPart
  obtain ⟨beforeMessage, rfl⟩ := label_found _ _ _ messageLabel
  have some_ : message ≠ [] := by
    rintro rfl
    cases ends
  refine ⟨⟨beforeFile, filePart', beforeLine, beforeNumber, digits, afterDigits, beforeLabel, labelPart',
    beforeMessage, message, some_⟩, ?_⟩
  rw [finding_line_text]
  exact (dropped_lead _ _ _ dash).symm

theorem finding_line_unique (a b : FindingLine) (same : a.text = b.text) : a = b := by
  rw [finding_line_text, finding_line_text] at same
  obtain ⟨beforeFile, same⟩ := label_same "filename:" rfl rfl _ _ _ _ (List.cons.inj same).2
  obtain ⟨file, same⟩ := part_same _ _ _ _ same
  obtain ⟨beforeLine, same⟩ := label_same "line:" rfl rfl _ _ _ _ same
  obtain ⟨beforeNumber, number, afterNumber, same⟩ := number_same _ _ _ _ _ _ _ _ same
  obtain ⟨beforeLabel, same⟩ := label_same "severity:" rfl rfl _ _ _ _ same
  obtain ⟨label, same⟩ := part_same _ _ _ _ same
  obtain ⟨beforeMessage, message⟩ := label_same "message:" rfl rfl _ _ _ _ same
  exact FindingLine.ext beforeFile file beforeLine beforeNumber number afterNumber beforeLabel label
    beforeMessage message

theorem finding_line_iff (line : List Char) (finding : Finding) :
    parseFindingLine line = some finding ↔ ∃ l : FindingLine, l.text = line ∧ l.finding = finding := by
  constructor
  · intro found
    obtain ⟨l, rfl⟩ := finding_line_found line finding found
    rw [finding_line_read] at found
    exact ⟨l, rfl, Option.some.inj found⟩
  · rintro ⟨l, rfl, rfl⟩
    exact finding_line_read l

end WholeLines

section Answers

theorem gathered_lines (all : List (List Char)) : Gathered all (all.filterMap parseFindingLine) := by
  induction all with
  | nil => exact .done
  | cons line rest ih =>
      cases read : parseFindingLine line with
      | none =>
          rw [List.filterMap_cons_none read]
          refine .passed ?_ ih
          rintro l rfl
          rw [finding_line_read] at read
          cases read
      | some finding =>
          obtain ⟨l, rfl, rfl⟩ := (finding_line_iff line finding).mp read
          rw [List.filterMap_cons_some read]
          exact .taken l ih

/-- The lines that are left out before reading hold no finding. -/
theorem line_findings_all (body : List Char) :
    lineFindings body = ((lines body).map trim).filterMap parseFindingLine := by
  rw [lineFindings, List.filterMap_filter]
  congr 1
  funext line
  by_cases none : line = []
  · subst none
    rfl
  · by_cases heading : line = "FINDINGS:".toList
    · subst heading
      rfl
    · have kept : (!line.isEmpty && line != "FINDINGS:".toList) = true := by
        rw [Bool.and_eq_true, bne_iff_ne]
        exact ⟨by simpa using none, heading⟩
      rw [if_pos kept]

theorem strip_bare {cs : List Char} (bare : ¬ fence <+: cs) : stripFences cs = cs := by
  rw [stripFences, no_lead bare]

def lineAnswer (body : List Char) (e : AnswerError) : Except AnswerError (List Finding) :=
  match lineFindings body with
  | [] => .error e
  | found => .ok found

theorem starts_with_head (cs : List Char) (c : Char) : startsWith cs [c] = (cs.head? == some c) := by
  cases cs with
  | nil => rfl
  | cons d rest => simp [startsWith]

theorem parse_lines (raw : String) (noBrace : (answerBody raw).head? ≠ some '\x7b') :
    parseFindings raw = lineAnswer (answerBody raw) .noFindings := by
  have noObject : startsWith (answerBody raw) ['\x7b'] = false := by
    rw [starts_with_head]
    exact beq_eq_false_iff_ne.mpr noBrace
  rw [parseFindings, ← answerBody]
  cases found : lineFindings (answerBody raw) <;>
    simp only [noObject, Bool.false_eq_true, if_false, lineAnswer, found]

theorem parse_object (raw : String) (brace : (answerBody raw).head? = some '\x7b') :
    parseFindings raw =
      match objectFindings (answerBody raw) with
      | .ok found => .ok found
      | .error e => lineAnswer (answerBody raw) (.json e) := by
  have object : startsWith (answerBody raw) ['\x7b'] = true := by
    rw [starts_with_head, brace]
    rfl
  rw [parseFindings, ← answerBody]
  cases objectFindings (answerBody raw) with
  | ok found => simp only [object, if_true]
  | error e =>
      cases found : lineFindings (answerBody raw) <;>
        simp only [object, if_true, lineAnswer, found]

/-- The line reader accepts what can be cut into the parts, in one way, and finds what the parts say. An
answer that begins with no brace gives the findings of the lines that are accepted. -/
theorem finding_lines_exact :
    (∀ line finding, parseFindingLine line = some finding ↔
      ∃ l : FindingLine, l.text = line ∧ l.finding = finding) ∧
    (∀ a b : FindingLine, a.text = b.text → a = b) ∧
    ∀ raw : String, (answerBody raw).head? ≠ some '\x7b' →
      ∃ found, Gathered ((lines (answerBody raw)).map trim) found ∧
        parseFindings raw = if found = [] then .error .noFindings else .ok found := by
  refine ⟨finding_line_iff, finding_line_unique, ?_⟩
  intro raw noBrace
  refine ⟨_, gathered_lines _, ?_⟩
  rw [parse_lines raw noBrace, lineAnswer, line_findings_all]
  cases ((lines (answerBody raw)).map trim).filterMap parseFindingLine <;> rfl

theorem finding_lines_exact_blank :
    (answerBody "Sure:\n-filename: |line:\u0663| severity:WARN|message:a|b ").head? ≠ some '\x7b' ∧
      ∃ found, Gathered
          ((lines (answerBody "Sure:\n-filename: |line:\u0663| severity:WARN|message:a|b ")).map trim)
          found ∧
        parseFindings "Sure:\n-filename: |line:\u0663| severity:WARN|message:a|b " =
          if found = [] then .error .noFindings else .ok found := by
  have noBrace : (answerBody "Sure:\n-filename: |line:\u0663| severity:WARN|message:a|b ").head? ≠
      some '\x7b' := by
    decide
  exact ⟨noBrace, finding_lines_exact.2.2 _ noBrace⟩

end Answers

end CodeReview
