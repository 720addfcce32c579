import CodeReview.Proofs.Index.Sidecar
import CodeReview.Proofs.Json.Restored
import CodeReview.Python.AnalysisJson
import CodeReview.Review.Request
import CodeReview.Tests.Request

/-!
The messages of the service lose nothing on their way through JSON: a value whose numbers fit those of the
machine is read back from what was written of it, and all that is ever read can be written and read again.
A document of an index comes back with the members of others that it carries.
-/

namespace CodeReview

open Decode Json

section Lossless

variable {α : Type}

/-- What fits comes back from both styles of its text, and so does all that was read from some text. -/
structure Lossless (toJson : α → Json) (decode : Decoder α) (fits : α → Prop) : Prop where
  compact : ∀ a, fits a → wholeText decode (toJson a).compact = .ok a
  pretty : ∀ a, fits a → wholeText decode (toJson a).pretty = .ok a
  again : ∀ text a, wholeText decode text = .ok a →
    wholeText decode (toJson a).compact = .ok a ∧ wholeText decode (toJson a).pretty = .ok a

theorem restored_lossless (toJson : α → Json) (decode : Decoder α) (fits : α → Prop)
    (restores : ∀ a, fits a → Restores decode (toJson a) a) (ensures : Ensures decode fits) :
    Lossless toJson decode fits := by
  constructor
  · intro a fit
    exact restores_compact decode (toJson a) a (restores a fit)
  · intro a fit
    exact restores_pretty decode (toJson a) a (restores a fit)
  · intro text a read
    have fit := ensures_text decode fits ensures text a read
    exact ⟨restores_compact decode (toJson a) a (restores a fit),
      restores_pretty decode (toJson a) a (restores a fit)⟩

theorem ensures_nothing (decode : Decoder α) : Ensures decode fun _ => True := fun _ _ _ => trivial

end Lossless

section Reviews

theorem FileDiff.decode_restores (d : FileDiff) : Restores FileDiff.decode d.toJson d := by
  rintro scan ⟨scans, shows, rfl⟩
  have filename := text_restores d.filename
  have oldCode := optional_text_restores d.oldCode
  have newCode := optional_text_restores d.newCode
  have taken : record
      [field "filename" text, defaulted "old_code" (optional text),
        defaulted "new_code" (optional text)]
      (.object scans none) = .ok scans := by
    apply record_restores shows
    · exact .cons rfl (field_takes filename)
        (.cons rfl (field_takes oldCode)
          (.cons rfl (field_takes newCode) .nil))
    · simp
  rw [FileDiff.decode, taken]
  simp only [ok_bind, get_restores shows "filename" rfl filename,
    get_optional_restores shows "old_code" rfl oldCode,
    get_optional_restores shows "new_code" rfl newCode]
  rfl

theorem Severity.name_known (s : Severity) : Severity.ofName? s.name = some s := by
  cases s <;> rfl

theorem Author.name_known (a : Author) : Author.ofName? a.name = some a := by
  cases a <;> rfl

def Finding.Fits (f : Finding) : Prop := f.line < 2 ^ 32

theorem Finding.decode_restores (f : Finding) (fit : f.Fits) : Restores Finding.decode f.toJson f := by
  rintro scan ⟨scans, shows, rfl⟩
  have filename := text_restores f.filename
  have line := natural_restores 0x100000000 f.line (by decide) fit
  have severity := choice_restores Severity.ofName? f.severity.name f.severity f.severity.name_known
  have message := text_restores f.message
  have source := choice_restores Author.ofName? f.source.name f.source f.source.name_known
  have taken : record
      [field "filename" text, field "line" (naturalBelow 0x100000000),
        field "severity" (choice Severity.ofName?), field "message" text,
        field "source" (choice Author.ofName?), defaulted "model" (optional text)]
      (.object scans none) = .ok scans := by
    apply record_restores shows
    · exact .cons rfl (field_takes filename)
        (.cons rfl (field_takes line)
          (.cons rfl (field_takes severity)
            (.cons rfl (field_takes message)
              (.cons rfl (field_takes source) (known_text f.model rfl)))))
    · -- with the name of a model or without, no member stands twice
      cases f.model <;> simp
  rw [Finding.decode, taken]
  simp only [ok_bind, get_restores shows "filename" rfl filename,
    get_restores shows "line" rfl line, get_restores shows "severity" rfl severity,
    get_restores shows "message" rfl message, get_restores shows "source" rfl source,
    get_text_restores shows "model" f.model (by cases f.model <;> rfl)]
  rfl

theorem Finding.decode_ensures : Ensures Finding.decode Finding.Fits := by
  intro scan f read
  obtain ⟨r, -, read⟩ := bind_ok read
  obtain ⟨filename, -, read⟩ := bind_ok read
  obtain ⟨line, readLine, read⟩ := bind_ok read
  obtain ⟨severity, -, read⟩ := bind_ok read
  obtain ⟨message, -, read⟩ := bind_ok read
  obtain ⟨source, -, read⟩ := bind_ok read
  obtain ⟨model, -, read⟩ := bind_ok read
  cases read
  exact get_ensures r "line" _ _ (natural_ensures (2 ^ 32)) line readLine

def ReviewRequest.Fits (r : ReviewRequest) : Prop := ∀ n, r.prNumber = some n → n < wordLimit

theorem ReviewRequest.number_restores (n : Option Nat) :
    (∀ m, n = some m → m < wordLimit) →
      Restores (optional word) (match n with | some n => .ofNat n | none => .null) n := by
  intro fit
  cases n with
  | none => exact optional_none word
  | some m =>
      exact optional_some word (.ofNat m) m (word_restores m (fit m rfl)) (number_there m)

theorem ReviewRequest.decode_restores (r : ReviewRequest) (fit : r.Fits) :
    Restores ReviewRequest.decode r.toJson r := by
  rintro scan ⟨scans, shows, rfl⟩
  have number := number_restores r.prNumber fit
  have title := optional_text_restores r.prTitle
  have name := optional_text_restores r.repoName
  have diffs := list_restores FileDiff.decode FileDiff.toJson r.diffs fun d _ => d.decode_restores
  have taken : record
      [defaulted "pr_number" (optional word), defaulted "pr_title" (optional text),
        defaulted "repo_name" (optional text), defaulted "diffs" (listOf FileDiff.decode)]
      (.object scans none) = .ok scans := by
    apply record_restores shows
    · exact .cons rfl (field_takes number)
        (.cons rfl (field_takes title)
          (.cons rfl (field_takes name)
            (.cons rfl (field_takes diffs) .nil)))
    · simp
  rw [ReviewRequest.decode, taken]
  simp only [ok_bind, get_optional_restores shows "pr_number" rfl number,
    get_optional_restores shows "pr_title" rfl title,
    get_optional_restores shows "repo_name" rfl name,
    get_default_restores shows "diffs" rfl _ diffs]
  rfl

theorem ReviewRequest.decode_ensures : Ensures ReviewRequest.decode ReviewRequest.Fits := by
  intro scan request read
  obtain ⟨r, -, read⟩ := bind_ok read
  obtain ⟨number, readNumber, read⟩ := bind_ok read
  obtain ⟨title, -, read⟩ := bind_ok read
  obtain ⟨name, -, read⟩ := bind_ok read
  obtain ⟨diffs, -, read⟩ := bind_ok read
  cases read
  exact get_optional_ensures r "pr_number" word _ (natural_ensures wordLimit) number readNumber

def ReviewResponse.Fits (r : ReviewResponse) : Prop := ∀ f ∈ r.findings, f.Fits

theorem ReviewResponse.decode_restores (r : ReviewResponse) (fit : r.Fits) :
    Restores ReviewResponse.decode r.toJson r := by
  rintro scan ⟨scans, shows, rfl⟩
  have findings := list_restores Finding.decode Finding.toJson r.findings fun f member =>
    f.decode_restores (fit f member)
  have taken : record
      [field "findings" (listOf Finding.decode)]
      (.object scans none) = .ok scans := by
    apply record_restores shows
    · exact .cons rfl (field_takes findings) .nil
    · simp
  rw [ReviewResponse.decode, taken]
  simp only [ok_bind, get_restores shows "findings" rfl findings]
  rfl

theorem ReviewResponse.decode_ensures : Ensures ReviewResponse.decode ReviewResponse.Fits := by
  intro scan response read
  obtain ⟨r, -, read⟩ := bind_ok read
  obtain ⟨findings, readFindings, read⟩ := bind_ok read
  cases read
  exact get_ensures r "findings" _ _ (list_ensures _ _ Finding.decode_ensures) findings readFindings

end Reviews

section Tests

theorem TestRequest.decode_restores (r : TestRequest) : Restores TestRequest.decode r.toJson r := by
  rintro scan ⟨scans, shows, rfl⟩
  have filePath := text_restores r.filePath
  have code := text_restores r.code
  have goal := optional_text_restores r.coverageGoal
  have taken : record
      [field "file_path" text, field "code" text, defaulted "coverage_goal" (optional text)]
      (.object scans none) = .ok scans := by
    apply record_restores shows
    · exact .cons rfl (field_takes filePath)
        (.cons rfl (field_takes code)
          (.cons rfl (field_takes goal) .nil))
    · simp
  rw [TestRequest.decode, taken]
  simp only [ok_bind, get_restores shows "file_path" rfl filePath,
    get_restores shows "code" rfl code,
    get_optional_restores shows "coverage_goal" rfl goal]
  rfl

theorem TestSource.name_known (s : TestSource) : TestSource.ofName? s.name = some s := by
  cases s <;> rfl

theorem TestSources.listed (s : TestSources) : TestSources.ofList s.toList = s := by
  obtain ⟨staticAnalysis, llm⟩ := s
  cases staticAnalysis <;> cases llm <;> rfl

theorem GeneratedTest.decode_restores (t : GeneratedTest) :
    Restores GeneratedTest.decode t.toJson t := by
  rintro scan ⟨scans, shows, rfl⟩
  have filePath := text_restores t.filePath
  have testCode := text_restores t.testCode
  have sources := choices_restores TestSource.ofName? TestSource.name t.sources.toList
    TestSource.name_known
  have taken : record
      [field "file_path" text, field "test_code" text, defaulted "coverage_summary" (optional text),
        field "sources" (listOf (choice TestSource.ofName?))]
      (.object scans none) = .ok scans := by
    apply record_restores shows
    · -- the summary, which may be left out, stands between the others
      refine known_append ?_ (.cons rfl (field_takes sources) .nil)
      exact .cons rfl (field_takes filePath)
        (.cons rfl (field_takes testCode)
          (known_text t.coverageSummary rfl))
    · cases t.coverageSummary <;> simp
  rw [GeneratedTest.decode, taken]
  simp only [ok_bind, get_restores shows "file_path" rfl filePath,
    get_restores shows "test_code" rfl testCode,
    get_text_restores shows "coverage_summary" t.coverageSummary (by cases t.coverageSummary <;> rfl),
    get_restores shows "sources" (by cases t.coverageSummary <;> rfl) sources,
    TestSources.listed]
  rfl

theorem TestResponse.decode_restores (r : TestResponse) : Restores TestResponse.decode r.toJson r := by
  rintro scan ⟨scans, shows, rfl⟩
  have tests := list_restores GeneratedTest.decode GeneratedTest.toJson r.tests fun t _ =>
    t.decode_restores
  have taken : record
      [field "tests" (listOf GeneratedTest.decode)]
      (.object scans none) = .ok scans := by
    apply record_restores shows
    · exact .cons rfl (field_takes tests) .nil
    · simp
  rw [TestResponse.decode, taken]
  simp only [ok_bind, get_restores shows "tests" rfl tests]
  rfl

end Tests

section Analyses

open Python

theorem Python.Signature.decode_restores (s : Signature) : Restores Signature.decode s.toJson s := by
  rintro scan ⟨scans, shows, rfl⟩
  have name := text_restores s.name
  have args := texts_restores s.args
  have taken : record
      [field "name" text, field "args" (listOf text)]
      (.object scans none) = .ok scans := by
    apply record_restores shows
    · exact .cons rfl (field_takes name) (.cons rfl (field_takes args) .nil)
    · simp
  rw [Signature.decode, taken]
  simp only [ok_bind, get_restores shows "name" rfl name, get_restores shows "args" rfl args]
  rfl

theorem Python.EdgeCase.id_known (e : EdgeCase) : EdgeCase.ofId? e.id = some e := by
  cases e <;> rfl

def Python.Analysis.Fits (a : Analysis) : Prop := a.complexity < wordLimit

theorem Python.Analysis.decode_restores (a : Analysis) (fit : a.Fits) :
    Restores Analysis.decode a.toJson a := by
  rintro scan ⟨scans, shows, rfl⟩
  have signatures := list_restores Signature.decode Signature.toJson a.signatures fun s _ =>
    s.decode_restores
  have edgeCases := choices_restores EdgeCase.ofId? EdgeCase.id a.edgeCases EdgeCase.id_known
  have complexity := word_restores a.complexity fit
  have parsed := boolean_restores a.parsed
  have taken : record
      [field "signatures" (listOf Signature.decode), field "edge_cases" (listOf (choice EdgeCase.ofId?)),
        field "complexity" word, field "parsed" boolean]
      (.object scans none) = .ok scans := by
    apply record_restores shows
    · exact .cons rfl (field_takes signatures)
        (.cons rfl (field_takes edgeCases)
          (.cons rfl (field_takes complexity)
            (.cons rfl (field_takes parsed) .nil)))
    · simp
  rw [Analysis.decode, taken]
  simp only [ok_bind, get_restores shows "signatures" rfl signatures,
    get_restores shows "edge_cases" rfl edgeCases,
    get_restores shows "complexity" rfl complexity,
    get_restores shows "parsed" rfl parsed]
  rfl

theorem Python.Analysis.decode_ensures : Ensures Analysis.decode Analysis.Fits := by
  intro scan a read
  obtain ⟨r, -, read⟩ := bind_ok read
  obtain ⟨signatures, -, read⟩ := bind_ok read
  obtain ⟨edgeCases, -, read⟩ := bind_ok read
  obtain ⟨complexity, readComplexity, read⟩ := bind_ok read
  obtain ⟨parsed, -, read⟩ := bind_ok read
  cases read
  exact get_ensures r "complexity" word _ (natural_ensures wordLimit) complexity readComplexity

end Analyses

section Documents

/-- A document that can be written by itself. Its further members are sorted, inside too, as maps are; none
is called like the members that every document has; their numbers are integers of sixty-four bits; and no
more containers are inside each other than readers take. -/
structure Document.Writable (d : Document) : Prop where
  ascending : Ascending d.extra
  sorted : Json.SortedMembers d.extra
  integral : Json.IntegralMembers d.extra
  unreserved : ∀ m ∈ d.extra, m.1 ≠ "source" ∧ m.1 ≠ "chunk"
  shallow : d.toJson.nesting < depthLimit

theorem Document.decode_restores (d : Document) (writable : d.Writable) :
    Restores (Document.decode 0) d.toJson d := by
  intro scan shows
  exact d.decode_members scan shows writable.ascending writable.sorted writable.integral
    writable.unreserved writable.shallow

end Documents

/-- All messages, and the documents that can be written, come back from JSON as they were. -/
theorem messages_lossless :
    Lossless ReviewRequest.toJson ReviewRequest.decode ReviewRequest.Fits ∧
    Lossless ReviewResponse.toJson ReviewResponse.decode ReviewResponse.Fits ∧
    Lossless TestRequest.toJson TestRequest.decode (fun _ => True) ∧
    Lossless TestResponse.toJson TestResponse.decode (fun _ => True) ∧
    Lossless Python.Analysis.toJson Python.Analysis.decode Python.Analysis.Fits ∧
    ∀ d : Document, d.Writable →
      wholeText (Document.decode 0) d.toJson.compact = .ok d ∧
      wholeText (Document.decode 0) d.toJson.pretty = .ok d := by
  refine ⟨?request, ?response, ?tests, ?generated, ?analysis, ?documents⟩
  case request =>
    exact restored_lossless _ _ _ ReviewRequest.decode_restores ReviewRequest.decode_ensures
  case response =>
    exact restored_lossless _ _ _ ReviewResponse.decode_restores ReviewResponse.decode_ensures
  case tests =>
    exact restored_lossless _ _ _ (fun r _ => r.decode_restores) (ensures_nothing _)
  case generated =>
    exact restored_lossless _ _ _ (fun r _ => r.decode_restores) (ensures_nothing _)
  case analysis =>
    exact restored_lossless _ _ _ Python.Analysis.decode_restores Python.Analysis.decode_ensures
  case documents =>
    intro d writable
    have restores := d.decode_restores writable
    exact ⟨restores_compact _ d.toJson d restores, restores_pretty _ d.toJson d restores⟩

theorem messages_lossless_greatest :
    let request : ReviewRequest :=
      { prNumber := some (wordLimit - 1), diffs := [{ filename := "a\"\n", newCode := some "" }] }
    let finding : Finding :=
      { filename := "a.py", line := 2 ^ 32 - 1, severity := .critical, message := "\t", source := .llm }
    let test : GeneratedTest :=
      { filePath := "", testCode := "\\", sources := .ofList [.llm, .staticAnalysis] }
    let analysis : Python.Analysis :=
      { signatures := [{ name := "f", args := ["x"] }], edgeCases := [.raises],
        complexity := wordLimit - 1, parsed := true }
    let document : Document :=
      { source := "a.py", extra := [("lines", .list [.integer 1, .integer (-1)])] }
    wholeText ReviewRequest.decode request.toJson.compact = .ok request ∧
    wholeText ReviewResponse.decode (ReviewResponse.toJson { findings := [finding] }).pretty =
      .ok { findings := [finding] } ∧
    wholeText TestRequest.decode (TestRequest.toJson { filePath := "a", code := "" }).compact =
      .ok { filePath := "a", code := "" } ∧
    wholeText TestResponse.decode (TestResponse.toJson { tests := [test] }).pretty =
      .ok { tests := [test] } ∧
    wholeText Python.Analysis.decode analysis.toJson.compact = .ok analysis ∧
    wholeText (Document.decode 0) document.toJson.pretty = .ok document := by
  intro request finding test analysis document
  obtain ⟨requests, responses, tests, generated, analyses, documents⟩ := messages_lossless
  refine ⟨requests.compact request ?_, responses.pretty _ ?_, tests.compact _ trivial,
    generated.pretty _ trivial, analyses.compact analysis ?_, (documents document ?_).2⟩
  · rintro n ⟨⟩
    decide
  · intro f member
    rw [List.mem_singleton.mp member]
    show 2 ^ 32 - 1 < 2 ^ 32
    decide
  · show wordLimit - 1 < wordLimit
    decide
  · constructor
    · exact List.pairwise_singleton _ _
    · exact ⟨⟨trivial, trivial, trivial⟩, trivial⟩
    · exact ⟨⟨⟨by decide, by decide⟩, ⟨by decide, by decide⟩, trivial⟩, trivial⟩
    · simp [document]
    · decide

end CodeReview
