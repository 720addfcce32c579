import CodeReview.Proofs.Answer
import CodeReview.Proofs.Coverage.Containment
import CodeReview.Proofs.Text.Trimming
import CodeReview.Shell.Machine
import CodeReview.Tests.Generation

/-!
What the generation of tests answers. The test file is the scaffold, with the tests of a model behind it
when the model is asked and gives some; whatever else a provider does, it is as if there were none. Only
then is the file run, if that is wanted. The generation fails when the run cannot be set up, and it panics
when a program was started whose time is not up before the clock ends.
-/

namespace CodeReview

open Text

def Filed (code : String) : Prop :=
  ∃ body, code = String.ofList (body ++ ['\n']) ∧ trim body ≠ [] ∧ trimEnd body = body

namespace TestGenerator

def Accepts (g : TestGenerator) (request : TestRequest) (code : String) : Prop :=
  g.settings.llmEnabled = true ∧ ∃ provider raw answer, g.provider = some provider ∧
    provider.tests (testPrompt request.code (Python.analyze request.code)) = .answer raw ∧
    parseTestAnswer raw = .ok answer ∧ answer.code = code

def Due (g : TestGenerator) (request : TestRequest) : Prop :=
  request.coverageGoal ≠ none ∨ g.settings.runCoverage = true

def muted (g : TestGenerator) : TestGenerator :=
  { g with settings := { g.settings with llmEnabled := false } }

structure Staged (request : TestRequest) (tests : String) (m : ModulePath) (files : Files) : Prop where
  parsed : ModulePath.parse request.filePath.toList = .ok m
  prepared : Workspace.prepare m request.code tests = .ok files
  code : files.read (Workspace.pathOf m.relative) = .ok (utf8 request.code.toList)
  tests : files.read (Workspace.pathOf m.testFile) = .ok (utf8 tests.toList)

def started (g : TestGenerator) (machine : Machine) (m : ModulePath) (files : Files) :
    FileResult Printed :=
  machine.start g.coverage.python g.coverage.timeout { CoverageRun.launch g.coverage m files with files }

/-- A program was started, and the clock ends before its time is up. -/
def Overdue (g : TestGenerator) (machine : Machine) (m : ModulePath) (files : Files) : Prop :=
  (∃ printed, g.started machine m files = .ok printed) ∧
    Machine.endOfTime ≤ machine.clock + g.coverage.timeout * 1000000

def report (g : TestGenerator) (machine : Machine) (request : TestRequest) (m : ModulePath)
    (files : Files) : CoverageReport :=
  .ofRun (CoverageRun.output g.coverage (g.started machine m files)) request.coverageGoal

/-- What becomes of a test file. It is answered as it is when no run is due; else it goes into a workspace
with the module, and what the machine makes of the two goes into its summary. -/
inductive Finished (g : TestGenerator) (machine : Machine) (request : TestRequest)
    (test : GeneratedTest) : Except Breakdown TestResponse → Prop
  | unmeasured : ¬ g.Due request → Finished g machine request test (.ok { tests := [test] })
  | refused (refusal : PathRefusal) : g.Due request →
      ModulePath.parse request.filePath.toList = .error refusal →
      Finished g machine request test (.error (.failure (.modulePath request.filePath refusal)))
  | unwritable (m : ModulePath) (e : FileError) : g.Due request →
      ModulePath.parse request.filePath.toList = .ok m →
      Workspace.prepare m request.code test.testCode = .error e →
      Finished g machine request test (.error (.failure (.workspace e)))
  | overdue (m : ModulePath) (files : Files) : g.Due request →
      Staged request test.testCode m files → g.Overdue machine m files →
      Finished g machine request test (.error (.panic CoverageRun.overflowMessage))
  | measured (m : ModulePath) (files : Files) : g.Due request →
      Staged request test.testCode m files → ¬ g.Overdue machine m files →
      Finished g machine request test
        (.ok { tests :=
          [{ test with coverageSummary := some (g.report machine request m files).summary }] })

section Asking

variable (g : TestGenerator) (request : TestRequest)

theorem answer_filed (raw : String) (answer : TestAnswer) (parsed : parseTestAnswer raw = .ok answer) :
    Filed answer.code := by
  unfold parseTestAnswer at parsed
  split at parsed
  · cases parsed
  · next name rest _ =>
      split at parsed
      · cases parsed
      · next name rest _ =>
          dsimp only at parsed
          split at parsed
          · cases parsed
          · next filled =>
              cases parsed
              refine ⟨_, rfl, ?_, trim_end_twice _⟩
              simpa using filled

theorem accepts_filed (code : String) (accepts : g.Accepts request code) : Filed code := by
  obtain ⟨-, provider, raw, answer, -, -, parsed, rfl⟩ := accepts
  exact answer_filed raw answer parsed

theorem read_answer_accepted (seconds : Nat) (reply : Reply) (code : String) :
    readAnswer (Provider.awaited seconds reply) = .success code ↔
      ∃ raw answer, reply = .answer raw ∧ parseTestAnswer raw = .ok answer ∧ answer.code = code := by
  cases reply with
  | failed failure => simp [Provider.awaited, readAnswer]
  | stalled => simp [Provider.awaited, readAnswer]
  | answer raw => cases parsed : parseTestAnswer raw <;> simp [Provider.awaited, readAnswer, parsed]

theorem model_tests_accepted (code : String) :
    (g.modelTests request).value = .success code ↔ g.Accepts request code := by
  unfold modelTests Accepts
  -- when the model is off or there is no provider, no code comes and none is accepted
  by_cases on : g.settings.llmEnabled = true
  · rw [if_neg (by simp [on])]
    cases set : g.provider with
    | none => simp
    | some provider =>
        simp only [asked_bind_value, asked_pure_value, Provider.askTests, read_answer_accepted]
        constructor
        · rintro ⟨raw, answer, reply, parsed, same⟩
          exact ⟨on, provider, raw, answer, rfl, reply, parsed, same⟩
        · rintro ⟨-, _, raw, answer, ⟨⟩, reply, parsed, same⟩
          exact ⟨raw, answer, reply, parsed, same⟩
  · rw [if_pos (by simpa using on)]
    simp [on]

theorem muted_silent (code : String) : ¬ g.muted.Accepts request code := by
  rintro ⟨on, -⟩
  cases on

theorem model_tests_silent (silent : ∀ code, ¬ g.Accepts request code) :
    ∃ reason, (g.modelTests request).value = .degraded reason := by
  cases outcome : (g.modelTests request).value with
  | degraded reason => exact ⟨reason, rfl⟩
  | success code => exact absurd ((model_tests_accepted g request code).mp outcome) (silent code)

end Asking

section Files

variable (g : TestGenerator) (machine : Machine) (request : TestRequest)

def testFile (g : TestGenerator) (request : TestRequest) : GeneratedTest :=
  withModelTests (Scaffold.synthesize request.filePath request.code) (g.modelTests request).value

theorem file_accepted (code : String) (accepts : g.Accepts request code) :
    g.testFile request =
      let scaffold := Scaffold.synthesize request.filePath request.code
      { scaffold with
        testCode := scaffold.testCode ++ "\n" ++ "# --- model-generated tests ---" ++ "\n" ++ code
        sources := .ofList [.staticAnalysis, .llm] } := by
  rw [testFile, (model_tests_accepted g request code).mpr accepts]
  rfl

theorem file_silent (silent : ∀ code, ¬ g.Accepts request code) :
    g.testFile request = Scaffold.synthesize request.filePath request.code := by
  obtain ⟨reason, degraded⟩ := model_tests_silent g request silent
  rw [testFile, degraded]
  rfl

theorem measures_due : g.measures request = true ↔ g.Due request := by
  rw [measures, Bool.or_eq_true, Option.isSome_iff_ne_none]
  rfl

theorem generate_value :
    (g.generate machine request).value =
      if g.measures request then
        (CoverageRun.run machine g.coverage request.filePath request.code (g.testFile request).testCode
          request.coverageGoal).map fun report =>
            { tests := [{ g.testFile request with coverageSummary := some report.summary }] }
      else .ok { tests := [g.testFile request] } := by
  unfold generate testFile
  rw [asked_bind_value]
  by_cases on : g.measures request = true
  · rw [if_pos on, if_pos on]
    dsimp only
    split
    · next failure ran =>
        rw [ran]
        rfl
    · next report ran =>
        rw [ran]
        rfl
  · rw [if_neg on, if_neg on]
    rfl

theorem generate_due (due : g.Due request) :
    (g.generate machine request).value =
      (CoverageRun.run machine g.coverage request.filePath request.code (g.testFile request).testCode
        request.coverageGoal).map fun report =>
          { tests := [{ g.testFile request with coverageSummary := some report.summary }] } := by
  rw [generate_value, if_pos ((measures_due g request).mpr due)]

theorem generate_undue (undue : ¬ g.Due request) :
    (g.generate machine request).value = .ok { tests := [g.testFile request] } := by
  rw [generate_value, if_neg fun on => undue ((measures_due g request).mp on)]

theorem attended_overdue (m : ModulePath) (files : Files) (late : g.Overdue machine m files) :
    CoverageRun.attended machine g.coverage (g.started machine m files) =
      .error (.panic CoverageRun.overflowMessage) := by
  obtain ⟨⟨printed, ran⟩, late⟩ := late
  have beyond : machine.overflows g.coverage.timeout = true := decide_eq_true late
  rw [ran, CoverageRun.attended, if_pos beyond]

theorem attended_timely (m : ModulePath) (files : Files) (timely : ¬ g.Overdue machine m files) :
    CoverageRun.attended machine g.coverage (g.started machine m files) =
      .ok (CoverageRun.output g.coverage (g.started machine m files)) := by
  cases ran : g.started machine m files with
  | error e => rfl
  | ok printed =>
      rw [CoverageRun.attended, if_neg]
      exact fun late => timely ⟨⟨printed, ran⟩, of_decide_eq_true late⟩

theorem run_refused (tests : String) (refusal : PathRefusal)
    (parsed : ModulePath.parse request.filePath.toList = .error refusal) :
    CoverageRun.run machine g.coverage request.filePath request.code tests request.coverageGoal =
      .error (.failure (.modulePath request.filePath refusal)) := by
  rw [CoverageRun.run, parsed]

theorem run_unwritable (tests : String) (m : ModulePath) (e : FileError)
    (parsed : ModulePath.parse request.filePath.toList = .ok m)
    (prepared : Workspace.prepare m request.code tests = .error e) :
    CoverageRun.run machine g.coverage request.filePath request.code tests request.coverageGoal =
      .error (.failure (.workspace e)) := by
  rw [CoverageRun.run, parsed]
  dsimp only
  rw [prepared]

theorem run_staged (tests : String) (m : ModulePath) (files : Files)
    (staged : Staged request tests m files) :
    CoverageRun.run machine g.coverage request.filePath request.code tests request.coverageGoal =
      (CoverageRun.attended machine g.coverage (g.started machine m files)).map fun ended =>
        .ofRun ended request.coverageGoal := by
  rw [CoverageRun.run, staged.parsed]
  dsimp only
  rw [staged.prepared]
  rfl

theorem generate_finished (result : Except Breakdown TestResponse) :
    (g.generate machine request).value = result ↔
      Finished g machine request (g.testFile request) result := by
  constructor
  · rintro rfl
    by_cases due : g.Due request
    · rw [generate_due g machine request due]
      cases parsed : ModulePath.parse request.filePath.toList with
      | error refusal =>
          rw [run_refused g machine request _ refusal parsed]
          exact .refused refusal due parsed
      | ok m =>
          cases prepared : Workspace.prepare m request.code (g.testFile request).testCode with
          | error e =>
              rw [run_unwritable g machine request _ m e parsed prepared]
              exact .unwritable m e due parsed prepared
          | ok files =>
              obtain ⟨code, tests⟩ := Workspace.prepare_read _ m _ _ files parsed prepared
              have staged : Staged request _ m files := ⟨parsed, prepared, code, tests⟩
              rw [run_staged g machine request _ m files staged]
              by_cases late : g.Overdue machine m files
              · rw [attended_overdue g machine m files late]
                exact .overdue m files due staged late
              · rw [attended_timely g machine m files late]
                exact .measured m files due staged late
    · rw [generate_undue g machine request due]
      exact .unmeasured due
  · intro finished
    cases finished with
    | unmeasured undue => exact generate_undue g machine request undue
    | refused refusal due parsed =>
        rw [generate_due g machine request due, run_refused g machine request _ refusal parsed]
        rfl
    | unwritable m e due parsed prepared =>
        rw [generate_due g machine request due, run_unwritable g machine request _ m e parsed prepared]
        rfl
    | overdue m files due staged late =>
        rw [generate_due g machine request due, run_staged g machine request _ m files staged,
          attended_overdue g machine m files late]
        rfl
    | measured m files due staged timely =>
        rw [generate_due g machine request due, run_staged g machine request _ m files staged,
          attended_timely g machine m files timely]
        rfl

variable {g machine request} {test : GeneratedTest}

theorem finished_answers {response : TestResponse}
    (finished : Finished g machine request test (.ok response)) (plain : test.coverageSummary = none) :
    ∃ summary, response.tests = [{ test with coverageSummary := summary }] ∧
      (summary ≠ none ↔ g.Due request) := by
  cases finished with
  | unmeasured undue => exact ⟨none, by rw [← plain], by simp [undue]⟩
  | measured m files due _ _ => exact ⟨_, rfl, by simp [due]⟩

theorem finished_breaks (breakdown : Breakdown) :
    Finished g machine request test (.error breakdown) ↔
      g.Due request ∧
        ((∃ refusal, ModulePath.parse request.filePath.toList = .error refusal ∧
            breakdown = .failure (.modulePath request.filePath refusal)) ∨
          (∃ m e, ModulePath.parse request.filePath.toList = .ok m ∧
            Workspace.prepare m request.code test.testCode = .error e ∧
            breakdown = .failure (.workspace e)) ∨
          ∃ m files, Staged request test.testCode m files ∧ g.Overdue machine m files ∧
            breakdown = .panic CoverageRun.overflowMessage) := by
  constructor
  · intro finished
    cases finished with
    | refused refusal due parsed => exact ⟨due, .inl ⟨refusal, parsed, rfl⟩⟩
    | unwritable m e due parsed prepared => exact ⟨due, .inr (.inl ⟨m, e, parsed, prepared, rfl⟩)⟩
    | overdue m files due staged late => exact ⟨due, .inr (.inr ⟨m, files, staged, late, rfl⟩)⟩
  · rintro ⟨due, ⟨refusal, parsed, rfl⟩ | ⟨m, e, parsed, prepared, rfl⟩ | ⟨m, files, staged, late, rfl⟩⟩
    · exact .refused refusal due parsed
    · exact .unwritable m e due parsed prepared
    · exact .overdue m files due staged late

end Files

/-- Test generation comes down to the scaffold and to nothing else. There is one test file for all machines:
the scaffold, with the code of the model behind it exactly when the model gives some. A model that gives
none is as one that is switched off, to the machine too. The file is run exactly when a run is due, in a
workspace that holds it and the module. Only then can the generation break down: over the path, over the
workspace, or because a program was started that may run until the clock ends. -/
theorem generate_degrades (g : TestGenerator) (request : TestRequest) :
    let scaffold := Scaffold.synthesize request.filePath request.code
    ∃ test : GeneratedTest,
      ((∀ code, ¬ g.Accepts request code) ∧ test = scaffold ∨
        ∃ code, g.Accepts request code ∧ Filed code ∧
          test = { scaffold with
            testCode := scaffold.testCode ++ "\n" ++ "# --- model-generated tests ---" ++ "\n" ++ code
            sources := .ofList [.staticAnalysis, .llm] }) ∧
      scaffold.sources = .ofList [.staticAnalysis] ∧
      (∀ machine result, (g.generate machine request).value = result ↔
        Finished g machine request test result) ∧
      ((∀ code, ¬ g.Accepts request code) → ∀ machine,
        Finished g.muted machine request test (g.muted.generate machine request).value ∧
          (g.generate machine request).value = (g.muted.generate machine request).value) ∧
      (∀ machine response, (g.generate machine request).value = .ok response →
        ∃ summary, response.tests = [{ test with coverageSummary := summary }] ∧
          (summary ≠ none ↔ g.Due request)) ∧
      (∀ machine breakdown, (g.generate machine request).value = .error breakdown ↔
        g.Due request ∧
          ((∃ refusal, ModulePath.parse request.filePath.toList = .error refusal ∧
              breakdown = .failure (.modulePath request.filePath refusal)) ∨
            (∃ m e, ModulePath.parse request.filePath.toList = .ok m ∧
              Workspace.prepare m request.code test.testCode = .error e ∧
              breakdown = .failure (.workspace e)) ∨
            ∃ m files, Staged request test.testCode m files ∧ g.Overdue machine m files ∧
              breakdown = .panic CoverageRun.overflowMessage)) := by
  intro scaffold
  have finishes := fun machine => generate_finished g machine request
  refine ⟨g.testFile request, ?form, rfl, finishes, ?silent, ?answers, ?breaks⟩
  case form =>
    by_cases accepted : ∃ code, g.Accepts request code
    · obtain ⟨code, accepts⟩ := accepted
      exact .inr ⟨code, accepts, accepts_filed g request code accepts,
        file_accepted g request code accepts⟩
    · have silent := not_exists.mp accepted
      exact .inl ⟨silent, file_silent g request silent⟩
  case silent =>
    intro silent machine
    -- both generators make the same file, and what follows looks at nothing else that differs
    have same : g.testFile request = g.muted.testFile request :=
      (file_silent g request silent).trans (file_silent g.muted request (muted_silent g request)).symm
    constructor
    · rw [same]
      exact (generate_finished g.muted machine request _).mp rfl
    · rw [generate_value, generate_value, same]
      rfl
  case answers =>
    intro machine response answered
    apply finished_answers ((finishes machine _).mp answered)
    cases outcome : (g.modelTests request).value <;> rw [testFile, outcome] <;> rfl
  case breaks =>
    intro machine breakdown
    rw [finishes, finished_breaks]

/-- A generator whose model answers with one line of code, and whose runs start the command `true`. -/
def answering (seconds : Nat) : TestGenerator where
  settings := { llmEnabled := true }
  coverage := { python := "true", timeout := seconds * 1000 }
  provider := some
    { name := "", model := "", embedderId := "", review := fun _ => .stalled
      tests := fun _ => .answer "TEST_FILE: t.py\nTEST_CODE:\nx", embed := fun _ => .ok [] }

def emptyModule (goal : Option String) : TestRequest :=
  { filePath := "a.py", code := "", coverageGoal := goal }

def answeredFile : GeneratedTest :=
  { Scaffold.synthesize "a.py" "" with
    testCode := (Scaffold.synthesize "a.py" "").testCode ++ "\n" ++ "# --- model-generated tests ---" ++
      "\n" ++ "x\n"
    sources := .ofList [.staticAnalysis, .llm] }

theorem answering_accepts (seconds : Nat) (goal : Option String) (code : String) :
    (answering seconds).Accepts (emptyModule goal) code ↔ code = "x\n" := by
  constructor
  · rintro ⟨-, provider, raw, answer, ⟨⟩, ⟨⟩, parsed, rfl⟩
    have known : parseTestAnswer "TEST_FILE: t.py\nTEST_CODE:\nx" =
        .ok { fileName := "t.py", code := "x\n" } := by decide
    cases known.symm.trans parsed
    rfl
  · rintro rfl
    exact ⟨rfl, _, _, { fileName := "t.py", code := "x\n" }, rfl, rfl, by decide, rfl⟩

theorem empty_module_staged (goal : Option String) :
    ∃ files, Staged (emptyModule goal) answeredFile.testCode ⟨[], "a.py".toList⟩ files := by
  have parsed : ModulePath.parse "a.py".toList = .ok ⟨[], "a.py".toList⟩ := by decide
  obtain ⟨files, prepared⟩ : ∃ files,
      Workspace.prepare ⟨[], "a.py".toList⟩ "" answeredFile.testCode = .ok files := ⟨_, rfl⟩
  obtain ⟨code, tests⟩ := Workspace.prepare_read _ _ _ _ files parsed prepared
  exact ⟨files, parsed, prepared, code, tests⟩

/-- The code of the model is heard on every machine. Where there is a command `true` a run of it is reported,
but with 2^63 - 1 seconds for it the generation panics. -/
theorem generate_degrades_answered :
    (∀ machine, ((answering 120).generate machine (emptyModule none)).value =
        .ok { tests := [answeredFile] }) ∧
      ((answering 120).generate Shell.Host.plain.machine (emptyModule (some "line"))).value =
        .ok { tests := [{ answeredFile with
          coverageSummary :=
            some "Pytest/coverage execution\nexit code: 0\n--- stdout ---\n\n--- stderr ---\n" }] } ∧
      ((answering 9223372036854775807).generate Shell.Host.plain.machine (emptyModule (some "line"))).value =
        .error (.panic CoverageRun.overflowMessage) := by
  -- there is one file for all of them
  have finishes : ∀ seconds goal machine result,
      ((answering seconds).generate machine (emptyModule goal)).value = result ↔
        Finished (answering seconds) machine (emptyModule goal) answeredFile result := by
    intro seconds goal
    obtain ⟨test, form, -, finishes, -⟩ := generate_degrades (answering seconds) (emptyModule goal)
    rcases form with ⟨silent, -⟩ | ⟨code, accepts, -, rfl⟩
    · exact absurd rfl ((answering_accepts seconds goal "x\n").not.mp (silent "x\n"))
    · obtain rfl := (answering_accepts seconds goal code).mp accepts
      exact finishes
  have due : ∀ seconds, (answering seconds).Due (emptyModule (some "line")) :=
    fun _ => .inl (Option.some_ne_none "line")
  obtain ⟨files, staged⟩ := empty_module_staged (some "line")
  refine ⟨fun machine => ?_, ?_, ?_⟩
  · exact (finishes 120 none machine _).mpr (.unmeasured (by simp [Due, answering, emptyModule]))
  · have timely : ¬ (answering 120).Overdue Shell.Host.plain.machine ⟨[], "a.py".toList⟩ files :=
      fun late => absurd late.2 (by decide)
    have ran := run_staged (answering 120) Shell.Host.plain.machine _ _ _ files staged
    rw [attended_timely _ _ _ files timely] at ran
    have summary : (CoverageRun.run Shell.Host.plain.machine (answering 120).coverage "a.py" ""
        answeredFile.testCode (some "line")).map CoverageReport.summary =
          .ok "Pytest/coverage execution\nexit code: 0\n--- stdout ---\n\n--- stderr ---\n" := by
      decide +kernel
    have told := Except.ok.inj ((congrArg (Except.map CoverageReport.summary) ran).symm.trans summary)
    rw [finishes, ← told]
    exact .measured _ files (due 120) staged timely
  · rw [finishes]
    exact .overdue _ files (due _) staged ⟨⟨_, rfl⟩, by decide⟩

end TestGenerator

end CodeReview
