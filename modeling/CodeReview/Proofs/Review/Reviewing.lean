import CodeReview.Engine.Service
import CodeReview.Proofs.Answer
import CodeReview.Proofs.Review.Merged

/-!
What a review answers and what it records. Its lint findings stand first and none is lost, whatever the
retrieval, the model and the sink do. What each of the stages makes of what it gets is said by a relation
with a case for every way it can go. The review is their composition.
-/

namespace CodeReview

/-- The findings of the linter about files, in their order. Only a file with new code has any. -/
def lintFindings (limit : Nat) : List FileDiff → List Finding
  | [] => []
  | d :: rest =>
      match d.newCode with
      | none => lintFindings limit rest
      | some code =>
          if code = "" then lintFindings limit rest
          else Lint.source limit d.filename code ++ lintFindings limit rest

inductive Retrieved (p : Pipeline) (files : Files) (slot : Slot) (request : ReviewRequest) :
    List Document → Prop
  | unset : p.retriever = none → Retrieved p files slot request []
  | blank : Text.trimmed (Pipeline.query request) = "" → Retrieved p files slot request []
  | found (retriever : Retriever) (documents : List Document) : p.retriever = some retriever →
      Text.trimmed (Pipeline.query request) ≠ "" →
      (retriever.retrieve files slot (Pipeline.query request) p.topK).value.2 =
        .ok (.success documents) →
      Retrieved p files slot request documents
  | degraded (retriever : Retriever) (reason : String) : p.retriever = some retriever →
      (retriever.retrieve files slot (Pipeline.query request) p.topK).value.2 =
        .ok (.degraded reason) →
      Retrieved p files slot request []
  | failed (retriever : Retriever) (failure : Failure) : p.retriever = some retriever →
      (retriever.retrieve files slot (Pipeline.query request) p.topK).value.2 = .error failure →
      Retrieved p files slot request []

inductive Suggested (p : Pipeline) (prompt : String) : List Finding → Prop
  | off : p.settings.suggestionsEnabled = false → Suggested p prompt []
  | unset : p.provider = none → Suggested p prompt []
  | failed (provider : Provider) (failure : Failure) : p.provider = some provider →
      provider.review prompt = .failed failure → Suggested p prompt []
  | stalled (provider : Provider) : p.provider = some provider →
      provider.review prompt = .stalled → Suggested p prompt []
  | unreadable (provider : Provider) (text : String) (e : AnswerError) :
      p.provider = some provider → provider.review prompt = .answer text →
      parseFindings text = .error e → Suggested p prompt []
  | read (provider : Provider) (text : String) (findings : List Finding) :
      p.settings.suggestionsEnabled = true → p.provider = some provider →
      provider.review prompt = .answer text → parseFindings text = .ok findings →
      Suggested p prompt (findings.map fun f => { f with model := some provider.model })

def Provider.Fails (provider : Provider) (prompt : String) : Prop :=
  ∀ text findings, provider.review prompt = .answer text → parseFindings text ≠ .ok findings

namespace Pipeline

def muted (p : Pipeline) : Pipeline :=
  { p with settings := { p.settings with suggestionsEnabled := false } }

def conduct (p : Pipeline) (sink : MetricsSink) (clock : Clock) (request : ReviewRequest)
    (s : Session) : Session × ReviewResponse :=
  Engine.emit sink (p.run clock s.files s.slot request).value s

end Pipeline

section Stages

variable (p : Pipeline) (request : ReviewRequest) (files : Files) (slot : Slot)

theorem lint_all_findings : p.lintAll request = lintFindings p.branchLimit request.diffs := by
  unfold Pipeline.lintAll
  induction request.diffs with
  | nil => rfl
  | cons d rest ih =>
      rw [List.flatMap_cons, ih]
      cases code : d.newCode with
      | none => simp [Pipeline.lintDiff, FileDiff.newText, lintFindings, code]
      | some text =>
          by_cases empty : text = "" <;>
            simp [Pipeline.lintDiff, FileDiff.newText, lintFindings, code, empty, Option.filter]

theorem context_retrieved :
    Retrieved p files slot request (p.context files slot request).value.2 := by
  unfold Pipeline.context
  split
  · next unset => exact .unset unset
  · next retriever set =>
      split
      · next blank => exact .blank (by simpa using blank)
      · next code =>
          have query : Text.trimmed (Pipeline.query request) ≠ "" := by simpa using code
          rw [asked_bind_value]
          split
          · next slot' documents result =>
              exact .found retriever documents set query (by rw [result])
          · next slot' reason result => exact .degraded retriever reason set (by rw [result])
          · next slot' failure result => exact .failed retriever failure set (by rw [result])

theorem suggest_suggested (lint : List Finding) (context : List Document) :
    Suggested p (reviewPrompt request lint context)
      ((p.suggest request lint context).value.getD []) := by
  unfold Pipeline.suggest
  split
  · next off => exact .off (by simpa using off)
  · next on =>
      have on : p.settings.suggestionsEnabled = true := by simpa using on
      split
      · next unset => exact .unset unset
      · next provider set =>
          simp only [asked_bind_value, asked_pure_value, Provider.askReview]
          cases reply : provider.review (reviewPrompt request lint context) with
          | failed failure => exact .failed provider failure set reply
          | stalled => exact .stalled provider set reply
          | answer text =>
              cases parsed : parseFindings text with
              | error e =>
                  simp only [Provider.awaited, Pipeline.readAnswer, parsed]
                  exact .unreadable provider text e set reply parsed
              | ok findings =>
                  simp only [Provider.awaited, Pipeline.readAnswer, parsed]
                  exact .read provider text findings on set reply parsed

/-- A provider that fails adds to a review what one does that is not asked. -/
theorem suggested_silent (prompt : String) (suggested : List Finding)
    (so : Suggested p prompt suggested)
    (fails : ∀ provider, p.provider = some provider → provider.Fails prompt) : suggested = [] := by
  cases so with
  | off | unset | failed | stalled | unreadable => rfl
  | read provider text findings on set reply parsed =>
      exact absurd parsed (fails provider set text findings reply)

theorem suggested_off (prompt : String) (suggested : List Finding)
    (so : Suggested p prompt suggested) (off : p.settings.suggestionsEnabled = false) :
    suggested = [] := by
  cases so with
  | off | unset | failed | stalled | unreadable => rfl
  | read provider text findings on => exact absurd (off.symm.trans on) Bool.false_ne_true

end Stages

section Composed

variable (p : Pipeline) (sink : MetricsSink) (clock : Clock) (request : ReviewRequest) (s : Session)

def reviewRecord (clock : Clock) (request : ReviewRequest) (findings : List Finding)
    (context : List Document) : ReviewMetrics :=
  { timestamp := clock.now, identifier := request.identifier, findingsCount := findings.length
    contextSources := context.map Document.source, duration := clock.elapsed }

/-- The service reviews with the pipeline of its settings. -/
theorem review_conducts (e : Engine) :
    (e.review clock request s).value = e.pipeline.conduct e.sink clock request s := rfl

theorem conduct_composes :
    ∃ context suggested, Retrieved p s.files s.slot request context ∧
      Suggested p (reviewPrompt request (lintFindings p.branchLimit request.diffs) context)
        suggested ∧
      (p.conduct sink clock request s).2.findings =
        merge (lintFindings p.branchLimit request.diffs ++ suggested) ∧
      let record := reviewRecord clock request (p.conduct sink clock request s).2.findings context
      let taken := sink.record record s.files s.records
      (p.conduct sink clock request s).1.files = taken.1 ∧
        (p.conduct sink clock request s).1.records = taken.2.1 := by
  have suggested := suggest_suggested p request (p.lintAll request)
    (p.context s.files s.slot request).value.2
  rw [lint_all_findings] at suggested
  refine ⟨_, _, context_retrieved p request s.files s.slot, suggested, ?_, rfl, rfl⟩
  rw [← lint_all_findings]
  rfl

theorem merge_identities_first (first more : List Finding) :
    ∃ others, (merge (first ++ more)).map Finding.identity =
      (first.map Finding.identity).eraseDups ++ others := by
  rw [merge_identities, List.map_append, List.eraseDups_append]
  exact ⟨_, rfl⟩

theorem conduct_off (off : p.settings.suggestionsEnabled = false) :
    (p.conduct sink clock request s).2 = ⟨merge (lintFindings p.branchLimit request.diffs)⟩ := by
  obtain ⟨context, suggested, -, added, found, -⟩ := conduct_composes p sink clock request s
  rw [suggested_off p _ suggested added off, List.append_nil] at found
  exact congrArg ReviewResponse.mk found

/-- A review loses no lint finding. Its response is the merger of the lint findings with what the model
adds, so the lint findings stand first, each as severe as it was or more. A model that fails adds nothing,
and then, as when no model is asked, retrieval, sink, clock and session have no say in the response. One
record is offered to the sink: it counts the findings of the response and names the documents of the
prompt. -/
theorem review_keeps_lint :
    let lint := lintFindings p.branchLimit request.diffs
    let response := (p.conduct sink clock request s).2
    let after := (p.conduct sink clock request s).1
    (∃ context suggested,
      Retrieved p s.files s.slot request context ∧
      Suggested p (reviewPrompt request lint context) suggested ∧
      response.findings = merge (lint ++ suggested) ∧
      (let record := reviewRecord clock request response.findings context
        let taken := sink.record record s.files s.records
        after.files = taken.1 ∧ after.records = taken.2.1 ∧
          (sink = .memory → after.records = s.records ++ [record])) ∧
      ((∀ provider, p.provider = some provider →
          provider.Fails (reviewPrompt request lint context)) →
        ∀ sink' clock' s', response = (p.muted.conduct sink' clock' request s').2)) ∧
      (∃ others, response.findings.map Finding.identity =
        (lint.map Finding.identity).eraseDups ++ others) ∧
      (∀ f ∈ lint, ∃ kept ∈ response.findings,
        kept.identity = f.identity ∧ f.severity.rank ≤ kept.severity.rank) ∧
      (∀ sink', (p.conduct sink' clock request s).2 = response) ∧
      (p.settings.suggestionsEnabled = false → ∀ retriever' topK' provider' sink' clock' s',
        let other := { p with retriever := retriever', topK := topK', provider := provider' }
        (other.conduct sink' clock' request s').2 = response) := by
  intro lint response after
  obtain ⟨context, suggested, retrieved, added, found, files, records⟩ :=
    conduct_composes p sink clock request s
  refine ⟨⟨context, suggested, retrieved, added, found, ⟨files, records, ?_⟩, ?_⟩, ?_, ?_, ?_, ?_⟩
  · rintro rfl
    exact records
  · intro fails sink' clock' s'
    rw [conduct_off p.muted sink' clock' request s' rfl]
    rw [suggested_silent p _ suggested added fails, List.append_nil] at found
    exact congrArg ReviewResponse.mk found
  · rw [found]
    exact merge_identities_first lint suggested
  · intro f member
    obtain ⟨kept, there, same, weaker⟩ :=
      merge_keeps (lint ++ suggested) f (List.mem_append_left suggested member)
    exact ⟨kept, found ▸ there, same, Nat.not_lt.mp weaker⟩
  · intro sink'
    rfl
  · intro off retriever' topK' provider' sink' clock' s' other
    rw [conduct_off other sink' clock' request s' off, ← conduct_off p sink clock request s off]

end Composed

end CodeReview
