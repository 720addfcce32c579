import CodeReview.Config.Document
import CodeReview.Proofs.Answer

/-!
What an environment makes of settings. Eight variables can say something, each about one field; the settings
under an environment are the old ones with these fields overlaid. Two of the variables can be refused, and
then the fields of the variables before the refused one are overlaid and no others. Settings with which
something can run stay so, because no variable is about the numbers that have to be positive.
-/

namespace CodeReview.Settings

def plain (value : String) : String := Text.lowerCase (Text.trimmed value)

def mockWords : List String := ["mock"]

def openAiWords : List String := ["openai", "open_ai"]

def trueWords : List String := ["1", "true", "yes", "on"]

def falseWords : List String := ["0", "false", "no", "off", ""]

def KindKnown (e : Environment) : Prop :=
  ∀ name ∈ e "DEVINSIGHT_PROVIDER", plain name ∈ mockWords ++ openAiWords

def FlagKnown (e : Environment) : Prop :=
  ∀ flag ∈ e "DEVINSIGHT_SUGGESTIONS", plain flag ∈ trueWords ++ falseWords

/-- None of the four numbers is zero without which nothing can run. -/
structure Usable (s : Settings) : Prop where
  topK : s.retrieval.topK ≠ 0
  batch : s.retrieval.embedBatchSize ≠ 0
  chunk : s.retrieval.chunkMaxChars ≠ 0
  dim : s.provider.mockDim ≠ 0

def kindOf (name : String) : ProviderKind := if plain name ∈ mockWords then .mock else .openAi

def keyOf (key : String) : Option String := if key.isEmpty then none else some key

def flagOf (flag : String) : Bool := decide (plain flag ∈ trueWords)

section Fields

variable (e : Environment)

/-- What a field holds under an environment: what its variable says when it is set, else what it held. -/
def said {α : Type} (name : String) (read : String → α) (old : α) : α := (e name).elim old read

def overlaidProvider (p : ProviderSettings) : ProviderSettings :=
  { p with
    kind := said e "DEVINSIGHT_PROVIDER" kindOf p.kind
    apiKey := said e "DEVINSIGHT_API_KEY" keyOf p.apiKey
    model := said e "DEVINSIGHT_MODEL" id p.model
    embeddingModel := said e "DEVINSIGHT_EMBEDDING_MODEL" id p.embeddingModel
    apiBase := said e "DEVINSIGHT_API_BASE" id p.apiBase }

def overlaid (s : Settings) : Settings :=
  { s with
    provider := overlaidProvider e s.provider
    retrieval := { s.retrieval with indexDir := said e "DEVINSIGHT_INDEX_DIR" id s.retrieval.indexDir }
    metrics := { s.metrics with path := said e "DEVINSIGHT_METRICS_PATH" id s.metrics.path }
    review := { s.review with
      suggestionsEnabled := said e "DEVINSIGHT_SUGGESTIONS" flagOf s.review.suggestionsEnabled } }

theorem said_twice {α : Type} (name : String) (read : String → α) (old : α) :
    said e name read (said e name read old) = said e name read old := by
  rw [said, said]
  cases e name <;> rfl

theorem overlaid_twice (s : Settings) : overlaid e (overlaid e s) = overlaid e s := by
  simp only [overlaid, overlaidProvider, said_twice]

end Fields

section Words

theorem kind_named (normal : String) :
    ProviderKind.ofName? normal =
      if normal ∈ mockWords then some .mock
      else if normal ∈ openAiWords then some .openAi else none := by
  unfold ProviderKind.ofName?
  split
  · rfl
  · rfl
  · rfl
  · next mock openAi open_ai =>
      have neither : normal ∉ mockWords ∧ normal ∉ openAiWords := by
        simp only [mockWords, openAiWords, List.mem_cons, List.not_mem_nil, or_false, not_or]
        exact ⟨mock, openAi, open_ai⟩
      rw [if_neg neither.1, if_neg neither.2]

theorem parse_kind_known {name : String} (known : plain name ∈ mockWords ++ openAiWords) :
    ProviderKind.parse name = .ok (kindOf name) := by
  rw [ProviderKind.parse, ← plain, kind_named, kindOf]
  by_cases mock : plain name ∈ mockWords
  · simp only [if_pos mock]
  · have openAi := (List.mem_append.mp known).resolve_left mock
    simp only [if_neg mock, if_pos openAi]

theorem parse_kind_unknown {name : String} (unknown : plain name ∉ mockWords ++ openAiWords) :
    ProviderKind.parse name =
      .error (.invalidSetting "provider.kind" ("unknown provider '" ++ plain name ++ "'")) := by
  obtain ⟨mock, openAi⟩ := not_or.mp fun either => unknown (List.mem_append.mpr either)
  rw [ProviderKind.parse, ← plain, kind_named]
  simp only [if_neg mock, if_neg openAi]

theorem flag_word {word : String} (name flag : String) (said : plain flag = word)
    (known : word ∈ trueWords ++ falseWords) :
    parseFlag name flag = .ok (decide (word ∈ trueWords)) := by
  rw [parseFlag, ← plain, said]
  simp only [trueWords, falseWords, List.cons_append, List.nil_append, List.mem_cons, List.not_mem_nil,
    or_false] at known
  rcases known with rfl | rfl | rfl | rfl | rfl | rfl | rfl | rfl | rfl <;> rfl

theorem parse_flag_known {name flag : String} (known : plain flag ∈ trueWords ++ falseWords) :
    parseFlag name flag = .ok (flagOf flag) :=
  flag_word name flag rfl known

theorem parse_flag_unknown {name flag : String} (unknown : plain flag ∉ trueWords ++ falseWords) :
    parseFlag name flag =
      .error (.invalidSetting name ("expected a boolean, got '" ++ plain flag ++ "'")) := by
  have apart : ∀ word ∈ trueWords ++ falseWords, plain flag ≠ word := by
    rintro word known rfl
    exact unknown known
  rw [parseFlag, ← plain]
  split
  case h_10 => rfl
  all_goals
    next said => exact absurd said (apart _ (by decide))

end Words

section Runs

variable {e : Environment} {s changed : Settings} {o : Override} {rest : List Override}

theorem run_taken (taken : (e o.name).elim (.ok s) (o.change s) = .ok changed) :
    applyAll e s (o :: rest) = applyAll e changed rest := by
  rw [applyAll]
  cases set : e o.name with
  | none =>
      rw [set] at taken
      cases taken
      rfl
  | some value =>
      rw [set, Option.elim_some] at taken
      simp only [taken]

/-- A variable that is refused ends it, and leaves the settings as they are by then. -/
theorem run_refused {value : String} {refusal : Failure} (set : e o.name = some value)
    (refused : o.change s value = .error refusal) :
    applyAll e s (o :: rest) = (s, .error refusal) := by
  rw [applyAll, set]
  simp only [refused]

theorem said_taken {α : Type} (name : String) (read : String → α) (get : Settings → α)
    (put : Settings → α → Settings) (kept : put s (get s) = s) :
    (e name).elim (.ok s) (fun value => .ok (put s (read value))) =
      (.ok (put s (said e name read (get s))) : Except Failure Settings) := by
  rw [said]
  cases e name with
  | none => rw [Option.elim_none, Option.elim_none, kept]
  | some value => rfl

theorem kind_taken (known : KindKnown e) :
    (e "DEVINSIGHT_PROVIDER").elim (.ok s) (setKind s) =
      .ok { s with provider := { s.provider with
        kind := said e "DEVINSIGHT_PROVIDER" kindOf s.provider.kind } } := by
  unfold KindKnown at known
  rw [said]
  cases set : e "DEVINSIGHT_PROVIDER" with
  | none => rfl
  | some name =>
      rw [Option.elim_some, Option.elim_some, setKind, parse_kind_known (known name set)]
      rfl

theorem flag_taken (known : FlagKnown e) :
    (e "DEVINSIGHT_SUGGESTIONS").elim (.ok s) (setSuggestions s) =
      .ok { s with review := { s.review with
        suggestionsEnabled := said e "DEVINSIGHT_SUGGESTIONS" flagOf s.review.suggestionsEnabled } } := by
  unfold FlagKnown at known
  rw [said]
  cases set : e "DEVINSIGHT_SUGGESTIONS" with
  | none => rfl
  | some flag =>
      rw [Option.elim_some, Option.elim_some, setSuggestions, parse_flag_known (known flag set)]
      rfl

/-- All variables before the last one are passed when the provider is known. -/
theorem run_front (s : Settings) (known : KindKnown e) :
    s.applyEnvironment e =
      applyAll e { overlaid e s with review := s.review }
        [⟨"DEVINSIGHT_SUGGESTIONS", setSuggestions⟩] := by
  rw [applyEnvironment, overrides]
  -- The variables in the order in which they are read, each with the field it is about.
  refine (run_taken (kind_taken known)).trans ?_
  refine (run_taken (said_taken _ keyOf (·.provider.apiKey)
    (fun s apiKey => { s with provider := { s.provider with apiKey } }) rfl)).trans ?_
  refine (run_taken (said_taken _ id (·.provider.model)
    (fun s model => { s with provider := { s.provider with model } }) rfl)).trans ?_
  refine (run_taken (said_taken _ id (·.provider.embeddingModel)
    (fun s embeddingModel => { s with provider := { s.provider with embeddingModel } }) rfl)).trans ?_
  refine (run_taken (said_taken _ id (·.provider.apiBase)
    (fun s apiBase => { s with provider := { s.provider with apiBase } }) rfl)).trans ?_
  refine (run_taken (said_taken _ id (·.retrieval.indexDir)
    (fun s indexDir => { s with retrieval := { s.retrieval with indexDir } }) rfl)).trans ?_
  exact run_taken (said_taken _ id (·.metrics.path)
    (fun s path => { s with metrics := { s.metrics with path } }) rfl)

end Runs

section Checks

variable {e : Environment} {s : Settings}

theorem validate_usable : s.validate = .ok () ↔ Usable s := by
  rw [validate]
  dsimp only
  constructor
  · intro ends
    repeat' split at ends
    case isFalse topK batch chunk dim => exact ⟨topK, batch, chunk, dim⟩
    all_goals cases ends
  · rintro ⟨topK, batch, chunk, dim⟩
    rw [if_neg topK, if_neg batch, if_neg chunk, if_neg dim]

theorem overlaid_validate : (overlaid e s).validate = s.validate := rfl

theorem run_unknown_kind {name : String} (set : e "DEVINSIGHT_PROVIDER" = some name)
    (unknown : plain name ∉ mockWords ++ openAiWords) :
    s.applyEnvironment e =
      (s, .error (.invalidSetting "provider.kind" ("unknown provider '" ++ plain name ++ "'"))) := by
  rw [applyEnvironment, overrides]
  have refused : setKind s name =
      .error (.invalidSetting "provider.kind" ("unknown provider '" ++ plain name ++ "'")) := by
    rw [setKind, parse_kind_unknown unknown]
    rfl
  exact run_refused set refused

theorem run_unknown_flag (known : KindKnown e) {flag : String}
    (set : e "DEVINSIGHT_SUGGESTIONS" = some flag) (unknown : plain flag ∉ trueWords ++ falseWords) :
    s.applyEnvironment e =
      ({ overlaid e s with review := s.review },
        .error (.invalidSetting "DEVINSIGHT_SUGGESTIONS"
          ("expected a boolean, got '" ++ plain flag ++ "'"))) := by
  have refused (front : Settings) : setSuggestions front flag =
      .error (.invalidSetting "DEVINSIGHT_SUGGESTIONS"
        ("expected a boolean, got '" ++ plain flag ++ "'")) := by
    rw [setSuggestions, parse_flag_unknown unknown]
    rfl
  rw [run_front s known]
  exact run_refused set (refused _)

theorem run_known (kind : KindKnown e) (flag : FlagKnown e) :
    s.applyEnvironment e = (overlaid e s, s.validate) := by
  rw [run_front s kind]
  exact run_taken (flag_taken flag)

theorem run_ok_iff : (s.applyEnvironment e).2 = .ok () ↔ KindKnown e ∧ FlagKnown e ∧ Usable s := by
  constructor
  · intro ends
    -- Had one of the two said something unknown, the run would have ended there.
    have kind : KindKnown e := by
      intro name set
      refine Decidable.byContradiction fun unknown => ?_
      rw [run_unknown_kind set unknown] at ends
      cases ends
    have flag : FlagKnown e := by
      intro flag set
      refine Decidable.byContradiction fun unknown => ?_
      rw [run_unknown_flag kind set unknown] at ends
      cases ends
    rw [run_known kind flag] at ends
    exact ⟨kind, flag, validate_usable.mp ends⟩
  · rintro ⟨kind, flag, usable⟩
    rw [run_known kind flag]
    exact validate_usable.mpr usable

/-- Settings that a program starts with are the overlaid ones of a run that ended well. -/
theorem resolve_ok {files : Files} {path : Option String} {found : Settings}
    (resolved : resolve files path e = .ok found) :
    ∃ start : Settings, start.applyEnvironment e = (found, .ok ()) := by
  have ended (start : Settings)
      (ends : (do (start.applyEnvironment e).2; return (start.applyEnvironment e).1) =
        (.ok found : Except Failure Settings)) :
      start.applyEnvironment e = (found, .ok ()) := by
    obtain ⟨_, fine, same⟩ := bind_ok ends
    rw [← Except.ok.inj same, ← fine]
  cases path with
  | none => exact ⟨{}, ended {} resolved⟩
  | some path =>
      obtain ⟨start, -, ends⟩ := bind_ok resolved
      exact ⟨start, ended start ends⟩

end Checks

/-- Each variable that is set decides its field and nothing else does. A provider that is unknown leaves all
as it was, a flag that says nothing leaves only suggestions as they were, and the numbers are checked behind
both; there is no other way to fail, and the same environment once more makes no difference. -/
theorem environment_overlaid (e : Environment) :
    (∀ s : Settings, ∀ name ∈ e "DEVINSIGHT_PROVIDER", plain name ∉ mockWords ++ openAiWords →
      s.applyEnvironment e =
        (s, .error (.invalidSetting "provider.kind" ("unknown provider '" ++ plain name ++ "'")))) ∧
    (∀ s : Settings, KindKnown e →
      ∀ flag ∈ e "DEVINSIGHT_SUGGESTIONS", plain flag ∉ trueWords ++ falseWords →
      s.applyEnvironment e =
        ({ overlaid e s with review := s.review },
          .error (.invalidSetting "DEVINSIGHT_SUGGESTIONS"
            ("expected a boolean, got '" ++ plain flag ++ "'")))) ∧
    (∀ s : Settings, KindKnown e → FlagKnown e → s.applyEnvironment e = (overlaid e s, s.validate)) ∧
    (∀ s : Settings,
      (s.applyEnvironment e).2 = .ok () ↔ KindKnown e ∧ FlagKnown e ∧ Usable s) ∧
    (∀ s : Settings, (s.applyEnvironment e).2 = .ok () →
      (overlaid e s).validate = .ok () ∧
        (overlaid e s).applyEnvironment e = (overlaid e s, .ok ())) ∧
    ∀ (files : Files) (path : Option String) (found : Settings),
      resolve files path e = .ok found → Usable found := by
  refine ⟨fun s name set unknown => run_unknown_kind set unknown,
    fun s kind flag set unknown => run_unknown_flag kind set unknown,
    fun s kind flag => run_known kind flag, fun s => run_ok_iff, ?_, ?_⟩
  · intro s ends
    obtain ⟨kind, flag, usable⟩ := run_ok_iff.mp ends
    have fine : s.validate = .ok () := validate_usable.mpr usable
    refine ⟨fine, ?_⟩
    rw [run_known kind flag, overlaid_twice, overlaid_validate, fine]
  · intro files path found resolved
    obtain ⟨start, run⟩ := resolve_ok resolved
    obtain ⟨kind, flag, usable⟩ := run_ok_iff.mp (congrArg Prod.snd run)
    rw [run_known kind flag] at run
    have same : overlaid e start = found := congrArg Prod.fst run
    rw [← same]
    exact ⟨usable.topK, usable.batch, usable.chunk, usable.dim⟩

def mixed (flag : String) : Environment := fun name =>
  if name = "DEVINSIGHT_PROVIDER" then some " OpenAI\n"
  else if name = "DEVINSIGHT_API_KEY" then some ""
  else if name = "DEVINSIGHT_SUGGESTIONS" then some flag else none

/-- With a flag that says nothing the key is gone all the same; with one that says yes a program starts. -/
theorem environment_overlaid_mixed :
    KindKnown (mixed "Maybe") ∧ "Maybe" ∈ mixed "Maybe" "DEVINSIGHT_SUGGESTIONS" ∧
      plain "Maybe" ∉ trueWords ++ falseWords ∧
      applyEnvironment { provider := { apiKey := some "old" } } (mixed "Maybe") =
        ({ provider := { kind := .openAi } },
          .error (.invalidSetting "DEVINSIGHT_SUGGESTIONS" "expected a boolean, got 'maybe'")) ∧
      resolve {} none (mixed "ON ") =
        .ok { provider := { kind := .openAi }, review := { suggestionsEnabled := true } } ∧
      Usable { provider := { kind := .openAi }, review := { suggestionsEnabled := true } } := by
  obtain ⟨-, refused, -⟩ := environment_overlaid (mixed "Maybe")
  obtain ⟨-, -, taken, -, -, started⟩ := environment_overlaid (mixed "ON ")
  have kind (flag : String) : KindKnown (mixed flag) := by
    rintro _ ⟨⟩
    decide
  have flag : FlagKnown (mixed "ON ") := by
    rintro _ ⟨⟩
    decide
  have spelled : plain "Maybe" = "maybe" := by decide
  have unknown : plain "Maybe" ∉ trueWords ++ falseWords := by
    rw [spelled]
    decide
  have state : { overlaid (mixed "Maybe") { provider := { apiKey := some "old" } } with review := {} } =
      ({ provider := { kind := .openAi } } : Settings) := by decide
  have switched : overlaid (mixed "ON ") {} =
      ({ provider := { kind := .openAi }, review := { suggestionsEnabled := true } } : Settings) := by
    decide
  have resolved : resolve {} none (mixed "ON ") =
      .ok { provider := { kind := .openAi }, review := { suggestionsEnabled := true } } := by
    change (do (applyEnvironment {} (mixed "ON ")).2; return (applyEnvironment {} (mixed "ON ")).1) = _
    rw [taken {} (kind _) flag, switched]
    rfl
  refine ⟨kind _, rfl, unknown, ?_, resolved, started _ _ _ resolved⟩
  rw [refused _ (kind _) "Maybe" rfl unknown, spelled]
  exact congrArg (fun s : Settings => (s, _)) state

end CodeReview.Settings
