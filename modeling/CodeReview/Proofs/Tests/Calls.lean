import CodeReview.Proofs.Python.Positional
import CodeReview.Proofs.Tests.ScaffoldFile

/-!
The calls of a scaffold. Each test calls its function once, with a value for each parameter that stands before
the first star of the function and with nothing else.
-/

namespace CodeReview.Scaffold

open Text Python

section Lines

def calledText? (line : String) : Option String :=
  (dropLead? line.toList "    result = module.".toList).map String.ofList

def callText (s : Signature) : String :=
  s.name ++ "(" ++ ", ".intercalate (s.args.map (· ++ "_value")) ++ ")"

def calledTexts (lines : List String) : List String := lines.filterMap calledText?

variable {s : Signature} {line : String}

theorem other_line (other : ¬ "    result = module.".toList <+: line.toList) : calledText? line = none := by
  rw [calledText?, no_lead other, Option.map_none]

theorem indented_line (other : ¬ "result = module.".toList <+: line.toList) : calledText? (indented line) = none := by
  apply other_line
  rw [indented, String.toList_append]
  exact fun lead => other ((List.prefix_append_right_inj "    ".toList).mp lead)

theorem value_line_other {arg : String} (named : IsIdentifier arg) :
    calledText? (indented (arg ++ "_value = " ++ placeholder arg)) = none := by
  refine indented_line fun ⟨rest, same⟩ => ?_
  have names : ∀ c ∈ (arg ++ "_value").toList, isNameChar c = true := (value_plain named).word.names
  have text : "result".toList ++ (" = module.".toList ++ rest) =
      (arg ++ "_value").toList ++ (" = ".toList ++ (placeholder arg).toList) := by
    simpa [String.toList_append] using same
  have word : IsWord "result".toList := by decide
  obtain ⟨result, -⟩ := lead_same word.names names (by rintro _ ⟨⟩; decide) (by rintro _ ⟨⟩; decide) text
  have absent : arg ++ "_value" ∉ ["result"] := ending_absent arg (by decide)
  exact absent (List.mem_singleton.mpr (String.toList_inj.mp result.symm))

theorem call_line (s : Signature) : calledText? (indented ("result = module." ++ s.name ++ "(" ++
    ", ".intercalate (s.args.map (· ++ "_value")) ++ ")")) = some (callText s) := by
  have text : (indented ("result = module." ++ s.name ++ "(" ++
      ", ".intercalate (s.args.map (· ++ "_value")) ++ ")")).toList =
        "    result = module.".toList ++ (callText s).toList := by
    simp [indented, callText, String.toList_append]
  rw [calledText?, text, drop_lead, Option.map_some, String.ofList_toList]

theorem called_append (first rest : List String) :
    calledTexts (first ++ rest) = calledTexts first ++ calledTexts rest := List.filterMap_append

theorem called_none {lines : List String} (none : ∀ line ∈ lines, calledText? line = none) :
    calledTexts lines = [] := List.filterMap_eq_nil_iff.mpr none

/-- A test has one call. -/
theorem test_calls (edgeCases : List EdgeCase) (named : s.Named) :
    calledTexts (testLines edgeCases s) = [callText s] := by
  have head : calledText? ("def test_" ++ s.name ++ "_returns_value():") = none := by
    rw [calledText?, test_head_text]
    rfl
  have values : calledTexts ((s.args.map fun arg => arg ++ "_value = " ++ placeholder arg).map indented) = [] := by
    refine called_none fun line member => ?_
    rw [List.map_map] at member
    obtain ⟨arg, listed, rfl⟩ := List.mem_map.mp member
    exact value_line_other (named.args arg listed)
  have calls : calledTexts (["result = module." ++ s.name ++ "(" ++
      ", ".intercalate (s.args.map (· ++ "_value")) ++ ")", "assert result is not None"].map indented) =
        [callText s] := List.filterMap_cons_some (call_line s)
  have note (text : String) : calledTexts [indented ("# Edge cases noted: " ++ text)] = [] := by
    refine called_none fun line member => ?_
    rw [List.mem_singleton.mp member, calledText?, indented, String.toList_append, String.toList_append]
    rfl
  rw [testLines, calledTexts, List.filterMap_cons_none head, ← calledTexts, bodyLines, called_append,
    List.map_append, called_append, List.map_append, called_append, values, calls, List.nil_append]
  refine congrArg (List.cons (callText s)) ?_
  split
  · decide
  · exact congrArg (· ++ calledTexts [""]) (note _)

/-- The calls of a scaffold are those of the functions of the source, in order. -/
theorem scaffold_calls (path code : String) :
    calledTexts (scaffoldLines path code) = (analyze code).signatures.map callText := by
  have tests {ss : List Signature} (edgeCases : List EdgeCase) (named : ∀ s ∈ ss, s.Named) :
      calledTexts (ss.flatMap (testLines edgeCases)) = ss.map callText := by
    induction ss with
    | nil => rfl
    | cons s ss ih =>
        obtain ⟨first, later⟩ := List.forall_mem_cons.mp named
        rw [List.flatMap_cons, called_append, test_calls edgeCases first, ih later]
        rfl
  have heading (name : String) : calledTexts ["import importlib", "import pytest",
      "module = importlib.import_module('" ++ name ++ "')", ""] = [] := by
    have third : calledText? ("module = importlib.import_module('" ++ name ++ "')") = none := by
      rw [calledText?, String.toList_append, String.toList_append]
      rfl
    rw [calledTexts, List.filterMap_cons_none rfl, List.filterMap_cons_none rfl,
      List.filterMap_cons_none third, List.filterMap_cons_none rfl, List.filterMap_nil]
  rw [scaffoldLines, fileLines, called_append, heading, List.nil_append]
  split
  · next none =>
      rw [List.isEmpty_iff.mp none]
      decide
  · exact tests _ (signatures_named code)

end Lines

section Positional

/-- A list of parameters between the parentheses of a function is read as its parameters in order, and the
signature has the names of those before the first star; comments, marks and groups among them are passed over,
and what stands behind the star is free. This holds of every function of every source, and the call that the
scaffold makes of it has a value for each of these names. -/
theorem positional_before_star {name : String} (named : IsIdentifier name) {column : Nat} {list : List Char}
    {items : List Item} (text : ListText (Frame.line column).middle.inside list items) :
    (∀ tail row, ∃ row', Cursor.parameters ⟨list ++ ')' :: tail, row⟩ (Frame.line column).middle =
      some (items.filterMap Item.parameter?, ⟨tail, row'⟩)) ∧
    (∀ tail row line, (∀ d ∈ tail.head?, d ≠ '=' ∧ d ≠ ':') → ∃ row',
      Cursor.functionHead ⟨' ' :: (name.toList ++ '(' :: (list ++ ')' :: ':' :: tail)), row⟩
        (Frame.line column).middle line =
          some ⟨⟨name, items.filterMap Item.parameter?, line + 1⟩, ⟨tail, row'⟩⟩) ∧
    Signs column list ⟨name, namesBefore items⟩ ∧
    (∀ front star more more' list', items = front ++ star :: more → star.isStar = true →
      ListText (Frame.line column).middle.inside list' (front ++ star :: more') →
      Signs column list' ⟨name, namesBefore items⟩) ∧
    (column = 0 → ∀ tail path code,
      code.toList = "def ".toList ++ (name.toList ++ '(' :: (list ++ ')' :: tail)) →
      (analyze code).parsed = true →
      (analyze code).signatures.head? = some ⟨name, namesBefore items⟩ ∧
      (calledTexts (scaffoldLines path code)).head? = some (callText ⟨name, namesBefore items⟩)) ∧
    ∀ path code,
      (synthesize path code).testCode = fileText (scaffoldLines path code) ∧
      calledTexts (scaffoldLines path code) = (analyze code).signatures.map callText ∧
      ∀ trees, readModule code.toList = some trees →
        (analyze code).signatures = (moduleTree trees).functions.map fun a =>
          ⟨a.definition.name, namesBefore (a.definition.parameters.map .parameter)⟩ := by
  refine ⟨list_read text, ?_, function_signs named text, ?_, ?_, fun path code => ?_⟩
  · intro tail row line alone
    exact head_reads named text alone row line
  · rintro front star more more' list' rfl stops other
    rw [names_before_star front stops more more']
    exact function_signs named other
  · rintro rfl tail path code begins parsed
    have first := module_signs (function_signs named text) begins parsed
    refine ⟨first, ?_⟩
    rw [scaffold_calls, List.head?_map, first]
    rfl
  · exact ⟨rfl, scaffold_calls path code, fun trees read => signatures_before read⟩

theorem positional_before_star_mixed :
    IsIdentifier "f" ∧
      ListText (Frame.line 0).middle.inside "a, # one\n b: int = x, /, (c, d), *, e".toList
        [.parameter (.plain "a"), .comment " one".toList, .parameter (.typedDefault "b"), .parameter .slash,
          .parameter .group, .parameter .star, .parameter (.plain "e")] ∧
      (analyze "def f(a, # one\n b: int = x, /, (c, d), *, e): pass").parsed = true ∧
      (analyze "def f(a, # one\n b: int = x, /, (c, d), *, e): pass").signatures.head? = some ⟨"f", ["a", "b"]⟩ ∧
      (calledTexts (scaffoldLines "m.py" "def f(a, # one\n b: int = x, /, (c, d), *, e): pass")).head? =
        some "f(a_value, b_value)" := by
  have inside := inside_bracketed (Frame.line 0).middle
  have plain {w : String} (identifier : IsIdentifier w) :=
    ParameterText.named identifier (.none : TypeText (Frame.line 0).middle.inside false []) .none
  have typed := ParameterText.named (show IsIdentifier "b" by decide)
    (.typed [] (word_type inside 1 (identifier_plain (w := "int") (by decide))))
    (.given [.layout ' ' rfl] (word_value inside 1 (identifier_plain (w := "x") (by decide))))
  have words : ∀ w ∈ ["c", "d"], PlainWord w := fun w member =>
    identifier_plain ((show ∀ w ∈ ["c", "d"], IsIdentifier w by decide) w member)
  have text := ListText.more [] [] (plain (w := "a") (by decide)) <|
    .more [.layout ' ' rfl, .comment " one".toList (by decide), .layout ' ' rfl] [] typed <|
    .more [.layout ' ' rfl] [] .slash <|
    .more [.layout ' ' rfl] [] (.group (words_group _ words) .none) <|
    .more [.layout ' ' rfl] [] .star <|
    .last [.layout ' ' rfl] [] (plain (w := "e") (by decide))
  have parsed : (analyze "def f(a, # one\n b: int = x, /, (c, d), *, e): pass").parsed = true := by decide +kernel
  obtain ⟨-, -, -, -, first, -⟩ := positional_before_star (show IsIdentifier "f" by decide) text
  obtain ⟨signature, call⟩ := first rfl ": pass".toList "m.py" _ rfl parsed
  exact ⟨by decide, text, parsed, signature, call⟩

end Positional

end CodeReview.Scaffold
