import CodeReview.Proofs.Json.Numeral
import CodeReview.Proofs.Json.Spelling

/-!
The texts of a JSON value: everything in them is fixed but the blanks between the signs and the ways in
which the characters of strings are written. Both printers write such texts.
-/

namespace CodeReview.Json

def Blank (cs : List Char) : Prop := ∀ c ∈ cs, isSpace c = true

mutual

def Written : Json → List Char → Prop
  | .null, cs => cs = "null".toList
  | .bool true, cs => cs = "true".toList
  | .bool false, cs => cs = "false".toList
  | .integer n, cs => cs = (toString n).toList
  | .double d, cs => cs = (doubleText d).toList
  | .text s, cs => Quoted s cs
  | .list items, cs => ∃ body, WrittenItems items body ∧ cs = '[' :: body
  | .object members, cs => ∃ body, WrittenMembers members body ∧ cs = '\x7b' :: body

def WrittenItems : List Json → List Char → Prop
  | [], cs => ∃ gap, Blank gap ∧ cs = gap ++ [']']
  | [item], cs =>
      ∃ before text after, Blank before ∧ Blank after ∧ Written item text ∧
        cs = before ++ (text ++ (after ++ [']']))
  | item :: next :: rest, cs =>
      ∃ before text after more, Blank before ∧ Blank after ∧ Written item text ∧
        WrittenItems (next :: rest) more ∧ cs = before ++ (text ++ (after ++ ',' :: more))

def WrittenMembers : List (String × Json) → List Char → Prop
  | [], cs => ∃ gap, Blank gap ∧ cs = gap ++ ['\x7d']
  | [(name, value)], cs =>
      ∃ before quoted beforeColon afterColon text after, Blank before ∧ Quoted name quoted ∧
        Blank beforeColon ∧ Blank afterColon ∧ Blank after ∧ Written value text ∧
        cs = before ++ (quoted ++ (beforeColon ++ ':' :: (afterColon ++ (text ++
          (after ++ ['\x7d'])))))
  | (name, value) :: next :: rest, cs =>
      ∃ before quoted beforeColon afterColon text after more, Blank before ∧ Quoted name quoted ∧
        Blank beforeColon ∧ Blank afterColon ∧ Blank after ∧ Written value text ∧
        WrittenMembers (next :: rest) more ∧
        cs = before ++ (quoted ++ (beforeColon ++ ':' :: (afterColon ++ (text ++
          (after ++ ',' :: more)))))

end

section Printers

theorem blank_nil : Blank [] := by
  intro c member
  cases member

theorem blank_space : Blank [' '] := by
  intro c member
  rw [List.mem_singleton.mp member]
  rfl

theorem blank_new_line (depth : Nat) : Blank (newLine depth) := by
  intro c member
  rcases List.mem_cons.mp member with rfl | space
  · rfl
  · rw [(List.mem_replicate.mp space).2]
    rfl

mutual

theorem compact_written : ∀ j : Json, Written j (compactChars j)
  | .null | .bool true | .bool false | .integer _ | .double _ => rfl
  | .text s => quote_quoted s
  | .list items => ⟨_, compact_items_written items, rfl⟩
  | .object members => ⟨_, compact_members_written members, rfl⟩

theorem compact_items_written : ∀ items : List Json, WrittenItems items (compactItems items)
  | [] => ⟨[], blank_nil, rfl⟩
  | [item] => ⟨[], compactChars item, [], blank_nil, blank_nil, compact_written item, rfl⟩
  | item :: next :: rest =>
      ⟨[], compactChars item, [], _, blank_nil, blank_nil, compact_written item,
        compact_items_written (next :: rest), rfl⟩

theorem compact_members_written :
    ∀ members : List (String × Json), WrittenMembers members (compactMembers members)
  | [] => ⟨[], blank_nil, rfl⟩
  | [(name, value)] =>
      ⟨[], quote name, [], [], compactChars value, [], blank_nil, quote_quoted name, blank_nil,
        blank_nil, blank_nil, compact_written value, rfl⟩
  | (name, value) :: next :: rest =>
      ⟨[], quote name, [], [], compactChars value, [], _, blank_nil, quote_quoted name, blank_nil,
        blank_nil, blank_nil, compact_written value, compact_members_written (next :: rest), rfl⟩

end

mutual

theorem pretty_written (depth : Nat) : ∀ j : Json, Written j (prettyChars depth j)
  | .null | .bool true | .bool false | .integer _ | .double _ => rfl
  | .text s => quote_quoted s
  | .list [] => ⟨[']'], ⟨[], blank_nil, rfl⟩, rfl⟩
  | .list (item :: rest) =>
      ⟨_, pretty_items_written (depth + 1) (item :: rest) (List.cons_ne_nil _ _), rfl⟩
  | .object [] => ⟨['\x7d'], ⟨[], blank_nil, rfl⟩, rfl⟩
  | .object (member :: rest) =>
      ⟨_, pretty_members_written (depth + 1) (member :: rest) (List.cons_ne_nil _ _), rfl⟩

theorem pretty_items_written (depth : Nat) :
    ∀ items : List Json, items ≠ [] → WrittenItems items (prettyItems depth items)
  | [], nonempty => absurd rfl nonempty
  | [item], _ =>
      ⟨newLine depth, prettyChars depth item, newLine (depth - 1), blank_new_line _, blank_new_line _,
        pretty_written depth item, by simp [prettyItems]⟩
  | item :: next :: rest, _ =>
      ⟨newLine depth, prettyChars depth item, [], _, blank_new_line _, blank_nil,
        pretty_written depth item,
        pretty_items_written depth (next :: rest) (List.cons_ne_nil _ _), by simp [prettyItems]⟩

theorem pretty_members_written (depth : Nat) :
    ∀ members : List (String × Json), members ≠ [] →
      WrittenMembers members (prettyMembers depth members)
  | [], nonempty => absurd rfl nonempty
  | [(name, value)], _ =>
      ⟨newLine depth, quote name, [], [' '], prettyChars depth value, newLine (depth - 1),
        blank_new_line _, quote_quoted name, blank_nil, blank_space, blank_new_line _,
        pretty_written depth value,
        by simp [prettyMembers]⟩
  | (name, value) :: next :: rest, _ =>
      ⟨newLine depth, quote name, [], [' '], prettyChars depth value, [], _, blank_new_line _,
        quote_quoted name, blank_nil, blank_space, blank_nil, pretty_written depth value,
        pretty_members_written depth (next :: rest) (List.cons_ne_nil _ _),
        by simp [prettyMembers]⟩

end

end Printers

end CodeReview.Json
