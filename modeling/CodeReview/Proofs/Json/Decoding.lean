import CodeReview.Json.Decode
import CodeReview.Proofs.Answer
import CodeReview.Proofs.Json.Scanning

/-!
What decoders make of the scans of written texts. A value whose members are sorted, with no other numbers
than integers of sixty-four bits, comes back as it was.
-/

namespace CodeReview

section Kinds

def Ascending (members : List (String × Json)) : Prop :=
  members.Pairwise fun earlier later => earlier.1 < later.1

mutual

def Json.Integral : Json → Prop
  | .null | .bool _ | .text _ => True
  | .integer n => - 2 ^ 63 ≤ n ∧ n < 2 ^ 64
  | .double _ => False
  | .list items => Json.IntegralItems items
  | .object members => Json.IntegralMembers members

def Json.IntegralItems : List Json → Prop
  | [] => True
  | item :: rest => item.Integral ∧ Json.IntegralItems rest

def Json.IntegralMembers : List (String × Json) → Prop
  | [] => True
  | (_, value) :: rest => value.Integral ∧ Json.IntegralMembers rest

end

mutual

def Json.Sorted : Json → Prop
  | .list items => Json.SortedItems items
  | .object members => Ascending members ∧ Json.SortedMembers members
  | _ => True

def Json.SortedItems : List Json → Prop
  | [] => True
  | item :: rest => item.Sorted ∧ Json.SortedItems rest

def Json.SortedMembers : List (String × Json) → Prop
  | [] => True
  | (_, value) :: rest => value.Sorted ∧ Json.SortedMembers rest

end

mutual

def Json.nesting : Json → Nat
  | .list items => Json.nestingItems items + 1
  | .object members => Json.nestingMembers members + 1
  | _ => 0

def Json.nestingItems : List Json → Nat
  | [] => 0
  | item :: rest => max item.nesting (Json.nestingItems rest)

def Json.nestingMembers : List (String × Json) → Nat
  | [] => 0
  | (_, value) :: rest => max value.nesting (Json.nestingMembers rest)

end

end Kinds

namespace Decode

open Json

section Sorting

theorem insert_last (name : String) (value : Json) (members : List (String × Json))
    (last : ∀ m ∈ members, m.1 < name) :
    insertMember name value members = members ++ [(name, value)] := by
  induction members with
  | nil => rfl
  | cons member rest ih =>
      obtain ⟨other, old⟩ := member
      have before : other < name := last (other, old) List.mem_cons_self
      have different : ¬ (name == other) = true := fun same =>
        String.lt_irrefl name (eq_of_beq same ▸ before)
      have sorted : ¬ name < other := String.lt_asymm before
      rw [insertMember, if_neg different, if_neg sorted,
        ih fun m member => last m (List.mem_cons_of_mem _ member)]
      rfl

theorem insert_ascending (sorted members : List (String × Json))
    (ascending : Ascending (sorted ++ members)) :
    members.foldl (fun sorted m => insertMember m.1 m.2 sorted) sorted = sorted ++ members := by
  induction members generalizing sorted with
  | nil => simp
  | cons member rest ih =>
      -- in order, so every member comes behind those that are there
      have last : ∀ m ∈ sorted, m.1 < member.1 := fun m before =>
        (List.pairwise_append.mp ascending).2.2 m before member List.mem_cons_self
      rw [List.foldl_cons, insert_last member.1 member.2 sorted last, ih]
      · simp
      · simpa using ascending

end Sorting

section Values

mutual

theorem anything_read (depth : Nat) (j : Json) (scan : Scan) (shows : Shows j scan)
    (integral : j.Integral) (shallow : depth + j.nesting < depthLimit) :
    ∃ value, anything depth scan = .ok value ∧ (j.Sorted → value = j) := by
  match j with
  | .null | .bool _ | .text _ =>
      rw [show scan = _ from shows]
      exact ⟨_, rfl, fun _ => rfl⟩
  | .integer n =>
      rw [shows.2.2.1 integral.1 integral.2]
      exact ⟨_, rfl, fun _ => rfl⟩
  | .double _ => exact absurd integral id
  | .list items =>
      obtain ⟨scans, each, rfl⟩ := shows
      rw [Json.nesting] at shallow
      have inside : ¬ depthLimit ≤ depth + 1 := by omega
      obtain ⟨values, read, same⟩ := open_items_read (depth + 1) items scans each integral (by omega)
      refine ⟨.list values, ?_, fun sorted => congrArg Json.list (same sorted)⟩
      rw [anything, if_neg inside, read]
      rfl
  | .object members =>
      obtain ⟨scans, each, rfl⟩ := shows
      rw [Json.nesting] at shallow
      have inside : ¬ depthLimit ≤ depth + 1 := by omega
      obtain ⟨values, read, same⟩ :=
        open_members_read (depth + 1) members scans each integral (by omega)
      refine ⟨_, by rw [anything, if_neg inside, read]; rfl, fun sorted => ?_⟩
      rw [same sorted.2, insert_ascending [] members sorted.1, List.nil_append]

theorem open_items_read (depth : Nat) (items : List Json) (scans : List Scan)
    (shows : ShowsItems items scans) (integral : Json.IntegralItems items)
    (shallow : depth + Json.nestingItems items < depthLimit) :
    ∃ values, openItems depth scans = .ok values ∧ (Json.SortedItems items → values = items) := by
  match items with
  | [] =>
      rw [show scans = [] from shows]
      exact ⟨[], rfl, fun _ => rfl⟩
  | item :: rest =>
      obtain ⟨first, more, head, tail, rfl⟩ := shows
      rw [Json.nestingItems] at shallow
      obtain ⟨value, read, same⟩ := anything_read depth item first head integral.1 (by omega)
      obtain ⟨values, readRest, sameRest⟩ :=
        open_items_read depth rest more tail integral.2 (by omega)
      refine ⟨value :: values, ?_, fun sorted => by rw [same sorted.1, sameRest sorted.2]⟩
      rw [openItems, read, readRest]
      rfl

theorem open_members_read (depth : Nat) (members : List (String × Json))
    (scans : List (String × Scan)) (shows : ShowsMembers members scans)
    (integral : Json.IntegralMembers members)
    (shallow : depth + Json.nestingMembers members < depthLimit) :
    ∃ values, openMembers depth scans = .ok values ∧
      (Json.SortedMembers members → values = members) := by
  match members with
  | [] =>
      rw [show scans = [] from shows]
      exact ⟨[], rfl, fun _ => rfl⟩
  | (name, value) :: rest =>
      obtain ⟨first, more, head, tail, rfl⟩ := shows
      rw [Json.nestingMembers] at shallow
      obtain ⟨found, read, same⟩ := anything_read depth value first head integral.1 (by omega)
      obtain ⟨values, readRest, sameRest⟩ :=
        open_members_read depth rest more tail integral.2 (by omega)
      refine ⟨(name, found) :: values, ?_, fun sorted => by rw [same sorted.1, sameRest sorted.2]⟩
      rw [openMembers, read, readRest]
      rfl

end

theorem shows_named (j : Json) (scan : Scan) (shows : Shows j scan) (read : Fault) (value : Scan) :
    scan ≠ .unnamed read value := by
  rintro rfl
  cases j with
  | null | bool _ | text _ => cases shows
  | integer n =>
      obtain ⟨number, -⟩ := shows
      cases number
  | double d =>
      rcases shows with same | number
      · cases same
      · cases number
  | list items =>
      obtain ⟨_, -, same⟩ := shows
      cases same
  | object members =>
      obtain ⟨_, -, same⟩ := shows
      cases same

end Values

section Lists

theorem all_length {α : Type} (decode : Decoder α) (stop : Option Fault) (scans : List Scan)
    (values : List α) (read : all decode stop scans = .ok values) : values.length = scans.length := by
  induction scans generalizing values with
  | nil =>
      cases stop with
      | none =>
          cases read
          rfl
      | some fault => cases read
  | cons scan scans ih =>
      rw [all] at read
      obtain ⟨value, -, read⟩ := bind_ok read
      obtain ⟨more, readRest, read⟩ := bind_ok read
      cases read
      simp [ih more readRest]

end Lists

section Records

/-- A member with a name that is asked for is checked and kept, the first time it stands. -/
theorem record_known (fields : List Field) (found : Fields) (name : String) (scan : Scan)
    (rest : List (String × Scan)) (f : Field) (named : ∀ read inner, scan ≠ .unnamed read inner)
    (known : (fields.find? fun f => f.name == name) = some f)
    (fresh : (found.find? name).isSome = false) :
    recordMembers fields found ((name, scan) :: rest) =
      (f.check scan).bind fun _ => recordMembers fields (found ++ [(name, scan)]) rest := by
  rw [recordMembers.eq_3 _ _ _ _ _ (by exact named), known]
  simp only [fresh]
  rfl

end Records

end Decode

end CodeReview
