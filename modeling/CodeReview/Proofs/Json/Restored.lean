import CodeReview.Proofs.Json.Decoding

/-!
Decoders that undo what was written. A decoder restores a value from a JSON value when it makes the one of
every scan that a text of the other can give. Strings, numbers, lists and choices are restored piece by
piece. A record is restored when each of its members is one that it has a field for; a field whose member
was left out is restored as missing.

The other way round a decoder never makes a value that could not have been written, since it checks the
bounds of the numbers.
-/

namespace CodeReview.Decode

open Json

variable {α : Type}

def Restores (decode : Decoder α) (j : Json) (a : α) : Prop := ∀ scan, Shows j scan → decode scan = .ok a

def Ensures (decode : Decoder α) (so : α → Prop) : Prop := ∀ scan a, decode scan = .ok a → so a

section Texts

theorem restores_written (decode : Decoder α) (j : Json) (a : α) (restores : Restores decode j a)
    (text : String) (written : Written j text.toList) : wholeText decode text = .ok a := by
  obtain ⟨scan, shows, scanned⟩ := scan_whole_text j text.toList written
  rw [wholeText, scanned]
  simp only [restores scan shows]
  rfl

theorem restores_compact (decode : Decoder α) (j : Json) (a : α) (restores : Restores decode j a) :
    wholeText decode j.compact = .ok a := by
  apply restores_written decode j a restores
  rw [compact, String.toList_ofList]
  exact compact_written j

theorem restores_pretty (decode : Decoder α) (j : Json) (a : α) (restores : Restores decode j a) :
    wholeText decode j.pretty = .ok a := by
  apply restores_written decode j a restores
  rw [pretty, String.toList_ofList]
  exact pretty_written 0 j

theorem ensures_text (decode : Decoder α) (so : α → Prop) (ensures : Ensures decode so) (text : String)
    (a : α) (read : wholeText decode text = .ok a) : so a := by
  obtain ⟨value, decoded, read⟩ := bind_ok read
  split at read
  · cases read
  · split at read
    · cases read
      exact ensures _ a decoded
    · cases read

end Texts

section Plain

theorem text_restores (s : String) : Restores text (.text s) s := by
  rintro scan rfl
  rfl

theorem boolean_restores (b : Bool) : Restores boolean (.bool b) b := by
  rintro scan rfl
  rfl

theorem natural_restores (limit n : Nat) (machine : limit ≤ wordLimit) (small : n < limit) :
    Restores (naturalBelow limit) (.ofNat n) n := by
  intro scan shows
  have word : n < 2 ^ 64 := Nat.lt_of_lt_of_le small machine
  rw [shows.2.2.1 (by omega) (by omega)]
  have inside : (0 ≤ (n : Int) && (n : Int) ≤ limit - 1) = true := by
    simp only [Bool.and_eq_true, decide_eq_true_eq]
    omega
  rw [naturalBelow, wholeBetween, if_pos inside]
  rfl

theorem word_restores (n : Nat) (small : n < wordLimit) : Restores word (.ofNat n) n :=
  natural_restores wordLimit n (Nat.le_refl wordLimit) small

theorem choice_restores (find : String → Option α) (name : String) (a : α) (found : find name = some a) :
    Restores (choice find) (.text name) a := by
  rintro scan rfl
  simp [choice, found]

theorem optional_none (decode : Decoder α) : Restores (optional decode) .null none := by
  rintro scan rfl
  rfl

theorem optional_some (decode : Decoder α) (j : Json) (a : α) (restores : Restores decode j a)
    (there : ¬ Shows j .null) : Restores (optional decode) j (some a) := by
  intro scan shows
  have same := restores scan shows
  cases scan with
  | null => exact absurd shows there
  | _ => simp [optional, same, bind, Except.bind, pure, Except.pure]

theorem text_there (s : String) : ¬ Shows (.text s) .null := nofun

theorem number_there (n : Nat) : ¬ Shows (.ofNat n) .null := by
  rintro ⟨number, -⟩
  cases number

theorem optional_text_restores (s : Option String) : Restores (optional text) (.ofText? s) s := by
  cases s with
  | none => exact optional_none text
  | some s => exact optional_some text (.text s) s (text_restores s) (text_there s)

theorem list_restores (decode : Decoder α) (toJson : α → Json) (items : List α)
    (each : ∀ a ∈ items, Restores decode (toJson a) a) :
    Restores (listOf decode) (.list (items.map toJson)) items := by
  rintro scan ⟨scans, shows, rfl⟩
  rw [listOf]
  induction items generalizing scans with
  | nil =>
      rw [show scans = [] from shows]
      rfl
  | cons a rest ih =>
      obtain ⟨first, more, head, tail, rfl⟩ := shows
      have item := each a List.mem_cons_self first head
      have others := ih (fun b member => each b (List.mem_cons_of_mem _ member)) more tail
      simp only [all, item, others]
      rfl

theorem texts_restores (items : List String) : Restores (listOf text) (.texts items) items :=
  list_restores text Json.text items fun s _ => text_restores s

theorem choices_restores (find : String → Option α) (name : α → String) (items : List α)
    (found : ∀ a, find (name a) = some a) :
    Restores (listOf (choice find)) (.texts (items.map name)) items := by
  rw [texts, List.map_map]
  exact list_restores (choice find) (Json.text ∘ name) items fun a _ =>
    choice_restores find (name a) a (found a)

end Plain

section Records

inductive Known (fields : List Field) : List (String × Json) → Prop
  | nil : Known fields []
  | cons {name : String} {value : Json} {rest : List (String × Json)} {f : Field}
      (has : (fields.find? fun f => f.name == name) = some f)
      (takes : ∀ scan, Shows value scan → f.check scan = .ok ()) (known : Known fields rest) :
      Known fields ((name, value) :: rest)

theorem field_takes {decode : Decoder α} {j : Json} {a : α} (restores : Restores decode j a) (scan : Scan)
    (shows : Shows j scan) : (do let _ ← decode scan; return ()) = (.ok () : Decoded Unit) := by
  rw [restores scan shows]
  rfl

variable {fields : List Field}

theorem known_append {first rest : List (String × Json)} (known : Known fields first)
    (more : Known fields rest) : Known fields (first ++ rest) := by
  induction known with
  | nil => exact more
  | cons has takes known ih => exact .cons has takes ih

theorem known_text {name : String} (s : Option String)
    (has : (fields.find? fun f => f.name == name) = some (defaulted name (optional text))) :
    Known fields (match s with | some s => [(name, .text s)] | none => []) := by
  cases s with
  | none => exact .nil
  | some s =>
      exact .cons has (field_takes (optional_text_restores (some s))) .nil

theorem found_missing (found : Fields) (name : String) (absent : name ∉ found.map Prod.fst) :
    (found.find? name).isSome = false := by
  have none : List.find? (fun m => m.1 == name) found = none := by
    rw [List.find?_eq_none]
    intro m member same
    exact absent (List.mem_map.mpr ⟨m, member, eq_of_beq same⟩)
  rw [Fields.find?, none]
  rfl

/-- Members that are all known and differ in their names are all kept, in their order. -/
theorem known_members (members : List (String × Json)) (scans : List (String × Scan)) (found : Fields)
    (shows : ShowsMembers members scans)
    (known : Known fields members)
    (apart : (found.map Prod.fst ++ members.map Prod.fst).Nodup) :
    recordMembers fields found scans = .ok (found ++ scans) := by
  induction known generalizing scans found with
  | nil =>
      rw [show scans = [] from shows, List.append_nil]
      rfl
  | @cons name value rest f has takes known ih =>
      obtain ⟨scan, more, head, tail, rfl⟩ := shows
      have absent : name ∉ found.map Prod.fst := by
        intro member
        exact (List.nodup_append.mp apart).2.2 name member name List.mem_cons_self rfl
      rw [record_known fields found name scan more f (shows_named value scan head) has
        (found_missing found name absent), takes scan head]
      have next := ih more (found ++ [(name, scan)]) tail (by simpa using apart)
      rw [List.append_assoc] at next
      exact next

variable {members : List (String × Json)} {scans : List (String × Scan)}

theorem record_restores (shows : ShowsMembers members scans) (known : Known fields members)
    (apart : (members.map Prod.fst).Nodup) : record fields (.object scans none) = .ok scans := by
  rw [record, known_members members scans [] shows known (by simpa using apart)]
  rfl

theorem member_shown (shows : ShowsMembers members scans) (name : String) {j : Json}
    (there : (members.find? fun m => m.1 == name).map Prod.snd = some j) :
    ∃ scan, Fields.find? scans name = some scan ∧ Shows j scan := by
  induction members generalizing scans with
  | nil => cases there
  | cons member rest ih =>
      obtain ⟨other, value⟩ := member
      obtain ⟨first, more, head, tail, rfl⟩ := shows
      by_cases same : (other == name) = true
      · simp only [List.find?_cons, same, Option.map_some, Option.some.injEq] at there
        subst there
        exact ⟨first, by simp [Fields.find?, same], head⟩
      · simp only [List.find?_cons, same] at there
        obtain ⟨scan, found, shown⟩ := ih tail there
        exact ⟨scan, by simpa [Fields.find?, same] using found, shown⟩

theorem member_missing (shows : ShowsMembers members scans) (name : String)
    (missing : members.find? (fun m => m.1 == name) = none) : Fields.find? scans name = none := by
  induction members generalizing scans with
  | nil =>
      rw [show scans = [] from shows]
      rfl
  | cons member rest ih =>
      obtain ⟨other, value⟩ := member
      obtain ⟨first, more, head, tail, rfl⟩ := shows
      by_cases same : (other == name) = true
      · simp [same] at missing
      · simp only [List.find?_cons, same] at missing
        simpa [Fields.find?, same] using ih tail missing

variable (shows : ShowsMembers members scans) (name : String) {j : Json} {decode : Decoder α}
  (there : (members.find? fun m => m.1 == name).map Prod.snd = some j)

include shows there

theorem get_restores {a : α} (restores : Restores decode j a) :
    Fields.get scans name decode = .ok a := by
  obtain ⟨scan, found, shown⟩ := member_shown shows name there
  rw [Fields.get, found]
  exact restores scan shown

theorem get_default_restores {a : α} (default : α) (restores : Restores decode j a) :
    Fields.getD scans name decode default = .ok a := by
  obtain ⟨scan, found, shown⟩ := member_shown shows name there
  rw [Fields.getD, found]
  exact restores scan shown

theorem get_optional_restores {a : Option α} (restores : Restores (optional decode) j a) :
    Fields.getOptional scans name decode = .ok a := by
  obtain ⟨scan, found, shown⟩ := member_shown shows name there
  rw [Fields.getOptional, found]
  exact restores scan shown

omit there in
theorem get_text_restores (s : Option String)
    (there : (members.find? fun m => m.1 == name).map Prod.snd = s.map Json.text) :
    Fields.getOptional scans name text = .ok s := by
  cases s with
  | none => rw [Fields.getOptional, member_missing shows name (Option.map_eq_none_iff.mp there)]
  | some s => exact get_optional_restores shows name there (optional_text_restores (some s))

end Records

section Bounds

theorem natural_ensures (limit : Nat) : Ensures (naturalBelow limit) (· < limit) := by
  intro scan n read
  obtain ⟨value, whole, read⟩ := bind_ok read
  cases read
  cases scan with
  | integer m =>
      simp only [wholeBetween] at whole
      split at whole
      · next inside =>
          cases whole
          simp only [Bool.and_eq_true, decide_eq_true_eq] at inside
          omega
      · cases whole
  | _ => cases whole

theorem optional_ensures (decode : Decoder α) (so : α → Prop) (ensures : Ensures decode so) :
    Ensures (optional decode) (∀ a, · = some a → so a) := by
  intro scan found read a same
  subst same
  cases scan with
  | null => cases read
  | _ =>
      obtain ⟨value, decoded, read⟩ := bind_ok read
      cases read
      exact ensures _ a decoded

theorem list_ensures (decode : Decoder α) (so : α → Prop) (ensures : Ensures decode so) :
    Ensures (listOf decode) (∀ a ∈ ·, so a) := by
  intro scan found read
  cases scan with
  | list items stop =>
      rw [listOf] at read
      induction items generalizing found with
      | nil =>
          obtain ⟨_, -, read⟩ := bind_ok read
          cases read
          nofun
      | cons item rest ih =>
          obtain ⟨first, head, read⟩ := bind_ok read
          obtain ⟨others, tail, read⟩ := bind_ok read
          cases read
          intro a member
          rcases List.mem_cons.mp member with rfl | later
          · exact ensures item a head
          · exact ih others tail a later
  | _ => cases read

variable (fields : Fields) (name : String) (decode : Decoder α) (so : α → Prop)
  (ensures : Ensures decode so)

include ensures

theorem get_ensures (a : α) (read : fields.get name decode = .ok a) : so a := by
  unfold Fields.get at read
  split at read
  · exact ensures _ a read
  · cases read

theorem get_optional_ensures (a : Option α) (read : fields.getOptional name decode = .ok a) :
    ∀ value, a = some value → so value := by
  unfold Fields.getOptional at read
  split at read
  · exact optional_ensures decode so ensures _ a read
  · cases read
    nofun

end Bounds

end CodeReview.Decode
