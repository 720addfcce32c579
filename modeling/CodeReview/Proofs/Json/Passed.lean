import CodeReview.Proofs.Json.Restored

/-!
Records in objects with more members than are wanted. A member without a field is passed over, whatever its
value; of the others each is kept once, as it was scanned.
-/

namespace CodeReview.Decode

open Json

section Skipping

mutual

theorem shows_skipped (j : Json) (scan : Scan) (shows : Shows j scan) : skip scan = .ok () := by
  match j with
  | .null | .bool _ | .text _ =>
      rw [show scan = _ from shows]
      rfl
  | .integer n =>
      obtain ⟨number, -⟩ := shows
      cases number <;> rfl
  | .double d =>
      rcases shows with rfl | number
      · rfl
      · cases number <;> rfl
  | .list items =>
      obtain ⟨scans, each, rfl⟩ := shows
      rw [skip, items_skipped items scans each]
      rfl
  | .object members =>
      obtain ⟨scans, each, rfl⟩ := shows
      rw [skip, members_skipped members scans each]
      rfl

theorem items_skipped (items : List Json) (scans : List Scan) (shows : ShowsItems items scans) :
    skipItems scans = .ok () := by
  match items with
  | [] =>
      rw [show scans = [] from shows]
      rfl
  | item :: rest =>
      obtain ⟨first, more, head, tail, rfl⟩ := shows
      rw [skipItems, shows_skipped item first head]
      exact items_skipped rest more tail

theorem members_skipped (members : List (String × Json)) (scans : List (String × Scan))
    (shows : ShowsMembers members scans) : skipMembers scans = .ok () := by
  match members with
  | [] =>
      rw [show scans = [] from shows]
      rfl
  | (name, value) :: rest =>
      obtain ⟨first, more, head, tail, rfl⟩ := shows
      rw [skipMembers, shows_skipped value first head]
      exact members_skipped rest more tail

end

end Skipping

section Wanted

def wanted (fields : List Field) (name : String) : Bool := (fields.find? fun f => f.name == name).isSome

variable {fields : List Field} {members : List (String × Json)} {scans : List (String × Scan)}

theorem shows_filtered (shows : ShowsMembers members scans) (keep : String → Bool) :
    ShowsMembers (members.filter fun m => keep m.1) (scans.filter fun m => keep m.1) := by
  induction members generalizing scans with
  | nil =>
      rw [show scans = [] from shows]
      rfl
  | cons member rest ih =>
      obtain ⟨name, value⟩ := member
      obtain ⟨first, more, head, tail, rfl⟩ := shows
      by_cases kept : keep name = true
      · simp only [List.filter_cons, kept, ↓reduceIte]
        exact ⟨first, _, head, ih tail, rfl⟩
      · simp only [List.filter_cons, kept, Bool.false_eq_true, ↓reduceIte]
        exact ih tail

theorem apart_cons {found names : List String} {name : String} (apart : (found ++ name :: names).Nodup) :
    name ∉ found ∧ (found ++ names).Nodup := by
  constructor
  · intro member
    exact (List.nodup_append.mp apart).2.2 name member name List.mem_cons_self rfl
  · exact apart.sublist ((List.sublist_cons_self name names).append_left found)

/-- Of members that differ in their names, those that are wanted are kept, if they are of the right type. -/
theorem wanted_members (found kept : Fields) (shows : ShowsMembers members scans)
    (apart : (found.map Prod.fst ++ members.map Prod.fst).Nodup)
    (read : recordMembers fields found scans = .ok kept) :
    kept = found ++ scans.filter fun m => wanted fields m.1 := by
  induction members generalizing scans found with
  | nil =>
      rw [show scans = [] from shows] at read ⊢
      cases read
      exact (List.append_nil _).symm
  | cons member rest ih =>
      obtain ⟨name, value⟩ := member
      obtain ⟨scan, more, head, tail, rfl⟩ := shows
      have named := shows_named value scan head
      cases has : fields.find? fun f => f.name == name with
      | none =>
          have unwanted : wanted fields name = false := by simp [wanted, has]
          simp only [List.filter_cons, unwanted, Bool.false_eq_true, ↓reduceIte]
          rw [recordMembers.eq_3 _ _ _ _ _ (by exact named), has] at read
          obtain ⟨_, -, read⟩ := bind_ok read
          exact ih found tail (apart_cons apart).2 read
      | some f =>
          have isWanted : wanted fields name = true := by simp [wanted, has]
          have absent : name ∉ found.map Prod.fst := (apart_cons apart).1
          simp only [List.filter_cons, isWanted, ↓reduceIte]
          rw [record_known fields found name scan more f named has (found_missing found name absent)] at read
          obtain ⟨_, -, read⟩ := bind_ok read
          have later := ih (found ++ [(name, scan)]) tail (by simpa using apart) read
          rw [later, List.append_assoc]
          rfl

theorem members_read (found : Fields) (shows : ShowsMembers members scans)
    (apart : (found.map Prod.fst ++ members.map Prod.fst).Nodup)
    (takes : ∀ m ∈ members, ∀ f, (fields.find? fun f => f.name == m.1) = some f →
      ∀ scan, Shows m.2 scan → f.check scan = .ok ()) :
    ∃ kept, recordMembers fields found scans = .ok kept := by
  induction members generalizing scans found with
  | nil =>
      rw [show scans = [] from shows]
      exact ⟨found, rfl⟩
  | cons member rest ih =>
      obtain ⟨name, value⟩ := member
      obtain ⟨scan, more, head, tail, rfl⟩ := shows
      have named := shows_named value scan head
      have others := fun m later => takes m (List.mem_cons_of_mem _ later)
      cases has : fields.find? fun f => f.name == name with
      | none =>
          rw [recordMembers.eq_3 _ _ _ _ _ (by exact named), has]
          dsimp only
          rw [shows_skipped value scan head, ok_bind]
          exact ih found tail (apart_cons apart).2 others
      | some f =>
          have absent : name ∉ found.map Prod.fst := (apart_cons apart).1
          have taken := takes (name, value) List.mem_cons_self f has scan head
          rw [record_known fields found name scan more f named has (found_missing found name absent), taken]
          exact ih (found ++ [(name, scan)]) tail (by simpa using apart) others

end Wanted

section Records

variable {fields : List Field} {members : List (String × Json)} {scan : Scan}
  (shows : Shows (.object members) scan) (apart : (members.map Prod.fst).Nodup)

include shows apart

theorem record_kept {kept : Fields} (read : record fields scan = .ok kept) :
    ShowsMembers (members.filter fun m => wanted fields m.1) kept := by
  obtain ⟨scans, each, rfl⟩ := shows
  obtain ⟨found, read, done⟩ := bind_ok read
  cases done
  have same := wanted_members [] kept each (by simpa using apart) read
  rw [same, List.nil_append]
  exact shows_filtered each (wanted fields)

theorem record_passing (takes : ∀ m ∈ members, ∀ f, (fields.find? fun f => f.name == m.1) = some f →
      ∀ scan, Shows m.2 scan → f.check scan = .ok ()) :
    ∃ kept, record fields scan = .ok kept ∧
      ShowsMembers (members.filter fun m => wanted fields m.1) kept := by
  have whole := shows
  obtain ⟨scans, each, rfl⟩ := shows
  obtain ⟨kept, read⟩ := members_read [] each (by simpa using apart) takes
  have recorded : record fields (.object scans none) = .ok kept := by
    rw [record, read]
    rfl
  exact ⟨kept, recorded, record_kept whole apart recorded⟩

end Records

end CodeReview.Decode
