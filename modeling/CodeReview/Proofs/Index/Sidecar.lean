import CodeReview.Index.Artifact
import CodeReview.Proofs.Json.Decoding
import CodeReview.Proofs.Text.Utf8

/-!
The sidecar of a store is read back as it was written. Of every sidecar that is read at all this holds for
the dimension and the number of documents; the documents themselves come back when the members they carry
can be kept, which numbers with a point cannot.
-/

namespace CodeReview

open Decode Json

section Documents

/-- A document whose further members can be written and read back. They are sorted, inside too, as maps
are; they are not called like the members that every document has; their numbers are integers of sixty-four
bits; and with the three containers around them, which are the document, the list and the sidecar, they
stay below the depth that readers take. -/
structure Document.Restorable (d : Document) : Prop where
  ascending : Ascending d.extra
  sorted : Json.SortedMembers d.extra
  integral : Json.IntegralMembers d.extra
  unreserved : ∀ m ∈ d.extra, m.1 ≠ "source" ∧ m.1 ≠ "chunk"
  shallow : Json.nestingMembers d.extra + 3 < depthLimit

namespace Document

theorem plain_restorable (d : Document) (plain : d.extra = []) : d.Restorable := by
  obtain ⟨source, chunk, extra⟩ := d
  cases plain
  exact ⟨List.Pairwise.nil, trivial, trivial, nofun, show 3 < depthLimit by decide⟩

theorem read_source (depth : Nat) (stop : Option Fault) (s : String)
    (chunk : Option (Option String)) (extra : List (String × Json)) (rest : List (String × Scan)) :
    readMembers depth stop none chunk extra (("source", .text s) :: rest) =
      readMembers depth stop (some s) chunk extra rest := by
  simp [readMembers, Decode.text]
  rfl

theorem read_chunk (depth : Nat) (stop : Option Fault) (source : Option String) (c : String)
    (extra : List (String × Json)) (rest : List (String × Scan)) :
    readMembers depth stop source none extra (("chunk", .text c) :: rest) =
      readMembers depth stop source (some (some c)) extra rest := by
  simp [readMembers, Decode.optional, Decode.text]
  rfl

theorem read_other (depth : Nat) (stop : Option Fault) (source : Option String)
    (chunk : Option (Option String)) (extra : List (String × Json)) (name : String) (scan : Scan)
    (value : Json) (rest : List (String × Scan)) (named : ∀ read inner, scan ≠ .unnamed read inner)
    (other : name ≠ "source") (another : name ≠ "chunk") (read : anything depth scan = .ok value) :
    readMembers depth stop source chunk extra ((name, scan) :: rest) =
      readMembers depth stop source chunk (insertMember name value extra) rest := by
  have noSource : ¬ (name == "source") = true := fun same => other (eq_of_beq same)
  have noChunk : ¬ (name == "chunk") = true := fun same => another (eq_of_beq same)
  rw [readMembers.eq_def]
  split
  · next same => cases same
  · next same =>
      cases same
      exact absurd rfl (named _ _)
  · next same =>
      cases same
      rw [if_neg noSource, if_neg noChunk, read]
      rfl

/-- Sorted members that are read one after the other are put behind those before them. -/
theorem read_extra (depth : Nat) (source : String) (chunk : Option (Option String))
    (before members : List (String × Json)) (scans : List (String × Scan))
    (shows : ShowsMembers members scans) (ascending : Ascending (before ++ members))
    (sorted : Json.SortedMembers members) (integral : Json.IntegralMembers members)
    (unreserved : ∀ m ∈ members, m.1 ≠ "source" ∧ m.1 ≠ "chunk")
    (shallow : depth + Json.nestingMembers members < depthLimit) :
    readMembers depth none (some source) chunk before scans =
      .ok { source, chunk := chunk.join, extra := before ++ members } := by
  induction members generalizing before scans with
  | nil =>
      rw [show scans = [] from shows, List.append_nil]
      rfl
  | cons member rest ih =>
      obtain ⟨name, value⟩ := member
      obtain ⟨scan, more, head, tail, rfl⟩ := shows
      rw [Json.nestingMembers] at shallow
      obtain ⟨other, another⟩ := unreserved (name, value) List.mem_cons_self
      obtain ⟨found, read, same⟩ :=
        anything_read depth value scan head integral.1 (by omega)
      -- the members so far are all smaller, so the next is put at their end
      have last : ∀ m ∈ before, m.1 < name := fun m earlier =>
        (List.pairwise_append.mp ascending).2.2 m earlier (name, value) List.mem_cons_self
      have next := ih (before ++ [(name, value)]) more tail (by simpa using ascending) sorted.2
        integral.2 (fun m member => unreserved m (List.mem_cons_of_mem _ member)) (by omega)
      rw [read_other depth none (some source) chunk before name scan found more
        (shows_named value scan head) other another read, same sorted.1,
        insert_last name value before last]
      simpa using next

theorem nesting_members (d : Document) : d.toJson.nesting = Json.nestingMembers d.extra + 1 := by
  obtain ⟨source, chunk, extra⟩ := d
  cases chunk <;> simp [toJson, Json.nesting, Json.nestingMembers]

theorem decode_members (d : Document) (scan : Scan) (shows : Shows d.toJson scan)
    (ascending : Ascending d.extra) (sorted : Json.SortedMembers d.extra)
    (integral : Json.IntegralMembers d.extra)
    (unreserved : ∀ m ∈ d.extra, m.1 ≠ "source" ∧ m.1 ≠ "chunk")
    (shallow : d.toJson.nesting < depthLimit) : Document.decode 0 scan = .ok d := by
  rw [nesting_members, Nat.add_comm] at shallow
  obtain ⟨scans, each, rfl⟩ := shows
  obtain ⟨source, chunk, extra⟩ := d
  obtain ⟨first, more, firstShows, others, rfl⟩ := each
  rw [show first = .text source from firstShows, Document.decode, read_source]
  cases chunk with
  | none =>
      exact read_extra 1 source none [] extra more others ascending sorted integral unreserved shallow
  | some c =>
      obtain ⟨second, rest, secondShows, last, rfl⟩ := others
      rw [show second = .text c from secondShows, read_chunk]
      exact read_extra 1 source (some (some c)) [] extra rest last ascending sorted integral unreserved
        shallow

theorem decode_read (d : Document) (scan : Scan) (shows : Shows d.toJson scan)
    (restorable : d.Restorable) : Document.decode 0 scan = .ok d := by
  apply decode_members d scan shows restorable.ascending restorable.sorted restorable.integral
    restorable.unreserved
  have shallow := restorable.shallow
  rw [nesting_members]
  omega

theorem members_integral (d : Document) (restorable : d.Restorable) : d.toJson.Integral := by
  obtain ⟨source, chunk, extra⟩ := d
  cases chunk with
  | none => exact ⟨trivial, restorable.integral⟩
  | some c => exact ⟨trivial, trivial, restorable.integral⟩

theorem members_shallow (d : Document) (restorable : d.Restorable) :
    d.toJson.nesting + 2 < depthLimit := by
  rw [nesting_members]
  exact restorable.shallow

end Document

theorem all_decode_read (documents : List Document) (scans : List Scan)
    (shows : ShowsItems (documents.map Document.toJson) scans)
    (restorable : ∀ d ∈ documents, d.Restorable) :
    all (Document.decode 0) none scans = .ok documents := by
  induction documents generalizing scans with
  | nil =>
      rw [show scans = [] from shows]
      rfl
  | cons d rest ih =>
      obtain ⟨first, more, head, tail, rfl⟩ := shows
      rw [all, Document.decode_read d first head (restorable d List.mem_cons_self),
        ih more tail fun d member => restorable d (List.mem_cons_of_mem _ member)]
      rfl

theorem documents_integral (documents : List Document) (restorable : ∀ d ∈ documents, d.Restorable) :
    Json.IntegralItems (documents.map Document.toJson) := by
  induction documents with
  | nil => trivial
  | cons d rest ih =>
      exact ⟨d.members_integral (restorable d List.mem_cons_self),
        ih fun d member => restorable d (List.mem_cons_of_mem _ member)⟩

theorem documents_shallow (documents : List Document) (restorable : ∀ d ∈ documents, d.Restorable) :
    Json.nestingItems (documents.map Document.toJson) + 2 < depthLimit := by
  induction documents with
  | nil => decide
  | cons d rest ih =>
      have head := d.members_shallow (restorable d List.mem_cons_self)
      have tail := ih fun d member => restorable d (List.mem_cons_of_mem _ member)
      rw [List.map_cons, Json.nestingItems]
      omega

end Documents

namespace Artifact

section Record

/-- The fields are read one after the other, as if there were no check of all of them before. -/
theorem decode_record_members (dim documents embedder : Scan)
    (named : ∀ scan ∈ [dim, documents, embedder], ∀ read inner, scan ≠ .unnamed read inner) :
    decodeRecord (.object [("dim", dim), ("documents", documents), ("embedder", embedder)] none) = do
      let d ← optional word dim
      let ds ← listOf (Document.decode 0) documents
      let e ← optional text embedder
      return { dim := d, documents := ds, embedder := Store.knownName e } := by
  have first := named dim (by simp)
  have second := named documents (by simp)
  have third := named embedder (by simp)
  unfold decodeRecord record
  dsimp only
  rw [record_known _ _ _ _ _ _ first rfl rfl, record_known _ _ _ _ _ _ second rfl rfl,
    record_known _ _ _ _ _ _ third rfl rfl]
  simp only [defaulted, field]
  cases hd : optional word dim with
  | error refusal => rfl
  | ok d =>
      cases hds : listOf (Document.decode 0) documents with
      | error refusal => rfl
      | ok ds =>
          cases he : optional text embedder with
          | error refusal => rfl
          | ok e =>
              show (do
                let d ← optional word dim
                let ds ← listOf (Document.decode 0) documents
                let e ← optional text embedder
                return ({ dim := d, documents := ds, embedder := Store.knownName e } : Sidecar)) = _
              rw [hd, hds, he]

theorem sidecar_scanned (s : Store) :
    ∃ dim documents embedder, Shows (.ofNat s.dim) dim ∧
      ShowsItems (s.documents.map Document.toJson) documents ∧
      Shows (.ofText? s.embedder) embedder ∧
      Shows (sidecarJson s)
        (.object [("dim", dim), ("documents", .list documents none), ("embedder", embedder)] none) ∧
      decodeSidecar (encodeSidecar s) =
        (decodeScan
          (.object [("dim", dim), ("documents", .list documents none), ("embedder", embedder)]
            none)).mapError fun _ => .unreadableSidecar := by
  obtain ⟨scan, shows, scanned⟩ :=
    scan_whole_text (sidecarJson s) _ (pretty_written 0 (sidecarJson s))
  have whole := shows
  obtain ⟨scans, members, rfl⟩ := shows
  obtain ⟨dim, more, showsDim, members, rfl⟩ := members
  obtain ⟨documents, more, showsDocuments, members, rfl⟩ := members
  obtain ⟨embedder, more, showsEmbedder, members, rfl⟩ := members
  obtain ⟨items, showsItems, rfl⟩ := showsDocuments
  rw [show more = [] from members] at scanned whole
  refine ⟨dim, items, embedder, showsDim, showsItems, showsEmbedder, whole, ?_⟩
  rw [decodeSidecar, encodeSidecar, pretty, String.toList_ofList, Text.of_utf8_exact]
  simp only [wholeText, String.toList_ofList, scanned]
  cases decodeScan
    (.object [("dim", dim), ("documents", .list items none), ("embedder", embedder)] none) with
  | error refusal => rfl
  | ok sidecar => rfl

theorem sidecar_members_named (s : Store) (dim embedder : Scan) (documents : List Scan)
    (showsDim : Shows (.ofNat s.dim) dim) (showsEmbedder : Shows (.ofText? s.embedder) embedder) :
    ∀ scan ∈ [dim, .list documents none, embedder], ∀ read inner, scan ≠ .unnamed read inner := by
  intro scan member
  simp only [List.mem_cons, List.not_mem_nil, or_false] at member
  rcases member with rfl | rfl | rfl
  · exact shows_named _ _ showsDim
  · rintro read inner ⟨⟩
  · exact shows_named _ _ showsEmbedder

end Record

section Outline

theorem dimension_only (n : Nat) (scan : Scan) (shows : Shows (.ofNat n) scan) (d : Option Nat)
    (read : optional word scan = .ok d) : d = some n := by
  obtain ⟨number, only, -⟩ := shows
  cases number with
  | double _ => cases read
  | flawed => cases read
  | integer m =>
      have value := only m rfl
      subst value
      simp only [Decode.optional, word, naturalBelow, wholeBetween] at read
      split at read
      · cases read
        simp
      · cases read

/-- A sidecar that is read at all has the dimension and the number of documents that were written. -/
theorem sidecar_outline (s : Store) (sidecar : Sidecar)
    (read : decodeSidecar (encodeSidecar s) = .ok sidecar) :
    sidecar.dim = some s.dim ∧ sidecar.documents.length = s.size := by
  obtain ⟨dim, documents, embedder, showsDim, showsItems, showsEmbedder, -, decoded⟩ :=
    sidecar_scanned s
  rw [decoded] at read
  -- that all of it is JSON is checked first, and may fail; what it is does not matter here
  obtain ⟨value, -, read⟩ := bind_ok (map_error_ok read)
  rw [decode_record_members dim (.list documents none) embedder
    (sidecar_members_named s dim embedder documents showsDim showsEmbedder)] at read
  obtain ⟨d, readDim, read⟩ := bind_ok read
  obtain ⟨ds, readDocuments, read⟩ := bind_ok read
  obtain ⟨e, -, read⟩ := bind_ok read
  cases read
  refine ⟨dimension_only s.dim dim showsDim d readDim, ?_⟩
  rw [all_length _ _ _ _ readDocuments, shows_items_length _ _ showsItems, List.length_map]
  rfl

end Outline

section Exact

theorem dimension_read (n : Nat) (scan : Scan) (shows : Shows (.ofNat n) scan) (small : n < wordLimit) :
    optional word scan = .ok (some n) := by
  have least : (-2 ^ 63 : Int) ≤ n := by omega
  have most : (n : Int) < 2 ^ 64 := by
    unfold wordLimit at small
    omega
  rw [shows.2.2.1 least most]
  simp only [Decode.optional, word, naturalBelow, wholeBetween]
  rw [if_pos (by simp; omega)]
  rfl

theorem embedder_read (embedder : Option String) (scan : Scan)
    (shows : Shows (.ofText? embedder) scan) : optional text scan = .ok embedder := by
  cases embedder with
  | none =>
      rw [show scan = .null from shows]
      rfl
  | some name =>
      rw [show scan = .text name from shows]
      rfl

/-- The sidecar of a store is read back whole, when its dimension is a machine number and all of its
documents can be restored. -/
theorem sidecar_read (s : Store) (small : s.dim < wordLimit)
    (known : Store.knownName s.embedder = s.embedder)
    (restorable : ∀ d ∈ s.documents, d.Restorable) :
    decodeSidecar (encodeSidecar s) =
      .ok { dim := some s.dim, documents := s.documents, embedder := s.embedder } := by
  obtain ⟨dim, documents, embedder, showsDim, showsItems, showsEmbedder, showsWhole, decoded⟩ :=
    sidecar_scanned s
  have shallow : 0 + (sidecarJson s).nesting < depthLimit := by
    have inside := documents_shallow s.documents restorable
    have plain : (ofText? s.embedder).nesting = 0 := by cases s.embedder <;> rfl
    simp only [sidecarJson, Json.nesting, Json.nestingMembers, plain, Json.ofNat]
    omega
  have integral : (sidecarJson s).Integral := by
    have fits : (s.dim : Int) < 2 ^ 64 := by
      unfold wordLimit at small
      omega
    refine ⟨⟨by omega, fits⟩, documents_integral s.documents restorable, ?_, trivial⟩
    cases s.embedder <;> trivial
  obtain ⟨value, whole, -⟩ := anything_read 0 (sidecarJson s) _ showsWhole integral shallow
  have readDocuments : listOf (Document.decode 0) (.list documents none) = .ok s.documents :=
    all_decode_read s.documents documents showsItems restorable
  rw [decoded, decodeScan, whole]
  show Except.mapError _ (decodeRecord _) = _
  rw [decode_record_members dim (.list documents none) embedder
      (sidecar_members_named s dim embedder documents showsDim showsEmbedder),
    dimension_read s.dim dim showsDim small, readDocuments,
    embedder_read s.embedder embedder showsEmbedder]
  show Except.ok _ = _
  rw [known]

end Exact

end Artifact

end CodeReview
