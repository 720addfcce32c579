import CodeReview.Proofs.Json.Passed
import CodeReview.Proofs.Json.Printed
import CodeReview.Proofs.Metrics.Recorded
import CodeReview.Proofs.Text.Utf8
import Mathlib.Tactic.SplitIfs

/-!
The file of finished reviews is a log: a record adds one line at its end and changes nothing before it. A line
holds no line feed but the one that ends it, because strings are escaped, so the lines of the file are those
that it had and one for each record; and from each the record can be read again.

How the time and the duration are written is not part of this. A reader of the other three members passes over
them.
-/

namespace CodeReview

section Feeds

theorem Text.char_bytes_feed (c : Char) (other : c ≠ '\n') : (10 : UInt8) ∉ charBytes c := by
  have number : c.toNat ≠ 10 := fun same => other (Char.toNat_inj.mp same)
  have valid : c.toNat < 0x110000 := by
    rcases c.valid with below | inside
    · exact Nat.lt_trans below (by decide)
    · exact inside.2
  simp only [charBytes]
  split_ifs <;>
    simp only [List.mem_cons, List.not_mem_nil, or_false, ← UInt8.toNat_inj, UInt8.reduceToNat,
      UInt8.toNat_ofNat'] <;>
    omega

theorem Text.utf8_feed (cs : List Char) (one : '\n' ∉ cs) : (10 : UInt8) ∉ utf8 cs := by
  intro member
  obtain ⟨c, there, byte⟩ := List.mem_flatMap.mp member
  by_cases feed : c = '\n'
  · exact one (feed ▸ there)
  · exact char_bytes_feed c feed byte

/-- The lines of a file. What stands behind the last line feed is a line as well. -/
def linesOf : Bytes → List Bytes
  | [] => []
  | b :: rest =>
      if b = 10 then [] :: linesOf rest
      else
        match linesOf rest with
        | [] => [[b]]
        | line :: more => (b :: line) :: more

def Ended (bytes : Bytes) : Prop := bytes = [] ∨ bytes.getLast? = some 10

theorem lines_line (line rest : Bytes) (one : 10 ∉ line) :
    linesOf (line ++ 10 :: rest) = line :: linesOf rest := by
  induction line with
  | nil => rfl
  | cons b line ih =>
      obtain ⟨other, more⟩ := List.ne_and_not_mem_of_not_mem_cons one
      rw [List.cons_append, linesOf, if_neg other.symm, ih more]

theorem lines_some (b : UInt8) (rest : Bytes) : linesOf (b :: rest) ≠ [] := by
  rw [linesOf]
  split
  · exact List.cons_ne_nil _ _
  · split
    · exact List.cons_ne_nil _ _
    · exact List.cons_ne_nil _ _

theorem ended_tail {b : UInt8} {rest : Bytes} (ended : Ended (b :: rest)) :
    Ended rest ∧ (rest = [] → b = 10) := by
  rcases ended with none | last
  · cases none
  cases rest with
  | nil => exact ⟨.inl rfl, fun _ => Option.some.inj last⟩
  | cons next rest =>
      rw [List.getLast?_cons_cons] at last
      exact ⟨.inr last, nofun⟩

theorem lines_append (bytes more : Bytes) (ended : Ended bytes) :
    linesOf (bytes ++ more) = linesOf bytes ++ linesOf more := by
  induction bytes with
  | nil => rfl
  | cons b rest ih =>
      obtain ⟨restEnded, feed⟩ := ended_tail ended
      rw [List.cons_append, linesOf, linesOf, ih restEnded]
      by_cases isFeed : b = 10
      · rw [if_pos isFeed, if_pos isFeed]
        rfl
      · rw [if_neg isFeed, if_neg isFeed]
        -- a line that has begun is ended further on
        cases rest with
        | nil => exact absurd (feed rfl) isFeed
        | cons next rest =>
            obtain ⟨line, others, same⟩ := List.exists_cons_of_ne_nil (lines_some next rest)
            rw [same]
            rfl

theorem lines_each (lines : List Bytes) (one : ∀ line ∈ lines, 10 ∉ line) :
    linesOf (lines.flatMap (· ++ [10])) = lines := by
  induction lines with
  | nil => rfl
  | cons line rest ih =>
      have others := ih fun other member => one other (List.mem_cons_of_mem line member)
      rw [List.flatMap_cons, List.append_assoc, List.singleton_append,
        lines_line line _ (one line List.mem_cons_self), others]

end Feeds

namespace ReviewMetrics

open Decode Json

structure Noted where
  identifier : String
  findingsCount : Nat
  contextSources : List String
  deriving DecidableEq, Repr

def noted (m : ReviewMetrics) : Noted := ⟨m.identifier, m.findingsCount, m.contextSources⟩

def Noted.fields : List Field :=
  [field "identifier" text, field "findings_count" word, field "context_sources_used" (listOf text)]

/-- Reads the record of a line and passes over its time and its duration. -/
def Noted.decode : Decoder Noted := fun scan => do
  let r ← record Noted.fields scan
  return {
    identifier := ← r.get "identifier" text
    findingsCount := ← r.get "findings_count" word
    contextSources := ← r.get "context_sources_used" (listOf text) }

section Reading

theorem member_names :
    ["timestamp", "identifier", "findings_count", "context_sources_used", "duration_sec"].Nodup := by
  decide

variable (m : ReviewMetrics) (counted : m.findingsCount < wordLimit)

include counted

theorem noted_restores : Restores Noted.decode m.toJson m.noted := by
  intro scan shows
  have identifier := text_restores m.identifier
  have count := word_restores m.findingsCount counted
  have sources := texts_restores m.contextSources
  obtain ⟨kept, read, shown⟩ : ∃ kept, record Noted.fields scan = .ok kept ∧ ShowsMembers _ kept := by
    apply record_passing shows member_names
    simp only [List.forall_mem_cons]
    refine ⟨?_, ?_, ?_, ?_, ?_, nofun⟩
    · intro f has
      cases (show none = some f from has)
    · intro f has
      cases (show some (field "identifier" text) = some f from has)
      exact field_takes identifier
    · intro f has
      cases (show some (field "findings_count" word) = some f from has)
      exact field_takes count
    · intro f has
      cases (show some (field "context_sources_used" (listOf text)) = some f from has)
      exact field_takes sources
    · intro f has
      cases (show none = some f from has)
  rw [Noted.decode, read, ok_bind, get_restores shown "identifier" rfl identifier, ok_bind,
    get_restores shown "findings_count" rfl count, ok_bind,
    get_restores shown "context_sources_used" rfl sources]
  rfl

/-- Whatever the time and the duration are read as, the rest is as it was. -/
theorem decode_noted {scan : Scan} (shows : Shows m.toJson scan) {r : ReviewMetrics}
    (read : ReviewMetrics.decode scan = .ok r) : r.noted = m.noted := by
  obtain ⟨kept, first, read⟩ := bind_ok read
  have shown := record_kept shows member_names first
  obtain ⟨time, -, read⟩ := bind_ok read
  obtain ⟨identifier, named, read⟩ := bind_ok read
  obtain ⟨count, counts, read⟩ := bind_ok read
  obtain ⟨sources, used, read⟩ := bind_ok read
  obtain ⟨duration, -, read⟩ := bind_ok read
  cases read
  rw [get_restores shown "identifier" rfl (text_restores m.identifier)] at named
  rw [get_restores shown "findings_count" rfl (word_restores m.findingsCount counted)] at counts
  rw [get_restores shown "context_sources_used" rfl (texts_restores m.contextSources)] at used
  cases named
  cases counts
  cases used
  rfl

end Reading

end ReviewMetrics

namespace MetricsSink

open Files ReviewMetrics

def body (m : ReviewMetrics) : Bytes := Text.utf8 m.toJson.compact.toList

def notedLine? (bytes : Bytes) : Option Noted := do
  let text ← Text.ofUtf8? bytes
  (Decode.wholeText Noted.decode (String.ofList text)).toOption

section Lines

variable (m : ReviewMetrics)

theorem line_body : line m = body m ++ [10] := List.flatMap_append

theorem body_one_line : 10 ∉ body m := by
  have printed := Json.printed_no_feed (Json.compact_printed m.toJson)
  apply Text.utf8_feed
  rw [Json.compact, String.toList_ofList]
  exact printed

theorem body_noted (counted : m.findingsCount < wordLimit) : notedLine? (body m) = some m.noted := by
  have read := Decode.restores_compact Noted.decode m.toJson m.noted (noted_restores m counted)
  rw [notedLine?, body, Text.of_utf8_exact, Option.bind_eq_bind, Option.bind_some, String.ofList_toList, read]
  rfl

theorem text_noted (counted : m.findingsCount < wordLimit) {r : ReviewMetrics}
    (read : Decode.wholeText ReviewMetrics.decode m.toJson.compact = .ok r) : r.noted = m.noted := by
  have written : Json.Written m.toJson m.toJson.compact.toList := by
    rw [Json.compact, String.toList_ofList]
    exact Json.compact_written m.toJson
  obtain ⟨scan, shows, scanned⟩ := Json.scan_whole_text m.toJson _ written
  unfold Decode.wholeText at read
  rw [scanned] at read
  obtain ⟨value, decoded, read⟩ := bind_ok read
  cases read
  exact decode_noted m counted shows decoded

end Lines

theorem flat_lines (ms : List ReviewMetrics) : ms.flatMap line = (ms.map body).flatMap (· ++ [10]) := by
  rw [List.flatMap_map]
  exact List.flatMap_congr fun m _ => line_body m

theorem lines_added (bytes : Bytes) (ended : Ended bytes) (ms : List ReviewMetrics) :
    linesOf (bytes ++ ms.flatMap line) = linesOf bytes ++ ms.map body := by
  rw [lines_append bytes _ ended, flat_lines, lines_each]
  intro line member
  obtain ⟨m, -, rfl⟩ := List.mem_map.mp member
  exact body_one_line m

/-- Whatever records are handed to a sink, those that are written are the last ones of them, and all of them where
the path can be written at all. The file has their lines behind what it held before, one for each record in
order, and every other file is as it was; and each line is read back as what its record notes. -/
theorem log_appended (path : String) (files : Files) (rooted : files.Rooted) (ms : List ReviewMetrics)
    (counted : ∀ m ∈ ms, m.findingsCount < wordLimit) :
    let later := (recordEach path files ms).1
    let written := (recordEach path files ms).2
    written <:+ ms ∧
      ((∃ made place, prepared path.toList files = .ok made ∧ made.Takes path.toList place) → written = ms) ∧
      (written = [] → Makes files later) ∧
      (written ≠ [] → ∃ place, Appended files later place (written.flatMap line) ∧
        later.find path.toList = .ok (place, .file (files.contentAt place ++ written.flatMap line)) ∧
        (∀ other content, files.find path.toList = .ok (other, .file content) → other = place) ∧
        (Ended (files.contentAt place) →
          linesOf (later.contentAt place) = linesOf (files.contentAt place) ++ written.map body)) ∧
      ∀ m ∈ ms, line m = body m ++ [10] ∧ 10 ∉ body m ∧ notedLine? (body m) = some m.noted ∧
        ∀ r, Decode.wholeText ReviewMetrics.decode m.toJson.compact = .ok r → r.noted = m.noted := by
  intro later written
  have runs := record_each_appends path rooted ms
  refine ⟨?_, ?_, ?_, ?_, ?_⟩
  · rcases runs with ⟨none, -⟩ | ⟨_, _, _, _, suffix, -⟩
    · rw [show written = [] from none]
      exact List.nil_suffix
    · exact suffix
  · rintro ⟨made, place, prepares, takes⟩
    cases ms with
    | nil => rfl
    | cons m rest =>
        have madeRooted := (prepared_makes prepares).rooted rooted
        show (recordEach path files (m :: rest)).2 = m :: rest
        rw [record_each_prepared rooted prepares takes m rest]
        exact (record_each_takes madeRooted takes (m :: rest)).1
  · intro none
    rcases runs with ⟨-, makes⟩ | ⟨_, _, _, _, _, some_, _⟩
    · exact makes
    · exact absurd none some_
  · intro some_
    rcases runs with ⟨none, -⟩ | ⟨made, place, makes, takes, -, -, appended, ends⟩
    · exact absurd none some_
    have whole := makes_appended makes appended
    have filled : written.flatMap line ≠ [] := by
      obtain ⟨m, rest, same⟩ := List.exists_cons_of_ne_nil some_
      rw [same, List.flatMap_cons, line_body]
      simp
    refine ⟨place, whole, takes_found ends (appended_file filled whole), ?_, ?_⟩
    · intro other content found
      exact makes_led makes takes found
    · intro ended
      rw [whole.content]
      exact lines_added _ ended written
  · intro m member
    have small := counted m member
    exact ⟨line_body m, body_one_line m, body_noted m small, fun r read => text_noted m small read⟩

theorem log_appended_feeds :
    let time : Timestamp := ⟨738000, 43200, 0⟩
    let first : ReviewMetrics := ⟨time, "a\nb", 2, ["x\n", "\"y\""], ⟨0⟩⟩
    let second : ReviewMetrics := ⟨time, "", 0, [], ⟨0x7ff0000000000000⟩⟩
    let files : Files := { entries := [(["log".toList], .file [111, 108, 100, 10])] }
    (recordEach "log" files [first, second]).2 = [first, second] ∧
      linesOf ((recordEach "log" files [first, second]).1.contentAt ["log".toList]) =
        [[111, 108, 100], body first, body second] ∧
      notedLine? (body first) = some ⟨"a\nb", 2, ["x\n", "\"y\""]⟩ := by
  intro time first second files
  have rooted : files.Rooted := by
    constructor
    · rfl
    · intro place directory
      cases place with
      | nil => rfl
      | cons name rest =>
          have other : lookup (name :: rest) files.entries = some .directory := directory
          simp only [files, lookup] at other
          split at other <;> cases other
  have takes : files.Takes "log".toList ["log".toList] := ⟨by decide, rfl, .inr ⟨_, rfl⟩⟩
  have counted : ∀ m ∈ [first, second], m.findingsCount < wordLimit := by
    intro m member
    rcases List.mem_pair.mp member with rfl | rfl
    · show 2 < wordLimit
      decide
    · show 0 < wordLimit
      decide
  obtain ⟨-, all, -, log, each⟩ := log_appended "log" files rooted [first, second] counted
  have written := all ⟨files, ["log".toList], rfl, takes⟩
  obtain ⟨place, appended, found, led, lines⟩ := log (by rw [written]; exact List.cons_ne_nil _ _)
  have here : ["log".toList] = place := led _ _ (takes_found takes rfl)
  subst here
  refine ⟨written, ?_, ?_⟩
  · rw [lines (.inr rfl), written]
    rfl
  · exact (each first List.mem_cons_self).2.2.1

end MetricsSink

end CodeReview
