import CodeReview.Proofs.Json.LongInteger
import CodeReview.Proofs.Json.Written

/-!
What a scan makes of the texts of a value. It reads every such text to its end, whatever stands after it,
and finds the same strings, the same names and as many items as the value has. Numbers are scanned as
numbers; those of sixty-four bits that are written as integers keep their value, and longer integers have
some value as long as a double can hold it.
-/

namespace CodeReview.Json

section Shapes

mutual

def Shows : Json → Scan → Prop
  | .null, scan => scan = .null
  | .bool b, scan => scan = .bool b
  | .integer n, scan =>
      NumberScan scan ∧ (∀ m, scan = .integer m → m = n) ∧
        (- 2 ^ 63 ≤ n → n < 2 ^ 64 → scan = .integer n) ∧
        ((Nat.toDigits 10 n.natAbs).length < 300 → scan ≠ .flawed)
  | .double _, scan => scan = .null ∨ NumberScan scan
  | .text s, scan => scan = .text s
  | .list items, scan => ∃ scans, ShowsItems items scans ∧ scan = .list scans none
  | .object members, scan => ∃ scans, ShowsMembers members scans ∧ scan = .object scans none

def ShowsItems : List Json → List Scan → Prop
  | [], scans => scans = []
  | item :: rest, scans => ∃ first more, Shows item first ∧ ShowsItems rest more ∧ scans = first :: more

def ShowsMembers : List (String × Json) → List (String × Scan) → Prop
  | [], scans => scans = []
  | (name, value) :: rest, scans =>
      ∃ first more, Shows value first ∧ ShowsMembers rest more ∧ scans = (name, first) :: more

end

theorem shows_items_length (items : List Json) (scans : List Scan) (shows : ShowsItems items scans) :
    scans.length = items.length := by
  induction items generalizing scans with
  | nil => simp [show scans = [] from shows]
  | cons item rest ih =>
      obtain ⟨first, more, -, others, rfl⟩ := shows
      simp [ih more others]

end Shapes

section Values

theorem skip_blank (gap rest : List Char) (blank : Blank gap) :
    skipSpace (gap ++ rest) = skipSpace rest := by
  induction gap with
  | nil => rfl
  | cons c gap ih =>
      have space : isSpace c = true := blank c List.mem_cons_self
      rw [List.cons_append, skipSpace, List.dropWhile_cons_of_pos space]
      exact ih fun d member => blank d (List.mem_cons_of_mem c member)

theorem skip_sign (c : Char) (rest : List Char) (sign : isSpace c = false) :
    skipSpace (c :: rest) = c :: rest := by
  rw [skipSpace, List.dropWhile_cons_of_neg (by simp [sign])]

theorem skip_to_sign (gap : List Char) (c : Char) (rest : List Char) (blank : Blank gap)
    (sign : isSpace c = false) : skipSpace (gap ++ c :: rest) = c :: rest := by
  rw [skip_blank gap _ blank, skip_sign c rest sign]

theorem scan_value_blank (fuel : Nat) (gap cs : List Char) (blank : Blank gap) :
    scanValue fuel (gap ++ cs) = scanValue fuel cs := by
  cases fuel with
  | zero => rw [scanValue, scanValue]
  | succ n => simp only [scanValue, skip_blank gap cs blank]

theorem ends_blank (gap rest : List Char) (blank : Blank gap) (ends : Ends rest) :
    Ends (gap ++ rest) := by
  cases gap with
  | nil => exact ends
  | cons c gap =>
      have space := blank c List.mem_cons_self
      simp only [isSpace, Bool.or_eq_true, beq_iff_eq] at space
      apply ends_cons
      rcases space with ((rfl | rfl) | rfl) | rfl <;> decide

/-- What a text of a value begins with tells a reader that a value is there. -/
def Opens (c : Char) : Prop := isSpace c = false ∧ c ≠ ']'

instance (c : Char) : Decidable (Opens c) := inferInstanceAs (Decidable (_ ∧ _))

theorem digit_opens (c : Char) (digit : c.isDigit = true) : Opens c := by
  constructor
  · by_contra space
    simp only [isSpace, Bool.or_eq_true, beq_iff_eq, Bool.not_eq_false] at space
    rcases space with ((rfl | rfl) | rfl) | rfl <;> exact absurd digit (by decide)
  · rintro rfl
    exact absurd digit (by decide)

theorem numeral_opens (cs : List Char) (written : Numeral cs) :
    ∃ c more, cs = c :: more ∧ c.isDigit = true := by
  obtain ⟨whole, fraction, exponent, number, -, -, rfl⟩ := written
  obtain ⟨c, more, rfl⟩ := List.exists_cons_of_ne_nil number.1.1
  exact ⟨c, more ++ (fraction ++ exponent), rfl, number.1.2 c List.mem_cons_self⟩

theorem decimal_numeral (n : Nat) : Numeral (Nat.toDigits 10 n) :=
  ⟨_, [], [], decimal_whole n, .inl rfl, .inl rfl, by simp⟩

theorem integer_text (n : Int) :
    (toString n).toList = (if n < 0 then ['-'] else []) ++ Nat.toDigits 10 n.natAbs := by
  rw [Int.toString_eq_repr, Int.repr_eq_if]
  split
  · next natural =>
      have magnitude : n.toNat = n.natAbs := by omega
      simp [Int.not_lt.mpr natural, magnitude]
  · next negative =>
      have magnitude : (-n).toNat = n.natAbs := by omega
      simp [Int.not_le.mp negative, magnitude]

theorem scan_value_digit (n : Nat) (c : Char) (rest : List Char) (digit : c.isDigit = true) :
    scanValue (n + 1) (c :: rest) = scanNumber false (c :: rest) := by
  rw [scanValue, skip_sign c rest (digit_opens c digit).1]
  dsimp only
  split <;> first | exact absurd digit (by decide) | rw [if_pos digit]

theorem scan_value_minus (n : Nat) (rest : List Char) :
    scanValue (n + 1) ('-' :: rest) = scanNumber true rest := by
  rw [scanValue, skip_sign '-' rest (by decide)]
  rfl

theorem scan_value_numeral (n : Nat) (sign cs rest : List Char) (signed : sign = [] ∨ sign = ['-'])
    (written : Numeral cs) (ends : Ends rest) :
    ∃ scan, NumberScan scan ∧ scanValue (n + 1) (sign ++ cs ++ rest) = ⟨scan, some rest⟩ := by
  rcases signed with rfl | rfl
  · obtain ⟨c, more, rfl, digit⟩ := numeral_opens cs written
    rw [List.nil_append, List.cons_append, scan_value_digit n c _ digit]
    exact scan_number false (c :: more) rest written ends
  · rw [List.singleton_append, List.cons_append, scan_value_minus]
    exact scan_number true cs rest written ends

theorem shows_whole_number (n : Int) :
    Shows (.integer n)
      (wholeNumber (decide (n < 0)) ((Nat.toDigits 10 n.natAbs).foldl Significand.push {})) := by
  refine ⟨whole_number_scan _ _, fun m read => ?_, fun low high => ?_, long_integer_value _ _⟩
  · have value := whole_number_only _ _ m read
    simp only [decide_eq_true_eq] at value
    split at value <;> omega
  · by_cases negative : n < 0
    · have value : -(n.natAbs : Int) = n := by omega
      rw [decide_eq_true negative, whole_number_negative _ (by omega) (by omega), value]
    · have value : (n.natAbs : Int) = n := by omega
      have fits : n.natAbs < wordLimit := by
        unfold wordLimit
        omega
      rw [decide_eq_false negative, whole_number_natural _ fits, value]

theorem scan_integer (n : Int) (fuel : Nat) (rest : List Char) (ends : Ends rest) :
    ∃ scan, Shows (.integer n) scan ∧
      scanValue (fuel + 1) ((toString n).toList ++ rest) = ⟨scan, some rest⟩ := by
  refine ⟨_, shows_whole_number n, ?_⟩
  rw [integer_text]
  by_cases negative : n < 0
  · rw [if_pos negative, List.singleton_append, List.cons_append, scan_value_minus,
      scan_decimal true _ rest ends, decide_eq_true negative]
  · obtain ⟨c, more, digits, digit⟩ := numeral_opens _ (decimal_numeral n.natAbs)
    have scanned := scan_decimal false n.natAbs rest ends
    rw [digits, List.cons_append] at scanned
    rw [if_neg negative, List.nil_append, digits, List.cons_append, scan_value_digit _ c _ digit,
      scanned, decide_eq_false negative]

theorem double_text_null (d : Decimal.Double) (infinite : ¬ d.isFinite = true) :
    doubleText d = "null" := by
  simp [doubleText, infinite]

theorem scan_double (d : Decimal.Double) (fuel : Nat) (rest : List Char) (ends : Ends rest) :
    ∃ scan, Shows (.double d) scan ∧
      scanValue (fuel + 1) ((doubleText d).toList ++ rest) = ⟨scan, some rest⟩ := by
  by_cases finite : d.isFinite = true
  · obtain ⟨sign, cs, signed, written, same⟩ := double_text_numeral d finite
    obtain ⟨scan, number, scanned⟩ := scan_value_numeral fuel sign cs rest signed written ends
    exact ⟨scan, .inr number, by rw [same, scanned]⟩
  · exact ⟨.null, .inl rfl, by rw [double_text_null d finite]; rfl⟩

theorem written_opens (j : Json) (text : List Char) (written : Written j text) :
    ∃ c more, text = c :: more ∧ Opens c := by
  cases j with
  | null => exact ⟨'n', _, written, by decide⟩
  | bool b =>
      cases b with
      | true => exact ⟨'t', _, written, by decide⟩
      | false => exact ⟨'f', _, written, by decide⟩
  | integer n =>
      rw [show text = _ from written, integer_text]
      split
      · exact ⟨'-', _, rfl, by decide⟩
      · obtain ⟨c, more, same, digit⟩ := numeral_opens _ (decimal_numeral n.natAbs)
        exact ⟨c, more, same, digit_opens c digit⟩
  | double d =>
      rw [show text = _ from written]
      by_cases finite : d.isFinite = true
      · obtain ⟨sign, cs, signed, numeral, same⟩ := double_text_numeral d finite
        rw [same]
        rcases signed with rfl | rfl
        · obtain ⟨c, more, rfl, digit⟩ := numeral_opens cs numeral
          exact ⟨c, more, rfl, digit_opens c digit⟩
        · exact ⟨'-', cs, rfl, by decide⟩
      · rw [double_text_null d finite]
        exact ⟨'n', _, rfl, by decide⟩
  | text s =>
      obtain ⟨inside, -, rfl⟩ := written
      exact ⟨'"', _, rfl, by decide⟩
  | list items =>
      obtain ⟨body, -, rfl⟩ := written
      exact ⟨'[', body, rfl, by decide⟩
  | object members =>
      obtain ⟨body, -, rfl⟩ := written
      exact ⟨'\x7b', body, rfl, by decide⟩

theorem ends_sign (gap : List Char) (c : Char) (rest : List Char) (blank : Blank gap)
    (other : c.isDigit = false ∧ c ≠ '.' ∧ c ≠ 'e' ∧ c ≠ 'E') : Ends (gap ++ c :: rest) :=
  ends_blank gap _ blank (ends_cons c rest other)

end Values

/-! One item or member is scanned as a whole before the sign after it is looked at, so the scan of a
container goes along its text, and the fuel is bounded by the length of what is left. -/
section Containers

theorem scan_items_more (n : Nat) (done : List Scan) (before text after rest : List Char) (item : Json)
    (scan : Scan) (blankBefore : Blank before) (blankAfter : Blank after) (written : Written item text)
    (scanned : scanValue n (text ++ (after ++ ',' :: rest)) = ⟨scan, some (after ++ ',' :: rest)⟩) :
    scanItems (n + 1) done (before ++ (text ++ (after ++ ',' :: rest))) =
      scanItems n (scan :: done) rest := by
  obtain ⟨c, more, rfl, space, bracket⟩ := written_opens item text written
  rw [scanItems, List.cons_append, skip_to_sign before c _ blankBefore space]
  rw [List.cons_append] at scanned
  split
  · next same => cases same
  · next same =>
      cases same
      exact absurd rfl bracket
  · simp only [scanned, skip_to_sign after ',' rest blankAfter (by decide)]

theorem scan_items_last (n : Nat) (done : List Scan) (before text after rest : List Char) (item : Json)
    (scan : Scan) (blankBefore : Blank before) (blankAfter : Blank after) (written : Written item text)
    (scanned : scanValue n (text ++ (after ++ ']' :: rest)) = ⟨scan, some (after ++ ']' :: rest)⟩) :
    scanItems (n + 1) done (before ++ (text ++ (after ++ ']' :: rest))) =
      ⟨.list (scan :: done).reverse none, some rest⟩ := by
  obtain ⟨c, more, rfl, space, bracket⟩ := written_opens item text written
  rw [scanItems, List.cons_append, skip_to_sign before c _ blankBefore space]
  rw [List.cons_append] at scanned
  split
  · next same => cases same
  · next same =>
      cases same
      exact absurd rfl bracket
  · simp only [scanned, skip_to_sign after ']' rest blankAfter (by decide)]

theorem scan_members_more (n : Nat) (done : List (String × Scan))
    (before quoted beforeColon afterColon text after rest : List Char) (name : String) (scan : Scan)
    (blankBefore : Blank before) (spelled : Quoted name quoted) (blankBeforeColon : Blank beforeColon)
    (blankAfterColon : Blank afterColon) (blankAfter : Blank after)
    (scanned : scanValue n (text ++ (after ++ ',' :: rest)) = ⟨scan, some (after ++ ',' :: rest)⟩) :
    scanMembers (n + 1) done (before ++ (quoted ++ (beforeColon ++ ':' :: (afterColon ++ (text ++
      (after ++ ',' :: rest)))))) =
      scanMembers n ((name, scan) :: done) rest := by
  obtain ⟨inside, spelled, rfl⟩ := spelled
  have read := scan_quoted name inside
    (beforeColon ++ ':' :: (afterColon ++ (text ++ (after ++ ',' :: rest)))) spelled
  rw [List.cons_append, List.append_assoc, List.singleton_append, scanMembers,
    skip_to_sign before '"' _ blankBefore (by decide)]
  simp only [read, skip_to_sign beforeColon ':' _ blankBeforeColon (by decide),
    scan_value_blank n afterColon _ blankAfterColon, scanned,
    skip_to_sign after ',' rest blankAfter (by decide)]

theorem scan_members_last (n : Nat) (done : List (String × Scan))
    (before quoted beforeColon afterColon text after rest : List Char) (name : String) (scan : Scan)
    (blankBefore : Blank before) (spelled : Quoted name quoted) (blankBeforeColon : Blank beforeColon)
    (blankAfterColon : Blank afterColon) (blankAfter : Blank after)
    (scanned : scanValue n (text ++ (after ++ '\x7d' :: rest)) =
      ⟨scan, some (after ++ '\x7d' :: rest)⟩) :
    scanMembers (n + 1) done (before ++ (quoted ++ (beforeColon ++ ':' :: (afterColon ++ (text ++
      (after ++ '\x7d' :: rest)))))) =
      ⟨.object ((name, scan) :: done).reverse none, some rest⟩ := by
  obtain ⟨inside, spelled, rfl⟩ := spelled
  have read := scan_quoted name inside
    (beforeColon ++ ':' :: (afterColon ++ (text ++ (after ++ '\x7d' :: rest)))) spelled
  rw [List.cons_append, List.append_assoc, List.singleton_append, scanMembers,
    skip_to_sign before '"' _ blankBefore (by decide)]
  simp only [read, skip_to_sign beforeColon ':' _ blankBeforeColon (by decide),
    scan_value_blank n afterColon _ blankAfterColon, scanned,
    skip_to_sign after '\x7d' rest blankAfter (by decide)]

theorem written_items_open (item : Json) (rest : List Json) (text : List Char)
    (written : WrittenItems (item :: rest) text) :
    ∃ gap c tail, text = gap ++ c :: tail ∧ Blank gap ∧ Opens c := by
  cases rest with
  | nil =>
      obtain ⟨before, itemText, after, blank, -, itemWritten, rfl⟩ := written
      obtain ⟨c, more, rfl, opens⟩ := written_opens item itemText itemWritten
      exact ⟨before, c, _, rfl, blank, opens⟩
  | cons next rest =>
      obtain ⟨before, itemText, after, _, blank, -, itemWritten, -, rfl⟩ := written
      obtain ⟨c, more, rfl, opens⟩ := written_opens item itemText itemWritten
      exact ⟨before, c, _, rfl, blank, opens⟩

theorem written_members_open (member : String × Json) (rest : List (String × Json))
    (text : List Char) (written : WrittenMembers (member :: rest) text) :
    ∃ gap tail, text = gap ++ '"' :: tail ∧ Blank gap := by
  cases rest with
  | nil =>
      obtain ⟨before, _, _, _, _, _, blank, ⟨inside, -, rfl⟩, -, -, -, -, rfl⟩ := written
      exact ⟨before, _, rfl, blank⟩
  | cons next rest =>
      obtain ⟨before, _, _, _, _, _, _, blank, ⟨inside, -, rfl⟩, -, -, -, -, -, rfl⟩ := written
      exact ⟨before, _, rfl, blank⟩

mutual

theorem scan_written (j : Json) (text rest : List Char) (fuel : Nat) (written : Written j text)
    (ends : Ends rest) (enough : 2 * text.length ≤ fuel) :
    ∃ scan, Shows j scan ∧ scanValue fuel (text ++ rest) = ⟨scan, some rest⟩ := by
  -- a value and each of its items take fuel, and every one of them at least a character
  obtain ⟨c, more, opening, -⟩ := written_opens j text written
  obtain ⟨n, rfl⟩ : ∃ n, fuel = n + 1 :=
    Nat.exists_eq_add_one_of_ne_zero (by rw [opening, List.length_cons] at enough; omega)
  match j with
  | .null =>
      rw [show text = _ from written]
      exact ⟨.null, rfl, rfl⟩
  | .bool true =>
      rw [show text = _ from written]
      exact ⟨.bool true, rfl, rfl⟩
  | .bool false =>
      rw [show text = _ from written]
      exact ⟨.bool false, rfl, rfl⟩
  | .integer number =>
      rw [show text = _ from written]
      exact scan_integer number n rest ends
  | .double d =>
      rw [show text = _ from written]
      exact scan_double d n rest ends
  | .text s =>
      obtain ⟨inside, spelled, rfl⟩ := written
      refine ⟨.text s, rfl, ?_⟩
      have read := scan_quoted s inside rest spelled
      rw [List.cons_append, List.append_assoc, List.singleton_append, scanValue,
        skip_sign '"' _ (by decide)]
      exact read
  | .list [] =>
      obtain ⟨body, ⟨gap, blank, rfl⟩, rfl⟩ := written
      refine ⟨.list [] none, ⟨[], rfl, rfl⟩, ?_⟩
      rw [List.cons_append, List.append_assoc, List.singleton_append, scanValue,
        skip_sign '[' _ (by decide)]
      simp only [skip_to_sign gap ']' rest blank (by decide)]
  | .list (item :: items) =>
      obtain ⟨body, bodyWritten, rfl⟩ := written
      rw [List.length_cons] at enough
      obtain ⟨scans, shows, scanned⟩ := scan_written_items (item :: items) (List.cons_ne_nil _ _) body
        rest n [] bodyWritten (by omega)
      obtain ⟨gap, c, tail, same, blank, space, bracket⟩ := written_items_open item items body bodyWritten
      refine ⟨.list scans none, ⟨scans, shows, rfl⟩, ?_⟩
      rw [List.cons_append, scanValue, skip_sign '[' _ (by decide)]
      simp only [same, List.append_assoc, List.cons_append, skip_to_sign gap c _ blank space]
      split
      · next closing =>
          cases closing
          exact absurd rfl bracket
      · simpa [same] using scanned
  | .object [] =>
      obtain ⟨body, ⟨gap, blank, rfl⟩, rfl⟩ := written
      refine ⟨.object [] none, ⟨[], rfl, rfl⟩, ?_⟩
      rw [List.cons_append, List.append_assoc, List.singleton_append, scanValue,
        skip_sign '\x7b' _ (by decide)]
      simp only [skip_to_sign gap '\x7d' rest blank (by decide)]
  | .object (member :: members) =>
      obtain ⟨body, bodyWritten, rfl⟩ := written
      rw [List.length_cons] at enough
      obtain ⟨scans, shows, scanned⟩ := scan_written_members (member :: members)
        (List.cons_ne_nil _ _) body rest n [] bodyWritten (by omega)
      obtain ⟨gap, tail, same, blank⟩ := written_members_open member members body bodyWritten
      refine ⟨.object scans none, ⟨scans, shows, rfl⟩, ?_⟩
      rw [List.cons_append, scanValue, skip_sign '\x7b' _ (by decide)]
      simp only [same, List.append_assoc, List.cons_append, skip_to_sign gap '"' _ blank (by decide)]
      simpa [same] using scanned

theorem scan_written_items (items : List Json) (nonempty : items ≠ []) (text rest : List Char)
    (fuel : Nat) (done : List Scan) (written : WrittenItems items text)
    (enough : 2 * text.length + 1 ≤ fuel) :
    ∃ scans, ShowsItems items scans ∧
      scanItems fuel done (text ++ rest) = ⟨.list (done.reverse ++ scans) none, some rest⟩ := by
  obtain ⟨n, rfl⟩ : ∃ n, fuel = n + 1 := Nat.exists_eq_add_one_of_ne_zero (by omega)
  match items with
  | [] => exact absurd rfl nonempty
  | [item] =>
      obtain ⟨before, itemText, after, blankBefore, blankAfter, itemWritten, rfl⟩ := written
      simp only [List.length_append, List.length_singleton] at enough
      obtain ⟨scan, shows, scanned⟩ := scan_written item itemText (after ++ ']' :: rest) n itemWritten
        (ends_sign after ']' rest blankAfter (by decide)) (by omega)
      refine ⟨[scan], ⟨scan, [], shows, rfl, rfl⟩, ?_⟩
      have last := scan_items_last n done before itemText after rest item scan blankBefore blankAfter
        itemWritten scanned
      simpa using last
  | item :: next :: others =>
      obtain ⟨before, itemText, after, more, blankBefore, blankAfter, itemWritten, moreWritten, rfl⟩ :=
        written
      simp only [List.length_append, List.length_cons] at enough
      obtain ⟨scan, shows, scanned⟩ := scan_written item itemText (after ++ ',' :: (more ++ rest)) n
        itemWritten (ends_sign after ',' _ blankAfter (by decide)) (by omega)
      obtain ⟨scans, others, allScanned⟩ := scan_written_items (next :: others) (List.cons_ne_nil _ _)
        more rest n (scan :: done) moreWritten (by omega)
      refine ⟨scan :: scans, ⟨scan, scans, shows, others, rfl⟩, ?_⟩
      have first := scan_items_more n done before itemText after (more ++ rest) item scan blankBefore
        blankAfter itemWritten scanned
      simpa [allScanned] using first

theorem scan_written_members (members : List (String × Json)) (nonempty : members ≠ [])
    (text rest : List Char) (fuel : Nat) (done : List (String × Scan))
    (written : WrittenMembers members text) (enough : 2 * text.length + 1 ≤ fuel) :
    ∃ scans, ShowsMembers members scans ∧
      scanMembers fuel done (text ++ rest) = ⟨.object (done.reverse ++ scans) none, some rest⟩ := by
  obtain ⟨n, rfl⟩ : ∃ n, fuel = n + 1 := Nat.exists_eq_add_one_of_ne_zero (by omega)
  match members with
  | [] => exact absurd rfl nonempty
  | [(name, value)] =>
      obtain ⟨before, quoted, beforeColon, afterColon, valueText, after, blankBefore, spelled,
        blankBeforeColon, blankAfterColon, blankAfter, valueWritten, rfl⟩ := written
      simp only [List.length_append, List.length_cons, List.length_nil] at enough
      obtain ⟨scan, shows, scanned⟩ := scan_written value valueText (after ++ '\x7d' :: rest) n
        valueWritten (ends_sign after '\x7d' rest blankAfter (by decide)) (by omega)
      refine ⟨[(name, scan)], ⟨scan, [], shows, rfl, rfl⟩, ?_⟩
      have last := scan_members_last n done before quoted beforeColon afterColon valueText after rest
        name scan blankBefore spelled blankBeforeColon blankAfterColon blankAfter scanned
      simpa using last
  | (name, value) :: next :: others =>
      obtain ⟨before, quoted, beforeColon, afterColon, valueText, after, more, blankBefore, spelled,
        blankBeforeColon, blankAfterColon, blankAfter, valueWritten, moreWritten, rfl⟩ := written
      simp only [List.length_append, List.length_cons] at enough
      obtain ⟨scan, shows, scanned⟩ := scan_written value valueText (after ++ ',' :: (more ++ rest)) n
        valueWritten (ends_sign after ',' _ blankAfter (by decide)) (by omega)
      obtain ⟨scans, others, allScanned⟩ := scan_written_members (next :: others)
        (List.cons_ne_nil _ _) more rest n ((name, scan) :: done) moreWritten (by omega)
      refine ⟨(name, scan) :: scans, ⟨scan, scans, shows, others, rfl⟩, ?_⟩
      have first := scan_members_more n done before quoted beforeColon afterColon valueText after
        (more ++ rest) name scan blankBefore spelled blankBeforeColon blankAfterColon blankAfter scanned
      simpa [allScanned] using first

end

/-- A text of a value and nothing else is scanned as that value. -/
theorem scan_whole_text (j : Json) (text : List Char) (written : Written j text) :
    ∃ scan, Shows j scan ∧ scanText text = ⟨scan, some []⟩ := by
  obtain ⟨scan, shows, scanned⟩ := scan_written j text [] (2 * text.length + 2) written ends_nil
    (by omega)
  rw [List.append_nil] at scanned
  exact ⟨scan, shows, scanned⟩

end Containers

end CodeReview.Json
