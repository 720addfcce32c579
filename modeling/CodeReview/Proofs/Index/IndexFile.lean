import CodeReview.Index.Artifact
import Mathlib.Data.Nat.Bitwise
import Mathlib.Tactic.Ring

/-!
The bytes of an index file. A file is read exactly when it is the one that would be written for what was
read from it, so no two files are read alike.
-/

namespace CodeReview

open Decimal (Single)

namespace Artifact

section Numbers

theorem little_endian_length (width n : Nat) : (littleEndian width n).length = width := by
  induction width generalizing n with
  | zero => rfl
  | succ w ih => rw [littleEndian, List.length_cons, ih]

theorem of_little_endian (width n : Nat) :
    ofLittleEndian (littleEndian width n) = n % 256 ^ width := by
  induction width generalizing n with
  | zero => rw [littleEndian, ofLittleEndian, Nat.pow_zero, Nat.mod_one]
  | succ w ih =>
      have lowest : n % 256 % 2 ^ 8 = n % 256 := Nat.mod_mod n 256
      rw [littleEndian, ofLittleEndian, ih, UInt8.toNat_ofNat', lowest, Nat.pow_succ', Nat.mod_mul]

theorem little_endian_exact (bytes : Bytes) :
    littleEndian bytes.length (ofLittleEndian bytes) = bytes := by
  induction bytes with
  | nil => rfl
  | cons b rest ih =>
      have byte : b.toNat < 256 := b.toNat_lt
      have lowest : (b.toNat + 256 * ofLittleEndian rest) % 256 = b.toNat := by omega
      have others : (b.toNat + 256 * ofLittleEndian rest) / 256 = ofLittleEndian rest := by omega
      rw [List.length_cons, littleEndian, ofLittleEndian, lowest, others, ih, UInt8.ofNat_toNat]

theorem of_little_endian_bound (bytes : Bytes) : ofLittleEndian bytes < 256 ^ bytes.length := by
  induction bytes with
  | nil => exact Nat.one_pos
  | cons b rest ih =>
      have byte : b.toNat < 256 := b.toNat_lt
      rw [ofLittleEndian, List.length_cons, Nat.pow_succ]
      omega

end Numbers

section Coordinates

theorem byte_above (low byte shift : Nat) (below : low < 2 ^ shift) :
    low ||| byte <<< shift = low + byte * 2 ^ shift := by
  rw [Nat.or_comm, ← Nat.shiftLeft_add_eq_or_of_lt below, Nat.shiftLeft_eq, Nat.add_comm]

theorem single_value (a b c d : UInt8) :
    (Single.ofBytes a b c d).bits.toNat = ofLittleEndian [a, b, c, d] := by
  have first : a.toNat < 256 := a.toNat_lt
  have second : b.toNat < 256 := b.toNat_lt
  have third : c.toNat < 256 := c.toNat_lt
  have fourth : d.toNat < 256 := d.toNat_lt
  -- no bit is shifted out of the thirty-two
  have shifted : ∀ n < 256, ∀ shift ≤ 24, n <<< shift % 2 ^ 32 = n <<< shift := by
    intro n byte shift low
    have power : 2 ^ shift ≤ 2 ^ 24 := Nat.pow_le_pow_right (by decide) low
    rw [Nat.shiftLeft_eq]
    have room : n * 2 ^ shift < 256 * 2 ^ 24 := Nat.mul_lt_mul_of_lt_of_le byte power (by decide)
    exact Nat.mod_eq_of_lt room
  simp only [Single.ofBytes, UInt32.toNat_or, UInt32.toNat_shiftLeft, UInt8.toNat_toUInt32]
  show ((a.toNat ||| b.toNat <<< 8 % 2 ^ 32) ||| c.toNat <<< 16 % 2 ^ 32) |||
    d.toNat <<< 24 % 2 ^ 32 = _
  rw [shifted _ second 8 (by decide), shifted _ third 16 (by decide), shifted _ fourth 24 (by decide),
    byte_above _ _ 8 (by omega), byte_above _ _ 16 (by omega), byte_above _ _ 24 (by omega)]
  simp only [ofLittleEndian]
  omega

theorem single_bytes (x : Single) : x.bytes = littleEndian 4 x.bits.toNat := by
  simp only [Single.bytes, littleEndian, Nat.div_div_eq_div_mul]
  refine congrArg₂ _ ?_ (congrArg₂ _ ?_ (congrArg₂ _ ?_ (congrArg₂ _ ?_ rfl)))
  all_goals
    apply UInt8.toNat_inj.mp
    simp [UInt32.toNat_shiftRight, Nat.shiftRight_eq_div_pow]

theorem single_bytes_exact (a b c d : UInt8) : (Single.ofBytes a b c d).bytes = [a, b, c, d] := by
  rw [single_bytes, single_value]
  exact little_endian_exact [a, b, c, d]

theorem of_bytes_exact (x : Single) :
    ∃ a b c d, x.bytes = [a, b, c, d] ∧ Single.ofBytes a b c d = x := by
  refine ⟨_, _, _, _, rfl, ?_⟩
  have value := single_value x.bits.toUInt8 (x.bits >>> 8).toUInt8 (x.bits >>> 16).toUInt8
    (x.bits >>> 24).toUInt8
  rw [show [_, _, _, _] = x.bytes from rfl, single_bytes, of_little_endian] at value
  have same : (Single.ofBytes x.bits.toUInt8 (x.bits >>> 8).toUInt8 (x.bits >>> 16).toUInt8
      (x.bits >>> 24).toUInt8).bits = x.bits := by
    apply UInt32.toNat_inj.mp
    rw [value]
    exact Nat.mod_eq_of_lt x.bits.toNat_lt
  exact congrArg Single.mk same

theorem singles_exact (xs : List Single) : singles (xs.flatMap Single.bytes) = xs := by
  induction xs with
  | nil => rfl
  | cons x rest ih =>
      obtain ⟨a, b, c, d, bytes, same⟩ := of_bytes_exact x
      rw [List.flatMap_cons, bytes]
      show Single.ofBytes a b c d :: singles (rest.flatMap Single.bytes) = _
      rw [same, ih]

theorem coordinates_length (xs : List Single) : (xs.flatMap Single.bytes).length = 4 * xs.length := by
  induction xs with
  | nil => rfl
  | cons x rest ih =>
      rw [List.flatMap_cons, List.length_append, ih, List.length_cons]
      show 4 + 4 * rest.length = _
      omega

theorem coordinates_exact (count : Nat) (body : Bytes) (fits : body.length = 4 * count) :
    (singles body).length = count ∧ (singles body).flatMap Single.bytes = body := by
  induction count generalizing body with
  | zero =>
      rw [List.length_eq_zero_iff.mp fits]
      exact ⟨rfl, rfl⟩
  | succ n ih =>
      match body with
      | [] | [_] | [_, _] | [_, _, _] =>
          simp only [List.length_cons, List.length_nil] at fits
          omega
      | a :: b :: c :: d :: rest =>
          simp only [List.length_cons] at fits
          obtain ⟨length, same⟩ := ih rest (by omega)
          rw [singles, List.length_cons, length, List.flatMap_cons, single_bytes_exact, same]
          exact ⟨rfl, rfl⟩

end Coordinates

section Header

theorem header_length (dim count : Nat) : (header dim count).length = headerLength := by
  simp only [header, List.length_append, little_endian_length]
  rfl

theorem header_first (dim count : Nat) (body : Bytes) :
    (header dim count ++ body).take headerLength = header dim count := by
  rw [← header_length dim count, List.take_left]

theorem header_parts (dim count : Nat) (body : Bytes) :
    (header dim count ++ body).take 4 = magic ∧
      ((header dim count ++ body).drop 4).take 4 = littleEndian 4 version ∧
      ((header dim count ++ body).drop 8).take 4 = littleEndian 4 dim ∧
      ((header dim count ++ body).drop 12).take 8 = littleEndian 8 count ∧
      (header dim count ++ body).drop headerLength = body :=
  ⟨rfl, rfl, rfl, rfl, rfl⟩

/-- Headers are alike when the numbers are, as far as there is room for them. -/
theorem header_alike (dim count dim' count' : Nat) (same : header dim count = header dim' count') :
    dim % 2 ^ 32 = dim' % 2 ^ 32 ∧ count % 2 ^ 64 = count' % 2 ^ 64 := by
  obtain ⟨-, -, dims, counts, -⟩ := header_parts dim count []
  obtain ⟨-, -, dims', counts', -⟩ := header_parts dim' count' []
  rw [same, dims'] at dims
  rw [same, counts'] at counts
  have dimValue := congrArg ofLittleEndian dims
  have countValue := congrArg ofLittleEndian counts
  rw [of_little_endian, of_little_endian] at dimValue countValue
  exact ⟨dimValue.symm, countValue.symm⟩

theorem part_length (bytes : Bytes) (offset width : Nat) (inside : offset + width ≤ bytes.length) :
    ((bytes.drop offset).take width).length = width := by
  rw [List.length_take, List.length_drop]
  omega

theorem header_exact (bytes : Bytes) (long : headerLength ≤ bytes.length)
    (marked : bytes.take 4 = magic) (current : ofLittleEndian ((bytes.drop 4).take 4) = version) :
    header (ofLittleEndian ((bytes.drop 8).take 4)) (ofLittleEndian ((bytes.drop 12).take 8)) ++
      bytes.drop headerLength = bytes := by
  have part : ∀ offset width, offset + width ≤ bytes.length →
      littleEndian width (ofLittleEndian ((bytes.drop offset).take width)) =
        (bytes.drop offset).take width := by
    intro offset width inside
    have exact_ := little_endian_exact ((bytes.drop offset).take width)
    rwa [part_length bytes offset width inside] at exact_
  have join : ∀ offset width rest, rest = offset + width →
      (bytes.drop offset).take width ++ bytes.drop rest = bytes.drop offset := by
    rintro offset width rest rfl
    rw [← List.drop_drop, List.take_append_drop]
  unfold headerLength at long
  rw [header, ← marked, ← current, part 4 4 (by omega), part 8 4 (by omega), part 12 8 (by omega),
    List.append_assoc, List.append_assoc, List.append_assoc, join 12 8 headerLength rfl,
    join 8 4 12 rfl, join 4 4 8 rfl, List.take_append_drop]

end Header

section Content

/-- What an index file can say: as many coordinates as the header tells, and a number of bytes that a
machine can count. -/
structure IndexContent.Sound (index : IndexContent) : Prop where
  dim_small : index.dim < 2 ^ 32
  count_small : index.count < 2 ^ 64
  whole : index.vectors.length = index.count * index.dim
  addressable : index.count * index.dim * 4 < wordLimit
  extended : 0 < index.count → 0 < index.dim

def IndexContent.bytes (index : IndexContent) : Bytes :=
  header index.dim index.count ++ index.vectors.flatMap Single.bytes

theorem content_length (index : IndexContent) :
    index.bytes.length = headerLength + 4 * index.vectors.length := by
  rw [IndexContent.bytes, List.length_append, header_length, coordinates_length]

theorem content_read (index : IndexContent) (sound : index.Sound) :
    decodeIndex index.bytes = .ok index := by
  obtain ⟨marked, current, dims, counts, body⟩ :=
    header_parts index.dim index.count (index.vectors.flatMap Single.bytes)
  have long : ¬ index.bytes.length < headerLength := by
    rw [content_length]
    omega
  have dimValue : index.dim % 256 ^ 4 = index.dim := Nat.mod_eq_of_lt sound.dim_small
  have countValue : index.count % 256 ^ 8 = index.count := Nat.mod_eq_of_lt sound.count_small
  have fits : 4 * index.vectors.length = index.count * index.dim * 4 := by
    rw [sound.whole, Nat.mul_comm]
  have addressable : ¬ wordLimit ≤ index.count * index.dim * 4 := Nat.not_le.mpr sound.addressable
  have extended : ¬ (0 < index.count ∧ index.dim = 0) := fun flat =>
    Nat.ne_of_gt (sound.extended flat.1) flat.2
  unfold decodeIndex
  rw [if_neg long]
  simp only [IndexContent.bytes, marked, current, dims, counts, body, of_little_endian, dimValue,
    countValue, coordinates_length, fits, singles_exact]
  rw [if_neg (by simp), if_neg (by decide), if_neg addressable, if_neg (by simp), if_neg extended]

/-- A file is read as some content exactly when it is the file that would be written for it. -/
theorem decode_index_exact (bytes : Bytes) (index : IndexContent) :
    decodeIndex bytes = .ok index ↔ index.Sound ∧ bytes = index.bytes := by
  constructor
  · intro read
    unfold decodeIndex at read
    split at read
    · cases read
    next long =>
    split at read
    · cases read
    next marked =>
    dsimp only at read
    split at read
    · cases read
    next current =>
    split at read
    · cases read
    next addressable =>
    split at read
    · cases read
    next fits =>
    split at read
    · cases read
    next extended =>
    -- all checks have passed, and what they say of the bytes is that a header is before the rows
    cases read
    simp only [ne_eq, Decidable.not_not] at marked current fits
    have room : 20 ≤ bytes.length := Nat.le_of_not_lt long
    have dimWidth := part_length bytes 8 4 (by omega)
    have countWidth := part_length bytes 12 8 (by omega)
    have dimSmall := of_little_endian_bound ((bytes.drop 8).take 4)
    have countSmall := of_little_endian_bound ((bytes.drop 12).take 8)
    rw [dimWidth] at dimSmall
    rw [countWidth] at countSmall
    obtain ⟨whole, same⟩ := coordinates_exact _ (bytes.drop headerLength) (by rw [fits, Nat.mul_comm])
    refine ⟨⟨dimSmall, countSmall, whole, Nat.lt_of_not_le addressable, fun rows => ?_⟩, ?_⟩
    · exact Nat.pos_of_ne_zero fun flat => extended ⟨rows, flat⟩
    · rw [IndexContent.bytes, same, header_exact bytes (Nat.le_of_not_lt long) marked current]
  · rintro ⟨sound, rfl⟩
    exact content_read index sound

end Content

end Artifact

end CodeReview
