/-!
Text as bytes. Reading goes through the bytes one at a time and knows at each what may come next; where
something else comes, what was read since the last character is one flaw.
-/

namespace CodeReview

abbrev Bytes := List UInt8

namespace Text

section Writing

def charBytes (c : Char) : Bytes :=
  let n := c.toNat
  let low (unit : Nat) : UInt8 := UInt8.ofNat (0x80 + n / unit % 64)
  if n < 0x80 then [UInt8.ofNat n]
  else if n < 0x800 then [UInt8.ofNat (0xc0 + n / 64), low 1]
  else if n < 0x10000 then [UInt8.ofNat (0xe0 + n / 4096), low 64, low 1]
  else [UInt8.ofNat (0xf0 + n / 262144), low 4096, low 64, low 1]

def utf8 (cs : List Char) : Bytes := cs.flatMap charBytes

end Writing

section Reading

structure Partial where
  value : Nat
  /-- Number of the bytes to come, less one. -/
  more : Nat
  /-- Bounds of the next byte. -/
  low : UInt8 := 0x80
  high : UInt8 := 0xbf

/-- What reading a byte gives: the characters and flaws that are known by then, and a character that has
begun. -/
structure Step where
  units : List (Option Char)
  begun : Option Partial := none

/-- Reads a byte at the beginning of a character. The bounds on the byte after it leave out longer forms
of shorter characters, surrogates and numbers beyond the last character. -/
def firstStep (b : UInt8) : Step :=
  let n := b.toNat
  if n < 0x80 then { units := [some (Char.ofNat n)] }
  else if n < 0xc2 then { units := [none] }
  else if n < 0xe0 then { units := [], begun := some { value := n - 0xc0, more := 0 } }
  else if n < 0xf0 then
    { units := []
      begun := some
        { value := n - 0xe0, more := 1
          low := if n == 0xe0 then 0xa0 else 0x80
          high := if n == 0xed then 0x9f else 0xbf } }
  else if n < 0xf5 then
    { units := []
      begun := some
        { value := n - 0xf0, more := 2
          low := if n == 0xf0 then 0x90 else 0x80
          high := if n == 0xf4 then 0x8f else 0xbf } }
  else { units := [none] }

def step (begun : Option Partial) (b : UInt8) : Step :=
  match begun with
  | none => firstStep b
  | some p =>
      if p.low ≤ b && b ≤ p.high then
        let value := p.value * 64 + (b.toNat - 0x80)
        match p.more with
        | 0 => { units := [some (Char.ofNat value)] }
        | n + 1 => { units := [], begun := some { value, more := n } }
      else
        let next := firstStep b
        { next with units := none :: next.units }

def unitsFrom (begun : Option Partial) : Bytes → List (Option Char)
  | [] => if begun.isSome then [none] else []
  | b :: rest =>
      let next := step begun b
      next.units ++ unitsFrom next.begun rest

def units (bytes : Bytes) : List (Option Char) := unitsFrom none bytes

def allPresent : List (Option Char) → Option (List Char)
  | [] => some []
  | none :: _ => none
  | some c :: rest => (allPresent rest).map (c :: ·)

def ofUtf8? (bytes : Bytes) : Option (List Char) := allPresent (units bytes)

/-- The text with a replacement character for every flaw. -/
def ofUtf8Lossy (bytes : Bytes) : List Char := (units bytes).map fun u => u.getD '\ufffd'

end Reading

end Text

end CodeReview
