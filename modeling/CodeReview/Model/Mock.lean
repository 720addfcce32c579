import CodeReview.Model.Provider
import CodeReview.Text.Utf8

/-!
A provider that needs no model. Its answers are fixed; its vectors are made from a hash of the text, so
that a text always has the same one, of length 1.
-/

namespace CodeReview.Mock

open Decimal (Single)

def reviewAnswer : String :=
  "\n".intercalate
    ["FINDINGS:",
      "- filename: sample.py | line: 10 | severity: warning | message: Variable name too short.",
      "- filename: sample.py | line: 22 | severity: info | message: Consider adding documentation.",
      ""]

def testAnswer : String :=
  "\n".intercalate
    ["TEST_FILE:",
      "test_generated.py",
      "TEST_CODE:",
      "def test_module_imports():",
      "    assert module is not None",
      ""]

section Embedding

/-- The FNV-1a hash in sixty-four bits. -/
def hash (bytes : Bytes) : UInt64 :=
  bytes.foldl (fun h b => (h ^^^ b.toUInt64) * 0x100000001b3) 0xcbf29ce484222325

def next (state : UInt64) : UInt64 := state * 6364136223846793005 + 1442695040888963407

/-- A number from -1 up to 1, made from the highest twenty-four bits. -/
def coordinate (state : UInt64) : Single :=
  Single.ofNat (state >>> 40).toNat / Single.ofNat 16777216 * Single.ofNat 2 - Single.ofNat 1

def coordinates (state : UInt64) : (count : Nat) → Vector32
  | 0 => []
  | n + 1 => coordinate (next state) :: coordinates (next state) n

def norm (v : Vector32) : Single := (Single.sum (v.map fun x => x * x)).sqrt

def normalized (v : Vector32) : Vector32 :=
  let length := norm v
  if length.isPositive then v.map fun x => x / length else v

def embedText (dim : Nat) (text : String) : Vector32 :=
  normalized (coordinates (hash (Text.utf8 text.toList)) dim)

end Embedding

def dimension (wanted : Nat) : Nat := max wanted 1

def provider (wanted : Nat) : Provider :=
  let dim := dimension wanted
  { name := "mock"
    model := "mock"
    embedderId := "mock-hash-" ++ toString dim
    review := fun _ => .answer reviewAnswer
    tests := fun _ => .answer testAnswer
    embed := fun texts => .ok (texts.map (embedText dim)) }

end CodeReview.Mock
