import CodeReview.Text.Blank

/-!
Cutting a text into chunks. Paragraphs, the pieces between blank lines, are packed in order: a group takes
in the next paragraph as long as its text stays within a limit, and a paragraph that is too long makes a
group of its own. A chunk is the trimmed text of a group; blank chunks are dropped.
-/

namespace CodeReview.Chunk

def paragraphsFrom (piece : List Char) : List Char → List (List Char)
  | '\n' :: '\n' :: rest => piece.reverse :: paragraphsFrom [] rest
  | c :: rest => paragraphsFrom (c :: piece) rest
  | [] => [piece.reverse]

def paragraphs (text : List Char) : List (List Char) := paragraphsFrom [] text

/-- A group of paragraphs is being filled: `members` are those taken in, last one first, and `size` is the
number of their characters with the break after each. -/
def groupsFrom (limit : Nat) (members : List (List Char)) (size : Nat) :
    List (List Char) → List (List (List Char))
  | [] => [members.reverse]
  | p :: rest =>
      if limit < size + p.length then
        members.reverse :: groupsFrom limit [p] (p.length + 2) rest
      else groupsFrom limit (p :: members) (size + p.length + 2) rest

def groups (limit : Nat) : List (List Char) → List (List (List Char))
  | [] => []
  | p :: rest => groupsFrom limit [p] (p.length + 2) rest

def joined : List (List Char) → List Char
  | [] => []
  | [p] => p
  | p :: rest => p ++ '\n' :: '\n' :: joined rest

def chunks (limit : Nat) (text : List Char) : List (List Char) :=
  ((groups limit (paragraphs text)).map fun g => Text.trim (joined g)).filter fun c => !c.isEmpty

def defaultLimit : Nat := 250

end CodeReview.Chunk
