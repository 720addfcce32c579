/-!
Finding one text inside another: occurrence, splitting and replacement. All of them take the leftmost
occurrence first and never let two occurrences overlap.
-/

namespace CodeReview.Text

def startsWith : List Char → List Char → Bool
  | _, [] => true
  | [], _ :: _ => false
  | c :: cs, d :: ds => c == d && startsWith cs ds

def dropLead? : List Char → List Char → Option (List Char)
  | cs, [] => some cs
  | [], _ :: _ => none
  | c :: cs, d :: ds => if c == d then dropLead? cs ds else none

def dropTail? (cs tail : List Char) : Option (List Char) :=
  (dropLead? cs.reverse tail.reverse).map List.reverse

def contains (cs part : List Char) : Bool :=
  match cs with
  | [] => part.isEmpty
  | c :: rest => startsWith (c :: rest) part || contains rest part

def splitOnce (cs part : List Char) : Option (List Char × List Char) :=
  match dropLead? cs part with
  | some rest => some ([], rest)
  | none =>
      match cs with
      | [] => none
      | c :: rest => (splitOnce rest part).map fun (before, after) => (c :: before, after)

def splitAll (cs : List Char) (sep : Char) : List (List Char) :=
  match cs with
  | [] => [[]]
  | c :: rest =>
      let pieces := splitAll rest sep
      if c == sep then [] :: pieces
      else
        match pieces with
        | [] => [[c]]
        | piece :: more => (c :: piece) :: more

def splitLast (cs : List Char) (sep : Char) : Option (List Char × List Char) :=
  match cs.reverse.span (· != sep) with
  | (_, []) => none
  | (after, _ :: before) => some (before.reverse, after.reverse)

def containsText (s part : String) : Bool := contains s.toList part.toList

end CodeReview.Text
