/-!
Lines of a text. A line ends at a line feed, with or without one carriage return before it, and a
terminator at the end of the text opens no further line.
-/

namespace ShadeTree.Text

def splitLines : List Char → List (List Char)
  | [] => []
  | '\n' :: rest => [] :: splitLines rest
  | '\r' :: '\n' :: rest => [] :: splitLines rest
  | character :: rest =>
    match splitLines rest with
    | [] => [[character]]
    | line :: others => (character :: line) :: others

def lines (text : String) : List String :=
  (splitLines text.toList).map String.ofList

end ShadeTree.Text
