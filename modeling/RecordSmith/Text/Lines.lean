/-! Texts as sequences of lines: lines without their ends, lines with their ends, and the
text that lines make when joined.
-/

namespace RecordSmith.Text

/-- Puts a character in front of the first line. -/
def consFirst (c : Char) : List (List Char) → List (List Char)
  | [] => [[c]]
  | line :: rest => (c :: line) :: rest

/-- The lines of a text, ends removed. A line ends at a line feed, together with one carriage
return directly before it; a last line without a line feed keeps all its characters, and
nothing follows a final line feed.
-/
def linesOf : List Char → List (List Char)
  | [] => []
  | '\r' :: '\n' :: rest => [] :: linesOf rest
  | '\n' :: rest => [] :: linesOf rest
  | c :: rest => consFirst c (linesOf rest)

/-- The lines of a text, ends kept. A line ends at a carriage return with line feed, at a
line feed, or at a carriage return alone.
-/
def fullLinesOf : List Char → List (List Char)
  | [] => []
  | '\r' :: '\n' :: rest => ['\r', '\n'] :: fullLinesOf rest
  | '\n' :: rest => ['\n'] :: fullLinesOf rest
  | '\r' :: rest => ['\r'] :: fullLinesOf rest
  | c :: rest => consFirst c (fullLinesOf rest)

/-- The lines of a text without their ends. -/
def lines (text : String) : List String :=
  (linesOf text.toList).map String.ofList

/-- The lines of a text with their ends. -/
def fullLines (text : String) : List String :=
  (fullLinesOf text.toList).map String.ofList

/-- The parts one after the other with the separator between neighbours. -/
def join (separator : String) : List String → String
  | [] => ""
  | [part] => part
  | part :: next :: rest => part ++ separator ++ join separator (next :: rest)

end RecordSmith.Text
