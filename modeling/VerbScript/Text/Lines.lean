/-!
# Lines

A text is a sequence of lines, each ended by a line feed or by a carriage return and a line
feed; the last line may lack its ending. A text that ends with a line ending has no further,
empty line.
-/

namespace VerbScript.Text

/-- Drops one carriage return from the end of a line. Another one before it belongs to the text. -/
def dropReturn (line : List Char) : List Char :=
  match line.reverse with
  | '\r' :: rest => rest.reverse
  | _ => line

/-- The lines of a text whose first line begins with the reverse of `line`. What is left at the end
is a line only if there is something in it. -/
def linesFrom (line : List Char) : List Char → List (List Char)
  | [] => if line.isEmpty then [] else [line.reverse]
  | c :: rest =>
    if c = '\n' then dropReturn line.reverse :: linesFrom [] rest
    else linesFrom (c :: line) rest

/-- The lines of a text, without their endings. -/
def lines (cs : List Char) : List (List Char) := linesFrom [] cs

end VerbScript.Text
