import VerbScript.Text.Letter

/-!
# Highlighting

A typed line is cut into spans, some of which have a colour. `Highlight.spans` only cuts: the
texts of the spans make up the line. `Highlight.line` writes the spans with the terminal's colour
sequences, each one closed before the next begins.
-/

namespace VerbScript.Highlight

/-- The colours of spans, by what they are for. Variables and literals look the same. -/
inductive Colour where
  | comment
  | string
  | number
  | var
  | prop
  | object
  | keyword
  | literal
  | command
  | delimiter
deriving DecidableEq

/-- The escape character, which begins a colour sequence. -/
def escape : Char := '\x1b'

/-- What stands between the escape character and the closing `m` of a colour's sequence. -/
def Colour.code : Colour → String
  | .comment => "[2;3"
  | .string => "[33"
  | .number => "[35"
  | .var => "[34"
  | .prop => "[36"
  | .object => "[1;35"
  | .keyword => "[32"
  | .literal => "[34"
  | .command => "[1;32"
  | .delimiter => "[1"

/-- The sequence that switches a colour on. -/
def Colour.sequence (c : Colour) : List Char := escape :: (c.code.toList ++ ['m'])

/-- The sequence that switches every colour off. -/
def reset : List Char := [escape, '[', '0', 'm']

/-- A piece of a line. A span without a colour is written as it is. The spans of a line, put
together, are the line. -/
structure Span where
  colour : Option Colour
  text : List Char

/-- A span as it is written. Every colour that is switched on is switched off behind the text. -/
def Span.render (s : Span) : List Char :=
  match s.colour with
  | some c => c.sequence ++ s.text ++ reset
  | none => s.text

/-- The characters of a name. -/
def isNameChar (c : Char) : Bool := Text.isLetter c || Text.isNumeral c || c == '_'

/-- The characters of a number, which need not be in an order that makes it one. -/
def isNumberChar (c : Char) : Bool := c.isDigit || c == '.'

/-- The characters of an object id or an alias. -/
def isObjectChar (c : Char) : Bool := c == '#' || c.isAlphanum || c == '_'

/-- The rest of a string after its opening quote, the closing one included, and what follows. A
string that is not closed goes on to the end. -/
def stringBody : List Char → List Char × List Char
  | [] => ([], [])
  | '\\' :: c :: rest =>
    let (body, rest) := stringBody rest
    ('\\' :: c :: body, rest)
  | c :: rest =>
    if c = '\'' then ([c], rest)
    else
      let (body, rest) := stringBody rest
      (c :: body, rest)

/-- The colour of a word, if it has one. Only whole words count, in the spelling of the language. -/
def wordColour? (word : String) : Option Colour :=
  if word ∈ ["if", "while", "end", "and", "or"] then some .keyword
  else if word ∈ ["true", "false", "null"] then some .literal
  else none

/-- The first span of a line that begins with `c`, and the rest of the line. The span is never
empty, so the line is used up in the end. -/
def firstSpan (c : Char) (rest : List Char) : Span × List Char :=
  let painted (colour : Colour) (belongs : Char → Bool) : Span × List Char :=
    (⟨some colour, c :: rest.takeWhile belongs⟩, rest.dropWhile belongs)
  if c = ';' then (⟨some .comment, c :: rest⟩, [])
  else if c = '\'' then (⟨some .string, c :: (stringBody rest).1⟩, (stringBody rest).2)
  else if c = '$' then painted .var isNameChar
  else if c = '%' then painted .prop isNameChar
  else if c = '#' then painted .object isObjectChar
  else if c.isDigit || (c = '-' && rest.head?.any Char.isDigit) then painted .number isNumberChar
  else if c ∈ ['(', ')', '[', ']'] then (⟨some .delimiter, [c]⟩, rest)
  else if Text.isLetter c then
    let word := c :: rest.takeWhile isNameChar
    (⟨wordColour? (String.ofList word), word⟩, rest.dropWhile isNameChar)
  else (⟨none, [c]⟩, rest)

/-- A string leaves no more than there was. -/
theorem length_stringBody (cs : List Char) : (stringBody cs).2.length ≤ cs.length := by
  fun_induction stringBody cs <;> simp_all <;> omega

/-- What is left after the first span is no longer than what followed its first character. So
splitting a line into spans ends. -/
theorem length_firstSpan (c : Char) (rest : List Char) :
    (firstSpan c rest).2.length ≤ rest.length := by
  have dropped (p : Char → Bool) : (rest.dropWhile p).length ≤ rest.length :=
    (List.dropWhile_sublist p).length_le
  have body := length_stringBody rest
  grind [firstSpan]

/-- The spans of a source line, from left to right. The line is cut by its characters only and need
not be one that lexes, since it is coloured while it is typed. -/
def spans : List Char → List Span
  | [] => []
  | c :: rest => (firstSpan c rest).1 :: spans (firstSpan c rest).2
termination_by cs => cs.length
decreasing_by
  have := length_firstSpan c rest
  simp only [List.length_cons]
  omega

/-- The spans of a typed line: a command is one span. -/
def lineSpans (line : List Char) : List Span :=
  if (Text.trimStart line).head? = some '.' then [⟨some .command, line⟩] else spans line

/-- A typed line with its colours. -/
def line (text : String) : String :=
  String.ofList ((lineSpans text.toList).flatMap Span.render)

/-- A prompt as it is shown: the default one is bright, any other is left as it is. -/
def prompt (text : String) (isDefault : Bool) : String :=
  if isDefault then "\x1b[1;32m" ++ text ++ "\x1b[0m" else text

/-- The dimmed hint behind a line. -/
def hint (text : String) : String := "\x1b[2m" ++ text ++ "\x1b[0m"

end VerbScript.Highlight
