import VerbScript.Fault
import VerbScript.Text.Blank
import VerbScript.Token.Basic

/-!
# Lexing

One line is read character by character: `Scanner.feed` takes one character, and
`Scanner.finish` ends the line, so that `Token.lex` is a fold and lexing a text with another
one after it continues from where the first one stopped. What has to be known about the next
character is remembered in the `Mode` instead of being looked up ahead.

An opening bracket sets the tokens read so far aside, and the closing one puts them back with
the finished token behind them. A comma separates items inside brackets and is an ordinary
character outside.
-/

namespace VerbScript

/-- What is being read; texts are held newest character first. The modes are the states of an
automaton, and the brackets that are open are kept besides. -/
inductive Mode where
  /-- Between tokens. -/
  | start
  /-- After a `#` that begins an object id or an alias. -/
  | hash
  /-- In a word; a forced word began with a backslash and is never a keyword or number. -/
  | word (forced : Bool) (text : List Char)
  /-- After a backslash in a word. -/
  | wordEscape (forced : Bool) (text : List Char)
  /-- In a string. -/
  | quoted (text : List Char)
  /-- After a backslash in a string. -/
  | quotedEscape (text : List Char)
  /-- In the name of a variable or property. -/
  | name (sigil : Sigil) (text : List Char)
  | objectId (text : List Char)
  | aliasName (text : List Char)
  | comment (text : List Char)
deriving DecidableEq

/-- What an open bracket belongs to. An index is opened by the bracket right behind the name, so it
knows what it indexes. -/
inductive Opener where
  | array
  | group
  | index (sigil : Sigil) (name : String)
deriving DecidableEq

/-- The bracket character. -/
def Opener.char : Opener → Char
  | group => '('
  | array | index _ _ => '['

/-- The token of a finished bracket. An index belongs to the reference in front of it, so its
bracket is no token of its own. -/
def Opener.close : Opener → List Token → Token
  | array, items => .array items
  | group, items => .group items
  | index sigil name, items => .reference sigil name (some items)

/-- The state between two characters of a line. It depends on the characters so far and on nothing
behind them. -/
structure Scanner where
  mode : Mode
  /-- The tokens read inside the innermost open bracket, newest first. -/
  tokens : List Token
  /-- The open brackets, innermost first, each with the tokens before it, newest first. -/
  enclosing : List (Opener × List Token)

namespace Scanner

/-- At the beginning of a line. -/
def initial : Scanner := ⟨.start, [], []⟩

/-- Whether the character ends a word, a name or an id. A comma only does so inside brackets, and an
opening square bracket never does. -/
def terminates (s : Scanner) (c : Char) : Bool :=
  Text.isBlank c || c == ']' || c == '(' || c == ')' || (c == ',' && !s.enclosing.isEmpty)

/-- Adds a finished token and goes back between tokens. -/
def emit (s : Scanner) (t : Token) : Scanner :=
  { s with mode := .start, tokens := t :: s.tokens }

/-- Opens a bracket. -/
def opened (s : Scanner) (o : Opener) : Scanner :=
  { mode := .start, tokens := [], enclosing := (o, s.tokens) :: s.enclosing }

/-- Closes the innermost bracket, which has to fit the closing character. What it holds becomes one
token behind those before it. -/
def closed (s : Scanner) (closing : Char) (fits : Opener → Bool) : Except Problem Scanner :=
  match s.enclosing with
  | [] => .error (.unmatched closing)
  | (o, before) :: outer =>
    if fits o then
      .ok { mode := .start, tokens := o.close s.tokens.reverse :: before, enclosing := outer }
    else .error (.mismatched closing o.char)

/-- The token of a word that was not forced. Only the exact words are literals, and a number has to
be the whole word. -/
def classify (text : List Char) : Token :=
  let word := String.ofList text
  if word = "true" then .bool true
  else if word = "false" then .bool false
  else if word = "null" then .null
  else
    match Number.ofLiteral? text with
    | some n => .number n
    | none => .word word

/-- The token of a finished word. -/
def wordToken (forced : Bool) (text : List Char) : Token :=
  if forced then .word (String.ofList text) else classify text

/-- Adds the token that is being read, which is where names and ids are checked. Between tokens
there is none to add. -/
def complete (s : Scanner) : Except Problem Scanner :=
  match s.mode with
  | .start => .ok s
  | .hash => .error (.malformedObjectId "")
  | .word forced text => .ok (s.emit (wordToken forced text.reverse))
  | .wordEscape forced text => .ok (s.emit (wordToken forced ('\\' :: text).reverse))
  | .quoted _ => .error .unterminatedString
  | .quotedEscape _ => .error .unterminatedString
  | .name sigil text =>
    if text.isEmpty then .error (.missingName sigil.char)
    else .ok (s.emit (.reference sigil (String.ofList text.reverse) none))
  | .objectId text =>
    match ObjectId.ofHex? text.reverse with
    | some id => .ok (s.emit (.object id))
    | none => .error (.malformedObjectId (String.ofList text.reverse))
  | .aliasName text =>
    if text.isEmpty then .error .missingAlias
    else .ok (s.emit (.named (String.ofList text.reverse)))
  | .comment text => .ok (s.emit (.comment (String.ofList text.reverse)))

/-- Takes a character between tokens. The first character decides what the token is, though a word
may turn out to be a keyword or a number. -/
def begin (s : Scanner) (c : Char) : Except Problem Scanner :=
  match c with
  | '\'' => .ok { s with mode := .quoted [] }
  | '$' => .ok { s with mode := .name .var [] }
  | '%' => .ok { s with mode := .name .prop [] }
  | '#' => .ok { s with mode := .hash }
  | ';' => .ok { s with mode := .comment [] }
  | '[' => .ok (s.opened .array)
  | '(' => .ok (s.opened .group)
  | ']' => s.closed ']' (· != .group)
  | ')' => s.closed ')' (· == .group)
  | ',' => .ok { s with mode := .start }
  | '\\' => .ok { s with mode := .wordEscape true [] }
  | c =>
    if Text.isBlank c then .ok { s with mode := .start }
    else .ok { s with mode := .word false [c] }

/-- Takes a character that ends the token being read if it terminates, and otherwise belongs
to it, which gives the mode `longer`. -/
def extend (s : Scanner) (c : Char) (longer : Mode) : Except Problem Scanner :=
  -- the character that ended the token begins the next one, or is passed over
  if s.terminates c then s.complete.bind (begin · c) else .ok { s with mode := longer }

/-- Takes one character. Which characters are special depends on the mode: in a string there are
only the quote and the backslash, in a comment none. -/
def feed (s : Scanner) (c : Char) : Except Problem Scanner :=
  match s.mode with
  | .start => s.begin c
  | .hash =>
    if c = '#' then .ok { s with mode := .aliasName [] } else s.extend c (.objectId [c])
  | .word forced text =>
    s.extend c (if c = '\\' then .wordEscape forced text else .word forced (c :: text))
  | .wordEscape forced text => .ok { s with mode := .word forced (c :: text) }
  | .quoted text =>
    if c = '\'' then .ok (s.emit (.str (String.ofList text.reverse)))
    else .ok { s with mode := if c = '\\' then .quotedEscape text else .quoted (c :: text) }
  | .quotedEscape text =>
    .ok { s with mode := .quoted (if c = '\'' ∨ c = '\\' then c :: text else c :: '\\' :: text) }
  | .name sigil text =>
    if c = '[' then
      if text.isEmpty then .error (.missingName sigil.char)
      else .ok (s.opened (.index sigil (String.ofList text.reverse)))
    else s.extend c (.name sigil (c :: text))
  | .objectId text => s.extend c (.objectId (c :: text))
  | .aliasName text => s.extend c (.aliasName (c :: text))
  | .comment text => .ok { s with mode := .comment (c :: text) }

/-- Ends the line, whose last token is complete now. Only then it shows that a bracket was not
closed. -/
def finish (s : Scanner) : Except Problem (List Token) :=
  s.complete.bind fun s =>
    match s.enclosing with
    | [] => .ok s.tokens.reverse
    | (o, _) :: _ => .error (.unclosed o.char)

end Scanner

/-- The tokens of one line, or the first problem from the left. -/
def Token.lex (line : List Char) : Except Problem (List Token) :=
  (line.foldlM Scanner.feed Scanner.initial).bind Scanner.finish

/-- Places the problem of a line. Lines do not know their numbers themselves. -/
def atLine {α : Type} (line : Nat) (result : Except Problem α) : Except SyntaxError α :=
  result.mapError fun problem => ⟨line, problem⟩

end VerbScript
