import VerbScript.Number.Basic
import VerbScript.ObjectId

/-!
# Tokens

The lexical components of one line. Brackets are matched already: what stands between them
is the content of one token.
-/

namespace VerbScript

/-- The character that marks a named reference. Both kinds are read, indexed and assigned to in the
same way. -/
inductive Sigil where
  /-- `$name`, a local variable. -/
  | var
  /-- `%name`, a property of the executing object. -/
  | prop
deriving DecidableEq, Inhabited

/-- The character itself. -/
def Sigil.char : Sigil → Char
  | var => '$'
  | prop => '%'

/-- The name of a kind of reference in stored and outlined scripts. -/
def Sigil.title : Sigil → String
  | var => "Var"
  | prop => "Prop"

/-- A token of one line. The brackets of a line have been matched, so tokens are nested as the
brackets are. -/
inductive Token where
  /-- A string literal. -/
  | str (text : String)
  | number (n : Number)
  | bool (b : Bool)
  | null
  /-- Any other unquoted word, operators included. -/
  | word (text : String)
  /-- `$name` or `%name`, with the tokens between the brackets of an index. -/
  | reference (sigil : Sigil) (name : String) (index : Option (List Token))
  /-- `#1f`. -/
  | object (id : ObjectId)
  /-- `##Name`. -/
  | named (name : String)
  /-- The text after `;`. -/
  | comment (text : String)
  /-- `[a b c]`. -/
  | array (items : List Token)
  /-- `(a b c)`. -/
  | group (items : List Token)
deriving Inhabited

namespace Token

/-- The name of the kind of a token in messages, where it says what a line begins with. The two
sigils have names of their own. -/
def name : Token → String
  | str _ => "string"
  | number _ => "number"
  | bool _ => "bool"
  | null => "null"
  | word _ => "bareword"
  | reference .var _ _ => "var"
  | reference .prop _ _ => "prop"
  | object _ => "object"
  | named _ => "object alias"
  | comment _ => "comment"
  | array _ => "array"
  | group _ => "group"

/-- Whether a token is a comment. A comment goes on to the end of the line, so it is the last
token. -/
def isComment : Token → Bool
  | comment _ => true
  | _ => false

/-- The text of a word. The keywords and numbers are no words any more at this point. -/
def asWord? : Token → Option String
  | word text => some text
  | _ => none

/-- The tokens without comments at their end. A line that has been lexed has at most one. -/
def dropComments (tokens : List Token) : List Token :=
  (tokens.reverse.dropWhile isComment).reverse

end Token

end VerbScript
