import VerbScript.Value

/-!
# Faults

Everything that can go wrong, as causes. A `SyntaxError` rejects a script when it is
compiled, a `Fault` stops a script that runs, and a `Failure` is either of them or a problem
with a file, as the outer layers report it. The wording of each cause is in one place, its
`message`.
-/

namespace VerbScript

/-- Why a line of a script is rejected. Each problem has a constructor, so that theorems speak of
causes and not of texts. -/
inductive Problem where
  /-- The line ends inside a string. -/
  | unterminatedString
  /-- The line ends inside this bracket. -/
  | unclosed (opening : Char)
  /-- This closing bracket has nothing to close. -/
  | unmatched (closing : Char)
  /-- A closing bracket meets an opening bracket of the other kind. -/
  | mismatched (closing opening : Char)
  /-- No name follows the sigil of a variable or property. -/
  | missingName (sigil : Char)
  /-- No name follows `##`. -/
  | missingAlias
  /-- The text after `#` is no object id. -/
  | malformedObjectId (text : String)
  /-- An assignment lacks a side. -/
  | oneSidedAssignment
  /-- The left side of an assignment is neither a variable nor a property. -/
  | unassignable
  /-- The line is neither an assignment nor a verb call. -/
  | notStatement (found : String)
  /-- A verb call was wanted, and the line is another statement. -/
  | notCall (found : String)
  /-- An `end` without an open block. -/
  | strayEnd
  /-- An `if` or `while` without a condition. -/
  | missingCondition (keyword : String)
  /-- The script ends inside this many blocks. -/
  | openBlocks (count : Nat)
  /-- A problem reported from outside, in its own words. -/
  | reported (text : String)
deriving DecidableEq, Inhabited

/-- The wording of a problem, without the number of the line. What is wrong is quoted as it stands
in the text. -/
def Problem.message : Problem → String
  | unterminatedString => "unterminated string literal"
  | unclosed opening => "unclosed '" ++ opening.toString ++ "'"
  | unmatched closing => "unmatched '" ++ closing.toString ++ "'"
  | mismatched closing opening =>
    "'" ++ closing.toString ++ "' cannot close '" ++ opening.toString ++ "'"
  | missingName sigil => "missing name after '" ++ sigil.toString ++ "'"
  | missingAlias => "missing alias name after '##'"
  | malformedObjectId text => "malformed object id '#" ++ text ++ "'"
  | oneSidedAssignment => "an assignment must have two sides"
  | unassignable => "type on left of assignment cannot be set"
  | notStatement found => "expected a verb call or an assignment, found " ++ found
  | notCall found => "expected a verb call, found " ++ found
  | strayEnd => "no blocks to end"
  | missingCondition keyword => keyword ++ " usage: " ++ keyword ++ " <expr>"
  | openBlocks count => count.repr ++ " block(s) are still open."
  | reported text => text

/-- A problem and the number of the line that has it, counted from one. Only the first one of a
script is reported. -/
structure SyntaxError where
  line : Nat
  problem : Problem
deriving DecidableEq, Inhabited

/-- The wording of a rejection. -/
def SyntaxError.message (e : SyntaxError) : String :=
  "line " ++ e.line.repr ++ ": " ++ e.problem.message

/-- Why a running script stops. The same type serves the host: its refusal of a request becomes the
fault of the statement that asked. -/
inductive Fault where
  /-- There are no further statements. This is the regular end and no failure. -/
  | endOfScript
  /-- An operator does not take operands of these kinds. -/
  | typeMismatch (op : String) (left right : Kind)
  /-- A value that is no array is indexed. -/
  | nonIndexable (kind : Kind)
  /-- An array has no such element. -/
  | indexOutOfBounds (index length : Nat)
  /-- Neither the object nor an ancestor has the property. -/
  | propNotFound (name : String)
  /-- Neither the object nor an ancestor has the verb. -/
  | verbNotFound (name : String)
  /-- There is no such object. -/
  | objectNotFound (id : ObjectId)
  /-- No object is registered under the alias. -/
  | unknownAlias (name : String)
  | divisionByZero
  /-- Operands and operators do not combine to one value. -/
  | malformedExpression (detail : String)
  /-- The source of a called verb is rejected. -/
  | compile (error : SyntaxError)
  /-- Verb calls are nested deeper than allowed. -/
  | callDepthExceeded (limit : Nat)
  /-- A task has used up its ticks. -/
  | tickLimitExceeded (limit : Nat)
  /-- A request is answered in a way that does not fit. -/
  | unexpectedReply (detail : String)
deriving DecidableEq, Inhabited

namespace Fault

/-- Whether the script came to its regular end, which hosts report as a result and not as a
fault. -/
def isEnd : Fault → Bool
  | endOfScript => true
  | _ => false

/-- The wording of a fault. -/
def message : Fault → String
  | endOfScript => "end of script"
  | typeMismatch op left right =>
    "type " ++ right.name ++ " cannot be opped " ++ op ++ " with " ++ left.name
  | nonIndexable kind => "cannot index into a value of type " ++ kind.name
  | indexOutOfBounds index length =>
    "index out of bounds: " ++ index.repr ++ " (length " ++ length.repr ++ ")"
  | propNotFound name => "property not found: " ++ name
  | verbNotFound name => "verb not found: " ++ name
  | objectNotFound id => "object not found: " ++ id.display
  | unknownAlias name => "unknown object alias: ##" ++ name
  | divisionByZero => "division by zero"
  | malformedExpression detail => "malformed expression: " ++ detail
  | compile error => "verb failed to compile: " ++ error.message
  | callDepthExceeded limit => "call depth exceeded (" ++ limit.repr ++ ")"
  | tickLimitExceeded limit => "tick limit exceeded (" ++ limit.repr ++ ")"
  | unexpectedReply detail => "unexpected reply: " ++ detail

end Fault

/-- What an outer layer reports: the reasons for which a command of the user comes to nothing. -/
inductive Failure where
  /-- A script was rejected. -/
  | rejected (error : SyntaxError)
  /-- A script was stopped. -/
  | raised (fault : Fault)
  /-- A file or the terminal cannot be used. -/
  | io (detail : String)
  /-- Bytes are no snapshot. -/
  | serialization (detail : String)
deriving DecidableEq, Inhabited

/-- The wording of a failure, which begins with its kind. What follows is the message of what has
failed. -/
def Failure.message : Failure → String
  | rejected error => "syntax error: " ++ error.message
  | raised fault => "runtime error: " ++ fault.message
  | io detail => "I/O error: " ++ detail
  | serialization detail => "serialization error: " ++ detail

end VerbScript
