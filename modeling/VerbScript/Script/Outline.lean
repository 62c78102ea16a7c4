import VerbScript.Script.Basic
import VerbScript.Text.Quoted

/-!
# Outlines

The outline of a script shows its structure, one part per line. The parts of something stand
between its opening and closing line, four blanks further in, each with a comma behind it.
-/

namespace VerbScript

/-- The lines that show something. -/
abbrev Outline := List String

namespace Outline

/-- Puts a comma behind the last line. An outline of several lines has its comma behind the closing
bracket. -/
def withComma : Outline → Outline
  | [] => []
  | [line] => [line ++ ","]
  | line :: rest => line :: withComma rest

/-- Puts a name before the first line. The lines inside are indented as they are without the
name. -/
def named (name : String) : Outline → Outline
  | [] => []
  | line :: rest => (name ++ ": " ++ line) :: rest

/-- Shows parts between an opening and a closing. Each part has lines of its own, four places
further in, with a comma behind it; without parts there is one line. -/
def enclose (opening closing : String) : List Outline → Outline
  | [] => [opening ++ closing]
  | parts => opening :: (parts.flatMap fun p => p.withComma.map ("    " ++ ·)) ++ [closing]

/-- Something with a name and one part. -/
def wrap (name : String) (content : Outline) : Outline := enclose (name ++ "(") ")" [content]

/-- Something with a name and named parts. -/
def record (name : String) (fields : List Outline) : Outline :=
  enclose (name ++ " \x7b") "\x7d" fields

/-- A list of things. -/
def list (items : List Outline) : Outline := enclose "[" "]" items

/-- Something that may be missing. What is there is wrapped, so the two are never confused. -/
def optional : Option Outline → Outline
  | none => ["None"]
  | some content => wrap "Some" content

end Outline

/-- The outline of a verb call, its expressions shown already. -/
def outlineVerbcall (verb : String) (direct : Outline) (preposition : Option String)
    (indirect params : Outline) : Outline :=
  Outline.record "Verbcall" [
    Outline.named "verb" [Text.quoted verb],
    Outline.named "direct_obj" direct,
    Outline.named "preposition" (Outline.optional (preposition.map fun p => [Text.quoted p])),
    Outline.named "indirect_obj" indirect,
    Outline.named "params" params]

/-- The outline of a reference, its index shown already. The sigil decides under which of two names
it is shown. -/
def outlineReference (sigil : Sigil) (name : String) (index : Outline) : Outline :=
  Outline.wrap sigil.title (Outline.record "Ref" [
    Outline.named "name" [Text.quoted name],
    Outline.named "index" index])

mutual

/-- The outline of a node. It goes to the bottom of the tree, so a nested call is shown with all its
parts. -/
def Node.outline : Node → Outline
  | .str text => Outline.wrap "Str" [Text.quoted text]
  | .number n => Outline.wrap "Number" [n.outline]
  | .bool b => Outline.wrap "Bool" [if b then "true" else "false"]
  | .null => ["Null"]
  | .word text => Outline.wrap "Word" [Text.quoted text]
  | .reference ⟨sigil, name, index⟩ => outlineReference sigil name (Node.outlineOptional index)
  | .object id => Outline.wrap "Object" [id.outline]
  | .named name => Outline.wrap "Alias" [Text.quoted name]
  | .array items => Outline.wrap "Array" (Outline.list (Node.outlineItems items))
  | .list items => Outline.wrap "List" (Outline.list (Node.outlineItems items))
  | .call ⟨verb, direct, preposition, indirect, params⟩ =>
    Outline.wrap "Call" (outlineVerbcall verb (Node.outlineOptional direct) preposition
      (Node.outlineOptional indirect) (Outline.list (Node.outlineItems params)))

/-- The outlines of the nodes of a list. -/
def Node.outlineItems : List Node → List Outline
  | [] => []
  | n :: rest => n.outline :: Node.outlineItems rest

/-- The outline of an optional expression. -/
def Node.outlineOptional : Option (List Node) → Outline
  | none => Outline.optional none
  | some items => Outline.optional (some (Outline.list (Node.outlineItems items)))

end

/-- The outline of an expression. -/
def Expr.outline (e : Expr) : Outline := Outline.list (Node.outlineItems e)

mutual

/-- The outline of a statement. Its parts are shown under the names of their fields. -/
def Statement.outline : Statement → Outline
  | .ifThen condition block =>
    Outline.record "If" [
      Outline.named "condition" condition.outline,
      Outline.named "block" (Outline.list (Statement.outlineItems block))]
  | .whileLoop condition block =>
    Outline.record "While" [
      Outline.named "condition" condition.outline,
      Outline.named "block" (Outline.list (Statement.outlineItems block))]
  | .assign op target source =>
    Outline.record "Assign" [
      Outline.named "op" [op.title],
      Outline.named "dst" (Node.outline (.reference target)),
      Outline.named "src" source.outline]
  | .call c =>
    Outline.wrap "Call" (outlineVerbcall c.verb (Node.outlineOptional c.direct) c.preposition
      (Node.outlineOptional c.indirect) (Expr.outline c.params))

/-- The outlines of the statements of a block. -/
def Statement.outlineItems : List Statement → List Outline
  | [] => []
  | s :: rest => s.outline :: Statement.outlineItems rest

end

/-- The outline of a script. -/
def Script.outline (script : Script) : Outline := Outline.list (Statement.outlineItems script)

end VerbScript
