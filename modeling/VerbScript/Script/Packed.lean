import VerbScript.MessagePack.Record
import VerbScript.Script.Basic

/-!
# Compiled scripts as bytes

The MessagePack form of a script. `Script.ofBytes?` reads back what `Script.toBytes` writes.
-/

namespace VerbScript

open MessagePack

/-! ### Writing -/

/-- The bytes of an optional text. A text never begins with the byte of nil, so the two can be told
apart. -/
def packOptionalStr : Option String → List UInt8
  | none => packNil
  | some text => packStr text

/-- The bytes of a reference, its index written already. The sigil is the variant. -/
def packReference (sigil : Sigil) (name : String) (index : List UInt8) : List UInt8 :=
  packVariant sigil.title (packRecord [("name", packStr name), ("index", index)])

/-- The bytes of a verb call, its expressions written already. All five fields are written, those
that are missing as nil. -/
def packVerbcall (verb : String) (direct : List UInt8) (preposition : Option String)
    (indirect params : List UInt8) : List UInt8 :=
  packRecord [
    ("verb", packStr verb),
    ("direct_obj", direct),
    ("preposition", packOptionalStr preposition),
    ("indirect_obj", indirect),
    ("params", params)]

mutual

/-- The bytes of a node. The case distinction is that of the type, and nothing is left out. -/
def Node.pack : Node → List UInt8
  | .str text => packVariant "Str" (packStr text)
  | .number n => packVariant "Number" (packFloat n)
  | .bool b => packVariant "Bool" (packBool b)
  | .null => packStr "Null"
  | .word text => packVariant "Word" (packStr text)
  | .reference ⟨sigil, name, index⟩ => packReference sigil name (Node.packOptional index)
  | .object id => packVariant "Object" (packUInt id.raw.toNat)
  | .named name => packVariant "Alias" (packStr name)
  | .array items => packVariant "Array" (packArray items.length ++ Node.packItems items)
  | .list items => packVariant "List" (packArray items.length ++ Node.packItems items)
  | .call ⟨verb, direct, preposition, indirect, params⟩ =>
    packVariant "Call" (packVerbcall verb (Node.packOptional direct) preposition
      (Node.packOptional indirect) (packArray params.length ++ Node.packItems params))

/-- The bytes of the nodes of a list, without its head. -/
def Node.packItems : List Node → List UInt8
  | [] => []
  | n :: rest => n.pack ++ Node.packItems rest

/-- The bytes of an optional expression. An empty expression is an empty array, and not nil. -/
def Node.packOptional : Option (List Node) → List UInt8
  | none => packNil
  | some items => packArray items.length ++ Node.packItems items

end

/-- The bytes of an expression. -/
def Expr.pack (e : Expr) : List UInt8 := packArray e.length ++ Node.packItems e

mutual

/-- The bytes of a statement: the name of its variant, and its fields under their names. -/
def Statement.pack : Statement → List UInt8
  | .ifThen condition block =>
    packVariant "If" (packRecord [
      ("condition", condition.pack),
      ("block", packArray block.length ++ Statement.packItems block)])
  | .whileLoop condition block =>
    packVariant "While" (packRecord [
      ("condition", condition.pack),
      ("block", packArray block.length ++ Statement.packItems block)])
  | .assign op target source =>
    packVariant "Assign" (packRecord [
      ("op", packStr op.title),
      ("dst", packReference target.sigil target.name (Node.packOptional target.index)),
      ("src", source.pack)])
  | .call c =>
    packVariant "Call" (packVerbcall c.verb (Node.packOptional c.direct) c.preposition
      (Node.packOptional c.indirect) (Expr.pack c.params))

/-- The bytes of the statements of a block, without its head. -/
def Statement.packItems : List Statement → List UInt8
  | [] => []
  | s :: rest => s.pack ++ Statement.packItems rest

end

/-- The bytes of a script. -/
def Script.toBytes (script : Script) : List UInt8 :=
  packArray script.length ++ Statement.packItems script

/-! ### Reading -/

/-- How deep the containers of a script may be nested. A script that is nested deeper can be written
but not read. -/
def scriptDepth : Nat := 1023

/-- What the fields of a record are read with: how deep they may be nested, and how to read an
expression among them. It stands for the recursion, so that the readers of records need none. -/
structure Interior where
  depth : Nat
  nodes : Reader (List Node)

/-- Reads a record, if there is a level for it. Otherwise the bytes are refused, whatever they
are. -/
def readInside {α : Type} (interior : Option Interior) (record : Interior → Reader α) : Reader α :=
  match interior with
  | some interior => record interior
  | none => failure

/-- The fields of a reference that have been read. They may come in any order, so each is missing
until it is read. -/
structure ReferenceDraft where
  name : Option String := none
  index : Option (Option (List Node)) := none

/-- Reads a reference, whose variant has been read. An index that is missing is none. -/
def readReference (sigil : Sigil) (interior : Interior) : Reader (Reference Node) :=
  readRecord interior.depth ["name", "index"]
    (fun (d : ReferenceDraft) i => do
      match i with
      | 0 => return { d with name := ← readOnce d.name readStr }
      | _ => return { d with index := ← readOnce d.index (readOption interior.nodes) })
    {} fun d => do return ⟨sigil, ← d.name, d.index.getD none⟩

/-- The fields of a verb call that have been read. Where two options are nested, the outer one says
whether the field has been read. -/
structure VerbcallDraft where
  verb : Option String := none
  direct : Option (Option (List Node)) := none
  preposition : Option (Option String) := none
  indirect : Option (Option (List Node)) := none
  params : Option (List Node) := none

/-- Reads a verb call. The optional fields may be missing, the verb and the params may not. -/
def readVerbcall (interior : Interior) : Reader (Verbcall Node) :=
  readRecord interior.depth ["verb", "direct_obj", "preposition", "indirect_obj", "params"]
    (fun (d : VerbcallDraft) i => do
      match i with
      | 0 => return { d with verb := ← readOnce d.verb readStr }
      | 1 => return { d with direct := ← readOnce d.direct (readOption interior.nodes) }
      | 2 => return { d with preposition := ← readOnce d.preposition (readOption readStr) }
      | 3 => return { d with indirect := ← readOnce d.indirect (readOption interior.nodes) }
      | _ => return { d with params := ← readOnce d.params interior.nodes })
    {} fun d => do
      return {
        verb := ← d.verb
        direct := d.direct.getD none
        preposition := d.preposition.getD none
        indirect := d.indirect.getD none
        params := ← d.params }

/-- The variants of nodes, in the order of their numbers. A variant may be given by its number as
well. -/
def Node.variantNames : List String :=
  ["Str", "Number", "Bool", "Null", "Word", "Var", "Prop", "Object", "Alias", "Array", "List",
    "Call"]

/-- Reads a node, given how to read an expression right inside it, and the fields of a record. So
the recursion is over the levels that are left, and not over the bytes. -/
def Node.readWith (nodes : Reader (List Node)) (interior : Option Interior) : Reader Node := do
  let (variant, content) ← readVariant variantNames
  match variant with
  | 0 => return .str (← readContent content readStr)
  | 1 => return .number (← readContent content readFloat)
  | 2 => return .bool (← readContent content readBool)
  | 3 => do
    readNoContent content
    return .null
  | 4 => return .word (← readContent content readStr)
  | 5 => return .reference (← readContent content (readInside interior (readReference .var)))
  | 6 => return .reference (← readContent content (readInside interior (readReference .prop)))
  | 7 => return .object ⟨(← readContent content readUInt).toUInt64⟩
  | 8 => return .named (← readContent content readStr)
  | 9 => return .array (← readContent content nodes)
  | 10 => return .list (← readContent content nodes)
  | _ => return .call (← readContent content (readInside interior readVerbcall))

/-- Reads an expression, which takes one of `depth` levels; the records of its nodes take the
next. -/
def Expr.read : (depth : Nat) → Reader Expr
  | 0 => readNoItems
  | 1 => readArray (Node.readWith readNoItems none)
  | depth + 2 => readArray (Node.readWith (Expr.read (depth + 1)) (some ⟨depth, Expr.read depth⟩))

/-- What the fields of a record are read with that takes one of `depth` levels. Without a level
there is no record to be read. -/
def Interior.ofDepth : (depth : Nat) → Option Interior
  | 0 => none
  | depth + 1 => some ⟨depth, Expr.read depth⟩

/-- Reads the target of an assignment, whose record takes one of `depth` levels. Only the two
variants of references are accepted. -/
def readTarget (depth : Nat) : Reader (Reference Node) := do
  let (variant, content) ← readVariant ["Var", "Prop"]
  readContent content
    (readInside (Interior.ofDepth depth) (readReference (if variant = 0 then .var else .prop)))

/-- Reads an assignment symbol. It is the name of a variant without content. -/
def AssignOp.read : Reader AssignOp := do
  let (variant, content) ← readVariant ["Set", "Add", "Sub", "Mul", "Div"]
  readNoContent content
  match variant with
  | 0 => return .set
  | 1 => return .add
  | 2 => return .sub
  | 3 => return .mul
  | _ => return .div

/-- The fields of a block statement that have been read. An `if` and a `while` have the same
ones. -/
structure BlockDraft where
  condition : Option Expr := none
  block : Option (List Statement) := none

/-- Reads the condition and the block of a statement. Neither may be missing, though the block may
be empty. -/
def readBlock (depth : Nat) (block : Reader (List Statement)) : Reader (Expr × List Statement) :=
  readRecord depth ["condition", "block"]
    (fun (d : BlockDraft) i => do
      match i with
      | 0 => return { d with condition := ← readOnce d.condition (Expr.read depth) }
      | _ => return { d with block := ← readOnce d.block block })
    {} fun d => do return (← d.condition, ← d.block)

/-- The fields of an assignment that have been read. None of them is optional. -/
structure AssignDraft where
  op : Option AssignOp := none
  target : Option (Reference Node) := none
  source : Option Expr := none

/-- Reads an assignment, of which no field may be missing. -/
def readAssign (depth : Nat) : Reader Statement :=
  readRecord depth ["op", "dst", "src"]
    (fun (d : AssignDraft) i => do
      match i with
      | 0 => return { d with op := ← readOnce d.op AssignOp.read }
      | 1 => return { d with target := ← readOnce d.target (readTarget depth) }
      | _ => return { d with source := ← readOnce d.source (Expr.read depth) })
    {} fun d => do return .assign (← d.op) (← d.target) (← d.source)

/-- Reads a statement whose fields are nested at most `depth` deep, given how to read the statements
of a block. -/
def Statement.readWith (depth : Nat) (block : Reader (List Statement)) : Reader Statement := do
  let (variant, content) ← readVariant ["If", "While", "Assign", "Call"]
  match variant with
  | 0 => do
    let (condition, block) ← readContent content (readBlock depth block)
    return .ifThen condition block
  | 1 => do
    let (condition, block) ← readContent content (readBlock depth block)
    return .whileLoop condition block
  | 2 => readContent content (readAssign depth)
  | _ => return .call (← readContent content (readVerbcall ⟨depth, Expr.read depth⟩))

/-- Reads the statements of a script or block, which take one of `depth` levels; each statement
takes the next for its fields. -/
def Script.read : (depth : Nat) → Reader Script
  | 0 => readNoItems
  | 1 => readArray failure
  | depth + 2 => readArray (Statement.readWith depth (Script.read depth))

/-- The script of some bytes. What follows the script is not looked at. -/
def Script.ofBytes? (bytes : List UInt8) : Option Script :=
  (Script.read scriptDepth bytes).map Prod.fst

/-! ### Comparing -/

mutual

/-- Whether two nodes are equal, numbers compared as scripts compare them. So the two zeros are
equal, and a NaN is not equal to itself. -/
def Node.same : Node → Node → Bool
  | .str a, .str b => a == b
  | .number a, .number b => a.same b
  | .bool a, .bool b => a == b
  | .null, .null => true
  | .word a, .word b => a == b
  | .reference ⟨s, n, i⟩, .reference ⟨s', n', i'⟩ => s == s' && n == n' && Node.sameOptional i i'
  | .object a, .object b => a == b
  | .named a, .named b => a == b
  | .array a, .array b => Node.sameItems a b
  | .list a, .list b => Node.sameItems a b
  | .call ⟨v, d, p, i, ps⟩, .call ⟨v', d', p', i', ps'⟩ =>
    v == v' && Node.sameOptional d d' && p == p' && Node.sameOptional i i' &&
      Node.sameItems ps ps'
  | _, _ => false

/-- Whether two expressions have nodes that are equal in this sense. Expressions of different
lengths never do. -/
def Node.sameItems : List Node → List Node → Bool
  | [], [] => true
  | a :: as, b :: bs => a.same b && Node.sameItems as bs
  | _, _ => false

/-- Whether two optional expressions are equal. -/
def Node.sameOptional : Option (List Node) → Option (List Node) → Bool
  | none, none => true
  | some a, some b => Node.sameItems a b
  | _, _ => false

end

mutual

/-- Whether two statements are equal. A script with a NaN in it is not equal to itself. -/
def Statement.same : Statement → Statement → Bool
  | .ifThen c b, .ifThen c' b' => Node.sameItems c c' && Statement.sameItems b b'
  | .whileLoop c b, .whileLoop c' b' => Node.sameItems c c' && Statement.sameItems b b'
  | .assign op t s, .assign op' t' s' =>
    op == op' && Node.same (.reference t) (.reference t') && Node.sameItems s s'
  | .call c, .call c' => Node.same (.call c) (.call c')
  | _, _ => false

/-- Whether two scripts are equal. -/
def Statement.sameItems : List Statement → List Statement → Bool
  | [], [] => true
  | a :: as, b :: bs => a.same b && Statement.sameItems as bs
  | _, _ => false

end

/-- Whether two scripts are equal, numbers compared as scripts compare them. -/
def Script.same (a b : Script) : Bool := Statement.sameItems a b

end VerbScript
