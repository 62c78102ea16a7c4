import VerbScript.Script.Packed
import VerbScript.Proofs.RecordLaws

/-!
# Scripts survive storage

A script that is written to bytes and read back is the same script, whatever its statements and
expressions are: every number has its bits, and indices, objects and prepositions are there or
missing as before.

The format bounds what can be written and read. Lengths have four bytes (`Script.Measured`), and the
reader descends into a bounded number of containers, where an expression, a block and the fields of
a record are one container each (`Script.levels`). The bound on the levels is not one of the form
itself: with enough levels every measured script is read back (`Script.read_toBytes`), so two
scripts with the same bytes are the same, however deep they are.

* `Node.read_pack` — a node is read back; the induction is on what is nested in it.
* `Script.read_toBytes` — so is a script.
* `Script.survives_storage` — both consequences for stored scripts.
-/

namespace VerbScript

open MessagePack

/-! ### Lengths -/

namespace Node

/-- The texts that are written for the node itself. What is nested in it has texts of its own, so
the texts of a call are its verb and its preposition only. -/
def texts : Node → List String
  | str text => [text]
  | word text => [text]
  | named name => [name]
  | reference r => [r.name]
  | call c => c.verb :: c.preposition.toList
  | number _ => []
  | bool _ => []
  | null => []
  | object _ => []
  | array _ => []
  | list _ => []

/-- The expressions right inside a node: the index of a reference, the items of an array or a list,
and the parameters and both objects of a call. -/
def parts : Node → List (List Node)
  | reference r => r.index.toList
  | array items => [items]
  | list items => [items]
  | call c => c.params :: (c.direct.toList ++ c.indirect.toList)
  | str _ => []
  | number _ => []
  | bool _ => []
  | null => []
  | word _ => []
  | object _ => []
  | named _ => []

/-- A node all of whose lengths can be written. The rule is one for all kinds of nodes, so an
induction on it is an induction on what is nested in the node. -/
inductive Measured : Node → Prop where
  | intro {n : Node} (texts : ∀ text ∈ n.texts, (utf8 text).length < UInt32.size)
      (lengths : ∀ e ∈ n.parts, e.length < UInt32.size)
      (inside : ∀ e ∈ n.parts, ∀ m ∈ e, Measured m) : Measured n

end Node

/-- An expression all of whose lengths can be written. An expression is a list of nodes, and its own
length is one of them. -/
structure Expr.Measured (e : Expr) : Prop where
  length : e.length < UInt32.size
  each : ∀ n ∈ e, n.Measured

/-- A statement all of whose lengths can be written. A block is a list of statements, and a target
is measured like the node that it looks like. -/
inductive Statement.Measured : Statement → Prop where
  | ifThen {condition : Expr} {block : List Statement} (measured : Expr.Measured condition)
      (length : block.length < UInt32.size) (each : ∀ s ∈ block, Measured s) :
      Measured (.ifThen condition block)
  | whileLoop {condition : Expr} {block : List Statement} (measured : Expr.Measured condition)
      (length : block.length < UInt32.size) (each : ∀ s ∈ block, Measured s) :
      Measured (.whileLoop condition block)
  | assign {op : AssignOp} {target : Reference Node} {source : Expr}
      (assigned : (Node.reference target).Measured) (measured : Expr.Measured source) :
      Measured (.assign op target source)
  | call {c : Verbcall Node} (measured : (Node.call c).Measured) : Measured (.call c)

/-- A script all of whose lengths can be written. -/
structure Script.Measured (script : Script) : Prop where
  length : script.length < UInt32.size
  each : ∀ s ∈ script, s.Measured

/-! ### Levels -/

mutual

/-- How deep containers are nested in a node. The fields of a reference and of a call are a
container, and so is each expression among them; an array or a list is the container of its
items. -/
def Node.levels : Node → Nat
  | .str _ => 0
  | .number _ => 0
  | .bool _ => 0
  | .null => 0
  | .word _ => 0
  | .reference ⟨_, _, index⟩ => 1 + Node.levelsOptional index
  | .object _ => 0
  | .named _ => 0
  | .array items => 1 + Node.levelsItems items
  | .list items => 1 + Node.levelsItems items
  | .call ⟨_, direct, _, indirect, params⟩ =>
    1 + max (max (Node.levelsOptional direct) (Node.levelsOptional indirect))
      (1 + Node.levelsItems params)

/-- How deep containers are nested in the nodes of a list. The list itself is counted where it is
written, not here. -/
def Node.levelsItems : List Node → Nat
  | [] => 0
  | n :: rest => max n.levels (Node.levelsItems rest)

/-- How deep containers are nested in an optional expression, which is one itself. A missing one
takes none. -/
def Node.levelsOptional : Option (List Node) → Nat
  | none => 0
  | some items => 1 + Node.levelsItems items

end

/-- How deep containers are nested in an expression, which is one itself. -/
def Expr.levels (e : Expr) : Nat := 1 + Node.levelsItems e

mutual

/-- How deep containers are nested in a statement. Its fields are a container, and each of them may
hold others. -/
def Statement.levels : Statement → Nat
  | .ifThen condition block => 1 + max condition.levels (1 + Statement.levelsItems block)
  | .whileLoop condition block => 1 + max condition.levels (1 + Statement.levelsItems block)
  | .assign _ target source => 1 + max (Node.reference target).levels source.levels
  | .call c => (Node.call c).levels

/-- How deep containers are nested in the statements of a list. -/
def Statement.levelsItems : List Statement → Nat
  | [] => 0
  | s :: rest => max s.levels (Statement.levelsItems rest)

end

/-- How deep containers are nested in a script, which is one itself. -/
def Script.levels (script : Script) : Nat := 1 + Statement.levelsItems script

/-- Each node of a list has at most the levels of the list, which are the largest among its
nodes. -/
theorem Node.levels_le_levelsItems {n : Node} {items : List Node} (h : n ∈ items) :
    n.levels ≤ Node.levelsItems items := by
  induction items with
  | nil => cases h
  | cons m rest ih =>
    unfold Node.levelsItems
    rcases List.mem_cons.1 h with rfl | h
    · exact Nat.le_max_left _ _
    · exact (ih h).trans (Nat.le_max_right _ _)

/-- The same for the statements of a block. A reader that has enough depth for the block has enough
for each statement in it. -/
theorem Statement.levels_le_levelsItems {s : Statement} {items : List Statement} (h : s ∈ items) :
    s.levels ≤ Statement.levelsItems items := by
  induction items with
  | nil => cases h
  | cons t rest ih =>
    unfold Statement.levelsItems
    rcases List.mem_cons.1 h with rfl | h
    · exact Nat.le_max_left _ _
    · exact (ih h).trans (Nat.le_max_right _ _)

/-! ### Expressions -/

/-- Reads a node whose containers are nested at most `depth` deep. Its items are expressions with
that many levels; its records take one of them for their fields. -/
def Node.read (depth : Nat) : Reader Node := readWith (Expr.read depth) (Interior.ofDepth depth)

/-- An expression takes one level, and leaves the others to its nodes. The definition has a case of
its own for a last level, where a node can hold no containers, and this equation covers both. -/
theorem Expr.read_succ (depth : Nat) : Expr.read (depth + 1) = readArray (Node.read depth) := by
  cases depth with
  | zero => rfl
  | succ depth => rfl

/-- The nodes of an expression are written one after another, with nothing between them. -/
theorem Node.packItems_eq_flatMap (items : List Node) :
    Node.packItems items = items.flatMap Node.pack := by
  induction items with
  | nil => rfl
  | cons n items ih => rw [Node.packItems, ih, List.flatMap_cons]

/-- An expression is read back if each of its nodes is, with the level that it takes itself. The
depth is left open in the assumption, since the nodes are read at a smaller one. -/
theorem Expr.read_pack_of_nodes {e : Expr} {depth : Nat} (hlength : e.length < UInt32.size)
    (hnodes : ∀ n ∈ e, ∀ {depth : Nat}, n.levels ≤ depth → Reads (Node.read depth) n.pack n)
    (hlevels : e.levels ≤ depth) : Reads (Expr.read depth) e.pack e := by
  -- an expression has at least the level that it takes itself
  obtain ⟨inner, rfl⟩ : ∃ inner, depth = inner + 1 := by
    unfold Expr.levels at hlevels
    exact ⟨depth - 1, by omega⟩
  -- what is left is enough for the nodes, none of which is nested deeper than the list
  have heach : ∀ n ∈ e, Reads (Node.read inner) n.pack n := by
    intro n hn
    have hle : n.levels ≤ Node.levelsItems e := Node.levels_le_levelsItems hn
    unfold Expr.levels at hlevels
    exact hnodes n hn (by omega)
  rw [Expr.read_succ, Expr.pack, Node.packItems_eq_flatMap]
  exact readArray_packArray hlength heach

/-- An optional expression is read back if the expression is. A missing one is packed as nil, which
no expression begins with. -/
theorem readOption_packOptional {read : Reader (List Node)} (index : Option (List Node))
    (hlength : ∀ e ∈ index.toList, e.length < UInt32.size)
    (hread : ∀ e ∈ index.toList, Reads read (Expr.pack e) e) :
    Reads (readOption read) (Node.packOptional index) index := by
  cases index with
  | none => exact readOption_none
  | some e =>
    have he : e ∈ (some e).toList := List.mem_singleton_self e
    -- an array has a head of its own, so it cannot be taken for nil
    exact readOption_some (readHead_packArray (hlength e he)) nofun (List.prefix_append _ _)
      (hread e he)

/-- The bytes of the fields of a reference. -/
def Reference.pack (r : Reference Node) : List UInt8 :=
  packRecord [("name", packStr r.name), ("index", Node.packOptional r.index)]

/-- **A reference is read back**, given its index is. The kind of the reference is known from the
name of the variant, so the reader is given it. -/
theorem readReference_pack {interior : Interior} {r : Reference Node}
    (hname : (utf8 r.name).length < UInt32.size)
    (hindex : Reads (readOption interior.nodes) (Node.packOptional r.index) r.index) :
    Reads (readReference r.sigil interior) r.pack r := by
  refine readRecord_packRecord (by decide : 2 < UInt32.size)
    (.more 0 (by decide) (by decide) ((readOnce_none (readStr_packStr hname)).returning _)
    (.more 1 (by decide) (by decide) ((readOnce_none hindex).returning _) (.done _))) ?_
  rfl

/-- An optional text is read back. The head of a text is not that of nil, so a text that is there is
never taken for a missing one. -/
theorem readOption_packOptionalStr (text : Option String)
    (hlength : ∀ t ∈ text.toList, (utf8 t).length < UInt32.size) :
    Reads (readOption readStr) (packOptionalStr text) text := by
  cases text with
  | none => exact readOption_none
  | some t =>
    have ht : (utf8 t).length < UInt32.size := hlength t (List.mem_singleton_self t)
    exact readOption_some (readHead_packStrHead ht) nofun (List.prefix_append _ _)
      (readStr_packStr ht)

/-- The bytes of the fields of a call, where its three expressions are already bytes. -/
def Verbcall.pack (c : Verbcall Node) : List UInt8 :=
  packVerbcall c.verb (Node.packOptional c.direct) c.preposition (Node.packOptional c.indirect)
    (Expr.pack c.params)

/-- **A call is read back**, given its expressions are. The five fields are read in the order in
which they are written, and each comes once. -/
theorem readVerbcall_pack {interior : Interior} {c : Verbcall Node}
    (htexts : ∀ text ∈ (Node.call c).texts, (utf8 text).length < UInt32.size)
    (hlengths : ∀ e ∈ (Node.call c).parts, e.length < UInt32.size)
    (hparts : ∀ e ∈ (Node.call c).parts, Reads interior.nodes (Expr.pack e) e) :
    Reads (readVerbcall interior) c.pack c := by
  -- the verb is the first of the texts, and the preposition follows it
  have hverb : (utf8 c.verb).length < UInt32.size := htexts c.verb List.mem_cons_self
  have hphrase := readOption_packOptionalStr c.preposition fun t ht =>
    htexts t (List.mem_cons_of_mem _ ht)
  -- the parameters are the first of the parts, then come the objects that are there
  have hdirect := readOption_packOptional c.direct
    (fun e he => hlengths e (List.mem_cons_of_mem _ (List.mem_append_left _ he)))
    (fun e he => hparts e (List.mem_cons_of_mem _ (List.mem_append_left _ he)))
  have hindirect := readOption_packOptional c.indirect
    (fun e he => hlengths e (List.mem_cons_of_mem _ (List.mem_append_right _ he)))
    (fun e he => hparts e (List.mem_cons_of_mem _ (List.mem_append_right _ he)))
  have hparams : Reads interior.nodes (Expr.pack c.params) c.params :=
    hparts c.params List.mem_cons_self
  refine readRecord_packRecord (by decide : 5 < UInt32.size)
    (.more 0 (by decide) (by decide) ((readOnce_none (readStr_packStr hverb)).returning _)
    (.more 1 (by decide) (by decide) ((readOnce_none hdirect).returning _)
    (.more 2 (by decide) (by decide) ((readOnce_none hphrase).returning _)
    (.more 3 (by decide) (by decide) ((readOnce_none hindirect).returning _)
    (.more 4 (by decide) (by decide) ((readOnce_none hparams).returning _) (.done _)))))) ?_
  rfl

/-- The levels of a call cover the record and each expression in it. So a reader with depth for the
call has depth for its objects and its parameters. -/
theorem Node.levels_call {c : Verbcall Node} {e : Expr} (h : e ∈ (Node.call c).parts) :
    1 + e.levels ≤ (Node.call c).levels := by
  obtain ⟨verb, direct, preposition, indirect, params⟩ := c
  -- a part is the parameters, or one of the two objects that may be missing
  unfold Node.levels Expr.levels
  rcases List.mem_cons.1 h with rfl | h
  · omega
  rcases List.mem_append.1 h with h | h
  · obtain rfl := Option.mem_toList.1 h
    unfold Node.levelsOptional
    omega
  · obtain rfl := Option.mem_toList.1 h
    unfold Node.levelsOptional
    omega

/-- So do the levels of a reference. -/
theorem Node.levels_reference {r : Reference Node} {e : Expr} (h : e ∈ (Node.reference r).parts) :
    1 + e.levels ≤ (Node.reference r).levels := by
  obtain ⟨sigil, name, index⟩ := r
  obtain rfl := Option.mem_toList.1 h
  unfold Node.levels Node.levelsOptional Expr.levels
  exact Nat.le_refl _

/-- **A reference takes one level** and leaves the others to its index. The level is that of the
record of its fields. -/
theorem readInside_reference {r : Reference Node} {depth : Nat}
    (htexts : ∀ text ∈ (Node.reference r).texts, (utf8 text).length < UInt32.size)
    (hlengths : ∀ e ∈ (Node.reference r).parts, e.length < UInt32.size)
    (hparts : ∀ e ∈ (Node.reference r).parts, ∀ {depth : Nat}, Expr.levels e ≤ depth →
      Reads (Expr.read depth) (Expr.pack e) e)
    (hlevels : (Node.reference r).levels ≤ depth) :
    Reads (readInside (Interior.ofDepth depth) (readReference r.sigil)) r.pack r := by
  -- the record takes a level, so there is one
  obtain ⟨inner, rfl⟩ : ∃ inner, depth = inner + 1 := by
    unfold Node.levels at hlevels
    exact ⟨depth - 1, by omega⟩
  have hname : (utf8 r.name).length < UInt32.size := htexts r.name List.mem_cons_self
  refine readReference_pack hname (readOption_packOptional _ hlengths ?_)
  intro e he
  have hinside : 1 + Expr.levels e ≤ (Node.reference r).levels := Node.levels_reference he
  exact hparts e he (by omega)

/-- **A call takes one level** and leaves the others to its expressions, all of which stand side by
side in the record. -/
theorem readInside_verbcall {c : Verbcall Node} {depth : Nat}
    (htexts : ∀ text ∈ (Node.call c).texts, (utf8 text).length < UInt32.size)
    (hlengths : ∀ e ∈ (Node.call c).parts, e.length < UInt32.size)
    (hparts : ∀ e ∈ (Node.call c).parts, ∀ {depth : Nat}, Expr.levels e ≤ depth →
      Reads (Expr.read depth) (Expr.pack e) e)
    (hlevels : (Node.call c).levels ≤ depth) :
    Reads (readInside (Interior.ofDepth depth) readVerbcall) c.pack c := by
  -- the record takes a level, so there is one
  obtain ⟨inner, rfl⟩ : ∃ inner, depth = inner + 1 := by
    unfold Node.levels at hlevels
    exact ⟨depth - 1, by omega⟩
  refine readVerbcall_pack htexts hlengths ?_
  intro e he
  have hinside : 1 + Expr.levels e ≤ (Node.call c).levels := Node.levels_call he
  exact hparts e he (by omega)

/-- **A node is read back**, a number with its bits. The induction is on what is nested in the node;
the cases are the kinds of nodes, each with the place of its name among the variants. -/
theorem Node.read_pack {n : Node} (h : n.Measured) {depth : Nat} (hlevels : n.levels ≤ depth) :
    Reads (Node.read depth) n.pack n := by
  induction h generalizing depth with
  | @intro n htexts hlengths _ ih =>
    -- what is right inside is read back with the levels that are left for it
    have hparts : ∀ e ∈ n.parts, ∀ {depth : Nat}, Expr.levels e ≤ depth →
        Reads (Expr.read depth) (Expr.pack e) e := by
      intro e he depth hle
      exact Expr.read_pack_of_nodes (hlengths e he) (ih e he) hle
    unfold Node.read
    cases n with
    | str text =>
      rw [Node.pack]
      have htext := readStr_packStr (htexts text List.mem_cons_self)
      exact (readVariant_packVariant 0 (by decide) (by decide)).bind (htext.returning Node.str)
    | number x =>
      rw [Node.pack]
      exact (readVariant_packVariant 1 (by decide) (by decide)).bind
        ((readFloat_packFloat x).returning Node.number)
    | bool b =>
      rw [Node.pack]
      exact (readVariant_packVariant 2 (by decide) (by decide)).bind
        ((readBool_packBool b).returning Node.bool)
    | null =>
      rw [Node.pack]
      exact (readVariant_packStr 3 (by decide) (by decide)).last (.pure _)
    | word text =>
      rw [Node.pack]
      have htext := readStr_packStr (htexts text List.mem_cons_self)
      exact (readVariant_packVariant 4 (by decide) (by decide)).bind (htext.returning Node.word)
    | reference r =>
      obtain ⟨sigil, name, index⟩ := r
      have hreference := readInside_reference htexts hlengths hparts hlevels
      rw [Node.pack]
      cases sigil with
      | var =>
        exact (readVariant_packVariant 5 (by decide) (by decide)).bind
          (hreference.returning Node.reference)
      | prop =>
        exact (readVariant_packVariant 6 (by decide) (by decide)).bind
          (hreference.returning Node.reference)
    | object id =>
      -- an id is written as a number, and every number that is read is one of 64 bits
      have hid := (readUInt_packUInt id.raw.toNat_lt).returning fun n =>
        Node.object ⟨n.toUInt64⟩
      rw [show ObjectId.mk id.raw.toNat.toUInt64 = id by simp] at hid
      rw [Node.pack]
      exact (readVariant_packVariant 7 (by decide) (by decide)).bind hid
    | named name =>
      rw [Node.pack]
      have hname := readStr_packStr (htexts name List.mem_cons_self)
      exact (readVariant_packVariant 8 (by decide) (by decide)).bind (hname.returning Node.named)
    | array items =>
      rw [Node.pack]
      -- the items are read as an expression, which has all the levels of the array
      rw [Node.levels] at hlevels
      have hitems := hparts items List.mem_cons_self hlevels
      exact (readVariant_packVariant 9 (by decide) (by decide)).bind (hitems.returning Node.array)
    | list items =>
      rw [Node.pack]
      rw [Node.levels] at hlevels
      have hitems := hparts items List.mem_cons_self hlevels
      exact (readVariant_packVariant 10 (by decide) (by decide)).bind (hitems.returning Node.list)
    | call c =>
      have hcall := readInside_verbcall htexts hlengths hparts hlevels
      rw [Node.pack]
      exact (readVariant_packVariant 11 (by decide) (by decide)).bind (hcall.returning Node.call)

/-- **An expression is read back** with the levels that it has. More levels do no harm, so a bound
on them is enough. -/
theorem Expr.read_pack {e : Expr} (h : e.Measured) {depth : Nat} (hlevels : e.levels ≤ depth) :
    Reads (Expr.read depth) e.pack e :=
  Expr.read_pack_of_nodes h.length (fun n hn => Node.read_pack (h.each n hn)) hlevels

/-- The expressions right inside a measured node are read back, each with its own levels. This is
what the records of statements need. -/
theorem Node.Measured.read_parts {n : Node} (h : n.Measured) :
    ∀ e ∈ n.parts, ∀ {depth : Nat}, Expr.levels e ≤ depth →
      Reads (Expr.read depth) (Expr.pack e) e := by
  obtain ⟨_, hlengths, hinside⟩ := h
  intro e he depth hlevels
  exact Expr.read_pack ⟨hlengths e he, hinside e he⟩ hlevels

/-! ### Statements -/

/-- An assignment symbol is written as its title alone, a variant without content. -/
theorem AssignOp.read_title (op : AssignOp) : Reads AssignOp.read (packStr op.title) op := by
  cases op with
  | set => exact (readVariant_packStr 0 (by decide) (by decide)).last (.pure _)
  | add => exact (readVariant_packStr 1 (by decide) (by decide)).last (.pure _)
  | sub => exact (readVariant_packStr 2 (by decide) (by decide)).last (.pure _)
  | mul => exact (readVariant_packStr 3 (by decide) (by decide)).last (.pure _)
  | div => exact (readVariant_packStr 4 (by decide) (by decide)).last (.pure _)

/-- **The target of an assignment is read back.** It is a reference that is written like the variant
of a node, but under names of its own. -/
theorem readTarget_pack {target : Reference Node} (h : (Node.reference target).Measured)
    {depth : Nat} (hlevels : (Node.reference target).levels ≤ depth) :
    Reads (readTarget depth)
      (packReference target.sigil target.name (Node.packOptional target.index)) target := by
  have hparts := h.read_parts
  obtain ⟨htexts, hlengths, _⟩ := h
  have hreference := readInside_reference htexts hlengths hparts hlevels
  obtain ⟨sigil, name, index⟩ := target
  -- what is written for a target is the variant that the sigil names
  cases sigil with
  | var =>
    change Reads _ (packVariant "Var" _) _
    exact (readVariant_packVariant 0 (by decide) (by decide)).bind hreference
  | prop =>
    change Reads _ (packVariant "Prop" _) _
    exact (readVariant_packVariant 1 (by decide) (by decide)).bind hreference

/-- **An assignment is read back**: its symbol, the target and the source. What is nested in the
target and in the source lies side by side, so each has to fit the levels alone. -/
theorem readAssign_pack (op : AssignOp) {target : Reference Node} {source : Expr} {depth : Nat}
    (htarget : (Node.reference target).Measured) (hsource : source.Measured)
    (hlevels : max (Node.reference target).levels source.levels ≤ depth) :
    Reads (readAssign depth) (packRecord [
      ("op", packStr op.title),
      ("dst", packReference target.sigil target.name (Node.packOptional target.index)),
      ("src", source.pack)]) (.assign op target source) := by
  have hdst := readTarget_pack htarget ((Nat.le_max_left _ _).trans hlevels)
  have hsrc := Expr.read_pack hsource ((Nat.le_max_right _ _).trans hlevels)
  refine readRecord_packRecord (by decide : 3 < UInt32.size)
    (.more 0 (by decide) (by decide) ((readOnce_none op.read_title).returning _)
    (.more 1 (by decide) (by decide) ((readOnce_none hdst).returning _)
    (.more 2 (by decide) (by decide) ((readOnce_none hsrc).returning _) (.done _)))) ?_
  rfl

/-- The bytes of the statements of a script or block, and of their number. In this form the laws of
packed arrays apply to them. -/
theorem Script.toBytes_eq_flatMap (script : Script) :
    script.toBytes = packArray script.length ++ script.flatMap Statement.pack := by
  have hitems : ∀ items : List Statement,
      Statement.packItems items = items.flatMap Statement.pack := by
    intro items
    induction items with
    | nil => rfl
    | cons s items ih => rw [Statement.packItems, ih, List.flatMap_cons]
  rw [Script.toBytes, hitems]

/-- Every statement has fields, which take a level. So a reader without levels need not read any. -/
theorem Statement.levels_pos (s : Statement) : 0 < s.levels := by
  cases s with
  | ifThen condition block => rw [Statement.levels]; omega
  | whileLoop condition block => rw [Statement.levels]; omega
  | assign op target source => rw [Statement.levels]; omega
  | call c => rw [Statement.levels, Node.levels]; omega

/-- Statements are read back one after another if each is, with the levels that the script and the
fields of a statement leave to it. -/
theorem Script.read_toBytes_of_statements {script : Script} {depth : Nat}
    (hlength : script.length < UInt32.size)
    (hstatements : ∀ s ∈ script, ∀ {depth : Nat}, s.levels ≤ depth + 1 →
      Reads (Statement.readWith depth (Script.read depth)) s.pack s)
    (hlevels : script.levels ≤ depth) : Reads (Script.read depth) script.toBytes script := by
  rw [Script.toBytes_eq_flatMap]
  unfold Script.levels at hlevels
  match depth with
  | 0 => omega
  | 1 =>
    -- the last level is that of the script, so there is no statement in it
    have hnone : ∀ s ∈ script, Reads failure s.pack s := by
      intro s hs
      have hle : s.levels ≤ Statement.levelsItems script := Statement.levels_le_levelsItems hs
      have hpos : 0 < s.levels := s.levels_pos
      omega
    exact readArray_packArray hlength hnone
  | inner + 2 =>
    have heach : ∀ s ∈ script,
        Reads (Statement.readWith inner (Script.read inner)) s.pack s := by
      intro s hs
      have hle : s.levels ≤ Statement.levelsItems script := Statement.levels_le_levelsItems hs
      exact hstatements s hs (by omega)
    exact readArray_packArray hlength heach

/-- **A condition and a block are read back**, if each statement of the block is. Both statements
that have a block are written in this way. -/
theorem readBlock_pack {condition : Expr} {block : List Statement} {depth : Nat}
    (hcondition : condition.Measured) (hlength : block.length < UInt32.size)
    (hstatements : ∀ s ∈ block, ∀ {depth : Nat}, s.levels ≤ depth + 1 →
      Reads (Statement.readWith depth (Script.read depth)) s.pack s)
    (hlevels : max condition.levels (Script.levels block) ≤ depth) :
    Reads (readBlock depth (Script.read depth)) (packRecord [
      ("condition", condition.pack),
      ("block", packArray block.length ++ Statement.packItems block)]) (condition, block) := by
  have htest := Expr.read_pack hcondition ((Nat.le_max_left _ _).trans hlevels)
  have hblock : Reads (Script.read depth) (Script.toBytes block) block :=
    Script.read_toBytes_of_statements hlength hstatements ((Nat.le_max_right _ _).trans hlevels)
  refine readRecord_packRecord (by decide : 2 < UInt32.size)
    (.more 0 (by decide) (by decide) ((readOnce_none htest).returning _)
    (.more 1 (by decide) (by decide) ((readOnce_none hblock).returning _) (.done _))) ?_
  rfl

/-- **A statement is read back.** The induction is on what is nested in its block; each kind of
statement is a variant whose fields are a record. -/
theorem Statement.read_pack {s : Statement} (h : s.Measured) {depth : Nat}
    (hlevels : s.levels ≤ depth + 1) :
    Reads (Statement.readWith depth (Script.read depth)) s.pack s := by
  induction h generalizing depth with
  | ifThen hcondition hlength _ ih =>
    rw [Statement.levels, Nat.add_comm] at hlevels
    have hrecord := readBlock_pack hcondition hlength ih (Nat.le_of_succ_le_succ hlevels)
    rw [Statement.pack]
    exact (readVariant_packVariant 0 (by decide) (by decide)).bind
      (hrecord.returning fun p => Statement.ifThen p.1 p.2)
  | whileLoop hcondition hlength _ ih =>
    rw [Statement.levels, Nat.add_comm] at hlevels
    have hrecord := readBlock_pack hcondition hlength ih (Nat.le_of_succ_le_succ hlevels)
    rw [Statement.pack]
    exact (readVariant_packVariant 1 (by decide) (by decide)).bind
      (hrecord.returning fun p => Statement.whileLoop p.1 p.2)
  | @assign op _ _ htarget hsource =>
    rw [Statement.levels, Nat.add_comm] at hlevels
    have hrecord := readAssign_pack op htarget hsource (Nat.le_of_succ_le_succ hlevels)
    rw [Statement.pack]
    exact (readVariant_packVariant 2 (by decide) (by decide)).bind hrecord
  | @call c hcall =>
    rw [Statement.levels] at hlevels
    have hparts := hcall.read_parts
    -- the record of a call is that of the node, but its level is the one of the statement
    obtain ⟨htexts, hlengths, _⟩ := hcall
    have hrecord := readInside_verbcall htexts hlengths hparts hlevels
    rw [Statement.pack]
    exact (readVariant_packVariant 3 (by decide) (by decide)).bind
      (hrecord.returning Statement.call)

/-! ### Scripts -/

namespace Script

/-- **A script is read back**, if there are as many levels as it has. No bound on the levels is
needed here, since the reader may be given any number of them. -/
theorem read_toBytes {script : Script} (h : script.Measured) {depth : Nat}
    (hlevels : script.levels ≤ depth) : Reads (Script.read depth) script.toBytes script :=
  read_toBytes_of_statements h.length (fun s hs => Statement.read_pack (h.each s hs)) hlevels

/-- Scripts with the same bytes are the same: with the levels of both, both are what is read.
Reading has one result, so this needs nothing beyond the round trip. -/
theorem eq_of_toBytes_eq {a b : Script} (ha : a.Measured) (hb : b.Measured)
    (hbytes : a.toBytes = b.toBytes) : a = b := by
  have hreada := read_toBytes ha (Nat.le_max_left a.levels b.levels) []
  have hreadb := read_toBytes hb (Nat.le_max_right a.levels b.levels) []
  -- the two readings start from the same bytes, so they end with the same script
  rw [hbytes, hreadb] at hreada
  injection hreada with hpair
  injection hpair with hscript
  exact hscript.symm

/-- **Scripts survive storage.** A script is read back from its bytes, and no other script has the
same bytes. -/
theorem survives_storage {script : Script} (hlengths : script.Measured)
    (hlevels : script.levels ≤ scriptDepth) :
    ofBytes? script.toBytes = some script ∧
      ∀ other : Script, other.Measured → other.toBytes = script.toBytes → other = script := by
  refine ⟨?_, fun other hother hbytes => eq_of_toBytes_eq hother hlengths hbytes⟩
  have hread := read_toBytes hlengths hlevels []
  rw [List.append_nil] at hread
  unfold ofBytes?
  rw [hread]
  rfl

/-- A loop with an indexed condition, around a call that has a preposition and an indirect object
but no direct one. -/
theorem waving_survives :
    let nan : Node := .number ⟨0x7FF8000000000001⟩
    let waving : Script := [
      .whileLoop [.reference ⟨.var, "n", some [nan]⟩] [
        .call ⟨"wave", none, some "at", some [.named "Bob"], [.word "at", .named "Bob"]⟩]]
    waving.Measured ∧ waving.levels = 5 ∧ ofBytes? waving.toBytes = some waving := by
  intro nan waving
  -- the node is built from the inside out: a number and texts hold nothing
  have hnan : nan.Measured := .intro nofun nofun nofun
  have hat : (Node.word "at").Measured := .intro (by decide) nofun nofun
  have hbob : (Node.named "Bob").Measured := .intro (by decide) nofun nofun
  have hindex : (Node.reference ⟨.var, "n", some [nan]⟩).Measured := by
    refine .intro (by decide) (by decide) ?_
    exact List.forall_mem_singleton.2 (List.forall_mem_singleton.2 hnan)
  have hcall : (Node.call
      ⟨"wave", none, some "at", some [.named "Bob"], [.word "at", .named "Bob"]⟩).Measured := by
    refine .intro (by decide) (by decide) (List.forall_mem_cons.2 ⟨?_, ?_⟩)
    · exact List.forall_mem_cons.2 ⟨hat, List.forall_mem_singleton.2 hbob⟩
    · exact List.forall_mem_singleton.2 (List.forall_mem_singleton.2 hbob)
  -- the loop has one statement in its block, and the script has one statement
  have hloop : waving.Measured := by
    refine ⟨by decide, List.forall_mem_singleton.2 (.whileLoop ?_ (by decide) ?_)⟩
    · exact ⟨by decide, List.forall_mem_singleton.2 hindex⟩
    · exact List.forall_mem_singleton.2 (.call hcall)
  have hlevels : waving.levels = 5 := by decide
  exact ⟨hloop, hlevels, (survives_storage hloop (by rw [hlevels]; decide)).1⟩

end Script

end VerbScript
