import Mathlib.Data.List.Sort
import VerbScript.Proofs.BlockGrammar
import VerbScript.Proofs.Places

/-!
# Paths in the order of the source

Every statement of a script has one path, and sorting the paths sorts the statements as they are
written: a statement comes before those of its block, and these come before whatever follows the
block.

* `Script.occurrences` — the statements of a script as they are written, those of blocks included.
  `Script.forms_heads` reads them off the lines of the script, `Script.lines_heads` off the text it
  is compiled from.
* `Script.paths` — the paths in the same order. They ascend (`Script.paths_ascending`), are the
  paths that lead to a statement (`Script.mem_paths`), and lead to the statements in their order
  (`Script.map_find?_paths`).
* `Script.Lists` — all paths in lexicographic order, said without the recursion over the script;
  `Script.lists_in_source_order` is about whatever list this is.
-/

namespace VerbScript

/-! ### Statements as they are written -/

mutual

/-- A statement and those of its block, as they are written: the statement begins before its block
does. -/
def Statement.occurrences : Statement → List Statement
  | .ifThen condition block => .ifThen condition block :: blockOccurrences block
  | .whileLoop condition block => .whileLoop condition block :: blockOccurrences block
  | .assign op target source => [.assign op target source]
  | .call c => [.call c]

/-- The statements of a block and of the blocks in it, as they are written. A statement that occurs
twice is listed twice. -/
def blockOccurrences : List Statement → List Statement
  | [] => []
  | s :: rest => s.occurrences ++ blockOccurrences rest

end

/-- The statements of a script as they are written. This is the order in which a reader meets them,
and not the one in which they are executed. -/
def Script.occurrences (script : Script) : List Statement := blockOccurrences script

/-- The line on which a statement begins. For a statement without a block it is all of it; for the
others it is the line that opens the block. -/
def Statement.head : Statement → LineForm
  | .ifThen condition _ => .opening .ifThen condition
  | .whileLoop condition _ => .opening .whileLoop condition
  | .assign op target source => .statement (.assign op target source)
  | .call c => .statement (.call c)

/-- Whether a statement begins on the line. None does on a line that is left out, or on an `end`.
There is no other line without a statement. -/
def LineForm.isHead : LineForm → Bool
  | .skip => false
  | .closing => false
  | .opening .. => true
  | .statement _ => true

/-- Of the lines of a block, its opening line and those of its statements are left. -/
theorem filter_isHead_block (kind : BlockKind) (condition : Expr) (lines : List LineForm) :
    (.opening kind condition :: (lines ++ [.closing])).filter LineForm.isHead
      = .opening kind condition :: lines.filter LineForm.isHead := by
  rw [List.filter_cons_of_pos rfl, List.filter_append]
  exact congrArg _ (List.append_nil _)

mutual

/-- The lines of a statement on which one begins: its own first line, and those of its block. The
`end` of a block begins no statement. -/
theorem Statement.forms_heads :
    ∀ s : Statement, s.forms.filter LineForm.isHead = s.occurrences.map Statement.head
  | .assign _ _ _ => rfl
  | .call _ => rfl
  | .ifThen condition block => by
    rw [Statement.forms, filter_isHead_block, blockForms_heads block]
    rfl
  | .whileLoop condition block => by
    rw [Statement.forms, filter_isHead_block, blockForms_heads block]
    rfl

/-- The same for the statements of a block, one after the other. -/
theorem blockForms_heads : ∀ block : List Statement,
    (blockForms block).filter LineForm.isHead = (blockOccurrences block).map Statement.head
  | [] => rfl
  | s :: rest => by
    rw [blockForms, blockOccurrences, List.filter_append, List.map_append, s.forms_heads,
      blockForms_heads rest]

end

/-- Whether a statement begins on a line that has been read. A line that cannot be read begins
none. -/
def ReadLine.isHead : ReadLine → Bool
  | .ok form => form.isHead
  | .error _ => false

namespace Script

variable {script : Script}

/-- **The lines of a script** are the beginnings of its statements, in their order, and the ends of
blocks between them. -/
theorem forms_heads (script : Script) :
    script.forms.filter LineForm.isHead = script.occurrences.map Statement.head :=
  blockForms_heads script

/-- **So are the lines of a text that compiles**, with blank lines and comments between them. In a
text that compiles every line can be read. -/
theorem lines_heads {source : String} (h : Script.compile source = .ok script) :
    ((Text.lines source.toList).map LineForm.read).filter ReadLine.isHead
      = script.occurrences.map fun s => .ok s.head := by
  generalize hlines : (Text.lines source.toList).map LineForm.read = lines
  -- a script that has been compiled from the lines is written on those that are kept
  have hwritten : script.forms.map .ok = kept lines := by
    rcases compile_cases source hlines with
      ⟨a, hreads, hclosed, heq⟩ | ⟨a, -, -, heq⟩ | ⟨e, -, heq⟩
    · rw [heq] at h
      cases h
      exact (hreads.forms_reverse hclosed).1
    · rw [heq] at h
      cases h
    · rw [heq] at h
      cases h
  -- no statement begins on a line that is left out
  have hkept : (kept lines).filter ReadLine.isHead = lines.filter ReadLine.isHead := by
    rw [kept, List.filter_filter]
    refine List.filter_congr fun line _ => ?_
    rcases line with problem | (_ | _ | _ | _) <;> rfl
  have hmap : (script.forms.map Except.ok : List ReadLine).filter ReadLine.isHead
      = (script.forms.filter LineForm.isHead).map .ok := List.filter_map
  rw [← hkept, ← hwritten, hmap, forms_heads, List.map_map]
  rfl

end Script

/-! ### Paths -/

mutual

/-- What the paths to a statement and to those of its block have behind the place of the statement.
-/
def Statement.paths : Statement → List Path
  | .ifThen _ block => [] :: blockPaths 0 block
  | .whileLoop _ block => [] :: blockPaths 0 block
  | .assign .. => [[]]
  | .call _ => [[]]

/-- The paths to the statements of a block from place `i` on, and to those of the blocks in it.
Inside of a statement, places are counted from zero again. -/
def blockPaths (i : Nat) : List Statement → List Path
  | [] => []
  | s :: rest => s.paths.map (i :: ·) ++ blockPaths (i + 1) rest

end

/-- A path into a block has the place of one of its statements first, and behind it what leads on
from there. -/
theorem mem_blockPaths {block : List Statement} {i : Nat} {p : Path} :
    p ∈ blockPaths i block ↔
      ∃ j q s, p = (i + j) :: q ∧ block[j]? = some s ∧ q ∈ s.paths := by
  induction block generalizing i with
  | nil => simp [blockPaths]
  | cons s rest ih =>
    rw [blockPaths, List.mem_append, List.mem_map, ih]
    constructor
    · rintro (⟨q, hq, rfl⟩ | ⟨j, q, s', rfl, hs', hq⟩)
      · exact ⟨0, q, s, rfl, rfl, hq⟩
      · exact ⟨j + 1, q, s', by rw [Nat.add_right_comm, Nat.add_assoc], hs', hq⟩
    · rintro ⟨j, q, s', rfl, hs', hq⟩
      cases j with
      | zero =>
        cases hs'
        exact .inl ⟨q, hq, rfl⟩
      | succ j => exact .inr ⟨j, q, s', by rw [Nat.add_right_comm, Nat.add_assoc], hs', hq⟩

/-- The path to a statement comes before those into its block, since it is empty behind the place of
the statement. -/
theorem nil_lt_of_mem_blockPaths {block : List Statement} {i : Nat} {p : Path}
    (h : p ∈ blockPaths i block) : [] < p := by
  obtain ⟨j, q, -, rfl, -, -⟩ := mem_blockPaths.1 h
  exact List.nil_lt_cons _ _

/-- What follows the place of a statement is nothing, or leads into its block. -/
theorem Statement.mem_paths {s : Statement} {q : Path} :
    q ∈ s.paths ↔ q = [] ∨ ∃ block, s.block? = some block ∧ q ∈ blockPaths 0 block := by
  cases s <;> simp [Statement.paths, Statement.block?]

mutual

/-- What leads on from a statement ascends. With the next theorem, this is an induction on how
blocks are nested. -/
theorem Statement.paths_ascending : ∀ s : Statement, s.paths.Pairwise (· < ·)
  | .assign _ _ _ => List.pairwise_singleton _ _
  | .call _ => List.pairwise_singleton _ _
  | .ifThen _ block => .cons (fun _ h => nil_lt_of_mem_blockPaths h) (blockPaths_ascending 0 block)
  | .whileLoop _ block =>
    .cons (fun _ h => nil_lt_of_mem_blockPaths h) (blockPaths_ascending 0 block)

/-- So do the paths of a block, those of one statement before those of the next. The order is the
lexicographic one, in which a statement comes before those of its block. -/
theorem blockPaths_ascending (i : Nat) :
    ∀ block : List Statement, (blockPaths i block).Pairwise (· < ·)
  | [] => .nil
  | s :: rest => by
    rw [blockPaths, List.pairwise_append]
    refine ⟨?_, blockPaths_ascending (i + 1) rest, ?_⟩
    · -- those of one statement begin with the same place
      rw [List.pairwise_map]
      exact s.paths_ascending.imp fun h => List.cons_lt_cons_iff.2 (.inr ⟨rfl, h⟩)
    · -- the paths of later statements begin with a later place
      rintro p hp q hq
      obtain ⟨p', -, rfl⟩ := List.mem_map.1 hp
      obtain ⟨j, q', -, rfl, -, -⟩ := mem_blockPaths.1 hq
      exact List.cons_lt_cons_iff.2 (.inl (by omega))

end

/-! ### Where the paths lead -/

/-- The statement that a path leads to from the place of `s` on. The empty path leads to `s` itself,
and any other one into its block. -/
def Statement.at? (s : Statement) : Path → Option Statement
  | [] => some s
  | j :: rest => s.block?.bind fun block => Script.find? block (j :: rest)

/-- A path is followed by its first place and by what is behind it. -/
theorem Script.find?_at? (script : Script) (i : Nat) (q : Path) :
    script.find? (i :: q) = script[i]?.bind (·.at? q) := by
  cases q with
  | nil => exact (Option.bind_fun_some _).symm
  | cons j rest =>
    rw [Script.find?_cons _ _ (List.cons_ne_nil _ _), Option.bind_assoc]
    rfl

/-- What goes on into the block of a statement leads there. -/
theorem Statement.map_at?_block {s : Statement} {block : List Statement}
    (h : s.block? = some block) :
    (blockPaths 0 block).map s.at? = (blockPaths 0 block).map (Script.find? block) := by
  refine List.map_congr_left fun q hq => ?_
  obtain ⟨j, q', -, rfl, -, -⟩ := mem_blockPaths.1 hq
  rw [Statement.at?, h, Option.bind_some]

mutual

/-- What leads on from a statement leads to it and to the statements of its block, as they are
written. -/
theorem Statement.map_at?_paths :
    ∀ s : Statement, s.paths.map s.at? = s.occurrences.map some
  | .assign _ _ _ => rfl
  | .call _ => rfl
  | .ifThen condition block => by
    rw [Statement.paths, Statement.occurrences, List.map_cons, List.map_cons]
    exact congrArg _ ((Statement.map_at?_block rfl).trans (map_find?_blockPaths [] block))
  | .whileLoop condition block => by
    rw [Statement.paths, Statement.occurrences, List.map_cons, List.map_cons]
    exact congrArg _ ((Statement.map_at?_block rfl).trans (map_find?_blockPaths [] block))

/-- Behind some statements of a block, the paths of the others lead to these. The statements that
have been passed are kept in front, since paths are followed from the beginning of the block. -/
theorem map_find?_blockPaths (before : List Statement) :
    ∀ block : List Statement,
      (blockPaths before.length block).map (Script.find? (before ++ block))
        = (blockOccurrences block).map some
  | [] => rfl
  | s :: rest => by
    rw [blockPaths, blockOccurrences, List.map_append, List.map_append, List.map_map]
    congr 1
    · -- the first statement that has not been passed
      rw [← s.map_at?_paths]
      refine List.map_congr_left fun q _ => ?_
      rw [Function.comp_apply, Script.find?_at?, List.getElem?_append_right (Nat.le_refl _),
        Nat.sub_self]
      rfl
    · -- the others, behind it
      have hrest := map_find?_blockPaths (before ++ [s]) rest
      rwa [List.length_append, List.length_singleton, List.append_assoc, List.singleton_append]
        at hrest

end

namespace Script

/-- The paths to the statements of a script, as these are written. They are listed by a recursion on
the script, and not by looking paths up. -/
def paths (script : Script) : List Path := blockPaths 0 script

variable {script : Script}

/-- **The paths ascend** in lexicographic order. Within a block the places grow, and a statement
comes before those of its block, whose paths go on behind its own. -/
theorem paths_ascending (script : Script) : script.paths.Pairwise (· < ·) :=
  blockPaths_ascending 0 script

/-- **The paths lead to the statements in their order.** So the list of paths is as long as that of
the statements, and none of them leads nowhere. -/
theorem map_find?_paths (script : Script) :
    script.paths.map script.find? = script.occurrences.map some :=
  map_find?_blockPaths [] script

/-- **The paths are those that lead to a statement.** One direction is the lemma above; the other
one follows the search for a path down into the blocks. -/
theorem mem_paths {p : Path} : p ∈ script.paths ↔ (script.find? p).isSome := by
  -- by the path, because what follows its first place is looked up in the block there
  induction p generalizing script with
  | nil =>
    refine ⟨fun h => ?_, nofun⟩
    exact absurd (nil_lt_of_mem_blockPaths h) (List.lt_irrefl [])
  | cons i q ih =>
    -- the first place of the path is that of a statement of the script
    have hplace : i :: q ∈ script.paths ↔ ∃ s, script[i]? = some s ∧ q ∈ s.paths := by
      rw [paths, mem_blockPaths]
      constructor
      · rintro ⟨j, q', s, heq, hs, hq⟩
        rw [Nat.zero_add] at heq
        cases heq
        exact ⟨s, hs, hq⟩
      · rintro ⟨s, hs, hq⟩
        exact ⟨i, q, s, by rw [Nat.zero_add], hs, hq⟩
    -- what is behind it leads on from that statement, into its block if it has one
    have hat : ∀ s : Statement, q ∈ s.paths ↔ (s.at? q).isSome := by
      intro s
      rw [Statement.mem_paths]
      cases q with
      | nil => exact ⟨fun _ => rfl, fun _ => .inl rfl⟩
      | cons j rest =>
        cases hblock : s.block? with
        | none => simp [Statement.at?, hblock]
        | some block =>
          have hin : j :: rest ∈ blockPaths 0 block ↔ (Script.find? block (j :: rest)).isSome :=
            ih
          simpa [Statement.at?, hblock] using hin
    rw [hplace, find?_at?]
    cases hs : script[i]? with
    | none => simp
    | some s => simpa using hat s

/-- All paths that lead to a statement, each once and in lexicographic order; a path comes before
those that go on behind it. -/
structure Lists (script : Script) (paths : List Path) : Prop where
  ascending : paths.Pairwise (· < ·)
  complete : ∀ p, p ∈ paths ↔ (script.find? p).isSome

/-- The paths of a script are such a list. -/
theorem lists_paths (script : Script) : script.Lists script.paths :=
  ⟨script.paths_ascending, fun _ => mem_paths⟩

/-- There is only one such list, since a list that ascends is known by its members. -/
theorem Lists.eq_paths {paths : List Path} (h : script.Lists paths) : paths = script.paths :=
  h.ascending.eq_of_mem_iff script.paths_ascending fun p => (h.complete p).trans mem_paths.symm

/-- A path that is not empty is looked up by its last place, in the block that encloses it. -/
theorem find?_eq_getLast (script : Script) (path : Path) (h : path ≠ []) :
    script.find? path = (script.enclosing? path).bind (·[path.getLast h]?) := by
  rcases List.eq_nil_or_concat path with rfl | ⟨p, i, rfl⟩
  · exact absurd rfl h
  · simp only [List.concat_eq_append, List.getLast_append_singleton]
    exact find?_concat script p i

/-- **Paths address the statements one to one, in the order of the source.** A path is looked up by
its last place in the block that encloses it, and leads to a statement only if every path on the way
leads to an `if` or a `while`. There is one list of all paths that lead to a statement in
lexicographic order, and they lead to the statements of the script one after the other as they are
written, each of them once. If the script is compiled from a text, these are the statements that
begin on the lines of the text, in the order of the lines. -/
theorem lists_in_source_order (script : Script) :
    (∀ (path : Path) (h : path ≠ []),
      script.find? path = (script.enclosing? path).bind (·[path.getLast h]?)) ∧
    (∀ p rest : Path, p ≠ [] → rest ≠ [] → (script.find? (p ++ rest)).isSome →
      ∃ condition block, script.find? p = some (.ifThen condition block) ∨
        script.find? p = some (.whileLoop condition block)) ∧
    (∃ paths, script.Lists paths ∧ ∀ other, script.Lists other → other = paths) ∧
    (∀ paths, script.Lists paths → paths.map script.find? = script.occurrences.map some) ∧
    script.forms.filter LineForm.isHead = script.occurrences.map Statement.head ∧
    (∀ source, Script.compile source = .ok script →
      ((Text.lines source.toList).map LineForm.read).filter ReadLine.isHead
        = script.occurrences.map fun s => .ok s.head) := by
  refine ⟨script.find?_eq_getLast, ?_, ?_, ?_, script.forms_heads, fun _ => lines_heads⟩
  · intro p rest hp hrest hfound
    -- the path goes on, so there is a block at `p`
    obtain ⟨j, rest, rfl⟩ := List.exists_cons_of_ne_nil hrest
    obtain ⟨statement, block, -, hfind, hblock, -, -⟩ := exists_through hp hfound
    cases statement with
    | ifThen condition body => exact ⟨condition, body, .inl hfind⟩
    | whileLoop condition body => exact ⟨condition, body, .inr hfind⟩
    | assign op target source => cases hblock
    | call c => cases hblock
  · exact ⟨script.paths, script.lists_paths, fun _ h => h.eq_paths⟩
  · intro paths h
    rw [h.eq_paths]
    exact script.map_find?_paths

/-- A text with a block in a block, and statements before, in and behind the blocks. -/
def porchSource : String := "$n = 2\nwhile $n\n  $n -= 1\n  if %open\n    knock\n  end\nend\nleave"

/-- The script of the text. -/
def porch : Script :=
  [.assign .set ⟨.var, "n", none⟩ [.number (.ofNat 2)],
    .whileLoop [.reference ⟨.var, "n", none⟩]
      [.assign .sub ⟨.var, "n", none⟩ [.number (.ofNat 1)],
        .ifThen [.reference ⟨.prop, "open", none⟩]
          [.call ⟨"knock", none, none, none, []⟩]],
    .call ⟨"leave", none, none, none, []⟩]

/-- The six statements stand at these paths, in the order of their lines. The source has eight
lines; those with an `end` begin no statement. -/
theorem porch_in_source_order :
    Script.compile porchSource = .ok porch ∧
      porch.Lists [[0], [1], [1, 0], [1, 1], [1, 1, 0], [2]] ∧
      [[0], [1], [1, 0], [1, 1], [1, 1, 0], [2]].map porch.find? = porch.occurrences.map some ∧
      porch.occurrences.length = 6 ∧
      ((Text.lines porchSource.toList).map LineForm.read).filter ReadLine.isHead
        = porch.occurrences.map fun s => .ok s.head := by
  obtain ⟨-, -, -, hvisited, -, hlines⟩ := lists_in_source_order porch
  have hcompile : Script.compile porchSource = .ok porch := by decide +kernel
  -- these are the paths that the recursion lists
  have hlists : porch.Lists [[0], [1], [1, 0], [1, 1], [1, 1, 0], [2]] := porch.lists_paths
  exact ⟨hcompile, hlists, hvisited _ hlists, rfl, hlines _ hcompile⟩

end Script

end VerbScript
