import DiagramAssist.Proofs.Document.Summary
import DiagramAssist.Proofs.Grammar.Concatenation
import DiagramAssist.Proofs.Grammar.Subtrees

/-! # Leaving an include out

Where a line that includes something stands between whole lines that parse, the document without the
line parses as well. Its nodes are those of the document with the line, apart from the include, and
the nodes behind the line stand earlier by the length of the line. So all that does not depend on
places can be read off either document, as long as nothing is read off the include
(`IncludeSite.filterMap_nodes`).
-/

namespace DiagramAssist

/-- The include that a text is, if it is nothing else. -/
def inclusion? (text : String) : Option Include :=
  match parse text with
  | .ok ⟨[.inclusion content], _⟩ => some content
  | _ => none

theorem parse_of_inclusion? {text : String} {content : Include}
    (single : inclusion? text = some content) :
    ∃ root, parse text = .ok root ∧ root.statements = [.inclusion content] := by
  rw [inclusion?] at single
  split at single
  · next found span parsed =>
    cases single
    exact ⟨_, parsed, rfl⟩
  · cases single

/-- A document that parses, with a line in it that is an include. The lines before it parse by
themselves. -/
structure IncludeSite where
  before : String
  line : String
  behind : String
  content : Include
  whole : before = "" ∨ before.toList.getLast? = some '\n'
  closed : ∃ root, parse before = .ok root
  ended : line.toList.getLast? = some '\n'
  single : inclusion? line = some content
  parses : ∃ root, parse (before ++ line ++ behind) = .ok root

/-- A document parses when its statements can be read. -/
theorem parse_of_statements {source : String} {statements : List Statement}
    (read : Grammar.statements source.toList = .ok statements) :
    ∃ root, parse source = .ok root ∧ root.statements = statements :=
  ⟨_, by rw [parse, read], rfl⟩

namespace IncludeSite

variable (site : IncludeSite)

def document : String :=
  site.before ++ site.line ++ site.behind

/-- The document without the line. -/
def remainder : String :=
  site.before ++ site.behind

/-- Both documents parse. Apart from the include they have the same nodes, some of them moved. -/
theorem exists_nodes :
    ∃ (root root' : Root) (earlier later : List Node) (moved moved' : Nat),
      parse site.document = .ok root ∧ parse site.remainder = .ok root' ∧
      root.nodes = earlier ++ .statement (.inclusion (site.content.shift moved)) ::
        later.map (Node.shift moved') ∧
      root'.nodes = earlier ++ later.map (Node.shift moved) := by
  obtain ⟨first, closed⟩ := site.closed
  obtain ⟨middle, single, included⟩ := parse_of_inclusion? site.single
  obtain ⟨root, parsed⟩ := site.parses
  have lines : Line.AreWhole site.before.toList := by
    rcases site.whole with empty | last
    · rw [empty]
      exact .inl rfl
    · exact .inr last
  have behind := Grammar.statements_append lines (statements_of_parse closed)
  have inside := Grammar.statements_append (.inr site.ended) (statements_of_parse single)
  have whole := statements_of_parse parsed
  rw [String.append_assoc, String.toList_append, behind, String.toList_append, inside] at whole
  cases read : Grammar.statements site.behind.toList with
  | error diagnostic =>
    rw [read] at whole
    cases whole
  | ok later =>
    rw [read, Grammar.relocate, Grammar.relocate, Except.ok.injEq, included] at whole
    obtain ⟨root', parsed', statements⟩ := parse_of_statements (show
      Grammar.statements site.remainder.toList = .ok (first.statements ++
        Statement.shiftAll (Text.byteLength site.before.toList) later) by
      rw [remainder, String.toList_append, behind, read, Grammar.relocate])
    refine ⟨root, root', first.nodes, Statement.walkAll (fun _ => true) later,
      Text.byteLength site.before.toList,
      Text.byteLength site.line.toList + Text.byteLength site.before.toList,
      parsed, parsed', ?_, ?_⟩
    · rw [Root.nodes, Root.walk, ← whole, Statement.walkAll_append, List.singleton_append,
        Statement.shiftAll, Statement.shiftAll_shiftAll, Statement.shift, Statement.walkAll,
        Statement.walkAll_shiftAll]
      rfl
    · rw [Root.nodes, Root.walk, statements, Statement.walkAll_append, Statement.walkAll_shiftAll]
      rfl

variable {site} {root root' : Root} (parsed : parse site.document = .ok root)
  (parsed' : parse site.remainder = .ok root')

include parsed parsed'

/-- What does not depend on places is read off either document, if nothing is read off the
include. -/
theorem filterMap_nodes {α : Type} {read : Node → Option α}
    (moves : ∀ (distance : Nat) (node : Node), read (node.shift distance) = read node)
    (silent : read (.statement (.inclusion site.content)) = none) :
    root.nodes.filterMap read = root'.nodes.filterMap read := by
  obtain ⟨root, root', earlier, later, moved, moved', found, found', nodes, nodes'⟩ :=
    site.exists_nodes
  cases parsed.symm.trans found
  cases parsed'.symm.trans found'
  have still (distance : Nat) : (later.map (Node.shift distance)).filterMap read =
      later.filterMap read := by
    rw [List.filterMap_map]
    exact congrArg (later.filterMap ·) (funext (moves distance))
  have silent : read (.statement (.inclusion (site.content.shift moved))) = none :=
    (moves moved (.statement (.inclusion site.content))).trans silent
  rw [nodes, nodes', List.filterMap_append, List.filterMap_append, List.filterMap_cons_none silent,
    still, still]

/-- Both documents tell the same. -/
theorem echoes : (SymbolTable.extract root).Echoes (SymbolTable.extract root') where
  declarations := by
    simp only [SymbolTable.extract, SymbolTable.ofNodes, List.map_filterMap]
    exact filterMap_nodes parsed parsed' Node.declaration?_shift rfl
  callables := by
    simp only [SymbolTable.extract, SymbolTable.ofNodes, List.map_filterMap]
    exact filterMap_nodes parsed parsed' Node.callable?_shift rfl
  mentions := by
    simp only [SymbolTable.extract, SymbolTable.ofNodes, List.map_filterMap]
    exact filterMap_nodes parsed parsed' Node.mention?_shift rfl

/-- Both documents include the same but for what the line includes. -/
theorem filterMap_includes {α : Type} {read : Include → Option α}
    (moves : ∀ (distance : Nat) (content : Include), read (content.shift distance) = read content)
    (silent : read site.content = none) :
    (SymbolTable.extract root).includes.filterMap read =
      (SymbolTable.extract root').includes.filterMap read := by
  simp only [SymbolTable.extract, SymbolTable.ofNodes, List.filterMap_filterMap]
  refine filterMap_nodes parsed parsed' (fun distance node => ?_) silent
  rw [Node.include?_shift, Option.bind_map]
  exact congrArg _ (funext fun content => moves distance content)

end IncludeSite

end DiagramAssist
