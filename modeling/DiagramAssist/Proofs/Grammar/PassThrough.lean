import DiagramAssist.Proofs.Grammar.Subtrees

/-! # Lines that are passed through

A document without a committed line always parses, and every line of it is a statement of its own.
In a document that parses, a statement that is passed through, at whatever depth it stands, was said
by one of the lines, and that line does not commit: a known directive is read as such or reported.
-/

namespace DiagramAssist

open Grammar Text

/-! ## The line behind a statement -/

section Made

variable {line : Line} {statement found : Statement} {enters : Node → Bool}

/-- A statement that a line says and that is passed through: the line does not commit, and it has
the mark of a directive exactly when the statement is an unknown directive. -/
theorem Line.Says.passed (told : line.Says (.whole statement)) (plain : statement.isPlain = true) :
    line.commits = false ∧ statement.isUnknown = (afterMark line.content).isSome ∧
      ∀ text span, statement = .text text span → text.toList = line.content := by
  obtain ⟨reading, next, read, same⟩ := told
  cases reading with
  | opens start header => cases same
  | whole statement =>
    cases same
    rw [Statement.isPlain_shift] at plain
    rcases isKnown_or_passed read with known | ⟨uncommitted, passed⟩
    · have known : statement.isPlain = false := known.1
      rw [plain] at known
      cases known
    · obtain ⟨other, later, chosen, -, unknown, text⟩ :=
        choose_passing line.ending.completes ⟨0, line.content⟩
      cases passed.symm.trans chosen
      refine ⟨uncommitted, by rw [Statement.isUnknown_shift, unknown], ?_⟩
      intro content span same
      cases statement <;> simp only [Statement.shift, reduceCtorEq, Statement.text.injEq] at same
      exact same.1 ▸ text _ _ rfl

/-- A statement that is passed through was read by one of the productions that do not commit. -/
theorem Line.Says.read_passing (told : line.Says (.whole statement))
    (plain : statement.isPlain = true) :
    ∃ found later, found.shift line.start = .whole statement ∧
      ∃ reader ∈ passing line.ending.completes,
        reader ⟨0, line.content⟩ = .read found later := by
  obtain ⟨found, later, read, same⟩ := told
  rcases isKnown_or_passed read with known | ⟨-, passed⟩
  · cases found with
    | opens start header => cases same
    | whole found =>
      have known : found.isPlain = false := known.1
      rw [← Reading.whole.inj same, Statement.isPlain_shift, known] at plain
      cases plain
  · exact ⟨found, later, same, Reader.read_of_choose passed⟩

/-- What an unknown directive records of its line: where the mark stands behind the blanks, the line
from there on, and the word behind the mark. -/
theorem Line.Says.records_unknown {directive : Located String} {text : String} {span : Span}
    (told : line.Says (.whole (.unknown directive text span))) :
    ∃ rest, afterBlanks line.content = '!' :: rest ∧ text.toList = '!' :: rest ∧
      directive.value.toList = rest.takeWhile (fun c => Reader.isNameChar c || c == '$') ∧
      span.start = line.start + byteLength (line.content.takeWhile isSpace) := by
  obtain ⟨found, later, same, reader, member, read⟩ := told.read_passing rfl
  simp only [passing, List.mem_cons, List.not_mem_nil, or_false] at member
  rcases member with rfl | rfl | rfl
  · obtain ⟨expression, span, rfl⟩ := yields_callLine _ _ _ _ read
    cases same
  · simp only [unknown, Reader.bind_eq_read, Reader.pure_eq_read] at read
    obtain ⟨start, middle, begins, taken, _, whole, rfl, rfl⟩ := read
    rw [Reader.restOfLine_apply] at whole
    cases whole
    cases same
    obtain ⟨place, mark⟩ := Reader.mark_of_directiveStart begins
    have ordered : start ≤ middle.column + byteLength middle.rest := by
      obtain ⟨_, mark, lead, rfl, sign⟩ := Reader.passes_of_directiveStart begins
      rw [sign.column]
      omega
    refine ⟨middle.rest, mark, String.toList_ofList, String.toList_ofList, ?_⟩
    rw [Span.start_shift, Span.start_between_of_le ordered, place]
    simp only [Nat.zero_add, Nat.add_comm]
  · simp only [diagramText, Reader.bind_eq_read, Reader.pure_eq_read] at read
    obtain ⟨_, _, _, rfl, rfl⟩ := read
    cases same

/-- A line of the diagram is recorded as a whole, from its start. -/
theorem Line.Says.records_text {text : String} {span : Span}
    (told : line.Says (.whole (.text text span))) :
    text.toList = line.content ∧ span.start = line.start := by
  obtain ⟨found, later, same, reader, member, read⟩ := told.read_passing rfl
  simp only [passing, List.mem_cons, List.not_mem_nil, or_false] at member
  rcases member with rfl | rfl | rfl
  · obtain ⟨expression, span, rfl⟩ := yields_callLine _ _ _ _ read
    cases same
  · simp only [unknown, Reader.bind_eq_read, Reader.pure_eq_read] at read
    obtain ⟨_, _, _, _, _, _, rfl, rfl⟩ := read
    cases same
  · simp only [diagramText, Reader.bind_eq_read, Reader.pure_eq_read] at read
    obtain ⟨_, _, whole, rfl, rfl⟩ := read
    rw [Reader.restOfLine_apply] at whole
    cases whole
    cases same
    refine ⟨String.toList_ofList, ?_⟩
    rw [Span.start_shift, Span.start_between_of_le (Nat.le_add_right ..), Nat.zero_add]

/-- A line that does not commit says a statement that is passed through. -/
theorem Line.says_of_uncommitted (uncommitted : line.commits = false) :
    ∃ statement, line.Says (.whole statement) ∧ statement.isPlain = true := by
  obtain ⟨statement, later, chosen, plain, -⟩ :=
    choose_passing line.ending.completes ⟨0, line.content⟩
  have uncommitted : Grammar.commits line.content = false := uncommitted
  have read : reading line.ending.completes ⟨0, line.content⟩ = .read (.whole statement) later := by
    rw [reading_of_uncommitted uncommitted, chosen]
  exact ⟨statement.shift line.start, ⟨_, later, read, rfl⟩, by rw [Statement.isPlain_shift, plain]⟩

/-- A statement in a tree that is passed through was said by one of the lines of the tree. -/
theorem Statement.AllMade.says_of_walkAll {statements : List Statement} {lines : List Line}
    (made : Statement.AllMade statements lines)
    (member : .statement found ∈ Statement.walkAll enters statements)
    (plain : found.isPlain = true) : ∃ line ∈ lines, line.Says (.whole found) := by
  obtain ⟨own, inside, made⟩ := made.made_of_walkAll member
  cases made with
  | line told => exact ⟨_, inside.mem (List.mem_singleton_self _), told⟩
  | callable | loop | branch | defineLong => cases plain

end Made

/-! ## Documents -/

/-- The span stands on the line. -/
def Line.Carries (line : Line) (span : Span) : Prop :=
  line.start ≤ span.start ∧ span.stop ≤ line.contentStop

/-- A statement stands on the line that says it. -/
theorem Line.Says.carries {line : Line} {statement : Statement}
    (told : line.Says (.whole statement)) : line.Carries statement.span := by
  have span : statement.outline.span = statement.span := Node.span_outline (.statement statement)
  have inside := told.inTurn_content.inside statement.outline (List.mem_singleton_self _)
  rwa [span] at inside

/-- A span stands on one line of a text at most. -/
theorem Line.Carries.unique {source : List Char} {first second : Line} {span : Span}
    (here : first.Carries span) (there : second.Carries span) (one : first ∈ Line.split source)
    (other : second ∈ Line.split source) : first = second := by
  have apart := Line.pairwise_split source
  generalize Line.split source = lines at one other apart
  induction lines with
  | nil => cases one
  | cons line rest ih =>
    rw [List.pairwise_cons] at apart
    rw [List.mem_cons] at one other
    have ordered := span.ordered
    simp only [Line.Carries] at here there
    rcases one with rfl | one
    · rcases other with rfl | other
      · rfl
      · have behind := apart.1 second other
        omega
    · rcases other with rfl | other
      · have behind := apart.1 first one
        omega
      · exact ih one other apart.2

/-- Lines that do not commit say statements that are passed through, one each. -/
theorem Line.sayAll_of_uncommitted {lines : List Line}
    (uncommitted : ∀ line ∈ lines, line.commits = false) :
    ∃ statements, Line.SayAll lines statements ∧
      ∀ statement ∈ statements, statement.isPlain = true := by
  induction lines with
  | nil => exact ⟨[], .nil, nofun⟩
  | cons line rest ih =>
    rw [List.forall_mem_cons] at uncommitted
    obtain ⟨statement, told, plain⟩ := Line.says_of_uncommitted uncommitted.1
    obtain ⟨statements, said, rest⟩ := ih uncommitted.2
    exact ⟨statement :: statements, .cons told said, List.forall_mem_cons.mpr ⟨plain, rest⟩⟩

theorem Line.SayAll.length_eq {lines : List Line} {statements : List Statement}
    (said : Line.SayAll lines statements) : statements.length = lines.length := by
  induction said with
  | nil => rfl
  | cons told rest ih => rw [List.length_cons, List.length_cons, ih]

theorem Line.SayAll.says_of_mem_zip {lines : List Line} {statements : List Statement}
    (said : Line.SayAll lines statements) {line : Line} {statement : Statement}
    (member : (line, statement) ∈ lines.zip statements) : line.Says (.whole statement) := by
  induction said with
  | nil => cases member
  | cons told rest ih =>
    rw [List.zip_cons_cons, List.mem_cons] at member
    rcases member with same | later
    · cases same
      exact told
    · exact ih later

/-- The mark of a directive is the first character that is no blank. -/
theorem isSome_afterMark_iff {text : List Char} :
    (afterMark text).isSome = true ↔ (afterBlanks text).head? = some '!' := by
  rw [afterMark]
  cases afterBlanks text with
  | nil => simp only [afterChar, Option.isSome_none, Bool.false_eq_true, List.head?_nil,
      reduceCtorEq]
  | cons c rest =>
    by_cases mark : c = '!'
    · simp only [afterChar, mark, ↓reduceIte, Option.isSome_some, List.head?_cons]
    · simp only [afterChar, mark, ↓reduceIte, Option.isSome_none, Bool.false_eq_true,
        List.head?_cons, Option.some.injEq]

/-- A document without a committed line parses, with one statement for each line: an unknown
directive where the first character of the line that is no blank is `!`, and otherwise a call or a
line of the diagram. In any document that parses, what is passed through stands on a line that does
not commit, and no line of the diagram starts with `!` behind its blanks. -/
theorem parse_passThrough (source : String) :
    ((∀ line ∈ Line.split source.toList, line.commits = false) →
      ∃ root, parse source = .ok root ∧
        root.statements.length = (Line.split source.toList).length ∧
        ∀ line statement, (line, statement) ∈ (Line.split source.toList).zip root.statements →
          line.Carries statement.span ∧ statement.isPlain = true ∧
            (statement.isUnknown = true ↔ line.firstMark = some '!')) ∧
    ∀ root, parse source = .ok root →
      ∀ statement, .statement statement ∈ root.nodes → statement.isPlain = true →
        (∃ line ∈ Line.split source.toList, line.Carries statement.span) ∧
        (∀ line ∈ Line.split source.toList, line.Carries statement.span → line.commits = false) ∧
        ∀ text span, statement = .text text span →
          (Text.afterBlanks text.toList).head? ≠ some '!' := by
  constructor
  · intro uncommitted
    obtain ⟨statements, said, plain⟩ := Line.sayAll_of_uncommitted uncommitted
    refine ⟨⟨statements, .between 0 (byteLength source.toList)⟩, ?_, said.length_eq, ?_⟩
    · rw [parse, statements_of_sayAll said]
    · intro line statement member
      have told := said.says_of_mem_zip member
      have plain := plain statement (List.of_mem_zip member).2
      refine ⟨told.carries, plain, ?_⟩
      rw [(told.passed plain).2.1, isSome_afterMark_iff]
      rfl
  · intro root parsed statement member plain
    obtain ⟨line, listed, told⟩ := (allMade_of_parse parsed).says_of_walkAll member plain
    obtain ⟨uncommitted, unknown, text⟩ := told.passed plain
    refine ⟨⟨line, listed, told.carries⟩, ?_, ?_⟩
    · intro other member carries
      rw [carries.unique told.carries member listed, uncommitted]
    · rintro content span rfl
      rw [text content span rfl, ne_eq, ← isSome_afterMark_iff, ← unknown]
      exact Bool.false_ne_true

/-- An unknown directive, a call and a line of the diagram, and none of the lines commits. -/
theorem parse_passThrough_theme :
    (∀ line ∈ Line.split "!theme plain\n  $f(\"a\")\r\nA -> B".toList, line.commits = false) ∧
      ∃ root, parse "!theme plain\n  $f(\"a\")\r\nA -> B" = .ok root ∧
        root.statements.length = 3 := by
  have uncommitted : ∀ line ∈ Line.split "!theme plain\n  $f(\"a\")\r\nA -> B".toList,
      line.commits = false := by decide +kernel
  obtain ⟨root, parsed, count, -⟩ := (parse_passThrough _).1 uncommitted
  have lines : (Line.split "!theme plain\n  $f(\"a\")\r\nA -> B".toList).length = 3 := by
    decide +kernel
  exact ⟨uncommitted, root, parsed, count.trans lines⟩

end DiagramAssist
