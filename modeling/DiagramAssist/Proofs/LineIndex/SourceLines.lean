import DiagramAssist.Proofs.Grammar.LinePartition
import DiagramAssist.Proofs.Grammar.PassThrough
import DiagramAssist.Proofs.LineIndex.Clamping

/-! # The lines of the parser are the lines of the index

The parser and the line index part a text each in its own way: the parser keeps the line feeds and
leaves nothing behind a line feed at the end, the index drops them and has an empty row there. But
for this row the two agree (`rows_of_rawLines`): line for line they start at the same offset and
hold the same text. So a statement that takes one line is found under the number of the line, and a
document of nothing but diagram text is read off the index.
-/

namespace DiagramAssist

open Grammar Text

/-! ## Statements that keep to one line -/

/-- Whether the statement is a line of the diagram. -/
def Statement.isText : Statement → Bool
  | .text .. => true
  | _ => false

theorem Statement.isBlock_of_isText {statement : Statement} (diagram : statement.isText = true) :
    statement.isBlock = false :=
  match statement, diagram with
  | .text .., _ => rfl

/-- Where there is no block, every line says a statement. -/
theorem Statement.AllMade.sayAll {statements : List Statement} {lines : List Line}
    (made : AllMade statements lines)
    (single : ∀ statement ∈ statements, statement.isBlock = false) :
    Line.SayAll lines statements := by
  induction statements generalizing lines with
  | nil =>
    rw [made.lines_eq_nil]
    exact .nil
  | cons first rest ih =>
    obtain ⟨own, later, rfl, opened, behind⟩ := made.uncons rfl
    obtain ⟨here, there⟩ := List.forall_mem_cons.mp single
    cases opened with
    | line told => exact .cons told (ih behind there)
    | callable | loop | branch | defineLong => cases here

theorem Line.SayAll.says_of_getElem? {lines : List Line} {statements : List Statement}
    (said : Line.SayAll lines statements) {number : Nat} {statement : Statement}
    (found : statements[number]? = some statement) :
    ∃ line, lines[number]? = some line ∧ line.Says (.whole statement) := by
  induction said generalizing number with
  | nil => cases found
  | cons told rest ih =>
    cases number with
    | zero =>
      cases found
      exact ⟨_, rfl, told⟩
    | succ number => exact ih found

namespace LineIndex

/-! ## Lines against rows -/

/-- The index has a row for each line, and an empty one behind a text of whole lines. -/
theorem rows_of_rawLines (text : List Char) :
    (partRows text).1 :: (partRows text).2 =
      (Line.rawLines text).map Prod.fst ++ if Line.AreWhole text then [[]] else [] := by
  fun_induction Line.rawLines text with
  | case1 => rfl
  | case2 rest ih =>
    simp only [partRows, ↓reduceIte, ih, List.map_cons, List.cons_append, Line.areWhole_cons_feed]
  | case3 c rest other none ih =>
    obtain rfl := Line.rawLines_eq_nil_iff.mp none
    have opened : ¬Line.AreWhole [c] := fun whole => whole.tail_ne_nil other rfl
    simp only [partRows, if_neg other, if_neg opened, List.map_cons, List.map_nil, List.append_nil]
  | case4 c rest other line fed later some ih =>
    have present : rest ≠ [] := by
      rintro rfl
      cases some
    rw [some, List.map_cons, List.cons_append, List.cons.injEq] at ih
    obtain ⟨first, behind⟩ := ih
    simp only [partRows, if_neg other, first, behind, List.map_cons, List.cons_append,
      Line.areWhole_cons present]

theorem map_snd_placeRows (start : Nat) (rows : List (List Char)) :
    (placeRows start rows).map Prod.snd = rows := by
  induction rows generalizing start with
  | nil => rfl
  | cons row rest ih => rw [placeRows, List.map_cons, ih]

/-- Rows are placed where the lines are: between two of them stands a line feed. -/
theorem getElem?_placeRows {start number : Nat} {raws : List (List Char × Bool)}
    {extra : List (List Char)} {line : Line} (fed : raws.Pairwise fun earlier _ => earlier.2 = true)
    (found : (Line.placeAll start raws)[number]? = some line) :
    ∃ row, (placeRows start (raws.map Prod.fst ++ extra))[number]? = some (line.start, row) ∧
      dropFinalReturn row = line.content := by
  induction raws generalizing start number with
  | nil => cases found
  | cons raw rest ih =>
    obtain ⟨front, behind⟩ := List.pairwise_cons.mp fed
    cases number with
    | zero =>
      cases found
      exact ⟨raw.1, rfl, rfl⟩
    | succ number =>
      rw [Line.placeAll, List.getElem?_cons_succ] at found
      obtain ⟨other, listed, -⟩ := Line.mem_placeAll (List.mem_of_getElem? found)
      have stop : (Line.ofRaw start raw.1 raw.2).stop = start + byteLength raw.1 + 1 := by
        rw [Line.stop_eq, Line.chars_ofRaw, Line.rawChars, front other listed, if_pos rfl,
          byteLength_append, Nat.add_assoc]
        rfl
      rw [stop] at found
      exact ih behind found

section Lines

variable {source : String} {number : Nat} {line : Line}

theorem row_of_line (found : (Line.split source.toList)[number]? = some line) :
    ∃ row, (ofText source).rows[number]? = some (line.start, row) ∧
      dropFinalReturn row = line.content := by
  rw [rows_ofText, rows_of_rawLines]
  exact getElem?_placeRows (Line.pairwise_rawLines _) found

/-- A line of the parser has the same number in the index, and the same text. -/
theorem line?_of_line (found : (Line.split source.toList)[number]? = some line) :
    (ofText source).line? number = some line.content := by
  obtain ⟨row, placed, content⟩ := row_of_line found
  rw [line?, placed]
  exact congrArg some content

/-- Positions on a line count from where the parser starts the line. -/
theorem position_in_line {lead rest : List Char}
    (found : (Line.split source.toList)[number]? = some line)
    (content : line.content = lead ++ rest) :
    (ofText source).position (line.start + byteLength lead) = ⟨number, unitLength lead⟩ := by
  obtain ⟨row, placed, dropped⟩ := row_of_line found
  obtain ⟨tail, whole⟩ := exists_eq_dropFinalReturn_append row
  rw [dropped, content, List.append_assoc] at whole
  rw [whole] at placed
  exact position_of_row placed

end Lines

/-- The texts of the rows. -/
theorem map_snd_rows_ofText (source : String) :
    (ofText source).rows.map Prod.snd =
      (Line.rawLines source.toList).map Prod.fst ++
        if Line.AreWhole source.toList then [[]] else [] := by
  rw [rows_ofText, map_snd_placeRows, rows_of_rawLines]

/-- The index counts the lines of the parser, and an empty one behind whole lines. -/
theorem lineCount_of_split (source : String) :
    (ofText source).lineCount =
      (Line.split source.toList).length + if Line.AreWhole source.toList then 1 else 0 := by
  have counted := congrArg List.length (map_snd_rows_ofText source)
  rw [List.length_map, List.length_append, List.length_map, apply_ite List.length] at counted
  rw [Line.split, Line.length_placeAll]
  exact counted

theorem line?_behind_split {source : String} (whole : Line.AreWhole source.toList) :
    (ofText source).line? (Line.split source.toList).length = some [] := by
  have last : ((ofText source).rows.map Prod.snd)[(Line.split source.toList).length]? =
      some [] := by
    rw [map_snd_rows_ofText, if_pos whole, Line.split, Line.length_placeAll,
      ← List.length_map Prod.fst, List.getElem?_concat_length]
  rw [List.getElem?_map, Option.map_eq_some_iff] at last
  obtain ⟨row, found, empty⟩ := last
  rw [line?, found]
  exact congrArg (some <| dropFinalReturn ·) empty

end LineIndex

/-! ## Documents -/

open LineIndex

section Found

variable {source : String} {number : Nat} {line : Line}

/-- A line of the diagram starts where its line does. -/
theorem Line.Says.found_text {text : String} {span : Span}
    (told : line.Says (.whole (.text text span)))
    (found : (Line.split source.toList)[number]? = some line) :
    (ofText source).position span.start = ⟨number, 0⟩ ∧
      (ofText source).line? number = some text.toList := by
  obtain ⟨content, start⟩ := told.records_text
  have here := position_in_line found (List.nil_append line.content).symm
  rw [byteLength_nil, Nat.add_zero, ← start] at here
  exact ⟨here, by rw [line?_of_line found, content]⟩

/-- An unknown directive starts behind the blanks of its line. -/
theorem Line.Says.found_unknown {directive : Located String} {text : String} {span : Span}
    (told : line.Says (.whole (.unknown directive text span)))
    (found : (Line.split source.toList)[number]? = some line) :
    ((ofText source).line? ((ofText source).position span.start).line).map afterBlanks =
      some text.toList := by
  obtain ⟨rest, mark, own, -, start⟩ := told.records_unknown
  have pieces : line.content = line.content.takeWhile isSpace ++ afterBlanks line.content :=
    List.takeWhile_append_dropWhile.symm
  rw [start, position_in_line found pieces, line?_of_line found, Option.map_some, own, mark]

end Found

/-- In a document that parses, every line of the diagram is a line of the index: the position of its
start has column zero, and the text of the line there is the text of the statement. An unknown
directive is the text of its line from the first character on that is no blank. If a document holds
nothing but lines of the diagram, the statement of any number is the line of that number, and there
is no other line but an empty one at the end of a source that is empty or ends with a line feed. -/
theorem parse_reads_lines_of_index {source : String} {root : Root}
    (parsed : parse source = .ok root) :
    (∀ text span, .statement (.text text span) ∈ root.nodes →
      ∃ number, (ofText source).position span.start = ⟨number, 0⟩ ∧
        (ofText source).line? number = some text.toList) ∧
    (∀ directive text span, .statement (.unknown directive text span) ∈ root.nodes →
      ((ofText source).line? ((ofText source).position span.start).line).map afterBlanks =
        some text.toList) ∧
    ((∀ statement ∈ root.statements, statement.isText = true) →
      (∀ number text span, root.statements[number]? = some (.text text span) →
        (ofText source).line? number = some text.toList) ∧
      (ofText source).lineCount =
        root.statements.length + (if Line.AreWhole source.toList then 1 else 0) ∧
      (Line.AreWhole source.toList →
        (ofText source).line? root.statements.length = some [])) := by
  have made := allMade_of_parse parsed
  refine ⟨?_, ?_, ?_⟩
  · intro text span member
    obtain ⟨line, listed, told⟩ := made.says_of_walkAll member rfl
    obtain ⟨number, found⟩ := List.mem_iff_getElem?.mp listed
    exact ⟨number, told.found_text found⟩
  · intro directive text span member
    obtain ⟨line, listed, told⟩ := made.says_of_walkAll member rfl
    obtain ⟨number, found⟩ := List.mem_iff_getElem?.mp listed
    exact told.found_unknown found
  · intro diagram
    have said := made.sayAll fun statement member =>
      Statement.isBlock_of_isText (diagram statement member)
    rw [said.length_eq]
    refine ⟨?_, lineCount_of_split source, line?_behind_split⟩
    intro number text span statement
    obtain ⟨line, found, told⟩ := said.says_of_getElem? statement
    exact (told.found_text found).2

/-- Both endings, a carriage return inside a line and one before an ending, and a line feed at the
end. -/
theorem parse_reads_lines_of_index_returns :
    ∃ root, parse "é -> B\r\n\n A\rB\r\r\n" = .ok root ∧ root.statements.length = 3 ∧
      (ofText "é -> B\r\n\n A\rB\r\r\n").lineCount = root.statements.length + 1 ∧
      (ofText "é -> B\r\n\n A\rB\r\r\n").line? root.statements.length = some [] := by
  have shown : (parse "é -> B\r\n\n A\rB\r\r\n").toOption.map
      (fun root => root.statements.map Statement.isText) = some [true, true, true] := by
    decide +kernel
  cases parsed : parse "é -> B\r\n\n A\rB\r\r\n" with
  | error error =>
    rw [parsed] at shown
    cases shown
  | ok root =>
    rw [parsed] at shown
    have kinds : root.statements.map Statement.isText = [true, true, true] :=
      Option.some.inj shown
    have diagram : ∀ kind ∈ root.statements.map Statement.isText, kind = true := by
      rw [kinds]
      decide
    have whole : Line.AreWhole "é -> B\r\n\n A\rB\r\r\n".toList := by decide
    obtain ⟨-, count, last⟩ :=
      (parse_reads_lines_of_index parsed).2.2 (List.forall_mem_map.mp diagram)
    rw [if_pos whole] at count
    have three := congrArg List.length kinds
    rw [List.length_map] at three
    exact ⟨root, rfl, three, count, last whole⟩

end DiagramAssist
