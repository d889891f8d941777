import DiagramAssist.Proofs.Grammar.FirstClosing
import DiagramAssist.Proofs.Grammar.Targets

/-! # What the lines of a document are for

In a document that parses, every line says a statement, opens a block, ends an arm of one, or is a
raw line (`Line.Role`). An include directive can only say an include or be a raw line. So an include
directive outside of raw blocks is an include of the document, and what holds of includes holds of
lines. In particular a bracket that is opened in a directive is closed on its line, unless nothing
stands in it.
-/

namespace DiagramAssist

open Grammar Reader Text

/-! ## Roles -/

/-- The words that end an arm of a block. -/
def turningWords : List String :=
  ["endfunction", "endprocedure", "endwhile", "elseif", "else", "endif"]

/-- The line belongs to the body of a raw block that is among the nodes. -/
def Line.IsRaw (nodes : List Node) (line : Line) : Prop :=
  ∃ name parameters body span, .statement (.defineLong name parameters body span) ∈ nodes ∧
    body.span.start ≤ line.start ∧ line.contentStop ≤ body.span.stop

/-- What a line is for among the nodes of a tree. -/
inductive Line.Role (nodes : List Node) (line : Line) : Prop where
  | tells {statement : Statement} (member : .statement statement ∈ nodes)
      (told : line.Says (.whole statement))
  | opens {start : Nat} {header : Header} (told : line.Says (.opens start header))
  | turns {word : Located String} (turns : line.Turns word) (turning : word.value ∈ turningWords)
  | raw (within : line.IsRaw nodes)
  | closesRaw (closes : closesRaw line.content = true)

theorem Line.Role.mono {nodes more : List Node} {line : Line} (role : line.Role nodes)
    (among : nodes ⊆ more) : line.Role more := by
  cases role with
  | tells member told => exact .tells (among member) told
  | opens told => exact .opens told
  | turns turns turning => exact .turns turns turning
  | raw within =>
    obtain ⟨name, parameters, body, span, member, inside⟩ := within
    exact .raw ⟨name, parameters, body, span, among member, inside⟩
  | closesRaw closes => exact .closesRaw closes

theorem closer_mem_turningWords (kind : BlockCallable) : closer kind ∈ turningWords := by
  cases kind <;> decide

/-- A line of a raw block stands in the body. -/
theorem Line.Joined.within_raw {start : Nat} {lines : List Line} {line : Line}
    (joined : Line.Joined start lines) (member : line ∈ lines) :
    start ≤ line.start ∧ line.contentStop ≤ rawStop start lines.reverse := by
  obtain ⟨before, behind, rfl⟩ := List.append_of_mem member
  obtain ⟨-, place, joined⟩ := Line.joined_append.mp joined
  refine ⟨place ▸ Nat.le_add_right .., ?_⟩
  rcases List.eq_nil_or_concat behind with rfl | ⟨more, last, rfl⟩
  · rw [List.reverse_append, List.reverse_singleton, List.singleton_append, rawStop]
  · rw [List.concat_eq_append] at joined ⊢
    have behind : last.start = line.stop + byteLength (Line.text more) :=
      (Line.joined_append.mp joined).2.1
    have ends : line.contentStop ≤ line.stop := Nat.le_add_right ..
    have ends' : last.start ≤ last.contentStop := Nat.le_add_right ..
    rw [← List.cons_append, ← List.append_assoc, List.reverse_append, List.reverse_singleton,
      List.singleton_append, rawStop]
    omega

section Made

variable {line : Line}

theorem Statement.mem_walk_of_walkBelow {statement : Statement} {node : Node}
    (below : node ∈ statement.walkBelow fun _ => true) : node ∈ statement.walk fun _ => true :=
  List.mem_cons_of_mem _ below

mutual

theorem Statement.Made.role : {statement : Statement} → {lines : List Line} → {offset : Nat} →
    statement.Made lines → Line.Joined offset lines → line ∈ lines →
    line.Role (statement.walk fun _ => true)
  | _, _, _, .line told, _, member => by
    cases List.mem_singleton.mp member
    exact .tells List.mem_cons_self told
  | _, _, _, .callable opens inside turns closes, joined, member => by
    obtain ⟨joined, -⟩ := Line.joined_append.mp (Line.joined_cons.mp joined).2
    simp only [List.mem_cons, List.mem_append, List.not_mem_nil, or_false] at member
    rcases member with rfl | inner | rfl
    · exact .opens opens
    · exact (Statement.AllMade.role inside joined inner).mono fun node below =>
        Statement.mem_walk_of_walkBelow (List.mem_append_right _ below)
    · exact .turns turns (closes ▸ closer_mem_turningWords _)
  | _, _, _, .loop opens inside turns closes, joined, member => by
    obtain ⟨joined, -⟩ := Line.joined_append.mp (Line.joined_cons.mp joined).2
    simp only [List.mem_cons, List.mem_append, List.not_mem_nil, or_false] at member
    rcases member with rfl | inner | rfl
    · exact .opens opens
    · exact (Statement.AllMade.role inside joined inner).mono fun node below =>
        Statement.mem_walk_of_walkBelow (List.mem_append_right _ below)
    · exact .turns turns (closes ▸ by decide)
  | _, _, _, .branch opens inside further ends, joined, member => by
    obtain ⟨joinedInner, joined⟩ := Line.joined_append.mp (Line.joined_cons.mp joined).2
    obtain ⟨joinedClauses, joinedEnding⟩ := Line.joined_append.mp joined
    simp only [List.mem_cons, List.mem_append] at member
    rcases member with rfl | inner | clause | last
    · exact .opens opens
    · exact (Statement.AllMade.role inside joinedInner inner).mono fun node below =>
        Statement.mem_walk_of_walkBelow <| List.mem_append_left _ <| List.mem_append_left _ <|
          List.mem_append_right _ below
    · exact (ElseIf.AllMade.role further joinedClauses clause).mono fun node below =>
        Statement.mem_walk_of_walkBelow <| List.mem_append_left _ <| List.mem_append_right _ below
    · exact (Statement.EndMade.role ends joinedEnding last).mono fun node below =>
        Statement.mem_walk_of_walkBelow (List.mem_append_right _ below)
  | _, _, _, .defineLong opens raw closes, joined, member => by
    obtain ⟨-, joined⟩ := joined
    obtain ⟨joined, -⟩ := Line.joined_append.mp joined
    simp only [List.mem_cons, List.mem_append, List.not_mem_nil, or_false] at member
    rcases member with rfl | inner | rfl
    · exact .opens opens
    · obtain ⟨starts, stops⟩ := joined.within_raw inner
      refine .raw ⟨_, _, _, _, List.mem_cons_self, ?_⟩
      have ordered : line.start ≤ line.contentStop := Nat.le_add_right ..
      rw [Span.start_between_of_le (by omega), Span.stop_between_of_le (by omega)]
      exact ⟨starts, stops⟩
    · exact .closesRaw closes

theorem Statement.AllMade.role : {statements : List Statement} → {lines : List Line} →
    {offset : Nat} → Statement.AllMade statements lines → Line.Joined offset lines →
    line ∈ lines → line.Role (Statement.walkAll (fun _ => true) statements)
  | _, _, _, .nil, _, member => by cases member
  | _, _, _, @Statement.AllMade.behind statements statement _ _ earlier last, joined, member => by
    obtain ⟨before, behind⟩ := Line.joined_append.mp joined
    rw [Statement.walkAll_append]
    rcases List.mem_append.mp member with member | member
    · exact (Statement.AllMade.role earlier before member).mono (List.subset_append_left _ _)
    · refine (Statement.Made.role last behind member).mono fun node below => ?_
      rw [List.mem_append, Statement.walkAll, Statement.walkAll, List.append_nil]
      exact .inr below

theorem ElseIf.AllMade.role : {clauses : List ElseIf} → {lines : List Line} →
    {first next offset : Nat} → ElseIf.AllMade clauses lines first next →
    Line.Joined offset lines → line ∈ lines → line.Role (ElseIf.walkAll (fun _ => true) clauses)
  | _, _, _, _, _, .nil _, _, member => by cases member
  | _, _, _, _, _, .behind earlier asks goesOn inside _, joined, member => by
    obtain ⟨before, behind⟩ := Line.joined_append.mp joined
    rw [ElseIf.walkAll_append]
    simp only [List.mem_append, List.mem_cons] at member
    rcases member with member | rfl | member
    · exact (ElseIf.AllMade.role earlier before member).mono (List.subset_append_left _ _)
    · obtain ⟨cursor, _, _, turns, -⟩ := asks
      exact .turns ⟨cursor, turns⟩ (goesOn ▸ by decide)
    · refine (Statement.AllMade.role inside behind.2 member).mono fun node below => ?_
      simp only [List.mem_append, ElseIf.walkAll, ElseIf.walk, List.append_nil]
      exact .inr (.inr below)

theorem Statement.EndMade.role : {alternate : Option (List Statement)} → {lines : List Line} →
    {start stop offset : Nat} → Statement.EndMade alternate lines start stop →
    Line.Joined offset lines → line ∈ lines →
    line.Role (Statement.walkOption (fun _ => true) alternate)
  | _, _, _, _, _, .plain turns closes, _, member => by
    cases List.mem_singleton.mp member
    exact .turns turns (closes ▸ by decide)
  | _, _, _, _, _, .alternate goesOn other inside turns closes, joined, member => by
    obtain ⟨joined, -⟩ := Line.joined_append.mp (Line.joined_cons.mp joined).2
    simp only [List.mem_cons, List.mem_append, List.not_mem_nil, or_false] at member
    rcases member with rfl | inner | rfl
    · exact .turns goesOn (other ▸ by decide)
    · exact Statement.AllMade.role inside joined inner
    · exact .turns turns (closes ▸ by decide)

end

end Made

/-- Every line of a document that parses is for something. -/
theorem role_of_parse {source : String} {root : Root} (parsed : parse source = .ok root)
    {line : Line} (member : line ∈ Line.split source.toList) : line.Role root.nodes :=
  (allMade_of_parse parsed).role (Line.joined_split source.toList) member

/-! ## Lines that are include directives -/

/-- The first alternative that does not decline decides. -/
theorem Reader.choose_of_not_declines {α : Type} {reader : Reader α} {rest : List (Reader α)}
    {cursor : Cursor} (decides : ¬reader.Declines cursor) :
    choose (reader :: rest) cursor = reader cursor := by
  cases outcome : reader cursor with
  | read value later => exact choose_of_read outcome
  | failed failure =>
    cases committed : failure.committed with
    | false => exact absurd ⟨failure, outcome, committed⟩ decides
    | true =>
      cases rest with
      | nil => exact outcome
      | cons other rest => simp [choose, orElse, outcome, committed]

namespace IncludeDirective

theorem word_toList (directive : IncludeDirective) :
    directive.word.toList.all isNameChar = true ∧
      ∃ more, directive.word.toList = 'i' :: 'n' :: more := by
  cases directive <;> exact ⟨by decide, _, rfl⟩

theorem word_injective {first second : IncludeDirective} (same : first.word = second.word) :
    first = second := by
  cases first <;> cases second <;> first | rfl | exact absurd same (by decide)

theorem word_notMem_turningWords (directive : IncludeDirective) :
    directive.word ∉ turningWords := by
  cases directive <;> decide

end IncludeDirective

namespace Line.Includes

variable {line : Line} {directive other : IncludeDirective}
  {lead lead' argument argument' : List Char}

theorem head?_gap {gap : List Char} (present : gap ≠ []) (blanks : gap.all isSpace = true)
    (argument : List Char) : (gap ++ argument).head?.any isNameChar = false := by
  cases gap with
  | nil => exact absurd rfl present
  | cons c gap =>
    have blank : isSpace c = true := List.all_eq_true.mp blanks c List.mem_cons_self
    simp only [isSpace, Bool.or_eq_true, beq_iff_eq] at blank
    rcases blank with rfl | rfl <;> rfl

/-- What the line is, up to the blanks behind the word. -/
theorem mark (includes : line.Includes directive lead argument) :
    ∃ gap, line.content.takeWhile isSpace = lead ∧
      afterBlanks line.content = '!' :: (directive.word.toList ++ (gap ++ argument)) ∧
      (gap ++ argument).head?.any isNameChar = false ∧
      afterBlanks (gap ++ argument) = argument := by
  obtain ⟨⟨gap, content, present, blanks⟩, leads, free⟩ := includes
  have marked : ('!' :: (directive.word.toList ++ (gap ++ argument))).head?.any isSpace = false :=
    rfl
  obtain ⟨taken, left⟩ := span_run leads marked
  rw [List.cons_append] at content
  rw [content]
  exact ⟨gap, taken, left, head?_gap present blanks argument, (span_run blanks free).2⟩

/-- A line is an include directive in one way. -/
theorem unique (includes : line.Includes directive lead argument)
    (includes' : line.Includes other lead' argument') :
    directive = other ∧ lead = lead' ∧ argument = argument' := by
  obtain ⟨gap, leads, mark, ends, argued⟩ := includes.mark
  obtain ⟨gap', leads', mark', ends', argued'⟩ := includes'.mark
  have same := (List.cons.inj (mark.symm.trans mark')).2
  obtain ⟨word, behind⟩ := span_run directive.word_toList.1 ends
  obtain ⟨word', behind'⟩ := span_run other.word_toList.1 ends'
  rw [same] at word behind
  refine ⟨?_, leads.symm.trans leads', ?_⟩
  · exact IncludeDirective.word_injective (String.toList_injective (word.symm.trans word'))
  · rw [← argued, ← argued', behind.symm.trans behind']

/-- An include directive is read by the production of includes, which comes to a decision. -/
theorem reading_eq (includes : line.Includes directive lead argument) (completes : Bool) :
    reading completes ⟨0, line.content⟩ = inclusion completes ⟨0, line.content⟩ := by
  obtain ⟨gap, -, mark, ends, -⟩ := includes.mark
  obtain ⟨-, more, spelled⟩ := directive.word_toList
  have marked : afterMark line.content = some (directive.word.toList ++ (gap ++ argument)) := by
    rw [afterMark, mark, afterChar, if_pos rfl]
  have other (word : String) {c : Char} {tail : List Char} (starts : word.toList = c :: tail)
      (different : c ≠ 'i') : afterWord word (directive.word.toList ++ (gap ++ argument)) = none :=
    afterWord_eq_none starts (by rw [spelled]; simpa using different.symm)
  have earlier : ∀ reader ∈ [declaration completes, defineLongHeader completes, define],
      reader.Declines ⟨0, line.content⟩ := by
    simp only [List.forall_mem_cons, List.not_mem_nil, false_implies, implies_true, and_true,
      guarded_declaration completes _, guarded_defineLongHeader completes _, guarded_define _,
      marked, Option.any_some, startsWord, afterScope, other "global" rfl (by decide),
      other "local" rfl (by decide), other "definelong" rfl (by decide),
      other "define" rfl (by decide)]
    simp [assigns, afterVariable, spelled, afterChar]
  have decides : ¬(inclusion completes).Declines ⟨0, line.content⟩ := by
    simp only [guarded_inclusion completes _, marked, Option.any_some, Bool.not_eq_false,
      List.any_eq_true]
    refine ⟨directive.word, by cases directive <;> decide, ?_⟩
    rw [startsWord, afterWord_append ends, Option.isSome_some]
  exact (choose_append_of_declines earlier (List.cons_ne_nil _ _)).trans
    (choose_of_not_declines decides)

/-- The word of an include directive ends no arm. -/
theorem not_turns (includes : line.Includes directive lead argument) {word : Located String}
    (turns : line.Turns word) : word.value ∉ turningWords := by
  obtain ⟨gap, -, mark, ends, -⟩ := includes.mark
  obtain ⟨named, more, spelled⟩ := directive.word_toList
  obtain ⟨taken, -⟩ := span_run named ends
  have present : (directive.word.toList ++ (gap ++ argument)).takeWhile isNameChar ≠ [] := by
    rw [taken, spelled]
    exact List.cons_ne_nil _ _
  obtain ⟨found, behind, closing, value⟩ := exists_closingWord?_of_mark mark present
  obtain ⟨later, closes⟩ := turns
  cases closes.symm.trans closing
  rw [value, taken, String.ofList_toList]
  exact directive.word_notMem_turningWords

theorem not_closesRaw (includes : line.Includes directive lead argument) :
    closesRaw line.content = false := by
  obtain ⟨⟨gap, content, -⟩, leads, -⟩ := includes
  obtain ⟨-, more, spelled⟩ := directive.word_toList
  have blank : lead.all isBlank = true := by
    refine List.all_eq_true.mpr fun c listed => ?_
    have space : isSpace c = true := List.all_eq_true.mp leads c listed
    simp only [isSpace, Bool.or_eq_true, beq_iff_eq] at space
    rcases space with rfl | rfl <;> decide
  have trimmed : trimStart line.content = '!' :: 'i' :: 'n' :: (more ++ (gap ++ argument)) := by
    rw [content, spelled, trimStart]
    exact (span_run blank rfl).2
  simp [closesRaw, trimmed, List.isPrefixOf]

end Line.Includes

/-- In a document that parses, a line that is an include directive belongs to a raw block, or says
an include that points at what the argument says. -/
theorem Line.Includes.isRaw_or_pointsAt {source : String} {root : Root} {line : Line}
    {directive : IncludeDirective} {lead argument : List Char}
    (includes : line.Includes directive lead argument) (parsed : parse source = .ok root)
    (member : line ∈ Line.split source.toList) :
    line.IsRaw root.nodes ∨ ∃ content, .statement (.inclusion content) ∈ root.nodes ∧
      content.directive = directive ∧
      content.span = .between (line.start + byteLength lead) line.contentStop ∧
      content.PointsAt argument := by
  have said {reading : Reading} (told : line.Says reading) :
      ∃ content, reading = .whole (.inclusion content) := by
    obtain ⟨found, later, read, rfl⟩ := told
    rw [includes.reading_eq] at read
    obtain ⟨content, _, _, _, rfl, -⟩ := pointsAt_of_inclusion read
    exact ⟨_, rfl⟩
  cases role_of_parse parsed member with
  | tells listed told =>
    obtain ⟨content, same⟩ := said told
    cases same
    obtain ⟨lead', argument', includes', span, points⟩ := told.pointsAt
    obtain ⟨rfl, rfl, rfl⟩ := includes.unique includes'
    exact .inr ⟨content, listed, rfl, span, points⟩
  | opens told =>
    obtain ⟨content, same⟩ := said told
    cases same
  | turns turns turning => exact absurd turning (includes.not_turns turns)
  | raw within => exact .inl within
  | closesRaw closes =>
    rw [includes.not_closesRaw] at closes
    cases closes

/-! ## Brackets -/

/-- Nothing stands in a bracket that is opened in front of the text: it is closed at once, or the
line ends. -/
def Text.opensNothing (text : List Char) : Bool :=
  text.head?.all (· == '>')

/-- An opened bracket makes a module of the library and is closed on its line, unless nothing stands
in it; then, and only then, it is the beginning of a path or an address. -/
structure Include.Brackets (content : Include) (argument : List Char) : Prop where
  standard_iff : content.kind = .standard ↔
    ∃ rest, argument = '<' :: rest ∧ opensNothing rest = false
  closed : ∀ rest, argument = '<' :: rest → opensNothing rest = false →
    ∃ inner trail, inner ≠ [] ∧ '>' ∉ inner ∧ rest = inner ++ '>' :: trail ∧
      trail.all isSpace = true
  plain : content.kind ≠ .standard →
    (content.target.value.toList.head? = some '<' ↔
      ∃ rest, argument = '<' :: rest ∧ opensNothing rest = true)

/-- A target starts with what its text starts with. -/
theorem Include.Parted.head?_target {text : List Char} {target : Located String}
    {part : Option (Located String)} (parted : Parted text target part) (present : text ≠ []) :
    target.value.toList.head? = text.head? := by
  have named : target.value.toList ≠ [] := fun none =>
    parted.target present (String.toList_injective none)
  rw [← parted.joined, List.head?_append_of_ne_nil _ named]

theorem Include.PointsAt.brackets {content : Include} {argument : List Char}
    (points : content.PointsAt argument) : content.Brackets argument := by
  cases points with
  | @bracketed inner trail kind whole present clean trails parted =>
    have holds : opensNothing (inner ++ '>' :: trail) = false := by
      cases inner with
      | nil => exact absurd rfl present
      | cons c inner =>
        have other : c ≠ '>' := fun same => clean (same ▸ List.mem_cons_self)
        simpa [opensNothing] using other
    refine ⟨⟨fun _ => ⟨_, whole, holds⟩, fun _ => kind⟩, fun rest opens _ => ?_,
      fun other => absurd kind other⟩
    cases whole.symm.trans opens
    exact ⟨inner, trail, present, clean, rfl, trails⟩
  | @plain text trail kind whole present clean trails parted empty =>
    have other : content.kind ≠ .standard := by
      rw [kind]
      split <;> exact TargetKind.noConfusion
    have head : content.target.value.toList.head? = argument.head? := by
      rw [parted.head?_target present, whole, List.head?_append_of_ne_nil _ present]
    have never {rest : List Char} (opens : argument = '<' :: rest) : ¬opensNothing rest = false :=
      fun holds => Bool.eq_false_iff.mp holds (empty rest opens)
    refine ⟨⟨fun standard => absurd standard other, fun ⟨_, opens, holds⟩ =>
      absurd holds (never opens)⟩, fun _ opens holds => absurd holds (never opens), fun _ => ?_⟩
    rw [head, List.head?_eq_some_iff]
    exact ⟨fun ⟨rest, opens⟩ => ⟨rest, opens, empty rest opens⟩,
      fun ⟨rest, opens, _⟩ => ⟨rest, opens⟩⟩

/-- In a document that parses, an opened bracket of an include is closed on its line and makes a
module of the library, unless nothing stands in the bracket; then it is the beginning of a path or
an address. And every include directive outside of raw blocks is such an include, so a bracket that
is left open with something in it is never parsed as a directive. -/
theorem parse_brackets {source : String} {root : Root} (parsed : parse source = .ok root) :
    (∀ content, .statement (.inclusion content) ∈ root.nodes →
      ∃ line ∈ Line.split source.toList, ∃ lead argument,
        line.Includes content.directive lead argument ∧
        content.span = .between (line.start + byteLength lead) line.contentStop ∧
        content.Brackets argument) ∧
    ∀ line ∈ Line.split source.toList, ∀ directive lead argument,
      line.Includes directive lead argument →
      line.IsRaw root.nodes ∨ ∃ content, .statement (.inclusion content) ∈ root.nodes ∧
        content.directive = directive ∧
        content.span = .between (line.start + byteLength lead) line.contentStop ∧
        content.Brackets argument := by
  constructor
  · intro content member
    obtain ⟨line, listed, told⟩ := (allMade_of_parse parsed).says_of_inclusion member
    obtain ⟨lead, argument, includes, span, points⟩ := told.pointsAt
    exact ⟨line, listed, lead, argument, includes, span, points.brackets⟩
  · intro line member directive lead argument includes
    rcases includes.isRaw_or_pointsAt parsed member with raw | ⟨content, listed, same, span, points⟩
    · exact .inl raw
    · exact .inr ⟨content, listed, same, span, points.brackets⟩

/-- A bracket with something in it, one with nothing in it, and one that is open in a raw line. -/
theorem parse_brackets_raw :
    ∃ root, parse "!include <x> \n!include <>y\n!definelong A\n!include <z\n!enddefinelong" =
        .ok root ∧
      ∀ content, .statement (.inclusion content) ∈ root.nodes →
        ∃ argument, content.Brackets argument := by
  obtain ⟨root, parsed⟩ : ∃ root,
      parse "!include <x> \n!include <>y\n!definelong A\n!include <z\n!enddefinelong" =
        .ok root := by
    decide +kernel
  refine ⟨root, parsed, fun content member => ?_⟩
  obtain ⟨_, -, _, argument, -, -, brackets⟩ := (parse_brackets parsed).1 content member
  exact ⟨argument, brackets⟩

/-- A bracket that is left open at the end of the text, and one that is closed at once: both are
parsed, as paths. -/
theorem parse_of_open_bracket :
    (parse "!include <").toOption.map (fun root => root.nodes.filterMap Node.include?) =
        some [⟨.include, ⟨"<", .between 9 10⟩, .path, none, .between 0 10⟩] ∧
      (parse "!include <>").toOption.map (fun root => root.nodes.filterMap Node.include?) =
        some [⟨.include, ⟨"<>", .between 9 11⟩, .path, none, .between 0 11⟩] := by
  decide +kernel

end DiagramAssist
