import DiagramAssist.Proofs.Document.Extraction
import DiagramAssist.Proofs.Grammar.PassThrough
import DiagramAssist.Proofs.Reader.Recognition

/-! # Include targets

Behind the word of an include directive stand blanks and then the argument, which runs to the end of
the line. A target in angle brackets is the text between them; any other target is the run of
characters up to the next blank. Either text is parted at its last `!` when a tag stands behind it,
so the target and the tag, put together again, are what is written (`Include.PointsAt`).
-/

namespace DiagramAssist

open Reader Text

/-! ## Runs and pieces of a text -/

namespace Text

/-- A run of characters of a class in front of another character is the longest one. -/
theorem span_run {accepts : Char → Bool} {run rest : List Char} (accepted : run.all accepts = true)
    (stops : rest.head?.any accepts = false) :
    (run ++ rest).takeWhile accepts = run ∧ (run ++ rest).dropWhile accepts = rest := by
  rw [List.takeWhile_append_of_pos (List.all_eq_true.mp accepted),
    List.dropWhile_append_of_pos (List.all_eq_true.mp accepted)]
  cases rest with
  | nil => exact ⟨List.append_nil run, rfl⟩
  | cons c rest =>
    have other : accepts c = false := stops
    simp [other]

theorem contains_iff {needle text : List Char} :
    contains needle text = true ↔ needle <:+: text := by
  induction text with
  | nil => simp only [contains, List.isEmpty_iff, List.infix_nil]
  | cons c rest ih =>
    rw [contains, Bool.or_eq_true, ih, List.isPrefixOf_iff_prefix, List.infix_cons_iff]

/-- A text without a certain character that occurs in another one occurs on one side of each such
character. -/
theorem infix_append_cons {c : Char} {needle before after : List Char} (free : c ∉ needle)
    (occurs : needle <:+: before ++ c :: after) : needle <:+: before ∨ needle <:+: after := by
  obtain ⟨lead, tail, whole⟩ := occurs
  rw [List.append_assoc] at whole
  rcases List.append_eq_append_iff.mp whole with ⟨own, rfl, behind⟩ | ⟨own, rfl, behind⟩
  · rcases List.append_eq_append_iff.mp behind with ⟨rest, rfl, cut⟩ | ⟨rest, rfl, cut⟩
    · exact .inl ⟨lead, rest, List.append_assoc ..⟩
    · cases rest with
      | nil => exact .inl ⟨lead, [], by simp⟩
      | cons d rest =>
        cases cut
        exact absurd (List.mem_append_right own List.mem_cons_self) free
  · cases own with
    | nil =>
      cases needle with
      | nil => exact .inl (List.nil_infix)
      | cons d needle =>
        cases behind
        exact absurd List.mem_cons_self free
    | cons d own =>
      cases behind
      exact .inr ⟨own, tail, List.append_assoc ..⟩

end Text

/-! ## Targets and tags -/

/-- A text is parted into a target and the tag behind it. -/
structure Include.Parted (text : List Char) (target : Located String)
    (part : Option (Located String)) : Prop where
  joined : target.value.toList ++ part.elim [] (fun tag => '!' :: tag.value.toList) = text
  target : text ≠ [] → target.value ≠ ""
  part : ∀ tag, part = some tag →
    tag.value ≠ "" ∧ '!' ∉ tag.value.toList ∧ '/' ∉ tag.value.toList

namespace Grammar

/-- A text is either all target, or is parted at its last `!`. -/
theorem splitPart_cases (text : List Char) (start : Nat) :
    splitPart text start = (located text start, none) ∨
      ∃ target part, text = target ++ '!' :: part ∧ target ≠ [] ∧ part ≠ [] ∧ '!' ∉ part ∧
        '/' ∉ part ∧ splitPart text start = (located target start,
          some (located part (start + byteLength target + 1))) := by
  simp only [splitPart]
  split
  · next parted =>
    have clean : '!' ∉ (text.reverse.takeWhile (· != '!')).reverse := by
      intro mark
      have other := List.all_eq_true.mp List.all_takeWhile _ (List.mem_reverse.mp mark)
      simp at other
    simp only [Bool.and_eq_true, decide_eq_true_eq, Bool.not_eq_true', List.isEmpty_eq_false_iff]
      at parted
    obtain ⟨target, split⟩ := exists_eq_append_mark parted.1.1.1
    generalize (text.reverse.takeWhile (· != '!')).reverse = part at parted clean split
    subst split
    have cut : (target ++ '!' :: part).length - part.length - 1 = target.length := by
      simp only [List.length_append, List.length_cons]
      omega
    rw [cut, List.take_left] at parted ⊢
    obtain ⟨⟨⟨-, before⟩, present⟩, slash⟩ := parted
    exact .inr ⟨target, part, rfl, before, present, clean, by simpa using slash, rfl⟩
  · exact .inl rfl

theorem splitPart_of_notMem {text : List Char} (start : Nat) (clean : '!' ∉ text) :
    splitPart text start = (located text start, none) := by
  rcases splitPart_cases text start with whole | ⟨target, part, rfl, -⟩
  · exact whole
  · exact absurd (List.mem_append_right target List.mem_cons_self) clean

/-- The target and the tag of a text are the text, with the mark between them. -/
theorem parted_splitPart (text : List Char) (start : Nat) :
    Include.Parted text (splitPart text start).1 (splitPart text start).2 := by
  have named {text : List Char} (present : text ≠ []) : String.ofList text ≠ "" :=
    fun none => present (String.ofList_injective none)
  rcases splitPart_cases text start with whole |
    ⟨target, part, rfl, before, behind, mark, slash, parted⟩
  · rw [whole]
    exact ⟨by simp [located], named, nofun⟩
  · rw [parted]
    refine ⟨by simp [located], fun _ => named before, fun tag same => ?_⟩
    cases same
    simp only [located, String.toList_ofList]
    exact ⟨named behind, mark, slash⟩

end Grammar

namespace Include.Parted

variable {text : List Char} {target : Located String} {part : Option (Located String)}

theorem shift (parted : Parted text target part) (distance : Nat) :
    Parted text (target.shift distance) (part.map (·.shift distance)) where
  joined := by
    cases part <;> exact parted.joined
  target := parted.target
  part tag same := by
    obtain ⟨tag, rfl, rfl⟩ := Option.map_eq_some_iff.mp same
    exact parted.part tag rfl

/-- The mark of an address stands in the target, since a tag holds no `/`. -/
theorem contains_scheme (parted : Parted text target part) :
    contains "://".toList text = contains "://".toList target.value.toList := by
  rw [Bool.eq_iff_iff, contains_iff, contains_iff, ← parted.joined]
  cases part with
  | none => rw [Option.elim_none, List.append_nil]
  | some tag =>
    refine ⟨fun occurs => ?_, fun occurs => occurs.trans (List.prefix_append ..).isInfix⟩
    rcases infix_append_cons (by decide) occurs with inside | inside
    · exact inside
    · exact absurd (inside.mem (by decide)) (parted.part tag rfl).2.2

end Include.Parted

/-! ## Include directives -/

/-- The line is an include directive: behind leading blanks stand the mark and the word of the
directive, then blanks, and then its argument. -/
structure Line.Includes (line : Line) (directive : IncludeDirective) (lead argument : List Char) :
    Prop where
  content : ∃ gap, line.content = lead ++ ('!' :: directive.word.toList ++ (gap ++ argument)) ∧
    gap ≠ [] ∧ gap.all isSpace = true
  lead : lead.all isSpace = true
  argument : argument.head?.any isSpace = false

/-- The characters of a target without brackets. -/
def isTargetChar (c : Char) : Bool :=
  !(c == ' ' || c == '\t' || c == '\n' || c == '\r')

/-- What an include points at is what its argument says: the text in angle brackets, or the text up
to the next blank. An opened bracket is taken for the beginning of such a text only where nothing
stands behind it that it could hold. -/
inductive Include.PointsAt (content : Include) (argument : List Char) : Prop where
  | bracketed {inner trail : List Char} (kind : content.kind = .standard)
      (whole : argument = '<' :: (inner ++ '>' :: trail)) (present : inner ≠ [])
      (clean : '>' ∉ inner) (trails : trail.all isSpace = true)
      (parted : Parted (trimEnd inner) content.target content.part)
  | plain {text trail : List Char}
      (kind : content.kind =
        if content.directive == .includeUrl || contains "://".toList text then .url else .path)
      (whole : argument = text ++ trail) (present : text ≠ [])
      (clean : text.all isTargetChar = true) (trails : trail.all isSpace = true)
      (parted : Parted text content.target content.part)
      (empty : ∀ rest, argument = '<' :: rest → rest.head?.all (· == '>') = true)

theorem Include.PointsAt.shift {content : Include} {argument : List Char}
    (points : content.PointsAt argument) (distance : Nat) :
    (content.shift distance).PointsAt argument := by
  cases points with
  | bracketed kind whole present clean trails parted =>
    exact .bracketed kind whole present clean trails (parted.shift distance)
  | plain kind whole present clean trails parted empty =>
    exact .plain kind whole present clean trails (parted.shift distance) empty

/-! ## The production of includes -/

namespace Reader

variable {cursor later : Cursor}

theorem head?_dropWhile (accepts : Char → Bool) (text : List Char) :
    (text.dropWhile accepts).head?.any accepts = false := by
  have stopped := List.head?_dropWhile_not accepts text
  cases rest : text.dropWhile accepts with
  | nil => rfl
  | cons c more =>
    rw [rest] at stopped
    simpa using stopped

/-- Blanks are passed as far as they go. -/
theorem blanks_of_spaces (read : spaces cursor = .read () later) :
    ∃ blanks, cursor.Passes blanks later ∧ blanks.all isSpace = true := by
  simp only [spaces, bind_eq_read, pure_eq_read, true_and] at read
  obtain ⟨blanks, _, read, rfl⟩ := read
  exact ⟨blanks, passes_of_takeWhile read⟩

theorem blanks_of_spaces1 (read : spaces1 cursor = .read () later) :
    ∃ blanks, cursor.Passes blanks later ∧ blanks ≠ [] ∧ blanks.all isSpace = true ∧
      later.rest.head?.any isSpace = false := by
  simp only [spaces1, bind_eq_read, pure_eq_read, true_and] at read
  obtain ⟨blanks, _, read, rfl⟩ := read
  obtain ⟨passes, present, blank⟩ := passes_of_takeWhile1 read
  refine ⟨blanks, passes, present, blank, ?_⟩
  simp only [takeWhile1] at read
  split at read
  · cases read
  · cases read
    exact head?_dropWhile _ _

/-- A directive ends where only blanks are left of its line. -/
theorem blanks_of_endOfStatement {completes : Bool} {stop : Nat}
    (read : endOfStatement completes cursor = .read stop later) :
    cursor.rest.all isSpace = true ∧ stop = cursor.column + byteLength cursor.rest := by
  simp only [endOfStatement, bind_eq_read, column_eq_read] at read
  obtain ⟨_, middle, blank, _, _, ⟨rfl, rfl⟩, read⟩ := read
  obtain ⟨blanks, passes, blank⟩ := blanks_of_spaces blank
  split at read
  · simp only [bind_eq_read, pure_eq_read] at read
    obtain ⟨_, _, looked, rfl, rfl⟩ := read
    have done : middle.rest = [] := by
      simp only [notFollowedBy] at looked
      split at looked
      · cases looked
      · assumption
    rw [passes.rest, done, List.append_nil, passes.column]
    exact ⟨blank, rfl⟩
  · exact (reject_ne_read read).elim

end Reader

namespace Grammar

theorem passes_of_includeDirective {cursor later : Cursor} {directive : IncludeDirective}
    (read : includeDirective cursor = .read directive later) :
    cursor.Passes directive.word.toList later := by
  obtain ⟨reader, member, read⟩ := read_of_choose read
  obtain ⟨found, -, rfl⟩ := List.mem_map.mp member
  simp only [bind_eq_read, pure_eq_read] at read
  obtain ⟨_, _, word, rfl, rfl⟩ := read
  exact passes_of_keyword word

/-- The production of a bracket declines where the argument does not start with one, or where the
bracket holds nothing. -/
theorem declines_standardTarget {cursor : Cursor} :
    standardTarget.Declines cursor ↔ ∀ rest, cursor.rest = '<' :: rest →
      rest.head?.any (fun c => !(c == '>' || c == '\n' || c == '\r')) = false := by
  rcases cursor with ⟨column, _ | ⟨c, rest⟩⟩
  · simp [standardTarget]
  · by_cases bracket : c = '<'
    · subst bracket
      have opens : (char '<').Takes ['<'] rest fun _ => True := takes_char '<'
      obtain ⟨_, next, read, -⟩ := opens column
      rw [List.singleton_append] at read
      simp only [standardTarget, declines_bind, declines_char, read, declines_takeWhile1,
        declines_expecting, not_declines_commit, not_declines_column, not_declines_pure,
        column_eq_read]
      simp
    · simp [standardTarget, bracket]

/-- A target in brackets is parted behind its trailing white space. -/
theorem passes_of_standardTarget {cursor later : Cursor} {target : Target}
    (read : standardTarget cursor = .read target later) :
    ∃ inner, cursor.Passes ('<' :: (inner ++ ['>'])) later ∧ inner ≠ [] ∧ '>' ∉ inner ∧
      target.kind = .standard ∧ Include.Parted (trimEnd inner) target.target target.part := by
  simp only [standardTarget, bind_eq_read, column_eq_read, expecting_eq_read, commit_eq_read,
    pure_eq_read] at read
  obtain ⟨_, middle, opening, _, _, ⟨rfl, rfl⟩, inner, _, taken, _, _, closing, rfl, rfl⟩ := read
  obtain ⟨holds, present, clean⟩ := passes_of_takeWhile1 taken
  refine ⟨inner, (passes_of_char opening).trans (holds.trans (passes_of_char closing)), present,
    fun closes => ?_, rfl, parted_splitPart _ _⟩
  simpa using List.all_eq_true.mp clean _ closes

theorem passes_of_locationTarget {cursor later : Cursor} {directive : IncludeDirective}
    {target : Target} (read : locationTarget directive cursor = .read target later) :
    ∃ text, cursor.Passes text later ∧ text ≠ [] ∧ text.all isTargetChar = true ∧
      (target.kind = if directive == .includeUrl || contains "://".toList text then .url
        else .path) ∧
      Include.Parted text target.target target.part := by
  simp only [locationTarget, bind_eq_read, column_eq_read, pure_eq_read] at read
  obtain ⟨_, _, ⟨rfl, rfl⟩, text, _, taken, rfl, rfl⟩ := read
  obtain ⟨passes, present, clean⟩ := passes_of_takeWhile1 taken
  exact ⟨text, passes, present, clean, rfl, parted_splitPart _ _⟩

/-- Behind an opened bracket that is taken for plain text there is nothing that it could hold. -/
theorem empty_of_plain {text trail rest : List Char} (whole : '<' :: rest = text ++ trail)
    (clean : text.all isTargetChar = true)
    (trails : trail.all isSpace = true)
    (empty : rest.head?.any (fun c => !(c == '>' || c == '\n' || c == '\r')) = false) :
    rest.head?.all (· == '>') = true := by
  cases rest with
  | nil => rfl
  | cons c rest =>
    by_cases closes : c = '>'
    · rw [closes]
      rfl
    -- the line is not broken behind the bracket
    have breaks : c = '\n' ∨ c = '\r' := by
      simpa [closes, Decidable.or_iff_not_imp_left] using empty
    have listed : c ∈ text ∨ c ∈ trail := by
      rw [← List.mem_append, ← whole]
      exact List.mem_cons_of_mem _ List.mem_cons_self
    rcases listed with inside | behind
    · have target := List.all_eq_true.mp clean c inside
      rcases breaks with rfl | rfl <;> cases target
    · have blank := List.all_eq_true.mp trails c behind
      rcases breaks with rfl | rfl <;> cases blank

/-- The argument of an include is read in brackets first, and as plain text where that declines. -/
theorem pointsAt_of_target {cursor later : Cursor} {directive : IncludeDirective} {target : Target}
    (read : orElse standardTarget (locationTarget directive) cursor = .read target later)
    (trails : later.rest.all isSpace = true) (span : Span) :
    (∃ own, cursor.Passes own later) ∧
      Include.PointsAt ⟨directive, target.target, target.kind, target.part, span⟩ cursor.rest := by
  have chosen : choose ([standardTarget] ++ [locationTarget directive]) cursor =
      .read target later := read
  rcases read_of_choose_append (List.cons_ne_nil _ _) chosen with
    ⟨reader, member, read⟩ | ⟨declines, read⟩
  · cases List.mem_singleton.mp member
    obtain ⟨inner, passes, present, clean, kind, parted⟩ := passes_of_standardTarget read
    refine ⟨⟨_, passes⟩, .bracketed kind ?_ present clean trails parted⟩
    rw [passes.rest, List.cons_append, List.append_assoc, List.singleton_append]
  · obtain ⟨text, passes, present, clean, kind, parted⟩ := passes_of_locationTarget read
    refine ⟨⟨_, passes⟩, .plain kind passes.rest present clean trails parted fun rest opens => ?_⟩
    have empty := declines_standardTarget.mp (declines _ (List.mem_singleton_self _)) rest opens
    exact empty_of_plain (opens.symm.trans passes.rest) clean trails empty

/-- What the production of includes reads off what is left of a line. -/
theorem pointsAt_of_inclusion {completes : Bool} {cursor later : Cursor} {found : Reading}
    (read : inclusion completes cursor = .read found later) :
    ∃ content lead gap argument, found = .whole (.inclusion content) ∧
      cursor.rest = lead ++ ('!' :: content.directive.word.toList ++ (gap ++ argument)) ∧
      lead.all isSpace = true ∧ gap ≠ [] ∧ gap.all isSpace = true ∧
      argument.head?.any isSpace = false ∧
      content.span = .between (cursor.column + byteLength lead)
        (cursor.column + byteLength cursor.rest) ∧
      content.PointsAt argument := by
  simp only [inclusion, directiveStart, bind_eq_read, column_eq_read, directiveRest_eq_read,
    expecting_eq_read, pure_eq_read] at read
  obtain ⟨_, _, ⟨_, mark, lead, _, _, ⟨rfl, rfl⟩, _, _, sign, rfl, rfl⟩, directive, _, word, _,
    argued, gap, target, stopped, read, _, _, ends, rfl, rfl⟩ := read
  obtain ⟨lead, leads, blank⟩ := blanks_of_spaces lead
  obtain ⟨gap, gaps, present, blanks, free⟩ := blanks_of_spaces1 gap
  obtain ⟨trails, rfl⟩ := blanks_of_endOfStatement ends
  have opening := leads.trans ((passes_of_char sign).trans
    ((passes_of_includeDirective word).trans gaps))
  have spelled : cursor.rest = lead ++ ('!' :: directive.word.toList ++ (gap ++ argued.rest)) := by
    rw [opening.rest]
    simp only [List.append_assoc, List.cons_append, List.nil_append]
  obtain ⟨⟨_, passes⟩, points⟩ := pointsAt_of_target read trails
    (.between mark.column (stopped.column + byteLength stopped.rest))
  refine ⟨_, lead, gap, argued.rest, rfl, spelled, blank, present, blanks, free, ?_, points⟩
  rw [(opening.trans passes).reach, leads.column]

/-! ## Lines that say includes -/

def Reading.isInclusion : Reading → Bool
  | .whole (.inclusion _) => true
  | _ => false

/-- An include is read by the production of includes. -/
theorem inclusion_of_reading {completes : Bool} {cursor later : Cursor} {content : Include}
    (read : reading completes cursor = .read (.whole (.inclusion content)) later) :
    inclusion completes cursor = .read (.whole (.inclusion content)) later := by
  have other {reader : Reader Reading} (yields : reader.Yields (·.isInclusion = false))
      (read : reader cursor = .read (.whole (.inclusion content)) later) :
      inclusion completes cursor = .read (.whole (.inclusion content)) later :=
    absurd (yields _ _ _ read) (by simp [Reading.isInclusion])
  obtain ⟨reader, member, read⟩ := read_of_choose read
  simp only [List.mem_cons, List.not_mem_nil, or_false] at member
  rcases member with rfl | rfl | rfl | rfl | rfl | rfl | rfl | rfl | rfl | rfl | rfl
  · exact other (yields_bind fun start => yields_bind fun scope => yields_bind fun name =>
      yields_bind fun _ => yields_bind fun conditional => yields_directiveRest <|
      yields_bind fun _ => yields_bind fun initializer => yields_bind fun stop =>
      yields_pure rfl) read
  · exact other (yields_bind fun start => yields_bind fun name => yields_bind fun parameters =>
      yields_pure rfl) read
  · exact other (yields_bind fun start => yields_bind fun name => yields_bind fun parameters =>
      yields_bind fun headerStop => yields_bind fun _ => yields_bind fun rest =>
      yields_pure rfl) read
  · exact read
  · rw [callable_eq] at read
    refine other (yields_bind fun start => yields_bind fun unquoted => yields_bind fun kind =>
      yields_bind fun name => yields_bind fun rest => yields_pure ?_) read
    obtain ⟨parameters, value, stop⟩ := rest
    cases value <;> rfl
  · exact other (yields_bind fun start => yields_bind fun kind => yields_bind fun condition =>
      yields_pure rfl) read
  · exact other (yields_bind fun start => yields_bind fun condition => yields_pure rfl) read
  · exact other (yields_bind fun start => yields_directiveRest <| yields_bind fun _ =>
      yields_bind fun value => yields_bind fun stop => yields_pure rfl) read
  · obtain ⟨expression, span, same⟩ := yields_callLine completes _ _ _ read
    cases same
  · obtain ⟨directive, text, span, same⟩ := yields_unknown _ _ _ read
    cases same
  · exact other (yields_bind fun text => yields_pure rfl) read

end Grammar

open Grammar

/-- An include in a tree was said by one of the lines of the tree. -/
theorem Statement.AllMade.says_of_inclusion {statements : List Statement} {lines : List Line}
    {enters : Node → Bool} {content : Include} (made : Statement.AllMade statements lines)
    (member : .statement (.inclusion content) ∈ Statement.walkAll enters statements) :
    ∃ line ∈ lines, line.Says (.whole (.inclusion content)) := by
  obtain ⟨own, inside, made⟩ := made.made_of_walkAll member
  cases made with
  | line told => exact ⟨_, inside.mem (List.mem_singleton_self _), told⟩

/-- A line that says an include is an include directive, the include points at what its argument
says, and it spans the line from the mark on. -/
theorem Line.Says.pointsAt {line : Line} {content : Include}
    (told : line.Says (.whole (.inclusion content))) :
    ∃ lead argument, line.Includes content.directive lead argument ∧
      content.span = .between (line.start + byteLength lead) line.contentStop ∧
      content.PointsAt argument := by
  obtain ⟨found, later, read, same⟩ := told
  cases found with
  | opens start header => cases same
  | whole statement =>
    cases statement <;> cases same
    obtain ⟨content, lead, gap, argument, found, whole, leads, present, gaps, free, span, points⟩ :=
      pointsAt_of_inclusion (inclusion_of_reading read)
    cases found
    refine ⟨lead, argument, ⟨⟨gap, whole, present, gaps⟩, leads, free⟩, ?_, points.shift _⟩
    rw [Include.shift, span, Span.shift_between, Line.contentStop]
    simp only [Nat.zero_add, Nat.add_comm]

/-- What is written of an include target: the target, and the tag behind its mark. -/
def Include.written (content : Include) : List Char :=
  content.target.value.toList ++ content.part.elim [] fun tag => '!' :: tag.value.toList

/-- An include and the argument of its directive say the same. -/
structure Include.Decomposes (content : Include) (argument : List Char) : Prop where
  /-- Without brackets the target and the tag are the longest run without a blank. -/
  plain : content.kind ≠ .standard → content.written =
    argument.takeWhile fun c => !(c == ' ' || c == '\t' || c == '\n' || c == '\r')
  present : content.kind ≠ .standard → content.target.value ≠ ""
  /-- Without brackets the directive or the target says that there is an address. -/
  address : content.kind ≠ .standard → (content.kind = .url ↔
    content.directive = .includeUrl ∨ "://".toList <:+: content.target.value.toList)
  /-- In brackets the target and the tag are the text without the white space at its end. -/
  bracketed : content.kind = .standard → ∃ inner trail,
    argument = '<' :: (inner ++ '>' :: trail) ∧ '>' ∉ inner ∧ content.written = trimEnd inner
  tag : ∀ tag, content.part = some tag →
    tag.value ≠ "" ∧ '!' ∉ tag.value.toList ∧ '/' ∉ tag.value.toList

/-- A run of target characters up to the blanks at the end is the longest one. -/
theorem takeWhile_isTargetChar {text trail : List Char} (clean : text.all isTargetChar = true)
    (trails : trail.all isSpace = true) : (text ++ trail).takeWhile isTargetChar = text := by
  refine (span_run clean ?_).1
  cases trail with
  | nil => rfl
  | cons c rest =>
    have blank : isSpace c = true := List.all_eq_true.mp trails c List.mem_cons_self
    simp only [isSpace, Bool.or_eq_true, beq_iff_eq] at blank
    rcases blank with rfl | rfl <;> rfl

theorem Include.PointsAt.decomposes {content : Include} {argument : List Char}
    (points : content.PointsAt argument) : content.Decomposes argument := by
  cases points with
  | @bracketed inner trail kind whole present clean trails parted =>
    have standard : ¬content.kind ≠ .standard := not_not_intro kind
    exact ⟨standard.elim, standard.elim, standard.elim,
      fun _ => ⟨inner, trail, whole, clean, parted.joined⟩, parted.part⟩
  | @plain text trail kind whole present clean trails parted empty =>
    refine ⟨fun _ => ?_, fun _ => parted.target present, fun _ => ?_, fun standard => ?_,
      parted.part⟩
    · exact parted.joined.trans (whole ▸ takeWhile_isTargetChar clean trails).symm
    · rw [kind, parted.contains_scheme, ← contains_iff]
      split
      · next address => simpa using address
      · next path => simpa using path
    · rw [kind] at standard
      split at standard <;> cases standard

/-- In a document that parses every include, at whatever depth, stands on a line that is an include
directive. It spans the line from the mark on, and nothing of the argument is lost. -/
theorem parse_targets {source : String} {root : Root} (parsed : parse source = .ok root)
    {content : Include} (member : .statement (.inclusion content) ∈ root.nodes) :
    ∃ line ∈ Line.split source.toList, ∃ lead argument,
      line.Includes content.directive lead argument ∧
      content.span = .between (line.start + byteLength lead) line.contentStop ∧
      content.Decomposes argument := by
  obtain ⟨line, listed, told⟩ := (allMade_of_parse parsed).says_of_inclusion member
  obtain ⟨lead, argument, includes, span, points⟩ := told.pointsAt
  exact ⟨line, listed, lead, argument, includes, span, points.decomposes⟩

/-- A path with two marks in it, inside of a block: the tag stands behind the last one. -/
theorem parse_targets_marks :
    ∃ root content, parse "!if 1\n  !include é!b!c \n!endif" = .ok root ∧
      .statement (.inclusion content) ∈ root.nodes ∧ content.target.value = "é!b" ∧
      ∃ argument, content.Decomposes argument ∧
        argument.takeWhile isTargetChar = "é!b!c".toList := by
  have met : (parse "!if 1\n  !include é!b!c \n!endif").toOption.map
      (fun root => root.nodes.filterMap Node.include?) =
        some [⟨.include, ⟨"é!b", .between 17 21⟩, .path, some ⟨"c", .between 22 23⟩,
          .between 8 24⟩] := by
    decide +kernel
  cases parsed : parse "!if 1\n  !include é!b!c \n!endif" with
  | error failure =>
    rw [parsed] at met
    cases met
  | ok root =>
    rw [parsed] at met
    obtain ⟨node, listed, shows⟩ := List.mem_filterMap.mp
      (Option.some.inj met ▸ List.mem_singleton_self _)
    obtain ⟨content⟩ := Node.include?_eq_some_iff.mp shows
    obtain ⟨line, -, lead, argument, -, -, decomposes⟩ := parse_targets parsed listed
    exact ⟨root, _, rfl, listed, rfl, argument, decomposes,
      (decomposes.plain TargetKind.noConfusion).symm⟩

end DiagramAssist
