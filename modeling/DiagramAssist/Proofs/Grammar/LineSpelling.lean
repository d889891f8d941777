import DiagramAssist.Proofs.Grammar.Spelling

/-! # What a line says stands in the line

A line that is a whole statement holds the text of that statement, and a line that opens a block
holds the beginning of one, from its `!` on. A line that closes a block holds the closing word.
-/

namespace DiagramAssist

/-- A passage over two texts stops between them. -/
theorem Cursor.Passes.split {cursor later : Cursor} {first second : List Char}
    (passes : cursor.Passes (first ++ second) later) :
    ∃ middle, cursor.Passes first middle ∧ middle.Passes second later := by
  refine ⟨⟨cursor.column + Text.byteLength first, second ++ later.rest⟩, ⟨?_, rfl⟩, rfl, ?_⟩
  · rw [passes.rest, List.append_assoc]
  · rw [passes.column, Text.byteLength_append, Nat.add_assoc]

theorem Text.exists_eq_trimEnd_append (text : List Char) :
    ∃ tail, text = Text.trimEnd text ++ tail := by
  refine ⟨(text.reverse.takeWhile Text.isBlank).reverse, ?_⟩
  rw [Text.trimEnd, ← List.reverse_append, List.takeWhile_append_dropWhile, List.reverse_reverse]

namespace Grammar

open Reader Outline

/-- The outlines of what a header holds. -/
def Header.outlines : Header → List Outline
  | .callable _ _ name parameters => name.nameOutline :: Parameter.outlines parameters
  | .branch _ condition => [condition.outline]
  | .loop condition => [condition.outline]
  | .defineLong name parameters => name.nameOutline :: Parameter.outlinesOption parameters

/-- What is said stands in a text that starts at `start`; a block starts with its directive. -/
def Reading.StandsIn (start : Nat) (text : List Char) : Reading → Prop
  | .whole statement => InTurn [statement.outline] start text
  | .opens directive header => ∃ before after, text = before ++ after ∧
      directive = start + Text.byteLength before ∧ InTurn header.outlines directive after

/-- What the reader says of a line stands in what it passes. -/
def SpellsReading (reader : Reader Reading) : Prop :=
  ∀ ⦃cursor : Cursor⦄ ⦃found : Reading⦄ ⦃later : Cursor⦄, reader cursor = .read found later →
    ∃ taken, cursor.Passes taken later ∧ found.StandsIn cursor.column taken

section Directives

variable {cursor mark later : Cursor} {blanks text : List Char}

/-- A statement that spans what follows the blanks of a line. -/
theorem standsIn_whole {statement : Statement} (lead : cursor.Passes blanks mark)
    (covers : statement.outline.Covers mark.column text) (after : List Char) :
    (Reading.whole statement).StandsIn cursor.column (blanks ++ (text ++ after)) :=
  lead.skip (covers.inTurn.extend after)

/-- A block that starts behind the blanks of a line. -/
theorem standsIn_opens {header : Header} (lead : cursor.Passes blanks mark)
    (inTurn : InTurn header.outlines mark.column text) :
    (Reading.opens mark.column header).StandsIn cursor.column (blanks ++ text) :=
  ⟨blanks, text, rfl, lead.column, inTurn⟩

end Directives

/-- A word that stands for a value. -/
theorem tracks_word {α : Type} (word : String) (value : α) :
    Tracks (do keyword word; return value) :=
  (tracks_keyword word).bind fun _ => tracks_pure value

theorem tracks_scope :
    Tracks (optional (do
      let scope ← choose
        [(do keyword "global"; return Scope.global), (do keyword "local"; return Scope.local)]
      spaces1
      return scope)) := by
  refine .optional (.bind (tracks_choose ?_) fun _ => tracks_spaces1.bind fun _ => tracks_pure _)
  simp only [List.forall_mem_cons]
  exact ⟨tracks_word _ _, tracks_word _ _, List.forall_mem_nil _⟩

theorem tracks_assignment :
    Tracks (choose [(do literal "?="; return true), (do literal "="; return false)]) := by
  refine tracks_choose ?_
  simp only [List.forall_mem_cons]
  exact ⟨(tracks_literal _).bind fun _ => tracks_pure _,
    (tracks_literal _).bind fun _ => tracks_pure _, List.forall_mem_nil _⟩

theorem spells_declaration (completes : Bool) : SpellsReading (declaration completes) := by
  intro cursor found later read
  simp only [declaration, bind_eq_read, directiveRest_eq_read, expecting_eq_read, pure_eq_read]
    at read
  obtain ⟨_, _, begins, scope, _, ranged, name, _, word, _, _, blank, conditional, _, assigned, _,
    _, blank', initializer, _, read, _, _, ends, rfl, rfl⟩ := read
  obtain ⟨blanks, mark, lead, rfl, sign⟩ := passes_of_directiveStart begins
  obtain ⟨_, scopes⟩ := tracks_scope.passes ranged
  obtain ⟨_, named, labelled⟩ := spells_variableName word
  obtain ⟨_, before⟩ := passes_of_spaces blank
  obtain ⟨_, assigns⟩ := tracks_assignment.passes assigned
  obtain ⟨_, behind⟩ := passes_of_spaces blank'
  obtain ⟨_, holds, covers⟩ := spells_expression read
  obtain ⟨⟨_, trail⟩, rfl⟩ := passes_of_endOfStatement ends
  have whole := sign.trans (scopes.trans (named.trans (before.trans (assigns.trans
    (behind.trans (holds.trans trail))))))
  refine ⟨_, lead.trans whole, lead.skip (Covers.inTurn (whole.covers trivial ?_))⟩
  exact sign.skip (scopes.skip (named.cover labelled (before.skip (assigns.skip (behind.skip
    (holds.cover covers inTurn_nil))))))

theorem spells_declaredName (start : Nat) (what : String) :
    (declaredName start what).SpellsAll fun name => [name.nameOutline] := by
  intro cursor found later read
  simp only [declaredName, directiveRest_eq_read, expecting_eq_read, bind_eq_read] at read
  obtain ⟨_, _, blank, word⟩ := read
  obtain ⟨_, before⟩ := passes_of_spaces1 blank
  obtain ⟨_, named, labelled⟩ := spells_anyName word
  exact ⟨_, before.trans named, before.skip labelled.inTurn⟩

theorem spells_defineLongHeader (completes : Bool) :
    SpellsReading (defineLongHeader completes) := by
  intro cursor found later read
  simp only [defineLongHeader, bind_eq_read, directiveRest_eq_read, pure_eq_read] at read
  obtain ⟨_, _, begins, name, _, named, parameters, _, ⟨_, _, listed, _, _, ends, rfl, rfl⟩, rfl,
    rfl⟩ := read
  obtain ⟨blanks, mark, lead, rfl, sign⟩ := passes_of_directive begins
  obtain ⟨_, named, labelled⟩ := spells_declaredName _ _ named
  obtain ⟨_, listed, inTurn⟩ := spells_optionalParameterList listed
  obtain ⟨⟨_, trail⟩, rfl⟩ := passes_of_endOfStatement ends
  exact ⟨_, lead.trans (sign.trans (named.trans (listed.trans trail))),
    standsIn_opens lead (sign.skip (named.turn labelled (inTurn.extend _)))⟩

theorem spells_define : SpellsReading define := by
  intro cursor found later read
  simp only [define, bind_eq_read, directiveRest_eq_read, column_eq_read, pure_eq_read] at read
  obtain ⟨_, _, begins, name, _, named, parameters, stopped, listed, _, _, ⟨rfl, rfl⟩, _, middle,
    blank, ⟨rest, valueStart⟩, _, taken, rfl, rfl⟩ := read
  obtain ⟨blanks, mark, lead, rfl, sign⟩ := passes_of_directive begins
  obtain ⟨_, named, labelled⟩ := spells_declaredName _ _ named
  obtain ⟨_, listed, inTurn⟩ := spells_optionalParameterList listed
  obtain ⟨_, before⟩ := passes_of_spaces blank
  obtain ⟨passes, rfl⟩ := passes_of_restOfLine taken
  have header := sign.trans (named.trans listed)
  dsimp only
  split
  · -- without a value the statement ends with the name or the parameters
    refine ⟨_, lead.trans (header.trans (before.trans passes)), standsIn_whole lead ?_ _⟩
    rw [← List.append_nil (Parameter.outlinesOption parameters)] at inTurn
    exact header.covers trivial (sign.skip (named.turn labelled inTurn))
  · obtain ⟨tail, split⟩ := Text.exists_eq_trimEnd_append rest
    rw [split] at passes
    obtain ⟨stop, value, behind⟩ := passes.split
    have whole := sign.trans (named.trans (listed.trans (before.trans value)))
    refine ⟨_, lead.trans (whole.trans behind), standsIn_whole lead ?_ _⟩
    have ending : (located (Text.trimEnd rest) middle.column).span.stop = stop.column := by
      rw [located, Span.stop_between_of_le (Nat.le_add_right ..), value.column]
    simp only [ending]
    refine whole.covers trivial (sign.skip (named.turn labelled (listed.turn inTurn ?_)))
    exact before.skip (Located.covers_textOutline ..).inTurn

def Target.outlines (target : Target) : List Outline :=
  target.target.textOutline :: target.part.toList.map Located.textOutline

/-- What stands behind the last `!` of a text, when there is one. -/
theorem exists_eq_append_mark {text : List Char}
    (shorter : (text.reverse.takeWhile (· != '!')).reverse.length < text.length) :
    ∃ target, text = target ++ '!' :: (text.reverse.takeWhile (· != '!')).reverse := by
  have parts : text.reverse.takeWhile (· != '!') ++ text.reverse.dropWhile (· != '!') =
      text.reverse := List.takeWhile_append_dropWhile
  have stopped := List.head?_dropWhile_not (· != '!') text.reverse
  cases rest : text.reverse.dropWhile (· != '!') with
  | nil =>
    rw [rest, List.append_nil] at parts
    rw [parts, List.length_reverse, List.length_reverse] at shorter
    exact (Nat.lt_irrefl _ shorter).elim
  | cons c more =>
    rw [rest] at parts stopped
    simp only [List.head?_cons, bne_eq_false_iff_eq] at stopped
    refine ⟨more.reverse, ?_⟩
    calc text = (text.reverse.takeWhile (· != '!') ++ c :: more).reverse := by
          rw [parts, List.reverse_reverse]
      _ = more.reverse ++ '!' :: (text.reverse.takeWhile (· != '!')).reverse := by
          rw [stopped, List.reverse_append, List.reverse_cons, List.append_assoc,
            List.singleton_append]

/-- The target and the tag of an include stand on the two sides of the last `!`. -/
theorem inTurn_splitPart (text : List Char) (start : Nat) :
    InTurn ((splitPart text start).1.textOutline ::
      (splitPart text start).2.toList.map Located.textOutline) start text := by
  simp only [splitPart]
  split
  · next parted =>
    simp only [Bool.and_eq_true, decide_eq_true_eq] at parted
    obtain ⟨target, split⟩ := exists_eq_append_mark parted.1.1.1
    generalize (text.reverse.takeWhile (· != '!')).reverse = part at split
    subst split
    have cut : (target ++ '!' :: part).length - part.length - 1 = target.length := by
      simp only [List.length_append, List.length_cons]
      omega
    rw [cut, List.take_left]
    refine (Located.covers_textOutline target start).inTurn.append ?_
    have behind : InTurn [(located part (start + Text.byteLength target + 1)).textOutline]
        (start + Text.byteLength target) (['!'] ++ part) :=
      InTurn.skip (Located.covers_textOutline part _).inTurn
    exact behind
  · exact (Located.covers_textOutline text start).inTurn

theorem spells_standardTarget : standardTarget.SpellsAll Target.outlines := by
  intro cursor found later read
  simp only [standardTarget, bind_eq_read, column_eq_read, expecting_eq_read, commit_eq_read,
    pure_eq_read] at read
  obtain ⟨_, middle, opening, _, _, ⟨rfl, rfl⟩, text, _, taken, _, _, closing, rfl, rfl⟩ := read
  have opens := passes_of_char opening
  have holds := (passes_of_takeWhile1 taken).1
  refine ⟨_, opens.trans (holds.trans (passes_of_char closing)), opens.skip (.extend ?_ _)⟩
  obtain ⟨tail, split⟩ := Text.exists_eq_trimEnd_append text
  have inTurn := (inTurn_splitPart (Text.trimEnd text) middle.column).extend tail
  rwa [← split] at inTurn

theorem spells_locationTarget (directive : IncludeDirective) :
    (locationTarget directive).SpellsAll Target.outlines := by
  intro cursor found later read
  simp only [locationTarget, bind_eq_read, column_eq_read, pure_eq_read] at read
  obtain ⟨_, _, ⟨rfl, rfl⟩, text, _, taken, rfl, rfl⟩ := read
  exact ⟨text, (passes_of_takeWhile1 taken).1, inTurn_splitPart text cursor.column⟩

theorem tracks_includeDirective : Tracks includeDirective := by
  refine tracks_choose fun reader member => ?_
  obtain ⟨directive, _, rfl⟩ := List.mem_map.mp member
  exact tracks_word _ directive

theorem spells_inclusion (completes : Bool) : SpellsReading (inclusion completes) := by
  intro cursor found later read
  simp only [inclusion, bind_eq_read, directiveRest_eq_read, expecting_eq_read, pure_eq_read]
    at read
  obtain ⟨_, _, begins, directive, _, word, _, _, blank, target, _, read, _, _, ends, rfl, rfl⟩ :=
    read
  obtain ⟨blanks, mark, lead, rfl, sign⟩ := passes_of_directiveStart begins
  obtain ⟨_, named⟩ := tracks_includeDirective.passes word
  obtain ⟨_, before⟩ := passes_of_spaces1 blank
  obtain ⟨_, holds, inTurn⟩ : ∃ taken, _ ∧ _ :=
    (read_of_orElse read).elim (spells_standardTarget ·) (spells_locationTarget directive ·)
  obtain ⟨⟨_, trail⟩, rfl⟩ := passes_of_endOfStatement ends
  have whole := sign.trans (named.trans (before.trans (holds.trans trail)))
  refine ⟨_, lead.trans whole, lead.skip (Covers.inTurn (whole.covers trivial ?_))⟩
  exact sign.skip (named.skip (before.skip (inTurn.extend _)))

theorem spells_inlineReturn : inlineReturn.SpellsAll fun value => [value.outline] := by
  intro cursor found later read
  simp only [inlineReturn, bind_eq_read] at read
  obtain ⟨_, _, blank, _, _, sign, _, _, word, _, _, blank', read⟩ := read
  obtain ⟨_, before⟩ := passes_of_spaces blank
  have mark := passes_of_char sign
  have named := passes_of_keyword word
  obtain ⟨_, behind⟩ := passes_of_spaces1 blank'
  obtain ⟨_, holds, covers⟩ := spells_expression read
  exact ⟨_, before.trans (mark.trans (named.trans (behind.trans holds))),
    before.skip (mark.skip (named.skip (behind.skip covers.inTurn)))⟩

theorem tracks_unquoted :
    Tracks (optional (do keyword "unquoted"; spaces1)) :=
  ((tracks_keyword _).bind fun _ => tracks_spaces1).optional

theorem tracks_callableKind :
    Tracks (choose
      [(do keyword "function"; return BlockCallable.function),
        (do keyword "procedure"; return BlockCallable.procedure)]) := by
  refine tracks_choose ?_
  simp only [List.forall_mem_cons]
  exact ⟨tracks_word _ _, tracks_word _ _, List.forall_mem_nil _⟩

/-- The value of a function on one line; a procedure has none. -/
def callableValue : BlockCallable → Reader (Option Expression)
  | .function => optional inlineReturn
  | .procedure => pure none

/-- What follows the name of a callable: the parameters, the value and the column where the line
ends. -/
def callableRest (kind : BlockCallable) (completes : Bool) :
    Reader (List Parameter × Option Expression × Nat) := do
  let parameters ← parameterList
  let value ← callableValue kind
  let stop ← endOfStatement completes
  return (parameters, value, stop)

/-- What a callable says, once its line has been read. -/
def callableReading (start : Nat) (kind : BlockCallable) (unquoted : Bool)
    (name : Located String) : List Parameter × Option Expression × Nat → Reading
  | (parameters, some value, stop) =>
    .whole (.inlineFunction unquoted name parameters value (.between start stop))
  | (parameters, none, _) => .opens start (.callable kind unquoted name parameters)

/-- The production of callables in terms of its parts. -/
theorem callable_eq (completes : Bool) :
    callable completes = (do
      let start ← directiveStart
      let unquoted ← optional (do keyword "unquoted"; spaces1)
      let kind ← choose
        [(do keyword "function"; return BlockCallable.function),
          (do keyword "procedure"; return BlockCallable.procedure)]
      let name ← declaredName start
        (match kind with
          | .function => "function name"
          | .procedure => "procedure name")
      let rest ← directiveRest start .unexpectedToken (callableRest kind completes)
      return callableReading start kind unquoted.isSome name rest) := by
  simp only [callable]
  congr 1
  funext start
  congr 1
  funext unquoted
  congr 1
  funext kind
  congr 1
  funext name
  cases kind with
  | function =>
    change directiveRest start .unexpectedToken (callableRest .function completes) >>= _ = _
    congr 1
    funext ending
    obtain ⟨_, value, _⟩ := ending
    cases value <;> rfl
  | procedure =>
    change directiveRest start .unexpectedToken (callableRest .procedure completes) >>= _ = _
    congr 1
    funext ending
    obtain ⟨_, value, _⟩ := ending
    cases value <;> rfl

theorem spells_callableValue (kind : BlockCallable) :
    (callableValue kind).SpellsAll fun value => value.toList.map Expression.outline := by
  intro cursor found later read
  cases kind with
  | function =>
    rcases read_of_optional read with ⟨value, rfl, present⟩ | ⟨rfl, rfl⟩
    · exact spells_inlineReturn present
    · exact ⟨[], cursor.passes_nil, inTurn_nil⟩
  | procedure =>
    obtain ⟨rfl, rfl⟩ := pure_eq_read.mp read
    exact ⟨[], cursor.passes_nil, inTurn_nil⟩

theorem spells_callable (completes : Bool) : SpellsReading (callable completes) := by
  intro cursor found later read
  simp only [callable_eq, callableRest, bind_eq_read, directiveRest_eq_read, pure_eq_read] at read
  obtain ⟨_, _, begins, unquoted, _, quoting, kind, _, word, name, _, declared, _, _,
    ⟨parameters, _, listed, value, _, valued, _, _, ends, rfl, rfl⟩, rfl, rfl⟩ := read
  obtain ⟨blanks, mark, lead, rfl, sign⟩ := passes_of_directiveStart begins
  obtain ⟨_, quoting⟩ := tracks_unquoted.passes quoting
  obtain ⟨_, word⟩ := tracks_callableKind.passes word
  obtain ⟨_, named, labelled⟩ := spells_declaredName _ _ declared
  obtain ⟨_, listed, inTurn⟩ := spells_parameterList listed
  obtain ⟨_, valued, holds⟩ := spells_callableValue kind valued
  obtain ⟨⟨_, trail⟩, rfl⟩ := passes_of_endOfStatement ends
  have whole := sign.trans (quoting.trans (word.trans (named.trans (listed.trans
    (valued.trans trail)))))
  cases value with
  | some value =>
    refine ⟨_, lead.trans whole, lead.skip (Covers.inTurn (whole.covers trivial ?_))⟩
    exact sign.skip (quoting.skip (word.skip (named.turn labelled (listed.turn inTurn
      (holds.extend _)))))
  | none =>
    refine ⟨_, lead.trans whole, standsIn_opens lead ?_⟩
    exact sign.skip (quoting.skip (word.skip (named.turn labelled (inTurn.extend _))))

/-- A condition: an expression, or a name where the question is whether something is defined. -/
def condition : ConditionKind → Reader Expression
  | .holds => expecting "condition" expression
  | _ => do
    let name ← expecting "macro name" anyName
    return .identifier name.value name.span

/-- The rest of a line that holds only a condition, in terms of its parts. -/
theorem conditionRest_eq (kind : ConditionKind) (completes : Bool) :
    conditionRest kind completes = (do
      expecting "condition" spaces1
      let condition ← condition kind
      let _ ← endOfStatement completes
      return condition) := by
  cases kind <;> simp only [conditionRest, condition, bind_assoc, pure_bind]

theorem spells_condition (kind : ConditionKind) : (condition kind).Spells Expression.outline := by
  intro cursor found later read
  cases kind with
  | holds => exact spells_expression (expecting_eq_read.mp read)
  | defined | undefined =>
    simp only [condition, bind_eq_read, expecting_eq_read, pure_eq_read] at read
    obtain ⟨name, _, word, rfl, rfl⟩ := read
    exact spells_anyName word

theorem spells_conditionRest (kind : ConditionKind) (completes : Bool) :
    (conditionRest kind completes).SpellsAll fun condition => [condition.outline] := by
  intro cursor found later read
  simp only [conditionRest_eq, bind_eq_read, expecting_eq_read, pure_eq_read] at read
  obtain ⟨_, _, blank, condition, _, read, _, _, ends, rfl, rfl⟩ := read
  obtain ⟨_, before⟩ := passes_of_spaces1 blank
  obtain ⟨_, holds, covers⟩ := spells_condition kind read
  obtain ⟨⟨_, trail⟩, rfl⟩ := passes_of_endOfStatement ends
  exact ⟨_, before.trans (holds.trans trail), before.skip (holds.cover covers inTurn_nil)⟩

theorem tracks_conditionKind :
    Tracks (choose ([.defined, .undefined, .holds].map fun kind => do
      keyword (ConditionKind.word kind)
      return kind)) := by
  refine tracks_choose fun reader member => ?_
  obtain ⟨kind, _, rfl⟩ := List.mem_map.mp member
  exact tracks_word _ kind

theorem spells_branchHeader (completes : Bool) : SpellsReading (branchHeader completes) := by
  intro cursor found later read
  simp only [branchHeader, bind_eq_read, directiveRest_eq_read, pure_eq_read] at read
  obtain ⟨_, _, begins, kind, _, word, condition, _, read, rfl, rfl⟩ := read
  obtain ⟨blanks, mark, lead, rfl, sign⟩ := passes_of_directiveStart begins
  obtain ⟨_, named⟩ := tracks_conditionKind.passes word
  obtain ⟨_, holds, inTurn⟩ := spells_conditionRest kind completes read
  exact ⟨_, lead.trans (sign.trans (named.trans holds)),
    standsIn_opens lead (sign.skip (named.skip inTurn))⟩

theorem spells_loopHeader (completes : Bool) : SpellsReading (loopHeader completes) := by
  intro cursor found later read
  simp only [loopHeader, bind_eq_read, directiveRest_eq_read, pure_eq_read] at read
  obtain ⟨_, _, begins, condition, _, read, rfl, rfl⟩ := read
  obtain ⟨blanks, mark, lead, rfl, sign⟩ := passes_of_directive begins
  obtain ⟨_, holds, inTurn⟩ := spells_conditionRest .holds completes read
  exact ⟨_, lead.trans (sign.trans holds), standsIn_opens lead (sign.skip inTurn)⟩

theorem spells_result (completes : Bool) : SpellsReading (result completes) := by
  intro cursor found later read
  simp only [result, bind_eq_read, directiveRest_eq_read, expecting_eq_read, pure_eq_read] at read
  obtain ⟨_, _, begins, _, _, blank, value, _, read, _, _, ends, rfl, rfl⟩ := read
  obtain ⟨blanks, mark, lead, rfl, sign⟩ := passes_of_directive begins
  obtain ⟨_, before⟩ := passes_of_spaces1 blank
  obtain ⟨_, holds, covers⟩ := spells_expression read
  obtain ⟨⟨_, trail⟩, rfl⟩ := passes_of_endOfStatement ends
  have whole := sign.trans (before.trans (holds.trans trail))
  refine ⟨_, lead.trans whole, lead.skip (Covers.inTurn (whole.covers trivial ?_))⟩
  exact sign.skip (before.skip (holds.cover covers inTurn_nil))

theorem spells_callLine (completes : Bool) : SpellsReading (callLine completes) := by
  intro cursor found later read
  simp only [callLine, relent_eq_read, bind_eq_read] at read
  obtain ⟨_, mark, blank, call, _, called, read⟩ := read
  obtain ⟨_, lead⟩ := passes_of_spaces blank
  obtain ⟨_, holds, covers⟩ := spells_callExpression called
  split at read
  · simp only [bind_eq_read, pure_eq_read] at read
    obtain ⟨_, _, ends, rfl, rfl⟩ := read
    obtain ⟨⟨_, trail⟩, rfl⟩ := passes_of_endOfStatement ends
    have whole := holds.trans trail
    -- the statement starts with the call, behind the blanks
    have start : call.span.start = mark.column := by
      have span : call.span = call.toExpression.outline.span := by
        rw [Expression.span_outline]
        rfl
      rw [span, covers.span_eq, Span.start_between_of_le (Nat.le_add_right ..)]
    refine ⟨_, lead.trans whole, lead.skip ?_⟩
    rw [start]
    exact Covers.inTurn (whole.covers trivial (holds.cover covers inTurn_nil))
  · exact (reject_ne_read read).elim

theorem spells_unknown : SpellsReading unknown := by
  intro cursor found later read
  simp only [unknown, bind_eq_read, pure_eq_read] at read
  obtain ⟨_, middle, begins, ⟨text, nameStart⟩, _, taken, rfl, rfl⟩ := read
  obtain ⟨blanks, mark, lead, rfl, sign⟩ := passes_of_directiveStart begins
  obtain ⟨passes, rfl⟩ := passes_of_restOfLine taken
  have whole := sign.trans passes
  refine ⟨_, lead.trans whole, lead.skip ?_⟩
  dsimp only
  rw [← passes.column]
  refine Covers.inTurn (whole.covers ?_ (sign.skip ?_))
  · simp only [Part.Spelled, String.toList_ofList, List.singleton_append]
  · have name := (Located.covers_textOutline (text.takeWhile fun c => isNameChar c || c == '$')
      middle.column).inTurn.extend (text.dropWhile fun c => isNameChar c || c == '$')
    rwa [List.takeWhile_append_dropWhile] at name

theorem spells_diagramText : SpellsReading diagramText := by
  intro cursor found later read
  simp only [diagramText, bind_eq_read, pure_eq_read] at read
  obtain ⟨⟨text, start⟩, _, taken, rfl, rfl⟩ := read
  obtain ⟨passes, rfl⟩ := passes_of_restOfLine taken
  refine ⟨text, passes, ?_⟩
  dsimp only
  rw [← passes.column]
  exact Covers.inTurn (passes.covers (String.toList_ofList) inTurn_nil)

/-- Whatever a line says stands in it. -/
theorem spells_reading (completes : Bool) : SpellsReading (reading completes) := by
  intro cursor found later read
  obtain ⟨reader, member, read⟩ := read_of_choose read
  simp only [List.mem_cons, List.not_mem_nil, or_false] at member
  rcases member with rfl | rfl | rfl | rfl | rfl | rfl | rfl | rfl | rfl | rfl | rfl
  · exact spells_declaration completes read
  · exact spells_defineLongHeader completes read
  · exact spells_define read
  · exact spells_inclusion completes read
  · exact spells_callable completes read
  · exact spells_branchHeader completes read
  · exact spells_loopHeader completes read
  · exact spells_result completes read
  · exact spells_callLine completes read
  · exact spells_unknown read
  · exact spells_diagramText read

/-- A closing word is the word of a directive, from its `!` on. -/
theorem passes_of_closingWord {cursor later : Cursor} {word : Located String}
    (read : closingWord cursor = .read word later) :
    ∃ blanks mark text, cursor.Passes blanks mark ∧ mark.Passes ('!' :: text) later ∧
      word = ⟨String.ofList text, .between mark.column later.column⟩ := by
  simp only [closingWord, bind_eq_read, column_eq_read, pure_eq_read] at read
  obtain ⟨_, _, begins, text, _, taken, _, _, ⟨rfl, rfl⟩, rfl, rfl⟩ := read
  obtain ⟨blanks, mark, lead, rfl, sign⟩ := passes_of_directiveStart begins
  exact ⟨blanks, mark, text, lead, sign.trans (passes_of_takeWhile1 taken).1, rfl⟩

end Grammar

end DiagramAssist
