import DiagramAssist.Proofs.Grammar.Geometry
import DiagramAssist.Proofs.Reader.Guard

/-! # Committed lines

A line commits when it opens with a known directive: then it is read as that directive or not at
all. Whether it does can be seen on the line alone (`commits`). The productions of known directives
decline a line exactly when it does not commit (`declines_openings_iff`), and what is left for such
a line are productions one of which always succeeds (`choose_passing`). So what a line says is a
known directive, or the line does not commit and is passed through (`isKnown_or_passed`).
-/

namespace DiagramAssist

open Reader Text

namespace Grammar

/-! ## The test -/

/-- The words that commit a line. -/
def committingWords : List String :=
  ["define", "definelong", "include", "include_many", "include_once", "includeurl", "includesub",
    "function", "procedure", "if", "ifdef", "ifndef", "while", "return"]

/-- Whether the text starts with the word, and not with a longer name. -/
def startsWord (word : String) (text : List Char) : Bool :=
  (afterWord word text).isSome

/-- Whether the text starts with a variable that is assigned to. -/
def assigns (text : List Char) : Bool :=
  (afterVariable text).any fun rest =>
    (afterLiteral "=" (afterBlanks rest)).isSome || (afterLiteral "?=" (afterBlanks rest)).isSome

/-- What is left behind the scope of an assignment. -/
def afterScope (text : List Char) : Option (List Char) :=
  ((afterWord "global" text).or (afterWord "local" text)).bind afterBlanks1

/-- What is left behind the mark of an unquoted callable. -/
def afterUnquoted (text : List Char) : Option (List Char) :=
  (afterWord "unquoted" text).bind afterBlanks1

/-- Whether the line opens with a known directive: one of the words, a function or procedure marked
as unquoted, or an assignment that may name its scope. -/
def commits (content : List Char) : Bool :=
  (afterMark content).any fun text =>
    committingWords.any (startsWord · text) ||
    (afterUnquoted text).any (fun rest =>
      startsWord "function" rest || startsWord "procedure" rest) ||
    assigns text || (afterScope text).any assigns

/-- A text starts like the word that it starts with. -/
theorem head_of_afterWord {word : String} {c : Char} {more text rest : List Char}
    (spelled : word.toList = c :: more) (taken : afterWord word text = some rest) :
    text.head? = some c := by
  rw [afterWord, Option.filter_eq_some_iff] at taken
  obtain ⟨taken, -⟩ := taken
  simp only [afterLiteral, Option.ite_none_right_eq_some] at taken
  obtain ⟨isPrefix, -⟩ := taken
  rw [spelled] at isPrefix
  cases text with
  | nil => cases isPrefix
  | cons d text =>
    rw [List.isPrefixOf_cons_cons, Bool.and_eq_true, beq_iff_eq] at isPrefix
    rw [isPrefix.1, List.head?_cons]

theorem afterWord_eq_none {word : String} {c : Char} {more text : List Char}
    (spelled : word.toList = c :: more) (other : text.head? ≠ some c) :
    afterWord word text = none := by
  cases taken : afterWord word text with
  | none => rfl
  | some rest => exact absurd (head_of_afterWord spelled taken) other

/-! ## The productions of known directives -/

/-- The productions of known directives. -/
def openings (completes : Bool) : List (Reader Reading) :=
  [declaration completes, defineLongHeader completes, define, inclusion completes,
    callable completes, branchHeader completes, loopHeader completes, result completes]

/-- The productions that are left for a line that does not commit. -/
def passing (completes : Bool) : List (Reader Reading) :=
  [callLine completes, unknown, diagramText]

theorem reading_eq (completes : Bool) :
    reading completes = choose (openings completes ++ passing completes) :=
  rfl

theorem guarded_declaration (completes : Bool) :
    (declaration completes).Guarded fun text =>
      (afterMark text).any fun text => assigns ((afterScope text).getD text) := by
  have scope := (((follows_keyword "global").value Scope.global).orElse
    ((follows_keyword "local").value Scope.local)).bind fun scope => follows_spaces1.value scope
  have sign := ((follows_literal "?=").value true).orElse ((follows_literal "=").value false)
  refine Guarded.congr (follows_directiveStart.guarded fun start =>
    scope.optional.guarded fun scope => follows_variableName.guarded fun name =>
    follows_spaces.guarded fun _ => sign.guarded fun conditional =>
    guarded_of_never fun cursor => not_declines_directiveRest _ _ _) fun text => ?_
  congr 1
  funext text
  simp only [Option.any_some, assigns, afterScope]
  congr 1
  funext rest
  cases afterLiteral "?=" (afterBlanks rest) <;> cases afterLiteral "=" (afterBlanks rest) <;> rfl

theorem guarded_directive {α : Type} (word : String) {next : Nat → Reader α}
    (never : ∀ start cursor, ¬(next start).Declines cursor) :
    (directive word >>= next).Guarded fun text => (afterMark text).any (startsWord word) := by
  have opening := follows_directiveStart.bind fun start => (follows_keyword word).value start
  refine Guarded.congr (opening.guarded fun start => guarded_of_never (never start)) fun text => ?_
  cases afterMark text with
  | none => rfl
  | some text =>
    simp only [Option.bind_some, Option.any_some, startsWord]
    cases afterWord word text <;> rfl

theorem guarded_defineLongHeader (completes : Bool) :
    (defineLongHeader completes).Guarded fun text =>
      (afterMark text).any (startsWord "definelong") := by
  refine guarded_directive "definelong" fun start cursor => ?_
  simp only [declaredName, declines_bind, not_declines_directiveRest, not_declines_pure, and_false,
    exists_false, or_self, not_false_eq_true]

theorem guarded_define : define.Guarded fun text => (afterMark text).any (startsWord "define") := by
  refine guarded_directive "define" fun start cursor => ?_
  simp only [declaredName, restOfLine, declines_bind, not_declines_directiveRest,
    not_declines_column, not_declines_spaces, not_declines_takeWhile, not_declines_pure, and_false,
    exists_false, or_self, not_false_eq_true]

theorem guarded_loopHeader (completes : Bool) :
    (loopHeader completes).Guarded fun text => (afterMark text).any (startsWord "while") := by
  refine guarded_directive "while" fun start cursor => ?_
  simp only [declines_bind, not_declines_directiveRest, not_declines_pure, and_false,
    exists_false, or_self, not_false_eq_true]

theorem guarded_result (completes : Bool) :
    (result completes).Guarded fun text => (afterMark text).any (startsWord "return") :=
  guarded_directive "return" fun _ _ => not_declines_directiveRest _ _ _

/-- A choice of words takes something exactly when the text starts with one of the words. -/
theorem any_findSome?_afterWord {γ : Type} (word : γ → String) (items : List γ) (text : List Char) :
    ((items.findSome? fun item => afterWord (word item) text).any fun _ => true) =
      (items.map word).any (startsWord · text) := by
  induction items with
  | nil => rfl
  | cons item rest ih =>
    rw [List.findSome?_cons, List.map_cons, List.any_cons, ← ih, startsWord]
    cases afterWord (word item) text <;> rfl

theorem guarded_inclusion (completes : Bool) :
    (inclusion completes).Guarded fun text => (afterMark text).any fun text =>
      ["include_many", "include_once", "includeurl", "includesub", "include"].any
        (startsWord · text) := by
  have word := follows_choose (fun directive =>
    (follows_keyword (IncludeDirective.word directive)).value directive)
    [.includeMany, .includeOnce, .includeUrl, .includeSub, .include]
  refine Guarded.congr (follows_directiveStart.guarded fun start => word.guarded fun directive =>
    guarded_of_never fun cursor => not_declines_directiveRest _ _ _) fun text => ?_
  congr 1
  funext text
  exact any_findSome?_afterWord IncludeDirective.word _ text

theorem guarded_branchHeader (completes : Bool) :
    (branchHeader completes).Guarded fun text => (afterMark text).any fun text =>
      ["ifdef", "ifndef", "if"].any (startsWord · text) := by
  have word := follows_choose (fun kind =>
    (follows_keyword (ConditionKind.word kind)).value kind) [.defined, .undefined, .holds]
  refine Guarded.congr (follows_directiveStart.guarded fun start => word.guarded fun directive =>
    guarded_of_never fun cursor => ?_) fun text => ?_
  · simp only [declines_bind, not_declines_directiveRest, not_declines_pure, and_false,
      exists_false, or_self, not_false_eq_true]
  · congr 1
    funext text
    exact any_findSome?_afterWord ConditionKind.word _ text

theorem guarded_callable (completes : Bool) :
    (callable completes).Guarded fun text => (afterMark text).any fun text =>
      ["function", "procedure"].any (startsWord · ((afterUnquoted text).getD text)) := by
  rw [callable_eq]
  have quoting := (follows_keyword "unquoted").bind fun _ => follows_spaces1
  have word := ((follows_keyword "function").value BlockCallable.function).orElse
    ((follows_keyword "procedure").value BlockCallable.procedure)
  refine Guarded.congr (follows_directiveStart.guarded fun start =>
    quoting.optional.guarded fun unquoted => word.guarded fun kind =>
    guarded_of_never fun cursor => ?_) fun text => ?_
  · simp only [declaredName, declines_bind, not_declines_directiveRest, not_declines_pure,
      and_false, exists_false, or_self, not_false_eq_true]
  · congr 1
    funext text
    simp only [Option.any_some, List.any_cons, List.any_nil, Bool.or_false, startsWord,
      afterUnquoted]
    generalize ((afterWord "unquoted" text).bind afterBlanks1).getD text = rest
    cases afterWord "function" rest <;> cases afterWord "procedure" rest <;> rfl

/-! ## The test against the productions -/

/-- A text with a scope in front of it does not start with a variable. -/
theorem assigns_afterScope (text : List Char) :
    assigns ((afterScope text).getD text) = (assigns text || (afterScope text).any assigns) := by
  cases scope : afterScope text with
  | none => simp only [Option.getD_none, Option.any_none, Bool.or_false]
  | some rest =>
    have head : text.head? = some 'g' ∨ text.head? = some 'l' := by
      rw [afterScope, Option.bind_eq_some_iff] at scope
      obtain ⟨_, word, -⟩ := scope
      rcases Option.or_eq_some_iff.mp word with word | ⟨-, word⟩
      · exact .inl (head_of_afterWord rfl word)
      · exact .inr (head_of_afterWord rfl word)
    have none : assigns text = false := by
      cases text with
      | nil => rfl
      | cons c text =>
        simp only [List.head?_cons, Option.some.injEq] at head
        rcases head with rfl | rfl <;> rfl
    rw [none, Bool.false_or, Option.getD_some, Option.any_some]

/-- A callable that is marked as unquoted does not start with the word of a callable. -/
theorem startsWord_afterUnquoted (text : List Char) :
    ["function", "procedure"].any (startsWord · ((afterUnquoted text).getD text)) =
      (["function", "procedure"].any (startsWord · text) || (afterUnquoted text).any fun rest =>
        startsWord "function" rest || startsWord "procedure" rest) := by
  cases quoting : afterUnquoted text with
  | none => simp only [Option.getD_none, Option.any_none, Bool.or_false]
  | some rest =>
    have head : text.head? = some 'u' := by
      rw [afterUnquoted, Option.bind_eq_some_iff] at quoting
      obtain ⟨_, word, -⟩ := quoting
      exact head_of_afterWord rfl word
    have function : startsWord "function" text = false := by
      rw [startsWord, afterWord_eq_none rfl (by rw [head]; decide), Option.isSome_none]
    have procedure : startsWord "procedure" text = false := by
      rw [startsWord, afterWord_eq_none rfl (by rw [head]; decide), Option.isSome_none]
    simp only [List.any_cons, List.any_nil, function, procedure, Bool.or_false, Bool.false_or,
      Option.getD_some, Option.any_some]

/-- The productions of known directives decline a line exactly when it does not commit. -/
theorem declines_openings_iff {completes : Bool} {cursor : Cursor} :
    (∀ reader ∈ openings completes, reader.Declines cursor) ↔ commits cursor.rest = false := by
  simp only [openings, List.forall_mem_cons, List.not_mem_nil, false_implies, implies_true,
    and_true, guarded_declaration completes cursor, guarded_defineLongHeader completes cursor,
    guarded_define cursor, guarded_inclusion completes cursor, guarded_callable completes cursor,
    guarded_branchHeader completes cursor, guarded_loopHeader completes cursor,
    guarded_result completes cursor, commits]
  cases afterMark cursor.rest with
  | none => simp only [Option.any_none, and_self]
  | some text =>
    simp only [Option.any_some, assigns_afterScope, startsWord_afterUnquoted]
    simp only [committingWords, List.any_cons, List.any_nil, Bool.or_false, Bool.or_eq_false_iff]
    -- both sides list the same tests, in another order
    constructor <;> intro tests <;> simp only [tests, and_self]

end Grammar

/-! ## Lines that are passed through -/

/-- Whether the statement is a line that is passed through: an unknown directive, a call or a line
of the diagram. -/
def Statement.isPlain : Statement → Bool
  | .unknown .. | .call .. | .text .. => true
  | _ => false

def Statement.isUnknown : Statement → Bool
  | .unknown .. => true
  | _ => false

/-- Whether the statement is a block, which takes several lines. -/
def Statement.isBlock : Statement → Bool
  | .callable .. | .branch .. | .loop .. | .defineLong .. => true
  | _ => false

theorem Statement.isBlock_of_isPlain {statement : Statement} (plain : statement.isPlain = true) :
    statement.isBlock = false :=
  match statement, plain with
  | .unknown .., _ => rfl
  | .call .., _ => rfl
  | .text .., _ => rfl

@[simp] theorem Statement.isPlain_shift (distance : Nat) (statement : Statement) :
    (statement.shift distance).isPlain = statement.isPlain := by
  cases statement <;> simp only [Statement.shift, Statement.isPlain]

@[simp] theorem Statement.isUnknown_shift (distance : Nat) (statement : Statement) :
    (statement.shift distance).isUnknown = statement.isUnknown := by
  cases statement <;> simp only [Statement.shift, Statement.isUnknown]

@[simp] theorem Statement.isBlock_shift (distance : Nat) (statement : Statement) :
    (statement.shift distance).isBlock = statement.isBlock := by
  cases statement <;> simp only [Statement.shift, Statement.isBlock]

namespace Grammar

/-- What a production of a known directive reads: a block, or a whole statement that is neither a
block nor passed through. -/
def Reading.IsKnown : Reading → Prop
  | .whole statement => statement.isPlain = false ∧ statement.isBlock = false
  | .opens .. => True

/-- The productions of known directives read known directives. -/
theorem yields_openings (completes : Bool) :
    ∀ reader ∈ openings completes, reader.Yields Reading.IsKnown := by
  simp only [openings, List.forall_mem_cons]
  refine ⟨?_, ?_, ?_, ?_, ?_, ?_, ?_, ?_, List.forall_mem_nil _⟩
  · exact yields_bind fun start => yields_bind fun scope => yields_bind fun name =>
      yields_bind fun _ => yields_bind fun conditional => yields_directiveRest <|
      yields_bind fun _ => yields_bind fun initializer => yields_bind fun stop =>
      yields_pure ⟨rfl, rfl⟩
  · exact yields_bind fun start => yields_bind fun name => yields_bind fun parameters =>
      yields_pure trivial
  · exact yields_bind fun start => yields_bind fun name => yields_bind fun parameters =>
      yields_bind fun headerStop => yields_bind fun _ => yields_bind fun rest =>
      yields_pure ⟨rfl, rfl⟩
  · exact yields_bind fun start => yields_bind fun directive => yields_directiveRest <|
      yields_bind fun _ => yields_bind fun found => yields_bind fun stop =>
      yields_pure ⟨rfl, rfl⟩
  · rw [callable_eq]
    refine yields_bind fun start => yields_bind fun unquoted => yields_bind fun kind =>
      yields_bind fun name => yields_bind fun rest => yields_pure ?_
    obtain ⟨parameters, value, stop⟩ := rest
    cases value with
    | none => trivial
    | some value => exact ⟨rfl, rfl⟩
  · exact yields_bind fun start => yields_bind fun kind => yields_bind fun condition =>
      yields_pure trivial
  · exact yields_bind fun start => yields_bind fun condition => yields_pure trivial
  · exact yields_bind fun start => yields_directiveRest <| yields_bind fun _ =>
      yields_bind fun value => yields_bind fun stop => yields_pure ⟨rfl, rfl⟩

/-- A call does not start with the mark of a directive. -/
theorem afterMark_of_callLine {completes : Bool} {cursor later : Cursor} {found : Reading}
    (read : callLine completes cursor = .read found later) : afterMark cursor.rest = none := by
  simp only [callLine, relent_eq_read, bind_eq_read] at read
  obtain ⟨_, middle, blanks, found, _, called, -⟩ := read
  have rest : middle.rest = afterBlanks cursor.rest := by
    simp only [spaces, takeWhile, bind_apply, pure_apply, Outcome.read.injEq] at blanks
    rw [← blanks.2]
    rfl
  simp only [callExpression, call, bind_eq_read, remaining_eq_read, column_eq_read] at called
  obtain ⟨_, _, ⟨rfl, rfl⟩, _, _, ⟨rfl, rfl⟩, _, _, sigil, _, _, named, -⟩ := called
  rw [afterMark, ← rest]
  rcases read_of_optional sigil with ⟨_, -, present⟩ | ⟨-, rfl⟩
  · rw [(passes_of_char present).rest]
    rfl
  · obtain ⟨name, passes, isName, -⟩ := passes_of_anyName named
    cases name with
    | nil => cases isName
    | cons c more =>
      have other : c ≠ '!' := by
        rintro rfl
        cases isName
      rw [passes.rest, List.cons_append, afterChar, if_neg other]

theorem yields_callLine (completes : Bool) :
    (callLine completes).Yields fun found => ∃ expression span,
      found = .whole (.call expression span) := by
  refine yields_relent (yields_bind fun _ => yields_bind fun call => ?_)
  split
  · exact yields_bind fun stop => yields_pure ⟨_, _, rfl⟩
  · exact yields_reject

/-- Any directive is taken as an unknown one. -/
theorem follows_unknown : unknown.Follows fun text => (afterMark text).bind fun _ => some [] :=
  follows_directiveStart.bind fun start => follows_of_read fun cursor =>
    ⟨_, cursor.column + byteLength cursor.rest, by
      rw [bind_of_read (restOfLine_apply cursor)]
      rfl⟩

theorem yields_unknown :
    unknown.Yields fun found =>
      ∃ directive text span, found = .whole (.unknown directive text span) :=
  yields_bind fun _ => yields_bind fun _ => yields_pure ⟨_, _, _, rfl⟩

/-- What the productions make of a line that does not commit: an unknown directive if the line has
the mark of a directive, and otherwise a call or the text of the line. -/
theorem choose_passing (completes : Bool) (cursor : Cursor) :
    ∃ statement later, choose (passing completes) cursor = .read (.whole statement) later ∧
      statement.isPlain = true ∧ statement.isUnknown = (afterMark cursor.rest).isSome ∧
      ∀ text span, statement = .text text span → text.toList = cursor.rest := by
  have call : (∃ found later, callLine completes cursor = .read found later) ∨
      (callLine completes).Declines cursor := relent_reads_or_declines _
  rcases call with ⟨found, later, read⟩ | declines
  · obtain ⟨expression, span, rfl⟩ := yields_callLine completes _ _ _ read
    refine ⟨_, later, choose_of_read read, rfl, ?_, nofun⟩
    rw [afterMark_of_callLine read]
    rfl
  · rw [passing, choose_of_declines declines]
    cases mark : afterMark cursor.rest with
    | some text =>
      obtain ⟨found, column, read⟩ := follows_unknown.takes cursor [] (by rw [mark]; rfl)
      obtain ⟨directive, text, span, rfl⟩ := yields_unknown _ _ _ read
      exact ⟨_, _, choose_of_read read, rfl, rfl, nofun⟩
    | none =>
      rw [choose_of_declines (follows_unknown.refuses cursor (by rw [mark]; rfl))]
      have read : diagramText cursor = .read (.whole (.text (String.ofList cursor.rest)
          (.between cursor.column (cursor.column + byteLength cursor.rest))))
          (cursor.advance cursor.rest []) := bind_of_read (restOfLine_apply cursor)
      refine ⟨_, _, read, rfl, rfl, ?_⟩
      rintro text span same
      cases same
      exact String.toList_ofList

/-- A line that does not commit is passed through. -/
theorem reading_of_uncommitted {completes : Bool} {cursor : Cursor}
    (uncommitted : commits cursor.rest = false) :
    reading completes cursor = choose (passing completes) cursor :=
  choose_append_of_declines (declines_openings_iff.mpr uncommitted) (List.cons_ne_nil _ _)

/-- What a line says on its own is a known directive, or the line does not commit and is passed
through. -/
theorem isKnown_or_passed {completes : Bool} {cursor later : Cursor} {found : Reading}
    (read : reading completes cursor = .read found later) :
    found.IsKnown ∨
      commits cursor.rest = false ∧ choose (passing completes) cursor = .read found later := by
  rw [reading_eq] at read
  rcases read_of_choose_append (List.cons_ne_nil _ _) read with
    ⟨reader, member, read⟩ | ⟨declines, read⟩
  · exact .inl (yields_openings completes reader member _ _ _ read)
  · exact .inr ⟨declines_openings_iff.mp declines, read⟩

/-- What a line says as a whole is no block. -/
theorem isBlock_of_reading {completes : Bool} {cursor later : Cursor} {statement : Statement}
    (read : reading completes cursor = .read (.whole statement) later) :
    statement.isBlock = false := by
  rcases isKnown_or_passed read with known | ⟨-, passed⟩
  · exact known.2
  · obtain ⟨other, later, chosen, plain, -⟩ := choose_passing completes cursor
    cases passed.symm.trans chosen
    exact Statement.isBlock_of_isPlain plain

end Grammar

namespace Line

/-- Whether the line opens with a known directive. -/
def commits (line : Line) : Bool :=
  Grammar.commits line.content

/-- The first character of the line that is no blank. -/
def firstMark (line : Line) : Option Char :=
  (afterBlanks line.content).head?

end Line

end DiagramAssist
