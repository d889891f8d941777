import DiagramAssist.Proofs.Grammar.Commitment

/-! # Statements inside a document

However deep a statement stands in a document, it is made of lines of the document that follow one
another, and so are the statements of every body. What holds of everything that is made of such
lines holds of every statement and every body.
-/

namespace DiagramAssist

open Grammar

/-! ## Statements met by a walk -/

section Walk

variable {enters : Node → Bool} {found : Statement}

mutual

theorem Expression.statement_not_mem_walk : (expression : Expression) →
    .statement found ∉ expression.walk enters
  | .binary left _ right _ => by
    simp only [Expression.walk, List.mem_cons, List.mem_ite_nil_right, List.mem_append,
      reduceCtorEq, left.statement_not_mem_walk, right.statement_not_mem_walk, or_self, and_false,
      not_false_eq_true]
  | .parenthesized inner _ => by
    simp only [Expression.walk, List.mem_cons, List.mem_ite_nil_right, reduceCtorEq,
      inner.statement_not_mem_walk, and_false, or_self, not_false_eq_true]
  | .call _ _ arguments _ => by
    simp only [Expression.walk, List.mem_cons, List.mem_ite_nil_right, reduceCtorEq,
      Argument.statement_not_mem_walkAll arguments, and_false, or_self, not_false_eq_true]
  | .string _ _ => by
    simp only [Expression.walk, List.mem_singleton, reduceCtorEq, not_false_eq_true]
  | .number _ _ => by
    simp only [Expression.walk, List.mem_singleton, reduceCtorEq, not_false_eq_true]
  | .identifier _ _ => by
    simp only [Expression.walk, List.mem_singleton, reduceCtorEq, not_false_eq_true]

theorem Argument.statement_not_mem_walkAll : (arguments : List Argument) →
    .statement found ∉ Argument.walkAll enters arguments
  | [] => by simp only [Argument.walkAll, List.not_mem_nil, not_false_eq_true]
  | .mk _ value _ :: rest => by
    simp only [Argument.walkAll, Argument.walk, List.mem_append, value.statement_not_mem_walk,
      Argument.statement_not_mem_walkAll rest, or_self, not_false_eq_true]

end

theorem Parameter.statement_not_mem_walkAll (parameters : List Parameter) :
    .statement found ∉ Parameter.walkAll enters parameters := by
  simp only [Parameter.walkAll, List.mem_flatMap, Parameter.walk, List.mem_cons, reduceCtorEq,
    List.mem_ite_nil_right, false_or, not_exists, not_and]
  rintro parameter - - member
  cases default : parameter.default with
  | none => simp only [default, List.not_mem_nil] at member
  | some value =>
    simp only [default] at member
    exact value.statement_not_mem_walk member

theorem Parameter.statement_not_mem_walkOption (parameters : Option (List Parameter)) :
    .statement found ∉ Parameter.walkOption enters parameters := by
  cases parameters with
  | none => exact List.not_mem_nil
  | some parameters => exact Parameter.statement_not_mem_walkAll parameters

/-- No statements stand inside a statement that is no block. -/
theorem Statement.statement_not_mem_walkBelow {statement : Statement}
    (single : statement.isBlock = false) : .statement found ∉ statement.walkBelow enters := by
  cases statement with
  | callable | branch | loop | defineLong => cases single
  | declaration | inlineFunction | define | inclusion | result | call | unknown | text =>
    simp only [Statement.walkBelow, List.mem_append, Expression.statement_not_mem_walk,
      Parameter.statement_not_mem_walkAll, Parameter.statement_not_mem_walkOption,
      List.not_mem_nil, or_self, not_false_eq_true]

theorem Statement.walkAll_append (first second : List Statement) :
    Statement.walkAll enters (first ++ second) =
      Statement.walkAll enters first ++ Statement.walkAll enters second := by
  induction first with
  | nil => rfl
  | cons statement rest ih =>
    simp only [List.cons_append, Statement.walkAll, ih, List.append_assoc]

theorem ElseIf.walkAll_append (first second : List ElseIf) :
    ElseIf.walkAll enters (first ++ second) =
      ElseIf.walkAll enters first ++ ElseIf.walkAll enters second := by
  induction first with
  | nil => rfl
  | cons clause rest ih => simp only [List.cons_append, ElseIf.walkAll, ih, List.append_assoc]

end Walk

/-! ## The lines behind a statement -/

namespace Line

variable (opener head : Line) (lines inner clauses ending : List Line)

/-- The lines inside a block, or inside the first arm of a branch. -/
theorem inner_infix : inner <:+: opener :: (inner ++ ending) :=
  List.infix_cons (List.prefix_append inner ending).isInfix

/-- The lines of the clauses of a branch. -/
theorem clauses_infix : clauses <:+: opener :: (inner ++ (clauses ++ ending)) :=
  List.infix_cons (List.infix_append' inner clauses ending)

/-- The lines at the end of a branch. -/
theorem ending_infix : ending <:+: opener :: (inner ++ (clauses ++ ending)) := by
  have behind := (List.suffix_append clauses ending).trans (List.suffix_append inner _)
  exact List.infix_cons behind.isInfix

/-- The lines behind the head of the last clause. -/
theorem behind_infix : inner <:+: lines ++ head :: inner := by
  have behind := (List.suffix_cons head inner).trans (List.suffix_append lines _)
  exact behind.isInfix

end Line

section Made

variable {line : Line} {statement found : Statement} {enters : Node → Bool}

/-- What a line says as a whole is no block. -/
theorem Line.Says.isBlock (told : line.Says (.whole statement)) : statement.isBlock = false := by
  obtain ⟨reading, next, read, same⟩ := told
  cases reading with
  | opens start header => cases same
  | whole statement =>
    cases same
    rw [Statement.isBlock_shift]
    exact isBlock_of_reading read

mutual

/-- A statement in a tree is made of lines that follow one another in the lines of the tree. -/
theorem Statement.Made.made_of_walk : {statement : Statement} → {lines : List Line} →
    statement.Made lines → .statement found ∈ statement.walk enters →
    ∃ own, own <:+: lines ∧ found.Made own
  | _, _, .line told, member => by
    simp only [Statement.walk, List.mem_cons, List.mem_ite_nil_right,
      Statement.statement_not_mem_walkBelow told.isBlock, and_false, or_false,
      Node.statement.injEq] at member
    subst member
    exact ⟨_, List.infix_rfl, .line told⟩
  | _, _, .callable opens inside turns closes, member => by
    simp only [Statement.walk, Statement.walkBelow, List.mem_cons, List.mem_ite_nil_right,
      List.mem_append, Parameter.statement_not_mem_walkAll, false_or,
      Node.statement.injEq] at member
    rcases member with rfl | ⟨-, below⟩
    · exact ⟨_, List.infix_rfl, .callable opens inside turns closes⟩
    · obtain ⟨own, piece, made⟩ := Statement.AllMade.made_of_walkAll inside below
      exact ⟨own, piece.trans (Line.inner_infix ..), made⟩
  | _, _, .loop opens inside turns closes, member => by
    simp only [Statement.walk, Statement.walkBelow, List.mem_cons, List.mem_ite_nil_right,
      List.mem_append, Expression.statement_not_mem_walk, false_or,
      Node.statement.injEq] at member
    rcases member with rfl | ⟨-, below⟩
    · exact ⟨_, List.infix_rfl, .loop opens inside turns closes⟩
    · obtain ⟨own, piece, made⟩ := Statement.AllMade.made_of_walkAll inside below
      exact ⟨own, piece.trans (Line.inner_infix ..), made⟩
  | _, _, .branch opens inside further ends, member => by
    simp only [Statement.walk, Statement.walkBelow, List.mem_cons, List.mem_ite_nil_right,
      List.mem_append, Expression.statement_not_mem_walk, false_or, or_assoc,
      Node.statement.injEq] at member
    rcases member with rfl | ⟨-, first | clause | last⟩
    · exact ⟨_, List.infix_rfl, .branch opens inside further ends⟩
    · obtain ⟨own, piece, made⟩ := Statement.AllMade.made_of_walkAll inside first
      exact ⟨own, piece.trans (Line.inner_infix ..), made⟩
    · obtain ⟨own, piece, made⟩ := ElseIf.AllMade.made_of_walkAll further clause
      exact ⟨own, piece.trans (Line.clauses_infix ..), made⟩
    · obtain ⟨own, piece, made⟩ := Statement.EndMade.made_of_walkOption ends last
      exact ⟨own, piece.trans (Line.ending_infix ..), made⟩
  | _, _, .defineLong opens raw closes, member => by
    simp only [Statement.walk, Statement.walkBelow, List.mem_cons, List.mem_ite_nil_right,
      Parameter.statement_not_mem_walkOption, and_false, or_false,
      Node.statement.injEq] at member
    subst member
    exact ⟨_, List.infix_rfl, .defineLong opens raw closes⟩

theorem Statement.AllMade.made_of_walkAll : {statements : List Statement} → {lines : List Line} →
    Statement.AllMade statements lines → .statement found ∈ Statement.walkAll enters statements →
    ∃ own, own <:+: lines ∧ found.Made own
  | _, _, .nil, member => by simp only [Statement.walkAll, List.not_mem_nil] at member
  | _, _, @Statement.AllMade.behind statements statement _ _ earlier last, member => by
    rw [Statement.walkAll_append, List.mem_append] at member
    rcases member with before | behind
    · obtain ⟨own, piece, made⟩ := Statement.AllMade.made_of_walkAll earlier before
      exact ⟨own, piece.trans (List.prefix_append ..).isInfix, made⟩
    · have walked : Statement.walkAll enters [statement] = statement.walk enters := by
        simp only [Statement.walkAll, Statement.walk, List.append_nil]
      rw [walked] at behind
      obtain ⟨own, piece, made⟩ := Statement.Made.made_of_walk last behind
      exact ⟨own, piece.trans (List.suffix_append ..).isInfix, made⟩

theorem ElseIf.AllMade.made_of_walkAll : {clauses : List ElseIf} → {lines : List Line} →
    {first behind : Nat} → ElseIf.AllMade clauses lines first behind →
    .statement found ∈ ElseIf.walkAll enters clauses → ∃ own, own <:+: lines ∧ found.Made own
  | _, _, _, _, .nil _, member => by simp only [ElseIf.walkAll, List.not_mem_nil] at member
  | _, _, _, _, .behind earlier _ _ inside _, member => by
    simp only [ElseIf.walkAll_append, ElseIf.walkAll, ElseIf.walk, List.append_nil,
      List.mem_append, Expression.statement_not_mem_walk, false_or] at member
    rcases member with before | below
    · obtain ⟨own, piece, made⟩ := ElseIf.AllMade.made_of_walkAll earlier before
      exact ⟨own, piece.trans (List.prefix_append ..).isInfix, made⟩
    · obtain ⟨own, piece, made⟩ := Statement.AllMade.made_of_walkAll inside below
      exact ⟨own, piece.trans (Line.behind_infix ..), made⟩

theorem Statement.EndMade.made_of_walkOption : {alternate : Option (List Statement)} →
    {lines : List Line} → {start stop : Nat} → Statement.EndMade alternate lines start stop →
    .statement found ∈ Statement.walkOption enters alternate →
    ∃ own, own <:+: lines ∧ found.Made own
  | _, _, _, _, .plain _ _, member => by
    simp only [Statement.walkOption, List.not_mem_nil] at member
  | _, _, _, _, .alternate _ _ inside _ _, member => by
    simp only [Statement.walkOption] at member
    obtain ⟨own, piece, made⟩ := Statement.AllMade.made_of_walkAll inside member
    exact ⟨own, piece.trans (Line.inner_infix ..), made⟩

end

end Made

/-! ## The lines behind a body -/

/-- The sequences of statements directly inside a statement: the body of a callable or of a loop,
and every arm of a branch. -/
def Statement.bodies : Statement → List (List Statement)
  | .callable _ _ _ _ body _ => [body]
  | .branch _ _ consequent elseIfs alternate _ =>
    consequent :: (elseIfs.map ElseIf.body ++ alternate.toList)
  | .loop _ body _ => [body]
  | _ => []

section Below

variable {enters : Node → Bool} {found statement : Statement}

theorem ElseIf.exists_of_mem_walkAll {clauses : List ElseIf}
    (member : .statement found ∈ ElseIf.walkAll enters clauses) :
    ∃ clause ∈ clauses, .statement found ∈ Statement.walkAll enters clause.body := by
  induction clauses with
  | nil => cases member
  | cons clause rest ih =>
    rw [ElseIf.walkAll, List.mem_append] at member
    rcases member with here | later
    · cases clause with
      | mk condition body span =>
        rw [ElseIf.walk, List.mem_append] at here
        exact ⟨_, List.mem_cons_self, here.resolve_left condition.statement_not_mem_walk⟩
    · obtain ⟨other, listed, member⟩ := ih later
      exact ⟨other, List.mem_cons_of_mem clause listed, member⟩

/-- What a walk meets below a statement stands in one of its bodies. -/
theorem Statement.exists_body_of_mem_walkBelow
    (member : .statement found ∈ statement.walkBelow enters) :
    ∃ body ∈ statement.bodies, .statement found ∈ Statement.walkAll enters body := by
  cases statement with
  | callable kind unquoted name parameters body span =>
    rw [walkBelow, List.mem_append] at member
    exact ⟨body, List.mem_singleton_self body,
      member.resolve_left (Parameter.statement_not_mem_walkAll parameters)⟩
  | loop condition body span =>
    rw [walkBelow, List.mem_append] at member
    exact ⟨body, List.mem_singleton_self body,
      member.resolve_left condition.statement_not_mem_walk⟩
  | branch kind condition consequent elseIfs alternate span =>
    simp only [walkBelow, List.mem_append, condition.statement_not_mem_walk, false_or] at member
    rcases member with (first | clause) | last
    · exact ⟨consequent, List.mem_cons_self, first⟩
    · obtain ⟨clause, listed, member⟩ := ElseIf.exists_of_mem_walkAll clause
      have among : clause.body ∈ elseIfs.map ElseIf.body ++ alternate.toList :=
        List.mem_append_left _ (List.mem_map_of_mem listed)
      exact ⟨clause.body, List.mem_cons_of_mem consequent among, member⟩
    · cases alternate with
      | none => cases last
      | some body =>
        have among := List.mem_append_right (elseIfs.map ElseIf.body) (List.mem_singleton_self body)
        exact ⟨body, List.mem_cons_of_mem consequent among, last⟩
  | defineLong name parameters body span =>
    exact absurd member (Parameter.statement_not_mem_walkOption parameters)
  | _ => exact absurd member (statement_not_mem_walkBelow rfl)

/-- What a walk meets in a body is one of its statements, or stands in a body of one of them. -/
theorem Statement.exists_of_mem_walkAll {statements : List Statement}
    (member : .statement found ∈ Statement.walkAll enters statements) :
    ∃ statement ∈ statements, found = statement ∨
      ∃ body ∈ statement.bodies, .statement found ∈ Statement.walkAll enters body := by
  induction statements with
  | nil => cases member
  | cons first rest ih =>
    simp only [walkAll, List.mem_cons, List.mem_append, List.mem_ite_nil_right,
      Node.statement.injEq] at member
    rcases member with same | ⟨-, below⟩ | later
    · exact ⟨first, List.mem_cons_self, .inl same⟩
    · exact ⟨first, List.mem_cons_self, .inr (exists_body_of_mem_walkBelow below)⟩
    · obtain ⟨statement, listed, member⟩ := ih later
      exact ⟨statement, List.mem_cons_of_mem first listed, member⟩

end Below

theorem ElseIf.AllMade.allMade_of_mem {clauses : List ElseIf} {lines : List Line}
    {first behind : Nat} (made : ElseIf.AllMade clauses lines first behind) {clause : ElseIf}
    (member : clause ∈ clauses) :
    ∃ inner, inner <:+: lines ∧ Statement.AllMade clause.body inner :=
  match made with
  | .nil _ => (List.not_mem_nil member).elim
  | .behind earlier _ _ inside _ => by
    rcases List.mem_append.mp member with before | last
    · obtain ⟨inner, piece, made⟩ := earlier.allMade_of_mem before
      exact ⟨inner, piece.trans (List.prefix_append ..).isInfix, made⟩
    · cases List.mem_singleton.mp last
      exact ⟨_, Line.behind_infix .., inside⟩

/-- A body in a statement is made of lines that follow one another in the lines of the statement. -/
theorem Statement.Made.allMade_of_mem_bodies {statement : Statement} {lines : List Line}
    (made : statement.Made lines) {body : List Statement} (member : body ∈ statement.bodies) :
    ∃ inner, inner <:+: lines ∧ Statement.AllMade body inner := by
  cases made with
  | line told =>
    have single := told.isBlock
    cases statement with
    | callable | branch | loop => cases single
    | declaration | inlineFunction | define | defineLong | inclusion | result | call | unknown
      | text => cases member
  | callable opens inside turns closes =>
    cases List.mem_singleton.mp member
    exact ⟨_, Line.inner_infix .., inside⟩
  | loop opens inside turns closes =>
    cases List.mem_singleton.mp member
    exact ⟨_, Line.inner_infix .., inside⟩
  | branch opens inside further ends =>
    simp only [Statement.bodies, List.mem_cons, List.mem_append, List.mem_map,
      Option.mem_toList] at member
    rcases member with rfl | ⟨clause, listed, rfl⟩ | last
    · exact ⟨_, Line.inner_infix .., inside⟩
    · obtain ⟨inner, piece, made⟩ := further.allMade_of_mem listed
      exact ⟨inner, piece.trans (Line.clauses_infix ..), made⟩
    · cases ends with
      | plain turns closes => cases last
      | alternate goesOn other inside turns closes =>
        cases last
        exact ⟨_, (Line.inner_infix ..).trans (Line.ending_infix ..), inside⟩
  | defineLong opens raw closes => cases member

end DiagramAssist
