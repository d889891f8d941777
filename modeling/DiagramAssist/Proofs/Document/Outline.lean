import DiagramAssist.Document.Walk
import DiagramAssist.Proofs.Document.Shift
import DiagramAssist.Proofs.Reader.Passage

/-! # Outlines

The outline of a document is its tree with everything forgotten but the spans, the texts that nodes
record and the order of what stands below a node. Names, operators and recorded texts are nodes of
their own there. An outline covers a text (`Outline.Covers`) when its root spans the text exactly,
the text is one that the root can have recorded, and what is below the root covers pieces of the
text that follow one another (`Outline.InTurn`). Every node of an outline that covers a text covers
a piece of it (`Covers.node`), so bounds, nesting and the order of siblings hold at every node.
-/

namespace DiagramAssist

/-- What a node records of the text it stands for. -/
inductive Part where
  /-- Nothing. -/
  | construct
  /-- The text as it is written. -/
  | verbatim (text : String)
  /-- A bare name or a variable, as it is written. -/
  | name (name : String)
  | operator (operator : Operator)
  /-- What stands between the quotes. -/
  | quoted (value : String)
  /-- The shape of the right operand. -/
  | operation (right : NodeKind)

/-- Whether a part can have been recorded off a text. -/
def Part.Spelled : Part → List Char → Prop
  | .construct, _ => True
  | .verbatim recorded, text => recorded.toList = text
  | .name recorded, text => recorded.toList = text ∧ Reader.isName text = true
  | .operator recorded, text => recorded.spelling.toList = text
  | .quoted value, text => ∃ quote, (quote = '"' ∨ quote = '\'') ∧
      text = quote :: (value.toList ++ [quote]) ∧
      ∀ c ∈ value.toList, c ≠ quote ∧ c ≠ '\n' ∧ c ≠ '\r'
  | .operation right, _ => right ≠ .binary

/-- A tree of spans. -/
inductive Outline where
  | mk (part : Part) (span : Span) (parts : List Outline)

namespace Outline

def span : Outline → Span
  | .mk _ span _ => span

/-- What is directly below the root, in order. -/
def parts : Outline → List Outline
  | .mk _ _ parts => parts

mutual

/-- The outline and everything below it, as outlines of their own. -/
def nodes : Outline → List Outline
  | .mk part span parts => .mk part span parts :: nodesAll parts

def nodesAll : List Outline → List Outline
  | [] => []
  | outline :: rest => outline.nodes ++ nodesAll rest

end

mutual

def shift (distance : Nat) : Outline → Outline
  | .mk part span parts => .mk part (span.shift distance) (shiftAll distance parts)

def shiftAll (distance : Nat) : List Outline → List Outline
  | [] => []
  | outline :: rest => outline.shift distance :: shiftAll distance rest

end

mutual

/-- The outline covers a text that starts at `start`. -/
def Covers : (outline : Outline) → (start : Nat) → (text : List Char) → Prop
  | .mk part span parts, start, text =>
    part.Spelled text ∧ span = .between start (start + Text.byteLength text) ∧
      InTurn parts start text

/-- The outlines cover pieces of a text that starts at `start`, one behind the other. -/
def InTurn : (outlines : List Outline) → (start : Nat) → (text : List Char) → Prop
  | [], _, _ => True
  | outline :: rest, start, text => ∃ before own after, text = before ++ (own ++ after) ∧
      outline.Covers (start + Text.byteLength before) own ∧
      InTurn rest (start + Text.byteLength before + Text.byteLength own) after

end

section Composition

variable {outline : Outline} {outlines others : List Outline} {start : Nat}
  {text own before after : List Char}

theorem inTurn_nil : InTurn [] start text := by
  simp only [InTurn]

theorem InTurn.skip (inTurn : InTurn outlines (start + Text.byteLength before) text) :
    InTurn outlines start (before ++ text) := by
  cases outlines with
  | nil => exact inTurn_nil
  | cons outline rest =>
    simp only [InTurn] at inTurn ⊢
    obtain ⟨lead, own, after, rfl, covers, behind⟩ := inTurn
    refine ⟨before ++ lead, own, after, by rw [List.append_assoc], ?_, ?_⟩
    · rwa [Text.byteLength_append, ← Nat.add_assoc]
    · rwa [Text.byteLength_append, ← Nat.add_assoc]

theorem InTurn.append (first : InTurn outlines start text)
    (second : InTurn others (start + Text.byteLength text) after) :
    InTurn (outlines ++ others) start (text ++ after) := by
  induction outlines generalizing start text with
  | nil => exact second.skip
  | cons outline rest ih =>
    simp only [List.cons_append, InTurn] at first ⊢
    obtain ⟨lead, own, tail, rfl, covers, behind⟩ := first
    refine ⟨lead, own, tail ++ after, by simp only [List.append_assoc], covers, ih behind ?_⟩
    simpa only [Text.byteLength_append, Nat.add_assoc] using second

theorem InTurn.extend (inTurn : InTurn outlines start text) (after : List Char) :
    InTurn outlines start (text ++ after) := by
  have both : InTurn (outlines ++ []) start (text ++ after) := inTurn.append inTurn_nil
  rwa [List.append_nil] at both

theorem Covers.inTurn (covers : outline.Covers start text) : InTurn [outline] start text := by
  simp only [InTurn, and_true]
  exact ⟨[], text, [], by simp only [List.nil_append, List.append_nil], covers⟩

theorem Covers.span_eq (covers : outline.Covers start text) :
    outline.span = .between start (start + Text.byteLength text) := by
  rcases outline with ⟨part, span, parts⟩
  simp only [Covers] at covers
  exact covers.2.1

end Composition

mutual

theorem Covers.shift (distance : Nat) : {outline : Outline} → {start : Nat} → {text : List Char} →
    outline.Covers start text → (outline.shift distance).Covers (start + distance) text
  | .mk part span parts, start, text, covers => by
    simp only [Covers, Outline.shift] at covers ⊢
    obtain ⟨spelled, rfl, inTurn⟩ := covers
    refine ⟨spelled, ?_, InTurn.shiftAll distance inTurn⟩
    rw [Span.shift_between, Nat.add_right_comm]

theorem InTurn.shiftAll (distance : Nat) : {outlines : List Outline} → {start : Nat} →
    {text : List Char} → InTurn outlines start text →
    InTurn (Outline.shiftAll distance outlines) (start + distance) text
  | [], _, _, _ => inTurn_nil
  | outline :: rest, start, text, inTurn => by
    simp only [InTurn, Outline.shiftAll] at inTurn ⊢
    obtain ⟨before, own, after, rfl, covers, behind⟩ := inTurn
    refine ⟨before, own, after, rfl, ?_, ?_⟩
    · rw [Nat.add_right_comm]
      exact Covers.shift distance covers
    · rw [Nat.add_right_comm start, Nat.add_right_comm]
      exact InTurn.shiftAll distance behind

end

/-- Outlines are moved one by one. -/
theorem shiftAll_eq_map (distance : Nat) (outlines : List Outline) :
    shiftAll distance outlines = outlines.map (·.shift distance) := by
  induction outlines with
  | nil => rfl
  | cons outline rest ih => simp only [shiftAll, List.map_cons, ih]

theorem shiftAll_append (distance : Nat) (first second : List Outline) :
    shiftAll distance (first ++ second) = shiftAll distance first ++ shiftAll distance second := by
  simp only [shiftAll_eq_map, List.map_append]

theorem nodesAll_eq_flatMap (outlines : List Outline) :
    nodesAll outlines = outlines.flatMap nodes := by
  induction outlines with
  | nil => rfl
  | cons outline rest ih => simp only [nodesAll, List.flatMap_cons, ih]

theorem nodesAll_append (first second : List Outline) :
    nodesAll (first ++ second) = nodesAll first ++ nodesAll second := by
  simp only [nodesAll_eq_flatMap, List.flatMap_append]

theorem self_mem_nodes (outline : Outline) : outline ∈ outline.nodes := by
  rcases outline with ⟨part, span, parts⟩
  exact List.mem_cons_self

mutual

/-- Every node of an outline that covers a text covers a piece of it. -/
theorem Covers.node : {outline : Outline} → {start : Nat} → {text : List Char} →
    outline.Covers start text → {node : Outline} → node ∈ outline.nodes →
    ∃ before own after, text = before ++ (own ++ after) ∧
      node.Covers (start + Text.byteLength before) own
  | .mk part span parts, start, text, covers, node, member => by
    simp only [nodes, List.mem_cons] at member
    rcases member with rfl | below
    · exact ⟨[], text, [], by simp only [List.nil_append, List.append_nil], covers⟩
    · simp only [Covers] at covers
      exact InTurn.node covers.2.2 below

theorem InTurn.node : {outlines : List Outline} → {start : Nat} → {text : List Char} →
    InTurn outlines start text → {node : Outline} → node ∈ nodesAll outlines →
    ∃ before own after, text = before ++ (own ++ after) ∧
      node.Covers (start + Text.byteLength before) own
  | [], _, _, _, _, member => by simp only [nodesAll, List.not_mem_nil] at member
  | outline :: rest, start, text, inTurn, node, member => by
    simp only [InTurn] at inTurn
    obtain ⟨before, own, after, rfl, covers, behind⟩ := inTurn
    simp only [nodesAll, List.mem_append] at member
    rcases member with first | later
    · obtain ⟨lead, piece, tail, rfl, found⟩ := Covers.node covers first
      refine ⟨before ++ lead, piece, tail ++ after, by simp only [List.append_assoc], ?_⟩
      rwa [Text.byteLength_append, ← Nat.add_assoc]
    · obtain ⟨lead, piece, tail, rfl, found⟩ := InTurn.node behind later
      refine ⟨before ++ (own ++ lead), piece, tail, by simp only [List.append_assoc], ?_⟩
      simpa only [Text.byteLength_append, Nat.add_assoc] using found

end

/-- Each of several outlines in turn covers some text. -/
theorem InTurn.covers {outlines : List Outline} {start : Nat} {text : List Char}
    (inTurn : InTurn outlines start text) {outline : Outline} (member : outline ∈ outlines) :
    ∃ place own, outline.Covers place own := by
  have listed : outline ∈ nodesAll outlines := by
    rw [nodesAll_eq_flatMap]
    exact List.mem_flatMap.mpr ⟨outline, member, self_mem_nodes outline⟩
  obtain ⟨before, own, after, -, covers⟩ := inTurn.node listed
  exact ⟨_, own, covers⟩

/-- Outlines that cover pieces of a text stay inside it. -/
theorem InTurn.inside {outlines : List Outline} {start : Nat} {text : List Char}
    (inTurn : InTurn outlines start text) :
    ∀ outline ∈ outlines, start ≤ outline.span.start ∧
      outline.span.stop ≤ start + Text.byteLength text := by
  induction outlines generalizing start text with
  | nil => simp only [List.not_mem_nil, false_implies, implies_true]
  | cons head rest ih =>
    simp only [InTurn] at inTurn
    obtain ⟨before, own, after, rfl, covers, behind⟩ := inTurn
    intro outline member
    simp only [Text.byteLength_append]
    rcases List.mem_cons.mp member with rfl | later
    · rw [covers.span_eq, Span.start_between_of_le (Nat.le_add_right ..),
        Span.stop_between_of_le (Nat.le_add_right ..)]
      omega
    · have inside := ih behind outline later
      omega

/-- Of two outlines that cover pieces of a text in turn, the earlier ends before the later starts.
-/
theorem InTurn.pairwise {outlines : List Outline} {start : Nat} {text : List Char}
    (inTurn : InTurn outlines start text) :
    outlines.Pairwise fun earlier later => earlier.span.stop ≤ later.span.start := by
  induction outlines generalizing start text with
  | nil => exact .nil
  | cons head rest ih =>
    simp only [InTurn] at inTurn
    obtain ⟨before, own, after, rfl, covers, behind⟩ := inTurn
    refine .cons ?_ (ih behind)
    intro later member
    rw [covers.span_eq, Span.stop_between_of_le (Nat.le_add_right ..)]
    exact (behind.inside later member).1

section Nesting

variable {outline node first second : Outline} {outlines : List Outline} {start : Nat}
  {text : List Char}

/-- Whatever is below outlines that cover pieces of a text stays inside the text. -/
theorem InTurn.inside_node (inTurn : InTurn outlines start text)
    (member : node ∈ nodesAll outlines) :
    start ≤ node.span.start ∧ node.span.stop ≤ start + Text.byteLength text := by
  obtain ⟨before, own, after, rfl, covers⟩ := inTurn.node member
  rw [covers.span_eq, Span.start_between_of_le (Nat.le_add_right ..),
    Span.stop_between_of_le (Nat.le_add_right ..)]
  simp only [Text.byteLength_append]
  omega

theorem Covers.inside_node (covers : outline.Covers start text) (member : node ∈ outline.nodes) :
    start ≤ node.span.start ∧ node.span.stop ≤ start + Text.byteLength text :=
  covers.inTurn.inside_node (by simpa only [nodesAll, List.append_nil] using member)

mutual

/-- Of two nodes of an outline that covers a text, one is below the other, or they are apart. -/
theorem Covers.nested : {outline : Outline} → {start : Nat} → {text : List Char} →
    outline.Covers start text → first ∈ outline.nodes → second ∈ outline.nodes →
    first ∈ second.nodes ∨ second ∈ first.nodes ∨
      first.span.stop ≤ second.span.start ∨ second.span.stop ≤ first.span.start
  | .mk part span parts, start, text, covers, member, other => by
    have inTurn : InTurn parts start text := by
      simp only [Covers] at covers
      exact covers.2.2
    rcases List.mem_cons.mp member with rfl | below
    · exact .inr (.inl other)
    · rcases List.mem_cons.mp other with rfl | beside
      · exact .inl member
      · exact InTurn.nested inTurn below beside

theorem InTurn.nested : {outlines : List Outline} → {start : Nat} → {text : List Char} →
    InTurn outlines start text → first ∈ nodesAll outlines → second ∈ nodesAll outlines →
    first ∈ second.nodes ∨ second ∈ first.nodes ∨
      first.span.stop ≤ second.span.start ∨ second.span.stop ≤ first.span.start
  | [], _, _, _, member, _ => by simp only [nodesAll, List.not_mem_nil] at member
  | outline :: rest, start, text, inTurn, member, other => by
    simp only [InTurn] at inTurn
    obtain ⟨before, own, after, rfl, covers, behind⟩ := inTurn
    simp only [nodesAll, List.mem_append] at member other
    rcases member with head | later <;> rcases other with head' | later'
    · exact Covers.nested covers head head'
    · exact .inr (.inr (.inl
        (Nat.le_trans (covers.inside_node head).2 (behind.inside_node later').1)))
    · exact .inr (.inr (.inr
        (Nat.le_trans (covers.inside_node head').2 (behind.inside_node later).1)))
    · exact InTurn.nested behind later later'

end

end Nesting

end Outline

section Passages

open Outline

variable {cursor later : Cursor} {outline : Outline} {outlines others : List Outline}
  {taken text : List Char}

theorem Cursor.Passes.skip (passes : cursor.Passes taken later)
    (behind : InTurn outlines later.column text) : InTurn outlines cursor.column (taken ++ text) :=
  InTurn.skip (passes.column ▸ behind)

theorem Cursor.Passes.turn (passes : cursor.Passes taken later)
    (inTurn : InTurn outlines cursor.column taken) (behind : InTurn others later.column text) :
    InTurn (outlines ++ others) cursor.column (taken ++ text) :=
  inTurn.append (passes.column ▸ behind)

theorem Cursor.Passes.cover (passes : cursor.Passes taken later)
    (covers : outline.Covers cursor.column taken) (behind : InTurn outlines later.column text) :
    InTurn (outline :: outlines) cursor.column (taken ++ text) :=
  passes.turn covers.inTurn behind

/-- A node that spans what has been passed. -/
theorem Cursor.Passes.covers {part : Part} (passes : cursor.Passes taken later)
    (spelled : part.Spelled taken) (inTurn : InTurn outlines cursor.column taken) :
    (Outline.mk part (.between cursor.column later.column) outlines).Covers cursor.column
      taken := by
  simp only [Covers]
  exact ⟨spelled, by rw [passes.column], inTurn⟩

end Passages

/-! ## The outlines of a tree -/

namespace Located

def nameOutline (name : Located String) : Outline :=
  .mk (.name name.value) name.span []

/-- The outline of a text that is kept as it is written. -/
def textOutline (text : Located String) : Outline :=
  .mk (.verbatim text.value) text.span []

def operatorOutline (operator : Located Operator) : Outline :=
  .mk (.operator operator.value) operator.span []

theorem covers_nameOutline {name : List Char} (named : Reader.isName name = true) (start : Nat) :
    (Reader.located name start).nameOutline.Covers start name := by
  simp only [nameOutline, Outline.Covers, Reader.located, Part.Spelled, String.toList_ofList,
    Outline.InTurn, named, and_self]

theorem covers_textOutline (text : List Char) (start : Nat) :
    (Reader.located text start).textOutline.Covers start text := by
  simp only [textOutline, Outline.Covers, Reader.located, Part.Spelled, String.toList_ofList,
    Outline.InTurn, and_self]

@[simp] theorem nameOutline_shift (distance : Nat) (name : Located String) :
    (name.shift distance).nameOutline = name.nameOutline.shift distance := rfl

@[simp] theorem textOutline_shift (distance : Nat) (text : Located String) :
    (text.shift distance).textOutline = text.textOutline.shift distance := rfl

@[simp] theorem operatorOutline_shift (distance : Nat) (operator : Located Operator) :
    (operator.shift distance).operatorOutline = operator.operatorOutline.shift distance := rfl

end Located

mutual

def Expression.outline : Expression → Outline
  | .binary left operator right span =>
    .mk (.operation right.kind) span [left.outline, operator.operatorOutline, right.outline]
  | .parenthesized inner span => .mk .construct span [inner.outline]
  | .call _ callee arguments span =>
    .mk .construct span (callee.nameOutline :: Argument.outlines arguments)
  | .string value span => .mk (.quoted value) span []
  | .number _ span => .mk .construct span []
  | .identifier name span => .mk (.name name) span []

def Argument.outline : Argument → Outline
  | .mk name value span =>
    .mk .construct span (name.toList.map Located.nameOutline ++ [value.outline])

def Argument.outlines : List Argument → List Outline
  | [] => []
  | argument :: rest => argument.outline :: Argument.outlines rest

end

def Parameter.outline (parameter : Parameter) : Outline :=
  .mk .construct parameter.span
    (parameter.name.nameOutline :: parameter.default.toList.map Expression.outline)

def Parameter.outlines (parameters : List Parameter) : List Outline :=
  parameters.map Parameter.outline

def Parameter.outlinesOption (parameters : Option (List Parameter)) : List Outline :=
  Parameter.outlines (parameters.getD [])

def Include.outline (content : Include) : Outline :=
  .mk .construct content.span
    (content.target.textOutline :: content.part.toList.map Located.textOutline)

mutual

def Statement.outline : Statement → Outline
  | .declaration name initializer _ _ span =>
    .mk .construct span [name.nameOutline, initializer.outline]
  | .callable _ _ name parameters body span =>
    .mk .construct span
      ((name.nameOutline :: Parameter.outlines parameters) ++ Statement.outlines body)
  | .inlineFunction _ name parameters value span =>
    .mk .construct span
      (name.nameOutline :: (Parameter.outlines parameters ++ [value.outline]))
  | .define name parameters value span =>
    .mk .construct span
      (name.nameOutline ::
        (Parameter.outlinesOption parameters ++ value.toList.map Located.textOutline))
  | .defineLong name parameters body span =>
    .mk .construct span
      ((name.nameOutline :: Parameter.outlinesOption parameters) ++ [body.textOutline])
  | .inclusion content => content.outline
  | .branch _ condition consequent elseIfs alternate span =>
    .mk .construct span
      ([condition.outline] ++ (Statement.outlines consequent ++
        (ElseIf.outlines elseIfs ++ Statement.outlinesOption alternate)))
  | .loop condition body span =>
    .mk .construct span ([condition.outline] ++ Statement.outlines body)
  | .result value span => .mk .construct span [value.outline]
  | .call expression span => .mk .construct span [expression.outline]
  | .unknown directive text span => .mk (.verbatim text) span [directive.textOutline]
  | .text text span => .mk (.verbatim text) span []

def ElseIf.outline : ElseIf → Outline
  | .mk condition body span =>
    .mk .construct span ([condition.outline] ++ Statement.outlines body)

def Statement.outlines : List Statement → List Outline
  | [] => []
  | statement :: rest => statement.outline :: Statement.outlines rest

def ElseIf.outlines : List ElseIf → List Outline
  | [] => []
  | clause :: rest => clause.outline :: ElseIf.outlines rest

def Statement.outlinesOption : Option (List Statement) → List Outline
  | none => []
  | some body => Statement.outlines body

end

def Root.outline (root : Root) : Outline :=
  .mk .construct root.span (Statement.outlines root.statements)

/-- Arguments are outlined one by one. -/
theorem Argument.outlines_eq_map (arguments : List Argument) :
    Argument.outlines arguments = arguments.map Argument.outline := by
  induction arguments with
  | nil => rfl
  | cons argument rest ih => simp only [Argument.outlines, List.map_cons, ih]

/-- Bodies are outlined statement by statement. -/
theorem Statement.outlines_eq_map (statements : List Statement) :
    Statement.outlines statements = statements.map Statement.outline := by
  induction statements with
  | nil => rfl
  | cons statement rest ih => simp only [Statement.outlines, List.map_cons, ih]

/-- Clauses are outlined one by one. -/
theorem ElseIf.outlines_eq_map (clauses : List ElseIf) :
    ElseIf.outlines clauses = clauses.map ElseIf.outline := by
  induction clauses with
  | nil => rfl
  | cons clause rest ih => simp only [ElseIf.outlines, List.map_cons, ih]

/-- The root of an expression's outline spans what the expression spans. -/
@[simp] theorem Expression.span_outline (expression : Expression) :
    expression.outline.span = expression.span := by
  cases expression <;> simp only [Expression.outline, Outline.span, Expression.span]

@[simp] theorem Expression.kind_shift (distance : Nat) (expression : Expression) :
    (expression.shift distance).kind = expression.kind := by
  cases expression <;> simp only [Expression.shift, Expression.kind]

mutual

@[simp] theorem Expression.outline_shift (distance : Nat) : (expression : Expression) →
    (expression.shift distance).outline = expression.outline.shift distance
  | .binary left operator right span => by
    simp only [Expression.shift, Expression.outline, Outline.shift, Outline.shiftAll,
      Expression.kind_shift, Located.operatorOutline_shift, Expression.outline_shift distance left,
      Expression.outline_shift distance right]
  | .parenthesized inner span => by
    simp only [Expression.shift, Expression.outline, Outline.shift, Outline.shiftAll,
      Expression.outline_shift distance inner]
  | .call builtin callee arguments span => by
    simp only [Expression.shift, Expression.outline, Outline.shift, Outline.shiftAll,
      Located.nameOutline_shift, Argument.outlines_shiftAll distance arguments]
  | .string value span => by
    simp only [Expression.shift, Expression.outline, Outline.shift, Outline.shiftAll]
  | .number value span => by
    simp only [Expression.shift, Expression.outline, Outline.shift, Outline.shiftAll]
  | .identifier name span => by
    simp only [Expression.shift, Expression.outline, Outline.shift, Outline.shiftAll]

theorem Argument.outline_shift (distance : Nat) : (argument : Argument) →
    (argument.shift distance).outline = argument.outline.shift distance
  | .mk name value span => by
    cases name <;>
      simp only [Argument.shift, Argument.outline, Outline.shift, Outline.shiftAll,
        Option.map_some, Option.map_none, Option.toList_some, Option.toList_none, List.map_cons,
        List.map_nil, List.cons_append, List.nil_append, Located.nameOutline_shift,
        Expression.outline_shift distance value]

theorem Argument.outlines_shiftAll (distance : Nat) : (arguments : List Argument) →
    Argument.outlines (Argument.shiftAll distance arguments) =
      Outline.shiftAll distance (Argument.outlines arguments)
  | [] => rfl
  | argument :: rest => by
    simp only [Argument.shiftAll, Argument.outlines, Outline.shiftAll,
      Argument.outline_shift distance argument, Argument.outlines_shiftAll distance rest]

end

namespace Parameter

@[simp] theorem outline_shift (distance : Nat) (parameter : Parameter) :
    (parameter.shift distance).outline = parameter.outline.shift distance := by
  rcases parameter with ⟨name, default, span⟩
  cases default <;>
    simp only [shift, outline, Outline.shift, Outline.shiftAll, Option.map_some, Option.map_none,
      Option.toList_some, Option.toList_none, List.map_cons, List.map_nil,
      Located.nameOutline_shift, Expression.outline_shift]

@[simp] theorem outlines_shift (distance : Nat) (parameters : List Parameter) :
    outlines (parameters.map (·.shift distance)) =
      Outline.shiftAll distance (outlines parameters) := by
  simp only [outlines, Outline.shiftAll_eq_map, List.map_map, Function.comp_def, outline_shift]

@[simp] theorem outlinesOption_shift (distance : Nat) (parameters : Option (List Parameter)) :
    outlinesOption (parameters.map (·.map (·.shift distance))) =
      Outline.shiftAll distance (outlinesOption parameters) := by
  cases parameters with
  | none => rfl
  | some parameters => exact outlines_shift distance parameters

end Parameter

@[simp] theorem Include.outline_shift (distance : Nat) (content : Include) :
    (content.shift distance).outline = content.outline.shift distance := by
  rcases content with ⟨directive, target, kind, part, span⟩
  cases part <;> rfl

mutual

@[simp] theorem Statement.outline_shift (distance : Nat) : (statement : Statement) →
    (statement.shift distance).outline = statement.outline.shift distance
  | .declaration name initializer scope conditional span => by
    simp only [Statement.shift, Statement.outline, Outline.shift, Outline.shiftAll,
      Located.nameOutline_shift, Expression.outline_shift]
  | .callable kind unquoted name parameters body span => by
    simp only [Statement.shift, Statement.outline, Outline.shift, Outline.shiftAll,
      Outline.shiftAll_append, Located.nameOutline_shift, Parameter.outlines_shift,
      Statement.outlines_shiftAll distance body]
  | .inlineFunction unquoted name parameters value span => by
    simp only [Statement.shift, Statement.outline, Outline.shift, Outline.shiftAll,
      Outline.shiftAll_append, Located.nameOutline_shift, Parameter.outlines_shift,
      Expression.outline_shift]
  | .define name parameters value span => by
    cases value <;>
      simp only [Statement.shift, Statement.outline, Outline.shift, Outline.shiftAll,
        Outline.shiftAll_append, Located.nameOutline_shift, Parameter.outlinesOption_shift,
        Option.map_some, Option.map_none, Option.toList_some, Option.toList_none, List.map_cons,
        List.map_nil, Located.textOutline_shift]
  | .defineLong name parameters body span => by
    simp only [Statement.shift, Statement.outline, Outline.shift, Outline.shiftAll,
      Outline.shiftAll_append, Located.nameOutline_shift, Parameter.outlinesOption_shift,
      Located.textOutline_shift]
  | .inclusion content => by
    simp only [Statement.shift, Statement.outline, Include.outline_shift]
  | .branch kind condition consequent elseIfs alternate span => by
    simp only [Statement.shift, Statement.outline, Outline.shift, Outline.shiftAll,
      Outline.shiftAll_append, Expression.outline_shift,
      Statement.outlines_shiftAll distance consequent, ElseIf.outlines_shiftAll distance elseIfs,
      Statement.outlinesOption_shiftOption distance alternate]
  | .loop condition body span => by
    simp only [Statement.shift, Statement.outline, Outline.shift, Outline.shiftAll,
      Outline.shiftAll_append, Expression.outline_shift, Statement.outlines_shiftAll distance body]
  | .result value span => by
    simp only [Statement.shift, Statement.outline, Outline.shift, Outline.shiftAll,
      Expression.outline_shift]
  | .call expression span => by
    simp only [Statement.shift, Statement.outline, Outline.shift, Outline.shiftAll,
      Expression.outline_shift]
  | .unknown directive text span => by
    simp only [Statement.shift, Statement.outline, Outline.shift, Outline.shiftAll,
      Located.textOutline_shift]
  | .text text span => by
    simp only [Statement.shift, Statement.outline, Outline.shift, Outline.shiftAll]

theorem ElseIf.outline_shift (distance : Nat) : (clause : ElseIf) →
    (clause.shift distance).outline = clause.outline.shift distance
  | .mk condition body span => by
    simp only [ElseIf.shift, ElseIf.outline, Outline.shift, Outline.shiftAll,
      Outline.shiftAll_append, Expression.outline_shift, Statement.outlines_shiftAll distance body]

theorem Statement.outlines_shiftAll (distance : Nat) : (statements : List Statement) →
    Statement.outlines (Statement.shiftAll distance statements) =
      Outline.shiftAll distance (Statement.outlines statements)
  | [] => rfl
  | statement :: rest => by
    simp only [Statement.shiftAll, Statement.outlines, Outline.shiftAll,
      Statement.outline_shift distance statement, Statement.outlines_shiftAll distance rest]

theorem ElseIf.outlines_shiftAll (distance : Nat) : (clauses : List ElseIf) →
    ElseIf.outlines (ElseIf.shiftAll distance clauses) =
      Outline.shiftAll distance (ElseIf.outlines clauses)
  | [] => rfl
  | clause :: rest => by
    simp only [ElseIf.shiftAll, ElseIf.outlines, Outline.shiftAll,
      ElseIf.outline_shift distance clause, ElseIf.outlines_shiftAll distance rest]

theorem Statement.outlinesOption_shiftOption (distance : Nat) :
    (statements : Option (List Statement)) →
    Statement.outlinesOption (Statement.shiftOption distance statements) =
      Outline.shiftAll distance (Statement.outlinesOption statements)
  | none => rfl
  | some statements => by
    simp only [Statement.shiftOption, Statement.outlinesOption,
      Statement.outlines_shiftAll distance statements]

end

end DiagramAssist
