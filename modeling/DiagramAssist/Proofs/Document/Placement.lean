import DiagramAssist.Proofs.Document.Outline

/-! # Placing a tree in another text

When the same lines are written with other endings, every offset goes to another place, and later
offsets go to later places. A placement says where offsets go, and trees and reports are placed by
placing both ends of every span. Inside one line a placement only slides: what lies within a bound
and is first moved down to the line and then placed has just been moved further
(`Expression.place_shift`).
-/

namespace DiagramAssist

/-- Where the offsets of a text go in another text. -/
structure Placement where
  place : Nat → Nat
  ordered : ∀ {a b : Nat}, a < b → place a < place b

namespace Placement

variable (placement : Placement)

theorem le {a b : Nat} (before : a ≤ b) : placement.place a ≤ placement.place b := by
  rcases Nat.lt_or_eq_of_le before with before | rfl
  · exact Nat.le_of_lt (placement.ordered before)
  · exact Nat.le_refl _

theorem lt_iff {a b : Nat} : placement.place a < placement.place b ↔ a < b := by
  constructor
  · intro placed
    refine Nat.lt_of_not_le fun behind => ?_
    exact Nat.lt_irrefl _ (Nat.lt_of_lt_of_le placed (placement.le behind))
  · exact placement.ordered

/-- Offsets up to `bound` that are counted from `origin` go to the same offsets counted from
`target`. -/
def Slides (bound origin target : Nat) : Prop :=
  ∀ column ≤ bound, placement.place (column + origin) = column + target

end Placement

def Span.place (placement : Placement) (span : Span) : Span :=
  ⟨placement.place span.start, placement.place span.stop, placement.le span.ordered⟩

theorem Span.place_between (placement : Placement) (a b : Nat) :
    (Span.between a b).place placement = .between (placement.place a) (placement.place b) := by
  simp only [Span.place, Span.between, Span.mk.injEq]
  rcases Nat.le_total a b with before | before
  · have placed := placement.le before
    simp only [Nat.min_eq_left before, Nat.max_eq_right before, Nat.min_eq_left placed,
      Nat.max_eq_right placed, and_self]
  · have placed := placement.le before
    simp only [Nat.min_eq_right before, Nat.max_eq_left before, Nat.min_eq_right placed,
      Nat.max_eq_left placed, and_self]

def Located.place {α : Type} (placement : Placement) (located : Located α) : Located α :=
  { located with span := located.span.place placement }

mutual

def Expression.place (placement : Placement) : Expression → Expression
  | .binary left operator right span =>
    .binary (left.place placement) (operator.place placement) (right.place placement)
      (span.place placement)
  | .parenthesized inner span => .parenthesized (inner.place placement) (span.place placement)
  | .call builtin callee arguments span =>
    .call builtin (callee.place placement) (Argument.placeAll placement arguments)
      (span.place placement)
  | .string value span => .string value (span.place placement)
  | .number value span => .number value (span.place placement)
  | .identifier name span => .identifier name (span.place placement)

def Argument.place (placement : Placement) : Argument → Argument
  | .mk name value span =>
    .mk (name.map (·.place placement)) (value.place placement) (span.place placement)

def Argument.placeAll (placement : Placement) : List Argument → List Argument
  | [] => []
  | argument :: rest => argument.place placement :: Argument.placeAll placement rest

end

def Parameter.place (placement : Placement) (parameter : Parameter) : Parameter where
  name := parameter.name.place placement
  default := parameter.default.map (·.place placement)
  span := parameter.span.place placement

def Include.place (placement : Placement) (content : Include) : Include :=
  { content with
    target := content.target.place placement
    part := content.part.map (·.place placement)
    span := content.span.place placement }

def Label.place (placement : Placement) (label : Label) : Label :=
  { label with span := label.span.place placement }

/-- The diagnostic with every label placed; the fault, the message and the suggestion stay. -/
def Diagnostic.place (placement : Placement) (diagnostic : Diagnostic) : Diagnostic :=
  { diagnostic with labels := diagnostic.labels.map (·.place placement) }

def ParseError.place (placement : Placement) (error : ParseError) : ParseError :=
  ⟨error.diagnostics.map (·.place placement)⟩

/-! ## Inside a line -/

section Slide

variable {placement : Placement} {bound origin target : Nat}

theorem Span.place_shift (slides : placement.Slides bound origin target) {span : Span}
    (inside : span.stop ≤ bound) : (span.shift origin).place placement = span.shift target := by
  simp only [Span.place, Span.shift, Span.mk.injEq]
  exact ⟨slides _ (Nat.le_trans span.ordered inside), slides _ inside⟩

theorem Located.place_shift {α : Type} (slides : placement.Slides bound origin target)
    {located : Located α} (inside : located.span.stop ≤ bound) :
    (located.shift origin).place placement = located.shift target := by
  simp only [Located.place, Located.shift, Span.place_shift slides inside]

/-- Every span of the outline ends within the bound. -/
def Outline.Within (bound : Nat) (outline : Outline) : Prop :=
  ∀ node ∈ outline.nodes, node.span.stop ≤ bound

theorem Outline.within_mk {part : Part} {span : Span} {parts : List Outline} :
    (Outline.mk part span parts).Within bound ↔
      span.stop ≤ bound ∧ ∀ outline ∈ parts, outline.Within bound := by
  simp only [Outline.Within, Outline.nodes, Outline.nodesAll_eq_flatMap, List.forall_mem_cons,
    List.mem_flatMap]
  constructor
  · rintro ⟨own, below⟩
    exact ⟨own, fun outline listed node member => below node ⟨outline, listed, member⟩⟩
  · rintro ⟨own, below⟩
    exact ⟨own, fun node ⟨outline, listed, member⟩ => below outline listed node member⟩

/-- What stands in a text ends within the text. -/
theorem Outline.InTurn.within {outlines : List Outline} {start : Nat} {text : List Char}
    (inTurn : Outline.InTurn outlines start text) (inside : start + Text.byteLength text ≤ bound) :
    ∀ outline ∈ outlines, outline.Within bound := by
  intro outline listed node member
  have below : node ∈ Outline.nodesAll outlines := by
    rw [Outline.nodesAll_eq_flatMap]
    exact List.mem_flatMap.mpr ⟨outline, listed, member⟩
  obtain ⟨before, own, after, rfl, covers⟩ := inTurn.node below
  rw [covers.span_eq, Span.stop_between_of_le (Nat.le_add_right ..)]
  simp only [Text.byteLength_append] at inside
  omega

theorem Located.map_place_shift {α : Type} (slides : placement.Slides bound origin target)
    {outline : Located α → Outline} (spans : ∀ located, (outline located).span = located.span)
    {located : Option (Located α)}
    (inside : ∀ found ∈ located.toList.map outline, found.Within bound) :
    (located.map (·.shift origin)).map (·.place placement) = located.map (·.shift target) := by
  cases located with
  | none => rfl
  | some located =>
    have stops := inside (outline located) (List.mem_singleton_self _) _ (Outline.self_mem_nodes _)
    rw [spans] at stops
    simp only [Option.map_some, Located.place_shift slides stops]

mutual

/-- An expression that is moved down to a line and placed is the expression moved to the place of
the line. -/
theorem Expression.place_shift (slides : placement.Slides bound origin target) :
    (expression : Expression) → expression.outline.Within bound →
    (expression.shift origin).place placement = expression.shift target
  | .binary left operator right span, inside => by
    simp only [Expression.outline, Located.operatorOutline, Outline.within_mk, List.forall_mem_cons]
      at inside
    obtain ⟨own, first, ⟨sign, -⟩, second, -⟩ := inside
    simp only [Expression.shift, Expression.place, left.place_shift slides first,
      right.place_shift slides second, Located.place_shift slides sign, Span.place_shift slides own]
  | .parenthesized inner span, inside => by
    simp only [Expression.outline, Outline.within_mk, List.forall_mem_cons] at inside
    obtain ⟨own, below, -⟩ := inside
    simp only [Expression.shift, Expression.place, inner.place_shift slides below,
      Span.place_shift slides own]
  | .call builtin callee arguments span, inside => by
    simp only [Expression.outline, Located.nameOutline, Outline.within_mk, List.forall_mem_cons]
      at inside
    obtain ⟨own, ⟨name, -⟩, below⟩ := inside
    simp only [Expression.shift, Expression.place, Located.place_shift slides name,
      Argument.placeAll_shiftAll slides arguments below, Span.place_shift slides own]
  | .string value span, inside => by
    simp only [Expression.outline, Outline.within_mk] at inside
    simp only [Expression.shift, Expression.place, Span.place_shift slides inside.1]
  | .number value span, inside => by
    simp only [Expression.outline, Outline.within_mk] at inside
    simp only [Expression.shift, Expression.place, Span.place_shift slides inside.1]
  | .identifier name span, inside => by
    simp only [Expression.outline, Outline.within_mk] at inside
    simp only [Expression.shift, Expression.place, Span.place_shift slides inside.1]

theorem Argument.placeAll_shiftAll (slides : placement.Slides bound origin target) :
    (arguments : List Argument) →
    (∀ outline ∈ Argument.outlines arguments, outline.Within bound) →
    Argument.placeAll placement (Argument.shiftAll origin arguments) =
      Argument.shiftAll target arguments
  | [], _ => rfl
  | .mk name value span :: rest, inside => by
    simp only [Argument.outlines, Argument.outline, List.forall_mem_cons, Outline.within_mk,
      List.forall_mem_append] at inside
    obtain ⟨⟨own, label, below, -⟩, later⟩ := inside
    simp only [Argument.shiftAll, Argument.placeAll, Argument.shift, Argument.place,
      Located.map_place_shift slides (fun _ => rfl) label, value.place_shift slides below,
      Span.place_shift slides own, Argument.placeAll_shiftAll slides rest later]

end

theorem Parameter.place_shift (slides : placement.Slides bound origin target)
    {parameter : Parameter} (inside : parameter.outline.Within bound) :
    (parameter.shift origin).place placement = parameter.shift target := by
  rcases parameter with ⟨name, default, span⟩
  simp only [Parameter.outline, Located.nameOutline, Outline.within_mk, List.forall_mem_cons]
    at inside
  obtain ⟨own, ⟨label, -⟩, below⟩ := inside
  have default : (default.map (·.shift origin)).map (·.place placement) =
      default.map (·.shift target) := by
    cases default with
    | none => rfl
    | some value =>
      simp only [Option.map_some, value.place_shift slides (below _ (List.mem_singleton_self _))]
  simp only [Parameter.shift, Parameter.place, Located.place_shift slides label, default,
    Span.place_shift slides own]

theorem Parameter.map_place_shift (slides : placement.Slides bound origin target)
    {parameters : List Parameter}
    (inside : ∀ outline ∈ Parameter.outlines parameters, outline.Within bound) :
    (parameters.map (·.shift origin)).map (·.place placement) =
      parameters.map (·.shift target) := by
  rw [List.map_map]
  refine List.map_congr_left fun parameter listed => ?_
  exact Parameter.place_shift slides (inside _ (List.mem_map_of_mem listed))

theorem Parameter.mapOption_place_shift (slides : placement.Slides bound origin target)
    {parameters : Option (List Parameter)}
    (inside : ∀ outline ∈ Parameter.outlinesOption parameters, outline.Within bound) :
    (parameters.map (·.map (·.shift origin))).map (·.map (·.place placement)) =
      parameters.map (·.map (·.shift target)) := by
  cases parameters with
  | none => rfl
  | some parameters => exact congrArg some (Parameter.map_place_shift slides inside)

theorem Include.place_shift (slides : placement.Slides bound origin target) {content : Include}
    (inside : content.outline.Within bound) :
    (content.shift origin).place placement = content.shift target := by
  simp only [Include.outline, Located.textOutline, Outline.within_mk, List.forall_mem_cons]
    at inside
  obtain ⟨own, ⟨path, -⟩, part⟩ := inside
  simp only [Include.shift, Include.place, Located.place_shift slides path,
    Located.map_place_shift slides (fun _ => rfl) part, Span.place_shift slides own]

theorem Diagnostic.place_shift (slides : placement.Slides bound origin target)
    {diagnostic : Diagnostic} (inside : ∀ label ∈ diagnostic.labels, label.span.stop ≤ bound) :
    (diagnostic.shift origin).place placement = diagnostic.shift target := by
  simp only [Diagnostic.shift, Diagnostic.place, Diagnostic.mk.injEq, List.map_map, true_and,
    and_true]
  refine List.map_congr_left fun label listed => ?_
  simp only [Function.comp_apply, Label.shift, Label.place,
    Span.place_shift slides (inside label listed)]

end Slide

end DiagramAssist
