import DiagramAssist.Proofs.Document.Summary
import DiagramAssist.Proofs.Grammar.LinePartition
import DiagramAssist.Proofs.Grammar.RoundTrip
import DiagramAssist.Proofs.Grammar.Signs
import DiagramAssist.Proofs.Number.Shortest

/-! # Which written forms can be read

A number literal may be as long as it likes, and one that is too large denotes an infinite number.
The written form of an infinite number is a name, with a sign in front of it if the number is
negative. So the written form of what has been read off a text is read as the expression with names
for its infinite numbers, as long as none of these is negative (`Declares.again`). A sign in front
of a name is no operand, and a text with such a sign is not read at all (`Declares.hasDigits`).
-/

namespace DiagramAssist

open Reader

/-! ## The value of a declaration -/

namespace Reader

variable {completes : Bool}

theorem scans_endOfStatement :
    (endOfStatement completes).Scans .behind fun after _ => after = .behind := by
  refine (scans_spaces (.inr rfl)).bind ?_
  rintro _ _ rfl
  refine scans_column.bind ?_
  rintro _ stop rfl
  cases completes with
  | true =>
    refine scans_notFollowedBy.bind ?_
    rintro _ _ rfl
    exact scans_pure rfl
  | false =>
    intro cursor found later read
    exact (reject_ne_read read).elim

/-- Nothing is left behind the end of a statement. -/
theorem rest_of_endOfStatement {cursor later : Cursor} {stop : Nat}
    (read : endOfStatement completes cursor = .read stop later) : later.rest = [] := by
  simp only [endOfStatement, bind_eq_read, column_eq_read] at read
  obtain ⟨_, _, -, _, _, ⟨rfl, rfl⟩, read⟩ := read
  split at read
  · simp only [bind_eq_read, pure_eq_read] at read
    obtain ⟨_, last, looked, -, rfl⟩ := read
    have free := not_declines_of_read looked
    rw [eq_of_notFollowedBy looked, declines_notFollowedBy] at free
    rcases last with ⟨column, _ | ⟨c, rest⟩⟩
    · rfl
    · exact absurd rfl free
  · exact (reject_ne_read read).elim

end Reader

namespace Grammar

/-- What stands behind the sign of a declaration. -/
def declaredValue (completes : Bool) (finish : Expression → Nat → Reading) : Reader Reading := do
  spaces
  let initializer ← expecting "variable value" expression
  let stop ← endOfStatement completes
  return finish initializer stop

variable {completes : Bool} {finish : Expression → Nat → Reading}

theorem scans_declaredValue : (declaredValue completes finish).Scans .expects fun after found =>
    after = .behind ∧ ∃ initializer stop, found = finish initializer stop ∧
      initializer.HoldsLiterals := by
  refine (scans_spaces (.inl rfl)).bind ?_
  rintro _ _ rfl
  refine (scans_expression.expecting _).bind ?_
  rintro _ initializer ⟨rfl, literals⟩
  refine scans_endOfStatement.bind ?_
  rintro _ stop rfl
  exact scans_pure ⟨rfl, initializer, stop, rfl, literals⟩

theorem rest_of_declaredValue {cursor later : Cursor} {found : Reading}
    (read : declaredValue completes finish cursor = .read found later) : later.rest = [] := by
  simp only [declaredValue, bind_eq_read, pure_eq_read] at read
  obtain ⟨_, _, -, _, _, -, _, _, ends, -, rfl⟩ := read
  exact rest_of_endOfStatement ends

/-- A line that starts with the name and the sign of a declaration is read as the declaration, and
the scan goes through what is behind the sign. -/
theorem reading_of_declaration {text : List Char} {found : Reading} {later : Cursor}
    (read : reading completes ⟨0, '!' :: '$' :: 'x' :: ' ' :: '=' :: text⟩ = .read found later) :
    Scan.expects.run text = some .behind ∧ ∃ name initializer span,
      found = .whole (.declaration name initializer .unspecified false span) ∧
      initializer.HoldsLiterals := by
  have behind : declaration completes ⟨0, '!' :: '$' :: 'x' :: ' ' :: '=' :: text⟩ =
      directiveRest 0 .unexpectedToken (declaredValue completes fun initializer stop =>
        .whole (.declaration (located ['$', 'x'] 1) initializer .unspecified false
          (.between 0 stop))) ⟨5, text⟩ :=
    rfl
  have own : declaration completes ⟨0, '!' :: '$' :: 'x' :: ' ' :: '=' :: text⟩ =
      .read found later := by
    have chosen : choose ([declaration completes] ++
        ((openings completes).tail ++ passing completes)) _ = .read found later := read
    rcases read_of_choose_append (List.cons_ne_nil _ _) chosen with
      ⟨reader, member, own⟩ | ⟨declines, -⟩
    · rwa [List.mem_singleton.mp member] at own
    · have never := declines _ (List.mem_singleton_self _)
      rw [Reader.Declines, behind] at never
      exact (not_declines_directiveRest _ _ _ never).elim
  rw [behind, directiveRest_eq_read] at own
  obtain ⟨taken, _, passes, goes, rfl, initializer, stop, rfl, literals⟩ := scans_declaredValue own
  have all : text = taken ++ later.rest := passes.rest
  rw [rest_of_declaredValue own, List.append_nil] at all
  exact ⟨all ▸ goes, _, initializer, _, rfl, literals⟩

end Grammar

/-! ## Lines of one declaration -/

/-- The scan does not get stuck in the ending of a line. -/
theorem Ending.run_chars (ending : Ending) :
    ∃ scan, Scan.behind.run ending.chars = some scan := by
  cases ending <;> exact ⟨_, rfl⟩

/-- The name and the sign of a declaration are in the content of its line. -/
theorem Line.exists_content_of_declaration {line : Line} {text : List Char}
    (whole : line.chars = '!' :: '$' :: 'x' :: ' ' :: '=' :: ' ' :: text) :
    ∃ inner, line.content = '!' :: '$' :: 'x' :: ' ' :: '=' :: inner ∧
      ' ' :: text = inner ++ line.ending.chars := by
  have parts : line.content ++ line.ending.chars = ['!', '$', 'x', ' ', '='] ++ ' ' :: text := whole
  rcases List.append_eq_append_iff.mp parts with ⟨short, -, rest⟩ | ⟨inner, content, rest⟩
  · have blank : ' ' ∈ line.ending.chars := rest ▸ List.mem_append_right short List.mem_cons_self
    exact absurd blank (by cases line.ending <;> decide)
  · exact ⟨inner, content, rest⟩

theorem Expression.HoldsLiterals.shift {expression : Expression}
    (literals : expression.HoldsLiterals) (distance : Nat) :
    (expression.shift distance).HoldsLiterals := by
  intro value span member
  rw [Expression.walk_shift, List.mem_map] at member
  obtain ⟨node, member, same⟩ := member
  cases node with
  | expression below =>
    cases below with
    | number value' place =>
      cases same
      exact literals value place member
    | binary | parenthesized | call | string | identifier => cases same
  | statement | parameter => cases same

/-! ## Names for infinite numbers -/

namespace Binary64

theorem render_named {value : Binary64} (digits : value.HasDigits) (span : Span) :
    (value.named span).render = value.render := by
  cases value with
  | finite negative mantissa exponent => simp only [named, Expression.render]
  | infinite negative =>
    cases negative with
    | false => simp only [named, Expression.render, render, Bool.false_eq_true, ↓reduceIte]
    | true => exact absurd rfl digits

theorem kind_named (value : Binary64) (span : Span) : (value.named span).kind ≠ .binary := by
  cases value <;> simp only [named, Expression.kind, ne_eq, reduceCtorEq, not_false_eq_true]

theorem printable_named_infinite (negative : Bool) (span : Span) :
    ((infinite negative).named span).Printable := by
  simp only [named, Expression.Printable]
  decide

/-- A number that a literal denotes reads back, or a name stands for it. -/
theorem stands_named (negative : Bool) (integer fraction : List Char) (span : Span) :
    Stands named (ofDecimal negative integer fraction) span := by
  refine ⟨?_, kind_named _ span⟩
  rcases readsBack_ofDecimal negative integer fraction with infinite | reads
  · rw [infinite]
    exact printable_named_infinite negative span
  · generalize ofDecimal negative integer fraction = value at reads
    cases value with
    | finite negative mantissa exponent => simpa only [named, Expression.Printable] using reads
    | infinite negative => exact printable_named_infinite negative span

end Binary64

theorem Expression.kind_erase (expression : Expression) :
    expression.erase.kind = expression.kind := by
  cases expression <;> rfl

/-- Only an infinite number changes its kind when names stand for infinite numbers. -/
theorem Expression.kind_mapNumbers_named_iff (expression : Expression) :
    (expression.mapNumbers Binary64.named).kind = expression.kind ↔
      ∀ negative span, expression ≠ .number (.infinite negative) span := by
  cases expression with
  | number value span =>
    cases value with
    | finite => exact iff_of_true rfl nofun
    | infinite negative => exact iff_of_false nofun fun other => other negative span rfl
  | binary | parenthesized | call | string | identifier => exact iff_of_true rfl nofun

/-! ## Values and their written forms -/

/-- The text is read as the value of a declaration, of which a document consists. -/
def Declares (text : String) (initializer : Expression) : Prop :=
  ∃ name scope conditional span whole,
    parse ("!$x = " ++ text) = .ok ⟨[.declaration name initializer scope conditional span], whole⟩

/-- The expression that the text is read as when it is the value of a declaration. -/
def declared? (text : List Char) : Option Expression :=
  match Grammar.statements ('!' :: '$' :: 'x' :: ' ' :: '=' :: ' ' :: text) with
  | .ok [.declaration _ initializer _ _ _] => some initializer
  | _ => none

theorem toList_declared (text : String) : ("!$x = " ++ text).toList =
    '!' :: '$' :: 'x' :: ' ' :: '=' :: ' ' :: text.toList := by
  rw [String.toList_append]
  rfl

theorem declared?_eq_some_iff {text : String} {initializer : Expression} :
    declared? text.toList = some initializer ↔ Declares text initializer := by
  simp only [declared?, ← toList_declared]
  constructor
  · intro found
    split at found
    · next stated =>
      cases found
      exact ⟨_, _, _, _, _, by rw [parse, stated]⟩
    · cases found
  · rintro ⟨name, scope, conditional, span, whole, parsed⟩
    rw [statements_of_parse parsed]

section Declares

variable {text : String} {initializer : Expression}

theorem Declares.unique {other : Expression} (declares : Declares text initializer)
    (declares' : Declares text other) : initializer = other := by
  rw [← declared?_eq_some_iff] at declares declares'
  exact Option.some.inj (declares.symm.trans declares')

/-- The scan goes through the text of a value, and the numbers of the value are denoted by
literals. -/
theorem Declares.scanned (declares : Declares text initializer) :
    Scan.expects.run text.toList ≠ none ∧ initializer.HoldsLiterals := by
  obtain ⟨_, _, _, _, _, parsed⟩ := declares
  obtain ⟨own, later, lines, made, nothing⟩ := (allMade_of_parse parsed).uncons rfl
  rw [nothing.lines_eq_nil, List.append_nil] at lines
  cases made with
  | @line line _ told =>
    obtain ⟨found, next, read, same⟩ := told
    have joined := Line.text_split ("!$x = " ++ text).toList
    rw [lines, Line.text_cons, Line.text_nil, List.append_nil, toList_declared] at joined
    obtain ⟨inner, content, behind⟩ := Line.exists_content_of_declaration joined
    rw [content] at read
    obtain ⟨inside, _, initializer, _, rfl, literals⟩ := Grammar.reading_of_declaration read
    obtain ⟨scan, ends⟩ := line.ending.run_chars
    have all := Scan.run_trans inside ends
    rw [← behind] at all
    have goes : Scan.expects.run text.toList = some scan := all
    cases same
    exact ⟨by rw [goes]; exact Option.some_ne_none _, literals.shift _⟩

/-- With names for its infinite numbers, a value has a written form that means it. -/
theorem Declares.printable (declares : Declares text initializer) :
    (initializer.mapNumbers Binary64.named).Printable := by
  obtain ⟨-, literals⟩ := declares.scanned
  obtain ⟨name, scope, conditional, span, whole, parsed⟩ := declares
  have listed : initializer.outline ∈
      (Root.outline ⟨[.declaration name initializer scope conditional span], whole⟩).nodes := by
    simp only [Root.outline, Statement.outlines, Statement.outline, Outline.nodes,
      Outline.nodesAll, List.mem_cons, List.mem_append, Outline.self_mem_nodes, true_or, or_true]
  obtain ⟨_, own, _, -, covers⟩ := (covers_of_parse parsed).node listed
  refine initializer.printable_mapNumbers_of_covers covers fun value span below => ?_
  obtain ⟨negative, integer, fraction, rfl⟩ := literals value span below
  exact Binary64.stands_named negative integer fraction span

/-- The written form is read with names for infinite numbers if none of them is negative. -/
theorem Declares.again (declares : Declares text initializer)
    (digits : AllNumbers (fun value _ => value.HasDigits) (initializer.walk fun _ => true)) :
    ∃ found, Declares initializer.render found ∧
      found.erase = (initializer.mapNumbers Binary64.named).erase := by
  obtain ⟨name, found, span, whole, parsed, -, same⟩ := parse_of_printable declares.printable
  have written : (initializer.mapNumbers Binary64.named).render = initializer.render :=
    initializer.render_mapNumbers fun value span member =>
      Binary64.render_named (digits value span member) span
  rw [written] at parsed
  exact ⟨found, ⟨name, _, _, span, whole, parsed⟩, same⟩

/-- If the written form is read, no number is infinite and negative. -/
theorem Declares.hasDigits (declares : Declares text initializer) {found : Expression}
    (again : Declares initializer.render found) :
    AllNumbers (fun value _ => value.HasDigits) (initializer.walk fun _ => true) := by
  rcases initializer.goes_render declares.printable with ⟨digits, -⟩ | ⟨-, stuck⟩
  · exact digits
  · exact absurd stuck again.scanned.1

end Declares

/-- The written form of a value, whose literals may have any size, is again a value of the same kind
if and only if no infinite negative number is in the value, and it is not an infinite number as a
whole. -/
theorem rendered_declares_same_kind_iff {text : String} {initializer : Expression}
    (declares : Declares text initializer) :
    (∃ found, Declares initializer.render found ∧ found.kind = initializer.kind) ↔
      (∀ span, .expression (.number (.infinite true) span) ∉ initializer.walk (fun _ => true)) ∧
      ∀ span, initializer ≠ .number (.infinite false) span := by
  have digits_iff : AllNumbers (fun value _ => value.HasDigits) (initializer.walk fun _ => true) ↔
      ∀ span, .expression (.number (.infinite true) span) ∉ initializer.walk (fun _ => true) := by
    constructor
    · intro digits span member
      exact digits _ span member rfl
    · rintro signless value span member rfl
      exact signless span member
  constructor
  · rintro ⟨found, again, same⟩
    have digits := declares.hasDigits again
    refine ⟨digits_iff.mp digits, ?_⟩
    rintro span rfl
    obtain ⟨other, reread, named⟩ := declares.again digits
    cases again.unique reread
    rw [← found.kind_erase, named] at same
    cases same
  · rintro ⟨signless, finite⟩
    obtain ⟨found, again, named⟩ := declares.again (digits_iff.mpr signless)
    refine ⟨found, again, ?_⟩
    rw [← found.kind_erase, named, Expression.kind_erase, Expression.kind_mapNumbers_named_iff]
    rintro negative span rfl
    cases negative with
    | false => exact finite span rfl
    | true => exact signless span List.mem_cons_self

/-- A positive number that is too large does no harm where it is an argument. -/
theorem rendered_declares_huge_argument :
    ∃ initializer, Declares ("%min(1" ++ String.ofList (List.replicate 309 '0') ++ ", 2)")
        initializer ∧ initializer.render = "%min(inf, 2)" ∧
      ∃ found, Declares "%min(inf, 2)" found ∧ found.kind = initializer.kind := by
  have met : (declared? ("%min(1" ++ String.ofList (List.replicate 309 '0') ++ ", 2)").toList).map
      (fun initializer => (initializer.kind, initializer.render,
        (initializer.walk fun _ => true).filterMap Node.number?)) =
        some (.call, "%min(inf, 2)", [.infinite false, .ofDecimal false ['2'] []]) := by
    simp only [String.toList_append, String.toList_ofList]
    decide +kernel
  rw [Option.map_eq_some_iff] at met
  obtain ⟨initializer, declares, met⟩ := met
  rw [declared?_eq_some_iff] at declares
  simp only [Prod.mk.injEq] at met
  obtain ⟨kind, written, numbers⟩ := met
  refine ⟨initializer, declares, written, ?_⟩
  rw [← written]
  refine (rendered_declares_same_kind_iff declares).mpr ⟨fun span member => ?_, ?_⟩
  · have among := mem_number?_iff.mpr ⟨span, member⟩
    rw [numbers] at among
    exact absurd among (by decide +kernel)
  · rintro span rfl
    cases kind

/-- A negative number that is too large is declared, but its written form is not. -/
theorem not_declares_rendered_huge_negative :
    ∃ initializer, Declares ("-1" ++ String.ofList (List.replicate 309 '0')) initializer ∧
      initializer.kind = .number ∧ initializer.render = "-inf" ∧
      ∀ found, ¬Declares initializer.render found := by
  have met : (declared? ("-1" ++ String.ofList (List.replicate 309 '0')).toList).map
      (fun initializer => (initializer.kind, initializer.render)) = some (.number, "-inf") := by
    simp only [String.toList_append, String.toList_ofList]
    decide +kernel
  have never : (declared? "-inf".toList).isSome = false := by decide +kernel
  rw [Option.map_eq_some_iff] at met
  obtain ⟨initializer, declares, met⟩ := met
  rw [declared?_eq_some_iff] at declares
  simp only [Prod.mk.injEq] at met
  refine ⟨initializer, declares, met.1, met.2, fun found again => ?_⟩
  rw [met.2, ← declared?_eq_some_iff] at again
  rw [again] at never
  cases never

end DiagramAssist
