import DiagramAssist.Proofs.Document.Extraction
import DiagramAssist.Proofs.Grammar.Commitment
import DiagramAssist.Proofs.Grammar.Repair
import DiagramAssist.Proofs.Grammar.RoundTrip

/-! # The signature of a callable is a header

The signature that completion shows for a callable is a name with a list of parameters in the syntax
of the language. It is read back parameter by parameter: what follows a parameter, a comma or the
parenthesis at the end, ends its name and its default value. So the signature heads a procedure of
the same name with the same parameters (`parse_of_printable_signature`), and every callable of a
document that parses has a signature of this kind, up to numbers whose written form is no number.
-/

namespace DiagramAssist

open Reader Outline

/-! ## Parameters -/

def Parameter.erase (parameter : Parameter) : Parameter where
  name := parameter.name.erase
  default := parameter.default.map Expression.erase
  span := Inhabited.default

/-- The written form of the parameter means the parameter. -/
structure Parameter.Printable (parameter : Parameter) : Prop where
  named : isName parameter.name.value.toList = true
  default : ∀ value, parameter.default = some value → value.Printable

@[simp] theorem Parameter.erase_shift (distance : Nat) (parameter : Parameter) :
    (parameter.shift distance).erase = parameter.erase := by
  rcases parameter with ⟨name, default, span⟩
  cases default <;>
    simp only [Parameter.shift, Parameter.erase, Option.map_some, Option.map_none,
      Expression.erase_shift, Located.erase, Located.shift]

/-- A parameter whose outline covers a text is printable, up to its numbers. -/
theorem Parameter.printable_of_covers {parameter : Parameter} {start : Nat} {text : List Char}
    (covers : parameter.outline.Covers start text)
    (numbers : ∀ value span,
      .expression (.number value span) ∈ parameter.walk (fun _ => true) → value.ReadsBack) :
    parameter.Printable := by
  simp only [Parameter.outline, Covers] at covers
  obtain ⟨-, -, inTurn⟩ := covers
  obtain ⟨_, _, named⟩ := inTurn.covers List.mem_cons_self
  refine ⟨Located.isName_of_covers named, fun value present => ?_⟩
  obtain ⟨_, _, standing⟩ := inTurn.covers
    (List.mem_cons_of_mem _ (List.mem_map_of_mem (Option.mem_toList.mpr present)))
  refine value.printable_of_covers standing fun number span below => numbers number span ?_
  simp only [Parameter.walk, ↓reduceIte, present, List.mem_cons]
  exact .inr below

/-- The text of a parameter: its name, with its default value behind a sign. -/
theorem Parameter.toList_render (parameter : Parameter) :
    parameter.render.toList = parameter.name.value.toList ++
      match parameter.default with
      | some value => ' ' :: '=' :: ' ' :: value.render.toList
      | none => [] := by
  rw [Parameter.render]
  cases parameter.default with
  | none => exact (List.append_nil _).symm
  | some value =>
    simp only [String.toList_append, List.append_assoc]
    rfl

/-- The written parameters of a list, with what stands between them. -/
def Parameter.listText (parameters : List Parameter) : List Char :=
  [',', ' '].intercalate (parameters.map fun parameter => parameter.render.toList)

section Written

variable {parameter : Parameter}

theorem Parameter.Printable.oneLine (printable : parameter.Printable) :
    Text.OneLine parameter.render.toList := by
  rw [parameter.toList_render, Text.oneLine_append]
  refine ⟨Text.oneLine_of_isName printable.named, ?_⟩
  cases present : parameter.default with
  | none => decide
  | some value =>
    have sign : Text.OneLine [' ', '=', ' '] := by decide
    exact Text.oneLine_append.mpr ⟨sign, (printable.default value present).oneLine⟩

namespace Grammar

variable {after : List Char}

theorem not_blank_of_isName {name : List Char} (named : isName name = true) (after : List Char) :
    (name ++ after).head?.any Text.isSpace = false := by
  obtain ⟨c, rest, rfl, starts⟩ := exists_cons_of_isName named
  exact (not_blank_of_opensOperand (opensOperand_of_nameStart starts)).1

theorem not_blank_of_parameter (printable : parameter.Printable) (after : List Char) :
    (parameter.render.toList ++ after).head?.any Text.isSpace = false := by
  rw [parameter.toList_render, List.append_assoc]
  exact not_blank_of_isName printable.named _

/-- The default value of a parameter, behind its sign. -/
def defaultValue : Reader Expression := do
  spaces
  char '='
  spaces
  expression

theorem takes_defaultValue {value : Expression} (printable : value.Printable) (ends : Ends after) :
    defaultValue.Takes (' ' :: '=' :: ' ' :: value.render.toList) after
      (·.erase = value.erase) := by
  refine Takes.bind_cons (takes_spaces rfl rfl) fun _ _ => ?_
  refine (takes_char '=').bind_cons fun _ _ => ?_
  refine Takes.bind_cons (takes_spaces rfl (not_blank_of_printable printable after)) fun _ _ => ?_
  exact takes_expression printable ends

/-- No default value stands where a parameter ends. -/
theorem Ends.refuses_defaultValue (ends : Ends after) : defaultValue.Refuses after := by
  intro column
  rcases ends with _ | _ | _ <;> exact ⟨_, rfl, rfl⟩

/-- A written parameter is restored where it ends. -/
theorem takes_parameter (printable : parameter.Printable) (ends : Ends after) :
    Grammar.parameter.Takes parameter.render.toList after (·.erase = parameter.erase) := by
  rw [parameter.toList_render]
  have valued : (optional defaultValue).Takes
      (match parameter.default with
        | some value => ' ' :: '=' :: ' ' :: value.render.toList
        | none => []) after
      (·.map Expression.erase = parameter.default.map Expression.erase) := by
    cases present : parameter.default with
    | none => exact ends.refuses_defaultValue.optional.mono (by rintro _ rfl; rfl)
    | some value =>
      refine (takes_defaultValue (printable.default value present) ends).optional.mono ?_
      rintro _ ⟨found, rfl, same⟩
      rw [Option.map_some, Option.map_some, same]
  have stops : ((match parameter.default with
      | some value => ' ' :: '=' :: ' ' :: value.render.toList
      | none => []) ++ after).head?.any isNameChar = false := by
    cases parameter.default with
    | none => exact (Parts.ends ends).stops_name
    | some value => rfl
  refine ((takes_anyName printable.named stops).expecting _).bind fun name same => ?_
  refine valued.bind_last fun found restored => takes_pure ?_
  simp only [Parameter.erase, Located.erase, same, restored, String.ofList_toList]

/-! ## Parameter lists -/

variable {parameters : List Parameter}

theorem refuses_parameter (rest : List Char) : Grammar.parameter.Refuses (')' :: rest) :=
  fun _ => ⟨_, rfl, rfl⟩

/-- The parameters of a list are restored one by one. -/
theorem takes_parameters (printable : ∀ parameter ∈ parameters, parameter.Printable)
    (after : List Char) :
    (separated comma Grammar.parameter).Takes (Parameter.listText parameters) (')' :: after)
      (·.map Parameter.erase = parameters.map Parameter.erase) := by
  refine takes_separated (List.cons_ne_nil _ _) (fun tail => Ends.next _) (.closing after) ?_ ?_
    (refuses_parameter after) (fun column => ⟨_, rfl, rfl⟩)
  · intro parameter member tail
    exact takes_comma (not_blank_of_parameter (printable parameter member) tail)
  · intro parameter member tail ends
    exact takes_parameter (printable parameter member) ends

theorem not_blank_of_parameters (printable : ∀ parameter ∈ parameters, parameter.Printable)
    (after : List Char) :
    (Parameter.listText parameters ++ (')' :: after)).head?.any Text.isSpace = false := by
  cases parameters with
  | nil => rfl
  | cons parameter rest =>
    rw [Parameter.listText, List.map_cons, intercalate_cons_eq, List.append_assoc]
    exact not_blank_of_parameter (printable _ List.mem_cons_self) _

theorem takes_parameterList (printable : ∀ parameter ∈ parameters, parameter.Printable) :
    parameterList.Takes ('(' :: (Parameter.listText parameters ++ [')'])) after
      (·.map Parameter.erase = parameters.map Parameter.erase) := by
  refine ((takes_char '(').expecting _).bind_cons fun _ _ => ?_
  refine Takes.bind_nothing (takes_spaces rfl ?_) fun _ _ => ?_
  · rw [List.append_assoc]
    exact not_blank_of_parameters printable _
  refine (takes_parameters printable after).bind fun found restored => ?_
  refine Takes.bind_nothing (takes_spaces rfl rfl) fun _ _ => ?_
  exact ((takes_char ')').expecting _).bind_last fun _ _ => takes_pure restored

end Grammar

end Written

/-! ## Headers -/

/-- A text without a line ending in front of a line feed is a single line. -/
theorem Line.split_of_oneLine_feed {text : List Char} (oneLine : Text.OneLine text) :
    Line.split (text ++ ['\n']) = [⟨0, text, .lineFeed⟩] := by
  have raw : Line.rawLines (text ++ ['\n']) = [(text, true)] := by
    induction text with
    | nil => rfl
    | cons c rest ih =>
      have feed : c ≠ '\n' := (oneLine c List.mem_cons_self).1
      have later := ih fun c member => oneLine c (List.mem_cons_of_mem _ member)
      rw [List.cons_append, Line.rawLines, later]
      exact feed
  have kept : Text.dropFinalReturn text = text := by
    refine if_neg fun last => ?_
    exact (oneLine '\r' (List.mem_of_getLast? last)).2 rfl
  rw [Line.split, raw]
  simp [Line.placeAll, Line.ofRaw, kept]

/-- The written form of the signature means the name and the parameters. -/
structure Callable.Printable (callable : Callable) : Prop where
  named : isName callable.name.value.toList = true
  parameters : ∀ parameter ∈ callable.parameters, parameter.Printable

section Signatures

variable {callable : Callable}

theorem Callable.toList_signature (callable : Callable) :
    callable.signature.toList = callable.name.value.toList ++
      ('(' :: (Parameter.listText callable.parameters ++ [')'])) := by
  simp only [Callable.signature, String.toList_append, String.toList_intercalate, List.map_map,
    List.append_assoc]
  rfl

theorem Callable.Printable.oneLine (printable : callable.Printable) :
    Text.OneLine callable.signature.toList := by
  have opening : Text.OneLine ['('] := by decide
  have listed : Text.OneLine (Parameter.listText callable.parameters) := by
    refine Text.oneLine_intercalate (by decide) ?_
    simp only [List.forall_mem_map]
    exact fun parameter member => (printable.parameters parameter member).oneLine
  rw [callable.toList_signature, Text.oneLine_append, ← List.singleton_append,
    Text.oneLine_append, Text.oneLine_append]
  exact ⟨Text.oneLine_of_isName printable.named, opening, listed, by decide⟩

namespace Grammar

/-- The productions in front of those of callables decline the header of a procedure. -/
theorem refuses_before_procedure (completes : Bool) (rest : List Char) :
    ∀ reader ∈ [declaration completes, defineLongHeader completes, define, inclusion completes],
      reader.Refuses ("!procedure ".toList ++ rest) := by
  simp only [List.forall_mem_cons]
  refine ⟨fun column => (guarded_declaration completes _).mpr rfl,
    fun column => (guarded_defineLongHeader completes _).mpr rfl,
    fun column => (guarded_define _).mpr rfl,
    fun column => (guarded_inclusion completes _).mpr rfl, List.forall_mem_nil _⟩

theorem takes_keyword (word : String) {after : List Char}
    (ends : after.head?.any isNameChar = false) :
    (keyword word).Takes word.toList after fun _ => True := by
  intro column
  obtain ⟨value, stop, read⟩ := (follows_keyword word).takes ⟨column, word.toList ++ after⟩ _
    (Text.afterWord_append ends)
  exact ⟨value, stop, read, trivial⟩

/-- A signature behind the word of a procedure opens a procedure. -/
theorem takes_header (printable : callable.Printable) :
    (Grammar.callable true).Takes ("!procedure ".toList ++ callable.signature.toList) []
      fun found => ∃ start name parameters,
        found = .opens start (.callable .procedure false name parameters) ∧
          name.value = callable.name.value ∧
          parameters.map Parameter.erase = callable.parameters.map Parameter.erase := by
  have plain {after : List Char} : (optional (do keyword "unquoted"; spaces1)).Takes []
      ("procedure".toList ++ after) (· = none) :=
    Refuses.optional (Refuses.bind fun column => (follows_keyword _).refuses _ rfl)
  have word {after : List Char} : (choose
      [(do keyword "function"; return BlockCallable.function),
        (do keyword "procedure"; return BlockCallable.procedure)]).Takes "procedure".toList
      (' ' :: after) (· = .procedure) := by
    refine Refuses.choose (Refuses.bind fun column => (follows_keyword _).refuses _ rfl) ?_
    exact (takes_keyword "procedure" rfl).bind_last fun _ _ => takes_pure rfl
  have named (start : Nat) (what : String) {after : List Char} :
      (declaredName start what).Takes (' ' :: callable.name.value.toList) ('(' :: after)
        (·.value = callable.name.value) := by
    refine Takes.directiveRest (Takes.expecting ?_ _) _ _
    have blank : spaces1.Takes [' '] (callable.name.value.toList ++ '(' :: after) fun _ => True :=
      takes_spaces1 (List.cons_ne_nil _ _) rfl (not_blank_of_isName printable.named _)
    refine blank.bind_cons fun _ _ => (takes_anyName printable.named rfl).mono ?_
    rintro found same
    rw [same, String.ofList_toList]
  have text : "!procedure ".toList ++ callable.signature.toList =
      '!' :: ("procedure".toList ++ ((' ' :: callable.name.value.toList) ++
        ('(' :: (Parameter.listText callable.parameters ++ [')'])))) := by
    rw [callable.toList_signature]
    rfl
  rw [text, callable_eq]
  refine takes_directiveStart.bind_cons fun start _ => ?_
  refine Takes.bind_nothing (by simpa only [List.append_assoc] using plain) ?_
  rintro _ rfl
  refine word.bind ?_
  rintro _ rfl
  refine (named start _).bind fun name same => ?_
  refine Takes.bind_last (Takes.directiveRest ?_ _ _) fun rest held => takes_pure held
  refine (takes_parameterList printable.parameters).bind_last fun parameters restored => ?_
  have nothing : (callableValue .procedure).Takes [] ([] ++ []) (· = none) := takes_pure rfl
  refine nothing.bind_nothing ?_
  rintro _ rfl
  exact takes_endOfStatement.bind_last fun stop _ =>
    takes_pure ⟨start, name, parameters, rfl, same, restored⟩

/-- A header and the directive that closes its block are two lines. -/
theorem split_header {header : List Char} (oneLine : Text.OneLine header) (block : OpenBlock) :
    Line.split (header ++ '\n' :: (block.closing ++ "\n").toList) =
      [⟨0, header, .lineFeed⟩,
        ⟨Text.byteLength (header ++ ['\n']), block.closing.toList, .lineFeed⟩] := by
  have whole : Line.AreWhole (header ++ ['\n']) := .inr List.getLast?_concat
  rw [← List.singleton_append, ← List.append_assoc, Line.split_append whole,
    Line.split_of_oneLine_feed oneLine, split_closing block]
  simp only [List.map_cons, List.map_nil, Line.shift, Nat.zero_add, List.singleton_append]

/-- A callable that is closed on the line behind its header has no statements. -/
theorem statements_of_header {header : List Char} {start : Nat} {kind : BlockCallable}
    {unquoted : Bool} {name : Located String} {parameters : List Parameter} {next : Cursor}
    (oneLine : Text.OneLine header)
    (read : reading true ⟨0, header⟩ =
      .read (.opens start (.callable kind unquoted name parameters)) next) :
    ∃ span, statements (header ++ '\n' :: ("!" ++ closer kind ++ "\n").toList) =
      .ok [.callable kind unquoted (name.shift 0) (parameters.map (·.shift 0)) [] span] := by
  obtain ⟨block, made⟩ : ∃ block, block =
      OpenBlock.callable kind unquoted (name.shift 0) (parameters.map (·.shift 0)) := ⟨_, rfl⟩
  have closing : "!" ++ closer kind = block.closing := by
    rw [made]
    rfl
  have plain : ¬(⟨start, block, []⟩ : Frame).block.IsRaw := by
    rintro ⟨_, _, _, _, raw⟩
    cases made.symm.trans raw
  have opened : Progress.initial.step ⟨0, header, .lineFeed⟩ = .ok ⟨[], [⟨start, block, []⟩]⟩ := by
    have said : reading (Ending.lineFeed).completes ⟨0, header⟩ =
        .read (.opens start (.callable kind unquoted name parameters)) next := read
    simp only [Progress.initial, Progress.step, Progress.readLine, said, made]
    rfl
  obtain ⟨word, behind, turns, value⟩ :=
    exists_closingWord? block (Text.byteLength (header ++ ['\n']))
  have turn : Frame.turn? ⟨start, block, []⟩ word = some (.closes (.callable kind unquoted
      (name.shift 0) (parameters.map (·.shift 0)) [] (.between start word.span.stop))) := by
    rw [made] at value ⊢
    exact if_pos value
  have closed : Progress.step ⟨[], [⟨start, block, []⟩]⟩
      ⟨Text.byteLength (header ++ ['\n']), block.closing.toList, .lineFeed⟩ =
        .ok ⟨[.callable kind unquoted (name.shift 0) (parameters.map (·.shift 0)) []
          (.between start word.span.stop)], []⟩ := by
    rw [Progress.step_of_not_raw _ _ _ plain, turns]
    simp only [turn]
    rfl
  have run : (Line.split (header ++ '\n' :: (block.closing ++ "\n").toList)).foldlM Progress.step
      Progress.initial = .ok ⟨[.callable kind unquoted (name.shift 0)
        (parameters.map (·.shift 0)) [] (.between start word.span.stop)], []⟩ := by
    rw [split_header oneLine, List.foldlM_cons, opened]
    exact (bind_pure _).trans closed
  refine ⟨.between start word.span.stop, ?_⟩
  rw [closing, statements, run]
  rfl

end Grammar

/-- A printable signature heads a procedure of its name with its parameters. -/
theorem parse_of_printable_signature (printable : callable.Printable) :
    ∃ name parameters span whole,
      parse ("!procedure " ++ callable.signature ++ "\n!endprocedure\n") =
        .ok ⟨[.callable .procedure false name parameters [] span], whole⟩ ∧
      name.value = callable.name.value ∧
      parameters.map Parameter.erase = callable.parameters.map Parameter.erase := by
  obtain ⟨_, stop, read, start, name, parameters, rfl, named, restored⟩ :=
    Grammar.takes_header printable 0
  rw [List.append_nil] at read
  have oneLine : Text.OneLine ("!procedure ".toList ++ callable.signature.toList) :=
    Text.oneLine_append.mpr ⟨by decide, printable.oneLine⟩
  have said : Grammar.reading true ⟨0, "!procedure ".toList ++ callable.signature.toList⟩ =
      .read (.opens start (.callable .procedure false name parameters)) ⟨stop, []⟩ := by
    have passed := choose_append_of_declines
      (fun reader member => Grammar.refuses_before_procedure true callable.signature.toList
        reader member 0)
      (List.cons_ne_nil (Grammar.callable true) [Grammar.branchHeader true,
        Grammar.loopHeader true, Grammar.result true, Grammar.callLine true, Grammar.unknown,
        Grammar.diagramText])
    exact passed.trans (choose_of_read read)
  obtain ⟨span, made⟩ := Grammar.statements_of_header oneLine said
  have text : ("!procedure " ++ callable.signature ++ "\n!endprocedure\n").toList =
      ("!procedure ".toList ++ callable.signature.toList) ++
        '\n' :: ("!" ++ Grammar.closer .procedure ++ "\n").toList := by
    simp only [String.toList_append]
    rfl
  refine ⟨name.shift 0, parameters.map (·.shift 0), span, .between 0 (Text.byteLength
    ("!procedure " ++ callable.signature ++ "\n!endprocedure\n").toList), ?_, named, ?_⟩
  · rw [parse, text, made]
  · simp only [List.map_map, Function.comp_def, Parameter.erase_shift]
    exact restored

end Signatures

/-! ## The callables of a document -/

/-- A node that defines a callable has the name and the parameters of the callable below it. -/
theorem Node.Defines.exists_outline {node : Node} {callable : Callable}
    (defines : node.Defines callable) :
    ∃ span rest, node.outline = .mk .construct span
      (callable.name.nameOutline :: (Parameter.outlines callable.parameters ++ rest)) := by
  cases defines with
  | function | procedure | inlineFunction | define | defineLong =>
    simp only [Node.outline, Statement.outline, List.cons_append]
    exact ⟨_, _, rfl⟩

/-- The signatures of a document are printable, up to the numbers in default values. -/
theorem Callable.printable_of_parse {source : String} {root : Root}
    (parsed : parse source = .ok root) {callable : Callable}
    (member : callable ∈ (SymbolTable.extract root).callables)
    (numbers : ∀ parameter ∈ callable.parameters, ∀ value span,
      .expression (.number value span) ∈ parameter.walk (fun _ => true) → value.ReadsBack) :
    callable.Printable := by
  obtain ⟨node, listed, found⟩ := List.mem_filterMap.mp member
  obtain ⟨span, rest, outline⟩ := (Node.callable?_eq_some_iff.mp found).exists_outline
  obtain ⟨_, own, _, -, covers⟩ := (covers_of_parse parsed).node (Root.outline_mem_of_nodes listed)
  simp only [outline, Covers] at covers
  obtain ⟨-, -, inTurn⟩ := covers
  obtain ⟨_, _, named⟩ := inTurn.covers List.mem_cons_self
  refine ⟨Located.isName_of_covers named, fun parameter listed => ?_⟩
  obtain ⟨_, _, standing⟩ := inTurn.covers
    (List.mem_cons_of_mem _ (List.mem_append_left _ (List.mem_map_of_mem listed)))
  exact Parameter.printable_of_covers standing (numbers parameter listed)

/-- The signature of every callable of a document is the header of a procedure with the same name
and the same parameters, provided that the numbers in default values read back. -/
theorem parse_signature {source : String} {root : Root} (parsed : parse source = .ok root)
    {callable : Callable} (member : callable ∈ (SymbolTable.extract root).callables)
    (numbers : ∀ parameter ∈ callable.parameters, ∀ value span,
      .expression (.number value span) ∈ parameter.walk (fun _ => true) → value.ReadsBack) :
    ∃ name parameters span whole,
      parse ("!procedure " ++ callable.signature ++ "\n!endprocedure\n") =
        .ok ⟨[.callable .procedure false name parameters [] span], whole⟩ ∧
      name.value = callable.name.value ∧
      parameters.map Parameter.erase = callable.parameters.map Parameter.erase :=
  parse_of_printable_signature (Callable.printable_of_parse parsed member numbers)

/-- A macro whose last default value is a comparison with a call in it. -/
theorem parse_signature_macro :
    ∃ root callable, parse "!define JOIN($a, $by=', ', $n=%add($a,k=1)==1) text" = .ok root ∧
      callable ∈ (SymbolTable.extract root).callables ∧
      callable.signature = "JOIN($a, $by = \", \", $n = %add($a, k=1) == 1)" ∧
      ∃ name parameters span whole,
        parse ("!procedure " ++ callable.signature ++ "\n!endprocedure\n") =
          .ok ⟨[.callable .procedure false name parameters [] span], whole⟩ ∧
        name.value = callable.name.value ∧
        parameters.map Parameter.erase = callable.parameters.map Parameter.erase := by
  have met : (parse "!define JOIN($a, $by=', ', $n=%add($a,k=1)==1) text").toOption.map
      (fun root => (SymbolTable.extract root).callables.map fun callable => (callable.signature,
        (Parameter.walkAll (fun _ => true) callable.parameters).filterMap Node.number?)) =
        some [("JOIN($a, $by = \", \", $n = %add($a, k=1) == 1)",
          [.ofDecimal false ['1'] [], .ofDecimal false ['1'] []])] := by
    decide +kernel
  have text : (Binary64.ofDecimal false ['1'] []).render = "1" := by decide +kernel
  have reads : (Binary64.ofDecimal false ['1'] []).ReadsBack := by
    rw [Binary64.ReadsBack, text]
    exact ⟨_, _, rfl⟩
  cases parsed : parse "!define JOIN($a, $by=', ', $n=%add($a,k=1)==1) text" with
  | error failure =>
    rw [parsed] at met
    cases met
  | ok root =>
    rw [parsed] at met
    simp only [Except.toOption, Option.map_some, Option.some.injEq, List.map_eq_cons_iff,
      List.map_eq_nil_iff, Prod.mk.injEq] at met
    obtain ⟨callable, _, defined, ⟨signature, literals⟩, rfl⟩ := met
    have member : callable ∈ (SymbolTable.extract root).callables :=
      defined ▸ List.mem_cons_self
    refine ⟨root, callable, rfl, member, signature, parse_signature parsed member ?_⟩
    intro parameter listed value span below
    have among : value ∈ (Parameter.walkAll (fun _ => true) callable.parameters).filterMap
        Node.number? :=
      List.mem_filterMap.mpr ⟨_, List.mem_flatMap.mpr ⟨parameter, listed, below⟩, rfl⟩
    rw [literals] at among
    simp only [List.mem_cons, List.not_mem_nil, or_false, or_self] at among
    exact among ▸ reads

end DiagramAssist
