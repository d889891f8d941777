import DiagramAssist.Proofs.Engine.Keys
import DiagramAssist.Proofs.Grammar.LineRoles
import DiagramAssist.Proofs.Grammar.Signatures

/-! # Offered modules can be included

A module is offered by its path without the extension. Between angle brackets this is read as the
module of an include, as it is, and the listing has the module under it: by the path itself or by
the path with the extension. So the include leads to the module that was offered, as long as no
other module of the listing has either path.
-/

namespace DiagramAssist

open Grammar Reader Text

/-! ## The line that includes a module -/

/-- The text can stand between angle brackets as the name of a module. -/
structure Text.NamesModule (text : List Char) : Prop where
  present : text ≠ []
  clean : ∀ c ∈ text, c ≠ '>' ∧ c ≠ '!' ∧ c ≠ '\n' ∧ c ≠ '\r'
  trimmed : ∀ c, text.getLast? = some c → isBlank c = false

section Lines

variable {text : List Char}

theorem Text.NamesModule.trimEnd_eq (names : NamesModule text) : trimEnd text = text := by
  have last : text.reverse.head?.any isBlank = false := by
    rw [List.head?_reverse]
    cases last : text.getLast? with
    | none => rfl
    | some c => exact names.trimmed c last
  have kept : ([] ++ text.reverse).dropWhile isBlank = text.reverse := (span_run rfl last).2
  rw [List.nil_append] at kept
  rw [trimEnd, kept, List.reverse_reverse]

namespace Grammar

theorem takes_standardTarget (names : NamesModule text) :
    standardTarget.Takes ('<' :: (text ++ ['>'])) [] fun found =>
      found.target.value.toList = text ∧ found.kind = .standard ∧ found.part = none := by
  have accepted : text.all (fun c => !(c == '>' || c == '\n' || c == '\r')) = true := by
    refine List.all_eq_true.mpr fun c listed => ?_
    obtain ⟨bracket, -, feed, return_⟩ := names.clean c listed
    simp [bracket, feed, return_]
  have mark : '!' ∉ text := fun listed => (names.clean '!' listed).2.1 rfl
  refine (takes_char '<').bind_cons fun _ _ => ?_
  refine takes_column.bind_nothing fun start _ => ?_
  refine (takes_takeWhile1 names.present accepted rfl).bind ?_
  rintro read rfl
  refine ((takes_char '>').commit.expecting _).bind_last fun _ _ => ?_
  rw [names.trimEnd_eq, splitPart_of_notMem start mark]
  exact takes_pure ⟨String.toList_ofList, rfl, rfl⟩

theorem takes_includeDirective {after : List Char} :
    includeDirective.Takes "include".toList (' ' :: after) (· = .include) := by
  have declines {word : String}
      (other : afterWord word ("include".toList ++ ' ' :: after) = none)
      (directive : IncludeDirective) :
      Refuses (do keyword word; return directive) ("include".toList ++ ' ' :: after) :=
    Refuses.bind fun column => (follows_keyword word).refuses _ other
  refine Refuses.choose (declines rfl .includeMany) ?_
  refine Refuses.choose (declines rfl .includeOnce) ?_
  refine Refuses.choose (declines rfl .includeUrl) ?_
  refine Refuses.choose (declines rfl .includeSub) ?_
  exact (takes_keyword "include" rfl).bind_last fun _ _ => takes_pure rfl

def moduleLine (text : List Char) : List Char :=
  '!' :: ("include".toList ++ ' ' :: '<' :: (text ++ ['>']))

theorem takes_inclusion (names : NamesModule text) :
    (inclusion true).Takes (moduleLine text) [] fun found => ∃ content,
      found = .whole (.inclusion content) ∧ content.kind = .standard ∧
        content.target.value.toList = text ∧ content.part = none := by
  have blank {after : List Char} : spaces1.Takes [' '] ('<' :: after) fun _ => True :=
    takes_spaces1 (List.cons_ne_nil _ _) rfl rfl
  refine takes_directiveStart.bind_cons fun start _ => ?_
  refine Takes.bind takes_includeDirective fun directive _ => ?_
  refine Takes.directiveRest ?_ _ _
  refine (blank.expecting _).bind_cons fun _ _ => ?_
  refine (((takes_standardTarget names).orElse _).expecting _).bind_last fun found held => ?_
  exact takes_endOfStatement.bind_last fun stop _ => takes_pure ⟨_, rfl, held.2.1, held.1, held.2.2⟩

end Grammar

theorem Line.includes_moduleLine (text : List Char) :
    Line.Includes ⟨0, moduleLine text, .endOfText⟩ .include [] ('<' :: (text ++ ['>'])) where
  content := ⟨[' '], by rw [moduleLine]; rfl, List.cons_ne_nil _ _, rfl⟩
  lead := rfl
  argument := rfl

/-- A module in angle brackets is read as it is written. -/
theorem parse_module {path : String} (names : NamesModule path.toList) :
    ∃ content span, parse ("!include <" ++ path ++ ">") = .ok ⟨[.inclusion content], span⟩ ∧
      content.kind = .standard ∧ content.target.value = path ∧ content.part = none := by
  obtain ⟨found, next, read, content, rfl, kind, target, part⟩ := takes_inclusion names 0
  have written : ("!include <" ++ path ++ ">").toList = moduleLine path.toList := by
    rw [String.toList_append, String.toList_append]
    rfl
  have oneLine : OneLine (moduleLine path.toList) := by
    have listed : OneLine path.toList := fun c member => (names.clean c member).2.2
    rw [← written, String.toList_append, String.toList_append, oneLine_append, oneLine_append]
    exact ⟨⟨by decide, listed⟩, by decide⟩
  have lines : Line.split (moduleLine path.toList) = [⟨0, moduleLine path.toList, .endOfText⟩] :=
    Line.split_of_oneLine (List.cons_ne_nil _ _) oneLine
  rw [List.append_nil, ← (Line.includes_moduleLine path.toList).reading_eq] at read
  have said : Line.SayAll (Line.split (moduleLine path.toList))
      [.inclusion (content.shift 0)] := by
    rw [lines]
    exact .cons ⟨_, _, read, rfl⟩ .nil
  refine ⟨content.shift 0, .between 0 (byteLength (moduleLine path.toList)), ?_, kind,
    String.toList_injective target, ?_⟩
  · rw [parse, written, statements_of_sayAll said]
  · simp [Include.shift, part]

end Lines

/-! ## The listing -/

namespace LibraryEntry

variable {entries : List LibraryEntry} {entry : LibraryEntry} {extension : String}

/-- A listed path is the path by which the module is offered, perhaps with the extension. -/
theorem path_cases (extension : String) (entry : LibraryEntry) :
    entry.path = entry.includePath extension ∨
      entry.path = entry.includePath extension ++ extension := by
  simp only [includePath]
  split
  · next ends =>
    obtain ⟨stem, whole⟩ := List.isSuffixOf_iff_suffix.mp ends
    refine .inr (String.toList_injective ?_)
    have length : entry.path.toList.length - extension.toList.length = stem.length := by
      rw [← whole, List.length_append, Nat.add_sub_cancel]
    rw [String.toList_append, String.toList_ofList, length, ← whole, List.take_left]
  · exact .inl rfl

/-- A module can be included by the path by which it is offered: the path can stand between angle
brackets, and no other module is listed under it, with or without the extension. -/
structure Includable (extension : String) (entries : List LibraryEntry) (entry : LibraryEntry) :
    Prop where
  names : NamesModule (entry.includePath extension).toList
  alone : ∀ other ∈ entries, other ≠ entry →
    other.path ≠ entry.includePath extension ∧
      other.path ≠ entry.includePath extension ++ extension

/-- The listing has a module under the path by which it is offered. -/
theorem Includable.resolve?_eq (includable : Includable extension entries entry)
    (listed : entry ∈ entries) :
    resolve? entries extension (entry.includePath extension) = some entry.url := by
  obtain ⟨found, first⟩ : ∃ found, entries.find? (fun other =>
      other.path == entry.includePath extension ||
        other.path == entry.includePath extension ++ extension) = some found := by
    rw [← Option.isSome_iff_exists, List.find?_isSome]
    exact ⟨entry, listed, by simpa using entry.path_cases extension⟩
  have member := List.mem_of_find?_eq_some first
  have matched := List.find?_some first
  simp only [Bool.or_eq_true, beq_iff_eq] at matched
  have same : found = entry := by
    by_contra other
    obtain ⟨bare, extended⟩ := includable.alone found member other
    exact matched.elim bare extended
  rw [resolve?, first, same, Option.map_some]

end LibraryEntry

/-! ## Engines -/

namespace Traffic

variable {state after : Traffic} {engine : Nat} {entries : List LibraryEntry}

/-- From now on an include leads to an address: whenever an engine is asked for its key and has
answered, the key is the address, and a task that is asked for it now has its answer after some
turns of its own. -/
structure LeadsTo (state : Traffic) (engine : Nat) (content : Include) (url : String) : Prop where
  answers : ∀ {before later : List Event} {moment after : Traffic} {base : Option String}
    {reply : Reply}, state.run? before = some moment →
    moment.run? (.ask engine (.resolveKeys base [content]) :: later) = some after →
    after.reply? moment.tasks.length = some reply → reply = .keys [some url]
  answered : ∀ base, ∃ count after,
    state.run? (.ask engine (.resolveKeys base [content]) ::
      List.replicate count (.proceed state.tasks.length)) = some after ∧
    after.reply? state.tasks.length = some (.keys [some url])

/-- An include of a module that a known listing has leads to the address of the module. -/
theorem leadsTo_of_known {content : Include} {url : String} (orderly : state.Orderly)
    (known : (state.world.library engine).value = some entries) (kind : content.kind = .standard)
    (listed : LibraryEntry.resolve? entries state.world.config.extension content.target.value =
      some url) : state.LeadsTo engine content url := by
  have answers {before later : List Event} {moment after : Traffic} {base : Option String}
      {reply : Reply} (ran : state.run? before = some moment)
      (asked : moment.run? (.ask engine (.resolveKeys base [content]) :: later) = some after)
      (answered : after.reply? moment.tasks.length = some reply) : reply = .keys [some url] := by
    have first := orderly.run_keepsListings ran
    have orderly' := (orderly.run ran).1
    have keeps := first.trans (orderly'.run_keepsListings asked)
    obtain ⟨keys, rfl, given⟩ := keys_of_known orderly' (first.listing known) asked answered
    obtain ⟨key, _, gives, none, rfl⟩ := List.forall₂_cons_left_iff.mp given
    cases none
    cases gives with
    | url other | path other => cases kind.symm.trans other
    | unlisted _ unknown => cases unknown.symm.trans (keeps.listing known)
    | listed _ value =>
      cases (keeps.listing known).symm.trans value
      rw [keeps.config, listed]
  refine ⟨answers, fun base => ?_⟩
  obtain ⟨count, after, keys, ran, answered⟩ := exists_keys orderly known base [content]
  have here : state.run? [] = some state := rfl
  refine ⟨count, after, ran, ?_⟩
  rw [answered, answers here ran answered]

/-- Whenever an engine has been asked for the modules of the library and has answered with items,
they are the modules of its listing under the given beginning, and each can be included by what is
offered for it: a line with the offered text between angle brackets is a single include, which leads
to the address of the module from then on. -/
theorem offered_modules_lead {config : Config} {source : Source} {engines : Nat}
    {before later : List Event} {start : String} {range : Range} {items : List Item}
    (ran : (initial config source engines).run? before = some state)
    (asked : state.run? (.ask engine (.library (.completions start range)) :: later) = some after)
    (answered : after.reply? state.tasks.length = some (.items items)) :
    ∃ entries, (after.world.library engine).value = some entries ∧
      items = (LibraryEntry.startingWith entries start).map (·.toItem config.extension range) ∧
      ∀ entry ∈ LibraryEntry.startingWith entries start, entry.Includable config.extension entries →
        ∃ content span,
          parse ("!include <" ++ (entry.toItem config.extension range).insertText ++ ">") =
            .ok ⟨[.inclusion content], span⟩ ∧
          content.kind = .standard ∧ after.LeadsTo engine content entry.url := by
  obtain ⟨orderly, onward⟩ := (orderly_initial config source engines).run ran
  obtain ⟨orderly', onward'⟩ := orderly.run asked
  have settings : after.world.config = config := onward'.config.trans onward.config
  obtain ⟨result, replied, known⟩ := listing_of_library orderly asked answered
  cases result with
  | error error => cases replied
  | ok entries =>
    have known := known entries rfl
    rw [settings] at replied
    refine ⟨entries, known, Reply.items.inj replied, fun entry offered includable => ?_⟩
    obtain ⟨content, span, parsed, kind, target, -⟩ := parse_module includable.names
    refine ⟨content, span, parsed, kind, leadsTo_of_known orderly' known kind ?_⟩
    rw [settings, target]
    exact includable.resolve?_eq (List.mem_of_mem_filter offered)

/-- A library with a module whose path ends with the extension twice. -/
def doubledSource : Source where
  document := Supply.missing
  listing _ := ⟨0, .ok [⟨"C4", "https://std/C4"⟩, ⟨"a.puml.puml", "https://std/a"⟩]⟩

/-- The offered path still ends with the extension. -/
theorem offered_modules_lead_doubled :
    ∃ after, (initial .standard doubledSource 1).run?
        [.ask 0 (.library (.completions "a" default)), .proceed 0, .proceed 0, .proceed 0] =
          some after ∧
      after.reply? 0 = some (.items [⟨.module, "a.puml", "a.puml.puml", default⟩]) ∧
      ∃ content span, parse "!include <a.puml>" = .ok ⟨[.inclusion content], span⟩ ∧
        content.kind = .standard ∧ after.LeadsTo 0 content "https://std/a" := by
  obtain ⟨after, items, asked, answered, listed⟩ : ∃ after items,
      (initial .standard doubledSource 1).run?
        [.ask 0 (.library (.completions "a" default)), .proceed 0, .proceed 0, .proceed 0] =
          some after ∧
      after.reply? 0 = some (.items items) ∧
      (after.world.library 0).value =
        some [⟨"C4", "https://std/C4"⟩, ⟨"a.puml.puml", "https://std/a"⟩] :=
    ⟨_, _, rfl, rfl, rfl⟩
  have begun : (initial .standard doubledSource 1).run? [] =
      some (initial .standard doubledSource 1) := rfl
  obtain ⟨entries, known, offered, leads⟩ := offered_modules_lead begun asked answered
  cases listed.symm.trans known
  have names : NamesModule "a.puml".toList := ⟨by decide, by simp, by simp [isBlank]⟩
  refine ⟨after, asked, ?_, leads ⟨"a.puml.puml", "https://std/a"⟩ (by decide +kernel)
    ⟨names, by decide +kernel⟩⟩
  rw [answered, offered]
  exact congrArg (some ∘ Reply.items) (by decide +kernel)

end Traffic

end DiagramAssist
