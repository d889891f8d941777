import DiagramAssist.Grammar.Block

/-! # Parsing a document

Parsing has no partial results: the whole document is read, or the first malformed directive is
reported.
-/

namespace DiagramAssist

def parse (source : String) : Except ParseError Root :=
  match Grammar.statements source.toList with
  | .ok statements => .ok ⟨statements, .between 0 (Text.byteLength source.toList)⟩
  | .error diagnostic => .error ⟨[diagnostic]⟩

/-- Whether a text parses. -/
instance (source : String) : Decidable (∃ root, parse source = .ok root) :=
  match parse source with
  | .ok root => .isTrue ⟨root, rfl⟩
  | .error _ => .isFalse fun ⟨_, parsed⟩ => nomatch parsed

/-- Whether a text fails with the given error; trees need not be compared for that. -/
instance (source : String) (error : ParseError) : Decidable (parse source = .error error) :=
  match parse source with
  | .ok _ => .isFalse nofun
  | .error other => decidable_of_iff (other = error) ⟨congrArg _, Except.error.inj⟩

end DiagramAssist
