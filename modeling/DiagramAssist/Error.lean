import DiagramAssist.Diagnostic

/-! # Errors

The causes for which a query, a load or a request fails, each with its wording, and the reports in
which the command line presents them.
-/

namespace DiagramAssist

/-- Why a document or the listing of the standard library could not be obtained. -/
inductive FetchError where
  | notFound (url : String)
  | transport (url message : String)
  | timeout (url : String) (milliseconds : Nat)
  | decode (url message : String)
deriving DecidableEq, Inhabited

def FetchError.message : FetchError → String
  | .notFound url => "document not found: " ++ url
  | .transport url message => "failed to fetch " ++ url ++ ": " ++ message
  | .timeout url milliseconds =>
    "fetching " ++ url ++ " timed out after " ++ toString milliseconds ++ " ms"
  | .decode url message => "failed to decode " ++ url ++ ": " ++ message

/-- Why the key of an include could not be turned into a parsed document. -/
inductive LoadError where
  | fetch (error : FetchError)
  | parse (key : String) (error : ParseError)
deriving DecidableEq, Inhabited

def LoadError.message : LoadError → String
  | .fetch error => error.message
  | .parse key error => "failed to parse " ++ key ++ ": " ++ error.render

inductive QueryError where
  | io (message : String)
  | parse (error : ParseError) (source : String)
  | documentNotFound (key : String)
  | missingContent
  | fetch (error : FetchError)
deriving DecidableEq, Inhabited

def QueryError.message : QueryError → String
  | .io message => "I/O error: " ++ message
  | .parse error _ => error.render
  | .documentNotFound key => "document not found: " ++ key
  | .missingContent => "no content given for an unsaved document"
  | .fetch error => error.message

inductive ServiceErrorCode where
  | unknownOperation
  | invalidParams
  | parseError
  | documentNotFound
  | fetchFailed
  | internal
deriving DecidableEq, Inhabited

namespace ServiceErrorCode

/-- The word that stands for the class in a message. -/
def word : ServiceErrorCode → String
  | .unknownOperation => "unknown_operation"
  | .invalidParams => "invalid_params"
  | .parseError => "parse_error"
  | .documentNotFound => "document_not_found"
  | .fetchFailed => "fetch_failed"
  | .internal => "internal"

def ofWord? (word : String) : Option ServiceErrorCode :=
  [unknownOperation, invalidParams, parseError, documentNotFound, fetchFailed, internal].find?
    (·.word == word)

end ServiceErrorCode

structure ServiceError where
  code : ServiceErrorCode
  message : String
deriving DecidableEq, Inhabited

namespace ServiceError

/-- The error on one line. -/
def render (error : ServiceError) : String :=
  error.code.word ++ ": " ++ error.message

def unknownOperation (name : String) : ServiceError :=
  ⟨.unknownOperation, "unknown operation `" ++ name ++ "`"⟩

def ofQuery (error : QueryError) : ServiceError :=
  { code := match error with
      | .parse _ _ => .parseError
      | .documentNotFound _ => .documentNotFound
      | .missingContent => .invalidParams
      | .fetch _ => .fetchFailed
      | .io _ => .internal
    message := error.message }

end ServiceError

/-- What the command line presents for an error. A report on a document shows its labels over the
text; any other has no labels. -/
structure Report where
  headline : String
  code : Option String
  help : Option String
  /-- The text that the labels point into. -/
  source : Option String
  labels : List Label
  /-- Whether the error wraps one of the operating system. -/
  hasCause : Bool
deriving DecidableEq, Inhabited

namespace Report

def ofDiagnostic (source : String) (diagnostic : Diagnostic) : Report where
  headline := diagnostic.message
  code := diagnostic.fault.map (·.code)
  help := diagnostic.help
  source := some source
  labels := diagnostic.labels
  hasCause := false

/-- The code under which an error without a place is reported. -/
def plainCode : QueryError → String
  | .io _ => "umlpp::io"
  | .parse _ _ => "umlpp::parse"
  | .documentNotFound _ => "umlpp::document_not_found"
  | .missingContent => "umlpp::missing_content"
  | .fetch _ => "umlpp::fetch"

/-- The suggestion for an error without a place. -/
def plainHelp : QueryError → Option String
  | .documentNotFound _ => some "send the document content once so it can be registered"
  | .missingContent => some "pass a document key, its content or both"
  | .fetch _ => some "check the `[stdlib] index` setting and network access"
  | .io _ => none
  | .parse _ _ => none

/-- The reports on an error: one for each diagnostic of a document, or a single one. -/
def ofError : QueryError → List Report
  | .parse error source => error.diagnostics.map (ofDiagnostic source)
  | error =>
    [{ headline := error.message
       code := some (plainCode error)
       help := plainHelp error
       source := none
       labels := []
       hasCause := match error with
        | .io _ => true
        | _ => false }]

end Report

end DiagramAssist
