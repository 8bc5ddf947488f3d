/-!
# Errors
-/

namespace Compendium

/-- Why an input or an output failed. -/
inductive Error where
  /-- A file could not be read or written. -/
  | io
  /-- A path leads out of the output directory. -/
  | outsideOutput (path : String)
  /-- A text is not JSON. -/
  | json
  /-- A text is no configuration. -/
  | config
  /-- No category has this name. -/
  | unknownCategory (name : String)
  /-- A corpus is not an object. -/
  | corpusNotObject
  deriving DecidableEq, Repr

/-- The text of an error, where the program itself words it. -/
def Error.message? : Error → Option String
  | .io => none
  | .outsideOutput path => some ("refusing to write outside the output root: " ++ path)
  | .json => none
  | .config => none
  | .unknownCategory name => some ("Unknown category: " ++ name)
  | .corpusNotObject => some "Invalid input: corpus file must be a JSON object"

/-- An error as it is shown to a user. -/
def Error.text : Error → String
  | .io => "I/O error"
  | .json => "JSON error"
  | .config => "Configuration error"
  | e => e.message?.getD ""

end Compendium
