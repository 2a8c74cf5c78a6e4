import SocBench.Document.Shape

/-!
# Why a configuration is refused

Either the file cannot be read, or its text is no configuration, or the values do not fit together.
-/

namespace SocBench

/-- Why a configuration is refused. -/
inductive ConfigError where
  | read (path reason : String)
  | syntaxError
  | malformed (cause : DecodeError)
  | invalid (key reason : String)

/-- The wording of the error. -/
def ConfigError.message : ConfigError → String
  | .read path reason => "cannot read " ++ path ++ ": " ++ reason
  | .syntaxError => "malformed configuration: the text is not a well-formed document"
  | .malformed cause => "malformed configuration: " ++ cause.message
  | .invalid key reason => "invalid `" ++ key ++ "`: " ++ reason

end SocBench
