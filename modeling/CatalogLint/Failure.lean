import CatalogLint.Run
import CatalogLint.Text.Quoted

/-! # The words of failures -/

namespace CatalogLint

namespace BadPattern

/-- The words for a forbidden pattern whose expression is wrong. -/
def message (bad : BadPattern) : String :=
  "forbidden pattern " ++ Text.quoted bad.regex ++ " for \"" ++ bad.language
    ++ "\" is not a valid regex"

end BadPattern

namespace PatternError

/-- What was going on when a pattern turned out to be wrong. -/
def context : PatternError → String
  | .forbidden _ => "compiling forbidden patterns"
  | .line _ => "building the catalog line pattern"

/-- The words for a pattern that is wrong.  The pattern of lines has nothing wrong in it but
    its size. -/
def message : PatternError → String
  | .forbidden bad => bad.message
  | .line _ => "Compiled regex exceeds size limit of 10485760 bytes."

end PatternError

namespace DiscoveryError

/-- The words for files that cannot be listed. -/
def message : DiscoveryError → String
  | .missingCatalogDir path => "catalog directory not found: " ++ path
  | .notADirectory path => "not a directory: " ++ path

end DiscoveryError

namespace Failure

/-- What was going on when the failure came up, where that is said before its cause. -/
def context? : Failure → Option String
  | .badPattern error true => some error.context
  | _ => none

/-- The cause of a failure. -/
def cause : Failure → String
  | .unsupportedConfig path => "unsupported configuration file extension: " ++ path
  | .unreadableConfig path => "reading configuration " ++ path
  | .malformedConfig format path => "parsing " ++ format.name ++ " configuration " ++ path
  | .badPattern error _ => error.message
  | .discovery error => error.message
  | .unreadableCatalog path => "reading catalog " ++ path
  | .unwritableReport error => error.message

/-- All that is said about a failure. -/
def message (failure : Failure) : String :=
  match failure.context? with
  | some context => context ++ ": " ++ failure.cause
  | none => failure.cause

/-- What is said about a failure in one line: what was going on, or else the cause. -/
def headline (failure : Failure) : String :=
  failure.context?.getD failure.cause

end Failure

end CatalogLint
