import PayloadCheck.Check.Catalogue
import PayloadCheck.Check.Comparison
import PayloadCheck.Check.Dates
import PayloadCheck.Check.Files
import PayloadCheck.Check.Numeric
import PayloadCheck.Check.Patterns
import PayloadCheck.Check.Required
import PayloadCheck.Check.Stored

/-!
# The built-in checks
-/

namespace PayloadCheck.Check

/-- All built-in checks, family by family; `resolves` tells which hosts lead to an address. -/
def builtinChecks (resolves : List Char → Bool) : List Check :=
  requiredChecks ++ comparisonChecks ++ numericChecks ++ patternChecks resolves ++ dateChecks ++
    fileChecks ++ storedChecks

/-- The catalogue of the built-in checks under a way of looking up hosts. -/
def builtinFor (resolves : List Char → Bool) : Catalogue := .ofList (builtinChecks resolves)

/-- The catalogue of the built-in checks, for which only hosts that are addresses are found. -/
def builtin : Catalogue := builtinFor Network.isLiteralHost

end PayloadCheck.Check
