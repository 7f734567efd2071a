import BuildDiagnostics.Text.Case
import BuildDiagnostics.Text.Line

/-!
# Severity

Toolchains print the severity of a message as free text, in several languages. `classify?` sorts the
text into three levels. A text that fits none of the rules has no level.
-/

namespace BuildDiagnostics

/-- How serious a diagnostic is. -/
inductive Severity
  | error | warning | information
  deriving DecidableEq, Repr

namespace Severity

/-- The name of the level. -/
def label : Severity → String
  | error => "error"
  | warning => "warning"
  | information => "info"

/-- Whether the level is the gravest. -/
def isError (s : Severity) : Bool := s == error

/-- The texts that stand for an error. -/
def errorWords : List String :=
  ["error", "fatal error", "catastrophic error", "erreur", "erreur fatale"]

/-- The texts that stand for a warning. -/
def warningWords : List String := ["warning", "avertissement"]

/-- The texts that stand for a remark. -/
def informationWords : List String := ["note", "info", "remark", "remarque"]

/-- The text as it is looked up: without blanks around it and in lower case. -/
def normalForm (text : List Char) : List Char := Text.lower (Text.trim text)

/-- Whether the text is one of the words. -/
def among (words : List String) (text : List Char) : Bool := words.any fun w => w.toList == text

/-- The level of a severity text. A listed word decides first, then a beginning `fatal` or
`catastrophic`, then an `error`, `erreur` or `warning` anywhere in it. -/
def classify? (text : List Char) : Option Severity :=
  let s := normalForm text
  if among errorWords s then some error
  else if among warningWords s then some warning
  else if among informationWords s then some information
  else if "fatal".toList.isPrefixOf s || "catastrophic".toList.isPrefixOf s then some error
  else if Text.occursIn "error".toList s || Text.occursIn "erreur".toList s then some error
  else if Text.occursIn "warning".toList s then some warning
  else none

/-- Whether the text is one of the listed words. -/
def isKnownWord (text : List Char) : Bool :=
  among (errorWords ++ warningWords ++ informationWords) (normalForm text)

end Severity

end BuildDiagnostics
