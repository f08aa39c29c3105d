-- Everything that can go wrong, and how it is told to the user.

namespace SqlDump

/-- Why a text is no substitution. -/
inductive SubstitutionFlaw
  | noMark
  | noDelimiter
  | noReplacement
deriving DecidableEq, Repr

def SubstitutionFlaw.message : SubstitutionFlaw → String
  | noMark => "must start with 's'"
  | noDelimiter => "too short"
  | noReplacement => "must have pattern and replacement"

/-- The causes of failure. -/
inductive Fault
  | inputNotFound (path : String)
  | outputNotCreated (path : String)
  | transferFailed
  | configUnreadable (path : String)
  | configMalformed (path : String)
  | invalidPattern (source : List Char)
  | invalidSubstitution (expr : List Char) (flaw : SubstitutionFlaw)
  | twoActions
  | noAction
  | badTablePrefix (tablePrefix : List Char)
  | zeroProgressInterval
deriving DecidableEq, Repr

def Fault.message : Fault → String
  | inputNotFound path => s!"Input file not found: {path}"
  | outputNotCreated path => s!"Failed to create output file: {path}"
  | transferFailed => "I/O error while converting"
  | configUnreadable path => s!"Failed to read config file: {path}"
  | configMalformed path => s!"Failed to parse config file: {path}"
  | invalidPattern source => "Invalid regex pattern in rule: " ++ String.ofList source
  | invalidSubstitution expr flaw =>
    "Invalid substitution '" ++ String.ofList expr ++ "': " ++ flaw.message
  | twoActions => "Mutually exclusive options: skip_pattern and rewrite"
  | noAction => "Rule must set one of skip_pattern or rewrite"
  | badTablePrefix tablePrefix =>
    "Invalid value for table-prefix: '" ++ String.ofList tablePrefix
      ++ "' may only contain ASCII letters, digits and '_'"
  | zeroProgressInterval => "Invalid value for progress-interval: must be greater than zero"

end SqlDump
