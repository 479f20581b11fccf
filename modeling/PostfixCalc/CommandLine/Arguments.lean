/-
# Arguments of the command line

Options come before, between or after the equations; two dashes end them, so
that an equation may start with a dash. A long option may have its value behind
an equals sign, a short one right behind its letter, and else the value is the
next argument, unless this is an option itself. No option is given twice. A
precision given as an argument wins over the one of the environment, which is
not even read then.

Help, version and wrong usage end a command before any equation. Their texts
are those of an argument library; here they are told in a few words.
-/

import PostfixCalc.CommandLine

namespace PostfixCalc.CommandLine

/-- Why a command ends before any equation. -/
inductive Stop
  | help
  | version
  | unknownArgument (argument : String)
  | missingValue (option : String)
  | unexpectedValue (option : String)
  | invalidValue (option value : String)
  | repeated (option : String)
  deriving DecidableEq, Repr

namespace Stop

/-- The wording of a stop. -/
def message : Stop → String
  | .help => "usage: calculatrice-rpn [OPTIONS] [EQUATIONS]..."
  | .version => "calculatrice-rpn 0.1.0"
  | .unknownArgument argument => "argument inconnu: " ++ argument
  | .missingValue option => "valeur manquante pour " ++ option
  | .unexpectedValue option => "valeur inattendue pour " ++ option
  | .invalidValue option value => "valeur invalide pour " ++ option ++ ": " ++ value
  | .repeated option => "option répétée: " ++ option

/-- Help and version are what was asked for; anything else is wrong usage. -/
def exitCode : Stop → Nat
  | .help | .version => 0
  | _ => 2

end Stop

/-- The options that take a value. -/
inductive Setting
  | kind
  | digits
  deriving DecidableEq, Repr

/-- The options that take none. -/
inductive Flag
  | decimal
  | trace
  | list
  | help
  | version
  deriving DecidableEq, Repr

/-- The option of a long name. -/
def longOption? : String → Option (Setting ⊕ Flag)
  | "backend" => some (.inl .kind)
  | "digits" => some (.inl .digits)
  | "decimal" => some (.inr .decimal)
  | "demarche" => some (.inr .trace)
  | "liste" => some (.inr .list)
  | "help" => some (.inr .help)
  | "version" => some (.inr .version)
  | _ => none

/-- The option of a letter. -/
def shortOption? : Char → Option (Setting ⊕ Flag)
  | 'b' => some (.inl .kind)
  | 'd' => some (.inl .digits)
  | 'h' => some (.inr .help)
  | 'V' => some (.inr .version)
  | _ => none

/-- What was read of a command line. -/
structure Request where
  kind : Option NumberKind := none
  digits : Option Nat := none
  flags : List Flag := []
  equations : List String := []

/-- The kind of number of a given name. -/
def readKind (option value : String) : Except Stop NumberKind :=
  if value = Number.kindName Rat then .ok .rational
  else if value = Number.kindName Float then .ok .floating
  else if value = Number.kindName Int then .ok .integer
  else .error (.invalidValue option value)

/-- The first number of decimals that is too large to be asked for. -/
def digitsRange : Nat :=
  18446744073709551616

/-- A precision written in digits, a plus sign being allowed. -/
def readDigits (option value : String) : Except Stop Nat :=
  let (negative, chars) := Decimal.splitSign value.toList
  let digits := Decimal.digitsValue chars
  if !negative && Decimal.isDigits chars && digits < digitsRange then .ok digits
  else .error (.invalidValue option value)

namespace Request

/-- Give a setting its value. -/
def set (request : Request) (option : String) (value : String) :
    Setting → Except Stop Request
  | .kind =>
      if request.kind.isSome then .error (.repeated option)
      else (readKind option value).map fun kind => { request with kind := some kind }
  | .digits =>
      if request.digits.isSome then .error (.repeated option)
      else (readDigits option value).map fun digits => { request with digits := some digits }

/-- Raise a flag. -/
def raise (request : Request) (option : String) : Flag → Except Stop Request
  | .help => .error .help
  | .version => .error .version
  | flag =>
      if flag ∈ request.flags then .error (.repeated option)
      else .ok { request with flags := flag :: request.flags }

/-- The options asked for, with the given precision if none was read. -/
def options (request : Request) (digits : Nat) : Options where
  kind := request.kind.getD .rational
  digits := request.digits.getD digits
  decimal := .decimal ∈ request.flags
  trace := .trace ∈ request.flags
  list := .list ∈ request.flags
  equations := request.equations

end Request

/-- An argument that is read as an option: a lone dash is not. -/
def looksLikeOption (argument : String) : Bool :=
  match argument.toList with
  | '-' :: _ :: _ => true
  | _ => false

/-- The option that an argument names, how it is written, and the value that
stands in the same argument. -/
def splitOption? (argument : String) : Option ((Setting ⊕ Flag) × String × Option String) :=
  match argument.toList with
  | '-' :: '-' :: long =>
      let (name, value) := Decimal.splitFirst (· = '=') long
      (longOption? (String.ofList name)).map fun option =>
        (option, "--" ++ String.ofList name, value.map String.ofList)
  | '-' :: letter :: attached =>
      (shortOption? letter).map fun option =>
        let value :=
          match attached with
          | [] => none
          | '=' :: value => some value
          | value => some value
        (option, "-" ++ String.singleton letter, value.map String.ofList)
  | _ => none

/-- Read the given arguments behind what was read before. -/
def readArguments (request : Request) : List String → Except Stop Request
  | [] => .ok request
  | argument :: rest =>
      if argument = "--" then .ok { request with equations := request.equations ++ rest }
      else if !looksLikeOption argument then
        readArguments { request with equations := request.equations ++ [argument] } rest
      else
        match splitOption? argument with
        | none => .error (.unknownArgument argument)
        | some (.inl setting, option, some value) =>
            match request.set option value setting with
            | .error stop => .error stop
            | .ok changed => readArguments changed rest
        | some (.inl setting, option, none) =>
            match rest with
            | [] => .error (.missingValue option)
            | value :: rest =>
                if looksLikeOption value then .error (.missingValue option)
                else
                  match request.set option value setting with
                  | .error stop => .error stop
                  | .ok changed => readArguments changed rest
        | some (.inr flag, option, none) =>
            match request.raise option flag with
            | .error stop => .error stop
            | .ok changed => readArguments changed rest
        | some (.inr _, option, some _) => .error (.unexpectedValue option)

/-- The name of the environment variable that holds a precision. -/
def precisionVariable : String :=
  "CALC_RPN_DIGITS"

/-- The options of a command with the given arguments and precision of the environment. -/
def readCommand (environment : Option String) (arguments : List String) :
    Except Stop Options :=
  match readArguments {} arguments with
  | .error stop => .error stop
  | .ok request =>
      match request.digits, environment with
      | none, some value =>
          match readDigits precisionVariable value with
          | .error stop => .error stop
          | .ok digits => .ok (request.options digits)
      | _, _ => .ok (request.options Precision.standardDigits)

example : readCommand (some "x") ["-d5", "1 2 +", "--backend=entier", "--", "-3"] =
    .ok { kind := .integer, digits := 5, equations := ["1 2 +", "-3"] } := by
  rfl

example : readCommand none ["--liste", "-d", "7", "--liste"] = .error (.repeated "--liste") := by
  rfl

/-- The name of the environment variable that says what is logged. -/
def logVariable : String :=
  "RUST_LOG"

/-- The logger for a level named in the environment; warnings are logged if the
variable is missing, and nothing if it names no level. -/
def readLogger (environment : Option String) : Logger :=
  match environment.map String.toLower with
  | none | some "warn" | some "info" => .upTo .warn
  | some "debug" => .upTo .debug
  | some "trace" => .upTo .trace
  | some _ => .silent

end PostfixCalc.CommandLine
