import CertRegistry.Certificate.Refresh

/-!
# The refresh command

The command that refreshes the statuses of all certificates, with its option for a dry run. A long
option may be cut short as long as it stays unambiguous, and short options may be written together.
The value of an option follows it, after an equals sign or as the next argument. A command line
that asks for help or for the version runs nothing.
-/

namespace CertRegistry.Command

/-- Why a command line is not understood. -/
inductive UsageError
  | unrecognized (arguments : List Text)
  | ambiguous (argument : Text) (options : List Text)
  | explicitValue (option value : Text)
  | missingValue (option : Text)
  | noInteger (option value : Text)
  | noChoice (option : Text) (value : Int)
  | colorConflict
  /-- Help or the version is shown and the command ends. -/
  | shownOnly
deriving DecidableEq

/-- An option with the short form that it has, if any. -/
def title (option : Text) : Text :=
  if option = "--verbosity" then "-v/--verbosity"
  else if option = "--help" then "-h/--help"
  else option

/-- The wording of a usage error. -/
def UsageError.message : UsageError → Text
  | unrecognized arguments => "Error: unrecognized arguments: " ++ Text.join " " arguments
  | ambiguous argument options =>
    "Error: ambiguous option: " ++ argument ++ " could match " ++ Text.join ", " options
  | explicitValue option value =>
    "Error: argument " ++ title option ++ ": ignored explicit argument " ++ value.quoted
  | missingValue option => "Error: argument " ++ title option ++ ": expected one argument"
  | noInteger option value =>
    "Error: argument " ++ title option ++ ": invalid int value: " ++ value.quoted
  | noChoice option value =>
    "Error: argument " ++ title option ++ ": invalid choice: " ++ Text.ofInt value
      ++ " (choose from 0, 1, 2, 3)"
  | colorConflict => "The --no-color and --force-color options can't be used together."
  | shownOnly => "0"

/-- The long options in order. All but the last one are common to all commands. -/
def options : List Text :=
  ["--help", "--version", "--verbosity", "--settings", "--pythonpath", "--traceback", "--no-color",
    "--force-color", "--skip-checks", "--dry-run"]

/-- The options with a value. -/
def valued : List Text := ["--verbosity", "--settings", "--pythonpath"]

/-- The option with a letter as its short form. -/
def shortOption? (letter : Nat) : Option Text :=
  if letter = 104 then some "--help" else if letter = 118 then some "--verbosity" else none

/-- What an argument is: a known option, in its long or its short form and perhaps with more that
is written in it, something that looks like an option, or a value. -/
inductive Argument
  | option (name : Text) (isShort : Bool) (value? : Option Text)
  | unknown (text : Text)
  | value (text : Text)
deriving DecidableEq

/-- A text without a line feed at its end. -/
def dropLineFeed (t : Text) : Text := if t.getLast? = some 10 then t.dropLast else t

/-- Whether an argument is a negative number, which is a value although it begins with a hyphen. -/
def isNegativeNumber : Text → Bool
  | 45 :: t =>
    match Text.cut 46 (dropLineFeed t) with
    | (whole, none) => whole ≠ [] && whole.all Text.isDigit
    | (whole, some fraction) => whole.all Text.isDigit && fraction ≠ [] && fraction.all Text.isDigit
  | _ => false

/-- What an argument is that begins with a hyphen and goes on. -/
def classifyOption (a : Text) : Except UsageError Argument :=
  let (name, value?) := a.cut 61
  match a with
  | 45 :: 45 :: _ =>
    if name ∈ options then .ok (.option name false value?)
    else
      match options.filter fun o => name.isPrefixOf o with
      | [o] => .ok (.option o false value?)
      | [] => .ok (if a.contains 32 then .value a else .unknown a)
      | os => .error (.ambiguous a os)
  | _ =>
    match shortOption? (a.getD 1 0) with
    | some o => .ok (.option o true (if name.length = 2 then value? else some (a.drop 2)))
    | none => .ok (if isNegativeNumber a || a.contains 32 then .value a else .unknown a)

/-- What the arguments are. Nothing is recognized after two hyphens that stand alone. -/
def classify : List Text → Except UsageError (List Argument)
  | [] => .ok []
  | a :: rest =>
    if a = "--" then .ok ((a :: rest).map .unknown)
    else do
      let argument ← if a.head? = some 45 ∧ 1 < a.length then classifyOption a else .ok (.value a)
      return argument :: (← classify rest)

/-- The options that were given. -/
structure Options where
  dryRun : Bool := false
  noColor : Bool := false
  forceColor : Bool := false

/-- The options with one more, which has no value. -/
def Options.add (os : Options) (name : Text) : Options :=
  if name = "--dry-run" then { os with dryRun := true }
  else if name = "--no-color" then { os with noColor := true }
  else if name = "--force-color" then { os with forceColor := true }
  else os

/-- Checks the value of an option. -/
def checkValue (option value : Text) : Except UsageError Unit :=
  if option = "--verbosity" then
    match Integer.ofText value with
    | .error _ => .error (.noInteger option value)
    | .ok n => if 0 ≤ n ∧ n ≤ 3 then .ok () else .error (.noChoice option n)
  else .ok ()

/-- Checks the short options that are written after the one for help, and that a value follows
where the last one has to have one. -/
def checkJoined (rest : List Argument) : Text → Except UsageError Unit
  | [] => .ok ()
  | letter :: r =>
    match shortOption? letter with
    | none => .error (.explicitValue "--help" (letter :: r))
    | some o =>
      if o ∉ valued then checkJoined rest r
      else if r ≠ [] then .ok ()
      else
        match rest with
        | .value _ :: _ => .ok ()
        | _ => .error (.missingValue o)

/-- Reads arguments in order, after the options so far and those that were not recognized. -/
def parse : Options → List Text → List Argument → Except UsageError Options
  | os, [], [] => .ok os
  | _, u :: us, [] => .error (.unrecognized (u :: us))
  | os, us, .unknown t :: rest => parse os (us ++ [t]) rest
  | os, us, .value t :: rest => parse os (us ++ [t]) rest
  | os, us, .option name isShort (some v) :: rest =>
    if name ∈ valued then do
      checkValue name v
      parse os us rest
    else if isShort ∧ v ≠ [] then do
      checkJoined rest v
      throw .shownOnly
    else .error (.explicitValue name v)
  | os, us, .option name _ none :: rest =>
    if name ∈ valued then
      match rest with
      | .value v :: rest => do
        checkValue name v
        parse os us rest
      | _ => .error (.missingValue name)
    else if name = "--help" ∨ name = "--version" then .error .shownOnly
    else parse (os.add name) us rest

/-- Reads a command line. -/
def read (arguments : List Text) : Except UsageError Options := do
  let os ← parse {} [] (← classify arguments)
  if os.noColor && os.forceColor then throw .colorConflict else return os

/-- What the command says. -/
def report (dryRun : Bool) (c : RefreshCounts) : Text :=
  let verb : Text := if dryRun then "将" else "已"
  if c.isZero then "没有需要更新状态的证书"
  else
    verb ++ "标记 " ++ Text.ofNat c.expired ++ " 张证书为已过期，" ++ Text.ofNat c.expiring
      ++ " 张证书为即将过期，" ++ Text.ofNat c.valid ++ " 张证书恢复为有效"

/-- A text between the control sequences for bold green letters. -/
def highlighted (t : Text) : Text := "\x1b[32;1m" ++ t ++ "\x1b[0m"

/-- What the command prints: a line, which stands out where colors are asked for. -/
def output (os : Options) (c : RefreshCounts) : Text :=
  let line := report os.dryRun c
  (if os.forceColor then highlighted line else line) ++ "\n"

/-- Runs the command: the statuses are refreshed as of now. -/
def run (ctx : Context) (os : Options) (s : Store) : Except Failure (Done Text) := do
  let d ← s.refresh ctx none os.dryRun
  return { d with value := output os d.value }

end CertRegistry.Command
