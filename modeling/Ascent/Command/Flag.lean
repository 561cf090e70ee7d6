import Ascent.Command.Duration
import Ascent.Command.Template
import Ascent.Csv.Read
import Ascent.Decimal.Read

/-!
# Flags

The flags of a command and how they are given: `--name value`, `--name=value`,
`-n value`, `-nvalue` or `-n=value`.  Arguments that are no flags are passed
over, and `--` ends the flags.  The first flag that cannot be used ends the
reading.
-/

namespace Ascent.Command

/-- What a flag holds. -/
inductive Kind where
  | int
  | float
  | duration
  | text
  /-- A list with one member per use of the flag. -/
  | texts
  /-- A list of comma-separated values. -/
  | list
deriving DecidableEq, Repr

/-- The name of a kind in a usage text. -/
def Kind.label : Kind → String
  | .int => "int"
  | .float => "float"
  | .duration => "duration"
  | .text => "string"
  | .texts => "stringArray"
  | .list => "strings"

/-- A flag of a command. -/
structure Flag where
  name : String
  shorthand : Option Char
  kind : Kind
  /-- What the flag is for. -/
  purpose : String
  /-- The default as it is shown; a default of zero is not. -/
  shownDefault : Option String
deriving DecidableEq, Repr

/-- What was given for a flag. -/
inductive Setting where
  | int (value : Int)
  | float (value : Float)
  | duration (nanoseconds : Int)
  | text (value : String)
  | list (values : List String)

/-- Read what is given for a flag; a failure is a text. -/
def Kind.read (kind : Kind) (given : String) : Except String Setting :=
  match kind with
  | .int =>
      match Numeral.literal given with
      | .ok value => .ok (.int value)
      | .error failure => .error (failure.complaint "ParseInt" given)
  | .float =>
      match Decimal.read given with
      | .ok value => .ok (.float value)
      | .error failure => .error (failure.complaint "ParseFloat" given)
  | .duration =>
      match Duration.parse given with
      | .ok value => .ok (.duration value)
      | .error failure => .error failure.message
  | .text => .ok (.text given)
  | .texts => .ok (.text given)
  | .list =>
      if given.isEmpty then .ok (.list [])
      else
        match Csv.readRecord given with
        | .ok values => .ok (.list values)
        | .error failure => .error failure.message

namespace Flag

/-- A flag as it is named in a complaint. -/
def shown (flag : Flag) : String :=
  match flag.shorthand with
  | some c => "-" ++ String.singleton c ++ ", --" ++ flag.name
  | none => "--" ++ flag.name

/-! ## Usage texts -/

/-- The front of a flag's line in a usage text. -/
def usageFront (flag : Flag) : String :=
  (match flag.shorthand with
    | some c => "  -" ++ String.singleton c ++ ", --"
    | none => "      --") ++ flag.name ++ " " ++ flag.kind.label

/-- The rest of a flag's line in a usage text. -/
def usageBack (flag : Flag) : String :=
  flag.purpose ++
    match flag.shownDefault with
    | some text => " (default " ++ text ++ ")"
    | none => ""

/-- The usage text of a command: a line per flag, the explanations below each
other. -/
def usage (command : String) (flags : List Flag) : String :=
  let width := flags.foldl (fun width flag => max width flag.usageFront.length) 0
  let line (flag : Flag) : String :=
    flag.usageFront ++ "".pushn ' ' (width - flag.usageFront.length + 3) ++ flag.usageBack ++ "\n"
  "Usage of " ++ command ++ ":\n" ++ String.join (flags.map line)

/-! ## Reading -/

/-- Why the arguments of a command cannot be used. -/
inductive Failure where
  | help
  | badSyntax (argument : String)
  | unknown (name : String)
  | unknownShorthand (letter : Char) (letters : String)
  | noArgument (argument : String)
  | noShorthandArgument (letter : Char) (letters : String)
  | badValue (given flag reason : String)
deriving DecidableEq, Repr

/-- The wording of a failure. -/
def Failure.message : Failure → String
  | .help => "pflag: help requested"
  | .badSyntax argument => "bad flag syntax: " ++ argument
  | .unknown name => "unknown flag: --" ++ name
  | .unknownShorthand letter letters =>
      "unknown shorthand flag: " ++ Text.quoteChar letter ++ " in -" ++ letters
  | .noArgument argument => "flag needs an argument: " ++ argument
  | .noShorthandArgument letter letters =>
      "flag needs an argument: " ++ Text.quoteChar letter ++ " in -" ++ letters
  | .badValue given flag reason =>
      "invalid argument " ++ Text.quote given ++ " for " ++ Text.quote flag ++ " flag: " ++ reason

/-- What is written about a failure before the usage text.  The complaint about a
value is taken for a template; help needs no words. -/
def Failure.notice : Failure → String
  | .help => ""
  | .badValue given flag reason =>
      Template.expand (Failure.badValue given flag reason).message ++ "\n"
  | failure => failure.message ++ "\n"

/-- A setting of the flag with a name. -/
abbrev Given :=
  String × Setting

/-- Give a value to a flag. -/
def give (flag : Flag) (given : String) : Except Failure Given :=
  match flag.kind.read given with
  | .ok setting => .ok (flag.name, setting)
  | .error reason => .error (.badValue given flag.shown reason)

/-- The octet that a character starts with, as a character. -/
def firstOctet (c : Char) : Char :=
  match (String.singleton c).toUTF8.toList with
  | octet :: _ => Char.ofNat octet.toNat
  | [] => c

/-- Read `--name` or `--name=value`: the setting, and the arguments behind it. -/
def readLong (flags : List Flag) (argument : String) (rest : List String) :
    Except Failure (Given × List String) :=
  let body := argument.toList.drop 2
  let name := String.ofList (body.takeWhile (· != '='))
  if body.head? == some '-' || body.head? == some '=' then .error (.badSyntax argument)
  else
    match flags.find? (·.name == name) with
    | none => .error (if name == "help" then .help else .unknown name)
    | some flag =>
        match body.dropWhile (· != '=') with
        | _ :: value => do return (← flag.give (String.ofList value), rest)
        | [] =>
            match rest with
            | value :: rest => do return (← flag.give value, rest)
            | [] => .error (.noArgument argument)

/-- Read `-n`, `-nvalue` or `-n=value`: the setting, if there is one, and the
arguments behind it. -/
def readShort (flags : List Flag) (argument : String) (rest : List String) :
    Except Failure (Option Given × List String) :=
  let letters := argument.toList.drop 1
  let shown := String.ofList letters
  if "test.".toList.isPrefixOf letters then .ok (none, rest)
  else
    match letters with
    | [] => .ok (none, rest)
    | letter :: behind =>
        match flags.find? (·.shorthand == some letter) with
        | none =>
            .error (if letter == 'h' then .help else .unknownShorthand (firstOctet letter) shown)
        | some flag =>
            match behind with
            | '=' :: c :: more => do return (some (← flag.give (String.ofList (c :: more))), rest)
            | c :: more => do return (some (← flag.give (String.ofList (c :: more))), rest)
            | [] =>
                match rest with
                | value :: rest => do return (some (← flag.give value), rest)
                | [] => .error (.noShorthandArgument letter shown)

/-- Read arguments.  The first argument bounds their number. -/
def readFrom (flags : List Flag) : Nat → List String → Except Failure (List Given)
  | 0, _ => .ok []
  | _, [] => .ok []
  | fuel + 1, argument :: rest =>
      match argument.toList with
      | '-' :: '-' :: more =>
          if more.isEmpty then .ok []
          else do
            let (given, rest) ← readLong flags argument rest
            return given :: (← readFrom flags fuel rest)
      | '-' :: _ :: _ => do
          let (given, rest) ← readShort flags argument rest
          return given.toList ++ (← readFrom flags fuel rest)
      | _ => readFrom flags fuel rest

/-- The settings given by the arguments of a command, in their order. -/
def read (flags : List Flag) (arguments : List String) : Except Failure (List Given) :=
  readFrom flags arguments.length arguments

end Flag

end Ascent.Command
