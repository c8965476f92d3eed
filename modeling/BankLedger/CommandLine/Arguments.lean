/-!
# Arguments of the program

The program is given the batch to run, and options that come with a value: either behind an equals
sign or as the next argument. An option may be given once. What begins with a hyphen is an option,
unless it comes after two hyphens that stand alone; the value of an option does not begin with a
hyphen unless there is an equals sign.

The two options of a single letter come without a value, and letters may be written together behind
one hyphen. Each of the two settles what the program does, so the letters behind it do not matter.

## Main definitions

* `Invocation`: What the program is to do.
* `Arguments.parse`: Reads the arguments.
-/

namespace BankLedger

/-- How the log is written. -/
inductive LogFormat where
  | text
  | json
deriving DecidableEq

/-- What the program is to do. -/
structure Invocation where
  input : String
  /-- The database that was asked for, if one was. -/
  database : Option String
  /-- The file with the settings, if there is one. -/
  config : Option String
  logFormat : LogFormat
  /-- How many milliseconds a call of the store may take, if not as the settings say. -/
  storageTimeout : Option Nat
deriving DecidableEq

namespace Arguments

/-- What is wrong with the arguments. -/
inductive Misuse where
  | unknown (argument : String)
  | noValue (option : String)
  /-- The option does not take this value. -/
  | badValue (option value : String)
  | repeated (option : String)
  /-- There is one argument too many. -/
  | extra (argument : String)
  | noInput
deriving DecidableEq

/-- What is wrong, in words. -/
def Misuse.message : Misuse → String
  | .unknown a => "error: unexpected argument '" ++ a ++ "' found"
  | .noValue o => "error: a value is required for '" ++ o ++ "' but none was supplied"
  | .badValue o v => "error: invalid value '" ++ v ++ "' for '" ++ o ++ "'"
  | .repeated o => "error: the argument '" ++ o ++ "' cannot be used multiple times"
  | .extra a => "error: unexpected argument '" ++ a ++ "' found"
  | .noInput => "error: the following required arguments were not provided:\n  <INPUT>"

/-- What the arguments ask for. -/
inductive Request where
  | run (i : Invocation)
  | help
  | version
deriving DecidableEq

/-- An option with a value. -/
inductive Flag where
  | database
  | config
  | logFormat
  /-- The time for a call of the store. -/
  | storageTimeout
deriving DecidableEq

/-- How an option is written. -/
def Flag.name : Flag → String
  | .database => "--db-path"
  | .config => "--config"
  | .logFormat => "--log-format"
  | .storageTimeout => "--storage-timeout-ms"

/-- The option that is written in some way. -/
def Flag.ofName? (s : String) : Option Flag :=
  [Flag.database, .config, .logFormat, .storageTimeout].find? (·.name == s)

/-- What has been read of the arguments. -/
structure Draft where
  input : Option String
  database : Option String
  config : Option String
  logFormat : Option LogFormat
  /-- The time for a call of the store. -/
  storageTimeout : Option Nat

/-- Nothing has been read. -/
def Draft.empty : Draft := ⟨none, none, none, none, none⟩

/-- The option has been given. -/
def Draft.has (d : Draft) : Flag → Bool
  | .database => d.database.isSome
  | .config => d.config.isSome
  | .logFormat => d.logFormat.isSome
  | .storageTimeout => d.storageTimeout.isSome

/-- A name of a file is not empty. -/
def pathOf? (value : String) : Option String := if value.isEmpty then none else some value

/-- The log format of a name. -/
def formatOf? (value : String) : Option LogFormat :=
  if value = "text" then some .text else if value = "json" then some .json else none

/-- A number of milliseconds: digits, perhaps behind a plus, of a number of 64 bits. -/
def millisecondsOf? (value : String) : Option Nat :=
  let cs := value.toList
  let ds := if cs.head? = some '+' then cs.tail else cs
  if ds.isEmpty || !ds.all Char.isDigit then none
  else
    let n := Nat.ofDigitChars 10 ds 0
    if n < UInt64.size then some n else none

/-- Sets the value of an option, if the option takes it. -/
def Draft.put? (d : Draft) (value : String) : Flag → Option Draft
  | .database => (pathOf? value).map fun v => { d with database := some v }
  | .config => (pathOf? value).map fun v => { d with config := some v }
  | .logFormat => (formatOf? value).map fun v => { d with logFormat := some v }
  | .storageTimeout => (millisecondsOf? value).map fun v => { d with storageTimeout := some v }

/-- Takes the value of an option that is given once. -/
def Draft.set (d : Draft) (f : Flag) (value : String) : Except Misuse Draft :=
  if d.has f then .error (.repeated f.name)
  else match d.put? value f with
    | some d => .ok d
    | none => .error (.badValue f.name value)

/-- Takes an argument that is no option. -/
def Draft.setInput (d : Draft) (argument : String) : Except Misuse Draft :=
  if d.input.isSome then .error (.extra argument)
  else match pathOf? argument with
    | some v => .ok { d with input := some v }
    | none => .error (.badValue "<INPUT>" argument)

/-- The request, once all arguments have been read. -/
def Draft.finish (d : Draft) : Except Misuse Request :=
  match d.input with
  | some input =>
      .ok (.run ⟨input, d.database, d.config, d.logFormat.getD .text, d.storageTimeout⟩)
  | none => .error .noInput

/-- Reads the arguments after two hyphens: none of them is an option. -/
def parseInputs (d : Draft) : List String → Except Misuse Request
  | [] => d.finish
  | a :: rest => (d.setInput a).bind fun d => parseInputs d rest

/-- The argument looks like an option. -/
def isOption (a : String) : Bool := a.toList.head? == some '-' && a != "-"

/-- Splits an option at its first equals sign. -/
def splitOption (a : String) : String × Option String :=
  let cs := a.toList
  let name := cs.takeWhile (· != '=')
  (String.ofList name,
    if name.length < cs.length then some (String.ofList (cs.drop (name.length + 1))) else none)

/-- Reads the arguments from here on. -/
def parseFrom (d : Draft) (args : List String) : Except Misuse Request :=
  match args with
  | [] => d.finish
  | a :: rest =>
      if a = "--" then parseInputs d rest
      else if a = "--help" || a.startsWith "-h" then .ok .help
      else if a = "--version" || a.startsWith "-V" then .ok .version
      else if isOption a then
        let (name, value) := splitOption a
        match Flag.ofName? name, value, rest with
        | none, _, _ => .error (.unknown a)
        | some f, some v, rest => (d.set f v).bind fun d => parseFrom d rest
        | some f, none, [] => .error (.noValue f.name)
        | some f, none, v :: rest =>
            if isOption v then .error (.noValue f.name)
            else (d.set f v).bind fun d => parseFrom d rest
      else (d.setInput a).bind fun d => parseFrom d rest
termination_by args.length
decreasing_by all_goals grind

/-- Reads the arguments. -/
def parse (args : List String) : Except Misuse Request := parseFrom .empty args

end Arguments

end BankLedger
