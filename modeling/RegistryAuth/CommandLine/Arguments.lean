import RegistryAuth.Text.Split

/-! # Command line arguments

Switches come before a command. The value of a switch follows it as the next
argument or is attached to it, and is taken up when the next argument is read;
an argument that is not known is reported before any fault of the switch before
it. After two hyphens nothing is a switch or a command any more.
-/

namespace RegistryAuth.CommandLine

inductive Switch where
  | config
  | address
  | realm
  | debug
  | help
  | version
deriving DecidableEq, Repr

inductive ArgumentFault where
  | unexpectedArgument (argument : String)
  | unknownCommand (argument : String)
  | unexpectedValue (value : String) (switch : Switch)
  | repeatedSwitch (switch : Switch)
  | missingValue (switch : Switch)
deriving DecidableEq, Repr

/-- Why the arguments are not read to their end. -/
inductive Stop where
  | help
  | version
  | fault (fault : ArgumentFault)
deriving DecidableEq, Repr

structure Arguments where
  config : Option String
  address : Option String
  realm : Option String
  debug : Bool
  /-- Whether a password is to be hashed instead of serving. -/
  hashPassword : Bool
deriving DecidableEq, Repr

namespace Switch

def ofLongName? (name : List Char) : Option Switch :=
  if name = "config".toList then some config
  else if name = "addr".toList then some address
  else if name = "realm".toList then some realm
  else if name = "debug".toList then some debug
  else if name = "help".toList then some help
  else if name = "version".toList then some version
  else none

def ofShortName? (name : Char) : Option Switch :=
  if name = 'c' then some config
  else if name = 'h' then some help
  else if name = 'V' then some version
  else none

def takesValue : Switch → Bool
  | config | address | realm => true
  | debug | help | version => false

/-- A switch as messages show it. -/
def usage : Switch → String
  | config => "--config <PATH>"
  | address => "--addr <ADDR>"
  | realm => "--realm <REALM>"
  | debug => "--debug"
  | help => "--help"
  | version => "--version"

end Switch

def ArgumentFault.message : ArgumentFault → String
  | unexpectedArgument argument => s!"unexpected argument '{argument}' found"
  | unknownCommand argument => s!"unrecognized subcommand '{argument}'"
  | unexpectedValue value switch =>
    s!"unexpected value '{value}' for '{switch.usage}' found; no more were expected"
  | repeatedSwitch switch => s!"the argument '{switch.usage}' cannot be used multiple times"
  | missingValue switch => s!"a value is required for '{switch.usage}' but none was supplied"

def hashCommand : String := "hash-password"

def helpCommand : String := "help"

def isCommand (argument : String) : Bool :=
  argument == hashCommand || argument == helpCommand

def isLong (argument : List Char) : Bool :=
  ['-', '-'].isPrefixOf argument && argument.length > 2

def isShort (argument : List Char) : Bool :=
  argument.head? = some '-' && argument.length > 1 && argument.take 2 != ['-', '-']

/-- The name of a long switch and the value attached to it. -/
def longParts (argument : List Char) : List Char × Option String :=
  let body := argument.drop 2
  match Text.splitFirst? '=' body with
  | some (name, value) => (name, some (String.ofList value))
  | none => (body, none)

def unexpected {α : Type} (argument : String) : Except Stop α :=
  .error (.fault (.unexpectedArgument argument))

/-- The arguments read so far and a switch whose value, if it has one yet, is still to be taken
up. -/
structure Reading where
  arguments : Arguments
  pending : Option (Switch × Option String)

namespace Reading

def start : Reading := ⟨⟨none, none, none, false, false⟩, none⟩

def awaitsValue (reading : Reading) : Bool :=
  reading.pending.any fun (_, value) => value.isNone

def repeated (arguments : Arguments) : Switch → Bool
  | .config => arguments.config.isSome
  | .address => arguments.address.isSome
  | .realm => arguments.realm.isSome
  | .debug => arguments.debug
  | _ => false

/-- Takes up the value of a switch, once. The path of a file is not empty. -/
def takeUp (arguments : Arguments) (switch : Switch) (value : String) : Except Stop Arguments :=
  if repeated arguments switch then .error (.fault (.repeatedSwitch switch))
  else match switch with
    | .config =>
      if value.isEmpty then .error (.fault (.missingValue switch))
      else .ok { arguments with config := some value }
    | .address => .ok { arguments with address := some value }
    | .realm => .ok { arguments with realm := some value }
    | .debug => .ok { arguments with debug := true }
    | .help => .error .help
    | .version => .error .version

def settle (reading : Reading) : Except Stop Arguments :=
  match reading.pending with
  | none => .ok reading.arguments
  | some (switch, none) => .error (.fault (.missingValue switch))
  | some (switch, some value) => takeUp reading.arguments switch value

/-- Reads a switch with the value attached to it, if any. -/
def readSwitch (reading : Reading) (switch : Switch) (attached : Option String) :
    Except Stop Reading :=
  if switch.takesValue then
    match attached with
    | some value => do return ⟨← takeUp (← reading.settle) switch value, none⟩
    | none => do return ⟨← reading.settle, some (switch, none)⟩
  else
    match attached with
    | some value => .error (.fault (.unexpectedValue value switch))
    | none => do return ⟨← takeUp (← reading.settle) switch "", none⟩

def readLong (reading : Reading) (argument : List Char) : Except Stop Reading :=
  let (name, attached) := longParts argument
  match Switch.ofLongName? name with
  | some switch => reading.readSwitch switch attached
  | none => unexpected (String.ofList ('-' :: '-' :: name))

/-- Reads switches by their letters. What follows a letter whose switch takes a value is its
value, after an equals sign or right away. -/
def readShort (reading : Reading) : List Char → Except Stop Reading
  | [] => .ok reading
  | letter :: rest =>
    match Switch.ofShortName? letter with
    | none => unexpected (String.ofList ['-', letter])
    | some switch =>
      if switch.takesValue then
        match rest with
        | [] => reading.readSwitch switch none
        | '=' :: value => reading.readSwitch switch (some (String.ofList value))
        | value => reading.readSwitch switch (some (String.ofList value))
      else do readShort (← reading.readSwitch switch none) rest

/-- Reads what follows two hyphens, of which nothing can be used. -/
def readTrailing (reading : Reading) : List String → Except Stop Arguments
  | [] => reading.settle
  | argument :: _ =>
    if isCommand argument then unexpected argument
    else .error (.fault (.unknownCommand argument))

/-- The letters of an argument after a command, of which only the one for help is known. -/
def readCommandLetters : List Char → Except Stop Unit
  | [] => .ok ()
  | letter :: _ =>
    if letter = 'h' then .error .help else unexpected (String.ofList ['-', letter])

def readCommandArguments : List String → Except Stop Unit
  | [] => .ok ()
  | argument :: rest =>
    let text := argument.toList
    if argument == "--" then
      match rest with
      | [] => .ok ()
      | next :: _ => unexpected next
    else if isLong text then
      match longParts text with
      | (name, attached) =>
        if name = helpCommand.toList then
          match attached with
          | some value => .error (.fault (.unexpectedValue value .help))
          | none => .error .help
        else unexpected (String.ofList ('-' :: '-' :: name))
    else if isShort text then do
      readCommandLetters text.tail
      readCommandArguments rest
    else unexpected argument

def readHelpTopics : List String → Stop
  | [] => .help
  | topic :: rest =>
    if isCommand topic then
      match rest with
      | [] => .help
      | next :: _ => .fault (.unknownCommand next)
    else .fault (.unknownCommand topic)

def read (reading : Reading) : List String → Except Stop Arguments
  | [] => reading.settle
  | argument :: rest =>
    let text := argument.toList
    if !reading.awaitsValue && argument == helpCommand then .error (readHelpTopics rest)
    else if !reading.awaitsValue && argument == hashCommand then do
      readCommandArguments rest
      return { ← reading.settle with hashPassword := true }
    else if argument == "--" then readTrailing reading rest
    else if isLong text then do read (← reading.readLong text) rest
    else if isShort text then do read (← reading.readShort text.tail) rest
    else
      match reading.pending with
      | some (switch, none) => read { reading with pending := some (switch, some argument) } rest
      | _ => .error (.fault (.unknownCommand argument))

end Reading

def Arguments.parse (arguments : List String) : Except Stop Arguments :=
  Reading.start.read arguments

end RegistryAuth.CommandLine
