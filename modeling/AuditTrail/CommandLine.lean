import AuditTrail.Environment
import AuditTrail.Text.Numeral
import AuditTrail.Word

/-!
# The command line

`serve` with its options. An option that is not given takes its value from the environment, and
else a default. Options and their values are read from the left: a value that stands in a word of
its own is looked at only when the next option comes or the line ends, so that a word that cannot
be anything is reported before it.
-/

namespace AuditTrail.CommandLine

/-- Where the entries go. -/
inductive SinkKind where
  | memory
  | file
  deriving DecidableEq, Repr

def SinkKind.ofString? : String → Option SinkKind
  | "memory" => some .memory
  | "jsonl" => some .file
  | _ => none

def SinkKind.name : SinkKind → String
  | memory => "memory"
  | file => "jsonl"

/-- Why a command line asks for nothing to be served. -/
inductive Refusal where
  | help
  | version
  | nothingAsked
  | unknownCommand
  | unknownWord
  /-- An option has no value, or one that is none of its values. -/
  | noSuchValue
  /-- The value of an option cannot be read. -/
  | unreadableValue
  | notText
  /-- A flag has been given a value. -/
  | needlessValue
  | optionRepeated
  deriving DecidableEq, Repr

/-- The exit status: only who has asked for a text gets what was asked for. -/
def Refusal.exitStatus : Refusal → Nat
  | help | version => 0
  | _ => 2

/-- What the caller reads. -/
def Refusal.message : Refusal → String
  | help | nothingAsked =>
    "usage: stawberry serve [-p|--port PORT] [-H|--host HOST] [--sink memory|jsonl] "
      ++ "[--sink-path FILE]"
  | version => "stawberry 0.1.0"
  | unknownCommand => "error: unknown command"
  | unknownWord => "error: unexpected argument"
  | noSuchValue => "error: an option has no value or none of its possible values"
  | unreadableValue => "error: the value of an option cannot be read"
  | notText => "error: a value is not valid UTF-8"
  | needlessValue => "error: an option that takes no value has been given one"
  | optionRepeated => "error: an option has been given more than once"

/-- The options of `serve`. -/
inductive OptionName where
  | port
  | host
  | sink
  | sinkPath
  deriving DecidableEq, Repr

namespace OptionName

def all : List OptionName := [port, host, sink, sinkPath]

def ofLong? : String → Option OptionName
  | "port" => some port
  | "host" => some host
  | "sink" => some sink
  | "sink-path" => some sinkPath
  | _ => none

def ofShort? : Char → Option OptionName
  | 'p' => some port
  | 'H' => some host
  | _ => none

/-- The variable that stands in for an option. -/
def variableName : OptionName → String
  | port => "STAWBERRY_PORT"
  | host => "STAWBERRY_HOST"
  | sink => "STAWBERRY_AUDIT_SINK"
  | sinkPath => "STAWBERRY_AUDIT_SINK_PATH"

end OptionName

/-- The values found so far. A path need not be text. -/
structure Values where
  port : Option Nat
  host : Option String
  sink : Option SinkKind
  sinkPath : Option Bytes
  deriving DecidableEq, Repr

namespace Values

def empty : Values := ⟨none, none, none, none⟩

def has (v : Values) : OptionName → Bool
  | .port => v.port.isSome
  | .host => v.host.isSome
  | .sink => v.sink.isSome
  | .sinkPath => v.sinkPath.isSome

/-- A port: a number below 65536 with an optional sign. -/
def readPort (s : String) : Except Refusal Nat :=
  match Text.intWithin? Word.limit63 s with
  | some n => if 0 ≤ n ∧ n < Word.limit16 then .ok n.toNat else .error .unreadableValue
  | none => .error .unreadableValue

/-- Reads a value for an option. -/
def read (v : Values) (o : OptionName) (raw : Bytes) : Except Refusal Values :=
  match o with
  | .port =>
    match Utf8.decode? raw with
    | some s => (readPort s).map fun n => { v with port := some n }
    | none => .error .notText
  | .host =>
    match Utf8.decode? raw with
    | some s => .ok { v with host := some s }
    | none => .error .notText
  | .sink =>
    match (Utf8.decode? raw).bind SinkKind.ofString? with
    | some k => .ok { v with sink := some k }
    | none => .error .noSuchValue
  | .sinkPath => if raw.isEmpty then .error .noSuchValue else .ok { v with sinkPath := some raw }

/-- Reads a value from the line, where no option may stand twice. -/
def give (v : Values) (o : OptionName) (text : String) : Except Refusal Values :=
  if v.has o then .error .optionRepeated else v.read o (Utf8.encode text)

/-- Reads what the line has left open from the environment. -/
def fill (v : Values) (env : Environment) : Except Refusal Values :=
  OptionName.all.foldlM (fun v o =>
    if v.has o then .ok v
    else match env.entries.lookup o.variableName with
      | some raw => v.read o raw
      | none => .ok v) v

end Values

/-- What is to be served, and where. -/
structure ServeOptions where
  port : Nat
  host : String
  sink : SinkKind
  sinkPath : Bytes
  deriving DecidableEq, Repr

/-- The options with the defaults for those that are still open. -/
def ServeOptions.ofValues (v : Values) : ServeOptions where
  port := v.port.getD 8080
  host := v.host.getD "0.0.0.0"
  sink := v.sink.getD .memory
  sinkPath := v.sinkPath.getD (Utf8.encode "audit.jsonl")

/-- A word of the line, by its hyphens. -/
inductive Word where
  /-- Two hyphens alone: no options come after. -/
  | escape
  | long (name : String) (value : Option String)
  | short (flags : List Char)
  | plain (text : String)
  deriving DecidableEq, Repr

/-- The text after an equals sign at the front. -/
def afterEquals? : List Char → Option String
  | '=' :: value => some (String.ofList value)
  | _ => none

def Word.ofString (s : String) : Word :=
  match s.toList with
  | ['-', '-'] => escape
  | '-' :: '-' :: cs =>
    let name := cs.takeWhile (· ≠ '=')
    long (String.ofList name) (afterEquals? (cs.drop name.length))
  | '-' :: c :: cs => short (c :: cs)
  | _ => plain s

/-- An option whose value has not been read yet, and the value if it has come. -/
structure Pending where
  option : OptionName
  text : Option String
  deriving DecidableEq, Repr

structure Scan where
  values : Values
  pending : Option Pending
  deriving DecidableEq, Repr

namespace Scan

/-- Reads the value that is pending. -/
def resolve (s : Scan) : Except Refusal Values :=
  match s.pending with
  | none => .ok s.values
  | some ⟨o, some text⟩ => s.values.give o text
  | some ⟨_, none⟩ => .error .noSuchValue

/-- Takes an option up, with its value if it stands in the same word. -/
def take (s : Scan) (o : OptionName) (attached : Option String) : Except Refusal Scan := do
  let v ← s.resolve
  match attached with
  | some text => return ⟨← v.give o text, none⟩
  | none => return ⟨v, some ⟨o, none⟩⟩

/-- The text that is attached to a short option, with or without an equals sign. -/
def attachedText? : List Char → Option String
  | [] => none
  | '=' :: cs => some (String.ofList cs)
  | cs => some (String.ofList cs)

/-- Reads one word that is not the escape. -/
def word (s : Scan) (w : Word) : Except Refusal Scan :=
  match w with
  | .long "help" none | .short ('h' :: _) => do
    let _ ← s.resolve
    .error .help
  | .long "help" (some _) => .error .needlessValue
  | .long name value =>
    match OptionName.ofLong? name with
    | some o => s.take o value
    | none => .error .unknownWord
  | .short (c :: cs) =>
    match OptionName.ofShort? c with
    | some o => s.take o (attachedText? cs)
    | none => .error .unknownWord
  | .plain text =>
    match s.pending with
    | some ⟨o, none⟩ => .ok { s with pending := some ⟨o, some text⟩ }
    | _ => .error .unknownWord
  | .short [] | .escape => .error .unknownWord

/-- Reads the words after `serve`. -/
def words (s : Scan) : List String → Except Refusal Values
  | [] => s.resolve
  | w :: ws =>
    match Word.ofString w with
    | .escape => if ws.isEmpty then s.resolve else .error .unknownWord
    | w => do words (← s.word w) ws

end Scan

/-- The commands. -/
def isCommand (s : String) : Bool :=
  s == "serve" || s == "help"

/-- What `help` answers to the commands that follow it. -/
def helpOn : List String → Refusal
  | [] => .help
  | [command] => if isCommand command then .help else .unknownCommand
  | _ => .unknownCommand

def serve (words : List String) (env : Environment) : Except Refusal ServeOptions := do
  let given ← Scan.words ⟨.empty, none⟩ words
  return .ofValues (← given.fill env)

/-- What the first word refuses, if it is not a command. -/
def refusalOf (w : Word) (rest : List String) : Refusal :=
  match w with
  | .long "help" none | .short ('h' :: _) => .help
  | .long "version" none | .short ('V' :: _) => .version
  | .long "help" (some _) | .long "version" (some _) => .needlessValue
  | .long _ _ | .short _ => .unknownWord
  | .plain _ => .unknownCommand
  | .escape =>
    match rest with
    | [] => .nothingAsked
    | next :: _ => if isCommand next then .unknownWord else .unknownCommand

/-- Reads the words of a command line after the name of the program. -/
def parse (words : List String) (env : Environment) : Except Refusal ServeOptions :=
  match words with
  | [] => .error .nothingAsked
  | "serve" :: rest => serve rest env
  | "help" :: rest => .error (helpOn rest)
  | first :: rest => .error (refusalOf (Word.ofString first) rest)

end AuditTrail.CommandLine
