import PlanChain.Table
import PlanChain.Text.Digits
import PlanChain.Word

/-! Options have long names; a value follows its name after `=` or as the next argument, which must not look
like an option. Options of the whole program may stand before or after the command; where both are given, the
latter counts. Every option is given once at most. -/

set_option autoImplicit false

namespace PlanChain.Command

inductive ValueKind where
  | path
  | text
  | integer
deriving DecidableEq

inductive Task where
  | execute (plan : String) (maxSteps : Option Int64) (traceId : Option String)
  | verify (plan recorded : String)
  | hash (plan : String)
  | run (plan agentId : String)
deriving DecidableEq

inductive Request where
  | task (config : Option String) (task : Task)
  | version
  | help
deriving DecidableEq

inductive Stop where
  | usage
  | version
  | help
deriving DecidableEq

structure Level where
  options : List (String × ValueKind)
  commands : List String := []

def configOption : String × ValueKind := ("config", .path)

def logOption : String := "log-json"

def program : Level :=
  ⟨[configOption], ["execute", "verify", "hash", "run", "help"]⟩

def command (name : String) : Level :=
  ⟨configOption :: ("plan", .path) :: match name with
    | "execute" => [("max-steps", .integer), ("trace-id", .text)]
    | "verify" => [("recorded", .path)]
    | "run" => [("agent-id", .text)]
    | _ => [], []⟩

namespace Level

def isProgram (level : Level) : Bool := !level.commands.isEmpty

end Level

def int64? (text : String) : Option Int64 :=
  let value : Option Int := match text.toList with
    | '-' :: digits => (Text.decimal? digits).map fun value => -(value : Int)
    | '+' :: digits => (Text.decimal? digits).map fun value => (value : Int)
    | digits => (Text.decimal? digits).map fun value => (value : Int)
  value.bind Word.int64?

def ValueKind.admits : ValueKind → String → Bool
  | path, value => !value.isEmpty
  | text, _ => true
  | integer, value => (int64? value).isSome

def splitOption (option : List Char) : String × Option String :=
  match option.dropWhile (· ≠ '=') with
  | [] => (String.ofList option, none)
  | _ :: value => (String.ofList (option.takeWhile (· ≠ '=')), some (String.ofList value))

def looksLikeOption (argument : String) : Bool :=
  match argument.toList with
  | '-' :: _ :: _ => true
  | _ => false

def accept (given : Table String) (name : String) (kind : ValueKind) (value : String) :
    Except Stop (Table String) :=
  if given.contains name || !kind.admits value then .error .usage
  else .ok (given.insert name value)

inductive Argument where
  | long (name : String) (value : Option String)
  | short (letter : Char)
  | word (text : String)

def Argument.of (argument : String) : Argument :=
  match argument.toList with
  | '-' :: '-' :: option => let (name, value) := splitOption option; .long name value
  | '-' :: letter :: _ => .short letter
  | _ => .word argument

-- Reads the options of a level, up to a command or to the end: the values given, and the arguments from
-- the command on. An argument `--` may only come last.
def Level.scan (level : Level) (given : Table String) : List String →
    Except Stop (Table String × List String)
  | [] => .ok (given, [])
  | argument :: rest =>
    match Argument.of argument with
    | .word text =>
      if level.commands.contains text then .ok (given, text :: rest) else .error .usage
    | .short letter =>
      if letter = 'h' then .error .help
      else if letter = 'V' && level.isProgram then .error .version
      else .error .usage
    | .long name value =>
      match level.options.lookup name, value, rest with
      | some kind, some value, rest => do level.scan (← accept given name kind value) rest
      | some kind, none, value :: rest =>
        if looksLikeOption value then .error .usage
        else do level.scan (← accept given name kind value) rest
      | some _, none, [] => .error .usage
      | none, some _, _ => .error .usage
      | none, none, rest =>
        if name = logOption && !given.contains name then level.scan (given.insert name "") rest
        else if name = "help" then .error .help
        else if name = "version" && level.isProgram then .error .version
        else if name = "" && rest.isEmpty then .ok (given, [])
        else .error .usage

def task? (name : String) (given : Table String) : Option Task := do
  let plan ← given.get? "plan"
  match name with
  | "execute" => some (.execute plan ((given.get? "max-steps").bind int64?) (given.get? "trace-id"))
  | "verify" => some (.verify plan (← given.get? "recorded"))
  | "hash" => some (.hash plan)
  | "run" => some (.run plan ((given.get? "agent-id").getD "cli"))
  | _ => none

def helpOn : (commands : List String) → Stop
  | [] => .help
  | [name] => if program.commands.contains name then .help else .usage
  | _ => .usage

def read (arguments : List String) : Except Stop Request := do
  let (outer, rest) ← program.scan ∅ arguments
  match rest with
  | [] => .error .usage
  | name :: rest =>
    if name = "help" then .error (helpOn rest)
    else
      let (inner, _) ← (command name).scan ∅ rest
      match task? name inner with
      | none => .error .usage
      | some task => .ok (.task (inner.get? "config" <|> outer.get? "config") task)

def Request.ofArguments? (arguments : List String) : Option Request :=
  match read arguments with
  | .ok request => some request
  | .error .version => some .version
  | .error .help => some .help
  | .error .usage => none

end PlanChain.Command
