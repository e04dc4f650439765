import PlanChain.Command.Outcome
import Std.Time

set_option autoImplicit false

namespace PlanChain.Command

def Task.paths : Task → List String
  | .execute plan _ _ | .hash plan | .run plan _ => [plan]
  | .verify plan recorded => [plan, recorded]

def Request.paths : Request → List String
  | .task config wanted => config.toList ++ wanted.paths
  | .version | .help => []

def errorNumber (code : UInt32) : Nat := min code.toNat (0 - code).toNat

def systemMessage (code : UInt32) (details : String) : String :=
  let number := errorNumber code
  let words := match number with
    | 2 => "No such file or directory"
    | 13 => "Permission denied"
    | 20 => "Not a directory"
    | 21 => "Is a directory"
    | _ => details
  words ++ " (os error " ++ Text.numeral number ++ ")"

def describeError : IO.Error → String
  | .noFileOrDirectory _ code details | .interrupted _ code details
  | .alreadyExists _ code details | .invalidArgument _ code details
  | .permissionDenied _ code details | .resourceExhausted _ code details
  | .inappropriateType _ code details | .noSuchThing _ code details
  | .otherError code details | .resourceBusy code details | .resourceVanished code details
  | .unsupportedOperation code details | .hardwareFault code details
  | .unsatisfiedConstraints code details | .illegalOperation code details
  | .protocolError code details | .timeExpired code details => systemMessage code details
  | .unexpectedEof => "unexpected end of file"
  | .userError message => message

def readText (path : String) : IO (Except String String) := do
  match ← (IO.FS.readBinFile path).toBaseIO with
  | .error error => return .error (describeError error)
  | .ok bytes =>
    match String.fromUTF8? bytes with
    | none => return .error "stream did not contain valid UTF-8"
    | some text => return .ok text

def currentMoment : IO Timestamp := do
  let now ← Std.Time.Timestamp.now
  let elapsed := now.toNanosecondsSinceUnixEpoch.val
  return ⟨elapsed / 1000000000, (elapsed % 1000000000).toNat⟩

def usage : String :=
  "Usage: dar [--config FILE] [--log-json] execute|verify|hash|run --plan FILE [options]"

def answer (arguments : List String) : IO UInt32 := do
  let paths := match Request.ofArguments? arguments with
    | none => []
    | some request => request.paths
  let texts ← paths.mapM fun path => return (path, ← readText path)
  let files : Files := fun path => (texts.lookup path).getD (.error "not read")
  let report := respond files (.stopped (← currentMoment)) arguments
  match report.output with
  | some text => IO.println text
  | none => if report.exitCode = 0 then IO.println usage
  match report.error with
  | some message => IO.eprintln ("Error: " ++ message)
  | none => if report.exitCode = 2 then IO.eprintln usage
  return report.exitCode.toUInt32

end PlanChain.Command

def main (arguments : List String) : IO UInt32 := PlanChain.Command.answer arguments
