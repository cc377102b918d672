import GoldenCheck.Program.ArgumentFile
import GoldenCheck.Program.Compare
import GoldenCheck.Program.Filter
import GoldenCheck.Program.Pairs
import GoldenCheck.Program.Usage
import GoldenCheck.Settings.Search

/-!
# Sessions

A session runs the program on a disk image with an environment and arguments:
the arguments are expanded and understood, settings are found, and the command
is carried out.
-/

namespace GoldenCheck.Program

/-- How a session ends. -/
inductive Ending where
  /-- The command was carried out. -/
  | done (verdict : Verdict)
  /-- Something could not be done. -/
  | failed (failure : Failure)
  /-- No command was started. -/
  | refused (refusal : Refusal)

namespace Ending

/-- The exit status: zero if all is well, one for problems and failures, two for
a command line that is not understood. -/
def status : Ending → Nat
  | .done .clean => 0
  | .done .problems => 1
  | .failed _ => 1
  | .refused .help => 0
  | .refused (.fault _) => 2

/-- The ending of a command. -/
def ofResult : Except Failure Verdict → Ending
  | .ok verdict => .done verdict
  | .error failure => .failed failure

/-- The last words of a session. -/
def lastWords : Ending → Text
  | .failed failure => failure.message ++ ['\n']
  | .refused (.fault fault) => Text.cat ["error: ", fault.message, "\n"]
  | _ => []

end Ending

/-- What a session leaves behind. -/
structure Session where
  ending : Ending
  /-- The printed text. -/
  output : Text
  filter : Filter
  notices : List Notice
  disk : Disk

/-- All that a session says besides its output, given how long it took. -/
def Session.commentary (session : Session) (elapsed : Text) : Text :=
  ((session.filter.complaints ++ session.notices).flatMap
    (Notice.render session.filter.threshold elapsed)) ++ session.ending.lastWords

/-- What is said about where settings come from.  A file that was asked for needs
no mention. -/
def sourceNotices : Settings.Source → List Notice
  | .given _ => []
  | .found path => [.say .settings .debug (Text.cat ["Using config file ", path.cite])]
  | .none _ =>
      [.say .settings .debug
        (Text.cat ["No ", Settings.fileName.cite, " found, using defaults"])]

/-- Carry out a command. -/
def Command.run (disk : Disk) (cores : Nat) (settings : Settings) : Command → Outcome
  | .check request => request.run disk cores settings
  | .compare request => request.run disk settings
  | .pairs request => request.run disk settings

/-- Carry out a request: find the settings and then carry out the command. -/
def Request.run (disk : Disk) (cores : Nat) (request : Request) : Outcome :=
  let source := Settings.source disk request.settingsFile disk.currentPath
  match source.settings disk with
  | .error failure => .failed disk (sourceNotices source) failure
  | .ok settings =>
      let outcome := request.command.run disk cores settings
      { outcome with notices := sourceNotices source ++ outcome.notices }

/-- Run the program. -/
def run (disk : Disk) (environment : Environment) (cores : Nat) (arguments : List Text) :
    Session :=
  match expandArguments disk arguments with
  | .error failure => ⟨.failed failure, [], .silent, [], disk⟩
  | .ok expanded =>
      match Request.parse environment expanded with
      | .error .help => ⟨.refused .help, helpText, .silent, [], disk⟩
      | .error refusal => ⟨.refused refusal, [], .silent, [], disk⟩
      | .ok request =>
          let outcome := request.run disk cores
          { ending := .ofResult outcome.result
            output := (outcome.output.map fun line => line ++ ['\n']).flatten
            filter := Filter.choose (environment.read? logVariable) request.verbose
            notices := outcome.notices
            disk := outcome.disk }

end GoldenCheck.Program
