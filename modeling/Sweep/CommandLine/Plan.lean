import Sweep.Revision
import Sweep.Script.Draft

/-!
The plan of a script: what a sweep would do, without a look at any file.
-/

namespace Sweep.CommandLine

def variableLines (table : VariableTable) : Text :=
  table.entries.flatMap fun v => v.name ++ " = ".toList ++ v.value.quote ++ ['\n']

def commandLines (commands : List Command) : Text :=
  (commands.zipIdx 1).flatMap fun (command, number) =>
    Text.ofNat number ++ ". ".toList ++ command.render ++ ['\n']

def plan (parsed : ParsedScript) : Text :=
  "filter ".toList ++ parsed.script.filter ++ ['\n'] ++ variableLines parsed.variables ++
    commandLines parsed.script.commands ++
    Text.ofNat parsed.script.commands.length ++ " command(s)\n".toList

def review (source : Text) : Except SweepError ParsedScript :=
  match ParsedScript.parse source with
  | .error e => .error (.script e)
  | .ok parsed => (compileAll parsed.script.commands).map fun _ => parsed

end Sweep.CommandLine
