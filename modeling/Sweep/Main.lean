import Sweep.CommandLine.Session

/-!
The program: the command line on the machine that it runs on.
-/

namespace Sweep.Program

def string (t : Text) : String := String.ofList t

def faultOf : IO.Error → FileFault
  | .noFileOrDirectory .. => .missing
  | .inappropriateType _ 21 _ => .isDirectory
  | .inappropriateType .. => .notDirectory
  | .alreadyExists .. => .alreadyExists
  | .invalidArgument _ 36 _ => .nameTooLong
  | .invalidArgument _ 40 _ => .tooManyLinks
  | e => .other e.toString.toList

def attempt (call : IO α) : IO (Except FileFault α) := do
  pure ((← call.toBaseIO).mapError faultOf)

def locationOf (path : String) : Location :=
  (Text.split path.toList '/').filter fun name => name != []

def resolve (p : Path) : IO (Except FileFault Location) := do
  match ← attempt (IO.FS.realPath (string p.text)) with
  | .ok path => pure (.ok (locationOf path.toString))
  | .error fault =>
    match ← attempt (IO.FS.readBinFile (string p.text)) with
    | .ok _ => pure (.error fault)
    | .error fault => pure (.error fault)

/-- The mark of a read-only directory is not looked at: the library does not tell it. -/
def isWritable (l : Location) : IO Bool := do
  match ← attempt (IO.FS.realPath (string l.path.text)) with
  | .ok path => path.isDir
  | .error _ => pure false

/-- The files at and below a location, with the names that lead to them from the first one. What
cannot be looked at is passed over, and so are links to directories. -/
partial def filesFrom (l names : Location) : IO (List Location) := do
  try
    let path ← IO.FS.realPath (string (l ++ names).path.text)
    match (← path.metadata).type with
    | .file => pure [names]
    | .dir =>
      let mut found := []
      for entry in ← path.readDir do
        let below := names ++ [entry.fileName.toList]
        match (← entry.path.symlinkMetadata).type with
        | .symlink => if !(← entry.path.isDir) then found := found ++ (← filesFrom l below)
        | _ => found := found ++ (← filesFrom l below)
      pure found
    | _ => pure []
  catch _ =>
    pure []

partial def readAll (stream : IO.FS.Stream) (read : ByteArray) : IO ByteArray := do
  let more ← stream.read 65536
  if more.isEmpty then pure read else readAll stream (read ++ more)

def machine : Machine IO where
  resolve := resolve
  isWritable := isWritable
  filesUnder l := filesFrom l []
  read p := attempt do
    pure (← IO.FS.readBinFile (string p.text)).toList
  write p content := attempt (IO.FS.writeBinFile (string p.text) ⟨content.toArray⟩)
  createDirectories p := attempt (IO.FS.createDirAll (string p.text))
  input := do
    pure (← readAll (← IO.getStdin) .empty).toList
  print text := do
    let stream ← IO.getStdout
    stream.putStr (string text)
    stream.flush
  printError text := do
    let stream ← IO.getStderr
    stream.putStr (string text)

def variableOf (name : String) : IO (Option Text) := do
  pure ((← IO.getEnv name).map String.toList)

end Sweep.Program

open Sweep Sweep.Program in
def main (arguments : List String) : IO UInt32 := do
  let environment := ⟨← variableOf "BATCHREP_ROOT", ← variableOf "BATCHREP_CONFIG"⟩
  match CommandLine.parse environment (arguments.map String.toList) with
  | .error .usage =>
    machine.printError CommandLine.usageLine
    pure 2
  | .error .help =>
    machine.print CommandLine.usageLine
    pure 0
  | .error .version =>
    machine.print CommandLine.versionLine
    pure 0
  | .ok (action, options) =>
    let home := ((← variableOf "HOME").filter fun t => t != []).map Sweep.Path.mk
    let code ← CommandLine.perform machine home action options
    pure code.toUInt32
