-- The program: it looks at what the arguments name, answers, shows the answer, and writes the output.
import SqlDump.CommandLine

namespace SqlDump

/-- What stands at a path, with the bytes of a file where they are asked for. A folder is what can be
opened with a step to itself behind it. -/
def lookAt (path : String) (bytes : Bool) : IO (Option Node) := do
  try
    let _ ← IO.FS.Handle.mk (path ++ "/.") .read
    return some .folder
  catch _ =>
    try
      if bytes then return some (.file (← IO.FS.readBinFile path).toList)
      let _ ← IO.FS.Handle.mk path .read
      return some (.file [])
    catch _ => return none

/-- Adds what stands at each place on the way along a path. -/
def observe (tree : FileTree) (path : String) (bytes : Bool) : IO FileTree := do
  let mut tree := tree
  let mut place := tree.start path
  let mut way := ""
  for step in (FileTree.steps? path).getD [] do
    place := FileTree.stepFrom place step
    way := if way.isEmpty && !path.startsWith "/" then step else way ++ "/" ++ step
    unless place <+: tree.working do
      match ← lookAt way bytes with
      | some node => tree := tree.put place node
      | none => pure ()
  return tree

/-- The part of the world that a request can see, from the folder where the program runs. -/
def observeAll : Request → IO FileTree
  | .convert i => do
    let working := ((← IO.currentDir).toString.splitOn "/").filter (!·.isEmpty)
    let tree ← observe { working } i.output false
    let tree ← match i.config with
      | some path => observe tree path true
      | none => pure tree
    observe tree i.input true
  | _ => return {}

/-- Shows what went wrong, the work before the fault. -/
def showFailure (failure : Failure) : IO Unit := do
  match failure.context with
  | none => IO.eprintln ("error: " ++ failure.fault.message)
  | some work =>
    IO.eprintln ("error: " ++ work ++ "\n\nCaused by:\n    " ++ failure.fault.message)

/-- Writes the file that a conversion has made. -/
def writeOutput (report : Report) : Request → IO Unit
  | .convert i =>
    match report.failure, report.tree.fileAt? i.output with
    | none, some bytes => IO.FS.writeBinFile i.output ⟨bytes.toArray⟩
    | _, _ => return ()
  | _ => return ()

/-- Answers to arguments, and gives the exit code. -/
def runProgram (arguments : List String) : IO UInt32 := do
  let request := Request.ofArguments arguments
  let (code, report) := answer arguments (← observeAll request)
  if request = .misuse then IO.eprintln usageLine
  for event in report.events do IO.eprintln event.logged
  try
    writeOutput report request
  catch e =>
    IO.eprintln s!"error: {e}"
    return 1
  for line in report.printed do IO.println line
  report.failure.forM showFailure
  return UInt32.ofNat code

end SqlDump

def main (arguments : List String) : IO UInt32 := SqlDump.runProgram arguments
