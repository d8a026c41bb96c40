import OverlayNet.Command
import OverlayNet.Operator.Session

set_option autoImplicit false

/-! # The program

Without arguments the program is the plugin: it takes its command from the environment and the
configuration from standard input. With arguments it is the tool of the operator. Either works on a
picture of the files that it may touch, and what it changed there is then changed on the system. -/

namespace OverlayNet.Program

def pathOf (location : Files.Location) : String :=
  "/" ++ "/".intercalate location

/-- What a location of the system holds. A file that cannot be read at all stands for a network
namespace. -/
def nodeAt (location : Files.Location) : IO (Option Files.Node) := do
  try
    let content ← IO.FS.readBinFile (pathOf location)
    pure (some (.file content.toList Files.newFileMode))
  catch failure =>
    match failure with
    | .inappropriateType _ _ _ => pure (some (.directory Files.newDirectoryMode))
    | .invalidArgument _ _ _ => pure (some .networkNamespace)
    | _ => pure none

/-- The tree with what is found on the way from a location, part by part. -/
def surveyFrom (tree : Files.Tree) (location : Files.Location) : List String → IO Files.Tree
  | [] => pure tree
  | part :: rest =>
      if part = "" ∨ part = "." then surveyFrom tree location rest
      else if part = ".." then surveyFrom tree location.dropLast rest
      else do
        let next := location ++ [part]
        match tree.node? next with
        | some _ => surveyFrom tree next rest
        | none =>
            match ← nodeAt next with
            | some node => surveyFrom (tree.set next node) next rest
            | none => pure tree

/-- A picture of the files at some paths and of the directories that lead there. -/
def survey (paths : List Path) : IO Files.Tree := do
  let current := ((toString (← IO.currentDir)).splitOn "/").filter (· ≠ "")
  let start ← surveyFrom ⟨[], current⟩ [] current
  paths.foldlM (fun tree path => surveyFrom tree (tree.origin path.parts) path.parts) start

/-- The rights for which permission bits stand. -/
def rightsOf (mode : Nat) : IO.FileRight :=
  let rights (bits : Nat) : IO.AccessRight := ⟨bits.testBit 2, bits.testBit 1, bits.testBit 0⟩
  ⟨rights (mode / 64), rights (mode / 8), rights mode⟩

/-- Makes one node on the system what it is in the picture. -/
def settle (before : Files.Tree) (location : Files.Location) (node : Files.Node) : IO Unit := do
  let held := before.node? location
  if held ≠ some node then
    match node with
    | .file content mode => do
        IO.FS.writeBinFile (pathOf location) ⟨content.toArray⟩
        if mode ≠ (held.map Files.Node.mode).getD Files.newFileMode then
          IO.setAccessRights (pathOf location) (rightsOf mode)
    | .directory _ => IO.FS.createDirAll (pathOf location)
    | .networkNamespace => pure ()

/-- Makes the system what the picture has become, the directories first. -/
def settleAll (before after : Files.Tree) : IO Unit := do
  let (directories, others) := after.nodes.partition (·.2.isDirectory)
  for (location, node) in directories.reverse ++ others do
    settle before location node

/-- Writes the log to a file or, if there is none or it cannot be opened, to standard error. -/
def writeLog (logFile : Option Path) (entries : List LogEntry) : IO Unit := do
  let text := String.join (entries.map (·.line ++ "\n"))
  match logFile with
  | none => IO.eprint text
  | some path =>
      match ← (IO.FS.Handle.mk path.text .append).toBaseIO with
      | .ok file => file.putStr text
      | .error _ => IO.eprint text

/-- Everything that can still be read from a stream. -/
partial def readAll (stream : IO.FS.Stream) (found : Bytes) : IO Bytes := do
  let chunk ← stream.read 65536
  if chunk.isEmpty then pure found else readAll stream (found ++ chunk.toList)

/-- Does some work while a lock file is held. A lock file that cannot be opened is left alone. -/
def holding {α : Type} (lockFile : Option Path) (work : IO α) : IO α :=
  match lockFile with
  | none => work
  | some path => do
      let opened ← (IO.FS.Handle.mk path.text .append).toBaseIO
      match opened with
      | .error _ => work
      | .ok file => do
          file.lock
          try work finally file.unlock

def hostWith (files : Files.Tree) : Host Unit Unit := ⟨files, (), (), []⟩

def runPlugin : IO UInt32 := do
  let environment ← Command.variables.filterMapM fun name => do
    pure ((← IO.getEnv name).map fun value => (name, value))
  let input ← readAll (← IO.getStdin) []
  holding (Command.lockFile? environment input) do
    let before ← survey (Command.paths environment input)
    let work : Action Unit Unit String :=
      Command.runEnvironment .deviceless Masquerade.unavailable .reading environment input
    let (outcome, host) := work.run (hostWith before)
    settleAll before host.files
    writeLog (Command.logFile? environment) host.log
    let (text, code) := Command.conclude outcome
    IO.print text
    pure code

def runOperator (arguments : List String) : IO UInt32 := do
  let paths :=
    match Operator.readRequest false arguments with
    | .ok request => request.paths
    | .error _ => []
  let before ← survey paths
  let (conclusion, host) := Operator.run .deviceless arguments (hostWith before)
  settleAll before host.files
  IO.eprint (String.join (host.log.map (·.line ++ "\n")))
  IO.print conclusion.output
  IO.eprint (conclusion.failure.getD "")
  pure conclusion.exitCode

end OverlayNet.Program

def main (arguments : List String) : IO UInt32 :=
  if arguments.isEmpty then OverlayNet.Program.runPlugin
  else OverlayNet.Program.runOperator arguments
