import OverlayNet.Fault
import OverlayNet.Files.Tree

set_option autoImplicit false

/-! # The host

The state of a host that the overlay network works on: its files, the state of its links, the state
of its packet filter, and what has been logged. An action changes that state and yields a value or a
fault; what it changed before a fault stays changed. -/

namespace OverlayNet

open OverlayNet.Os (Cause)

inductive Severity where
  | info
  | warning
  | error
deriving DecidableEq, Repr

def Severity.label : Severity → String
  | .info => "INFO"
  | .warning => "WARN"
  | .error => "ERROR"

structure LogEntry where
  severity : Severity
  text : String
deriving DecidableEq, Repr

def LogEntry.line (entry : LogEntry) : String :=
  entry.severity.label ++ " " ++ entry.text

/-- The state of a host, with links in a state of type `κ` and a packet filter in one of type
`φ`. -/
structure Host (κ φ : Type) where
  files : Files.Tree
  links : κ
  filter : φ
  /-- What has been logged, the oldest entry first. -/
  log : List LogEntry

/-- A change of a host that yields a value or a failure of type `ε`. -/
abbrev Procedure (ε κ φ α : Type) : Type :=
  ExceptT ε (StateM (Host κ φ)) α

/-- A change of a host that yields a value or a fault. -/
abbrev Action (κ φ α : Type) : Type :=
  Procedure Fault κ φ α

namespace Procedure

variable {ε κ φ α : Type}

def ofExcept (outcome : Except ε α) : Procedure ε κ φ α :=
  ExceptT.mk (pure outcome)

def recordAll (entries : List LogEntry) : Procedure ε κ φ Unit :=
  modify fun host => { host with log := host.log ++ entries }

def record (severity : Severity) (text : String) : Procedure ε κ φ Unit :=
  recordAll [⟨severity, text⟩]

/-- Adds an entry about what has been done. -/
def inform (text : String) : Procedure ε κ φ Unit :=
  record .info text

def readFiles (failure : Cause → ε) (operation : Files.Tree → Except Cause α) :
    Procedure ε κ φ α := do
  ofExcept ((operation (← get).files).mapError failure)

/-- Changes the files. A failure changes nothing. -/
def changeFiles (failure : Cause → ε) (operation : Files.Tree → Except Cause Files.Tree) :
    Procedure ε κ φ Unit := do
  let files ← readFiles failure operation
  modify fun host => { host with files }

/-- Changes the files by an operation that may leave changes behind when it fails. -/
def attemptFiles (failure : Cause → ε) (operation : Files.Tree → Except Cause α × Files.Tree) :
    Procedure ε κ φ α := do
  let host ← get
  let (outcome, files) := operation host.files
  set { host with files }
  ofExcept (outcome.mapError failure)

/-- The procedure, followed by another one if it fails; the failure stays. -/
def onFailure (work : Procedure ε κ φ α) (afterwards : ε → Procedure ε κ φ Unit) :
    Procedure ε κ φ α :=
  tryCatch work fun failure => do
    afterwards failure
    throw failure

end Procedure

end OverlayNet
