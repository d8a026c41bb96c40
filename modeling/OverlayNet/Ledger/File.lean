import OverlayNet.Host
import OverlayNet.Text.Blank

set_option autoImplicit false

/-! # The ledger

The ledger is a file with one line of text: the address that was issued last. An update reads the
stored text, decides on the next one and stores that. A lock file can guard the update against
others. The phases of an update are separate actions, since others may act between them. -/

namespace OverlayNet

/-- A ledger in a file, whose updates are guarded by a lock file or not. -/
structure Ledger where
  path : Path
  locked : Bool
deriving DecidableEq, Repr

/-- What an update decides on: what to log, and the text to store or a fault. -/
structure Decision where
  log : List LogEntry
  outcome : Except Fault String

namespace Ledger

variable {κ φ : Type}

/-- The place of the ledger unless the configuration names another. -/
def usualPath : Path := ⟨"/tmp/sknf-cni-ips"⟩

def lockPath (ledger : Ledger) : Path :=
  ledger.path.appendName ".lock"

/-- The stored text without blanks at its end; nothing if there is no file. -/
def storedIn (ledger : Ledger) (files : Files.Tree) : Except Os.Cause (Option String) :=
  match files.readText ledger.path with
  | .ok text => .ok (some (String.ofList (Text.trimEnd text.toList)))
  | .error cause => if cause = .refused .noEntry then .ok none else .error cause

/-- Opens the lock file, making it if need be, and takes the lock. -/
def takeLock (ledger : Ledger) : Action κ φ Unit :=
  if ledger.locked then
    Procedure.changeFiles (.system "Failure opening IP ledger lock" ledger.lockPath.text)
      (·.touch ledger.lockPath)
  else pure ()

def peek (ledger : Ledger) : Action κ φ (Option String) :=
  Procedure.readFiles (.system "Failure reading IP ledger" ledger.path.text) ledger.storedIn

def store (ledger : Ledger) (text : String) : Action κ φ Unit :=
  Procedure.changeFiles (.system "Failure writing IP ledger" ledger.path.text)
    (·.write ledger.path (Bytes.ofText text))

/-- Logs what a decision logs, and yields the text that it decides on. -/
def decide (decision : Decision) : Action κ φ String := do
  Procedure.recordAll decision.log
  Procedure.ofExcept decision.outcome

/-- Replaces the stored text by the one that is decided on, and yields that one. -/
def update (ledger : Ledger) (next : Option String → Decision) : Action κ φ String := do
  ledger.takeLock
  let stored ← ledger.peek
  let text ← decide (next stored)
  ledger.store text
  pure text

end Ledger

end OverlayNet
