import OverlayNet.Host

set_option autoImplicit false

/-! # Network namespaces

A namespace is opened by its path and can then be entered by the thread. Work in a namespace is done
between entering it and going back, whether or not the work succeeds. -/

namespace OverlayNet

open OverlayNet.Os (Errno)

/-- An open handle on what should be a network namespace. -/
structure Namespace where
  path : Path
  /-- What the path led to when it was opened. -/
  node : Files.Node
deriving DecidableEq, Repr

namespace Namespace

variable {κ φ α : Type}

/-- How the system switches the thread to a namespace, in a state of the links. -/
abbrev Switch (κ : Type) : Type :=
  Namespace → κ → Except Errno Unit × κ

/-- The path of the namespace in which the thread is. -/
def ownPath : Path := ⟨"/proc/thread-self/ns/net"⟩

/-- What a path leads to, whatever it is. -/
def nodeAt (path : Path) (files : Files.Tree) : Except Os.Cause Files.Node := do
  let location ← files.locate path
  match files.node? location with
  | some node => .ok node
  | none => .error (.refused .noEntry)

/-- Opens what a path leads to, be it a namespace or not. -/
def openAt (path : Path) : Action κ φ Namespace := do
  let node ←
    Procedure.readFiles (.system "Failure opening target net namespace fd" path.text) (nodeAt path)
  pure ⟨path, node⟩

def enter (switch : Switch κ) (context : String) (namespaceHandle : Namespace) :
    Action κ φ Unit := do
  let host ← get
  let (outcome, links) := switch namespaceHandle host.links
  set { host with links }
  match outcome with
  | .ok () => pure ()
  | .error errno => throw (.namespaceSwitch context namespaceHandle.path.text errno)

/-- Does the work in a namespace and goes back. A fault of the work wins over one of the way back,
which is then only logged. -/
def within (switch : Switch κ) (namespaceHandle : Namespace) (work : Action κ φ α) :
    Action κ φ α := do
  let own ← openAt ownPath
  enter switch "Failure associating thread to container's net ns" namespaceHandle
  let outcome ← ExceptT.mk ((work.run).map .ok)
  let back ← ExceptT.mk
    ((enter switch "Failure re-associating thread to main net ns" own).run.map .ok)
  match outcome, back with
  | .error fault, .error lost => do
      Procedure.record .warning ("Failed to restore namespace after error: " ++ lost.text)
      throw fault
  | .error fault, .ok () => throw fault
  | .ok _, .error lost => throw lost
  | .ok value, .ok () => pure value

/-- The switch of a system on which only files that stand for a namespace can be entered, and those
only with the authority to do so. -/
def guardedSwitch (authorized : Bool) : Switch κ := fun target links =>
  if target.node ≠ .networkNamespace then (.error .invalidArgument, links)
  else if authorized then (.ok (), links)
  else (.error .notPermitted, links)

end Namespace

end OverlayNet
