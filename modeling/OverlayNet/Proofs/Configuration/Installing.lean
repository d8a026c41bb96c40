import Mathlib
import OverlayNet.Configuration.Installation
import OverlayNet.Proofs.Files.Copying

set_option autoImplicit false

/-! # What an installation changes

An installation makes the directories that are missing, and puts the binary and the configuration at
their places. If it fails, the directories that were made stay, but no file has changed that was not
completely installed, unless the binary could be opened but not read: then its target is empty. -/

namespace OverlayNet

open Files (Location)
open Files.Tree (Added SameOrAdded)

namespace Installation

variable {κ φ : Type}

/-- Directories stay made even if the last of them is refused. -/
theorem ensures_makeDirectory (directory : Path) (host : Host κ φ) :
    (makeDirectory directory : Procedure Failure κ φ Unit).Ensures
      (fun _ later => Added directory.ways host.files later.files ∧
        (directory.text ≠ "" → later.files.leadsToDirectory directory.parts = true) ∧
        host.files.ensureDirectory directory = (.ok (), later.files))
      (fun _ later => Added directory.ways host.files later.files ∧
        ∃ cause, host.files.ensureDirectory directory = (.error cause, later.files)) host := by
  obtain ⟨added, leads⟩ := host.files.ensureDirectory_added directory
  rcases ensured : host.files.ensureDirectory directory with ⟨outcome, files⟩
  rw [ensured] at added leads
  cases outcome with
  | error cause =>
      exact (Procedure.ensures_of_error (Procedure.outcome_attemptFiles_error ensured _)).mpr
        ⟨added, cause, rfl⟩
  | ok _ =>
      exact (Procedure.ensures_of_ok (Procedure.outcome_attemptFiles_ok ensured _)).mpr
        ⟨added, leads rfl, rfl⟩

section Binary

variable {layout : Layout} {binary : Path} {place : Location} {node : Files.Node}
  {before prepared after : Files.Tree}

/-- Whether a node stands where the target of the binary leads, the directory for it is there, and
nothing else has changed but that this directory and those above it may have been made. -/
structure TargetWritten (layout : Layout) (place : Location) (node : Files.Node)
    (before after : Files.Tree) : Prop where
  target : after.locate layout.binaryTarget = .ok place
  written : after.node? place = some node
  elsewhere : ∀ location ≠ place, SameOrAdded layout.binaryDirectory.ways before after location
  directory : layout.binaryDirectory.text ≠ "" →
    after.leadsToDirectory layout.binaryDirectory.parts = true

private theorem targetWritten (added : Added layout.binaryDirectory.ways before prepared)
    (directory : layout.binaryDirectory.text ≠ "" →
      prepared.leadsToDirectory layout.binaryDirectory.parts = true)
    (found : prepared.fileLocation layout.binaryTarget = .ok place)
    (file : node.writeRefusal? = none) :
    TargetWritten layout place node before (prepared.set place node) := by
  have inside := Files.Tree.within_put found node
  constructor
  case target => exact Files.Tree.locate_put found file
  case written => rw [Files.Tree.node?_put found, if_pos rfl]
  case elsewhere =>
    intro location different
    apply added.sameOrAdded_of_same inside
    rw [Files.Tree.node?_put found, if_neg different]
  case directory => exact fun named => inside.leadsToDirectory (directory named)

/-- Whether the binary has been installed: a copy of the file at its origin is at the place that the
target names, the directory for it is there, and nothing else has changed but that this directory
and those above it may have been made. -/
structure BinaryInstalled (layout : Layout) (binary : Path) (origin place : Location)
    (content : Bytes) (before after : Files.Tree) : Prop where
  held : ∃ mode, before.node? origin = some (.file content mode)
  leads : after.locate binary = .ok origin
  read : ∀ bytes, before.read binary = .ok bytes → bytes = content
  target : after.locate layout.binaryTarget = .ok place
  written : after.node? place =
    some (.file (if place = origin then [] else content) binaryMode)
  elsewhere : ∀ location ≠ place, SameOrAdded layout.binaryDirectory.ways before after location
  directory : layout.binaryDirectory.text ≠ "" →
    after.leadsToDirectory layout.binaryDirectory.parts = true

private theorem binaryInstalled {origin : Location} {content : Bytes} {mode : Nat}
    (added : Added layout.binaryDirectory.ways before prepared)
    (located : prepared.locate binary = .ok origin)
    (held : prepared.node? origin = some (.file content mode))
    (inside : Files.Tree.Within prepared after)
    (target : TargetWritten layout place
      (.file (if place = origin then [] else content) binaryMode) before after) :
    BinaryInstalled layout binary origin place content before after := by
  constructor
  case held => exact ⟨mode, added.file_iff.mp held⟩
  case leads => exact inside.locate located
  case read =>
    intro bytes read
    obtain ⟨own, found⟩ := Files.Tree.read_eq_ok_iff.mp read
    cases locatedBefore : before.locate binary with
    | error cause => simp [Files.Tree.find?, locatedBefore] at found
    | ok location =>
        -- The way to the binary has stayed open, so it is the same file.
        have same := (added.within.locate locatedBefore).symm.trans located
        obtain rfl := Except.ok.inj same
        simp only [Files.Tree.find?, locatedBefore] at found
        rw [added.file_iff.mp held] at found
        exact (Files.Node.file.inj (Option.some.inj found)).1.symm
  case target => exact target.target
  case written => exact target.written
  case elsewhere => exact target.elsewhere
  case directory => exact target.directory

/-- Whether the binary can be opened and its target be emptied, once the directory is made, but
nothing can be read from it. -/
def EmptiesTarget (layout : Layout) (binary : Path) (files : Files.Tree) : Prop :=
  ∃ prepared place, files.ensureDirectory layout.binaryDirectory = (.ok (), prepared) ∧
    prepared.LeadsToNamespace binary ∧ prepared.fileLocation layout.binaryTarget = .ok place

/-- What a failed installation of the binary leaves behind: nothing but directories, or else an
empty target that has the permission bits of the file that could not be read. -/
structure BinaryFailed (layout : Layout) (binary : Path) (before after : Files.Tree) : Prop where
  added : ¬ EmptiesTarget layout binary before → Added layout.binaryDirectory.ways before after
  emptied : EmptiesTarget layout binary before → ∃ place,
    TargetWritten layout place (.file [] Files.Node.networkNamespace.mode) before after

theorem ensures_installBinary (layout : Layout) (binary : Path) (host : Host κ φ) :
    (installBinary layout binary).Ensures
      (fun target later => target = layout.binaryTarget ∧ ∃ origin place content,
        BinaryInstalled layout binary origin place content host.files later.files)
      (fun _ later => BinaryFailed layout binary host.files later.files) host := by
  apply Procedure.ensures_bind.mpr
  apply (ensures_makeDirectory layout.binaryDirectory host).mono
  case onFailure =>
    intro _ later failed
    obtain ⟨added, cause, ensured⟩ := failed
    refine ⟨fun _ => added, ?_⟩
    rintro ⟨prepared, place, made, -⟩
    cases (Prod.mk.inj (ensured.symm.trans made)).1
  case onSuccess =>
    intro _ prepared made
    obtain ⟨added, directory, ensured⟩ := made
    apply Procedure.ensures_bind.mpr
    have copying := prepared.files.copying binary layout.binaryTarget
    rcases copied : prepared.files.copy binary layout.binaryTarget with ⟨outcome, files⟩
    rw [copied] at copying
    cases copying with
    | refused cause shut =>
        apply (Procedure.ensures_of_error (Procedure.outcome_attemptFiles_error copied _)).mpr
        refine ⟨fun _ => added, ?_⟩
        rintro ⟨other, place, made, leads, found⟩
        obtain rfl := (Prod.mk.inj (ensured.symm.trans made)).2
        exact absurd found (shut leads place)
    | @unread place leads found =>
        apply (Procedure.ensures_of_error (Procedure.outcome_attemptFiles_error copied _)).mpr
        have empties : EmptiesTarget layout binary host.files :=
          ⟨prepared.files, place, ensured, leads, found⟩
        exact ⟨fun spares => absurd empties spares, fun _ =>
          ⟨place, targetWritten added directory found rfl⟩⟩
    | @copied origin place content mode located held found =>
        apply (Procedure.ensures_of_ok (Procedure.outcome_attemptFiles_ok copied _)).mpr
        apply Procedure.ensures_bind.mpr
        have changed : (prepared.files.set place
            (.file (if place = origin then [] else content) mode)).setMode layout.binaryTarget
              binaryMode = .ok (prepared.files.set place
                (.file (if place = origin then [] else content) binaryMode)) :=
          Files.Tree.setMode_put found binaryMode
        apply (Procedure.ensures_of_ok (Procedure.outcome_changeFiles_ok changed _)).mpr
        exact ⟨rfl, origin, place, content, binaryInstalled added located held
          (Files.Tree.within_put found _) (targetWritten added directory found rfl)⟩

/-- A binary that cannot be read is not installed, but its target is emptied. -/
theorem outcome_installBinary_of_emptiesTarget {host : Host κ φ}
    (empties : EmptiesTarget layout binary host.files) :
    ∃ later, (installBinary layout binary).outcome host =
      (.error (.binaryNotCopied binary layout.binaryTarget (.refused .invalidArgument)),
        later) := by
  obtain ⟨prepared, place, ensured, leads, found⟩ := empties
  have made : (makeDirectory layout.binaryDirectory : Procedure Failure κ φ Unit).outcome host =
      (.ok (), { host with files := prepared }) :=
    Procedure.outcome_attemptFiles_ok ensured _
  have copied := Files.Tree.copy_of_leadsToNamespace leads found
  exact ⟨_, (Procedure.outcome_bind_ok made _).trans
    (Procedure.outcome_bind_error (Procedure.outcome_attemptFiles_error copied _) _)⟩

end Binary

/-- A binary that is installed is a copy of the file to which its path leads, unless that is the
target itself: then the file is emptied. Nothing else changes but that the directory for it and
those above it are made if they are missing. -/
theorem installed_binary_is_copy_unless_target {layout : Layout} {binary target : Path}
    {host later : Host κ φ}
    (installed : (installBinary layout binary).outcome host = (.ok target, later)) :
    target = layout.binaryTarget ∧ ∃ origin place content,
      BinaryInstalled layout binary origin place content host.files later.files :=
  (Procedure.ensures_of_ok installed).mp (ensures_installBinary layout binary host)

def sampleLayout : Layout := ⟨⟨"opt/cni/bin"⟩, ⟨"etc/net.d"⟩, "sknf", "10-sknf.conf"⟩

/-- A host with a file in the current directory. -/
def sampleHost : Host Unit Unit :=
  ⟨⟨[(["build"], .file [0x7F, 0x45] 0o600)], []⟩, (), (), []⟩

/-- A host on which the binary stands where it is to be installed. -/
def installedHost : Host Unit Unit :=
  ⟨⟨[(["opt"], .directory 0o755), (["opt", "cni"], .directory 0o755),
    (["opt", "cni", "bin"], .directory 0o755),
    (["opt", "cni", "bin", "sknf"], .file [0x7F, 0x45] 0o755)], []⟩, (), (), []⟩

theorem installed_binary_is_copy_unless_target_sample :
    ∃ later, (installBinary sampleLayout ⟨"./build"⟩).outcome sampleHost =
        (.ok ⟨"opt/cni/bin/sknf"⟩, later) ∧
      ∃ origin place content, BinaryInstalled sampleLayout ⟨"./build"⟩ origin place content
        sampleHost.files later.files := by
  have succeeds : ((installBinary sampleLayout ⟨"./build"⟩).outcome sampleHost).1 =
      .ok ⟨"opt/cni/bin/sknf"⟩ := by
    decide +kernel
  have installed := Prod.ext (y := (_, _)) succeeds rfl
  exact ⟨_, installed, (installed_binary_is_copy_unless_target installed).2⟩

/-- Installed from its own place, in another spelling, a binary loses all that it held. -/
theorem installed_from_target_is_empty :
    installedHost.files.read ⟨"opt/cni/../cni/bin/sknf"⟩ = .ok [0x7F, 0x45] ∧
    ((installBinary sampleLayout ⟨"opt/cni/../cni/bin/sknf"⟩).outcome installedHost).1 =
      .ok ⟨"opt/cni/bin/sknf"⟩ ∧
    ((installBinary sampleLayout ⟨"opt/cni/../cni/bin/sknf"⟩).outcome
      installedHost).2.files.read ⟨"opt/cni/bin/sknf"⟩ = .ok [] := by
  decide +kernel

/-- Whether the configuration has been installed: the template filled in is in the file that the
target names, and nothing else has changed but that the directory for it and those above it may have
been made. -/
structure ConfigurationInstalled (layout : Layout) (template subnet : String) (place : Location)
    (before after : Files.Tree) : Prop where
  target : after.locate layout.configurationTarget = .ok place
  written : ∃ mode, after.node? place =
    some (.file (Bytes.ofText (Template.render template subnet)) mode)
  elsewhere : ∀ location ≠ place,
    SameOrAdded layout.configurationDirectory.ways before after location

private theorem configurationInstalled {layout : Layout} {template subnet : String}
    {before prepared after : Files.Tree}
    (added : Added layout.configurationDirectory.ways before prepared)
    (written : prepared.write layout.configurationTarget
      (Bytes.ofText (Template.render template subnet)) = .ok after) :
    ∃ place, ConfigurationInstalled layout template subnet place before after := by
  simp only [Files.Tree.write, bind, exceptBind_eq_ok_iff] at written
  obtain ⟨place, found, written⟩ := written
  obtain rfl := Except.ok.inj written
  constructor
  constructor
  case target => exact Files.Tree.locate_put found rfl
  case written => exact ⟨_, (Files.Tree.node?_put found _ place).trans (if_pos rfl)⟩
  case elsewhere =>
    intro location different
    exact added.sameOrAdded_of_same (Files.Tree.within_put found _)
      ((Files.Tree.node?_put found _ location).trans (if_neg different))

theorem ensures_installConfiguration (layout : Layout) (template subnet : String)
    (host : Host κ φ) :
    (installConfiguration layout template subnet).Ensures
      (fun _ later => (∃ cidr, Cidr.parse subnet = .ok cidr) ∧
        ∃ place, ConfigurationInstalled layout template subnet place host.files later.files)
      (fun _ later => Added layout.configurationDirectory.ways host.files later.files ∧
        ∀ defect, Cidr.parse subnet = .error defect → later.files = host.files) host := by
  apply Procedure.ensures_bind.mpr
  cases parsed : Cidr.parse subnet with
  | error defect => exact ⟨.refl _ host.files, fun _ _ => rfl⟩
  | ok cidr =>
      apply Procedure.ensures_bind.mpr
      apply (ensures_makeDirectory layout.configurationDirectory host).mono ?_
        fun _ _ failed => ⟨failed.1, fun _ invalid => nomatch invalid⟩
      intro _ prepared made
      apply Procedure.ensures_bind.mpr
      cases writing : prepared.files.write layout.configurationTarget
          (Bytes.ofText (Template.render template subnet)) with
      | error cause =>
          exact (Procedure.ensures_of_error
            (Procedure.outcome_changeFiles_error writing _)).mpr
              ⟨made.1, fun _ invalid => nomatch invalid⟩
      | ok saved =>
          exact (Procedure.ensures_of_ok (Procedure.outcome_changeFiles_ok writing _)).mpr
            ⟨⟨cidr, rfl⟩, configurationInstalled made.1 writing⟩

/-- An installation fails with the binary, fails with the configuration, or succeeds with both. -/
theorem install_cases (layout : Layout) (binary : Path) (template subnet : String)
    (host : Host κ φ) :
    (∃ failure later, (installBinary layout binary).outcome host = (.error failure, later) ∧
      (install layout binary template subnet).outcome host = (.error failure, later)) ∨
    ∃ target middle, (installBinary layout binary).outcome host = (.ok target, middle) ∧
      ((∃ failure later,
        (installConfiguration layout template subnet).outcome middle = (.error failure, later) ∧
        (install layout binary template subnet).outcome host = (.error failure, later)) ∨
      ∃ configuration later,
        (installConfiguration layout template subnet).outcome middle =
          (.ok configuration, later) ∧
        (install layout binary template subnet).outcome host = (.ok (), later)) := by
  rcases first : (installBinary layout binary).outcome host with ⟨outcome, middle⟩
  cases outcome with
  | error failure => exact .inl ⟨failure, middle, rfl, Procedure.outcome_bind_error first _⟩
  | ok target =>
      refine .inr ⟨target, middle, rfl, ?_⟩
      rcases second : (installConfiguration layout template subnet).outcome middle with
        ⟨outcome, later⟩
      cases outcome with
      | error failure =>
          exact .inl ⟨failure, later, rfl, (Procedure.outcome_bind_ok first _).trans
            (Procedure.outcome_bind_error second _)⟩
      | ok configuration =>
          exact .inr ⟨configuration, later, rfl, (Procedure.outcome_bind_ok first _).trans
            (Procedure.outcome_bind_ok second _)⟩

/-- An installation that fails leaves every file as it was, unless the binary was completely
installed, or could be opened but not read: then the installation does fail, and the target of the
binary is empty. What a failed step otherwise leaves behind are directories where its own directory
or those above it are to be, and not even these if the subnet is invalid. The configuration is
written only for a valid subnet, and only once the binary is installed. -/
theorem failed_installation_spares_files_unless_unread (layout : Layout) (binary : Path)
    (template subnet : String) (host : Host κ φ) :
    (∀ failure later, (installBinary layout binary).outcome host = (.error failure, later) →
      (¬ EmptiesTarget layout binary host.files →
        Added layout.binaryDirectory.ways host.files later.files) ∧
      (EmptiesTarget layout binary host.files →
        ∃ place, TargetWritten layout place (.file [] 0o444) host.files later.files)) ∧
    (EmptiesTarget layout binary host.files → ∃ cause later,
      (installBinary layout binary).outcome host =
        (.error (.binaryNotCopied binary layout.binaryTarget cause), later) ∧
      (install layout binary template subnet).outcome host =
        (.error (.binaryNotCopied binary layout.binaryTarget cause), later)) ∧
    (∀ failure later,
      (installConfiguration layout template subnet).outcome host = (.error failure, later) →
      Added layout.configurationDirectory.ways host.files later.files ∧
        ∀ defect, Cidr.parse subnet = .error defect → later.files = host.files) ∧
    (∀ target later,
      (installConfiguration layout template subnet).outcome host = (.ok target, later) →
      (∃ cidr, Cidr.parse subnet = .ok cidr) ∧
        ∃ place, ConfigurationInstalled layout template subnet place host.files later.files) ∧
    (∀ failure later,
      (install layout binary template subnet).outcome host = (.error failure, later) →
      ((installBinary layout binary).outcome host = (.error failure, later) ∧
        (¬ EmptiesTarget layout binary host.files →
          Added layout.binaryDirectory.ways host.files later.files)) ∨
      ∃ target middle, (installBinary layout binary).outcome host = (.ok target, middle) ∧
        (installConfiguration layout template subnet).outcome middle = (.error failure, later) ∧
        Added layout.configurationDirectory.ways middle.files later.files ∧
        ∀ defect, Cidr.parse subnet = .error defect → later.files = middle.files) ∧
    ∀ later, (install layout binary template subnet).outcome host = (.ok (), later) →
      ∃ target middle configuration,
        (installBinary layout binary).outcome host = (.ok target, middle) ∧
        (installConfiguration layout template subnet).outcome middle =
          (.ok configuration, later) ∧
        (∃ cidr, Cidr.parse subnet = .ok cidr) ∧
        ∃ place, ConfigurationInstalled layout template subnet place middle.files
          later.files := by
  refine ⟨?binaryFails, ?empties, ?configurationFails, ?configured, ?fails, ?succeeds⟩
  case binaryFails =>
    intro failure later failed
    have left := (Procedure.ensures_of_error failed).mp (ensures_installBinary layout binary host)
    exact ⟨left.added, left.emptied⟩
  case empties =>
    intro empties
    obtain ⟨later, failed⟩ := outcome_installBinary_of_emptiesTarget empties
    exact ⟨_, later, failed, Procedure.outcome_bind_error failed _⟩
  case configurationFails =>
    intro failure later failed
    exact (Procedure.ensures_of_error failed).mp
      (ensures_installConfiguration layout template subnet host)
  case configured =>
    intro target later installed
    exact (Procedure.ensures_of_ok installed).mp
      (ensures_installConfiguration layout template subnet host)
  case fails =>
    intro failure later failed
    rcases install_cases layout binary template subnet host with
      ⟨fault, last, first, whole⟩ | ⟨target, middle, first, second⟩
    · obtain ⟨⟨⟩, rfl⟩ := Prod.mk.inj (failed.symm.trans whole)
      have left := (Procedure.ensures_of_error first).mp (ensures_installBinary layout binary host)
      exact .inl ⟨first, left.added⟩
    · rcases second with ⟨fault, last, second, whole⟩ | ⟨configuration, last, -, whole⟩
      · obtain ⟨⟨⟩, rfl⟩ := Prod.mk.inj (failed.symm.trans whole)
        exact .inr ⟨target, middle, first, second, (Procedure.ensures_of_error second).mp
          (ensures_installConfiguration layout template subnet middle)⟩
      · cases (Prod.mk.inj (failed.symm.trans whole)).1
  case succeeds =>
    intro later installed
    rcases install_cases layout binary template subnet host with
      ⟨fault, last, -, whole⟩ | ⟨target, middle, first, second⟩
    · cases (Prod.mk.inj (installed.symm.trans whole)).1
    · rcases second with ⟨fault, last, -, whole⟩ | ⟨configuration, last, second, whole⟩
      · cases (Prod.mk.inj (installed.symm.trans whole)).1
      · obtain ⟨-, rfl⟩ := Prod.mk.inj (installed.symm.trans whole)
        exact ⟨target, middle, configuration, first, second, (Procedure.ensures_of_ok second).mp
          (ensures_installConfiguration layout template subnet middle)⟩

/-- A host on which a file stands where the directory of the configuration is to be. -/
def blockedHost : Host Unit Unit :=
  ⟨⟨[(["build"], .file [0x7F, 0x45] 0o600), (["etc"], .file [] 0o644)], []⟩, (), (), []⟩

/-- The host on which the binary is installed, with the namespace of its thread. -/
def namespaceHost : Host Unit Unit where
  files :=
    { nodes := installedHost.files.nodes ++
        [(["proc"], .directory 0o555), (["proc", "thread-self"], .directory 0o555),
          (["proc", "thread-self", "ns"], .directory 0o555),
          (["proc", "thread-self", "ns", "net"], .networkNamespace)]
      current := [] }
  links := ()
  filter := ()
  log := []

theorem failed_installation_spares_files_unless_unread_samples :
    (∃ failure later, (install sampleLayout ⟨"build"⟩ Template.placeholder "10.1.0.0/24").outcome
        blockedHost = (.error failure, later) ∧
      (((installBinary sampleLayout ⟨"build"⟩).outcome blockedHost = (.error failure, later) ∧
        (¬ EmptiesTarget sampleLayout ⟨"build"⟩ blockedHost.files →
          Added sampleLayout.binaryDirectory.ways blockedHost.files later.files)) ∨
      ∃ target middle,
        (installBinary sampleLayout ⟨"build"⟩).outcome blockedHost = (.ok target, middle) ∧
        (installConfiguration sampleLayout Template.placeholder "10.1.0.0/24").outcome middle =
          (.error failure, later) ∧
        Added sampleLayout.configurationDirectory.ways middle.files later.files ∧
        ∀ defect, Cidr.parse "10.1.0.0/24" = .error defect → later.files = middle.files)) ∧
    ∃ cause later, (install sampleLayout Namespace.ownPath "" "10.1.0.0/24").outcome
        namespaceHost =
          (.error (.binaryNotCopied Namespace.ownPath sampleLayout.binaryTarget cause), later) ∧
      ∃ place, TargetWritten sampleLayout place (.file [] 0o444) namespaceHost.files
        later.files := by
  constructor
  · have fails : ((install sampleLayout ⟨"build"⟩ Template.placeholder "10.1.0.0/24").outcome
        blockedHost).1 = .error (.directoryNotMade ⟨"etc/net.d"⟩ (.refused .notDirectory)) := by
      decide +kernel
    obtain ⟨-, -, -, -, spared, -⟩ := failed_installation_spares_files_unless_unread sampleLayout
      ⟨"build"⟩ Template.placeholder "10.1.0.0/24" blockedHost
    have failed := Prod.ext (y := (_, _)) fails rfl
    exact ⟨_, _, failed, spared _ _ failed⟩
  · have empties : EmptiesTarget sampleLayout Namespace.ownPath namespaceHost.files :=
      ⟨_, ["opt", "cni", "bin", "sknf"], Prod.ext (y := (_, _)) (by decide +kernel) rfl,
        ⟨["proc", "thread-self", "ns", "net"], by decide +kernel, by decide +kernel⟩,
        by decide +kernel⟩
    obtain ⟨left, fails, -⟩ := failed_installation_spares_files_unless_unread sampleLayout
      Namespace.ownPath "" "10.1.0.0/24" namespaceHost
    obtain ⟨cause, later, failed, whole⟩ := fails empties
    exact ⟨cause, later, whole, (left _ _ failed).2 empties⟩

/-- A binary that can be opened but not read is not installed, and one that was installed is lost.
-/
theorem unread_binary_empties_target :
    namespaceHost.files.read ⟨"opt/cni/bin/sknf"⟩ = .ok [0x7F, 0x45] ∧
    ((installBinary sampleLayout ⟨"/proc/thread-self/ns/net"⟩).outcome namespaceHost).1 =
      .error (.binaryNotCopied ⟨"/proc/thread-self/ns/net"⟩ ⟨"opt/cni/bin/sknf"⟩
        (.refused .invalidArgument)) ∧
    ((installBinary sampleLayout ⟨"/proc/thread-self/ns/net"⟩).outcome
      namespaceHost).2.files.read ⟨"opt/cni/bin/sknf"⟩ = .ok [] := by
  decide +kernel

end Installation

end OverlayNet
