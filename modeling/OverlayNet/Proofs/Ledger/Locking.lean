import Mathlib
import OverlayNet.Proofs.Correspondence
import OverlayNet.Proofs.Ledger.Updating

set_option autoImplicit false

/-! # The same ledger with a lock and without

A lock keeps others away and changes nothing else: whoever uses the ledger sees the same with it as
without it, and only the lock file itself is there or not. That holds wherever the lock file is a
file already or can be made. -/

namespace OverlayNet.Ledger

open Files (Location Tree)
open Files.Tree (DifferAt)
open Procedure (Corresponds)

variable {κ φ : Type} {path : Path} {place : Location}

/-- What is asked of a ledger. -/
inductive Step where
  | acquire (node cluster : Cidr)
  | lastIssued
  | peek
  | update (next : Option String → Decision)

namespace Step

abbrev Answer : Step → Type
  | .acquire _ _ => Cidr
  | .lastIssued => Option Cidr
  | .peek => Option String
  | .update _ => String

def work (ledger : Ledger) : (step : Step) → Action κ φ step.Answer
  | .acquire node cluster => Allocation.acquire ledger node cluster
  | .lastIssued => Allocation.lastIssued ledger
  | .peek => ledger.peek
  | .update next => ledger.update next

end Step

/-- What is seen of a step: what it comes to, what it logs, and the files behind it. -/
structure Sight where
  reply : (step : Step) × Except Fault step.Answer
  logged : List LogEntry
  files : Tree

/-- What is seen of steps one after the other. -/
def sights (ledger : Ledger) : Host κ φ → List Step → List Sight
  | _, [] => []
  | host, step :: rest =>
      let (result, later) := (step.work ledger).outcome host
      ⟨⟨step, result⟩, later.log.drop host.log.length, later.files⟩ :: sights ledger later rest

/-- Whether the same is seen of two steps, but for what is at one location. -/
structure SameBut (place : Location) (first second : Sight) : Prop where
  reply : first.reply = second.reply
  logged : first.logged = second.logged
  files : ∀ location, location ≠ place → first.files.node? location = second.files.node? location

/-- Whether a path leads to a regular file, or else to a new name in a directory. -/
inductive FileOrVacancy (files : Tree) (path : Path) (place : Location) : Prop where
  | file {content : Bytes} {mode : Nat} (located : files.locate path = .ok place)
      (there : files.node? place = some (.file content mode))
  | vacancy {holder : Location} {name : String} (leads : files.Leads path.parts holder name)
      (below : place = holder ++ [name]) (missing : files.node? place = none)

/-- Whether the system takes a path for something new: there is no null character in it, and neither
the path nor its last name is too long. -/
def Acceptable (path : Path) : Prop :=
  Files.Tree.checkPath path = .ok () ∧
    ∀ name ∈ path.parts.getLast?, Bytes.lengthOfText name ≤ Files.nameLimit

private theorem lengthOfText_append_lock (name : String) :
    Bytes.lengthOfText (name ++ ".lock") = Bytes.lengthOfText name + 5 := by
  simp [Bytes.lengthOfText, Bytes.ofText]
  rfl

private theorem named_of_two_lt {name : String} (long : 2 < Bytes.lengthOfText name) :
    name ≠ "" ∧ name ≠ "." ∧ name ≠ ".." := by
  refine ⟨?_, ?_, ?_⟩ <;> rintro rfl <;> exact absurd long (by decide)

private theorem append_lock_ne (name : String) :
    name ++ ".lock" ≠ "" ∧ name ++ ".lock" ≠ "." ∧ name ++ ".lock" ≠ ".." := by
  apply named_of_two_lt
  rw [lengthOfText_append_lock]
  omega

/-- The lock file can be opened where it is, and made where nothing is. -/
theorem FileOrVacancy.fileLocation {files : Tree}
    (there : FileOrVacancy files (path.appendName ".lock") place)
    (acceptable : files.node? place = none → Acceptable (path.appendName ".lock")) :
    files.fileLocation (path.appendName ".lock") = .ok place := by
  cases there with
  | file located there =>
      have plain : '/' ∉ ".lock".toList := by decide
      obtain ⟨front, last, -, parts, -⟩ := Files.Tree.parts_appendName path plain
      refine Files.Tree.fileLocation_of_locate parts (append_lock_ne last) located ?_
      simp [Files.Tree.writeRefusal?, there, Files.Node.writeRefusal?]
  | @vacancy holder name leads below missing =>
      obtain ⟨checked, short⟩ := acceptable missing
      refine Files.Tree.fileLocation_eq_ok_iff.mpr ⟨checked, holder, name, leads, below, ?_, ?_⟩
      · obtain ⟨⟨front, parts, -⟩, -, -⟩ := leads
        exact short name (by simp [parts])
      · simp [Files.Tree.writeRefusal?, missing]

/-- Whether two hosts have logged the same and differ at most at the place of the lock file, which
can be opened there. -/
structure Beside (path : Path) (place : Location) (locked free : Host κ φ) : Prop where
  log : locked.log = free.log
  files : DifferAt place free.files locked.files
  lock : free.files.fileLocation (path.appendName ".lock") = .ok place

section Correspondence

theorem corresponds_takeLock :
    Corresponds (Beside path place) (takeLock (κ := κ) (φ := φ) ⟨path, true⟩)
      (takeLock ⟨path, false⟩) := by
  intro locked free beside
  have found : locked.files.fileLocation (path.appendName ".lock") = .ok place :=
    beside.files.directories.fileLocation beside.lock
  obtain ⟨files, touched, -⟩ := Files.Tree.touch_of_fileLocation found
  have taken : (takeLock ⟨path, true⟩).outcome locked = (.ok (), { locked with files }) :=
    Procedure.outcome_changeFiles_ok touched _
  rw [taken]
  -- Without a lock nothing happens here, and with one there is at most a new file in its place.
  refine ⟨rfl, beside.log, ?_, beside.lock⟩
  obtain ⟨other, otherFound, ⟨-, rfl⟩ | ⟨-, rfl⟩⟩ := Files.Tree.touch_cases touched
  · exact beside.files
  · obtain rfl := Except.ok.inj (found.symm.trans otherFound)
    obtain ⟨-, -, -, -, -, -, vacant⟩ := Files.Tree.fileLocation_eq_ok_iff.mp found
    exact beside.files.trans (.of_set vacant rfl)

theorem corresponds_peek :
    Corresponds (Beside path place) (peek (κ := κ) (φ := φ) ⟨path, true⟩) (peek ⟨path, false⟩) := by
  apply Procedure.corresponds_readFiles
  intro locked free beside
  simp only [storedIn, Files.Tree.readText,
    beside.files.read (by decide) (by decide) beside.lock]

theorem corresponds_decide (decision : Decision) :
    Corresponds (Beside path place) (decide (κ := κ) (φ := φ) decision) (decide decision) := by
  apply Corresponds.bind
  · apply Procedure.corresponds_recordAll
    intro locked free beside
    exact ⟨congrArg (· ++ decision.log) beside.log, beside.files, beside.lock⟩
  · exact fun _ => Procedure.corresponds_ofExcept decision.outcome

theorem corresponds_store (text : String) :
    Corresponds (Beside path place) (store (κ := κ) (φ := φ) ⟨path, true⟩ text)
      (store ⟨path, false⟩ text) := by
  apply Procedure.corresponds_changeFiles
  intro locked free beside
  have sameLocation : locked.files.fileLocation path = free.files.fileLocation path :=
    beside.files.fileLocation (by decide) beside.lock
  cases found : free.files.fileLocation path with
  | error cause =>
      refine .inl ⟨cause, ?_, ?_⟩ <;>
        simp [Files.Tree.write, sameLocation, found, bind, Except.bind]
  | ok location =>
      -- The lock file is never in the ledger's place.
      have elsewhere : location ≠ place :=
        (Files.Tree.fileLocation_appendName_ne (by decide) (by decide) found beside.lock).symm
      have sameMode : locked.files.writtenMode location Files.newFileMode =
          free.files.writtenMode location Files.newFileMode := by
        simp only [Files.Tree.writtenMode, beside.files.node location elsewhere]
      obtain ⟨-, -, -, -, -, -, vacant⟩ := Files.Tree.fileLocation_eq_ok_iff.mp found
      let written : Files.Node :=
        .file (Bytes.ofText text) (free.files.writtenMode location Files.newFileMode)
      have file : written.writeRefusal? = none := rfl
      refine .inr ⟨locked.files.set location written, free.files.set location written, ?_, ?_,
        beside.log, beside.files.set vacant file,
        (Files.Tree.SameDirectories.of_set vacant file).fileLocation beside.lock⟩
      · simp only [Files.Tree.write, sameLocation, found]
        exact congrArg (fun mode => Except.ok (locked.files.set location (.file _ mode))) sameMode
      · simp only [Files.Tree.write, found]
        rfl

theorem corresponds_update (next : Option String → Decision) :
    Corresponds (Beside path place) (update (κ := κ) (φ := φ) ⟨path, true⟩ next)
      (update ⟨path, false⟩ next) := by
  apply corresponds_takeLock.bind
  intro _
  apply corresponds_peek.bind
  intro stored?
  apply (corresponds_decide (next stored?)).bind
  intro text
  apply (corresponds_store text).bind
  exact fun _ => Procedure.corresponds_pure text

theorem corresponds_work (step : Step) :
    Corresponds (Beside path place) (step.work (κ := κ) (φ := φ) ⟨path, true⟩)
      (step.work ⟨path, false⟩) := by
  cases step with
  | acquire node cluster =>
      apply (corresponds_update (Allocation.next node cluster)).bind
      exact fun stored => Procedure.corresponds_ofExcept (Cidr.read stored)
  | lastIssued =>
      apply corresponds_peek.bind
      intro stored?
      cases stored? with
      | none => exact Procedure.corresponds_pure none
      | some stored =>
          apply (Procedure.corresponds_ofExcept (Cidr.read stored)).bind
          exact fun last => Procedure.corresponds_pure (some last)
  | peek => exact corresponds_peek
  | update next => exact corresponds_update next

end Correspondence

private theorem sights_of_beside {locked free : Host κ φ} (beside : Beside path place locked free)
    (steps : List Step) :
    List.Forall₂ (SameBut place) (sights ⟨path, true⟩ locked steps)
      (sights ⟨path, false⟩ free steps) := by
  induction steps generalizing locked free with
  | nil => exact .nil
  | cons step rest ih =>
      obtain ⟨sameResult, behind⟩ := corresponds_work step locked free beside
      refine .cons ⟨?_, ?_, ?_⟩ (ih behind)
      · exact congrArg (Sigma.mk step) sameResult
      · exact congrArg₂ (fun log earlier => log.drop earlier.length) behind.log beside.log
      · exact behind.files.node

/-- Whoever uses a ledger sees the same with a lock as without one: every step comes to the same
value or the same fault and logs the same, and every file but the lock file holds the same behind
it. -/
theorem locking_changes_nothing_else (path : Path) (host : Host κ φ) (steps : List Step)
    (place : Location) (there : FileOrVacancy host.files (path.appendName ".lock") place)
    (acceptable : host.files.node? place = none → Acceptable (path.appendName ".lock")) :
    List.Forall₂ (SameBut place) (sights ⟨path, true⟩ host steps)
      (sights ⟨path, false⟩ host steps) :=
  sights_of_beside ⟨rfl, .refl place host.files, there.fileLocation acceptable⟩ steps

theorem locking_changes_nothing_else_bare :
    FileOrVacancy Host.bare.files (Path.appendName ⟨"ledger"⟩ ".lock") ["ledger.lock"] ∧
      List.Forall₂ (SameBut ["ledger.lock"])
        (sights ⟨⟨"ledger"⟩, true⟩ Host.bare
          [.acquire ⟨⟨0x0a200100⟩, 24, by decide⟩ ⟨⟨0x0a200000⟩, 16, by decide⟩, .update failing,
            .lastIssued])
        (sights ⟨⟨"ledger"⟩, false⟩ Host.bare
          [.acquire ⟨⟨0x0a200100⟩, 24, by decide⟩ ⟨⟨0x0a200000⟩, 16, by decide⟩, .update failing,
            .lastIssued]) := by
  have leads : Host.bare.files.Leads (Path.parts ⟨"ledger.lock"⟩) [] "ledger.lock" :=
    ⟨⟨[], by decide +kernel, rfl⟩, by decide, rfl⟩
  have vacancy : FileOrVacancy Host.bare.files (Path.appendName ⟨"ledger"⟩ ".lock")
      ["ledger.lock"] := .vacancy leads rfl rfl
  have acceptable : Acceptable (Path.appendName ⟨"ledger"⟩ ".lock") := by
    unfold Acceptable
    decide +kernel
  exact ⟨vacancy, locking_changes_nothing_else ⟨"ledger"⟩ Host.bare _ ["ledger.lock"] vacancy
    fun _ => acceptable⟩

section Refused

def fixed (_ : Option String) : Decision :=
  ⟨[], .ok "10.32.1.2/16"⟩

private theorem update_of_sameBut {host : Host κ φ} {next : Option String → Decision}
    (same : List.Forall₂ (SameBut place) (sights ⟨path, true⟩ host [.update next])
      (sights ⟨path, false⟩ host [.update next])) :
    (((⟨path, true⟩ : Ledger).update next).outcome host).1 =
      (((⟨path, false⟩ : Ledger).update next).outcome host).1 := by
  obtain ⟨⟨reply, -, -⟩, -⟩ := List.forall₂_cons.mp same
  exact eq_of_heq (Sigma.mk.inj reply).2

/-- Where the system refuses the lock file but not the ledger, an update shows whether there is a
lock. -/
theorem not_sameBut_of_refused {host : Host κ φ} {location : Location} {stored? : Option String}
    (found : host.files.fileLocation path = .ok location)
    (read : (⟨path, false⟩ : Ledger).storedIn host.files = .ok stored?)
    (refused : ∀ other, host.files.fileLocation (path.appendName ".lock") ≠ .ok other) :
    ¬ List.Forall₂ (SameBut place) (sights ⟨path, true⟩ host [.update fixed])
      (sights ⟨path, false⟩ host [.update fixed]) := by
  intro same
  have result := update_of_sameBut same
  have free : ∃ later, ((⟨path, false⟩ : Ledger).update fixed).outcome host =
      (.ok "10.32.1.2/16", later) :=
    exists_update_ok_iff.mpr ⟨nofun, ⟨stored?, read, rfl⟩, location, found⟩
  obtain ⟨later, updated⟩ := free
  rw [updated] at result
  have locked : ∃ later, ((⟨path, true⟩ : Ledger).update fixed).outcome host =
      (.ok "10.32.1.2/16", later) := ⟨_, Prod.mk.eta.symm.trans (congrArg (·, _) result)⟩
  obtain ⟨opens, -⟩ := exists_update_ok_iff.mp locked
  obtain ⟨other, opened⟩ := opens rfl
  exact refused other opened

/-- A path that turns back to the directory where it starts a number of times before a name. -/
def windingPath (turns : Nat) (name : String) : Path :=
  ⟨String.ofList (List.replicate turns ['.', '/']).flatten ++ name⟩

variable {name : String}

private theorem windingPath_appendName (turns : Nat) (name ending : String) :
    (windingPath turns name).appendName ending = windingPath turns (name ++ ending) := by
  simp only [Path.appendName, windingPath, String.append_assoc]

private theorem lengthOfText_windingPath (turns : Nat) (name : String) :
    Bytes.lengthOfText (windingPath turns name).text = 2 * turns + Bytes.lengthOfText name := by
  have dot : ".".utf8ByteSize = 1 := rfl
  have slash : "/".utf8ByteSize = 1 := rfl
  simp only [Bytes.lengthOfText, Bytes.ofText, windingPath]
  induction turns with
  | zero => simp
  | succ turns ih =>
      simp [List.replicate_succ, dot, slash] at ih ⊢
      omega

private theorem checkPath_windingPath_iff {turns : Nat} (named : name ≠ "")
    (clean : '\x00' ∉ name.toList) :
    Files.Tree.checkPath (windingPath turns name) = .ok () ↔
      2 * turns + Bytes.lengthOfText name < Files.pathLimit := by
  have nonempty : (windingPath turns name).text ≠ "" := by simp [windingPath, named]
  have cleanPath : '\x00' ∉ (windingPath turns name).text.toList := by simp [windingPath, clean]
  rw [← lengthOfText_windingPath]
  by_cases long : Files.pathLimit ≤ Bytes.lengthOfText (windingPath turns name).text
  · simp [Files.Tree.checkPath, nonempty, cleanPath, long]
  · simp [Files.Tree.checkPath, nonempty, cleanPath, long, Nat.not_le.mp long]

private theorem leads_windingPath (turns : Nat) (plain : '/' ∉ name.toList)
    (named : name ≠ "" ∧ name ≠ "." ∧ name ≠ "..") :
    Host.bare.files.Leads (windingPath turns name).parts [] name := by
  have parts : (windingPath turns name).parts = List.replicate turns "." ++ [name] := by
    simp only [Path.parts, windingPath, String.toList_append, String.toList_ofList]
    induction turns with
    | zero => simp [List.splitOn_eq_singleton plain]
    | succ turns ih => simp [List.replicate_succ, List.splitOn_cons_eq_if_modifyHead, ih]
  have origin : Host.bare.files.origin (windingPath turns name).parts = [] := by
    simp [Files.Tree.origin, Host.bare]
  refine ⟨⟨List.replicate turns ".", parts, ?_⟩, named, rfl⟩
  rw [origin]
  clear parts origin
  induction turns with
  | zero => rfl
  | succ turns ih => exact ih

/-- Whether an update of the ledger at a path shows if there is a lock, although nothing is in the
place of the lock file and its directory is there. -/
def Shows (path : Path) : Prop :=
  ∃ place, FileOrVacancy Host.bare.files (path.appendName ".lock") place ∧
    ¬ List.Forall₂ (SameBut place) (sights ⟨path, true⟩ Host.bare [.update fixed])
      (sights ⟨path, false⟩ Host.bare [.update fixed])

private theorem shows_windingPath {turns : Nat} (clean : '/' ∉ name.toList ∧ '\x00' ∉ name.toList)
    (named : name ≠ "" ∧ name ≠ "." ∧ name ≠ "..") (short : Bytes.lengthOfText name ≤ 255)
    (shortPath : 2 * turns + Bytes.lengthOfText name < 4096)
    (long : 250 < Bytes.lengthOfText name ∨ 4091 ≤ 2 * turns + Bytes.lengthOfText name) :
    Shows (windingPath turns name) := by
  have found : Host.bare.files.fileLocation (windingPath turns name) = .ok [name] :=
    Files.Tree.fileLocation_eq_ok_iff.mpr
      ⟨(checkPath_windingPath_iff named.1 clean.2).mpr shortPath, [], name,
        leads_windingPath turns clean.1 named, rfl, short, rfl⟩
  have absent : (⟨windingPath turns name, false⟩ : Ledger).storedIn Host.bare.files = .ok none := by
    simp [storedIn, Files.Tree.readText, Files.Tree.read_of_missing found rfl, bind, Except.bind]
  have lockClean : '/' ∉ (name ++ ".lock").toList ∧ '\x00' ∉ (name ++ ".lock").toList := by
    simp [clean]
  have leads := leads_windingPath turns lockClean.1 (append_lock_ne name)
  refine ⟨[name ++ ".lock"], ?_, not_sameBut_of_refused found absent ?_⟩
  · rw [windingPath_appendName]
    exact .vacancy leads rfl rfl
  · intro other opened
    obtain ⟨checked, holder, last, lastLeads, -, lastShort, -⟩ :=
      Files.Tree.fileLocation_eq_ok_iff.mp opened
    rw [windingPath_appendName] at checked lastLeads
    have within := (checkPath_windingPath_iff (append_lock_ne name).1 lockClean.2).mp checked
    obtain ⟨⟨front, parts, -⟩, -, -⟩ := leads
    obtain ⟨⟨lastFront, lastParts, -⟩, -, -⟩ := lastLeads
    obtain rfl := List.singleton_inj.mp (List.append_inj' (lastParts.symm.trans parts) rfl).2
    simp only [lengthOfText_append_lock, Files.pathLimit, Files.nameLimit] at within lastShort
    omega

/-- The longest name that the system accepts. -/
def longestName : String := String.ofList (List.replicate 255 'a')

/-- A lock file that the system refuses to open shows: its name is too long, its path is too long,
or there is a null character in it. -/
theorem locking_shows_on_refused_paths :
    Shows (windingPath 0 longestName) ∧ Shows (windingPath 2046 "a") ∧ Shows ⟨"a\x00b"⟩ := by
  refine ⟨?longName, ?longPath, ?null⟩
  case longName =>
    have length : Bytes.lengthOfText longestName = 255 := by decide +kernel
    have letter : ∀ c ∈ longestName.toList, c = 'a' := by
      unfold longestName
      rw [String.toList_ofList]
      exact fun c => List.eq_of_mem_replicate
    have clean : '/' ∉ longestName.toList ∧ '\x00' ∉ longestName.toList :=
      ⟨fun slash => absurd (letter _ slash) (by decide),
        fun null => absurd (letter _ null) (by decide)⟩
    have long : 2 < Bytes.lengthOfText longestName := by
      rw [length]
      decide
    exact shows_windingPath clean (named_of_two_lt long) length.le (by rw [length]; decide)
      (.inl (by rw [length]; decide))
  case longPath =>
    exact shows_windingPath (by decide) (by decide) (by decide) (by decide) (by decide)
  case null =>
    have leads : Host.bare.files.Leads (Path.parts ⟨"a\x00b.lock"⟩) [] "a\x00b.lock" :=
      ⟨⟨[], by decide +kernel, rfl⟩, by decide, rfl⟩
    refine ⟨["a\x00b.lock"], .vacancy leads rfl rfl, ?_⟩
    intro same
    exact absurd (update_of_sameBut same) (by decide +kernel)

end Refused

end OverlayNet.Ledger
