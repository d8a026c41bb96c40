import Mathlib
import OverlayNet.Ledger.Allocation
import OverlayNet.Proofs.Files.CompanionFiles

set_option autoImplicit false

/-! # Updates of the ledger

An update either replaces the text in the ledger, or leaves every file as it was. In both cases the
lock file may have been made, with nothing in it. The decision is asked for at most once, and only
when the lock is taken and the ledger has been read. -/

namespace OverlayNet.Ledger

open Files (Location Tree)
open Files.Tree (SameDirectories)

variable {κ φ : Type} {ledger : Ledger} {before after : Tree} {host : Host κ φ}

section LockFile

/-- Whether a tree is the one in which the lock of a ledger is taken. -/
def Guarded (ledger : Ledger) (before after : Tree) : Prop :=
  if ledger.locked then before.touch ledger.lockPath = .ok after else after = before

/-- Whether a location holds what it held, or else the lock file, which is new and empty. -/
def Spared (ledger : Ledger) (before after : Tree) (location : Location) : Prop :=
  after.node? location = before.node? location ∨
    ledger.locked = true ∧ before.fileLocation ledger.lockPath = .ok location ∧
      before.node? location = none ∧ after.node? location = some (.file [] Files.newFileMode)

private theorem spared_refl (ledger : Ledger) (tree : Tree) (location : Location) :
    ledger.Spared tree tree location :=
  .inl rfl

theorem Guarded.cases (guarded : ledger.Guarded before after) :
    after = before ∨ ∃ place, ledger.locked = true ∧
      before.fileLocation ledger.lockPath = .ok place ∧ before.node? place = none ∧
      after = before.set place (.file [] Files.newFileMode) := by
  unfold Guarded at guarded
  split at guarded
  case isFalse => exact .inl guarded
  case isTrue locked =>
    obtain ⟨place, found, ⟨-, same⟩ | ⟨missing, made⟩⟩ := Files.Tree.touch_cases guarded
    · exact .inl same
    · exact .inr ⟨place, locked, found, missing, made⟩

theorem Guarded.spared (guarded : ledger.Guarded before after) (location : Location) :
    ledger.Spared before after location := by
  rcases guarded.cases with rfl | ⟨place, locked, found, missing, rfl⟩
  · exact spared_refl ledger after location
  · obtain ⟨-, holder, name, -, below, -, -⟩ := Files.Tree.fileLocation_eq_ok_iff.mp found
    have holds := Files.Tree.node?_set before place location (.file [] Files.newFileMode)
      (by simp [below])
    by_cases isPlace : location = place
    · subst isPlace
      rw [if_pos rfl] at holds
      exact .inr ⟨locked, found, missing, holds⟩
    · rw [if_neg isPlace] at holds
      exact .inl holds

theorem Guarded.sameDirectories (guarded : ledger.Guarded before after) :
    SameDirectories before after := by
  rcases guarded.cases with rfl | ⟨place, -, found, -, rfl⟩
  · exact .refl after
  · obtain ⟨-, holder, name, -, -, -, free⟩ := Files.Tree.fileLocation_eq_ok_iff.mp found
    exact .of_set free rfl

private theorem exists_guarded_iff :
    (∃ files, ledger.Guarded before files) ↔
      (ledger.locked = true → ∃ place, before.fileLocation ledger.lockPath = .ok place) := by
  unfold Guarded
  split
  case isFalse unlocked => simp [unlocked]
  case isTrue locked =>
    constructor
    · rintro ⟨files, touched⟩ -
      obtain ⟨place, found, -⟩ := Files.Tree.touch_cases touched
      exact ⟨place, found⟩
    · intro opens
      obtain ⟨place, found⟩ := opens locked
      obtain ⟨files, touched, -⟩ := Files.Tree.touch_of_fileLocation found
      exact ⟨files, touched⟩

theorem Guarded.elsewhere {other : Tree} (guarded : ledger.Guarded before after)
    (same : SameDirectories before other) : ∃ files, ledger.Guarded other files := by
  apply exists_guarded_iff.mpr
  intro locked
  obtain ⟨place, found⟩ := exists_guarded_iff.mp ⟨after, guarded⟩ locked
  exact ⟨place, same.fileLocation found⟩

theorem Guarded.read (guarded : ledger.Guarded before after) :
    after.read ledger.path = before.read ledger.path := by
  unfold Guarded at guarded
  split at guarded
  case isFalse => rw [guarded]
  case isTrue => exact Files.Tree.read_of_touch_appendName (by decide) (by decide) guarded

theorem Guarded.storedIn (guarded : ledger.Guarded before after) :
    ledger.storedIn after = ledger.storedIn before := by
  simp only [Ledger.storedIn, Files.Tree.readText, guarded.read]

theorem Guarded.node? {location : Location} (guarded : ledger.Guarded before after)
    (found : before.fileLocation ledger.path = .ok location) :
    after.node? location = before.node? location := by
  rcases guarded.spared location with kept | ⟨-, lockFile, -, -⟩
  · exact kept
  · -- The lock file is never in the ledger's place.
    exact absurd rfl
      (Files.Tree.fileLocation_appendName_ne (by decide) (by decide) found lockFile)

/-- Taking the lock either changes nothing and fails, or makes the lock file if need be. -/
theorem takeLock_cases (ledger : Ledger) (host : Host κ φ) :
    ((∀ files, ¬ ledger.Guarded host.files files) ∧
        ∃ fault, ledger.takeLock.outcome host = (.error fault, host)) ∨
      ∃ files, ledger.Guarded host.files files ∧
        ledger.takeLock.outcome host = (.ok (), { host with files }) := by
  unfold takeLock Guarded
  split
  case isFalse => exact .inr ⟨host.files, rfl, rfl⟩
  case isTrue =>
    cases touched : host.files.touch ledger.lockPath with
    | error cause =>
        exact .inl ⟨fun _ guarded => (nomatch guarded), _,
          Procedure.outcome_changeFiles_error touched _⟩
    | ok files => exact .inr ⟨files, rfl, Procedure.outcome_changeFiles_ok touched _⟩

end LockFile

section Steps

theorem outcome_peek (ledger : Ledger) (host : Host κ φ) :
    ledger.peek.outcome host =
      ((ledger.storedIn host.files).mapError (.system "Failure reading IP ledger" ledger.path.text),
        host) :=
  rfl

/-- An update from its decision on. -/
def carryOut (ledger : Ledger) (decision : Decision) : Action κ φ String := do
  let text ← decide decision
  ledger.store text
  pure text

/-- What a decision comes to that is carried out: it is logged in any case, and the files change
only if they hold the text that it decides on. -/
theorem carryOut_cases (ledger : Ledger) (decision : Decision) (host : Host κ φ) :
    (∃ fault, (∀ text, decision.outcome = .ok text →
          ∀ location, host.files.fileLocation ledger.path ≠ .ok location) ∧
        (ledger.carryOut decision).outcome host =
          (.error fault, { host with log := host.log ++ decision.log })) ∨
      ∃ text files, decision.outcome = .ok text ∧
        host.files.write ledger.path (Bytes.ofText text) = .ok files ∧
        (ledger.carryOut decision).outcome host =
          (.ok text, { host with files, log := host.log ++ decision.log }) := by
  let logged : Host κ φ := { host with log := host.log ++ decision.log }
  have decided : (decide decision).outcome host = (decision.outcome, logged) :=
    Procedure.outcome_bind_ok (Procedure.outcome_recordAll decision.log host) _
  cases outcome : decision.outcome with
  | error fault =>
      rw [outcome] at decided
      exact .inl ⟨fault, nofun, Procedure.outcome_bind_error decided _⟩
  | ok text =>
      rw [outcome] at decided
      have steps := Procedure.outcome_bind_ok decided fun text => do
        ledger.store text
        pure text
      cases written : host.files.write ledger.path (Bytes.ofText text) with
      | error cause =>
          refine .inl ⟨_, ?_, steps.trans (Procedure.outcome_bind_error
            (Procedure.outcome_changeFiles_error written _) _)⟩
          intro _ _ location found
          obtain ⟨files, mode, done, -⟩ :=
            Files.Tree.write_of_fileLocation found (Bytes.ofText text)
          cases written.symm.trans done
      | ok files =>
          exact .inr ⟨text, files, rfl, written, steps.trans (Procedure.outcome_bind_ok
            (Procedure.outcome_changeFiles_ok written _) _)⟩

/-- How an update starts, whatever the decision that it asks for. -/
inductive Start (ledger : Ledger) (host : Host κ φ) : Prop where
  | unlocked (unguarded : ∀ files, ¬ ledger.Guarded host.files files) (fault : Fault)
      (fails : ∀ next, (ledger.update next).outcome host = (.error fault, host))
  | unread {files : Tree} (guarded : ledger.Guarded host.files files) {cause : Os.Cause}
      (refused : ledger.storedIn host.files = .error cause) (fault : Fault)
      (fails : ∀ next, (ledger.update next).outcome host = (.error fault, { host with files }))
  | asks {files : Tree} (guarded : ledger.Guarded host.files files) {stored? : Option String}
      (read : ledger.storedIn host.files = .ok stored?)
      (goesOn : ∀ next, (ledger.update next).outcome host =
        (ledger.carryOut (next stored?)).outcome { host with files })

theorem start (ledger : Ledger) (host : Host κ φ) : Start ledger host := by
  rcases takeLock_cases ledger host with ⟨unguarded, fault, failed⟩ | ⟨files, guarded, taken⟩
  case inl => exact .unlocked unguarded fault fun _ => Procedure.outcome_bind_error failed _
  case inr =>
    let locked : Host κ φ := { host with files }
    have peek : ∀ next, (ledger.update next).outcome host =
        (ledger.peek >>= fun stored? => ledger.carryOut (next stored?)).outcome locked :=
      fun _ => Procedure.outcome_bind_ok taken _
    have peeked : ledger.peek.outcome locked =
        ((ledger.storedIn host.files).mapError
          (.system "Failure reading IP ledger" ledger.path.text), locked) := by
      -- The ledger is read as it was before the lock file was made.
      rw [outcome_peek, guarded.storedIn]
    cases read : ledger.storedIn host.files with
    | error cause =>
        rw [read] at peeked
        exact .unread guarded read _ fun next =>
          (peek next).trans (Procedure.outcome_bind_error peeked _)
    | ok stored? =>
        rw [read] at peeked
        exact .asks guarded read fun next =>
          (peek next).trans (Procedure.outcome_bind_ok peeked _)

end Steps

section Consulting

/-- Whether an update asks its decision for these stored texts, one after the other, and for no
others. Then all that is logged is what the decision logs for them, and what the decision says about
other texts has no influence. -/
structure Consults (ledger : Ledger) (host : Host κ φ) (calls : List (Option String)) : Prop where
  log : ∀ next, ((ledger.update next).outcome host).2.log =
    host.log ++ calls.flatMap fun stored? => (next stored?).log
  outcome : ∀ next other, (∀ stored? ∈ calls, next stored? = other stored?) →
    (ledger.update next).outcome host = (ledger.update other).outcome host

def question (stored? : Option String) : LogEntry :=
  ⟨.info, stored?.elim "" ("=" ++ ·)⟩

private theorem question_injective : Function.Injective question := by
  intro first second same
  cases first with
  | none => cases second with
    | none => rfl
    | some text => simp [question] at same
  | some text => cases second with
    | none => simp [question] at same
    | some other => simpa [question] using same

theorem Consults.unique {calls others : List (Option String)}
    (first : Consults ledger host calls) (second : Consults ledger host others) :
    calls = others := by
  -- A decision that logs what it is asked for shows the texts in the log, in order.
  let echo (stored? : Option String) : Decision := ⟨[question stored?], .ok ""⟩
  have logs : calls.flatMap (fun stored? => [question stored?]) =
      others.flatMap fun stored? => [question stored?] :=
    List.append_cancel_left ((first.log echo).symm.trans (second.log echo))
  rw [← List.map_eq_flatMap, ← List.map_eq_flatMap] at logs
  exact List.map_injective_iff.mpr question_injective logs

end Consulting

section Results

/-- A text without the blanks at its end. -/
def stripped (text : String) : String :=
  String.ofList (Text.trimEnd text.toList)

theorem storedIn_of_read {files : Tree} {content : Bytes} {text : String}
    (read : files.read ledger.path = .ok content) (valid : Bytes.text? content = some text) :
    ledger.storedIn files = .ok (some (stripped text)) := by
  simp [storedIn, Files.Tree.readText, read, valid, bind, Except.bind, stripped]

/-- What is stored is nothing, if there is no file, or else a text without the blanks at its end. -/
theorem storedIn_cases {files : Tree} {stored? : Option String}
    (stored : ledger.storedIn files = .ok stored?) :
    stored? = none ∧ files.read ledger.path = .error (.refused .noEntry) ∨
      ∃ content text, stored? = some (stripped text) ∧
        files.read ledger.path = .ok content ∧ Bytes.text? content = some text := by
  cases read : files.read ledger.path with
  | error cause =>
      simp only [storedIn, Files.Tree.readText, read, bind, Except.bind] at stored
      split at stored
      case isTrue missing => exact .inl ⟨(Except.ok.inj stored).symm, by rw [missing]⟩
      case isFalse => cases stored
  | ok content =>
      cases valid : Bytes.text? content with
      | none => simp [storedIn, Files.Tree.readText, read, valid, bind, Except.bind] at stored
      | some text =>
          have same := stored.symm.trans (storedIn_of_read read valid)
          exact .inr ⟨content, text, Except.ok.inj same, rfl, valid⟩

theorem stored_eq_none_iff {files : Tree} {stored? : Option String}
    (stored : ledger.storedIn files = .ok stored?) :
    stored? = none ↔ files.find? ledger.path = none := by
  rcases storedIn_cases stored with ⟨rfl, missing⟩ | ⟨content, text, rfl, read, -⟩
  · simp [Files.Tree.find?_of_read_noEntry missing]
  · obtain ⟨mode, found⟩ := Files.Tree.read_eq_ok_iff.mp read
    simp [found]

private theorem consults_of_asks {files : Tree} {stored? : Option String}
    (goesOn : ∀ next, (ledger.update next).outcome host =
      (ledger.carryOut (next stored?)).outcome { host with files }) :
    Consults ledger host [stored?] := by
  constructor
  · intro next
    rw [goesOn, List.flatMap_singleton]
    rcases ledger.carryOut_cases (next stored?) { host with files } with
      ⟨fault, -, failed⟩ | ⟨text, written, -, -, done⟩
    · rw [failed]
    · rw [done]
  · intro next other same
    rw [goesOn, goesOn, same stored? (List.mem_singleton_self stored?)]

private theorem consults_nothing (files : Tree) {fault : Fault}
    (fails : ∀ next, (ledger.update next).outcome host = (.error fault, { host with files })) :
    Consults ledger host [] := by
  constructor
  · intro next
    rw [fails, List.flatMap_nil, List.append_nil]
  · intro next other _
    rw [fails, fails]

/-- The decision is asked for at most once: for what is stored, if the lock is taken and the ledger
can be read, and otherwise not at all. -/
theorem exists_consults (ledger : Ledger) (host : Host κ φ) :
    ∃ calls, Consults ledger host calls ∧ calls.length ≤ 1 ∧
      (calls = [] ↔ (∃ fault, (ledger.takeLock.outcome host).1 = .error fault) ∨
        ∃ fault, (ledger.peek.outcome host).1 = .error fault) ∧
      ∀ stored? ∈ calls, ledger.storedIn host.files = .ok stored? := by
  have taken : ∀ files, ledger.Guarded host.files files →
      (ledger.takeLock.outcome host).1 = .ok () := by
    intro files guarded
    rcases takeLock_cases ledger host with ⟨unguarded, -⟩ | ⟨made, -, taken⟩
    · exact absurd guarded (unguarded files)
    · rw [taken]
  cases start ledger host with
  | unlocked unguarded fault fails =>
      refine ⟨[], consults_nothing host.files fails, by simp, ?_, by simp⟩
      rcases takeLock_cases ledger host with ⟨-, fault, failed⟩ | ⟨files, guarded, -⟩
      · simp [failed]
      · exact absurd guarded (unguarded files)
  | unread guarded refused fault fails =>
      refine ⟨[], consults_nothing _ fails, by simp, ?_, by simp⟩
      simp [outcome_peek, refused, Except.mapError]
  | @asks files guarded stored? read goesOn =>
      refine ⟨[stored?], consults_of_asks goesOn, by simp, ?_, by simp [read]⟩
      simp [taken files guarded, outcome_peek, read, Except.mapError]

variable {next : Option String → Decision} {later : Host κ φ}

/-- An update that fails changes no more than taking the lock does. -/
theorem update_error {fault : Fault}
    (failed : (ledger.update next).outcome host = (.error fault, later)) :
    later.files = host.files ∨ ledger.Guarded host.files later.files := by
  cases start ledger host with
  | unlocked unguarded other fails =>
      obtain ⟨-, rfl⟩ := Prod.mk.inj (failed.symm.trans (fails next))
      exact .inl rfl
  | unread guarded refused other fails =>
      obtain ⟨-, rfl⟩ := Prod.mk.inj (failed.symm.trans (fails next))
      exact .inr guarded
  | @asks files guarded stored? read goesOn =>
      rw [goesOn] at failed
      rcases ledger.carryOut_cases (next stored?) { host with files } with
        ⟨other, -, stopped⟩ | ⟨text, written, -, -, done⟩
      · obtain ⟨-, rfl⟩ := Prod.mk.inj (failed.symm.trans stopped)
        exact .inr guarded
      · cases failed.symm.trans done

/-- An update that succeeds was asked for its decision, and has written it. -/
theorem update_ok {text : String}
    (done : (ledger.update next).outcome host = (.ok text, later)) :
    ∃ files stored?, ledger.Guarded host.files files ∧
      ledger.storedIn host.files = .ok stored? ∧ (next stored?).outcome = .ok text ∧
      files.write ledger.path (Bytes.ofText text) = .ok later.files ∧
      later.log = host.log ++ (next stored?).log := by
  cases start ledger host with
  | unlocked unguarded fault fails => cases done.symm.trans (fails next)
  | unread guarded refused fault fails => cases done.symm.trans (fails next)
  | @asks files guarded stored? read goesOn =>
      rw [goesOn] at done
      rcases ledger.carryOut_cases (next stored?) { host with files } with
        ⟨fault, -, stopped⟩ | ⟨other, after, decided, written, carried⟩
      · cases done.symm.trans stopped
      · obtain ⟨same, rfl⟩ := Prod.mk.inj (done.symm.trans carried)
        obtain rfl := Except.ok.inj same
        exact ⟨files, stored?, guarded, read, decided, written, rfl⟩

/-- What an update leaves behind that succeeds. -/
structure Replaced (ledger : Ledger) (before : Tree) (text : String) (after : Tree)
    (location : Location) : Prop where
  found : before.fileLocation ledger.path = .ok location
  holds : after.node? location =
    some (.file (Bytes.ofText text) (before.writtenMode location Files.newFileMode))
  spared : ∀ other, other ≠ location → ledger.Spared before after other
  read : after.read ledger.path = .ok (Bytes.ofText text)

theorem Guarded.replaced {text : String} (guarded : ledger.Guarded before after) {files : Tree}
    (written : after.write ledger.path (Bytes.ofText text) = .ok files) :
    SameDirectories before files ∧ ∃ location, Replaced ledger before text files location := by
  have read := Files.Tree.read_of_write written
  simp only [Files.Tree.write, bind, exceptBind_eq_ok_iff] at written
  obtain ⟨location, found, written⟩ := written
  obtain rfl := Except.ok.inj written
  obtain ⟨-, holder, name, -, below, -, free⟩ := Files.Tree.fileLocation_eq_ok_iff.mp found
  have foundBefore := guarded.sameDirectories.symm.fileLocation found
  have holds := fun other node =>
    Files.Tree.node?_set after location other node (by simp [below])
  refine ⟨guarded.sameDirectories.trans (.of_set free rfl), location, foundBefore, ?_, ?_, read⟩
  · rw [holds, if_pos rfl, Files.Tree.writtenMode, guarded.node? foundBefore]
    rfl
  · intro other elsewhere
    unfold Spared
    rw [holds, if_neg elsewhere]
    exact guarded.spared other

/-- The decision of the update that follows sees what has been stored. -/
theorem consults_of_update_ok {text : String}
    (done : (ledger.update next).outcome host = (.ok text, later)) :
    ledger.storedIn later.files = .ok (some (stripped text)) ∧
      Consults ledger later [some (stripped text)] := by
  obtain ⟨files, -, guarded, -, -, written, -⟩ := update_ok done
  obtain ⟨sameDirectories, location, replaced⟩ := guarded.replaced written
  have stored := storedIn_of_read replaced.read (Bytes.text?_ofText text)
  refine ⟨stored, ?_⟩
  cases start ledger later with
  | unlocked unguarded fault fails =>
      obtain ⟨again, lockTaken⟩ := guarded.elsewhere sameDirectories
      exact absurd lockTaken (unguarded again)
  | unread guarded refused fault fails => cases stored.symm.trans refused
  | asks guarded read goesOn =>
      obtain rfl := Except.ok.inj (stored.symm.trans read)
      exact consults_of_asks goesOn

theorem exists_update_ok_iff {text : String} :
    (∃ later, (ledger.update next).outcome host = (.ok text, later)) ↔
      (ledger.locked = true → ∃ place, host.files.fileLocation ledger.lockPath = .ok place) ∧
        (∃ stored?, ledger.storedIn host.files = .ok stored? ∧
          (next stored?).outcome = .ok text) ∧
        ∃ location, host.files.fileLocation ledger.path = .ok location := by
  rw [← exists_guarded_iff]
  constructor
  · rintro ⟨later, done⟩
    obtain ⟨files, stored?, guarded, read, decided, written, -⟩ := update_ok done
    obtain ⟨-, location, replaced⟩ := guarded.replaced written
    exact ⟨⟨files, guarded⟩, ⟨stored?, read, decided⟩, location, replaced.found⟩
  · rintro ⟨⟨files, lockTaken⟩, ⟨stored?, stored, decided⟩, location, found⟩
    cases start ledger host with
    | unlocked unguarded fault fails => exact absurd lockTaken (unguarded files)
    | unread guarded refused fault fails => cases stored.symm.trans refused
    | @asks files guarded stored? read goesOn =>
        obtain rfl := Except.ok.inj (stored.symm.trans read)
        rcases ledger.carryOut_cases (next _) { host with files } with
          ⟨fault, unwritable, -⟩ | ⟨other, after, otherDecided, -, done⟩
        · exact absurd (guarded.sameDirectories.fileLocation found)
            (unwritable text decided location)
        · obtain rfl := Except.ok.inj (decided.symm.trans otherDecided)
          exact ⟨_, (goesOn next).trans done⟩

end Results

/-- Whether a content is text that reads, without the blanks at its end, as an address. -/
def Stores (content : Bytes) (last : Cidr) : Prop :=
  ∃ text, Bytes.text? content = some text ∧ Cidr.parse (stripped text) = .ok last

/-- No address is issued behind a ledger that does not store one, and its content stays. -/
theorem acquire_of_corrupt {content : Bytes} (read : host.files.read ledger.path = .ok content)
    (corrupt : ∀ last, ¬ Stores content last) (node cluster : Cidr) :
    ∃ fault later, (Allocation.acquire ledger node cluster).outcome host = (.error fault, later) ∧
      later.files.read ledger.path = .ok content ∧
      ∀ location, ledger.Spared host.files later.files location := by
  let next := Allocation.next node cluster
  rcases updated : (ledger.update next).outcome host with ⟨result, later⟩
  cases result with
  | error fault =>
      refine ⟨fault, later, Procedure.outcome_bind_error updated _, ?_⟩
      rcases update_error updated with unchanged | guarded
      · rw [unchanged]
        exact ⟨read, ledger.spared_refl host.files⟩
      · exact ⟨guarded.read.trans read, guarded.spared⟩
  | ok text =>
      obtain ⟨-, stored?, -, stored, decided, -⟩ := update_ok updated
      rcases storedIn_cases stored with ⟨-, missing⟩ | ⟨other, raw, rfl, otherRead, valid⟩
      · cases read.symm.trans missing
      · obtain rfl := Except.ok.inj (read.symm.trans otherRead)
        cases parsed : Cidr.parse (stripped raw) with
        | ok last => exact absurd ⟨raw, valid, parsed⟩ (corrupt last)
        | error defect =>
            simp [next, Allocation.next, Cidr.read, parsed, Except.mapError] at decided

/-- An update is all or nothing. Its decision is asked for at most once: for nothing, exactly if
there is no ledger, and not at all if the lock is not taken or the ledger not read. If the update
fails, every file holds what it held before, and nothing has been made but an empty lock file. If it
succeeds, the ledger holds the text that was decided on and keeps its permission bits, nothing else
has changed but for that lock file, and what is seen next is that text without the blanks at its
end. A ledger that stores no address keeps its content, and no address is issued. -/
theorem update_all_or_nothing (ledger : Ledger) (host : Host κ φ) :
    (∃ calls : List (Option String),
      (∀ others, Consults ledger host others ↔ others = calls) ∧ calls.length ≤ 1 ∧
      (calls = [] ↔ (∃ fault, (ledger.takeLock.outcome host).1 = .error fault) ∨
        ∃ fault, (ledger.peek.outcome host).1 = .error fault) ∧
      ∀ stored? ∈ calls, stored? = none ↔ host.files.find? ledger.path = none) ∧
    (∀ next fault later, (ledger.update next).outcome host = (.error fault, later) →
      ∀ location, ledger.Spared host.files later.files location) ∧
    (∀ next text later, (ledger.update next).outcome host = (.ok text, later) →
      (∃ location, Replaced ledger host.files text later.files location) ∧
      (ledger.peek.outcome later).1 = .ok (some (stripped text)) ∧
      Consults ledger later [some (stripped text)]) ∧
    (∀ next text, (∃ later, (ledger.update next).outcome host = (.ok text, later)) ↔
      (ledger.locked = true → ∃ place, host.files.fileLocation ledger.lockPath = .ok place) ∧
      (∃ stored?, ledger.storedIn host.files = .ok stored? ∧ (next stored?).outcome = .ok text) ∧
      ∃ location, host.files.fileLocation ledger.path = .ok location) ∧
    (∀ content, host.files.read ledger.path = .ok content → (∀ last, ¬ Stores content last) →
      ∀ node cluster, ∃ fault later,
        (Allocation.acquire ledger node cluster).outcome host = (.error fault, later) ∧
        later.files.read ledger.path = .ok content ∧
        ∀ location, ledger.Spared host.files later.files location) := by
  refine ⟨?calls, ?fails, ?succeeds, fun _ _ => exists_update_ok_iff,
    fun _ => acquire_of_corrupt⟩
  case calls =>
    obtain ⟨calls, consults, once, never, stored⟩ := exists_consults ledger host
    refine ⟨calls, ?only, once, never, ?absent⟩
    case only =>
      intro others
      exact ⟨fun other => other.unique consults, fun same => same ▸ consults⟩
    case absent =>
      intro stored? member
      exact stored_eq_none_iff (stored stored? member)
  case fails =>
    intro next fault later failed location
    rcases update_error failed with unchanged | guarded
    · rw [unchanged]
      exact ledger.spared_refl host.files location
    · exact guarded.spared location
  case succeeds =>
    intro next text later done
    obtain ⟨files, -, guarded, -, -, written, -⟩ := update_ok done
    obtain ⟨stored, consults⟩ := consults_of_update_ok done
    refine ⟨(guarded.replaced written).2, ?_, consults⟩
    rw [outcome_peek, stored]
    rfl

/-- A host with a locked ledger that nobody has locked yet. -/
def sampleHost (text : String) : Host Unit Unit :=
  ⟨⟨[(["ledger"], .file (Bytes.ofText text) 0o600)], []⟩, (), (), []⟩

def sampleLedger : Ledger := ⟨⟨"ledger"⟩, true⟩

def failing (_ : Option String) : Decision :=
  ⟨[], .error (.missingVariable "CNI_IFNAME")⟩

/-- A text with blanks at its end. -/
def spacious (_ : Option String) : Decision :=
  ⟨[], .ok "10.32.1.2/16 \n"⟩

theorem update_all_or_nothing_samples :
    (∀ location, sampleLedger.Spared (sampleHost "").files
      ((sampleLedger.update failing).outcome (sampleHost "")).2.files location) ∧
    (sampleLedger.peek.outcome ((sampleLedger.update spacious).outcome (sampleHost "")).2).1 =
      .ok (some "10.32.1.2/16") ∧
    ∃ fault later, (Allocation.acquire sampleLedger ⟨⟨0x0a200100⟩, 24, by decide⟩
        ⟨⟨0x0a200000⟩, 16, by decide⟩).outcome (sampleHost "10.1.0.7") = (.error fault, later) ∧
      later.files.read ⟨"ledger"⟩ = .ok (Bytes.ofText "10.1.0.7") := by
  refine ⟨?fails, ?succeeds, ?corrupt⟩
  case fails =>
    obtain ⟨-, fails, -⟩ := update_all_or_nothing sampleLedger (sampleHost "")
    exact fails failing (.missingVariable "CNI_IFNAME") _ (Prod.ext (by decide +kernel) rfl)
  case succeeds =>
    obtain ⟨-, -, succeeds, -⟩ := update_all_or_nothing sampleLedger (sampleHost "")
    have updated : (sampleLedger.update spacious).outcome (sampleHost "") =
        (.ok "10.32.1.2/16 \n", ((sampleLedger.update spacious).outcome (sampleHost "")).2) :=
      Prod.ext (by decide +kernel) rfl
    rw [(succeeds _ _ _ updated).2.1]
    decide +kernel
  case corrupt =>
    obtain ⟨-, -, -, -, corrupt⟩ := update_all_or_nothing sampleLedger (sampleHost "10.1.0.7")
    obtain ⟨fault, later, failed, kept, -⟩ := corrupt (Bytes.ofText "10.1.0.7") (by decide +kernel)
      (by
        rintro last ⟨text, valid, parsed⟩
        obtain rfl := Option.some.inj ((Bytes.text?_ofText _).symm.trans valid)
        have bare : Cidr.parse (stripped "10.1.0.7") = .error .slashMissing := by decide +kernel
        cases parsed.symm.trans bare)
      ⟨⟨0x0a200100⟩, 24, by decide⟩ ⟨⟨0x0a200000⟩, 16, by decide⟩
    exact ⟨fault, later, failed, kept⟩

end OverlayNet.Ledger
