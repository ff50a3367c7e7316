import Mathlib.Data.List.Infix
import HermesAtrust.Concurrency.Transitions
import HermesAtrust.Storage.Files
import HermesAtrust.Text.Decimal

/-!
# Saving a session

A saved session replaces the one that is there while other commands may be
reading it or saving their own.  Each call of `StoredSession::save` writes its
document to a temporary file of its own next to the target, and renames that
file to the target once it is complete.  The model runs any number of calls
with targets in one directory, in any order of their steps, with every step
that can fail failing or not.
-/

namespace HermesAtrust.Auth

open HermesAtrust.Concurrency HermesAtrust.Storage HermesAtrust.Text

/-- What tells the calls apart: the process, its reading of the clock, and the
number it takes from `SEQUENCE`. -/
structure Ticket where
  process : Nat
  stamp : Nat
  sequence : Nat
  deriving DecidableEq

def temporaryName (ticket : Ticket) : Str :=
  ".hermes-session-".toList ++
    (decimalText ticket.process ++
      '-' :: (decimalText ticket.stamp ++
        '-' :: (decimalText ticket.sequence ++ ".tmp".toList)))

theorem temporaryName_injective : Function.Injective temporaryName := by
  have dash (rest : Str) : EndsDigits ('-' :: rest) :=
    endsDigits_cons (by decide) rest
  have dot : EndsDigits ".tmp".toList := by
    intro char isHead
    have first : ".tmp".toList.head? = some '.' := by decide
    rw [first] at isHead
    cases isHead
    decide
  intro first second same
  have afterStart := List.append_cancel_left same
  obtain ⟨sameProcess, later⟩ :=
    decimalText_append_inj (dash _) (dash _) afterStart
  obtain ⟨sameStamp, latest⟩ :=
    decimalText_append_inj (dash _) (dash _) (List.cons.inj later).2
  obtain ⟨sameSequence, -⟩ :=
    decimalText_append_inj dot dot (List.cons.inj latest).2
  cases first
  cases second
  simp only at sameProcess sameStamp sameSequence
  rw [sameProcess, sameStamp, sameSequence]

/-- A name that no call takes for its temporary file. -/
def Proper (name : Str) : Prop :=
  ∀ ticket, name ≠ temporaryName ticket

theorem head?_temporaryName (ticket : Ticket) :
    (temporaryName ticket).head? = some '.' := by
  unfold temporaryName
  simp

theorem proper_of_visible {char : Char} (visible : char ≠ '.') (rest : Str) :
    Proper (char :: rest) := by
  intro ticket same
  have heads := congrArg List.head? same
  rw [head?_temporaryName, List.head?_cons, Option.some_inj] at heads
  exact visible heads

/-! ## The calls -/

/-- What a file created by a call is labelled with: files that were there
before keep their own labels. -/
inductive Inode where
  | former (number : Nat)
  | created (ticket : Ticket)
  deriving DecidableEq

inductive SaveError where
  | io
  | encode
  deriving DecidableEq, Repr

/-- Where a call is.  Bytes reach the file in the order of the document, as the
buffered writer passes them on; a writer that is dropped after an error may
still pass some on. -/
inductive Phase where
  | opening
  | securing
  | writing (written : Nat)
  | dropping (written : Nat) (error : SaveError)
  | syncing
  | renaming
  | settling
  | cleaning (error : SaveError)
  | returned (result : Except SaveError Unit)
  deriving DecidableEq

/-- A call of `save`.  `renamed` and `abandoned` remember that the temporary
file has become the target, or could not be removed. -/
structure Save where
  target : Str
  document : List UInt8
  phase : Phase
  renamed : Bool
  abandoned : Bool
  deriving DecidableEq

inductive Step where
  | create (mask : BitVec 9)
  | setPermissions
  | write (count : Nat)
  | flushed
  | sync
  | rename
  | settle
  | fail (error : SaveError)
  | dropped
  | clean (removes : Bool)
  deriving DecidableEq

abbrev ownerOnly : BitVec 9 :=
  0o600

abbrev groupAndOthers : BitVec 9 :=
  0o077

namespace Save

variable (ticket : Ticket) (directory : Directory Str Inode) (save : Save)

def write (written count : Nat) : Directory Str Inode :=
  directory.append (.created ticket)
    ((save.document.drop written).take count)

/-- One step of the body of `save`. -/
def advance : Step → Option (Directory Str Inode × Save)
  | .create mask =>
      match save.phase with
      | .opening =>
          match directory.createNew (temporaryName ticket) (.created ticket)
              (ownerOnly &&& ~~~mask) with
          | some after => some (after, { save with phase := .securing })
          | none =>
              some (directory, { save with phase := .returned (.error .io) })
      | _ => none
  | .setPermissions =>
      match save.phase with
      | .securing =>
          some
            (directory.setPermissions (.created ticket) ownerOnly,
              { save with phase := .writing 0 })
      | _ => none
  | .write count =>
      match save.phase with
      | .writing written =>
          some
            (save.write ticket directory written count,
              { save with
                phase :=
                  .writing (min (written + count) save.document.length) })
      | .dropping written error =>
          some
            (save.write ticket directory written count,
              { save with
                phase :=
                  .dropping (min (written + count) save.document.length)
                    error })
      | _ => none
  | .flushed =>
      match save.phase with
      | .writing written =>
          if written = save.document.length then
            some (directory, { save with phase := .syncing })
          else
            none
      | _ => none
  | .sync =>
      match save.phase with
      | .syncing =>
          some
            (directory.synchroniseFile (.created ticket),
              { save with phase := .renaming })
      | _ => none
  | .rename =>
      match save.phase with
      | .renaming =>
          match directory.rename (temporaryName ticket) save.target with
          | some after =>
              some (after, { save with phase := .settling, renamed := true })
          | none =>
              some (directory, { save with phase := .cleaning .io })
      | _ => none
  | .settle =>
      match save.phase with
      | .settling =>
          some
            (directory.synchronise,
              { save with phase := .returned (.ok ()) })
      | _ => none
  | .fail error =>
      match save.phase, error with
      | .opening, .io =>
          some (directory, { save with phase := .returned (.error .io) })
      | .securing, .io | .syncing, .io | .renaming, .io | .settling, .io =>
          some (directory, { save with phase := .cleaning .io })
      | .writing written, error =>
          some (directory, { save with phase := .dropping written error })
      | _, _ => none
  | .dropped =>
      match save.phase with
      | .dropping _ error =>
          some (directory, { save with phase := .cleaning error })
      | _ => none
  | .clean removes =>
      match save.phase with
      | .cleaning error =>
          some
            (if removes then
                (directory.remove (temporaryName ticket)).getD directory
              else
                directory,
              { save with
                phase := .returned (.error error)
                abandoned := !removes })
      | _ => none

end Save

/-- The directory, the calls made so far, and for each process the value of
`SEQUENCE`. -/
structure SaveState where
  directory : Directory Str Inode
  saves : Ticket → Option Save
  sequence : Nat → Nat

inductive Action where
  | call (process stamp : Nat) (target : Str) (document : List UInt8)
  | step (ticket : Ticket) (step : Step)
  deriving DecidableEq

def next (state : SaveState) : Action → Option SaveState
  | .call process stamp target document =>
      let ticket := ⟨process, stamp, state.sequence process⟩
      some
        { state with
          saves :=
            Function.update state.saves ticket
              (some ⟨target, document, .opening, false, false⟩)
          sequence :=
            Function.update state.sequence process
              (state.sequence process + 1) }
  | .step ticket step =>
      match state.saves ticket with
      | none => none
      | some save =>
          match save.advance ticket state.directory step with
          | none => none
          | some (directory, after) =>
              some
                { state with
                  directory := directory
                  saves := Function.update state.saves ticket (some after) }

/-- Nothing has been saved yet: every file is an earlier one. -/
def start (before : Directory Str Nat) : SaveState where
  directory :=
    { entries := fun name => (before.entries name).map Inode.former
      files := fun
        | .former number => before.files number
        | .created _ => none
      replaced := fun name =>
        (before.replaced name).map fun entry => entry.map Inode.former }
  saves := fun _ => none
  sequence := fun _ => 0

/-- The targets of all calls are proper names. -/
def ProperTarget (_ : SaveState) : Action → Prop
  | .call _ _ target _ => Proper target
  | .step _ _ => True

/-! ## What one call holds -/

namespace Save

/-- The complete document, for the owner only and safe from a crash. -/
def whole (save : Save) : File :=
  ⟨save.document, ownerOnly, true⟩

/-- The temporary file as the phase of its call leaves it. -/
def Held (save : Save) (file : Option File) : Prop :=
  match save.phase with
  | .opening => file = none
  | .securing =>
      ∃ permissions, file = some ⟨[], permissions, false⟩
  | .writing written | .dropping written _ =>
      file = some ⟨save.document.take written, ownerOnly, false⟩
  | .syncing => file = some ⟨save.document, ownerOnly, false⟩
  | .renaming | .settling => file = some save.whole
  | .cleaning _ | .returned _ => True

/-- The temporary name stands for the file of the call. -/
def holdsTemporary (save : Save) : Bool :=
  match save.phase with
  | .securing | .writing _ | .dropping _ _ | .syncing | .renaming => true
  | .cleaning _ => !save.renamed
  | .opening | .settling | .returned _ => false

/-- The phases in which the rename may have happened. -/
def mayBeRenamed (save : Save) : Bool :=
  match save.phase with
  | .settling | .cleaning _ | .returned _ => true
  | _ => false

/-- What is true of a call and of what it has created, whatever the other
calls do. -/
structure Owned (ticket : Ticket) (directory : Directory Str Inode)
    (save : Save) : Prop where
  proper : Proper save.target
  held : save.Held (directory.files (.created ticket))
  whole :
    save.renamed = true →
      directory.files (.created ticket) = some save.whole
  secret :
    ∀ file, directory.files (.created ticket) = some file →
      file.permissions &&& groupAndOthers = 0
  temporary :
    save.holdsTemporary = true →
      directory.entries (temporaryName ticket) = some (.created ticket)
  tidied :
    save.holdsTemporary = false → save.abandoned = false →
      directory.entries (temporaryName ticket) ≠ some (.created ticket)
  early : save.mayBeRenamed = false → save.renamed = false
  settling :
    save.phase = .settling ∨ save.phase = .returned (.ok ()) →
      save.renamed = true
  named :
    ∀ name, some (.created ticket) ∈ directory.possible name →
      name = temporaryName ticket ∨
        (name = save.target ∧ save.renamed = true)

/-- What a step of one call may do to what the other calls see. -/
structure Effect (ticket : Ticket) (directory after : Directory Str Inode)
    (save later : Save) : Prop where
  target : later.target = save.target
  document : later.document = save.document
  renamed : save.renamed = true → later.renamed = true
  others :
    ∀ identity, identity ≠ .created ticket →
      after.files identity = directory.files identity
  entries :
    ∀ name, name ≠ temporaryName ticket → name ≠ save.target →
      after.entries name = directory.entries name
  possible :
    ∀ name entry, entry ∈ after.possible name →
      entry ∈ directory.possible name ∨
        entry = some (.created ticket) ∨
          (entry = none ∧ name = temporaryName ticket)

section

variable {ticket : Ticket} {directory after : Directory Str Inode}
  {save later : Save} {phase : Phase} {step : Step}

theorem ownerOnly_secret : ownerOnly &&& groupAndOthers = 0 := by
  decide

theorem masked_secret (mask : BitVec 9) :
    (ownerOnly &&& ~~~mask) &&& groupAndOthers = 0 := by
  rw [BitVec.and_assoc, BitVec.and_comm (~~~mask), ← BitVec.and_assoc,
    ownerOnly_secret]
  exact BitVec.zero_and

/-- A step that leaves the directory alone. -/
theorem Owned.quiet (owned : save.Owned ticket directory)
    (held :
      Held { save with phase := phase } (directory.files (.created ticket)))
    (temporary :
      holdsTemporary { save with phase := phase } = save.holdsTemporary)
    (early :
      mayBeRenamed { save with phase := phase } = false →
        save.renamed = false)
    (settling :
      phase = .settling ∨ phase = .returned (.ok ()) → save.renamed = true) :
    Owned ticket directory { save with phase := phase } where
  proper := owned.proper
  held := held
  whole := owned.whole
  secret := owned.secret
  temporary busy := owned.temporary (temporary.symm.trans busy)
  tidied idle := owned.tidied (temporary.symm.trans idle)
  early := early
  settling := settling
  named := owned.named

/-- An error before the rename. -/
theorem Owned.failed (owned : save.Owned ticket directory)
    {error : SaveError} (early : save.mayBeRenamed = false)
    (busy : save.holdsTemporary = true) :
    Owned ticket directory { save with phase := .cleaning error } := by
  have kept := owned.early early
  apply owned.quiet
  · trivial
  · rw [busy, holdsTemporary, kept]
    rfl
  · intro _
    exact kept
  · simp

/-- A step that changes the temporary file. -/
theorem Owned.modify (owned : save.Owned ticket directory) {file : File}
    {change : File → File}
    (present : directory.files (.created ticket) = some file)
    (held : Held { save with phase := phase } (some (change file)))
    (secret : (change file).permissions &&& groupAndOthers = 0)
    (busy : save.holdsTemporary = true)
    (stillBusy : holdsTemporary { save with phase := phase } = true)
    (early : save.renamed = false)
    (open_ :
      ¬(phase = .settling ∨ phase = .returned (.ok ()))) :
    Owned ticket (directory.modify (.created ticket) change)
      { save with phase := phase } where
  proper := owned.proper
  held := by
    rw [Directory.files_modify_self, present]
    exact held
  whole renamed := by
    rw [early] at renamed
    cases renamed
  secret file held := by
    rw [Directory.files_modify_self, present, Option.map_some,
      Option.some_inj] at held
    rw [← held]
    exact secret
  temporary _ := owned.temporary busy
  tidied idle := by
    rw [stillBusy] at idle
    cases idle
  early _ := early
  settling isSettling := absurd isSettling open_
  named := owned.named

/-- More of the document has reached the file. -/
theorem held_write (written count : Nat) :
    (⟨save.document.take written, ownerOnly, false⟩ : File).content ++
        (save.document.drop written).take count =
      save.document.take (min (written + count) save.document.length) := by
  rw [← List.take_eq_take_min, List.take_add]

theorem Owned.create (owned : save.Owned ticket directory) {mask : BitVec 9}
    (opening : save.phase = .opening)
    (created :
      directory.createNew (temporaryName ticket) (.created ticket)
        (ownerOnly &&& ~~~mask) = some after) :
    Owned ticket after { save with phase := .securing } := by
  have early : save.renamed = false := owned.early (by
    rw [mayBeRenamed, opening])
  obtain ⟨-, -, rfl⟩ := Directory.createNew_eq_some created
  constructor
  case proper => exact owned.proper
  case held => exact ⟨_, Directory.files_place_self⟩
  case whole =>
    intro renamed
    cases early.symm.trans renamed
  case secret =>
    intro file held
    rw [Directory.files_place_self, Option.some_inj] at held
    rw [← held]
    exact masked_secret mask
  case temporary =>
    intro _
    exact Directory.entries_relink_self
  case tidied =>
    intro idle
    cases idle
  case early =>
    intro _
    exact early
  case settling =>
    intro isSettling
    simp at isSettling
  case named =>
    intro name possible
    by_cases isTemporary : name = temporaryName ticket
    · exact Or.inl isTemporary
    · apply owned.named
      rw [← Directory.possible_relink_of_ne isTemporary]
      exact possible

theorem Owned.rename (owned : save.Owned ticket directory)
    (ready : save.phase = .renaming)
    (renamed :
      directory.rename (temporaryName ticket) save.target = some after) :
    Owned ticket after
      { save with phase := .settling, renamed := true } := by
  have held := owned.held
  rw [Held, ready] at held
  have current : directory.entries (temporaryName ticket) =
      some (.created ticket) :=
    owned.temporary (by rw [holdsTemporary, ready])
  obtain ⟨identity, entry, rfl⟩ :=
    Directory.rename_eq_some (owned.proper ticket).symm renamed
  cases current.symm.trans entry
  constructor
  case proper => exact owned.proper
  case held => exact held
  case whole =>
    intro _
    exact held
  case secret => exact owned.secret
  case temporary =>
    intro busy
    cases busy
  case tidied =>
    intro _ _
    rw [Directory.entries_relink_self]
    exact Option.some_ne_none _ |>.symm
  case early =>
    intro idle
    cases idle
  case settling =>
    intro _
    rfl
  case named =>
    intro name possible
    by_cases isTemporary : name = temporaryName ticket
    · exact Or.inl isTemporary
    · by_cases isTarget : name = save.target
      · exact Or.inr ⟨isTarget, rfl⟩
      · rw [Directory.possible_relink_of_ne isTemporary,
          Directory.possible_relink_of_ne isTarget] at possible
        have known := owned.named name possible
        simp [isTemporary, isTarget] at known

theorem Owned.settle (owned : save.Owned ticket directory)
    (settling : save.phase = .settling) :
    Owned ticket directory.synchronise
      { save with phase := .returned (.ok ()) } where
  proper := owned.proper
  held := trivial
  whole := owned.whole
  secret := owned.secret
  temporary busy := by cases busy
  tidied _ := owned.tidied (by rw [holdsTemporary, settling])
  early late := by cases late
  settling _ := owned.settling (Or.inl settling)
  named name possible := by
    rw [Directory.possible_synchronise, List.mem_singleton] at possible
    apply owned.named
    rw [possible]
    exact Directory.entries_mem_possible

/-- The call has failed and returns, leaving its file as it is. -/
theorem Owned.giveUp (owned : save.Owned ticket directory)
    {error : SaveError} {abandoned : Bool}
    (files : after.files = directory.files)
    (tidied :
      abandoned = false →
        after.entries (temporaryName ticket) ≠ some (.created ticket))
    (named :
      ∀ name, some (.created ticket) ∈ after.possible name →
        some (.created ticket) ∈ directory.possible name) :
    Owned ticket after
      { save with
        phase := .returned (.error error)
        abandoned := abandoned } where
  proper := owned.proper
  held := trivial
  whole renamed := by
    rw [files]
    exact owned.whole renamed
  secret := by
    rw [files]
    exact owned.secret
  temporary busy := by cases busy
  tidied _ kept := tidied kept
  early late := by cases late
  settling isSettling := by simp at isSettling
  named name possible := owned.named name (named name possible)

theorem Owned.clean (owned : save.Owned ticket directory)
    {error : SaveError} (removes : Bool) :
    Owned ticket
      (if removes then
          (directory.remove (temporaryName ticket)).getD directory
        else
          directory)
      { save with
        phase := .returned (.error error)
        abandoned := !removes } := by
  cases removes with
  | false =>
      apply owned.giveUp rfl
      · intro kept
        cases kept
      · intro name possible
        exact possible
  | true =>
      rw [if_pos rfl]
      rcases Directory.remove_getD directory (temporaryName ticket) with
        ⟨free, unchanged⟩ | removed
      · rw [unchanged]
        apply owned.giveUp rfl
        · intro _ occupied
          cases free.symm.trans occupied
        · intro name possible
          exact possible
      · rw [removed]
        apply owned.giveUp Directory.files_relink
        · intro _ occupied
          rw [Directory.entries_relink_self] at occupied
          cases occupied
        · intro name possible
          by_cases isTemporary : name = temporaryName ticket
          · rw [isTemporary, Directory.possible_relink_self] at possible
            rw [isTemporary]
            simpa using possible
          · rwa [Directory.possible_relink_of_ne isTemporary] at possible

/-- A step keeps what is true of the call that takes it. -/
theorem owned_advance (owned : save.Owned ticket directory)
    (stepped : save.advance ticket directory step = some (after, later)) :
    Owned ticket after later := by
  obtain ⟨target, document, phase, renamed, abandoned⟩ := save
  revert stepped
  fun_cases advance ticket directory
    ⟨target, document, phase, renamed, abandoned⟩ step
  all_goals
    intro stepped
    simp only [Option.some.injEq, Prod.mk.injEq, reduceCtorEq] at stepped
  all_goals
    obtain ⟨rfl, rfl⟩ := stepped
  case case1 opening _ created => exact owned.create opening created
  case case2 opening _ =>
    cases opening
    exact owned.quiet trivial rfl (fun _ => owned.early rfl) (by simp)
  case case4 securing =>
    cases securing
    obtain ⟨_, held⟩ := owned.held
    exact owned.modify held rfl ownerOnly_secret rfl rfl (owned.early rfl)
      (by simp)
  case case6 written writing =>
    cases writing
    refine owned.modify owned.held ?_ ownerOnly_secret rfl rfl
      (owned.early rfl) (by simp)
    exact congrArg some (congrArg (File.mk · ownerOnly false)
      (held_write written _))
  case case7 written _ dropping =>
    cases dropping
    refine owned.modify owned.held ?_ ownerOnly_secret rfl rfl
      (owned.early rfl) (by simp)
    exact congrArg some (congrArg (File.mk · ownerOnly false)
      (held_write written _))
  case case9 writing =>
    change phase = .writing document.length at writing
    subst writing
    have held : _ = some _ := owned.held
    rw [List.take_length] at held
    exact owned.quiet held rfl (fun _ => owned.early rfl) (by simp)
  case case12 syncing =>
    cases syncing
    exact owned.modify owned.held rfl ownerOnly_secret rfl rfl
      (owned.early rfl) (by simp)
  case case14 ready _ renamed => exact owned.rename ready renamed
  case case15 ready _ =>
    cases ready
    exact owned.failed rfl rfl
  case case17 settling => exact owned.settle settling
  case case19 opening =>
    cases opening
    exact owned.quiet trivial rfl (fun _ => owned.early rfl) (by simp)
  case case20 securing =>
    cases securing
    exact owned.failed rfl rfl
  case case21 syncing =>
    cases syncing
    exact owned.failed rfl rfl
  case case22 ready =>
    cases ready
    exact owned.failed rfl rfl
  case case23 settling =>
    cases settling
    have late := owned.settling (Or.inl rfl)
    cases late
    exact owned.quiet trivial rfl (fun idle => by cases idle) (by simp)
  case case24 writing =>
    cases writing
    exact owned.quiet owned.held rfl (fun _ => owned.early rfl) (by simp)
  case case26 dropping =>
    cases dropping
    exact owned.failed rfl rfl
  case case28 => exact owned.clean _

theorem effect_quiet {abandoned : Bool} :
    Effect ticket directory directory save
      { save with phase := phase, abandoned := abandoned } where
  target := rfl
  document := rfl
  renamed isRenamed := isRenamed
  others _ _ := rfl
  entries _ _ _ := rfl
  possible _ _ possible := Or.inl possible

theorem effect_modify {change : File → File} :
    Effect ticket directory (directory.modify (.created ticket) change) save
      { save with phase := phase } where
  target := rfl
  document := rfl
  renamed isRenamed := isRenamed
  others _ different := Directory.files_modify_of_ne different
  entries _ _ _ := rfl
  possible _ _ possible := Or.inl possible

theorem mem_possible_relink {name other : Str}
    {entry another : Option Inode}
    (possible : another ∈ (directory.relink name entry).possible other) :
    another ∈ directory.possible other ∨
      (another = entry ∧ other = name) := by
  by_cases same : other = name
  · rw [same, Directory.possible_relink_self, List.mem_cons] at possible
    rcases possible with isEntry | earlier
    · exact Or.inr ⟨isEntry, same⟩
    · rw [same]
      exact Or.inl earlier
  · rw [Directory.possible_relink_of_ne same] at possible
    exact Or.inl possible

theorem effect_create {mask : BitVec 9}
    (created :
      directory.createNew (temporaryName ticket) (.created ticket)
        (ownerOnly &&& ~~~mask) = some after) :
    Effect ticket directory after save { save with phase := phase } := by
  obtain ⟨-, -, rfl⟩ := Directory.createNew_eq_some created
  constructor
  case target => rfl
  case document => rfl
  case renamed =>
    intro isRenamed
    exact isRenamed
  case others =>
    intro identity different
    exact Directory.files_place_of_ne different
  case entries =>
    intro name notTemporary _
    exact Directory.entries_relink_of_ne notTemporary
  case possible =>
    intro name entry possible
    rcases mem_possible_relink possible with earlier | ⟨isNew, -⟩
    · exact Or.inl earlier
    · exact Or.inr (Or.inl isNew)

theorem effect_rename (owned : save.Owned ticket directory)
    (ready : save.phase = .renaming)
    (renamed :
      directory.rename (temporaryName ticket) save.target = some after) :
    Effect ticket directory after save
      { save with phase := .settling, renamed := true } := by
  have current : directory.entries (temporaryName ticket) =
      some (.created ticket) :=
    owned.temporary (by rw [holdsTemporary, ready])
  obtain ⟨identity, entry, rfl⟩ :=
    Directory.rename_eq_some (owned.proper ticket).symm renamed
  cases current.symm.trans entry
  constructor
  case target => rfl
  case document => rfl
  case renamed =>
    intro _
    rfl
  case others =>
    intro identity _
    rfl
  case entries =>
    intro name notTemporary notTarget
    rw [Directory.entries_relink_of_ne notTemporary,
      Directory.entries_relink_of_ne notTarget]
  case possible =>
    intro name entry possible
    rcases mem_possible_relink possible with before | ⟨isFree, isTemporary⟩
    · rcases mem_possible_relink before with earlier | ⟨isNew, -⟩
      · exact Or.inl earlier
      · exact Or.inr (Or.inl isNew)
    · exact Or.inr (Or.inr ⟨isFree, isTemporary⟩)

theorem effect_clean (removes abandoned : Bool) :
    Effect ticket directory
      (if removes then
          (directory.remove (temporaryName ticket)).getD directory
        else
          directory)
      save { save with phase := phase, abandoned := abandoned } := by
  cases removes with
  | false => exact effect_quiet
  | true =>
      rw [if_pos rfl]
      rcases Directory.remove_getD directory (temporaryName ticket) with
        ⟨-, unchanged⟩ | removed
      · rw [unchanged]
        exact effect_quiet
      · rw [removed]
        constructor
        case target => rfl
        case document => rfl
        case renamed =>
          intro isRenamed
          exact isRenamed
        case others =>
          intro identity _
          rfl
        case entries =>
          intro name notTemporary _
          exact Directory.entries_relink_of_ne notTemporary
        case possible =>
          intro name entry possible
          rcases mem_possible_relink possible with earlier | free
          · exact Or.inl earlier
          · exact Or.inr (Or.inr free)

/-- What the other calls see of a step. -/
theorem effect_advance (owned : save.Owned ticket directory)
    (stepped : save.advance ticket directory step = some (after, later)) :
    Effect ticket directory after save later := by
  revert stepped
  fun_cases advance ticket directory save step
  all_goals
    intro stepped
    simp only [Option.some.injEq, Prod.mk.injEq, reduceCtorEq] at stepped
  all_goals
    obtain ⟨rfl, rfl⟩ := stepped
  case case1 created => exact effect_create created
  case case14 ready _ renamed => exact effect_rename owned ready renamed
  case case17 =>
    constructor
    case target => rfl
    case document => rfl
    case renamed =>
      intro isRenamed
      exact isRenamed
    case others =>
      intro identity _
      rfl
    case entries =>
      intro name _ _
      rfl
    case possible =>
      intro name entry possible
      rw [Directory.possible_synchronise, List.mem_singleton] at possible
      rw [possible]
      exact Or.inl Directory.entries_mem_possible
  case case28 => exact effect_clean _ _
  case case4 | case6 | case7 | case12 => exact effect_modify
  all_goals exact effect_quiet

/-- A step of another call. -/
theorem Owned.frame {another : Ticket} {other : Save}
    (owned : other.Owned another directory)
    (effect : Effect ticket directory after save later)
    (proper : Proper save.target) (different : another ≠ ticket) :
    other.Owned another after := by
  have apart : Inode.created another ≠ .created ticket := by
    intro same
    cases same
    exact different rfl
  have files := effect.others (.created another) apart
  have entries :=
    effect.entries (temporaryName another)
      (fun same => different (temporaryName_injective same))
      (proper another).symm
  constructor
  case proper => exact owned.proper
  case held =>
    rw [files]
    exact owned.held
  case whole =>
    rw [files]
    exact owned.whole
  case secret =>
    rw [files]
    exact owned.secret
  case temporary =>
    rw [entries]
    exact owned.temporary
  case tidied =>
    rw [entries]
    exact owned.tidied
  case early => exact owned.early
  case settling => exact owned.settling
  case named =>
    intro name possible
    rcases effect.possible name _ possible with earlier | isNew | ⟨isFree, -⟩
    · exact owned.named name earlier
    · rw [Option.some_inj] at isNew
      exact absurd isNew apart
    · cases isFree

end

end Save

/-! ## What all calls keep -/

/-- What is true of every state that calls with proper targets reach. -/
structure Sound (before : Directory Str Nat) (state : SaveState) : Prop where
  numbered :
    ∀ ticket save, state.saves ticket = some save →
      ticket.sequence < state.sequence ticket.process
  owned :
    ∀ ticket save, state.saves ticket = some save →
      save.Owned ticket state.directory
  uncreated :
    ∀ ticket, state.saves ticket = none →
      state.directory.files (.created ticket) = none
  unnamed :
    ∀ ticket name, state.saves ticket = none →
      some (.created ticket) ∉ state.directory.possible name
  former :
    ∀ number,
      state.directory.files (.former number) = before.files number
  formerNamed :
    ∀ name number,
      some (.former number) ∈ state.directory.possible name →
        some number ∈ before.possible name
  absent :
    ∀ name, Proper name → none ∈ state.directory.possible name →
      none ∈ before.possible name

section

variable {before : Directory Str Nat} {state after : SaveState}
  {ticket : Ticket} {save : Save} {name : Str}

theorem possible_start :
    (start before).directory.possible name =
      (before.possible name).map fun entry => entry.map Inode.former :=
  rfl

theorem sound_start : Sound before (start before) where
  numbered _ _ made := by cases made
  owned _ _ made := by cases made
  uncreated _ _ := rfl
  unnamed ticket name _ := by
    rw [possible_start]
    simp
  former _ := rfl
  formerNamed name number := by
    rw [possible_start]
    simp
  absent name _ := by
    rw [possible_start]
    simp

/-- A call that has just been made. -/
theorem Sound.owned_new (sound : Sound before state)
    (fresh : state.saves ticket = none) {target : Str}
    (proper : Proper target) (document : List UInt8) :
    Save.Owned ticket state.directory
      ⟨target, document, .opening, false, false⟩ where
  proper := proper
  held := sound.uncreated ticket fresh
  whole renamed := by cases renamed
  secret file held := by
    rw [sound.uncreated ticket fresh] at held
    cases held
  temporary busy := by cases busy
  tidied _ _ occupied := by
    apply sound.unnamed ticket (temporaryName ticket) fresh
    rw [← occupied]
    exact Directory.entries_mem_possible
  early _ := rfl
  settling isSettling := by simp at isSettling
  named name possible := absurd possible (sound.unnamed ticket name fresh)

theorem Sound.call (sound : Sound before state) (process stamp : Nat)
    {target : Str} (proper : Proper target) (document : List UInt8)
    (stepped :
      next state (.call process stamp target document) = some after) :
    Sound before after := by
  have fresh :
      state.saves ⟨process, stamp, state.sequence process⟩ = none := by
    by_contra made
    obtain ⟨save, present⟩ := Option.ne_none_iff_exists'.mp made
    exact absurd (sound.numbered _ save present) (lt_irrefl _)
  simp only [next, Option.some_inj] at stepped
  subst stepped
  constructor
  case numbered =>
    intro ticket save made
    dsimp only at made ⊢
    by_cases same : ticket = ⟨process, stamp, state.sequence process⟩
    · subst same
      simp
    · rw [Function.update_of_ne same] at made
      have earlier := sound.numbered ticket save made
      by_cases isProcess : ticket.process = process
      · rw [isProcess] at earlier ⊢
        rw [Function.update_self]
        exact Nat.lt_succ_of_lt earlier
      · rw [Function.update_of_ne isProcess]
        exact earlier
  case owned =>
    intro ticket save made
    dsimp only at made ⊢
    by_cases same : ticket = ⟨process, stamp, state.sequence process⟩
    · rw [same, Function.update_self, Option.some_inj] at made
      rw [same, ← made]
      exact sound.owned_new fresh proper document
    · rw [Function.update_of_ne same] at made
      exact sound.owned ticket save made
  case uncreated =>
    intro ticket unmade
    dsimp only at unmade ⊢
    by_cases same : ticket = ⟨process, stamp, state.sequence process⟩
    · rw [same, Function.update_self] at unmade
      cases unmade
    · rw [Function.update_of_ne same] at unmade
      exact sound.uncreated ticket unmade
  case unnamed =>
    intro ticket name unmade
    dsimp only at unmade ⊢
    by_cases same : ticket = ⟨process, stamp, state.sequence process⟩
    · rw [same, Function.update_self] at unmade
      cases unmade
    · rw [Function.update_of_ne same] at unmade
      exact sound.unnamed ticket name unmade
  case former => exact sound.former
  case formerNamed => exact sound.formerNamed
  case absent => exact sound.absent

/-- What a step of a call comes down to. -/
theorem next_step {step : Step}
    (stepped : next state (.step ticket step) = some after) :
    ∃ save directory later, state.saves ticket = some save ∧
      save.advance ticket state.directory step = some (directory, later) ∧
      after =
        { state with
          directory := directory
          saves := Function.update state.saves ticket (some later) } := by
  simp only [next] at stepped
  split at stepped
  · cases stepped
  · rename_i save made
    split at stepped
    · cases stepped
    · rename_i directory later advanced
      exact ⟨save, directory, later, made, advanced,
        (Option.some_inj.mp stepped).symm⟩

theorem Sound.step (sound : Sound before state) {step : Step}
    (stepped : next state (.step ticket step) = some after) :
    Sound before after := by
  obtain ⟨save, directory, later, made, advanced, rfl⟩ := next_step stepped
  have owned := sound.owned ticket save made
  have effect := Save.effect_advance owned advanced
  have others (another : Ticket) (unmade :
      Function.update state.saves ticket (some later) another = none) :
      another ≠ ticket ∧ state.saves another = none := by
    by_cases same : another = ticket
    · rw [same, Function.update_self] at unmade
      cases unmade
    · rw [Function.update_of_ne same] at unmade
      exact ⟨same, unmade⟩
  constructor
  case numbered =>
    intro another other present
    dsimp only at present ⊢
    by_cases same : another = ticket
    · rw [same]
      exact sound.numbered ticket save made
    · rw [Function.update_of_ne same] at present
      exact sound.numbered another other present
  case owned =>
    intro another other present
    dsimp only at present ⊢
    by_cases same : another = ticket
    · rw [same, Function.update_self, Option.some_inj] at present
      rw [same, ← present]
      exact Save.owned_advance owned advanced
    · rw [Function.update_of_ne same] at present
      exact (sound.owned another other present).frame effect owned.proper same
  case uncreated =>
    intro another unmade
    obtain ⟨different, earlier⟩ := others another unmade
    change directory.files (.created another) = none
    rw [effect.others _ (by simpa using different)]
    exact sound.uncreated another earlier
  case unnamed =>
    intro another name unmade possible
    obtain ⟨different, earlier⟩ := others another unmade
    rcases effect.possible name _ possible with old | isNew | ⟨isFree, -⟩
    · exact sound.unnamed another name earlier old
    · simp [different] at isNew
    · cases isFree
  case former =>
    intro number
    change directory.files (.former number) = _
    rw [effect.others _ (by simp)]
    exact sound.former number
  case formerNamed =>
    intro name number possible
    rcases effect.possible name _ possible with old | isNew | ⟨isFree, -⟩
    · exact sound.formerNamed name number old
    · simp at isNew
    · cases isFree
  case absent =>
    intro name proper possible
    rcases effect.possible name _ possible with old | isNew | ⟨-, isTemporary⟩
    · exact sound.absent name proper old
    · cases isNew
    · exact absurd isTemporary (proper ticket)

theorem sound_next {action : Action} (sound : Sound before state)
    (proper : ProperTarget state action)
    (stepped : next state action = some after) : Sound before after := by
  cases action with
  | call process stamp target document =>
      exact sound.call process stamp proper document stepped
  | step ticket step => exact sound.step stepped

theorem sound_run {actions : List Action}
    (proper : Meets next ProperTarget (start before) actions)
    (ran : run next (start before) actions = some state) :
    Sound before state :=
  invariant_of_meets (Sound before) sound_start
    (fun _ _ _ sound met stepped => sound_next sound met stepped) proper ran

end

end HermesAtrust.Auth
