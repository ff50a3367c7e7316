import HermesAtrust.Auth.SessionStore

/-!
# What saved sessions survive

A reader of a session finds a complete document whatever the calls of `save`
are doing, a document that has been read never changes under its reader, a
call that has returned without an error has made its document durable, and
nobody but the owner can read what a call has written.
-/

namespace HermesAtrust.Auth

open HermesAtrust.Concurrency HermesAtrust.Storage HermesAtrust.Text

section

variable {before : Directory Str Nat} {state after : SaveState}
  {ticket : Ticket} {save : Save} {name : Str}

/-! ## What a target stands for -/

/-- What the target holds is complete: it is what it was before, or the
document of one call to it. -/
def Intact (before : Directory Str Nat) (state : SaveState)
    (image : Directory Str Inode) (name : Str) : Prop :=
  match image.entries name with
  | none => none ∈ before.possible name
  | some (.former number) =>
      some number ∈ before.possible name ∧
        ∀ file, before.files number = some file → file.synced = true →
          image.files (.former number) = some file
  | some (.created ticket) =>
      ∃ save, state.saves ticket = some save ∧ save.target = name ∧
        save.renamed = true ∧
        image.files (.created ticket) = some save.whole

theorem Sound.created_of_possible (sound : Sound before state)
    (proper : Proper name)
    (possible :
      some (.created ticket) ∈ state.directory.possible name) :
    ∃ save, state.saves ticket = some save ∧ save.target = name ∧
      save.renamed = true ∧
      state.directory.files (.created ticket) = some save.whole := by
  cases made : state.saves ticket with
  | none => exact absurd possible (sound.unnamed ticket name made)
  | some save =>
      have owned := sound.owned ticket save made
      rcases owned.named name possible with
        isTemporary | ⟨isTarget, renamed⟩
      · exact absurd isTemporary (proper ticket)
      · exact ⟨save, rfl, isTarget.symm, renamed, owned.whole renamed⟩

/-- Whatever calls are under way, and wherever a crash stops them, a reader of
a target finds the earlier file or one complete document for the owner only. -/
theorem target_intact {actions : List Action}
    {image : Directory Str Inode} (proper : Proper name)
    (targets : Meets next ProperTarget (start before) actions)
    (ran : run next (start before) actions = some state)
    (survives : state.directory.Survives image) :
    Intact before state image name := by
  have sound := sound_run targets ran
  have possible := survives.entry name
  unfold Intact
  cases entry : image.entries name with
  | none =>
      rw [entry] at possible
      exact sound.absent name proper possible
  | some identity =>
      rw [entry] at possible
      cases identity with
      | former number =>
          refine ⟨sound.formerNamed name number possible, ?_⟩
          intro file held synced
          apply survives.file _ file _ synced
          rw [sound.former number]
          exact held
      | created ticket =>
          obtain ⟨save, made, isTarget, renamed, held⟩ :=
            sound.created_of_possible proper possible
          exact ⟨save, made, isTarget, renamed,
            survives.file _ _ held rfl⟩

/-- A target that is no hidden file. -/
def visibleTarget : Action → Bool
  | .call _ _ (char :: _) _ => char != '.'
  | .call _ _ [] _ => false
  | .step _ _ => true

theorem meets_of_visible {actions : List Action} {origin : SaveState}
    (visible : actions.all visibleTarget = true) :
    Meets next ProperTarget origin actions := by
  apply meets_of_forall
  intro state action listed
  have shown := List.all_eq_true.mp visible action listed
  cases action with
  | step ticket step => trivial
  | call process stamp target document =>
      cases target with
      | nil => cases shown
      | cons char rest =>
          exact proper_of_visible (by simpa [visibleTarget] using shown) rest

def sampleDirectory : Directory Str Nat where
  entries := fun name => if name = ['s'] then some 0 else none
  files := fun
    | 0 => some ⟨[0x6F], ownerOnly, true⟩
    | _ => none
  replaced := fun _ => []

def firstTicket : Ticket :=
  ⟨1, 10, 0⟩

def secondTicket : Ticket :=
  ⟨2, 10, 0⟩

def completeSave (ticket : Ticket) (length : Nat) : List Action :=
  [Step.create 0o022, Step.setPermissions, Step.write length, Step.flushed,
    Step.sync, Step.rename, Step.settle].map (Action.step ticket)

/-- One call saves while another stops in the middle of its document. -/
def twoSaves : List Action :=
  [Action.call 1 10 ['s'] [0x61, 0x0A],
      Action.call 2 10 ['s'] [0x62, 0x63, 0x0A],
      Action.step secondTicket (Step.create 0),
      Action.step secondTicket Step.setPermissions,
      Action.step secondTicket (Step.write 1)] ++
    completeSave firstTicket 2

theorem target_intact_twoSaves :
    ∃ state, run next (start sampleDirectory) twoSaves = some state ∧
      Intact sampleDirectory state state.directory ['s'] := by
  apply exists_of_view (fun state => state.directory.entries ['s'])
    (some (Inode.created firstTicket))
  · decide
  · intro state ran _
    exact target_intact (proper_of_visible (by decide) [])
      (meets_of_visible (by decide)) ran state.directory.survives_self

/-! ## Readers -/

theorem saves_call_of_ne {process stamp : Nat} {target : Str}
    {document : List UInt8}
    (different : ticket ≠ ⟨process, stamp, state.sequence process⟩)
    (stepped :
      next state (.call process stamp target document) = some after) :
    after.saves ticket = state.saves ticket := by
  simp only [next, Option.some_inj] at stepped
  rw [← stepped]
  exact Function.update_of_ne different ..

/-- A call goes on with the target and the document that it was made with. -/
theorem saves_next {action : Action} (sound : Sound before state)
    (made : state.saves ticket = some save)
    (stepped : next state action = some after) :
    ∃ later, after.saves ticket = some later ∧
      later.target = save.target ∧ later.document = save.document ∧
      (save.renamed = true → later.renamed = true) := by
  cases action with
  | call process stamp target document =>
      have different :
          ticket ≠ ⟨process, stamp, state.sequence process⟩ := by
        intro same
        have earlier := sound.numbered ticket save made
        rw [same] at earlier
        exact absurd earlier (lt_irrefl _)
      refine ⟨save, ?_, rfl, rfl, fun renamed => renamed⟩
      rw [saves_call_of_ne different stepped]
      exact made
  | step other step =>
      obtain ⟨moving, directory, later, present, advanced, rfl⟩ :=
        next_step stepped
      by_cases same : ticket = other
      · subst same
        cases made.symm.trans present
        have effect :=
          Save.effect_advance (sound.owned ticket save made) advanced
        exact ⟨later, Function.update_self .., effect.target,
          effect.document, effect.renamed⟩
      · refine ⟨save, ?_, rfl, rfl, fun renamed => renamed⟩
        dsimp only
        rw [Function.update_of_ne same]
        exact made

theorem saves_run {actions : List Action} {final : SaveState}
    (sound : Sound before state) (made : state.saves ticket = some save)
    (targets : Meets next ProperTarget state actions)
    (ran : run next state actions = some final) :
    Sound before final ∧
      ∃ later, final.saves ticket = some later ∧
        later.target = save.target ∧ later.document = save.document ∧
        (save.renamed = true → later.renamed = true) := by
  refine invariant_of_meets
    (fun reached => Sound before reached ∧
      ∃ later, reached.saves ticket = some later ∧
        later.target = save.target ∧ later.document = save.document ∧
        (save.renamed = true → later.renamed = true))
    ⟨sound, save, made, rfl, rfl, fun renamed => renamed⟩ ?_ targets ran
  rintro reached action after ⟨reachedSound, later, present, known⟩ met
    stepped
  obtain ⟨latest, there, kept⟩ := saves_next reachedSound present stepped
  refine ⟨sound_next reachedSound met stepped, latest, there,
    kept.1.trans known.1, kept.2.1.trans known.2.1, ?_⟩
  intro renamed
  exact kept.2.2 (known.2.2 renamed)

/-- A reader that has opened what a target stands for, now or after a crash
would, goes on reading the same bytes while other calls save. -/
theorem opened_file_unchanged {past future : List Action}
    {middle final : SaveState} {identity : Inode} (proper : Proper name)
    (earlier : Meets next ProperTarget (start before) past)
    (reached : run next (start before) past = some middle)
    (opened : some identity ∈ middle.directory.possible name)
    (later : Meets next ProperTarget middle future)
    (ran : run next middle future = some final) :
    final.directory.files identity = middle.directory.files identity := by
  have sound := sound_run earlier reached
  cases identity with
  | former number =>
      have soundAfter :=
        invariant_of_meets (Sound before) sound
          (fun _ _ _ sound met stepped => sound_next sound met stepped)
          later ran
      rw [sound.former, soundAfter.former]
  | created ticket =>
      obtain ⟨save, made, -, renamed, held⟩ :=
        sound.created_of_possible proper opened
      obtain ⟨soundAfter, latest, present, -, document, kept⟩ :=
        saves_run sound made later ran
      have whole :=
        (soundAfter.owned ticket latest present).whole (kept renamed)
      rw [held, whole, Save.whole, document, Save.whole]

theorem opened_file_unchanged_twoSaves :
    ∃ middle, run next (start sampleDirectory) twoSaves = some middle ∧
      ∀ final,
        run next middle
            ([Step.write 2, Step.flushed, Step.sync, Step.rename].map
              (Action.step secondTicket)) = some final →
          final.directory.files (.created firstTicket) =
            middle.directory.files (.created firstTicket) := by
  apply exists_of_view (fun state => state.directory.entries ['s'])
    (some (Inode.created firstTicket))
  · decide
  · intro middle reached opened final ran
    have proper : Proper ['s'] := proper_of_visible (by decide) []
    refine opened_file_unchanged proper (meets_of_visible (by decide))
      reached ?_ (meets_of_visible (by decide)) ran
    rw [← opened]
    exact Directory.entries_mem_possible

/-! ## Durability -/

/-- The call whose file the step makes the target stand for. -/
def renamedOnto (name : Str) (state : SaveState) : Action → List Ticket
  | .step ticket .rename =>
      match state.saves ticket with
      | some save =>
          if save.phase = .renaming ∧ save.target = name then
            [ticket]
          else
            []
      | none => []
  | _ => []

/-- What the renames have made the target stand for, the latest first. -/
def replacements (renames : List Ticket) : List (Option Inode) :=
  renames.reverse.map fun ticket => some (.created ticket)

/-- What the target has stood for, the latest first. -/
def succession (before : Directory Str Nat) (name : Str)
    (renames : List Ticket) : List (Option Inode) :=
  replacements renames ++
    (before.possible name).map fun entry => entry.map Inode.former

/-- How a step of a call changes what a proper name may stand for. -/
inductive Turn (ticket : Ticket) (directory after : Directory Str Inode)
    (save later : Save) (name : Str) : Step → Prop where
  | renames :
      save.phase = .renaming → save.target = name →
        later.phase = .settling →
        after.possible name =
          some (.created ticket) :: directory.possible name →
        Turn ticket directory after save later name .rename
  | settles :
      later.renamed = save.renamed → later.phase = .returned (.ok ()) →
        save.renamed = true →
        after.possible name = [directory.entries name] →
        Turn ticket directory after save later name .settle
  | quiet {step : Step} :
      (step = .rename → save.phase = .renaming → save.target ≠ name) →
        later.phase ≠ .returned (.ok ()) →
        (later.renamed = true → save.renamed = true ∨ save.target ≠ name) →
        after.possible name = directory.possible name →
        Turn ticket directory after save later name step

theorem turn_of_advance {directory changed : Directory Str Inode}
    {later : Save} {step : Step} (owned : save.Owned ticket directory)
    (proper : Proper name)
    (stepped : save.advance ticket directory step = some (changed, later)) :
    Turn ticket directory changed save later name step := by
  revert stepped
  fun_cases Save.advance ticket directory save step
  all_goals
    intro stepped
    simp only [Option.some.injEq, Prod.mk.injEq, reduceCtorEq] at stepped
  all_goals
    obtain ⟨rfl, rfl⟩ := stepped
  case case1 created =>
    obtain ⟨-, -, rfl⟩ := Directory.createNew_eq_some created
    refine Turn.quiet (by simp) (by simp) Or.inl ?_
    rw [Directory.possible_place]
    exact Directory.possible_relink_of_ne (proper ticket)
  case case14 ready _ renamed =>
    have current :=
      owned.temporary (by rw [Save.holdsTemporary, ready])
    obtain ⟨identity, entry, rfl⟩ :=
      Directory.rename_eq_some (owned.proper ticket).symm renamed
    cases current.symm.trans entry
    by_cases isTarget : save.target = name
    · apply Turn.renames ready isTarget rfl
      rw [Directory.possible_relink_of_ne (proper ticket), isTarget,
        Directory.possible_relink_self]
    · refine Turn.quiet (fun _ _ => isTarget) (by simp)
        (fun _ => Or.inr isTarget) ?_
      rw [Directory.possible_relink_of_ne (proper ticket),
        Directory.possible_relink_of_ne (Ne.symm isTarget)]
  case case15 ready missing =>
    have current :=
      owned.temporary (by rw [Save.holdsTemporary, ready])
    simp [Directory.rename, current, (owned.proper ticket).symm] at missing
  case case17 settling =>
    exact Turn.settles rfl rfl (owned.settling (Or.inl settling)) rfl
  case case28 removes _ _ =>
    refine Turn.quiet (by simp) (by simp) Or.inl ?_
    cases removes with
    | false => rfl
    | true =>
        rw [if_pos rfl]
        rcases Directory.remove_getD directory (temporaryName ticket) with
          ⟨-, unchanged⟩ | removed
        · rw [unchanged]
        · rw [removed]
          exact Directory.possible_relink_of_ne (proper ticket)
  all_goals exact Turn.quiet (by simp) (by simp) Or.inl rfl

/-- How far back a crash can reach: up to the last renames, and not behind a
call that has returned. -/
structure Settled (before : Directory Str Nat) (name : Str)
    (renames : List Ticket) (state : SaveState) : Prop where
  sound : Sound before state
  latest :
    state.directory.possible name <+: succession before name renames
  ranked :
    ∀ ticket save, state.saves ticket = some save → save.target = name →
      save.renamed = true → ticket ∈ renames
  durable :
    ∀ ticket save, state.saves ticket = some save → save.target = name →
      save.phase = .returned (.ok ()) →
      ∃ earlier later,
        renames = earlier ++ ticket :: later ∧
          state.directory.possible name <+: replacements (ticket :: later)

theorem replacements_append (renames : List Ticket) (ticket : Ticket) :
    replacements (renames ++ [ticket]) =
      some (.created ticket) :: replacements renames := by
  simp [replacements]

theorem succession_split (before : Directory Str Nat) (name : Str)
    (earlier later : List Ticket) :
    succession before name (earlier ++ later) =
      replacements later ++ succession before name earlier := by
  simp [succession, replacements]

/-- What is first of all is first of the front. -/
theorem singleton_prefix_of_append {Value : Type*} {head : Value}
    {front rest : List Value} (starts : [head] <+: front ++ rest)
    (present : front ≠ []) : [head] <+: front := by
  obtain ⟨others, whole⟩ := starts
  cases front with
  | nil => exact absurd rfl present
  | cons first later =>
      rw [List.singleton_append, List.cons_append, List.cons.injEq] at whole
      rw [whole.1]
      exact ⟨later, rfl⟩

theorem current_begins (directory : Directory Str Inode) (name : Str) :
    [directory.entries name] <+: directory.possible name :=
  ⟨directory.replaced name, rfl⟩

theorem settled_start : Settled before name [] (start before) where
  sound := sound_start
  latest := by
    rw [possible_start]
    exact List.prefix_rfl
  ranked _ _ made := by cases made
  durable _ _ made := by cases made

theorem Settled.call {renames : List Ticket} {process stamp : Nat}
    {target : Str} {document : List UInt8}
    (settled : Settled before name renames state)
    (proper : Proper target)
    (stepped :
      next state (.call process stamp target document) = some after) :
    Settled before name renames after := by
  have sound := settled.sound.call process stamp proper document stepped
  have known (ticket : Ticket) (save : Save)
      (made : after.saves ticket = some save) :
      state.saves ticket = some save ∨
        (save.renamed = false ∧ save.phase = .opening) := by
    by_cases same : ticket = ⟨process, stamp, state.sequence process⟩
    · simp only [next, Option.some_inj] at stepped
      rw [same, ← stepped] at made
      dsimp only at made
      rw [Function.update_self, Option.some_inj] at made
      rw [← made]
      exact Or.inr ⟨rfl, rfl⟩
    · rw [saves_call_of_ne same stepped] at made
      exact Or.inl made
  have directory : after.directory = state.directory := by
    simp only [next, Option.some_inj] at stepped
    rw [← stepped]
  constructor
  case sound => exact sound
  case latest =>
    rw [directory]
    exact settled.latest
  case ranked =>
    intro ticket save made isTarget renamed
    rcases known ticket save made with earlier | ⟨notRenamed, -⟩
    · exact settled.ranked ticket save earlier isTarget renamed
    · cases notRenamed.symm.trans renamed
  case durable =>
    intro ticket save made isTarget returned
    rcases known ticket save made with earlier | ⟨-, opening⟩
    · rw [directory]
      exact settled.durable ticket save earlier isTarget returned
    · cases opening.symm.trans returned

/-- The calls after a step are those before it, one of them changed. -/
theorem saves_update {saves : Ticket → Option Save} {ticket another : Ticket}
    {later other : Save}
    (present :
      Function.update saves ticket (some later) another = some other) :
    another = ticket ∧ other = later ∨ saves another = some other := by
  by_cases same : another = ticket
  · rw [same, Function.update_self, Option.some_inj] at present
    exact Or.inl ⟨same, present.symm⟩
  · rw [Function.update_of_ne same] at present
    exact Or.inr present

section

variable {renames : List Ticket} {ticket : Ticket} {later : Save}

theorem settled_renames (settled : Settled before name renames state)
    (sound : Sound before after)
    (saves : after.saves = Function.update state.saves ticket (some later))
    (settling : later.phase = .settling)
    (possible :
      after.directory.possible name =
        some (.created ticket) :: state.directory.possible name) :
    Settled before name (renames ++ [ticket]) after := by
  constructor
  case sound => exact sound
  case latest =>
    rw [possible, succession, replacements_append, List.cons_append]
    exact (List.prefix_cons_inj _).mpr settled.latest
  case ranked =>
    intro another other present aims renamed
    rw [saves] at present
    rcases saves_update present with ⟨same, -⟩ | earlier
    · rw [same]
      simp
    · exact List.mem_append_left _
        (settled.ranked another other earlier aims renamed)
  case durable =>
    intro another other present aims returned
    rw [saves] at present
    rcases saves_update present with ⟨-, same⟩ | earlier
    · rw [same] at returned
      cases settling.symm.trans returned
    · obtain ⟨first, last, split, reach⟩ :=
        settled.durable another other earlier aims returned
      refine ⟨first, last ++ [ticket], ?_, ?_⟩
      · rw [split, List.append_assoc, List.cons_append]
      · rw [possible, ← List.cons_append, replacements_append]
        exact (List.prefix_cons_inj _).mpr reach

theorem settled_settles (settled : Settled before name renames state)
    (sound : Sound before after)
    (saves : after.saves = Function.update state.saves ticket (some later))
    (listed : later.target = name → ticket ∈ renames)
    (possible :
      after.directory.possible name = [state.directory.entries name]) :
    Settled before name renames after := by
  have shrinks :
      after.directory.possible name <+: state.directory.possible name := by
    rw [possible]
    exact current_begins ..
  constructor
  case sound => exact sound
  case latest => exact shrinks.trans settled.latest
  case ranked =>
    intro another other present aims renamed
    rw [saves] at present
    rcases saves_update present with ⟨same, isLater⟩ | earlier
    · rw [isLater] at aims
      rw [same]
      exact listed aims
    · exact settled.ranked another other earlier aims renamed
  case durable =>
    intro another other present aims returned
    rw [saves] at present
    rcases saves_update present with ⟨same, isLater⟩ | earlier
    · rw [isLater] at aims
      obtain ⟨first, last, split⟩ := List.append_of_mem (listed aims)
      have newest := (current_begins ..).trans settled.latest
      rw [split, succession_split] at newest
      refine ⟨first, last, by rw [same]; exact split, ?_⟩
      rw [possible, same]
      apply singleton_prefix_of_append newest
      simp [replacements]
    · obtain ⟨first, last, split, reach⟩ :=
        settled.durable another other earlier aims returned
      exact ⟨first, last, split, shrinks.trans reach⟩

theorem settled_quiet (settled : Settled before name renames state)
    (sound : Sound before after)
    (saves : after.saves = Function.update state.saves ticket (some later))
    (listed :
      later.target = name → later.renamed = true → ticket ∈ renames)
    (notReturned : later.phase ≠ .returned (.ok ()))
    (possible :
      after.directory.possible name = state.directory.possible name) :
    Settled before name renames after := by
  constructor
  case sound => exact sound
  case latest =>
    rw [possible]
    exact settled.latest
  case ranked =>
    intro another other present aims renamed
    rw [saves] at present
    rcases saves_update present with ⟨same, isLater⟩ | earlier
    · rw [isLater] at aims renamed
      rw [same]
      exact listed aims renamed
    · exact settled.ranked another other earlier aims renamed
  case durable =>
    intro another other present aims returned
    rw [saves] at present
    rcases saves_update present with ⟨-, isLater⟩ | earlier
    · rw [isLater] at returned
      exact absurd returned notReturned
    · rw [possible]
      exact settled.durable another other earlier aims returned

end

theorem Settled.step {renames : List Ticket} {step : Step}
    (settled : Settled before name renames state) (proper : Proper name)
    (stepped : next state (.step ticket step) = some after) :
    Settled before name
      (renames ++ renamedOnto name state (.step ticket step)) after := by
  have sound := settled.sound.step stepped
  obtain ⟨save, directory, later, made, advanced, rfl⟩ := next_step stepped
  have owned := settled.sound.owned ticket save made
  have effect := Save.effect_advance owned advanced
  have turn := turn_of_advance owned proper advanced
  cases turn with
  | renames ready isTarget settling possible =>
      have noted : renamedOnto name state (.step ticket .rename) =
          [ticket] := by
        simp [renamedOnto, made, ready, isTarget]
      rw [noted]
      exact settled_renames settled sound rfl settling possible
  | settles sameRenamed returned renamed possible =>
      have noted : renamedOnto name state (.step ticket .settle) = [] := rfl
      rw [noted, List.append_nil]
      refine settled_settles settled sound rfl ?_ possible
      intro aims
      rw [effect.target] at aims
      exact settled.ranked ticket save made aims renamed
  | quiet notOnto notReturned stillRenamed possible =>
      have noted : renamedOnto name state (.step ticket step) = [] := by
        cases step with
        | rename =>
            simp only [renamedOnto, made]
            exact if_neg fun both => notOnto rfl both.1 both.2
        | _ => rfl
      rw [noted, List.append_nil]
      refine settled_quiet settled sound rfl ?_ notReturned possible
      intro aims renamed
      rw [effect.target] at aims
      rcases stillRenamed renamed with already | elsewhere
      · exact settled.ranked ticket save made aims already
      · exact absurd aims elsewhere

theorem settled_run {actions : List Action} (proper : Proper name)
    (targets : Meets next ProperTarget (start before) actions)
    (ran : run next (start before) actions = some state) :
    Settled before name
      (observed next (renamedOnto name) (start before) actions) state := by
  refine invariant_of_observed (Settled before name) settled_start ?_
    targets ran
  intro renames reached action after settled met stepped
  cases action with
  | call process stamp target document =>
      have noted :
          renamedOnto name reached (.call process stamp target document) =
            [] := rfl
      rw [noted, List.append_nil]
      exact settled.call met stepped
  | step ticket step => exact settled.step proper stepped

/-- A call that has returned without an error has made its document durable:
a crash at any later time brings back that document or one that has replaced
it since, each of them complete. -/
theorem returned_save_durable {actions : List Action}
    (targets : Meets next ProperTarget (start before) actions)
    (ran : run next (start before) actions = some state)
    (made : state.saves ticket = some save)
    (returned : save.phase = .returned (.ok ())) :
    ∃ earlier later,
      observed next (renamedOnto save.target) (start before) actions =
          earlier ++ ticket :: later ∧
        ∀ image, state.directory.Survives image →
          ∃ last ∈ ticket :: later, ∃ newest,
            state.saves last = some newest ∧
              newest.target = save.target ∧
              image.entries save.target = some (.created last) ∧
              image.files (.created last) = some newest.whole := by
  have sound := sound_run targets ran
  have owned := sound.owned ticket save made
  have settled := settled_run owned.proper targets ran
  obtain ⟨earlier, later, split, reach⟩ :=
    settled.durable ticket save made rfl returned
  refine ⟨earlier, later, split, ?_⟩
  intro image survives
  have possible := survives.entry save.target
  obtain ⟨last, listed, isEntry⟩ :=
    List.mem_map.mp (reach.subset possible)
  rw [← isEntry] at possible
  obtain ⟨newest, present, isTarget, -, held⟩ :=
    sound.created_of_possible owned.proper possible
  exact ⟨last, List.mem_reverse.mp listed, newest, present, isTarget,
    isEntry.symm, survives.file _ _ held rfl⟩

theorem returned_save_durable_twoSaves :
    ∃ state, run next (start sampleDirectory) twoSaves = some state ∧
      ∃ earlier later,
        observed next (renamedOnto ['s']) (start sampleDirectory) twoSaves =
            earlier ++ firstTicket :: later ∧
          ∀ image, state.directory.Survives image →
            ∃ last ∈ firstTicket :: later, ∃ newest,
              state.saves last = some newest ∧
                newest.target = ['s'] ∧
                image.entries ['s'] = some (.created last) ∧
                image.files (.created last) = some newest.whole := by
  apply exists_of_view (fun state => state.saves firstTicket)
    (some ⟨['s'], [0x61, 0x0A], .returned (.ok ()), true, false⟩)
  · decide
  · intro state ran made
    have targets : Meets next ProperTarget (start sampleDirectory) twoSaves :=
      meets_of_visible (by decide)
    have durable := returned_save_durable targets ran made rfl
    exact durable

/-! ## Secrecy and cleaning up -/

/-- At no time can anyone but the owner read a file that a call has created,
and a call that has returned has left no temporary file behind unless it could
not remove it. -/
theorem created_files_secret {actions : List Action}
    (targets : Meets next ProperTarget (start before) actions)
    (ran : run next (start before) actions = some state)
    (ticket : Ticket) :
    (∀ file, state.directory.files (.created ticket) = some file →
        file.permissions &&& groupAndOthers = 0) ∧
      ∀ save result, state.saves ticket = some save →
        save.phase = .returned result → save.abandoned = false →
        ∀ other,
          state.directory.entries (temporaryName other) ≠
            some (.created ticket) := by
  have sound := sound_run targets ran
  constructor
  · intro file held
    cases made : state.saves ticket with
    | none =>
        rw [sound.uncreated ticket made] at held
        cases held
    | some save => exact (sound.owned ticket save made).secret file held
  · intro save result made returned kept other occupied
    have owned := sound.owned ticket save made
    have possible : some (Inode.created ticket) ∈
        state.directory.possible (temporaryName other) := by
      rw [← occupied]
      exact Directory.entries_mem_possible
    rcases owned.named _ possible with same | ⟨isTarget, -⟩
    · rw [same] at occupied
      exact owned.tidied (by rw [Save.holdsTemporary, returned]) kept
        occupied
    · exact owned.proper other isTarget.symm

theorem created_files_secret_twoSaves :
    ∃ state, run next (start sampleDirectory) twoSaves = some state ∧
      (∀ file, state.directory.files (.created secondTicket) = some file →
          file.permissions &&& groupAndOthers = 0) ∧
        ∀ save result, state.saves secondTicket = some save →
          save.phase = .returned result → save.abandoned = false →
          ∀ other,
            state.directory.entries (temporaryName other) ≠
              some (.created secondTicket) := by
  apply exists_of_view (fun state => state.directory.entries ['s'])
    (some (Inode.created firstTicket))
  · decide
  · intro state ran _
    exact created_files_secret (meets_of_visible (by decide)) ran secondTicket

/-! ## A call that meets no error -/

/-- The steps of one call, while no other call moves. -/
def Save.advanceAll (ticket : Ticket) :
    Directory Str Inode → Save → List Step →
      Option (Directory Str Inode × Save)
  | directory, save, [] => some (directory, save)
  | directory, save, step :: later =>
      match save.advance ticket directory step with
      | none => none
      | some (directory, save) => save.advanceAll ticket directory later

theorem run_advanceAll {later : Save} {directory : Directory Str Inode}
    {steps : List Step} (made : state.saves ticket = some save)
    (advanced :
      save.advanceAll ticket state.directory steps =
        some (directory, later)) :
    ∃ after, run next state (steps.map (Action.step ticket)) = some after ∧
      after.directory = directory ∧ after.saves ticket = some later := by
  induction steps generalizing state save with
  | nil =>
      simp only [Save.advanceAll, Option.some.injEq, Prod.mk.injEq] at advanced
      obtain ⟨rfl, rfl⟩ := advanced
      exact ⟨state, rfl, rfl, made⟩
  | cons step others inductionHypothesis =>
      rw [Save.advanceAll] at advanced
      split at advanced
      · cases advanced
      · rename_i middle moving stepped
        simp only [List.map_cons, run, next, made, stepped]
        exact inductionHypothesis (Function.update_self ..) advanced

/-- Whatever other calls have left in the directory, a call that meets no
error makes the target stand for its document. -/
theorem run_completeSave {target : Str} {document : List UInt8}
    (state : SaveState)
    (made :
      state.saves ticket = some ⟨target, document, .opening, false, false⟩)
    (free : state.directory.entries (temporaryName ticket) = none)
    (unused : state.directory.files (.created ticket) = none)
    (proper : Proper target) :
    ∃ after,
      run next state (completeSave ticket document.length) = some after ∧
        after.saves ticket =
          some ⟨target, document, .returned (.ok ()), true, false⟩ ∧
        after.directory.entries target = some (.created ticket) := by
  have all : min (0 + document.length) document.length = document.length := by
    omega
  obtain ⟨directory, advanced, stands⟩ :
      ∃ directory,
        Save.advanceAll ticket state.directory
            ⟨target, document, .opening, false, false⟩
            [.create 0o022, .setPermissions, .write document.length,
              .flushed, .sync, .rename, .settle] =
          some
            (directory,
              ⟨target, document, .returned (.ok ()), true, false⟩) ∧
          directory.entries target = some (.created ticket) := by
    simp only [Save.advanceAll, Save.advance,
      Directory.createNew_of_free _ free unused, all, if_pos, Save.write]
    rw [Directory.rename_of_entries (.created ticket) (proper ticket).symm]
    · refine ⟨_, rfl, ?_⟩
      rw [Directory.entries_synchronise,
        Directory.entries_relink_of_ne (proper ticket),
        Directory.entries_relink_self]
    · exact Directory.entries_relink_self
  obtain ⟨after, ran, same, returned⟩ := run_advanceAll made advanced
  refine ⟨after, ran, returned, ?_⟩
  rw [same]
  exact stands

def firstCalled (document : List UInt8) : SaveState where
  directory := (start sampleDirectory).directory
  saves :=
    Function.update (fun _ => none) firstTicket
      (some ⟨['s'], document, .opening, false, false⟩)
  sequence := Function.update (fun _ => 0) 1 1

theorem run_firstSave (document : List UInt8) :
    ∃ state,
      run next (start sampleDirectory)
          (Action.call 1 10 ['s'] document ::
            completeSave firstTicket document.length) = some state ∧
        state.directory.entries ['s'] = some (.created firstTicket) := by
  have proper : Proper ['s'] := proper_of_visible (by decide) []
  have made :
      (firstCalled document).saves firstTicket =
        some ⟨['s'], document, .opening, false, false⟩ := by
    simp [firstCalled]
  have free :
      (firstCalled document).directory.entries (temporaryName firstTicket) =
        none := by
    simp [firstCalled, start, sampleDirectory, (proper firstTicket).symm]
  obtain ⟨state, ran, -, stands⟩ :=
    run_completeSave (firstCalled document) made free rfl proper
  exact ⟨state, ran, stands⟩

end

end HermesAtrust.Auth
