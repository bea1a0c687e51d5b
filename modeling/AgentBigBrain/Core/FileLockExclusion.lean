import AgentBigBrain.Core.FileLock

/-!
# Mutual exclusion of the file lock

As long as a stale lock is deleted as it was inspected, the file of a live process stays: its
record names a live process, and before it has a record it is too young to count as stale.
-/
namespace AgentBigBrain.Core

open AgentBigBrain.Lib

variable {n : ℕ} {options : FileLockOptions}

/-! ## The invariant -/

/-- The files that an inspection has seen so far. -/
def Phase.seen : Phase → List LockFile
  | .inspecting _ read stat => read.toList ++ stat.toList
  | .judging _ inspection => inspection.read.toList ++ [inspection.stat]
  | .reclaiming _ inspection => inspection.read.toList ++ [inspection.stat]
  | _ => []

/-- The file is the one a process created: without a record until the process writes its own. -/
def OwnFile (process : Fin n) (phase : Phase) (file : LockFile) : Prop :=
  if phase.isUnwritten = true then file.record = none
  else ∃ record, file.record = some record ∧ record.pid = pidOf process

structure LockInvariant (options : FileLockOptions) (state : LockState n) : Prop where
  held : ∀ process, state.alive process = true → ∀ inode,
    (state.phase process).inode = some inode →
      ∃ file, state.lock = some file ∧ file.inode = inode ∧
        OwnFile process (state.phase process) file
  sole : ∀ process other inode, (state.phase process).inode = some inode →
    (state.phase other).inode = some inode → process = other
  fresh : ∀ process inode, (state.phase process).inode = some inode → inode < state.nextInode
  file : ∀ file ∈ state.lock, file.inode < state.nextInode ∧
    file.birthtimeMs ≤ file.mtimeMs ∧ file.birthtimeMs ≤ state.nowMs
  seen : ∀ process, ∀ seen ∈ (state.phase process).seen, seen.inode < state.nextInode ∧
    ∀ file ∈ state.lock, file.inode = seen.inode → file.birthtimeMs ≤ seen.mtimeMs
  stale : ∀ process startedAt inspection,
    state.phase process = .reclaiming startedAt inspection → isStale options state inspection = true

lemma lockInvariant_of_initial {state : LockState n} (h : state.Initial) :
    LockInvariant options state where
  held process _ inode hinode := by simp [h.idle process, Phase.inode] at hinode
  sole process _ inode hinode := by simp [h.idle process, Phase.inode] at hinode
  fresh process inode hinode := by simp [h.idle process, Phase.inode] at hinode
  file := h.left
  seen process seen hseen := by simp [h.idle process, Phase.seen] at hseen
  stale process startedAt inspection hphase := by simp [h.idle process] at hphase

/-- Two live processes hold the same file only if they are the same. -/
lemma LockInvariant.eq_of_held {state : LockState n} (hinv : LockInvariant options state)
    {process other : Fin n} (halive : state.alive process = true)
    (hother : state.alive other = true) {inode otherInode : ℕ}
    (hinode : (state.phase process).inode = some inode)
    (hotherInode : (state.phase other).inode = some otherInode) : process = other := by
  obtain ⟨file, hlock, hfile, -⟩ := hinv.held process halive inode hinode
  obtain ⟨otherFile, hotherLock, hotherFile, -⟩ := hinv.held other hother otherInode hotherInode
  obtain rfl := Option.some.inj (hlock.symm.trans hotherLock)
  rw [hfile] at hotherFile
  exact hinv.sole process other inode hinode (hotherFile ▸ hotherInode)

lemma inode_isSome_of_critical {phase : Phase} (h : phase.isCritical = true) :
    ∃ inode, phase.inode = some inode := by
  cases phase with
  | critical inode => exact ⟨inode, rfl⟩
  | _ => cases h

lemma LockInvariant.mutualExclusion {state : LockState n} (hinv : LockInvariant options state) :
    MutualExclusion state := by
  intro process other halive hother hcritical hotherCritical
  obtain ⟨inode, hinode⟩ := inode_isSome_of_critical hcritical
  obtain ⟨otherInode, hotherInode⟩ := inode_isSome_of_critical hotherCritical
  exact hinv.eq_of_held halive hother hinode hotherInode

/-! ## Steps that leave the file -/

/-- The phase is one that a process may be in, as far as inspections go. -/
structure Inspects (options : FileLockOptions) (state : LockState n) (phase : Phase) : Prop where
  seen : ∀ seen ∈ phase.seen, seen.inode < state.nextInode ∧
    ∀ file ∈ state.lock, file.inode = seen.inode → file.birthtimeMs ≤ seen.mtimeMs
  stale : ∀ startedAt inspection, phase = .reclaiming startedAt inspection →
    isStale options state inspection = true

lemma inspects_of_unseen (state : LockState n) {phase : Phase} (h : phase.seen = []) :
    Inspects options state phase where
  seen seen hseen := by simp [h] at hseen
  stale startedAt inspection hphase := by
    rw [hphase] at h
    simp [Phase.seen] at h

lemma isStale_move (state : LockState n) (process : Fin n) (phase : Phase)
    (inspection : FileLockInspection) :
    isStale options (state.move process phase) inspection = isStale options state inspection :=
  rfl

/-- A process moves on, and keeps the file it holds or gives it up without deleting it. -/
lemma LockInvariant.move {state : LockState n} (hinv : LockInvariant options state)
    {process : Fin n} {phase : Phase}
    (hinode : phase.inode = none ∨ phase.inode = (state.phase process).inode ∧
      phase.isUnwritten = (state.phase process).isUnwritten)
    (hinspects : Inspects options state phase) :
    LockInvariant options (state.move process phase) := by
  have hkept : ∀ other inode, (Function.update state.phase process phase other).inode =
      some inode → (state.phase other).inode = some inode ∧
        (Function.update state.phase process phase other).isUnwritten =
          (state.phase other).isUnwritten := by
    intro other inode hother
    by_cases hsame : other = process
    · subst hsame
      rw [Function.update_self] at hother ⊢
      rcases hinode with hnone | ⟨hkeep, hunwritten⟩
      · rw [hnone] at hother
        cases hother
      · exact ⟨hkeep ▸ hother, hunwritten⟩
    · rw [Function.update_of_ne hsame] at hother ⊢
      exact ⟨hother, rfl⟩
  constructor
  · intro other halive inode hother
    obtain ⟨hbefore, hunwritten⟩ := hkept other inode hother
    obtain ⟨file, hlock, hfile, hown⟩ := hinv.held other halive inode hbefore
    refine ⟨file, hlock, hfile, ?_⟩
    unfold OwnFile at hown ⊢
    rwa [show ((state.move process phase).phase other).isUnwritten = _ from hunwritten]
  · intro other third inode hother hthird
    exact hinv.sole other third inode (hkept other inode hother).1 (hkept third inode hthird).1
  · intro other inode hother
    exact hinv.fresh other inode (hkept other inode hother).1
  · exact hinv.file
  · intro other seen hseen
    by_cases hsame : other = process
    · subst hsame
      rw [show (state.move other phase).phase other = phase from Function.update_self ..] at hseen
      exact hinspects.seen seen hseen
    · rw [show (state.move process phase).phase other = state.phase other from
        Function.update_of_ne hsame ..] at hseen
      exact hinv.seen other seen hseen
  · intro other startedAt inspection hphase
    rw [isStale_move]
    by_cases hsame : other = process
    · subst hsame
      rw [show (state.move other phase).phase other = phase from Function.update_self ..] at hphase
      exact hinspects.stale startedAt inspection hphase
    · rw [show (state.move process phase).phase other = state.phase other from
        Function.update_of_ne hsame ..] at hphase
      exact hinv.stale other startedAt inspection hphase

/-! ## Steps that change the file -/

/-- The file is deleted while no live process holds it. -/
lemma LockInvariant.delete {state : LockState n} (hinv : LockInvariant options state)
    (hnone : ∀ process, state.alive process = true → (state.phase process).inode = none) :
    LockInvariant options { state with lock := none } where
  held process halive inode hinode := by
    rw [hnone process halive] at hinode
    cases hinode
  sole := hinv.sole
  fresh := hinv.fresh
  file file hfile := by cases hfile
  seen process seen hseen :=
    ⟨(hinv.seen process seen hseen).1, fun file hfile => by cases hfile⟩
  stale := hinv.stale

lemma LockInvariant.remove {state : LockState n} (hinv : LockInvariant options state)
    {process : Fin n} {phase : Phase} (hinode : phase.inode = none) (hseen : phase.seen = [])
    (hothers : ∀ other, other ≠ process → state.alive other = true →
      (state.phase other).inode = none) :
    LockInvariant options (state.remove process phase) := by
  refine (hinv.move (Or.inl hinode) (inspects_of_unseen state hseen)).delete ?_
  intro other halive
  by_cases hsame : other = process
  · subst hsame
    rw [show (state.move other phase).phase other = phase from Function.update_self ..]
    exact hinode
  · rw [show (state.move process phase).phase other = state.phase other from
      Function.update_of_ne hsame ..]
    exact hothers other hsame halive

/-- A process that gives up the file it holds deletes its own. -/
lemma LockInvariant.removeOwn {state : LockState n} (hinv : LockInvariant options state)
    {process : Fin n} (halive : state.alive process = true) {inode : ℕ}
    (hheld : (state.phase process).inode = some inode) {phase : Phase}
    (hinode : phase.inode = none) (hseen : phase.seen = []) :
    LockInvariant options (state.remove process phase) := by
  refine hinv.remove hinode hseen fun other hne hother => ?_
  cases hotherInode : (state.phase other).inode with
  | none => rfl
  | some otherInode => exact absurd (hinv.eq_of_held hother halive hotherInode hheld) hne

/-- A stale file that is still as it was inspected is held by no live process. -/
lemma LockInvariant.removeStale {state : LockState n} (hinv : LockInvariant options state)
    (htime : WritesInTime options state) {process : Fin n} {startedAt : ℕ}
    {inspection : FileLockInspection}
    (hphase : state.phase process = .reclaiming startedAt inspection)
    (hstill : StillAsInspected state inspection) :
    LockInvariant options (state.remove process (.opening startedAt)) := by
  refine hinv.remove rfl rfl fun other _ halive => ?_
  by_contra hholds
  obtain ⟨inode, hinode⟩ := Option.ne_none_iff_exists'.mp hholds
  obtain ⟨file, hlock, hfile, hown⟩ := hinv.held other halive inode hinode
  obtain ⟨hstat, read, hread, -, hrecord⟩ := hstill file hlock
  have hstale := hinv.stale process startedAt inspection hphase
  have hseen := hinv.seen process inspection.stat (by simp [hphase, Phase.seen])
  unfold isStale at hstale
  rw [hread, Option.bind_some, hrecord] at hstale
  unfold OwnFile at hown
  split at hown
  · rename_i hunwritten
    -- The file is younger than a stale one.
    rw [hown] at hstale
    have hyoung := htime other halive hunwritten file hlock (by rw [hinode, hfile])
    have hborn := hseen.2 file hlock hstat.symm
    have hold : options.malformedStaleAfter ≤ state.nowMs - inspection.stat.mtimeMs := by
      simpa using hstale
    have hpositive := one_le_malformedStaleAfter options
    omega
  · -- The record names a live process.
    obtain ⟨record, hwritten, hpid⟩ := hown
    rw [hwritten] at hstale
    have hdead : state.isProcessAlive record.pid = false := by simpa using hstale
    have hlives : state.isProcessAlive record.pid = true :=
      decide_eq_true ⟨other, hpid.symm, halive⟩
    rw [hlives] at hdead
    cases hdead

lemma LockInvariant.openExclusive {state : LockState n} (hinv : LockInvariant options state)
    (process : Fin n) (startedAt : ℕ) :
    LockInvariant options (state.openExclusive process startedAt) := by
  unfold LockState.openExclusive
  cases hlock : state.lock with
  | some file => exact hinv.move (Or.inl rfl) (inspects_of_unseen state rfl)
  | none =>
      have hphase : ∀ other inode, (Function.update state.phase process
          (.writing startedAt state.nextInode) other).inode = some inode →
          other = process ∧ inode = state.nextInode ∨
            other ≠ process ∧ (state.phase other).inode = some inode := by
        intro other inode hother
        by_cases hsame : other = process
        · subst hsame
          rw [Function.update_self] at hother
          exact Or.inl ⟨rfl, (Option.some.inj hother).symm⟩
        · rw [Function.update_of_ne hsame] at hother
          exact Or.inr ⟨hsame, hother⟩
      constructor
      · intro other halive inode hother
        rcases hphase other inode hother with ⟨rfl, rfl⟩ | ⟨-, hbefore⟩
        · refine ⟨state.createdFile, rfl, rfl, ?_⟩
          dsimp only
          rw [Function.update_self]
          rfl
        · obtain ⟨file, hfile, -⟩ := hinv.held other halive inode hbefore
          rw [hlock] at hfile
          cases hfile
      · intro other third inode hother hthird
        rcases hphase other inode hother with ⟨rfl, rfl⟩ | ⟨-, hbefore⟩
        · rcases hphase third _ hthird with ⟨rfl, -⟩ | ⟨-, hthirdBefore⟩
          · rfl
          · exact absurd (hinv.fresh third _ hthirdBefore) (lt_irrefl _)
        · rcases hphase third inode hthird with ⟨rfl, rfl⟩ | ⟨-, hthirdBefore⟩
          · exact absurd (hinv.fresh other _ hbefore) (lt_irrefl _)
          · exact hinv.sole other third inode hbefore hthirdBefore
      · intro other inode hother
        dsimp only
        rcases hphase other inode hother with ⟨-, rfl⟩ | ⟨-, hbefore⟩
        · exact Nat.lt_succ_self _
        · exact Nat.lt_succ_of_lt (hinv.fresh other inode hbefore)
      · intro file hfile
        cases hfile
        exact ⟨Nat.lt_succ_self _, le_rfl, le_rfl⟩
      · intro other seen hseen
        have hbefore : seen ∈ (state.phase other).seen := by
          by_cases hsame : other = process
          · subst hsame
            dsimp only at hseen
            rw [Function.update_self] at hseen
            cases hseen
          · dsimp only at hseen
            rwa [Function.update_of_ne hsame] at hseen
        have hold := (hinv.seen other seen hbefore).1
        refine ⟨Nat.lt_succ_of_lt hold, fun file hfile hinode => ?_⟩
        cases hfile
        exact absurd hinode (Nat.ne_of_gt hold)
      · intro other at' inspection hreclaim
        by_cases hsame : other = process
        · subst hsame
          dsimp only at hreclaim
          rw [Function.update_self] at hreclaim
          cases hreclaim
        · dsimp only at hreclaim
          rw [Function.update_of_ne hsame] at hreclaim
          exact hinv.stale other at' inspection hreclaim

lemma LockInvariant.writeRecord {state : LockState n} (hinv : LockInvariant options state)
    {process : Fin n} {startedAt inode : ℕ}
    (hphase : state.phase process = .writing startedAt inode) :
    LockInvariant options (state.writeRecord process inode) := by
  have hinode : ∀ other, (Function.update state.phase process (.critical inode) other).inode =
      (state.phase other).inode := by
    intro other
    by_cases hsame : other = process
    · subst hsame
      rw [Function.update_self, hphase]
      rfl
    · rw [Function.update_of_ne hsame]
  constructor
  · intro other halive held hother
    dsimp only [LockState.writeRecord] at hother ⊢
    rw [hinode] at hother
    obtain ⟨file, hlock, hfile, hown⟩ := hinv.held other halive held hother
    by_cases hsame : other = process
    · subst hsame
      have hheld : file.inode = inode := by
        rw [hphase] at hother
        exact hfile.trans (Option.some.inj hother).symm
      have hwritten : state.lock.map (fun stored =>
          if stored.inode = inode then
            { stored with
              record := some (buildFileLockRecord state other), mtimeMs := state.nowMs }
          else stored) = some { file with
              record := some (buildFileLockRecord state other), mtimeMs := state.nowMs } := by
        rw [hlock, Option.map_some, if_pos hheld]
      refine ⟨_, hwritten, hfile, ?_⟩
      rw [Function.update_self]
      exact ⟨_, rfl, rfl⟩
    · have hne : file.inode ≠ inode := by
        rintro rfl
        refine hsame (hinv.sole other process file.inode (hfile ▸ hother) ?_)
        rw [hphase]
        rfl
      refine ⟨file, ?_, hfile, ?_⟩
      · rw [hlock, Option.map_some, if_neg hne]
      · rwa [Function.update_of_ne hsame]
  · intro other third held hother hthird
    dsimp only [LockState.writeRecord] at hother hthird
    rw [hinode] at hother hthird
    exact hinv.sole other third held hother hthird
  · intro other held hother
    dsimp only [LockState.writeRecord] at hother ⊢
    rw [hinode] at hother
    exact hinv.fresh other held hother
  · intro written hwritten
    obtain ⟨file, hfile, rfl⟩ := Option.map_eq_some_iff.mp hwritten
    obtain ⟨hfresh, hborn, hnow⟩ := hinv.file file hfile
    split
    · exact ⟨hfresh, hnow, hnow⟩
    · exact ⟨hfresh, hborn, hnow⟩
  · intro other seen hseen
    have hbefore : seen ∈ (state.phase other).seen := by
      by_cases hsame : other = process
      · subst hsame
        dsimp only [LockState.writeRecord] at hseen
        rw [Function.update_self] at hseen
        cases hseen
      · dsimp only [LockState.writeRecord] at hseen
        rwa [Function.update_of_ne hsame] at hseen
    obtain ⟨hfresh, hborn⟩ := hinv.seen other seen hbefore
    refine ⟨hfresh, fun written hwritten hsame => ?_⟩
    obtain ⟨file, hfile, rfl⟩ := Option.map_eq_some_iff.mp hwritten
    split at hsame
    · rw [if_pos ‹_›]
      exact hborn file hfile hsame
    · rw [if_neg ‹_›]
      exact hborn file hfile hsame
  · intro other at' inspection hreclaim
    by_cases hsame : other = process
    · subst hsame
      dsimp only [LockState.writeRecord] at hreclaim
      rw [Function.update_self] at hreclaim
      cases hreclaim
    · dsimp only [LockState.writeRecord] at hreclaim
      rw [Function.update_of_ne hsame] at hreclaim
      exact hinv.stale other at' inspection hreclaim

/-! ## Time and crashes -/

/-- A lock that is stale stays stale: a dead process stays dead, and a file grows older. -/
lemma isStale_of_later (state later : LockState n) (hnow : state.nowMs ≤ later.nowMs)
    (halive : ∀ process, later.alive process = true → state.alive process = true)
    {inspection : FileLockInspection} (h : isStale options state inspection = true) :
    isStale options later inspection = true := by
  unfold isStale at h ⊢
  split at h
  · rename_i record _
    have hdead : ¬ ∃ process : Fin n, pidOf process = record.pid ∧ state.alive process = true := by
      simpa [LockState.isProcessAlive] using h
    have hlater : ¬ ∃ process : Fin n, pidOf process = record.pid ∧ later.alive process = true := by
      rintro ⟨process, hpid, hlives⟩
      exact hdead ⟨process, hpid, halive process hlives⟩
    simpa [LockState.isProcessAlive] using hlater
  · have hold : options.malformedStaleAfter ≤ state.nowMs - inspection.stat.mtimeMs := by
      simpa using h
    exact decide_eq_true (by omega)

lemma LockInvariant.tick {state : LockState n} (hinv : LockInvariant options state) (ms : ℕ) :
    LockInvariant options { state with nowMs := state.nowMs + ms } where
  held := hinv.held
  sole := hinv.sole
  fresh := hinv.fresh
  file file hfile := by
    obtain ⟨hfresh, hborn, hnow⟩ := hinv.file file hfile
    exact ⟨hfresh, hborn, Nat.le_add_right_of_le hnow⟩
  seen := hinv.seen
  stale process startedAt inspection hphase :=
    isStale_of_later state { state with nowMs := state.nowMs + ms } (Nat.le_add_right _ _)
      (fun _ h => h)
      (hinv.stale process startedAt inspection hphase)

lemma LockInvariant.crash {state : LockState n} (hinv : LockInvariant options state)
    (process : Fin n) :
    LockInvariant options { state with alive := Function.update state.alive process false } := by
  have halive : ∀ other, Function.update state.alive process false other = true →
      state.alive other = true := by
    intro other hother
    by_cases hsame : other = process
    · subst hsame
      rw [Function.update_self] at hother
      cases hother
    · rwa [Function.update_of_ne hsame] at hother
  exact
    { held := fun other hother => hinv.held other (halive other hother)
      sole := hinv.sole
      fresh := hinv.fresh
      file := hinv.file
      seen := hinv.seen
      stale := fun other startedAt inspection hphase =>
        isStale_of_later state { state with alive := Function.update state.alive process false }
          le_rfl halive (hinv.stale other startedAt inspection hphase) }

/-! ## A step and a run -/

lemma LockInvariant.look {state : LockState n} (hinv : LockInvariant options state)
    (process : Fin n) (startedAt : ℕ) {phaseOf : LockFile → Phase}
    (hinode : ∀ file, (phaseOf file).inode = none)
    (hinspects : ∀ file ∈ state.lock, Inspects options state (phaseOf file)) :
    LockInvariant options (state.look process startedAt phaseOf) := by
  unfold LockState.look
  split
  · exact hinv.move (Or.inl rfl) (inspects_of_unseen state rfl)
  · rename_i file hlock
    exact hinv.move (Or.inl (hinode file)) (hinspects file hlock)

/-- What is seen now was created no later than it was written. -/
lemma LockInvariant.seen_of_lock {state : LockState n} (hinv : LockInvariant options state)
    {seen : LockFile} (hseen : seen ∈ state.lock) : seen.inode < state.nextInode ∧
      ∀ file ∈ state.lock, file.inode = seen.inode → file.birthtimeMs ≤ seen.mtimeMs := by
  obtain ⟨hfresh, hborn, -⟩ := hinv.file seen hseen
  refine ⟨hfresh, fun file hfile _ => ?_⟩
  obtain rfl := Option.some.inj (hseen.symm.trans hfile)
  exact hborn

/-- Every call keeps the invariant. -/
lemma LockInvariant.take {state next : LockState n} (hinv : LockInvariant options state)
    (htime : WritesInTime options state) {process : Fin n} (halive : state.alive process = true)
    {call : LockCall} (hremoves : RemovesInspected state (.call process call))
    (h : state.take options process call = some next) : LockInvariant options next := by
  have hstay : ∀ phase : Phase, phase.inode = none → phase.seen = [] →
      LockInvariant options (state.move process phase) := fun phase hinode hseen =>
    hinv.move (Or.inl hinode) (inspects_of_unseen state hseen)
  unfold LockState.take at h
  split at h
  · cases h
    exact hstay _ rfl rfl
  · cases h
    exact hinv.openExclusive process _
  · cases h
    exact hstay _ rfl rfl
  · cases h
    exact hstay _ rfl rfl
  · rename_i hphase
    cases h
    exact hinv.writeRecord hphase
  · rename_i hphase
    cases h
    exact hinv.move (Or.inr (by rw [hphase]; exact ⟨rfl, rfl⟩)) (inspects_of_unseen state rfl)
  · rename_i hphase
    cases h
    exact hinv.move (Or.inr (by rw [hphase]; exact ⟨rfl, rfl⟩)) (inspects_of_unseen state rfl)
  · rename_i hphase
    cases h
    refine hinv.removeOwn halive (by rw [hphase]; rfl) ?_ ?_
    · split <;> rfl
    · split <;> rfl
  · cases h
    exact hstay _ rfl rfl
  · cases h
    exact hstay _ rfl rfl
  · rename_i hphase
    cases h
    exact hinv.move (Or.inr (by rw [hphase]; exact ⟨rfl, rfl⟩)) (inspects_of_unseen state rfl)
  · rename_i hphase
    cases h
    exact hinv.removeOwn halive (by rw [hphase]; rfl) rfl rfl
  · cases h
    exact hstay _ rfl rfl
  · cases h
    refine hinv.look process _ (fun _ => rfl) fun file hfile => ⟨?_, by simp⟩
    intro seen hseen
    obtain rfl : seen = file := by simpa [Phase.seen] using hseen
    exact hinv.seen_of_lock hfile
  · rename_i stat hphase
    cases h
    refine hinv.look process _ (fun _ => rfl) fun file hfile => ⟨?_, by simp⟩
    intro seen hseen
    rcases List.mem_cons.mp hseen with rfl | hseen
    · exact hinv.seen_of_lock hfile
    · obtain rfl := List.mem_singleton.mp hseen
      exact hinv.seen process seen (by simp [hphase, Phase.seen])
  · cases h
    refine hinv.look process _ (fun _ => rfl) fun file hfile => ⟨?_, by simp⟩
    intro seen hseen
    obtain rfl : seen = file := by simpa [Phase.seen] using hseen
    exact hinv.seen_of_lock hfile
  · rename_i read hphase
    cases h
    refine hinv.look process _ (fun _ => rfl) fun file hfile => ⟨?_, by simp⟩
    intro seen hseen
    rcases List.mem_cons.mp hseen with rfl | hseen
    · exact hinv.seen process seen (by simp [hphase, Phase.seen])
    · obtain rfl := List.mem_singleton.mp hseen
      exact hinv.seen_of_lock hfile
  · cases h
    exact hstay _ rfl rfl
  · cases h
    exact hstay _ rfl rfl
  · cases h
    refine hinv.look process _ (fun _ => rfl) fun file hfile => ⟨?_, by simp⟩
    intro seen hseen
    obtain rfl : seen = file := by simpa [Phase.seen] using hseen
    exact hinv.seen_of_lock hfile
  · cases h
    exact hstay _ rfl rfl
  · cases h
    exact hstay _ rfl rfl
  · rename_i inspection hphase
    cases h
    unfold LockState.judge
    split
    · rename_i hstale
      refine hinv.move (Or.inl rfl) ⟨fun seen hseen => ?_, ?_⟩
      · exact hinv.seen process seen (by rw [hphase]; exact hseen)
      · intro startedAt other heq
        cases heq
        exact hstale
    · exact hstay _ rfl rfl
  · rename_i inspection hphase
    cases h
    have hstill : StillAsInspected state inspection := by
      simpa only [RemovesInspected, hphase] using hremoves
    exact hinv.removeStale htime hphase hstill
  · cases h
    exact hstay _ rfl rfl
  · cases h
    unfold LockState.checkTimeout
    split
    · exact hstay _ rfl rfl
    · exact hstay _ rfl rfl
  · cases h
    exact hstay _ rfl rfl
  · cases h

lemma LockInvariant.step {state next : LockState n} (hinv : LockInvariant options state)
    {event : LockEvent n} (hcondition : WritesInTime options state ∧ RemovesInspected state event)
    (h : state.step options event = some next) : LockInvariant options next := by
  cases event with
  | tick ms =>
      cases h
      exact hinv.tick ms
  | crash process =>
      cases h
      exact hinv.crash process
  | call process call =>
      obtain ⟨halive, htake⟩ := Option.ite_none_right_eq_some.mp h
      exact hinv.take hcondition.1 halive hcondition.2 htake

/-- No two live processes are in the critical section, in any state of a run in which records are
written in time and stale locks are deleted as they were inspected. -/
theorem mutualExclusion_of_run {start : LockState n} (hstart : start.Initial)
    {events : List (LockEvent n)}
    (halong : Along (LockState.step options)
      (fun state event => WritesInTime options state ∧ RemovesInspected state event) start events) :
    ∀ before after state, events = before ++ after →
      run (LockState.step options) start before = some state → MutualExclusion state := by
  intro before after state heq hrun
  subst heq
  have hinv : LockInvariant options state :=
    invariant_of_along (fun _ _ _ hinv hcondition h => hinv.step hcondition h)
      (lockInvariant_of_initial hstart) halong.of_append hrun
  exact hinv.mutualExclusion

/-! ## Two processes that reclaim one lock -/

def noLock : LockState 3 where
  filePath := "/state/session.json"
  nowMs := 1767225600000
  lock := none
  nextInode := 0
  alive _ := true
  phase _ := .idle

def defaultLockOptions : FileLockOptions := ⟨none, none⟩

/-- The first process dies with the lock, and the second inspects it, deletes it and takes it. -/
def reclaimedOnce : List (LockEvent 3) :=
  [.call 0 .start, .call 0 .openExclusive, .call 0 .writeRecord, .crash 0,
    .call 1 .start, .call 1 .openExclusive, .call 1 .read, .call 1 .stat, .call 1 .judge,
    .call 1 .remove, .call 1 .openExclusive, .call 1 .writeRecord]

theorem mutualExclusion_of_reclaimedOnce :
    ∃ state, run (LockState.step defaultLockOptions) noLock reclaimedOnce = some state ∧
      MutualExclusion state := by
  have hstart : noLock.Initial := ⟨fun _ => rfl, fun _ hfile => by cases hfile⟩
  have halong : Along (LockState.step defaultLockOptions) (fun state event =>
      WritesInTime defaultLockOptions state ∧ RemovesInspected state event) noLock
      reclaimedOnce := by
    decide
  have hdone : (run (LockState.step defaultLockOptions) noLock reclaimedOnce).isSome = true := by
    decide
  obtain ⟨state, hrun⟩ := Option.isSome_iff_exists.mp hdone
  exact ⟨state, hrun,
    mutualExclusion_of_run hstart halong reclaimedOnce [] state (List.append_nil _).symm hrun⟩

/-- The second and the third process both inspect the lock of the dead one; the second deletes it
and takes the lock, and the third deletes that one. -/
def reclaimedTwice : List (LockEvent 3) :=
  [.call 0 .start, .call 0 .openExclusive, .call 0 .writeRecord, .crash 0,
    .call 1 .start, .call 1 .openExclusive, .call 1 .read, .call 1 .stat, .call 1 .judge,
    .call 2 .start, .call 2 .openExclusive, .call 2 .read, .call 2 .stat, .call 2 .judge,
    .call 1 .remove, .call 1 .openExclusive, .call 1 .writeRecord,
    .call 2 .remove, .call 2 .openExclusive, .call 2 .writeRecord]

theorem two_holders_after_reclaim :
    Along (LockState.step defaultLockOptions)
        (fun state _ => WritesInTime defaultLockOptions state) noLock reclaimedTwice ∧
      ∃ state ∈ run (LockState.step defaultLockOptions) noLock reclaimedTwice,
        WritesInTime defaultLockOptions state ∧ state.alive 1 = true ∧ state.alive 2 = true ∧
          (state.phase 1).isCritical = true ∧ (state.phase 2).isCritical = true := by
  decide

end AgentBigBrain.Core
