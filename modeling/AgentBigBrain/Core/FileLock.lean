import AgentBigBrain.Lib.Runs
import Mathlib.Data.Fin.Basic
import Mathlib.Logic.Function.Basic

/-!
# The file lock

Processes take a lock by creating a file that must not exist, and give it up by deleting the
file. Whoever finds the file inspects it, and deletes it as stale if its record names a dead
process or if it has had no record for too long. Every file-system call is one step here, and
the steps of different processes interleave in any order.
-/
namespace AgentBigBrain.Core

/-! ## The lock file -/

structure FileLockRecord where
  pid : ℕ
  /-- The time that the text stands for. -/
  acquiredAt : ℕ
  targetPath : String
  deriving DecidableEq

/-- A lock file as it is at some moment. Two files of one path differ in their `inode`. -/
structure LockFile where
  inode : ℕ
  birthtimeMs : ℕ
  mtimeMs : ℕ
  /-- The record that the text is read as; `none` where the text is malformed. -/
  record : Option FileLockRecord
  deriving DecidableEq

structure FileLockOptions where
  timeoutMs : Option ℕ
  malformedStaleAfterMs : Option ℕ

def DEFAULT_LOCK_TIMEOUT_MS : ℕ := 15000

def DEFAULT_MALFORMED_STALE_AFTER_MS : ℕ := 60000

def FileLockOptions.timeout (options : FileLockOptions) : ℕ :=
  max 1 (options.timeoutMs.getD DEFAULT_LOCK_TIMEOUT_MS)

def FileLockOptions.malformedStaleAfter (options : FileLockOptions) : ℕ :=
  max 1 (options.malformedStaleAfterMs.getD DEFAULT_MALFORMED_STALE_AFTER_MS)

lemma one_le_malformedStaleAfter (options : FileLockOptions) : 1 ≤ options.malformedStaleAfter :=
  le_max_left _ _

/-! ## Processes -/

/-- What an inspection saw: the file that was read, `none` where reading was denied, and the
file whose times were taken. -/
structure FileLockInspection where
  read : Option LockFile
  stat : LockFile

/-- Where a process stands in `withFileLock`. -/
inductive Phase where
  /-- Outside of it: before a call, after one, or after one that threw. -/
  | idle
  | opening (startedAt : ℕ)
  /-- The file is created and its record not yet written. -/
  | writing (startedAt inode : ℕ)
  /-- The record could not be written; a write that was denied is tried again. -/
  | abandoning (startedAt inode : ℕ) (denied : Bool)
  | critical (inode : ℕ)
  | releasing (inode : ℕ)
  /-- `Promise.all` of a read and a stat, either of which may come first. -/
  | inspecting (startedAt : ℕ) (read stat : Option LockFile)
  /-- The second stat, after the read or the stat was denied. -/
  | restatting (startedAt : ℕ)
  | judging (startedAt : ℕ) (inspection : FileLockInspection)
  | reclaiming (startedAt : ℕ) (inspection : FileLockInspection)
  /-- The lock is held, or was gone when it was inspected. -/
  | contended (startedAt : ℕ)
  | sleeping (startedAt : ℕ)

/-- The file that a process created and has not given up. -/
def Phase.inode : Phase → Option ℕ
  | .writing _ inode => some inode
  | .abandoning _ inode _ => some inode
  | .critical inode => some inode
  | .releasing inode => some inode
  | _ => none

def Phase.isCritical : Phase → Bool
  | .critical _ => true
  | _ => false

/-- The process has created the file and its record is not written. -/
def Phase.isUnwritten : Phase → Bool
  | .writing _ _ => true
  | .abandoning _ _ _ => true
  | _ => false

structure LockState (n : ℕ) where
  /-- The path that is locked, without `.lock`. -/
  filePath : String
  nowMs : ℕ
  lock : Option LockFile
  nextInode : ℕ
  alive : Fin n → Bool
  phase : Fin n → Phase

def pidOf {n : ℕ} (process : Fin n) : ℕ := process.val + 1

variable {n : ℕ}

def LockState.isProcessAlive (state : LockState n) (pid : ℕ) : Bool :=
  decide (∃ process : Fin n, pidOf process = pid ∧ state.alive process = true)

def LockState.move (state : LockState n) (process : Fin n) (phase : Phase) : LockState n :=
  { state with phase := Function.update state.phase process phase }

/-! ## Steps -/

/-- The next call of a process, with how it ends. -/
inductive LockCall where
  | start
  | openExclusive
  | openDenied
  | openFails
  | writeRecord
  | writeDenied
  | writeFails
  | leaveSection
  | remove
  | removeDenied
  | removeFails
  | read
  | stat
  | accessDenied
  | inspectFails
  | judge
  | checkTimeout
  | wake
  deriving DecidableEq

inductive LockEvent (n : ℕ) where
  | tick (ms : ℕ)
  | crash (process : Fin n)
  | call (process : Fin n) (call : LockCall)

def LockState.createdFile (state : LockState n) : LockFile where
  inode := state.nextInode
  birthtimeMs := state.nowMs
  mtimeMs := state.nowMs
  record := none

/-- Create the file, unless there is one. -/
def LockState.openExclusive (state : LockState n) (process : Fin n) (startedAt : ℕ) :
    LockState n :=
  match state.lock with
  | none =>
      { state with
        lock := some state.createdFile
        nextInode := state.nextInode + 1
        phase := Function.update state.phase process (.writing startedAt state.nextInode) }
  | some _ => state.move process (.inspecting startedAt none none)

def buildFileLockRecord (state : LockState n) (process : Fin n) : FileLockRecord where
  pid := pidOf process
  acquiredAt := state.nowMs
  targetPath := state.filePath

/-- The write goes to the file that was created, whether or not the path still leads to it. -/
def LockState.writeRecord (state : LockState n) (process : Fin n) (inode : ℕ) : LockState n :=
  { state with
    lock := state.lock.map fun file =>
      if file.inode = inode then
        { file with record := some (buildFileLockRecord state process), mtimeMs := state.nowMs }
      else file
    phase := Function.update state.phase process (.critical inode) }

/-- `rm(lockPath, { force: true })` deletes whatever file there is. -/
def LockState.remove (state : LockState n) (process : Fin n) (phase : Phase) : LockState n :=
  { state with lock := none, phase := Function.update state.phase process phase }

/-- A read or a stat of the path; a missing file ends the inspection. -/
def LockState.look (state : LockState n) (process : Fin n) (startedAt : ℕ)
    (seen : LockFile → Phase) : LockState n :=
  match state.lock with
  | none => state.move process (.contended startedAt)
  | some file => state.move process (seen file)

/-- Is the inspected file stale? -/
def isStale (options : FileLockOptions) (state : LockState n) (inspection : FileLockInspection) :
    Bool :=
  match inspection.read.bind LockFile.record with
  | some record => !state.isProcessAlive record.pid
  | none => decide (options.malformedStaleAfter ≤ state.nowMs - inspection.stat.mtimeMs)

def LockState.judge (options : FileLockOptions) (state : LockState n) (process : Fin n)
    (startedAt : ℕ) (inspection : FileLockInspection) : LockState n :=
  if isStale options state inspection then state.move process (.reclaiming startedAt inspection)
  else state.move process (.contended startedAt)

def LockState.checkTimeout (options : FileLockOptions) (state : LockState n) (process : Fin n)
    (startedAt : ℕ) : LockState n :=
  if options.timeout ≤ state.nowMs - startedAt then state.move process .idle
  else state.move process (.sleeping startedAt)

/-- One call of a process; `none` where the process is not about to make it. -/
def LockState.take (options : FileLockOptions) (state : LockState n) (process : Fin n)
    (call : LockCall) : Option (LockState n) :=
  match state.phase process, call with
  | .idle, .start => some (state.move process (.opening state.nowMs))
  | .opening startedAt, .openExclusive => some (state.openExclusive process startedAt)
  | .opening startedAt, .openDenied => some (state.move process (.inspecting startedAt none none))
  | .opening _, .openFails => some (state.move process .idle)
  | .writing _ inode, .writeRecord => some (state.writeRecord process inode)
  | .writing startedAt inode, .writeDenied =>
      some (state.move process (.abandoning startedAt inode true))
  | .writing startedAt inode, .writeFails =>
      some (state.move process (.abandoning startedAt inode false))
  | .abandoning startedAt _ denied, .remove =>
      some (state.remove process (if denied then .inspecting startedAt none none else .idle))
  | .abandoning startedAt _ _, .removeDenied =>
      some (state.move process (.inspecting startedAt none none))
  | .abandoning _ _ _, .removeFails => some (state.move process .idle)
  | .critical inode, .leaveSection => some (state.move process (.releasing inode))
  | .releasing _, .remove => some (state.remove process .idle)
  | .releasing _, .removeFails => some (state.move process .idle)
  | .inspecting startedAt none none, .read =>
      some (state.look process startedAt fun file => .inspecting startedAt (some file) none)
  | .inspecting startedAt none (some stat), .read =>
      some (state.look process startedAt fun file => .judging startedAt ⟨some file, stat⟩)
  | .inspecting startedAt none none, .stat =>
      some (state.look process startedAt fun file => .inspecting startedAt none (some file))
  | .inspecting startedAt (some read) none, .stat =>
      some (state.look process startedAt fun file => .judging startedAt ⟨some read, file⟩)
  | .inspecting startedAt _ _, .accessDenied => some (state.move process (.restatting startedAt))
  | .inspecting _ _ _, .inspectFails => some (state.move process .idle)
  | .restatting startedAt, .stat =>
      some (state.look process startedAt fun file => .judging startedAt ⟨none, file⟩)
  | .restatting startedAt, .accessDenied => some (state.move process (.contended startedAt))
  | .restatting _, .inspectFails => some (state.move process .idle)
  | .judging startedAt inspection, .judge =>
      some (state.judge options process startedAt inspection)
  | .reclaiming startedAt _, .remove => some (state.remove process (.opening startedAt))
  | .reclaiming _ _, .removeFails => some (state.move process .idle)
  | .contended startedAt, .checkTimeout => some (state.checkTimeout options process startedAt)
  | .sleeping startedAt, .wake => some (state.move process (.opening startedAt))
  | _, _ => none

/-- A dead process makes no more calls. -/
def LockState.step (options : FileLockOptions) (state : LockState n) :
    LockEvent n → Option (LockState n)
  | .tick ms => some { state with nowMs := state.nowMs + ms }
  | .crash process => some { state with alive := Function.update state.alive process false }
  | .call process call => if state.alive process then state.take options process call else none

/-- Nobody has started yet; a file of an earlier run may be left. -/
structure LockState.Initial (state : LockState n) : Prop where
  idle : ∀ process, state.phase process = .idle
  left : ∀ file ∈ state.lock, file.inode < state.nextInode ∧
    file.birthtimeMs ≤ file.mtimeMs ∧ file.birthtimeMs ≤ state.nowMs

/-! ## What a lock is for -/

/-- No two live processes are in the critical section. -/
def MutualExclusion (state : LockState n) : Prop :=
  ∀ process other, state.alive process = true → state.alive other = true →
    (state.phase process).isCritical = true → (state.phase other).isCritical = true →
    process = other

/-- A live process that has created the file and not yet written its record is within the time
after which a file without a record counts as stale. -/
def WritesInTime (options : FileLockOptions) (state : LockState n) : Prop :=
  ∀ process, state.alive process = true → (state.phase process).isUnwritten = true →
    ∀ file ∈ state.lock, (state.phase process).inode = some file.inode →
      state.nowMs < file.birthtimeMs + options.malformedStaleAfter

/-- The file that is there, if any, is the one that was read and that the times were taken of,
with the text that was read. -/
def StillAsInspected (state : LockState n) (inspection : FileLockInspection) : Prop :=
  ∀ file ∈ state.lock, inspection.stat.inode = file.inode ∧
    ∃ read ∈ inspection.read, read.inode = file.inode ∧ read.record = file.record

/-- A stale lock is deleted as it was inspected. -/
def RemovesInspected (state : LockState n) : LockEvent n → Prop
  | .call process .remove =>
      match state.phase process with
      | .reclaiming _ inspection => StillAsInspected state inspection
      | _ => True
  | _ => True

instance (options : FileLockOptions) (state : LockState n) :
    Decidable (WritesInTime options state) :=
  inferInstanceAs (Decidable (∀ _, _ → _ → ∀ _ ∈ state.lock, _ → _))

instance (state : LockState n) (inspection : FileLockInspection) :
    Decidable (StillAsInspected state inspection) :=
  inferInstanceAs (Decidable (∀ file ∈ state.lock, _ ∧ ∃ read ∈ inspection.read, _))

instance (state : LockState n) (event : LockEvent n) : Decidable (RemovesInspected state event) :=
  match event with
  | .call process .remove =>
      match h : state.phase process with
      | .reclaiming _ inspection =>
          decidable_of_iff (StillAsInspected state inspection) (by simp [RemovesInspected, h])
      | .idle | .opening _ | .writing _ _ | .abandoning _ _ _ | .critical _ | .releasing _
      | .inspecting _ _ _ | .restatting _ | .judging _ _ | .contended _ | .sleeping _ =>
          .isTrue (by simp [RemovesInspected, h])
  | .call _ .start | .call _ .openExclusive | .call _ .openDenied | .call _ .openFails
  | .call _ .writeRecord | .call _ .writeDenied | .call _ .writeFails | .call _ .leaveSection
  | .call _ .removeDenied | .call _ .removeFails | .call _ .read | .call _ .stat
  | .call _ .accessDenied | .call _ .inspectFails | .call _ .judge | .call _ .checkTimeout
  | .call _ .wake | .tick _ | .crash _ => .isTrue trivial

end AgentBigBrain.Core
